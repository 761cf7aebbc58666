import ChatSteward.Proofs.Server.Pacing

/-!
# Refreshes do not overlap

An agenda has one refresh under way at most: it ignores a second one that begins before the first
has ended. A keeper never asks for that. It makes an attempt only in a pause, a pause begins only
when the attempt before is over, and so the agenda whose token it keeps carries out every refresh
that the keeper asks for, whatever its jobs do in between.

A timeline holds all that befalls the two in turn. The part of the keeper is a course; what befalls
the agenda are its jobs, a refresh for each attempt, and the delivery for it. The invariant of a
timeline is that the agenda has the client of the keeper, and the request of the attempt under way.

## Main definitions

* `Happening` — what befalls a keeper or a job of its agenda
* `Happening.ofKeeper?`, `Happening.ofAgenda?` — what it is to the one and to the other
* `Mirrors` — the agenda is where the keeper is

## Main results

* `Mirrors.step`, `Mirrors.run` — an agenda stays where the keeper is
* `refresh_eq_none_of_alarm` — when an attempt begins no refresh is under way
-/

namespace ChatSteward.Server.Keeper

open Platform (Agenda Client Consultation)

variable {R : Type} {schedule : Schedule} {second : Nat} {keeper : Keeper} {agenda : Agenda R}

/-- What befalls a keeper, or a job of the agenda whose token it keeps. -/
inductive Happening (R : Type) where
  | keeping (occurrence : Timed Occurrence)
  | jobBegins (consultation : Consultation R)
  | jobGets (place : Nat) (delivery : Http.Delivery)

/-- What occurs to the keeper. -/
def Happening.ofKeeper? : Happening R → Option (Timed Occurrence)
  | .keeping occurrence => some occurrence
  | .jobBegins _ | .jobGets _ _ => none

/-- What occurs to the agenda: a refresh begins and ends with an attempt of the keeper. -/
def Happening.ofAgenda? : Happening R → Option (Agenda.Occurrence R)
  | .keeping ⟨_, .alarm⟩ => some .refresh
  | .keeping ⟨_, .delivery delivery⟩ => some (.refreshDelivery delivery)
  | .keeping ⟨_, .signal _⟩ | .keeping ⟨_, .notice⟩ => none
  | .jobBegins consultation => some (.beginJob consultation)
  | .jobGets place delivery => some (.delivery place delivery)

/-- Whether an agenda has the client of a keeper, and the request of its attempt under way, if the
request could be built. -/
structure Mirrors (keeper : Keeper) (agenda : Agenda R) : Prop where
  client : agenda.client = keeper.client
  refresh : agenda.refresh =
    if keeper.stage = .attempting then keeper.client.tokenRequest.toOption else none

/-- Between two attempts no refresh is under way. -/
theorem Mirrors.refresh_eq_none (hmirrors : Mirrors keeper agenda)
    (hstage : keeper.stage ≠ .attempting) : agenda.refresh = none := by
  rw [hmirrors.refresh, if_neg hstage]

/-- Jobs leave the refresh and the client as they are. -/
theorem Mirrors.of_job (hmirrors : Mirrors keeper agenda) {after : Agenda R}
    (hclient : after.client = agenda.client) (hrefresh : after.refresh = agenda.refresh) :
    Mirrors keeper after :=
  ⟨hclient.trans hmirrors.client, hrefresh.trans hmirrors.refresh⟩

/-- A refresh that begins in a pause sends the request of the attempt. -/
theorem Mirrors.alarm (schedule : Schedule) (second : Nat) (hmirrors : Mirrors keeper agenda)
    {moment : Nat} (hstage : keeper.stage = .pausing moment) :
    Mirrors (keeper.step schedule second ⟨moment, .alarm⟩).2 (agenda.step .refresh).2 := by
  have hnone : agenda.refresh = none :=
    hmirrors.refresh_eq_none (by rw [hstage]; exact Stage.noConfusion)
  have hrequest : agenda.client.tokenRequest = keeper.client.tokenRequest := by
    rw [hmirrors.client]
  simp only [step, hstage, Agenda.step, Agenda.beginRefresh, hnone, hrequest]
  cases hbuild : keeper.client.tokenRequest with
  | error failure => exact ⟨hmirrors.client, by simp [hnone, hbuild, Except.toOption]⟩
  | ok request => exact ⟨hmirrors.client, by simp [hbuild, Except.toOption]⟩

/-- The delivery for an attempt ends the refresh, and leaves both with the same client. -/
theorem Mirrors.delivery (schedule : Schedule) (second : Nat) (hmirrors : Mirrors keeper agenda)
    (hstage : keeper.stage = .attempting) (moment : Nat) (delivery : Http.Delivery) :
    Mirrors (keeper.step schedule second ⟨moment, .delivery delivery⟩).2
      (agenda.step (.refreshDelivery delivery)).2 := by
  have hunderWay := hmirrors.refresh
  rw [if_pos hstage] at hunderWay
  simp only [step, hstage, Agenda.step, Agenda.endRefresh, Client.refresh]
  -- without a request the attempt has failed, and the agenda has nothing under way
  cases hbuild : keeper.client.tokenRequest with
  | error failure =>
    rw [hbuild] at hunderWay
    simp only [hunderWay, Except.toOption]
    exact ⟨hmirrors.client, by simp [hunderWay, Except.toOption]⟩
  | ok request =>
    rw [hbuild] at hunderWay
    simp only [hunderWay, Except.toOption, hmirrors.client]
    exact ⟨rfl, by simp⟩

/-- An agenda stays where the keeper is, whatever befalls one of them. -/
theorem Mirrors.step (hmirrors : Mirrors keeper agenda) {happening : Happening R}
    (hadmits : ∀ occurrence ∈ happening.ofKeeper?,
      keeper.Admits occurrence.moment occurrence.what) :
    Mirrors (keeper.run schedule second happening.ofKeeper?.toList).2
      (agenda.run happening.ofAgenda?.toList).2 := by
  cases happening with
  | keeping occurrence =>
    obtain ⟨moment, what⟩ := occurrence
    have hadmitted := hadmits _ rfl
    cases what with
    | delivery delivery => exact hmirrors.delivery schedule second hadmitted moment delivery
    | signal signal => exact ⟨hmirrors.client, hmirrors.refresh⟩
    | alarm => exact hmirrors.alarm schedule second hadmitted
    | notice =>
      -- a signal is noticed only in a pause, in which nothing is under way
      obtain ⟨-, hwake⟩ := hadmitted
      cases hstage : keeper.stage with
      | pausing wake =>
        have hnone := hmirrors.refresh_eq_none (by rw [hstage]; exact Stage.noConfusion)
        simp only [Happening.ofKeeper?, Option.toList, Keeper.run, Keeper.step, hstage]
        exact ⟨hmirrors.client, hnone⟩
      | attempting | ended =>
        rw [hstage] at hwake
        cases hwake
  | jobBegins consultation => exact hmirrors.of_job rfl rfl
  | jobGets place delivery =>
    have hstays : (agenda.step (.delivery place delivery)).2.client = agenda.client ∧
        (agenda.step (.delivery place delivery)).2.refresh = agenda.refresh := by
      simp only [Agenda.step, Agenda.deliver]
      split <;> exact ⟨rfl, rfl⟩
    exact hmirrors.of_job hstays.1 hstays.2

/-- On a timeline that is a course for the keeper an agenda stays where the keeper is. -/
theorem Mirrors.run (hmirrors : Mirrors keeper agenda) {now : Nat} {timeline : List (Happening R)}
    (hcourse : IsCourse schedule second keeper now (timeline.filterMap Happening.ofKeeper?)) :
    Mirrors (keeper.run schedule second (timeline.filterMap Happening.ofKeeper?)).2
      (agenda.run (timeline.filterMap Happening.ofAgenda?)).2 := by
  induction timeline generalizing keeper agenda now with
  | nil => exact hmirrors
  | cons happening rest ih =>
    have hsplit {β : Type} (part : Happening R → Option β) :
        (happening :: rest).filterMap part = (part happening).toList ++ rest.filterMap part := by
      cases hpart : part happening <;> simp [hpart]
    rw [hsplit, isCourse_append] at hcourse
    rw [hsplit, hsplit, run_append, Agenda.run_append]
    refine ih (hmirrors.step fun occurrence hmem => ?_) hcourse.2
    rw [Option.mem_def.mp hmem] at hcourse
    exact hcourse.1.1.admits

/-- Whenever a keeper makes another attempt its agenda has no refresh under way, however its jobs
and the attempts mix: so it never ignores one. -/
theorem refresh_eq_none_of_alarm {client : Client} {signalled : Bool} {start moment : Nat}
    {earlier later : List (Happening R)}
    (hcourse : IsCourse schedule second (starting client signalled) start
      ((earlier ++ .keeping ⟨moment, .alarm⟩ :: later).filterMap Happening.ofKeeper?))
    (hclient : agenda.client = client) (hidle : agenda.refresh = none) :
    (agenda.run (.refresh :: earlier.filterMap Happening.ofAgenda?)).2.refresh = none := by
  rw [List.filterMap_append, isCourse_append] at hcourse
  obtain ⟨hbefore, ⟨-, hadmits, -⟩, -⟩ := hcourse
  -- the first attempt begins as if a pause had ended
  have hpaused : Mirrors ⟨client, signalled, .pausing start⟩ agenda := ⟨hclient, hidle⟩
  have hmirrors := (hpaused.alarm schedule second rfl).run hbefore
  have hstage : ((starting client signalled).run schedule second
      (earlier.filterMap Happening.ofKeeper?)).2.stage ≠ .attempting := by
    rw [hadmits]
    exact Stage.noConfusion
  exact hmirrors.refresh_eq_none hstage

end ChatSteward.Server.Keeper
