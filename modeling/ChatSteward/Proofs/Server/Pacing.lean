import ChatSteward.Proofs.Json.Restoring
import ChatSteward.Proofs.Platform.Authorization
import ChatSteward.Proofs.Server.Renewal
import ChatSteward.Server.Keeper
import Mathlib.Data.List.Basic
import Mathlib.Data.List.Chain

/-!
# The pace of the attempts, and their end

Whatever occurs to a keeper, what it does has one form: an attempt, its end, and then either the
next attempt, exactly the pause after the end, or the end of the loop. A signal makes the attempt
that is under way the last one, and so does a signal during a pause whose time is not over. Without
a signal the loop goes on for ever, whatever becomes of its attempts. The attempts that are over
are, on every course, those of `Schedule.renew`.

What an occurrence does, and when it can occur, is said once, by `Keeper.Runs`. Everything else is
an induction on it with the stage of the keeper as the invariant.

## Main definitions

* `Keeper.Runs` — what a course does, one occurrence after the other
* `Keeper.Follows` — what may come right after an effect
* `Keeper.StopsAt`, `Keeper.Concludes` — what is left to do after a signal
* `Keeper.IsQuiet` — a course without a signal
* `Keeper.Renews` — the effects are those of the attempts of `Schedule.renew`

## Main results

* `Keeper.runs_of_isCourse` — a course does what the keeper is computed to do
* `Keeper.isChain_record` — the form of what a keeper does
* `Keeper.stopsAt_of_pausing`, `Keeper.concludes_of_attempting` — a signal ends the loop
* `Keeper.goes_on`, `Keeper.exists_more` — nothing else does
* `Keeper.renews_record` — the attempts on a course as renewals
* `exists_refresh_of_valid` — a token may be granted for any number of seconds
* `attempts_paced_until_signal` — all of this of every course
-/

namespace ChatSteward.Platform

open Json (Decoder Field Value)

/-! ## What a token may be granted for -/

/-- A reply that grants a token for some seconds. -/
def grantingReply (token : String) (expire : Nat) : Value :=
  .object [("tenant_access_token", .text token), ("expire", .ofNat expire)]

theorem restores_grantingReply {depth : Nat} (token : String) {expire : Nat}
    (hexpire : expire ≤ Json.greatestUnsigned) :
    Client.TokenReply.record.decoder.Restores (depth + 1) (grantingReply token expire)
      ⟨0, "", token, expire⟩ := by
  have hassigns : Client.TokenReply.record.Assigns depth
      [("tenant_access_token", .text token), ("expire", .ofNat expire)] _ :=
    .cons rfl ((Decoder.restores_text depth token).map _)
      (.cons rfl ((Decoder.restores_nat64 depth hexpire).map _) .nil)
  have hadmits : Client.TokenReply.record.Admits ["tenant_access_token", "expire"] :=
    ⟨by decide, rfl⟩
  have hcommutes : Client.TokenReply.record.fields.Pairwise Field.Commutes := by
    refine .cons ?_ (.cons ?_ (List.pairwise_pair.mpr (Field.commutes_of_set fun _ _ _ => rfl)))
    · rw [List.forall_mem_cons, List.forall_mem_cons, List.forall_mem_singleton]
      exact ⟨Field.commutes_of_set fun _ _ _ => rfl, Field.commutes_of_set fun _ _ _ => rfl,
        Field.commutes_of_set fun _ _ _ => rfl⟩
    · rw [List.forall_mem_cons, List.forall_mem_singleton]
      exact ⟨Field.commutes_of_set fun _ _ _ => rfl, Field.commutes_of_set fun _ _ _ => rfl⟩
  exact Json.Record.restores_of_assigns hassigns hadmits hcommutes

/-- A client that can ask for a token may be granted one for any number of seconds that fits 64
bits. -/
theorem exists_refresh_of_valid {client : Client} {request : Http.Request}
    (hrequest : client.tokenRequest = .ok request) {expire : Nat} (hexpire : expire < UInt64.size) :
    ∃ delivery, (client.refresh delivery).2 = .ok expire := by
  have hfits : expire ≤ Json.greatestUnsigned := Nat.le_sub_one_of_lt hexpire
  have hgrants : Grants
      (.answered ⟨.ok, [], Text.encodeUtf8 (grantingReply "t" expire).written, true⟩) "t" expire :=
    ⟨_, "", accepted_of_text rfl rfl rfl, (restores_grantingReply "t" hfits).decode, by decide⟩
  have haccepts := Client.acceptToken_of_grants hgrants client request
  exact ⟨_, by rw [Client.refresh, hrequest]; exact congrArg Prod.snd haccepts⟩

end ChatSteward.Platform

namespace ChatSteward.Server

open Platform (Client Failure)

/-- In any unit of time, no pause is shorter than the shorter of the two delays. -/
theorem Schedule.least_le_pauseIn (schedule : Schedule) (second : Nat)
    (result : Except Failure Nat) :
    min schedule.leastDelay schedule.retryDelay ≤ schedule.pauseIn second result := by
  cases result with
  | error failure => exact Nat.min_le_right _ _
  | ok seconds => exact (Nat.min_le_left _ _).trans (Nat.le_max_right _ _)

namespace Keeper

variable {schedule : Schedule} {second : Nat} {keeper : Keeper} {now : Nat}

/-! ## One occurrence after the other -/

/-- What a course does with a keeper from a moment on: its effects, and the keeper at the end. -/
inductive Runs (schedule : Schedule) (second : Nat) :
    Keeper → Nat → List (Timed Occurrence) → List (Timed Effect) × Keeper → Prop where
  | done (keeper : Keeper) (now : Nat) : Runs schedule second keeper now [] ([], keeper)
  | delivery {keeper : Keeper} {now moment : Nat} {rest : List (Timed Occurrence)}
      {outcome : List (Timed Effect) × Keeper} (delivery : Http.Delivery) (hlater : now ≤ moment)
      (hstage : keeper.stage = .attempting)
      (hrest : Runs schedule second
        ⟨(keeper.client.refresh delivery).1, keeper.signalled,
          .pausing (moment + schedule.pauseIn second (keeper.client.refresh delivery).2)⟩
        moment rest outcome) :
      Runs schedule second keeper now (⟨moment, .delivery delivery⟩ :: rest)
        (⟨moment, .settle (keeper.client.refresh delivery).2⟩ :: outcome.1, outcome.2)
  | signal {keeper : Keeper} {now moment : Nat} {rest : List (Timed Occurrence)}
      {outcome : List (Timed Effect) × Keeper} (signal : Signal) (hlater : now ≤ moment)
      (hrests : ∀ wake, keeper.stage = .pausing wake →
        moment ≤ wake ∧ (keeper.signalled = true → moment = now))
      (hrest : Runs schedule second { keeper with signalled := true } moment rest outcome) :
      Runs schedule second keeper now (⟨moment, .signal signal⟩ :: rest) outcome
  | alarm {keeper : Keeper} {now moment : Nat} {rest : List (Timed Occurrence)}
      {outcome : List (Timed Effect) × Keeper} (hlater : now ≤ moment)
      (hstage : keeper.stage = .pausing moment) (hrests : keeper.signalled = true → moment = now)
      (hrest : Runs schedule second ⟨keeper.client, keeper.signalled, .attempting⟩ moment rest
        outcome) :
      Runs schedule second keeper now (⟨moment, .alarm⟩ :: rest)
        (⟨moment, .attempt keeper.client.tokenRequest⟩ :: outcome.1, outcome.2)
  | notice {keeper : Keeper} {now wake : Nat} {rest : List (Timed Occurrence)}
      {outcome : List (Timed Effect) × Keeper} (hsignalled : keeper.signalled = true)
      (hstage : keeper.stage = .pausing wake) (hwithin : now ≤ wake)
      (hrest : Runs schedule second ⟨keeper.client, keeper.signalled, .ended⟩ now rest outcome) :
      Runs schedule second keeper now (⟨now, .notice⟩ :: rest)
        (⟨now, .stop⟩ :: outcome.1, outcome.2)

theorem run_cons (keeper : Keeper) (occurrence : Timed Occurrence)
    (rest : List (Timed Occurrence)) :
    keeper.run schedule second (occurrence :: rest) =
      ((keeper.step schedule second occurrence).1 ++
          ((keeper.step schedule second occurrence).2.run schedule second rest).1,
        ((keeper.step schedule second occurrence).2.run schedule second rest).2) :=
  rfl

/-- A course does what the keeper is computed to do on it. -/
theorem runs_of_isCourse {course : List (Timed Occurrence)}
    (hcourse : IsCourse schedule second keeper now course) :
    Runs schedule second keeper now course (keeper.run schedule second course) := by
  induction course generalizing keeper now with
  | nil => exact .done keeper now
  | cons occurrence rest ih =>
    obtain ⟨⟨hlater, hadmits, hrests⟩, hrest⟩ := hcourse
    obtain ⟨moment, what⟩ := occurrence
    replace hrests (wake : Nat) (hstage : keeper.stage = .pausing wake) :=
      hrests wake (congrArg Stage.wake? hstage)
    rw [run_cons]
    -- that it can occur tells the stage, and the stage tells what is done
    cases what with
    | delivery delivery =>
      have hstage : keeper.stage = .attempting := hadmits
      simp only [step, hstage] at hrest ⊢
      exact .delivery delivery hlater hstage (ih hrest)
    | signal signal => exact .signal signal hlater hrests (ih hrest)
    | alarm =>
      have hstage : keeper.stage = .pausing moment := hadmits
      simp only [step, hstage] at hrest ⊢
      exact .alarm hlater hstage (hrests moment hstage).2 (ih hrest)
    | notice =>
      obtain ⟨hsignalled, hwake⟩ := hadmits
      cases hstage : keeper.stage with
      | pausing wake =>
        obtain ⟨hwithin, hnow⟩ := hrests wake hstage
        obtain rfl := hnow hsignalled
        simp only [step, hstage] at hrest ⊢
        exact .notice hsignalled hstage hwithin (ih hrest)
      | attempting | ended =>
        rw [hstage] at hwake
        cases hwake

theorem run_append (keeper : Keeper) (first later : List (Timed Occurrence)) :
    keeper.run schedule second (first ++ later) =
      ((keeper.run schedule second first).1 ++
          ((keeper.run schedule second first).2.run schedule second later).1,
        ((keeper.run schedule second first).2.run schedule second later).2) := by
  induction first generalizing keeper with
  | nil => rfl
  | cons occurrence rest ih =>
    rw [List.cons_append, run_cons, run_cons, ih, List.append_assoc]

/-- The moment that has come when a course is over. -/
def lastMoment : Nat → List (Timed Occurrence) → Nat
  | now, [] => now
  | _, occurrence :: rest => lastMoment occurrence.moment rest

theorem isCourse_append {first later : List (Timed Occurrence)} :
    IsCourse schedule second keeper now (first ++ later) ↔
      IsCourse schedule second keeper now first ∧
        IsCourse schedule second (keeper.run schedule second first).2 (lastMoment now first)
          later := by
  induction first generalizing keeper now with
  | nil => exact (and_iff_right trivial).symm
  | cons occurrence rest ih =>
    rw [List.cons_append, IsCourse, IsCourse, ih, and_assoc]
    rfl

@[simp] theorem attempts_append (first later : List (Timed Effect)) :
    attempts (first ++ later) = attempts first ++ attempts later :=
  List.filterMap_append

/-- What became of the requests on a course. -/
def deliveries (course : List (Timed Occurrence)) : List Http.Delivery :=
  course.filterMap fun occurrence =>
    match occurrence.what with
    | .delivery delivery => some delivery
    | _ => none

section

variable {course : List (Timed Occurrence)} {outcome : List (Timed Effect) × Keeper}

/-! ## Effects in turn -/

/-- What may come right after an effect of a keeper. -/
inductive Follows (schedule : Schedule) (second : Nat) : Timed Effect → Timed Effect → Prop where
  | settle {start finish : Nat} {request : Except Failure Http.Request}
      {result : Except Failure Nat} (hlater : start ≤ finish) :
      Follows schedule second ⟨start, .attempt request⟩ ⟨finish, .settle result⟩
  | attempt {finish : Nat} {result : Except Failure Nat} {request : Except Failure Http.Request} :
      Follows schedule second ⟨finish, .settle result⟩
        ⟨finish + schedule.pauseIn second result, .attempt request⟩
  | stop {finish moment : Nat} {result : Except Failure Nat} (hlater : finish ≤ moment)
      (hwithin : moment ≤ finish + schedule.pauseIn second result) :
      Follows schedule second ⟨finish, .settle result⟩ ⟨moment, .stop⟩

/-- Whether a keeper is where its last effect has brought it, at a moment that has come. -/
inductive Stands (schedule : Schedule) (second now : Nat) : Timed Effect → Stage → Prop where
  | attempting {start : Nat} {request : Except Failure Http.Request} (hlater : start ≤ now) :
      Stands schedule second now ⟨start, .attempt request⟩ .attempting
  | pausing {finish : Nat} {result : Except Failure Nat} (hlater : finish ≤ now) :
      Stands schedule second now ⟨finish, .settle result⟩
        (.pausing (finish + schedule.pauseIn second result))
  | ended {moment : Nat} : Stands schedule second now ⟨moment, .stop⟩ .ended

theorem Stands.mono {later : Nat} {last : Timed Effect} {stage : Stage}
    (hstands : Stands schedule second now last stage) (hlater : now ≤ later) :
    Stands schedule second later last stage := by
  cases hstands with
  | attempting hbefore => exact .attempting (hbefore.trans hlater)
  | pausing hbefore => exact .pausing (hbefore.trans hlater)
  | ended => exact .ended

/-- On a course each effect follows on the one before. -/
theorem isChain_of_runs (hruns : Runs schedule second keeper now course outcome)
    {last : Timed Effect} (hstands : Stands schedule second now last keeper.stage) :
    (last :: outcome.1).IsChain (Follows schedule second) := by
  -- the stage tells which effect was the last one, and when it was
  induction hruns generalizing last with
  | done => exact .singleton _
  | delivery delivery hlater hstage _ ih =>
    rw [hstage] at hstands
    cases hstands with
    | attempting hbefore =>
      exact .cons_cons (.settle (hbefore.trans hlater)) (ih (.pausing (Nat.le_refl _)))
  | signal signal hlater _ _ ih => exact ih (hstands.mono hlater)
  | alarm _ hstage _ _ ih =>
    rw [hstage] at hstands
    cases hstands with
    | pausing => exact .cons_cons .attempt (ih (.attempting (Nat.le_refl _)))
  | notice _ hstage hwithin _ ih =>
    rw [hstage] at hstands
    cases hstands with
    | pausing hbefore => exact .cons_cons (.stop hbefore hwithin) (ih .ended)

/-- All that a keeper does has one form, from its first attempt on. -/
theorem isChain_record {client : Client} {signalled : Bool} {start : Nat}
    (hcourse : IsCourse schedule second (starting client signalled) start course) :
    (record schedule second client signalled start course).IsChain (Follows schedule second) :=
  isChain_of_runs (runs_of_isCourse hcourse) (.attempting (Nat.le_refl start))

/-- Every attempt but the first is made after the end of the one before and the pause that this
end asks for. -/
theorem exists_settle_of_attempt {client : Client} {signalled : Bool} {start moment : Nat}
    (hcourse : IsCourse schedule second (starting client signalled) start course)
    {earlier later : List (Timed Effect)} {request : Except Failure Http.Request}
    (hattempt : record schedule second client signalled start course =
      earlier ++ ⟨moment, .attempt request⟩ :: later) (hearlier : earlier ≠ []) :
    ∃ before former asked finish result,
      earlier = before ++ [⟨former, .attempt asked⟩, ⟨finish, .settle result⟩] ∧
        former ≤ finish ∧ moment = finish + schedule.pauseIn second result := by
  have hchain := isChain_record hcourse
  rw [hattempt] at hchain
  obtain hnil | ⟨upToEnd, last, rfl⟩ := earlier.eq_nil_or_concat'
  · exact absurd hnil hearlier
  rw [List.append_assoc, List.singleton_append] at hchain
  obtain ⟨hbefore, hfollows, -⟩ := List.isChain_append_cons_cons.mp hchain
  cases hfollows with
  | @attempt finish result =>
    obtain rfl | ⟨before, former, rfl⟩ := upToEnd.eq_nil_or_concat'
    · -- the first effect is an attempt and not an end
      cases hattempt
    · rw [List.append_assoc, List.singleton_append] at hbefore
      obtain ⟨-, hfollows, -⟩ := List.isChain_append_cons_cons.mp hbefore
      cases hfollows with
      | settle hlater =>
        exact ⟨before, _, _, finish, result, by rw [List.append_assoc]; rfl, hlater, rfl⟩

/-! ## After a signal -/

/-- A keeper that has ended does nothing, and no request is under way that anything could become
of. -/
theorem ended_of_runs (hruns : Runs schedule second keeper now course outcome)
    (hended : keeper.stage = .ended) :
    outcome.1 = [] ∧ outcome.2.stage = .ended ∧ deliveries course = [] := by
  induction hruns with
  | done => exact ⟨rfl, hended, rfl⟩
  | signal _ _ _ _ ih => exact ih hended
  | delivery _ _ hstage | alarm _ hstage | notice _ hstage =>
    exact nomatch hended.symm.trans hstage

/-- Whether all that is still done on a course is to end the loop at a moment, and this has been
done as soon as time has gone on. -/
structure StopsAt (moment : Nat) (course : List (Timed Occurrence))
    (outcome : List (Timed Effect) × Keeper) : Prop where
  effects : outcome.1 <+: [⟨moment, .stop⟩]
  ended : ∀ occurrence ∈ course, moment < occurrence.moment → outcome.2.stage = .ended

/-- An occurrence at the moment itself makes no difference. -/
theorem StopsAt.cons {moment : Nat} (hstops : StopsAt moment course outcome) (what : Occurrence) :
    StopsAt moment (⟨moment, what⟩ :: course) outcome where
  effects := hstops.effects
  ended occurrence hmem hlater := by
    rcases List.mem_cons.mp hmem with rfl | hmem
    · exact absurd hlater (Nat.lt_irrefl _)
    · exact hstops.ended occurrence hmem hlater

/-- A signal ends a pause at once if its time is not over. -/
theorem stopsAt_of_pausing (hruns : Runs schedule second keeper now course outcome)
    (hsignalled : keeper.signalled = true) {wake : Nat} (hstage : keeper.stage = .pausing wake)
    (hwake : now < wake) : StopsAt now course outcome := by
  induction hruns with
  | done => exact ⟨List.nil_prefix, by simp⟩
  | delivery _ _ hattempting => exact nomatch hstage.symm.trans hattempting
  | signal signal _ hrests _ ih =>
    obtain rfl := (hrests wake hstage).2 hsignalled
    exact (ih rfl hstage hwake).cons _
  | alarm _ hover hrests _ _ =>
    -- the time of the pause is over only when it has come
    obtain rfl := Stage.pausing.inj (hstage.symm.trans hover)
    obtain rfl := hrests hsignalled
    exact absurd hwake (Nat.lt_irrefl _)
  | notice _ _ _ hrest _ =>
    obtain ⟨hnone, hended, -⟩ := ended_of_runs hrest rfl
    exact ⟨congrArg (_ :: ·) hnone ▸ List.prefix_rfl, fun _ _ _ => hended⟩

/-- Whether all that is still done on a course, from a moment on, is to end the attempt that is
under way, and the loop at the same moment. -/
inductive Concludes (now : Nat) (course : List (Timed Occurrence))
    (outcome : List (Timed Effect) × Keeper) : Prop where
  /-- The attempt is not over yet. -/
  | attempting (heffects : outcome.1 = []) (hstage : outcome.2.stage = .attempting)
  | settled {finish : Nat} {result : Except Failure Nat} {ending : List (Timed Effect)}
      (hlater : now ≤ finish) (heffects : outcome.1 = ⟨finish, .settle result⟩ :: ending)
      (hstops : StopsAt finish course (ending, outcome.2))

/-- A signal that is there makes the attempt that is under way the last one. -/
theorem concludes_of_attempting (hleast : 0 < schedule.leastDelay)
    (hretry : 0 < schedule.retryDelay) (hruns : Runs schedule second keeper now course outcome)
    (hsignalled : keeper.signalled = true) (hstage : keeper.stage = .attempting) :
    Concludes now course outcome := by
  induction hruns with
  | done => exact .attempting rfl hstage
  | @delivery keeper _ _ _ _ delivery hlater _ hrest _ =>
    -- the pause is not over at once, so the signal comes first
    have hpause : 0 < schedule.pauseIn second (keeper.client.refresh delivery).2 :=
      Nat.lt_of_lt_of_le (Nat.lt_min.mpr ⟨hleast, hretry⟩) (schedule.least_le_pauseIn second _)
    have hstops := stopsAt_of_pausing hrest hsignalled rfl (Nat.lt_add_of_pos_right hpause)
    exact .settled hlater rfl (hstops.cons _)
  | signal signal hlater _ _ ih =>
    cases ih rfl hstage with
    | attempting heffects hstill => exact .attempting heffects hstill
    | settled hfinish heffects hstops =>
      refine .settled (hlater.trans hfinish) heffects ⟨hstops.effects, fun later hmem hafter => ?_⟩
      rcases List.mem_cons.mp hmem with rfl | hmem
      · exact absurd hfinish (Nat.not_le_of_lt hafter)
      · exact hstops.ended later hmem hafter
  | alarm _ hpausing | notice _ hpausing => exact nomatch hstage.symm.trans hpausing

theorem StopsAt.attempts_eq_nil {moment : Nat} (hstops : StopsAt moment course outcome) :
    attempts outcome.1 = [] :=
  List.prefix_nil.mp (hstops.effects.filterMap _)

theorem Concludes.attempts_eq_nil (hconcludes : Concludes now course outcome) :
    attempts outcome.1 = [] := by
  cases hconcludes with
  | attempting heffects => rw [heffects]; rfl
  | settled _ heffects hstops =>
    rw [heffects]
    exact hstops.attempts_eq_nil

/-! ## Without a signal -/

/-- Whether no signal is given on a course. -/
def IsQuiet (course : List (Timed Occurrence)) : Prop :=
  ∀ occurrence ∈ course, ∀ signal, occurrence.what ≠ .signal signal

@[simp] theorem isQuiet_cons {occurrence : Timed Occurrence} :
    IsQuiet (occurrence :: course) ↔
      (∀ signal, occurrence.what ≠ .signal signal) ∧ IsQuiet course :=
  List.forall_mem_cons

/-- Without a signal the loop does not end, and every second occurrence is the start of another
attempt. -/
theorem goes_on (hruns : Runs schedule second keeper now course outcome) (hquiet : IsQuiet course)
    (hsignalled : keeper.signalled = false) (hstage : keeper.stage ≠ .ended) :
    outcome.2.signalled = false ∧ outcome.2.stage ≠ .ended ∧
      (attempts outcome.1).length =
        (course.length + if keeper.stage = .attempting then 0 else 1) / 2 := by
  induction hruns with
  | done =>
    refine ⟨hsignalled, hstage, ?_⟩
    simp only [attempts, List.filterMap_nil, List.length_nil]
    split <;> rfl
  | delivery delivery _ hattempting _ ih =>
    obtain ⟨hstill, hgoes, hlength⟩ := ih (isQuiet_cons.mp hquiet).2 hsignalled (by simp)
    refine ⟨hstill, hgoes, ?_⟩
    rw [hattempting]
    exact hlength
  | signal signal => exact absurd rfl ((isQuiet_cons.mp hquiet).1 signal)
  | alarm _ hpausing _ _ ih =>
    obtain ⟨hstill, hgoes, hlength⟩ := ih (isQuiet_cons.mp hquiet).2 hsignalled (by simp)
    refine ⟨hstill, hgoes, ?_⟩
    rw [attempts, List.filterMap_cons, List.length_cons]
    change (attempts _).length + 1 = _
    rw [hlength, hpausing]
    simp only [List.length_cons, if_pos, reduceCtorEq, if_false]
    omega
  | notice hgiven => exact nomatch hsignalled.symm.trans hgiven

/-- A pause is not over before the moment that has come. -/
theorem lastMoment_le_wake (hruns : Runs schedule second keeper now course outcome)
    (hbefore : ∀ wake, keeper.stage = .pausing wake → now ≤ wake) (wake : Nat)
    (hstage : outcome.2.stage = .pausing wake) : lastMoment now course ≤ wake := by
  induction hruns with
  | done => exact hbefore wake hstage
  | delivery _ _ _ _ ih =>
    refine ih (fun wake hpausing => ?_) hstage
    obtain rfl := Stage.pausing.inj hpausing
    exact Nat.le_add_right _ _
  | signal _ _ hrests _ ih => exact ih (fun wake hpausing => (hrests wake hpausing).1) hstage
  | alarm _ _ _ _ ih => exact ih nofun hstage
  | notice _ _ _ _ ih => exact ih nofun hstage

end

@[simp] theorem deliveries_courseOf (client : Client) (start : Nat) (trials : List Trial) :
    deliveries (courseOf schedule second client start trials) = trials.map (·.delivery) := by
  induction trials generalizing client start with
  | nil => rfl
  | cons trial trials ih => exact congrArg (trial.delivery :: ·) (ih _ _)

theorem isQuiet_courseOf (client : Client) (start : Nat) (trials : List Trial) :
    IsQuiet (courseOf schedule second client start trials) := by
  induction trials generalizing client start with
  | nil => exact nofun
  | cons trial trials ih =>
    exact isQuiet_cons.mpr ⟨nofun, isQuiet_cons.mpr ⟨nofun, ih _ _⟩⟩

/-- Attempts may go in any way while no signal is given. -/
theorem isCourse_courseOf (client : Client) (start : Nat) (trials : List Trial) :
    IsCourse schedule second (starting client false) start
      (courseOf schedule second client start trials) := by
  induction trials generalizing client start with
  | nil => trivial
  | cons trial trials ih =>
    refine ⟨⟨Nat.le_add_right _ _, rfl, nofun⟩, ⟨Nat.le_add_right _ _, rfl, ?_⟩, ih _ _⟩
    intro wake hwake
    exact ⟨Nat.le_of_eq (Option.some.inj hwake), nofun⟩

/-- However far a course without a signal has come, it may go on with any attempts. -/
theorem exists_more {client : Client} {start : Nat} {course : List (Timed Occurrence)}
    (hcourse : IsCourse schedule second (starting client false) start course)
    (hquiet : IsQuiet course) (trials : List Trial) :
    ∃ more, IsCourse schedule second (starting client false) start (course ++ more) ∧
      IsQuiet more ∧ deliveries more = trials.map (·.delivery) := by
  have hruns := runs_of_isCourse hcourse
  obtain ⟨hsignalled, hended, -⟩ := goes_on hruns hquiet rfl (by simp [starting])
  have hwake := lastMoment_le_wake hruns (by simp [starting])
  simp only [isCourse_append, hcourse, true_and]
  generalize ((starting client false).run schedule second course).2 = keeper at *
  obtain ⟨client, signalled, stage⟩ := keeper
  obtain rfl : signalled = false := hsignalled
  cases stage with
  | attempting =>
    exact ⟨courseOf schedule second client (lastMoment start course) trials,
      isCourse_courseOf _ _ _, isQuiet_courseOf _ _ _, deliveries_courseOf _ _ _⟩
  | pausing wake =>
    -- the pause ends first
    refine ⟨⟨wake, .alarm⟩ :: courseOf schedule second client wake trials, ⟨?_, ?_⟩, ?_, ?_⟩
    · refine ⟨hwake wake rfl, rfl, fun moment hmoment => ?_⟩
      exact ⟨Nat.le_of_eq (Option.some.inj hmoment), nofun⟩
    · exact isCourse_courseOf _ _ _
    · exact isQuiet_cons.mpr ⟨nofun, isQuiet_courseOf _ _ _⟩
    · exact deliveries_courseOf _ _ _
  | ended => exact absurd rfl hended

/-! ## The attempts as renewals -/

/-- The effects of an attempt that is over. -/
def effectsOf (renewal : Renewal) : List (Timed Effect) :=
  [⟨renewal.start, .attempt renewal.client.tokenRequest⟩,
    ⟨renewal.finish, .settle renewal.result⟩]

/-- Whether some effects are those of a loop that no shutdown ends, up to one that ends no
attempt. -/
def Renews (schedule : Schedule) (second : Nat) (client : Client) (start : Nat)
    (course : List (Timed Occurrence)) (effects : List (Timed Effect)) : Prop :=
  ∃ trials ending, trials.map (·.delivery) = deliveries course ∧
    effects = (schedule.renew second none start client trials).flatMap effectsOf ++ ending ∧
    ending.length ≤ 1 ∧ ∀ effect ∈ ending, ∀ result, effect.what ≠ .settle result

/-- A refresh leaves the request of a token as it is. -/
@[simp] theorem tokenRequest_refresh (client : Client) (delivery : Http.Delivery) :
    (client.refresh delivery).1.tokenRequest = client.tokenRequest := by
  rw [Client.tokenRequest_of_settings (client.refresh_settings delivery),
    ← Client.tokenRequest_of_settings rfl]

theorem Renews.cons {client : Client} {start moment : Nat} {course : List (Timed Occurrence)}
    {effects : List (Timed Effect)} {delivery : Http.Delivery} (hlater : start ≤ moment)
    (hrenews : Renews schedule second (client.refresh delivery).1
      (moment + schedule.pauseIn second (client.refresh delivery).2) course effects) :
    Renews schedule second client start (⟨moment, .delivery delivery⟩ :: course)
      (⟨start, .attempt client.tokenRequest⟩ ::
        ⟨moment, .settle (client.refresh delivery).2⟩ :: effects) := by
  obtain ⟨trials, ending, htrials, rfl, hending⟩ := hrenews
  refine ⟨⟨moment - start, delivery⟩ :: trials, ending, congrArg (delivery :: ·) htrials, ?_,
    hending⟩
  have hrefresh : client.refresh delivery =
      ((client.refresh delivery).1, (client.refresh delivery).2) := rfl
  simp only [Schedule.renew_cons hrefresh, List.flatMap_cons, effectsOf, tokenRequest_refresh,
    Nat.add_sub_cancel' hlater]
  rfl

/-- The attempts that are over are those of the loop with the same client, from the attempt that is
under way or from the end of the pause on. -/
theorem renews_of_runs {course : List (Timed Occurrence)}
    {outcome : List (Timed Effect) × Keeper}
    (hruns : Runs schedule second keeper now course outcome) :
    (∀ start ≤ now, keeper.stage = .attempting →
        Renews schedule second keeper.client start course
          (⟨start, .attempt keeper.client.tokenRequest⟩ :: outcome.1)) ∧
      ∀ wake, keeper.stage = .pausing wake →
        Renews schedule second keeper.client wake course outcome.1 := by
  -- in each case the keeper is at one of the two stages, and the rest of the course at the other
  induction hruns with
  | done =>
    refine ⟨fun start _ _ => ⟨[], _, rfl, rfl, Nat.le_refl 1, ?_⟩, fun wake _ => ?_⟩
    · exact List.forall_mem_singleton.mpr nofun
    · exact ⟨[], [], rfl, rfl, Nat.zero_le 1, nofun⟩
  | delivery delivery hlater hattempting _ ih =>
    exact ⟨fun start hstart _ => .cons (hstart.trans hlater) (ih.2 _ rfl),
      fun wake hstage => nomatch hstage.symm.trans hattempting⟩
  | signal signal hlater _ _ ih =>
    exact ⟨fun start hstart => ih.1 start (hstart.trans hlater), ih.2⟩
  | alarm _ hpausing _ _ ih =>
    refine ⟨fun start _ hstage => ?_, fun wake hstage => ?_⟩
    · exact nomatch hstage.symm.trans hpausing
    · obtain rfl := Stage.pausing.inj (hstage.symm.trans hpausing)
      exact ih.1 _ (Nat.le_refl _) rfl
  | @notice _ moment _ _ _ _ hpausing _ hrest _ =>
    obtain ⟨hnone, -, hdeliveries⟩ := ended_of_runs hrest rfl
    refine ⟨fun start _ hstage => ?_, fun wake _ => ?_⟩
    · exact nomatch hstage.symm.trans hpausing
    · refine ⟨[], [⟨moment, .stop⟩], hdeliveries.symm, ?_, Nat.le_refl 1, ?_⟩
      · rw [hnone]
        rfl
      · exact List.forall_mem_singleton.mpr nofun

/-- Whatever the course, the attempts that are over are those of the loop with its client. -/
theorem renews_record {client : Client} {signalled : Bool} {start : Nat}
    {course : List (Timed Occurrence)}
    (hcourse : IsCourse schedule second (starting client signalled) start course) :
    Renews schedule second client start course
      (record schedule second client signalled start course) :=
  (renews_of_runs (runs_of_isCourse hcourse)).1 start (Nat.le_refl start) rfl

end Keeper

/-! ## Every course -/

open Keeper

/-- Whatever the schedule, the client and the course, if neither delay is zero. Between two attempts
in turn lies exactly the pause that the end of the former asks for: after a success the time for
which the token is valid, less the margin, or the least delay if that is longer. It is never shorter
than the shorter of the two delays. A signal during an attempt, or before the time of a pause is
over, makes the attempt before it the last one and ends the loop, and so does one before the first
attempt. Without a signal the loop does not end, makes another attempt with every second occurrence,
and may go on with any others. A token may be granted for any number of seconds. -/
theorem attempts_paced_until_signal {schedule : Schedule} {second : Nat} {client : Client}
    {signalled : Bool} {start : Nat} {course : List (Timed Occurrence)}
    (hleast : 0 < schedule.leastDelay) (hretry : 0 < schedule.retryDelay)
    (hcourse : IsCourse schedule second (starting client signalled) start course) :
    (∀ earlier moment request later,
      record schedule second client signalled start course =
          earlier ++ ⟨moment, .attempt request⟩ :: later → earlier ≠ [] →
        ∃ before former asked finish result,
          earlier = before ++ [⟨former, .attempt asked⟩, ⟨finish, .settle result⟩] ∧
            former ≤ finish ∧
            (∀ expire, result = .ok expire →
              moment = finish + schedule.nextRefreshIn second expire ∧
                moment = finish + max (expire * second - schedule.margin) schedule.leastDelay) ∧
            (∀ failure, result = .error failure → moment = finish + schedule.retryDelay) ∧
            finish + min schedule.leastDelay schedule.retryDelay ≤ moment) ∧
    (∀ before moment signal after, course = before ++ ⟨moment, .signal signal⟩ :: after →
      let keeper := ((starting client signalled).run schedule second before).2
      let outcome := Keeper.run schedule second { keeper with signalled := true } after
      (keeper.stage = .attempting →
        Concludes moment after outcome ∧
          attempts (record schedule second client signalled start course) =
            attempts (record schedule second client signalled start before)) ∧
      ∀ wake, keeper.stage = .pausing wake → moment < wake →
        StopsAt moment after outcome ∧
          attempts (record schedule second client signalled start course) =
            attempts (record schedule second client signalled start before)) ∧
    (signalled = true →
      Concludes start course ((starting client signalled).run schedule second course) ∧
        attempts (record schedule second client signalled start course) = [start]) ∧
    (signalled = false → IsQuiet course →
      ((starting client signalled).run schedule second course).2.stage ≠ .ended ∧
        (attempts (record schedule second client signalled start course)).length =
          course.length / 2 + 1 ∧
        ∀ trials : List Trial, ∃ more,
          IsCourse schedule second (starting client signalled) start (course ++ more) ∧
            IsQuiet more ∧ deliveries more = trials.map (·.delivery)) ∧
    (∀ request, client.tokenRequest = .ok request → ∀ expire, expire < UInt64.size →
      ∃ delivery, (client.refresh delivery).2 = .ok expire) := by
  refine ⟨?pace, ?signal, ?before, ?quiet, fun request hrequest expire hexpire =>
    Platform.exists_refresh_of_valid hrequest hexpire⟩
  case pace =>
    intro earlier moment request later hattempt hearlier
    obtain ⟨before, former, asked, finish, result, hbefore, hlater, rfl⟩ :=
      exists_settle_of_attempt hcourse hattempt hearlier
    refine ⟨before, former, asked, finish, result, hbefore, hlater, ?_, ?_, ?_⟩
    · rintro expire rfl
      exact ⟨rfl, rfl⟩
    · rintro failure rfl
      rfl
    · exact Nat.add_le_add_left (schedule.least_le_pauseIn second result) finish
  case signal =>
    rintro before moment signal after rfl keeper outcome
    obtain ⟨-, -, hafter⟩ := isCourse_append.mp hcourse
    have hruns := runs_of_isCourse hafter
    have hattempts (hnone : attempts outcome.1 = []) :
        attempts (record schedule second client signalled start
          (before ++ ⟨moment, .signal signal⟩ :: after)) =
            attempts (record schedule second client signalled start before) := by
      rw [record, record, run_append, ← List.cons_append, attempts_append]
      exact (congrArg _ hnone).trans (List.append_nil _)
    refine ⟨fun hstage => ?_, fun wake hstage hwake => ?_⟩
    · have hconcludes := concludes_of_attempting hleast hretry hruns rfl hstage
      exact ⟨hconcludes, hattempts hconcludes.attempts_eq_nil⟩
    · have hstops := stopsAt_of_pausing hruns rfl hstage hwake
      exact ⟨hstops, hattempts hstops.attempts_eq_nil⟩
  case before =>
    intro hsignalled
    have hconcludes := concludes_of_attempting hleast hretry (runs_of_isCourse hcourse) hsignalled
      rfl
    exact ⟨hconcludes, congrArg (start :: ·) hconcludes.attempts_eq_nil⟩
  case quiet =>
    rintro rfl hquiet
    obtain ⟨-, hgoes, hlength⟩ := goes_on (runs_of_isCourse hcourse) hquiet rfl (by simp [starting])
    exact ⟨hgoes, congrArg (· + 1) hlength, exists_more hcourse hquiet⟩

/-- A token that lapses at once, an attempt that runs out of time, a token for two hours, and a
fourth attempt. -/
def fourAttempts : List (Timed Occurrence) :=
  [⟨100, .delivery (grantingAnswer "t-1" 0)⟩, ⟨5100, .alarm⟩, ⟨6100, .delivery .timedOut⟩,
    ⟨11100, .alarm⟩, ⟨11600, .delivery (grantingAnswer "t-2" 7200)⟩, ⟨7151600, .alarm⟩]

/-- During the fourth attempt nobody is left to send the shutdown; it is granted a token that never
lapses. -/
def lastAttempt : List (Timed Occurrence) :=
  [⟨7151900, .delivery (grantingAnswer "t-3" (UInt64.size - 1))⟩, ⟨7151900, .notice⟩]

/-- The fourth attempt is the last one, and the loop goes on if nothing ends it. It is made a minute
before the token for two hours lapses. -/
theorem four_attempts_paced :
    let record := record (Schedule.usualIn 1000) 1000 ⟨⟨"cli_1", "secret", "http://a", []⟩, none⟩
      false 0
    attempts (record (fourAttempts ++ ⟨7151800, .signal .dropped⟩ :: lastAttempt)) =
        attempts (record fourAttempts) ∧
      attempts (record fourAttempts) = [0, 5100, 11100, 11600 + (7200 - 60) * 1000] ∧
      (attempts (record fourAttempts)).length = fourAttempts.length / 2 + 1 := by
  intro record
  have hended : IsCourse (Schedule.usualIn 1000) 1000
      (starting ⟨⟨"cli_1", "secret", "http://a", []⟩, none⟩ false) 0
      (fourAttempts ++ ⟨7151800, .signal .dropped⟩ :: lastAttempt) := by
    decide +kernel
  obtain ⟨-, hsignal, -⟩ := attempts_paced_until_signal (by decide) (by decide) hended
  obtain ⟨hattempting, -⟩ := hsignal fourAttempts 7151800 .dropped lastAttempt rfl
  obtain ⟨-, -, -, hquiet, -⟩ := attempts_paced_until_signal (by decide) (by decide)
    (isCourse_append.mp hended).1
  obtain ⟨-, hlength, -⟩ := hquiet rfl (by simp [IsQuiet, fourAttempts])
  exact ⟨(hattempting (by decide +kernel)).2, by decide +kernel, hlength⟩

end ChatSteward.Server
