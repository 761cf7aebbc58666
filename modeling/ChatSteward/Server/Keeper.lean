import ChatSteward.Server.Renewal

/-!
# The keeper of the access token

The loop of the refresh as things occur to it. It makes an attempt, and when the attempt is over it
pauses. A pause ends when its time is over or when a signal is noticed, whichever comes first: in
the one case the next attempt begins, in the other the loop ends. A signal is given when the
shutdown is sent, and also when nobody is left who could send it. It may be given at any moment, and
it is kept until the loop pauses.

The keeper does as it is told; when it is told what is up to the runtime. A course is a list of
occurrences that the runtime can bring about: a pause is over exactly when its time is over, and a
keeper for which something is to be done is not left alone. If the time of a pause is over at the
moment at which a signal is there, either may come first.

## Main definitions

* `Timed` — something at a moment
* `Signal`, `Keeper`, `Keeper.Stage` — how the loop is told to end, the loop, and where it is
* `Keeper.Occurrence`, `Keeper.Effect` — what occurs to a keeper and what it does
* `Keeper.step`, `Keeper.run`, `Keeper.record` — what it does on one occurrence, on several, and in
  all
* `Keeper.Timely`, `Keeper.IsCourse` — what the runtime can bring about
* `Keeper.courseOf` — the course on which no signal is given
-/

namespace ChatSteward.Server

open Platform (Client Failure)

/-- Something at a moment. -/
structure Timed (α : Type) where
  moment : Nat
  what : α
deriving DecidableEq, Repr

/-- How the loop is told to end. -/
inductive Signal where
  /-- The shutdown is sent. -/
  | sent
  /-- Nobody is left who could send it. -/
  | dropped
deriving DecidableEq, Repr

namespace Keeper

/-- Where the loop is. -/
inductive Stage where
  /-- An attempt is under way. -/
  | attempting
  /-- The pause after an attempt, up to a moment. -/
  | pausing (wake : Nat)
  /-- The loop has ended. -/
  | ended
deriving DecidableEq, Repr

/-- The moment up to which a keeper pauses. -/
def Stage.wake? : Stage → Option Nat
  | .pausing wake => some wake
  | _ => none

end Keeper

/-- The loop with its client. -/
structure Keeper where
  client : Client
  /-- Whether a signal was given. -/
  signalled : Bool
  stage : Keeper.Stage
deriving DecidableEq, Repr

namespace Keeper

/-- What occurs to a keeper. -/
inductive Occurrence where
  /-- The attempt that is under way is over: this became of its request, if it sent one. -/
  | delivery (delivery : Http.Delivery)
  | signal (signal : Signal)
  /-- The time of the pause is over. -/
  | alarm
  /-- The signal is noticed. -/
  | notice
deriving DecidableEq, Repr

/-- What a keeper does. -/
inductive Effect where
  /-- It makes an attempt: with the request that it sends, or the reason why it sends none. -/
  | attempt (request : Except Failure Http.Request)
  /-- An attempt ends: with the seconds for which the token is valid, or with a failure. -/
  | settle (result : Except Failure Nat)
  /-- The loop ends. -/
  | stop

/-- A keeper that makes its first attempt. A signal may have been given before. -/
def starting (client : Client) (signalled : Bool) : Keeper := ⟨client, signalled, .attempting⟩

/-- A keeper after an occurrence, and what it does. Of the signal it is only known that it was
given; it ends the loop when it is noticed. -/
def step (schedule : Schedule) (second : Nat) (keeper : Keeper) :
    Timed Occurrence → List (Timed Effect) × Keeper
  | ⟨moment, .delivery delivery⟩ =>
    match keeper.stage with
    | .attempting =>
      let renewed := keeper.client.refresh delivery
      let wake := moment + schedule.pauseIn second renewed.2
      ([⟨moment, .settle renewed.2⟩],
        { keeper with client := renewed.1, stage := .pausing wake })
    | _ => ([], keeper)
  | ⟨_, .signal _⟩ => ([], { keeper with signalled := true })
  | ⟨moment, .alarm⟩ =>
    match keeper.stage with
    | .pausing _ =>
      ([⟨moment, .attempt keeper.client.tokenRequest⟩], { keeper with stage := .attempting })
    | _ => ([], keeper)
  | ⟨moment, .notice⟩ =>
    match keeper.stage with
    | .pausing _ => ([⟨moment, .stop⟩], { keeper with stage := .ended })
    | _ => ([], keeper)

/-- A keeper after several occurrences, and what it does on each. -/
def run (schedule : Schedule) (second : Nat) (keeper : Keeper) :
    List (Timed Occurrence) → List (Timed Effect) × Keeper
  | [] => ([], keeper)
  | occurrence :: rest =>
    let (effects, keeper) := keeper.step schedule second occurrence
    let (more, keeper) := run schedule second keeper rest
    (effects ++ more, keeper)

/-- All that a keeper does that makes its first attempt at a moment, with this attempt. -/
def record (schedule : Schedule) (second : Nat) (client : Client) (signalled : Bool) (start : Nat)
    (course : List (Timed Occurrence)) : List (Timed Effect) :=
  ⟨start, .attempt client.tokenRequest⟩ ::
    ((starting client signalled).run schedule second course).1

/-- The moments at which attempts are made. -/
def attempts (effects : List (Timed Effect)) : List Nat :=
  effects.filterMap fun effect =>
    match effect.what with
    | .attempt _ => some effect.moment
    | _ => none

/-! ## What the runtime can bring about -/

/-- Whether something can occur to a keeper at a moment. -/
def Admits (keeper : Keeper) (moment : Nat) : Occurrence → Prop
  | .delivery _ => keeper.stage = .attempting
  | .signal _ => True
  | .alarm => keeper.stage = .pausing moment
  | .notice => keeper.signalled = true ∧ keeper.stage.wake?.isSome = true

instance (keeper : Keeper) (moment : Nat) : DecidablePred (keeper.Admits moment)
  | .delivery _ => inferInstanceAs (Decidable (keeper.stage = .attempting))
  | .signal _ => inferInstanceAs (Decidable True)
  | .alarm => inferInstanceAs (Decidable (keeper.stage = .pausing moment))
  | .notice => inferInstanceAs (Decidable (_ ∧ _))

/-- Whether an occurrence is the next one that the runtime can bring about, if a moment has come:
it is not earlier, it can occur, and nothing had to occur before. A keeper does not pause beyond the
time of its pause, and no time at all while a signal is there. -/
structure Timely (keeper : Keeper) (now : Nat) (occurrence : Timed Occurrence) : Prop where
  later : now ≤ occurrence.moment
  admits : keeper.Admits occurrence.moment occurrence.what
  rests : ∀ wake ∈ keeper.stage.wake?,
    occurrence.moment ≤ wake ∧ (keeper.signalled = true → occurrence.moment = now)

instance (keeper : Keeper) (now : Nat) : DecidablePred (keeper.Timely now) := fun occurrence =>
  decidable_of_iff
    (now ≤ occurrence.moment ∧ keeper.Admits occurrence.moment occurrence.what ∧
      ∀ wake ∈ keeper.stage.wake?,
        occurrence.moment ≤ wake ∧ (keeper.signalled = true → occurrence.moment = now))
    ⟨fun ⟨later, admits, rests⟩ => ⟨later, admits, rests⟩,
      fun timely => ⟨timely.later, timely.admits, timely.rests⟩⟩

/-- Whether the runtime can bring about some occurrences in turn, from a moment on. -/
def IsCourse (schedule : Schedule) (second : Nat) :
    Keeper → Nat → List (Timed Occurrence) → Prop
  | _, _, [] => True
  | keeper, now, occurrence :: rest =>
    keeper.Timely now occurrence ∧
      IsCourse schedule second (keeper.step schedule second occurrence).2 occurrence.moment rest

instance decidableIsCourse (schedule : Schedule) (second : Nat) :
    ∀ keeper now course, Decidable (IsCourse schedule second keeper now course)
  | _, _, [] => inferInstanceAs (Decidable True)
  | keeper, now, occurrence :: rest =>
    have := decidableIsCourse schedule second (keeper.step schedule second occurrence).2
      occurrence.moment rest
    inferInstanceAs (Decidable (keeper.Timely now occurrence ∧ _))

/-- The course on which no signal is given and the attempts go as they are told to. -/
def courseOf (schedule : Schedule) (second : Nat) :
    Client → Nat → List Trial → List (Timed Occurrence)
  | _, _, [] => []
  | client, start, trial :: trials =>
    let made := Renewal.make client start trial
    let wake := made.finish + schedule.pauseIn second made.result
    ⟨made.finish, .delivery trial.delivery⟩ :: ⟨wake, .alarm⟩ ::
      courseOf schedule second made.client wake trials

end Keeper

end ChatSteward.Server
