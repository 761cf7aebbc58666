/-!
# Dialogues

A dialogue asks questions of a partner, one at a time, and yields a result. What it asks next
may depend on every answer so far, and every answer is one of those its question admits. A
dialogue ends whatever it is answered, but nothing is said of how many questions it asks.

A partner answers each question in the light of everything that was said before it. Holding a
dialogue with a partner gives the exchanges in their order and the result.

## Main definitions

* `Dialogue` — questions followed by a result
* `Dialogue.bind` — one dialogue after another
* `Dialogue.Exchange`, `Dialogue.Partner` — a question with its answer, and who answers
* `Dialogue.hold` — the exchanges with a partner, and the result
* `Dialogue.Asks` — every question that can come up satisfies a condition

## Main results

* `Dialogue.hold_bind` — of two dialogues in turn, the second starts where the first ends
* `Dialogue.asks_bind` — two dialogues in turn ask what each of them asks
-/

namespace ChatSteward

/-- Questions, each with the dialogue that follows on its answer, and a result at the end. -/
inductive Dialogue (Query : Type) (Answer : Query → Type) (Result : Type) : Type where
  | done (result : Result)
  | ask (query : Query) (next : Answer query → Dialogue Query Answer Result)

namespace Dialogue

variable {Query : Type} {Answer : Query → Type} {First Result : Type}

/-- One dialogue and then another that depends on its result. -/
def bind (first : Dialogue Query Answer First) (next : First → Dialogue Query Answer Result) :
    Dialogue Query Answer Result :=
  match first with
  | .done result => next result
  | .ask query rest => .ask query fun answer => (rest answer).bind next

/-- Dialogues in turn. -/
instance : Monad (Dialogue Query Answer) where
  pure := .done
  bind := bind

/-- The dialogue of one question, with its answer as the result. -/
def query (question : Query) : Dialogue Query Answer (Answer question) :=
  .ask question .done

/-! ## Partners -/

variable (Answer) in
/-- A question with its answer. -/
structure Exchange where
  query : Query
  answer : Answer query

variable (Answer) in
/-- Who answers, knowing the exchanges so far. -/
abbrev Partner := List (Exchange Answer) → (query : Query) → Answer query

/-- The exchanges with a partner after those already held, and the result. -/
def hold (partner : Partner Answer) (said : List (Exchange Answer)) :
    Dialogue Query Answer Result → List (Exchange Answer) × Result
  | .done result => (said, result)
  | .ask query next =>
    hold partner (said ++ [⟨query, partner said query⟩]) (next (partner said query))

/-! ## Conditions on questions -/

/-- Every question that can come up, whatever is answered, satisfies a condition. -/
inductive Asks (admits : Query → Prop) : Dialogue Query Answer Result → Prop where
  | done (result : Result) : Asks admits (.done result)
  | ask {query : Query} {next : Answer query → Dialogue Query Answer Result}
      (hquery : admits query) (hnext : ∀ answer, Asks admits (next answer)) :
      Asks admits (.ask query next)

/-! ## Dialogues in turn -/

theorem bind_assoc {Second : Type} (dialogue : Dialogue Query Answer First)
    (next : First → Dialogue Query Answer Second)
    (last : Second → Dialogue Query Answer Result) :
    bind (bind dialogue next) last = bind dialogue fun result => bind (next result) last := by
  induction dialogue with
  | done => rfl
  | ask query rest ih => simp only [bind, ih]

/-- Of two dialogues in turn, the second starts where the first ends. -/
theorem hold_bind (partner : Partner Answer) (said : List (Exchange Answer))
    (first : Dialogue Query Answer First) (next : First → Dialogue Query Answer Result) :
    hold partner said (bind first next) =
      hold partner (hold partner said first).1 (next (hold partner said first).2) := by
  induction first generalizing said with
  | done => rfl
  | ask query rest ih => exact ih _ _

theorem asks_bind {admits : Query → Prop} {first : Dialogue Query Answer First}
    {next : First → Dialogue Query Answer Result} (hfirst : Asks admits first)
    (hnext : ∀ result, Asks admits (next result)) : Asks admits (bind first next) := by
  induction hfirst with
  | done result => exact hnext result
  | ask hquery _ ih => exact .ask hquery ih

end Dialogue

end ChatSteward
