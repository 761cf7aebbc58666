import ChatSteward.Dialogue

/-!
# Questions in turn

Questions that are known beforehand are asked one after the other, each of them answered in the
light of everything before it. A dialogue need not ask all of the questions that are foreseen;
what it asks keeps their order.

## Main definitions

* `Dialogue.inTurn` — the exchanges that come of questions asked in turn
* `Dialogue.OfKinds` — questions of some kinds in their order, at most one of each
* `Dialogue.AsksOfKinds` — a dialogue that asks such questions, whatever is answered

## Main results

* `Dialogue.inTurn_queries` — each question is asked once, in its turn
* `Dialogue.AsksOfKinds.asks` — a dialogue asks nothing but questions of its kinds
* `Dialogue.AsksOfKinds.bind` — of two dialogues in turn, the kinds follow each other
-/

namespace ChatSteward.Dialogue

variable {Query : Type} {Answer : Query → Type} {First Result : Type}

/-! ## Questions that are known -/

/-- The exchanges that come of questions asked in turn, after those already held. -/
def inTurn (partner : Partner Answer) (said : List (Exchange Answer)) :
    List Query → List (Exchange Answer)
  | [] => []
  | query :: rest =>
    ⟨query, partner said query⟩ :: inTurn partner (said ++ [⟨query, partner said query⟩]) rest

/-- Each question is asked once, in its turn. -/
@[simp] theorem inTurn_queries (partner : Partner Answer) (said : List (Exchange Answer))
    (queries : List Query) : (inTurn partner said queries).map (·.query) = queries := by
  induction queries generalizing said with
  | nil => rfl
  | cons query rest ih => rw [inTurn, List.map_cons, ih]

/-! ## Questions of some kinds -/

/-- Questions of some kinds in their order, at most one of each. -/
inductive OfKinds : List (Query → Prop) → List Query → Prop where
  | nil (kinds : List (Query → Prop)) : OfKinds kinds []
  | cons {kind : Query → Prop} {kinds : List (Query → Prop)} {query : Query}
      {queries : List Query} (hquery : kind query) (hrest : OfKinds kinds queries) :
      OfKinds (kind :: kinds) (query :: queries)
  | skip {kind : Query → Prop} {kinds : List (Query → Prop)} {queries : List Query}
      (hrest : OfKinds kinds queries) : OfKinds (kind :: kinds) queries

/-- Questions of two kinds are one of either kind, one after the other, or none. -/
theorem OfKinds.two {first second : Query → Prop} {queries : List Query}
    (hkinds : OfKinds [first, second] queries) :
    ∃ before after, queries = before ++ after ∧
      (before = [] ∨ ∃ query, before = [query] ∧ first query) ∧
      (after = [] ∨ ∃ query, after = [query] ∧ second query) := by
  have hone {queries : List Query} (hsecond : OfKinds [second] queries) :
      queries = [] ∨ ∃ query, queries = [query] ∧ second query := by
    cases hsecond with
    | nil => exact .inl rfl
    | cons hquery hrest =>
      cases hrest
      exact .inr ⟨_, rfl, hquery⟩
    | skip hrest =>
      cases hrest
      exact .inl rfl
  cases hkinds with
  | nil => exact ⟨[], [], rfl, .inl rfl, .inl rfl⟩
  | cons hquery hrest => exact ⟨_, _, rfl, .inr ⟨_, rfl, hquery⟩, hone hrest⟩
  | skip hrest => exact ⟨[], _, rfl, .inl rfl, hone hrest⟩

/-- Whatever is answered, a dialogue asks questions of some kinds in their order, at most one of
each. -/
inductive AsksOfKinds : List (Query → Prop) → Dialogue Query Answer Result → Prop where
  | done (kinds : List (Query → Prop)) (result : Result) : AsksOfKinds kinds (.done result)
  | ask {kind : Query → Prop} {kinds : List (Query → Prop)} {query : Query}
      {next : Answer query → Dialogue Query Answer Result} (hquery : kind query)
      (hnext : ∀ answer, AsksOfKinds kinds (next answer)) :
      AsksOfKinds (kind :: kinds) (.ask query next)
  | skip {kind : Query → Prop} {kinds : List (Query → Prop)}
      {dialogue : Dialogue Query Answer Result} (hrest : AsksOfKinds kinds dialogue) :
      AsksOfKinds (kind :: kinds) dialogue

/-- Kinds that are foreseen before those of a dialogue may be passed over. -/
theorem AsksOfKinds.after (before : List (Query → Prop)) {kinds : List (Query → Prop)}
    {dialogue : Dialogue Query Answer Result} (hasks : AsksOfKinds kinds dialogue) :
    AsksOfKinds (before ++ kinds) dialogue := by
  induction before with
  | nil => exact hasks
  | cons kind before ih => exact .skip ih

/-- A dialogue asks nothing but questions of its kinds. -/
theorem AsksOfKinds.asks {admits : Query → Prop} {kinds : List (Query → Prop)}
    {dialogue : Dialogue Query Answer Result} (hasks : AsksOfKinds kinds dialogue)
    (hkinds : ∀ kind ∈ kinds, ∀ query, kind query → admits query) : Asks admits dialogue := by
  induction hasks with
  | done kinds result => exact .done result
  | ask hquery _ ih =>
    exact .ask (hkinds _ List.mem_cons_self _ hquery)
      fun answer => ih answer fun kind hmem => hkinds kind (List.mem_cons_of_mem _ hmem)
  | skip _ ih => exact ih fun kind hmem => hkinds kind (List.mem_cons_of_mem _ hmem)

/-- Of two dialogues in turn, the kinds follow each other. -/
theorem AsksOfKinds.bind {kinds more : List (Query → Prop)}
    {first : Dialogue Query Answer First} {next : First → Dialogue Query Answer Result}
    (hfirst : AsksOfKinds kinds first) (hnext : ∀ result, AsksOfKinds more (next result)) :
    AsksOfKinds (kinds ++ more) (first.bind next) := by
  induction hfirst with
  | done kinds result => exact (hnext result).after kinds
  | ask hquery _ ih => exact .ask hquery ih
  | skip _ ih => exact .skip ih

end ChatSteward.Dialogue
