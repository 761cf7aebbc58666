import ChatSteward.Proofs.Command.Arity

/-!
# Names and refusals

Two names are the same up to the case of ASCII letters, so what a table finds does not depend on
how a name is spelled. Whether a line is refused, and why, depends on nothing but the signature
that its name finds: tables whose signatures agree on the name of a line refuse it alike, whatever
their operations do.

## Main definitions

* `IsNamed` — a line that calls an operation of a name
* `Prepared.outline` — a prepared call without what it does

## Main results

* `Table.find?_congr` — names that are the same find the same operation
* `Table.refuses_iff` — the reasons of a refusal are those that preparation gives
* `Table.outline_congr` — tables that agree on signatures bind alike
* `Table.prepare_error_congr` — tables that agree on signatures refuse alike
-/

namespace ChatSteward.Command

/-- Whether a line calls an operation of a name, in whatever case of ASCII letters. -/
def IsNamed (name line : String) : Prop :=
  ∃ expression, Expression.parse line = .ok expression ∧ sameName name expression.name = true

theorem sameName_iff {first second : String} :
    sameName first second = true ↔
      first.toList.map Char.toLower = second.toList.map Char.toLower :=
  beq_iff_eq

/-- Names that are the same are the same as the same names. -/
theorem sameName_congr {name first second : String} (hsame : sameName first second = true) :
    sameName name first = sameName name second := by
  rw [sameName, sameName, sameName_iff.mp hsame]

theorem isNamed_iff {name line : String} {expression : Expression}
    (hparse : Expression.parse line = .ok expression) :
    IsNamed name line ↔ sameName name expression.name = true := by
  constructor
  · rintro ⟨expression', hparse', hname⟩
    rwa [Except.ok.inj (hparse.symm.trans hparse')]
  · intro hname
    exact ⟨expression, hparse, hname⟩

/-- Binding does not look for names. -/
theorem bind_ne_unknownFunction (arguments : List String) (signature : Signature) :
    bind arguments signature ≠ .error .unknownFunction := by
  intro hbind
  rw [bind] at hbind
  split at hbind
  · cases hbind
  · split at hbind <;> cases hbind

/-- What a prepared call shows apart from what it does: its signature and its values. -/
def Prepared.outline {R : Type} (call : Prepared R) : Signature × List Bound :=
  (call.operation.signature, call.arguments)

namespace Table

variable {R S : Type}

/-- Names that are the same find the same operation. -/
theorem find?_congr (table : Table R) {first second : String}
    (hsame : sameName first second = true) : table.find? first = table.find? second := by
  rw [find?, find?]
  congr 1
  funext operation
  exact sameName_congr hsame

/-- What is found has the name that was looked for, and is in the table. -/
theorem mem_of_find? {table : Table R} {name : String} {operation : Operation R}
    (hfind : table.find? name = some operation) :
    operation ∈ table ∧ sameName operation.signature.name name = true := by
  rw [find?] at hfind
  have hnamed := List.find?_some hfind
  exact ⟨List.mem_of_find?_eq_some hfind, hnamed⟩

/-- A name that is listed finds an operation, though not always the one that it is listed for. -/
theorem exists_find?_of_mem_names {table : Table R} {name : String} (hlisted : name ∈ table.names) :
    ∃ operation, table.find? name = some operation := by
  obtain ⟨operation, hmem, hname⟩ := List.mem_map.mp hlisted
  apply Option.isSome_iff_exists.mp
  rw [find?, List.find?_isSome]
  exact ⟨operation, hmem, by rw [hname, sameName_iff]⟩

theorem prepare_of_find? {table : Table R} {line : String} {expression : Expression}
    {operation : Operation R} (hparse : Expression.parse line = .ok expression)
    (hfind : table.find? expression.name = some operation) :
    table.prepare line =
      (bind expression.arguments operation.signature).map fun values => ⟨operation, values⟩ := by
  obtain ⟨_, hfirst⟩ := find?_eq_some_iff.mp hfind
  exact prepare_of_isFirst hparse hfirst

/-- The reasons of a refusal are those that preparation gives. -/
theorem refuses_iff {table : Table R} {line : String} {refusal : Refusal} :
    table.Refuses line refusal ↔ table.prepare line = .error refusal := by
  refine ⟨prepare_of_refuses, ?_⟩
  intro hprepare
  rcases table.exists_isFirst_or_refuses line with
    ⟨expression, place, operation, hparse, hfirst, haccepts⟩ | ⟨refusal', hrefuses⟩
  · -- what accepts its arguments binds them, so the line would be prepared
    obtain ⟨hfew, hmany⟩ := Signature.accepts_iff.mp haccepts
    rw [prepare_of_isFirst hparse hfirst, bind_of_enough hfew hmany] at hprepare
    cases hprepare
  · rw [prepare_of_refuses hrefuses] at hprepare
    cases hprepare
    exact hrefuses

/-- A line is no expression for one table if it is none for another. -/
theorem prepare_unknownExpression_iff {table : Table R} {line : String} :
    table.prepare line = .error .unknownExpression ↔
      ¬ ∃ expression, Expression.parse line = .ok expression := by
  rw [← refuses_iff, refuses_unknownExpression_iff]

/-- Tables whose signatures agree on the name of a line refuse it alike, or bind its arguments to
the same signature with the same values. -/
theorem outline_congr {first : Table R} {second : Table S} {line : String}
    (hsame : ∀ expression, Expression.parse line = .ok expression →
      (first.find? expression.name).map (·.signature) =
        (second.find? expression.name).map (·.signature)) :
    (first.prepare line).map Prepared.outline = (second.prepare line).map Prepared.outline := by
  cases hparse : Expression.parse line with
  | error refusal =>
    rw [prepare_of_error hparse, prepare_of_error hparse]
    rfl
  | ok expression =>
    have hfound := hsame expression hparse
    cases hfirst : first.find? expression.name with
    | none =>
      rw [hfirst, Option.map_none, eq_comm, Option.map_eq_none_iff] at hfound
      rw [prepare_of_lacks hparse (find?_eq_none_iff.mp hfirst),
        prepare_of_lacks hparse (find?_eq_none_iff.mp hfound)]
      rfl
    | some operation =>
      rw [hfirst, Option.map_some, eq_comm, Option.map_eq_some_iff] at hfound
      obtain ⟨other, hsecond, hsignature⟩ := hfound
      rw [prepare_of_find? hparse hfirst, prepare_of_find? hparse hsecond, hsignature]
      -- binding knows the operations by their signature alone
      cases bind expression.arguments operation.signature with
      | error refusal => rfl
      | ok values =>
        change Except.ok (operation.signature, values) = Except.ok (other.signature, values)
        rw [hsignature]

/-- A call is refused as its outline is. -/
@[simp] theorem map_outline_eq_error_iff {table : Table R} {line : String} {refusal : Refusal} :
    (table.prepare line).map Prepared.outline = .error refusal ↔
      table.prepare line = .error refusal := by
  cases table.prepare line <;> simp [Except.map]

/-- Tables whose signatures agree on the name of a line refuse it alike. -/
theorem prepare_error_congr {first second : Table R} {line : String} (refusal : Refusal)
    (hsame : ∀ expression, Expression.parse line = .ok expression →
      (first.find? expression.name).map (·.signature) =
        (second.find? expression.name).map (·.signature)) :
    first.prepare line = .error refusal ↔ second.prepare line = .error refusal := by
  rw [← map_outline_eq_error_iff, outline_congr hsame, map_outline_eq_error_iff]

/-- Tables that find the same operation under the name of a line prepare it alike. -/
theorem prepare_congr {first second : Table R} {line : String}
    (hsame : ∀ expression, Expression.parse line = .ok expression →
      first.find? expression.name = second.find? expression.name) :
    first.prepare line = second.prepare line := by
  cases hparse : Expression.parse line with
  | error refusal => rw [prepare_of_error hparse, prepare_of_error hparse]
  | ok expression =>
    rw [prepare_of_ok hparse, prepare_of_ok hparse, resolve, resolve, hsame expression hparse]

end Table

end ChatSteward.Command
