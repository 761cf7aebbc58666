import ChatSteward.Bot.Tables
import ChatSteward.Proofs.Command.Lookup

/-!
# What masters have beyond guests

Masters can do all that guests can. A line that guests may write is refused to both of them alike,
or it is carried out for both of them alike: the same operations are asked for, whoever answers,
and the reply is the same. The help of masters tells of more, so it is the one shared command with
another reply. What masters may write and guests may not is one of the commands that administer
chats.

## Main definitions

* `sharedNames`, `administrationNames` — the commands of all, and those of masters alone

## Main results

* `exists_kept` — what the table of guests finds, the table of masters finds too
* `reply_eq_of_find?` — a shared command other than help is the same command
* `masters_extend_guests` — lines of guests and masters compared
-/

namespace ChatSteward.Bot

open Command (Expression IsNamed Operation Refusal Table sameName)
open Dialogue (Exchange Partner hold)
open Platform (Answer Consultation)

/-! ## Texts of replies -/

theorem reply_of_error {table : Table (Consultation String)} {line : String} {refusal : Refusal}
    (hrefuses : table.prepare line = .error refusal) :
    reply table line = .done refusal.message := by
  rw [reply, Table.call, hrefuses]

/-- No other refusal reads like that of a name that is not found. -/
theorem message_ne_of_ne {refusal : Refusal} (hne : refusal ≠ .unknownFunction) :
    refusal.message ≠ "unknown function" := by
  cases refusal with
  | unknownFunction => exact absurd rfl hne
  | unknownExpression | tooFewArguments | tooManyArguments => decide

theorem help_guestOperations (caller : Caller) :
    (guestOperations caller "").help = "Help()\nWhoAmI()\nWhosYourDaddy()" := by
  rfl

/-! ## The two tables -/

/-- The names of the commands that guests and masters share. -/
def sharedNames : List String := ["Help", "WhoAmI", "WhosYourDaddy"]

/-- The names of the commands that administer chats. -/
def administrationNames : List String :=
  ["Add", "Create", "Destroy", "Join", "List", "Members", "Remove"]

theorem names_guestTable (caller : Caller) : (guestTable caller).names = sharedNames := rfl

theorem names_masterTable (caller : Caller) : (masterTable caller).names =
    ["Add", "Create", "Destroy", "Help", "Join", "List", "Members", "Remove", "WhoAmI",
      "WhosYourDaddy"] := rfl

/-- What masters find is a shared command or administers chats. -/
theorem name_cases {caller : Caller} {operation : Operation (Consultation String)}
    (hmem : operation ∈ masterTable caller) :
    operation.signature.name ∈ sharedNames ∨ operation.signature.name ∈ administrationNames := by
  have hlisted : operation.signature.name ∈ (masterTable caller).names :=
    List.mem_map_of_mem hmem
  rw [names_masterTable] at hlisted
  have hall : ∀ name ∈ ["Add", "Create", "Destroy", "Help", "Join", "List", "Members", "Remove",
      "WhoAmI", "WhosYourDaddy"], name ∈ sharedNames ∨ name ∈ administrationNames := by
    decide
  exact hall _ hlisted

theorem find?_help_guestTable (caller : Caller) : (guestTable caller).find? "Help" =
    some ⟨.fixed "Help" [], .finished (.done (guestOperations caller "").help)⟩ := by
  simp +decide [Table.find?, guestTable, withHelp, guestOperations]

/-- Masters keep every operation of guests under its name, with the same signature. Only help is
another one. -/
theorem exists_kept_of_mem {caller : Caller} {operation : Operation (Consultation String)}
    (hmem : operation ∈ guestTable caller) :
    ∃ kept, (masterTable caller).find? operation.signature.name = some kept ∧
      kept.signature = operation.signature ∧
      (operation.signature.name = "Help" ∨ kept = operation) := by
  simp only [guestTable, withHelp, guestOperations, List.mem_cons, List.not_mem_nil, or_false]
    at hmem
  rcases hmem with rfl | rfl | rfl
  all_goals
    simp +decide [Table.find?, masterTable, withHelp, masterOperations, Command.Signature.fixed,
      Command.Signature.collecting]

/-- What the table of guests finds, the table of masters finds too. -/
theorem exists_kept {caller : Caller} {name : String}
    {operation : Operation (Consultation String)}
    (hfind : (guestTable caller).find? name = some operation) :
    ∃ kept, (masterTable caller).find? name = some kept ∧
      kept.signature = operation.signature ∧ (sameName "Help" name = true ∨ kept = operation) := by
  obtain ⟨hmem, hname⟩ := Table.mem_of_find? hfind
  obtain ⟨kept, hkept, hsignature, hhelp⟩ := exists_kept_of_mem hmem
  rw [Table.find?_congr _ hname] at hkept
  refine ⟨kept, hkept, hsignature, ?_⟩
  rcases hhelp with hhelp | hsame
  · rw [hhelp] at hname
    exact .inl hname
  · exact .inr hsame

/-! ## Lines -/

/-- A shared command is refused to guests and masters alike. -/
theorem prepare_error_iff_of_find? {caller : Caller} {line : String} {expression : Expression}
    {operation : Operation (Consultation String)}
    (hparse : Expression.parse line = .ok expression)
    (hfind : (guestTable caller).find? expression.name = some operation) (refusal : Refusal) :
    (guestTable caller).prepare line = .error refusal ↔
      (masterTable caller).prepare line = .error refusal := by
  apply Table.prepare_error_congr
  intro expression' hparse'
  obtain rfl := Except.ok.inj (hparse.symm.trans hparse')
  obtain ⟨kept, hkept, hsignature, -⟩ := exists_kept hfind
  rw [hfind, hkept, Option.map_some, Option.map_some, hsignature]

/-- A shared command other than help is the same command. -/
theorem reply_eq_of_find? {caller : Caller} {line : String} {expression : Expression}
    {operation : Operation (Consultation String)}
    (hparse : Expression.parse line = .ok expression)
    (hfind : (guestTable caller).find? expression.name = some operation)
    (hhelp : ¬ IsNamed "Help" line) :
    reply (masterTable caller) line = reply (guestTable caller) line := by
  rw [reply, reply, Table.call, Table.call]
  have hprepare : (masterTable caller).prepare line = (guestTable caller).prepare line := by
    apply Table.prepare_congr
    intro expression' hparse'
    obtain rfl := Except.ok.inj (hparse.symm.trans hparse')
    obtain ⟨kept, hkept, -, hsame⟩ := exists_kept hfind
    rw [hfind, hkept, hsame.resolve_left fun hname => hhelp ⟨expression, hparse, hname⟩]
  rw [hprepare]

/-- Help tells guests of their commands, or it is refused for its arguments. -/
theorem reply_help_ne {caller : Caller} {line : String} (hhelp : IsNamed "Help" line)
    (partner : Partner Answer) (said : List (Exchange Answer)) :
    (hold partner said (reply (guestTable caller) line)).2 ≠ "unknown function" := by
  obtain ⟨expression, hparse, hname⟩ := hhelp
  have hfind : (guestTable caller).find? expression.name =
      some ⟨.fixed "Help" [], .finished (.done (guestOperations caller "").help)⟩ := by
    rw [← Table.find?_congr _ hname]
    exact find?_help_guestTable caller
  rw [reply, Table.call, Table.prepare_of_find? hparse hfind]
  cases hbind : Command.bind expression.arguments (.fixed "Help" []) with
  | error refusal =>
    have hne : refusal ≠ .unknownFunction := by
      rintro rfl
      exact Command.bind_ne_unknownFunction _ _ hbind
    exact message_ne_of_ne hne
  | ok values =>
    change (guestOperations caller "").help ≠ "unknown function"
    rw [help_guestOperations]
    decide

/-- A line that is no expression is refused to both; one whose name guests lack is an unknown
function to them; any other is a shared command. -/
theorem guest_cases (caller : Caller) (line : String) :
    (∀ table : Table (Consultation String),
        table.prepare line = .error .unknownExpression) ∨
      (∃ expression, Expression.parse line = .ok expression ∧
        (guestTable caller).find? expression.name = none) ∨
      ∃ expression operation, Expression.parse line = .ok expression ∧
        (guestTable caller).find? expression.name = some operation := by
  by_cases hparse : ∃ expression, Expression.parse line = .ok expression
  · obtain ⟨expression, hparse⟩ := hparse
    cases hfind : (guestTable caller).find? expression.name with
    | none => exact .inr (.inl ⟨expression, hparse, hfind⟩)
    | some operation => exact .inr (.inr ⟨expression, operation, hparse, hfind⟩)
  · exact .inl fun table => Table.prepare_unknownExpression_iff.mpr hparse

/-- A name that masters find and guests lack is one of the commands that administer chats. -/
theorem administers_of_lacks {caller : Caller} {line : String} {expression : Expression}
    {operation : Operation (Consultation String)}
    (hparse : Expression.parse line = .ok expression)
    (hlacks : (guestTable caller).find? expression.name = none)
    (hfind : (masterTable caller).find? expression.name = some operation) :
    ∃ name ∈ administrationNames, IsNamed name line := by
  obtain ⟨hmem, hname⟩ := Table.mem_of_find? hfind
  rcases name_cases hmem with hshared | hadministers
  · -- guests find what they share with masters
    obtain ⟨found, hfound⟩ :=
      Table.exists_find?_of_mem_names (names_guestTable caller ▸ hshared)
    rw [Table.find?_congr _ hname, hlacks] at hfound
    cases hfound
  · exact ⟨_, hadministers, expression, hparse, hname⟩

/-! ## The whole -/

/-- Masters extend guests. A line that is no unknown function to guests and does not ask for help
has the same exchanges and the same reply for both. The same lines are no expressions for them,
and a shared command, help included, is refused to both for the same reason. A line that only
masters can write is one of the commands that administer chats. -/
theorem masters_extend_guests (caller : Caller) (line : String) :
    (∀ (partner : Partner Answer) (said : List (Exchange Answer)),
      (hold partner said (reply (guestTable caller) line)).2 ≠ "unknown function" →
      ¬ IsNamed "Help" line →
      hold partner said (reply (masterTable caller) line) =
        hold partner said (reply (guestTable caller) line)) ∧
    ((guestTable caller).prepare line = .error .unknownExpression ↔
      (masterTable caller).prepare line = .error .unknownExpression) ∧
    (∀ name ∈ sharedNames, IsNamed name line → ∀ refusal,
      (guestTable caller).prepare line = .error refusal ↔
        (masterTable caller).prepare line = .error refusal) ∧
    (∀ (partner : Partner Answer) (said : List (Exchange Answer)),
      (hold partner said (reply (guestTable caller) line)).2 = "unknown function" →
      (hold partner said (reply (masterTable caller) line)).2 ≠ "unknown function" →
      ∃ name ∈ administrationNames, IsNamed name line) := by
  refine ⟨?_, ?_, ?_, ?_⟩
  · intro partner said hknown hhelp
    rcases guest_cases caller line with hnone | ⟨expression, hparse, hfind⟩ | ⟨_, _, hparse, hfind⟩
    · rw [reply_of_error (hnone _), reply_of_error (hnone _)]
    · have hlacks := Table.prepare_of_lacks hparse (Table.find?_eq_none_iff.mp hfind)
      rw [reply_of_error hlacks] at hknown
      exact absurd rfl hknown
    · rw [reply_eq_of_find? hparse hfind hhelp]
  · rw [Table.prepare_unknownExpression_iff, Table.prepare_unknownExpression_iff]
  · rintro name hshared ⟨expression, hparse, hname⟩ refusal
    obtain ⟨operation, hfind⟩ :=
      Table.exists_find?_of_mem_names (names_guestTable caller ▸ hshared)
    rw [Table.find?_congr _ hname] at hfind
    exact prepare_error_iff_of_find? hparse hfind refusal
  · intro partner said hunknown hknown
    rcases guest_cases caller line with hnone | ⟨expression, hparse, hfind⟩ | ⟨_, _, hparse, hfind⟩
    · have hne : Refusal.unknownExpression.message ≠ "unknown function" :=
        message_ne_of_ne (by decide)
      rw [reply_of_error (hnone _)] at hunknown
      exact absurd hunknown hne
    · cases hmaster : (masterTable caller).find? expression.name with
      | none =>
        have hlacks := Table.prepare_of_lacks hparse (Table.find?_eq_none_iff.mp hmaster)
        rw [reply_of_error hlacks] at hknown
        exact absurd rfl hknown
      | some operation => exact administers_of_lacks hparse hfind hmaster
    · by_cases hhelp : IsNamed "Help" line
      · exact absurd hunknown (reply_help_ne hhelp partner said)
      · rw [reply_eq_of_find? hparse hfind hhelp] at hknown
        exact absurd hunknown hknown

/-- A platform that answers everything too late. -/
def tooLate : Partner Answer := fun _ _ => .error (.timeout "late")

/-- A shared command that fails for guests and masters alike, and a command of masters alone. -/
theorem masters_extend_guests_too_late :
    (hold tooLate [] (reply (guestTable ⟨"ou_1", ["ou_2"]⟩) "whosYOURdaddy()")).2 =
      "Operation timed out: late" ∧
    hold tooLate [] (reply (masterTable ⟨"ou_1", ["ou_2"]⟩) "whosYOURdaddy()") =
      hold tooLate [] (reply (guestTable ⟨"ou_1", ["ou_2"]⟩) "whosYOURdaddy()") ∧
    (hold tooLate [] (reply (guestTable ⟨"ou_1", ["ou_2"]⟩) "join(oc_1, oc_2)")).2 =
      "unknown function" ∧
    ∃ name ∈ administrationNames, IsNamed name "join(oc_1, oc_2)" := by
  have hshared :
      (hold tooLate [] (reply (guestTable ⟨"ou_1", ["ou_2"]⟩) "whosYOURdaddy()")).2 =
        "Operation timed out: late" := by
    decide +kernel
  have hparse : Expression.parse "whosYOURdaddy()" = .ok ⟨"whosyourdaddy", []⟩ := by
    decide +kernel
  have hhelp : ¬ IsNamed "Help" "whosYOURdaddy()" := by
    rw [Command.isNamed_iff hparse]
    decide
  have hunknown :
      (hold tooLate [] (reply (guestTable ⟨"ou_1", ["ou_2"]⟩) "join(oc_1, oc_2)")).2 =
        "unknown function" := by
    decide +kernel
  refine ⟨hshared, ?_, hunknown, ?_⟩
  · apply (masters_extend_guests ⟨"ou_1", ["ou_2"]⟩ "whosYOURdaddy()").1 tooLate [] _ hhelp
    rw [hshared]
    decide
  · apply (masters_extend_guests ⟨"ou_1", ["ou_2"]⟩ "join(oc_1, oc_2)").2.2.2 tooLate [] hunknown
    decide +kernel

end ChatSteward.Bot
