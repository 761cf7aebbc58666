import ChatSteward.Proofs.Bot.Transcript
import ChatSteward.Proofs.Command.Taking

/-!
# What commands take

Every command of guests and masters takes its arguments as its signature lists them. So the
arguments of a line reach the command that is carried out, all of them and just as they were bound,
and no command is ever given a substitute for a value that is not there.

## Main results

* `suits_of_mem_guestTable`, `suits_of_mem_masterTable` — commands take what their parameters say
* `arguments_reach_command` — what the command of a line takes
-/

namespace ChatSteward.Bot

open Command (Bound Expression Parameter Plan Prepared Signature Table Taking mismatch?)
open Platform (Consultation)

/-! ## Commands and their parameters -/

section

variable {parameter last : Parameter}

/-- A command that takes one string suits one single parameter. -/
theorem suits_single {consult : String → Consultation String} (hshape : parameter.shape = .single) :
    (Plan.single fun argument => .finished (consult argument)).Suits [parameter] :=
  .single hshape fun argument => .finished (consult argument)

/-- A command that takes several strings suits one collecting parameter. -/
theorem suits_sequence {consult : List String → Consultation String}
    (hlast : last.shape = .sequence) :
    (Plan.sequence fun arguments => .finished (consult arguments)).Suits [last] :=
  .sequence hlast fun arguments => .finished (consult arguments)

/-- A command that takes one string and then several suits two such parameters. -/
theorem suits_single_sequence {consult : String → List String → Consultation String}
    (hshape : parameter.shape = .single) (hlast : last.shape = .sequence) :
    (Plan.single fun argument =>
      .sequence fun arguments => .finished (consult argument arguments)).Suits [parameter, last] :=
  .single hshape fun _ => suits_sequence hlast

end

/-- The commands of guests take nothing, and they have no parameters. -/
theorem suits_of_mem_guestTable {caller : Caller}
    {operation : Command.Operation (Consultation String)} (hmem : operation ∈ guestTable caller) :
    operation.plan.Suits operation.signature.parameters := by
  simp only [guestTable, withHelp, guestOperations, List.mem_cons, List.not_mem_nil, or_false]
    at hmem
  rcases hmem with rfl | rfl | rfl
  all_goals exact .finished _

/-- The commands of masters take what their parameters say. -/
theorem suits_of_mem_masterTable {caller : Caller}
    {operation : Command.Operation (Consultation String)} (hmem : operation ∈ masterTable caller) :
    operation.plan.Suits operation.signature.parameters := by
  simp only [masterTable, withHelp, masterOperations, List.mem_cons, List.not_mem_nil, or_false]
    at hmem
  rcases hmem with rfl | rfl | rfl | rfl | rfl | rfl | rfl | rfl | rfl | rfl
  -- those that add to a chat or remove from it take the chat before the users
  case inl | inr.inr.inr.inr.inr.inr.inr.inl => exact suits_single_sequence rfl rfl
  case inr.inl | inr.inr.inr.inr.inr.inr.inl => exact suits_single rfl
  case inr.inr.inl | inr.inr.inr.inr.inl => exact suits_sequence rfl
  all_goals exact .finished _

theorem endsInSequence_of_mem_guestTable {caller : Caller}
    {operation : Command.Operation (Consultation String)} (hmem : operation ∈ guestTable caller) :
    operation.signature.EndsInSequence := by
  simp only [guestTable, withHelp, guestOperations, List.mem_cons, List.not_mem_nil, or_false]
    at hmem
  rcases hmem with rfl | rfl | rfl
  all_goals exact Signature.endsInSequence_fixed _ _

/-! ## Lines -/

/-- What is prepared takes the arguments of the line. -/
theorem takes_of_prepare {caller : Caller} {table : Table (Consultation String)} {line : String}
    {prepared : Prepared (Consultation String)}
    (htable : table = guestTable caller ∨ table = masterTable caller)
    (hprepare : table.prepare line = .ok prepared) :
    ∃ expression, Expression.parse line = .ok expression ∧
      prepared.operation.plan.Suits prepared.operation.signature.parameters ∧
      prepared.operation.signature.Carries expression.arguments prepared.arguments := by
  obtain ⟨expression, hparse, hmem, -, hbind⟩ := Table.exists_of_prepare hprepare
  refine ⟨expression, hparse, ?_⟩
  rcases htable with rfl | rfl
  · exact ⟨suits_of_mem_guestTable hmem,
      Command.carries_of_bind (endsInSequence_of_mem_guestTable hmem) hbind⟩
  · exact ⟨suits_of_mem_masterTable hmem,
      Command.carries_of_bind (endsInSequence_masterOperations _ _ _ hmem) hbind⟩

/-- The command that a line carries out finds every value that it takes in the shape in which it
takes it. When it starts to work nothing is left, and what it got are the arguments of the line in
their order. So it would do the same if it stopped at the first value that is not there in its
shape. -/
theorem arguments_reach_command (caller : Caller) (table : Table (Consultation String))
    (htable : table = guestTable caller ∨ table = masterTable caller) (line : String)
    (prepared : Prepared (Consultation String)) (hprepare : table.prepare line = .ok prepared) :
    (∀ taking ∈ prepared.operation.plan.takings prepared.arguments,
      mismatch? taking.shape taking.front = none) ∧
    prepared.operation.plan.left prepared.arguments = [] ∧
    (∃ expression, Expression.parse line = .ok expression ∧
      (prepared.operation.plan.takings prepared.arguments).flatMap Taking.taken =
        expression.arguments) ∧
    prepared.operation.plan.checked prepared.arguments = .ok (reply table line) := by
  obtain ⟨expression, hparse, hsuits, hcarries⟩ := takes_of_prepare htable hprepare
  obtain ⟨hmatch, hleft, htaken⟩ := hsuits.takes_arguments hcarries
  have hreply : reply table line = prepared.run := by
    rw [reply, Table.call, hprepare]
  refine ⟨hmatch, hleft, ⟨expression, hparse, htaken⟩, ?_⟩
  rw [hreply, Prepared.run]
  exact Plan.checked_eq_ok _ hmatch

/-- A command with a chat and two users, one of them empty, takes all three. -/
theorem arguments_reach_command_remove :
    ∃ prepared, (masterTable ⟨"ou_1", []⟩).prepare "REMOVE(oc_1, ou_1,)" = .ok prepared ∧
      prepared.operation.plan.takings prepared.arguments =
        [⟨.single, some (.single "oc_1"), ["oc_1"]⟩,
          ⟨.sequence, some (.sequence ["ou_1", ""]), ["ou_1", ""]⟩] ∧
      prepared.operation.plan.checked prepared.arguments =
        .ok (reply (masterTable ⟨"ou_1", []⟩) "REMOVE(oc_1, ou_1,)") := by
  have hparse : Expression.parse "REMOVE(oc_1, ou_1,)" =
      .ok ⟨"remove", ["oc_1", "ou_1", ""]⟩ := by
    decide +kernel
  have hprepare : (masterTable ⟨"ou_1", []⟩).prepare "REMOVE(oc_1, ou_1,)" =
      .ok ⟨⟨.collecting "Remove" [chatId, userIds],
          .single fun chat => .sequence fun users => .finished (remove chat users)⟩,
        [.single "oc_1", .sequence ["ou_1", ""]]⟩ := by
    rw [Table.prepare_of_ok hparse]
    rfl
  obtain ⟨-, -, -, hchecked⟩ := arguments_reach_command _ _ (.inr rfl) _ _ hprepare
  exact ⟨_, hprepare, rfl, hchecked⟩

end ChatSteward.Bot
