import ChatSteward.Proofs.Bot.Extension
import ChatSteward.Proofs.Bot.Transcript

/-!
# What commands are aimed at

A command of masters is aimed at a chat, or at the name of a chat that it creates. Arguments may be
empty, so a command looks at its target before it asks for anything, and tells how it is to be used
if the target is empty. Of several targets it looks at the first one alone: an empty id further back
is asked for like any other, and the reply has a line for it.

## Main definitions

* `target?` — what an operation is aimed at
* `MasterCommand.Lacks` — a command without a target, with the text on its use
* `MasterCommand.ForEach` — a command with several targets, one operation for each

## Main results

* `reply_of_isWritten`, `reply_of_not_isWritten` — a line is one of the commands, or it is refused
* `forEach_of_empty` — an empty target stands behind the first of several
* `empty_targets_behind_first` — the targets of a whole line
-/

namespace ChatSteward.Bot

open Command (Refusal Signature Table)
open Dialogue (Exchange Partner hold inTurn)
open Platform (Answer Consultation Operation)

/-! ## Targets -/

/-- The chat that an operation is aimed at, or the name of the chat that it creates. -/
def target? : Operation → Option String
  | .sendText chat _ | .sendPost chat _ | .addUsers chat _ | .removeUsers chat _ => some chat
  | .destroyChat chat | .chatInfo chat => some chat
  | .createChat name _ => some name
  | .listChats | .users _ => none

namespace MasterCommand

/-- Whether a command lacks its target, or the first of several, and what it says then. -/
inductive Lacks : MasterCommand → String → Prop where
  | add (users : List String) :
      Lacks (.add "" users)
        (usage "chat id is needed to add users to a chat" "add(chat-id, user-id...)")
  | create : Lacks (.create "") (usage "name is needed to create a chat" "create(name)")
  | destroy {chats : List String} (hfirst : chats.headD "" = "") :
      Lacks (.destroy chats)
        (usage "chat id is needed to destroy a chat" "destroy(chat-id...)")
  | join {chats : List String} (hfirst : chats.headD "" = "") :
      Lacks (.join chats) (usage "chat id is needed to join a chat" "join(chat-id...)")
  | members :
      Lacks (.members "")
        (usage "chat id is needed to list members of a chat" "members(chat-id)")
  | remove (users : List String) :
      Lacks (.remove "" users)
        (usage "chat id is needed to remove users from a chat" "remove(chat-id, user-id...)")

/-- Whether a command has several targets, with the operation that it asks for at each of them and
the line for each success. -/
inductive ForEach (caller : Caller) :
    MasterCommand → List String → (String → Operation) → (String → String) → Prop where
  | destroy (chats : List String) :
      ForEach caller (.destroy chats) chats .destroyChat ("successfully destroyed chat: " ++ ·)
  | join (chats : List String) :
      ForEach caller (.join chats) chats (.addUsers · [caller.sender])
        ("successfully joined chat: " ++ ·)

variable {caller : Caller} {partner : Partner Answer} {said : List (Exchange Answer)}
variable {command : MasterCommand}

/-- A command without a target asks for nothing. -/
theorem Lacks.calls_eq {hint : String} (hlacks : command.Lacks hint) :
    command.calls caller partner said = [] := by
  cases hlacks with
  | add | remove => rw [calls, if_pos (.inl rfl)]
  | create | members => rw [calls, if_pos rfl]
  | destroy hfirst | join hfirst => rw [calls, if_pos hfirst]

/-- A command without a target tells how it is to be used. -/
theorem Lacks.answer_eq {hint : String} (hlacks : command.Lacks hint) :
    command.answer caller partner said = hint := by
  cases hlacks with
  | add | remove =>
    rw [answer, if_pos (.inl rfl)]
    rfl
  | create | members =>
    rw [answer, if_pos rfl]
    rfl
  | destroy hfirst | join hfirst =>
    rw [answer, if_pos hfirst]
    rfl

section

variable {chats : List String} {operationOf : String → Operation} {success : String → String}

theorem ForEach.calls_eq (heach : command.ForEach caller chats operationOf success) :
    command.calls caller partner said =
      if chats.headD "" = "" then [] else chats.map operationOf := by
  cases heach <;> rfl

/-- If the first of several targets is there, the reply has a line for each of them. -/
theorem ForEach.answer_eq (heach : command.ForEach caller chats operationOf success)
    (hfirst : chats.headD "" ≠ "") :
    command.answer caller partner said =
      unlines (chats.zipWith (fun chat => lineFor (success chat))
        (inTurn partner said (chats.map operationOf))) := by
  cases heach <;> exact if_neg hfirst

/-- Of several targets the first one is not empty where an operation is asked for. -/
theorem ForEach.of_empty (heach : command.ForEach caller chats operationOf success)
    {operation : Operation} (hmem : operation ∈ command.calls caller partner said)
    (hempty : target? operation = some "") :
    ∃ first rest, command.ForEach caller (first :: rest) operationOf success ∧
      first ≠ "" ∧ "" ∈ rest ∧ operation = operationOf "" := by
  have haimed (chat : String) : target? (operationOf chat) = some chat := by
    cases heach <;> rfl
  rw [heach.calls_eq, List.mem_ite_nil_left] at hmem
  obtain ⟨hfirst, hmem⟩ := hmem
  obtain ⟨chat, hchat, rfl⟩ := List.mem_map.mp hmem
  obtain rfl : chat = "" := Option.some.inj ((haimed chat).symm.trans hempty)
  cases chats with
  | nil => cases hchat
  | cons first rest =>
    have hne : "" ≠ first := Ne.symm hfirst
    exact ⟨first, rest, heach, hfirst, (List.mem_cons.mp hchat).resolve_left hne, rfl⟩

end

/-- An operation with an empty target is one of several, and not the first of them. -/
theorem forEach_of_empty {operation : Operation}
    (hmem : operation ∈ command.calls caller partner said) (hempty : target? operation = some "") :
    ∃ first rest operationOf success, command.ForEach caller (first :: rest) operationOf success ∧
      first ≠ "" ∧ "" ∈ rest ∧ operation = operationOf "" := by
  cases command with
  | destroy chats =>
    obtain ⟨first, rest, heach, hrest⟩ := (ForEach.destroy chats).of_empty hmem hempty
    exact ⟨first, rest, _, _, heach, hrest⟩
  | join chats =>
    obtain ⟨first, rest, heach, hrest⟩ := (ForEach.join chats).of_empty hmem hempty
    exact ⟨first, rest, _, _, heach, hrest⟩
  -- a command with one target asks for nothing if it is empty
  | add chat users | remove chat users =>
    obtain ⟨hgiven, hmem⟩ := List.mem_ite_nil_left.mp hmem
    rw [List.mem_singleton.mp hmem] at hempty
    exact absurd (.inl (Option.some.inj hempty)) hgiven
  | create name =>
    obtain ⟨hgiven, hmem⟩ := List.mem_ite_nil_left.mp hmem
    rw [List.mem_singleton.mp hmem] at hempty
    exact absurd (Option.some.inj hempty) hgiven
  | members chat =>
    obtain ⟨hgiven, hmem⟩ := List.mem_ite_nil_left.mp hmem
    rcases List.mem_cons.mp hmem with rfl | hprofiles
    · exact absurd (Option.some.inj hempty) hgiven
    · split at hprofiles
      · rw [List.mem_singleton.mp hprofiles] at hempty
        cases hempty
      · cases hprofiles
  -- the others have no target
  | list =>
    rw [List.mem_singleton.mp hmem] at hempty
    cases hempty
  | whosYourDaddy =>
    obtain ⟨-, hmem⟩ := List.mem_ite_nil_left.mp hmem
    rw [List.mem_singleton.mp hmem] at hempty
    cases hempty
  | help | whoAmI => cases hmem

end MasterCommand

/-! ## Lines -/

/-- Masters find the operation of every command, and it takes the arguments. -/
theorem exists_find?_command (caller : Caller) (command : MasterCommand) :
    ∃ operation, (masterTable caller).find? command.name = some operation ∧
      operation.signature.Accepts command.arguments.length := by
  cases command
  all_goals
    simp +decide [Table.find?, masterTable, withHelp, masterOperations, MasterCommand.name,
      MasterCommand.arguments, Signature.fixed, Signature.collecting, Signature.Accepts, chatIds]

/-- A line that is written as a command is carried out as this command. -/
theorem reply_of_isWritten {caller : Caller} {line : String} {command : MasterCommand}
    (hwritten : command.IsWritten line) :
    reply (masterTable caller) line = command.consultation caller := by
  obtain ⟨expression, hparse, hname, harguments⟩ := hwritten
  obtain ⟨operation, hfind, haccepts⟩ := exists_find?_command caller command
  rw [Table.find?_congr _ hname] at hfind
  rw [← harguments] at haccepts
  obtain ⟨hmem, -⟩ := Table.mem_of_find? hfind
  obtain ⟨values, hbind, -⟩ :=
    Command.bind_of_accepts (endsInSequence_masterOperations _ _ _ hmem) haccepts
  have hprepare : (masterTable caller).prepare line = .ok ⟨operation, values⟩ := by
    rw [Table.prepare_of_find? hparse hfind, hbind]
    rfl
  -- the command that is prepared is the one that is written
  obtain ⟨other, hother, hrun⟩ := exists_command_of_prepare hprepare
  have hsame : other = command :=
    MasterCommand.IsWritten.unique ⟨expression, hparse, hname, harguments⟩ hother
  rw [hsame] at hrun
  rw [reply, Table.call, hprepare]
  exact hrun

/-- A line that is written as no command is refused. -/
theorem reply_of_not_isWritten (caller : Caller) {line : String}
    (hnone : ¬ ∃ command : MasterCommand, command.IsWritten line) :
    ∃ refusal : Refusal, reply (masterTable caller) line = .done refusal.message := by
  cases hprepare : (masterTable caller).prepare line with
  | ok prepared =>
    obtain ⟨command, hwritten, -⟩ := exists_command_of_prepare hprepare
    exact absurd ⟨command, hwritten⟩ hnone
  | error refusal => exact ⟨refusal, reply_of_error hprepare⟩

/-! ## The whole -/

/-- Whoever answers, the calls of a line have targets, but for empty ones behind the first of
several. A command that lacks its target asks for nothing and tells how it is to be used. If the
first of several targets is there, each of them is asked for in its turn, empty or not, and the
reply has a line for each. -/
theorem empty_targets_behind_first (caller : Caller) (line : String) (partner : Partner Answer)
    (said : List (Exchange Answer)) :
    ∃ asked text, hold partner said (reply (masterTable caller) line) = (said ++ asked, text) ∧
      (∀ exchange ∈ asked, target? exchange.query = some "" →
        ∃ command first rest operationOf success,
          MasterCommand.ForEach caller command (first :: rest) operationOf success ∧
          command.IsWritten line ∧ first ≠ "" ∧ "" ∈ rest ∧ exchange.query = operationOf "") ∧
      (∀ command hint, MasterCommand.IsWritten command line → command.Lacks hint →
        asked = [] ∧ text = hint) ∧
      ∀ command first rest operationOf success,
        MasterCommand.ForEach caller command (first :: rest) operationOf success →
        command.IsWritten line → first ≠ "" →
          asked.map (·.query) = (first :: rest).map operationOf ∧
          text = unlines ((first :: rest).zipWith
            (fun chat => MasterCommand.lineFor (success chat)) asked) := by
  by_cases hcommand : ∃ command : MasterCommand, command.IsWritten line
  · obtain ⟨command, hwritten⟩ := hcommand
    refine ⟨inTurn partner said (command.calls caller partner said),
      command.answer caller partner said, ?_, ?_, ?_, ?_⟩
    · rw [reply_of_isWritten hwritten]
      exact command.hold_consultation caller partner said
    · intro exchange hexchange hempty
      have hcall : exchange.query ∈ command.calls caller partner said := by
        rw [← Dialogue.inTurn_queries partner said (command.calls caller partner said)]
        exact List.mem_map_of_mem hexchange
      obtain ⟨first, rest, operationOf, success, heach, hfirst, hrest, hquery⟩ :=
        MasterCommand.forEach_of_empty hcall hempty
      exact ⟨command, first, rest, operationOf, success, heach, hwritten, hfirst, hrest, hquery⟩
    · intro other hint hother hlacks
      obtain rfl := hwritten.unique hother
      rw [hlacks.calls_eq, hlacks.answer_eq]
      exact ⟨rfl, rfl⟩
    · intro other first rest operationOf success heach hother hfirst
      obtain rfl := hwritten.unique hother
      have hgiven : (first :: rest).headD "" ≠ "" := hfirst
      have hcalls : other.calls caller partner said = (first :: rest).map operationOf := by
        rw [heach.calls_eq, if_neg hgiven]
      rw [Dialogue.inTurn_queries, heach.answer_eq hgiven, hcalls]
      exact ⟨rfl, rfl⟩
  · obtain ⟨refusal, hrefused⟩ := reply_of_not_isWritten caller hcommand
    refine ⟨[], refusal.message, ?_, ?_, ?_, ?_⟩
    · rw [hrefused, hold, List.append_nil]
    · intro exchange hexchange
      cases hexchange
    · intro command hint hwritten
      exact absurd ⟨command, hwritten⟩ hcommand
    · intro command first rest operationOf success heach hwritten
      exact absurd ⟨command, hwritten⟩ hcommand

/-- A line whose first id is empty asks for nothing; a line with an empty id between two others asks
for three operations. -/
theorem empty_targets_behind_first_join :
    (∃ asked text, hold tooLate [] (reply (masterTable ⟨"ou_1", []⟩) "join(, oc_1)") =
        ([] ++ asked, text) ∧ asked = [] ∧
        text = "chat id is needed to join a chat, specify like this:\njoin(chat-id...)") ∧
      ∃ asked text, hold tooLate [] (reply (masterTable ⟨"ou_1", []⟩) "join(oc_1,,oc_2)") =
        ([] ++ asked, text) ∧
        asked.map (·.query) =
          [.addUsers "oc_1" ["ou_1"], .addUsers "" ["ou_1"], .addUsers "oc_2" ["ou_1"]] := by
  have hempty : (MasterCommand.join ["", "oc_1"]).IsWritten "join(, oc_1)" :=
    ⟨⟨"join", ["", "oc_1"]⟩, by decide +kernel, by decide, rfl⟩
  have hmiddle : (MasterCommand.join ["oc_1", "", "oc_2"]).IsWritten "join(oc_1,,oc_2)" :=
    ⟨⟨"join", ["oc_1", "", "oc_2"]⟩, by decide +kernel, by decide, rfl⟩
  constructor
  · obtain ⟨asked, text, hheld, -, hlacks, -⟩ :=
      empty_targets_behind_first ⟨"ou_1", []⟩ "join(, oc_1)" tooLate []
    obtain ⟨hnothing, htext⟩ := hlacks _ _ hempty (.join rfl)
    exact ⟨asked, text, hheld, hnothing, htext.trans (by decide)⟩
  · obtain ⟨asked, text, hheld, -, -, heach⟩ :=
      empty_targets_behind_first ⟨"ou_1", []⟩ "join(oc_1,,oc_2)" tooLate []
    obtain ⟨hasked, -⟩ := heach _ _ _ _ _ (.join _) hmiddle (by decide)
    exact ⟨asked, text, hheld, hasked⟩

/-- A comma before the closing bracket is enough for an empty target: whoever answers, the chat with
the empty id is to be destroyed too. -/
theorem empty_target_before_bracket :
    (MasterCommand.destroy ["oc_1", ""]).IsWritten "destroy(oc_1,)" ∧
      ∀ partner : Partner Answer, ∃ exchange ∈
        (hold partner [] (reply (masterTable ⟨"ou_1", []⟩) "destroy(oc_1,)")).1,
        exchange.query = .destroyChat "" ∧ target? exchange.query = some "" := by
  have hwritten : (MasterCommand.destroy ["oc_1", ""]).IsWritten "destroy(oc_1,)" :=
    ⟨⟨"destroy", ["oc_1", ""]⟩, by decide +kernel, by decide, rfl⟩
  refine ⟨hwritten, fun partner => ?_⟩
  rw [reply_of_isWritten hwritten, MasterCommand.hold_consultation]
  exact ⟨_, List.mem_cons_of_mem _ List.mem_cons_self, rfl, rfl⟩

end ChatSteward.Bot
