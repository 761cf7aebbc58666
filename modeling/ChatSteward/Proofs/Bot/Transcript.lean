import ChatSteward.Bot.Tables
import ChatSteward.Proofs.Command.Arity
import ChatSteward.Proofs.Turns

/-!
# The transcript of a command

What a command of masters asks of the platform and what it replies, as one transcript for each
command: the calls in their order, and the text. Calls are made one after the other, whatever
came of those before, except that the profiles of the members of a chat are asked for only if the
chat told its members.

## Main definitions

* `MasterCommand` — a command with its arguments
* `MasterCommand.IsWritten` — how the command is written
* `MasterCommand.calls`, `MasterCommand.answer` — what it asks, and what it replies

## Main results

* `exists_command_of_mem`, `exists_command_of_prepare` — whatever is prepared is one of the commands
* `MasterCommand.hold_consultation` — the transcript of a command
* `master_transcript` — the transcript of a line that is prepared
-/

namespace ChatSteward.Bot

open Command (Bound Expression Prepared Refusal Signature Table sameName)
open Dialogue (Exchange Partner hold inTurn)
open Platform (Answer ChatInfo Consultation Failure Operation)

/-! ## Commands -/

/-- A command of masters with its arguments. -/
inductive MasterCommand where
  | add (chat : String) (users : List String)
  | create (name : String)
  | destroy (chats : List String)
  | help
  | join (chats : List String)
  | list
  | members (chat : String)
  | remove (chat : String) (users : List String)
  | whoAmI
  | whosYourDaddy
deriving DecidableEq, Repr

namespace MasterCommand

/-- The name of a command. -/
def name : MasterCommand → String
  | .add .. => "Add"
  | .create .. => "Create"
  | .destroy .. => "Destroy"
  | .help => "Help"
  | .join .. => "Join"
  | .list => "List"
  | .members .. => "Members"
  | .remove .. => "Remove"
  | .whoAmI => "WhoAmI"
  | .whosYourDaddy => "WhosYourDaddy"

/-- The arguments as they are written. -/
def arguments : MasterCommand → List String
  | .add chat users | .remove chat users => chat :: users
  | .create name => [name]
  | .members chat => [chat]
  | .destroy chats | .join chats => chats
  | .help | .list | .whoAmI | .whosYourDaddy => []

/-- Whether a line is the command: it has the name, up to the case of ASCII letters, and exactly
the arguments. -/
def IsWritten (command : MasterCommand) (line : String) : Prop :=
  ∃ expression, Expression.parse line = .ok expression ∧
    sameName command.name expression.name = true ∧ expression.arguments = command.arguments

/-- A line is written as one command at most. -/
theorem IsWritten.unique {command other : MasterCommand} {line : String}
    (hwritten : command.IsWritten line) (hother : other.IsWritten line) : other = command := by
  obtain ⟨expression, hparse, hname, harguments⟩ := hwritten
  obtain ⟨expression', hparse', hname', harguments'⟩ := hother
  obtain rfl := Except.ok.inj (hparse.symm.trans hparse')
  have hsame : sameName other.name command.name = true := by
    rw [sameName, beq_iff_eq] at hname hname' ⊢
    rw [hname, hname']
  have hall := harguments'.symm.trans harguments
  -- commands of different kinds have different names, and the arguments tell those of one kind
  cases command <;> cases other <;>
    first
    | exact absurd hsame (by simp only [name]; decide)
    | simp_all [arguments]

/-- What a command asks of the platform, in order. -/
def calls (caller : Caller) (partner : Partner Answer) (said : List (Exchange Answer)) :
    MasterCommand → List Operation
  | .add chat users => if chat = "" ∨ users = [] then [] else [.addUsers chat users]
  | .create name => if name = "" then [] else [.createChat name caller.sender]
  | .destroy chats => if chats.headD "" = "" then [] else chats.map .destroyChat
  | .help => []
  | .join chats =>
    if chats.headD "" = "" then [] else chats.map fun chat => .addUsers chat [caller.sender]
  | .list => [.listChats]
  | .members chat =>
    if chat = "" then []
    else
      .chatInfo chat ::
        match partner said (.chatInfo chat) with
        | .ok info => [.users (info.members.map (·.openId))]
        | .error _ => []
  | .remove chat users => if chat = "" ∨ users = [] then [] else [.removeUsers chat users]
  | .whoAmI => []
  | .whosYourDaddy => if caller.masters = [] then [] else [.users caller.masters]

/-- The line for one call of several: the success if it succeeded, and else the failure. -/
def lineFor (success : String) (exchange : Exchange Answer) : String :=
  match exchange.answer with
  | .ok _ => success
  | .error failure => failure.message

/-- What a command replies. -/
def answer (caller : Caller) (partner : Partner Answer) (said : List (Exchange Answer)) :
    MasterCommand → String
  | .add chat users =>
    if chat = "" ∨ users = [] then
      "chat id is needed to add users to a chat, specify like this:\nadd(chat-id, user-id...)"
    else
      match partner said (.addUsers chat users) with
      | .ok () => "successfully added users to chat"
      | .error failure => failure.message
  | .create name =>
    if name = "" then "name is needed to create a chat, specify like this:\ncreate(name)"
    else
      match partner said (.createChat name caller.sender) with
      | .ok id => "chat with name \"" ++ name ++ "\" has been created, its id is " ++ id
      | .error failure => failure.message
  | .destroy chats =>
    if chats.headD "" = "" then
      "chat id is needed to destroy a chat, specify like this:\ndestroy(chat-id...)"
    else
      String.intercalate "\n"
        (chats.zipWith (fun chat => lineFor ("successfully destroyed chat: " ++ chat))
          (inTurn partner said (chats.map .destroyChat)))
  | .help =>
    String.intercalate "\n"
      ["Add(ChatId, UserId...)", "Create(ChatName)", "Destroy(ChatId...)", "Help()",
        "Join(ChatId...)", "List()", "Members(ChatId)", "Remove(ChatId, UserId...)", "WhoAmI()",
        "WhosYourDaddy()"]
  | .join chats =>
    if chats.headD "" = "" then
      "chat id is needed to join a chat, specify like this:\njoin(chat-id...)"
    else
      String.intercalate "\n"
        (chats.zipWith (fun chat => lineFor ("successfully joined chat: " ++ chat))
          (inTurn partner said (chats.map fun chat => .addUsers chat [caller.sender])))
  | .list =>
    match partner said .listChats with
    | .ok chats => chatsText chats
    | .error failure => failure.message
  | .members chat =>
    if chat = "" then
      "chat id is needed to list members of a chat, specify like this:\nmembers(chat-id)"
    else
      match partner said (.chatInfo chat) with
      | .error failure => failure.message
      | .ok info =>
        match partner (said ++ [⟨.chatInfo chat, .ok info⟩])
            (.users (info.members.map (·.openId))) with
        | .ok users => usersText users
        | .error failure => failure.message
  | .remove chat users =>
    if chat = "" ∨ users = [] then
      "chat id is needed to remove users from a chat, specify like this:\n" ++
        "remove(chat-id, user-id...)"
    else
      match partner said (.removeUsers chat users) with
      | .ok () => "successfully removed users from chat"
      | .error failure => failure.message
  | .whoAmI => caller.sender
  | .whosYourDaddy =>
    if caller.masters = [] then "nobody"
    else
      match partner said (.users caller.masters) with
      | .ok users => usersText users
      | .error failure => failure.message

/-! ## One command -/

/-- The consultation of a command. -/
def consultation (caller : Caller) : MasterCommand → Consultation String
  | .add chat users => Bot.add chat users
  | .create name => Bot.create caller name
  | .destroy chats => Bot.destroy chats
  | .help => .done (masterOperations caller "").help
  | .join chats => Bot.join caller chats
  | .list => Bot.list
  | .members chat => Bot.members chat
  | .remove chat users => Bot.remove chat users
  | .whoAmI => Bot.whoAmI caller
  | .whosYourDaddy => Bot.whosYourDaddy caller

end MasterCommand

theorem hold_done (partner : Partner Answer) (said : List (Exchange Answer)) (text : String) :
    hold partner said (.done text : Consultation String) =
      (said ++ inTurn partner said [], text) := by
  rw [hold, inTurn, List.append_nil]

theorem hold_consult (partner : Partner Answer) (said : List (Exchange Answer))
    (operation : Operation) (text : operation.Outcome → String) :
    hold partner said (consult operation text) =
      (said ++ inTurn partner said [operation], answerText text (partner said operation)) := rfl

theorem answerText_eq_lineFor (success : String) (operation : Operation)
    (answer : Answer operation) :
    answerText (fun _ => success) answer = MasterCommand.lineFor success ⟨operation, answer⟩ := by
  cases answer <;> rfl

/-- One call for each item, whatever came of the calls before, and the lines in the same order. -/
theorem hold_consultEach (partner : Partner Answer) (said : List (Exchange Answer))
    (operationOf : String → Operation) (success : String → String) (items : List String) :
    hold partner said
        (consultEach (fun item => consult (operationOf item) fun _ => success item) items) =
      (said ++ inTurn partner said (items.map operationOf),
        items.zipWith (fun item => MasterCommand.lineFor (success item))
          (inTurn partner said (items.map operationOf))) := by
  induction items generalizing said with
  | nil => simp [consultEach, hold, inTurn]
  | cons item rest ih =>
    rw [consultEach, Dialogue.hold_bind, hold_consult, Dialogue.hold_bind, ih,
      answerText_eq_lineFor]
    -- the first exchange is the head of those in turn, and its line the head of the lines
    simp only [hold, inTurn, List.map_cons, List.zipWith_cons_cons, List.append_assoc,
      List.cons_append, List.nil_append]

@[simp] theorem lacksFirst_iff (items : List String) :
    lacksFirst items = true ↔ items.headD "" = "" := by
  cases items with
  | nil => exact ⟨fun _ => rfl, fun _ => rfl⟩
  | cons first rest => exact String.isEmpty_iff

theorem help_masterOperations (caller : Caller) : (masterOperations caller "").help =
    String.intercalate "\n"
      ["Add(ChatId, UserId...)", "Create(ChatName)", "Destroy(ChatId...)", "Help()",
        "Join(ChatId...)", "List()", "Members(ChatId)", "Remove(ChatId, UserId...)", "WhoAmI()",
        "WhosYourDaddy()"] := by
  rfl

/-- The transcript of a command. -/
theorem MasterCommand.hold_consultation (caller : Caller) (partner : Partner Answer)
    (said : List (Exchange Answer)) (command : MasterCommand) :
    hold partner said (command.consultation caller) =
      (said ++ inTurn partner said (command.calls caller partner said),
        command.answer caller partner said) := by
  cases command with
  | add chat users =>
    by_cases hmissing : chat = "" ∨ users = []
    · simp only [consultation, Bot.add, calls, answer, String.isEmpty_iff, List.isEmpty_iff,
        if_pos hmissing, hold_done]
      rfl
    · simp only [consultation, Bot.add, calls, answer, String.isEmpty_iff, List.isEmpty_iff,
        if_neg hmissing, hold_consult]
      cases partner said (.addUsers chat users) <;> rfl
  | remove chat users =>
    by_cases hmissing : chat = "" ∨ users = []
    · simp only [consultation, Bot.remove, calls, answer, String.isEmpty_iff, List.isEmpty_iff,
        if_pos hmissing, hold_done]
      rfl
    · simp only [consultation, Bot.remove, calls, answer, String.isEmpty_iff, List.isEmpty_iff,
        if_neg hmissing, hold_consult]
      cases partner said (.removeUsers chat users) <;> rfl
  | create name =>
    by_cases hmissing : name = ""
    · simp only [consultation, Bot.create, calls, answer, String.isEmpty_iff, if_pos hmissing,
        hold_done]
      rfl
    · simp only [consultation, Bot.create, calls, answer, String.isEmpty_iff, if_neg hmissing,
        hold_consult]
      cases partner said (.createChat name caller.sender) <;> rfl
  | destroy chats =>
    by_cases hmissing : chats.headD "" = ""
    · simp only [consultation, Bot.destroy, calls, answer, lacksFirst_iff, if_pos hmissing,
        hold_done]
      rfl
    · simp only [consultation, Bot.destroy, lacksFirst_iff, calls, answer, if_neg hmissing,
        Dialogue.hold_bind, hold_consultEach]
      rfl
  | join chats =>
    by_cases hmissing : chats.headD "" = ""
    · simp only [consultation, Bot.join, calls, answer, lacksFirst_iff, if_pos hmissing, hold_done]
      rfl
    · simp only [consultation, Bot.join, lacksFirst_iff, calls, answer, if_neg hmissing,
        Dialogue.hold_bind, hold_consultEach]
      rfl
  | list =>
    simp only [consultation, Bot.list, calls, answer, hold_consult]
    cases partner said .listChats <;> rfl
  | members chat =>
    by_cases hmissing : chat = ""
    · simp only [consultation, Bot.members, calls, answer, String.isEmpty_iff, if_pos hmissing,
        hold_done]
      rfl
    · simp only [consultation, Bot.members, calls, answer, String.isEmpty_iff, if_neg hmissing,
        hold]
      -- the second call is made only after the first has told the members
      cases hinfo : partner said (.chatInfo chat) with
      | error failure => simp [hold, inTurn, hinfo]
      | ok info =>
        simp only [hold_consult, ChatInfo.memberIds, inTurn, hinfo, List.append_assoc,
          List.cons_append, List.nil_append]
        cases partner (said ++ [⟨.chatInfo chat, .ok info⟩])
          (.users (info.members.map (·.openId))) <;> rfl
  | whosYourDaddy =>
    by_cases hnobody : caller.masters = []
    · simp only [consultation, Bot.whosYourDaddy, calls, answer, List.isEmpty_iff, if_pos hnobody,
        hold_done]
    · simp only [consultation, Bot.whosYourDaddy, calls, answer, List.isEmpty_iff, if_neg hnobody,
        hold_consult]
      cases partner said (.users caller.masters) <;> rfl
  | help => simp only [consultation, calls, answer, help_masterOperations, hold_done]
  | whoAmI => simp only [consultation, Bot.whoAmI, calls, answer, hold_done]

/-! ## Lines that are prepared -/

theorem endsInSequence_masterOperations (caller : Caller) (help : String) :
    ∀ operation ∈ masterOperations caller help, operation.signature.EndsInSequence := by
  intro operation hmem
  simp only [masterOperations, List.mem_cons, List.not_mem_nil, or_false] at hmem
  rcases hmem with rfl | rfl | rfl | rfl | rfl | rfl | rfl | rfl | rfl | rfl
  case inl | inr.inr.inr.inr.inr.inr.inr.inl =>
    exact Signature.endsInSequence_collecting rfl _ [chatId]
  case inr.inr.inl | inr.inr.inr.inr.inl =>
    exact Signature.endsInSequence_collecting rfl _ []
  all_goals exact Signature.endsInSequence_fixed _ _

/-- An operation that carries arguments is the command of its name with these arguments. -/
theorem exists_command_of_mem {caller : Caller} {help : String}
    {operation : Command.Operation (Consultation String)} {arguments : List String}
    {values : List Bound} (hhelp : help = (masterOperations caller "").help)
    (hmem : operation ∈ masterOperations caller help)
    (hcarries : operation.signature.Carries arguments values) :
    ∃ command : MasterCommand, command.name = operation.signature.name ∧
      arguments = command.arguments ∧ operation.plan.run values = command.consultation caller := by
  simp only [masterOperations, List.mem_cons, List.not_mem_nil, or_false] at hmem
  -- one case for each operation: the shape of its values is that of its signature
  rcases hmem with rfl | rfl | rfl | rfl | rfl | rfl | rfl | rfl | rfl | rfl
  · obtain ⟨chat, users, harguments, rfl⟩ := Signature.carries_collecting_single rfl hcarries
    exact ⟨.add chat users, rfl, harguments, rfl⟩
  · obtain ⟨name, harguments, rfl⟩ := Signature.carries_fixed_single rfl hcarries
    exact ⟨.create name, rfl, harguments, rfl⟩
  · obtain rfl := Signature.carries_collecting_sequence hcarries
    exact ⟨.destroy arguments, rfl, rfl, rfl⟩
  · obtain ⟨harguments, -⟩ := Signature.carries_fixed_nil hcarries
    exact ⟨.help, rfl, harguments, by rw [hhelp]; rfl⟩
  · obtain rfl := Signature.carries_collecting_sequence hcarries
    exact ⟨.join arguments, rfl, rfl, rfl⟩
  · obtain ⟨harguments, -⟩ := Signature.carries_fixed_nil hcarries
    exact ⟨.list, rfl, harguments, rfl⟩
  · obtain ⟨chat, harguments, rfl⟩ := Signature.carries_fixed_single rfl hcarries
    exact ⟨.members chat, rfl, harguments, rfl⟩
  · obtain ⟨chat, users, harguments, rfl⟩ := Signature.carries_collecting_single rfl hcarries
    exact ⟨.remove chat users, rfl, harguments, rfl⟩
  · obtain ⟨harguments, -⟩ := Signature.carries_fixed_nil hcarries
    exact ⟨.whoAmI, rfl, harguments, rfl⟩
  · obtain ⟨harguments, -⟩ := Signature.carries_fixed_nil hcarries
    exact ⟨.whosYourDaddy, rfl, harguments, rfl⟩

/-- Whatever is prepared is one of the commands. -/
theorem exists_command_of_prepare {caller : Caller} {line : String}
    {prepared : Prepared (Consultation String)}
    (hprepare : (masterTable caller).prepare line = .ok prepared) :
    ∃ command : MasterCommand, command.IsWritten line ∧
      prepared.run = command.consultation caller := by
  obtain ⟨expression, hparse, hmem, hname, hbind⟩ := Table.exists_of_prepare hprepare
  rw [masterTable, withHelp] at hmem
  have hcarries := Command.carries_of_bind (endsInSequence_masterOperations _ _ _ hmem) hbind
  obtain ⟨command, hsame, harguments, hrun⟩ := exists_command_of_mem rfl hmem hcarries
  exact ⟨command, ⟨expression, hparse, hsame ▸ hname, harguments⟩, hrun⟩

end ChatSteward.Bot
