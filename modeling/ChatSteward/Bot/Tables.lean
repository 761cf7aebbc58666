import ChatSteward.Bot.Commands

/-!
# The commands of guests and masters

Everybody may ask who they are and who the masters are. Masters may also administer chats. Who
is not a master is told of the other commands neither by help nor by a refusal.

## Main definitions

* `guestTable`, `masterTable` — the commands of guests and of masters
* `respond` — the reply to a command line of a user
-/

namespace ChatSteward.Bot

open Command (Operation Parameter Plan Signature Table)
open Platform (Consultation Settings)

/-- The name of a chat. -/
def chatName : Parameter := ⟨"ChatName", .single⟩

/-- The id of a chat. -/
def chatId : Parameter := ⟨"ChatId", .single⟩

/-- The ids of chats. -/
def chatIds : Parameter := ⟨"ChatId", .sequence⟩

/-- The ids of users. -/
def userIds : Parameter := ⟨"UserId", .sequence⟩

/-- A table with an operation that shows the help of the table. The help tells the signatures
alone, so it is the same whatever text the operation shows. -/
def withHelp {R : Type} (operations : String → Table R) : Table R :=
  operations (operations "").help

/-- The commands of guests; `help` is what the help command shows. -/
def guestOperations (caller : Caller) (help : String) : Table (Consultation String) :=
  [⟨.fixed "Help" [], .finished (.done help)⟩,
   ⟨.fixed "WhoAmI" [], .finished (whoAmI caller)⟩,
   ⟨.fixed "WhosYourDaddy" [], .finished (whosYourDaddy caller)⟩]

/-- The commands of masters; `help` is what the help command shows. -/
def masterOperations (caller : Caller) (help : String) : Table (Consultation String) :=
  [⟨.collecting "Add" [chatId, userIds],
    .single fun chat => .sequence fun users => .finished (add chat users)⟩,
   ⟨.fixed "Create" [chatName], .single fun name => .finished (create caller name)⟩,
   ⟨.collecting "Destroy" [chatIds], .sequence fun chats => .finished (destroy chats)⟩,
   ⟨.fixed "Help" [], .finished (.done help)⟩,
   ⟨.collecting "Join" [chatIds], .sequence fun chats => .finished (join caller chats)⟩,
   ⟨.fixed "List" [], .finished list⟩,
   ⟨.fixed "Members" [chatId], .single fun chat => .finished (members chat)⟩,
   ⟨.collecting "Remove" [chatId, userIds],
    .single fun chat => .sequence fun users => .finished (remove chat users)⟩,
   ⟨.fixed "WhoAmI" [], .finished (whoAmI caller)⟩,
   ⟨.fixed "WhosYourDaddy" [], .finished (whosYourDaddy caller)⟩]

/-- The commands of guests. -/
def guestTable (caller : Caller) : Table (Consultation String) :=
  withHelp (guestOperations caller)

/-- The commands of masters. -/
def masterTable (caller : Caller) : Table (Consultation String) :=
  withHelp (masterOperations caller)

/-- The reply of a table to a command line. -/
def reply (table : Table (Consultation String)) (line : String) : Consultation String :=
  table.call .done line

/-- The reply to a command line of a user. -/
def respond (settings : Settings) (sender : String) (line : String) : Consultation String :=
  let caller : Caller := ⟨sender, settings.masters⟩
  if settings.isMaster sender then reply (masterTable caller) line
  else reply (guestTable caller) line

end ChatSteward.Bot
