import ChatSteward.Platform.Client
import ChatSteward.Server.Refresh

/-!
# The renewal of access tokens

The loop of the refresh together with the client whose token it refreshes. What befalls an attempt
is how long it takes and what becomes of its request; whether it succeeds, and for how long the new
token is valid, is for the client to find out.

## Main definitions

* `Client.refresh` — one refresh of a token, from its request to what comes of it
* `Trial`, `Renewal` — what befalls an attempt, and an attempt that was made
* `Schedule.pauseIn` — the pause after an attempt
* `Schedule.renew` — the attempts that the loop makes
-/

namespace ChatSteward.Platform

/-- The client after it has asked for a token, and the seconds for which the token is valid. -/
def Client.refresh (client : Client) (delivery : Http.Delivery) : Client × Except Failure Nat :=
  match client.tokenRequest with
  | .error failure => (client, .error failure)
  | .ok request => client.acceptToken request delivery

end ChatSteward.Platform

namespace ChatSteward.Server

open Platform (Client Failure)

/-- Whether two attempts have come to the same can be decided. -/
instance decidableEqResult : DecidableEq (Except Failure Nat)
  | .ok seconds, .ok others => decidable_of_iff (seconds = others) ⟨congrArg _, Except.ok.inj⟩
  | .error failure, .error other =>
    decidable_of_iff (failure = other) ⟨congrArg _, Except.error.inj⟩
  | .ok _, .error _ | .error _, .ok _ => .isFalse nofun

/-- What befalls one attempt: how long it takes, and what becomes of the request of a token. -/
structure Trial where
  duration : Nat
  delivery : Http.Delivery
deriving DecidableEq, Repr

/-- An attempt that was made: when it started, when it ended, what became of its request, with what
result, and the client afterwards. -/
structure Renewal where
  start : Nat
  finish : Nat
  delivery : Http.Delivery
  result : Except Failure Nat
  client : Client
deriving DecidableEq, Repr

/-- The attempt that a client makes from a moment on. -/
def Renewal.make (client : Client) (now : Nat) (trial : Trial) : Renewal where
  start := now
  finish := now + trial.duration
  delivery := trial.delivery
  result := (client.refresh trial.delivery).2
  client := (client.refresh trial.delivery).1

namespace Schedule

/-- The pause after an attempt, in some unit of time. -/
def pauseIn (schedule : Schedule) (second : Nat) : Except Failure Nat → Nat
  | .ok validSeconds => schedule.nextRefreshIn second validSeconds
  | .error _ => schedule.retryDelay

/-- The attempts that the loop makes from a moment on, with its client, out of those that befall
it. -/
def renew (schedule : Schedule) (second : Nat) (shutdown : Option Shutdown) :
    Nat → Client → List Trial → List Renewal
  | _, _, [] => []
  | now, client, trial :: trials =>
    let made := Renewal.make client now trial
    let wake := made.finish + schedule.pauseIn second made.result
    if shutdown.any (·.cuts wake) then [made]
    else made :: renew schedule second shutdown wake made.client trials

end Schedule

end ChatSteward.Server
