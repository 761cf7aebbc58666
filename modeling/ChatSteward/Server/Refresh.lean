/-!
# The refresh of access tokens

A token is refreshed some time before it expires, but never sooner than a least delay after the
refresh before it; a failed refresh is tried again after a delay of its own.

Attempts are made one after the other, with a pause after each. A shutdown is noticed during a
pause: one that came before the pause, or comes before its end, ends the attempts; at the very
moment at which a pause ends either may come first.

Times may be told in any unit: a parameter says how many of them make a second. The usual schedule
and diagnostic texts tell them in milliseconds.

## Main definitions

* `Schedule`, `Schedule.usual`, `Schedule.usualIn` — the delays
* `Schedule.nextRefreshIn` — the pause after a refresh
* `Shutdown`, `Shutdown.cuts` — when the attempts are to end
* `Schedule.diagnostic` — the delays as a diagnostic text shows them
-/

namespace ChatSteward.Server

/-- The delays between refreshes. -/
structure Schedule where
  /-- How long before its end a token is refreshed. -/
  margin : Nat
  /-- The least pause after a refresh. -/
  leastDelay : Nat
  /-- The pause after a failed refresh. -/
  retryDelay : Nat
deriving DecidableEq, Repr

/-- A minute before the end, and at least five seconds in between. -/
def Schedule.usual : Schedule := ⟨60000, 5000, 5000⟩

/-- The usual delays in some unit of time. -/
def Schedule.usualIn (second : Nat) : Schedule := ⟨60 * second, 5 * second, 5 * second⟩

/-- The pause after a refresh, in some unit of time. -/
def Schedule.nextRefreshIn (schedule : Schedule) (second validSeconds : Nat) : Nat :=
  max (validSeconds * second - schedule.margin) schedule.leastDelay

/-- When the attempts are to end; `first` tells whether the shutdown wins over a pause that ends at
the same moment. -/
structure Shutdown where
  moment : Nat
  first : Bool
deriving DecidableEq, Repr

/-- Whether a shutdown ends a pause that lasts until a moment. -/
def Shutdown.cuts (shutdown : Shutdown) (wake : Nat) : Bool :=
  shutdown.moment < wake || (shutdown.moment == wake && shutdown.first)

/-! ## Diagnostic text -/

/-- A span of milliseconds as a diagnostic text shows it: from a second on in seconds, with no
more decimals than it needs. -/
def spanText (milliseconds : Nat) : String :=
  if milliseconds = 0 then "0ns"
  else if milliseconds < 1000 then toString milliseconds ++ "ms"
  else
    let decimals :=
      ([milliseconds % 10, milliseconds / 10 % 10, milliseconds / 100 % 10].dropWhile
        (· = 0)).reverse
    toString (milliseconds / 1000) ++
      (if decimals.isEmpty then "" else "." ++ String.ofList (decimals.map Nat.digitChar)) ++ "s"

/-- The diagnostic text of the delays. -/
def Schedule.diagnostic (schedule : Schedule) : String :=
  "TokenSettings \x7b margin: " ++ spanText schedule.margin ++
    ", min_delay: " ++ spanText schedule.leastDelay ++
    ", retry_delay: " ++ spanText schedule.retryDelay ++ " \x7d"

example : Schedule.usual.diagnostic =
    "TokenSettings \x7b margin: 60s, min_delay: 5s, retry_delay: 5s \x7d" := by
  decide +kernel

end ChatSteward.Server
