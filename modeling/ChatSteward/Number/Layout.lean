import ChatSteward.Number.Shortest

/-!
# Written numbers

How a binary number is written: its shortest digits, positional while the power of ten of the
leading digit keeps within bounds and with a power of ten outside of them.

## Main definitions

* `NumberLayout` — the decisions of a format
* `Binary64.written` — a number in a layout
-/

namespace ChatSteward

/-- A layout of numbers. A leading digit worth `10 ^ n` is written positionally for
`leastPlain ≤ n ≤ greatestPlain`; otherwise the power of ten follows an `e`. -/
structure NumberLayout where
  leastPlain : Int
  greatestPlain : Int
  /-- Ends a whole number that is written positionally. -/
  wholeEnd : String
  /-- Stands before a power of ten that is not negative. -/
  risingSign : String

namespace NumberLayout

/-- Digits written out around the decimal point. -/
def positional (layout : NumberLayout) (digits : String) (leading : Int) : String :=
  let count : Int := digits.length
  if leading < 0 then
    "0." ++ String.ofList (List.replicate (-leading - 1).toNat '0') ++ digits
  else if count ≤ leading + 1 then
    digits ++ String.ofList (List.replicate (leading + 1 - count).toNat '0') ++ layout.wholeEnd
  else
    let cut := (leading + 1).toNat
    String.ofList (digits.toList.take cut) ++ "." ++ String.ofList (digits.toList.drop cut)

/-- Digits with one before the point, and a power of ten. -/
def scientific (layout : NumberLayout) (digits : String) (leading : Int) : String :=
  let fraction := digits.toList.drop 1
  let point := if fraction.isEmpty then "" else "."
  let sign := if 0 ≤ leading then layout.risingSign else "-"
  String.ofList (digits.toList.take 1) ++ point ++ String.ofList fraction ++ "e" ++ sign ++
    Nat.repr leading.natAbs

end NumberLayout

/-- A number written in a layout. -/
def Binary64.written (layout : NumberLayout) (x : Binary64) : String :=
  let d := x.shortest
  let digits := Nat.repr d.coefficient
  let leading : Int := d.exponent + digits.length - 1
  let sign := if x.negative then "-" else ""
  sign ++
    if layout.leastPlain ≤ leading ∧ leading ≤ layout.greatestPlain then
      layout.positional digits leading
    else layout.scientific digits leading

end ChatSteward
