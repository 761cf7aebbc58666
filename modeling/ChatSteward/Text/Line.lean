import ChatSteward.Text.Canonical
import ChatSteward.Text.LineTable
import ChatSteward.Text.QuotedTable

/-!
# Characters in a line

What decides how characters stand beside each other: whether they are marks, in which direction
they are written, and on which sides they join in a joined script.

## Main definitions

* `isNonspacing`, `isMark` — marks without and with room of their own
* `Direction`, `direction` — the direction of a character
* `joinsForward`, `joinsBackward` — whether a text joins with what follows or comes before it
-/

namespace ChatSteward.Text

/-! ## Marks -/

/-- Whether a character is a mark without room of its own. -/
def isNonspacing (c : Char) : Bool :=
  combiningRanges.has c.toNat && c.toNat != 0x200C && !spacingMarkRanges.has c.toNat

/-- Whether a character is a mark. -/
def isMark (c : Char) : Bool := isNonspacing c || spacingMarkRanges.has c.toNat

/-! ## Directions -/

/-- The direction of a character, as far as it matters for names. -/
inductive Direction where
  | left
  | right
  | number
  | arabicNumber
  | nonspacing
  | neutral
deriving DecidableEq, Repr

/-- Nonspacing marks that are written like letters. -/
def leftMarks : List Nat := [0xCBF, 0xCC6, 0x11A07, 0x11A08, 0x11C3F]

/-- The direction of a character. -/
def direction (c : Char) : Direction :=
  let n := c.toNat
  if c.toNat = 0x1171E ∨ isNonspacing c ∧ n ∉ leftMarks then .nonspacing
  else if rightwardRanges.has n then .right
  else if numberRanges.has n then .number
  else if arabicNumberRanges.has n then .arabicNumber
  else if neutralRanges.has n then .neutral
  else .left

/-! ## Joining -/

/-- Whether joining goes past a character: marks, and the nasalization mark of Adlam. -/
def isJoiningTransparent (c : Char) : Bool := isNonspacing c || c.toNat == 0x1E94B

/-- Whether a text joins with what comes before it. -/
def joinsBackward (text : List Char) : Bool :=
  match text.dropWhile isJoiningTransparent with
  | [] => false
  | c :: _ => dualJoiningRanges.has c.toNat || rightJoiningRanges.has c.toNat

/-- Whether a text, given in reverse, joins with what follows it. -/
def joinsForward (reversed : List Char) : Bool :=
  match reversed.dropWhile isJoiningTransparent with
  | [] => false
  | c :: _ => dualJoiningRanges.has c.toNat || leftJoiningRanges.has c.toNat

end ChatSteward.Text
