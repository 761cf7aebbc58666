import ChatSteward.Proofs.Json.Fractions
import ChatSteward.Proofs.Json.Membership
import Mathlib.Data.List.Forall2

/-!
# What is written

The text that is written for a value belongs to the grammar: it is a value, and of an object or an
array it has the members or items that were written. It is read back as a value, and if there are
no fractions in it, as the very value with the members of every object sorted.

## Main definitions

* `Value.bytes` — the text of a value as bytes
* `Value.Fits` — values whose numbers are within their bounds and whose enclosures nest no deeper
  than allowed
* `Value.IsWhole` — values without fractions
* `Value.IsWritable` — values that fit and have no fractions

## Main results

* `spells_contentOf` — a string is written with the text that spells it
* `Value.isObject_bytes`, `Value.isArray_bytes` — objects have the members that were written, and
  arrays the items
* `Value.Fits.exists_reads` — what is written is read again
* `Value.IsWritable.reads` — without fractions it is read back
-/

namespace ChatSteward.Json

/-! ## Strings -/

/-- The text of a string from behind its opening quote to its closing one, as it is written. -/
def contentOf (text : String) : List UInt8 :=
  (escaped text.toList).flatMap String.utf8EncodeChar ++ [Byte.quote]

theorem writtenText_bytes (text : String) :
    (writtenText text).flatMap String.utf8EncodeChar = Byte.quote :: contentOf text := by
  rw [writtenText, List.flatMap_append, List.flatMap_cons]
  rfl

/-- The two digits of a control give its number. -/
theorem hexValue_control {n : Nat} (hcontrol : n < 0x20) :
    ∃ high low, [hexDigitChar (n / 16), hexDigitChar (n % 16)].flatMap String.utf8EncodeChar =
        [high, low] ∧ hexValue? Byte.zero Byte.zero high low = some n := by
  have hall : ∀ n < 0x20,
      [hexDigitChar (n / 16), hexDigitChar (n % 16)].flatMap String.utf8EncodeChar =
        [Byte.of (hexDigitChar (n / 16)), Byte.of (hexDigitChar (n % 16))] ∧
      hexValue? Byte.zero Byte.zero (Byte.of (hexDigitChar (n / 16)))
        (Byte.of (hexDigitChar (n % 16))) = some n := by
    decide
  exact ⟨_, _, hall n hcontrol⟩

/-- A character is written with a text that spells it. -/
theorem spells_escapedChar (c : Char) {rest : List UInt8} {chars : List Char}
    (hrest : Spells rest chars) :
    Spells ((escapedChar c).flatMap String.utf8EncodeChar ++ rest) (c :: chars) := by
  by_cases hshort : c ∈ ['"', '\\', '\x08', '\x0c', '\n', '\r', '\t']
  · -- each of these is written with an escape of its own
    simp only [List.mem_cons, List.not_mem_nil, or_false] at hshort
    rcases hshort with rfl | rfl | rfl | rfl | rfl | rfl | rfl
    · exact .letter (show letterEscape? Byte.quote = some Byte.quote by decide) hrest
    · exact .letter (show letterEscape? Byte.backslash = some Byte.backslash by decide) hrest
    · exact .letter (show letterEscape? (Byte.of 'b') = some 0x08 by decide) hrest
    · exact .letter (show letterEscape? (Byte.of 'f') = some 0x0C by decide) hrest
    · exact .letter (show letterEscape? (Byte.of 'n') = some 0x0A by decide) hrest
    · exact .letter (show letterEscape? (Byte.of 'r') = some 0x0D by decide) hrest
    · exact .letter (show letterEscape? (Byte.of 't') = some 0x09 by decide) hrest
  · simp only [List.mem_cons, List.not_mem_nil, or_false, not_or] at hshort
    obtain ⟨hquote, hbackslash, hb, hf, hn, hr, ht⟩ := hshort
    simp only [escapedChar, if_neg hquote, if_neg hbackslash, if_neg hb, if_neg hf, if_neg hn,
      if_neg hr, if_neg ht]
    split
    case isTrue hcontrol =>
      -- any other control is written by its number, which is no surrogate
      obtain ⟨high, low, hbytes, hvalue⟩ := hexValue_control hcontrol
      have hchar : Char.ofNat c.toNat = c := Char.ofNat_toNat c
      have hunit := Spells.unit hvalue (by simp [isLeadingSurrogate]; omega)
        (by simp [isTrailingSurrogate]; omega) hrest
      rw [hchar] at hunit
      have hsplit : (['\\', 'u', '0', '0', hexDigitChar (c.toNat / 16),
          hexDigitChar (c.toNat % 16)]).flatMap String.utf8EncodeChar =
          Byte.backslash :: Byte.letterU :: Byte.zero :: Byte.zero :: [high, low] := by
        rw [← hbytes]
        rfl
      rw [hsplit]
      exact hunit
    case isFalse hplain =>
      rw [List.flatMap_singleton]
      exact .plain (Nat.le_of_not_lt hplain) hquote hbackslash hrest

/-- A string is written with a text that spells it. -/
theorem spells_contentOf (text : String) : Spells (contentOf text) text.toList := by
  rw [contentOf]
  generalize text.toList = chars
  induction chars with
  | nil => exact .close
  | cons c chars ih =>
    rw [escaped, List.flatMap_cons, List.flatMap_append, List.append_assoc]
    exact spells_escapedChar c ih

/-! ## Values -/

namespace Value

/-- The text of a value as bytes. -/
def bytes (value : Value) : List UInt8 := value.chars.flatMap String.utf8EncodeChar

@[simp] theorem encodeUtf8_written (value : Value) : Text.encodeUtf8 value.written = value.bytes :=
  Text.encodeUtf8_ofList _

@[simp] theorem bytes_text (text : String) :
    (Value.text text).bytes = Byte.quote :: contentOf text := by
  rw [bytes, chars, writtenText_bytes]

@[simp] theorem bytes_integer (n : Int) :
    (Value.number (.integer n)).bytes = Text.encodeUtf8 (toString n) := by
  rw [bytes, chars, Number.written, Text.encodeUtf8_eq_flatMap]

theorem bytes_fraction (x : Binary64) :
    (Value.number (.fraction x)).bytes = Text.encodeUtf8 (x.written numberLayout) := by
  rw [bytes, chars, Number.written, Text.encodeUtf8_eq_flatMap]

/-- The bytes of the items after the first, up to the closing bracket. -/
def itemsBytes (items : List Value) : List UInt8 :=
  (itemsChars items).flatMap String.utf8EncodeChar

/-- The bytes of the members after the first, up to the closing brace. -/
def membersBytes (members : List (String × Value)) : List UInt8 :=
  (membersChars members).flatMap String.utf8EncodeChar

@[simp] theorem bytes_array_cons (item : Value) (rest : List Value) :
    (array (item :: rest)).bytes = Byte.openBracket :: (item.bytes ++ itemsBytes rest) := by
  simp only [bytes, chars, itemsBytes, List.flatMap_append, List.flatMap_cons, List.cons_append]
  rfl

@[simp] theorem itemsBytes_cons (item : Value) (rest : List Value) :
    itemsBytes (item :: rest) = Byte.comma :: (item.bytes ++ itemsBytes rest) := by
  simp only [itemsBytes, itemsChars, bytes, List.flatMap_append, List.flatMap_cons,
    List.cons_append]
  rfl

theorem bytes_object_cons (key : String) (value : Value) (rest : List (String × Value)) :
    (object ((key, value) :: rest)).bytes =
      Byte.openBrace ::
        (Byte.quote :: (contentOf key ++ [Byte.colon]) ++ (value.bytes ++ membersBytes rest)) := by
  simp only [bytes, chars, membersBytes, List.flatMap_append, List.flatMap_cons, List.cons_append,
    writtenText_bytes, List.append_assoc]
  rfl

theorem membersBytes_cons (key : String) (value : Value) (rest : List (String × Value)) :
    membersBytes ((key, value) :: rest) =
      Byte.comma ::
        (Byte.quote :: (contentOf key ++ [Byte.colon]) ++ (value.bytes ++ membersBytes rest)) := by
  simp only [membersBytes, membersChars, bytes, List.flatMap_append, List.flatMap_cons,
    List.cons_append, writtenText_bytes, List.append_assoc]
  rfl

/-! ## The grammar of what is written -/

theorem isItems_bytes {item : Value} {rest : List Value} (hitem : IsValue item.bytes)
    (hrest : ∀ other ∈ rest, IsValue other.bytes) :
    IsItems (item.bytes ++ itemsBytes rest) (item.bytes :: rest.map bytes) := by
  induction rest generalizing item with
  | nil => exact .last hitem (padded_self _)
  | cons other rest ih =>
    rw [itemsBytes_cons]
    exact .more hitem (padded_self _)
      (ih (hrest other List.mem_cons_self) fun value hmem =>
        hrest value (List.mem_cons_of_mem _ hmem))

/-- An array is written with its items. -/
theorem isArray_bytes {items : List Value} (hitems : ∀ item ∈ items, IsValue item.bytes) :
    IsArray (array items).bytes (items.map bytes) := by
  cases items with
  | nil => exact .empty blanks_nil
  | cons item rest =>
    rw [bytes_array_cons]
    exact .items (isItems_bytes (hitems item List.mem_cons_self) fun other hmem =>
      hitems other (List.mem_cons_of_mem _ hmem))

theorem isLabel_contentOf (key : String) :
    IsLabel (contentOf key) (Byte.quote :: (contentOf key ++ [Byte.colon])) :=
  ⟨[], [], blanks_nil, blanks_nil, rfl⟩

theorem isMembers_bytes {key : String} {value : Value} {rest : List (String × Value)}
    (hvalue : IsValue value.bytes) (hrest : ∀ member ∈ rest, IsValue member.2.bytes) :
    IsMembers (Byte.quote :: (contentOf key ++ [Byte.colon]) ++ (value.bytes ++ membersBytes rest))
      ((key, value.bytes) :: rest.map fun member => (member.1, member.2.bytes)) := by
  induction rest generalizing key value with
  | nil => exact .last (spells_contentOf key) (isLabel_contentOf key) hvalue (padded_self _)
  | cons member rest ih =>
    rw [membersBytes_cons]
    exact .more (spells_contentOf key) (isLabel_contentOf key) hvalue (padded_self _)
      (ih (hrest member List.mem_cons_self) fun other hmem =>
        hrest other (List.mem_cons_of_mem _ hmem))

/-- An object is written with its members. -/
theorem isObject_bytes {members : List (String × Value)}
    (hmembers : ∀ member ∈ members, IsValue member.2.bytes) :
    IsObject (object members).bytes (members.map fun member => (member.1, member.2.bytes)) := by
  cases members with
  | nil => exact .empty blanks_nil
  | cons member rest =>
    rw [bytes_object_cons]
    exact .members (isMembers_bytes (hmembers member List.mem_cons_self) fun other hmem =>
      hmembers other (List.mem_cons_of_mem _ hmem))

end Value

/-! ## Items -/

theorem firstItem_closing {blanks : List UInt8} (hblanks : Blanks blanks) (rest : List UInt8) :
    firstItem (blanks ++ Byte.closeBracket :: rest) = .ok (false, Byte.closeBracket :: rest) := by
  rw [firstItem, dropBlanks_blanks_cons hblanks (by decide)]
  rfl

theorem nextItem_closing {blanks : List UInt8} (hblanks : Blanks blanks) (rest : List UInt8) :
    nextItem (blanks ++ Byte.closeBracket :: rest) = .ok (false, Byte.closeBracket :: rest) := by
  rw [nextItem, dropBlanks_blanks_cons hblanks (by decide)]
  rfl

/-- The first item of an array is found behind the blanks in front of it. -/
theorem firstItem_value {bytes tail : List UInt8} {first : UInt8}
    (hfront : dropBlanks bytes = first :: tail) (hstarts : StartsValue first) :
    firstItem bytes = .ok (true, dropBlanks bytes) := by
  rw [firstItem, hfront]
  split
  case h_1 hnil => cases hnil
  case h_2 hclosing =>
    obtain ⟨rfl, -⟩ := List.cons.inj hclosing
    exact absurd rfl hstarts.2.1
  case h_3 => rfl

/-- Behind a comma the next item is found as the first one is. -/
theorem nextItem_value {blanks bytes tail : List UInt8} (hblanks : Blanks blanks) {first : UInt8}
    (hfront : dropBlanks bytes = first :: tail) (hstarts : StartsValue first) :
    nextItem (blanks ++ Byte.comma :: bytes) = .ok (true, dropBlanks bytes) := by
  have hcomma : dropBlanks (blanks ++ Byte.comma :: bytes) = Byte.comma :: bytes :=
    dropBlanks_blanks_cons hblanks (by decide) _
  unfold nextItem
  rw [hcomma]
  split
  case h_1 hnil => cases hnil
  case h_2 hclosing => exact absurd (List.cons.inj hclosing).1 (by decide)
  case h_3 rest heq =>
    -- what follows the comma starts a value, so the array does not close there
    obtain rfl : bytes = rest := (List.cons.inj heq).2
    rw [hfront]
    split
    case h_1 hnil => cases hnil
    case h_2 hclosing => exact absurd (List.cons.inj hclosing).1 hstarts.2.1
    case h_3 => rfl
  case h_4 hother => exact absurd rfl (hother _)

theorem IsItems.front {text : List UInt8} {items : List (List UInt8)} (hitems : IsItems text items)
    (rest : List UInt8) :
    ∃ first tail, dropBlanks (text ++ rest) = first :: tail ∧ StartsValue first := by
  cases hitems with
  | last hvalue hpadded =>
    rw [List.append_assoc]
    exact hpadded.front hvalue _
  | more hvalue hpadded _ =>
    rw [List.append_assoc]
    exact hpadded.front hvalue _

variable {α : Type}

/-- An item is read, and what follows it is left. -/
theorem Reads.item {item : Reader α} {text padded : List UInt8} {value : α}
    (hreads : Reads item text value) (hvalue : IsValue text) (hpadded : Padded text padded)
    {b : UInt8} {rest : List UInt8} (hends : Ends (b :: rest)) :
    ∃ after, Blanks after ∧ item.read (dropBlanks (padded ++ b :: rest)) =
      .ok (value, after ++ b :: rest) := by
  obtain ⟨before, after, hbefore, hafter, rfl⟩ := hpadded
  obtain ⟨first, tail, rfl, hsolid, -⟩ := hvalue.front
  refine ⟨after, hafter, ?_⟩
  have hread := hreads [] (after ++ b :: rest) blanks_nil (Ends.blanks_append hafter hends)
  simp only [List.append_assoc, List.cons_append, dropBlanks_blanks_cons hbefore hsolid]
  exact hread

theorem readItemsFrom_last {item : Reader α} {bytes rest rest' : List UInt8} {value : α}
    (hitem : item.read bytes = .ok (value, rest)) (hnext : nextItem rest = .ok (false, rest')) :
    readItemsFrom item bytes = .ok ([value], rest') := by
  rw [readItemsFrom]
  split
  case h_1 herror =>
    rw [hitem] at herror
    cases herror
  case h_2 hok =>
    rw [hitem] at hok
    cases hok
    split
    case h_1 hkey => rw [hnext] at hkey; cases hkey
    case h_2 hkey => rw [hnext] at hkey; cases hkey; rfl
    case h_3 hkey => rw [hnext] at hkey; cases hkey

theorem readItemsFrom_more {item : Reader α} {bytes rest rest' : List UInt8} {value : α}
    (hitem : item.read bytes = .ok (value, rest)) (hnext : nextItem rest = .ok (true, rest'))
    {values : List α} {last : List UInt8}
    (hothers : readItemsFrom item rest' = .ok (values, last)) :
    readItemsFrom item bytes = .ok (value :: values, last) := by
  rw [readItemsFrom]
  split
  case h_1 herror =>
    rw [hitem] at herror
    cases herror
  case h_2 hok =>
    rw [hitem] at hok
    cases hok
    split
    case h_1 hkey => rw [hnext] at hkey; cases hkey
    case h_2 hkey => rw [hnext] at hkey; cases hkey
    case h_3 hkey =>
      rw [hnext] at hkey
      cases hkey
      rw [hothers]

/-- Items that are read one by one are read together. -/
theorem readItemsFrom_of_reads {item : Reader α} {text : List UInt8} {items : List (List UInt8)}
    {values : List α} (hitems : IsItems text items)
    (hreads : List.Forall₂ (Reads item) items values) (rest : List UInt8) :
    readItemsFrom item (dropBlanks (text ++ rest)) = .ok (values, Byte.closeBracket :: rest) := by
  -- induction on the items: behind the last one stands the bracket, behind the others a comma
  induction hitems generalizing values with
  | @last text padded hvalue hpadded =>
    cases hreads with
    | cons hread hnil =>
      cases hnil
      obtain ⟨after, hafter, hitem⟩ := hread.item hvalue hpadded (ends_closeBracket rest)
      rw [List.append_assoc]
      exact readItemsFrom_last hitem (nextItem_closing hafter rest)
  | @more text padded others items hvalue hpadded hothers ih =>
    cases hreads with
    | cons hread hrest =>
      obtain ⟨after, hafter, hitem⟩ := hread.item hvalue hpadded (ends_comma (others ++ rest))
      obtain ⟨first, tail, hfront, hstarts⟩ := hothers.front rest
      rw [List.append_assoc]
      exact readItemsFrom_more hitem (nextItem_value hafter hfront hstarts) (ih hrest)

/-- What is read inside of an array whose items are read. -/
theorem readItems_of_isArray {item : Reader α} {text : List UInt8} {items : List (List UInt8)}
    {values : List α} (harray : IsArray (Byte.openBracket :: text) items)
    (hreads : List.Forall₂ (Reads item) items values) (rest : List UInt8) :
    readItems item (text ++ rest) = .ok (values, Byte.closeBracket :: rest) := by
  cases harray with
  | empty hblanks =>
    cases hreads
    rw [readItems, List.append_assoc, List.singleton_append, firstItem_closing hblanks]
  | items hitems =>
    obtain ⟨first, tail, hfront, hstarts⟩ := hitems.front rest
    rw [readItems, firstItem_value hfront hstarts]
    exact readItemsFrom_of_reads hitems hreads rest

/-! ## Arrays and objects -/

theorem IsArray.front {text : List UInt8} {items : List (List UInt8)}
    (harray : IsArray text items) :
    ∃ inner, text = Byte.openBracket :: inner := by
  cases harray with
  | empty _ => exact ⟨_, rfl⟩
  | items _ => exact ⟨_, rfl⟩

/-- An array whose items are read is read. -/
theorem reads_arrayReader {expected : String} {depth : Nat} {item : Reader α} {text : List UInt8}
    {items : List (List UInt8)} {values : List α} (harray : IsArray text items)
    (hreads : List.Forall₂ (Reads item) items values) :
    Reads (Decoder.arrayReader expected (depth + 1) (readItems item) readItems_shrinks) text
      values := by
  intro before rest hbefore _
  obtain ⟨inner, rfl⟩ := harray.front
  have hopening : Byte.isBlank Byte.openBracket = false := by decide
  simp only [Decoder.arrayReader, Decoder.readArray, List.cons_append,
    dropBlanks_blanks_cons hbefore hopening, if_true, if_neg (Nat.succ_ne_zero depth),
    readItems_of_isArray harray hreads, closeArray, endArray_closing]

/-- An object whose members are taken is read. -/
theorem reads_objectReader {σ : Type} {expected : String} {depth : Nat} {step : MemberStep σ}
    {text : List UInt8} {members : List (String × List UInt8)} {state state' : σ}
    (hobject : IsObject text members) (htakes : step.TakesAll state members state') :
    Reads (Decoder.objectReader expected (depth + 1) (readMembers step state) readMembers_shrinks)
      text state' := by
  intro before rest hbefore _
  obtain ⟨inner, rfl⟩ := hobject.front
  have hopening : Byte.isBlank Byte.openBrace = false := by decide
  simp only [Decoder.objectReader, Decoder.readObject, List.cons_append,
    dropBlanks_blanks_cons hbefore hopening, if_true, if_neg (Nat.succ_ne_zero depth),
    readMembers_of_isObject hobject htakes, closeObject, endObject_closing]

/-- An entry of a dictionary is taken if its value is read. -/
theorem takes_insertStep {item : Reader α} {text : List UInt8} {value : α}
    (hreads : Reads item text value) (map : List (String × α)) (key : String) :
    (Decoder.insertStep item).Takes map key text (Dictionary.insert key value map) := by
  rintro blanks padded b rest hblanks ⟨before, after, hbefore, hafter, rfl⟩ hends
  have hread := hreads before (after ++ b :: rest) hbefore (Ends.blanks_append hafter hends)
  refine ⟨after, hafter, ?_⟩
  simp only [Decoder.insertStep, readColon_blanks hblanks, List.append_assoc, hread]

/-- The entries of a dictionary are taken if their values are read. -/
theorem takesAll_insertStep {item : Reader α} {entries : List (String × List UInt8 × α)}
    (hreads : ∀ entry ∈ entries, Reads item entry.2.1 entry.2.2) (map : List (String × α)) :
    (Decoder.insertStep item).TakesAll map (entries.map fun entry => (entry.1, entry.2.1))
      (entries.foldl (fun map entry => Dictionary.insert entry.1 entry.2.2 map) map) := by
  induction entries generalizing map with
  | nil => exact .nil map
  | cons entry entries ih =>
    exact .cons (takes_insertStep (hreads entry List.mem_cons_self) map entry.1)
      (ih (fun other hmem => hreads other (List.mem_cons_of_mem _ hmem)) _)

/-! ## Generic values -/

/-- A scalar is read as a generic value. -/
theorem IsScalar.reads_valueReader {text : List UInt8} {value : Value}
    (hscalar : IsScalar text value) (depth : Nat) :
    Reads (Decoder.valueReader depth) text value := by
  have hread : Reads Decoder.scalarValueReader text value := hscalar.reads rfl _
  obtain ⟨first, tail, rfl, hsolid, hbracket, hbrace, -⟩ := hscalar
  intro before rest hbefore hends
  -- neither an array nor an object starts here, whatever could be inside of one
  have hfront : dropBlanks (before ++ (first :: tail ++ rest)) = first :: (tail ++ rest) :=
    dropBlanks_blanks_cons hbefore hsolid _
  have hwith (inner : Reader Value) :
      (Decoder.valueReaderWith depth inner).read (before ++ (first :: tail ++ rest)) =
        Decoder.scalarValueReader.read (before ++ (first :: tail ++ rest)) := by
    simp only [Decoder.valueReaderWith, Decoder.arrayOr, Decoder.objectOr, hfront]
    split
    case h_1 heq => exact absurd (List.cons.inj heq).1 hbracket
    case h_2 =>
      split
      case h_1 heq => exact absurd (List.cons.inj heq).1 hbrace
      case h_2 => rfl
  cases depth with
  | zero => exact (hwith _).trans (hread before rest hbefore hends)
  | succ depth => exact (hwith _).trans (hread before rest hbefore hends)

/-- An array is read as a generic value. -/
theorem reads_valueReader_array {depth : Nat} {text : List UInt8} {items : List (List UInt8)}
    {values : List Value} (harray : IsArray text items)
    (hreads : List.Forall₂ (Reads (Decoder.valueReader depth)) items values) :
    Reads (Decoder.valueReader (depth + 1)) text (.array values) := by
  have hread : Reads
      ((Decoder.arrayReader "any value" (depth + 1) (readItems (Decoder.valueReader depth))
        readItems_shrinks).map Value.array) text (Value.array values) :=
    (reads_arrayReader harray hreads).map Value.array
  intro before rest hbefore hends
  have hresult := hread before rest hbefore hends
  obtain ⟨inner, rfl⟩ := harray.front
  have hfront : dropBlanks (before ++ (Byte.openBracket :: inner ++ rest)) =
      Byte.openBracket :: (inner ++ rest) :=
    dropBlanks_blanks_cons hbefore (by decide) _
  rw [← hresult, Decoder.valueReader, Decoder.valueReaderWith]
  simp only [Decoder.arrayOr, hfront]
  rfl

/-- An object is read as a generic value. -/
theorem reads_valueReader_object {depth : Nat} {text : List UInt8}
    {members : List (String × List UInt8)} {map : List (String × Value)}
    (hobject : IsObject text members)
    (htakes : (Decoder.insertStep (Decoder.valueReader depth)).TakesAll [] members map) :
    Reads (Decoder.valueReader (depth + 1)) text (.object map) := by
  have hread : Reads
      ((Decoder.objectReader "any value" (depth + 1)
        (readMembers (Decoder.insertStep (Decoder.valueReader depth)) [])
        readMembers_shrinks).map Value.object) text (Value.object map) :=
    (reads_objectReader hobject htakes).map Value.object
  intro before rest hbefore hends
  have hresult := hread before rest hbefore hends
  obtain ⟨inner, rfl⟩ := hobject.front
  have hfront : dropBlanks (before ++ (Byte.openBrace :: inner ++ rest)) =
      Byte.openBrace :: (inner ++ rest) :=
    dropBlanks_blanks_cons hbefore (by decide) _
  rw [← hresult, Decoder.valueReader, Decoder.valueReaderWith]
  simp only [Decoder.arrayOr, Decoder.objectOr, hfront]
  rfl

/-- Numbers as they are read: integers of 64 bits, and fractions of the format. -/
inductive Number.IsBounded : Number → Prop where
  | integer {n : Int} (hlow : -(greatestSigned : Int) - 1 ≤ n) (hhigh : n ≤ greatestUnsigned) :
      IsBounded (.integer n)
  | fraction {x : Binary64} (hbounded : x.IsBounded) : IsBounded (.fraction x)

namespace Value

/-- Whether the numbers of a value are within their bounds, and it nests no deeper than allowed. -/
inductive Fits : Nat → Value → Prop where
  | null (depth : Nat) : Fits depth .null
  | boolean (depth : Nat) (b : Bool) : Fits depth (.boolean b)
  | number (depth : Nat) {n : Number} (hbounded : n.IsBounded) : Fits depth (.number n)
  | text (depth : Nat) (s : String) : Fits depth (.text s)
  | array {depth : Nat} {items : List Value} (hitems : ∀ item ∈ items, Fits depth item) :
      Fits (depth + 1) (.array items)
  | object {depth : Nat} {members : List (String × Value)}
      (hmembers : ∀ member ∈ members, Fits depth member.2) : Fits (depth + 1) (.object members)

/-- Values without fractions. -/
inductive IsWhole : Value → Prop where
  | null : IsWhole .null
  | boolean (b : Bool) : IsWhole (.boolean b)
  | integer (n : Int) : IsWhole (.number (.integer n))
  | text (s : String) : IsWhole (.text s)
  | array {items : List Value} (hitems : ∀ item ∈ items, IsWhole item) : IsWhole (.array items)
  | object {members : List (String × Value)} (hmembers : ∀ member ∈ members, IsWhole member.2) :
      IsWhole (.object members)

/-- Whether a value has no fractions and no integers beyond their bounds, and nests no deeper than
allowed. -/
inductive IsWritable : Nat → Value → Prop where
  | null (depth : Nat) : IsWritable depth .null
  | boolean (depth : Nat) (b : Bool) : IsWritable depth (.boolean b)
  | integer (depth : Nat) {n : Int} (hlow : -(greatestSigned : Int) - 1 ≤ n)
      (hhigh : n ≤ greatestUnsigned) : IsWritable depth (.number (.integer n))
  | text (depth : Nat) (s : String) : IsWritable depth (.text s)
  | array {depth : Nat} {items : List Value} (hitems : ∀ item ∈ items, IsWritable depth item) :
      IsWritable (depth + 1) (.array items)
  | object {depth : Nat} {members : List (String × Value)}
      (hmembers : ∀ member ∈ members, IsWritable depth member.2) :
      IsWritable (depth + 1) (.object members)

theorem IsWritable.fits {depth : Nat} {value : Value} (hwritable : value.IsWritable depth) :
    value.Fits depth := by
  induction hwritable with
  | null => exact .null _
  | boolean => exact .boolean _ _
  | integer depth hlow hhigh => exact .number depth (.integer hlow hhigh)
  | text => exact .text _ _
  | array _ ih => exact .array ih
  | object _ ih => exact .object ih

/-- What can be written has no fractions in it. -/
theorem IsWritable.isWhole {depth : Nat} {value : Value} (hwritable : value.IsWritable depth) :
    value.IsWhole := by
  induction hwritable with
  | null => exact .null
  | boolean => exact .boolean _
  | integer => exact .integer _
  | text => exact .text _
  | array _ ih => exact .array ih
  | object _ ih => exact .object ih

/-- What is written is a value. -/
theorem Fits.isValue {depth : Nat} {value : Value} (hfits : value.Fits depth) :
    IsValue value.bytes := by
  induction hfits with
  | null => exact .word List.mem_cons_self
  | boolean depth b =>
    cases b with
    | true => exact .word (List.mem_cons_of_mem _ List.mem_cons_self)
    | false => exact .word (List.mem_cons_of_mem _ (List.mem_cons_of_mem _ List.mem_cons_self))
  | @number depth n =>
    cases n with
    | integer n =>
      rw [bytes_integer]
      exact .numeral (isNumeral_integer n)
    | fraction x =>
      rw [bytes_fraction]
      exact .numeral (isNumeral_fraction x)
  | text depth s =>
    rw [bytes_text]
    exact .string (spells_contentOf s).isContent
  | array _ ih => exact (isArray_bytes ih).isValue
  | object _ ih => exact (isObject_bytes ih).isValue

theorem IsWritable.isValue {depth : Nat} {value : Value} (hwritable : value.IsWritable depth) :
    IsValue value.bytes :=
  hwritable.fits.isValue

theorem sortedItems_eq_map (items : List Value) : sortedItems items = items.map sorted := by
  induction items with
  | nil => rfl
  | cons item rest ih => rw [sortedItems, ih, List.map_cons]

theorem sortedMembers_eq_map (members : List (String × Value)) :
    sortedMembers members = members.map fun member => (member.1, member.2.sorted) := by
  induction members with
  | nil => rfl
  | cons member rest ih => rw [sortedMembers, ih, List.map_cons]

/-- An object is read again as the dictionary of what its members are read as. -/
theorem reads_object {depth : Nat} {members : List (String × Value)}
    (again : String × Value → Value) (hvalues : ∀ member ∈ members, IsValue member.2.bytes)
    (hreads : ∀ member ∈ members,
      Reads (Decoder.valueReader depth) member.2.bytes (again member)) :
    Reads (Decoder.valueReader (depth + 1)) (object members).bytes
      (.object (Dictionary.ofPairs (members.map fun member => (member.1, again member)))) := by
  have hentries : ∀ entry ∈ members.map fun member => (member.1, member.2.bytes, again member),
      Reads (Decoder.valueReader depth) entry.2.1 entry.2.2 := by
    intro entry hmem
    obtain ⟨member, hmember, rfl⟩ := List.mem_map.mp hmem
    exact hreads member hmember
  have htakes := takesAll_insertStep hentries []
  rw [List.map_map, List.foldl_map] at htakes
  rw [Dictionary.ofPairs, List.foldl_map]
  exact reads_valueReader_object (isObject_bytes hvalues) htakes

/-- What is written is read again, at its depth and at every greater one. Without fractions it is
read as the value itself, sorted; a fraction may be read as another. -/
theorem Fits.exists_reads {depth : Nat} {value : Value} (hfits : value.Fits depth) :
    ∃ again, (value.IsWhole → again = value.sorted) ∧
      ∀ extra, Reads (Decoder.valueReader (depth + extra)) value.bytes again := by
  -- what is read of an object is the dictionary of its members, which is how members are sorted
  induction hfits with
  | null depth => exact ⟨.null, fun _ => rfl, fun extra => isScalar_null.reads_valueReader _⟩
  | boolean depth b =>
    refine ⟨.boolean b, fun _ => rfl, fun extra => ?_⟩
    cases b with
    | true => exact isScalar_true.reads_valueReader _
    | false => exact isScalar_false.reads_valueReader _
  | number depth hbounded =>
    cases hbounded with
    | @integer n hlow hhigh =>
      refine ⟨.number (.integer n), fun _ => rfl, fun extra => ?_⟩
      rw [bytes_integer]
      exact (isScalar_integer hlow hhigh).reads_valueReader _
    | fraction hbounded =>
      obtain ⟨y, hscalar⟩ := exists_isScalar_fraction hbounded
      refine ⟨.number (.fraction y), (nomatch ·), fun extra => ?_⟩
      rw [bytes_fraction]
      exact hscalar.reads_valueReader _
  | text depth s =>
    refine ⟨.text s, fun _ => rfl, fun extra => ?_⟩
    rw [bytes_text]
    exact (isScalar_text (spells_contentOf s)).reads_valueReader _
  | @array depth items hitems ih =>
    choose! again hsame hreads using ih
    refine ⟨.array (items.map again), fun hwhole => ?_, fun extra => ?_⟩
    · cases hwhole with
      | array hitems =>
        rw [sorted, sortedItems_eq_map]
        exact congrArg Value.array (List.map_congr_left fun item hmem =>
          hsame item hmem (hitems item hmem))
    · have harray := isArray_bytes fun item hmem => (hitems item hmem).isValue
      rw [Nat.add_right_comm]
      refine reads_valueReader_array harray ?_
      rw [List.forall₂_map_left_iff, List.forall₂_map_right_iff]
      exact List.forall₂_same.mpr fun item hmem => hreads item hmem extra
  | @object depth members hmembers ih =>
    choose! again hsame hreads using ih
    refine ⟨.object (Dictionary.ofPairs (members.map fun member => (member.1, again member))),
      fun hwhole => ?_, fun extra => ?_⟩
    · cases hwhole with
      | object hmembers =>
        rw [sorted, sortedMembers_eq_map]
        exact congrArg (fun pairs => Value.object (Dictionary.ofPairs pairs))
          (List.map_congr_left fun member hmem =>
            congrArg (Prod.mk member.1) (hsame member hmem (hmembers member hmem)))
    · rw [Nat.add_right_comm]
      exact reads_object again (fun member hmem => (hmembers member hmem).isValue)
        fun member hmem => hreads member hmem extra

/-- What is written without fractions is read back. -/
theorem IsWritable.reads {depth : Nat} {value : Value} (hwritable : value.IsWritable depth) :
    Reads (Decoder.valueReader depth) value.bytes value.sorted := by
  obtain ⟨again, hsame, hreads⟩ := hwritable.fits.exists_reads
  rw [← hsame hwritable.isWhole]
  exact hreads 0

end Value

end ChatSteward.Json
