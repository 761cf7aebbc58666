import ChatSteward.Proofs.Json.Written

/-!
# Records from arrays

A record that is decoded from an array has had its items read one by one, each by the field in its
position. What comes out is the record that all the changes make of the default, so a field beyond
the last item keeps its default.

The reading of the fields and the grammar of the items are walked together. Every field is read
exactly, so the next one is looked for behind the item, where a comma or the closing bracket tells
whether there is another item.

## Main definitions

* `Record.Places` — what the items of an array change

## Main results

* `Record.exists_places_of_decode` — an array that is decoded has had its items read
* `Record.Places.get_of_leaves` — a part that the fields of the items leave is the default
-/

namespace ChatSteward.Json

/-! ## The end of the items -/

theorem endArray_ne_ok {bytes tail : List UInt8} {first : UInt8}
    (hfront : dropBlanks bytes = first :: tail) (hfirst : first ≠ Byte.closeBracket)
    (rest : List UInt8) : endArray bytes ≠ .ok rest := by
  intro hend
  have hclosing := endArray_front hend
  rw [hfront] at hclosing
  exact hfirst (List.cons.inj hclosing).1

/-- An item that has been read has been read at its place. -/
theorem isReadAs_of_item {α : Type} {reader : Reader α} (hexact : reader.IsExact)
    {text padded : List UInt8} (hvalue : IsValue text) (hpadded : Padded text padded) {b : UInt8}
    {rest rest' : List UInt8} (hends : Ends (b :: rest)) {value : α}
    (hread : reader.read (dropBlanks (padded ++ b :: rest)) = .ok (value, rest')) :
    ∃ after, Blanks after ∧ rest' = after ++ b :: rest ∧ IsReadAs reader text value := by
  obtain ⟨before, after, hbefore, hafter, rfl⟩ := hpadded
  obtain ⟨first, tail, rfl, hfirst⟩ := hvalue.front
  have hfront : dropBlanks (before ++ (first :: tail ++ after) ++ b :: rest) =
      [] ++ (first :: tail ++ (after ++ b :: rest)) := by
    simp only [List.append_assoc, List.cons_append]
    exact dropBlanks_blanks_cons hbefore hfirst.1 _
  have hends' := Ends.blanks_append hafter hends
  rw [hfront] at hread
  have hskip := hexact _ _ _ hread
  rw [skipValue_of_isValue hvalue blanks_nil hends'] at hskip
  obtain rfl := Except.ok.inj hskip
  exact ⟨after, hafter, rfl, [], _, blanks_nil, hends', hread⟩

namespace Record

variable {σ : Type} {record : Record σ}

/-- What the items of an array change in a record, as far as `reads` tells what a field makes of an
item. -/
inductive Places (reads : Field σ → List UInt8 → (σ → σ) → Prop) :
    List (Field σ) → List (List UInt8) → (σ → σ) → Prop where
  | done (fields : List (Field σ)) : Places reads fields [] id
  | item {field : Field σ} {fields : List (Field σ)} {item : List UInt8}
      {items : List (List UInt8)} {set change : σ → σ} (hset : reads field item set)
      (hrest : Places reads fields items change) :
      Places reads (field :: fields) (item :: items) (change ∘ set)

/-- A part that the fields of the items leave is as it was. -/
theorem Places.get_of_leaves {α : Type} (get : σ → α) {depth : Nat} {fields : List (Field σ)}
    {items : List (List UInt8)} {change : σ → σ}
    (hplaces : Places (fun field => IsReadAs (field.decoder.reader depth)) fields items change)
    (hleaves : ∀ field ∈ fields.take items.length, field.Leaves get) (state : σ) :
    get (change state) = get state := by
  induction hplaces generalizing state with
  | done => rfl
  | item hset _ ih =>
    obtain ⟨hfield, hfields⟩ := List.forall_mem_cons.mp hleaves
    rw [Function.comp_apply, ih hfields]
    exact hfield depth _ _ hset state

/-- Where the array ends, no field is read any more. -/
theorem eq_of_readListed_closing {depth : Nat} {next : List UInt8 → Reading Bool}
    {rest : List UInt8}
    (hclosing : next (Byte.closeBracket :: rest) = .ok (false, Byte.closeBracket :: rest))
    {fields : List (Field σ)} {index : Nat} {state state' : σ} {bytes inside : List UInt8}
    (hnext : next bytes = .ok (false, Byte.closeBracket :: rest))
    (hread : record.readListed depth fields index state next bytes = .ok (state', inside)) :
    state' = state := by
  induction fields generalizing index bytes with
  | nil => exact (Prod.mk.inj (Except.ok.inj hread)).1.symm
  | cons field fields ih =>
    rw [readListed, hnext] at hread
    dsimp only at hread
    split at hread
    · exact ih hclosing hread
    · cases hread

/-- Items that have been read together have been read one by one. -/
theorem exists_places_of_readListed {depth : Nat} {text : List UInt8} {items : List (List UInt8)}
    (hitems : IsItems text items) {fields : List (Field σ)}
    (hexact : ∀ field ∈ fields, field.decoder.IsExact) {index : Nat} {state state' : σ}
    {next : List UInt8 → Reading Bool} {bytes rest inside rest' : List UInt8}
    (hnext : next bytes = .ok (true, dropBlanks (text ++ rest)))
    (hopen : ∀ after, endArray bytes ≠ .ok after)
    (hread : record.readListed depth fields index state next bytes = .ok (state', inside))
    (hend : endArray inside = .ok rest') :
    ∃ change, Places (fun field => IsReadAs (field.decoder.reader depth)) fields items change ∧
      state' = change state := by
  induction hitems generalizing fields index state next bytes with
  | @last value padded hvalue hpadded =>
    cases fields with
    | nil =>
      -- an item without a field is left over
      cases hread
      exact absurd hend (hopen _)
    | cons field fields =>
      rw [readListed, hnext] at hread
      dsimp only at hread
      split at hread
      · cases hread
      case h_2 set rest₁ hset =>
        rw [List.append_assoc, List.singleton_append] at hset
        obtain ⟨after, hafter, rfl, hreadAs⟩ := isReadAs_of_item
          (hexact field List.mem_cons_self depth) hvalue hpadded (ends_closeBracket rest) hset
        have hlast := eq_of_readListed_closing (nextItem_closing blanks_nil rest)
          (nextItem_closing hafter rest) hread
        exact ⟨id ∘ set, .item hreadAs (.done fields), hlast⟩
  | @more value padded text items hvalue hpadded hrest ih =>
    cases fields with
    | nil =>
      cases hread
      exact absurd hend (hopen _)
    | cons field fields =>
      rw [readListed, hnext] at hread
      dsimp only at hread
      split at hread
      · cases hread
      case h_2 set rest₁ hset =>
        rw [List.append_assoc, List.cons_append] at hset
        obtain ⟨after, hafter, rfl, hreadAs⟩ := isReadAs_of_item
          (hexact field List.mem_cons_self depth) hvalue hpadded (ends_comma (text ++ rest)) hset
        obtain ⟨first, tail, hfront, hstarts⟩ := hrest.front rest
        have hcomma : dropBlanks (after ++ Byte.comma :: (text ++ rest)) =
            Byte.comma :: (text ++ rest) :=
          dropBlanks_blanks_cons hafter (by decide) _
        obtain ⟨change, hplaces, hstate⟩ :=
          ih (fun field hmem => hexact field (List.mem_cons_of_mem _ hmem))
            (nextItem_value hafter hfront hstarts) (endArray_ne_ok hcomma (by decide)) hread
        exact ⟨change ∘ set, .item hreadAs hplaces, hstate⟩

/-- The bracket of an array leads to its items. -/
theorem decoder_read_array (record : Record σ) (depth : Nat) {before : List UInt8}
    (hbefore : Blanks before) (text : List UInt8) :
    (record.decoder.reader (depth + 1)).read (before ++ Byte.openBracket :: text) =
      closeArray (record.readListed depth record.fields 0 record.start firstItem text) := by
  have hfront : dropBlanks (before ++ Byte.openBracket :: text) = Byte.openBracket :: text :=
    dropBlanks_blanks_cons hbefore (by decide) text
  simp only [decoder, Decoder.arrayOr, Decoder.arrayReader, Decoder.readArray, hfront]
  rfl

/-- An array that is decoded has had its items read. -/
theorem exists_places_of_decode (hexact : record.IsExact) {text padded : List UInt8}
    {items : List (List UInt8)} (harray : IsArray text items) (hpadded : Padded text padded)
    {state : σ} (hdecode : record.decoder.decode padded = .ok state) :
    ∃ change, Places
        (fun field => IsReadAs (field.decoder.reader (Decoder.greatestDepth - 1)))
        record.fields items change ∧
      state = change record.start := by
  obtain ⟨before, after, hbefore, -, rfl⟩ := hpadded
  obtain ⟨inner, rfl⟩ := harray.front
  rw [Decoder.decode, List.cons_append] at hdecode
  have hopened := decoder_read_array record (Decoder.greatestDepth - 1) hbefore (inner ++ after)
  change (record.decoder.reader Decoder.greatestDepth).read _ = _ at hopened
  rw [hopened] at hdecode
  split at hdecode
  · cases hdecode
  case h_2 state' rest hclosed =>
    have hstate : state' = state := by
      split at hdecode
      · exact Except.ok.inj hdecode
      · cases hdecode
    subst hstate
    -- the items have been read up to the end of the array
    obtain ⟨inside, hlisted, hend⟩ : ∃ inside,
        record.readListed (Decoder.greatestDepth - 1) record.fields 0 record.start firstItem
          (inner ++ after) = .ok (state', inside) ∧ endArray inside = .ok rest := by
      unfold closeArray at hclosed
      split at hclosed
      case h_1 hlisted =>
        split at hclosed
        · cases hclosed
          exact ⟨_, hlisted, ‹_›⟩
        · cases hclosed
      · simp [stopHere] at hclosed
      · cases hclosed
    cases harray with
    | @empty blanks hblanks =>
      rw [List.append_assoc, List.singleton_append] at hlisted
      have hnone := eq_of_readListed_closing (firstItem_closing blanks_nil after)
        (firstItem_closing hblanks after) hlisted
      exact ⟨id, .done _, hnone⟩
    | items hitems =>
      obtain ⟨first, tail, hfront, hstarts⟩ := hitems.front after
      exact exists_places_of_readListed hitems hexact (firstItem_value hfront hstarts)
        (endArray_ne_ok hfront hstarts.2.1) hlisted hend

end Record

end ChatSteward.Json
