import ExpenseLedger.Proofs.Identifier.Order
import ExpenseLedger.Proofs.Remote.Entries
/-!
# One text for each identifier

Of the spellings of an identifier one is canonical: its text, in thirty-six characters of which
hyphens stand at four fixed places and lowercase digits at the others. Users and groups are shown
and read in the same way, which `Id.Legible` sums up, and the keys of the cache are made of the
texts of users. Main statements:

* `Id.eq_text_iff`: a text is that of an identifier exactly when it is its canonical spelling;
* `Id.legible_of_id`: what holds of any kind of identifiers;
* `Cache.texts_and_keys_apart`: users, groups and keys.
-/

namespace ExpenseLedger

/-! ## Canonical texts -/

/-- What stands for a character in the pattern of a text: a hyphen for a hyphen, and a cross for a
lowercase digit. -/
def Text.patternChar (c : Char) : Char :=
  if c = '-' then '-' else if c ∈ "0123456789abcdef".toList then 'x' else '?'

/-- The pattern of a canonical text: thirty-two digits in five groups. -/
def Text.canonicalPattern : List Char := "xxxxxxxx-xxxx-xxxx-xxxx-xxxxxxxxxxxx".toList

/-- The text has the canonical pattern. -/
def Text.Canonical (s : String) : Prop := s.toList.map patternChar = canonicalPattern

instance (s : String) : Decidable (Text.Canonical s) := inferInstanceAs (Decidable (_ = _))

/-- A canonical text has thirty-six characters. -/
theorem Text.Canonical.length_eq {s : String} (h : Text.Canonical s) : s.toList.length = 36 := by
  have hlength := congrArg List.length h
  rwa [List.length_map] at hlength

/-- A canonical text is in lowercase. -/
theorem Text.Canonical.map_toLower {s : String} (h : Text.Canonical s) :
    s.toList.map Char.toLower = s.toList := by
  have hdigits : "0123456789abcdef".toList.all (fun c => c.toLower == c) = true := by
    decide +kernel
  have hlower (c : Char) (hc : patternChar c = '-' ∨ patternChar c = 'x') : c.toLower = c := by
    unfold patternChar at hc
    split at hc
    · rename_i hhyphen
      rw [hhyphen]
      rfl
    · split at hc
      · rename_i hdigit
        exact eq_of_beq (List.all_eq_true.1 hdigits c hdigit)
      · exact absurd hc (by decide)
  have hpattern : canonicalPattern.all (fun p => p == '-' || p == 'x') = true := by decide +kernel
  conv_rhs => rw [← List.map_id s.toList]
  refine List.map_congr_left fun c hc => hlower c ?_
  have hmem : patternChar c ∈ canonicalPattern := by
    rw [← h]
    exact List.mem_map_of_mem hc
  simpa using List.all_eq_true.1 hpattern _ hmem

namespace Id

/-- Digits have crosses in the pattern. -/
theorem map_patternChar_digitChars (ds : List HexDigit) :
    (digitChars ds).map Text.patternChar = List.replicate ds.length 'x' := by
  have hdigit : ∀ d : HexDigit, Text.patternChar d.char = 'x' := by decide +kernel
  rw [digitChars, List.map_map, ← List.map_const]
  exact List.map_congr_left fun d _ => hdigit d

/-- **The text of an identifier is canonical.** -/
theorem canonical_text (a : Id) : Text.Canonical a.text := by
  unfold Text.Canonical text
  rw [String.toList_ofList, groupedChars]
  simp only [List.map_append, List.map_cons, map_patternChar_digitChars, List.length_take,
    List.length_drop, a.length_digits]
  decide +kernel

/-- **Of the spellings of an identifier only its text is canonical.** -/
theorem eq_text_of_canonical {s : String} {a : Id} (hs : Spells s.toList a)
    (h : Text.Canonical s) : s = a.text := by
  have hlength := h.length_eq
  have hgrouped := length_groupedChars a
  have hplain : (digitChars a.digits).length = 32 := by
    rw [length_digitChars, a.length_digits]
  -- The forms differ in length.
  have hchars : s.toList = groupedChars a.digits := by
    unfold Spells at hs
    rw [h.map_toLower] at hs
    simp only [forms, List.mem_cons, List.not_mem_nil, or_false] at hs
    rcases hs with hs | hs | hs | hs
    · exact hs
    · rw [hs, hplain] at hlength
      contradiction
    · rw [hs, List.length_append, List.length_cons, hgrouped] at hlength
      contradiction
    · rw [hs, List.length_append, hgrouped] at hlength
      contradiction
  rw [text, ← hchars, String.ofList_toList]

/-- **A text is that of an identifier exactly when it spells it and is canonical.** -/
theorem eq_text_iff (s : String) (a : Id) :
    s = a.text ↔ ofText? s = some a ∧ Text.Canonical s := by
  rw [ofText?_eq_some_iff]
  constructor
  · rintro rfl
    exact ⟨spells_text a, canonical_text a⟩
  · rintro ⟨hs, h⟩
    exact eq_text_of_canonical hs h

/-! ## Kinds of identifiers -/

/-- Identifiers of one kind are told from each other by their texts, whichever spelling is read. -/
structure Legible {ι : Type} [LT ι] (id : ι → Id) (text : ι → String)
    (ofText? : String → Option ι) : Prop where
  /-- An identifier is read back from its text. -/
  readsBack : ∀ a, ofText? (text a) = some a
  /-- A text is read exactly when it is one of the forms of the identifier. -/
  reads : ∀ s a, ofText? s = some a ↔ Spells s.toList (id a)
  /-- Every spelling of an identifier, and nothing else, is shown as the text of the identifier. -/
  shows : ∀ s a, (ofText? s).map text = some (text a) ↔ Spells s.toList (id a)
  /-- Of all texts that are read as an identifier, its own text is the canonical one. -/
  canonical : ∀ s a, s = text a ↔ ofText? s = some a ∧ Text.Canonical s
  /-- The bytes of the texts are ordered as the identifiers. -/
  bytes : ∀ a b, Text.bytes (text a) < Text.bytes (text b) ↔ a < b
  /-- The sixteen octets are ordered as the identifiers. -/
  octets : ∀ a b, (id a).octets < (id b).octets ↔ a < b
  /-- The numbers are ordered as the identifiers. -/
  numbers : ∀ a b, (id a).number < (id b).number ↔ a < b
  /-- The numbers are those of 128 bits. -/
  numbered : ∀ n, (∃ a, (id a).number = n) ↔ n < 2 ^ 128

/-- **Identifiers that are shown, read and compared as what they hold** can be told by their
texts. -/
theorem legible_of_id {ι : Type} [LT ι] {id : ι → Id} {text : ι → String}
    {ofText? : String → Option ι} (mk : Id → ι) (hid : ∀ a, id (mk a) = a)
    (hmk : ∀ x, mk (id x) = x) (htext : ∀ x, text x = (id x).text)
    (hread : ∀ s, ofText? s = (Id.ofText? s).map mk) (hlt : ∀ x y, x < y ↔ id x < id y) :
    Legible id text ofText? := by
  have hreads (s : String) (x : ι) : ofText? s = some x ↔ Id.ofText? s = some (id x) := by
    rw [hread, Option.map_eq_some_iff]
    constructor
    · rintro ⟨a, ha, rfl⟩
      rw [ha, hid]
    · exact fun h => ⟨id x, h, hmk x⟩
  have hback (x : ι) : ofText? (text x) = some x := by
    rw [hreads, htext, Id.ofText?_text]
  constructor
  case readsBack => exact hback
  case reads =>
    intro s x
    rw [hreads, ofText?_eq_some_iff]
  case shows =>
    intro s x
    rw [← ofText?_eq_some_iff, ← hreads, Option.map_eq_some_iff]
    constructor
    · -- Identifiers with the same text are the same, as they are read back from it.
      rintro ⟨y, hy, htexts⟩
      have hxy := hback y
      rw [htexts, hback] at hxy
      rw [hy, hxy]
    · exact fun h => ⟨x, h, rfl⟩
  case canonical =>
    intro s x
    rw [htext, eq_text_iff, hreads]
  case bytes =>
    intro x y
    rw [htext, htext, bytes_text_lt_iff, hlt]
  case octets =>
    intro x y
    rw [octets_lt_iff, hlt]
  case numbers =>
    intro x y
    rw [number_lt_iff, hlt]
  case numbered =>
    intro n
    constructor
    · rintro ⟨x, rfl⟩
      exact number_lt (id x)
    · intro hn
      refine ⟨mk (ofNat n), ?_⟩
      rw [hid, number_ofNat, Nat.mod_eq_of_lt hn]

end Id

/-- Users can be told by their texts. -/
theorem UserId.legible : Id.Legible UserId.id UserId.text UserId.ofText? :=
  Id.legible_of_id UserId.mk (fun _ => rfl) (fun _ => rfl) (fun _ => rfl) (fun _ => rfl)
    fun _ _ => Iff.rfl

/-- Groups can be told by their texts. -/
theorem GroupId.legible : Id.Legible GroupId.id GroupId.text GroupId.ofText? :=
  Id.legible_of_id GroupId.mk (fun _ => rfl) (fun _ => rfl) (fun _ => rfl) (fun _ => rfl)
    fun _ _ => Iff.rfl

/-! ## Keys -/

/-- **Identifiers have one text each, in their own order, and no two keys of the cache are the
same.** Users and groups are read back from their texts and from every other spelling, which is
then shown as the one canonical text; the bytes of the texts are in the order of the identifiers.
Hashes of different users have different keys, and so do their markers, and a hash never has the
key of a marker. -/
theorem Cache.texts_and_keys_apart :
    Id.Legible UserId.id UserId.text UserId.ofText? ∧
      Id.Legible GroupId.id GroupId.text GroupId.ofText? ∧
      (∀ u v, balanceKey u = balanceKey v ↔ u = v) ∧
      (∀ u v, cachedKey u = cachedKey v ↔ u = v) ∧
      ∀ u v, balanceKey u ≠ cachedKey v :=
  ⟨UserId.legible, GroupId.legible, fun _ _ => balanceKey_injective.eq_iff,
    fun _ _ => cachedKey_injective.eq_iff, balanceKey_ne_cachedKey⟩

/-- The form in braces, in capitals, is shown in lowercase and without braces. -/
example :
    (UserId.ofText? "\x7bAAAAAAAA-0000-4000-8000-00000000000A\x7d").map UserId.text =
      some "aaaaaaaa-0000-4000-8000-00000000000a" := by
  decide +kernel

end ExpenseLedger
