import ExpenseLedger.Amount
import ExpenseLedger.Proofs.Identifier.Respelled
import Mathlib.Algebra.Ring.Int.Defs
/-!
# Texts with identifiers in one spelling

A text is tidy if whatever in it spells an identifier is the identifier's own text. No spelling
reaches over a blank, so a text is tidy if its words are: short words spell nothing, and in the text
of an identifier there is no other spelling. Main statements:

* `Id.tidy_groupedChars`: the text of an identifier;
* `Id.Tidy.append_blank`: words with a blank between them;
* `Text.Tidy.append_of_getLast?`, `Text.Tidy.append_of_head?`: strings with a blank between them.
-/

namespace ExpenseLedger

namespace Id

/-- Whatever in the text spells an identifier is the text of that identifier. -/
def Tidy (cs : List Char) : Prop :=
  ∀ word, word <:+: cs → ∀ a, Spells word a → word = groupedChars a.digits

variable {p q cs word : List Char} {a : Id}

/-! ## Words -/

/-- What does not contain a character stands before it or behind it. -/
theorem infix_of_not_mem {c : Char} (h : word <:+: p ++ c :: q) (hc : c ∉ word) :
    word <:+: p ∨ word <:+: q := by
  have hnil {l : List Char} (hl : l <+: c :: q) (hmem : c ∉ l) : l = [] := by
    cases l with
    | nil => rfl
    | cons d l =>
      have hd : d = c := (List.cons_prefix_cons.1 hl).1
      exact absurd (hd ▸ List.mem_cons_self) hmem
  rcases List.infix_append_iff.1 h with hp | hq | ⟨front, back, rfl, hfront, hback⟩
  · exact .inl hp
  · rcases List.infix_cons_iff.1 hq with hprefix | hq
    · rw [hnil hprefix hc]
      exact .inl (List.nil_infix)
    · exact .inr hq
  · rw [hnil hback fun hmem => hc (List.mem_append_right front hmem), List.append_nil]
    exact .inl hfront.isInfix

/-- Short texts spell nothing. -/
theorem tidy_of_length_lt (h : cs.length < 32) : Tidy cs := by
  intro word hword a ha
  have := ha.length_ge
  have := hword.length_le
  omega

/-- **No spelling reaches over a blank.** -/
theorem Tidy.append_blank (hp : Tidy p) (hq : Tidy q) : Tidy (p ++ ' ' :: q) := by
  intro word hword a ha
  have hblank : ' ' ∉ word := fun hmem =>
    absurd (ha.mem_spellingChars hmem) (by decide +kernel)
  rcases infix_of_not_mem hword hblank with h | h
  · exact hp word h a ha
  · exact hq word h a ha

/-- Words that are tidy make up a text that is. -/
theorem tidy_intercalate {words : List (List Char)} (h : ∀ w ∈ words, Tidy w) :
    Tidy ([' '].intercalate words) := by
  induction words with
  | nil => exact tidy_of_length_lt (by decide)
  | cons w words ih =>
    obtain ⟨hw, hrest⟩ := List.forall_mem_cons.1 h
    cases words with
    | nil => simpa using hw
    | cons w' words =>
      have heq : [' '].intercalate (w :: w' :: words) = w ++ ' ' :: [' '].intercalate (w' :: words) := by
        simp
      rw [heq]
      exact hw.append_blank (ih hrest)

/-- A text of short words is tidy. -/
theorem tidy_of_short_words (h : ∀ w ∈ cs.splitOn ' ', w.length < 32) : Tidy cs := by
  have hwords : [' '].intercalate (cs.splitOn ' ') = cs := List.intercalate_splitOn ' '
  rw [← hwords]
  exact tidy_intercalate fun w hw => tidy_of_length_lt (h w hw)

/-! ## Texts of identifiers -/

/-- The characters of a grouped text are hyphens and lowercase digits. -/
theorem mem_groupedChars {ds : List HexDigit} {c : Char} (h : c ∈ groupedChars ds) :
    c = '-' ∨ ∃ d : HexDigit, c = d.char := by
  have hdigit {es : List HexDigit} (hc : c ∈ digitChars es) : ∃ d : HexDigit, c = d.char := by
    obtain ⟨d, -, rfl⟩ := List.mem_map.1 hc
    exact ⟨d, rfl⟩
  simp only [groupedChars, List.mem_append, List.mem_cons] at h
  rcases h with (((h | h | h) | h | h) | h | h) | h | h
  all_goals first | exact .inl h | exact .inr (hdigit h)

/-- There are thirty-two digits in a row nowhere in a grouped text. -/
theorem length_of_infix_groupedChars {ds : List HexDigit} (hds : ds.length = 32)
    (h : word <:+: groupedChars ds) (hhyphen : '-' ∉ word) : word.length ≤ 12 := by
  have hgroup {es : List HexDigit} (hes : es.length ≤ 12) (h : word <:+: digitChars es) :
      word.length ≤ 12 := by
    refine Nat.le_trans h.length_le ?_
    rwa [length_digitChars]
  unfold groupedChars at h
  rcases infix_of_not_mem h hhyphen with h | h
  · rcases infix_of_not_mem h hhyphen with h | h
    · rcases infix_of_not_mem h hhyphen with h | h
      · rcases infix_of_not_mem h hhyphen with h | h
        · exact hgroup (by simp [hds]) h
        · exact hgroup (by simp [hds]) h
      · exact hgroup (by simp [hds]) h
    · exact hgroup (by simp [hds]) h
  · exact hgroup (by simp [hds]) h

/-- **The text of an identifier holds no other spelling.** -/
theorem tidy_groupedChars (a : Id) : Tidy (groupedChars a.digits) := by
  intro word hword b hb
  have hchars : ∀ c ∈ word, c = '-' ∨ ∃ d : HexDigit, c = d.char := fun c hc =>
    mem_groupedChars (hword.subset hc)
  have hdigit (d : HexDigit) : d.char.toLower = d.char ∧ d.char ≠ '-' ∧ d.char ≠ '\x7b' ∧
      d.char ≠ 'u' := by
    revert d
    decide +kernel
  -- The text is in lowercase already, so that a spelling in it is one of the four forms.
  have hlower : word.map Char.toLower = word := by
    conv_rhs => rw [← List.map_id word]
    refine List.map_congr_left fun c hc => ?_
    rcases hchars c hc with rfl | ⟨d, rfl⟩
    · rfl
    · exact (hdigit d).1
  have hlength := hb.length_ge
  rw [Spells, hlower] at hb
  simp only [forms, List.mem_cons, List.not_mem_nil, or_false] at hb
  rcases hb with hb | hb | hb | hb
  · exact hb
  · -- There are no hyphens between the digits, but there are hyphens in the text.
    have hhyphen : '-' ∉ word := by
      rw [hb]
      intro hmem
      obtain ⟨d, -, hd⟩ := List.mem_map.1 hmem
      exact (hdigit d).2.1 hd
    have := length_of_infix_groupedChars a.length_digits hword hhyphen
    omega
  · rcases hchars '\x7b' (by simp [hb]) with h | ⟨d, hd⟩
    · contradiction
    · exact absurd hd.symm (hdigit d).2.2.1
  · rcases hchars 'u' (by simp [hb, namespaceChars]) with h | ⟨d, hd⟩
    · contradiction
    · exact absurd hd.symm (hdigit d).2.2.2

end Id

/-! ## Strings -/

/-- Whatever in the string spells an identifier is the text of that identifier. -/
def Text.Tidy (s : String) : Prop := Id.Tidy s.toList

namespace Text

variable {s t : String}

/-- A string of short words is tidy. -/
theorem tidy_of_short_words (h : ∀ w ∈ s.toList.splitOn ' ', w.length < 32) : Tidy s :=
  Id.tidy_of_short_words h

/-- Strings with a blank at the end of the first. -/
theorem Tidy.append_of_getLast? (hs : Tidy s) (ht : Tidy t) (h : s.toList.getLast? = some ' ') :
    Tidy (s ++ t) := by
  obtain ⟨p, hp⟩ := List.getLast?_eq_some_iff.1 h
  have hfront : Id.Tidy p := fun word hword =>
    hs word (hword.trans (hp ▸ (List.prefix_append p [' ']).isInfix))
  unfold Tidy at *
  rw [String.toList_append, hp, List.append_assoc]
  exact hfront.append_blank ht

/-- Strings with a blank at the beginning of the second. -/
theorem Tidy.append_of_head? (hs : Tidy s) (ht : Tidy t) (h : t.toList.head? = some ' ') :
    Tidy (s ++ t) := by
  obtain ⟨q, hq⟩ := List.head?_eq_some_iff.1 h
  have hback : Id.Tidy q := fun word hword =>
    ht word (hword.trans (hq ▸ (List.suffix_cons ' ' q).isInfix))
  unfold Tidy at *
  rw [String.toList_append, hq]
  exact hs.append_blank hback

/-- **Words around a string**, with blanks between them. -/
theorem Tidy.between (hs : Tidy s) {front back : String}
    (hfront : (∀ w ∈ front.toList.splitOn ' ', w.length < 32) ∧ front.toList.getLast? = some ' ')
    (hback : (∀ w ∈ back.toList.splitOn ' ', w.length < 32) ∧ back.toList.head? = some ' ') :
    Tidy (front ++ (s ++ back)) := by
  refine (tidy_of_short_words hfront.1).append_of_getLast? ?_ hfront.2
  exact hs.append_of_head? (tidy_of_short_words hback.1) hback.2

/-- Words around two strings, with blanks between them. -/
theorem Tidy.between₂ (hs : Tidy s) (ht : Tidy t) {front mid : String}
    (hfront : (∀ w ∈ front.toList.splitOn ' ', w.length < 32) ∧ front.toList.getLast? = some ' ')
    (hmid : (∀ w ∈ mid.toList.splitOn ' ', w.length < 32) ∧ mid.toList.head? = some ' ' ∧
      mid.toList.getLast? = some ' ') :
    Tidy (front ++ (s ++ (mid ++ t))) := by
  refine (tidy_of_short_words hfront.1).append_of_getLast? ?_ hfront.2
  refine hs.append_of_head? ((tidy_of_short_words hmid.1).append_of_getLast? ht hmid.2.2) ?_
  rw [String.toList_append, List.head?_append, hmid.2.1]
  rfl

/-- The text of a user. -/
theorem tidy_user (u : UserId) : Tidy u.text := by
  unfold Tidy UserId.text Id.text
  rw [String.toList_ofList]
  exact Id.tidy_groupedChars u.id

/-- The text of a group identifier. -/
theorem tidy_group (g : GroupId) : Tidy g.text := by
  unfold Tidy GroupId.text Id.text
  rw [String.toList_ofList]
  exact Id.tidy_groupedChars g.id

/-- Numbers of at most thirty-one digits. -/
theorem tidy_toString {n : Nat} (h : n < 10 ^ 31) : Tidy (toString n) := by
  refine Id.tidy_of_length_lt (Nat.lt_succ_of_le ?_)
  rw [Nat.toString_eq_ofList_toDigits, String.toList_ofList]
  exact (Nat.length_toDigits_le_iff (by decide) (by decide)).2 h

/-- Amounts of at most thirty-one digits. -/
theorem tidy_amount {a : Int} (h : 0 ≤ a) (hlt : a < 10 ^ 31) : Tidy (Amount.text a) := by
  refine Id.tidy_of_length_lt (Nat.lt_succ_of_le ?_)
  have hdigits : (Nat.toDigits 10 a.natAbs).length ≤ 31 :=
    (Nat.length_toDigits_le_iff (by decide) (by decide)).2 (by omega)
  unfold Amount.text integerChars
  rw [String.toList_ofList, if_neg (by omega)]
  exact hdigits

end Text

end ExpenseLedger
