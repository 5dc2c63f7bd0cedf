import ExpenseLedger.Proofs.Text.Integer
/-!
# The texts that are read as an amount

`Text.Numeral` is the grammar of decimal integers: digits, at least one, after at most one sign. A
text is read as an amount exactly when it is a numeral with blanks around it, and the value can be
stored. Main statements:

* `Text.readInteger_eq_ok_iff`: reading accepts exactly the numerals within the bounds;
* `Text.trimChars_eq_iff`: trimming takes off exactly the blanks at the two ends;
* `Amount.ofText_trim_eq_ok_iff`: which texts stand for an amount.
-/

namespace ExpenseLedger.Text

/-! ## Numerals -/

/-- The characters are decimal digits, at least one, after at most one sign, and this is the value
that they have. -/
inductive Numeral : List Char → Int → Prop where
  /-- Digits without a sign. -/
  | unsigned (ds : List Char) (hne : ds ≠ []) (hd : ∀ c ∈ ds, c.isDigit = true) :
      Numeral ds (Nat.ofDigitChars 10 ds 0)
  /-- Digits after a plus sign. -/
  | positive (ds : List Char) (hne : ds ≠ []) (hd : ∀ c ∈ ds, c.isDigit = true) :
      Numeral ('+' :: ds) (Nat.ofDigitChars 10 ds 0)
  /-- Digits after a minus sign. -/
  | negative (ds : List Char) (hne : ds ≠ []) (hd : ∀ c ∈ ds, c.isDigit = true) :
      Numeral ('-' :: ds) (-(Nat.ofDigitChars 10 ds 0))

/-- What is read upwards is the value that the digits spell. -/
theorem eq_of_readUpwards (hi a : Int) (cs : List Char) (acc : Nat)
    (h : readUpwards hi acc cs = .ok a) : a = Nat.ofDigitChars 10 cs acc := by
  induction cs generalizing acc with
  | nil =>
    cases h
    simp
  | cons c cs ih =>
    have hc := isDigit_of_readUpwards hi acc a (c :: cs) h c List.mem_cons_self
    unfold readUpwards at h
    rw [digit?_of_isDigit c hc] at h
    dsimp only at h
    split at h
    · rw [Nat.ofDigitChars_cons]
      refine ih (10 * acc + (c.toNat - '0'.toNat)) ?_
      rw [← h]
      congr 1
      have : '0'.toNat = 48 := rfl
      omega
    · contradiction

/-- What is read downwards is the negative of the value that the digits spell. -/
theorem eq_of_readDownwards (lo a : Int) (cs : List Char) (acc : Nat)
    (h : readDownwards lo (-(acc : Int)) cs = .ok a) : a = -(Nat.ofDigitChars 10 cs acc : Nat) := by
  induction cs generalizing acc with
  | nil =>
    cases h
    simp
  | cons c cs ih =>
    have hc := isDigit_of_readDownwards lo _ a (c :: cs) h c List.mem_cons_self
    unfold readDownwards at h
    rw [digit?_of_isDigit c hc] at h
    dsimp only at h
    split at h
    · rw [Nat.ofDigitChars_cons]
      refine ih (10 * acc + (c.toNat - '0'.toNat)) ?_
      rw [← h]
      congr 1
      have : '0'.toNat = 48 := rfl
      omega
    · contradiction

/-- What is read as an integer is a numeral of it. -/
theorem numeral_of_readInteger (lo hi a : Int) (cs : List Char)
    (h : readInteger lo hi cs = .ok a) : Numeral cs a := by
  unfold readInteger at h
  split at h
  · contradiction
  · contradiction
  · contradiction
  · rename_i cs hne
    rw [eq_of_readUpwards hi a cs 0 h]
    exact .positive cs (fun hnil => hne (by rw [hnil])) (isDigit_of_readUpwards hi 0 a cs h)
  · rename_i cs hne
    split at h
    · rw [eq_of_readDownwards lo a cs 0 h]
      exact .negative cs (fun hnil => hne (by rw [hnil])) (isDigit_of_readDownwards lo 0 a cs h)
    · contradiction
  · rename_i hne _ _ _ _
    rw [eq_of_readUpwards hi a cs 0 h]
    exact .unsigned cs (fun hnil => hne (by rw [hnil])) (isDigit_of_readUpwards hi 0 a cs h)

/-- **Reading accepts exactly the numerals of the integers within the bounds.** -/
theorem readInteger_eq_ok_iff (lo hi a : Int) (hlo : lo < 0) (hhi : 0 ≤ hi) (cs : List Char) :
    readInteger lo hi cs = .ok a ↔ Numeral cs a ∧ lo ≤ a ∧ a ≤ hi := by
  constructor
  · intro h
    exact ⟨numeral_of_readInteger lo hi a cs h,
      bounds_of_readInteger lo hi a cs (Int.le_of_lt hlo) hhi h⟩
  · rintro ⟨hnumeral, hla, hah⟩
    cases hnumeral with
    | unsigned ds hne hd =>
      obtain ⟨c, cs, rfl⟩ := List.exists_cons_of_ne_nil hne
      rw [readInteger_of_isDigit lo hi c cs (hd c List.mem_cons_self)]
      exact readUpwards_of_isDigit hi (c :: cs) 0 hd hah
    | positive ds hne hd =>
      obtain ⟨c, cs, rfl⟩ := List.exists_cons_of_ne_nil hne
      exact readUpwards_of_isDigit hi (c :: cs) 0 hd hah
    | negative ds hne hd =>
      obtain ⟨c, cs, rfl⟩ := List.exists_cons_of_ne_nil hne
      simp only [readInteger, if_pos hlo]
      exact readDownwards_of_isDigit lo (c :: cs) 0 hd hla

/-- A numeral is not empty and neither begins nor ends with a blank. -/
theorem Numeral.isBlank {cs : List Char} {a : Int} (h : Numeral cs a) :
    cs ≠ [] ∧ ∀ c ∈ cs, isBlank c = false := by
  cases h with
  | unsigned ds hne hd => exact ⟨hne, fun c hc => isBlank_of_isDigit c (hd c hc)⟩
  | positive ds hne hd =>
    refine ⟨List.cons_ne_nil _ _, fun c hc => ?_⟩
    rcases List.mem_cons.1 hc with rfl | hc
    · rfl
    · exact isBlank_of_isDigit c (hd c hc)
  | negative ds hne hd =>
    refine ⟨List.cons_ne_nil _ _, fun c hc => ?_⟩
    rcases List.mem_cons.1 hc with rfl | hc
    · rfl
    · exact isBlank_of_isDigit c (hd c hc)

/-! ## Blanks at the ends -/

/-- Blanks in front are dropped, up to the first other character. -/
theorem dropBlanks_append (front cs : List Char) (hfront : ∀ c ∈ front, isBlank c = true)
    (hcs : ∀ c ∈ cs.head?, isBlank c = false) : dropBlanks (front ++ cs) = cs := by
  unfold dropBlanks
  rw [List.dropWhile_append_of_pos hfront]
  exact dropBlanks_eq_self cs hcs

/-- What is dropped in front are blanks. -/
theorem exists_blanks_dropBlanks (cs : List Char) :
    ∃ front, cs = front ++ dropBlanks cs ∧ ∀ c ∈ front, isBlank c = true :=
  ⟨cs.takeWhile isBlank, List.takeWhile_append_dropWhile.symm, List.all_eq_true.1 List.all_takeWhile⟩

/-- **Trimming takes off the blanks at the two ends, all of them and nothing else.** -/
theorem trimChars_eq_iff (cs mid : List Char) (hne : mid ≠ [])
    (hmid : ∀ c ∈ mid, isBlank c = false) :
    trimChars cs = mid ↔ ∃ front back, cs = front ++ mid ++ back ∧
      (∀ c ∈ front, isBlank c = true) ∧ ∀ c ∈ back, isBlank c = true := by
  constructor
  · rintro rfl
    obtain ⟨front, hfront, hblank⟩ := exists_blanks_dropBlanks cs
    obtain ⟨back, hback, hblank'⟩ := exists_blanks_dropBlanks (dropBlanks cs).reverse
    refine ⟨front, back.reverse, ?_, hblank, fun c hc => hblank' c (List.mem_reverse.1 hc)⟩
    have hsplit : dropBlanks cs = trimChars cs ++ back.reverse := by
      unfold trimChars
      rw [← List.reverse_append, ← hback, List.reverse_reverse]
    rw [List.append_assoc, ← hsplit]
    exact hfront
  · rintro ⟨front, back, rfl, hfront, hback⟩
    have hhead : ∀ c ∈ (mid ++ back).head?, isBlank c = false := by
      intro c hc
      obtain ⟨d, rest, rfl⟩ := List.exists_cons_of_ne_nil hne
      exact hmid c (List.mem_of_mem_head? hc)
    have hlast : ∀ c ∈ mid.reverse.head?, isBlank c = false := fun c hc =>
      hmid c (List.mem_reverse.1 (List.mem_of_mem_head? hc))
    unfold trimChars
    rw [List.append_assoc, dropBlanks_append front _ hfront hhead, List.reverse_append,
      dropBlanks_append back.reverse _ (fun c hc => hback c (List.mem_reverse.1 hc)) hlast,
      List.reverse_reverse]

end ExpenseLedger.Text

namespace ExpenseLedger.Amount

/-- The text stands for the amount: it is a numeral of it, with blanks around, and the amount can be
stored. -/
def Denotes (s : String) (a : Int) : Prop :=
  Storable a ∧ ∃ front numeral back, s.toList = front ++ numeral ++ back ∧
    (∀ c ∈ front, Text.isBlank c = true) ∧ (∀ c ∈ back, Text.isBlank c = true) ∧
    Text.Numeral numeral a

/-- **What is read as an amount between blanks are the texts that stand for it.** -/
theorem ofText_trim_eq_ok_iff (s : String) (a : Int) :
    ofText (Text.trim s) = .ok a ↔ Denotes s a := by
  unfold ofText Text.trim
  rw [String.toList_ofList, Text.readInteger_eq_ok_iff _ _ _ (by decide) (by decide)]
  constructor
  · rintro ⟨hnumeral, hstorable⟩
    obtain ⟨hne, hblank⟩ := hnumeral.isBlank
    obtain ⟨front, back, hs, hfront, hback⟩ :=
      (Text.trimChars_eq_iff s.toList _ hne hblank).1 rfl
    exact ⟨hstorable, front, _, back, hs, hfront, hback, hnumeral⟩
  · rintro ⟨hstorable, front, numeral, back, hs, hfront, hback, hnumeral⟩
    obtain ⟨hne, hblank⟩ := hnumeral.isBlank
    rw [(Text.trimChars_eq_iff s.toList numeral hne hblank).2 ⟨front, back, hs, hfront, hback⟩]
    exact ⟨hnumeral, hstorable⟩

end ExpenseLedger.Amount
