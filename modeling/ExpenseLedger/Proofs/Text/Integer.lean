import ExpenseLedger.Amount
import ExpenseLedger.Text.Blank
/-!
# Written integers are read back

The digits that `Text.integerChars` writes are read by `Text.readInteger` as the integer they were
written for, and whatever `readInteger` accepts holds no blank. For amounts this says:

* `Amount.ofText_text`: the text of a storable amount is read as that amount;
* `Amount.trim_eq_self`: a text that is read as an amount has no blanks to trim.
-/

namespace ExpenseLedger.Text

/-! ## Digits -/

/-- The characters with a digit value are the decimal digits. -/
theorem digit?_of_isDigit (c : Char) (h : c.isDigit = true) : digit? c = some (c.toNat - 48) := by
  unfold digit?
  rw [if_pos]
  simpa [Char.isDigit, Char.le_def] using h

/-- A character with a digit value is a decimal digit. -/
theorem isDigit_of_digit? (c : Char) (d : Nat) (h : digit? c = some d) : c.isDigit = true := by
  unfold digit? at h
  split at h
  · rename_i hc
    simpa [Char.isDigit, Char.le_def] using hc
  · contradiction

/-- No digit is blank. -/
theorem isBlank_of_isDigit (c : Char) (h : c.isDigit = true) : isBlank c = false := by
  have hc : 48 ≤ c.toNat ∧ c.toNat ≤ 57 := by
    simp only [Char.isDigit, ge_iff_le, Bool.and_eq_true, decide_eq_true_eq,
      UInt32.le_iff_toNat_le] at h
    exact h
  simp only [isBlank, Bool.or_eq_false_iff, Bool.and_eq_false_iff, decide_eq_false_iff_not,
    beq_eq_false_iff_ne]
  omega

/-- Reading more digits never makes the value smaller. -/
theorem le_ofDigitChars (cs : List Char) (acc : Nat) : acc ≤ Nat.ofDigitChars 10 cs acc := by
  induction cs generalizing acc with
  | nil => simp
  | cons c cs ih =>
    rw [Nat.ofDigitChars_cons]
    have := ih (10 * acc + (c.toNat - '0'.toNat))
    omega

/-- Digits are read upwards to the value that they spell, if it is within the bound. -/
theorem readUpwards_of_isDigit (hi : Int) (cs : List Char) (acc : Nat)
    (hd : ∀ c ∈ cs, c.isDigit = true) (hhi : (Nat.ofDigitChars 10 cs acc : Int) ≤ hi) :
    readUpwards hi acc cs = .ok (Nat.ofDigitChars 10 cs acc : Nat) := by
  induction cs generalizing acc with
  | nil => simp [readUpwards]
  | cons c cs ih =>
    rw [Nat.ofDigitChars_cons] at hhi ⊢
    have hle := le_ofDigitChars cs (10 * acc + (c.toNat - '0'.toNat))
    have hval : (acc : Int) * 10 + ((c.toNat - 48 : Nat) : Int)
        = ((10 * acc + (c.toNat - '0'.toNat) : Nat) : Int) := by
      have : '0'.toNat = 48 := rfl
      omega
    unfold readUpwards
    rw [digit?_of_isDigit c (hd c List.mem_cons_self)]
    simp only [hval]
    rw [if_pos (by omega)]
    exact ih _ (fun d hm => hd d (List.mem_cons_of_mem _ hm)) hhi

/-- Digits are read downwards to the negative of the value that they spell, if it is within the
bound. -/
theorem readDownwards_of_isDigit (lo : Int) (cs : List Char) (acc : Nat)
    (hd : ∀ c ∈ cs, c.isDigit = true) (hlo : lo ≤ -(Nat.ofDigitChars 10 cs acc : Int)) :
    readDownwards lo (-(acc : Int)) cs = .ok (-(Nat.ofDigitChars 10 cs acc : Nat)) := by
  induction cs generalizing acc with
  | nil => simp [readDownwards]
  | cons c cs ih =>
    rw [Nat.ofDigitChars_cons] at hlo ⊢
    have hle := le_ofDigitChars cs (10 * acc + (c.toNat - '0'.toNat))
    have hval : -(acc : Int) * 10 - ((c.toNat - 48 : Nat) : Int)
        = -((10 * acc + (c.toNat - '0'.toNat) : Nat) : Int) := by
      have : '0'.toNat = 48 := rfl
      omega
    unfold readDownwards
    rw [digit?_of_isDigit c (hd c List.mem_cons_self)]
    simp only [hval]
    rw [if_pos (by omega)]
    exact ih _ (fun d hm => hd d (List.mem_cons_of_mem _ hm)) hlo

/-! ## Signs -/

/-- Text that begins with a digit is read upwards. -/
theorem readInteger_of_isDigit (lo hi : Int) (c : Char) (cs : List Char) (h : c.isDigit = true) :
    readInteger lo hi (c :: cs) = readUpwards hi 0 (c :: cs) := by
  have hplus : c ≠ '+' := by
    rintro rfl
    contradiction
  have hminus : c ≠ '-' := by
    rintro rfl
    contradiction
  unfold readInteger
  split
  · rename_i heq
    cases heq
  · rename_i heq
    exact absurd (List.cons.inj heq).1 hplus
  · rename_i heq
    exact absurd (List.cons.inj heq).1 hminus
  · rename_i heq
    exact absurd (List.cons.inj heq).1 hplus
  · rename_i heq
    exact absurd (List.cons.inj heq).1 hminus
  · rfl

/-- Written digits of a natural number: there are some, and all of them are digits. -/
theorem exists_naturalChars (n : Nat) :
    ∃ c cs, naturalChars n = c :: cs ∧ ∀ d ∈ c :: cs, d.isDigit = true := by
  obtain ⟨c, cs, h⟩ := List.exists_cons_of_ne_nil (Nat.toDigits_ne_nil (n := n) (b := 10))
  refine ⟨c, cs, h, fun d hd => ?_⟩
  rw [← h] at hd
  exact Nat.isDigit_of_mem_toDigits (by decide) (by decide) hd

/-- **The text of an integer within the bounds is read as that integer.** -/
theorem readInteger_integerChars (lo hi a : Int) (hneg : lo < 0) (hlo : lo ≤ a) (hhi : a ≤ hi) :
    readInteger lo hi (integerChars a) = .ok a := by
  have hval := Nat.ofDigitChars_ten_toDigits (n := a.natAbs)
  obtain ⟨c, cs, hcs, hd⟩ := exists_naturalChars a.natAbs
  have hdigits : Nat.toDigits 10 a.natAbs = c :: cs := hcs
  rw [hdigits] at hval
  unfold integerChars
  rw [hcs]
  split
  · rename_i ha
    have h := readDownwards_of_isDigit lo (c :: cs) 0 hd (by rw [hval]; omega)
    rw [hval] at h
    simp only [readInteger, if_pos hneg]
    refine Eq.trans h (congrArg Except.ok ?_)
    omega
  · rename_i ha
    have h := readUpwards_of_isDigit hi (c :: cs) 0 hd (by rw [hval]; omega)
    rw [hval] at h
    rw [readInteger_of_isDigit lo hi c cs (hd c List.mem_cons_self)]
    refine Eq.trans h (congrArg Except.ok ?_)
    omega

/-! ## Bounds -/

/-- What is read upwards grows up to the bound. -/
theorem le_of_readUpwards (hi acc a : Int) (cs : List Char) (hacc : 0 ≤ acc) (hle : acc ≤ hi)
    (h : readUpwards hi acc cs = .ok a) : 0 ≤ a ∧ a ≤ hi := by
  induction cs generalizing acc with
  | nil =>
    cases h
    exact ⟨hacc, hle⟩
  | cons c cs ih =>
    unfold readUpwards at h
    split at h
    · contradiction
    · split at h
      · rename_i hnext
        exact ih _ (by omega) hnext h
      · contradiction

/-- What is read downwards shrinks down to the bound. -/
theorem ge_of_readDownwards (lo acc a : Int) (cs : List Char) (hacc : acc ≤ 0) (hle : lo ≤ acc)
    (h : readDownwards lo acc cs = .ok a) : lo ≤ a ∧ a ≤ 0 := by
  induction cs generalizing acc with
  | nil =>
    cases h
    exact ⟨hle, hacc⟩
  | cons c cs ih =>
    unfold readDownwards at h
    split at h
    · contradiction
    · split at h
      · rename_i hnext
        exact ih _ (by omega) hnext h
      · contradiction

/-- **What is read as an integer lies within the bounds.** -/
theorem bounds_of_readInteger (lo hi a : Int) (cs : List Char) (hlo : lo ≤ 0) (hhi : 0 ≤ hi)
    (h : readInteger lo hi cs = .ok a) : lo ≤ a ∧ a ≤ hi := by
  unfold readInteger at h
  split at h
  · contradiction
  · contradiction
  · contradiction
  · have ha := le_of_readUpwards hi 0 a _ (Int.le_refl 0) hhi h
    omega
  · split at h
    · have ha := ge_of_readDownwards lo 0 a _ (Int.le_refl 0) hlo h
      omega
    · contradiction
  · have ha := le_of_readUpwards hi 0 a _ (Int.le_refl 0) hhi h
    omega

/-! ## Blanks -/

/-- What is read upwards consists of digits. -/
theorem isDigit_of_readUpwards (hi acc a : Int) (cs : List Char)
    (h : readUpwards hi acc cs = .ok a) : ∀ c ∈ cs, c.isDigit = true := by
  induction cs generalizing acc with
  | nil => simp
  | cons c cs ih =>
    unfold readUpwards at h
    split at h
    · contradiction
    · rename_i d hd
      split at h
      · intro e he
        rcases List.mem_cons.1 he with rfl | he
        · exact isDigit_of_digit? e d hd
        · exact ih _ h e he
      · contradiction

/-- What is read downwards consists of digits. -/
theorem isDigit_of_readDownwards (lo acc a : Int) (cs : List Char)
    (h : readDownwards lo acc cs = .ok a) : ∀ c ∈ cs, c.isDigit = true := by
  induction cs generalizing acc with
  | nil => simp
  | cons c cs ih =>
    unfold readDownwards at h
    split at h
    · contradiction
    · rename_i d hd
      split at h
      · intro e he
        rcases List.mem_cons.1 he with rfl | he
        · exact isDigit_of_digit? e d hd
        · exact ih _ h e he
      · contradiction

/-- What is read as an integer holds no blank: a sign is none, and neither is a digit. -/
theorem isBlank_of_readInteger (lo hi a : Int) (cs : List Char)
    (h : readInteger lo hi cs = .ok a) : ∀ c ∈ cs, isBlank c = false := by
  intro c hc
  unfold readInteger at h
  split at h
  · contradiction
  · contradiction
  · contradiction
  · rcases List.mem_cons.1 hc with rfl | hc
    · rfl
    · exact isBlank_of_isDigit c (isDigit_of_readUpwards hi 0 a _ h c hc)
  · split at h
    · rcases List.mem_cons.1 hc with rfl | hc
      · rfl
      · exact isBlank_of_isDigit c (isDigit_of_readDownwards lo 0 a _ h c hc)
    · contradiction
  · exact isBlank_of_isDigit c (isDigit_of_readUpwards hi 0 a _ h c hc)

/-- Text without any blank is left alone by trimming. -/
theorem trim_eq_self (s : String) (h : ∀ c ∈ s.toList, isBlank c = false) : trim s = s := by
  unfold trim
  rw [trimChars_eq_self s.toList (fun c hc => h c (List.mem_of_mem_head? hc))
    (fun c hc => h c (List.mem_of_mem_getLast? hc)), String.ofList_toList]

end ExpenseLedger.Text

namespace ExpenseLedger.Amount

/-- **The text of a storable amount is read as that amount.** -/
theorem ofText_text (a : Int) (h : Storable a) : ofText (text a) = .ok a := by
  unfold ofText text
  rw [String.toList_ofList]
  exact Text.readInteger_integerChars lowest highest a (by decide) h.1 h.2

/-- What is read as an amount can be stored. -/
theorem storable_of_ofText (s : String) (a : Int) (h : ofText s = .ok a) : Storable a :=
  Text.bounds_of_readInteger lowest highest a s.toList (by decide) (by decide) h

/-- A text that is read as an amount has no blanks around it. -/
theorem trim_eq_self (s : String) (a : Int) (h : ofText s = .ok a) : Text.trim s = s :=
  Text.trim_eq_self s (Text.isBlank_of_readInteger lowest highest a s.toList h)

/-- The text of a storable amount has no blanks around it. -/
theorem trim_text (a : Int) (h : Storable a) : Text.trim (text a) = text a :=
  trim_eq_self (text a) a (ofText_text a h)

end ExpenseLedger.Amount
