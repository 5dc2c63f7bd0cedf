import ExpenseLedger.Id
/-!
# The text of an identifier determines it

An identifier is read back from the grouped form in which it is shown, so two users with the same
text are the same user. Main statements: `Id.ofText?_text` and `UserId.text_injective`.
-/

namespace ExpenseLedger

/-! ## Groups of digits -/

namespace Id

/-- Digits are taken off the front of the characters that they are written with. -/
theorem takeDigits_digitChars (ds : List HexDigit) (rest : List Char) :
    takeDigits ds.length (digitChars ds ++ rest) = some (ds, rest) := by
  induction ds with
  | nil => rfl
  | cons d ds ih =>
    rw [digitChars] at ih ⊢
    simp [takeDigits, HexDigit.ofChar?_char, ih]

/-- A group that a hyphen ends is taken off, and then the groups after the hyphen. -/
theorem takeGroups_digitChars (n : Nat) (ns : List Nat) (ds : List HexDigit) (cs : List Char)
    (hn : ds.length = n) (hns : ns ≠ []) :
    takeGroups (n :: ns) (digitChars ds ++ '-' :: cs)
      = (takeGroups ns cs).map fun r => (ds ++ r.1, r.2) := by
  subst hn
  obtain ⟨m, ms, rfl⟩ := List.exists_cons_of_ne_nil hns
  simp only [takeGroups, takeDigits_digitChars, Option.bind_eq_bind, Option.bind_some]
  cases takeGroups (m :: ms) cs <;> rfl

/-- The last group is taken off. -/
theorem takeGroups_singleton_digitChars (n : Nat) (ds : List HexDigit) (hn : ds.length = n) :
    takeGroups [n] (digitChars ds) = some (ds, []) := by
  subst hn
  have h := takeDigits_digitChars ds []
  rw [List.append_nil] at h
  exact h

/-- Five groups are all that a grouped text consists of. -/
theorem takeGroups_groupedChars (ds : List HexDigit) (h : ds.length = 32) :
    takeGroups [8, 4, 4, 4, 12] (groupedChars ds) = some (ds, []) := by
  have hjoin : ds.take 8 ++ ((ds.drop 8).take 4 ++ ((ds.drop 12).take 4 ++
      ((ds.drop 16).take 4 ++ ds.drop 20))) = ds := by
    have h16 : (ds.drop 16).take 4 ++ ds.drop 20 = ds.drop 16 := by
      simpa using List.take_append_drop 4 (ds.drop 16)
    have h12 : (ds.drop 12).take 4 ++ ds.drop 16 = ds.drop 12 := by
      simpa using List.take_append_drop 4 (ds.drop 12)
    have h8 : (ds.drop 8).take 4 ++ ds.drop 12 = ds.drop 8 := by
      simpa using List.take_append_drop 4 (ds.drop 8)
    rw [h16, h12, h8, List.take_append_drop]
  unfold groupedChars
  simp only [List.append_assoc, List.cons_append]
  rw [takeGroups_digitChars 8 _ _ _ (by simp [h]) (by simp),
    takeGroups_digitChars 4 _ _ _ (by simp [h]) (by simp),
    takeGroups_digitChars 4 _ _ _ (by simp [h]) (by simp),
    takeGroups_digitChars 4 _ _ _ (by simp [h]) (by simp),
    takeGroups_singleton_digitChars 12 _ (by simp [h])]
  simp only [Option.map_some, hjoin]

/-! ## Which form a text has -/

/-- A grouped text begins with a digit. -/
theorem exists_groupedChars (a : Id) :
    ∃ d cs, groupedChars a.digits = HexDigit.char d :: cs := by
  obtain ⟨d, ds, hd⟩ := List.exists_cons_of_ne_nil (l := a.digits) (by
    intro h
    have := a.length_digits
    rw [h] at this
    contradiction)
  rw [hd]
  exact ⟨d, _, rfl⟩

/-- A text that begins with a digit is not enclosed in braces. -/
theorem unbrace?_digit (d : HexDigit) (cs : List Char) : unbrace? (d.char :: cs) = none := by
  have h : d.char ≠ '\x7b' := by
    revert d
    decide
  unfold unbrace?
  split
  · rename_i heq
    exact absurd (List.cons.inj heq).1 h
  · rfl

/-- A text that begins with a digit does not begin with a name space. -/
theorem unurn?_digit (d : HexDigit) (cs : List Char) : unurn? (d.char :: cs) = none := by
  have h : d.char.toLower ≠ 'u' := by
    revert d
    decide
  unfold unurn?
  rw [if_neg]
  intro heq
  rw [List.take_succ_cons, List.map_cons] at heq
  exact h (List.cons.inj heq).1

/-- **An identifier is read back from its text.** -/
theorem ofText?_text (a : Id) : ofText? a.text = some a := by
  obtain ⟨d, cs, hcs⟩ := exists_groupedChars a
  unfold ofText? text
  rw [String.toList_ofList]
  unfold ofChars?
  rw [hcs, unbrace?_digit, unurn?_digit, ← hcs]
  simp only [ofGrouped?, ofGroups?, takeGroups_groupedChars a.digits a.length_digits]
  rw [dif_pos a.length_digits]
  rfl

end Id

/-! ## Users -/

namespace UserId

/-- A user is read back from the text of the identifier. -/
@[simp] theorem ofText?_text (u : UserId) : ofText? u.text = some u := by
  unfold ofText? text
  rw [Id.ofText?_text]
  rfl

/-- **Users with the same text are the same.** -/
theorem text_injective : Function.Injective text := by
  intro u v h
  have hu := ofText?_text u
  rw [h, ofText?_text v] at hu
  exact (Option.some.inj hu).symm

end UserId

end ExpenseLedger
