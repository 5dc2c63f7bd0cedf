/-!
# Blank characters

The characters with the White_Space property of the standard, and the removal of blanks from the
two ends of a text. Main statement: a trimmed text neither begins nor ends with a blank.
-/

namespace ExpenseLedger.Text

/-- The character is white space. -/
def isBlank (c : Char) : Bool :=
  let n := c.toNat
  (0x09 ≤ n && n ≤ 0x0d) || n == 0x20 || n == 0x85 || n == 0xa0 || n == 0x1680 ||
    (0x2000 ≤ n && n ≤ 0x200a) || n == 0x2028 || n == 0x2029 || n == 0x202f || n == 0x205f ||
    n == 0x3000

/-- Removes the blanks at the front. -/
def dropBlanks (cs : List Char) : List Char := cs.dropWhile isBlank

/-- Removes the blanks at both ends. -/
def trimChars (cs : List Char) : List Char := (dropBlanks (dropBlanks cs).reverse).reverse

/-- Removes the blanks at both ends of a text. -/
def trim (s : String) : String := String.ofList (trimChars s.toList)

/-! ## What trimming leaves -/

/-- Text without a blank in front keeps its front. -/
theorem dropBlanks_eq_self (cs : List Char) (h : ∀ c ∈ cs.head?, isBlank c = false) :
    dropBlanks cs = cs := by
  cases cs with
  | nil => rfl
  | cons c cs => simp [dropBlanks, h c (by simp)]

/-- After blanks are dropped in front, no blank is in front. -/
theorem head?_dropBlanks (cs : List Char) (c : Char) (h : c ∈ (dropBlanks cs).head?) :
    isBlank c = false := by
  induction cs with
  | nil => simp [dropBlanks] at h
  | cons d cs ih =>
    by_cases hd : isBlank d = true
    · exact ih (by simpa [dropBlanks, hd] using h)
    · simp only [dropBlanks, List.dropWhile_cons, hd, Bool.false_eq_true, if_false, List.head?_cons,
        Option.mem_def, Option.some.injEq] at h
      simpa [h] using hd

/-- Text without a blank at either end is left alone. -/
theorem trimChars_eq_self (cs : List Char) (hh : ∀ c ∈ cs.head?, isBlank c = false)
    (hl : ∀ c ∈ cs.getLast?, isBlank c = false) : trimChars cs = cs := by
  unfold trimChars
  rw [dropBlanks_eq_self cs hh, dropBlanks_eq_self cs.reverse (by simpa using hl),
    List.reverse_reverse]

/-- Trimmed text does not begin with a blank. -/
theorem head?_trimChars (cs : List Char) (c : Char) (h : c ∈ (trimChars cs).head?) :
    isBlank c = false := by
  unfold trimChars at h
  have hsuffix : dropBlanks (dropBlanks cs).reverse <:+ (dropBlanks cs).reverse :=
    List.dropWhile_suffix _
  obtain ⟨blanks, hblanks⟩ := List.reverse_prefix.2 hsuffix
  rw [List.reverse_reverse] at hblanks
  -- What is dropped at the end is no part of the front.
  refine head?_dropBlanks cs c ?_
  rw [← hblanks, List.head?_append, Option.mem_def.1 h]
  rfl

/-- Trimmed text does not end with a blank. -/
theorem getLast?_trimChars (cs : List Char) (c : Char) (h : c ∈ (trimChars cs).getLast?) :
    isBlank c = false := by
  unfold trimChars at h
  rw [List.getLast?_reverse] at h
  exact head?_dropBlanks _ c h

/-- Trimming makes no text longer. -/
theorem length_trim_le (s : String) : (trim s).length ≤ s.length := by
  have hdrop (cs : List Char) : (dropBlanks cs).length ≤ cs.length :=
    (List.dropWhile_sublist _).length_le
  have hchars : (trimChars s.toList).length ≤ s.toList.length := by
    unfold trimChars
    rw [List.length_reverse]
    calc (dropBlanks (dropBlanks s.toList).reverse).length
        ≤ (dropBlanks s.toList).reverse.length := hdrop _
      _ = (dropBlanks s.toList).length := List.length_reverse
      _ ≤ s.toList.length := hdrop _
  unfold trim
  rw [String.length_ofList]
  rw [String.length_toList] at hchars
  exact hchars

end ExpenseLedger.Text
