import ExpenseLedger.Proofs.Identifier.Forms
import Mathlib.Data.Bool.AllAny
import Mathlib.Data.List.Forall2
/-!
# One identifier in two spellings

Texts that spell the same identifier are read alike. What spells an identifier is long and consists
of few characters, so it is easily told from the words around it. Main statements:

* `Id.Spells.mem_spellingChars`: the characters of spellings;
* `Id.Spells.length_ge`: the length of spellings;
* `UserId.ofText?_eq_of_respelled`, `GroupId.ofText?_eq_of_respelled`: reading two spellings.
-/

namespace ExpenseLedger

/-! ## What is found on either side -/

/-- What is found is related, and so is what is found from there. -/
theorem rel_bind {α α' β β' : Type} {R : α → α' → Prop} {S : β → β' → Prop} {o : Option α}
    {o' : Option α'} {f : α → Option β} {f' : α' → Option β'} (h : Option.Rel R o o')
    (hf : ∀ a a', R a a' → Option.Rel S (f a) (f' a')) : Option.Rel S (o.bind f) (o'.bind f') := by
  cases h with
  | none => exact .none
  | some h => exact hf _ _ h

/-- What is found is related, and so is what is made of it. -/
theorem rel_map {α α' β β' : Type} {R : α → α' → Prop} {S : β → β' → Prop} {o : Option α}
    {o' : Option α'} {f : α → β} {f' : α' → β'} (h : Option.Rel R o o')
    (hf : ∀ a a', R a a' → S (f a) (f' a')) : Option.Rel S (o.map f) (o'.map f') := by
  cases h with
  | none => exact .none
  | some h => exact .some (hf _ _ h)

namespace Id

/-! ## What spellings look like -/

/-- The characters that spellings consist of. -/
def spellingChars : List Char := "0123456789abcdefABCDEF-\x7b\x7d:urniURNI".toList

/-- A character whose lowercase is a character of spellings is one itself. -/
theorem mem_spellingChars_of_toLower {c : Char} (h : c.toLower ∈ spellingChars) :
    c ∈ spellingChars := by
  by_cases hc : c.toNat < 128
  · exact forall_ascii (P := fun c => c.toLower ∈ spellingChars → c ∈ spellingChars)
      (by decide +kernel) c hc h
  · rwa [toLower_of_ge c hc] at h

/-- The characters of digits are characters of spellings. -/
theorem digitChars_subset (ds : List HexDigit) : digitChars ds ⊆ spellingChars := by
  have hdigit (d : HexDigit) : d.char ∈ spellingChars := by
    revert d
    decide +kernel
  intro c hc
  obtain ⟨d, -, rfl⟩ := List.mem_map.1 hc
  exact hdigit d

/-- The characters of a grouped text are characters of spellings. -/
theorem groupedChars_subset (ds : List HexDigit) : groupedChars ds ⊆ spellingChars := by
  have hhyphen : '-' ∈ spellingChars := by decide +kernel
  unfold groupedChars
  simp only [List.append_subset, List.cons_subset, digitChars_subset, hhyphen, and_self]

/-- The forms of an identifier consist of characters of spellings. -/
theorem forms_subset {a : Id} {cs : List Char} (h : cs ∈ a.forms) : cs ⊆ spellingChars := by
  have hgrouped := groupedChars_subset a.digits
  simp only [forms, List.mem_cons, List.not_mem_nil, or_false] at h
  rcases h with rfl | rfl | rfl | rfl
  · exact hgrouped
  · exact digitChars_subset a.digits
  · refine List.append_subset.2 ⟨List.cons_subset.2 ⟨by decide +kernel, hgrouped⟩, ?_⟩
    exact List.cons_subset.2 ⟨by decide +kernel, List.nil_subset _⟩
  · exact List.append_subset.2 ⟨by decide +kernel, hgrouped⟩

variable {cs cs' : List Char} {a : Id}

/-- Spellings consist of characters of spellings. -/
theorem Spells.mem_spellingChars (h : Spells cs a) {c : Char} (hc : c ∈ cs) :
    c ∈ spellingChars :=
  mem_spellingChars_of_toLower (forms_subset h (List.mem_map_of_mem hc))

/-- A spelling has a character for each of the thirty-two digits at least. -/
theorem Spells.length_ge (h : Spells cs a) : 32 ≤ cs.length := by
  have hgrouped := length_groupedChars a
  have hplain : (digitChars a.digits).length = 32 := by
    rw [length_digitChars, a.length_digits]
  have hlower : (cs.map Char.toLower).length = cs.length := List.length_map _
  simp only [Spells, forms, List.mem_cons, List.not_mem_nil, or_false] at h
  rw [← hlower]
  rcases h with h | h | h | h
  · rw [h, hgrouped]
    omega
  · rw [h]
    exact Nat.le_of_eq hplain.symm
  · rw [h, List.length_append, List.length_cons, hgrouped]
    omega
  · rw [h, List.length_append, hgrouped]
    omega

/-- The text of an identifier spells it. -/
theorem spells_text (a : Id) : Spells a.text.toList a :=
  (ofText?_eq_some_iff a.text a).1 (ofText?_text a)

/-! ## Two spellings -/

/-- Both texts spell the same identifier. -/
def Respelled (cs cs' : List Char) : Prop := ∃ a, Spells cs a ∧ Spells cs' a

/-- The order of the texts does not matter. -/
theorem Respelled.symm (h : Respelled cs cs') : Respelled cs' cs := by
  obtain ⟨a, ha, ha'⟩ := h
  exact ⟨a, ha', ha⟩

/-- Short texts spell nothing. -/
theorem not_respelled_of_length_lt (h : cs.length < 32) : ¬ Respelled cs cs' := by
  rintro ⟨a, ha, -⟩
  exact absurd ha.length_ge (Nat.not_le.2 h)

end Id

/-- Both texts are the same, or both spell the same identifier. -/
def Text.Respelled (s s' : String) : Prop := s = s' ∨ Id.Respelled s.toList s'.toList

variable {s s' : String}

/-- Words are not respelled. -/
theorem Text.Respelled.eq_iff (h : Text.Respelled s s') {word : String} (hword : word.length < 32) :
    s = word ↔ s' = word := by
  rcases h with rfl | h
  · rfl
  · constructor
    · rintro rfl
      exact absurd h (Id.not_respelled_of_length_lt hword)
    · rintro rfl
      exact absurd h.symm (Id.not_respelled_of_length_lt hword)

/-- Two spellings are read as the same identifier. -/
theorem Id.ofText?_eq_of_respelled (h : Text.Respelled s s') : Id.ofText? s = Id.ofText? s' := by
  rcases h with rfl | ⟨a, ha, ha'⟩
  · rfl
  · rw [(Id.ofText?_eq_some_iff s a).2 ha, (Id.ofText?_eq_some_iff s' a).2 ha']

/-- Two spellings are read as the same user. -/
theorem UserId.ofText?_eq_of_respelled (h : Text.Respelled s s') :
    UserId.ofText? s = UserId.ofText? s' := by
  unfold UserId.ofText?
  rw [Id.ofText?_eq_of_respelled h]

/-- Two spellings are read as the same group. -/
theorem GroupId.ofText?_eq_of_respelled (h : Text.Respelled s s') :
    GroupId.ofText? s = GroupId.ofText? s' := by
  unfold GroupId.ofText?
  rw [Id.ofText?_eq_of_respelled h]

end ExpenseLedger
