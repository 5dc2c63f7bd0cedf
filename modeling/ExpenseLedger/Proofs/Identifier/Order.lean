import ExpenseLedger.Proofs.Identifier.Tidy
/-!
# The order of identifiers

Identifiers are ordered by their digits. That is the order of the numbers of 128 bits that they are,
of their sixteen octets, and of the bytes of their texts: the hyphens stand at the same places in
all texts, and a greater digit has a greater character. Main statements:

* `Id.number_lt_iff`, `Id.number_lt` and `Id.number_ofNat`: the numbers;
* `Id.octets_lt_iff`: the octets;
* `Id.bytes_text_lt_iff`: the bytes of the texts.
-/

namespace ExpenseLedger

/-! ## Lists in lexicographic order -/

section Lists

variable {α β : Type} [LT α] [LT β]

/-- Lists with fronts of one length are compared by the fronts, and by the rest if these are the
same. -/
theorem lex_append_lt_iff {l m p q : List α} (h : l.length = m.length) :
    l ++ p < m ++ q ↔ l < m ∨ l = m ∧ p < q := by
  induction l generalizing m with
  | nil =>
    obtain rfl := List.length_eq_zero_iff.1 h.symm
    simp
  | cons a l ih =>
    obtain ⟨b, m, rfl⟩ := List.exists_cons_of_length_eq_add_one h.symm
    have hlength : l.length = m.length := by simpa using h
    simp only [List.cons_append, List.cons_lt_cons_iff, ih hlength, List.cons.injEq]
    constructor
    · rintro (hab | ⟨rfl, hlm | ⟨rfl, hpq⟩⟩)
      · exact .inl (.inl hab)
      · exact .inl (.inr ⟨rfl, hlm⟩)
      · exact .inr ⟨⟨rfl, rfl⟩, hpq⟩
    · rintro ((hab | ⟨rfl, hlm⟩) | ⟨⟨rfl, rfl⟩, hpq⟩)
      · exact .inl hab
      · exact .inr ⟨rfl, .inl hlm⟩
      · exact .inr ⟨rfl, .inr ⟨rfl, hpq⟩⟩

/-- A function that keeps the order of the members keeps the order of lists. -/
theorem lex_map_lt_iff {f : α → β} (hlt : ∀ a b, f a < f b ↔ a < b)
    (hinj : ∀ a b, f a = f b ↔ a = b) (l m : List α) : l.map f < m.map f ↔ l < m := by
  induction l generalizing m with
  | nil => cases m <;> simp
  | cons a l ih =>
    cases m with
    | nil => simp
    | cons b m => simp only [List.map_cons, List.cons_lt_cons_iff, hlt, hinj, ih]

end Lists

/-! ## Bytes of texts -/

/-- The bytes of a text. -/
def Text.bytes (s : String) : List UInt8 := s.toUTF8.data.toList

/-- The bytes of a text are those of its characters. -/
theorem Text.bytes_ofList (cs : List Char) :
    Text.bytes (String.ofList cs) = cs.flatMap String.utf8EncodeChar := by
  unfold Text.bytes String.toUTF8
  rw [String.toByteArray_ofList, List.utf8Encode, List.toList_data_toByteArray]

/-- One of the first 128 characters is one byte. -/
theorem utf8EncodeChar_of_lt {c : Char} (h : c.toNat < 128) :
    String.utf8EncodeChar c = [UInt8.ofNat c.toNat] :=
  if_pos (Nat.le_of_lt_succ h)

/-- The bytes of the first 128 characters are ordered as the characters. -/
theorem ofNat_toNat_lt_iff {c d : Char} (hc : c.toNat < 128) (hd : d.toNat < 128) :
    (UInt8.ofNat c.toNat < UInt8.ofNat d.toNat ↔ c < d) ∧
      (UInt8.ofNat c.toNat = UInt8.ofNat d.toNat ↔ c = d) := by
  have hbyte {n : Nat} (hn : n < 128) : (UInt8.ofNat n).toNat = n :=
    UInt8.toNat_ofNat_of_lt' (Nat.lt_trans hn (by decide))
  rw [UInt8.lt_iff_toNat_lt, ← UInt8.toNat_inj, hbyte hc, hbyte hd, Char.toNat_inj]
  exact ⟨Iff.rfl, Iff.rfl⟩

/-- **Texts of the first 128 characters are ordered by their bytes as by their characters.** -/
theorem flatMap_utf8EncodeChar_lt_iff {l m : List Char} (hl : ∀ c ∈ l, c.toNat < 128)
    (hm : ∀ c ∈ m, c.toNat < 128) :
    l.flatMap String.utf8EncodeChar < m.flatMap String.utf8EncodeChar ↔ l < m := by
  induction l generalizing m with
  | nil =>
    cases m with
    | nil => simp
    | cons d m =>
      simp [utf8EncodeChar_of_lt (hm d List.mem_cons_self)]
  | cons c l ih =>
    obtain ⟨hc, hrest⟩ := List.forall_mem_cons.1 hl
    cases m with
    | nil => simp
    | cons d m =>
      obtain ⟨hd, hrest'⟩ := List.forall_mem_cons.1 hm
      obtain ⟨hlt, heq⟩ := ofNat_toNat_lt_iff hc hd
      rw [List.flatMap_cons, List.flatMap_cons, utf8EncodeChar_of_lt hc, utf8EncodeChar_of_lt hd,
        List.singleton_append, List.singleton_append, List.cons_lt_cons_iff, hlt, heq,
        ih hrest hrest', List.cons_lt_cons_iff]

namespace Id

/-! ## Texts -/

/-- The characters of digits are ordered as the digits. -/
theorem digitChars_lt_iff (ds es : List HexDigit) : digitChars ds < digitChars es ↔ ds < es := by
  have hlt : ∀ d e : HexDigit, d.char < e.char ↔ d < e := by decide
  have hinj : ∀ d e : HexDigit, d.char = e.char ↔ d = e := by decide
  exact lex_map_lt_iff hlt hinj ds es

/-- **Hyphens between groups of digits do not change the order**, as they stand at the same places. -/
theorem groupChars_lt_iff (sizes : List Nat) (ds es : List HexDigit) (hds : ds.length = sizes.sum)
    (hes : es.length = sizes.sum) : groupChars sizes ds < groupChars sizes es ↔ ds < es := by
  induction sizes generalizing ds es with
  | nil =>
    rw [List.length_eq_zero_iff.1 hds, List.length_eq_zero_iff.1 hes]
    simp
  | cons n ns ih =>
    cases ns with
    | nil =>
      simp only [List.sum_cons, List.sum_nil, Nat.add_zero] at hds hes
      rw [groupChars, groupChars, List.take_of_length_le (Nat.le_of_eq hds),
        List.take_of_length_le (Nat.le_of_eq hes), digitChars_lt_iff]
    | cons k ns =>
      rw [List.sum_cons] at hds hes
      have hfront : (ds.take n).length = (es.take n).length := by
        rw [List.length_take, List.length_take, hds, hes]
      have hchars : (digitChars (ds.take n)).length = (digitChars (es.take n)).length := by
        rw [length_digitChars, length_digitChars, hfront]
      have hinj : digitChars (ds.take n) = digitChars (es.take n) ↔ ds.take n = es.take n :=
        List.map_inj_right fun d e h => by
          revert d e
          decide
      have hback := ih (ds.drop n) (es.drop n) (by rw [List.length_drop, hds]; omega)
        (by rw [List.length_drop, hes]; omega)
      calc groupChars (n :: k :: ns) ds < groupChars (n :: k :: ns) es
          ↔ digitChars (ds.take n) < digitChars (es.take n) ∨
              digitChars (ds.take n) = digitChars (es.take n) ∧
                '-' :: groupChars (k :: ns) (ds.drop n) < '-' :: groupChars (k :: ns) (es.drop n) :=
            lex_append_lt_iff hchars
        _ ↔ ds.take n < es.take n ∨ ds.take n = es.take n ∧ ds.drop n < es.drop n := by
            rw [digitChars_lt_iff, hinj, List.cons_lt_cons_iff, hback]
            simp
        _ ↔ ds.take n ++ ds.drop n < es.take n ++ es.drop n := (lex_append_lt_iff hfront).symm
        _ ↔ ds < es := by rw [List.take_append_drop, List.take_append_drop]

/-- **The bytes of the texts are ordered as the identifiers.** -/
theorem bytes_text_lt_iff (a b : Id) : Text.bytes a.text < Text.bytes b.text ↔ a < b := by
  have hascii (a : Id) : ∀ c ∈ groupedChars a.digits, c.toNat < 128 := by
    have hdigit : ∀ d : HexDigit, d.char.toNat < 128 := by decide
    intro c hc
    rcases mem_groupedChars hc with rfl | ⟨d, rfl⟩
    · decide
    · exact hdigit d
  unfold text
  rw [Text.bytes_ofList, Text.bytes_ofList, flatMap_utf8EncodeChar_lt_iff (hascii a) (hascii b),
    ← groupChars_digits, ← groupChars_digits, groupChars_lt_iff _ _ _ a.length_digits b.length_digits]
  rfl

/-! ## Octets -/

/-- The octets of pairs of digits. -/
def octetsOf : List HexDigit → List UInt8
  | high :: low :: ds => UInt8.ofNat (16 * high.val + low.val) :: octetsOf ds
  | _ => []

/-- The sixteen octets of an identifier, the highest first. -/
def octets (a : Id) : List UInt8 := octetsOf a.digits

/-- Octets are ordered as pairs of digits. -/
theorem octet_lt_iff (d d' e e' : HexDigit) :
    (UInt8.ofNat (16 * d.val + d'.val) < UInt8.ofNat (16 * e.val + e'.val) ↔
        d < e ∨ d = e ∧ d' < e') ∧
      (UInt8.ofNat (16 * d.val + d'.val) = UInt8.ofNat (16 * e.val + e'.val) ↔ d = e ∧ d' = e') := by
  have hoctet (d d' : HexDigit) :
      (UInt8.ofNat (16 * d.val + d'.val)).toNat = 16 * d.val + d'.val :=
    UInt8.toNat_ofNat_of_lt' (show 16 * d.val + d'.val < 256 by omega)
  rw [UInt8.lt_iff_toNat_lt, ← UInt8.toNat_inj, hoctet, hoctet]
  simp only [Fin.lt_def, Fin.ext_iff]
  omega

/-- As many octets are ordered as their digits. -/
theorem octetsOf_lt_iff (k : Nat) (ds es : List HexDigit) (hds : ds.length = 2 * k)
    (hes : es.length = 2 * k) : octetsOf ds < octetsOf es ↔ ds < es := by
  induction k generalizing ds es with
  | zero =>
    rw [List.length_eq_zero_iff.1 hds, List.length_eq_zero_iff.1 hes]
    simp [octetsOf]
  | succ k ih =>
    obtain ⟨d, d', ds, rfl⟩ : ∃ d d' rest, ds = d :: d' :: rest :=
      match ds, hds with
      | d :: d' :: rest, _ => ⟨d, d', rest, rfl⟩
    obtain ⟨e, e', es, rfl⟩ : ∃ e e' rest, es = e :: e' :: rest :=
      match es, hes with
      | e :: e' :: rest, _ => ⟨e, e', rest, rfl⟩
    obtain ⟨hlt, heq⟩ := octet_lt_iff d d' e e'
    have hrest := ih ds es (by simpa [Nat.mul_succ] using hds) (by simpa [Nat.mul_succ] using hes)
    simp only [octetsOf, List.cons_lt_cons_iff, hlt, heq, hrest]
    tauto

/-- **Octets are ordered as the identifiers.** -/
theorem octets_lt_iff (a b : Id) : a.octets < b.octets ↔ a < b :=
  octetsOf_lt_iff 16 a.digits b.digits a.length_digits b.length_digits

/-! ## Numbers -/

/-- The number that some digits make up when they are written behind a number. -/
def numeral (n : Nat) (ds : List HexDigit) : Nat := ds.foldl (fun n d => 16 * n + d.val) n

/-- The number of 128 bits that an identifier is. -/
def number (a : Id) : Nat := numeral 0 a.digits

/-- Digits behind two numbers: the numbers are compared first, and then the digits. -/
theorem numeral_lt_iff (m n : Nat) (ds es : List HexDigit) (h : ds.length = es.length) :
    numeral m ds < numeral n es ↔ m < n ∨ m = n ∧ ds < es := by
  induction ds generalizing m n es with
  | nil =>
    rw [List.length_eq_zero_iff.1 h.symm]
    simp [numeral]
  | cons d ds ih =>
    obtain ⟨e, es, rfl⟩ := List.exists_cons_of_length_eq_add_one h.symm
    have hstep := ih (16 * m + d.val) (16 * n + e.val) es (by simpa using h)
    rw [List.cons_lt_cons_iff]
    change numeral (16 * m + d.val) ds < numeral (16 * n + e.val) es ↔ _
    rw [hstep, Fin.lt_def, Fin.ext_iff]
    by_cases hrest : ds < es
    all_goals
      simp only [hrest, and_true, and_false, or_false]
      omega

/-- **Numbers are ordered as the identifiers.** -/
theorem number_lt_iff (a b : Id) : a.number < b.number ↔ a < b := by
  unfold number
  rw [numeral_lt_iff 0 0 _ _ (a.length_digits.trans b.length_digits.symm)]
  simp only [Nat.lt_irrefl, true_and, false_or]
  rfl

/-- Digits behind a number multiply it by a power of sixteen, and add less than that power. -/
theorem numeral_lt (n : Nat) (ds : List HexDigit) : numeral n ds < (n + 1) * 16 ^ ds.length := by
  induction ds generalizing n with
  | nil => simp [numeral]
  | cons d ds ih =>
    calc numeral n (d :: ds) < (16 * n + d.val + 1) * 16 ^ ds.length := ih (16 * n + d.val)
      _ ≤ (n + 1) * 16 * 16 ^ ds.length := Nat.mul_le_mul_right _ (by omega)
      _ = (n + 1) * 16 ^ (d :: ds).length := by
          rw [List.length_cons, Nat.pow_succ', Nat.mul_assoc]

/-- The number of an identifier has 128 bits. -/
theorem number_lt (a : Id) : a.number < 2 ^ 128 := by
  have h := numeral_lt 0 a.digits
  rw [a.length_digits] at h
  exact h

/-- The digits of a number make up the number, as far as they go. -/
theorem numeral_digits (k n : Nat) :
    numeral 0 ((List.range k).map fun i =>
      ⟨n / Nat.pow 16 (k - 1 - i) % 16, Nat.mod_lt _ (by decide)⟩) = n % 16 ^ k := by
  induction k generalizing n with
  | zero => simp [numeral, Nat.mod_one]
  | succ k ih =>
    -- The last digit is the remainder, and the others are the digits of the quotient.
    have hfront : ((List.range k).map fun i =>
          (⟨n / Nat.pow 16 (k + 1 - 1 - i) % 16, Nat.mod_lt _ (by decide)⟩ : HexDigit)) =
        (List.range k).map fun i =>
          ⟨n / 16 / Nat.pow 16 (k - 1 - i) % 16, Nat.mod_lt _ (by decide)⟩ := by
      refine List.map_congr_left fun i hi => Fin.ext ?_
      have hi : i < k := List.mem_range.1 hi
      have hpow : Nat.pow 16 (k + 1 - 1 - i) = 16 * Nat.pow 16 (k - 1 - i) := by
        rw [show k + 1 - 1 - i = k - 1 - i + 1 from by omega]
        exact Nat.pow_succ'
      change n / Nat.pow 16 (k + 1 - 1 - i) % 16 = n / 16 / Nat.pow 16 (k - 1 - i) % 16
      rw [hpow, Nat.div_div_eq_div_mul]
    have hrest := ih (n / 16)
    unfold numeral at hrest ⊢
    rw [List.range_succ, List.map_append, List.foldl_append, hfront, hrest]
    simp only [Nat.add_sub_cancel, List.map_cons, List.map_nil, List.foldl_cons, List.foldl_nil,
      Nat.sub_self]
    rw [Nat.pow_succ', Nat.mod_mul]
    change 16 * (n / 16 % 16 ^ k) + n / 1 % 16 = n % 16 + 16 * (n / 16 % 16 ^ k)
    omega

/-- **Each number of 128 bits is that of an identifier.** -/
theorem number_ofNat (n : Nat) : (ofNat n).number = n % 2 ^ 128 :=
  numeral_digits 32 n

end Id

end ExpenseLedger
