import ExpenseLedger.Proofs.Identifier
import Mathlib.Algebra.Ring.Nat
/-!
# The texts that are read as an identifier

An identifier has four forms: grouped, without hyphens, grouped in braces and grouped after the name
space. `Id.Spells` says of some characters that they are one of the forms, in any case of the
letters. Main statement: `Id.ofText?_eq_some_iff`, reading accepts exactly these texts.
-/

namespace ExpenseLedger

/-! ## Letters in either case -/

/-- What holds of the first 128 characters by enumeration holds of each of them. -/
theorem forall_ascii {P : Char → Prop} (h : ∀ n : Fin 128, P (Char.ofNat n)) (c : Char)
    (hc : c.toNat < 128) : P c := by
  have hn := h ⟨c.toNat, hc⟩
  rwa [Char.ofNat_toNat] at hn

/-- Beyond the first 128 characters there are no capitals that have a lowercase. -/
theorem toLower_of_ge (c : Char) (hc : ¬ c.toNat < 128) : c.toLower = c := by
  refine dif_neg ?_
  rintro ⟨-, h⟩
  have : c.toNat ≤ 90 := h
  omega

/-- A character whose lowercase is no letter is that lowercase. -/
theorem eq_of_toLower_eq (c b : Char) (hb : b.isLower = false) (h : c.toLower = b) : c = b := by
  by_cases hc : c.toNat < 128
  · have hcase : c.toLower.isLower = true ∨ c.toLower = c :=
      forall_ascii (P := fun c => c.toLower.isLower = true ∨ c.toLower = c) (by decide +kernel) c hc
    rcases hcase with hlower | hself
    · rw [h, hb] at hlower
      contradiction
    · rw [← hself, h]
  · rw [← toLower_of_ge c hc, h]

namespace HexDigit

/-- **A character stands for a digit exactly when its lowercase is that of the digit.** -/
theorem ofChar?_eq_some_iff (c : Char) (d : HexDigit) :
    ofChar? c = some d ↔ c.toLower = d.char := by
  by_cases hc : c.toNat < 128
  · exact forall_ascii (P := fun c => ∀ d, ofChar? c = some d ↔ c.toLower = d.char)
      (by decide +kernel) c hc d
  · -- Beyond the first 128 characters there are no digits.
    have hd : d.char.toNat < 128 := by
      revert d
      decide
    rw [toLower_of_ge c hc]
    constructor
    · intro h
      unfold ofChar? at h
      dsimp only at h
      rw [dif_neg (by omega), dif_neg (by omega), dif_neg (by omega)] at h
      contradiction
    · rintro rfl
      contradiction

end HexDigit

namespace Id

/-! ## Groups of digits -/

/-- Digits in groups of the given sizes, with a hyphen between two groups. -/
def groupChars : List Nat → List HexDigit → List Char
  | [], _ => []
  | [n], ds => digitChars (ds.take n)
  | n :: ns, ds => digitChars (ds.take n) ++ '-' :: groupChars ns (ds.drop n)

/-- There is a character for each digit. -/
theorem length_digitChars (ds : List HexDigit) : (digitChars ds).length = ds.length :=
  List.length_map _

/-- Digits are taken off exactly the characters that begin with them. -/
theorem takeDigits_eq_some_iff (n : Nat) (cs : List Char) (ds : List HexDigit)
    (rest : List Char) :
    takeDigits n cs = some (ds, rest) ↔
      ds.length = n ∧ ∃ front, cs = front ++ rest ∧ front.map Char.toLower = digitChars ds := by
  induction n generalizing cs ds with
  | zero =>
    simp only [takeDigits, Option.some.injEq, Prod.mk.injEq, List.length_eq_zero_iff]
    constructor
    · rintro ⟨rfl, rfl⟩
      exact ⟨rfl, [], rfl, rfl⟩
    · rintro ⟨rfl, front, rfl, hfront⟩
      rw [List.map_eq_nil_iff.1 hfront]
      exact ⟨rfl, rfl⟩
  | succ n ih =>
    cases cs with
    | nil =>
      simp only [takeDigits, reduceCtorEq, false_iff]
      rintro ⟨hlength, front, hfront, hmap⟩
      have hnil : front = [] := (List.append_eq_nil_iff.1 hfront.symm).1
      rw [hnil, List.map_nil, digitChars, eq_comm, List.map_eq_nil_iff] at hmap
      rw [hmap] at hlength
      contradiction
    | cons c cs =>
      simp only [takeDigits, Option.bind_eq_bind, Option.bind_eq_some_iff,
        HexDigit.ofChar?_eq_some_iff, pure, Option.some.injEq, Prod.mk.injEq]
      constructor
      · rintro ⟨d, hd, ⟨es, last⟩, h, rfl, rfl⟩
        obtain ⟨hes, front, rfl, hfront⟩ := (ih cs es).1 h
        refine ⟨by rw [List.length_cons, hes], c :: front, rfl, ?_⟩
        rw [List.map_cons, hd, hfront]
        rfl
      · rintro ⟨hlength, front, hfront, hmap⟩
        obtain ⟨d, es, rfl⟩ := List.exists_cons_of_length_eq_add_one hlength
        rw [digitChars, List.map_cons] at hmap
        obtain ⟨c', front', rfl, hc, hes⟩ := List.map_eq_cons_iff.1 hmap
        obtain ⟨rfl, rfl⟩ := List.cons.inj hfront
        refine ⟨d, hc, (es, rest), (ih _ es).2 ⟨?_, front', rfl, hes⟩, rfl, rfl⟩
        simpa using hlength

/-- The first group and a hyphen are taken off, and then the groups after the hyphen. -/
theorem takeGroups_cons_eq_some_iff (n m : Nat) (ns : List Nat) (cs : List Char)
    (ds : List HexDigit) :
    takeGroups (n :: m :: ns) cs = some (ds, []) ↔
      ∃ front rest es, takeDigits n cs = some (front, '-' :: rest) ∧
        takeGroups (m :: ns) rest = some (es, []) ∧ ds = front ++ es := by
  simp only [takeGroups, Option.bind_eq_bind, Option.bind_eq_some_iff, Prod.exists]
  constructor
  · rintro ⟨front, rest, hfront, h⟩
    split at h
    · rename_i rest'
      obtain ⟨⟨es, last⟩, hes, h⟩ := Option.bind_eq_some_iff.1 h
      cases h
      exact ⟨front, rest', es, hfront, hes, rfl⟩
    · contradiction
  · rintro ⟨front, rest, es, hfront, hes, rfl⟩
    refine ⟨front, '-' :: rest, hfront, ?_⟩
    change (takeGroups (m :: ns) rest).bind _ = _
    rw [hes]
    rfl

/-- **Groups are read from exactly the characters that are so grouped, in either case.** -/
theorem takeGroups_eq_some_iff (sizes : List Nat) (cs : List Char) (ds : List HexDigit) :
    takeGroups sizes cs = some (ds, []) ↔
      ds.length = sizes.sum ∧ cs.map Char.toLower = groupChars sizes ds := by
  induction sizes generalizing cs ds with
  | nil =>
    simp only [takeGroups, Option.some.injEq, Prod.mk.injEq, List.sum_nil,
      List.length_eq_zero_iff, groupChars, List.map_eq_nil_iff]
    rw [eq_comm]
  | cons n ns ih =>
    cases ns with
    | nil =>
      simp only [takeGroups, takeDigits_eq_some_iff, List.append_nil, exists_eq_left', groupChars,
        List.sum_cons, List.sum_nil, Nat.add_zero]
      constructor
      · rintro ⟨rfl, h⟩
        rw [List.take_length]
        exact ⟨rfl, h⟩
      · rintro ⟨rfl, h⟩
        rw [List.take_length] at h
        exact ⟨rfl, h⟩
    | cons m ns =>
      simp only [takeGroups_cons_eq_some_iff, takeDigits_eq_some_iff, ih, groupChars]
      constructor
      · rintro ⟨front, rest, es, ⟨hfront, text, rfl, htext⟩, ⟨hes, hrest⟩, rfl⟩
        refine ⟨by rw [List.length_append, hfront, hes, List.sum_cons (a := n)], ?_⟩
        rw [List.take_left' hfront, List.drop_left' hfront, List.map_append, List.map_cons, htext,
          hrest]
        rfl
      · rintro ⟨hlength, hmap⟩
        have hn : n ≤ ds.length := by
          rw [hlength, List.sum_cons (a := n)]
          omega
        obtain ⟨text, tail, rfl, htext, htail⟩ := List.map_eq_append_iff.1 hmap
        obtain ⟨c, rest, rfl, hc, hrest⟩ := List.map_eq_cons_iff.1 htail
        obtain rfl := eq_of_toLower_eq c '-' (by decide) hc
        refine ⟨ds.take n, rest, ds.drop n, ⟨?_, text, rfl, htext⟩, ⟨?_, hrest⟩, ?_⟩
        · rw [List.length_take, Nat.min_eq_left hn]
        · rw [List.length_drop, hlength, List.sum_cons (a := n), Nat.add_sub_cancel_left]
        · rw [List.take_append_drop]

/-- The characters of an identifier in groups of sizes that add up to its length. -/
theorem ofGroups?_eq_some_iff (sizes : List Nat) (hsum : sizes.sum = 32) (cs : List Char)
    (a : Id) :
    ofGroups? sizes cs = some a ↔ cs.map Char.toLower = groupChars sizes a.digits := by
  unfold ofGroups?
  constructor
  · intro h
    split at h
    · rename_i ds hds
      split at h
      · cases h
        exact ((takeGroups_eq_some_iff sizes cs ds).1 hds).2
      · contradiction
    · contradiction
  · intro h
    rw [(takeGroups_eq_some_iff sizes cs a.digits).2 ⟨by rw [hsum, a.length_digits], h⟩]
    dsimp only
    rw [dif_pos a.length_digits]

/-- The text of an identifier has five groups. -/
theorem groupChars_digits (a : Id) :
    groupChars [8, 4, 4, 4, 12] a.digits = groupedChars a.digits := by
  have hlast : (a.digits.drop 20).take 12 = a.digits.drop 20 :=
    List.take_of_length_le (by simp [a.length_digits])
  simp [groupChars, groupedChars, hlast]

/-- The grouped form is read from exactly its characters. -/
theorem ofGrouped?_eq_some_iff (cs : List Char) (a : Id) :
    ofGrouped? cs = some a ↔ cs.map Char.toLower = groupedChars a.digits := by
  unfold ofGrouped?
  rw [ofGroups?_eq_some_iff _ (by decide), groupChars_digits]

/-- The form without hyphens is read from exactly its characters. -/
theorem ofPlain?_eq_some_iff (cs : List Char) (a : Id) :
    ofPlain? cs = some a ↔ cs.map Char.toLower = digitChars a.digits := by
  have hchars : groupChars [32] a.digits = digitChars a.digits := by
    simp [groupChars, ← a.length_digits]
  unfold ofPlain?
  rw [ofGroups?_eq_some_iff _ (by decide), hchars]

/-! ## What stands around the groups -/

/-- The name space of identifiers. -/
def namespaceChars : List Char := ['u', 'r', 'n', ':', 'u', 'u', 'i', 'd', ':']

/-- Braces are taken off exactly what stands in braces. -/
theorem unbrace?_eq_some_iff (cs inner : List Char) :
    unbrace? cs = some inner ↔ cs = '\x7b' :: inner ++ ['\x7d'] := by
  constructor
  · intro h
    unfold unbrace? at h
    split at h
    · rename_i rest
      split at h
      · rename_i hlast
        obtain ⟨front, rfl⟩ := List.getLast?_eq_some_iff.1 hlast
        rw [List.dropLast_concat] at h
        cases h
        rfl
      · contradiction
    · contradiction
  · rintro rfl
    have hlast : (inner ++ ['\x7d']).getLast? = some '\x7d' := List.getLast?_concat
    change (if (inner ++ ['\x7d']).getLast? = some '\x7d' then some (inner ++ ['\x7d']).dropLast
      else none) = some inner
    rw [if_pos hlast, List.dropLast_concat]

/-- The name space is taken off exactly what stands after it. -/
theorem unurn?_eq_some_iff (cs inner : List Char) :
    unurn? cs = some inner ↔
      ∃ front, cs = front ++ inner ∧ front.map Char.toLower = namespaceChars := by
  unfold unurn?
  constructor
  · intro h
    split at h
    · rename_i hfront
      cases h
      exact ⟨cs.take 9, (List.take_append_drop 9 cs).symm, hfront⟩
    · contradiction
  · rintro ⟨front, rfl, hfront⟩
    have hlength : front.length = 9 := by
      have := congrArg List.length hfront
      rwa [List.length_map] at this
    rw [List.take_left' hlength, List.drop_left' hlength]
    exact if_pos hfront

/-! ## The four forms -/

/-- The forms of an identifier, in lowercase. -/
def forms (a : Id) : List (List Char) :=
  [groupedChars a.digits, digitChars a.digits,
    '\x7b' :: groupedChars a.digits ++ ['\x7d'], namespaceChars ++ groupedChars a.digits]

/-- The characters are a form of the identifier, in any case of the letters. -/
def Spells (cs : List Char) (a : Id) : Prop := cs.map Char.toLower ∈ a.forms

instance (cs : List Char) (a : Id) : Decidable (Spells cs a) :=
  inferInstanceAs (Decidable (_ ∈ _))

/-- Both forms without anything in front begin with a digit. -/
theorem exists_digit_of_forms (a : Id) (cs : List Char)
    (h : cs = groupedChars a.digits ∨ cs = digitChars a.digits) :
    ∃ d rest, cs = HexDigit.char d :: rest := by
  rcases h with rfl | rfl
  · exact exists_groupedChars a
  · obtain ⟨d, ds, hd⟩ := List.exists_cons_of_length_eq_add_one a.length_digits
    rw [hd]
    exact ⟨d, _, rfl⟩

/-- Characters in braces spell what they spell between them. -/
theorem spells_braced_iff (cs : List Char) (a : Id) :
    Spells ('\x7b' :: cs ++ ['\x7d']) a ↔ cs.map Char.toLower = groupedChars a.digits := by
  have hlower : ('\x7b' :: cs ++ ['\x7d']).map Char.toLower
      = '\x7b' :: cs.map Char.toLower ++ ['\x7d'] := by
    rw [List.map_append, List.map_cons]
    rfl
  have hdigit (d : HexDigit) : d.char ≠ '\x7b' := by
    revert d
    decide
  unfold Spells forms
  rw [hlower]
  simp only [List.mem_cons, List.not_mem_nil, or_false]
  constructor
  · rintro (h | h | h | h)
    · obtain ⟨d, rest, hd⟩ := exists_digit_of_forms a _ (.inl h)
      exact absurd (List.cons.inj hd).1.symm (hdigit d)
    · obtain ⟨d, rest, hd⟩ := exists_digit_of_forms a _ (.inr h)
      exact absurd (List.cons.inj hd).1.symm (hdigit d)
    · exact List.append_cancel_right (List.cons.inj h).2
    · exact absurd (List.cons.inj h).1 (by decide)
  · intro h
    rw [h]
    exact .inr (.inr (.inl rfl))

/-- Characters after the name space spell what they spell without it. -/
theorem spells_urn_iff (front cs : List Char) (hfront : front.map Char.toLower = namespaceChars)
    (a : Id) : Spells (front ++ cs) a ↔ cs.map Char.toLower = groupedChars a.digits := by
  have hdigit (d : HexDigit) : d.char ≠ 'u' := by
    revert d
    decide
  unfold Spells forms
  rw [List.map_append, hfront]
  simp only [List.mem_cons, List.not_mem_nil, or_false]
  constructor
  · rintro (h | h | h | h)
    · obtain ⟨d, rest, hd⟩ := exists_digit_of_forms a _ (.inl h)
      exact absurd (List.cons.inj hd).1.symm (hdigit d)
    · obtain ⟨d, rest, hd⟩ := exists_digit_of_forms a _ (.inr h)
      exact absurd (List.cons.inj hd).1.symm (hdigit d)
    · exact absurd (List.cons.inj h).1 (by decide)
    · exact List.append_cancel_left h
  · intro h
    rw [h]
    exact .inr (.inr (.inr rfl))

/-- A grouped text has four more characters than there are digits. -/
theorem length_groupedChars (a : Id) : (groupedChars a.digits).length = 36 := by
  simp [groupedChars, digitChars, a.length_digits]

/-- No text is both grouped and without hyphens. -/
theorem ofGrouped?_eq_none_of_ofPlain? (cs : List Char) (a : Id) (h : ofPlain? cs = some a) :
    ofGrouped? cs = none := by
  refine Option.eq_none_iff_forall_ne_some.2 fun b hb => ?_
  have hplain := congrArg List.length ((ofPlain?_eq_some_iff cs a).1 h)
  have hgrouped := congrArg List.length ((ofGrouped?_eq_some_iff cs b).1 hb)
  rw [hplain, length_groupedChars, length_digitChars, a.length_digits] at hgrouped
  contradiction

/-- **Reading accepts exactly the four forms, in any case of the letters.** -/
theorem ofChars?_eq_some_iff (cs : List Char) (a : Id) : ofChars? cs = some a ↔ Spells cs a := by
  unfold ofChars?
  cases hbrace : unbrace? cs with
  | some inner =>
    obtain rfl := (unbrace?_eq_some_iff cs inner).1 hbrace
    rw [ofGrouped?_eq_some_iff, spells_braced_iff]
  | none =>
    cases hurn : unurn? cs with
    | some inner =>
      obtain ⟨front, rfl, hfront⟩ := (unurn?_eq_some_iff cs inner).1 hurn
      dsimp only
      rw [ofGrouped?_eq_some_iff, spells_urn_iff front inner hfront]
    | none =>
      -- Neither of the forms with something around the groups is left.
      have hnobrace : cs.map Char.toLower ≠ '\x7b' :: groupedChars a.digits ++ ['\x7d'] := by
        intro h
        obtain ⟨front, back, rfl, hfront, hback⟩ := List.map_eq_append_iff.1 h
        obtain ⟨c, inner, rfl, hc, -⟩ := List.map_eq_cons_iff.1 hfront
        obtain ⟨c', tail, rfl, hc', htail⟩ := List.map_eq_cons_iff.1 hback
        obtain rfl := eq_of_toLower_eq c '\x7b' (by decide) hc
        obtain rfl := eq_of_toLower_eq c' '\x7d' (by decide) hc'
        rw [List.map_eq_nil_iff.1 htail,
          (unbrace?_eq_some_iff _ inner).2 rfl] at hbrace
        contradiction
      have hnourn : cs.map Char.toLower ≠ namespaceChars ++ groupedChars a.digits := by
        intro h
        obtain ⟨front, back, rfl, hfront, -⟩ := List.map_eq_append_iff.1 h
        rw [(unurn?_eq_some_iff _ back).2 ⟨front, rfl, hfront⟩] at hurn
        contradiction
      have hforms : Spells cs a ↔ ofGrouped? cs = some a ∨ ofPlain? cs = some a := by
        simp only [ofGrouped?_eq_some_iff, ofPlain?_eq_some_iff, Spells, forms, List.mem_cons,
          List.not_mem_nil, or_false, hnobrace, hnourn]
      rw [hforms]
      dsimp only
      constructor
      · intro h
        cases hgrouped : ofGrouped? cs with
        | some b =>
          rw [hgrouped] at h
          exact .inl h
        | none =>
          rw [hgrouped] at h
          exact .inr h
      · rintro (h | h)
        · rw [h]
          rfl
        · rw [ofGrouped?_eq_none_of_ofPlain? cs a h]
          exact h

/-- **A text is read as an identifier exactly when it spells it.** -/
theorem ofText?_eq_some_iff (s : String) (a : Id) : ofText? s = some a ↔ Spells s.toList a :=
  ofChars?_eq_some_iff s.toList a

/-- A text spells at most one identifier. -/
theorem Spells.unique {cs : List Char} {a b : Id} (ha : Spells cs a) (hb : Spells cs b) : a = b :=
  Option.some.inj (((ofChars?_eq_some_iff cs a).2 ha).symm.trans ((ofChars?_eq_some_iff cs b).2 hb))

end Id

/-- A text is read as a user exactly when it spells the user's identifier. -/
theorem UserId.ofText?_eq_some_iff (s : String) (u : UserId) :
    UserId.ofText? s = some u ↔ Id.Spells s.toList u.id := by
  unfold UserId.ofText?
  rw [← Id.ofText?_eq_some_iff, Option.map_eq_some_iff]
  constructor
  · rintro ⟨a, ha, rfl⟩
    exact ha
  · intro h
    exact ⟨u.id, h, rfl⟩

end ExpenseLedger
