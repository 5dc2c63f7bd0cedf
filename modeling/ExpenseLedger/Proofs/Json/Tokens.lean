import ExpenseLedger.Json.Text
import ExpenseLedger.Proofs.Text.Integer
/-!
# Written tokens are read back

Tokens are read one character at a time, and a word or a number has ended only when a character
comes that cannot be part of it. Characters spell tokens if they are read as these tokens from any
gap, once whatever is still being read is ended (`Json.Spells`). What spells some tokens goes before
any mark, and so the spelling of a tree is put together from those of its parts. Main statement:

* `Json.spells_tokens`: the written form of a tree spells its tokens.

Numbers are those of integers: they have no point and no power.
-/

namespace ExpenseLedger.Json

/-! ## Spellings -/

/-- From any gap the characters are read as the tokens. -/
def Spells (cs : List Char) (ts : List Token) : Prop :=
  ∀ held, ∃ s, cs.foldlM Scan.step ⟨.gap, held⟩ = some s ∧
    s.finish = some (ts.reverse ++ held)

/-- A character that is no part of a word or of a number ends what is being read. -/
theorem Scan.step_of_finish {s : Scan} {held : List Token} (h : s.finish = some held) {c : Char}
    (hletter : isLetter c = false) (hnumber : isNumberChar c = false) :
    s.step c = Scan.begin held c := by
  obtain ⟨mode, tokens⟩ := s
  cases mode with
  | gap =>
    cases h
    rfl
  | word letters =>
    obtain ⟨t, ht, rfl⟩ := Option.map_eq_some_iff.1 h
    simp only [Scan.step, hletter, ht, Option.bind_some, Bool.false_eq_true, if_false]
  | number chars =>
    obtain ⟨n, hn, rfl⟩ := Option.map_eq_some_iff.1 h
    simp only [Scan.step, hnumber, hn, Option.bind_some, Bool.false_eq_true, if_false]
  | string pieces => contradiction
  | escape pieces => contradiction
  | unit pieces left value => contradiction

namespace Spells

variable {cs ds : List Char} {ts us : List Token}

/-- No characters spell no tokens. -/
theorem nil : Spells [] [] := fun held => ⟨⟨.gap, held⟩, rfl, rfl⟩

/-- What is spelled is what is read. -/
theorem tokenize (h : Spells cs ts) : tokenize cs = some ts := by
  obtain ⟨s, hs, hfinish⟩ := h []
  unfold Json.tokenize
  rw [hs, Option.bind_some, hfinish, List.append_nil, Option.map_some, List.reverse_reverse]

/-- What begins with a character that is no part of a word or of a number can follow. -/
theorem append {c : Char} (h : Spells cs ts) (hletter : isLetter c = false)
    (hnumber : isNumberChar c = false) (h' : Spells (c :: ds) us) :
    Spells (cs ++ c :: ds) (ts ++ us) := by
  intro held
  obtain ⟨s, hs, hfinish⟩ := h held
  obtain ⟨s', hs', hfinish'⟩ := h' (ts.reverse ++ held)
  refine ⟨s', ?_, ?_⟩
  · rw [List.foldlM_append, hs]
    rw [List.foldlM_cons] at hs'
    change (s.step c >>= fun s => ds.foldlM Scan.step s) = some s'
    rw [Scan.step_of_finish hfinish hletter hnumber]
    exact hs'
  · rw [hfinish', List.reverse_append, List.append_assoc]

end Spells

/-! ## Marks -/

/-- The character is a token by itself, and no part of a word or of a number. -/
structure IsMark (c : Char) (t : Token) : Prop where
  /-- It is read as the token. -/
  step : ∀ held, Scan.step ⟨.gap, held⟩ c = some ⟨.gap, t :: held⟩
  /-- It is no letter. -/
  letter : isLetter c = false
  /-- It is no part of a number. -/
  number : isNumberChar c = false

/-- Opening brackets. -/
theorem isMark_openList : IsMark '[' .openList := ⟨fun _ => rfl, rfl, rfl⟩

/-- Closing brackets. -/
theorem isMark_closeList : IsMark ']' .closeList := ⟨fun _ => rfl, rfl, rfl⟩

/-- Opening braces. -/
theorem isMark_openObject : IsMark '\x7b' .openObject := ⟨fun _ => rfl, rfl, rfl⟩

/-- Closing braces. -/
theorem isMark_closeObject : IsMark '\x7d' .closeObject := ⟨fun _ => rfl, rfl, rfl⟩

/-- Commas. -/
theorem isMark_comma : IsMark ',' .comma := ⟨fun _ => rfl, rfl, rfl⟩

/-- Colons. -/
theorem isMark_colon : IsMark ':' .colon := ⟨fun _ => rfl, rfl, rfl⟩

namespace Spells

variable {cs ds : List Char} {ts us : List Token} {c : Char} {t : Token}

/-- Anything can follow a mark. -/
theorem mark (hc : IsMark c t) (h : Spells ds us) : Spells (c :: ds) (t :: us) := by
  intro held
  obtain ⟨s, hs, hfinish⟩ := h (t :: held)
  refine ⟨s, ?_, ?_⟩
  · rw [List.foldlM_cons, hc.step held]
    exact hs
  · rw [hfinish, List.reverse_cons, List.append_assoc]
    rfl

/-- A mark can follow anything. -/
theorem before_mark (h : Spells cs ts) (hc : IsMark c t) (h' : Spells ds us) :
    Spells (cs ++ c :: ds) (ts ++ t :: us) :=
  h.append hc.letter hc.number (h'.mark hc)

end Spells

/-! ## Words -/

/-- The word `null`. -/
theorem spells_null : Spells Token.null.chars [.null] :=
  fun held => ⟨⟨.word ['l', 'l', 'u', 'n'], held⟩, rfl, rfl⟩

/-- The words for truth values. -/
theorem spells_bool (b : Bool) : Spells (Token.bool b).chars [.bool b] := by
  cases b with
  | false => exact fun held => ⟨⟨.word ['e', 's', 'l', 'a', 'f'], held⟩, rfl, rfl⟩
  | true => exact fun held => ⟨⟨.word ['e', 'u', 'r', 't'], held⟩, rfl, rfl⟩

/-! ## Strings -/

/-- The element of a string that the written form of a character is read as. -/
def pieceOf (c : Char) : Piece :=
  if c = '\x08' ∨ c = '\x0c' ∨ c = '\n' ∨ c = '\r' ∨ c = '\t' ∨ 32 ≤ c.toNat then .char c
  else .unit c.toNat

/-- A control character makes up the character that has its number. -/
theorem assemble_pieceOf (cs : List Char) : assemble (cs.map pieceOf) = some cs := by
  induction cs with
  | nil => rfl
  | cons c cs ih =>
    rw [List.map_cons]
    by_cases hc : c = '\x08' ∨ c = '\x0c' ∨ c = '\n' ∨ c = '\r' ∨ c = '\t' ∨ 32 ≤ c.toNat
    · rw [pieceOf, if_pos hc, assemble, ih]
      rfl
    · have hlow : c.toNat < 32 := Nat.lt_of_not_le fun hle => hc (by simp [hle])
      have hhigh : isHighHalf c.toNat = false := by
        simp only [isHighHalf, Bool.and_eq_false_iff, decide_eq_false_iff_not]
        omega
      have hlower : isLowHalf c.toNat = false := by
        simp only [isLowHalf, Bool.and_eq_false_iff, decide_eq_false_iff_not]
        omega
      rw [pieceOf, if_neg hc]
      -- What follows may be a unit or not, which makes no difference below the surrogates.
      have hunit : assemble (.unit c.toNat :: cs.map pieceOf) =
          (assemble (cs.map pieceOf)).map (Char.ofNat c.toNat :: ·) := by
        cases hcs : cs.map pieceOf with
        | nil => simp [assemble, hhigh, hlower]
        | cons p ps =>
          cases p with
          | char d => simp [assemble, hhigh, hlower]
          | unit n => simp [assemble, hhigh, hlower]
      rw [hunit, ih, Option.map_some, Char.ofNat_toNat]

/-- The written form of a control character is read as a unit with its number. -/
theorem foldlM_controlDigits (c : Char) (hlow : c.toNat < 32) (pieces : List Piece)
    (held : List Token) :
    (['\\', 'u', '0', '0'] ++ controlDigits c).foldlM Scan.step ⟨.string pieces, held⟩ =
      some ⟨.string (.unit c.toNat :: pieces), held⟩ := by
  have hvalue : (0 * 16 + (Fin.ofNat 16 (c.toNat / 16)).val) * 16 + (Fin.ofNat 16 c.toNat).val =
      c.toNat := by
    simp only [Fin.ofNat]
    omega
  change (HexDigit.ofChar? (HexDigit.char (Fin.ofNat 16 (c.toNat / 16)))).map _ >>= _ = _
  rw [HexDigit.ofChar?_char]
  change (HexDigit.ofChar? (HexDigit.char (Fin.ofNat 16 c.toNat))).map _ >>= _ = _
  rw [HexDigit.ofChar?_char]
  change some (⟨.string (.unit ((0 * 16 + (Fin.ofNat 16 (c.toNat / 16)).val) * 16 +
    (Fin.ofNat 16 c.toNat).val) :: pieces), held⟩ : Scan) = _
  rw [hvalue]

/-- The written form of a character within a string is read as its element. -/
theorem foldlM_escapeChar (c : Char) (pieces : List Piece) (held : List Token) :
    (escapeChar c).foldlM Scan.step ⟨.string pieces, held⟩ =
      some ⟨.string (pieceOf c :: pieces), held⟩ := by
  unfold escapeChar
  by_cases hquote : c = '"'
  · rw [hquote]
    rfl
  by_cases hbackslash : c = '\\'
  · rw [hbackslash]
    rfl
  by_cases hbackspace : c = '\x08'
  · rw [hbackspace]
    rfl
  by_cases hfeed : c = '\x0c'
  · rw [hfeed]
    rfl
  by_cases hline : c = '\n'
  · rw [hline]
    rfl
  by_cases hreturn : c = '\r'
  · rw [hreturn]
    rfl
  by_cases htab : c = '\t'
  · rw [htab]
    rfl
  rw [if_neg hquote, if_neg hbackslash, if_neg hbackspace, if_neg hfeed, if_neg hline,
    if_neg hreturn, if_neg htab]
  by_cases hlow : c.toNat < 32
  · have hpiece : pieceOf c = .unit c.toNat := by
      unfold pieceOf
      rw [if_neg]
      rintro (h | h | h | h | h | h)
      · exact hbackspace h
      · exact hfeed h
      · exact hline h
      · exact hreturn h
      · exact htab h
      · omega
    rw [if_pos hlow, hpiece]
    exact foldlM_controlDigits c hlow pieces held
  · have hpiece : pieceOf c = .char c := by
      unfold pieceOf
      rw [if_pos]
      simp only [Nat.not_lt.1 hlow, or_true]
    rw [if_neg hlow, hpiece, List.foldlM_cons]
    simp only [Scan.step, hquote, hbackslash, hlow, if_false]
    rfl

/-- The written form of characters within a string is read as their elements. -/
theorem foldlM_flatMap_escapeChar (cs : List Char) (pieces : List Piece) (held : List Token) :
    (cs.flatMap escapeChar).foldlM Scan.step ⟨.string pieces, held⟩ =
      some ⟨.string ((cs.map pieceOf).reverse ++ pieces), held⟩ := by
  induction cs generalizing pieces with
  | nil => rfl
  | cons c cs ih =>
    rw [List.flatMap_cons, List.foldlM_append, foldlM_escapeChar]
    change (cs.flatMap escapeChar).foldlM Scan.step ⟨.string (pieceOf c :: pieces), held⟩ = _
    rw [ih, List.map_cons, List.reverse_cons, List.append_assoc]
    rfl

/-- Strings, with text or without. -/
theorem spells_string (text : Option String) : Spells (Token.string text).chars [.string text] := by
  cases text with
  | none => exact fun held => ⟨⟨.gap, .string none :: held⟩, rfl, rfl⟩
  | some s =>
    intro held
    refine ⟨⟨.gap, .string (some s) :: held⟩, ?_, rfl⟩
    change ((s.toList.flatMap escapeChar ++ ['"']).foldlM Scan.step ⟨.string [], held⟩) = _
    rw [List.foldlM_append, foldlM_flatMap_escapeChar]
    change some (⟨.gap, .string ((assemble ((s.toList.map pieceOf).reverse ++ []).reverse).map
      String.ofList) :: held⟩ : Scan) = _
    rw [List.append_nil, List.reverse_reverse, assemble_pieceOf, Option.map_some,
      String.ofList_toList]

/-! ## Digits -/

/-- A digit has a value below ten. -/
theorem toNat_of_isDigit (c : Char) (h : c.isDigit = true) : 48 ≤ c.toNat ∧ c.toNat ≤ 57 := by
  simp only [Char.isDigit, ge_iff_le, Bool.and_eq_true, decide_eq_true_eq,
    UInt32.le_iff_toNat_le] at h
  exact h

/-- The digits are the characters of the numbers below ten. -/
theorem exists_digitChar (c : Char) (h : c.isDigit = true) : ∃ d, c = digitChar d := by
  have hc := toNat_of_isDigit c h
  refine ⟨⟨c.toNat - 48, by omega⟩, ?_⟩
  unfold digitChar
  rw [Nat.add_sub_cancel' hc.1, Char.ofNat_toNat]

/-- The values of the digits in front. -/
def digitsOf (cs : List Char) : List (Fin 10) := (takeDigits cs).1

/-- All of the digits are taken off. -/
theorem takeDigits_of_isDigit (cs : List Char) (hcs : ∀ c ∈ cs, c.isDigit = true) :
    takeDigits cs = (digitsOf cs, []) := by
  suffices hrest : (takeDigits cs).2 = [] from Prod.ext rfl hrest
  induction cs with
  | nil => rfl
  | cons c cs ih =>
    unfold takeDigits
    rw [Text.digit?_of_isDigit c (hcs c List.mem_cons_self)]
    exact ih fun d hd => hcs d (List.mem_cons_of_mem c hd)

/-- Digits are taken off one by one. -/
theorem exists_digitsOf_cons (c : Char) (cs : List Char) (hc : c.isDigit = true) :
    ∃ d : Fin 10, d.val = c.toNat - 48 ∧ digitsOf (c :: cs) = d :: digitsOf cs := by
  have hbounds := toNat_of_isDigit c hc
  have hlt : c.toNat - 48 < 10 := by omega
  refine ⟨Fin.ofNat 10 (c.toNat - 48), Nat.mod_eq_of_lt hlt, ?_⟩
  unfold digitsOf
  rw [takeDigits, Text.digit?_of_isDigit c hc]

/-- The value of some digits. -/
theorem digitsValue_digitsOf (cs : List Char) (hcs : ∀ c ∈ cs, c.isDigit = true) :
    digitsValue (digitsOf cs) = Nat.ofDigitChars 10 cs 0 := by
  unfold digitsValue
  generalize 0 = n
  induction cs generalizing n with
  | nil => simp [digitsOf, takeDigits]
  | cons c cs ih =>
    obtain ⟨d, hd, hcons⟩ := exists_digitsOf_cons c cs (hcs c List.mem_cons_self)
    have hval : n * 10 + d.val = 10 * n + (c.toNat - '0'.toNat) := by
      have hzero : '0'.toNat = 48 := rfl
      omega
    rw [hcons, List.foldl_cons, Nat.ofDigitChars_cons, hval]
    exact ih (fun d hd => hcs d (List.mem_cons_of_mem c hd)) _

/-- The digits of a positive number begin with no zero. -/
theorem head_naturalChars (n : Nat) (hn : 0 < n) (c : Char) (cs : List Char)
    (h : Text.naturalChars n = c :: cs) : c ≠ '0' := by
  unfold Text.naturalChars at h
  induction n using Nat.strongRecOn generalizing c cs with
  | ind n ih =>
    by_cases hten : n < 10
    · rw [Nat.toDigits_of_lt_base hten] at h
      cases h
      have hdigits : ∀ d : Fin 10, 0 < d.val → Nat.digitChar d.val ≠ '0' := by decide
      exact hdigits ⟨n, hten⟩ hn
    · -- The first digit stays the first when the last is taken off.
      obtain ⟨d, ds, hds⟩ := List.exists_cons_of_ne_nil
        (Nat.toDigits_ne_nil (n := n / 10) (b := 10))
      rw [Nat.toDigits_of_base_le (by decide) (Nat.not_lt.1 hten), hds] at h
      have hlt : n / 10 < n := Nat.div_lt_self hn (by decide)
      have hd := ih (n / 10) hlt (Nat.div_pos (Nat.not_lt.1 hten) (by decide)) d ds hds
      cases h
      exact hd

/-! ## Numbers -/

/-- The digits of a natural number are read as that number. -/
theorem readUnsigned_naturalChars (negative : Bool) (n : Nat) :
    readUnsigned negative (Text.naturalChars n) = some ⟨negative, n, none, none⟩ := by
  obtain ⟨c, cs, hcs, hd⟩ := Text.exists_naturalChars n
  have hvalue : digitsValue (digitsOf (c :: cs)) = n := by
    rw [digitsValue_digitsOf _ hd, ← hcs]
    exact Nat.ofDigitChars_ten_toDigits
  obtain ⟨d, hfirst, hcons⟩ := exists_digitsOf_cons c cs (hd c List.mem_cons_self)
  unfold readUnsigned
  rw [hcs, takeDigits_of_isDigit _ hd, hcons]
  rw [hcons] at hvalue
  cases cs with
  | nil =>
    have hdigit : d.val = n := by
      rw [← hvalue]
      simp [digitsValue, digitsOf, takeDigits]
    change some (⟨negative, d.val, none, none⟩ : JsonNumber) = _
    rw [hdigit]
  | cons c' cs =>
    have hpos : 0 < n := by
      rcases Nat.eq_zero_or_pos n with rfl | h
      · have hzero : Text.naturalChars 0 = ['0'] := rfl
        rw [hzero] at hcs
        simp at hcs
      · exact h
    have hc := toNat_of_isDigit c (hd c List.mem_cons_self)
    have hzero : d.val ≠ 0 := by
      intro h
      apply head_naturalChars n hpos c _ hcs
      have hcode : c.toNat = 48 := by omega
      rw [← Char.ofNat_toNat c, hcode]
    obtain ⟨d', -, hcons'⟩ := exists_digitsOf_cons c' cs (hd c' (by simp))
    rw [hcons'] at hvalue ⊢
    change (if d.val = 0 then none
      else some (⟨negative, digitsValue (d :: d' :: digitsOf cs), none, none⟩ : JsonNumber)) = _
    rw [if_neg hzero, hvalue]

/-- The digits of an integer are the characters of its number. -/
theorem numberChars_ofInt (a : Int) : numberChars (JsonNumber.ofInt a) = Text.integerChars a := by
  unfold numberChars JsonNumber.ofInt Text.integerChars
  by_cases h : a < 0
  · simp [h]
  · simp [h]

/-- The digits of an integer, after a sign or not, are read as its number. -/
theorem readNumber_integerChars (a : Int) :
    readNumber (Text.integerChars a) = some (JsonNumber.ofInt a) := by
  unfold Text.integerChars JsonNumber.ofInt
  split
  · rename_i h
    rw [decide_eq_true h]
    exact readUnsigned_naturalChars true a.natAbs
  · rename_i h
    rw [decide_eq_false h]
    obtain ⟨c, cs, hcs, hd⟩ := Text.exists_naturalChars a.natAbs
    have hminus : c ≠ '-' := by
      rintro rfl
      exact absurd (hd '-' List.mem_cons_self) (by decide)
    have hread := readUnsigned_naturalChars false a.natAbs
    rw [hcs] at hread ⊢
    unfold readNumber
    split
    · rename_i heq
      exact absurd (List.cons.inj heq).1 hminus
    · exact hread

/-- A number goes on as long as digits come. -/
theorem foldlM_digits (cs chars : List Char) (held : List Token)
    (hcs : ∀ c ∈ cs, c.isDigit = true) :
    cs.foldlM Scan.step ⟨.number chars, held⟩ = some ⟨.number (cs.reverse ++ chars), held⟩ := by
  induction cs generalizing chars with
  | nil => rfl
  | cons c cs ih =>
    have hnumber : isNumberChar c = true := by
      unfold isNumberChar
      rw [Text.digit?_of_isDigit c (hcs c List.mem_cons_self)]
      rfl
    rw [List.foldlM_cons]
    change (if isNumberChar c = true then some (⟨.number (c :: chars), held⟩ : Scan) else _) >>= _
      = _
    rw [if_pos hnumber]
    change cs.foldlM Scan.step ⟨.number (c :: chars), held⟩ = _
    rw [ih _ fun d hd => hcs d (List.mem_cons_of_mem c hd), List.reverse_cons, List.append_assoc]
    rfl

/-- Digits after a sign or a digit spell the number as which they are read. -/
theorem spells_digits (c : Char) (cs : List Char) (n : JsonNumber)
    (hc : c = '-' ∨ c.isDigit = true) (hcs : ∀ d ∈ cs, d.isDigit = true)
    (hread : readNumber (c :: cs) = some n) : Spells (c :: cs) [.number n] := by
  intro held
  have hbegin : Scan.begin held c = some ⟨.number [c], held⟩ := by
    rcases hc with rfl | hc
    · rfl
    · obtain ⟨d, rfl⟩ := exists_digitChar c hc
      have hdigits : ∀ d : Fin 10, isGap (digitChar d) = false ∧ digitChar d ≠ '"' ∧
          mark? (digitChar d) = none ∧ (Text.digit? (digitChar d)).isSome = true := by decide
      obtain ⟨hgap, hquote, hmark, hdigit⟩ := hdigits d
      simp only [Scan.begin, hgap, hquote, hmark, hdigit, Bool.or_true, Bool.false_eq_true,
        if_false, if_true]
  refine ⟨⟨.number (cs.reverse ++ [c]), held⟩, ?_, ?_⟩
  · rw [List.foldlM_cons]
    change Scan.begin held c >>= _ = _
    rw [hbegin]
    exact foldlM_digits cs [c] held hcs
  · change (readNumber (cs.reverse ++ [c]).reverse).map _ = _
    rw [List.reverse_append, List.reverse_reverse, List.reverse_singleton, List.singleton_append,
      hread]
    rfl

/-- Integers. -/
theorem spells_int (a : Int) :
    Spells (Token.number (JsonNumber.ofInt a)).chars [.number (JsonNumber.ofInt a)] := by
  have hread := readNumber_integerChars a
  obtain ⟨c, cs, hcs, hd⟩ := Text.exists_naturalChars a.natAbs
  change Spells (numberChars (JsonNumber.ofInt a)) _
  rw [numberChars_ofInt]
  unfold Text.integerChars at hread ⊢
  rw [hcs] at hread ⊢
  split
  · rename_i h
    rw [if_pos h] at hread
    exact spells_digits '-' (c :: cs) _ (.inl rfl) hd hread
  · rename_i h
    rw [if_neg h] at hread
    exact spells_digits c cs _ (.inr (hd c List.mem_cons_self))
      (fun d hm => hd d (List.mem_cons_of_mem c hm)) hread

/-! ## Trees -/

mutual

/-- All numbers of the value are those of integers. -/
def IsWhole : Json → Prop
  | null => True
  | bool _ => True
  | number n => ∃ a, n = JsonNumber.ofInt a
  | string _ => True
  | list items => AreWhole items
  | object members => AreWholeMembers members

/-- All numbers of the values are those of integers. -/
def AreWhole : List Json → Prop
  | [] => True
  | v :: vs => IsWhole v ∧ AreWhole vs

/-- All numbers of the members are those of integers. -/
def AreWholeMembers : List (Option String × Json) → Prop
  | [] => True
  | (_, v) :: ms => IsWhole v ∧ AreWholeMembers ms

end

mutual

/-- **The written form of a tree spells its tokens.** -/
theorem spells_tokens : ∀ v : Json, v.IsWhole → Spells (v.tokens.flatMap Token.chars) v.tokens
  | null, _ => spells_null
  | bool b, _ => by
    have h := spells_bool b
    rw [← List.append_nil (Token.bool b).chars] at h
    exact h
  | number n, hn => by
    obtain ⟨a, rfl⟩ := hn
    have h := spells_int a
    rw [← List.append_nil (Token.number _).chars] at h
    exact h
  | string t, _ => by
    have h := spells_string t
    rw [← List.append_nil (Token.string t).chars] at h
    exact h
  | list items, hitems => (spells_itemTokens items hitems).mark isMark_openList
  | object members, hmembers => (spells_memberTokens members hmembers).mark isMark_openObject

/-- The written form of items spells their tokens. -/
theorem spells_itemTokens : ∀ items : List Json, AreWhole items →
    Spells ((itemTokens items).flatMap Token.chars) (itemTokens items)
  | [], _ => Spells.nil.mark isMark_closeList
  | [v], h => by
    have hv := spells_tokens v h.1
    change Spells ((v.tokens ++ [Token.closeList]).flatMap Token.chars) (v.tokens ++ [.closeList])
    rw [List.flatMap_append]
    exact hv.before_mark isMark_closeList .nil
  | v :: v' :: vs, h => by
    have hv := spells_tokens v h.1
    have hrest := spells_itemTokens (v' :: vs) h.2
    change Spells ((v.tokens ++ Token.comma :: itemTokens (v' :: vs)).flatMap Token.chars)
      (v.tokens ++ .comma :: itemTokens (v' :: vs))
    rw [List.flatMap_append]
    exact hv.before_mark isMark_comma hrest

/-- The written form of members spells their tokens. -/
theorem spells_memberTokens : ∀ members : List (Option String × Json), AreWholeMembers members →
    Spells ((memberTokens members).flatMap Token.chars) (memberTokens members)
  | [], _ => Spells.nil.mark isMark_closeObject
  | [(k, v)], h => by
    have hv := (spells_tokens v h.1).before_mark isMark_closeObject .nil
    rw [memberTokens, List.cons_append, List.cons_append, List.flatMap_cons, List.flatMap_cons,
      List.flatMap_append]
    exact (spells_string k).before_mark isMark_colon hv
  | (k, v) :: m :: ms, h => by
    have hrest := spells_memberTokens (m :: ms) h.2
    have hv := (spells_tokens v h.1).before_mark isMark_comma hrest
    change Spells
      ((Token.string k :: .colon :: (v.tokens ++ .comma :: memberTokens (m :: ms))).flatMap
        Token.chars)
      (.string k :: .colon :: (v.tokens ++ .comma :: memberTokens (m :: ms)))
    rw [List.flatMap_cons, List.flatMap_cons, List.flatMap_append]
    exact (spells_string k).before_mark isMark_colon hv

end

end ExpenseLedger.Json
