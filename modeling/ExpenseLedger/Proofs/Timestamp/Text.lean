import ExpenseLedger.Proofs.Text.Integer
import ExpenseLedger.Proofs.Timestamp.Calendar
import ExpenseLedger.Timestamp.Text
/-!
# Instants are read back from their text

Every part of the text of an instant is written with digits up to a mark, and a number that is read
up to a mark is the number that was written. What is read from any text is an instant whose year can
be told and whose leap second, if it is in one, ends a minute; that is all that the text needs to
tell the instant. Main statements:

* `Timestamp.ofText?_text`: the text of such an instant is read as the instant;
* `Timestamp.isTold_of_ofText?`: whatever is read is such an instant.
-/

namespace ExpenseLedger.Timestamp

/-! ## Instants that are told -/

/-- The year of the instant can be told, and a nanosecond count of a whole second or more belongs to
the last second of a minute. -/
structure IsTold (t : Timestamp) : Prop where
  /-- The year can be told. -/
  inRange : t.inRange = true
  /-- A leap second is no longer than a second. -/
  nano : t.nano < 2000000000
  /-- A leap second ends a minute. -/
  leap : 1000000000 ≤ t.nano → t.second % 60 = 59

/-! ## Digits up to a mark -/

/-- A digit is a digit. -/
theorem isDigit_of_isDigit {c : Char} (h : c.isDigit = true) : isDigit c = true := by
  unfold isDigit
  rw [Text.digit?_of_isDigit c h]
  rfl

/-- The value of digits. -/
theorem digitsValue_of_isDigit (ds : List Char) (hds : ∀ c ∈ ds, c.isDigit = true) :
    digitsValue ds = Nat.ofDigitChars 10 ds 0 := by
  have hgeneral : ∀ n, ds.foldl (fun n c => n * 10 + (Text.digit? c).getD 0) n =
      Nat.ofDigitChars 10 ds n := by
    induction ds with
    | nil => simp
    | cons c ds ih =>
      intro n
      have hzero : '0'.toNat = 48 := rfl
      rw [List.foldl_cons, Nat.ofDigitChars_cons,
        Text.digit?_of_isDigit c (hds c List.mem_cons_self), Option.getD_some, hzero,
        Nat.mul_comm n 10]
      exact ih (fun d hd => hds d (List.mem_cons_of_mem c hd)) _
  exact hgeneral 0

/-- Some characters have no greater value than so many digits. -/
theorem digitsValue_lt (cs : List Char) : digitsValue cs < 10 ^ cs.length := by
  have hgeneral : ∀ n, cs.foldl (fun n c => n * 10 + (Text.digit? c).getD 0) n <
      (n + 1) * 10 ^ cs.length := by
    induction cs with
    | nil => simp
    | cons c cs ih =>
      intro n
      have hc : (Text.digit? c).getD 0 < 10 := by
        unfold Text.digit?
        split
        · rename_i h
          have hnine : c.toNat ≤ 57 := UInt32.le_iff_toNat_le.1 h.2
          rw [Option.getD_some]
          omega
        · exact Nat.succ_pos 9
      have hle : (n * 10 + (Text.digit? c).getD 0 + 1) * 10 ^ cs.length ≤
          (n + 1) * 10 * 10 ^ cs.length := Nat.mul_le_mul_right _ (by omega)
      rw [List.foldl_cons, List.length_cons, Nat.pow_succ, Nat.mul_comm (10 ^ cs.length) 10,
        ← Nat.mul_assoc]
      exact Nat.lt_of_lt_of_le (ih _) hle
  have h := hgeneral 0
  rw [Nat.zero_add, Nat.one_mul] at h
  exact h

/-- The digits in front of a mark. -/
theorem takeWhile_isDigit (ds : List Char) (hds : ∀ c ∈ ds, c.isDigit = true) (c : Char)
    (hc : isDigit c = false) (cs : List Char) : (ds ++ c :: cs).takeWhile isDigit = ds := by
  induction ds with
  | nil => simp [hc]
  | cons d ds ih =>
    rw [List.cons_append, List.takeWhile_cons,
      if_pos (isDigit_of_isDigit (hds d List.mem_cons_self)),
      ih fun e he => hds e (List.mem_cons_of_mem d he)]

/-- The number in front of a mark. -/
theorem number?_append (most : Nat) (ds : List Char) (hds : ∀ c ∈ ds, c.isDigit = true)
    (hne : ds ≠ []) (hlen : ds.length ≤ most) (c : Char) (hc : isDigit c = false)
    (cs : List Char) :
    number? most (ds ++ c :: cs) = some (Nat.ofDigitChars 10 ds 0, c :: cs) := by
  unfold number?
  rw [takeWhile_isDigit ds hds c hc cs, List.take_of_length_le hlen,
    if_neg (by simpa using hne), digitsValue_of_isDigit ds hds, List.drop_left]

/-! ## Padded numbers -/

/-- All characters of a padded number are digits. -/
theorem isDigit_of_mem_padded (width n : Nat) : ∀ c ∈ padded width n, c.isDigit = true := by
  obtain ⟨d, ds, hds, hdigits⟩ := Text.exists_naturalChars n
  intro c hc
  unfold padded at hc
  rw [hds] at hc
  rcases List.mem_append.1 hc with hc | hc
  · rw [List.eq_of_mem_replicate hc]
    rfl
  · exact hdigits c hc

/-- A padded number has characters. -/
theorem padded_ne_nil (width n : Nat) : padded width n ≠ [] := by
  obtain ⟨d, ds, hds, -⟩ := Text.exists_naturalChars n
  unfold padded
  rw [hds]
  simp

/-- Zeros in front do not count. -/
theorem ofDigitChars_padded (width n : Nat) : Nat.ofDigitChars 10 (padded width n) 0 = n := by
  have hzeros : ∀ k, Nat.ofDigitChars 10 (List.replicate k '0') 0 = 0 := by
    intro k
    induction k with
    | zero => simp
    | succ k ih =>
      rw [List.replicate_succ, Nat.ofDigitChars_cons]
      exact ih
  unfold padded
  rw [Nat.ofDigitChars_append, hzeros]
  exact Nat.ofDigitChars_ten_toDigits

/-- A number that fits into the width has that width. -/
theorem length_padded (width n : Nat) (hwidth : 0 < width) (hn : n < 10 ^ width) :
    (padded width n).length = width := by
  have hlen : (Text.naturalChars n).length ≤ width :=
    (Nat.length_toDigits_le_iff (by decide) hwidth).2 hn
  unfold padded
  rw [List.length_append, List.length_replicate]
  omega

/-- A padded number is read back in front of a mark. -/
theorem number?_padded (most width n : Nat) (hlen : (padded width n).length ≤ most) (c : Char)
    (hc : isDigit c = false) (cs : List Char) :
    number? most (padded width n ++ c :: cs) = some (n, c :: cs) := by
  rw [number?_append most _ (isDigit_of_mem_padded width n) (padded_ne_nil width n) hlen c hc,
    ofDigitChars_padded]

/-- No blank comes before a padded number. -/
theorem dropBlanks_padded (width n : Nat) (cs : List Char) :
    Text.dropBlanks (padded width n ++ cs) = padded width n ++ cs := by
  obtain ⟨d, ds, hds⟩ := List.exists_cons_of_ne_nil (padded_ne_nil width n)
  refine Text.dropBlanks_eq_self _ fun c hc => ?_
  rw [hds, List.cons_append, List.head?_cons, Option.mem_def, Option.some.injEq] at hc
  rw [← hc]
  refine Text.isBlank_of_isDigit d (isDigit_of_mem_padded width n d ?_)
  rw [hds]
  exact List.mem_cons_self

/-- Two digits are read back. -/
theorem two?_padded (n : Nat) (hn : n < 100) (c : Char) (hc : isDigit c = false)
    (cs : List Char) : two? (padded 2 n ++ c :: cs) = some (n, c :: cs) := by
  unfold two?
  rw [dropBlanks_padded, number?_padded 2 2 n _ c hc]
  rw [length_padded 2 n (by decide) hn]

/-! ## The parts of an instant -/

/-- A mark that is no blank is passed over. -/
theorem mark?_dropBlanks (c : Char) (hc : Text.isBlank c = false) (cs : List Char) :
    mark? c (Text.dropBlanks (c :: cs)) = some cs := by
  rw [Text.dropBlanks_eq_self _ fun d hd => by
    rw [List.head?_cons, Option.mem_def, Option.some.injEq] at hd
    rw [← hd]
    exact hc]
  exact if_pos rfl

/-- A year is read back in front of a hyphen. -/
theorem year?_yearChars (year : Int) (cs : List Char) :
    year? (yearChars year ++ '-' :: cs) = some (year, '-' :: cs) := by
  have hlen : ∀ n : Nat, (padded 4 n).length ≤ (padded 4 n ++ '-' :: cs).length := by
    intro n
    rw [List.length_append]
    omega
  unfold yearChars
  split
  · rename_i h
    obtain ⟨d, ds, hds⟩ := List.exists_cons_of_ne_nil (padded_ne_nil 4 year.natAbs)
    have hdigit : d.isDigit = true := by
      refine isDigit_of_mem_padded 4 year.natAbs d ?_
      rw [hds]
      exact List.mem_cons_self
    have hread := number?_padded 4 4 year.natAbs
      (by rw [length_padded 4 _ (by decide) (by omega)]) '-' rfl cs
    unfold year?
    rw [dropBlanks_padded]
    split
    · rename_i heq
      rw [hds] at heq
      rw [(List.cons.inj heq).1] at hdigit
      contradiction
    · rename_i heq
      rw [hds] at heq
      rw [(List.cons.inj heq).1] at hdigit
      contradiction
    · rw [hread, Option.map_some]
      simp only [Option.some.injEq, Prod.mk.injEq, and_true]
      omega
  · rename_i h
    by_cases hneg : year < 0
    · have hread := number?_padded _ 4 year.natAbs (hlen year.natAbs) '-' rfl cs
      rw [if_pos hneg]
      change (number? (padded 4 year.natAbs ++ '-' :: cs).length
        (padded 4 year.natAbs ++ '-' :: cs)).map _ = _
      rw [hread, Option.map_some]
      simp only [Option.some.injEq, Prod.mk.injEq, and_true]
      omega
    · have hread := number?_padded _ 4 year.natAbs (hlen year.natAbs) '-' rfl cs
      rw [if_neg hneg]
      change (number? (padded 4 year.natAbs ++ '-' :: cs).length
        (padded 4 year.natAbs ++ '-' :: cs)).map _ = _
      rw [hread, Option.map_some]
      simp only [Option.some.injEq, Prod.mk.injEq, and_true]
      omega

/-- A date is read back in front of a mark. -/
theorem date?_append (date : Date) (hmonth : date.month < 100) (hday : date.day < 100) (c : Char)
    (hc : isDigit c = false) (cs : List Char) :
    date? (yearChars date.year ++ '-' :: (padded 2 date.month ++ '-' ::
      (padded 2 date.day ++ c :: cs))) = some (date, c :: cs) := by
  have hhyphen := fun cs => mark?_dropBlanks '-' rfl cs
  simp only [date?, year?_yearChars, hhyphen, two?_padded _ hmonth '-' rfl,
    two?_padded _ hday c hc, Option.bind_eq_bind, Option.bind_some]
  rfl

/-- Decimals are read back in front of the letter for universal time. -/
theorem fraction?_decimals (width n : Nat) (hwidth : 0 < width) (hnine : width ≤ 9)
    (hn : n < 10 ^ width) :
    fraction? ('.' :: (padded width n ++ ['Z'])) = some (n * 10 ^ (9 - width), ['Z']) := by
  have hdigits := isDigit_of_mem_padded width n
  have hlen := length_padded width n hwidth hn
  have hempty : (padded width n).isEmpty = false := by
    rw [List.isEmpty_eq_false_iff]
    exact padded_ne_nil width n
  have hvalue : fractionValue (padded width n) = n * 10 ^ (9 - width) := by
    unfold fractionValue
    rw [List.take_of_length_le (by omega), digitsValue_of_isDigit _ hdigits, ofDigitChars_padded,
      hlen]
    rfl
  simp only [fraction?, takeWhile_isDigit _ hdigits 'Z' rfl, hempty, hvalue, List.drop_left,
    Bool.false_eq_true, if_false]

/-- The decimals of a second are read back. They begin with a mark if there are any, and what
follows begins with a letter. -/
theorem fraction?_fractionChars (nano : Nat) (hnano : nano < 1000000000) :
    ∃ c cs, fractionChars nano ++ ['Z'] = c :: cs ∧ isDigit c = false ∧
      fraction? (c :: cs) = some (nano, ['Z']) := by
  unfold fractionChars
  split
  · rename_i h
    exact ⟨'Z', [], rfl, rfl, by rw [h]; rfl⟩
  · split
    · rename_i h
      refine ⟨'.', _, rfl, rfl, ?_⟩
      change fraction? ('.' :: (padded 3 (nano / 1000000) ++ ['Z'])) = _
      rw [fraction?_decimals 3 _ (by decide) (by decide) (by omega)]
      simp only [Option.some.injEq, Prod.mk.injEq, and_true]
      omega
    · split
      · rename_i h
        refine ⟨'.', _, rfl, rfl, ?_⟩
        change fraction? ('.' :: (padded 6 (nano / 1000) ++ ['Z'])) = _
        rw [fraction?_decimals 6 _ (by decide) (by decide) (by omega)]
        simp only [Option.some.injEq, Prod.mk.injEq, and_true]
        omega
      · refine ⟨'.', _, rfl, rfl, ?_⟩
        change fraction? ('.' :: (padded 9 nano ++ ['Z'])) = _
        rw [fraction?_decimals 9 _ (by decide) (by decide) (by omega)]
        simp only [Option.some.injEq, Prod.mk.injEq, and_true]
        omega

/-- A time of day is read back in front of the letter for universal time. -/
theorem clock?_append (clock : Clock) (hhour : clock.hour < 100) (hminute : clock.minute < 100)
    (hsecond : clock.second < 100) (hnano : clock.nano < 1000000000) :
    clock? (padded 2 clock.hour ++ ':' :: (padded 2 clock.minute ++ ':' ::
      (padded 2 clock.second ++ (fractionChars clock.nano ++ ['Z'])))) =
        some (clock, ['Z']) := by
  obtain ⟨c, cs, hcs, hc, hfraction⟩ := fraction?_fractionChars clock.nano hnano
  have hcolon := fun cs => mark?_dropBlanks ':' rfl cs
  rw [hcs]
  simp only [clock?, hcolon, two?_padded _ hhour ':' rfl, two?_padded _ hminute ':' rfl,
    two?_padded _ hsecond c hc, hfraction, Option.bind_eq_bind, Option.bind_some]
  rfl

/-! ## Instants -/

/-- **An instant is read back from its text.** -/
theorem ofText?_text (t : Timestamp) (h : t.IsTold) : ofText? t.text = some t := by
  obtain ⟨hrange, hnano, hleap⟩ := h
  have hdays := hrange
  simp only [inRange, Bool.and_eq_true, decide_eq_true_eq] at hdays
  have hvalid := Date.isValid_ofDays (t.second / 86400) hdays.1 hdays.2
  have htoDays := Date.toDays_ofDays (t.second / 86400)
  generalize hdate : Date.ofDays (t.second / 86400) = date at hvalid htoDays
  have hparts := hvalid
  simp only [Date.isValid, Bool.and_eq_true, decide_eq_true_eq] at hparts
  have hday : date.day < 100 := by
    have hlength : Date.daysInMonth date.year date.month ≤ 31 := by
      unfold Date.daysInMonth
      split
      · split <;> omega
      · split <;> omega
    omega
  obtain ⟨ofDay, hofDay⟩ : ∃ n, (t.second % 86400).toNat = n := ⟨_, rfl⟩
  have hsecond : t.second = t.second / 86400 * 86400 + ofDay := by omega
  obtain ⟨clock, hclock⟩ : ∃ clock : Clock, clock = ⟨ofDay / 3600, ofDay / 60 % 60,
    ofDay % 60 + t.nano / 1000000000, t.nano % 1000000000⟩ := ⟨_, rfl⟩
  have hchars : t.chars = yearChars date.year ++ '-' :: (padded 2 date.month ++ '-' ::
      (padded 2 date.day ++ 'T' :: (padded 2 clock.hour ++ ':' :: (padded 2 clock.minute ++ ':' ::
        (padded 2 clock.second ++ (fractionChars clock.nano ++ ['Z'])))))) := by
    unfold chars
    rw [hdate, hofDay, hclock]
    simp only [List.append_assoc, List.cons_append]
  have htime := clock?_append clock (by rw [hclock]; dsimp only; omega)
    (by rw [hclock]; dsimp only; omega) (by rw [hclock]; dsimp only; omega)
    (by rw [hclock]; dsimp only; omega)
  have hclockValid : clock.isValid = true := by
    simp only [Clock.isValid, hclock, Bool.and_eq_true, decide_eq_true_eq]
    omega
  have hofParts : ofParts date clock 0 = t := by
    unfold ofParts
    rw [htoDays, hclock]
    cases t with
    | mk second nano =>
      dsimp only at *
      -- Without a leap second the second is below 60, in one it is 60.
      by_cases hlong : nano / 1000000000 = 1
      · have hlast := hleap (by omega)
        rw [if_pos (by omega)]
        congr 1
        · omega
        · omega
      · rw [if_neg (by omega)]
        congr 1
        · omega
        · omega
  unfold ofText? text
  rw [String.toList_ofList, hchars]
  unfold ofChars?
  rw [date?_append date (by omega) hday 'T' rfl]
  have hoffset : offset? (Text.dropBlanks ['Z']) = some (0, []) := by decide
  simp only [separator?, htime, hoffset, hofParts, hvalid, hclockValid, hrange,
    Option.bind_eq_bind, Option.bind_some]
  rfl

/-! ## What is read -/

/-- The decimals of a second are less than a second. -/
theorem lt_of_fraction? (cs rest : List Char) (nano : Nat)
    (h : fraction? cs = some (nano, rest)) : nano < 1000000000 := by
  unfold fraction? at h
  split at h
  · rename_i cs'
    dsimp only at h
    split at h
    · contradiction
    · cases h
      have hlen : ((cs'.takeWhile isDigit).take 9).length ≤ 9 := List.length_take_le _ _
      have hlt := digitsValue_lt ((cs'.takeWhile isDigit).take 9)
      have hpow : 10 ^ ((cs'.takeWhile isDigit).take 9).length *
          10 ^ (9 - ((cs'.takeWhile isDigit).take 9).length) = 1000000000 := by
        rw [← Nat.pow_add, Nat.add_sub_cancel' hlen]
      unfold fractionValue
      rw [← hpow]
      exact Nat.mul_lt_mul_of_pos_right hlt (Nat.pow_pos (by decide))
  · cases h
    decide

/-- The nanoseconds of a time of day are less than a second. -/
theorem lt_of_clock? (cs rest : List Char) (clock : Clock)
    (h : clock? cs = some (clock, rest)) : clock.nano < 1000000000 := by
  unfold clock? at h
  obtain ⟨hour, -, h⟩ := Option.bind_eq_some_iff.1 h
  obtain ⟨_, -, h⟩ := Option.bind_eq_some_iff.1 h
  obtain ⟨minute, -, h⟩ := Option.bind_eq_some_iff.1 h
  obtain ⟨_, -, h⟩ := Option.bind_eq_some_iff.1 h
  obtain ⟨second, -, h⟩ := Option.bind_eq_some_iff.1 h
  obtain ⟨fraction, hfraction, h⟩ := Option.bind_eq_some_iff.1 h
  cases h
  exact lt_of_fraction? _ _ _ hfraction

/-- Hours and minutes are whole minutes. -/
theorem mod_of_hoursAndMinutes? (cs rest : List Char) (offset : Int)
    (h : hoursAndMinutes? cs = some (offset, rest)) : offset % 60 = 0 := by
  unfold hoursAndMinutes? at h
  split at h
  · dsimp only at h
    split at h
    · simp only [Option.bind_eq_bind, Option.bind_some] at h
      split at h
      · cases h
        omega
      · contradiction
    · contradiction
  · contradiction

/-- An offset is a number of whole minutes. -/
theorem mod_of_offset? (cs rest : List Char) (offset : Int)
    (h : offset? cs = some (offset, rest)) : offset % 60 = 0 := by
  unfold offset? at h
  split at h
  · cases h
    rfl
  · split at h
    · cases h
      rfl
    · cases h
      rfl
    · exact mod_of_hoursAndMinutes? _ _ _ h
    · obtain ⟨r, hr, h⟩ := Option.map_eq_some_iff.1 h
      cases h
      have hmod := mod_of_hoursAndMinutes? _ _ _ hr
      omega
    · obtain ⟨r, hr, h⟩ := Option.map_eq_some_iff.1 h
      cases h
      have hmod := mod_of_hoursAndMinutes? _ _ _ hr
      omega
    · contradiction

/-- **What is read from a text can be told by one.** -/
theorem isTold_of_ofText? (s : String) (t : Timestamp) (h : ofText? s = some t) : t.IsTold := by
  unfold ofText? ofChars? at h
  obtain ⟨⟨date, cs₁⟩, -, h⟩ := Option.bind_eq_some_iff.1 h
  obtain ⟨cs₂, -, h⟩ := Option.bind_eq_some_iff.1 h
  obtain ⟨⟨clock, cs₃⟩, hclock, h⟩ := Option.bind_eq_some_iff.1 h
  obtain ⟨⟨offset, cs₄⟩, hoffset, h⟩ := Option.bind_eq_some_iff.1 h
  have hnano := lt_of_clock? _ _ _ hclock
  have hminutes := mod_of_offset? _ _ _ hoffset
  dsimp only at h
  split at h
  · rename_i hchecks
    cases h
    simp only [Bool.and_eq_true] at hchecks
    obtain ⟨⟨-, hvalid⟩, hrange⟩ := hchecks
    simp only [Clock.isValid, Bool.and_eq_true, decide_eq_true_eq] at hvalid
    refine ⟨hrange, ?_, ?_⟩
    · unfold ofParts
      dsimp only
      split <;> omega
    · unfold ofParts
      dsimp only
      intro hlong
      -- The nanosecond count is that of a leap second, which was read as second 60.
      split at hlong
      · omega
      · omega
  · contradiction

end ExpenseLedger.Timestamp
