import ExpenseLedger.Proofs.Settings.Known
/-!
# Files of settings

A file of settings is a JSON object of sections. Laid over a table of tables it gives each setting
the value that the last member of its name in the last member of its section has. Main statements:

* `Json.isSound_iff`: what can make a file of sections unsound is a name, a string or a number;
* `SettingValue.valueOf?_over_file`: what a file of sections gives each setting.
-/

namespace ExpenseLedger

/-! ## Members -/

namespace Json

/-- The value of the last member of a name. -/
def lastMember? (name : String) : List (Option String × Json) → Option Json
  | [] => none
  | m :: ms => (lastMember? name ms).or (if m.1 = some name then some m.2 else none)

/-- The value of the last member of a name in an object. -/
def member? (name : String) : Json → Option Json
  | object ms => lastMember? name ms
  | _ => none

/-- The value is neither a list nor an object. -/
def IsScalar : Json → Prop
  | list _ | object _ => False
  | _ => True

/-- The value is an object of sections of settings, with scalar values in them. -/
def IsNested (j : Json) : Prop :=
  ∃ ms, j = object ms ∧ ∀ m ∈ ms, (∃ s : Setting, m.1 = some s.sectionName) ∧
    ∃ ks, m.2 = object ks ∧ ∀ k ∈ ks, k.2.IsScalar

/-- An object without members has no sections. -/
theorem isNested_empty : (object []).IsNested := ⟨[], rfl, fun _ h => by contradiction⟩

/-! ## Soundness -/

/-- The members of an object; anything else has none. -/
def members : Json → List (Option String × Json)
  | object ms => ms
  | _ => []

/-- A number has a binary64 value, and a string has a text. -/
def HasValue : Json → Prop
  | number n => n.toFloat?.isSome
  | string t => t.isSome
  | _ => True

/-- All members of sections have names with texts, and values. -/
def IsReadable (j : Json) : Prop :=
  ∀ m ∈ j.members, ∀ k ∈ m.2.members, k.1.isSome ∧ k.2.HasValue

/-- Members are plain one by one. -/
theorem arePlainMembers_iff (finite : JsonNumber → Bool) (n : Nat)
    (ms : List (Option String × Json)) :
    arePlainMembers finite n ms = true ↔
      ∀ m ∈ ms, m.1.isSome = true ∧ isPlain finite n m.2 = true := by
  induction ms with
  | nil => exact ⟨fun _ m hm => by contradiction, fun _ => rfl⟩
  | cons m ms ih =>
    obtain ⟨k, v⟩ := m
    rw [arePlainMembers, Bool.and_eq_true, Bool.and_eq_true, ih, List.forall_mem_cons]

/-- A scalar is sound if it has a value. -/
theorem isSound_iff_of_isScalar (depth : Nat) (j : Json) (h : j.IsScalar) :
    j.isSound depth = true ↔ j.HasValue := by
  unfold isSound
  cases j with
  | null | bool _ => rw [isPlain]; exact ⟨fun _ => trivial, fun _ => rfl⟩
  | number _ | string _ => rw [isPlain]; rfl
  | list _ | object _ => exact h.elim

/-- **Objects of sections are sound if all their names and scalars can be read.** -/
theorem isSound_iff (depth : Nat) (j : Json) (h : j.IsNested) :
    j.isSound (depth + 2) = true ↔ j.IsReadable := by
  obtain ⟨ms, rfl, hms⟩ := h
  have hsection : ∀ m ∈ ms, (m.1.isSome = true ∧ m.2.isSound (depth + 1) = true) ↔
      ∀ k ∈ m.2.members, k.1.isSome ∧ k.2.HasValue := by
    intro m hm
    obtain ⟨⟨s, hs⟩, ks, hks, hscalar⟩ := hms m hm
    rw [hs, hks]
    unfold isSound
    rw [isPlain, arePlainMembers_iff]
    refine ⟨fun hsound k hk => ?_, fun hvalues => ⟨rfl, fun k hk => ?_⟩⟩
    · obtain ⟨hname, hvalue⟩ := hsound.2 k hk
      exact ⟨hname, (isSound_iff_of_isScalar depth k.2 (hscalar k hk)).1 hvalue⟩
    · obtain ⟨hname, hvalue⟩ := hvalues k hk
      exact ⟨hname, (isSound_iff_of_isScalar depth k.2 (hscalar k hk)).2 hvalue⟩
  unfold isSound
  rw [isPlain, arePlainMembers_iff]
  exact forall₂_congr hsection

end Json

namespace SettingValue

/-- The value of a scalar is no table. -/
theorem isPlain_ofJson (j : Json) (h : j.IsScalar) : (ofJson j).IsPlain := by
  cases j with
  | null | bool | string => exact trivial
  | number n =>
    change (ofNumber n).IsPlain
    unfold ofNumber
    split
    · split
      · exact trivial
      · exact trivial
    · exact trivial
  | list _ => exact h.elim
  | object _ => exact h.elim

/-- An entry of the members of an object comes from one of them, or was there before. -/
theorem mem_ofMembers (es : List (String × SettingValue)) (ms : List (Option String × Json))
    (e : String × SettingValue) (h : e ∈ ofMembers es ms) :
    e ∈ es ∨ ∃ m ∈ ms, e = (m.1.getD "", ofJson m.2) := by
  induction ms generalizing es with
  | nil => exact .inl h
  | cons m ms ih =>
    obtain ⟨k, v⟩ := m
    rcases ih _ h with h | ⟨m, hm, he⟩
    · rcases mem_put _ _ es e h with h | h
      · exact .inr ⟨(k, v), List.mem_cons_self, h⟩
      · exact .inl h
    · exact .inr ⟨m, List.mem_cons_of_mem _ hm, he⟩

/-- The entries of the members of an object have distinct names. -/
theorem nodup_names_ofMembers (es : List (String × SettingValue))
    (ms : List (Option String × Json)) (h : (es.map Prod.fst).Nodup) :
    ((ofMembers es ms).map Prod.fst).Nodup := by
  induction ms generalizing es with
  | nil => exact h
  | cons m ms ih => exact ih _ (nodup_names_put _ _ es h)

/-- A name has the value of the last member of that name. -/
theorem find_ofMembers (n : String) (hn : n ≠ "") (es : List (String × SettingValue))
    (ms : List (Option String × Json)) :
    find n (ofMembers es ms) = ((Json.lastMember? n ms).map ofJson).or (find n es) := by
  induction ms generalizing es with
  | nil => rfl
  | cons m ms ih =>
    obtain ⟨k, v⟩ := m
    have hname : n = k.getD "" ↔ k = some n := by
      cases k with
      | none => simp [hn]
      | some k => simp [eq_comm]
    change find n (ofMembers (put (k.getD "") (ofJson v) es) ms) = _
    rw [ih, find_put, Json.lastMember?]
    cases Json.lastMember? n ms with
    | some w => rfl
    | none =>
      by_cases hk : k = some n
      · rw [if_pos (hname.2 hk), if_pos hk]
        rfl
      · rw [if_neg (mt hname.1 hk), if_neg hk]
        rfl

/-- The entry of a name in the value of any JSON value. -/
theorem find_entries_ofJson (n : String) (hn : n ≠ "") (j : Json) :
    find n (ofJson j).entries = (j.member? n).map ofJson := by
  cases j with
  | object ms =>
    change find n (ofMembers [] ms) = _
    rw [find_ofMembers n hn, find, Option.or_none]
    rfl
  | number m =>
    change find n (ofNumber m).entries = none
    unfold ofNumber
    split
    · split
      · rfl
      · rfl
    · rfl
  | null | bool | string | list => rfl

/-- The value of a setting in the value of any JSON value. -/
theorem valueOf?_ofJson (j : Json) (s : Setting) :
    (ofJson j).valueOf? s = ((j.member? s.sectionName).bind (Json.member? s.name)).map ofJson := by
  have hsection : s.sectionName ≠ "" := by cases s <;> decide
  have hname : s.name ≠ "" := by cases s <;> decide
  unfold valueOf? valueAt?
  rw [find_entries_ofJson _ hsection]
  cases j.member? s.sectionName with
  | none => rfl
  | some v => exact find_entries_ofJson _ hname v

/-- **A file of settings gives each setting the value that its last member has.** -/
theorem valueOf?_over_file {root : SettingValue} (hroot : root.IsSectioned) (j : Json)
    (hj : j.IsNested) :
    (Layer.over root (ofJson j).entries).IsSectioned ∧ ∀ s : Setting,
      (Layer.over root (ofJson j).entries).valueOf? s =
        (((j.member? s.sectionName).bind (Json.member? s.name)).map ofJson).or
          (root.valueOf? s) := by
  obtain ⟨ms, rfl, hms⟩ := hj
  have hentries : ∀ e ∈ ofMembers [] ms, PathStep.ofKey e.1 = [.name e.1] ∧
      ∃ fs, e.2 = table fs ∧ (fs.map Prod.fst).Nodup ∧ ∀ f ∈ fs, f.2.IsPlain := by
    intro e he
    rcases mem_ofMembers [] ms e he with he | ⟨m, hm, rfl⟩
    · contradiction
    · obtain ⟨⟨s, hs⟩, ks, hks, hscalar⟩ := hms m hm
      rw [hs, hks]
      refine ⟨s.ofKey_sectionName, ofMembers [] ks, rfl, nodup_names_ofMembers [] ks .nil, ?_⟩
      intro f hf
      rcases mem_ofMembers [] ks f hf with hf | ⟨k, hk, rfl⟩
      · contradiction
      · exact isPlain_ofJson k.2 (hscalar k hk)
  obtain ⟨hsectioned, hvalues⟩ :=
    valueAt?_over_entries hroot (ofMembers [] ms) (nodup_names_ofMembers [] ms .nil) hentries
  refine ⟨hsectioned, fun s => ?_⟩
  rw [← valueOf?_ofJson]
  exact hvalues s.sectionName s.name

end SettingValue

end ExpenseLedger
