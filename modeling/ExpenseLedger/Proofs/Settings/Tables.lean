import ExpenseLedger.Settings.Layer
/-!
# Values in sections

Settings stand in sections: a table of tables. Assigning a value to the path of a section and a name
changes the value there and no other, and laying one table of tables over another changes the values
that the upper one gives. Main statements:

* `SettingValue.valueAt?_assign`: one assignment;
* `SettingValue.valueAt?_over_entries`: a table of tables as a layer.
-/

namespace ExpenseLedger.SettingValue

/-! ## Entries -/

/-- The first entry of a name counts. -/
theorem find_cons (n k : String) (v : SettingValue) (es : List (String × SettingValue)) :
    find n ((k, v) :: es) = if k = n then some v else find n es := rfl

/-- A name has the value that it has been given last. -/
theorem find_put (name n : String) (v : SettingValue) (es : List (String × SettingValue)) :
    find n (put name v es) = if n = name then some v else find n es := by
  induction es with
  | nil =>
    unfold put
    rw [find_cons]
    by_cases h : name = n
    · rw [if_pos h, if_pos h.symm]
    · rw [if_neg h, if_neg (Ne.symm h)]
  | cons e es ih =>
    obtain ⟨k, w⟩ := e
    unfold put
    rw [find_cons]
    by_cases hk : k = name
    · rw [if_pos hk, find_cons]
      by_cases hn : n = name
      · rw [if_pos hn.symm, if_pos hn]
      · rw [if_neg (Ne.symm hn), if_neg hn, if_neg (by rw [hk]; exact Ne.symm hn)]
    · rw [if_neg hk, find_cons, ih]
      by_cases hkn : k = n
      · rw [if_pos hkn, if_pos hkn, if_neg (by rw [← hkn]; exact hk)]
      · rw [if_neg hkn, if_neg hkn]

/-- A name that no entry has gets no value. -/
theorem find_eq_none (n : String) (es : List (String × SettingValue)) (h : n ∉ es.map Prod.fst) :
    find n es = none := by
  induction es with
  | nil => rfl
  | cons e es ih =>
    rw [List.map_cons, List.mem_cons, not_or] at h
    rw [find_cons, if_neg (Ne.symm h.1), ih h.2]

/-- An entry after a name has been given a value is the new one or an old one. -/
theorem mem_put (name : String) (v : SettingValue) (es : List (String × SettingValue))
    (e : String × SettingValue) (h : e ∈ put name v es) : e = (name, v) ∨ e ∈ es := by
  induction es with
  | nil => exact .inl (List.mem_singleton.1 h)
  | cons d es ih =>
    obtain ⟨k, w⟩ := d
    unfold put at h
    split at h
    · rcases List.mem_cons.1 h with h | h
      · exact .inl h
      · exact .inr (List.mem_cons_of_mem _ h)
    · rcases List.mem_cons.1 h with h | h
      · exact .inr (h ▸ List.mem_cons_self)
      · rcases ih h with h | h
        · exact .inl h
        · exact .inr (List.mem_cons_of_mem _ h)

/-- Giving a name a value leaves all names distinct. -/
theorem nodup_names_put (name : String) (v : SettingValue) (es : List (String × SettingValue))
    (h : (es.map Prod.fst).Nodup) : ((put name v es).map Prod.fst).Nodup := by
  induction es with
  | nil => exact List.pairwise_singleton _ name
  | cons e es ih =>
    obtain ⟨k, w⟩ := e
    obtain ⟨hk, hes⟩ := List.nodup_cons.1 h
    unfold put
    split
    · rename_i hname
      rw [← hname]
      exact List.nodup_cons.2 ⟨hk, hes⟩
    · rename_i hname
      refine List.nodup_cons.2 ⟨fun hmem => ?_, ih hes⟩
      obtain ⟨d, hd, hdk⟩ := List.mem_map.1 hmem
      rcases mem_put name v es d hd with rfl | hd
      · exact hname hdk.symm
      · exact hk (List.mem_map.2 ⟨d, hd, hdk⟩)

/-! ## Laying values over others -/

/-- The value is no table. -/
def IsPlain : SettingValue → Prop
  | table _ => False
  | _ => True

/-- What is no table replaces what is there. -/
theorem overlay_of_isPlain (old : Option SettingValue) (v : SettingValue) (h : v.IsPlain) :
    overlay old v = v := by
  cases v with
  | table es => exact h.elim
  | nil | bool | int | float | text | list => rfl

/-- One entry laid over a value. -/
theorem overlayEntries_singleton (old : SettingValue) (k : String) (v : SettingValue) :
    overlayEntries old [(k, v)] = table (put k (overlay (find k old.entries) v) old.entries) := rfl

/-- Plain entries with distinct names, laid over a table, give their values to their names. -/
theorem overlayEntries_table (gs fs : List (String × SettingValue))
    (hnodup : (fs.map Prod.fst).Nodup) (hplain : ∀ f ∈ fs, f.2.IsPlain) :
    ∃ hs, overlayEntries (table gs) fs = table hs ∧
      ∀ n, find n hs = (find n fs).or (find n gs) := by
  induction fs generalizing gs with
  | nil => exact ⟨gs, rfl, fun n => rfl⟩
  | cons f fs ih =>
    obtain ⟨k, v⟩ := f
    obtain ⟨hk, hfs⟩ := List.nodup_cons.1 hnodup
    obtain ⟨hs, hover, hfind⟩ := ih (put k v gs) hfs fun f hf =>
      hplain f (List.mem_cons_of_mem _ hf)
    refine ⟨hs, ?_, fun n => ?_⟩
    · rw [overlayEntries, overlay_of_isPlain _ v (hplain (k, v) List.mem_cons_self)]
      exact hover
    · rw [hfind, find_put, find_cons]
      by_cases hn : n = k
      · rw [if_pos hn, if_pos hn.symm, hn, find_eq_none k fs hk]
        rfl
      · rw [if_neg hn, if_neg (Ne.symm hn)]

/-! ## Sections -/

/-- The value of a name in a section. -/
def valueAt? (root : SettingValue) (sectionName name : String) : Option SettingValue :=
  (find sectionName root.entries).bind fun v => find name v.entries

/-- The value is a table of tables. -/
def IsSectioned (root : SettingValue) : Prop :=
  ∃ es, root = table es ∧ ∀ sectionName v, find sectionName es = some v → ∃ fs, v = table fs

/-- A table without entries. -/
theorem isSectioned_empty : IsSectioned (table []) :=
  ⟨[], rfl, fun _ _ h => by contradiction⟩

/-- Giving a section a table keeps a table of tables. -/
theorem IsSectioned.put {root : SettingValue} (h : root.IsSectioned) (sectionName : String)
    (fs : List (String × SettingValue)) :
    (table (put sectionName (table fs) root.entries)).IsSectioned := by
  obtain ⟨es, rfl, hes⟩ := h
  refine ⟨_, rfl, fun n v hv => ?_⟩
  rw [find_put] at hv
  split at hv
  · cases hv
    exact ⟨fs, rfl⟩
  · exact hes n v hv

/-- The values in the section that is given a table are those of the table. -/
theorem valueAt?_put (root : SettingValue) (sectionName n name : String)
    (fs : List (String × SettingValue)) :
    valueAt? (table (put sectionName (table fs) root.entries)) n name =
      if n = sectionName then find name fs else valueAt? root n name := by
  change (find n (SettingValue.put sectionName (table fs) root.entries)).bind _ = _
  rw [find_put]
  split
  · rfl
  · rfl

/-- **Assigning a value to a name in a section changes the value there and no other.** -/
theorem valueAt?_assign {root : SettingValue} (hroot : root.IsSectioned) (sectionName name : String)
    (v : SettingValue) (hv : v.IsPlain) :
    (assign v [.name sectionName, .name name] root).IsSectioned ∧
      ∀ n m, valueAt? (assign v [.name sectionName, .name name] root) n m =
        if n = sectionName ∧ m = name then some v else valueAt? root n m := by
  -- The section is there as a table, or there is nothing yet.
  have hassign : assign v [.name sectionName, .name name] root =
      table (SettingValue.put sectionName (table (SettingValue.put name v
        ((find sectionName root.entries).getD nil).entries)) root.entries) := by
    change table (SettingValue.put sectionName (overlayEntries _ [(name, v)]) root.entries) = _
    rw [overlayEntries_singleton, overlay_of_isPlain _ v hv]
  rw [hassign]
  refine ⟨hroot.put sectionName _, fun n m => ?_⟩
  rw [valueAt?_put, find_put]
  by_cases hn : n = sectionName
  · rw [if_pos hn, hn]
    by_cases hm : m = name
    · rw [if_pos hm, if_pos ⟨rfl, hm⟩]
    · rw [if_neg hm, if_neg (fun h => hm h.2)]
      unfold valueAt?
      cases find sectionName root.entries <;> rfl
  · rw [if_neg hn, if_neg (fun h => hn h.1)]

/-! ## Tables of tables as layers -/

/-- **Laying a table of tables over another gives the names in its sections their values.** -/
theorem valueAt?_over_entries {root : SettingValue} (hroot : root.IsSectioned)
    (es : List (String × SettingValue)) (hnodup : (es.map Prod.fst).Nodup)
    (hes : ∀ e ∈ es, PathStep.ofKey e.1 = [.name e.1] ∧ ∃ fs, e.2 = table fs ∧
      (fs.map Prod.fst).Nodup ∧ ∀ f ∈ fs, f.2.IsPlain) :
    (Layer.over root es).IsSectioned ∧ ∀ n m,
      valueAt? (Layer.over root es) n m = (valueAt? (table es) n m).or (valueAt? root n m) := by
  induction es generalizing root with
  | nil => exact ⟨hroot, fun n m => rfl⟩
  | cons e es ih =>
    obtain ⟨k, v⟩ := e
    obtain ⟨hpath, fs, hfs, hnodupFs, hplain⟩ := hes (k, v) List.mem_cons_self
    dsimp only at hpath hfs
    obtain ⟨hk, hnodupEs⟩ := List.nodup_cons.1 hnodup
    -- What stands in the section before is a table, or nothing, which counts as an empty one.
    obtain ⟨gs, hgs, hold⟩ : ∃ gs, (find k root.entries).getD (table []) = table gs ∧
        ∀ m, valueAt? root k m = find m gs := by
      obtain ⟨rs, rfl, hrs⟩ := hroot
      unfold valueAt?
      cases hfind : find k (table rs).entries with
      | none => exact ⟨[], rfl, fun m => rfl⟩
      | some w =>
        obtain ⟨gs, rfl⟩ := hrs k w hfind
        exact ⟨gs, rfl, fun m => rfl⟩
    obtain ⟨hs, hover, hfind⟩ := overlayEntries_table gs fs hnodupFs hplain
    have hlayer : Layer.over root ((k, v) :: es) =
        Layer.over (table (SettingValue.put k (table hs) root.entries)) es := by
      change Layer.over (assign v (PathStep.ofKey k) root) es = _
      rw [hpath, ← hover, ← hgs, hfs]
      rfl
    obtain ⟨hsectioned, hvalues⟩ := ih (hroot.put k hs) hnodupEs fun e he =>
      hes e (List.mem_cons_of_mem _ he)
    rw [hlayer]
    refine ⟨hsectioned, fun n m => ?_⟩
    rw [hvalues, valueAt?_put]
    by_cases hn : n = k
    · -- No later entry is for this section.
      have hlater : valueAt? (table es) k m = none := by
        change (find k es).bind _ = none
        rw [find_eq_none k es hk]
        rfl
      have hnow : valueAt? (table ((k, v) :: es)) k m = find m fs := by
        change (find k ((k, v) :: es)).bind _ = _
        rw [find_cons, if_pos rfl, hfs]
        rfl
      rw [if_pos hn, hn, hlater, hnow, hfind, hold]
      rfl
    · have hother : valueAt? (table ((k, v) :: es)) n m = valueAt? (table es) n m := by
        change (find n ((k, v) :: es)).bind _ = _
        rw [find_cons, if_neg (Ne.symm hn)]
        rfl
      rw [if_neg hn, hother]

end ExpenseLedger.SettingValue
