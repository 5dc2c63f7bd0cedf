import ExpenseLedger.Json.Fields
import Mathlib.Data.List.Perm.Basic
/-!
# Reading fields

The fields of a written record are read back, whatever members stand beside them, and the order in
which the members of an object stand makes no difference. Main statements:

* `Json.allFields?_record`: the fields of a record;
* `Json.allFields?_perm`: members in another order.
-/

namespace ExpenseLedger.Json

/-! ## Written records -/

/-- Something that gives a value for each item gives the values for all. -/
theorem mapM_eq_some {α β : Type} (f : α → Option β) (g : α → β) (as : List α)
    (h : ∀ a ∈ as, f a = some (g a)) : as.mapM f = some (as.map g) := by
  induction as with
  | nil => rfl
  | cons a as ih =>
    rw [List.mapM_cons, h a List.mem_cons_self, ih fun b hb => h b (List.mem_cons_of_mem a hb)]
    rfl

/-- The values of a name, member by member. -/
theorem valuesOf_cons (name : String) (m : Option String × Json)
    (ms : List (Option String × Json)) :
    valuesOf name (m :: ms) =
      if m.1 = some name then m.2 :: valuesOf name ms else valuesOf name ms := by
  unfold valuesOf
  rw [List.filterMap_cons]
  by_cases h : m.1 = some name
  · simp [h]
  · simp [h]

section

variable (ms : List (String × Json))

/-- A name that does not occur has no values. -/
theorem valuesOf_record_of_not_mem (name : String) (h : name ∉ ms.map Prod.fst) :
    valuesOf name (ms.map fun m => (some m.1, m.2)) = [] := by
  unfold valuesOf
  rw [List.filterMap_eq_nil_iff]
  intro m hm
  obtain ⟨n, hn, rfl⟩ := List.mem_map.1 hm
  have hne : n.1 ≠ name := fun heq => h (List.mem_map.2 ⟨n, hn, heq⟩)
  simp [hne]

/-- A name that occurs once has the value that stands with it. -/
theorem valuesOf_record (hnodup : (ms.map Prod.fst).Nodup) (m : String × Json) (hm : m ∈ ms) :
    valuesOf m.1 (ms.map fun m => (some m.1, m.2)) = [m.2] := by
  induction ms with
  | nil => contradiction
  | cons n ms ih =>
    rw [List.map_cons, List.nodup_cons] at hnodup
    rcases List.mem_cons.1 hm with rfl | hm
    · rw [List.map_cons, valuesOf_cons, if_pos rfl,
        valuesOf_record_of_not_mem ms m.1 hnodup.1]
    · have hne : some n.1 ≠ some m.1 := by
        intro heq
        rw [Option.some.inj heq] at hnodup
        exact hnodup.1 (List.mem_map.2 ⟨m, hm, rfl⟩)
      rw [List.map_cons, valuesOf_cons, if_neg hne]
      exact ih hnodup.2 hm

/-- Some of the fields of a record, by names that occur once. -/
theorem fieldsOfObject?_record (hnodup : (ms.map Prod.fst).Nodup) (ns : List (String × Json))
    (hns : ∀ n ∈ ns, n ∈ ms) :
    fieldsOfObject? (ns.map Prod.fst) (ms.map fun m => (some m.1, m.2)) =
      some (ns.map fun n => some n.2) := by
  have hnames : (ms.map fun m => (some m.1, m.2)).all (fun m => m.1.isSome) = true := by
    rw [List.all_eq_true]
    intro m hm
    obtain ⟨n, -, rfl⟩ := List.mem_map.1 hm
    rfl
  have hfield : ∀ n ∈ ns, field? n.1 (ms.map fun m => (some m.1, m.2)) = some (some n.2) := by
    intro n hn
    unfold field?
    rw [valuesOf_record ms hnodup n (hns n hn)]
  unfold fieldsOfObject?
  rw [if_pos hnames, List.mapM_map]
  exact mapM_eq_some _ (fun n => some n.2) ns hfield

/-- Some of the fields of a record, none of which is missing. -/
theorem allFields?_of_mem (hnodup : (ms.map Prod.fst).Nodup) (ns : List (String × Json))
    (hns : ∀ n ∈ ns, n ∈ ms) (names : List String) (hnames : ns.map Prod.fst = names) :
    allFields? names (record ms) = some (ns.map Prod.snd) := by
  change (fieldsOfObject? names (ms.map fun m => (some m.1, m.2))).bind (·.mapM id) = _
  rw [← hnames, fieldsOfObject?_record ms hnodup ns hns, Option.bind_some, List.mapM_map]
  exact mapM_eq_some _ Prod.snd ns fun _ _ => rfl

/-- **All fields of a record are read back.** -/
theorem allFields?_record (names : List String) (hnames : ms.map Prod.fst = names)
    (hnodup : names.Nodup) : allFields? names (record ms) = some (ms.map Prod.snd) := by
  refine allFields?_of_mem ms ?_ ms (fun _ h => h) names hnames
  rw [hnames]
  exact hnodup

end

/-! ## Members in another order -/

section

variable {ms ms' : List (Option String × Json)} (h : ms.Perm ms')
include h

/-- A field has the same value. -/
theorem field?_perm (name : String) : field? name ms = field? name ms' := by
  have hvalues : (valuesOf name ms).Perm (valuesOf name ms') := h.filterMap _
  unfold field?
  generalize valuesOf name ms = vs at hvalues
  generalize valuesOf name ms' = vs' at hvalues
  match vs, vs' with
  | [], _ => rw [List.nil_perm.1 hvalues]
  | [v], _ => rw [List.singleton_perm.1 hvalues]
  | _ :: _ :: _, [] => exact absurd hvalues.length_eq (by simp)
  | _ :: _ :: _, [_] => exact absurd hvalues.length_eq (by simp)
  | _ :: _ :: _, _ :: _ :: _ => rfl

/-- Named fields have the same values. -/
theorem fieldsOfObject?_perm (names : List String) :
    fieldsOfObject? names ms = fieldsOfObject? names ms' := by
  unfold fieldsOfObject?
  rw [h.all_eq, funext fun name => field?_perm h name]

/-- **The members of an object can stand in any order.** -/
theorem allFields?_perm (names : List String) :
    allFields? names (object ms) = allFields? names (object ms') := by
  change (fieldsOfObject? names ms).bind _ = (fieldsOfObject? names ms').bind _
  rw [fieldsOfObject?_perm h names]

end

end ExpenseLedger.Json
