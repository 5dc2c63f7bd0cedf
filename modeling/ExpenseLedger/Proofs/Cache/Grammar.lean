import Mathlib.Data.List.Nodup
import ExpenseLedger.Proofs.Cache.Entries
import ExpenseLedger.Proofs.Identifier.Forms
import ExpenseLedger.Proofs.Text.Numeral
/-!
# Which hashes are read as a balance

A field is read exactly when its name spells an identifier, in any of the four forms, and its value
is a decimal numeral with blanks around it whose value can be stored. The two parsers are put
together in `Cache.readField_eq_ok_iff_spells`, and the loop over the fields in
`Cache.readFields_eq_ok_iff`. Main statement: `Cache.reads_back_and_exactly`, for the hash that is
written for a balance and for any other hash whose names belong to different identifiers.
-/

namespace ExpenseLedger.Cache

/-! ## Reading fields -/

/-- **A field is read exactly when its name spells a counterparty and its value an amount.** -/
theorem readField_eq_ok_iff_spells (name value : String) (e : UserId × Int) :
    readField name value = .ok e ↔ Id.Spells name.toList e.1.id ∧ Amount.Denotes value e.2 := by
  rw [← UserId.ofText?_eq_some_iff, ← Amount.ofText_trim_eq_ok_iff]
  unfold readField
  cases UserId.ofText? name with
  | none => simp
  | some counterparty =>
    cases Amount.ofText (Text.trim value) with
    | error flaw => simp
    | ok amount => simp [Prod.ext_iff]

/-- A field that is not read is a corrupted one. -/
theorem kind_of_readField (name value : String) (e : Error) (h : readField name value = .error e) :
    e.kind = .corrupted := by
  unfold readField at h
  split at h
  · cases h
    rfl
  · split at h
    · cases h
      rfl
    · contradiction

/-- Fields that are not read are corrupted ones. -/
theorem kind_of_readFields (b : Balance) (l : List (String × String)) (e : Error)
    (h : readFields b l = .error e) : e.kind = .corrupted := by
  induction l generalizing b with
  | nil => contradiction
  | cons p l ih =>
    obtain ⟨name, value⟩ := p
    unfold readFields at h
    split at h
    · rename_i he
      cases h
      exact kind_of_readField name value e he
    · exact ih _ h

/-- **Fields are read one after the other**, and what is read is put into the balance in the order of
the fields. -/
theorem readFields_eq_ok_iff (b m : Balance) (l : List (String × String)) :
    readFields b l = .ok m ↔ ∃ es : List (UserId × Int),
      l.map (fun p => readField p.1 p.2) = es.map .ok ∧
        m = es.foldl (fun t e => t.insert e.1 e.2) b := by
  induction l generalizing b with
  | nil =>
    simp only [readFields, Except.ok.injEq, List.map_nil, eq_comm (a := []), List.map_eq_nil_iff,
      exists_eq_left, List.foldl_nil]
    exact eq_comm
  | cons p l ih =>
    obtain ⟨name, value⟩ := p
    unfold readFields
    rw [List.map_cons]
    cases readField name value with
    | error e =>
      simp only [reduceCtorEq, false_iff]
      rintro ⟨es, hes, -⟩
      cases es with
      | nil => contradiction
      | cons f es => exact absurd (List.cons.inj hes).1 (by simp)
    | ok r =>
      simp only [ih]
      constructor
      · rintro ⟨es, hes, rfl⟩
        exact ⟨r :: es, by rw [hes, List.map_cons], rfl⟩
      · rintro ⟨es, hes, rfl⟩
        cases es with
        | nil => contradiction
        | cons f es =>
          obtain ⟨hr, hes'⟩ := List.cons.inj hes
          cases hr
          exact ⟨es, hes', rfl⟩

/-- **What is read is what the fields say**, if those of one counterparty say the same. -/
theorem get?_of_readFields {l : List (String × String)} {b : Balance}
    (hb : readFields Table.empty l = .ok b) (user : UserId)
    (hsole : ∀ p ∈ l, ∀ q ∈ l, ∀ n n', readField p.1 p.2 = .ok (user, n) →
      readField q.1 q.2 = .ok (user, n') → n = n') (n : Int) :
    b.get? user = some n ↔ ∃ p ∈ l, readField p.1 p.2 = .ok (user, n) := by
  obtain ⟨es, hes, rfl⟩ := (readFields_eq_ok_iff _ _ _).1 hb
  have hmem (n : Int) : (user, n) ∈ es ↔ ∃ p ∈ l, readField p.1 p.2 = .ok (user, n) := by
    rw [← List.mem_map (f := fun p : String × String => readField p.1 p.2), hes]
    simp
  rw [← hmem]
  refine Table.get?_ofList_eq_some_iff_of_sole es user n fun m m' hm hm' => ?_
  obtain ⟨p, hp, hread⟩ := (hmem m).1 hm
  obtain ⟨q, hq, hread'⟩ := (hmem m').1 hm'
  exact hsole p hp q hq m m' hread hread'

/-! ## Names of one identifier -/

/-- Fields whose names spell the same identifier hold the same amount. -/
def Fields.Coherent (fields : Fields) : Prop :=
  ∀ name value name' value', fields.get? name = some value → fields.get? name' = some value' →
    ∀ (a : Id) n n', Id.Spells name.toList a → Id.Spells name'.toList a →
      Amount.Denotes value n → Amount.Denotes value' n' → n = n'

/-- **Coherent fields are read alike in every order**: each counterparty gets the amount that its
fields hold. -/
theorem Fields.Coherent.get?_decodeIn {fields : Fields} (h : fields.Coherent)
    {order : Fields.Order} {b : Balance} (hb : decodeIn order fields = .ok b) (user : UserId)
    (n : Int) :
    b.get? user = some n ↔ ∃ name value, fields.get? name = some value ∧
      Id.Spells name.toList user.id ∧ Amount.Denotes value n := by
  rw [get?_of_readFields hb user]
  · simp only [readField_eq_ok_iff_spells, Prod.exists, Fields.Order.mem_visit_iff]
  · intro p hp q hq m m' hm hm'
    rw [Fields.Order.mem_visit_iff] at hp hq
    obtain ⟨hspells, hdenotes⟩ := (readField_eq_ok_iff_spells _ _ _).1 hm
    obtain ⟨hspells', hdenotes'⟩ := (readField_eq_ok_iff_spells _ _ _).1 hm'
    exact h p.1 p.2 q.1 q.2 hp hq user.id m m' hspells hspells' hdenotes hdenotes'

/-! ## Names of different identifiers -/

/-- No two names of fields spell the same identifier. Names that spell none may be among them. -/
def Fields.Unambiguous (fields : Fields) : Prop :=
  ∀ name ∈ fields.keys, ∀ name' ∈ fields.keys, ∀ a : Id,
    Id.Spells name.toList a → Id.Spells name'.toList a → name = name'

/-- Fields with names of different identifiers are coherent. -/
theorem Fields.Unambiguous.coherent {fields : Fields} (h : fields.Unambiguous) :
    fields.Coherent := by
  intro name value name' value' hvalue hvalue' a n n' hspells hspells' hdenotes hdenotes'
  have hname : name = name' :=
    h name ((fields.mem_keys_iff name).2 ((fields.contains_iff name).2 ⟨value, hvalue⟩))
      name' ((fields.mem_keys_iff name').2 ((fields.contains_iff name').2 ⟨value', hvalue'⟩))
      a hspells hspells'
  subst hname
  rw [hvalue] at hvalue'
  cases hvalue'
  have hread := (readField_eq_ok_iff_spells name value (⟨a⟩, n)).2 ⟨hspells, hdenotes⟩
  rw [(readField_eq_ok_iff_spells name value (⟨a⟩, n')).2 ⟨hspells, hdenotes'⟩] at hread
  cases hread
  rfl

/-- What is read from names of different identifiers belongs to different counterparties. -/
theorem Fields.Unambiguous.nodup {fields : Fields} (h : fields.Unambiguous)
    {es : List (UserId × Int)}
    (hes : fields.entries.map (fun p => readField p.1 p.2) = es.map .ok) :
    (es.map (·.1)).Nodup := by
  have hfields : fields.entries.Pairwise fun p q => ∀ e f, readField p.1 p.2 = .ok e →
      readField q.1 q.2 = .ok f → e.1 ≠ f.1 := by
    refine (List.pairwise_map.1 fields.nodup_keys).imp_of_mem ?_
    intro p q hp hq hne e f he hf heq
    obtain ⟨hspells, -⟩ := (readField_eq_ok_iff_spells _ _ _).1 he
    obtain ⟨hspells', -⟩ := (readField_eq_ok_iff_spells _ _ _).1 hf
    rw [← heq] at hspells'
    exact hne (h p.1 (List.mem_map_of_mem hp) q.1 (List.mem_map_of_mem hq) e.1.id hspells hspells')
  have hread : (es.map Except.ok : List (Except Error (UserId × Int))).Pairwise
      fun x y => ∀ e f, x = .ok e → y = .ok f → e.1 ≠ f.1 := by
    rw [← hes]
    exact List.pairwise_map.2 hfields
  exact List.pairwise_map.2 ((List.pairwise_map.1 hread).imp fun hne => hne _ _ rfl rfl)

/-- **What is read from names of different identifiers**: one entry for each field, with the
identifier that the name spells and the amount that the value stands for. -/
theorem Fields.Unambiguous.decode_eq_ok {fields : Fields} (h : fields.Unambiguous) {b : Balance}
    (hb : decode fields = .ok b) :
    b.entries.length = fields.entries.length ∧
      ∀ user n, b.get? user = some n ↔ ∃ name value, fields.get? name = some value ∧
        Id.Spells name.toList user.id ∧ Amount.Denotes value n := by
  constructor
  · obtain ⟨es, hes, rfl⟩ := (readFields_eq_ok_iff _ _ _).1 hb
    have hnodup := h.nodup hes
    -- With distinct keys no entry replaces another one.
    have hperm : (Table.ofList es).entries.Perm es := by
      refine (List.perm_ext_iff_of_nodup ?_ ?_).2 fun e => ?_
      · exact List.Nodup.of_map _ (Table.ofList es).nodup_keys
      · exact List.Nodup.of_map _ hnodup
      · rw [← Table.get?_ofList_eq_some_iff es hnodup e.1 e.2, Table.get?_eq_some_iff]
    have hlength := congrArg List.length hes
    rw [List.length_map, List.length_map] at hlength
    exact hperm.length_eq.trans hlength.symm
  · exact h.coherent.get?_decodeIn hb

/-! ## Written and read -/

/-- The hash that is stored for a balance holds the written fields, in whatever order. -/
theorem perm_hashOf_populate (user : UserId) (m : Balance) (c : Cache)
    (hservice : c.failing = false) :
    ((c.populate user m).2.hashOf user).entries.Perm
      ((encode m).map fun e => (e.1, Amount.text e.2)) := by
  rw [hashOf_populate user user m c hservice, if_pos rfl]
  refine (List.perm_ext_iff_of_nodup ?_ ?_).2 fun p => ?_
  · exact List.Nodup.of_map _ (Fields.ofBalance m).nodup_keys
  · exact List.Nodup.of_map _ (nodup_encode m)
  · rw [← Table.get?_eq_some_iff]
    exact Table.get?_ofList_eq_some_iff _ (nodup_encode m) p.1 p.2

/-- **The fields of a balance are read back as that balance, and fields are read exactly when all of
them are well-formed.** The hash that is stored for a balance holds the written fields, whose names
are distinct. Of any fields whose names belong to different identifiers: they are read exactly when
each name is a form of an identifier and each value a storable numeral between blanks; then there is
one entry for each field; and otherwise the entry is reported as corrupted. -/
theorem reads_back_and_exactly (c : Cache) (owner : UserId) (m : Balance)
    (hservice : c.failing = false) (hm : m.AllStorable) (fields : Fields)
    (hdistinct : fields.Unambiguous) :
    ((c.populate owner m).1 = .ok () ∧
      ((c.populate owner m).2.hashOf owner).entries.Perm
        ((encode m).map fun e => (e.1, Amount.text e.2)) ∧
      ((encode m).map (·.1)).Nodup ∧
      decode ((c.populate owner m).2.hashOf owner) = .ok m) ∧
    ((∃ b, decode fields = .ok b) ↔ ∀ name value, fields.get? name = some value →
      (∃ a, Id.Spells name.toList a) ∧ ∃ n, Amount.Denotes value n) ∧
    (∀ b, decode fields = .ok b → b.entries.length = fields.entries.length ∧
      ∀ user n, b.get? user = some n ↔ ∃ name value, fields.get? name = some value ∧
        Id.Spells name.toList user.id ∧ Amount.Denotes value n) ∧
    ∀ e, decode fields = .error e → e.kind = .corrupted := by
  refine ⟨⟨?_, perm_hashOf_populate owner m c hservice, ?_, ?_⟩, ?_,
    fun b hb => hdistinct.decode_eq_ok hb, fun e he => kind_of_readFields _ _ e he⟩
  · simp [populate, hservice]
  · have hnames := nodup_encode m
    rwa [List.map_map] at hnames
  · rw [hashOf_populate owner owner m c hservice, if_pos rfl]
    exact decode_ofBalance m hm
  · constructor
    · rintro ⟨b, hb⟩ name value hvalue
      obtain ⟨es, hes, -⟩ := (readFields_eq_ok_iff _ _ _).1 hb
      have hmem : readField name value ∈ es.map (Except.ok (ε := Error)) := by
        rw [← hes]
        exact List.mem_map_of_mem (f := fun p : String × String => readField p.1 p.2)
          ((Table.get?_eq_some_iff _ _ _).1 hvalue)
      obtain ⟨e, -, he⟩ := List.mem_map.1 hmem
      obtain ⟨hspells, hdenotes⟩ := (readField_eq_ok_iff_spells name value e).1 he.symm
      exact ⟨⟨e.1.id, hspells⟩, e.2, hdenotes⟩
    · intro hall
      cases hd : decode fields with
      | ok b => exact ⟨b, rfl⟩
      | error e =>
        obtain ⟨name, value, hvalue, e', he'⟩ := (decode_eq_error_iff fields).1 ⟨e, hd⟩
        obtain ⟨⟨a, ha⟩, n, hn⟩ := hall name value hvalue
        rw [(readField_eq_ok_iff_spells name value (⟨a⟩, n)).2 ⟨ha, hn⟩] at he'
        contradiction

namespace Sample

/-- Two counterparties at the limits of what can be stored. -/
def extremes : Balance :=
  (Table.empty.insert ⟨Id.ofNat 11⟩ Amount.lowest).insert ⟨Id.ofNat 12⟩ Amount.highest

/-- Fields that no balance is written with: an identifier in braces whose amount has a plus sign, a
leading zero and a blank, and a name that is no identifier. -/
def strays : Fields :=
  (Table.empty.insert ("\x7b" ++ (Id.ofNat 11).text ++ "\x7d") "+07 ").insert "nobody" "1"

end Sample

open ExpenseLedger.Cache.Sample in
/-- The general statement about a balance at the limits and fields with a name of nobody. -/
theorem reads_back_and_exactly_strays :
    ((empty.populate ⟨Id.ofNat 1⟩ extremes).1 = .ok () ∧
      ((empty.populate ⟨Id.ofNat 1⟩ extremes).2.hashOf ⟨Id.ofNat 1⟩).entries.Perm
        ((encode extremes).map fun e => (e.1, Amount.text e.2)) ∧
      ((encode extremes).map (·.1)).Nodup ∧
      decode ((empty.populate ⟨Id.ofNat 1⟩ extremes).2.hashOf ⟨Id.ofNat 1⟩) = .ok extremes) ∧
    ((∃ b, decode strays = .ok b) ↔ ∀ name value, strays.get? name = some value →
      (∃ a, Id.Spells name.toList a) ∧ ∃ n, Amount.Denotes value n) ∧
    (∀ b, decode strays = .ok b → b.entries.length = strays.entries.length ∧
      ∀ user n, b.get? user = some n ↔ ∃ name value, strays.get? name = some value ∧
        Id.Spells name.toList user.id ∧ Amount.Denotes value n) ∧
    ∀ e, decode strays = .error e → e.kind = .corrupted := by
  refine reads_back_and_exactly empty ⟨Id.ofNat 1⟩ extremes rfl ?_ strays ?_
  · exact Balance.allStorable_insert _ (Balance.allStorable_insert _ Balance.allStorable_empty _ _
      (by decide)) _ _ (by decide)
  · have hkeys : strays.keys = ["nobody", "\x7b" ++ (Id.ofNat 11).text ++ "\x7d"] := by decide +kernel
    have hnobody (a : Id) : ¬ Id.Spells "nobody".toList a := by
      rw [← Id.ofText?_eq_some_iff]
      have hnone : Id.ofText? "nobody" = none := by decide +kernel
      simp [hnone]
    intro name hname name' hname' a ha ha'
    rw [hkeys] at hname hname'
    simp only [List.mem_cons, List.not_mem_nil, or_false] at hname hname'
    rcases hname with rfl | rfl
    · exact absurd ha (hnobody a)
    · rcases hname' with rfl | rfl
      · exact absurd ha' (hnobody a)
      · rfl

end ExpenseLedger.Cache
