import ExpenseLedger.Cache.Basic
import ExpenseLedger.Proofs.Identifier
import ExpenseLedger.Proofs.Ledger.Nets
import ExpenseLedger.Proofs.Text.Integer
/-!
# Balances in fields

The fields that hold a balance are read back as that balance, and adding amounts to them is adding
contributions to the balance. Fields of which one is rejected cannot be read, and no update mends
that. Main statements:

* `Cache.decodeIn_ofBalance`: written balances are read back;
* `Cache.decodeIn_eq_error_iff`: fields cannot be read exactly when one of them is rejected;
* `Cache.addDeltas_ofBalance_eq_ok_iff`: updates of fields are updates of the balance;
* `Cache.unreadable_addDeltas`: an update that succeeds leaves a rejected field as it is.
-/

namespace ExpenseLedger.Cache

/-! ## Fields that cannot be read -/

/-- The field is not one of a balance: its name is no identifier or its value is no amount. -/
def Rejects (name value : String) : Prop := ∃ e, readField name value = .error e

instance (name value : String) : Decidable (Rejects name value) :=
  match h : readField name value with
  | .ok _ => isFalse fun ⟨_, he⟩ => by rw [h] at he; contradiction
  | .error e => isTrue ⟨e, h⟩

/-- One of the fields is rejected. -/
def Unreadable (fields : Fields) : Prop :=
  ∃ name value, fields.get? name = some value ∧ Rejects name value

/-- A list of fields cannot be read exactly when one of them is rejected. -/
theorem readFields_eq_error_iff (b : Balance) (l : List (String × String)) :
    (∃ e, readFields b l = .error e) ↔ ∃ p ∈ l, Rejects p.1 p.2 := by
  induction l generalizing b with
  | nil => simp [readFields]
  | cons p l ih =>
    obtain ⟨name, value⟩ := p
    unfold readFields
    cases hf : readField name value with
    | error e => simp [Rejects, hf]
    | ok r => simp [Rejects, hf, ih]

/-- The fields of a hash are visited, and no others. -/
theorem Fields.Order.mem_visit_iff (order : Fields.Order) (fields : Fields)
    (p : String × String) : p ∈ order.visit fields ↔ fields.get? p.1 = some p.2 := by
  rw [(order.perm fields).mem_iff, Table.get?_eq_some_iff]

/-- The names of the visited fields are distinct. -/
theorem Fields.Order.nodup_visit (order : Fields.Order) (fields : Fields) :
    ((order.visit fields).map (·.1)).Nodup :=
  ((order.perm fields).map _).nodup_iff.2 fields.nodup_keys

/-- **Fields cannot be read exactly when one of them is rejected**, in whatever order they are
visited. -/
theorem decodeIn_eq_error_iff (order : Fields.Order) (fields : Fields) :
    (∃ e, decodeIn order fields = .error e) ↔ Unreadable fields := by
  unfold decodeIn Unreadable
  rw [readFields_eq_error_iff]
  constructor
  · rintro ⟨p, hp, hr⟩
    exact ⟨p.1, p.2, (order.mem_visit_iff fields p).1 hp, hr⟩
  · rintro ⟨name, value, hp, hr⟩
    exact ⟨(name, value), (order.mem_visit_iff fields (name, value)).2 hp, hr⟩

/-- Fields cannot be read exactly when one of them is rejected. -/
theorem decode_eq_error_iff (fields : Fields) :
    (∃ e, decode fields = .error e) ↔ Unreadable fields := decodeIn_eq_error_iff .ascending fields

/-- Fields of which none is rejected are read. -/
theorem exists_decodeIn (order : Fields.Order) {fields : Fields} (h : ¬ Unreadable fields) :
    ∃ b, decodeIn order fields = .ok b := by
  cases hd : decodeIn order fields with
  | ok b => exact ⟨b, rfl⟩
  | error e => exact absurd ((decodeIn_eq_error_iff order fields).1 ⟨e, hd⟩) h

/-- Fields that are read hold no rejected field. -/
theorem not_unreadable_of_decode (fields : Fields) (b : Balance) (h : decode fields = .ok b) :
    ¬ Unreadable fields := by
  intro hu
  obtain ⟨e, he⟩ := (decode_eq_error_iff fields).2 hu
  rw [h] at he
  contradiction

/-- Writing a rejected field makes the fields unreadable. -/
theorem unreadable_insert (fields : Fields) (name value : String) (h : Rejects name value) :
    Unreadable (fields.insert name value) :=
  ⟨name, value, Table.get?_insert_self fields name value, h⟩

/-! ## The fields of a balance -/

/-- Distinct counterparties have distinct fields. -/
theorem nodup_encode (b : Balance) :
    (((encode b).map fun e => (e.1, Amount.text e.2)).map (·.1)).Nodup := by
  have h : ((encode b).map fun e => (e.1, Amount.text e.2)).map (·.1) = b.keys.map UserId.text := by
    simp [encode, Table.keys]
  rw [h]
  exact List.Pairwise.map _ (fun u v huv h => huv (UserId.text_injective h)) b.nodup_keys

/-- The fields of a balance are the texts of its entries. -/
theorem get?_ofBalance_eq_some_iff (b : Balance) (name value : String) :
    (Fields.ofBalance b).get? name = some value ↔
      ∃ u a, b.get? u = some a ∧ u.text = name ∧ Amount.text a = value := by
  unfold Fields.ofBalance
  rw [Table.get?_ofList_eq_some_iff _ (nodup_encode b)]
  simp only [encode, List.map_map, List.mem_map, Function.comp, Prod.mk.injEq]
  constructor
  · rintro ⟨e, he, hn, hv⟩
    exact ⟨e.1, e.2, (Table.get?_eq_some_iff _ _ _).2 he, hn, hv⟩
  · rintro ⟨u, a, hu, hn, hv⟩
    exact ⟨(u, a), (Table.get?_eq_some_iff _ _ _).1 hu, hn, hv⟩

/-- The field of a counterparty holds the text of the amount. -/
theorem get?_ofBalance_text (b : Balance) (u : UserId) :
    (Fields.ofBalance b).get? u.text = (b.get? u).map Amount.text := by
  refine Option.ext fun value => ?_
  rw [get?_ofBalance_eq_some_iff]
  constructor
  · rintro ⟨v, a, hv, hn, rfl⟩
    rw [UserId.text_injective hn] at hv
    simp [hv]
  · intro h
    obtain ⟨a, ha, rfl⟩ := Option.map_eq_some_iff.1 h
    exact ⟨u, a, ha, rfl, rfl⟩

/-- A text that names no counterparty of a balance names no field. -/
theorem get?_ofBalance_of_ne (b : Balance) (name : String) (h : ∀ u : UserId, u.text ≠ name) :
    (Fields.ofBalance b).get? name = none := by
  refine Option.eq_none_iff_forall_ne_some.2 fun value hv => ?_
  obtain ⟨u, -, -, hn, -⟩ := (get?_ofBalance_eq_some_iff b name value).1 hv
  exact h u hn

/-- The empty balance has no fields. -/
@[simp] theorem ofBalance_empty : Fields.ofBalance Table.empty = Table.empty := rfl

/-- Writing an amount into a balance writes its field. -/
theorem ofBalance_insert (b : Balance) (u : UserId) (a : Int) :
    Fields.ofBalance (b.insert u a) = (Fields.ofBalance b).insert u.text (Amount.text a) := by
  refine Table.ext_get? fun name => ?_
  -- A name is the text of one counterparty or of none, in which case it names no field.
  by_cases hn : ∃ v : UserId, v.text = name
  · obtain ⟨v, rfl⟩ := hn
    rw [get?_ofBalance_text, Table.get?_insert, Table.get?_insert, get?_ofBalance_text]
    by_cases hvu : v = u
    · simp [hvu]
    · have ht : v.text ≠ u.text := fun h => hvu (UserId.text_injective h)
      simp [hvu, ht]
  · have hne : ∀ v : UserId, v.text ≠ name := fun v hv => hn ⟨v, hv⟩
    rw [get?_ofBalance_of_ne _ _ hne, Table.get?_insert_of_ne _ _ (Ne.symm (hne u)),
      get?_ofBalance_of_ne _ _ hne]

/-! ## Reading a balance back -/

/-- The field of a storable amount is read as that amount. -/
theorem readField_text (u : UserId) (a : Int) (h : Amount.Storable a) :
    readField u.text (Amount.text a) = .ok (u, a) := by
  unfold readField
  rw [UserId.ofText?_text, Amount.trim_text a h, Amount.ofText_text a h]

/-- Written entries are read one after the other. -/
theorem readFields_texts (l : List (UserId × Int)) (b : Balance)
    (h : ∀ e ∈ l, Amount.Storable e.2) :
    readFields b (l.map fun e => (e.1.text, Amount.text e.2))
      = .ok (l.foldl (fun t e => t.insert e.1 e.2) b) := by
  induction l generalizing b with
  | nil => rfl
  | cons e l ih =>
    rw [List.map_cons, readFields, readField_text e.1 e.2 (h e List.mem_cons_self)]
    exact ih _ fun f hf => h f (List.mem_cons_of_mem _ hf)

/-- A list whose members all come from entries of a table is made of such entries. -/
theorem exists_entries (b : Balance) (l : List (String × String))
    (h : ∀ p ∈ l, ∃ u a, b.get? u = some a ∧ u.text = p.1 ∧ Amount.text a = p.2) :
    ∃ es : List (UserId × Int), l = es.map (fun e => (e.1.text, Amount.text e.2)) ∧
      ∀ e ∈ es, b.get? e.1 = some e.2 := by
  induction l with
  | nil => exact ⟨[], rfl, by simp⟩
  | cons p l ih =>
    obtain ⟨es, rfl, hes⟩ := ih fun q hq => h q (List.mem_cons_of_mem _ hq)
    obtain ⟨u, a, hu, hn, hv⟩ := h p List.mem_cons_self
    refine ⟨(u, a) :: es, ?_, ?_⟩
    · rw [List.map_cons, hn, hv]
    · intro e he
      rcases List.mem_cons.1 he with rfl | he
      · exact hu
      · exact hes e he

/-- **A balance of storable amounts is read back from its fields**, in whatever order they are
visited. -/
theorem decodeIn_ofBalance (order : Fields.Order) (b : Balance) (h : b.AllStorable) :
    decodeIn order (Fields.ofBalance b) = .ok b := by
  -- The fields come in some order of their names, which is not that of the counterparties.
  obtain ⟨es, hes, hb⟩ := exists_entries b (order.visit (Fields.ofBalance b)) fun p hp =>
    (get?_ofBalance_eq_some_iff b p.1 p.2).1 ((order.mem_visit_iff _ p).1 hp)
  have hnodup : (es.map (·.1)).Nodup := by
    have hn := order.nodup_visit (Fields.ofBalance b)
    rw [hes, List.map_map] at hn
    refine List.pairwise_map.2 ((List.pairwise_map.1 hn).imp fun hne he => hne ?_)
    exact congrArg UserId.text he
  unfold decodeIn
  rw [hes, readFields_texts es Table.empty fun e he => h e.1 e.2 (hb e he)]
  refine congrArg Except.ok (Table.ext_get? fun u => Option.ext fun a => ?_)
  change (Table.ofList es).get? u = some a ↔ b.get? u = some a
  rw [Table.get?_ofList_eq_some_iff es hnodup]
  constructor
  · exact hb (u, a)
  · intro hu
    have hf : (u.text, Amount.text a) ∈ order.visit (Fields.ofBalance b) :=
      (order.mem_visit_iff _ _).2 ((get?_ofBalance_eq_some_iff b _ _).2 ⟨u, a, hu, rfl, rfl⟩)
    rw [hes] at hf
    obtain ⟨e, he, heq⟩ := List.mem_map.1 hf
    have he1 : e.1 = u := UserId.text_injective (congrArg Prod.fst heq)
    have he2 := hb e he
    rw [he1, hu] at he2
    rw [← he1, Option.some.inj he2]
    exact he

/-- A balance of storable amounts is read back from its fields. -/
theorem decode_ofBalance (b : Balance) (h : b.AllStorable) :
    decode (Fields.ofBalance b) = .ok b := decodeIn_ofBalance .ascending b h

/-- Reading more fields keeps all amounts storable. -/
theorem allStorable_readFields (b m : Balance) (hb : b.AllStorable) (l : List (String × String))
    (h : readFields b l = .ok m) : m.AllStorable := by
  induction l generalizing b with
  | nil =>
    cases h
    exact hb
  | cons p l ih =>
    obtain ⟨name, value⟩ := p
    unfold readFields at h
    cases hf : readField name value with
    | error e =>
      rw [hf] at h
      contradiction
    | ok r =>
      rw [hf] at h
      refine ih _ (b.allStorable_insert hb r.1 r.2 ?_) h
      unfold readField at hf
      split at hf
      · contradiction
      · split at hf
        · contradiction
        · rename_i hamount
          cases hf
          exact Amount.storable_of_ofText _ _ hamount

/-- A balance that is read from fields holds storable amounts only. -/
theorem allStorable_decode (fields : Fields) (b : Balance) (h : decode fields = .ok b) :
    b.AllStorable :=
  allStorable_readFields Table.empty b Balance.allStorable_empty fields.entries h

/-! ## Updating fields -/

/-- The amount in the field of a counterparty, zero where there is no such field. -/
def fieldAmount (fields : Fields) (name : String) : Except Error Int :=
  match fields.get? name with
  | none => .ok 0
  | some raw =>
    match Amount.ofText raw with
    | .error flaw => .error (.fieldNotInteger name flaw)
    | .ok amount => .ok amount

/-- An amount is added to what the field holds, and the sum is written unless it is too large. -/
theorem addDelta_eq_bind (fields : Fields) (d : UserId × Int) :
    addDelta fields d = (fieldAmount fields d.1.text).bind fun amount =>
      (Amount.add? amount d.2).elim (.error (.fieldOverflow d.1.text)) fun sum =>
        .ok (fields.insert d.1.text (Amount.text sum)) := by
  unfold addDelta fieldAmount
  dsimp only
  cases fields.get? d.1.text with
  | none =>
    simp only [Except.bind]
    cases Amount.add? 0 d.2 <;> rfl
  | some raw =>
    dsimp only
    cases Amount.ofText raw with
    | error flaw => rfl
    | ok a =>
      simp only [Except.bind]
      cases Amount.add? a d.2 <;> rfl

/-- An amount is added to a field by writing the storable sum in place of the amount there. -/
theorem addDelta_eq_ok_iff (fields next : Fields) (d : UserId × Int) :
    addDelta fields d = .ok next ↔
      ∃ a, fieldAmount fields d.1.text = .ok a ∧ Amount.Storable (a + d.2) ∧
        next = fields.insert d.1.text (Amount.text (a + d.2)) := by
  rw [addDelta_eq_bind]
  cases fieldAmount fields d.1.text with
  | error e => simp [Except.bind]
  | ok a =>
    cases ha : Amount.add? a d.2 with
    | none =>
      have hn := (Amount.add?_eq_none_iff _ _).1 ha
      simp [Except.bind, ha, hn]
    | some sum =>
      obtain ⟨hs, rfl⟩ := (Amount.add?_eq_some_iff _ _ _).1 ha
      simp [Except.bind, ha, hs, eq_comm]

/-- The fields of a balance hold its amounts. -/
theorem fieldAmount_ofBalance (b : Balance) (h : b.AllStorable) (u : UserId) :
    fieldAmount (Fields.ofBalance b) u.text = .ok (b.getD u 0) := by
  unfold fieldAmount
  rw [get?_ofBalance_text, Table.getD_eq]
  cases hb : b.get? u with
  | none => rfl
  | some a => simp [Amount.ofText_text a (h u a hb)]

/-- Adding an amount to the field of a counterparty is adding a contribution to the balance. -/
theorem addDelta_ofBalance_eq_ok_iff (user : UserId) (b : Balance) (h : b.AllStorable)
    (d : UserId × Int) (fields : Fields) :
    addDelta (Fields.ofBalance b) d = .ok fields ↔
      ∃ m, Ledger.addContribution user b d = .ok m ∧ fields = Fields.ofBalance m := by
  rw [addDelta_eq_ok_iff, fieldAmount_ofBalance b h]
  simp only [Except.ok.injEq, exists_eq_left', Ledger.addContribution_eq_ok_iff]
  constructor
  · rintro ⟨hs, rfl⟩
    exact ⟨_, ⟨hs, rfl⟩, (ofBalance_insert _ _ _).symm⟩
  · rintro ⟨m, ⟨hs, rfl⟩, rfl⟩
    exact ⟨hs, ofBalance_insert _ _ _⟩

/-- **Updating the fields of a balance is adding contributions to the balance.** -/
theorem addDeltas_ofBalance_eq_ok_iff (user : UserId) (b : Balance) (h : b.AllStorable)
    (ds : List (UserId × Int)) (fields : Fields) :
    addDeltas (Fields.ofBalance b) ds = .ok fields ↔
      ∃ m, Ledger.addAll user b ds = .ok m ∧ fields = Fields.ofBalance m := by
  induction ds generalizing b with
  | nil => simp [addDeltas, Ledger.addAll, eq_comm]
  | cons d ds ih =>
    simp only [addDeltas]
    constructor
    · intro hf
      cases hd : addDelta (Fields.ofBalance b) d with
      | error e =>
        rw [hd] at hf
        contradiction
      | ok next =>
        rw [hd] at hf
        obtain ⟨m, hm, rfl⟩ := (addDelta_ofBalance_eq_ok_iff user b h d next).1 hd
        have hs : m.AllStorable := Ledger.allStorable_addContribution user b m d h hm
        obtain ⟨n, hn, rfl⟩ := (ih m hs).1 hf
        exact ⟨n, (Ledger.addAll_cons_eq_ok_iff user b n d ds).2 ⟨m, hm, hn⟩, rfl⟩
    · rintro ⟨n, hn, rfl⟩
      obtain ⟨m, hm, hn⟩ := (Ledger.addAll_cons_eq_ok_iff user b n d ds).1 hn
      have hs : m.AllStorable := Ledger.allStorable_addContribution user b m d h hm
      rw [(addDelta_ofBalance_eq_ok_iff user b h d _).2 ⟨m, hm, rfl⟩]
      exact (ih m hs).2 ⟨n, hn, rfl⟩

/-- An update of one field that succeeds leaves a rejected field as it is. -/
theorem unreadable_addDelta (fields next : Fields) (d : UserId × Int)
    (h : addDelta fields d = .ok next) (hu : Unreadable fields) : Unreadable next := by
  obtain ⟨name, value, hv, e, he⟩ := hu
  obtain ⟨a, ha, -, rfl⟩ := (addDelta_eq_ok_iff fields next d).1 h
  refine ⟨name, value, ?_, e, he⟩
  rw [Table.get?_insert_of_ne _ _ _, hv]
  -- The update has read the field of its counterparty, so that field is not the rejected one.
  rintro rfl
  unfold fieldAmount at ha
  rw [hv] at ha
  cases hr : Amount.ofText value with
  | error flaw => simp [hr] at ha
  | ok amount => simp [readField, Amount.trim_eq_self value amount hr, hr] at he

/-- **An update that succeeds leaves a rejected field as it is.** -/
theorem unreadable_addDeltas (fields next : Fields) (ds : List (UserId × Int))
    (h : addDeltas fields ds = .ok next) (hu : Unreadable fields) : Unreadable next := by
  induction ds generalizing fields with
  | nil =>
    cases h
    exact hu
  | cons d ds ih =>
    unfold addDeltas at h
    cases hd : addDelta fields d with
    | error e =>
      rw [hd] at h
      contradiction
    | ok mid =>
      rw [hd] at h
      exact ih mid h (unreadable_addDelta fields mid d hd hu)

end ExpenseLedger.Cache
