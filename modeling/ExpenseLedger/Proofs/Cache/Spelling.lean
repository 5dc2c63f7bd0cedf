import ExpenseLedger.Proofs.Cache.Codec
/-!
# Entries in standard spelling

An identifier can be written in several ways, and an amount too. An entry is in standard spelling if
its fields are named as the service names them, whatever its amounts look like. Then distinct fields
belong to distinct counterparties, and an update of the fields is an update of the balance that they
hold (`Cache.Spells.addDeltas`). In an entry with two names for one counterparty it would not be.
-/

namespace ExpenseLedger.Cache

/-- Every field is named by the text of some user. -/
def Standard (fields : Fields) : Prop :=
  ∀ name value, fields.get? name = some value → ∃ user : UserId, user.text = name

/-- The fields hold a balance: one for each counterparty, under the counterparty's own text, with
the amount, around which there may be blanks. -/
structure Spells (fields : Fields) (b : Balance) : Prop where
  /-- Every field is named by the text of some user. -/
  standard : Standard fields
  /-- A field that is named by a user's text holds the amount of that user. -/
  amounts : ∀ user value, fields.get? user.text = some value →
    ∃ a, b.get? user = some a ∧ Amount.ofText (Text.trim value) = .ok a
  /-- All amounts have a field. -/
  fields : ∀ user a, b.get? user = some a → ∃ value, fields.get? user.text = some value

/-- What is read under the text of a user is an amount of that user. -/
theorem readField_eq_ok_iff (user : UserId) (value : String) (r : UserId × Int) :
    readField user.text value = .ok r ↔
      r.1 = user ∧ Amount.ofText (Text.trim value) = .ok r.2 := by
  unfold readField
  rw [UserId.ofText?_text]
  cases Amount.ofText (Text.trim value) with
  | error flaw => simp
  | ok a =>
    simp only [Except.ok.injEq]
    constructor
    · rintro rfl
      exact ⟨rfl, rfl⟩
    · rintro ⟨rfl, rfl⟩
      rfl

/-- Fields that are named by texts of users are read one after the other. -/
theorem readFields_of_standard (l : List (String × String)) (b m : Balance)
    (hstandard : ∀ p ∈ l, ∃ user : UserId, user.text = p.1) (h : readFields b l = .ok m) :
    ∃ es : List (UserId × Int), m = es.foldl (fun t e => t.insert e.1 e.2) b ∧
      l.map (·.1) = es.map (fun e => e.1.text) ∧
      (∀ p ∈ l, ∃ e ∈ es, e.1.text = p.1 ∧ Amount.ofText (Text.trim p.2) = .ok e.2) ∧
      ∀ e ∈ es, ∃ p ∈ l, e.1.text = p.1 := by
  induction l generalizing b with
  | nil =>
    cases h
    exact ⟨[], rfl, rfl, by simp, by simp⟩
  | cons p l ih =>
    obtain ⟨name, value⟩ := p
    obtain ⟨user, huser⟩ := hstandard (name, value) List.mem_cons_self
    change user.text = name at huser
    rw [← huser] at h ⊢
    unfold readFields at h
    cases hread : readField user.text value with
    | error e =>
      rw [hread] at h
      contradiction
    | ok r =>
      rw [hread] at h
      obtain ⟨hr, hvalue⟩ := (readField_eq_ok_iff user value r).1 hread
      obtain ⟨es, hm, hnames, hes, hback⟩ :=
        ih (b.insert r.1 r.2) (fun q hq => hstandard q (List.mem_cons_of_mem _ hq)) h
      refine ⟨r :: es, hm, ?_, ?_, ?_⟩
      · rw [List.map_cons, List.map_cons, hnames, hr]
      · intro q hq
        rcases List.mem_cons.1 hq with rfl | hq
        · exact ⟨r, List.mem_cons_self, congrArg UserId.text hr, hvalue⟩
        · obtain ⟨e, he, hq⟩ := hes q hq
          exact ⟨e, List.mem_cons_of_mem _ he, hq⟩
      · intro e he
        rcases List.mem_cons.1 he with rfl | he
        · exact ⟨_, List.mem_cons_self, congrArg UserId.text hr⟩
        · obtain ⟨q, hq, hname⟩ := hback e he
          exact ⟨q, List.mem_cons_of_mem _ hq, hname⟩

/-- **Fields in standard spelling hold the balance that is read from them.** -/
theorem spells_of_decode (fields : Fields) (b : Balance) (hstandard : Standard fields)
    (h : decode fields = .ok b) : Spells fields b := by
  have hnamed : ∀ p ∈ fields.entries, ∃ user : UserId, user.text = p.1 :=
    fun p hp => hstandard p.1 p.2 ((Table.get?_eq_some_iff _ _ _).2 hp)
  obtain ⟨es, rfl, hnames, hes, hback⟩ := readFields_of_standard fields.entries Table.empty b
    hnamed h
  -- Distinct fields belong to distinct counterparties.
  have hnodup : (es.map (·.1)).Nodup := by
    have hkeys := fields.nodup_keys
    rw [Table.keys, hnames] at hkeys
    refine List.pairwise_map.2 ((List.pairwise_map.1 hkeys).imp fun hne he => hne ?_)
    exact congrArg UserId.text he
  have hget : ∀ user a,
      (es.foldl (fun t e => t.insert e.1 e.2) Table.empty : Balance).get? user = some a ↔
        (user, a) ∈ es := fun user a => Table.get?_ofList_eq_some_iff es hnodup user a
  refine ⟨hstandard, fun user value hvalue => ?_, fun user a ha => ?_⟩
  · obtain ⟨e, he, hname, hamount⟩ :=
      hes (user.text, value) ((Table.get?_eq_some_iff _ _ _).1 hvalue)
    have huser : e.1 = user := UserId.text_injective hname
    refine ⟨e.2, (hget user e.2).2 ?_, hamount⟩
    rw [← huser]
    exact he
  · obtain ⟨p, hp, hname⟩ := hback (user, a) ((hget user a).1 ha)
    refine ⟨p.2, (Table.get?_eq_some_iff _ _ _).2 ?_⟩
    change user.text = p.1 at hname
    rw [hname]
    exact hp

/-- Fields that hold a balance can be read. -/
theorem Spells.not_unreadable {fields : Fields} {b : Balance} (h : Spells fields b) :
    ¬ Unreadable fields := by
  rintro ⟨name, value, hvalue, e, he⟩
  obtain ⟨user, rfl⟩ := h.standard name value hvalue
  obtain ⟨a, -, ha⟩ := h.amounts user value hvalue
  have hread := (readField_eq_ok_iff user value (user, a)).2 ⟨rfl, ha⟩
  rw [hread] at he
  contradiction

/-- The fields hold one balance. -/
theorem Spells.unique {fields : Fields} {b c : Balance} (hb : Spells fields b)
    (hc : Spells fields c) : b = c := by
  refine Table.ext_get? fun user => ?_
  cases hvalue : fields.get? user.text with
  | none =>
    have hnone : ∀ d, Spells fields d → d.get? user = none := by
      intro d hd
      refine Option.eq_none_iff_forall_ne_some.2 fun a ha => ?_
      obtain ⟨value, hv⟩ := hd.fields user a ha
      rw [hvalue] at hv
      contradiction
    rw [hnone b hb, hnone c hc]
  | some value =>
    obtain ⟨a, hba, ha⟩ := hb.amounts user value hvalue
    obtain ⟨a', hca, ha'⟩ := hc.amounts user value hvalue
    rw [ha] at ha'
    cases ha'
    rw [hba, hca]

/-- **The balance that fields hold is read from them.** -/
theorem Spells.decode_eq {fields : Fields} {b : Balance} (h : Spells fields b) :
    decode fields = .ok b := by
  obtain ⟨c, hd⟩ := exists_decodeIn .ascending h.not_unreadable
  have hc := spells_of_decode fields c h.standard hd
  rw [hc.unique h] at hd
  exact hd

/-- The fields of a balance hold it. -/
theorem spells_ofBalance (b : Balance) (h : b.AllStorable) : Spells (Fields.ofBalance b) b := by
  refine spells_of_decode _ b (fun name value hvalue => ?_) (decode_ofBalance b h)
  obtain ⟨user, -, -, hname, -⟩ := (get?_ofBalance_eq_some_iff b name value).1 hvalue
  exact ⟨user, hname⟩

/-- An amount that is found in a field without trimming is the one of the balance. -/
theorem Spells.fieldAmount_eq {fields : Fields} {b : Balance} (h : Spells fields b)
    (user : UserId) (a : Int) (ha : fieldAmount fields user.text = .ok a) : a = b.getD user 0 := by
  unfold fieldAmount at ha
  rw [Table.getD_eq]
  cases hvalue : fields.get? user.text with
  | none =>
    rw [hvalue] at ha
    cases ha
    have hnone : b.get? user = none := by
      refine Option.eq_none_iff_forall_ne_some.2 fun a ha => ?_
      obtain ⟨value, hv⟩ := h.fields user a ha
      rw [hvalue] at hv
      contradiction
    rw [hnone, Option.getD_none]
  | some value =>
    rw [hvalue] at ha
    obtain ⟨c, hc, hread⟩ := h.amounts user value hvalue
    dsimp only at ha
    cases hraw : Amount.ofText value with
    | error flaw =>
      rw [hraw] at ha
      contradiction
    | ok d =>
      rw [hraw] at ha
      cases ha
      rw [Amount.trim_eq_self value a hraw, hraw] at hread
      cases hread
      rw [hc, Option.getD_some]

/-- An update of one field is the addition of a contribution. -/
theorem Spells.addDelta {fields next : Fields} {b : Balance} (h : Spells fields b) (user : UserId)
    (d : UserId × Int) (hnext : Cache.addDelta fields d = .ok next) :
    ∃ m, Ledger.addContribution user b d = .ok m ∧ Spells next m := by
  obtain ⟨a, ha, hstorable, rfl⟩ := (addDelta_eq_ok_iff fields next d).1 hnext
  rw [h.fieldAmount_eq d.1 a ha] at hstorable ⊢
  refine ⟨_, (Ledger.addContribution_eq_ok_iff user b _ d).2 ⟨hstorable, rfl⟩, ?_, ?_, ?_⟩
  · intro name value hvalue
    rw [Table.get?_insert] at hvalue
    split at hvalue
    · rename_i hname
      exact ⟨d.1, hname.symm⟩
    · exact h.standard name value hvalue
  · intro other value hvalue
    rw [Table.get?_insert] at hvalue ⊢
    by_cases hother : other = d.1
    · rw [if_pos (congrArg UserId.text hother)] at hvalue
      rw [if_pos hother]
      cases hvalue
      refine ⟨_, rfl, ?_⟩
      rw [Amount.trim_text _ hstorable, Amount.ofText_text _ hstorable]
    · rw [if_neg fun hname => hother (UserId.text_injective hname)] at hvalue
      rw [if_neg hother]
      exact h.amounts other value hvalue
  · intro other c hc
    rw [Table.get?_insert] at hc ⊢
    by_cases hother : other = d.1
    · rw [if_pos (congrArg UserId.text hother)]
      exact ⟨_, rfl⟩
    · rw [if_neg hother] at hc
      rw [if_neg fun hname => hother (UserId.text_injective hname)]
      exact h.fields other c hc

/-- **An update of fields in standard spelling is an update of the balance that they hold.** -/
theorem Spells.addDeltas {fields next : Fields} {b : Balance} (h : Spells fields b)
    (user : UserId) (ds : List (UserId × Int)) (hnext : Cache.addDeltas fields ds = .ok next) :
    ∃ m, Ledger.addAll user b ds = .ok m ∧ Spells next m := by
  induction ds generalizing fields b with
  | nil =>
    cases hnext
    exact ⟨b, rfl, h⟩
  | cons d ds ih =>
    unfold Cache.addDeltas at hnext
    cases hd : Cache.addDelta fields d with
    | error e =>
      rw [hd] at hnext
      contradiction
    | ok mid =>
      rw [hd] at hnext
      obtain ⟨m, hm, hmid⟩ := h.addDelta user d hd
      obtain ⟨n, hn, hspells⟩ := ih hmid hnext
      exact ⟨n, (Ledger.addAll_cons_eq_ok_iff user b n d ds).2 ⟨m, hm, hn⟩, hspells⟩

end ExpenseLedger.Cache
