import ExpenseLedger.Proofs.Cache.Entries
import ExpenseLedger.Proofs.Groups.Requests
import ExpenseLedger.Proofs.Ledger.Lines
import ExpenseLedger.Proofs.Wire.Laws
/-!
# What the store gives can be told

Whatever the cache and the ledger hold, every amount that is served has been read from a text of
bounded value or has been added up within bounds, and every amount that is recorded has passed a
check. So the only values that might not be told are instants, and those come from the groups and
the supply of the store. Main statements:

* `Store.allStorable_served`: balances that are served;
* `Store.told_share`: expenses that are shared;
* `Engine.triple_createGroup_told`, `Engine.triple_groupInfo_told`, `Engine.triple_groupsOf_told`:
  groups.
-/

open ExpenseLedger.Task ExpenseLedger.LawfulWire

namespace ExpenseLedger

/-! ## Balances -/

/-- The lines of a balance of storable amounts. -/
theorem Balance.told_lines (b : Balance) (h : b.AllStorable) : Told b.lines := by
  intro line hline
  exact h line.counterparty line.amount ((b.mem_lines_iff line).1 hline)

/-- **A balance that is served has storable amounts only**, be it read from an entry that anybody
may have written or added up from the records. -/
theorem Store.allStorable_served (user : UserId) (s : Store) (m : Balance)
    (h : s.served user = .ok m) : m.AllStorable := by
  unfold served at h
  split at h
  · rename_i balance hhit
    cases h
    obtain ⟨-, fields, -, hdecode⟩ := (Cache.lookup_eq_hit_iff user s.cache m).1 hhit
    exact Cache.allStorable_decode fields m hdecode
  · unfold Ledger.computeBalance at h
    split at h
    · contradiction
    · exact Ledger.allStorable_aggregate user s.ledger.records m h

/-! ## Instants -/

/-- The instants of the store can be told: the present one and those of the groups. -/
structure Store.Dated (s : Store) : Prop where
  /-- The present instant. -/
  now : s.supply.now.IsTold
  /-- The groups. -/
  groups : ∀ id e, s.directory.entries.get? id = some e → e.group.createdAt.IsTold

/-- A store without groups has no instant but the present one. -/
theorem Store.dated_empty (supply : Supply) (h : supply.now.IsTold) : (Store.empty supply).Dated :=
  ⟨h, fun id e he => by contradiction⟩

/-! ## Expenses -/

/-- An amount of a single loan or expense can be stored. -/
theorem Amount.storable_of_le_limit (a : Int) (hpos : 0 < a) (hle : a ≤ limit) : Storable a := by
  unfold Storable lowest highest
  unfold limit at hle
  omega

/-- The terms of an expense are those of an amount that has passed the check. -/
theorem Directory.checkExpense_of_terms (payer : UserId) (total : Int) (group : GroupId)
    (d : Directory) (parts : List UserId × Int) (h : d.terms payer total group = .ok parts) :
    0 < total ∧ total ≤ Amount.limit := by
  unfold terms Engine.checkExpense at h
  split at h
  · contradiction
  · rename_i hcheck
    split at hcheck
    · contradiction
    · split at hcheck
      · contradiction
      · omega

/-- **An expense that is shared can be told.** -/
theorem Store.told_share (payer : UserId) (total : Int) (group : GroupId) (s : Store)
    (hs : s.Dated) (expense : Expense) (h : (s.share payer total group).1 = .ok expense) :
    Told expense := by
  unfold share at h
  cases hterms : s.directory.terms payer total group with
  | error e =>
    rw [hterms] at h
    contradiction
  | ok parts =>
    rw [hterms] at h
    obtain ⟨debtors, amount⟩ := parts
    dsimp only at h
    obtain ⟨-, ⟨⟨e, herror⟩, -⟩ | ⟨hcheck, batch, rfl, hvalue, -⟩⟩ :=
      s.lend_cases payer amount debtors
    · rw [herror] at h
      contradiction
    · rw [hvalue] at h
      cases h
      obtain ⟨hne, -, hvalid⟩ := (Engine.checkBatch_eq_ok_iff payer amount debtors).1 hcheck
      -- There is a debtor, and a valid loan to that debtor has the share as its amount.
      obtain ⟨debtor, hdebtor⟩ := List.exists_mem_of_ne_nil debtors hne
      obtain ⟨hpos, hle, -⟩ := hvalid ⟨payer, debtor, amount⟩
        (List.mem_map.2 ⟨debtor, hdebtor, rfl⟩)
      obtain ⟨htotal, hlimit⟩ := s.directory.checkExpense_of_terms payer total group _ hterms
      refine ⟨Amount.storable_of_le_limit total htotal hlimit,
        Amount.storable_of_le_limit amount hpos hle, fun _ _ => trivial, fun r hr => ⟨?_, ?_⟩⟩
      · have hloan : r.toLoan ∈ Engine.loansTo payer amount debtors := by
          rw [← Ledger.map_toLoan_recordAll s.supply.next s.supply.now
            (Engine.loansTo payer amount debtors)]
          exact List.mem_map.2 ⟨r, hr, rfl⟩
        obtain ⟨hrpos, hrle, -⟩ := hvalid r.toLoan hloan
        exact Amount.storable_of_le_limit r.amount hrpos hrle
      · rw [Ledger.createdAt_of_mem_recordAll _ _ _ r hr]
        exact hs.now

/-! ## Groups -/

namespace Engine

variable {b : Backends Store} (hb : b.Realizes) (s : Store) (hs : s.Dated)
include hb hs

/-- A group that is created can be told. -/
theorem triple_createGroup_told (name : String) (owner : UserId) :
    Triple (fun s' => s' = s) (createGroup b name owner)
      (fun r _ => ∀ group, r = .ok group → Told group) fun _ => True := by
  unfold createGroup
  cases groupName? name with
  | none => exact .pure fun _ _ group h => by contradiction
  | some trimmed =>
    refine (hb.createGroup trimmed owner s).conseq (fun _ h => h) ?_ fun _ _ => trivial
    rintro r s' hr group rfl
    have hcreated : .ok group = (s.directory.create _).1 := congrArg Prod.fst hr
    unfold Directory.create at hcreated
    split at hcreated
    · contradiction
    · cases hcreated
      exact hs.now

/-- A group that is read with its members can be told. -/
theorem triple_groupInfo_told (group : GroupId) :
    Triple (fun s' => s' = s) (groupInfo b group)
      (fun r _ => ∀ info, r = .ok info → Told info) fun _ => True := by
  refine (atomic_groupInfo hb group s).conseq (fun _ h => h) ?_ fun _ _ => trivial
  rintro r s' hr info rfl
  have hinfo : .ok info = s.directory.info group := congrArg Prod.fst hr
  unfold Directory.info at hinfo
  cases hfound : s.directory.require group with
  | error e =>
    rw [hfound] at hinfo
    contradiction
  | ok found =>
    rw [hfound] at hinfo
    dsimp only at hinfo
    cases hmembers : s.directory.members group with
    | error e =>
      rw [hmembers] at hinfo
      contradiction
    | ok members =>
      rw [hmembers] at hinfo
      cases hinfo
      obtain ⟨-, e, he, rfl⟩ := (Directory.require_eq_ok_iff s.directory group found).1 hfound
      exact hs.groups group e he

/-- The groups of a user can be told. -/
theorem triple_groupsOf_told (user : UserId) :
    Triple (fun s' => s' = s) (b.groupsOf user)
      (fun r _ => ∀ groups, r = .ok groups → Told groups) fun _ => True := by
  refine (hb.groupsOf user s).conseq (fun _ h => h) ?_ fun _ _ => trivial
  rintro r s' hr groups rfl
  have hgroups : .ok groups = s.directory.groupsOf user := congrArg Prod.fst hr
  unfold Directory.groupsOf Directory.query at hgroups
  split at hgroups
  · contradiction
  · cases hgroups
    intro group hgroup
    obtain ⟨e, he, rfl⟩ := List.mem_map.1 (List.mem_mergeSort.1 hgroup)
    obtain ⟨⟨id, e'⟩, hmem, rfl⟩ := List.mem_map.1 (List.mem_filter.1 he).1
    exact hs.groups id e' ((Table.get?_eq_some_iff _ _ _).2 hmem)

end Engine

end ExpenseLedger
