import ExpenseLedger.Proofs.Engine.Duration
import ExpenseLedger.Proofs.Engine.Independence
import ExpenseLedger.Proofs.Groups.Requests
import ExpenseLedger.Proofs.Share
import Mathlib.Data.Finset.Card
/-!
# Which expenses are accepted

An expense has to pass five checks (`Expense.Check`), and is refused for the first that it fails.
One that passes them all is recorded whenever ledger and directory are in service: nothing that the
recording of loans would refuse gets that far. Main statements:

* `Directory.terms_of_passes`, `Directory.terms_of_firstToFail`: what comes of the checks;
* `Directory.checkBatch_of_terms`: the loans of an accepted expense are accepted;
* `Engine.sharing_accepts`: sharing an expense as a whole.
-/

open ExpenseLedger.Task

namespace ExpenseLedger

/-! ## Who shares an expense -/

/-- The owner stands before all others, and these stand in ascending order. -/
def OwnerFirst (owner : UserId) (users : List UserId) : Prop :=
  users.Pairwise fun u v => v ≠ owner ∧ (u = owner ∨ u < v)

/-- Nobody is listed twice. -/
theorem OwnerFirst.nodup {owner : UserId} {users : List UserId} (h : OwnerFirst owner users) :
    users.Nodup := by
  refine h.imp fun {u v} huv heq => ?_
  subst heq
  rcases huv.2 with howner | hlt
  · exact huv.1 howner
  · exact OrderedKey.irrefl u hlt

namespace Directory

/-- The owner of a group and its members, among whom the owner may be as well. -/
def Entry.party (e : Entry) : Finset UserId := insert e.group.owner e.members.keys.toFinset

/-- All who share the expenses of a group, nobody if there is no such group. -/
def party (group : GroupId) (d : Directory) : Finset UserId :=
  (d.entries.get? group).elim ∅ Entry.party

/-- All who share the expenses of a group, as they are listed. -/
def Entry.sharers (e : Entry) : List UserId :=
  Engine.ownerThenMembers e.group.owner e.members.keys

/-- The owner is listed first. -/
theorem Entry.ownerFirst_sharers (e : Entry) : OwnerFirst e.group.owner e.sharers := by
  unfold sharers Engine.ownerThenMembers OwnerFirst
  refine List.pairwise_cons.2 ⟨fun v hv => ?_, ?_⟩
  · exact ⟨of_decide_eq_true (List.mem_filter.1 hv).2, .inl rfl⟩
  · rw [List.pairwise_filter]
    exact e.members.pairwise_keys.imp fun hlt _ hv => ⟨of_decide_eq_true hv, .inr hlt⟩

/-- The list leaves nobody out and adds nobody. -/
theorem Entry.toFinset_sharers (e : Entry) : e.sharers.toFinset = e.party := by
  ext u
  unfold sharers party Engine.ownerThenMembers
  rw [List.mem_toFinset, List.mem_cons, List.mem_filter, Finset.mem_insert, List.mem_toFinset,
    decide_eq_true_eq]
  by_cases howner : u = e.group.owner
  · simp [howner]
  · simp [howner]

/-- Whoever shares is listed but for the one who is left out. -/
theorem Entry.toFinset_filter_sharers (e : Entry) (payer : UserId) :
    (e.sharers.filter fun u => u ≠ payer).toFinset = e.party.erase payer := by
  ext u
  rw [← e.toFinset_sharers, List.mem_toFinset, List.mem_filter, Finset.mem_erase,
    List.mem_toFinset, decide_eq_true_eq]
  exact and_comm

/-- The list is as long as there are users who share. -/
theorem Entry.length_sharers (e : Entry) : e.sharers.length = e.party.card := by
  rw [← e.toFinset_sharers, List.toFinset_card_of_nodup e.ownerFirst_sharers.nodup]

/-- Who is listed shares. -/
theorem Entry.mem_sharers (e : Entry) (user : UserId) : user ∈ e.sharers ↔ user ∈ e.party := by
  rw [← e.toFinset_sharers, List.mem_toFinset]

/-- The group exists, and these are all who share its expenses. -/
theorem party_of_get? {group : GroupId} {d : Directory} {e : Entry}
    (h : d.entries.get? group = some e) : d.party group = e.party := by
  unfold party
  rw [h]
  rfl

/-- What a directory in service lists for a group. -/
theorem sharers_of_not_failing (group : GroupId) (d : Directory) (h : d.failing = false) :
    d.sharers group = (d.entries.get? group).elim (.error (.unknownGroup group)) fun e =>
      .ok e.sharers := by
  unfold sharers
  rw [require_of_not_failing d group h]
  cases he : d.entries.get? group with
  | none => rfl
  | some e =>
    simp only [members, query, h, he, Bool.false_eq_true, if_false]
    rfl

end Directory

/-! ## The checks of an expense -/

namespace Expense

/-- What is checked of an expense. -/
inductive Check where
  /-- The amount lies within its bounds. -/
  | amount
  /-- The group exists. -/
  | group
  /-- The group has somebody beside the payer. -/
  | size
  /-- The payer belongs to the group. -/
  | membership
  /-- There is a share for everybody. -/
  | share

namespace Check

/-- The checks that come before. -/
def earlier : Check → List Check
  | amount => []
  | group => [amount]
  | size => [amount, group]
  | membership => [amount, group, size]
  | share => [amount, group, size, membership]

/-- The kind of errors that report a failed check. -/
def kind : Check → ErrorKind
  | amount | size | share => .badRequest
  | group => .notFound
  | membership => .forbidden

variable (payer : UserId) (total : Int) (id : GroupId) (d : Directory)

/-- What it takes to pass a check. -/
def Passes : Check → Prop
  | amount => 1 ≤ total ∧ total ≤ Amount.limit
  | group => d.entries.contains id = true
  | size => 2 ≤ (d.party id).card
  | membership => payer ∈ d.party id
  | share => ((d.party id).card : Int) ≤ 2 * total

/-- The error that reports a failed check. -/
def error : Check → Error
  | amount => if total ≤ 0 then .expenseNotPositive total else .expenseTooLarge total
  | group => .unknownGroup id
  | size => .groupTooSmall
  | membership => .payerNotMember
  | share => .shareVanishes total (d.party id).card

/-- The check fails after all earlier ones have been passed. -/
def FirstToFail (c : Check) : Prop :=
  (∀ b ∈ c.earlier, b.Passes payer total id d) ∧ ¬ c.Passes payer total id d

/-- A failed check is reported by an error of its kind. -/
theorem kind_error (c : Check) : (c.error total id d).kind = c.kind := by
  cases c with
  | amount =>
    by_cases hleast : total ≤ 0
    · simp only [error, if_pos hleast]
      rfl
    · simp only [error, if_neg hleast]
      rfl
  | group => rfl
  | size => rfl
  | membership => rfl
  | share => rfl

/-- All checks are passed, or one of them is the first to fail. -/
theorem passes_or_exists_firstToFail :
    (∀ c : Check, c.Passes payer total id d) ∨ ∃ c, FirstToFail payer total id d c := by
  by_cases hamount : amount.Passes payer total id d
  swap
  · exact .inr ⟨amount, by simp [earlier], hamount⟩
  by_cases hgroup : group.Passes payer total id d
  swap
  · exact .inr ⟨group, by simp [earlier, hamount], hgroup⟩
  by_cases hsize : size.Passes payer total id d
  swap
  · exact .inr ⟨size, by simp [earlier, hamount, hgroup], hsize⟩
  by_cases hmembership : membership.Passes payer total id d
  swap
  · exact .inr ⟨membership, by simp [earlier, hamount, hgroup, hsize], hmembership⟩
  by_cases hshare : share.Passes payer total id d
  swap
  · exact .inr ⟨share, by simp [earlier, hamount, hgroup, hsize, hmembership], hshare⟩
  refine .inl fun c => ?_
  cases c with
  | amount => exact hamount
  | group => exact hgroup
  | size => exact hsize
  | membership => exact hmembership
  | share => exact hshare

end Check

end Expense

/-! ## Splitting between those who share -/

namespace Engine

variable {payer : UserId} {total : Int} {users : List UserId}

/-- Who is left out of a list is not on it, or the list gets shorter. -/
theorem length_filter_ne_eq_iff (payer : UserId) (users : List UserId) :
    (users.filter fun u => u ≠ payer).length = users.length ↔ payer ∉ users := by
  rw [List.length_filter_eq_length_iff]
  simp only [ne_eq, decide_not, Bool.not_eq_eq_eq_not, Bool.not_true, decide_eq_false_iff_not]
  exact ⟨fun h hmem => h payer hmem rfl, fun h u hu heq => h (heq ▸ hu)⟩

/-- Nothing is split between fewer than two. -/
theorem split_of_length_lt (hsize : users.length < 2) :
    split payer total users = .error .groupTooSmall := if_pos hsize

/-- Nothing is split for a payer who does not share. -/
theorem split_of_not_mem (hsize : 2 ≤ users.length) (hpayer : payer ∉ users) :
    split payer total users = .error .payerNotMember := by
  unfold split
  rw [if_neg (by omega), if_pos ((length_filter_ne_eq_iff payer users).2 hpayer)]

/-- What passes is split by shares, unless these are rounded to nothing. -/
theorem split_of_mem (hsize : 2 ≤ users.length) (hpayer : payer ∈ users) (htotal : 0 ≤ total) :
    split payer total users =
      if (users.length : Int) ≤ 2 * total then
        .ok (users.filter fun u => u ≠ payer, share total users.length)
      else .error (.shareVanishes total users.length) := by
  have hpos : 0 < share total users.length ↔ (users.length : Int) ≤ 2 * total :=
    share_pos_iff (by omega) htotal
  unfold split
  rw [if_neg (by omega), if_neg fun h => (length_filter_ne_eq_iff payer users).1 h hpayer]
  by_cases hshare : (users.length : Int) ≤ 2 * total
  · rw [if_pos hshare, if_neg (not_le.2 (hpos.2 hshare))]
  · rw [if_neg hshare, if_pos (not_lt.1 fun h => hshare (hpos.1 h))]

end Engine

namespace Directory

open Expense

variable {payer : UserId} {total : Int} {group : GroupId} {d : Directory}

/-- An amount within the bounds passes its check. -/
theorem checkExpense_of_passes (h : Check.amount.Passes payer total group d) :
    Engine.checkExpense total = .ok () := by
  obtain ⟨hleast, hmost⟩ := h
  unfold Engine.checkExpense
  rw [if_neg (by omega), if_neg (by omega)]

/-- What comes of the checks of an amount within the bounds. -/
theorem terms_of_amount (h : d.failing = false)
    (hamount : Check.amount.Passes payer total group d) :
    d.terms payer total group =
      (d.entries.get? group).elim (.error (.unknownGroup group)) fun e =>
        Engine.split payer total e.sharers := by
  unfold terms
  rw [checkExpense_of_passes hamount, sharers_of_not_failing group d h]
  cases d.entries.get? group with
  | none => rfl
  | some e => rfl

/-- **Who passes all checks gets shares.** -/
theorem terms_of_passes (h : d.failing = false)
    (hpasses : ∀ c : Check, c.Passes payer total group d) :
    ∃ e, d.entries.get? group = some e ∧ d.terms payer total group =
      .ok (e.sharers.filter fun u => u ≠ payer, share total (d.party group).card) := by
  obtain ⟨e, he⟩ := (Table.contains_iff _ _).1 (hpasses .group)
  have hparty := party_of_get? he
  have hleast : 1 ≤ total := (hpasses .amount).1
  have hsize : 2 ≤ (d.party group).card := hpasses .size
  have hpayer : payer ∈ d.party group := hpasses .membership
  have hshare : ((d.party group).card : Int) ≤ 2 * total := hpasses .share
  rw [hparty, ← e.mem_sharers] at hpayer
  rw [hparty, ← e.length_sharers] at hsize hshare
  refine ⟨e, he, ?_⟩
  rw [terms_of_amount h (hpasses .amount), he, Option.elim_some, hparty,
    Engine.split_of_mem hsize hpayer (by omega), if_pos hshare, e.length_sharers]

/-- **Who fails a check is told so, for the first.** -/
theorem terms_of_firstToFail (h : d.failing = false) {c : Check}
    (hc : Check.FirstToFail payer total group d c) :
    d.terms payer total group = .error (c.error total group d) := by
  obtain ⟨hearlier, hfails⟩ := hc
  -- From the third check on there is a group, whose users are known.
  have hentry (hexists : Check.group.Passes payer total group d) :
      ∃ e, d.entries.get? group = some e ∧ d.party group = e.party := by
    obtain ⟨e, he⟩ := (Table.contains_iff _ _).1 hexists
    exact ⟨e, he, party_of_get? he⟩
  cases c with
  | amount =>
    have hbounds : ¬ (1 ≤ total ∧ total ≤ Amount.limit) := hfails
    unfold terms Engine.checkExpense Check.error
    by_cases hleast : total ≤ 0
    · rw [if_pos hleast, if_pos hleast]
    · rw [if_neg hleast, if_neg hleast, if_pos (by omega)]
  | group =>
    have hnone : d.entries.get? group = none := by
      rw [Option.eq_none_iff_forall_ne_some]
      exact fun e he => hfails ((Table.contains_iff _ _).2 ⟨e, he⟩)
    rw [terms_of_amount h (hearlier .amount (by simp [Check.earlier])), hnone]
    rfl
  | size =>
    obtain ⟨e, he, hparty⟩ := hentry (hearlier .group (by simp [Check.earlier]))
    have hsize : ¬ 2 ≤ (d.party group).card := hfails
    rw [hparty, ← e.length_sharers] at hsize
    rw [terms_of_amount h (hearlier .amount (by simp [Check.earlier])), he]
    exact Engine.split_of_length_lt (by omega)
  | membership =>
    obtain ⟨e, he, hparty⟩ := hentry (hearlier .group (by simp [Check.earlier]))
    have hsize : 2 ≤ (d.party group).card := hearlier .size (by simp [Check.earlier])
    have hpayer : payer ∉ d.party group := hfails
    rw [hparty, ← e.length_sharers] at hsize
    rw [hparty, ← e.mem_sharers] at hpayer
    rw [terms_of_amount h (hearlier .amount (by simp [Check.earlier])), he]
    exact Engine.split_of_not_mem hsize hpayer
  | share =>
    obtain ⟨e, he, hparty⟩ := hentry (hearlier .group (by simp [Check.earlier]))
    have hamount := hearlier .amount (by simp [Check.earlier])
    have hsize : 2 ≤ (d.party group).card := hearlier .size (by simp [Check.earlier])
    have hpayer : payer ∈ d.party group := hearlier .membership (by simp [Check.earlier])
    have hshare : ¬ ((d.party group).card : Int) ≤ 2 * total := hfails
    have hleast : 1 ≤ total := hamount.1
    unfold Check.error
    rw [hparty, ← e.length_sharers] at hsize hshare ⊢
    rw [hparty, ← e.mem_sharers] at hpayer
    rw [terms_of_amount h hamount, he, Option.elim_some,
      Engine.split_of_mem hsize hpayer (by omega), if_neg hshare]

/-- **The loans of an accepted expense are accepted.** There are debtors, each of them once and none
of them the payer, and the share is neither too small nor too large for a loan. -/
theorem checkBatch_of_terms {debtors : List UserId} {amount : Int}
    (h : d.terms payer total group = .ok (debtors, amount)) :
    Engine.checkBatch payer amount debtors = .ok () := by
  -- A directory that is out of service gives no terms.
  have hservice : d.failing = false := by
    rw [← Bool.not_eq_true]
    intro hfailing
    have hsharers : d.sharers group = .error .groupsUnavailable := by
      simp [sharers, require, find, query, hfailing]
    unfold terms at h
    rw [hsharers] at h
    cases hamount : Engine.checkExpense total with
    | error e => simp [hamount] at h
    | ok _ => simp [hamount] at h
  rcases Check.passes_or_exists_firstToFail payer total group d with hpasses | ⟨c, hc⟩
  swap
  · rw [terms_of_firstToFail hservice hc] at h
    contradiction
  obtain ⟨e, he, hterms⟩ := terms_of_passes hservice hpasses
  rw [hterms] at h
  cases h
  have hparty := party_of_get? he
  obtain ⟨hleast, hmost⟩ : 1 ≤ total ∧ total ≤ Amount.limit := hpasses .amount
  have hsize : 2 ≤ (d.party group).card := hpasses .size
  have hshare : ((d.party group).card : Int) ≤ 2 * total := hpasses .share
  refine (Engine.checkBatch_eq_ok_iff _ _ _).2 ⟨fun hnil => ?_, ?_, fun l hl => ?_⟩
  · -- Whoever shares is the payer, but there are two who do.
    have hone : ∀ u ∈ d.party group, u = payer := by
      intro u hu
      rw [hparty, ← e.mem_sharers] at hu
      simpa using List.filter_eq_nil_iff.1 hnil u hu
    have hcard := Finset.card_le_one.2 fun u hu v hv => (hone u hu).trans (hone v hv).symm
    omega
  · exact e.ownerFirst_sharers.nodup.filter _
  · obtain ⟨debtor, hdebtor, rfl⟩ := List.mem_map.1 hl
    have hle : share total (d.party group).card ≤ total := share_le (by omega) (by omega)
    refine ⟨(share_pos_iff (by omega) (by omega)).2 hshare, hle.trans hmost, fun heq => ?_⟩
    exact of_decide_eq_true (List.mem_filter.1 hdebtor).2 heq.symm

end Directory

/-! ## Sharing an expense -/

/-- What passes the check is recorded by a ledger in service. -/
theorem Store.lend_of_checkBatch {lender : UserId} {amount : Int} {debtors : List UserId}
    {s : Store} (hservice : s.ledger.failing = false)
    (hcheck : Engine.checkBatch lender amount debtors = .ok ()) :
    ∃ batch, (s.lend lender amount debtors).1 = .ok batch ∧
      batch.map LoanRecord.toLoan = Engine.loansTo lender amount debtors ∧
      (s.lend lender amount debtors).2.ledger =
        { s.ledger with records := s.ledger.records ++ batch } := by
  obtain ⟨-, -, hvalid⟩ := (Engine.checkBatch_eq_ok_iff lender amount debtors).1 hcheck
  have hloans := (Loan.checkAll_eq_ok_iff (Engine.loansTo lender amount debtors)).2 hvalid
  refine ⟨_, ?_, Ledger.map_toLoan_recordAll s.supply.next s.supply.now _, ?_⟩
  · simp only [lend, hcheck, append, Ledger.append, hservice, hloans, Bool.false_eq_true, if_false]
  · simp only [lend, hcheck, append, Ledger.append, hservice, hloans, Bool.false_eq_true, if_false]

namespace Engine

open Expense (Check)
open Expense.Check (passes_or_exists_firstToFail)

variable (w : Store.Waits) (settings : EngineSettings)

/-- Finding a group that must exist takes the wait of the directory. -/
theorem takes_requireGroup (group : GroupId) (s : Store) :
    Takes (requireGroup (Store.backends w) group) s w.findGroup (s.directory.require group) s := by
  have hfind := Store.takes_after w.findGroup (Store.ask (Directory.find group)) s
  change Takes ((Store.backends w).findGroup group) s w.findGroup (s.directory.find group) s
    at hfind
  unfold requireGroup Directory.require
  generalize s.directory.find group = found at hfind ⊢
  rcases found with e | _ | g
  · exact hfind.bind_instant (.pure _ s)
  · exact hfind.bind_instant (.pure _ s)
  · exact hfind.bind_instant (.pure _ s)

/-- Finding all who share takes the wait of the directory. -/
theorem takes_resolveMembers (group : GroupId) (s : Store) :
    Takes (resolveMembers (Store.backends w) group) s w.findGroup
      (s.directory.sharers group) s := by
  have hrequire := takes_requireGroup w group s
  unfold resolveMembers Directory.sharers
  cases hfound : s.directory.require group with
  | error e =>
    rw [hfound] at hrequire
    exact hrequire.bind_instant (.pure _ s)
  | ok found =>
    rw [hfound] at hrequire
    have hmembers : Takes ((Store.backends w).members group) s 0 (s.directory.members group) s :=
      Takes.act (Store.ask (Directory.members group)) s
    refine hrequire.bind_instant ?_
    dsimp only
    cases hlist : s.directory.members group with
    | error e =>
      rw [hlist] at hmembers
      exact hmembers.bind_instant (.pure _ s)
    | ok members =>
      rw [hlist] at hmembers
      exact hmembers.bind_instant (.pure _ s)

/-- An expense that is refused leaves everything as it is. -/
theorem takes_shareExpense_refused (payer : UserId) (total : Int) (group : GroupId)
    (e : Engine Store) (err : Error)
    (h : e.store.directory.terms payer total group = .error err) :
    ∃ d, Takes (shareExpense (Store.backends w) settings payer total group) e d (.error err) e := by
  have hresolve : Takes (onStore (resolveMembers (Store.backends w) group)) e w.findGroup
      (e.store.directory.sharers group) e := (takes_resolveMembers w group e.store).focus
  unfold Directory.terms at h
  unfold shareExpense
  cases hamount : checkExpense total with
  | error err' =>
    rw [hamount] at h
    cases h
    exact ⟨0, .pure _ e⟩
  | ok _ =>
    rw [hamount] at h
    dsimp only at h ⊢
    cases hsharers : e.store.directory.sharers group with
    | error err' =>
      rw [hsharers] at h hresolve
      cases h
      exact ⟨w.findGroup, hresolve.bind_instant (.pure _ e)⟩
    | ok members =>
      rw [hsharers] at h hresolve
      dsimp only at h
      refine ⟨w.findGroup, hresolve.bind_instant ?_⟩
      dsimp only
      rw [h]
      exact .pure _ e

/-- Who passes all checks shares the expense. -/
theorem accepted_of_passes {payer : UserId} {total : Int} {group : GroupId} {e : Engine Store}
    (hledger : e.store.ledger.failing = false) (hgroups : e.store.directory.failing = false)
    (hpasses : ∀ c : Check, c.Passes payer total group e.store.directory) :
    ∃ entry x, e.store.directory.entries.get? group = some entry ∧
      (shareExpense (Store.backends w) settings payer total group none e).outcome.value? =
        some (.ok x) ∧
      x.group = group ∧ x.payer = payer ∧ x.total = total ∧
      x.debtors = entry.sharers.filter (fun u => u ≠ payer) ∧
      x.share = share total (e.store.directory.party group).card ∧
      x.loans.map LoanRecord.toLoan = loansTo payer x.share x.debtors ∧
      (shareExpense (Store.backends w) settings payer total group none e).state.store.ledger =
        { e.store.ledger with records := e.store.ledger.records ++ x.loans } := by
  obtain ⟨entry, hentry, hterms⟩ := Directory.terms_of_passes hgroups hpasses
  obtain ⟨batch, hlent, hbatch, hrecords⟩ :=
    Store.lend_of_checkBatch hledger (Directory.checkBatch_of_terms hterms)
  obtain ⟨hvalue, hstate⟩ :=
    shareExpense_eq_share (Store.realizes_backends w) settings payer total group e
  unfold Store.share at hvalue hstate
  rw [hterms] at hvalue hstate
  dsimp only at hvalue hstate
  rw [hlent] at hvalue
  exact ⟨entry, _, hentry, hvalue, rfl, rfl, rfl, rfl, rfl, hbatch, hstate.trans hrecords⟩

/-- The first failed check is reported, and nothing has changed. -/
theorem refused_of_firstToFail {payer : UserId} {total : Int} {group : GroupId} {e : Engine Store}
    {c : Check} (hgroups : e.store.directory.failing = false)
    (hc : c.FirstToFail payer total group e.store.directory) :
    (shareExpense (Store.backends w) settings payer total group none e).outcome.value? =
        some (.error (c.error total group e.store.directory)) ∧
      (shareExpense (Store.backends w) settings payer total group none e).state = e := by
  obtain ⟨_, htakes⟩ := takes_shareExpense_refused w settings payer total group e _
    (Directory.terms_of_firstToFail hgroups hc)
  rw [htakes.run]
  exact ⟨rfl, rfl⟩

/-- **Which expenses are accepted, and what comes of them.** Ledger and directory are in service;
the cache may be in any state. Sharing an expense succeeds exactly if the amount lies within its
bounds, the group exists and is shared by two users at least, of whom the payer is one, and there is
half a unit for each of them. Then all others owe the payer the nearest share, which is recorded in
the order in which they are listed, the owner first. Otherwise the first failed check is reported,
and nothing has changed. Loans of a refused kind never get as far as the ledger. -/
theorem sharing_accepts (payer : UserId) (total : Int) (group : GroupId) (e : Engine Store)
    (hledger : e.store.ledger.failing = false) (hgroups : e.store.directory.failing = false) :
    let d := e.store.directory
    let ran := shareExpense (Store.backends w) settings payer total group none e
    ((∃ x, ran.outcome.value? = some (.ok x)) ↔
      (1 ≤ total ∧ total ≤ Amount.limit) ∧ d.entries.contains group = true ∧
        2 ≤ (d.party group).card ∧ payer ∈ d.party group ∧
        ((d.party group).card : Int) ≤ 2 * total) ∧
    (∀ x, ran.outcome.value? = some (.ok x) →
      x.group = group ∧ x.payer = payer ∧ x.total = total ∧
      x.debtors.toFinset = (d.party group).erase payer ∧
      (∃ entry, d.entries.get? group = some entry ∧ OwnerFirst entry.group.owner x.debtors) ∧
      IsNearestShare total (d.party group).card x.share ∧
      x.loans.map LoanRecord.toLoan = x.debtors.map (fun debtor => ⟨payer, debtor, x.share⟩) ∧
      ran.state.store.ledger =
        { e.store.ledger with records := e.store.ledger.records ++ x.loans }) ∧
    ((¬ ∃ x, ran.outcome.value? = some (.ok x)) →
      ∃ c, Expense.Check.FirstToFail payer total group d c ∧
        ran.outcome.value? = some (.error (c.error total group d)) ∧
        (c.error total group d).kind = c.kind ∧ ran.state = e) ∧
    ∀ debtors amount, d.terms payer total group = .ok (debtors, amount) →
      checkBatch payer amount debtors = .ok () ∧
        Loan.checkAll (loansTo payer amount debtors) = .ok () := by
  intro d ran
  -- Passing all checks and failing one are told apart by the result.
  have haccepted (x : Expense) (hx : ran.outcome.value? = some (.ok x)) :
      ∀ c : Check, c.Passes payer total group d := by
    rcases passes_or_exists_firstToFail payer total group d with hpasses | ⟨c, hc⟩
    · exact hpasses
    · obtain ⟨hrefused, -⟩ := refused_of_firstToFail w settings hgroups hc
      cases hx.symm.trans hrefused
  refine ⟨⟨?_, ?_⟩, fun x hx => ?_, fun hnot => ?_, fun debtors amount hterms => ?_⟩
  · rintro ⟨x, hx⟩
    have hpasses := haccepted x hx
    exact ⟨hpasses .amount, hpasses .group, hpasses .size, hpasses .membership, hpasses .share⟩
  · rintro ⟨hamount, hgroup, hsize, hmembership, hshare⟩
    have hpasses : ∀ c : Check, c.Passes payer total group d := by
      intro c
      cases c with
      | amount => exact hamount
      | group => exact hgroup
      | size => exact hsize
      | membership => exact hmembership
      | share => exact hshare
    obtain ⟨_, x, -, hx, -⟩ := accepted_of_passes w settings hledger hgroups hpasses
    exact ⟨x, hx⟩
  · have hpasses := haccepted x hx
    obtain ⟨entry, y, hentry, hy, hgroup, hpayer, htotal, hdebtors, hshare, hloans, hrecords⟩ :=
      accepted_of_passes w settings hledger hgroups hpasses
    obtain rfl : x = y := by
      cases hx.symm.trans hy
      rfl
    have hsize : 2 ≤ (d.party group).card := hpasses .size
    refine ⟨hgroup, hpayer, htotal, ?_, ⟨entry, hentry, ?_⟩, ?_, hloans, hrecords⟩
    · rw [hdebtors, Directory.party_of_get? hentry, entry.toFinset_filter_sharers]
    · rw [hdebtors]
      exact entry.ownerFirst_sharers.filter _
    · exact (isNearestShare_iff (by omega)).2 hshare
  · rcases passes_or_exists_firstToFail payer total group d with hpasses | ⟨c, hc⟩
    · obtain ⟨_, x, -, hx, -⟩ := accepted_of_passes w settings hledger hgroups hpasses
      exact absurd ⟨x, hx⟩ hnot
    · obtain ⟨hrefused, hsame⟩ := refused_of_firstToFail w settings hgroups hc
      exact ⟨c, hc, hrefused, c.kind_error total group d, hsame⟩
  · have hcheck := Directory.checkBatch_of_terms hterms
    obtain ⟨-, -, hvalid⟩ := (checkBatch_eq_ok_iff payer amount debtors).1 hcheck
    exact ⟨hcheck, (Loan.checkAll_eq_ok_iff _).2 hvalid⟩

namespace Sample

/-- The user with a number. -/
def user (n : Nat) : UserId := ⟨Id.ofNat n⟩

/-- The identifier of the only group. -/
def household : GroupId := ⟨Id.ofNat 7⟩

/-- Four users share the expenses of a group. Its owner, the third, is stored as a member too. -/
def sharedHome : Directory :=
  ⟨Table.empty.insert household ⟨⟨household, "home", user 3, ⟨1700000000, 0⟩⟩,
    KeySet.addAll Table.empty [user 4, user 3, user 2, user 1]⟩, false⟩

/-- Nothing has been recorded. -/
def newEngine : Engine Store :=
  ⟨⟨Ledger.empty, Cache.empty, sharedHome, ⟨100, ⟨1700000000, 0⟩⟩⟩, Counters.zero⟩

end Sample

open ExpenseLedger.Engine.Sample

/-- Half a unit for each of the four is enough. -/
theorem sharing_accepts_boundary :
    newEngine.store.ledger.failing = false ∧ newEngine.store.directory.failing = false ∧
    ∃ x, (shareExpense (Store.backends Store.Waits.none) EngineSettings.standard (user 2) 2
        household none newEngine).outcome.value? = some (.ok x) ∧
      x.debtors.toFinset = {user 3, user 1, user 4} ∧ x.share = 1 := by
  have haccepts := sharing_accepts Store.Waits.none EngineSettings.standard (user 2) 2 household
    newEngine rfl rfl
  obtain ⟨x, hx⟩ := haccepts.1.2 (by decide +kernel)
  obtain ⟨-, -, -, hdebtors, -, hshare, -⟩ := haccepts.2.1 x hx
  refine ⟨rfl, rfl, x, hx, hdebtors.trans (by decide +kernel), ?_⟩
  have hcard : (newEngine.store.directory.party household).card = 4 := by decide +kernel
  rw [hcard, isNearestShare_iff (by decide)] at hshare
  exact hshare

end Engine

end ExpenseLedger
