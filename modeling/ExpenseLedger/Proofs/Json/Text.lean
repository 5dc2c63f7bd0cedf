import ExpenseLedger.Proofs.Json.Tokens
/-!
# Written trees are read back

The tokens of a tree bring reading, wherever a value may stand, to the point where that tree is
complete, with the same lists and objects open as before. Main statement:

* `Json.read?_write`: a tree whose numbers are those of integers is read back from its text.
-/

namespace ExpenseLedger.Json

/-! ## One tree after the other -/

/-- A value may stand here: reading goes on as at the beginning of a value, with these lists and
objects open. A closing bracket may be allowed besides. -/
def Progress.Awaits (p : Progress) (outer : List Frame) : Prop :=
  ∀ t, t ≠ .closeList → p.step t = startValue outer t

/-- Where a value must follow. -/
theorem Progress.awaits_value (outer : List Frame) : (value outer).Awaits outer := fun _ _ => rfl

/-- Where a list has been opened. -/
theorem Progress.awaits_listStart (outer : List Frame) :
    (listStart outer).Awaits (.list [] :: outer) := by
  intro t ht
  cases t with
  | closeList => exact absurd rfl ht
  | openList => rfl
  | openObject => rfl
  | closeObject => rfl
  | comma => rfl
  | colon => rfl
  | null => rfl
  | bool b => rfl
  | number n => rfl
  | string text => rfl

mutual

/-- **The tokens of a value are read as the value.** -/
theorem foldlM_tokens : ∀ (v : Json) (outer : List Frame) (p : Progress), p.Awaits outer →
    v.tokens.foldlM Progress.step p = some (.done v outer)
  | null, outer, p, hp => by
    change p.step .null >>= _ = _
    rw [hp _ (by decide)]
    rfl
  | bool b, outer, p, hp => by
    change p.step (.bool b) >>= _ = _
    rw [hp _ (by simp)]
    rfl
  | number n, outer, p, hp => by
    change p.step (.number n) >>= _ = _
    rw [hp _ (by simp)]
    rfl
  | string t, outer, p, hp => by
    change p.step (.string t) >>= _ = _
    rw [hp _ (by simp)]
    rfl
  | list items, outer, p, hp => by
    change p.step .openList >>= _ = _
    rw [hp _ (by decide)]
    change (itemTokens items).foldlM Progress.step (.listStart outer) = _
    by_cases hitems : items = []
    · rw [hitems]
      rfl
    · exact foldlM_itemTokens items hitems [] outer _ (Progress.awaits_listStart outer)
  | object members, outer, p, hp => by
    change p.step .openObject >>= _ = _
    rw [hp _ (by decide)]
    change (memberTokens members).foldlM Progress.step (.objectStart outer) = _
    by_cases hmembers : members = []
    · rw [hmembers]
      rfl
    · exact foldlM_memberTokens members hmembers [] outer _ fun _ => rfl

/-- The tokens of items are read as the items, after those that have been read. -/
theorem foldlM_itemTokens : ∀ items : List Json, items ≠ [] →
    ∀ (before : List Json) (outer : List Frame) (p : Progress),
    p.Awaits (.list before :: outer) →
    (itemTokens items).foldlM Progress.step p =
      some (.done (list (before.reverse ++ items)) outer)
  | [], hne, _, _, _, _ => absurd rfl hne
  | [v], _, before, outer, p, hp => by
    change (v.tokens ++ [Token.closeList]).foldlM Progress.step p = _
    rw [List.foldlM_append, foldlM_tokens v _ p hp]
    change some (Progress.done (list (v :: before).reverse) outer) = _
    rw [List.reverse_cons]
  | v :: v' :: vs, _, before, outer, p, hp => by
    change (v.tokens ++ Token.comma :: itemTokens (v' :: vs)).foldlM Progress.step p = _
    rw [List.foldlM_append, foldlM_tokens v _ p hp]
    change (itemTokens (v' :: vs)).foldlM Progress.step (.value (.list (v :: before) :: outer)) = _
    rw [foldlM_itemTokens (v' :: vs) (by simp) (v :: before) outer _ (Progress.awaits_value _),
      List.reverse_cons, List.append_assoc, List.singleton_append]

/-- The tokens of members are read as the members, after those that have been read. -/
theorem foldlM_memberTokens : ∀ members : List (Option String × Json), members ≠ [] →
    ∀ (before : List (Option String × Json)) (outer : List Frame) (p : Progress),
    (∀ k, p.step (.string k) = some (.colon before k outer)) →
    (memberTokens members).foldlM Progress.step p =
      some (.done (object (before.reverse ++ members)) outer)
  | [], hne, _, _, _, _ => absurd rfl hne
  | [(k, v)], _, before, outer, p, hp => by
    change p.step (.string k) >>= _ = _
    rw [hp k]
    change (v.tokens ++ [Token.closeObject]).foldlM Progress.step
      (.value (.object before k :: outer)) = _
    rw [List.foldlM_append, foldlM_tokens v _ _ (Progress.awaits_value _)]
    change some (Progress.done (object ((k, v) :: before).reverse) outer) = _
    rw [List.reverse_cons]
  | (k, v) :: m :: ms, _, before, outer, p, hp => by
    change p.step (.string k) >>= _ = _
    rw [hp k]
    change (v.tokens ++ Token.comma :: memberTokens (m :: ms)).foldlM Progress.step
      (.value (.object before k :: outer)) = _
    rw [List.foldlM_append, foldlM_tokens v _ _ (Progress.awaits_value _)]
    change (memberTokens (m :: ms)).foldlM Progress.step (.name ((k, v) :: before) outer) = _
    rw [foldlM_memberTokens (m :: ms) (by simp) ((k, v) :: before) outer _ fun _ => rfl,
      List.reverse_cons, List.append_assoc, List.singleton_append]

end

/-! ## Texts -/

/-- The tokens of a value make it up. -/
theorem ofTokens?_tokens (v : Json) : ofTokens? v.tokens = some v := by
  unfold ofTokens?
  rw [foldlM_tokens v [] _ (Progress.awaits_value [])]
  rfl

/-- **A tree whose numbers are those of integers is read back from its text.** -/
theorem read?_write (v : Json) (h : v.IsWhole) : read? v.write = some v := by
  unfold read? write
  rw [String.toList_ofList, (spells_tokens v h).tokenize]
  exact ofTokens?_tokens v

end ExpenseLedger.Json
