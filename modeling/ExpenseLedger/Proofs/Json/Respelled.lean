import ExpenseLedger.Proofs.Identifier.Respelled
import ExpenseLedger.Wire
/-!
# JSON with identifiers in other spellings

Two texts may have the same tokens but for strings that spell the same identifier. Then they are
read as trees that are the same but for such strings, and what the trees hold of users and amounts
is the same. Main statements:

* `Json.ofTokens?_respelled`: such tokens make up such trees;
* `Json.allFields?_respelled`: such trees have such fields.
-/

namespace ExpenseLedger.Json

/-! ## Trees -/

/-- Both strings are the same, or their texts spell the same identifier. -/
def TextRespelled : Option String → Option String → Prop := Option.Rel Text.Respelled

/-- Strings that are the same. -/
theorem TextRespelled.refl (t : Option String) : TextRespelled t t := by
  cases t with
  | none => exact .none
  | some s => exact .some (.inl rfl)

mutual

/-- Both trees are the same but for strings that spell the same identifier. -/
inductive Respelled : Json → Json → Prop where
  /-- The same. -/
  | same (v : Json) : Respelled v v
  /-- Strings. -/
  | string {t t' : Option String} (h : TextRespelled t t') : Respelled (string t) (string t')
  /-- Lists, item by item. -/
  | list {items items' : List Json} (h : List.Forall₂ Respelled items items') :
    Respelled (list items) (list items')
  /-- Objects, member by member. -/
  | object {members members' : List (Option String × Json)}
    (h : List.Forall₂ MemberRespelled members members') :
    Respelled (object members) (object members')

/-- Both members are the same but for strings that spell the same identifier. -/
inductive MemberRespelled : Option String × Json → Option String × Json → Prop where
  /-- The names and the values. -/
  | mk {k k' : Option String} {v v' : Json} (hname : TextRespelled k k')
    (hvalue : Respelled v v') : MemberRespelled (k, v) (k', v')

end

/-- Both tokens are the same, or strings that spell the same identifier. -/
inductive Token.Respelled : Token → Token → Prop where
  /-- The same. -/
  | same (t : Token) : Respelled t t
  /-- Strings. -/
  | string {k k' : Option String} (h : TextRespelled k k') : Respelled (string k) (string k')

/-! ## Reading -/

/-- Both are lists or objects that are open, the same but for spellings. -/
inductive Frame.Respelled : Frame → Frame → Prop where
  /-- Lists. -/
  | list {items items' : List Json} (h : List.Forall₂ Json.Respelled items items') :
    Respelled (list items) (list items')
  /-- Objects. -/
  | object {members members' : List (Option String × Json)} {k k' : Option String}
    (h : List.Forall₂ MemberRespelled members members') (hname : TextRespelled k k') :
    Respelled (object members k) (object members' k')

/-- What has been read is the same but for spellings, and so is what may follow. -/
inductive Progress.Respelled : Progress → Progress → Prop where
  /-- Before a value. -/
  | value {o o' : List Frame} (h : List.Forall₂ Frame.Respelled o o') :
    Respelled (value o) (value o')
  /-- After the opening of a list. -/
  | listStart {o o' : List Frame} (h : List.Forall₂ Frame.Respelled o o') :
    Respelled (listStart o) (listStart o')
  /-- After the opening of an object. -/
  | objectStart {o o' : List Frame} (h : List.Forall₂ Frame.Respelled o o') :
    Respelled (objectStart o) (objectStart o')
  /-- Before a name. -/
  | name {members members' : List (Option String × Json)} {o o' : List Frame}
    (hmembers : List.Forall₂ MemberRespelled members members')
    (h : List.Forall₂ Frame.Respelled o o') : Respelled (name members o) (name members' o')
  /-- After a name. -/
  | colon {members members' : List (Option String × Json)} {k k' : Option String}
    {o o' : List Frame} (hmembers : List.Forall₂ MemberRespelled members members')
    (hname : TextRespelled k k') (h : List.Forall₂ Frame.Respelled o o') :
    Respelled (colon members k o) (colon members' k' o')
  /-- After a value. -/
  | done {v v' : Json} {o o' : List Frame} (hvalue : Json.Respelled v v')
    (h : List.Forall₂ Frame.Respelled o o') : Respelled (done v o) (done v' o')

/-- The first token of a value. -/
theorem Progress.startValue_respelled {o o' : List Frame} {t t' : Token}
    (h : List.Forall₂ Frame.Respelled o o') (ht : Token.Respelled t t') :
    Option.Rel Respelled (startValue o t) (startValue o' t') := by
  cases ht with
  | string hk => exact .some (.done (.string hk) h)
  | same t =>
    cases t with
    | null => exact .some (.done (.same _) h)
    | bool b => exact .some (.done (.same _) h)
    | number n => exact .some (.done (.same _) h)
    | string k => exact .some (.done (.same _) h)
    | openList => exact .some (.listStart h)
    | openObject => exact .some (.objectStart h)
    | _ => exact .none

/-- **One more token.** -/
theorem Progress.Respelled.step {p p' : Progress} {t t' : Token} (hp : Progress.Respelled p p')
    (ht : Token.Respelled t t') : Option.Rel Progress.Respelled (p.step t) (p'.step t') := by
  -- Only strings are respelled, and whether a string may come next does not depend on its text.
  cases hp with
  | value h => exact startValue_respelled h ht
  | listStart h =>
    have hfirst := startValue_respelled (.cons (.list .nil) h) ht
    cases ht with
    | string hk => exact hfirst
    | same t =>
      cases t with
      | closeList => exact .some (.done (.same _) h)
      | _ => exact hfirst
  | objectStart h =>
    cases ht with
    | string hk => exact .some (.colon .nil hk h)
    | same t =>
      cases t with
      | closeObject => exact .some (.done (.same _) h)
      | string k => exact .some (.colon .nil (.refl k) h)
      | _ => exact .none
  | name hmembers h =>
    cases ht with
    | string hk => exact .some (.colon hmembers hk h)
    | same t =>
      cases t with
      | string k => exact .some (.colon hmembers (.refl k) h)
      | _ => exact .none
  | colon hmembers hname h =>
    cases ht with
    | string hk => exact .none
    | same t =>
      cases t with
      | colon => exact .some (.value (.cons (.object hmembers hname) h))
      | _ => exact .none
  | done hvalue h =>
    cases h with
    | nil => exact .none
    | cons hframe h =>
      cases hframe with
      | list hitems =>
        cases ht with
        | string hk => exact .none
        | same t =>
          cases t with
          | comma => exact .some (.value (.cons (.list (.cons hvalue hitems)) h))
          | closeList =>
            exact .some (.done (.list (List.rel_reverse (.cons hvalue hitems))) h)
          | _ => exact .none
      | object hmembers hname =>
        have hall := List.Forall₂.cons (MemberRespelled.mk hname hvalue) hmembers
        cases ht with
        | string hk => exact .none
        | same t =>
          cases t with
          | comma => exact .some (.name hall h)
          | closeObject => exact .some (.done (.object (List.rel_reverse hall)) h)
          | _ => exact .none

/-- All tokens. -/
theorem Progress.Respelled.foldlM_step {ts ts' : List Token}
    (h : List.Forall₂ Token.Respelled ts ts') {p p' : Progress} (hp : Progress.Respelled p p') :
    Option.Rel Progress.Respelled (ts.foldlM Progress.step p) (ts'.foldlM Progress.step p') := by
  induction h generalizing p p' with
  | nil => exact .some hp
  | cons ht _ ih => exact rel_bind (hp.step ht) fun _ _ hq => ih hq

/-- **Tokens that are the same but for spellings make up trees that are.** -/
theorem ofTokens?_respelled {ts ts' : List Token} (h : List.Forall₂ Token.Respelled ts ts') :
    Option.Rel Respelled (ofTokens? ts) (ofTokens? ts') := by
  refine rel_bind (Progress.Respelled.foldlM_step h (.value .nil)) fun p p' hp => ?_
  cases hp with
  | done hvalue h =>
    cases h with
    | nil => exact .some hvalue
    | cons _ _ => exact .none
  | _ => exact .none

/-! ## Fields -/

/-- Names of fields are not respelled. -/
theorem TextRespelled.eq_some_iff {k k' : Option String} (h : TextRespelled k k') {name : String}
    (hname : name.length < 32) : k = some name ↔ k' = some name := by
  cases h with
  | none => rfl
  | some h =>
    rw [Option.some.injEq, Option.some.injEq]
    exact h.eq_iff hname

/-- The values of a name. -/
theorem valuesOf_respelled {name : String} (hname : name.length < 32)
    {members members' : List (Option String × Json)}
    (h : List.Forall₂ MemberRespelled members members') :
    List.Forall₂ Respelled (valuesOf name members) (valuesOf name members') := by
  refine List.rel_filterMap ?_ h
  rintro _ _ ⟨hk, hv⟩
  rename_i k k' v v'
  dsimp only
  by_cases hfound : k = some name
  · rw [if_pos hfound, if_pos ((hk.eq_some_iff hname).1 hfound)]
    exact .some hv
  · rw [if_neg hfound, if_neg fun h => hfound ((hk.eq_some_iff hname).2 h)]
    exact .none

/-- The members of an object have the same names with text. -/
theorem all_isSome_respelled {members members' : List (Option String × Json)}
    (h : List.Forall₂ MemberRespelled members members') :
    (members.all fun m => m.1.isSome) = members'.all fun m => m.1.isSome := by
  induction h with
  | nil => rfl
  | cons hm _ ih =>
    obtain ⟨hk, -⟩ := hm
    rw [List.all_cons, List.all_cons, ih]
    cases hk with
    | none => rfl
    | some h => rfl

/-- The values, if there is exactly one. -/
def sole? : List Json → Option (List Json)
  | [v] => some [v]
  | _ => none

/-- Of values that are the same but for spellings, there is one on both sides or on neither. -/
theorem sole?_respelled {vs vs' : List Json} (h : List.Forall₂ Respelled vs vs') :
    Option.Rel (List.Forall₂ Respelled) (sole? vs) (sole? vs') := by
  rcases h with _ | ⟨hv, _ | ⟨hw, hvs⟩⟩
  · exact .none
  · exact .some (.cons hv .nil)
  · exact .none

/-- The value of one field of an object. -/
theorem allFields?_object (name : String) (members : List (Option String × Json)) :
    (object members).allFields? [name] =
      if members.all fun m => m.1.isSome then sole? (valuesOf name members) else none := by
  change ((fieldsOfObject? [name] members).bind fun vs => vs.mapM id) = _
  unfold fieldsOfObject? field?
  split
  · rw [List.mapM_cons, List.mapM_nil]
    rcases valuesOf name members with _ | ⟨v, _ | ⟨w, vs⟩⟩
    · rfl
    · rfl
    · rfl
  · rfl

/-- The value of one field in a list. -/
theorem allFields?_list (name : String) (items : List Json) :
    (list items).allFields? [name] = sole? items := by
  rcases items with _ | ⟨v, _ | ⟨w, vs⟩⟩
  · rfl
  · rfl
  · change ((if vs.length + 1 + 1 = 1 then some ((v :: w :: vs).map some) else none).bind
      fun vs => vs.mapM id) = none
    rw [if_neg (by omega)]
    rfl

/-- **Trees that are the same but for spellings have a field that is.** -/
theorem allFields?_respelled {name : String} (hname : name.length < 32) {j j' : Json}
    (h : Respelled j j') :
    Option.Rel (List.Forall₂ Respelled) (j.allFields? [name]) (j'.allFields? [name]) := by
  cases h with
  | same =>
    cases j.allFields? [name] with
    | none => exact .none
    | some vs => exact .some (List.forall₂_same.2 fun v _ => .same v)
  | string h => exact .none
  | list h =>
    rw [allFields?_list, allFields?_list]
    exact sole?_respelled h
  | object h =>
    rw [allFields?_object, allFields?_object, all_isSome_respelled h]
    split
    · exact sole?_respelled (valuesOf_respelled hname h)
    · exact .none

/-! ## Users and amounts -/

/-- Users are read from either spelling. -/
theorem ofJson?_user_of_respelled {j j' : Json} (h : Respelled j j') :
    (ofJson? j : Option UserId) = ofJson? j' := by
  cases h with
  | same v => rfl
  | string h =>
    cases h with
    | none => rfl
    | some h => exact UserId.ofText?_eq_of_respelled h
  | list h => rfl
  | object h => rfl

/-- Lists of users are read from either spelling. -/
theorem ofJson?_users_of_respelled {j j' : Json} (h : Respelled j j') :
    (ofJson? j : Option (List UserId)) = ofJson? j' := by
  cases h with
  | same v => rfl
  | string h => rfl
  | object h => rfl
  | @list items items' h =>
    change items.mapM (ofJson? (α := UserId)) = items'.mapM ofJson?
    induction h with
    | nil => rfl
    | cons hv _ ih => rw [List.mapM_cons, List.mapM_cons, ofJson?_user_of_respelled hv, ih]

/-- Amounts have nothing to do with spellings. -/
theorem ofJson?_int_of_respelled {j j' : Json} (h : Respelled j j') :
    (ofJson? j : Option Int) = ofJson? j' := by
  cases h with
  | same v => rfl
  | string h => rfl
  | list h => rfl
  | object h => rfl

end ExpenseLedger.Json
