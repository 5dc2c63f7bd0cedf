import ExpenseLedger.Proofs.Identifier.Respelled
import ExpenseLedger.Web.Route
/-!
# Paths with identifiers in other spellings

A segment of a path writes a text character by character, each as it is or as an escape. If two
targets differ only in segments that write the same identifier, they lead to the same endpoint, with
identifiers that are the same but for their spelling. The names in paths are too short to be taken
for identifiers. Main statement: `Route.find?_respelled`.
-/

namespace ExpenseLedger.Web

/-! ## Escapes -/

/-- The characters write a text: each character of it stands there as it is, or as an escape. -/
inductive Writes : List Char → List Char → Prop where
  /-- Nothing. -/
  | nil : Writes [] []
  /-- A character as it is. -/
  | plain (c : Char) {written cs : List Char} (h : Writes written cs) :
    Writes (c :: written) (c :: cs)
  /-- A character as two hexadecimal digits. -/
  | escape {high low c : Char} {d e : HexDigit} {written cs : List Char}
    (hhigh : HexDigit.ofChar? high = some d) (hlow : HexDigit.ofChar? low = some e)
    (hc : c.toNat = d.val * 16 + e.val) (h : Writes written cs) :
    Writes ('%' :: high :: low :: written) (c :: cs)

/-- A text without escapes writes itself. -/
theorem Writes.refl (cs : List Char) : Writes cs cs := by
  induction cs with
  | nil => exact .nil
  | cons c cs ih => exact .plain c ih

/-- A character that opens no escape is left alone. -/
theorem unescape_cons_of_ne (keeps : Char → Bool) {c : Char} (hc : c ≠ '%') (cs : List Char) :
    unescape keeps (c :: cs) = c :: unescape keeps cs := by
  rw [unescape]
  rintro high low rest rfl
  exact absurd rfl hc

/-- **What is written is read**, if all of it is ASCII and no escape of it is kept. -/
theorem Writes.unescape_eq {written cs : List Char} (h : Writes written cs) (keeps : Char → Bool)
    (hcs : ∀ c ∈ cs, c ≠ '%' ∧ c.toNat < 128 ∧ keeps c = false) :
    unescape keeps written = cs := by
  induction h with
  | nil => rfl
  | plain c _ ih =>
    obtain ⟨⟨hne, -, -⟩, hrest⟩ := List.forall_mem_cons.1 hcs
    rw [unescape_cons_of_ne keeps hne, ih hrest]
  | @escape high low c d e written cs hhigh hlow hc _ ih =>
    obtain ⟨⟨-, hascii, hkeeps⟩, hrest⟩ := List.forall_mem_cons.1 hcs
    have hresolve : resolve? keeps high low = some c := by
      simp only [resolve?, hhigh, hlow, Option.bind_eq_bind, Option.bind_some]
      rw [← hc, Char.ofNat_toNat, if_pos (by simp [hascii, hkeeps])]
    rw [unescape, hresolve]
    dsimp only
    rw [ih hrest]

/-- The character can stand in a segment of a path. -/
def IsOfSegment (c : Char) : Prop := Target.isOfPath c = true ∧ Target.endsAuthority c = false

instance (c : Char) : Decidable (IsOfSegment c) := inferInstanceAs (Decidable (_ ∧ _))

/-- What holds of the characters of spellings where they stand in a path. -/
theorem of_mem_spellingChars {c : Char} (hc : c ∈ Id.spellingChars) :
    IsOfSegment c ∧ c ≠ '%' ∧ c.toNat < 128 ∧ actsInPath c = false := by
  have hall : ∀ c ∈ Id.spellingChars,
      IsOfSegment c ∧ c ≠ '%' ∧ c.toNat < 128 ∧ actsInPath c = false :=
    List.all_iff_forall_prop.1 (by decide +kernel)
  exact hall c hc

/-- The character of a digit can stand in a segment. -/
theorem isOfSegment_of_ofChar? {c : Char} {d : HexDigit} (h : HexDigit.ofChar? c = some d) :
    IsOfSegment c := by
  have hlower : c.toLower ∈ Id.spellingChars := by
    rw [(HexDigit.ofChar?_eq_some_iff c d).1 h]
    exact Id.digitChars_subset [d] List.mem_cons_self
  exact (of_mem_spellingChars (Id.mem_spellingChars_of_toLower hlower)).1

/-- What writes an identifier can stand in a segment. -/
theorem Writes.isOfSegment {written cs : List Char} (h : Writes written cs)
    (hcs : cs ⊆ Id.spellingChars) : ∀ c ∈ written, IsOfSegment c := by
  induction h with
  | nil => simp
  | plain c _ ih =>
    obtain ⟨hc, hrest⟩ := List.cons_subset.1 hcs
    exact List.forall_mem_cons.2 ⟨(of_mem_spellingChars hc).1, ih hrest⟩
  | escape hhigh hlow _ _ ih =>
    obtain ⟨-, hrest⟩ := List.cons_subset.1 hcs
    simp only [List.forall_mem_cons]
    exact ⟨by decide, isOfSegment_of_ofChar? hhigh, isOfSegment_of_ofChar? hlow, ih hrest⟩

/-! ## Segments -/

/-- Both segments are the same, or both write the same identifier. -/
inductive SegmentRespelled : List Char → List Char → Prop where
  /-- The same. -/
  | same (s : List Char) : SegmentRespelled s s
  /-- Two ways to write an identifier. -/
  | respelled {s s' cs cs' : List Char} (h : Id.Respelled cs cs') (hs : Writes s cs)
    (hs' : Writes s' cs') : SegmentRespelled s s'

/-- Both segments can stand in a path, or neither can. -/
theorem SegmentRespelled.all_isOfPath {s s' : List Char} (h : SegmentRespelled s s') :
    s.all Target.isOfPath = s'.all Target.isOfPath := by
  cases h with
  | same => rfl
  | respelled h hs hs' =>
    obtain ⟨a, ha, ha'⟩ := h
    rw [List.all_eq_true.2 fun c hc => (hs.isOfSegment (fun _ => ha.mem_spellingChars) c hc).1,
      List.all_eq_true.2 fun c hc => (hs'.isOfSegment (fun _ => ha'.mem_spellingChars) c hc).1]

/-- What a segment is read as, once its escapes are resolved. -/
def segmentText (s : List Char) : String := String.ofList (unescape actsInPath s)

/-- What writes an identifier is read as a spelling of it. -/
theorem Writes.segmentText_eq {s cs : List Char} {a : Id} (hs : Writes s cs)
    (ha : Id.Spells cs a) : segmentText s = String.ofList cs := by
  unfold segmentText
  rw [hs.unescape_eq actsInPath fun c hc => (of_mem_spellingChars (ha.mem_spellingChars hc)).2]

/-- **Segments are read as texts that are the same but for spelling.** -/
theorem SegmentRespelled.segmentText {s s' : List Char} (h : SegmentRespelled s s') :
    Text.Respelled (segmentText s) (segmentText s') := by
  cases h with
  | same => exact .inl rfl
  | respelled h hs hs' =>
    obtain ⟨a, ha, ha'⟩ := h
    rw [hs.segmentText_eq ha, hs'.segmentText_eq ha']
    refine .inr ⟨a, ?_, ?_⟩
    · rwa [String.toList_ofList]
    · rwa [String.toList_ofList]

/-- A spelling has no escapes. -/
theorem identifierText_of_spells {x : String} {a : Id} (h : Id.Spells x.toList a) :
    identifierText x = x := by
  have hread := (Writes.refl x.toList).unescape_eq (fun _ => false) fun c hc => by
    obtain ⟨-, hne, hascii, -⟩ := of_mem_spellingChars (h.mem_spellingChars hc)
    exact ⟨hne, hascii, rfl⟩
  unfold identifierText
  rw [hread, String.ofList_toList]

/-- The identifiers that are written in segments are the same but for spelling. -/
theorem identifierText_respelled {x x' : String} (h : Text.Respelled x x') :
    Text.Respelled (identifierText x) (identifierText x') := by
  rcases h with rfl | ⟨a, ha, ha'⟩
  · exact .inl rfl
  · rw [identifierText_of_spells ha, identifierText_of_spells ha']
    exact .inr ⟨a, ha, ha'⟩

/-! ## Cutting at slashes -/

/-- A path, from its segments. -/
def joined (segs : List (List Char)) : List Char := segs.flatMap fun s => '/' :: s

/-- Escapes that are kept are not resolved. -/
theorem keeps_of_resolve? {keeps : Char → Bool} {high low c : Char}
    (h : resolve? keeps high low = some c) : keeps c = false := by
  unfold resolve? at h
  simp only [Option.bind_eq_bind, Option.bind_eq_some_iff] at h
  obtain ⟨d, -, e, -, h⟩ := h
  split at h
  · rename_i hkeeps
    cases h
    simpa using (Bool.and_eq_true_iff.1 hkeeps).2
  · contradiction

/-- What is kept as an escape is not there unless it was. -/
theorem mem_of_mem_unescape {keeps : Char → Bool} {c : Char} (hc : keeps c = true)
    (cs : List Char) (h : c ∈ unescape keeps cs) : c ∈ cs := by
  fun_induction unescape keeps cs with
  | case1 high low cs d hd ih =>
    rcases List.mem_cons.1 h with rfl | h
    · rw [keeps_of_resolve? hd] at hc
      contradiction
    · simp [ih h]
  | case2 high low cs _ ih =>
    rcases List.mem_cons.1 h with rfl | h
    · exact List.mem_cons_self
    · exact List.mem_cons_of_mem _ (ih h)
  | case3 d cs _ ih =>
    rcases List.mem_cons.1 h with rfl | h
    · exact List.mem_cons_self
    · exact List.mem_cons_of_mem _ (ih h)
  | case4 => exact h

/-- A percent sign without two hexadecimal digits behind it is left alone. -/
theorem unescape_percent_of_resolve? {keeps : Char → Bool} {high low : Char}
    (h : resolve? keeps high low = none) (cs : List Char) :
    unescape keeps ('%' :: high :: low :: cs) = '%' :: unescape keeps (high :: low :: cs) := by
  rw [unescape, h]

/-- No escape reaches over a slash. -/
theorem unescape_append_slash (keeps : Char → Bool) (cs rest : List Char) :
    unescape keeps (cs ++ '/' :: rest) = unescape keeps cs ++ '/' :: unescape keeps rest := by
  have hslash (rest : List Char) :
      unescape keeps ('/' :: rest) = '/' :: unescape keeps rest :=
    unescape_cons_of_ne keeps (by decide) rest
  fun_induction unescape keeps cs with
  | case1 high low cs d hd ih =>
    simp only [List.cons_append]
    rw [unescape, hd]
    dsimp only
    rw [ih]
  | case2 high low cs hnone ih =>
    simp only [List.cons_append] at ih ⊢
    rw [unescape_percent_of_resolve? hnone, ih]
  | case3 d cs hopen ih =>
    rw [List.cons_append, List.cons_append]
    by_cases hd : d = '%'
    · -- There are fewer than two characters between the percent sign and the slash.
      subst hd
      have hnone (low : Char) : resolve? keeps '/' low = none := rfl
      have hnone' (high : Char) : resolve? keeps high '/' = none := by
        unfold resolve?
        cases HexDigit.ofChar? high <;> rfl
      rcases cs with _ | ⟨high, _ | ⟨low, cs⟩⟩
      · rcases rest with _ | ⟨low, rest⟩
        · rfl
        · rw [List.nil_append, unescape_percent_of_resolve? (hnone low), hslash]
          rfl
      · rw [← ih]
        exact unescape_percent_of_resolve? (hnone' high) rest
      · exact absurd rfl (hopen high low cs rfl)
    · rw [unescape_cons_of_ne keeps hd, ih]
  | case4 => exact hslash rest

/-- A path is read segment by segment. -/
theorem unescape_append_joined (keeps : Char → Bool) (s : List Char) (segs : List (List Char)) :
    unescape keeps (s ++ joined segs) = unescape keeps s ++ joined (segs.map (unescape keeps)) := by
  induction segs generalizing s with
  | nil => simp [joined]
  | cons t segs ih =>
    change unescape keeps (s ++ '/' :: (t ++ joined segs)) = _
    rw [unescape_append_slash, ih]
    rfl

/-- A path has its segments between its slashes. -/
theorem splitOn_append_joined (s : List Char) (segs : List (List Char)) (hs : '/' ∉ s)
    (h : ∀ s ∈ segs, '/' ∉ s) : (s ++ joined segs).splitOn '/' = s :: segs := by
  have hno {s : List Char} (hs : '/' ∉ s) : ∀ c ∈ s, (c == '/') = false := by
    intro c hc
    rw [beq_eq_false_iff_ne]
    rintro rfl
    exact hs hc
  unfold List.splitOn
  induction segs generalizing s with
  | nil =>
    rw [joined, List.flatMap_nil, List.append_nil, List.splitOnP_eq_singleton (hno hs)]
  | cons t segs ih =>
    obtain ⟨ht, hrest⟩ := List.forall_mem_cons.1 h
    change List.splitOnP _ (s ++ '/' :: (t ++ joined segs)) = _
    rw [List.splitOnP_append_cons_of_forall_mem (hno hs) '/' (by decide), ih t ht hrest]

/-- **The segments of a path are read one by one.** -/
theorem segments_unescape_joined (segs : List (List Char)) (h : ∀ s ∈ segs, '/' ∉ s) :
    segments (unescape actsInPath (joined segs)) = "" :: segs.map segmentText := by
  have hslash : ∀ s ∈ segs.map (unescape actsInPath), '/' ∉ s := by
    rintro _ hs
    obtain ⟨s, hmem, rfl⟩ := List.mem_map.1 hs
    exact fun hc => h s hmem (mem_of_mem_unescape rfl s hc)
  have hread := unescape_append_joined actsInPath [] segs
  have hcut := splitOn_append_joined [] _ (by simp) hslash
  rw [List.nil_append] at hread hcut
  unfold segments
  rw [hread]
  change List.map _ (List.splitOn '/' (joined _)) = _
  rw [hcut, List.map_cons, List.map_map]
  rfl

/-! ## Targets -/

/-- What stands before the path of a target: nothing, or a scheme and an authority. -/
inductive IsFront : List Char → Prop where
  /-- Nothing. -/
  | nothing : IsFront []
  /-- A scheme and an authority. -/
  | address (scheme authority : List Char) (hscheme : ∀ c ∈ scheme, Target.isOfScheme c = true)
    (hauthority : ∀ c ∈ authority, Target.endsAuthority c = false) :
    IsFront (scheme ++ ':' :: '/' :: '/' :: authority)

/-- Both targets are the same but for segments of their paths that write the same identifier. -/
inductive TargetRespelled : List Char → List Char → Prop where
  /-- The same. -/
  | same (t : List Char) : TargetRespelled t t
  /-- Segment by segment, between the same front and the same query and fragment. -/
  | path {front rest : List Char} {segs segs' : List (List Char)} (hfront : IsFront front)
    (hsegs : ∀ s ∈ segs, ∀ c ∈ s, Target.endsAuthority c = false)
    (hsegs' : ∀ s ∈ segs', ∀ c ∈ s, Target.endsAuthority c = false)
    (hrest : ∀ c ∈ rest.head?, Target.isEnd c = true)
    (h : List.Forall₂ SegmentRespelled segs segs') :
    TargetRespelled (front ++ (joined segs ++ rest)) (front ++ (joined segs' ++ rest))

/-- Both paths are the same, or they have segments that are the same but for spelling. -/
inductive PathRespelled : List Char → List Char → Prop where
  /-- The same. -/
  | same (p : List Char) : PathRespelled p p
  /-- Segment by segment. -/
  | joined {segs segs' : List (List Char)} (hsegs : ∀ s ∈ segs, '/' ∉ s)
    (hsegs' : ∀ s ∈ segs', '/' ∉ s) (h : List.Forall₂ SegmentRespelled segs segs') :
    PathRespelled (joined segs) (joined segs')

/-- The characters after a question mark, up to a number sign. -/
def queryOf : List Char → List Char
  | '?' :: cs => cs.takeWhile (· ≠ '#')
  | _ => []

/-- A path is read up to what ends it. -/
theorem pathBefore?_append {path rest : List Char} (hpath : ∀ c ∈ path, Target.isEnd c = false)
    (hrest : ∀ c ∈ rest.head?, Target.isEnd c = true) :
    Target.pathBefore? (path ++ rest) =
      if path.all Target.isOfPath && (queryOf rest).all Target.isOfQuery then some path
      else none := by
  have hno : ∀ c ∈ path, (!Target.isEnd c) = true := by
    intro c hc
    rw [hpath c hc]
    rfl
  have htake : (path ++ rest).takeWhile (fun c => !Target.isEnd c) = path := by
    rw [List.takeWhile_append_of_pos hno]
    cases rest with
    | nil => simp
    | cons c cs =>
      rw [List.takeWhile_cons_of_neg (by simp [hrest c rfl]), List.append_nil]
  have hdrop : (path ++ rest).dropWhile (fun c => !Target.isEnd c) = rest := by
    rw [List.dropWhile_append_of_pos hno]
    cases rest with
    | nil => rfl
    | cons c cs => rw [List.dropWhile_cons_of_neg (by simp [hrest c rfl])]
  unfold Target.pathBefore?
  rw [htake, hdrop]
  rfl

/-- All of a path can stand in a path if all of its segments can. -/
theorem all_isOfPath_joined (segs : List (List Char)) :
    (joined segs).all Target.isOfPath = segs.all fun s => s.all Target.isOfPath := by
  rw [joined, List.all_flatMap]
  rfl

/-- No end of a path stands in its segments. -/
theorem isEnd_of_mem_joined {segs : List (List Char)}
    (h : ∀ s ∈ segs, ∀ c ∈ s, Target.endsAuthority c = false) :
    ∀ c ∈ joined segs, Target.isEnd c = false := by
  intro c hc
  obtain ⟨s, hs, hc⟩ := List.mem_flatMap.1 hc
  rcases List.mem_cons.1 hc with rfl | hc
  · rfl
  · exact (Bool.or_eq_false_iff.1 (h s hs c hc)).2

/-- No slash stands in the segments of a path. -/
theorem slash_not_mem {segs : List (List Char)}
    (h : ∀ s ∈ segs, ∀ c ∈ s, Target.endsAuthority c = false) : ∀ s ∈ segs, '/' ∉ s := by
  intro s hs hc
  have := h s hs '/' hc
  contradiction

/-- Segments that are the same but for spelling can stand in a path, or neither can. -/
theorem all_isOfPath_respelled {segs segs' : List (List Char)}
    (h : List.Forall₂ SegmentRespelled segs segs') :
    (joined segs).all Target.isOfPath = (joined segs').all Target.isOfPath := by
  rw [all_isOfPath_joined, all_isOfPath_joined]
  induction h with
  | nil => rfl
  | cons hs _ ih => rw [List.all_cons, List.all_cons, hs.all_isOfPath, ih]

/-- The path of an address without path is the root. -/
theorem PathRespelled.orRoot {p p' : List Char} (h : PathRespelled p p') :
    PathRespelled (if p.isEmpty then ['/'] else p) (if p'.isEmpty then ['/'] else p') := by
  cases h with
  | same => exact .same _
  | joined hsegs hsegs' h =>
    cases h with
    | nil => exact .same _
    | cons hs h => exact .joined hsegs hsegs' (.cons hs h)

/-- A path begins with a slash. -/
theorem joined_cons_append (s : List Char) (segs : List (List Char)) (rest : List Char) :
    joined (s :: segs) ++ rest = '/' :: (s ++ (joined segs ++ rest)) := by
  simp [joined]

/-- What follows the scheme of an address tells its path. -/
theorem pathOf?_scheme {scheme : List Char} (hscheme : ∀ c ∈ scheme, Target.isOfScheme c = true)
    (cs : List Char) :
    Target.pathOf? (scheme ++ ':' :: '/' :: '/' :: cs) =
      if scheme.length ≤ Target.greatestScheme then Target.addressPath? cs else none := by
  have htake : (scheme ++ ':' :: '/' :: '/' :: cs).takeWhile Target.isOfScheme = scheme := by
    rw [List.takeWhile_append_of_pos hscheme, List.takeWhile_cons_of_neg (by decide),
      List.append_nil]
  have hafter : Target.afterScheme? (scheme ++ ':' :: '/' :: '/' :: cs) = some cs := by
    unfold Target.afterScheme?
    rw [List.dropWhile_append_of_pos hscheme, List.dropWhile_cons_of_neg (by decide)]
    rfl
  unfold Target.pathOf?
  split
  · rename_i hstar
    have hlength := congrArg List.length hstar
    simp only [List.length_append, List.length_cons, List.length_nil] at hlength
    omega
  · rename_i rest hslash
    cases scheme with
    | nil => simp at hslash
    | cons c scheme =>
      have hc : c = '/' := (List.cons.inj hslash).1
      rw [hc] at hscheme
      exact absurd (hscheme '/' List.mem_cons_self) (by decide)
  · rw [hafter]
    dsimp only
    rw [htake]

/-- The path of an address stands after its authority. -/
theorem addressPath?_append {authority : List Char}
    (hauthority : ∀ c ∈ authority, Target.endsAuthority c = false) (cs : List Char) :
    Target.addressPath? (authority ++ '/' :: cs) =
      if authority.isEmpty || !Target.isAuthority authority then none
      else (Target.pathBefore? ('/' :: cs)).map fun path => if path.isEmpty then ['/'] else path := by
  have hno : ∀ c ∈ authority, (!Target.endsAuthority c) = true := by
    intro c hc
    rw [hauthority c hc]
    rfl
  have htake : (authority ++ '/' :: cs).takeWhile (fun c => !Target.endsAuthority c) = authority := by
    rw [List.takeWhile_append_of_pos hno, List.takeWhile_cons_of_neg (by decide), List.append_nil]
  have hdrop : (authority ++ '/' :: cs).dropWhile (fun c => !Target.endsAuthority c) =
      '/' :: cs := by
    rw [List.dropWhile_append_of_pos hno, List.dropWhile_cons_of_neg (by decide)]
  unfold Target.addressPath?
  dsimp only
  rw [htake, hdrop]

section Respelled

variable {segs segs' : List (List Char)} {rest : List Char}
  (hsegs : ∀ s ∈ segs, ∀ c ∈ s, Target.endsAuthority c = false)
  (hsegs' : ∀ s ∈ segs', ∀ c ∈ s, Target.endsAuthority c = false)
  (hrest : ∀ c ∈ rest.head?, Target.isEnd c = true)
  (h : List.Forall₂ SegmentRespelled segs segs')
include hsegs hsegs' hrest h

/-- Paths before the same query and fragment. -/
theorem pathBefore?_respelled :
    Option.Rel PathRespelled (Target.pathBefore? (joined segs ++ rest))
      (Target.pathBefore? (joined segs' ++ rest)) := by
  rw [pathBefore?_append (isEnd_of_mem_joined hsegs) hrest,
    pathBefore?_append (isEnd_of_mem_joined hsegs') hrest, all_isOfPath_respelled h]
  split
  · exact .some (.joined (slash_not_mem hsegs) (slash_not_mem hsegs') h)
  · exact .none

/-- Paths behind the same front and before the same query and fragment. -/
theorem pathOf?_respelled {front : List Char} (hfront : IsFront front) :
    Option.Rel PathRespelled (Target.pathOf? (front ++ (joined segs ++ rest)))
      (Target.pathOf? (front ++ (joined segs' ++ rest))) := by
  have hbefore := pathBefore?_respelled hsegs hsegs' hrest h
  cases h with
  | nil =>
    -- There is nothing that could differ.
    generalize Target.pathOf? _ = p
    cases p with
    | none => exact .none
    | some p => exact .some (.same p)
  | @cons s s' segs segs' hs h =>
    cases hfront with
    | nothing => exact hbefore
    | address scheme authority hscheme hauthority =>
      rw [joined_cons_append, joined_cons_append] at hbefore ⊢
      simp only [List.append_assoc, List.cons_append]
      rw [pathOf?_scheme hscheme, pathOf?_scheme hscheme, addressPath?_append hauthority,
        addressPath?_append hauthority]
      split
      · split
        · exact .none
        · exact rel_map hbefore fun _ _ hpath => hpath.orRoot
      · exact .none

end Respelled

/-- **Targets that are the same but for spelling lead to paths that are**, if both are short enough
or neither is. -/
theorem path?_respelled {t t' : String} (h : TargetRespelled t.toList t'.toList)
    (hsize : t.utf8ByteSize ≤ Target.greatestSize ↔ t'.utf8ByteSize ≤ Target.greatestSize) :
    Option.Rel PathRespelled (Target.path? t) (Target.path? t') := by
  unfold Target.path?
  by_cases hshort : t.utf8ByteSize ≤ Target.greatestSize
  · rw [if_pos hshort, if_pos (hsize.1 hshort)]
    generalize t.toList = cs, t'.toList = cs' at h
    cases h with
    | same =>
      cases Target.pathOf? cs with
      | none => exact .none
      | some p => exact .some (.same p)
    | path hfront hsegs hsegs' hrest h =>
      exact pathOf?_respelled hsegs hsegs' hrest h hfront
  · rw [if_neg hshort, if_neg fun hshort' => hshort (hsize.2 hshort')]
    exact .none

/-! ## Routes -/

/-- The segments of paths that are the same but for spelling. -/
theorem PathRespelled.segments {p p' : List Char} (h : PathRespelled p p') :
    List.Forall₂ Text.Respelled (segments (unescape actsInPath p))
      (segments (unescape actsInPath p')) := by
  cases h with
  | same => exact List.forall₂_same.2 fun _ _ => .inl rfl
  | joined hsegs hsegs' h =>
    rw [segments_unescape_joined _ hsegs, segments_unescape_joined _ hsegs']
    refine .cons (.inl rfl) ?_
    rw [List.forall₂_map_left_iff, List.forall₂_map_right_iff]
    exact h.imp fun _ _ hs => hs.segmentText

/-- Both routes lead to the same place, with identifiers that are the same but for spelling. -/
inductive RouteRespelled : Route → Route → Prop where
  /-- A place without identifiers. -/
  | same (route : Route) : RouteRespelled route route
  /-- An endpoint. -/
  | endpoint (e : Endpoint) {ids ids' : List String} (h : List.Forall₂ Text.Respelled ids ids') :
    RouteRespelled (.endpoint e ids) (.endpoint e ids')

/-- A word is not respelled. -/
theorem eq_word {word x : String} (h : Text.Respelled word x) (hword : word.length < 32) :
    word = x := ((h.eq_iff hword).1 rfl).symm

/-- A word is no other spelling of anything. -/
theorem eq_word' {word x : String} (h : Text.Respelled x word) (hword : word.length < 32) :
    x = word := (h.eq_iff hword).2 rfl

/-- Both texts are empty, or neither is. -/
theorem isEmpty_respelled {x x' : String} (h : Text.Respelled x x') : x.isEmpty = x'.isEmpty := by
  rw [Bool.eq_iff_iff, String.isEmpty_iff, String.isEmpty_iff]
  exact h.eq_iff (by decide)

/-- The endpoint does not depend on spellings. -/
theorem ofSegments?_respelled (method : String) {l l' : List String}
    (h : List.Forall₂ Text.Respelled l l') :
    Option.Rel RouteRespelled (Route.ofSegments? method l) (Route.ofSegments? method l') := by
  have hite {c : Prop} [Decidable c] {r r' : Route} {o o' : Option Route}
      (hr : RouteRespelled r r') (ho : Option.Rel RouteRespelled o o') :
      Option.Rel RouteRespelled (if c then some r else o) (if c then some r' else o') := by
    split
    · exact .some hr
    · exact ho
  have hempty {c c' : Bool} {o o' : Option Route} (hc : c = c')
      (ho : Option.Rel RouteRespelled o o') :
      Option.Rel RouteRespelled (if c then none else o) (if c' then none else o') := by
    rw [hc]
    split
    · exact .none
    · exact ho
  unfold Route.ofSegments?
  split
  -- The words of the route are too short for spellings, so that they are the same on both sides.
  · rcases h with _ | ⟨h₁, _ | _⟩
    obtain rfl := eq_word h₁ (by decide)
    exact hite (.same _) .none
  · rcases h with _ | ⟨h₁, _ | _⟩
    obtain rfl := eq_word h₁ (by decide)
    exact hite (.same _) (hite (.same _) .none)
  · rcases h with _ | ⟨h₁, _ | ⟨h₂, _ | _⟩⟩
    obtain rfl := eq_word h₁ (by decide)
    have hids := List.Forall₂.cons h₂ .nil
    exact hempty (isEmpty_respelled h₂)
      (hite (.endpoint _ hids) (hite (.endpoint _ hids) .none))
  · rcases h with _ | ⟨h₁, _ | ⟨h₂, _ | ⟨h₃, _ | _⟩⟩⟩
    obtain rfl := eq_word h₁ (by decide)
    obtain rfl := eq_word h₃ (by decide)
    have hids := List.Forall₂.cons h₂ .nil
    exact hempty (isEmpty_respelled h₂)
      (hite (.endpoint _ hids) (hite (.endpoint _ hids) .none))
  · rcases h with _ | ⟨h₁, _ | ⟨h₂, _ | ⟨h₃, _ | ⟨h₄, _ | _⟩⟩⟩⟩
    obtain rfl := eq_word h₁ (by decide)
    obtain rfl := eq_word h₃ (by decide)
    refine hempty ?_ (hite (.endpoint _ (.cons h₂ (.cons h₄ .nil))) .none)
    rw [isEmpty_respelled h₂, isEmpty_respelled h₄]
  · rcases h with _ | ⟨h₁, _ | ⟨h₂, _ | ⟨h₃, _ | _⟩⟩⟩
    obtain rfl := eq_word h₁ (by decide)
    obtain rfl := eq_word h₃ (by decide)
    exact hempty (isEmpty_respelled h₂)
      (hite (.endpoint _ (.cons h₂ .nil)) .none)
  · rename_i hbalance hgroups hgroup hmembers hmember hexpenses
    -- None of these forms can come up by another spelling.
    split
    · rcases h with _ | ⟨h₁, _ | _⟩
      exact (hbalance (by rw [eq_word' h₁ (by decide)])).elim
    · rcases h with _ | ⟨h₁, _ | _⟩
      exact (hgroups (by rw [eq_word' h₁ (by decide)])).elim
    · rcases h with _ | ⟨h₁, _ | ⟨h₂, _ | _⟩⟩
      exact (hgroup _ (by rw [eq_word' h₁ (by decide)])).elim
    · rcases h with _ | ⟨h₁, _ | ⟨h₂, _ | ⟨h₃, _ | _⟩⟩⟩
      exact (hmembers _ (by rw [eq_word' h₁ (by decide), eq_word' h₃ (by decide)])).elim
    · rcases h with _ | ⟨h₁, _ | ⟨h₂, _ | ⟨h₃, _ | ⟨h₄, _ | _⟩⟩⟩⟩
      exact (hmember _ _ (by rw [eq_word' h₁ (by decide), eq_word' h₃ (by decide)])).elim
    · rcases h with _ | ⟨h₁, _ | ⟨h₂, _ | ⟨h₃, _ | _⟩⟩⟩
      exact (hexpenses _ (by rw [eq_word' h₁ (by decide), eq_word' h₃ (by decide)])).elim
    · exact .none

/-- The route does not depend on spellings. -/
theorem ofPath?_respelled (method : String) {l l' : List String}
    (h : List.Forall₂ Text.Respelled l l') :
    Option.Rel RouteRespelled (Route.ofPath? method l) (Route.ofPath? method l') := by
  unfold Route.ofPath?
  split
  · rcases h with _ | ⟨h₁, _ | ⟨h₂, _ | _⟩⟩
    obtain rfl := eq_word h₁ (by decide)
    obtain rfl := eq_word h₂ (by decide)
    split
    · exact .some (.same _)
    · exact .none
  · rcases h with _ | ⟨h₁, _ | ⟨h₂, _ | _⟩⟩
    obtain rfl := eq_word h₁ (by decide)
    obtain rfl := eq_word h₂ (by decide)
    split
    · exact .some (.same _)
    · exact .none
  · rcases h with _ | ⟨h₁, _ | ⟨h₂, _ | ⟨h₃, h⟩⟩⟩
    obtain rfl := eq_word h₁ (by decide)
    obtain rfl := eq_word h₂ (by decide)
    obtain rfl := eq_word h₃ (by decide)
    exact ofSegments?_respelled method h
  · rename_i hhealth hmetrics hendpoint
    split
    · rcases h with _ | ⟨h₁, _ | ⟨h₂, _ | _⟩⟩
      exact (hhealth (by rw [eq_word' h₁ (by decide), eq_word' h₂ (by decide)])).elim
    · rcases h with _ | ⟨h₁, _ | ⟨h₂, _ | _⟩⟩
      exact (hmetrics (by rw [eq_word' h₁ (by decide), eq_word' h₂ (by decide)])).elim
    · rcases h with _ | ⟨h₁, _ | ⟨h₂, _ | ⟨h₃, h⟩⟩⟩
      exact (hendpoint _ (by rw [eq_word' h₁ (by decide), eq_word' h₂ (by decide),
        eq_word' h₃ (by decide)])).elim
    · exact .none

/-- **Where a request goes does not depend on the spelling of identifiers.** -/
theorem Route.find?_respelled (method : String) {t t' : String}
    (h : TargetRespelled t.toList t'.toList)
    (hsize : t.utf8ByteSize ≤ Target.greatestSize ↔ t'.utf8ByteSize ≤ Target.greatestSize) :
    Option.Rel RouteRespelled (find? method t) (find? method t') :=
  rel_bind (path?_respelled h hsize) fun _ _ hp => ofPath?_respelled method hp.segments

end ExpenseLedger.Web
