import ExpenseLedger.Proofs.Json.Text
import ExpenseLedger.Proofs.Settings.Files
/-!
# Which source a setting comes from

Each of the twelve settings is looked up in four sources of its own: its built-in value, its member
in the file of settings, its variable of the service, and for three of them one more variable. The
last source that sets it counts, for each setting by itself, and what the sources before it say is
never even converted. Main statements:

* `Environment.valueOf?_stack`: the value of the last source, in the stack of the four layers;
* `Environment.settings_layering`: the settings, from the values of the last sources.
-/

namespace ExpenseLedger

/-! ## Sources -/

namespace Setting

/-- The built-in value. -/
def standard : Setting → SettingValue
  | host => .text "0.0.0.0"
  | port => .int 8080
  | workers => .int 4
  | requestTimeout => .int 5
  | databaseUrl => .text ""
  | maxConnections => .int 10
  | minConnections => .int 2
  | runMigrations => .bool true
  | cacheUrl => .text ""
  | cacheUpdateTimeout => .int 500
  | populateTimeout => .int 500
  | balanceLifetime => .int 86400

/-- The variable of the service for a setting, in any case of letters. -/
def variableName (s : Setting) : String := "BALANCE_ENGINE__" ++ s.sectionName ++ "__" ++ s.name

/-- The variable of its own that a setting has. -/
def ownVariable? : Setting → Option String
  | databaseUrl => some "DATABASE_URL"
  | cacheUrl => some "REDIS_URL"
  | port => some "BALANCE_ENGINE_PORT"
  | _ => none

end Setting

/-- The text of the file of settings with a name. Files of settings have the ending, whether the
name has it or not. -/
def Folder.settingsText? (d : Folder) (name : String) : Option String :=
  match d.text? (parts name) with
  | some text => if Environment.hasEnding (parts name) then some text else none
  | none => (Environment.withEnding? (parts name)).bind d.text?

namespace Environment

/-- The names have the same letters, in whatever case. -/
def SameLetters (a b : String) : Prop := a.toList.map lowercase = b.toList.map lowercase

instance (a b : String) : Decidable (SameLetters a b) := inferInstanceAs (Decidable (_ = _))

/-- The name of the file of settings: the one that a variable gives, or else that of the environment
that the service runs in. -/
def selected (e : Environment) : String :=
  match e.valueOf? "CONFIG_FILE" with
  | some name => name
  | none => "config/" ++ (e.valueOf? "ENVIRONMENT").getD "development"

/-- The value in the file of settings, if there is such a file and it gives one. -/
def fileValue? (e : Environment) (s : Setting) : Option SettingValue :=
  ((e.folder.settingsText? e.selected).bind Json.read?).bind fun j =>
    ((j.member? s.sectionName).bind (Json.member? s.name)).map SettingValue.ofJson

/-- The value of the variable of the service. -/
def serviceValue? (e : Environment) (s : Setting) : Option String :=
  (e.bindings.find? fun v => SameLetters v.1 s.variableName).map (·.2)

/-- The value of the variable of its own. -/
def ownValue? (e : Environment) (s : Setting) : Option String :=
  s.ownVariable?.bind e.valueOf?

/-- The value that the last source gives which gives one. -/
def final (e : Environment) (s : Setting) : SettingValue :=
  [e.fileValue? s, (e.serviceValue? s).map .text, (e.ownValue? s).map .text].foldl
    (fun value source => source.getD value) s.standard

/-- The variables that are for no setting of the service, or for one under a name of its own. -/
def otherVariables : List String :=
  ["CONFIG_FILE", "ENVIRONMENT", "DATABASE_URL", "REDIS_URL", "BALANCE_ENGINE_PORT"]

/-- The environment has no other variables than those of settings, and a file that is an object of
sections, if it has one. -/
structure Orderly (e : Environment) : Prop where
  /-- The variables are known. -/
  known : ∀ v ∈ e.bindings, v.1 ∈ otherVariables ∨ ∃ s : Setting, SameLetters v.1 s.variableName
  /-- No two variables differ only in the case of their letters. -/
  distinct : e.bindings.Pairwise fun v v' => ¬ SameLetters v.1 v'.1
  /-- The file is JSON with sections of settings. -/
  file : ∀ text, e.folder.settingsText? e.selected = some text →
    ∃ j, Json.read? text = some j ∧ j.IsNested

/-- The file can be read, if there is one: its strings have texts and its numbers are in range. Of
any other file nothing is read at all. -/
def Readable (e : Environment) : Prop :=
  ∀ text, e.folder.settingsText? e.selected = some text →
    ∀ j, Json.read? text = some j → j.IsReadable

/-! ## The layers -/

/-- The file of settings is the one that is selected. -/
theorem settingsText?_eq (e : Environment) :
    e.settingsText? = e.folder.settingsText? e.selected := by
  have hname : e.fileName = Folder.parts e.selected := by
    unfold fileName selected
    cases e.valueOf? "CONFIG_FILE" <;> rfl
  unfold settingsText? Folder.settingsText?
  exact hname ▸ rfl

/-- The layer of the built-in values. -/
theorem last?_builtIn (s : Setting) : builtIn.last? s.key = some s.standard := by
  cases s <;> rfl

/-- The built-in values are those of the settings. -/
theorem isPlain_of_mem_builtIn :
    ∀ a ∈ builtIn, (∃ s : Setting, a.1 = s.key) ∧ a.2.IsPlain := by
  have hsettings : builtIn = [Setting.host, .port, .workers, .requestTimeout, .databaseUrl,
      .maxConnections, .minConnections, .runMigrations, .cacheUrl, .cacheUpdateTimeout,
      .populateTimeout, .balanceLifetime].map fun s => (s.key, s.standard) := rfl
  intro a ha
  rw [hsettings] at ha
  obtain ⟨s, -, rfl⟩ := List.mem_map.1 ha
  refine ⟨⟨s, rfl⟩, ?_⟩
  cases s <;> exact trivial

/-- The variable of a setting has the key of the setting. -/
theorem serviceKey?_of_sameLetters (name : String) (s : Setting)
    (h : SameLetters name s.variableName) : serviceKey? name = some s.key := by
  have hkey : serviceKey? s.variableName = some s.key := by
    cases s <;> rfl
  rw [← hkey]
  unfold serviceKey?
  rw [show name.toList.map lowercase = s.variableName.toList.map lowercase from h]

/-- The other variables are not of the service. -/
theorem serviceKey?_of_mem_otherVariables (name : String) (h : name ∈ otherVariables) :
    serviceKey? name = none := by
  revert name
  decide +kernel

/-- The variables that have the key of a setting are those of the setting. -/
theorem serviceKey?_eq_some_iff (name : String) (s : Setting)
    (hname : name ∈ otherVariables ∨ ∃ t : Setting, SameLetters name t.variableName) :
    serviceKey? name = some s.key ↔ SameLetters name s.variableName := by
  refine ⟨fun h => ?_, serviceKey?_of_sameLetters name s⟩
  rcases hname with hother | ⟨t, ht⟩
  · rw [serviceKey?_of_mem_otherVariables name hother] at h
    contradiction
  · rw [serviceKey?_of_sameLetters name t ht, Option.some.injEq, Setting.key_eq_iff] at h
    unfold Setting.variableName at ht ⊢
    rw [← h.1, ← h.2]
    exact ht

/-- The layer of some variables gives a setting the value of its variable. -/
theorem last?_serviceLayer (e : Environment) (h : e.Orderly) (s : Setting) :
    e.serviceLayer.last? s.key = (e.serviceValue? s).map .text := by
  obtain ⟨bindings, folder⟩ := e
  have hknown := h.known
  have hdistinct := h.distinct
  clear h
  unfold serviceLayer serviceValue?
  dsimp only at hknown hdistinct ⊢
  induction bindings with
  | nil => rfl
  | cons v vs ih =>
    obtain ⟨hv, hvs⟩ := List.pairwise_cons.1 hdistinct
    have hrest := ih (fun w hw => hknown w (List.mem_cons_of_mem _ hw)) hvs
    have hkey := serviceKey?_eq_some_iff v.1 s (hknown v List.mem_cons_self)
    rw [List.filterMap_cons, List.find?_cons]
    by_cases hsame : SameLetters v.1 s.variableName
    · -- No later variable has the same letters, so this one counts.
      have hnone : vs.find? (fun w => SameLetters w.1 s.variableName) = none := by
        rw [List.find?_eq_none]
        intro w hw hletters
        exact hv w hw (hsame.trans (of_decide_eq_true hletters).symm)
      rw [hnone] at hrest
      rw [hkey.2 hsame, decide_eq_true hsame]
      change (Layer.last? s.key _).or (if s.key = s.key then some (.text v.2) else none) = _
      rw [hrest, if_pos rfl]
      rfl
    · rw [decide_eq_false hsame]
      cases hk : serviceKey? v.1 with
      | none => exact hrest
      | some key =>
        have hne : key ≠ s.key := by
          rintro rfl
          exact hsame (hkey.1 hk)
        change (Layer.last? s.key _).or (if key = s.key then some (.text v.2) else none) = _
        rw [if_neg hne, Option.or_none]
        exact hrest

/-- The variables of the service are those of settings. -/
theorem isPlain_of_mem_serviceLayer (e : Environment) (h : e.Orderly) :
    ∀ a ∈ e.serviceLayer, (∃ s : Setting, a.1 = s.key) ∧ a.2.IsPlain := by
  intro a ha
  obtain ⟨v, hv, hva⟩ := List.mem_filterMap.1 ha
  obtain ⟨key, hkey, rfl⟩ := Option.map_eq_some_iff.1 hva
  refine ⟨?_, trivial⟩
  rcases h.known v hv with hother | ⟨s, hs⟩
  · rw [serviceKey?_of_mem_otherVariables v.1 hother] at hkey
    contradiction
  · rw [serviceKey?_of_sameLetters v.1 s hs] at hkey
    exact ⟨s, (Option.some.inj hkey).symm⟩

/-- The layer of the variables of their own. -/
theorem last?_ownLayer (e : Environment) (s : Setting) :
    e.ownLayer.last? s.key = (e.ownValue? s).map .text := by
  have hcons (v : String × String) (vs : List (String × String)) :
      Layer.last? s.key ((v :: vs).filterMap fun v =>
        (e.valueOf? v.1).map fun value => (v.2, SettingValue.text value)) =
      (Layer.last? s.key (vs.filterMap fun v =>
        (e.valueOf? v.1).map fun value => (v.2, SettingValue.text value))).or
          (if v.2 = s.key then (e.valueOf? v.1).map .text else none) := by
    rw [List.filterMap_cons]
    cases e.valueOf? v.1 with
    | none => simp
    | some value => rfl
  unfold ownLayer ownValue?
  rw [hcons, hcons, hcons]
  cases s <;>
    simp [Setting.key, Setting.sectionName, Setting.name, Setting.ownVariable?, Layer.last?]

/-- The variables of their own are those of settings. -/
theorem isPlain_of_mem_ownLayer (e : Environment) :
    ∀ a ∈ e.ownLayer, (∃ s : Setting, a.1 = s.key) ∧ a.2.IsPlain := by
  intro a ha
  obtain ⟨v, hv, hva⟩ := List.mem_filterMap.1 ha
  obtain ⟨value, -, rfl⟩ := Option.map_eq_some_iff.1 hva
  refine ⟨?_, trivial⟩
  simp only [List.mem_cons, List.not_mem_nil, or_false] at hv
  rcases hv with rfl | rfl | rfl
  · exact ⟨.databaseUrl, rfl⟩
  · exact ⟨.cacheUrl, rfl⟩
  · exact ⟨.port, rfl⟩

/-! ## All layers -/

/-- The layer of a text with a JSON value in it. -/
theorem layerOf?_eq_some_iff (text : String) (j : Json) (hread : Json.read? text = some j)
    (file : Layer) : layerOf? text = some file ↔
      j.isSound greatestDepth = true ∧ (SettingValue.ofJson j).entries = file := by
  unfold layerOf?
  rw [hread]
  change (if j.isSound greatestDepth then some _ else none) = some file ↔ _
  split
  · rename_i hsound
    rw [Option.some.injEq]
    exact ⟨fun hfile => ⟨hsound, hfile⟩, fun hfile => hfile.2⟩
  · rename_i hsound
    exact ⟨fun hfile => by contradiction, fun hfile => absurd hfile.1 hsound⟩

/-- **The stack of the layers gives each setting the value of the last source that gives one.** -/
theorem valueOf?_stack (e : Environment) (h : e.Orderly) (file : Layer)
    (hfile : e.fileLayer? = some file) :
    (Layer.stack [builtIn, file, e.serviceLayer, e.ownLayer]).IsSectioned ∧ ∀ s : Setting,
      (Layer.stack [builtIn, file, e.serviceLayer, e.ownLayer]).valueOf? s =
        some (e.final s) := by
  obtain ⟨hbuiltIn, hstandard⟩ :=
    Layer.valueOf?_over SettingValue.isSectioned_empty builtIn isPlain_of_mem_builtIn
  generalize hroot : Layer.over (.table []) builtIn = root at hbuiltIn hstandard
  have hfileValues : (Layer.over root file).IsSectioned ∧ ∀ s : Setting,
      (Layer.over root file).valueOf? s = (e.fileValue? s).or (root.valueOf? s) := by
    unfold fileLayer? at hfile
    rw [e.settingsText?_eq] at hfile
    unfold fileValue?
    cases htext : e.folder.settingsText? e.selected with
    | none =>
      rw [htext] at hfile
      cases hfile
      exact ⟨hbuiltIn, fun s => rfl⟩
    | some text =>
      obtain ⟨j, hread, hnested⟩ := h.file text htext
      rw [htext] at hfile
      obtain ⟨-, rfl⟩ := (layerOf?_eq_some_iff text j hread file).1 hfile
      rw [Option.bind_some, hread]
      exact SettingValue.valueOf?_over_file hbuiltIn j hnested
  obtain ⟨hoverFile, hfileValue⟩ := hfileValues
  obtain ⟨hoverService, hserviceValue⟩ :=
    Layer.valueOf?_over hoverFile e.serviceLayer (e.isPlain_of_mem_serviceLayer h)
  obtain ⟨hoverOwn, hownValue⟩ :=
    Layer.valueOf?_over hoverService e.ownLayer e.isPlain_of_mem_ownLayer
  have hstack : Layer.stack [builtIn, file, e.serviceLayer, e.ownLayer] =
      Layer.over (Layer.over (Layer.over root file) e.serviceLayer) e.ownLayer := by
    rw [← hroot]
    rfl
  rw [hstack]
  refine ⟨hoverOwn, fun s => ?_⟩
  rw [hownValue, e.last?_ownLayer, hserviceValue, e.last?_serviceLayer h, hfileValue, hstandard,
    last?_builtIn]
  unfold final
  cases e.ownValue? s <;> cases e.serviceValue? s <;> cases e.fileValue? s <;> rfl

/-- There is a layer of the file of settings when the file can be read. -/
theorem exists_fileLayer?_iff (e : Environment) (h : e.Orderly) :
    (∃ file, e.fileLayer? = some file) ↔ e.Readable := by
  unfold fileLayer? Readable
  rw [e.settingsText?_eq]
  cases htext : e.folder.settingsText? e.selected with
  | none => exact ⟨fun _ text htext => by contradiction, fun _ => ⟨[], rfl⟩⟩
  | some text =>
    obtain ⟨j, hread, hnested⟩ := h.file text htext
    have hsound := Json.isSound_iff 125 j hnested
    constructor
    · rintro ⟨file, hfile⟩ text' htext' j' hread'
      cases htext'
      cases hread.symm.trans hread'
      exact hsound.1 ((layerOf?_eq_some_iff text j hread file).1 hfile).1
    · intro hreadable
      have hj := hsound.2 (hreadable text rfl j hread)
      exact ⟨_, (layerOf?_eq_some_iff text j hread _).2 ⟨hj, rfl⟩⟩

/-- **The settings are the values of the last sources, each converted by itself.** -/
theorem settings?_eq_some_iff (e : Environment) (h : e.Orderly) (c : ServiceSettings) :
    e.settings? = some c ↔
      e.Readable ∧ ∀ s : Setting, s.convert (e.final s) = some (s.get c) := by
  rw [← e.exists_fileLayer?_iff h]
  unfold settings?
  cases hfile : e.fileLayer? with
  | none => exact ⟨fun hc => by contradiction, fun ⟨⟨_, hfile⟩, _⟩ => by contradiction⟩
  | some file =>
    obtain ⟨hsectioned, hvalues⟩ := e.valueOf?_stack h file hfile
    refine (SettingValue.service_eq_some_iff _ hsectioned e.final hvalues c).trans ?_
    exact ⟨fun hc => ⟨⟨file, rfl⟩, hc⟩, fun hc => hc.2⟩

/-- The settings of files that can be read depend on the values of the last sources alone. -/
theorem settings?_congr (e e' : Environment) (h : e.Orderly) (h' : e'.Orderly)
    (hreadable : e'.Readable ↔ e.Readable) (hfinal : ∀ s, e'.final s = e.final s) :
    e'.settings? = e.settings? := by
  refine Option.ext fun c => ?_
  rw [settings?_eq_some_iff e' h', settings?_eq_some_iff e h, hreadable]
  simp only [hfinal]

/-- **How the sources are layered.** Settings come of a file that can be read, and are what the
conversions of the values of their last sources say, each setting by itself. Values that a later
source replaces make no difference, not even by failing to convert. A missing file makes the same
settings as an empty one. -/
theorem settings_layering (e : Environment) (h : e.Orderly) :
    (∀ c, e.settings? = some c ↔
      e.Readable ∧ ∀ s : Setting, s.convert (e.final s) = some (s.get c)) ∧
    (∀ e' : Environment, e'.Orderly → (e'.Readable ↔ e.Readable) →
      (∀ s, e'.final s = e.final s) → e'.settings? = e.settings?) ∧
    ∀ d text, e.folder.settingsText? e.selected = none → d.settingsText? e.selected = some text →
      Json.read? text = some (.object []) → { e with folder := d }.settings? = e.settings? := by
  refine ⟨e.settings?_eq_some_iff h, fun e' h' => settings?_congr e e' h h', ?_⟩
  intro d text hmissing htext hempty
  have hselected : { e with folder := d }.selected = e.selected := rfl
  have horderly : { e with folder := d }.Orderly := by
    refine ⟨h.known, h.distinct, fun text' htext' => ?_⟩
    rw [hselected] at htext'
    cases htext.symm.trans htext'
    exact ⟨.object [], hempty, Json.isNested_empty⟩
  have hreadable : { e with folder := d }.Readable ↔ e.Readable := by
    refine ⟨fun _ text' htext' => ?_, fun _ text' htext' j hread => ?_⟩
    · rw [hmissing] at htext'
      contradiction
    · rw [hselected] at htext'
      cases htext.symm.trans htext'
      cases hempty.symm.trans hread
      intro m hm
      contradiction
  refine settings?_congr e _ h horderly hreadable fun s => ?_
  have hvalue : { e with folder := d }.fileValue? s = e.fileValue? s := by
    unfold fileValue?
    rw [hselected, hmissing]
    change ((d.settingsText? e.selected).bind Json.read?).bind _ = _
    rw [htext, Option.bind_some, hempty]
    rfl
  unfold final
  rw [hvalue]
  rfl

end Environment

/-! ## A service in development -/

namespace Sample

/-- Sections of settings, one of which has no value. -/
def sections : Json :=
  .record [("server", .record [("port", .null), ("workers", .nat 8)]),
    ("engine", .record [("balance_ttl_secs", .null)])]

/-- The port is given three times, of which one is no number and one no value at all. -/
def process : Environment where
  bindings := [("DATABASE_URL", "postgres://ledger"),
    ("balance_engine__REDIS__url", "redis://cache"),
    ("BALANCE_ENGINE__SERVER__PORT", "many"), ("BALANCE_ENGINE_PORT", "9000")]
  folder := Folder.ofNames [("config/development.json", sections.write)]

/-- What comes of it. -/
def configured : ServiceSettings :=
  ⟨⟨"0.0.0.0", 9000, 8, 5⟩, ⟨"postgres://ledger", 10, 2, true⟩, "redis://cache", ⟨500, 500, none⟩⟩

end Sample

open Sample

/-- The general statement about the service in development. -/
theorem settings_layering_process : process.Orderly ∧ process.settings? = some configured := by
  have hfile : process.folder.settingsText? process.selected = some sections.write := by
    decide +kernel
  have hwhole : sections.IsWhole :=
    ⟨⟨trivial, ⟨8, rfl⟩, trivial⟩, ⟨trivial, trivial⟩, trivial⟩
  have hread : Json.read? sections.write = some sections := Json.read?_write sections hwhole
  have hnested : sections.IsNested := by
    refine ⟨_, rfl, fun m hm => ?_⟩
    simp only [List.map_cons, List.map_nil, List.mem_cons, List.not_mem_nil, or_false] at hm
    rcases hm with rfl | rfl
    · refine ⟨⟨.port, rfl⟩, _, rfl, fun k hk => ?_⟩
      simp only [List.map_cons, List.map_nil, List.mem_cons, List.not_mem_nil, or_false] at hk
      rcases hk with rfl | rfl <;> exact trivial
    · refine ⟨⟨.balanceLifetime, rfl⟩, _, rfl, fun k hk => ?_⟩
      simp only [List.map_cons, List.map_nil, List.mem_cons, List.not_mem_nil, or_false] at hk
      rcases hk with rfl
      exact trivial
  have horderly : process.Orderly := by
    refine ⟨?_, ?_, fun text htext => ?_⟩
    · intro v hv
      simp only [process, List.mem_cons, List.not_mem_nil, or_false] at hv
      rcases hv with rfl | rfl | rfl | rfl
      · exact .inl (by decide +kernel)
      · exact .inr ⟨.cacheUrl, by decide +kernel⟩
      · exact .inr ⟨.port, by decide +kernel⟩
      · exact .inl (by decide +kernel)
    · decide +kernel
    · cases hfile.symm.trans htext
      exact ⟨sections, hread, hnested⟩
  have hreadable : process.Readable := by
    intro text htext j hj
    cases hfile.symm.trans htext
    cases hread.symm.trans hj
    exact (Json.isSound_iff 0 sections hnested).1 (by decide +kernel)
  have hvalues (s : Setting) : s.convert (process.final s) = some (s.get configured) := by
    unfold Environment.final Environment.fileValue?
    rw [hfile, Option.bind_some, hread]
    cases s <;> rfl
  exact ⟨horderly,
    ((Environment.settings_layering process horderly).1 configured).2 ⟨hreadable, hvalues⟩⟩

end ExpenseLedger
