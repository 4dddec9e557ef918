/-
Faults of loading a configuration from a file.

The file is read as descriptors are, but only if it has the suffix of JSON, and it has to hold an
object.  Its settings fit if they make a configuration whose annotations can be looked at
(`fitting_iff`): an annotation that is set is a text, and options that unknown settings join can be
taken as entries.  Settings that do not fit are stopped by their shape, for which no fault of a
configuration is documented (`load_eq_error`).
-/
import JavaCompanion.Proofs.Config.Precedence
import JavaCompanion.Proofs.Loading.Faults

namespace JavaCompanion
namespace Config

open FileTree Step

/-! ## Settings that fit -/

structure Fitting (settings : Fields) : Prop where
  options : unknownSettings settings ≠ [] →
    ∃ entries, ((Fields.get? settings optionsName).getD (.object [])).asEntries = .ok entries
  inject : ∀ v, Fields.get? settings "inject_annotation" = some v → v.isText = true
  singleton : ∀ v, Fields.get? settings "singleton_annotation" = some v → v.isText = true

section Settings

variable {settings gathered : Fields} {c : Config} {f : Fault}

theorem mem_settingNames_of_gathered (h : gatherOptions settings = .ok gathered) :
    ∀ name ∈ Fields.names gathered, name ∈ settingNames := by
  unfold gatherOptions at h
  split at h
  · cases h
    exact fun _ hname => mem_settingNames_of_known hname
  · obtain ⟨entries, -, h⟩ := bind_eq_ok.mp h
    cases h
    intro name hname
    rw [Fields.names_put] at hname
    split at hname
    · exact mem_settingNames_of_known hname
    · rcases List.mem_append.mp hname with hname | hname
      · exact mem_settingNames_of_known hname
      · rw [List.mem_singleton.mp hname]
        exact optionsName_mem

theorem gatherOptions_eq_ok (hnames : (Fields.names settings).Nodup)
    (h : gatherOptions settings = .ok gathered) :
    (Fields.names gathered).Nodup
      ∧ ∀ name ∈ settingNames, name ≠ optionsName →
        Fields.get? gathered name = Fields.get? settings name := by
  have hknown : (Fields.names (knownSettings settings)).Nodup :=
    hnames.sublist (List.filter_sublist.map _)
  unfold gatherOptions at h
  split at h
  · cases h
    exact ⟨hknown, fun _ hname _ => get?_known hname⟩
  · obtain ⟨entries, -, h⟩ := bind_eq_ok.mp h
    cases h
    refine ⟨Fields.nodup_names_put hknown _ _, fun name hname hother => ?_⟩
    rw [Fields.get?_put, if_neg (Ne.symm hother)]
    exact get?_known hname

theorem exists_gatherOptions_iff :
    (∃ gathered, gatherOptions settings = .ok gathered) ↔ (unknownSettings settings ≠ [] →
      ∃ entries, ((Fields.get? settings optionsName).getD (.object [])).asEntries
        = .ok entries) := by
  have hoptions : Fields.get? (knownSettings settings) optionsName
      = Fields.get? settings optionsName := get?_known optionsName_mem
  rw [← hoptions, knownSettings, unknownSettings]
  unfold gatherOptions
  dsimp only
  split
  · next hnone => exact ⟨fun _ hsome => absurd hnone hsome, fun _ => ⟨_, rfl⟩⟩
  · next hsome =>
    constructor
    · rintro ⟨gathered, h⟩ -
      obtain ⟨entries, hentries, -⟩ := bind_eq_ok.mp h
      exact ⟨entries, hentries⟩
    · intro h
      obtain ⟨entries, hentries⟩ := h hsome
      exact ⟨_, bind_eq_ok.mpr ⟨entries, hentries, rfl⟩⟩

/-- Gathered settings make a configuration, with the annotations that are set. -/
theorem exists_ofSettings (hnames : (Fields.names settings).Nodup)
    (h : gatherOptions settings = .ok gathered) :
    ∃ c, ofSettings settings = .ok c
      ∧ c.injectMarker
        = (Fields.get? settings "inject_annotation").getD (.text "@javax.inject.Inject")
      ∧ c.singletonMarker
        = (Fields.get? settings "singleton_annotation").getD (.text "@javax.inject.Singleton") := by
  obtain ⟨hnodup, hget⟩ := gatherOptions_eq_ok hnames h
  obtain ⟨c, hc, hfields⟩ := toFields_ofFields (mem_settingNames_of_gathered h) {}
  have hfield : ∀ name ∈ settingNames, name ≠ optionsName → Fields.get? c.toFields name
      = (Fields.get? settings name).or (Fields.get? (toFields {}) name) :=
    fun name hname hother => by
      rw [hfields, Fields.get?_putAll hnodup, hget name hname hother]
  have hinject : some c.injectMarker = (Fields.get? settings "inject_annotation").or
      (some (.text "@javax.inject.Inject")) :=
    hfield "inject_annotation" (by decide) (by decide)
  have hsingleton : some c.singletonMarker = (Fields.get? settings "singleton_annotation").or
      (some (.text "@javax.inject.Singleton")) :=
    hfield "singleton_annotation" (by decide) (by decide)
  rw [Option.or_some] at hinject hsingleton
  refine ⟨{ c with lineEnding := resolvedEnding c.lineEnding }, ?_, Option.some.inj hinject,
    Option.some.inj hsingleton⟩
  rw [ofSettings, h]
  show (ofFields gathered >>= _) = _
  rw [ofFields, hc]
  rfl

/-- Warnings look at the annotations, which have to be texts for that. -/
theorem exists_warnings_iff :
    (∃ ws, c.warnings = .ok ws)
      ↔ c.injectMarker.isText = true ∧ c.singletonMarker.isText = true := by
  have htext : ∀ (name : String) (v : Value) (ws : List String),
      annotationWarnings name v = .ok ws → v.isText = true := by
    intro name v ws h
    cases v with
    | text s => rfl
    | _ => exact nomatch h
  constructor
  · rintro ⟨ws, h⟩
    obtain ⟨inject, hinject, h⟩ := bind_eq_ok.mp h
    obtain ⟨singleton, hsingleton, -⟩ := bind_eq_ok.mp h
    exact ⟨htext _ _ _ hinject, htext _ _ _ hsingleton⟩
  · rintro ⟨hinject, hsingleton⟩
    obtain ⟨inject, hinject⟩ := exists_annotationWarnings "inject_annotation" hinject
    obtain ⟨singleton, hsingleton⟩ := exists_annotationWarnings "singleton_annotation" hsingleton
    exact ⟨_, bind_eq_ok.mpr ⟨inject, hinject, bind_eq_ok.mpr ⟨singleton, hsingleton, rfl⟩⟩⟩

theorem combine_of_proper (h : Json.Proper (.object settings)) :
    combine [] settings .null = ofSettings settings := by
  have hmerge : merge [] settings = .ok settings := by
    cases h with
    | object hnames h => exact merge_of_new hnames h fun _ _ => List.not_mem_nil
    | scalar h => exact nomatch h
  unfold combine
  rw [hmerge]
  rfl

theorem getD_isText_iff {o : Option Value} {s : String} :
    (o.getD (.text s)).isText = true ↔ ∀ v, o = some v → v.isText = true := by
  cases o with
  | none => exact ⟨fun _ _ hv => (nomatch hv), fun _ => rfl⟩
  | some v => exact ⟨fun h w hw => Option.some.inj hw ▸ h, fun h => h v rfl⟩

theorem names_nodup_of_proper (h : Json.Proper (.object settings)) :
    (Fields.names settings).Nodup := by
  cases h with
  | object hnames _ => exact hnames
  | scalar h => exact nomatch h

theorem fitting_iff (h : Json.Proper (.object settings)) :
    Fitting settings
      ↔ ∃ c ws, combine [] settings .null = .ok c ∧ c.warnings = .ok ws := by
  have hnames := names_nodup_of_proper h
  rw [combine_of_proper h]
  constructor
  · intro hfits
    obtain ⟨gathered, hgathered⟩ := exists_gatherOptions_iff.mpr hfits.options
    obtain ⟨c, hc, hinject, hsingleton⟩ := exists_ofSettings hnames hgathered
    obtain ⟨ws, hws⟩ := exists_warnings_iff.mpr
      ⟨hinject ▸ getD_isText_iff.mpr hfits.inject,
        hsingleton ▸ getD_isText_iff.mpr hfits.singleton⟩
    exact ⟨c, ws, hc, hws⟩
  · rintro ⟨c, ws, hc, hws⟩
    obtain ⟨gathered, hshaped, -⟩ := bind_eq_ok.mp hc
    have hgathered := shaped_eq_ok.mp hshaped
    obtain ⟨d, hd, hinject, hsingleton⟩ := exists_ofSettings hnames hgathered
    cases Except.ok.inj (hd.symm.trans hc)
    obtain ⟨hinjectText, hsingletonText⟩ := exists_warnings_iff.mp ⟨ws, hws⟩
    exact ⟨exists_gatherOptions_iff.mp ⟨gathered, hgathered⟩,
      getD_isText_iff.mp (hinject ▸ hinjectText), getD_isText_iff.mp (hsingleton ▸ hsingletonText)⟩

/-- Only their shape keeps settings from making a configuration, whatever they are joined with. -/
theorem mismatch_of_combine {defaults : Fields} {custom : Value}
    (h : combine defaults settings custom = .error f) : ∃ m, f = .mismatch m := by
  rcases bind_eq_error.mp h with hmerge | ⟨_, -, h⟩
  · exact mismatch_of_shaped hmerge
  · rcases bind_eq_error.mp h with hcustom | ⟨_, -, h⟩
    · exact mismatch_of_shaped hcustom
    · rcases bind_eq_error.mp h with hmerge | ⟨merged, -, h⟩
      · exact mismatch_of_shaped hmerge
      · rcases bind_eq_error.mp h with hgather | ⟨gathered, hgather, h⟩
        · exact mismatch_of_shaped hgather
        · obtain ⟨c, hc, -⟩ :=
            toFields_ofFields (mem_settingNames_of_gathered (shaped_eq_ok.mp hgather)) {}
          have hfields : ofFields gathered = .ok c := hc
          rw [hfields] at h
          exact nomatch h

end Settings

/-! ## Files of settings -/

/-- The wording for a file of settings. -/
def wordingOf (p : Path) : Loading.Wording where
  refused r := .config (.fileRefused p.text r)
  malformed m := .config (.fileMalformed p.text m)

def objectIn (p : Path) : Value → Except Fault Fields
  | .object settings => .ok settings
  | _ => refuse (.fileNoObject p.text)

/-- The faults that are documented for configurations. -/
def IsDocumented : Fault → Prop
  | .config _ => True
  | _ => False

/-- Whether there is a file of the name can be answered, and if the suffix is that of JSON, so can
what the file says, and settings that it holds fit. -/
structure Answerable (t : FileTree) (p : Path) : Prop where
  presence : ∀ r, t.isThere p ≠ .error r
  content : Text.lower p.suffix = ".json" → Loading.Legible t p
  fitting : Text.lower p.suffix = ".json" →
    ∀ settings, Loading.Holds t p (.object settings) → Fitting settings

/-- The faults that nothing is documented of: those of any file, and those of a value's shape. -/
def IsStray (p : Path) (f : Fault) : Prop := Loading.IsStray p f ∨ ∃ m, f = .mismatch m

section Files

variable {t : FileTree} {name : String} {settings : Fields} {s : Session} {f : Fault}

theorem not_documented_of_isStray {p : Path} (h : IsStray p f) : ¬ IsDocumented f := by
  rcases h with (⟨r, -, rfl⟩ | rfl | rfl | rfl) | ⟨m, rfl⟩ <;> exact id

theorem settingsIn_eq (t : FileTree) (name : String) :
    settingsIn t name =
      match t.isThere (.ofString name) with
      | .error reason => .error (.system ⟨reason, (Path.ofString name).text⟩)
      | .ok false => refuse (.fileMissing (Path.ofString name).text)
      | .ok true =>
        if Text.lower (Path.ofString name).suffix = ".json" then
          Loading.contentAt (wordingOf (.ofString name)) t (.ofString name)
            >>= objectIn (.ofString name)
        else refuse (.fileNotJson (Path.ofString name).text) := by
  unfold settingsIn
  dsimp only
  generalize Path.ofString name = p
  cases t.isThere p with
  | error reason => rfl
  | ok there =>
    cases there with
    | false => rfl
    | true =>
      by_cases hsuffix : Text.lower p.suffix = ".json"
      · rw [if_pos hsuffix]
        have hsame : (Text.lower p.suffix != ".json") = false := by rw [hsuffix]; rfl
        simp only [hsame, Bool.false_eq_true, if_false, Loading.contentAt]
        cases t.read p with
        | error reason => rfl
        | ok bytes =>
          dsimp only
          cases decodeLines bytes with
          | none => rfl
          | some text =>
            dsimp only
            cases Json.read text with
            | error unread => rfl
            | ok v => cases v <;> rfl
      · rw [if_neg hsuffix]
        have hother : (Text.lower p.suffix != ".json") = true := bne_iff_ne.mpr hsuffix
        simp only [hother, if_true]
        rfl

theorem holds_of_settingsIn (h : settingsIn t name = .ok settings) :
    Text.lower (Path.ofString name).suffix = ".json"
      ∧ Loading.Holds t (.ofString name) (.object settings) := by
  rw [settingsIn_eq] at h
  split at h
  · exact nomatch h
  · exact nomatch h
  · split at h
    · next hsuffix =>
      obtain ⟨v, hv, h⟩ := bind_eq_ok.mp h
      refine ⟨hsuffix, ?_⟩
      cases v with
      | object settings' =>
        cases h
        exact Loading.contentAt_eq_ok.mp hv
      | _ => exact nomatch h
    · exact nomatch h

/-- Why a file gives no settings: the cause is documented, or the file cannot be answered. -/
theorem settingsIn_eq_error (h : settingsIn t name = .error f) :
    IsDocumented f ∧ Answerable t (.ofString name)
      ∨ IsStray (.ofString name) f ∧ ¬ Answerable t (.ofString name) := by
  rw [settingsIn_eq] at h
  split at h
  · next reason hreason =>
    cases h
    exact .inr ⟨.inl (.inl ⟨reason, reason_of_isThere hreason, rfl⟩),
      fun hanswer => hanswer.presence reason hreason⟩
  · next hmissing =>
    cases h
    have hunread : ∀ bytes, t.read (.ofString name) ≠ .ok bytes := fun bytes hbytes =>
      nomatch hmissing.symm.trans (isThere_of_read hbytes)
    refine .inl ⟨trivial, fun _ => by rw [hmissing]; exact nofun, fun _ bytes hbytes => ?_, ?_⟩
    · exact absurd hbytes (hunread bytes)
    · rintro - settings ⟨bytes, _, hbytes, -⟩
      exact absurd hbytes (hunread bytes)
  · next hfound =>
    have hpresence : ∀ r, t.isThere (.ofString name) ≠ .error r := fun _ => by
      rw [hfound]
      exact nofun
    split at h
    · next hsuffix =>
      rcases bind_eq_error.mp h with hcontent | ⟨v, hcontent, hobject⟩
      · rcases Loading.contentAt_eq_error hcontent with ⟨hworded, hlegible⟩ | ⟨hstray, hillegible⟩
        · refine .inl ⟨?_, hpresence, fun _ => hlegible, fun _ settings hholds => ?_⟩
          · rcases hworded with ⟨r, rfl⟩ | ⟨m, rfl⟩ <;> trivial
          · exact nomatch hcontent.symm.trans (Loading.contentAt_eq_ok.mpr hholds)
        · exact .inr ⟨.inl hstray, fun hanswer => hillegible (hanswer.content hsuffix)⟩
      · refine .inl ⟨?_, hpresence, fun _ => ?_, fun _ settings hholds => ?_⟩
        · cases v with
          | object settings => exact nomatch hobject
          | _ =>
            cases hobject
            trivial
        · exact Loading.legible_of_holds (Loading.contentAt_eq_ok.mp hcontent)
        · cases Loading.holds_unique (Loading.contentAt_eq_ok.mp hcontent) hholds
          exact nomatch hobject
    · next hsuffix =>
      cases h
      exact .inl ⟨trivial, hpresence, fun hjson => absurd hjson hsuffix,
        fun hjson => absurd hjson hsuffix⟩

/-- A file that gives settings can be answered if they fit. -/
theorem answerable_iff_fitting (h : settingsIn t name = .ok settings) :
    Answerable t (.ofString name) ↔ Fitting settings := by
  obtain ⟨hsuffix, hholds⟩ := holds_of_settingsIn h
  refine ⟨fun hanswer => hanswer.fitting hsuffix settings hholds, fun hfits => ⟨?_, ?_, ?_⟩⟩
  · exact (Loading.answerable_of_holds hholds).presence
  · exact fun _ => Loading.legible_of_holds hholds
  · intro _ settings' hholds'
    cases Loading.holds_unique hholds hholds'
    exact hfits

/-! ## Loading -/

/-- The settings of the file that a configuration is loaded from: no file has the empty name. -/
def loadedSettings (t : FileTree) (name : String) : Except Fault Fields :=
  if name = "" then .ok [] else settingsIn t name

theorem outcome_load (s : Session) (generator : String) (custom : Value) (name : String) :
    outcome (load generator custom (.text name)) s = (do
      let settings ← loadedSettings s.tree name
      let c ← combine (defaultsOf generator) settings custom
      let _ ← shaped c.warnings
      return c) := by
  have hrest : ∀ (settings : Fields) (s' : Session), outcome (do
        let c ← Step.lift (combine (defaultsOf generator) settings custom)
        let ws ← Step.lift (shaped c.warnings)
        Step.logAll (ws.map warningRecord)
        return c) s' = (do
      let c ← combine (defaultsOf generator) settings custom
      let _ ← shaped c.warnings
      return c) := fun settings s' => by
    simp only [outcome_lift_bind]
    rfl
  unfold loadedSettings load
  by_cases hname : name = ""
  · have hfile : Gives (fileSettings (.text name)) s [] s := by
      rw [hname]
      exact gives_pure.mpr ⟨rfl, rfl⟩
    rw [if_pos hname, outcome_bind_of_gives hfile]
    exact hrest [] s
  · have htruthy : (Value.text name).truthy = true := bne_iff_ne.mpr hname
    have hfile : fileSettings (.text name) = readSettings name := by
      rw [fileSettings, htruthy]
      exact pure_bind name readSettings
    rw [if_neg hname, hfile]
    cases hsettings : settingsIn s.tree name with
    | ok settings => exact (outcome_bind_of_gives (gives_readSettings hsettings)).trans (hrest _ _)
    | error f =>
      have hfault : outcome (readSettings name) s = .error f := by
        rw [readSettings, outcome_bind_of_gives (gives_tree s), outcome_lift_bind, hsettings]
        rfl
      exact outcome_bind_of_fault hfault

theorem loadedSettings_eq_error (h : loadedSettings s.tree name = .error f) :
    IsDocumented f ∧ Answerable s.tree (.ofString name)
      ∨ IsStray (.ofString name) f ∧ ¬ Answerable s.tree (.ofString name) := by
  unfold loadedSettings at h
  split at h
  · exact nomatch h
  · exact settingsIn_eq_error h

theorem fitting_nil : Fitting [] := ⟨fun h => absurd rfl h, nofun, nofun⟩

theorem loadedSettings_eq_ok (h : loadedSettings s.tree name = .ok settings) :
    Json.Proper (.object settings)
      ∧ (Answerable s.tree (.ofString name) ↔ Fitting settings) := by
  unfold loadedSettings at h
  split at h
  · next hname =>
    cases h
    have hsuffix : Text.lower (Path.ofString name).suffix ≠ ".json" := by
      rw [hname]
      decide
    have hthere : s.tree.isThere (.ofString name) = .ok true := by
      rw [hname]
      rfl
    refine ⟨.object List.nodup_nil nofun, iff_of_true ⟨?_, ?_, ?_⟩ fitting_nil⟩
    · intro r
      rw [hthere]
      exact nofun
    · exact fun hjson => absurd hjson hsuffix
    · exact fun hjson => absurd hjson hsuffix
  · exact ⟨proper_of_settingsIn h, answerable_iff_fitting h⟩

/-- A configuration is loaded from a file that can be answered. -/
theorem load_eq_ok {c : Config} (h : outcome (load "" .null (.text name)) s = .ok c) :
    Answerable s.tree (.ofString name) := by
  rw [outcome_load] at h
  obtain ⟨settings, hsettings, h⟩ := bind_eq_ok.mp h
  obtain ⟨c', hcombine, h⟩ := bind_eq_ok.mp h
  obtain ⟨ws, hws, -⟩ := bind_eq_ok.mp h
  obtain ⟨hproper, hanswer⟩ := loadedSettings_eq_ok hsettings
  exact hanswer.mpr ((fitting_iff hproper).mpr ⟨c', ws, hcombine, shaped_eq_ok.mp hws⟩)

/-- A fault of a configuration is documented, or the file cannot be answered. -/
theorem load_eq_error (h : outcome (load "" .null (.text name)) s = .error f) :
    IsDocumented f ∧ Answerable s.tree (.ofString name)
      ∨ IsStray (.ofString name) f ∧ ¬ Answerable s.tree (.ofString name) := by
  rw [outcome_load] at h
  rcases bind_eq_error.mp h with hsettings | ⟨settings, hsettings, h⟩
  · exact loadedSettings_eq_error hsettings
  · obtain ⟨hproper, hanswer⟩ := loadedSettings_eq_ok hsettings
    rw [hanswer, fitting_iff hproper]
    rcases bind_eq_error.mp h with hcombine | ⟨c, hcombine, h⟩
    · refine .inr ⟨.inr (mismatch_of_combine hcombine), fun ⟨c, _, hc, _⟩ => ?_⟩
      exact nomatch hc.symm.trans hcombine
    · rcases bind_eq_error.mp h with hwarnings | ⟨_, _, h⟩
      · obtain ⟨m, hm, hf⟩ := shaped_eq_error.mp hwarnings
        refine .inr ⟨.inr ⟨m, hf⟩, fun ⟨c', ws, hc', hws⟩ => ?_⟩
        cases hc'.symm.trans hcombine
        exact nomatch hws.symm.trans hm
      · exact nomatch h

/-- With any generator and any explicit settings, what is not documented is due to the file or to
the shape of a value. -/
theorem documented_or_stray {generator : String} {custom : Value}
    (h : outcome (load generator custom (.text name)) s = .error f) :
    IsDocumented f ∨ IsStray (.ofString name) f := by
  rw [outcome_load] at h
  rcases bind_eq_error.mp h with hsettings | ⟨settings, -, h⟩
  · exact (loadedSettings_eq_error hsettings).imp And.left And.left
  · rcases bind_eq_error.mp h with hcombine | ⟨c, -, h⟩
    · exact .inr (.inr (mismatch_of_combine hcombine))
    · rcases bind_eq_error.mp h with hwarnings | ⟨_, -, h⟩
      · exact .inr (.inr (mismatch_of_shaped hwarnings))
      · exact nomatch h

theorem documented_iff (s : Session) (name : String) :
    (∀ f, outcome (load "" .null (.text name)) s = .error f → IsDocumented f)
      ↔ Answerable s.tree (.ofString name) := by
  refine forall_error_iff (fun c hc => load_eq_ok hc) fun f hf => ?_
  exact (load_eq_error hf).imp_right fun ⟨hstray, hnone⟩ =>
    ⟨not_documented_of_isStray hstray, hnone⟩

end Files

end Config
end JavaCompanion
