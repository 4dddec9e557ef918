/-
Saving a configuration and loading it again.

A configuration is saved with its line ending by name, and every other setting as it is.
Loading merges what the file says into no settings at all, sorts out settings that nobody
knows, of which a saved configuration has none, and gives the line ending back for its name.
So a configuration that is not warned about is loaded as it was saved, if it can be copied, and
otherwise nothing is saved (`load_save`).
-/
import JavaCompanion.Config.Sources
import JavaCompanion.Proofs.Json.Pieces
import JavaCompanion.Proofs.Json.RoundTrip
import JavaCompanion.Proofs.Session

namespace JavaCompanion
namespace Config

open FileTree Step

/-! ## Settings -/

theorem nodup_savedFields (c : Config) : (Fields.names c.savedFields).Nodup := by
  show settingNames.Nodup
  decide

/-- A setting that is not there yet is added as it is. -/
theorem mergeField_of_new {settings : Fields} {f : String × Value}
    (hnew : f.1 ∉ Fields.names settings) (hproper : Json.Proper f.2) :
    mergeField settings f = .ok (settings ++ [f]) := by
  obtain ⟨name, v⟩ := f
  have hput : Fields.put name v settings = settings ++ [(name, v)] := Fields.put_eq_append hnew v
  cases v with
  | object options =>
    simp only [mergeField]
    by_cases hname : name = optionsName
    · have hnames : (Fields.names options).Nodup := by
        cases hproper with
        | object hnames _ => exact hnames
        | scalar h => exact nomatch h
      subst hname
      rw [if_pos rfl, Fields.get?_eq_none hnew]
      show Except.ok (Fields.put optionsName (.object (Fields.putAll [] options)) settings) = _
      rw [Fields.putAll_nil hnames, hput]
    · rw [if_neg hname, hput]
  | _ => exact congrArg Except.ok hput

theorem merge_of_new {new settings : Fields} (hnames : (Fields.names new).Nodup)
    (hproper : ∀ f ∈ new, Json.Proper f.2)
    (hapart : ∀ name ∈ Fields.names new, name ∉ Fields.names settings) :
    merge settings new = .ok (settings ++ new) := by
  induction new generalizing settings with
  | nil => exact congrArg Except.ok (List.append_nil settings).symm
  | cons f rest ih =>
    obtain ⟨hf, hrest⟩ := List.nodup_cons.mp hnames
    unfold merge at ih ⊢
    rw [List.foldlM_cons, mergeField_of_new (hapart f.1 List.mem_cons_self)
      (hproper f List.mem_cons_self)]
    show rest.foldlM mergeField (settings ++ [f]) = _
    rw [ih hrest (fun g hg => hproper g (List.mem_cons_of_mem f hg)), List.append_assoc]
    · rfl
    · intro name hname hmem
      rw [Fields.names, List.map_append, List.mem_append, List.map_singleton,
        List.mem_singleton] at hmem
      rcases hmem with hold | rfl
      · exact hapart name (List.mem_cons_of_mem f.1 hname) hold
      · exact hf hname

theorem gatherOptions_toFields (c : Config) : gatherOptions c.toFields = .ok c.toFields := rfl

theorem ofFields_toFields (c : Config) : ofFields c.toFields = .ok c := rfl

/-! ## Line endings -/

/-- A line ending that is not warned about is found again under its name. -/
theorem resolvedEnding_namedEnding {c : Config} (h : c.endingWarnings = []) :
    resolvedEnding (namedEnding c.lineEnding) = c.lineEnding := by
  unfold endingWarnings at h
  split at h
  · next hany =>
    obtain ⟨entry, hentry, htext⟩ := List.any_eq_true.mp hany
    have hvalue : c.lineEnding = .text entry.2 := by
      cases hv : c.lineEnding with
      | text s =>
        rw [hv] at htext
        exact congrArg Value.text (Option.some.inj (eq_of_beq htext))
      | _ =>
        rw [hv] at htext
        exact nomatch htext
    rw [hvalue]
    have hall : ∀ entry ∈ lineEndings, resolvedEnding (namedEnding (.text entry.2))
        = .text entry.2 := by
      intro entry hentry
      rcases List.mem_pair.mp hentry with rfl | rfl <;> rfl
    exact hall entry hentry
  · exact nomatch h

theorem endingWarnings_eq_nil {c : Config} (h : c.warnings = .ok []) : c.endingWarnings = [] := by
  obtain ⟨inject, -, h⟩ := bind_eq_ok.mp h
  obtain ⟨singleton, -, h⟩ := bind_eq_ok.mp h
  have hall := pure_eq_ok.mp h
  simp only [List.append_eq_nil_iff] at hall
  exact hall.1.1.1.2

/-! ## Loading -/

/-- The settings of a saved configuration make that configuration. -/
theorem combine_savedFields {c : Config} (hvalid : c.warnings = .ok [])
    (hproper : Json.Proper (.object c.savedFields)) :
    combine [] c.savedFields .null = .ok c := by
  have hmerge : merge [] c.savedFields = .ok c.savedFields := by
    cases hproper with
    | object hnames h => exact merge_of_new hnames h fun _ _ => List.not_mem_nil
    | scalar h => exact nomatch h
  have hending := resolvedEnding_namedEnding (endingWarnings_eq_nil hvalid)
  unfold combine
  rw [hmerge]
  show ofSettings c.savedFields = .ok c
  unfold ofSettings savedFields
  rw [gatherOptions_toFields]
  show (do
    let c' ← ofFields (toFields { c with lineEnding := namedEnding c.lineEnding })
    return { c' with lineEnding := resolvedEnding c'.lineEnding } : Except Fault Config) = .ok c
  rw [ofFields_toFields]
  show Except.ok { c with lineEnding := resolvedEnding (namedEnding c.lineEnding) } = Except.ok c
  rw [hending]

/-! ## Files -/

/-- A file that has been opened, with the text written to it. -/
theorem read_append {t t' : FileTree} {p : Path} {place : List String} {bytes : ByteArray}
    (h : t.openFile p false = .ok (t', place)) (hread : t.permits .read place = true) :
    FileTree.read (t'.append place bytes) p = .ok bytes := by
  obtain ⟨hplace, hentry, rfl⟩ := openFile_eq_ok h
  have hempty : (t.put place (.file .empty)).entryAt? place = some (.file .empty) := by
    rw [entryAt?_put hentry, if_pos rfl]
  have hkeeps : Keeps (· = place) t ((t.put place (.file .empty)).append place bytes) :=
    (keeps_put_file hentry _).trans (keeps_append hempty bytes)
  refine read_eq_ok.mpr ⟨place, placeOf_of_keeps hkeeps hplace, ?_, ?_⟩
  · rw [entryAt?_append hempty, ByteArray.empty_append]
  · rw [hkeeps.permits_eq]
    exact hread

theorem settingsIn_of_text {t : FileTree} {name text : String} {fields : Fields}
    {bytes : ByteArray} (hsuffix : Text.lower (Path.ofString name).suffix = ".json")
    (hread : t.read (Path.ofString name) = .ok bytes) (hbytes : Text.bytes? text = some bytes)
    (hlines : Json.NoReturn text) (hjson : Json.read text = .ok (.object fields)) :
    settingsIn t name = .ok fields := by
  unfold settingsIn
  simp only [isThere_of_read hread, hread, hsuffix, bne_self_eq_false, Bool.false_eq_true,
    if_false, decodeLines_bytes hbytes hlines, hjson]

/-! ## Steps -/

theorem gives_save {s : Session} {c : Config} {name : String} {t : FileTree}
    {place : List String} {bytes : ByteArray} (hcalls : c.copyHeight ≤ s.callsLeft)
    (h : s.tree.openFile (Path.ofString name) false = .ok (t, place))
    (hstop : Json.stop? (.object c.savedFields) = none)
    (hbytes : Text.bytes? c.saved = some bytes) :
    Gives (save c name) s () { s with tree := t.append place bytes } := by
  have hhanded : Text.bytes? (Json.handedOver (.object c.savedFields)) = some bytes := by
    rw [Json.handedOver_of_stop?_eq_none hstop]
    exact hbytes
  refine gives_bind.mpr ⟨s, s, gives_get.mpr ⟨rfl, rfl⟩, ?_⟩
  dsimp only
  rw [if_neg (Nat.not_lt.mpr hcalls), h]
  dsimp only
  rw [hhanded, hstop]
  exact gives_bind.mpr ⟨(), _, gives_modify.mpr rfl, gives_pure.mpr ⟨rfl, rfl⟩⟩

theorem run_save_of_few_calls {s : Session} {c : Config} (name : String)
    (hcalls : s.callsLeft < c.copyHeight) : (save c name).run.run s = (.error .tooDeep, s) := by
  rw [save, run_of_gives (gives_get.mpr ⟨rfl, rfl⟩ : Gives get s s s)]
  dsimp only
  rw [if_pos hcalls]
  rfl

theorem gives_readSettings {s : Session} {name : String} {fields : Fields}
    (h : settingsIn s.tree name = .ok fields) :
    Gives (readSettings name) s fields (s.log (loadedRecord (Path.ofString name).text)) := by
  refine gives_bind.mpr ⟨s.tree, s, gives_tree s,
    gives_bind.mpr ⟨fields, s, gives_lift.mpr ⟨h, rfl⟩, ?_⟩⟩
  exact gives_bind.mpr ⟨(), _, gives_modify.mpr rfl, gives_pure.mpr ⟨rfl, rfl⟩⟩

/-- Loading a file of saved settings logs that the file was read, and nothing else. -/
theorem gives_load {s : Session} {c : Config} {name : String} (hvalid : c.warnings = .ok [])
    (hname : name ≠ "") (hproper : Json.Proper (.object c.savedFields))
    (hsettings : settingsIn s.tree name = .ok c.savedFields) :
    Gives (load "" .null (.text name)) s c (s.log (loadedRecord (Path.ofString name).text)) := by
  have htruthy : (Value.text name).truthy = true := bne_iff_ne.mpr hname
  have hfile : Gives (fileSettings (.text name)) s c.savedFields
      (s.log (loadedRecord (Path.ofString name).text)) := by
    unfold fileSettings
    rw [htruthy]
    exact gives_bind.mpr ⟨name, s, gives_lift.mpr ⟨rfl, rfl⟩, gives_readSettings hsettings⟩
  refine gives_bind.mpr ⟨c.savedFields, _, hfile, ?_⟩
  refine gives_bind.mpr ⟨c, _, gives_lift.mpr ⟨combine_savedFields hvalid hproper, rfl⟩, ?_⟩
  refine gives_bind.mpr ⟨[], _, gives_lift.mpr ⟨shaped_eq_ok.mpr hvalid, rfl⟩, ?_⟩
  exact gives_bind.mpr ⟨(), _, gives_modify.mpr rfl, gives_pure.mpr ⟨rfl, rfl⟩⟩

/-- A configuration that is not warned about, saved to a file that can be written and read and
whose suffix is that of JSON, is loaded from there as it was, in every setting.  What is relied on
is that JSON can be written and reads back, and that there are enough calls left for a copy; if
there are not, the configuration is refused and the files stay as they are. -/
theorem load_save {c : Config} {name : String} {s : Session} {t : FileTree} {place : List String}
    (hvalid : c.warnings = .ok [])
    (hsuffix : Text.lower (Path.ofString name).suffix = ".json")
    (hopen : s.tree.openFile (Path.ofString name) false = .ok (t, place))
    (hread : s.tree.permits .read place = true)
    (hstop : Json.stop? (.object c.savedFields) = none)
    (hjson : Json.read c.saved = .ok (.object c.savedFields)) :
    (c.copyHeight ≤ s.callsLeft →
        ∃ s', Gives (do save c name; load "" .null (.text name)) s c s')
      ∧ (s.callsLeft < c.copyHeight → (save c name).run.run s = (.error .tooDeep, s)) := by
  refine ⟨fun hcalls => ?_, run_save_of_few_calls name⟩
  have hname : name ≠ "" := fun hempty => by
    rw [hempty] at hsuffix
    exact absurd hsuffix (by decide)
  obtain ⟨bytes, hbytes⟩ : ∃ bytes, Text.bytes? c.saved = some bytes := Json.bytes?_write hstop
  have hsettings : settingsIn (t.append place bytes) name = .ok c.savedFields :=
    settingsIn_of_text hsuffix (read_append hopen hread) hbytes (Json.noReturn_write _) hjson
  have hload := @gives_load { s with tree := t.append place bytes } c name hvalid hname
    (Json.proper_of_read hjson) hsettings
  exact ⟨_, gives_bind.mpr ⟨(), _, gives_save hcalls hopen hstop hbytes, hload⟩⟩

theorem annotationWarnings_eq_nil (name : String) {s : String} (h : ['@'] <+: s.toList) :
    annotationWarnings name (.text s) = .ok [] := by
  have hstarts : s.startsWith "@" = true := String.startsWith_string_iff.mpr h
  refine bind_eq_ok.mpr ⟨s, rfl, ?_⟩
  rw [if_pos hstarts]
  rfl

/-- A configuration of two blanks for each level, with an option that has the name of a
setting. -/
def windowsConfig : Config where
  indentWidth := .int 2
  lineEnding := .text "\r\n"
  headerTemplate := .text "Made for \"us\"\n"
  generatorOptions := .object [("indent_width", .list [.null, .bool false]), ("more", .object [])]

theorem readable_windowsConfig :
    Json.Readable Json.nestingLimit (.object windowsConfig.savedFields) := by
  refine .object (nodup_savedFields _) ?_
  simp only [savedFields, toFields, List.forall_mem_cons]
  refine ⟨.int (by decide), .text _, .text _, .text _, .text _, .text _, .text _, .bool _, .text _,
    .object (by decide) ?_, List.forall_mem_nil _⟩
  simp only [List.forall_mem_cons]
  refine ⟨.list ?_, .object (by decide) (List.forall_mem_nil _), List.forall_mem_nil _⟩
  simp only [List.forall_mem_cons]
  exact ⟨.null, .bool false, List.forall_mem_nil _⟩

theorem placeOf_settings :
    ({} : FileTree).placeOf (Path.ofString "settings.json") = .ok ["settings.json"] := by
  decide +kernel

theorem openFile_settings : ({} : FileTree).openFile (Path.ofString "settings.json") false
    = .ok ({ entries := [(["settings.json"], .file .empty)] }, ["settings.json"]) := by
  rw [openFile, placeOf_settings]
  rfl

theorem suffix_settings : Text.lower (Path.ofString "settings.json").suffix = ".json" := by
  decide +kernel

theorem windowsConfig_reloaded :
    ∃ s', Gives (do save windowsConfig "settings.json"; load "" .null (.text "settings.json")) {}
      windowsConfig s' := by
  have hvalid : windowsConfig.warnings = .ok [] :=
    bind_eq_ok.mpr ⟨[], annotationWarnings_eq_nil _ (by decide),
      bind_eq_ok.mpr ⟨[], annotationWarnings_eq_nil _ (by decide), rfl⟩⟩
  have hstop : Json.stop? (.object windowsConfig.savedFields) = none := by decide +kernel
  have hcalls : windowsConfig.copyHeight ≤ ({} : Session).callsLeft := by decide +kernel
  exact (@load_save windowsConfig "settings.json" {} _ _ hvalid suffix_settings openFile_settings
    rfl hstop (Json.read_write readable_windowsConfig)).1 hcalls

/-! ## A configuration that cannot be copied -/

/-- Empty but for lists inside each other. -/
def nested : Nat → Value
  | 0 => .list []
  | n + 1 => .list [nested n]

theorem height_nested (leaf step n : Nat) : (nested n).height leaf step = (n + 1) * step := by
  induction n with
  | zero => simp [nested, Value.height, Value.heightItems]
  | succ n ih =>
    rw [nested, Value.height, Value.heightItems, Value.heightItems, ih, Nat.max_zero,
      Nat.succ_mul (n + 1), Nat.add_comm]

theorem readable_nested {d n : Nat} (h : n < d) : Json.Readable d (nested n) := by
  induction n generalizing d with
  | zero =>
    obtain ⟨d, rfl⟩ : ∃ k, d = k + 1 := ⟨d - 1, by omega⟩
    exact .list (List.forall_mem_nil _)
  | succ n ih =>
    obtain ⟨d, rfl⟩ : ∃ k, d = k + 1 := ⟨d - 1, by omega⟩
    exact .list (List.forall_mem_singleton.mpr (ih (by omega)))

/-- The default configuration but for an option of so many lists inside each other. -/
def deepConfig (levels : Nat) : Config where
  generatorOptions := .object [("deep", nested levels)]

theorem readable_deepConfig {levels : Nat} (h : levels + 2 < Json.nestingLimit) :
    Json.Readable Json.nestingLimit (.object (deepConfig levels).savedFields) := by
  refine .object (nodup_savedFields _) ?_
  simp only [deepConfig, savedFields, toFields, List.forall_mem_cons]
  refine ⟨.int (by decide), .text _, .text _, .text _, .text _, .text _, .text _, .bool _, .null,
    .object (List.pairwise_singleton _ _) ?_, List.forall_mem_nil _⟩
  exact List.forall_mem_singleton.mpr (readable_nested (Nat.lt_sub_of_add_lt h))

/-- Six hundred lists inside each other are read from JSON, but are too many to be saved. -/
theorem deepConfig_not_saved :
    (deepConfig 600).warnings = .ok []
      ∧ Json.read (deepConfig 600).saved = .ok (.object (deepConfig 600).savedFields)
      ∧ Text.lower (Path.ofString "settings.json").suffix = ".json"
      ∧ (∃ opened, ({} : Session).tree.openFile (Path.ofString "settings.json") false = .ok opened)
      ∧ (save (deepConfig 600) "settings.json").run.run {} = (.error .tooDeep, {}) := by
  have hvalid : (deepConfig 600).warnings = .ok [] :=
    bind_eq_ok.mpr ⟨[], annotationWarnings_eq_nil _ (by decide),
      bind_eq_ok.mpr ⟨[], annotationWarnings_eq_nil _ (by decide), rfl⟩⟩
  have hcalls : ({} : Session).callsLeft < (deepConfig 600).copyHeight := by
    simp [copyHeight, deepConfig, toFields, Value.height, Value.heightFields, height_nested]
  exact ⟨hvalid, Json.read_write (readable_deepConfig (by decide)), suffix_settings,
    ⟨_, openFile_settings⟩, run_save_of_few_calls _ hcalls⟩

end Config
end JavaCompanion
