/-
Which faults of files the command line tells of.

A command that cannot load its descriptors or one of its configurations is given up for a reason, if
the fault is a documented one; any other fault ends the run.  A reason is shown with an exit code of
one, if the screen can show it (`GivenUp`).  Documented faults are all there are exactly for files
that can be answered (`documented_iff_answerable`).  Bytes that are no text cannot, nor can an
annotation that is no text (`undecodable_escapes`).
-/
import JavaCompanion.CommandLine.Run
import JavaCompanion.Proofs.Config.Faults

namespace JavaCompanion
namespace CommandLine

open FileTree Step

variable {α : Type} {s : Session} {f : Fault} {o : Generate} {name : String}

/-! ## Faults that are told -/

/-- The fault of a command that is given up, or the fault itself if it is not told. -/
def told (reason? : Fault → Option String) (f : Fault) : Fault :=
  match reason? f with
  | some reason => .command reason
  | none => f

theorem run_tryCatch_of_fault {x : Step α} {handle : Fault → Step α}
    (h : outcome x s = .error f) :
    (tryCatch x handle).run.run s = (handle f).run.run (x.run.run s).2 := by
  have hrun : StateT.run x s = (.error f, (StateT.run x s).2) := Prod.ext h rfl
  show StateT.run (ExceptT.run (ExceptT.tryCatch x handle)) s
    = StateT.run (handle f) (StateT.run x s).2
  simp only [ExceptT.tryCatch, ExceptT.run_mk, StateT.run_bind]
  rw [hrun]
  rfl

theorem outcome_tryCatch_of_fault {x : Step α} {handle : Fault → Step α}
    (h : outcome x s = .error f) :
    outcome (tryCatch x handle) s = outcome (handle f) (x.run.run s).2 :=
  congrArg Prod.fst (run_tryCatch_of_fault h)

theorem outcome_orRefuse_of_fault {reason? : Fault → Option String} {x : Step α}
    (h : outcome x s = .error f) : outcome (orRefuse reason? x) s = .error (told reason? f) := by
  refine (outcome_tryCatch_of_fault h).trans ?_
  unfold told
  cases reason? f <;> rfl

theorem told_of_reason {reason? : Fault → Option String} {reason : String}
    (h : reason? f = some reason) : told reason? f = .command reason := by
  rw [told, h]

theorem told_of_none {reason? : Fault → Option String} (h : reason? f = none) :
    told reason? f = f := by
  rw [told, h]

theorem exists_loadingReason (h : Loading.IsDocumented f) :
    ∃ reason, loadingReason f = some reason := by
  cases f with
  | fileMissing path => exact ⟨_, rfl⟩
  | loading f => exact ⟨_, rfl⟩
  | _ => exact nomatch h

theorem loadingReason_of_isStray {p : Path} (h : Loading.IsStray p f) :
    loadingReason f = none := by
  rcases h with ⟨r, -, rfl⟩ | rfl | rfl | rfl <;> rfl

theorem exists_configReason (h : Config.IsDocumented f) :
    ∃ reason, configReason f = some reason := by
  cases f with
  | config f => exact ⟨_, rfl⟩
  | _ => exact nomatch h

theorem configReason_of_isStray {p : Path} (h : Config.IsStray p f) : configReason f = none := by
  rcases h with (⟨r, -, rfl⟩ | rfl | rfl | rfl) | ⟨m, rfl⟩ <;> rfl

/-! ## The command that generates -/

/-- The options name a file of descriptors, and no other source of them. -/
structure AsksFor (o : Generate) (name : String) : Prop where
  stdin : o.stdin = false
  file : o.file = some name
  name_ne : name ≠ ""
  url : o.url.filter (· != "") = none

theorem load_of_asksFor (h : AsksFor o name) (timeout : Value) :
    Loading.load o.file o.url timeout = Loading.fromFile name := by
  have hfile : o.file.filter (· != "") = some name := by
    rw [h.file, Option.filter_some, if_pos (bne_iff_ne.mpr h.name_ne)]
  rw [Loading.load, hfile, h.url]

/-- If the descriptors cannot be loaded, that ends the command. -/
theorem generate_of_fault (h : AsksFor o name) (input : String)
    (hfault : outcome (Loading.fromFile name) s = .error f) :
    outcome (generate o input) s = .error (told loadingReason f) := by
  refine outcome_bind_of_fault (outcome_orRefuse_of_fault ?_)
  rw [h.stdin, if_neg Bool.false_ne_true, load_of_asksFor h]
  exact outcome_bind_of_fault hfault

/-- The command gets as far as the configuration for a generator, with this session: it has its
descriptors, its generators, and the configurations for those before. -/
def Reaches (o : Generate) (input : String) (s : Session) (generator : String) (s' : Session) :
    Prop :=
  ∃ es before after configs loaded chosen, Gives (loadElements o input) s es loaded
    ∧ Gives (chooseGenerators o.generators) loaded (before ++ generator :: after) chosen
    ∧ Gives (before.mapM (configured o)) chosen configs s'

/-- If a configuration cannot be loaded, that ends the command. -/
theorem generate_of_config_fault {input generator : String} {s' : Session}
    (h : Reaches o input s generator s')
    (hfault : outcome (Config.load generator (.object (overrides o)) (.text o.config)) s'
      = .error f) : outcome (generate o input) s = .error (told configReason f) := by
  obtain ⟨es, before, after, configs, loaded, chosen, hload, hchoose, hbefore⟩ := h
  have hconfigured : outcome (configured o generator) s' = .error (told configReason f) :=
    outcome_bind_of_fault (outcome_orRefuse_of_fault hfault)
  rw [generate, outcome_bind_of_gives hload, outcome_bind_of_gives hchoose]
  exact outcome_bind_of_fault (outcome_mapM_of_fault hbefore hconfigured)

/-! ## What is shown -/

/-- The session that a command leaves, whether or not it has been carried out. -/
def left (input : String) (c : Command) (s : Session) : Session := ((carryOut input c).run.run s).2

/-- What is shown of a command that is given up. -/
def shownReason (reason : String) : String := "[red]✗ Error:[/red] " ++ reason

/-- A command is given up for the reason.  The program shows that and exits with one, unless the
screen cannot show it: then that ends the run. -/
structure GivenUp (input : String) (c : Command) (s : Session) (reason : String) : Prop where
  refused : outcome (carryOut input c) s = .error (.command reason)
  shown : ∀ lines, (left input c s).screen.text (shownReason reason) = .ok lines →
    Gives (carryOutOrTell input c) s 1
      { left input c s with console := (left input c s).console ++ lines }
  unshown : ∀ f, (left input c s).screen.text (shownReason reason) = .error f →
    outcome (carryOutOrTell input c) s = .error f

theorem gives_print (lines : List String) (s : Session) :
    Gives (lines.forM Step.print) s () { s with console := s.console ++ lines } := by
  induction lines generalizing s with
  | nil =>
    rw [List.append_nil]
    rfl
  | cons line rest ih =>
    refine gives_bind.mpr ⟨(), { s with console := s.console ++ [line] }, rfl, ?_⟩
    have hrest := ih { s with console := s.console ++ [line] }
    rwa [List.append_assoc, List.singleton_append] at hrest

theorem gives_say {text : String} {lines : List String} (h : s.screen.text text = .ok lines) :
    Gives (say text) s () { s with console := s.console ++ lines } :=
  gives_bind.mpr ⟨s, s, rfl, gives_bind.mpr
    ⟨lines, s, gives_lift.mpr ⟨h, rfl⟩, gives_print lines s⟩⟩

theorem outcome_say_of_fault {text : String} (h : s.screen.text text = .error f) :
    outcome (say text) s = .error f := by
  have hget : Gives (get : Step Session) s s s := rfl
  rw [say, printAll, outcome_bind_of_gives hget, outcome_lift_bind, h]
  rfl

theorem givenUp {input reason : String} {c : Command}
    (h : outcome (carryOut input c) s = .error (.command reason)) : GivenUp input c s reason where
  refused := h
  shown lines hlines := by
    have hsay : Gives (say (shownReason reason) >>= fun _ => pure 1) (left input c s) 1 _ :=
      gives_bind.mpr ⟨(), _, gives_say hlines, gives_pure.mpr ⟨rfl, rfl⟩⟩
    exact (run_tryCatch_of_fault h).trans hsay
  unshown f hf :=
    (outcome_tryCatch_of_fault h).trans (outcome_bind_of_fault (outcome_say_of_fault hf))

theorem carryOutOrTell_of_fault {input : String} {c : Command}
    (h : outcome (carryOut input c) s = .error f) (hfault : ∀ reason, f ≠ .command reason) :
    outcome (carryOutOrTell input c) s = .error f := by
  refine (outcome_tryCatch_of_fault h).trans ?_
  cases f with
  | command reason => exact absurd rfl (hfault reason)
  | _ => rfl

/-! ## Documented faults -/

/-- What becomes of a command that a fault keeps from being carried out. -/
structure Ends (reason? : Fault → Option String) (isDocumented : Fault → Prop) (input : String)
    (c : Command) (s : Session) (f : Fault) : Prop where
  documented : isDocumented f → ∃ reason, reason? f = some reason ∧ GivenUp input c s reason
  undocumented : ¬ isDocumented f → outcome (carryOutOrTell input c) s = .error f

theorem ends_of_reason {reason? : Fault → Option String} {isDocumented : Fault → Prop}
    {input reason : String} {c : Command} (hdocumented : isDocumented f)
    (hreason : reason? f = some reason)
    (h : outcome (carryOut input c) s = .error (told reason? f)) :
    Ends reason? isDocumented input c s f where
  documented _ := ⟨reason, hreason, givenUp (told_of_reason hreason ▸ h)⟩
  undocumented hnot := absurd hdocumented hnot

theorem ends_of_none {reason? : Fault → Option String} {isDocumented : Fault → Prop}
    {input : String} {c : Command} (hdocumented : ¬ isDocumented f) (hreason : reason? f = none)
    (hfault : ∀ reason, f ≠ .command reason)
    (h : outcome (carryOut input c) s = .error (told reason? f)) :
    Ends reason? isDocumented input c s f where
  documented hyes := absurd hyes hdocumented
  undocumented _ := carryOutOrTell_of_fault (told_of_none hreason ▸ h) hfault

/-- A file of descriptors is loaded as the value that it holds.  It is loaded or refused as
documented exactly if it can be answered, and so is a configuration from a file.  The command that
generates is given up for a reason if a fault of the one or the other is documented, and otherwise
the fault ends the run. -/
theorem documented_iff_answerable (hlog : s.LogStands) (name : String) :
    (∀ d, outcome (Loading.fromFile name) s = .ok d ↔ d.source = (Path.ofString name).text
      ∧ Loading.Holds (Loading.whenRead s (.ofString name)).tree (.ofString name) d.data)
    ∧ ((∀ f, outcome (Loading.fromFile name) s = .error f → Loading.IsDocumented f)
      ↔ Loading.Answerable (Loading.whenRead s (.ofString name)).tree (.ofString name))
    ∧ ((∀ f, outcome (Config.load "" .null (.text name)) s = .error f → Config.IsDocumented f)
      ↔ Config.Answerable s.tree (.ofString name))
    ∧ (∀ o input f, AsksFor o name → outcome (Loading.fromFile name) s = .error f →
      Ends loadingReason Loading.IsDocumented input (.generate o) s f)
    ∧ ∀ o input generator s' f, Reaches o input s generator s' →
      outcome (Config.load generator (.object (overrides o)) (.text o.config)) s' = .error f →
      Ends configReason Config.IsDocumented input (.generate o) s f := by
  refine ⟨fun d => Loading.fromFile_eq_ok hlog, Loading.documented_iff hlog name,
    Config.documented_iff s name, fun o input f ho hf => ?_,
    fun o input generator s' f hreaches hf => ?_⟩
  · have hgenerate := generate_of_fault ho input hf
    rcases Loading.fromFile_eq_error hlog hf with ⟨hdocumented, -⟩ | ⟨hstray, -⟩
    · obtain ⟨reason, hreason⟩ := exists_loadingReason hdocumented
      exact ends_of_reason hdocumented hreason hgenerate
    · refine ends_of_none (Loading.not_documented_of_isStray hstray)
        (loadingReason_of_isStray hstray) ?_ hgenerate
      rcases hstray with ⟨r, -, rfl⟩ | rfl | rfl | rfl <;> exact nofun
  · have hgenerate := generate_of_config_fault hreaches hf
    rcases Config.documented_or_stray hf with hdocumented | hstray
    · obtain ⟨reason, hreason⟩ := exists_configReason hdocumented
      exact ends_of_reason hdocumented hreason hgenerate
    · refine ends_of_none (Config.not_documented_of_isStray hstray)
        (configReason_of_isStray hstray) ?_ hgenerate
      rcases hstray with (⟨r, -, rfl⟩ | rfl | rfl | rfl) | ⟨m, rfl⟩ <;> exact nofun

/-- A session with a file whose one byte is no text. -/
def damagedSession : Session where
  tree.entries := [(["types.json"], .file ⟨#[0xff]⟩)]

theorem logStands_damaged : damagedSession.LogStands := fun _ hf => nomatch hf

theorem read_damaged : damagedSession.tree.read (.ofString "types.json") = .ok ⟨#[0xff]⟩ := by
  decide +kernel

theorem contentAt_damaged (w : Loading.Wording) :
    Loading.contentAt w damagedSession.tree (.ofString "types.json") = .error .undecodable := by
  have hbytes : decodeLines ⟨#[0xff]⟩ = none := by decide +kernel
  rw [Loading.contentAt, read_damaged]
  simp only [hbytes]

theorem outcome_fromFile_damaged :
    outcome (Loading.fromFile "types.json") damagedSession = .error .undecodable := by
  have htree : (Loading.whenRead damagedSession (.ofString "types.json")).tree
      = damagedSession.tree := Loading.tree_whenRead rfl _
  rw [Loading.outcome_fromFile logStands_damaged, isThere_of_read read_damaged, htree,
    contentAt_damaged]
  rfl

theorem outcome_load_damaged (h : s.tree = damagedSession.tree) (generator : String)
    (custom : Value) :
    outcome (Config.load generator custom (.text "types.json")) s = .error .undecodable := by
  have hsuffix : Text.lower (Path.ofString "types.json").suffix = ".json" := by decide +kernel
  rw [Config.outcome_load, h, Config.loadedSettings, if_neg (by decide), Config.settingsIn_eq,
    isThere_of_read read_damaged, if_pos hsuffix, contentAt_damaged]
  rfl

theorem fitting_looseSettings : Config.Fitting Config.looseSettings where
  options _ := ⟨[], rfl⟩
  inject _ hv := nomatch hv
  singleton _ hv := nomatch hv

/-- The text of a document without types. -/
def noTypes : String := Json.write (.list [])

/-- A document from the standard input, with settings in a file. -/
def settingsFrom (name : String) : Generate where
  stdin := true
  generators := [.text "factory"]
  config := name

theorem gives_orRefuse {reason? : Fault → Option String} {x : Step α} {a : α} {s' : Session}
    (h : Gives x s a s') : Gives (orRefuse reason? x) s a s' := by
  have hrun : StateT.run x s = (.ok a, s') := h
  show StateT.run (ExceptT.run (ExceptT.tryCatch x _)) s = (.ok a, s')
  simp only [ExceptT.tryCatch, ExceptT.run_mk, StateT.run_bind]
  rw [hrun]
  rfl

theorem gives_chooseGenerators (h : s.catalogue = .builtIn) :
    Gives (chooseGenerators [.text "factory"]) s ["factory"] s := by
  have hresolve : s.catalogue.resolve "factory" = .ok "factory" := by
    rw [h]
    rfl
  have hname : Gives (Step.lift (shaped (Value.text "factory").asMember)) s "factory" s := rfl
  have hcatalogue : Gives (Catalogue.catalogueStep (s.catalogue.resolve "factory")) s "factory" s :=
    gives_lift.mpr ⟨orFault_eq_ok.mpr hresolve, rfl⟩
  exact gives_bind.mpr ⟨s.catalogue, s, rfl, gives_bind.mpr
    ⟨["factory"], s, gives_mapM_cons.mpr ⟨"factory", [], s,
      gives_bind.mpr ⟨"factory", s, hname, gives_orRefuse hcatalogue⟩, rfl, rfl⟩, rfl⟩⟩

theorem reaches_factory (name : String) :
    ∃ s', Reaches (settingsFrom name) noTypes damagedSession "factory" s'
      ∧ s'.tree = damagedSession.tree := by
  have hread : Json.read noTypes = .ok (.list []) := Json.read_write (.list nofun)
  have hload : Gives (loadElements (settingsFrom name) noTypes) damagedSession [] _ :=
    gives_orRefuse (gives_bind.mpr ⟨⟨Loading.standardInput, .list []⟩, damagedSession,
      gives_lift.mpr ⟨by rw [Loading.fromText, hread], rfl⟩, rfl⟩)
  exact ⟨_, ⟨[], [], [], [], _, _, hload, gives_chooseGenerators rfl, rfl⟩, rfl⟩

/-- The fault of settings in a file that is not there. -/
def absentSettings : Fault := .config (.fileMissing (Path.ofString "absent.json").text)

theorem outcome_load_absent (h : s.tree = damagedSession.tree) (generator : String)
    (custom : Value) :
    outcome (Config.load generator custom (.text "absent.json")) s = .error absentSettings := by
  have hthere : damagedSession.tree.isThere (.ofString "absent.json") = .ok false := by
    decide +kernel
  rw [Config.outcome_load, h, Config.loadedSettings, if_neg (by decide), Config.settingsIn_eq,
    hthere]
  rfl

theorem exists_lines_absent {reason : String} (h : configReason absentSettings = some reason) :
    ∃ lines, (left noTypes (.generate (settingsFrom "absent.json")) damagedSession).screen.text
      (shownReason reason) = .ok lines := by
  have hall : (configReason absentSettings).all (fun reason =>
      ((left noTypes (.generate (settingsFrom "absent.json")) damagedSession).screen.text
        (shownReason reason)).isOk) = true := by decide +kernel
  rw [h, Option.all_some] at hall
  generalize (left noTypes (.generate (settingsFrom "absent.json")) damagedSession).screen.text
    (shownReason reason) = shown at hall ⊢
  cases shown with
  | ok lines => exact ⟨lines, rfl⟩
  | error f => exact nomatch hall

/-- Settings that fit are loaded.  A byte that is no text ends the run, be it in a document or among
settings, and that there is no file of settings is told. -/
theorem damagedSession_told :
    damagedSession.LogStands
      ∧ (∀ f, outcome (Config.load "" .null (.text "companion.json"))
          (Config.settingsSession Config.looseSettings) = .error f → Config.IsDocumented f)
      ∧ outcome (carryOutOrTell "" (.generate { file := some "types.json" })) damagedSession
        = .error .undecodable
      ∧ outcome (carryOutOrTell noTypes (.generate (settingsFrom "types.json"))) damagedSession
        = .error .undecodable
      ∧ ∃ last, Gives (carryOutOrTell noTypes (.generate (settingsFrom "absent.json")))
        damagedSession 1 last := by
  have hsettings : Config.Answerable (Config.settingsSession Config.looseSettings).tree
      (.ofString "companion.json") :=
    (Config.answerable_iff_fitting (Config.settingsIn_settingsSession
      Config.readable_looseSettings Config.stop?_looseSettings)).mpr fitting_looseSettings
  obtain ⟨-, -, hfits, -⟩ := documented_iff_answerable
    (s := Config.settingsSession Config.looseSettings) (fun _ hf => nomatch hf) "companion.json"
  obtain ⟨-, -, -, hdocument, hconfig⟩ :=
    documented_iff_answerable logStands_damaged "types.json"
  refine ⟨logStands_damaged, hfits.mpr hsettings, ?_, ?_, ?_⟩
  · exact (hdocument { file := some "types.json" } "" _ ⟨rfl, rfl, by decide, rfl⟩
      outcome_fromFile_damaged).undocumented id
  · obtain ⟨s', hreaches, htree⟩ := reaches_factory "types.json"
    exact (hconfig _ _ _ _ _ hreaches (outcome_load_damaged htree _ _)).undocumented id
  · obtain ⟨s', hreaches, htree⟩ := reaches_factory "absent.json"
    obtain ⟨reason, hreason, hgiven⟩ :=
      (hconfig _ _ _ _ _ hreaches (outcome_load_absent htree _ _)).documented trivial
    obtain ⟨lines, hlines⟩ := exists_lines_absent hreason
    exact ⟨_, hgiven.shown lines hlines⟩

/-- Settings with an annotation that is a number. -/
def numberedMarker : Fields := [("inject_annotation", .int 5)]

theorem settingsIn_numberedMarker :
    Config.settingsIn (Config.settingsSession numberedMarker).tree "companion.json"
      = .ok numberedMarker := by
  have hreadable : Json.Readable Json.nestingLimit (.object numberedMarker) :=
    .object (by decide) (List.forall_mem_singleton.mpr (.int (by decide)))
  exact Config.settingsIn_settingsSession hreadable (by decide +kernel)

/-- A byte that is no text, and an annotation that is none, are refused for no documented cause. -/
theorem undecodable_escapes :
    (outcome (Loading.fromFile "types.json") damagedSession = .error .undecodable
        ∧ ¬ Loading.IsDocumented .undecodable)
      ∧ (outcome (Config.load "" .null (.text "types.json")) damagedSession = .error .undecodable
        ∧ ¬ Config.IsDocumented .undecodable)
      ∧ outcome (Config.load "" .null (.text "companion.json"))
          (Config.settingsSession numberedMarker) = .error (.mismatch (.member (.int 5)))
        ∧ ¬ Config.IsDocumented (.mismatch (.member (.int 5))) := by
  refine ⟨⟨outcome_fromFile_damaged, id⟩, ⟨outcome_load_damaged rfl "" .null, id⟩, ?_, id⟩
  rw [Config.outcome_load, Config.loadedSettings, if_neg (by decide), settingsIn_numberedMarker]
  rfl

end CommandLine
end JavaCompanion
