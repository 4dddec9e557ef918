/-
The books of a run.

What becomes of the units of a run is told by the reports, by the diagnostics and by the
sources, and the three agree: each unit is settled by those before it, and what the session
holds is what the units so far have brought (`Accounts`).  This is so after every unit of every
round (`rounds_accounted`), since every unit keeps it so (`standing_of_ends`).
-/
import JavaCompanion.Proofs.Round.Stored

namespace JavaCompanion
namespace Round

open Generation Step

variable {f : Output.Filer} {xs : List Entry} {x : Entry} {s s' : Session}

/-! ## Units one after another -/

def Entry.diagnostics (x : Entry) : List Diagnostic := x.warnings ++ x.error?.toList

theorem diagnostics_of_ends (hends : Ends x s s') :
    s'.diagnostics = s.diagnostics ++ x.diagnostics ∧ s'.logFile = s.logFile := by
  cases hends with
  | failed fault hanswer hfailure hreports =>
    have hwarnings : x.warnings = [] := by rw [Entry.warnings, hanswer]
    rw [Entry.diagnostics, hwarnings]
    exact ⟨hreports.diagnostics_eq, hreports.logFile_eq⟩
  | attempted file name middle a hanswer hname hqualified ha hends hwarnings hreports =>
    refine ⟨?_, hreports.logFile_eq.trans hwarnings.logFile_eq⟩
    rw [hreports.diagnostics_eq, Entry.diagnostics, ← List.append_assoc, ← hwarnings.diagnostics_eq]
    rfl

/-- What holds between the units of a run.  Every unit keeps it. -/
structure Standing (start : Session) (xs : List Entry) (now : Session) : Prop where
  settled : ∀ before x after, xs = before ++ x :: after → Settled before x
  filer_eq : now.filer = filerAfter start.filer xs
  diagnostics_eq : now.diagnostics = xs.flatMap Entry.diagnostics
  logFile_eq : now.logFile = start.logFile
  onDisk : start.filer.medium = .disk → LogApart start →
    now.LogStands ∧ OnDisk start xs now

theorem eq_of_append_cons {α : Type} {as before after : List α} {a b : α}
    (h : as ++ [a] = before ++ b :: after) :
    (before = as ∧ b = a) ∨ ∃ more, as = before ++ b :: more := by
  rcases List.append_eq_append_iff.mp h with ⟨more, hbefore, hmore⟩ | ⟨more, hbefore, hmore⟩
  · cases more with
    | nil => exact .inl ⟨by simpa using hbefore, (List.cons.inj hmore).1.symm⟩
    | cons c more => exact absurd (List.cons.inj hmore).2 (by simp)
  · cases more with
    | nil => exact .inl ⟨by simpa using hbefore.symm, (List.cons.inj hmore).1⟩
    | cons c more =>
      obtain ⟨rfl, -⟩ := List.cons.inj hmore
      exact .inr ⟨more, hbefore⟩

/-- The name of a source is valid and has been claimed. -/
theorem Standing.source {start now : Session} (h : Standing start xs now) (hx : x ∈ xs)
    {name code : String} (hsource : x.source? = some (name, code)) :
    Java.isQualifiedName name = true ∧ name ∈ claimedNames xs := by
  obtain ⟨before, after, hxs⟩ := List.append_of_mem hx
  have hsettled := h.settled before x after hxs
  obtain ⟨hsucceeded, rfl⟩ := eq_of_source? hsource
  obtain ⟨-, -, hvalid, -⟩ := hsettled.of_succeeded hsucceeded
  exact ⟨hvalid, List.mem_map.mpr ⟨x, List.mem_filter.mpr ⟨hx, hsucceeded⟩, rfl⟩⟩

/-- Files stay as they are when those of units to come are written, as these have names of their
own. -/
theorem onDisk_append {start : Session} {more : List Entry} (hstanding : Standing start xs s)
    (happart : LogApart start) (h : OnDisk start xs s)
    (hfresh : ∀ y ∈ more, ∀ name code, y.source? = some (name, code) →
      Java.isQualifiedName name = true ∧ name ∉ claimedNames xs)
    (hkeeps : FileTree.Keeps (fun q => start.isLog q ∨ IsStored start.filer more s'.tree q)
      s.tree s'.tree)
    (hholds : ∀ y ∈ more, ∀ name code, y.source? = some (name, code) →
      Output.Holds start.filer s'.tree name code) : OnDisk start (xs ++ more) s' := by
  refine ⟨fun y hy name code hsource => ?_, ?_⟩
  · rcases List.mem_append.mp hy with hy | hy
    · obtain ⟨hvalid, hclaimed⟩ := hstanding.source hy hsource
      -- What has been written since is the log, or a file for another name and so elsewhere.
      refine (h.holds y hy name code hsource).of_keeps hkeeps fun p q hp hq hplace => ?_
      rcases hplace with hlog | ⟨z, hz, name', code', p', hsource', hp', hq'⟩
      · exact happart.apart q hlog name p s'.tree hvalid hp hq
      · obtain ⟨hvalid', hunclaimed⟩ := hfresh z hz name' code' hsource'
        have hne : name ≠ name' := fun heq => hunclaimed (heq ▸ hclaimed)
        exact Output.ne_of_placeOf hvalid hvalid' hne hp hp' hq hq' rfl
    · exact hholds y hy name code hsource
  · refine FileTree.Keeps.trans (h.others.mono fun q hq => ?_) (hkeeps.mono fun q hq => ?_)
    · exact hq.imp_right fun hstored =>
        (hstored.of_keeps hkeeps).mono fun y hy => List.mem_append_left more hy
    · exact hq.imp_right fun hstored =>
        hstored.mono fun y hy => List.mem_append_right xs hy

theorem standing_of_ends {start : Session} (hstanding : Standing start xs s)
    (hof : IsOf (x.generator, x.element) x.outcome) (hends : Ends x s s')
    (hcreated : start.filer.medium = .disk → NotRefused x.outcome) :
    Standing start (xs ++ [x]) s' := by
  obtain ⟨hsettled, hfiler⟩ :=
    settled_of_ends hof hends hstanding.filer_eq hcreated
  obtain ⟨hdiagnostics, hlogFile⟩ := diagnostics_of_ends hends
  refine ⟨fun before y after hxs => ?_, hfiler, ?_, hlogFile.trans hstanding.logFile_eq,
    fun hmedium happart => ?_⟩
  -- The new unit is settled by all before it; each of these was settled by those before it.
  · rcases eq_of_append_cons hxs with ⟨rfl, rfl⟩ | ⟨more, hmore⟩
    · exact hsettled
    · exact hstanding.settled before y more hmore
  · rw [hdiagnostics, hstanding.diagnostics_eq, List.flatMap_append, List.flatMap_singleton]
  · obtain ⟨hstands, honDisk⟩ := hstanding.onDisk hmedium happart
    obtain ⟨hstands', hkeeps, hholds⟩ := tree_of_ends hof hends hstanding.filer_eq
      hstanding.logFile_eq hmedium happart (hcreated hmedium) hstands
    refine ⟨hstands', onDisk_append hstanding happart honDisk (fun y hy name code h => ?_) hkeeps
      fun y hy name code h => ?_⟩
    · obtain rfl := List.mem_singleton.mp hy
      obtain ⟨hsucceeded, rfl⟩ := eq_of_source? h
      obtain ⟨-, -, hvalid, hfresh⟩ := hsettled.of_succeeded hsucceeded
      exact ⟨hvalid, hfresh⟩
    · obtain rfl := List.mem_singleton.mp hy
      exact hholds name code h

theorem standing_of_reports {start : Session} (hstanding : Standing start xs s)
    (hreports : Session.Reports [] s s') : Standing start xs s' := by
  refine ⟨hstanding.settled, hreports.filer_eq.trans hstanding.filer_eq, ?_,
    hreports.logFile_eq.trans hstanding.logFile_eq, fun hmedium happart => ?_⟩
  · rw [hreports.diagnostics_eq, List.append_nil, hstanding.diagnostics_eq]
  · obtain ⟨hstands, honDisk⟩ := hstanding.onDisk hmedium happart
    obtain ⟨hkeeps, hstands'⟩ := hreports.tree hstands
    rw [Session.isLog_congr hstanding.logFile_eq] at hkeeps
    have honDisk' : OnDisk start (xs ++ []) s' :=
      onDisk_append hstanding happart honDisk nofun (hkeeps.mono fun q hq => .inl hq) nofun
    rw [List.append_nil] at honDisk'
    exact ⟨hstands', honDisk'⟩

/-- The engines that are used up by headers have no part in what holds between units. -/
theorem Standing.headed {start : Session} (h : Standing start xs s) :
    Standing start xs s.headed where
  settled := h.settled
  filer_eq := h.filer_eq
  diagnostics_eq := h.diagnostics_eq
  logFile_eq := h.logFile_eq
  onDisk hmedium happart := by
    obtain ⟨hstands, honDisk⟩ := h.onDisk hmedium happart
    exact ⟨hstands, honDisk.holds, honDisk.others⟩

theorem standing_of_units {start : Session} {units : List (Generator × Descriptor.Element)}
    {outcomes : List Outcome} (hstanding : Standing start xs s)
    (hcreated : start.filer.medium = .disk → ∀ o ∈ outcomes, NotRefused o)
    (h : Gives (units.mapM fun u => outcome u.1 u.2) s outcomes s') :
    List.Forall₂ IsOf units outcomes
      ∧ Standing start (xs ++ entriesOf s.renderers units outcomes) s'
      ∧ s'.renderers = s.renderers.after units.length := by
  induction units generalizing xs s outcomes with
  | nil =>
    obtain ⟨rfl, rfl⟩ := gives_pure.mp h
    exact ⟨.nil, by simpa using hstanding, by simp⟩
  | cons u rest ih =>
    obtain ⟨o, more, middle, hfirst, hrest, rfl⟩ := gives_mapM_cons.mp h
    obtain ⟨hisOf, hends⟩ := ends_of_outcome (x := ⟨u.1, u.2, s.renderers 0, o⟩) rfl hfirst
    have hmiddle := standing_of_ends hstanding.headed hisOf hends
      fun hmedium => hcreated hmedium o List.mem_cons_self
    obtain ⟨hof, hlast, hrenderers⟩ := ih hmiddle
      (fun hmedium o' ho' => hcreated hmedium o' (List.mem_cons_of_mem o ho')) hrest
    have hused : middle.renderers = s.renderers.after 1 := hends.renderers_eq
    rw [List.append_assoc, hused] at hlast
    refine ⟨.cons hisOf hof, hlast, ?_⟩
    rw [hrenderers, hused, Template.Renderers.after_after, List.length_cons, Nat.add_comm]

/-! ## Rounds one after another -/

/-- The types that are presented in a round, and whether processing is over. -/
structure Environment where
  elements : List Descriptor.Element
  isOver : Bool := false

namespace Environment

/-- The units of a round, generator by generator and in the order of the types. -/
def units (gs : List Generator) (r : Environment) : List (Generator × Descriptor.Element) :=
  if r.isOver then [] else assignments gs r.elements

end Environment

def unitsOf (gs : List Generator) (rounds : List Environment) :
    List (Generator × Descriptor.Element) :=
  rounds.flatMap (·.units gs)

def processAll (gs : List Generator) (rounds : List Environment) : Step (List Report) :=
  rounds.mapM fun r => process gs r.elements r.isOver

/-- Rounds, and of one more round the first units. -/
def processUpTo (gs : List Generator) (done : List Environment) (next : Environment) (n : Nat) :
    Step (List Outcome) := do
  let reports ← processAll gs done
  let outcomes ← ((next.units gs).take n).mapM fun u => outcome u.1 u.2
  return reports.flatMap (·.outcomes) ++ outcomes

theorem gives_process {gs : List Generator} {r : Environment} {report : Report}
    (h : Gives (process gs r.elements r.isOver) s report s') :
    ∃ middle, Gives ((r.units gs).mapM fun u => outcome u.1 u.2) s report.outcomes middle
      ∧ Session.Reports [] middle s' := by
  unfold process at h
  unfold Environment.units
  cases hover : r.isOver with
  | true =>
    rw [hover, if_pos rfl] at h
    obtain ⟨rfl, rfl⟩ := gives_pure.mp h
    exact ⟨_, gives_pure.mpr ⟨rfl, rfl⟩, .refl _⟩
  | false =>
    rw [hover, if_neg Bool.false_ne_true] at h
    obtain ⟨outcomes, middle, houtcomes, h⟩ := gives_bind.mp h
    obtain ⟨_, last, hlog, h⟩ := gives_bind.mp h
    obtain ⟨rfl, rfl⟩ := gives_pure.mp h
    obtain rfl := gives_modify.mp hlog
    exact ⟨middle, houtcomes, Session.reports_log _ _⟩

theorem unitsOf_split (gs : List Generator) (done rest : List Environment) (next : Environment)
    (n : Nat) : unitsOf gs (done ++ next :: rest)
      = unitsOf gs done ++ (next.units gs).take n
        ++ ((next.units gs).drop n ++ unitsOf gs rest) := by
  simp [unitsOf, ← List.append_assoc _ (List.drop n _)]

theorem standing_of_processAll {start : Session} {gs : List Generator}
    {rounds : List Environment} {reports : List Report} (hstanding : Standing start xs s)
    (hcreated : start.filer.medium = .disk →
      ∀ o ∈ reports.flatMap (·.outcomes), NotRefused o)
    (h : Gives (processAll gs rounds) s reports s') :
    List.Forall₂ (fun r report => List.Forall₂ IsOf (r.units gs) report.outcomes) rounds reports
      ∧ List.Forall₂ IsOf (unitsOf gs rounds) (reports.flatMap (·.outcomes))
      ∧ Standing start
        (xs ++ entriesOf s.renderers (unitsOf gs rounds) (reports.flatMap (·.outcomes))) s'
      ∧ s'.renderers = s.renderers.after (unitsOf gs rounds).length := by
  induction rounds generalizing xs s reports with
  | nil =>
    obtain ⟨rfl, rfl⟩ := gives_pure.mp h
    exact ⟨.nil, .nil, by simpa [unitsOf] using hstanding, by simp [unitsOf]⟩
  | cons r rest ih =>
    obtain ⟨report, more, middle, hfirst, hrest, rfl⟩ := gives_mapM_cons.mp h
    obtain ⟨treated, hunits, hreports⟩ := gives_process hfirst
    rw [List.flatMap_cons] at hcreated ⊢
    obtain ⟨hof, htreated, hused⟩ := standing_of_units hstanding
      (fun hmedium o ho => hcreated hmedium o (List.mem_append_left _ ho)) hunits
    obtain ⟨hall, hflat, hlast, hrenderers⟩ := ih (standing_of_reports htreated hreports)
      (fun hmedium o ho => hcreated hmedium o (List.mem_append_right _ ho)) hrest
    rw [hreports.renderers_eq, hused] at hlast hrenderers
    rw [unitsOf, List.flatMap_cons, ← unitsOf, entriesOf_append hof, ← List.append_assoc]
    refine ⟨.cons hof hall, List.rel_append hof hflat, hlast, ?_⟩
    rw [hrenderers, Template.Renderers.after_after, List.length_append]

/-- Rounds that return have passed through every moment at which the first units of one of them
had been treated. -/
theorem gives_processUpTo {gs : List Generator} {done rest : List Environment}
    {next : Environment} {reports : List Report}
    (h : Gives (processAll gs (done ++ next :: rest)) s reports s') (n : Nat) :
    ∃ first here more middle now,
      Gives (processAll gs done) s first middle
      ∧ Gives (((next.units gs).take n).mapM fun u => outcome u.1 u.2) middle here now
      ∧ Gives (processUpTo gs done next n) s (first.flatMap (·.outcomes) ++ here) now
      ∧ reports.flatMap (·.outcomes) = first.flatMap (·.outcomes) ++ here ++ more := by
  obtain ⟨first, last, middle, hdone, hlast, rfl⟩ := gives_mapM_append.mp h
  obtain ⟨report, others, after, hnext, -, rfl⟩ := gives_mapM_cons.mp hlast
  obtain ⟨treated, hunits, -⟩ := gives_process hnext
  rw [← List.take_append_drop n (next.units gs)] at hunits
  obtain ⟨here, remaining, now, hhere, -, houtcomes⟩ := gives_mapM_append.mp hunits
  refine ⟨first, here, remaining ++ others.flatMap (·.outcomes), middle, now, hdone, hhere, ?_, ?_⟩
  · exact gives_bind.mpr ⟨first, middle, hdone,
      gives_bind.mpr ⟨here, now, hhere, gives_pure.mpr ⟨rfl, rfl⟩⟩⟩
  · rw [List.flatMap_append, List.flatMap_cons, houtcomes]
    simp

/-! ## The books -/

/-- What the session holds is what the units have brought: the claims of those that have
succeeded, their sources in memory or in files, an error for each that has failed, and the
warnings about each file that has been generated. -/
structure Accounts (start : Session) (xs : List Entry) (now : Session) : Prop where
  claims_eq : now.filer.created = claimsOf xs
  names_nodup : (claimedNames xs).Nodup
  inMemory : start.filer.medium = .memory →
    now.filer.sources = xs.filterMap Entry.source?
      ∧ now.filer.sources.map (·.1) = claimedNames xs
  onDisk : start.filer.medium = .disk → OnDisk start xs now
  errors_eq : ofSeverity .error now.diagnostics = xs.filterMap Entry.error?
  warnings_eq : ofSeverity .warning now.diagnostics = xs.flatMap Entry.warnings

theorem claimedNames_append (xs ys : List Entry) :
    claimedNames (xs ++ ys) = claimedNames xs ++ claimedNames ys := by
  rw [claimedNames, List.filter_append, List.map_append]
  rfl

theorem names_nodup (h : ∀ before x after, xs = before ++ x :: after → Settled before x) :
    (claimedNames xs).Nodup := by
  induction xs using List.reverseRecOn with
  | nil => exact List.nodup_nil
  | append_singleton xs x ih =>
    have hxs := ih fun before y after hxs => h before y (after ++ [x]) (by rw [hxs]; simp)
    have hx := h xs x [] rfl
    rw [claimedNames_append, List.nodup_append]
    refine ⟨hxs, ?_, fun a ha b hb => ?_⟩
    · cases hsucceeded : x.outcome.succeeded <;> simp [claimedNames, hsucceeded]
    · cases hsucceeded : x.outcome.succeeded with
      | false => simp [claimedNames, hsucceeded] at hb
      | true =>
        obtain ⟨-, -, -, hfresh⟩ := hx.of_succeeded hsucceeded
        have hb : b = x.outcome.qualifiedName := by
          simpa [claimedNames, hsucceeded] using hb
        rintro rfl
        exact hfresh (hb ▸ ha)

theorem source?_of_settled {before : List Entry} (h : Settled before x) :
    x.source?.map (·.1) = if x.outcome.succeeded then some x.outcome.qualifiedName else none := by
  cases hsucceeded : x.outcome.succeeded with
  | false => simp [Entry.source?, hsucceeded]
  | true =>
    obtain ⟨file, hanswer, -⟩ := h.of_succeeded hsucceeded
    rw [source?_of_succeeded hanswer hsucceeded]
    rfl

theorem map_source? (h : ∀ x ∈ xs, ∃ before, Settled before x) :
    (xs.filterMap Entry.source?).map (·.1) = claimedNames xs := by
  induction xs with
  | nil => rfl
  | cons x rest ih =>
    obtain ⟨before, hx⟩ := h x List.mem_cons_self
    have hsource := source?_of_settled hx
    have hrest := ih fun y hy => h y (List.mem_cons_of_mem x hy)
    rw [← List.singleton_append, claimedNames_append, ← hrest, List.filterMap_append,
      List.map_append]
    cases hsucceeded : x.outcome.succeeded <;> rw [hsucceeded] at hsource <;>
      simp [List.map_filterMap, hsource, claimedNames, hsucceeded]

theorem ofSeverity_append (severity : Severity) (ds more : List Diagnostic) :
    ofSeverity severity (ds ++ more) = ofSeverity severity ds ++ ofSeverity severity more :=
  List.filter_append ..

theorem ofSeverity_self {severity : Severity} {ds : List Diagnostic}
    (h : ∀ d ∈ ds, d.severity = severity) : ofSeverity severity ds = ds :=
  List.filter_eq_self.mpr fun d hd => beq_iff_eq.mpr (h d hd)

theorem ofSeverity_other {severity other : Severity} {ds : List Diagnostic}
    (h : ∀ d ∈ ds, d.severity = severity) (hne : severity ≠ other) : ofSeverity other ds = [] :=
  List.filter_eq_nil_iff.mpr fun d hd heq => hne ((h d hd).symm.trans (beq_iff_eq.mp heq))

theorem severity_of_mem_warnings {d : Diagnostic} (h : d ∈ x.warnings) :
    d.severity = .warning := by
  unfold Entry.warnings at h
  split at h
  · obtain ⟨w, -, rfl⟩ := List.mem_map.mp h
    rfl
  · cases h

theorem severity_of_mem_error? {d : Diagnostic} (h : d ∈ x.error?.toList) :
    d.severity = .error := by
  obtain ⟨m, -, rfl⟩ := Option.map_eq_some_iff.mp (Option.mem_toList.mp h)
  rfl

theorem ofSeverity_diagnostics (x : Entry) :
    ofSeverity .error x.diagnostics = x.error?.toList
      ∧ ofSeverity .warning x.diagnostics = x.warnings := by
  have hwarnings : ∀ d ∈ x.warnings, d.severity = .warning := fun _ => severity_of_mem_warnings
  have herror : ∀ d ∈ x.error?.toList, d.severity = .error := fun _ => severity_of_mem_error?
  rw [Entry.diagnostics, ofSeverity_append, ofSeverity_append]
  constructor
  · rw [ofSeverity_other hwarnings (by decide), ofSeverity_self herror, List.nil_append]
  · rw [ofSeverity_self hwarnings, ofSeverity_other herror (by decide), List.append_nil]

theorem ofSeverity_flatMap (xs : List Entry) :
    ofSeverity .error (xs.flatMap Entry.diagnostics) = xs.filterMap Entry.error?
      ∧ ofSeverity .warning (xs.flatMap Entry.diagnostics) = xs.flatMap Entry.warnings := by
  induction xs with
  | nil => exact ⟨rfl, rfl⟩
  | cons x rest ih =>
    obtain ⟨herror, hwarning⟩ := ofSeverity_diagnostics x
    rw [List.flatMap_cons, List.flatMap_cons, ofSeverity_append, ofSeverity_append, ih.1, ih.2,
      herror, hwarning]
    refine ⟨?_, rfl⟩
    rw [← List.singleton_append (x := x), List.filterMap_append]
    cases h : x.error? <;> simp [h]

theorem Standing.accounts {start now : Session} (h : Standing start xs now)
    (hdisk : start.filer.medium = .disk → LogApart start) : Accounts start xs now where
  claims_eq := by rw [h.filer_eq]; rfl
  names_nodup := names_nodup h.settled
  inMemory hmedium := by
    have hsources : now.filer.sources = xs.filterMap Entry.source? := by
      rw [h.filer_eq, filerAfter, hmedium]
      rfl
    have hsettled : ∀ x ∈ xs, ∃ before, Settled before x := fun x hx => by
      obtain ⟨before, after, hxs⟩ := List.append_of_mem hx
      exact ⟨before, h.settled before x after hxs⟩
    exact ⟨hsources, by rw [hsources, map_source? hsettled]⟩
  onDisk hmedium := (h.onDisk hmedium (hdisk hmedium)).2
  errors_eq := by rw [h.diagnostics_eq, (ofSeverity_flatMap xs).1]
  warnings_eq := by rw [h.diagnostics_eq, (ofSeverity_flatMap xs).2]

/-- Nothing has been claimed, brought or reported. -/
structure Fresh (s : Session) : Prop where
  created_eq : s.filer.created = []
  sources_eq : s.filer.sources = []
  diagnostics_eq : s.diagnostics = []

theorem standing_of_fresh {start : Session} (h : Fresh start) : Standing start [] start := by
  refine ⟨fun before x after hnil => ?_, ?_, h.diagnostics_eq, rfl, fun _ happart =>
    ⟨happart.stands, nofun, .refl _ _⟩⟩
  · exact absurd hnil (by simp)
  · obtain ⟨hcreated, hsources, -⟩ := h
    cases hfiler : start.filer with
    | mk medium directory extension encoding created sources =>
      rw [hfiler] at hcreated hsources
      cases hcreated
      cases hsources
      cases medium <;> rfl

/-- At every moment of a run the session holds what the units so far have brought. -/
theorem standing_of_moment {start last : Session} {gs : List Generator}
    {done rest : List Environment} {next : Environment} {reports : List Report}
    (hstart : Fresh start)
    (hcreated : start.filer.medium = .disk →
      ∀ o ∈ reports.flatMap (·.outcomes), NotRefused o)
    (h : Gives (processAll gs (done ++ next :: rest)) start reports last) (n : Nat) :
    ∃ outcomes now more, Gives (processUpTo gs done next n) start outcomes now
      ∧ reports.flatMap (·.outcomes) = outcomes ++ more
      ∧ Standing start
        (entriesOf start.renderers (unitsOf gs (done ++ next :: rest)) outcomes) now
      ∧ entriesOf start.renderers (unitsOf gs (done ++ next :: rest)) outcomes
        <+: entriesOf start.renderers (unitsOf gs (done ++ next :: rest))
          (reports.flatMap (·.outcomes)) := by
  obtain ⟨first, here, more, middle, now, hdone, hhere, hnow, hreports⟩ := gives_processUpTo h n
  rw [hreports] at hcreated ⊢
  obtain ⟨-, hof, hmiddle, hused⟩ := standing_of_processAll (standing_of_fresh hstart)
    (fun hmedium o ho => hcreated hmedium o
      (List.mem_append_left _ (List.mem_append_left _ ho))) hdone
  obtain ⟨hofHere, hstanding, -⟩ := standing_of_units hmiddle
    (fun hmedium o ho => hcreated hmedium o
      (List.mem_append_left _ (List.mem_append_right _ ho))) hhere
  rw [List.nil_append, hused] at hstanding
  -- The entries of the units so far, followed by those of the units to come.
  have hentries : ∀ others, ∃ tail, entriesOf start.renderers
        (unitsOf gs (done ++ next :: rest)) (first.flatMap (·.outcomes) ++ here ++ others)
      = entriesOf start.renderers (unitsOf gs done) (first.flatMap (·.outcomes))
        ++ entriesOf (start.renderers.after (unitsOf gs done).length)
          ((next.units gs).take n) here ++ entriesOf tail
            ((next.units gs).drop n ++ unitsOf gs rest) others := by
    intro others
    rw [unitsOf_split gs done rest next n, entriesOf_append (List.rel_append hof hofHere),
      entriesOf_append hof]
    exact ⟨_, rfl⟩
  obtain ⟨_, hsofar⟩ := hentries []
  rw [List.append_nil, entriesOf_nil_right, List.append_nil] at hsofar
  refine ⟨_, now, more, hnow, rfl, ?_, ?_⟩
  · rw [hsofar]
    exact hstanding
  · obtain ⟨_, hall⟩ := hentries more
    rw [hsofar, hall]
    exact List.prefix_append _ _

theorem sourcesOf_prefix (medium : Output.Medium) {ys : List Entry} (h : xs <+: ys) :
    sourcesOf medium xs <+: sourcesOf medium ys := by
  obtain ⟨more, rfl⟩ := h
  cases medium with
  | memory => exact ⟨more.filterMap Entry.source?, List.filterMap_append.symm⟩
  | disk => exact List.prefix_refl _

/-- Rounds that all return, from a session in which nothing has happened, whatever the engines make
of the headers.  Where sources go to disk, the log is apart from them and the file system refuses
to create none of the files.
Every report is on the units of its round, in order.  A unit has succeeded just when its file
has been generated under a valid name that no unit before it has claimed.  And after every
unit the session holds what the units so far have brought, none of which is lost later. -/
theorem rounds_accounted (gs : List Generator) (rounds : List Environment)
    (start last : Session) (reports : List Report) (hstart : Fresh start)
    (hdisk : start.filer.medium = .disk →
      LogApart start ∧ ∀ o ∈ reports.flatMap (·.outcomes), NotRefused o)
    (hrun : Gives (processAll gs rounds) start reports last) :
    List.Forall₂ (fun r report => List.Forall₂ IsOf (r.units gs) report.outcomes) rounds reports
    ∧ (∀ before x after,
        entriesOf start.renderers (unitsOf gs rounds) (reports.flatMap (·.outcomes))
          = before ++ x :: after → Settled before x)
    ∧ Accounts start
      (entriesOf start.renderers (unitsOf gs rounds) (reports.flatMap (·.outcomes))) last
    ∧ ∀ done next rest n, rounds = done ++ next :: rest →
        ∃ outcomes now, Gives (processUpTo gs done next n) start outcomes now
          ∧ outcomes <+: reports.flatMap (·.outcomes)
          ∧ Accounts start (entriesOf start.renderers (unitsOf gs rounds) outcomes) now
          ∧ now.filer.sources <+: last.filer.sources := by
  have hcreated := fun hmedium => (hdisk hmedium).2
  have hapart := fun hmedium => (hdisk hmedium).1
  obtain ⟨hreports, -, hstanding, -⟩ :=
    standing_of_processAll (standing_of_fresh hstart) hcreated hrun
  rw [List.nil_append] at hstanding
  refine ⟨hreports, hstanding.settled, hstanding.accounts hapart, ?_⟩
  rintro done next rest n rfl
  obtain ⟨outcomes, now, more, hnow, houtcomes, hmoment, hprefix⟩ :=
    standing_of_moment hstart hcreated hrun n
  refine ⟨outcomes, now, hnow, ⟨more, houtcomes.symm⟩, hmoment.accounts hapart, ?_⟩
  rw [hmoment.filer_eq, hstanding.filer_eq]
  exact sourcesOf_prefix start.filer.medium hprefix

/-- A type with both annotations. -/
def clock : Descriptor.Element where
  simpleName := "Clock"
  annotations := [("factory", []), ("observable", [])]

/-- A type that no file can be generated for, as its name is a keyword. -/
def unnamed : Descriptor.Element where
  simpleName := "new"
  annotations := [("factory", [])]

/-- Both generators, for files with neither a header nor a mark of their origin. -/
def bothGenerators : List Generator :=
  [Kind.factory, Kind.observable].map fun kind =>
    { kind, config := { addComments := .bool false, generatedMarker := .text "" } }

/-- The first type comes back in the second round, and in the third processing is over. -/
def threeRounds : List Environment :=
  [⟨[clock, unnamed], false⟩, ⟨[clock], false⟩, ⟨[clock], true⟩]

def freshSession (medium : Output.Medium) : Session :=
  { filer := { medium, directory := ⟨"", ["out"]⟩ } }

/-- The names in each report, and whether the units have succeeded. -/
def namesOf (reports : List Report) : List (List (String × Bool)) :=
  reports.map fun r => r.outcomes.map fun o => (o.qualifiedName, o.succeeded)

def threeNames : List (List (String × Bool)) :=
  [[("ClockFactory", true), ("", false), ("ObservableClock", true)],
    [("ClockFactory", false), ("ObservableClock", false)], []]

theorem gives_threeRounds (medium : Output.Medium) : ∃ reports last,
    Gives (processAll bothGenerators threeRounds) (freshSession medium) reports last
      ∧ namesOf reports = threeNames ∧ ∀ o ∈ reports.flatMap (·.outcomes), NotRefused o := by
  have hruns : ∃ reports ∈ ((processAll bothGenerators threeRounds).run.run
        (freshSession medium)).1.toOption,
      namesOf reports = threeNames ∧ ∀ o ∈ reports.flatMap (·.outcomes),
        ∀ m ∈ o.failure, ¬ (refusedOpening o.generator).toList <+: m.toList := by
    cases medium <;> decide +kernel
  obtain ⟨reports, hreports, hnames, htexts⟩ := hruns
  obtain ⟨last, hrun⟩ := exists_gives hreports
  exact ⟨reports, last, hrun, hnames, fun o ho => notRefused_of_text (htexts o ho)⟩

/-- The three rounds return on the medium, and their books are right. -/
def ThreeRoundsAccounted (medium : Output.Medium) : Prop :=
  ∃ reports last, Gives (processAll bothGenerators threeRounds) (freshSession medium) reports last
    ∧ namesOf reports = threeNames
    ∧ Accounts (freshSession medium)
      (entriesOf (freshSession medium).renderers (unitsOf bothGenerators threeRounds)
        (reports.flatMap (·.outcomes))) last

theorem threeRounds_accounted : ThreeRoundsAccounted .memory ∧ ThreeRoundsAccounted .disk := by
  have haccounted : ∀ medium, ThreeRoundsAccounted medium := fun medium => by
    obtain ⟨reports, last, hrun, hnames, hcreated⟩ := gives_threeRounds medium
    have happart : LogApart (freshSession medium) := ⟨nofun, fun _ ⟨_, hlog, _⟩ => nomatch hlog⟩
    obtain ⟨-, -, haccounts, -⟩ := rounds_accounted bothGenerators threeRounds
      (freshSession medium) last reports ⟨rfl, rfl, rfl⟩ (fun _ => ⟨happart, hcreated⟩) hrun
    exact ⟨reports, last, hrun, hnames, haccounts⟩
  exact ⟨haccounted .memory, haccounted .disk⟩

end Round
end JavaCompanion
