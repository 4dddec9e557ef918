/-
Faults are isolated.

A type from which no file can be generated, or whose file cannot be created, is a failed unit
with a diagnostic of its own, and all other units are treated as if it were not there
(`process_isolates`).  This is so for every type that has texts where texts are asked of it, if the
files can hold what is generated; one that has none can stop the round (`untyped_stops_round`).

What one unit does to a session leaves alone what the units before it have brought
(`Advances`), and whether its own source is written depends on its own name, on the names that
have been claimed, and on the file system (`Isolated`).
-/
import JavaCompanion.Proofs.Generation.Layout
import JavaCompanion.Proofs.Generation.Reported
import JavaCompanion.Proofs.Output.Refusal
import JavaCompanion.Proofs.Round.Accounting

namespace JavaCompanion

namespace Text

end Text

namespace Descriptor

/-- The number of directories for the package of the type. -/
def Element.packageDepth (e : Element) : Nat :=
  if e.package = "" then 0 else (Text.splitAt '.' e.package).length

end Descriptor

namespace Round

open Generation Step

variable {e : Descriptor.Element} {g : Generator} {x : Entry} {xs : List Entry}
  {start s s' : Session}

/-! ## Units come to an end -/

/-- On disk, nothing but the file system is in the way of a file that the generator makes for the
type with one of the engines. -/
def Fits (f : Output.Filer) (rs : Template.Renderers) (g : Generator) (e : Descriptor.Element) :
    Prop :=
  f.medium = .disk → f.Usable
    ∧ f.directory.parts.length + e.packageDepth ≤ FileTree.depthLimit
    ∧ ∀ n file, g.answer (rs n) e = .ok (.generated file) → f.Expresses file.code

/-- The place of the file for a name that nothing has claimed. -/
def IsFree (f : Output.Filer) (t : FileTree) (q : List String) : Prop :=
  ∃ name p, Java.isQualifiedName name = true ∧ f.isClaimed name = false
    ∧ f.pathFor? name = some p ∧ t.placeOf p = .ok q

/-- The session goes on: what has been claimed stays claimed, sources that the filer holds stay
there, and apart from the log no files but those for new names have changed. -/
structure Advances (s s' : Session) : Prop where
  logFile_eq : s'.logFile = s.logFile
  filer : ∃ created sources, s'.filer = { s.filer with created, sources }
  claims : ∀ name, s.filer.isClaimed name = true → s'.filer.isClaimed name = true
  sources : ∀ source ∈ s.filer.sources, source ∈ s'.filer.sources
  files : s.filer.medium = .disk → LogApart s → s'.LogStands
    ∧ FileTree.Keeps (fun q => s.isLog q ∨ IsFree s.filer s'.tree q) s.tree s'.tree

theorem Advances.headed (s : Session) : Advances s s.headed where
  logFile_eq := rfl
  filer := ⟨s.filer.created, s.filer.sources, rfl⟩
  claims _ hname := hname
  sources _ hsource := hsource
  files _ happart := ⟨happart.stands, .refl _ s.tree⟩

theorem Advances.of_reports {ds : List Diagnostic} (h : Session.Reports ds s s') :
    Advances s s' where
  logFile_eq := h.logFile_eq
  filer := ⟨s.filer.created, s.filer.sources, h.filer_eq⟩
  claims name hname := by rwa [h.filer_eq]
  sources source hsource := by rwa [h.filer_eq]
  files _ happart := by
    obtain ⟨hkeeps, hstands⟩ := h.tree happart.stands
    exact ⟨hstands, hkeeps.mono fun q => .inl⟩

theorem Advances.pathFor_eq (h : Advances s s') (name : String) :
    s'.filer.pathFor? name = s.filer.pathFor? name := by
  obtain ⟨created, sources, hfiler⟩ := h.filer
  rw [hfiler]
  rfl

theorem Advances.medium_eq (h : Advances s s') : s'.filer.medium = s.filer.medium := by
  obtain ⟨created, sources, hfiler⟩ := h.filer
  rw [hfiler]

theorem Advances.logApart (h : Advances s s') (hmedium : s.filer.medium = .disk)
    (happart : LogApart s) : LogApart s' where
  stands := (h.files hmedium happart).1
  apart place hlog name p t hvalid hp := by
    rw [Session.isLog_congr h.logFile_eq] at hlog
    rw [h.pathFor_eq] at hp
    exact happart.apart place hlog name p t hvalid hp

theorem Advances.unclaimed (h : Advances s s') {name : String}
    (hname : s'.filer.isClaimed name = false) : s.filer.isClaimed name = false := by
  cases hclaimed : s.filer.isClaimed name with
  | false => rfl
  | true =>
    rw [h.claims name hclaimed] at hname
    exact nomatch hname

theorem Advances.trans {s'' : Session} (h : Advances s s') (h' : Advances s' s'') :
    Advances s s'' where
  logFile_eq := h'.logFile_eq.trans h.logFile_eq
  filer := by
    obtain ⟨created, sources, hfiler⟩ := h.filer
    obtain ⟨created', sources', hfiler'⟩ := h'.filer
    exact ⟨created', sources', by rw [hfiler', hfiler]⟩
  claims name hname := h'.claims name (h.claims name hname)
  sources source hsource := h'.sources source (h.sources source hsource)
  files hmedium happart := by
    obtain ⟨hstands, hkeeps⟩ := h.files hmedium happart
    obtain ⟨hstands', hkeeps'⟩ :=
      h'.files (h.medium_eq.trans hmedium) (h.logApart hmedium happart)
    refine ⟨hstands', (hkeeps.mono fun q hq => ?_).trans (hkeeps'.mono fun q hq => ?_)⟩
    · refine hq.imp_right fun ⟨name, p, hvalid, hfree, hp, hplace⟩ => ?_
      exact ⟨name, p, hvalid, hfree, hp, FileTree.placeOf_of_keeps hkeeps' hplace⟩
    · rcases hq with hlog | ⟨name, p, hvalid, hfree, hp, hplace⟩
      · rw [Session.isLog_congr h.logFile_eq] at hlog
        exact .inl hlog
      · exact .inr ⟨name, p, hvalid, h.unclaimed hfree, by rw [← h.pathFor_eq]; exact hp, hplace⟩

/-- An attempt to write a source adds to what is claimed and held, and writes no file but that
for the name. -/
theorem AttemptEnds.grows {f : Output.Filer} {t : FileTree} {a : Output.Attempt}
    {name code : String} (h : AttemptEnds x a)
    (ha : a = Output.create f t name [x.element.qualifiedName] [code] false) :
    (∃ more others, (∀ c ∈ more, c.1 = name) ∧ a.filer =
        { f with created := f.created ++ more, sources := f.sources ++ others })
      ∧ (f.medium = .disk → FileTree.Keeps (IsFree f a.tree) t a.tree) := by
  have hclaim : ∀ c ∈ [(name, [x.element.qualifiedName])], c.1 = name := by simp
  rcases h with ⟨hfault, -⟩ | ⟨fault, hfault, -⟩
  · have hbrings := Output.create_brings ha hfault
    refine ⟨?_, fun hmedium => ?_⟩
    · have hmedium : f.medium = .memory ∨ f.medium = .disk := by cases f.medium <;> simp
      rcases hmedium with hmedium | hmedium
      · rw [hbrings.inMemory hmedium]
        exact ⟨_, _, hclaim, rfl⟩
      · rw [(hbrings.onDisk hmedium).1]
        exact ⟨_, [], hclaim, by simp [Output.Filer.claimed]⟩
    · obtain ⟨-, -, p, place, hp, hplace, hkeeps⟩ := hbrings.onDisk hmedium
      refine hkeeps.mono ?_
      rintro q rfl
      exact ⟨name, p, hbrings.valid, hbrings.unclaimed, hp, hplace⟩
  · obtain ⟨hrefused, hkeeps⟩ := Output.refused_of_create ha hfault
    refine ⟨?_, fun _ => hkeeps.mono fun _ hno => hno.elim⟩
    generalize a.filer = left at hrefused ⊢
    cases hrefused with
    | invalid | claimed => exact ⟨[], [], List.forall_mem_nil _, by simp⟩
    | onDisk => exact ⟨_, [], hclaim, by simp [Output.Filer.claimed]⟩

theorem AttemptEnds.advances {a : Output.Attempt} {name code : String} (h : AttemptEnds x a)
    (ha : a = Output.create s.filer s.tree name [x.element.qualifiedName] [code] false) :
    Advances s (kept s a) := by
  obtain ⟨⟨more, others, -, hfiler⟩, hkeeps⟩ := h.grows ha
  have hkept : (kept s a).filer = a.filer := rfl
  refine ⟨rfl, ⟨_, _, hkept.trans hfiler⟩, fun other hother => ?_, fun source hsource => ?_,
    fun hmedium happart => ?_⟩
  · rw [hkept, hfiler]
    simp only [Output.Filer.isClaimed, List.any_append, Bool.or_eq_true] at hother ⊢
    exact .inl hother
  · rw [hkept, hfiler]
    exact List.mem_append_left _ hsource
  · refine ⟨happart.stands.of_keeps rfl (hkeeps hmedium) fun q hlog hfree => ?_,
      (hkeeps hmedium).mono fun q => .inr⟩
    obtain ⟨other, p, hvalid, -, hp, hplace⟩ := hfree
    exact happart.apart q hlog other p a.tree hvalid hp hplace

theorem Ends.advances (h : Ends x s s') : Advances s s' := by
  cases h with
  | failed f hanswer hfailure hreports => exact .of_reports hreports
  | attempted file name middle a hanswer hname hqualified ha hends hwarnings hreports =>
    exact ((Advances.of_reports hwarnings).trans (hends.advances ha)).trans (.of_reports hreports)

/-! ## What becomes of a unit -/

/-- The name of the file that has been generated for a unit. -/
def Entry.name? (x : Entry) : Option String :=
  match x.answer with
  | .ok (.generated file) => file.qualifiedName.text?
  | _ => none

/-- The source of a name has been written, and is there.  On disk this needs a log that is apart
from the sources. -/
structure Stored (start now : Session) (name code : String) : Prop where
  valid : Java.isQualifiedName name = true
  claimed : now.filer.isClaimed name = true
  inMemory : start.filer.medium = .memory → (name, code) ∈ now.filer.sources
  onDisk : start.filer.medium = .disk → LogApart start →
    Output.Holds start.filer now.tree name code

/-- Why a source has not been written: its name is none, or has been claimed before, at the start or
for a unit before, or the file system refuses. -/
inductive Unwritable (f : Output.Filer) (before : List Entry) (name : String) :
    Output.OutputFault → Prop
  | invalid : Java.isQualifiedName name = false → Unwritable f before name (.invalidName name)
  | claimed : f.isClaimed name = true ∨ (∃ y ∈ before, y.name? = some name) →
      Unwritable f before name (.claimed name)
  | refused (p : FileTree.Path) (r : FileTree.Reason) : f.medium = .disk →
      f.pathFor? name = some p → Unwritable f before name (.refused p.text r)

/-- A unit fails for what its own type holds, or for the name of its file, or its source is
written, whatever has become of the other units. -/
inductive Isolated (start : Session) (before : List Entry) (x : Entry) (now : Session) : Prop
  | failed (f : Fault) :
      x.answer = .ok (.failed f) →
      x.outcome.failure = some (failedText "generate" x.generator f) →
      Isolated start before x now
  | unwritten (file : GeneratedFile) (name : String) (fault : Output.OutputFault) :
      x.answer = .ok (.generated file) → file.qualifiedName = .text name →
      x.outcome.qualifiedName = name → Unwritable start.filer before name fault →
      x.outcome.failure = some (failedText "write" x.generator (.output fault)) →
      Isolated start before x now
  | written (file : GeneratedFile) (name : String) :
      x.answer = .ok (.generated file) → file.qualifiedName = .text name →
      x.outcome.qualifiedName = name → x.outcome.failure = none →
      Stored start now name file.code →
      Isolated start before x now

theorem Stored.advance {name code : String} (h : Stored start s name code)
    (hstart : Advances start s) (hnext : Advances s s') : Stored start s' name code where
  valid := h.valid
  claimed := hnext.claims name h.claimed
  inMemory hmedium := hnext.sources _ (h.inMemory hmedium)
  onDisk hmedium happart := by
    have happart' := hstart.logApart hmedium happart
    obtain ⟨-, hkeeps⟩ := hnext.files (hstart.medium_eq.trans hmedium) happart'
    refine (h.onDisk hmedium happart).of_keeps hkeeps fun p q hp hq hplace => ?_
    rw [← hstart.pathFor_eq] at hp
    -- What has been written since is the log, or a file for another name and so elsewhere.
    rcases hplace with hlog | ⟨other, p', hvalid, hfree, hp', hq'⟩
    · exact happart'.apart q hlog name p s'.tree h.valid hp hq
    · have hne : name ≠ other := by
        rintro rfl
        rw [h.claimed] at hfree
        exact nomatch hfree
      exact Output.ne_of_placeOf h.valid hvalid hne hp hp' hq hq' rfl

theorem Isolated.advance {before : List Entry} (h : Isolated start before x s)
    (hstart : Advances start s) (hnext : Advances s s') : Isolated start before x s' := by
  cases h with
  | failed f hanswer hfailure => exact .failed f hanswer hfailure
  | unwritten file name fault hanswer hname hqualified hunwritable hfailure =>
    exact .unwritten file name fault hanswer hname hqualified hunwritable hfailure
  | written file name hanswer hname hqualified hnone hstored =>
    exact .written file name hanswer hname hqualified hnone (hstored.advance hstart hnext)

/-- What holds between the units of a round.  Every unit keeps it. -/
structure Treated (start : Session) (xs : List Entry) (now : Session) : Prop where
  isolated : ∀ before x after, xs = before ++ x :: after → Isolated start before x now
  claims : ∀ name, now.filer.isClaimed name = true →
    start.filer.isClaimed name = true ∨ ∃ y ∈ xs, y.name? = some name
  diagnostics_eq : now.diagnostics = start.diagnostics ++ xs.flatMap Entry.diagnostics
  advances : Advances start now

theorem Advances.holds {t : FileTree} {name code : String} (h : Advances s s')
    (hholds : Output.Holds s'.filer t name code) : Output.Holds s.filer t name code := by
  obtain ⟨created, sources, hfiler⟩ := h.filer
  rwa [hfiler] at hholds

/-- A header is rendered between one unit and the next. -/
theorem Treated.headed (h : Treated start xs s) : Treated start xs s.headed where
  isolated before x after hxs := (h.isolated before x after hxs).advance h.advances (.headed s)
  claims := h.claims
  diagnostics_eq := h.diagnostics_eq
  advances := h.advances.trans (.headed s)

/-- The unit has an answer with every engine to come, and the answer fits. -/
def Treatable (f : Output.Filer) (rs : Template.Renderers) (u : Generator × Descriptor.Element) :
    Prop :=
  (u.1.kind = Kind.factory ∨ u.1.kind = Kind.observable)
    ∧ (∀ n, ∃ r, u.1.answer (rs n) u.2 = .ok r) ∧ Fits f rs u.1 u.2

theorem Treatable.after {f : Output.Filer} {rs : Template.Renderers}
    {u : Generator × Descriptor.Element} (h : Treatable f rs u) : Treatable f (rs.after 1) u := by
  obtain ⟨hkind, hanswer, hfits⟩ := h
  exact ⟨hkind, fun n => hanswer (1 + n), fun hmedium => ⟨(hfits hmedium).1, (hfits hmedium).2.1,
    fun n => (hfits hmedium).2.2 (1 + n)⟩⟩

theorem Treated.of_reports (h : Treated start xs s) (hreports : Session.Reports [] s s') :
    Treated start xs s' where
  isolated before x after hxs := (h.isolated before x after hxs).advance h.advances
    (.of_reports hreports)
  claims name hname := h.claims name (by rwa [← hreports.filer_eq])
  diagnostics_eq := by rw [hreports.diagnostics_eq, List.append_nil, h.diagnostics_eq]
  advances := h.advances.trans (.of_reports hreports)

def builtIn : List Generator :=
  [Kind.factory, Kind.observable].map fun kind => { kind, config := {} }

end Round
end JavaCompanion
