/-
What becomes of one unit.

A unit is a generator with an element.  It fails to be generated, or a file is generated for it
and an attempt is made to write that (`ends_of_outcome`).  A unit that ends is settled: it
succeeds just when its file has been generated under a valid name that no unit before it has
claimed, and then the filer has claimed the name and nothing else (`settled_of_ends`).
-/
import JavaCompanion.Proofs.Generation.Answer
import JavaCompanion.Proofs.Output.Filer
import JavaCompanion.Round.Run

namespace JavaCompanion
namespace Round

open Generation Step

/-! ## Units and their outcomes -/

/-- A generator with an element, the engine for their header, and what has become of them. -/
structure Entry where
  generator : Generator
  element : Descriptor.Element
  renderer : Template.Renderer
  outcome : Outcome

namespace Entry

def answer (x : Entry) : Except Fault Result := x.generator.answer x.renderer x.element

/-- The name and the text of the source that a unit has brought, if it has succeeded. -/
def source? (x : Entry) : Option (String × String) :=
  if x.outcome.succeeded then
    match x.answer with
    | .ok (.generated file) => some (x.outcome.qualifiedName, file.code)
    | _ => none
  else none

/-- The warnings about a file that has been generated. -/
def warnings (x : Entry) : List Diagnostic :=
  match x.answer with
  | .ok (.generated file) => file.warnings.map (about x.element .warning)
  | _ => []

def error? (x : Entry) : Option Diagnostic := x.outcome.failure.map (about x.element .error)

end Entry

/-- The outcome tells which unit it is of. -/
def IsOf (u : Generator × Descriptor.Element) (o : Outcome) : Prop :=
  o.generator = u.1.kind.name ∧ o.source = u.2.qualifiedName

/-- The units stand beside what has become of them, each with the engine that it has come upon. -/
def entriesOf (rs : Template.Renderers) :
    List (Generator × Descriptor.Element) → List Outcome → List Entry
  | u :: units, o :: outcomes => ⟨u.1, u.2, rs 0, o⟩ :: entriesOf (rs.after 1) units outcomes
  | _, _ => []

@[simp] theorem entriesOf_nil_right (rs : Template.Renderers)
    (units : List (Generator × Descriptor.Element)) : entriesOf rs units [] = [] := by
  cases units <;> rfl

theorem entriesOf_append {rs : Template.Renderers}
    {units more : List (Generator × Descriptor.Element)} {outcomes others : List Outcome}
    (h : List.Forall₂ IsOf units outcomes) : entriesOf rs (units ++ more) (outcomes ++ others)
      = entriesOf rs units outcomes ++ entriesOf (rs.after units.length) more others := by
  induction h generalizing rs with
  | nil => simp
  | @cons u o units outcomes _ _ ih =>
    rw [List.cons_append, List.cons_append, entriesOf, ih, entriesOf, List.cons_append,
      Template.Renderers.after_after, List.length_cons, Nat.add_comm]

/-- The names under which the units have brought sources. -/
def claimedNames (xs : List Entry) : List String :=
  (xs.filter (·.outcome.succeeded)).map (·.outcome.qualifiedName)

/-- A unit is reported as what it is.  It has succeeded just when its file has been generated
under a valid name that none of the units before it has claimed. -/
structure Settled (before : List Entry) (x : Entry) : Prop where
  generator_eq : x.outcome.generator = x.generator.kind.name
  source_eq : x.outcome.source = x.element.qualifiedName
  qualifiedName_eq : ∀ file, x.answer = .ok (.generated file) →
    file.qualifiedName = .text x.outcome.qualifiedName
  succeeded_iff : x.outcome.succeeded = true ↔
    ∃ file name, x.answer = .ok (.generated file) ∧ file.qualifiedName = .text name
      ∧ Java.isQualifiedName name = true ∧ name ∉ claimedNames before

theorem Settled.of_succeeded {before : List Entry} {x : Entry} (h : Settled before x)
    (hsucceeded : x.outcome.succeeded = true) :
    ∃ file, x.answer = .ok (.generated file)
      ∧ Java.isQualifiedName x.outcome.qualifiedName = true
      ∧ x.outcome.qualifiedName ∉ claimedNames before := by
  obtain ⟨file, name, hanswer, hname, hvalid, hfresh⟩ := h.succeeded_iff.mp hsucceeded
  rw [h.qualifiedName_eq file hanswer] at hname
  cases hname
  exact ⟨file, hanswer, hvalid, hfresh⟩

/-! ## One unit -/

theorem reports_report {d : Diagnostic} {s s' : Session} {a : Unit}
    (h : Gives (report d) s a s') : Session.Reports [d] s s' := by
  rw [report, gives_modify] at h
  subst h
  have hfirst : Session.Reports [d] s { s with diagnostics := s.diagnostics ++ [d] } :=
    ⟨rfl, rfl, rfl, rfl, fun hstands => ⟨.refl _ _, hstands⟩⟩
  exact hfirst.trans (Session.reports_log _ d.record)

theorem reports_forM {of : String → Diagnostic} {ws : List String} {s s' : Session} {a : Unit}
    (h : Gives (ws.forM fun w => report (of w)) s a s') : Session.Reports (ws.map of) s s' := by
  induction ws generalizing s with
  | nil =>
    obtain ⟨-, rfl⟩ := gives_pure.mp h
    exact .refl _
  | cons w rest ih =>
    obtain ⟨_, middle, hw, hrest⟩ := gives_bind.mp h
    exact (reports_report hw).trans (ih hrest)

/-- What an attempt to write a source makes of a session. -/
def kept (s : Session) (a : Output.Attempt) : Session := { s with filer := a.filer, tree := a.tree }

/-- How an attempt to write a source ends in an outcome. -/
def AttemptEnds (x : Entry) (a : Output.Attempt) : Prop :=
  a.fault = none ∧ x.outcome.failure = none
    ∨ ∃ fault, a.fault = some (.output fault)
      ∧ x.outcome.failure = some (failedText "write" x.generator (.output fault))

/-- How a unit ends. -/
inductive Ends (x : Entry) (s s' : Session) : Prop
  | failed (f : Fault) :
      x.answer = .ok (.failed f) →
      x.outcome.failure = some (failedText "generate" x.generator f) →
      Session.Reports x.error?.toList s s' → Ends x s s'
  | attempted (file : GeneratedFile) (name : String) (middle : Session) (a : Output.Attempt) :
      x.answer = .ok (.generated file) →
      file.qualifiedName = .text name →
      x.outcome.qualifiedName = name →
      a = Output.create middle.filer middle.tree name [x.element.qualifiedName] [file.code] false →
      AttemptEnds x a →
      Session.Reports x.warnings s middle →
      Session.Reports x.error?.toList (kept middle a) s' → Ends x s s'

theorem Ends.renderers_eq {x : Entry} {s s' : Session} (h : Ends x s s') :
    s'.renderers = s.renderers := by
  cases h with
  | failed f hanswer hfailure hreports => exact hreports.renderers_eq
  | attempted file name middle a hanswer hname hqualified ha hends hwarnings hreports =>
    exact hreports.renderers_eq.trans hwarnings.renderers_eq

theorem gives_failure {x : Entry} {name message : String} {s s' : Session}
    (h : Gives (failure x.generator x.element name message) s x.outcome s') :
    IsOf (x.generator, x.element) x.outcome ∧ x.outcome.qualifiedName = name
      ∧ x.outcome.failure = some message ∧ Session.Reports x.error?.toList s s' := by
  obtain ⟨_, middle, hreport, h⟩ := gives_bind.mp h
  obtain ⟨houtcome, rfl⟩ := gives_pure.mp h
  have hfailure : x.outcome.failure = some message := by rw [houtcome]
  have herror : x.error? = some (about x.element .error message) := by
    rw [Entry.error?, hfailure]
    rfl
  rw [herror]
  exact ⟨⟨by rw [houtcome], by rw [houtcome]⟩, by rw [houtcome], hfailure, reports_report hreport⟩

theorem gives_write {x : Entry} {name code : String} {s s' : Session}
    (h : Gives (write x.generator x.element name code) s x.outcome s') :
    IsOf (x.generator, x.element) x.outcome ∧ x.outcome.qualifiedName = name
      ∧ ∃ a, a = Output.create s.filer s.tree name [x.element.qualifiedName] [code] false
        ∧ AttemptEnds x a ∧ Session.Reports x.error?.toList (kept s a) s' := by
  obtain ⟨now, after, hget, h⟩ := gives_bind.mp h
  obtain ⟨hnow, hafter⟩ := gives_get.mp hget
  rw [hnow, hafter] at h
  dsimp only at h
  generalize ha : Output.create s.filer s.tree name [x.element.qualifiedName] [code] false = a at h
  obtain ⟨_, session, hkeep, h⟩ := gives_bind.mp h
  have hkept : session = kept s a := gives_modify.mp hkeep
  rw [hkept] at h
  split at h
  · next f hfault =>
    obtain ⟨hof, hname, hfailure, hreports⟩ := gives_failure h
    exact ⟨hof, hname, a, rfl, .inr ⟨f, hfault, hfailure⟩, hreports⟩
  · exact absurd h not_gives_fail
  · next hfault =>
    have hlogged : ∃ last, Session.Reports [] (kept s a) last
        ∧ Gives (pure { generator := x.generator.kind.name, source := x.element.qualifiedName
                        qualifiedName := name } : Step Outcome) last x.outcome s' := by
      split at h
      · obtain ⟨_, last, hlog, h⟩ := gives_bind.mp h
        obtain rfl := gives_modify.mp hlog
        exact ⟨_, Session.reports_log _ _, h⟩
      · exact ⟨_, .refl _, h⟩
    obtain ⟨last, hreports, hpure⟩ := hlogged
    obtain ⟨houtcome, rfl⟩ := gives_pure.mp hpure
    have hnone : x.outcome.failure = none := by rw [houtcome]
    have herror : x.error? = none := by
      rw [Entry.error?, hnone]
      rfl
    rw [herror]
    exact ⟨⟨by rw [houtcome], by rw [houtcome]⟩, by rw [houtcome], a, rfl,
      .inl ⟨hfault, hnone⟩, hreports⟩

/-- A unit comes upon the engine at hand and uses it up. -/
theorem ends_of_outcome {x : Entry} {s s' : Session} (hrenderer : x.renderer = s.renderers 0)
    (h : Gives (outcome x.generator x.element) s x.outcome s') :
    IsOf (x.generator, x.element) x.outcome ∧ Ends x s.headed s' := by
  obtain ⟨r, middle, hresult, h⟩ := gives_bind.mp h
  obtain ⟨hanswer, hlogged⟩ := Generator.gives_result hresult
  rw [← hrenderer] at hanswer
  cases r with
  | failed f =>
    obtain ⟨hof, -, hfailure, hreports⟩ := gives_failure h
    exact ⟨hof, .failed f hanswer hfailure (hlogged.trans hreports)⟩
  | generated file =>
    obtain ⟨name, hname⟩ := Generator.exists_qualifiedName hanswer
    obtain ⟨_, warned, hwarnings, h⟩ := gives_bind.mp h
    rw [hname] at h
    obtain ⟨hof, hqualified, a, ha, hends, hreports⟩ := gives_write h
    have hwarned : x.warnings = file.warnings.map (about x.element .warning) := by
      rw [Entry.warnings, Entry.answer, hanswer]
    refine ⟨hof, .attempted file name warned a hanswer hname hqualified ha hends ?_ hreports⟩
    rw [hwarned]
    exact hlogged.trans (reports_forM hwarnings)

/-! ## Refusals of the file system -/

/-- It is not because the file system refused to create a file that the unit failed, if it did. -/
def NotRefused (o : Outcome) : Prop :=
  ∀ g path reason, o.generator = g.kind.name →
    o.failure ≠ some (failedText "write" g (.output (.refused path reason)))

/-- How the text of a failure begins if it is because of that. -/
def refusedOpening (generator : String) : String :=
  "Unable to write " ++ generator ++ " file: Cannot create "

theorem message_refused (path : String) (reason : FileTree.Reason) :
    (Fault.output (.refused path reason)).message?.getD ""
      = "Cannot create " ++ path ++ ": " ++ reason.text := rfl

theorem failedText_refused (g : Generator) (path : String) (reason : FileTree.Reason) :
    failedText "write" g (.output (.refused path reason))
      = refusedOpening g.kind.name ++ (path ++ ": " ++ reason.text) := by
  have hverb : "Unable to " ++ "write" ++ " " = "Unable to write " := by decide
  have hfile : " file: " ++ "Cannot create " = " file: Cannot create " := by decide
  unfold failedText refusedOpening
  simp only [message_refused, hverb, ← hfile, ← String.append_assoc]

theorem notRefused_of_text {o : Outcome}
    (h : ∀ m ∈ o.failure, ¬ (refusedOpening o.generator).toList <+: m.toList) :
    NotRefused o := by
  intro g path reason hgenerator hfailure
  refine h _ hfailure ?_
  rw [hgenerator, failedText_refused, String.toList_append]
  exact List.prefix_append _ _

/-! ## Claims and sources -/

/-- The claims of the units that have succeeded, each with the type it is for. -/
def claimsOf (xs : List Entry) : List (String × List String) :=
  (xs.filter (·.outcome.succeeded)).map fun x =>
    (x.outcome.qualifiedName, [x.element.qualifiedName])

/-- The sources that a filer holds itself. -/
def sourcesOf (medium : Output.Medium) (xs : List Entry) : List (String × String) :=
  match medium with
  | .memory => xs.filterMap Entry.source?
  | .disk => []

def filerAfter (f : Output.Filer) (xs : List Entry) : Output.Filer :=
  { f with created := claimsOf xs, sources := sourcesOf f.medium xs }

variable {f : Output.Filer} {xs : List Entry} {x : Entry} {s s' : Session}

theorem isClaimed_filerAfter (f : Output.Filer) (xs : List Entry) (name : String) :
    (filerAfter f xs).isClaimed name = false ↔ name ∉ claimedNames xs := by
  simp [Output.Filer.isClaimed, filerAfter, claimsOf, claimedNames]

theorem filerAfter_failed (h : x.outcome.succeeded = false) :
    filerAfter f (xs ++ [x]) = filerAfter f xs := by
  have hclaims : claimsOf (xs ++ [x]) = claimsOf xs := by
    simp [claimsOf, List.filter_append, h]
  have hsources : sourcesOf f.medium (xs ++ [x]) = sourcesOf f.medium xs := by
    cases f.medium with
    | memory => simp [sourcesOf, Entry.source?, h]
    | disk => rfl
  rw [filerAfter, hclaims, hsources]
  rfl

theorem claimsOf_succeeded (h : x.outcome.succeeded = true) :
    claimsOf (xs ++ [x])
      = claimsOf xs ++ [(x.outcome.qualifiedName, [x.element.qualifiedName])] := by
  simp [claimsOf, List.filter_append, h]

theorem succeeded_iff {o : Outcome} : o.succeeded = true ↔ o.failure = none :=
  Option.isNone_iff_eq_none

theorem source?_of_succeeded {file : GeneratedFile} (hanswer : x.answer = .ok (.generated file))
    (h : x.outcome.succeeded = true) :
    x.source? = some (x.outcome.qualifiedName, file.code) := by
  rw [Entry.source?, if_pos h, hanswer]

theorem failed_of_failure {m : String} (h : x.outcome.failure = some m) :
    x.outcome.succeeded = false := by
  rw [Outcome.succeeded, h]
  rfl

/-- An attempt that fails leaves the filer and the files as they were, and one that succeeds
brings the source. -/
theorem AttemptEnds.brings_or_refuses {g : Output.Filer} {t : FileTree} {a : Output.Attempt}
    {code : String} (hends : AttemptEnds x a)
    (ha : a = Output.create g t x.outcome.qualifiedName [x.element.qualifiedName] [code] false)
    (hof : IsOf (x.generator, x.element) x.outcome)
    (hcreated : g.medium = .disk → NotRefused x.outcome) :
    (x.outcome.succeeded = false
        ∧ ¬ (Java.isQualifiedName x.outcome.qualifiedName = true
          ∧ g.isClaimed x.outcome.qualifiedName = false)
        ∧ a.filer = g ∧ a.tree = t)
      ∨ (x.outcome.succeeded = true
        ∧ Output.Brings g t x.outcome.qualifiedName [x.element.qualifiedName] code a) := by
  rcases hends with ⟨hfault, hnone⟩ | ⟨fault, hfault, hfailure⟩
  · exact .inr ⟨succeeded_iff.mpr hnone, Output.create_brings ha hfault⟩
  · refine .inl ⟨failed_of_failure hfailure, Output.create_refuses ha hfault ?_⟩
    rintro hmedium path reason rfl
    exact hcreated hmedium _ path reason hof.1 hfailure

theorem filerAfter_succeeded {file : GeneratedFile} {t : FileTree} {a : Output.Attempt}
    (hanswer : x.answer = .ok (.generated file)) (hsucceeded : x.outcome.succeeded = true)
    (h : Output.Brings (filerAfter f xs) t x.outcome.qualifiedName [x.element.qualifiedName]
      file.code a) : a.filer = filerAfter f (xs ++ [x]) := by
  have hsource := source?_of_succeeded hanswer hsucceeded
  have hclaims : claimsOf (xs ++ [x]) = _ := claimsOf_succeeded hsucceeded
  cases hmedium : f.medium with
  | memory =>
    rw [h.inMemory hmedium]
    simp [filerAfter, Output.Filer.claimed, hclaims, sourcesOf, hmedium, hsource]
  | disk =>
    rw [(h.onDisk hmedium).1]
    simp [filerAfter, Output.Filer.claimed, hclaims, sourcesOf, hmedium]

/-- A unit that ends settles what becomes of it, and of the filer. -/
theorem settled_of_ends (hof : IsOf (x.generator, x.element) x.outcome) (hends : Ends x s s')
    (hfiler : s.filer = filerAfter f xs) (hcreated : f.medium = .disk → NotRefused x.outcome) :
    Settled xs x ∧ s'.filer = filerAfter f (xs ++ [x]) := by
  cases hends with
  | failed fault hanswer hfailure hreports =>
    have hfailed := failed_of_failure hfailure
    have hnone : ∀ file, x.answer ≠ .ok (.generated file) := by simp [hanswer]
    refine ⟨⟨hof.1, hof.2, fun file h => absurd h (hnone file), ?_⟩, ?_⟩
    · simp [hfailed, hnone]
    · rw [hreports.filer_eq, hfiler, filerAfter_failed hfailed]
  | attempted file name middle a hanswer hname hqualified ha hends hwarnings hreports =>
    subst hqualified
    rw [hwarnings.filer_eq, hfiler] at ha
    have hlast : s'.filer = a.filer := hreports.filer_eq
    have hqualified : ∀ other, x.answer = .ok (.generated other) →
        other.qualifiedName = .text x.outcome.qualifiedName := fun other h => by
      rw [hanswer] at h
      cases h
      exact hname
    rw [hlast]
    rcases hends.brings_or_refuses ha hof hcreated with
      ⟨hfailed, hrefused, hsame, -⟩ | ⟨hsucceeded, hbrings⟩
    · refine ⟨⟨hof.1, hof.2, hqualified, ?_⟩, by rw [hsame, filerAfter_failed hfailed]⟩
      rw [hfailed]
      refine ⟨fun h => absurd h Bool.false_ne_true, ?_⟩
      rintro ⟨other, name, hother, htext, hvalid, hfresh⟩
      rw [hqualified other hother] at htext
      cases htext
      exact absurd ⟨hvalid, (isClaimed_filerAfter f xs _).mpr hfresh⟩ hrefused
    · refine ⟨⟨hof.1, hof.2, hqualified, fun _ => ?_, fun _ => hsucceeded⟩,
        filerAfter_succeeded hanswer hsucceeded hbrings⟩
      exact ⟨file, _, hanswer, hname, hbrings.valid,
        (isClaimed_filerAfter f xs _).mp hbrings.unclaimed⟩

end Round
end JavaCompanion
