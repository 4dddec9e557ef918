/-
What one unit does to the files.

A unit writes to the log and to the file for its source, if to any, and leaves all other files
as they are.  The file holds the source (`tree_of_ends`).  For this the log must not be a file
for a source (`LogApart`).
-/
import JavaCompanion.Proofs.Round.Entry

namespace JavaCompanion
namespace Round

open Generation

variable {f : Output.Filer} {xs : List Entry} {x : Entry} {s s' : Session}

/-- The places of the files that the units have written. -/
def IsStored (f : Output.Filer) (xs : List Entry) (t : FileTree) (place : List String) : Prop :=
  ∃ x ∈ xs, ∃ name code p, x.source? = some (name, code) ∧ f.pathFor? name = some p
    ∧ t.placeOf p = .ok place

/-- The log goes to a file, if to any, and that is not one for a source. -/
structure LogApart (s : Session) : Prop where
  stands : s.LogStands
  apart : ∀ place, s.isLog place → ∀ name p t, Java.isQualifiedName name = true →
    s.filer.pathFor? name = some p → FileTree.placeOf t p ≠ .ok place

/-- The files for the sources of the units hold them.  Apart from them, and from the log, no file
has changed and no directory is lost. -/
structure OnDisk (start : Session) (xs : List Entry) (now : Session) : Prop where
  holds : ∀ x ∈ xs, ∀ name code, x.source? = some (name, code) →
    Output.Holds start.filer now.tree name code
  others : FileTree.Keeps (fun q => start.isLog q ∨ IsStored start.filer xs now.tree q)
    start.tree now.tree

theorem IsStored.of_keeps {places : List String → Prop} {t t' : FileTree} {q : List String}
    (h : IsStored f xs t q) (hkeeps : FileTree.Keeps places t t') : IsStored f xs t' q := by
  obtain ⟨x, hx, name, code, p, hsource, hp, hplace⟩ := h
  exact ⟨x, hx, name, code, p, hsource, hp, FileTree.placeOf_of_keeps hkeeps hplace⟩

theorem IsStored.mono {ys : List Entry} {t : FileTree} {q : List String}
    (h : IsStored f xs t q) (hxs : ∀ x ∈ xs, x ∈ ys) : IsStored f ys t q := by
  obtain ⟨x, hx, hstored⟩ := h
  exact ⟨x, hxs x hx, hstored⟩

theorem LogApart.not_isStored {start : Session} {t : FileTree} {q : List String}
    (h : LogApart start) (hlog : start.isLog q)
    (hvalid : ∀ x ∈ xs, ∀ name code, x.source? = some (name, code) →
      Java.isQualifiedName name = true) : ¬ IsStored start.filer xs t q := by
  rintro ⟨x, hx, name, code, p, hsource, hp, hplace⟩
  exact h.apart q hlog name p t (hvalid x hx name code hsource) hp hplace

theorem eq_of_source? {name code : String} (h : x.source? = some (name, code)) :
    x.outcome.succeeded = true ∧ name = x.outcome.qualifiedName := by
  unfold Entry.source? at h
  split at h
  · next hsucceeded =>
    split at h
    · cases h
      exact ⟨hsucceeded, rfl⟩
    · cases h
  · cases h

/-- An attempt writes no file but the one for the source, which holds it if it has been brought. -/
theorem AttemptEnds.stored {t : FileTree} {a : Output.Attempt} {file : GeneratedFile}
    (hends : AttemptEnds x a) (hanswer : x.answer = .ok (.generated file))
    (ha : a = Output.create (filerAfter f xs) t x.outcome.qualifiedName
      [x.element.qualifiedName] [file.code] false)
    (hof : IsOf (x.generator, x.element) x.outcome) (hmedium : f.medium = .disk)
    (hcreated : NotRefused x.outcome) :
    FileTree.Keeps (IsStored f [x] a.tree) t a.tree
      ∧ ∀ name code, x.source? = some (name, code) →
        Java.isQualifiedName name = true ∧ Output.Holds f a.tree name code := by
  rcases hends.brings_or_refuses ha hof (fun _ => hcreated) with
    ⟨hfailed, -, -, htree⟩ | ⟨hsucceeded, hbrings⟩
  · rw [htree]
    refine ⟨.refl _ _, fun name code h => ?_⟩
    rw [(eq_of_source? h).1] at hfailed
    cases hfailed
  · obtain ⟨-, hholds, p, place, hp, hplace, hkeeps⟩ := hbrings.onDisk hmedium
    have hsource := source?_of_succeeded hanswer hsucceeded
    refine ⟨hkeeps.mono ?_, fun name code h => ?_⟩
    · rintro q rfl
      exact ⟨x, List.mem_singleton.mpr rfl, _, _, p, hsource, hp, hplace⟩
    · rw [hsource] at h
      cases h
      exact ⟨hbrings.valid, hholds⟩

/-- What a unit that ends has done to the files. -/
theorem tree_of_ends {start : Session} (hof : IsOf (x.generator, x.element) x.outcome)
    (hends : Ends x s s') (hfiler : s.filer = filerAfter start.filer xs)
    (hlogFile : s.logFile = start.logFile) (hmedium : start.filer.medium = .disk)
    (happart : LogApart start) (hcreated : NotRefused x.outcome) (hstands : s.LogStands) :
    s'.LogStands
      ∧ FileTree.Keeps (fun q => start.isLog q ∨ IsStored start.filer [x] s'.tree q) s.tree s'.tree
      ∧ ∀ name code, x.source? = some (name, code) →
        Output.Holds start.filer s'.tree name code := by
  cases hends with
  | failed fault hanswer hfailure hreports =>
    obtain ⟨hkeeps, hstands'⟩ := hreports.tree hstands
    rw [Session.isLog_congr hlogFile] at hkeeps
    refine ⟨hstands', hkeeps.mono fun q hq => .inl hq, fun name code h => ?_⟩
    have hsucceeded := succeeded_iff.mp (eq_of_source? h).1
    rw [hfailure] at hsucceeded
    cases hsucceeded
  | attempted file name middle a hanswer hname hqualified ha hends hwarnings hreports =>
    subst hqualified
    rw [hwarnings.filer_eq, hfiler] at ha
    obtain ⟨hkeeps, hstandsMiddle⟩ := hwarnings.tree hstands
    obtain ⟨hwritten, hsources⟩ := hends.stored hanswer ha hof hmedium hcreated
    have hisLog : middle.isLog = start.isLog :=
      Session.isLog_congr (hwarnings.logFile_eq.trans hlogFile)
    have hstandsKept : (kept middle a).LogStands :=
      hstandsMiddle.of_keeps rfl hwritten fun q hlog => by
        rw [hisLog] at hlog
        refine happart.not_isStored hlog fun y hy name code hsource => ?_
        rw [List.mem_singleton.mp hy] at hsource
        exact (hsources name code hsource).1
    obtain ⟨hkeeps', hstands'⟩ := hreports.tree hstandsKept
    have hisLog' : (kept middle a).isLog = start.isLog := hisLog
    rw [Session.isLog_congr hlogFile] at hkeeps
    rw [hisLog'] at hkeeps'
    refine ⟨hstands', ?_, fun name code h => ?_⟩
    · have hwritten' := hwritten.mono fun q hq => Or.inr (a := start.isLog q) (hq.of_keeps hkeeps')
      exact ((hkeeps.mono fun q => .inl).trans hwritten').trans (hkeeps'.mono fun q => .inl)
    · obtain ⟨hvalid, hholds⟩ := hsources name code h
      exact hholds.of_keeps hkeeps' fun p q hp hq hlog =>
        happart.apart q hlog name p s'.tree hvalid hp hq

end Round
end JavaCompanion
