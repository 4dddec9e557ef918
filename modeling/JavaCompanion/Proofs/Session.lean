/-
Steps taken apart.

A step that does not fail leads from a session to a value and to another session (`Gives`).
Two steps in a row do so by way of a session between them (`gives_bind`), and a step taken at
every member of a list does so from one session to the next.  Where the session that is left does
not matter, a step has an `outcome`, which is a value or a fault.  Logging leaves alone whatever is
no part of the log.
-/
import JavaCompanion.Proofs.FileTree.Keeping
import JavaCompanion.Session

namespace JavaCompanion
namespace Step

variable {α β : Type} {s s' : Session}

/-- From the session the step leads to the value and to the other session. -/
def Gives (x : Step α) (s : Session) (a : α) (s' : Session) : Prop := x.run.run s = (.ok a, s')

theorem exists_gives {x : Step α} {a : α} (h : a ∈ (x.run.run s).1.toOption) :
    ∃ s', Gives x s a s' := by
  unfold Gives
  cases hrun : x.run.run s with
  | mk result last =>
    rw [hrun] at h
    cases result with
    | error f => exact nomatch h
    | ok b =>
      cases h
      exact ⟨last, rfl⟩

theorem run_bind (x : Step α) (f : α → Step β) (s : Session) :
    (x >>= f).run.run s =
      match x.run.run s with
      | (.ok a, middle) => (f a).run.run middle
      | (.error e, middle) => (.error e, middle) := by
  simp only [ExceptT.run_bind, StateT.run_bind]
  cases hx : x.run.run s with
  | mk r middle =>
    show StateT.run _ _ = _
    cases r <;> rfl

theorem run_of_gives {x : Step α} {f : α → Step β} {a : α} (h : Gives x s a s') :
    (x >>= f).run.run s = (f a).run.run s' := by
  have hx : x.run.run s = (.ok a, s') := h
  rw [run_bind, hx]

theorem gives_bind {x : Step α} {f : α → Step β} {b : β} :
    Gives (x >>= f) s b s' ↔ ∃ a middle, Gives x s a middle ∧ Gives (f a) middle b s' := by
  unfold Gives
  rw [run_bind]
  cases x.run.run s with
  | mk r middle =>
    cases r with
    | ok a => exact ⟨fun h => ⟨a, middle, rfl, h⟩, fun ⟨_, _, ha, h⟩ => by cases ha; exact h⟩
    | error e => exact ⟨fun h => (nomatch h), fun ⟨_, _, ha, _⟩ => (nomatch ha)⟩

theorem gives_tree (s : Session) : Gives Step.tree s s.tree s := rfl

theorem gives_renderer (s : Session) : Gives Step.renderer s (s.renderers 0) s.headed := rfl

/-- The value or the fault with which a step ends. -/
def outcome (x : Step α) (s : Session) : Except Fault α := (x.run.run s).1

theorem outcome_fail (f : Fault) (s : Session) : outcome (Step.fail f : Step α) s = .error f := rfl

theorem outcome_bind_of_gives {x : Step α} {f : α → Step β} {a : α} (h : Gives x s a s') :
    outcome (x >>= f) s = outcome (f a) s' := congrArg Prod.fst (run_of_gives h)

theorem outcome_bind_of_fault {x : Step α} {f : α → Step β} {e : Fault}
    (h : outcome x s = .error e) : outcome (x >>= f) s = .error e := by
  unfold outcome at h ⊢
  rw [run_bind]
  cases hx : x.run.run s with
  | mk result last =>
    rw [hx] at h
    cases h
    rfl

theorem gives_pure {a b : α} : Gives (pure a) s b s' ↔ b = a ∧ s' = s :=
  ⟨fun h => by cases h; exact ⟨rfl, rfl⟩, fun ⟨ha, hs⟩ => by rw [ha, hs]; rfl⟩

theorem gives_modify {f : Session → Session} {a : Unit} :
    Gives (modify f) s a s' ↔ s' = f s :=
  ⟨fun h => (Prod.mk.inj h).2.symm, fun h => by rw [h]; rfl⟩

theorem gives_get {t : Session} : Gives get s t s' ↔ t = s ∧ s' = s :=
  ⟨fun h => by cases h; exact ⟨rfl, rfl⟩, fun ⟨ht, hs⟩ => by rw [ht, hs]; rfl⟩

theorem gives_lift {x : Except Fault α} {a : α} :
    Gives (Step.lift x) s a s' ↔ x = .ok a ∧ s' = s := by
  cases x with
  | ok b => exact gives_pure.trans (and_congr_left' ⟨fun h => by rw [h], fun h => by cases h; rfl⟩)
  | error f => exact ⟨fun h => (nomatch h), fun ⟨h, _⟩ => (nomatch h)⟩

theorem outcome_lift_bind (x : Except Fault α) (f : α → Step β) (s : Session) :
    outcome (Step.lift x >>= f) s = x >>= fun a => outcome (f a) s := by
  cases x with
  | ok a => exact outcome_bind_of_gives (gives_lift.mpr ⟨rfl, rfl⟩)
  | error e => exact outcome_bind_of_fault rfl

theorem not_gives_fail {f : Fault} {a : α} : ¬ Gives (Step.fail f) s a s' := fun h => nomatch h

/-- Of a step taken at every member of a list, a part gives the first of the values. -/
theorem gives_mapM_append {f : α → Step β} {as more : List α} {bs : List β} :
    Gives ((as ++ more).mapM f) s bs s' ↔
      ∃ first last middle, Gives (as.mapM f) s first middle ∧ Gives (more.mapM f) middle last s'
        ∧ bs = first ++ last := by
  rw [List.mapM_append]
  constructor
  · intro h
    obtain ⟨first, middle, hfirst, h⟩ := gives_bind.mp h
    obtain ⟨last, _, hlast, h⟩ := gives_bind.mp h
    obtain ⟨rfl, rfl⟩ := gives_pure.mp h
    exact ⟨first, last, middle, hfirst, hlast, rfl⟩
  · rintro ⟨first, last, middle, hfirst, hlast, rfl⟩
    exact gives_bind.mpr ⟨first, middle, hfirst,
      gives_bind.mpr ⟨last, s', hlast, gives_pure.mpr ⟨rfl, rfl⟩⟩⟩

theorem gives_mapM_cons {f : α → Step β} {a : α} {rest : List α} {bs : List β} :
    Gives ((a :: rest).mapM f) s bs s' ↔
      ∃ b more middle, Gives (f a) s b middle ∧ Gives (rest.mapM f) middle more s'
        ∧ bs = b :: more := by
  rw [List.mapM_cons]
  constructor
  · intro h
    obtain ⟨b, middle, hb, h⟩ := gives_bind.mp h
    obtain ⟨more, _, hmore, h⟩ := gives_bind.mp h
    obtain ⟨rfl, rfl⟩ := gives_pure.mp h
    exact ⟨b, more, middle, hb, hmore, rfl⟩
  · rintro ⟨b, more, middle, hb, hmore, rfl⟩
    exact gives_bind.mpr ⟨b, middle, hb,
      gives_bind.mpr ⟨more, s', hmore, gives_pure.mpr ⟨rfl, rfl⟩⟩⟩

/-- A step taken at every member of a list ends with the fault at the first that has one. -/
theorem outcome_mapM_of_fault {f : α → Step β} {before after : List α} {a : α} {bs : List β}
    {e : Fault} (hbefore : Gives (before.mapM f) s bs s') (h : outcome (f a) s' = .error e) :
    outcome ((before ++ a :: after).mapM f) s = .error e := by
  rw [List.mapM_append, outcome_bind_of_gives hbefore, List.mapM_cons]
  exact outcome_bind_of_fault (outcome_bind_of_fault h)

end Step

namespace Session

/-! ## Logging -/

/-- Whether the log is written to the place. -/
def isLog (s : Session) (place : List String) : Prop :=
  ∃ f, s.logFile = some f ∧ f.place = place

/-- What the log is written to is a file. -/
def LogStands (s : Session) : Prop :=
  ∀ f, s.logFile = some f → ∃ bytes, s.tree.entryAt? f.place = some (.file bytes)

/-- The diagnostics have been added, and nothing else but the log may have changed. -/
structure Reports (ds : List Round.Diagnostic) (s s' : Session) : Prop where
  filer_eq : s'.filer = s.filer
  diagnostics_eq : s'.diagnostics = s.diagnostics ++ ds
  logFile_eq : s'.logFile = s.logFile
  renderers_eq : s'.renderers = s.renderers
  tree : s.LogStands → FileTree.Keeps s.isLog s.tree s'.tree ∧ s'.LogStands

theorem isLog_congr {s s' : Session} (h : s'.logFile = s.logFile) : s'.isLog = s.isLog := by
  unfold isLog
  rw [h]

theorem LogStands.of_keeps {s s' : Session} {places : List String → Prop} (h : s.LogStands)
    (hlogFile : s'.logFile = s.logFile) (hkeeps : FileTree.Keeps places s.tree s'.tree)
    (hapart : ∀ q, s.isLog q → ¬ places q) : s'.LogStands := by
  intro f hf
  rw [hlogFile] at hf
  obtain ⟨bytes, hbytes⟩ := h f hf
  exact ⟨bytes, (hkeeps.files f.place (hapart f.place ⟨f, hf, rfl⟩) bytes).mpr hbytes⟩

theorem Reports.refl (s : Session) : Reports [] s s :=
  ⟨rfl, (List.append_nil _).symm, rfl, rfl, fun h => ⟨.refl _ _, h⟩⟩

theorem Reports.trans {ds ds' : List Round.Diagnostic} {s s' s'' : Session}
    (h : Reports ds s s') (h' : Reports ds' s' s'') : Reports (ds ++ ds') s s'' where
  filer_eq := h'.filer_eq.trans h.filer_eq
  diagnostics_eq := by rw [h'.diagnostics_eq, h.diagnostics_eq, List.append_assoc]
  logFile_eq := h'.logFile_eq.trans h.logFile_eq
  renderers_eq := h'.renderers_eq.trans h.renderers_eq
  tree hstands := by
    obtain ⟨hkeeps, hstands'⟩ := h.tree hstands
    obtain ⟨hkeeps', hstands''⟩ := h'.tree hstands'
    rw [isLog_congr h.logFile_eq] at hkeeps'
    exact ⟨hkeeps.trans hkeeps', hstands''⟩

theorem reports_log (s : Session) (r : Log.Record) : Reports [] s (s.log r) := by
  unfold log
  dsimp only
  split
  · next f hf =>
    split
    · refine ⟨rfl, (List.append_nil _).symm, rfl, rfl, fun hstands => ?_⟩
      obtain ⟨old, hold⟩ := hstands f hf
      refine ⟨(FileTree.keeps_append hold _).mono fun q hq => ⟨f, hf, hq.symm⟩, fun g hg => ?_⟩
      cases hf.symm.trans hg
      exact ⟨_, FileTree.entryAt?_append hold _⟩
    · exact ⟨rfl, (List.append_nil _).symm, rfl, rfl, fun hstands => ⟨.refl _ _, hstands⟩⟩
  · exact ⟨rfl, (List.append_nil _).symm, rfl, rfl, fun hstands => ⟨.refl _ _, hstands⟩⟩

theorem sameShape_log {s : Session} (h : s.LogStands) (r : Log.Record) :
    FileTree.SameShape s.tree (s.log r).tree := by
  unfold log
  dsimp only
  split
  · next f hf =>
    split
    · obtain ⟨old, hold⟩ := h f hf
      exact FileTree.sameShape_append hold _
    · exact .refl s.tree
  · exact .refl s.tree

theorem reports_logAll (s : Session) (rs : List Log.Record) : Reports [] s (s.logAll rs) := by
  induction rs generalizing s with
  | nil => exact .refl s
  | cons r rest ih => exact (reports_log s r).trans (ih (s.log r))

end Session
end JavaCompanion
