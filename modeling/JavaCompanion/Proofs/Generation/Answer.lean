/-
What generation answers.

Whether a file can be generated for an element, and which, is a matter of the generator, of the
element and of the engine that renders the header: nothing else of the session in which it is
asked for has a part in it, and nothing but the log and the engines to come changes
(`gives_result`).
-/
import JavaCompanion.Generation.Run
import JavaCompanion.Proofs.Session

namespace JavaCompanion
namespace Generation

open Descriptor Step

variable {g : Generator} {r : Template.Renderer} {e : Element} {p : Plan} {code : String}
  {f : Fault} {file : GeneratedFile}

namespace Generator

/-- A plan with its source, where there is one. -/
def planned (g : Generator) (r : Template.Renderer) (e : Element) :
    Except Fault (Plan × String) := do
  let p ← g.plan e
  return (p, ← g.source r p)

/-- What generation gives for an element: the file of what has been planned, or the fault if it is
one that is reported. -/
def answer (g : Generator) (r : Template.Renderer) (e : Element) : Except Fault Result :=
  match g.planned r e with
  | .ok (p, code) => (fileOf g e p code).map .generated
  | .error f => if isReported f then .ok (.failed f) else .error f

theorem planned_of_source (hplan : g.plan e = .ok p) (h : g.source r p = .ok code) :
    g.planned r e = .ok (p, code) :=
  bind_eq_ok.mpr ⟨p, hplan, bind_eq_ok.mpr ⟨code, h, rfl⟩⟩

theorem planned_of_source_error (hplan : g.plan e = .ok p) (h : g.source r p = .error f) :
    g.planned r e = .error f :=
  bind_eq_error.mpr (.inr ⟨p, hplan, bind_eq_error.mpr (.inl h)⟩)

theorem planned_of_plan_error (h : g.plan e = .error f) : g.planned r e = .error f :=
  bind_eq_error.mpr (.inl h)

theorem run_planned (g : Generator) (r : Template.Renderer) (e : Element) :
    ∃ records, ∀ s : Session,
      (do let p ← g.planStep e; return (p, ← Step.lift (g.source r p)) :
        Step (Plan × String)).run.run s = (g.planned r e, s.logAll records) := by
  unfold planStep planned
  cases g.plan e with
  | error f => exact ⟨[], fun s => rfl⟩
  | ok p =>
    refine ⟨p.records, fun s => ?_⟩
    show (Step.lift (g.source r p) >>= fun code => pure (p, code) :
      Step (Plan × String)).run.run (s.logAll p.records) = (_, s.logAll p.records)
    show _ = ((g.source r p >>= fun code => pure (p, code)), s.logAll p.records)
    cases g.source r p <;> rfl

theorem run_attempt {x : Step α} {s s' : Session} {r : Except Fault α}
    (h : x.run.run s = (r, s')) : (Step.attempt x).run.run s = (.ok r, s') := by
  show ((.ok (x.run.run s).1 : Except Fault (Except Fault α)), (x.run.run s).2) = (.ok r, s')
  rw [h]

/-- The engine at hand decides about the answer, and is used up; there are records about it. -/
theorem run_result (g : Generator) (e : Element) (s : Session) :
    ∃ records, (g.result e).run.run s = (g.answer (s.renderers 0) e, s.headed.logAll records) := by
  obtain ⟨records, hplanned⟩ := run_planned g (s.renderers 0) e
  unfold result answer
  rw [run_of_gives (gives_renderer s)]
  simp only [run_bind, run_attempt (hplanned _)]
  cases g.planned (s.renderers 0) e with
  | ok made =>
    obtain ⟨p, code⟩ := made
    dsimp only
    cases fileOf g e p code <;> exact ⟨records, rfl⟩
  | error f =>
    dsimp only
    split
    · refine ⟨records ++ [failedRecord g e f], ?_⟩
      rw [Session.logAll, Session.logAll, List.foldl_append]
      rfl
    · exact ⟨records, rfl⟩

/-- A file that has been generated is that of a plan with its source. -/
theorem planned_of_answer (h : g.answer r e = .ok (.generated file)) :
    ∃ p code, g.plan e = .ok p ∧ g.source r p = .ok code ∧ fileOf g e p code = .ok file := by
  unfold answer at h
  cases hplanned : g.planned r e with
  | error f =>
    rw [hplanned] at h
    dsimp only at h
    split at h <;> exact nomatch h
  | ok made =>
    obtain ⟨p, hplan, hmade⟩ := bind_eq_ok.mp hplanned
    obtain ⟨code, hcode, hmade⟩ := bind_eq_ok.mp hmade
    cases hmade
    rw [hplanned] at h
    dsimp only at h
    cases hfile : fileOf g e p code with
    | error f =>
      rw [hfile] at h
      exact nomatch h
    | ok made =>
      rw [hfile] at h
      cases h
      exact ⟨p, code, hplan, hcode, hfile⟩

/-- The name of a file that has been generated is a text. -/
theorem exists_qualifiedName (h : g.answer r e = .ok (.generated file)) :
    ∃ name, file.qualifiedName = .text name := by
  obtain ⟨p, code, -, -, hfile⟩ := planned_of_answer h
  obtain ⟨output, houtput, hfile⟩ := bind_eq_ok.mp hfile
  cases hfile
  obtain ⟨name, hname, -⟩ := bind_eq_ok.mp (shaped_eq_ok.mp houtput)
  cases hvalue : p.outline.qualifiedName with
  | text t => exact ⟨t, rfl⟩
  | _ =>
    rw [hvalue] at hname
    exact nomatch hname

theorem gives_result {s s' : Session} {result : Result} (h : Gives (g.result e) s result s') :
    g.answer (s.renderers 0) e = .ok result ∧ Session.Reports [] s.headed s' := by
  obtain ⟨records, hrun⟩ := run_result g e s
  obtain ⟨hanswer, rfl⟩ := Prod.mk.inj (hrun.symm.trans h)
  exact ⟨hanswer, Session.reports_logAll s.headed records⟩

end Generator

end Generation
end JavaCompanion
