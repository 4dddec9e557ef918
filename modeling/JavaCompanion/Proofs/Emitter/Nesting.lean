/-
Constructs inside each other.

Each construct can stand directly inside of a few others.  An open frame stands inside of one
of these, indents as its construct does, and knows what it has to know about where it stands
(`Frame.Fits`).  Operations keep this, those that are refused included.  So whatever calls are
made of an emitter, what is open afterwards is a row of classes with one more construct or one
method in the last of them, and the depth is what these indent (`orderly_makeCalls`).
-/
import JavaCompanion.Proofs.Emitter.Refusal
import Mathlib.Data.List.Infix

namespace JavaCompanion
namespace Emitter

/-! ## What stands where -/

/-- The places directly inside of which a construct can be opened. -/
def Context.standsIn : Context → List Place
  | .classHeader | .classBody | .interfaceBody => [none, some .classBody]
  | .parameters => [some .classBody, some .interfaceBody]
  | .methodBody => [some .classBody]
  | .loopBody | .statement => [some .methodBody, some .loopBody]
  | .arguments => [some .methodBody, some .loopBody, some .statement]

def Context.isBody : Context → Bool
  | .classBody | .interfaceBody | .methodBody | .loopBody => true
  | _ => false

/-- The levels by which a construct indents what is in it. -/
def Context.levels (c : Context) : Nat :=
  if c.isBody then 1 else if c = .parameters then 2 else 0

/-- A frame is right about where it stands. -/
structure Frame.Fits (f : Frame) (place : Place) : Prop where
  stands : place ∈ f.context.standsIn
  indent_eq : f.indent = f.context.levels
  inline_iff : f.context = .arguments → (f.inline = true ↔ place = some .statement)
  bodiless_iff : f.context = .parameters → (f.bodiless = true ↔ place = some .interfaceBody)

/-- Every frame is right about the one below it. -/
inductive WellNested : List Frame → Prop
  | nil : WellNested []
  | cons {f : Frame} {below : List Frame} :
      f.Fits (placeOf below) → WellNested below → WellNested (f :: below)

theorem WellNested.tail {frames : List Frame} (h : WellNested frames) :
    WellNested frames.tail := by
  cases h with
  | nil => exact .nil
  | cons _ hbelow => exact hbelow

/-! ## Marks -/

theorem contexts_congr {frames frames' : List Frame}
    (h : frames'.map Frame.unmarked = frames.map Frame.unmarked) :
    frames'.map Frame.context = frames.map Frame.context := by
  have hcontexts := congrArg (List.map Frame.context) h
  rw [List.map_map, List.map_map] at hcontexts
  exact hcontexts

theorem placeOf_congr {frames frames' : List Frame}
    (h : frames'.map Frame.unmarked = frames.map Frame.unmarked) :
    placeOf frames' = placeOf frames := by
  rw [placeOf, placeOf, ← List.head?_map, ← List.head?_map]
  exact congrArg List.head? (contexts_congr h)

theorem total_congr {frames frames' : List Frame}
    (h : frames'.map Frame.unmarked = frames.map Frame.unmarked) :
    total frames' = total frames := by
  have htotal : ∀ fs : List Frame, total (fs.map Frame.unmarked) = total fs := by
    intro fs
    induction fs with
    | nil => rfl
    | cons f rest ih => rw [List.map_cons, total_cons, total_cons, ih]; rfl
  rw [← htotal frames', h, htotal]

theorem Frame.Fits.congr {f f' : Frame} {place : Place} (hf : f.Fits place)
    (h : f'.unmarked = f.unmarked) : f'.Fits place := by
  obtain ⟨hcontext, -, hindent, -, hinline, hbodiless, -, -⟩ := Frame.mk.inj h
  refine ⟨?_, ?_, ?_, ?_⟩
  · rw [hcontext]
    exact hf.stands
  · rw [hindent, hcontext]
    exact hf.indent_eq
  · rw [hcontext, hinline]
    exact hf.inline_iff
  · rw [hcontext, hbodiless]
    exact hf.bodiless_iff

/-- Marks are of no account for how frames stand. -/
theorem WellNested.congr {frames frames' : List Frame} (hframes : WellNested frames)
    (h : frames'.map Frame.unmarked = frames.map Frame.unmarked) : WellNested frames' := by
  induction hframes generalizing frames' with
  | nil =>
    rw [List.map_nil, List.map_eq_nil_iff] at h
    rw [h]
    exact .nil
  | cons hfits _ ih =>
    cases frames' with
    | nil => exact nomatch h
    | cons f' below' =>
      rw [List.map_cons, List.map_cons] at h
      obtain ⟨hf, hbelow⟩ := List.cons.inj h
      refine .cons ?_ (ih hbelow)
      rw [placeOf_congr hbelow]
      exact hfits.congr hf

theorem WellNested.markTop {frames : List Frame} (h : WellNested frames) (m : Mark) :
    WellNested (markTop m frames) :=
  h.congr (map_unmarked_markTop m frames)

/-! ## Operations -/

theorem wellNested_callFrames {frames : List Frame} (h : WellNested frames)
    (hplace : placeOf frames ∈ Context.arguments.standsIn) (target : String) :
    WellNested (callFrames ((innermost frames).context == .statement) target frames) := by
  cases h with
  | nil => exact absurd hplace (by decide)
  | @cons f below hfits hbelow =>
    have hplaces : f.context = .methodBody ∨ f.context = .loopBody ∨ f.context = .statement := by
      simpa [placeOf, Context.standsIn] using hplace
    have hframes : WellNested (f :: below) := .cons hfits hbelow
    simp only [callFrames, innermost, List.head?_cons, Option.getD_some]
    rcases hplaces with hc | hc | hc
    · refine .cons ⟨?_, rfl, ?_, by simp⟩ (by simpa [hc] using hframes)
      · simp [placeOf, hc, Context.standsIn]
      · simp [placeOf, hc]
    · refine .cons ⟨?_, rfl, ?_, by simp⟩ (by simpa [hc] using hframes)
      · simp [placeOf, hc, Context.standsIn]
      · simp [placeOf, hc]
    · have hbegun : (f.mark .begun).context = .statement := hc
      refine .cons ⟨?_, rfl, ?_, by simp⟩ (by simpa [hc] using hframes.markTop .begun)
      · simp [placeOf, hc, Context.standsIn, Emitter.markTop, hbegun]
      · simp [placeOf, hc, Emitter.markTop, hbegun]

/-- A legal operation leads from frames that are right about where they stand to such frames. -/
theorem wellNested_after {frames : List Frame} {op : Operation} (h : WellNested frames)
    (hplaced : op.places.contains (placeOf frames) = true)
    (hadmitted : op.admits (innermost frames) = true) : WellNested (op.after frames) := by
  rw [List.contains_iff_mem] at hplaced
  cases op with
  | classStart _ _ _ | interfaceStart _ _ _ _ | declarationStart _ _ _ | returnStart
  | loopStart _ _ _ _ => exact .cons ⟨hplaced, rfl, by simp, by simp⟩ h
  | classExtends _ | parameter _ _ _ _ | argument _ | newInstance _ _ => exact h.markTop _
  | classImplements names =>
    simp only [Operation.after]
    split
    · exact h
    · exact h.markTop _
  | classEnd =>
    cases h with
    | nil => simp [Operation.places, placeOf] at hplaced
    | @cons f below hfits hbelow =>
      have hcontext : f.context = .classHeader := by
        simpa [Operation.places, placeOf] using hplaced
      have hstands := hfits.stands
      rw [hcontext] at hstands
      exact .cons ⟨hstands, rfl, by simp, by simp⟩ hbelow
  | bodyStart thrown =>
    cases h with
    | nil => simp [Operation.places, placeOf] at hplaced
    | @cons f below hfits hbelow =>
      have hcontext : f.context = .parameters := by
        simpa [Operation.places, placeOf] using hplaced
      -- A method whose declaration admits a body is none of an interface.
      have hnot : placeOf below ≠ some .interfaceBody := fun hplace => by
        have hbodiless := (hfits.bodiless_iff hcontext).mpr hplace
        simp [Operation.admits, innermost, hbodiless] at hadmitted
      have hstands := hfits.stands
      rw [hcontext] at hstands
      have hclass : placeOf below = some .classBody := by
        simpa [Context.standsIn, hnot] using hstands
      exact .cons ⟨List.mem_singleton.mpr hclass, rfl, by simp, by simp⟩ hbelow
  | interfaceEnd | blockEnd | bodiless _ | callEnd | statementEnd | loopEnd => exact h.tail
  | constructorStart name _ =>
    have hplace : placeOf frames = some .classBody := by
      simpa [Operation.places] using hplaced
    exact .cons ⟨by rw [hplace]; exact List.mem_cons_self, rfl, by simp, by simp [hplace]⟩ h
  | methodStart _ name _ =>
    cases h with
    | nil => simp [Operation.places, placeOf] at hplaced
    | @cons f below hfits hbelow =>
      exact .cons ⟨hplaced, rfl, by simp, by simp [innermost, placeOf]⟩ (.cons hfits hbelow)
  | superConstructorStart =>
    have hplace : placeOf frames = some .methodBody := by
      simpa [Operation.places] using hplaced
    exact .cons ⟨by rw [hplace]; exact List.mem_cons_self, rfl, by simp [hplace], by simp⟩ h
  | superCallStart name | callStart name =>
    refine wellNested_callFrames h ?_ _
    simp only [Operation.places, Operation.bodies, List.mem_cons, List.not_mem_nil,
      or_false] at hplaced
    rcases hplaced with hplace | hplace | hplace <;> rw [hplace] <;> decide
  | _ => exact h

/-! ## Calls -/

/-- What holds between any two calls. -/
structure WellPlaced (e : Emitter) : Prop where
  nested : WellNested e.frames
  depth_eq : e.depth = total e.frames

/-- Calls one after another, each on what the one before has left, also where that failed.  A
call is one operation, or several of which those behind one that fails are left out. -/
def makeCalls (e : Emitter) (calls : List (List Operation)) : Emitter :=
  calls.foldl (fun e call => (e.performAll call).1) e

/-- Whether no call fails but by being refused. -/
def refusedOnly (e : Emitter) : List (List Operation) → Bool
  | [] => true
  | call :: rest => (e.performAll call).2.all isRefusal && refusedOnly (e.performAll call).1 rest

theorem WellPlaced.congr {e e' : Emitter} (h : WellPlaced e) (hsame : SameConstructs e e') :
    WellPlaced e' :=
  ⟨h.nested.congr hsame.frames_eq,
    by rw [hsame.depth_eq, h.depth_eq, total_congr hsame.frames_eq]⟩

theorem wellPlaced_perform {e e' : Emitter} {op : Operation} {fault : Option Fault}
    (h : WellPlaced e) (hperform : e.perform op = (e', fault))
    (hfault : fault.all isRefusal = true) : WellPlaced e' := by
  cases fault with
  | none =>
    have hleads := leads_of_perform h.depth_eq hperform
    refine ⟨?_, hleads.depth_eq⟩
    rw [hleads.frames_eq]
    exact wellNested_after h.nested hleads.placed hleads.admitted
  | some f => exact h.congr (perform_refused hperform hfault)

theorem wellPlaced_performAll {ops : List Operation} {e : Emitter} (h : WellPlaced e)
    (hfault : (e.performAll ops).2.all isRefusal = true) : WellPlaced (e.performAll ops).1 := by
  induction ops generalizing e with
  | nil => exact h
  | cons op rest ih =>
    rw [performAll] at hfault ⊢
    cases hperform : e.perform op with
    | mk e' fault =>
      rw [hperform] at hfault
      cases fault with
      | none => exact ih (wellPlaced_perform h hperform rfl) hfault
      | some f => exact wellPlaced_perform h hperform hfault

theorem wellPlaced_makeCalls {calls : List (List Operation)} {e : Emitter} (h : WellPlaced e)
    (hcalls : refusedOnly e calls = true) : WellPlaced (e.makeCalls calls) := by
  induction calls generalizing e with
  | nil => exact h
  | cons call rest ih =>
    rw [refusedOnly, Bool.and_eq_true] at hcalls
    exact ih (wellPlaced_performAll h hcalls.1) hcalls.2

/-! ## What is open, from the outside in -/

/-- What can be open in the last of so many classes inside each other, from the outside in. -/
inductive Innermost (classes : Nat) : List Context → Prop
  | nothing : Innermost classes []
  | classHeader : Innermost classes [.classHeader]
  | interfaceBody : Innermost classes [.interfaceBody]
  | interfaceMethod : Innermost classes [.interfaceBody, .parameters]
  | parameters : 0 < classes → Innermost classes [.parameters]
  | methodBody (loops : Nat) (last : List Context) : 0 < classes →
      last ∈ [[], [.arguments], [.statement], [.statement, .arguments]] →
      Innermost classes (.methodBody :: List.replicate loops .loopBody ++ last)

/-- Classes inside each other, and what can be open in the last of them. -/
def Nesting (cs : List Context) : Prop :=
  ∃ classes inner, Innermost classes inner ∧ cs = List.replicate classes .classBody ++ inner

theorem getLast?_methodBody (classes loops : Nat) (last : List Context) :
    (List.replicate classes Context.classBody
        ++ (Context.methodBody :: List.replicate loops Context.loopBody ++ last)).getLast?
      = last.getLast?.or (some (if loops = 0 then .methodBody else .loopBody)) := by
  have hmethod : (Context.methodBody :: List.replicate loops Context.loopBody).getLast?
      = some (if loops = 0 then .methodBody else .loopBody) := by
    cases loops with
    | zero => rfl
    | succ n => rw [List.replicate_succ', ← List.cons_append, List.getLast?_concat]; rfl
  rw [List.getLast?_append, List.getLast?_append, hmethod]
  cases last.getLast? <;> rfl

/-- What is opened in the body of a method, or in a construct in it, continues the row. -/
theorem nesting_snoc_methodBody {classes loops : Nat} {last : List Context} {c : Context}
    (hclasses : 0 < classes)
    (hlast : last ∈ [[], [.arguments], [.statement], [.statement, .arguments]])
    (hc : (last.getLast?.or (some (if loops = 0 then .methodBody else .loopBody))) ∈ c.standsIn) :
    Nesting (List.replicate classes .classBody
      ++ (.methodBody :: List.replicate loops .loopBody ++ last ++ [c])) := by
  simp only [List.mem_cons, List.not_mem_nil, or_false] at hlast
  rcases hlast with rfl | rfl | rfl | rfl
  · cases c with
    | loopBody =>
      exact ⟨classes, _, .methodBody (loops + 1) [] hclasses (by simp),
        by simp [List.replicate_succ']⟩
    | statement =>
      exact ⟨classes, _, .methodBody loops [.statement] hclasses (by simp), by simp⟩
    | arguments =>
      exact ⟨classes, _, .methodBody loops [.arguments] hclasses (by simp), by simp⟩
    | _ => cases loops <;> simp [Context.standsIn] at hc
  · cases c <;> simp [Context.standsIn] at hc
  · cases c with
    | arguments =>
      exact ⟨classes, _, .methodBody loops [.statement, .arguments] hclasses (by simp), by simp⟩
    | _ => simp [Context.standsIn] at hc
  · cases c <;> simp [Context.standsIn] at hc

/-- A construct that is opened where it can stand continues the row. -/
theorem nesting_snoc {cs : List Context} {c : Context} (h : Nesting cs)
    (hc : cs.getLast? ∈ c.standsIn) : Nesting (cs ++ [c]) := by
  obtain ⟨classes, inner, hinner, rfl⟩ := h
  rw [List.append_assoc]
  cases hinner with
  | nothing =>
    cases classes with
    | zero =>
      cases c with
      | classHeader => exact ⟨0, _, .classHeader, rfl⟩
      | classBody => exact ⟨1, _, .nothing, rfl⟩
      | interfaceBody => exact ⟨0, _, .interfaceBody, rfl⟩
      | _ => simp [Context.standsIn] at hc
    | succ n =>
      cases c with
      | classHeader => exact ⟨n + 1, _, .classHeader, rfl⟩
      | classBody => exact ⟨n + 2, [], .nothing, by simp [List.replicate_succ']⟩
      | interfaceBody => exact ⟨n + 1, _, .interfaceBody, rfl⟩
      | parameters => exact ⟨n + 1, _, .parameters (Nat.succ_pos n), rfl⟩
      | methodBody =>
        exact ⟨n + 1, _, .methodBody 0 [] (Nat.succ_pos n) (by simp), by simp⟩
      | _ => simp [Context.standsIn, List.getLast?_replicate] at hc
  | classHeader | interfaceMethod | parameters _ =>
    cases c <;> simp [Context.standsIn] at hc
  | interfaceBody =>
    cases c with
    | parameters => exact ⟨classes, _, .interfaceMethod, rfl⟩
    | _ => simp [Context.standsIn] at hc
  | methodBody loops last hclasses hlast =>
    rw [getLast?_methodBody] at hc
    exact nesting_snoc_methodBody hclasses hlast hc

/-! ## Emitters in order -/

theorem nesting_of_wellNested {frames : List Frame} (h : WellNested frames) :
    Nesting (frames.reverse.map (·.context)) := by
  induction h with
  | nil => exact ⟨0, [], .nothing, rfl⟩
  | @cons f below hfits _ ih =>
    rw [List.reverse_cons, List.map_append]
    refine nesting_snoc ih ?_
    rw [List.map_reverse, List.getLast?_reverse, List.head?_map]
    exact hfits.stands

theorem fits_of_suffix {frames : List Frame} (h : WellNested frames) {f : Frame}
    {below : List Frame} (hsuffix : f :: below <:+ frames) : f.Fits (placeOf below) := by
  induction h with
  | nil => exact absurd (List.suffix_nil.mp hsuffix) (List.cons_ne_nil f below)
  | cons hfits _ ih =>
    rcases List.suffix_cons_iff.mp hsuffix with heq | hbelow
    · obtain ⟨rfl, rfl⟩ := List.cons.inj heq
      exact hfits
    · exact ih hbelow

theorem total_of_wellNested {frames : List Frame} (h : WellNested frames) :
    total frames = (frames.map (·.context)).countP Context.isBody
      + 2 * (frames.map (·.context)).count .parameters := by
  induction h with
  | nil => rfl
  | @cons f below hfits _ ih =>
    rw [total_cons, ih, hfits.indent_eq, List.map_cons, List.countP_cons, List.count_cons]
    cases f.context <;> simp [Context.levels, Context.isBody] <;> omega

/-- What can be said of an emitter whatever has been called.  `f :: below` is a frame with
those that it stands on. -/
structure Orderly (e : Emitter) : Prop where
  nesting : Nesting e.openContexts
  inline_iff : ∀ f below, f :: below <:+ e.frames → f.context = .arguments →
    (f.inline = true ↔ placeOf below = some .statement)
  bodiless_iff : ∀ f below, f :: below <:+ e.frames → f.context = .parameters →
    (f.bodiless = true ↔ placeOf below = some .interfaceBody)
  depth_eq : e.depth = e.openContexts.countP Context.isBody + 2 * e.openContexts.count .parameters

theorem WellPlaced.orderly {e : Emitter} (h : WellPlaced e) : Orderly e where
  nesting := nesting_of_wellNested h.nested
  inline_iff _ _ hsuffix := (fits_of_suffix h.nested hsuffix).inline_iff
  bodiless_iff _ _ hsuffix := (fits_of_suffix h.nested hsuffix).bodiless_iff
  depth_eq := by
    rw [h.depth_eq, total_of_wellNested h.nested, openContexts, List.map_reverse,
      List.countP_reverse, List.count_reverse]

/-- After any calls on a new emitter of which none fails but by being refused, the constructs
that are open stand inside each other as constructs can, and the depth is what they indent. -/
theorem orderly_makeCalls (style : Style) (ownsText : Bool) (calls : List (List Operation))
    (hcalls : refusedOnly { style, ownsText } calls = true) :
    Orderly (makeCalls { style, ownsText } calls) :=
  (wellPlaced_makeCalls ⟨.nil, rfl⟩ hcalls).orderly

/-- Calls that write an interface and a method inside of a class.  Four of them are refused: a
modifier is unknown, a body comes for a method of an interface, a parameter has no list to
stand in, and a value is returned in the middle of a statement. -/
def refusedCalls : List (List Operation) :=
  [ classDeclaration "Account" "ledger" (Java.keywords [.«public»]),
    [.methodStart "int" "limit" (.list [.text "loud"])],
    [.interfaceStart "Listener" "" (.list []) (.list [])],
    [.methodStart "void" "changed" (.list [])],
    [.bodyStart []],
    [.bodiless []],
    [.parameter (.list []) "int" "limit" localModifiers],
    [.interfaceEnd],
    [.methodStart "int" "limit" (.list [])],
    [.bodyStart [.text "java.io.IOException"]],
    [.loopStart "Listener" "listener" "listeners" localModifiers],
    [.declarationStart "int" "found" localModifiers],
    [.returnStart],
    [.callStart "listener.limit"] ]

theorem refusedCalls_orderly : refusedOnly {} refusedCalls = true
    ∧ Orderly (makeCalls {} refusedCalls)
    ∧ (makeCalls {} refusedCalls).openContexts
      = [.classBody, .methodBody, .loopBody, .statement, .arguments] := by
  have hrefused : refusedOnly {} refusedCalls = true := by decide +kernel
  exact ⟨hrefused, orderly_makeCalls {} true refusedCalls hrefused, by decide +kernel⟩

end Emitter
end JavaCompanion
