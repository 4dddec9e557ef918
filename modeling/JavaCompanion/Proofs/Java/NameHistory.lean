/-
Names handed out over the life of a scope.

A history records what is taken since the last reset: the names a scope began with if there was
none, the names that were marked, and the names that were handed out.  Each operation keeps it true
that exactly these are in use, and that a name handed out differs from all that were taken before
it (`Sound.next`), whatever the names and separators are.  So a candidate for one name may be a
name that was marked, or handed out for another one, and is passed over all the same
(`claims_stay_fresh`).  Called by name on a scope of raw values, the operations do the same to
texts (`callAll_ofNames`).
-/
import JavaCompanion.Proofs.Script.Scope

namespace JavaCompanion
namespace Java
namespace NameScope

/-! ## Operations -/

inductive Step where
  | claim (name separator : String)
  | add (name : String)
  | reset
  /-- Asks whether a name is in use. -/
  | ask (name : String)

namespace Step

/-- The scope that an operation leaves. -/
def scope (s : NameScope) : Step → NameScope
  | .claim name separator => (s.claim name separator).2
  | .add name => s.add name
  | .reset => s.reset
  | .ask _ => s

def operation : Step → String
  | .claim _ _ => "sanitize"
  | .add _ => "add"
  | .reset => "reset"
  | .ask _ => "is_used"

def arguments : Step → List Value
  | .claim name separator => [.text name, .text separator]
  | .add name => [.text name]
  | .reset => []
  | .ask name => [.text name]

def answer (s : NameScope) : Step → Value
  | .claim name separator => .text (s.claim name separator).1
  | .ask name => .bool (s.isUsed name)
  | _ => .null

end Step

/-- An operation that is called by its name does the same to names that are texts. -/
theorem call_ofNames (s : NameScope) (step : Step) :
    (Script.Scope.ofNames s).call step.operation step.arguments
      = .ok (step.answer s, Script.Scope.ofNames (step.scope s)) := by
  cases step with
  | claim name separator => exact congrArg Except.ok (Script.Scope.claim_ofNames s name separator)
  | add name =>
    show Except.ok (Value.null, (Script.Scope.ofNames s).add (.text name)) = _
    rw [Script.Scope.add_ofNames]
    rfl
  | reset => rfl
  | ask name =>
    show Except.ok (Value.bool ((Script.Scope.ofNames s).isUsed (.text name)), _) = _
    rw [Script.Scope.isUsed_ofNames]
    rfl

/-- The scope that operations leave which are called by name, one after the other. -/
def callAll (s : Script.Scope) (steps : List Step) : Except Mismatch Script.Scope :=
  steps.foldlM (fun s step => return (← s.call step.operation step.arguments).2) s

theorem callAll_ofNames (s : NameScope) (steps : List Step) :
    callAll (Script.Scope.ofNames s) steps
      = .ok (Script.Scope.ofNames (steps.foldl Step.scope s)) := by
  induction steps generalizing s with
  | nil => rfl
  | cons step rest ih =>
    rw [callAll, List.foldlM_cons, call_ofNames]
    exact ih (step.scope s)

/-! ## One claim -/

theorem reserved_add (s : NameScope) (name : String) : (s.add name).reserved = s.reserved := by
  unfold add
  split <;> rfl

/-- What is claimed is the first of the candidates that is not in use, and is all that comes into
use. -/
structure TakesFirst (s : NameScope) (base separator : String) (claimed : String × NameScope) :
    Prop where
  first : ∃ k ≤ s.used.length, claimed.1 = candidate base separator k
    ∧ ∀ j < k, s.isUsed (candidate base separator j) = true
  free : s.isUsed claimed.1 = false
  isUsed_iff : ∀ name, claimed.2.isUsed name = true ↔ name = claimed.1 ∨ s.isUsed name = true

theorem takesFirst_claim (s : NameScope) (name separator : String) :
    TakesFirst s (s.base name separator) separator (s.claim name separator) where
  first := s.claim_spec name separator
  free := s.isUsed_claim_fst name separator
  isUsed_iff _ := isUsed_add

/-! ## Histories -/

/-- How a name came into use. -/
inductive Origin where
  /-- It was in use from the start. -/
  | given
  | added
  | claimed

structure Taken where
  name : String
  origin : Origin

structure History where
  scope : NameScope
  /-- What was taken since the last reset, in order. -/
  taken : List Taken

namespace History

def start (reserved used : List String) : History where
  scope := { reserved, used }
  taken := used.map fun name => ⟨name, .given⟩

/-- What is taken after an operation on a scope. -/
def record (s : NameScope) (taken : List Taken) : Step → List Taken
  | .claim name separator => taken ++ [⟨(s.claim name separator).1, .claimed⟩]
  | .add name => taken ++ [⟨name, .added⟩]
  | .reset => []
  | .ask _ => taken

def next (h : History) (step : Step) : History where
  scope := step.scope h.scope
  taken := record h.scope h.taken step

def after (h : History) (steps : List Step) : History := steps.foldl next h

/-- The names in use are those that were taken, and a name handed out is none that was taken
before. -/
structure Sound (reserved : List String) (h : History) : Prop where
  reserved_eq : h.scope.reserved = reserved
  isUsed_iff : ∀ name, h.scope.isUsed name = true ↔ name ∈ h.taken.map (·.name)
  claimed_new : h.taken.Pairwise fun earlier later =>
    later.origin = .claimed → earlier.name ≠ later.name

theorem sound_start (reserved used : List String) : Sound reserved (start reserved used) where
  reserved_eq := rfl
  isUsed_iff name := by simp [start, isUsed]
  claimed_new := List.pairwise_map.mpr (List.pairwise_of_forall fun _ _ => nofun)

variable {reserved : List String} {h : History}

/-- One operation keeps a history sound. -/
theorem Sound.next (hs : Sound reserved h) (step : Step) : Sound reserved (h.next step) := by
  cases step with
  | claim name separator =>
    have hclaim := h.scope.takesFirst_claim name separator
    refine ⟨(reserved_add _ _).trans hs.reserved_eq, fun other => ?_,
      List.pairwise_append.mpr ⟨hs.claimed_new, List.pairwise_singleton _ _, ?_⟩⟩
    · show (h.scope.claim name separator).2.isUsed other = true ↔ _
      rw [hclaim.isUsed_iff, hs.isUsed_iff]
      simp [History.next, record, or_comm]
    · -- Whatever was taken is in use, and what is claimed now was not.
      intro earlier hearlier later hlater _ hsame
      rw [List.mem_singleton.mp hlater] at hsame
      have hused := (hs.isUsed_iff earlier.name).mpr (List.mem_map.mpr ⟨earlier, hearlier, rfl⟩)
      rw [hsame, hclaim.free] at hused
      exact Bool.false_ne_true hused
  | add name =>
    refine ⟨(reserved_add _ _).trans hs.reserved_eq, fun other => ?_,
      List.pairwise_append.mpr ⟨hs.claimed_new, List.pairwise_singleton _ _, ?_⟩⟩
    · show (h.scope.add name).isUsed other = true ↔ _
      rw [isUsed_add, hs.isUsed_iff]
      simp [History.next, record, or_comm]
    · intro _ _ later hlater hclaimed
      rw [List.mem_singleton.mp hlater] at hclaimed
      exact nomatch hclaimed
  | reset => exact ⟨hs.reserved_eq, fun _ => by simp [History.next, Step.scope, record], .nil⟩
  | ask _ => exact hs

/-- What is recorded has no part in what the operations do. -/
theorem after_scope (h : History) (steps : List Step) :
    (h.after steps).scope = steps.foldl Step.scope h.scope := by
  induction steps generalizing h with
  | nil => rfl
  | cons step rest ih => exact ih (h.next step)

theorem Sound.after (hs : Sound reserved h) (steps : List Step) :
    Sound reserved (h.after steps) := by
  induction steps generalizing h with
  | nil => exact hs
  | cons step rest ih => exact ih (hs.next step)

/-- A sound history, after which a claim takes the first candidate that is free, and the operations
that are called by name on texts do what they do on names. -/
structure Fresh (reserved : List String) (h : History) : Prop extends Sound reserved h where
  claim : ∀ name separator,
    TakesFirst h.scope (if name ∈ reserved then name ++ separator else name) separator
      (h.scope.claim name separator)
  call : ∀ step : Step, (Script.Scope.ofNames h.scope).call step.operation step.arguments
    = .ok (step.answer h.scope, Script.Scope.ofNames (h.next step).scope)

theorem Sound.fresh (hs : Sound reserved h) : Fresh reserved h where
  toSound := hs
  claim name separator := by
    have hbase : h.scope.base name separator
        = if name ∈ reserved then name ++ separator else name := by
      rw [base, hs.reserved_eq]
      simp only [List.contains_iff_mem]
    rw [← hbase]
    exact h.scope.takesFirst_claim name separator
  call step := call_ofNames h.scope step

end History

/-- After any operations on a scope the names in use are those that were taken since the last
reset, and those handed out since then differ from all that were taken before them.  Every claim
ends, with the first candidate that is not in use, and adds this one only.  The same operations
called by name on a scope of texts lead to the same names. -/
theorem claims_stay_fresh (reserved used : List String) (steps : List Step) :
    ((History.start reserved used).after steps).Fresh reserved
      ∧ (do callAll (← Script.Scope.of (.list (reserved.map .text)) (.list (used.map .text))) steps)
        = .ok (Script.Scope.ofNames ((History.start reserved used).after steps).scope) := by
  have hsound := (History.sound_start reserved used).after steps
  refine ⟨hsound.fresh, ?_⟩
  rw [Script.Scope.of_texts, History.after_scope]
  exact callAll_ofNames _ steps

/-- The candidate `x1` was in use from the start, and `x3` was added. -/
example : ((History.start ["int"] ["x1"]).after
      [.claim "x" "", .claim "x" "", .add "x3", .claim "x" "", .claim "int" "_"]).taken.map (·.name)
    = ["x1", "x", "x2", "x3", "x4", "int_"] := rfl

end NameScope
end Java
end JavaCompanion
