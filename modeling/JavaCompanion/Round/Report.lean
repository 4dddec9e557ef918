/-
Reports on rounds: what became of each generator and each type that it handles.
-/
namespace JavaCompanion
namespace Round

/-- What became of one type under one generator. -/
structure Outcome where
  generator : String
  source : String
  /-- The name of the generated type; empty if nothing was generated. -/
  qualifiedName : String := ""
  failure : Option String := none
  deriving DecidableEq, Repr

def Outcome.succeeded (o : Outcome) : Bool := o.failure.isNone

/-- The outcomes of a round, generator by generator and in the order of the types. -/
structure Report where
  outcomes : List Outcome := []
  deriving DecidableEq, Repr

namespace Report

def generated (r : Report) : List Outcome := r.outcomes.filter (·.succeeded)

def failed (r : Report) : List Outcome := r.outcomes.filter (!·.succeeded)

def succeeded (r : Report) : Bool := r.failed.isEmpty

def failures (r : Report) : List String := r.outcomes.filterMap (·.failure)

theorem failures_eq_nil_iff (r : Report) : r.failures = [] ↔ r.succeeded = true := by
  simp [failures, succeeded, failed, Outcome.succeeded, List.filterMap_eq_nil_iff]

theorem length_generated_add_failed (r : Report) :
    r.generated.length + r.failed.length = r.outcomes.length := by
  unfold generated failed
  induction r.outcomes with
  | nil => rfl
  | cons o rest ih =>
    by_cases h : o.succeeded <;> simp [h] <;> omega

end Report

end Round
end JavaCompanion
