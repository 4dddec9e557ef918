/-
Arguments of a call that is given as raw values.

A script is a list of calls; each names an operation and gives its arguments by position and
by name.  Every parameter of the operation takes one of them, the first ones by position, or
else its default.  An argument that no parameter takes refuses the call, and so does a
parameter that takes none and has no default.
-/
import JavaCompanion.Value.Display

namespace JavaCompanion

namespace Fields

/-- The value of that name; null stands for none. -/
def valueOf (fields : Fields) (name : String) : Value := (get? fields name).getD .null

def textOf (fields : Fields) (name : String) : String := (valueOf fields name).display

end Fields

namespace Script

/-- A parameter of an operation, with the value it has where none is given. -/
structure Parameter where
  name : String
  absent : Option Value := none

namespace Parameter

def required (name : String) : Parameter := { name }

def optional (name : String) (absent : Value) : Parameter := { name, absent := some absent }

end Parameter

structure Arguments where
  positional : List Value := []
  named : Fields := []

namespace Arguments

/-- The arguments that a list of values stands for: an object at its end names arguments. -/
def ofValues (values : List Value) : Arguments :=
  match values.getLast? with
  | some (.object named) => { positional := values.dropLast, named }
  | _ => { positional := values }

end Arguments

def without (name : String) (named : Fields) : Fields := named.filter (·.1 != name)

/-- The value of every parameter, and the arguments by position that are left. -/
def bindAll : List Parameter → List Value → Fields → Except Mismatch (Fields × List Value)
  | [], surplus, named => if named.isEmpty then .ok ([], surplus) else .error .arguments
  | p :: ps, v :: vs, named => do
    if Fields.has named p.name then .error .arguments
    let (bound, surplus) ← bindAll ps vs named
    return ((p.name, v) :: bound, surplus)
  | p :: ps, [], named => do
    match (Fields.get? named p.name).or p.absent with
    | none => .error .arguments
    | some v =>
      let (bound, surplus) ← bindAll ps [] (without p.name named)
      return ((p.name, v) :: bound, surplus)

namespace Arguments

/-- Binds the parameters of an operation that takes any number of further arguments. -/
def bindSome (a : Arguments) (ps : List Parameter) : Except Mismatch (Fields × List Value) :=
  bindAll ps a.positional a.named

def bind (a : Arguments) (ps : List Parameter) : Except Mismatch Fields := do
  match ← a.bindSome ps with
  | (bound, []) => return bound
  | (_, _ :: _) => .error .arguments

end Arguments

/-- Every parameter is bound once, in the order of the parameters. -/
theorem names_of_bindAll {ps : List Parameter} {vs : List Value} {named bound : Fields}
    {surplus : List Value} (h : bindAll ps vs named = .ok (bound, surplus)) :
    bound.map (·.1) = ps.map (·.name) := by
  induction ps generalizing vs named bound with
  | nil =>
    unfold bindAll at h
    split at h
    · cases h
      rfl
    · cases h
  | cons p ps ih =>
    cases vs with
    | nil =>
      unfold bindAll at h
      split at h
      · cases h
      · next v _ =>
        cases hr : bindAll ps [] (without p.name named) with
        | error m => simp [hr, Bind.bind, Except.bind] at h
        | ok r =>
          obtain ⟨b, s⟩ := r
          simp only [hr, Bind.bind, Except.bind, Pure.pure, Except.pure, Except.ok.injEq,
            Prod.mk.injEq] at h
          obtain ⟨rfl, rfl⟩ := h
          simp [ih hr]
    | cons v vs =>
      unfold bindAll at h
      split at h
      · cases h
      · cases hr : bindAll ps vs named with
        | error m => simp [hr, Bind.bind, Except.bind] at h
        | ok r =>
          obtain ⟨b, s⟩ := r
          simp only [hr, Bind.bind, Except.bind, Pure.pure, Except.pure, Except.ok.injEq,
            Prod.mk.injEq] at h
          obtain ⟨rfl, rfl⟩ := h
          simp [ih hr]

end Script
end JavaCompanion
