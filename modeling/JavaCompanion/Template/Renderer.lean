/-
Engines for templates.

What a template comes to is for its engine to say.  Here an engine is any function of a template
and of the values that the template may refer to, and it can be another one at each rendering, as
a template may ask for what chance or the time gives.
-/
import JavaCompanion.Fault

namespace JavaCompanion
namespace Template

/-- Why an engine gives no text. -/
inductive Unrendered where
  /-- The engine refuses the template, for a reason in its own words. -/
  | refused (reason : String)
  /-- Anything else has stopped the engine. -/
  | stopped (f : Fault)

/-- The fault that a template of that name, or of none, is given up for. -/
def Unrendered.fault (template : Option String) : Unrendered → Fault
  | .refused reason => .template ⟨template, reason⟩
  | .stopped f => f

/-- What an engine makes of a template and of the values for its variables. -/
abbrev Renderer := Value → Fields → Except Unrendered String

/-- The engine at each of the renderings to come. -/
abbrev Renderers := Nat → Renderer

/-- The engines that are left after so many renderings. -/
def Renderers.after (rs : Renderers) (renderings : Nat) : Renderers := fun n => rs (renderings + n)

@[simp] theorem Renderers.after_zero (rs : Renderers) : rs.after 0 = rs :=
  funext fun n => congrArg rs (Nat.zero_add n)

@[simp] theorem Renderers.after_after (rs : Renderers) (m n : Nat) :
    (rs.after m).after n = rs.after (m + n) :=
  funext fun k => congrArg rs (Nat.add_assoc m n k).symm

/-! ## The header of generated files -/

/-- The header where none is configured. -/
def defaultHeader : String :=
  "Generated by \x7b\x7b generator \x7d\x7d from \x7b\x7b source \x7d\x7d.\n"
    ++ "Do not edit: changes are overwritten the next time sources are generated."

def headerTemplate (configured : Value) : Value :=
  if configured.truthy then configured else .text defaultHeader

end Template
end JavaCompanion
