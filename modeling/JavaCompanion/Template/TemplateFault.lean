/-
Why a template cannot be rendered, in the words of its engine.
-/
namespace JavaCompanion
namespace Template

/-- The reason, with the name of the template if it has one. -/
structure TemplateFault where
  template : Option String
  reason : String

def TemplateFault.message (f : TemplateFault) : String :=
  "Failed to render template " ++ f.template.getD "string" ++ ": " ++ f.reason

end Template
end JavaCompanion
