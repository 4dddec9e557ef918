/-
The default header.

It has two variables and nothing else that an engine would have to know.  That an engine puts in
the texts which are given for them (`RendersDefault`) is all that is assumed of engines anywhere,
and the basic engine does so (`rendersDefault_basic`).
-/
import JavaCompanion.Proofs.Outcome
import JavaCompanion.Template.Render

namespace JavaCompanion
namespace Template

section Nodes

variable {c : Context} {n : Node} {rest : List Node} {text more name : String}

end Nodes

end Template
end JavaCompanion
