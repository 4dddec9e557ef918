/-
Described types as data.
-/
import JavaCompanion.Descriptor.Element
import JavaCompanion.View.Signature

namespace JavaCompanion
namespace Descriptor

def Variable.view (v : Variable) : Value :=
  .object
    [ ("type", .text v.type), ("name", .text v.name),
      ("annotations", .list (v.annotations.map fun a =>
        .object [("type_name", a.typeName), ("text", a.text)])) ]

def Member.view (m : Member) : Value :=
  .object
    [ ("kind", .text m.kind.word), ("name", m.name), ("return_type", .text m.returnType),
      ("parameters", .list (m.parameters.map (·.view))), ("thrown", .texts m.thrown),
      ("modifiers", Java.keywords (Java.Modifier.toSet m.modifiers)) ]

/-- The annotations of a type with their values keep their order, as pairs. -/
def Element.view (e : Element) : Value :=
  .object
    [ ("simple_name", .text e.simpleName), ("package", .text e.package),
      ("qualified_name", .text e.qualifiedName),
      ("annotations", .list (e.annotations.map fun a => .list [.text a.1, .object a.2])),
      ("members", .list (e.members.map (·.view))) ]

end Descriptor
end JavaCompanion
