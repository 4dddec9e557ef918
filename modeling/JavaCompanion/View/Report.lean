/-
Reports, diagnostics and the catalogue as data.
-/
import JavaCompanion.Catalogue.Create
import JavaCompanion.Round.Report
import JavaCompanion.View.Signature

namespace JavaCompanion

namespace Round

def Diagnostic.view (d : Diagnostic) : Value :=
  .object
    [ ("kind", .text d.severity.word), ("message", .text d.message),
      ("element", .optional d.element), ("text", .text d.text) ]

def Outcome.view (o : Outcome) : Value :=
  .object
    [ ("generator", .text o.generator), ("source", .text o.source),
      ("qualified_name", .text o.qualifiedName), ("success", .bool o.succeeded),
      ("message", .optional o.failure) ]

def Report.view (r : Report) : Fields :=
  [ ("units", .list (r.outcomes.map (·.view))), ("success", .bool r.succeeded),
    ("generated", .int r.generated.length), ("failed", .int r.failed.length) ]

end Round

def Config.view (c : Config) : Value :=
  .object (c.toFields ++ [("unbound_annotation", .text c.unboundMarker)])

def Generation.Generator.view (g : Generator) : Value :=
  .object [("class", .text g.kind.className), ("config", g.config.view)]

namespace Catalogue

def Info.view (i : Info) : Value :=
  .object
    [ ("name", .text i.name), ("class", .text i.className),
      ("description", .text i.description), ("annotation_key", .text i.annotationKey),
      ("file_extension", .text i.fileExtension), ("provenance", .text i.provenance),
      ("aliases", .texts i.aliases), ("module", .text i.module) ]

/-- Every name with all names that select it, as pairs. -/
def namesView (c : Catalogue) : Value :=
  .list (c.allNames.map fun n => .list [.text n.1, .texts n.2])

end Catalogue
end JavaCompanion
