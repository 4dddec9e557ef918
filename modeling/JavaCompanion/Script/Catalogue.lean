/-
The operations on the catalogue, for raw names.

A name that is no text is refused.  A registration checks the generator first, then the name;
the entry is made before the aliases are read.
-/
import JavaCompanion.Catalogue.Create

namespace JavaCompanion
namespace Catalogue

def nameOf (v : Value) : Step String := Step.lift (shaped v.asMember)

/-- The texts at the beginning of a list, and what is wrong with the first other value. -/
def leadingTexts : List Value → List String × Option Mismatch
  | [] => ([], none)
  | v :: rest =>
    match v.asMember with
    | .error m => ([], some m)
    | .ok s =>
      let (texts, stop) := leadingTexts rest
      (s :: texts, stop)

/-- The aliases that a raw value gives, up to the first that is none. -/
def aliasTexts (v : Value) : List String × Option Mismatch :=
  if v.truthy then
    match v.items with
    | .ok vs => leadingTexts vs
    | .error m => ([], some m)
  else ([], none)

/-- Registers an entry under a raw name and raw aliases. -/
def registerRaw (name : Value) (entry : Option Entry) (aliases replace : Value) :
    Step Unit := do
  match entry with
  | none => Step.fail (.catalogue .notGenerator)
  | some e =>
    let name ← nameOf name
    let c ← current
    if c.isSkipped name replace.truthy then return
    let (texts, misfit) := aliasTexts aliases
    let (c', stop) := c.register name (some e) texts replace.truthy
    setCatalogue c'
    match stop, misfit with
    | some f, _ => Step.fail (.catalogue f)
    | none, some m => Step.fail (.mismatch m)
    | none, none => Step.log (registeredRecord name e)

end Catalogue
end JavaCompanion
