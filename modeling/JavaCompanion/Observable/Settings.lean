/-
The settings of an observable class.
-/
import JavaCompanion.Config.Settings
import JavaCompanion.Extraction.Mutators

namespace JavaCompanion
namespace Observable

open Extraction

structure Settings where
  name : Option Value := none
  verbs : List String := ["set"]
  /-- Whether listeners are told the old value too. -/
  oldValue : Bool := true
  policy : Policy := .first

namespace Settings

def optionNames : List String := ["name", "method_prefixes", "old_value", "prefix_match"]

/-- A list without the repetitions of earlier members. -/
def distinct : List String → List String
  | [] => []
  | s :: rest => s :: (distinct rest).filter (· != s)

def checkVerbs : List String → Except Fault Unit
  | [] => .ok ()
  | verb :: rest =>
    if Java.isIdentifier verb then checkVerbs rest else Config.refuse (.invalidVerb verb)

def policyOf (v : Value) : Except Fault Policy := do
  Config.checkShowable v
  match [Policy.first, Policy.all].find? fun p => p.word == Text.lower v.display with
  | some p => return p
  | none => Config.refuse (.invalidPolicy v)

/-- Reads the values of an annotation, where `options` are those of the run. -/
def ofValues (values : Fields) (options : Value) : Except Fault Settings := do
  Config.checkOptions "observable" optionNames values
  let name ← Config.chosenName "observable" values
  let verbs ← Config.texts "method_prefixes"
    (← Config.chosen values options "method_prefixes" "default_method_prefixes"
      (.list [.text "set"]))
  if verbs.isEmpty then Config.refuse .noVerbs
  checkVerbs verbs
  let policy ← policyOf
    (← Config.chosen values options "prefix_match" "default_prefix_match" (.text "first"))
  let oldValue ← Config.flag values "old_value" true
  return { name, verbs := distinct verbs, oldValue, policy }

end Settings
end Observable
end JavaCompanion
