/-
The settings of a factory.
-/
import JavaCompanion.Config.Settings

namespace JavaCompanion
namespace Factory

structure Settings where
  inject : Bool := false
  singleton : Bool := false
  providers : Bool := false
  name : Option Value := none
  modifiers : List Java.Modifier := [.«public»]
  methodModifiers : List Java.Modifier := [.«public»]

namespace Settings

def optionNames : List String :=
  ["inject", "singleton", "providers", "name", "modifiers", "method_modifiers"]

/-- The modifiers that a setting spells. -/
def modifierSetting (key : String) (v : Value) : Except Fault (List Java.Modifier) := do
  let spellings ← Config.texts key v
  match spellings.mapM fun s => Java.Modifier.parse (.text s) with
  | .ok ms => return Java.Modifier.toSet ms
  | .error spelling => Config.refuse (.unknownModifier key spelling)

def defaultModifiers : Value := Java.keywords [.«public»]

/-- Reads the values of an annotation, where `options` are those of the run. -/
def ofValues (values : Fields) (options : Value) : Except Fault Settings := do
  Config.checkOptions "factory" optionNames values
  let name ← Config.chosenName "factory" values
  let modifiers ← modifierSetting "modifiers"
    (← Config.chosen values options "modifiers" "default_class_modifiers" defaultModifiers)
  let methodModifiers ← modifierSetting "method_modifiers"
    (← Config.chosen values options "method_modifiers" "default_method_modifiers"
      defaultModifiers)
  let inject ← Config.flag values "inject" false
  let singleton ← Config.flag values "singleton" false
  let providers ← Config.flag values "providers" false
  return { inject, singleton, providers, name, modifiers, methodModifiers }

end Settings
end Factory
end JavaCompanion
