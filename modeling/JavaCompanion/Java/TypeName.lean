/-
Java type names as texts: boxing, generic arguments, and providers.
-/
import JavaCompanion.Text.Blank
import JavaCompanion.Text.Split
import JavaCompanion.Value.Display

namespace JavaCompanion
namespace Java

/-- Each primitive type with its reference type. -/
def boxes : List (String × String) :=
  [ ("boolean", "java.lang.Boolean"), ("byte", "java.lang.Byte"),
    ("char", "java.lang.Character"), ("short", "java.lang.Short"),
    ("int", "java.lang.Integer"), ("long", "java.lang.Long"),
    ("float", "java.lang.Float"), ("double", "java.lang.Double") ]

/-- The reference type for a primitive type, any other type unchanged. -/
def box (type : String) : String :=
  match boxes.find? (·.1 == type) with
  | some entry => entry.2
  | none => type

/-- The spellings of the two boolean types. -/
def booleanTypes : List String := ["boolean", "java.lang.Boolean", "Boolean"]

/-- A type name without its generic arguments. -/
def rawType (type : String) : String := Text.strip (Text.before '<' type)

/-! ## Providers -/

/-- The types that are providers whatever the configuration says. -/
def providerTypes : List String :=
  ["Provider", "javax.inject.Provider", "jakarta.inject.Provider", "com.google.inject.Provider"]

def defaultProvider : String := "javax.inject.Provider"

/-- Whether the type already is a provider, one of the known ones or the configured one. -/
def isProvider (type : String) (provider : Value) : Bool :=
  let raw := rawType type
  providerTypes.contains raw || provider.text? == some raw

/-- The provider of a type; a type that is a provider already is left alone. -/
def wrapProvider (type : String) (provider : Value) : String :=
  if isProvider type provider then type else provider.display ++ "<" ++ box type ++ ">"

end Java
end JavaCompanion
