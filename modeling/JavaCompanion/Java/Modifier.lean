/-
Java modifiers.

They are declared in the order in which source text lists them.  A set of modifiers is a list
in that order without repetition, so that equal sets are equal lists.
-/
import JavaCompanion.Text.Blank
import JavaCompanion.Text.Case
import JavaCompanion.Value.Display

namespace JavaCompanion
namespace Java

inductive Modifier where
  | «public»
  | «protected»
  | «private»
  | «abstract»
  | default
  | static
  | final
  | transient
  | volatile
  | synchronized
  | native
  | strictfp
  deriving DecidableEq, Repr

namespace Modifier

/-- Every modifier, in source order. -/
def all : List Modifier :=
  [ .«public», .«protected», .«private», .«abstract», .default, .static, .final, .transient,
    .volatile, .synchronized, .native, .strictfp ]

def keyword : Modifier → String
  | .«public» => "public"
  | .«protected» => "protected"
  | .«private» => "private"
  | .«abstract» => "abstract"
  | .default => "default"
  | .static => "static"
  | .final => "final"
  | .transient => "transient"
  | .volatile => "volatile"
  | .synchronized => "synchronized"
  | .native => "native"
  | .strictfp => "strictfp"

/-- The modifier with exactly this keyword. -/
def ofKeyword? (s : String) : Option Modifier := all.find? (·.keyword == s)

/-- Reads a modifier, whatever its case and the blanks around it.  A spelling that is none is
given back. -/
def parse (v : Value) : Except Value Modifier :=
  match ofKeyword? (Text.lower (Text.strip v.display)) with
  | some m => .ok m
  | none => .error v

/-- The set of the modifiers in a list. -/
def toSet (ms : List Modifier) : List Modifier := all.filter ms.contains

theorem mem_all (m : Modifier) : m ∈ all := by cases m <;> decide

/-- Building the set keeps the members. -/
theorem mem_toSet {m : Modifier} {ms : List Modifier} : m ∈ toSet ms ↔ m ∈ ms := by
  simp [toSet, mem_all]

theorem ofKeyword?_keyword (m : Modifier) : ofKeyword? m.keyword = some m := by
  cases m <;> rfl

end Modifier

/-- A list of keywords, as configurations and descriptors give modifiers. -/
def keywords (ms : List Modifier) : Value := .list (ms.map fun m => .text m.keyword)

/-- Why a collection gives no set of modifiers. -/
inductive ModifierFault where
  | mismatch (m : Mismatch)
  | unknown (spelling : Value)

/-- The set of the modifiers that a collection spells. -/
def modifierSet (v : Value) : Except ModifierFault (List Modifier) :=
  match v.items with
  | .error m => .error (.mismatch m)
  | .ok spellings =>
    match spellings.mapM Modifier.parse with
    | .error s => .error (.unknown s)
    | .ok ms => .ok (Modifier.toSet ms)

/-- As `modifierSet`, where an absent value gives no modifier. -/
def modifierSetOf (v : Value) : Except ModifierFault (List Modifier) :=
  if v.truthy then modifierSet v else .ok []

end Java
end JavaCompanion
