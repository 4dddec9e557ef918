/-
What every generated file has in common.

The name of the generated class is kept as the settings give it; what goes into a source
text or a template is its text.
-/
import JavaCompanion.Text.Split
import JavaCompanion.Value.Display

namespace JavaCompanion
namespace Generation

structure Outline where
  package : String
  className : Value
  /-- The type that the file is generated from. -/
  source : String
  /-- The identity of the generator, recorded in the file. -/
  provenance : String
  warnings : List String := []

namespace Outline

def qualifiedName (o : Outline) : Value :=
  if o.package = "" then o.className else .text (o.package ++ "." ++ o.className.display)

/-- The relative path of the file. -/
def outputPath (o : Outline) : Except Mismatch String := do
  return Text.swapChar '.' '/' (← o.qualifiedName.asMember) ++ ".java"

end Outline

def provenanceOf (generator : String) : String := "companion_gen." ++ generator

/-- Neighbours that belong together, each group with its first member apart. -/
def groups (same : α → α → Bool) : List α → List (α × List α)
  | [] => []
  | a :: rest =>
    match groups same rest with
    | [] => [(a, [])]
    | (b, more) :: others =>
      if same a b then (a, b :: more) :: others else (a, []) :: (b, more) :: others

/-- Grouping loses nothing and keeps the order. -/
theorem flatMap_groups (same : α → α → Bool) (as : List α) :
    (groups same as).flatMap (fun g => g.1 :: g.2) = as := by
  induction as with
  | nil => rfl
  | cons a rest ih =>
    unfold groups
    cases h : groups same rest with
    | nil => simpa [h] using ih
    | cons g others =>
      obtain ⟨b, more⟩ := g
      rw [h] at ih
      by_cases hs : same a b
      · simpa [hs] using ih
      · simpa [hs] using ih

end Generation
end JavaCompanion
