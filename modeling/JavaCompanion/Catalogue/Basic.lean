/-
The catalogue of generators: kinds under their names, and aliases for the names.

Names and aliases are compared without regard to case.  A name that is taken stays with its
first kind unless a replacement is asked for.  The entry for a name is made before its
aliases are looked at, so an alias that is refused leaves the entry and the aliases before it.
-/
import JavaCompanion.Generation.Kind

namespace JavaCompanion

namespace Catalogue

/-- What may stand in a catalogue.  Of an abstract class no generator can be made. -/
inductive Entry where
  | concrete (k : Generation.Kind)
  | abstract_ (className module : String)

def Entry.className : Entry → String
  | .concrete k => k.className
  | .abstract_ className _ => className

end Catalogue

open Catalogue in
structure Catalogue where
  entries : List (String × Entry) := []
  /-- Each alias with the name it stands for. -/
  aliases : List (String × String) := []

namespace Catalogue

def keyOf (name : String) : String := Text.lower name

/-- A list of pairs with one more: in place of the pair with that key, or at the end. -/
def insert (key : String) (value : α) : List (String × α) → List (String × α)
  | [] => [(key, value)]
  | (k, v) :: rest => if k = key then (key, value) :: rest else (k, v) :: insert key value rest

def entry? (c : Catalogue) (key : String) : Option Entry :=
  (c.entries.find? (·.1 == key)).map (·.2)

def aliasTarget? (c : Catalogue) (key : String) : Option String :=
  (c.aliases.find? (·.1 == key)).map (·.2)

def hasName (c : Catalogue) (key : String) : Bool := c.entries.any (·.1 == key)

/-! ## Changes -/

def aliasConflict? (c : Catalogue) (key alias_ : String) : Option CatalogueFault :=
  if c.hasName (keyOf alias_) then some (.aliasIsName alias_)
  else
    match c.aliasTarget? (keyOf alias_) with
    | some target => if target = key then none else some (.aliasTaken alias_ target)
    | none => none

/-- Adds aliases one after another, up to the first that is refused. -/
def addAliases (c : Catalogue) (key : String) (replace : Bool) :
    List String → Catalogue × Option CatalogueFault
  | [] => (c, none)
  | alias_ :: rest =>
    if keyOf alias_ = key then addAliases c key replace rest
    else
      match if replace then none else c.aliasConflict? key alias_ with
      | some f => (c, some f)
      | none =>
        addAliases { c with aliases := insert (keyOf alias_) key c.aliases } key replace rest

/-- Whether a registration would change nothing. -/
def isSkipped (c : Catalogue) (name : String) (replace : Bool) : Bool :=
  c.hasName (keyOf name) && !replace

def register (c : Catalogue) (name : String) (entry : Option Entry) (aliases : List String)
    (replace : Bool) : Catalogue × Option CatalogueFault :=
  match entry with
  | none => (c, some .notGenerator)
  | some e =>
    if c.isSkipped name replace then (c, none)
    else addAliases { c with entries := insert (keyOf name) e c.entries } (keyOf name) replace
      aliases

def unregister (c : Catalogue) (name : String) : Catalogue where
  entries := c.entries.filter (·.1 != keyOf name)
  aliases := c.aliases.filter (·.2 != keyOf name)

/-! ## Look-up -/

def names (c : Catalogue) : List String := (c.entries.map (·.1)).mergeSort fun a b => a ≤ b

/-- The name that a name or an alias stands for. -/
def resolve (c : Catalogue) (name : String) : Except CatalogueFault String :=
  if c.hasName (keyOf name) then .ok (keyOf name)
  else
    match c.aliasTarget? (keyOf name) with
    | some target => .ok target
    | none => .error (.unknownName name c.names)

def isSupported (c : Catalogue) (name : String) : Bool :=
  c.hasName (keyOf name) || (c.aliasTarget? (keyOf name)).isSome

def aliasesOf (c : Catalogue) (name : String) : List String :=
  ((c.aliases.filter (·.2 == keyOf name)).map (·.1)).mergeSort fun a b => a ≤ b

/-- Every name with all names that select it. -/
def allNames (c : Catalogue) : List (String × List String) :=
  c.entries.map fun e => (e.1, e.1 :: c.aliasesOf e.1)

/-- The entry that a name or an alias selects. -/
def select (c : Catalogue) (name : String) : Except CatalogueFault (String × Entry) := do
  let key ← c.resolve name
  match c.entry? key with
  | some e => return (key, e)
  | none => .error (.unknownName name c.names)

/-- The generators that come with the library, each with its name and its aliases. -/
def supplied : List (String × Entry × List String) :=
  [ ("factory", .concrete .factory, ["factories"]),
    ("observable", .concrete .observable, ["observable-model", "observablemodel"]) ]

def builtIn : Catalogue :=
  supplied.foldl (fun c s => (c.register s.1 (some s.2.1) s.2.2 false).1) {}

theorem insert_get (key : String) (value : α) (ps : List (String × α)) :
    (insert key value ps).find? (·.1 == key) = some (key, value) := by
  induction ps with
  | nil => simp [insert]
  | cons p rest ih =>
    obtain ⟨k, v⟩ := p
    by_cases h : k = key
    · simp [insert, h]
    · have hb : (k == key) = false := by simp [h]
      simpa [insert, h, hb] using ih

end Catalogue
end JavaCompanion
