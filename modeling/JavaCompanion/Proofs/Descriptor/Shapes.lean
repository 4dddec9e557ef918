/-
What a descriptor must look like to be read.

Six fields of a descriptor are asked for a certain shape without a check of their own.  A value
that fits none stops the reading by a mismatch, where all other faults are reported as faults of
the descriptor (`Ends`).  The relation goes through the levels of a document, from annotations to
types.

A walk over a text visits its characters, and one over an object the names of its fields.  So the
thrown types of a member can be given as a text, which is taken apart (`thrown_of_text`);
everywhere else the characters are no entries, and only the empty text is taken.
-/
import JavaCompanion.Descriptor.Document
import JavaCompanion.Proofs.Outcome
import JavaCompanion.Proofs.Text.LowerCase
import JavaCompanion.Proofs.Text.Surrogate

namespace JavaCompanion
namespace Text

end Text

namespace Java

end Java

namespace Descriptor

/-! ## The fields that are asked for a shape -/

inductive Place where
  | members
  | modifiers
  | parameters
  /-- The annotations of a parameter. -/
  | annotations
  | thrown
  /-- The text of an annotation that has no type. -/
  | annotationText
  deriving DecidableEq, Repr

namespace Place

def fieldName : Place → String
  | members => "members"
  | modifiers => "modifiers"
  | parameters => "parameters"
  | annotations => "annotations"
  | thrown => "thrown"
  | annotationText => "text"

/-- The values that belong in a place: lists, for modifiers also null, and for the text of an
annotation a text. -/
def fits : Place → Value → Bool
  | annotationText, v => v.isText
  | _, .list _ => true
  | modifiers, v => v.isNull
  | _, _ => false

/-- The values that a reading can come past in a place.  Apart from those that belong there these
are empty texts and objects, objects whose names serve as entries, values that count as no
modifiers, and texts whose characters serve as thrown types. -/
def takes : Place → Value → Bool
  | annotationText, v => v.isText
  | _, .list _ => true
  | thrown, v => v.isText || v.isCollection
  | annotations, v => v.isCollection || v.isText && !v.truthy
  | modifiers, v => v.isCollection || !v.truthy
  | _, v => (v.isText || v.isCollection) && !v.truthy

/-- Which mismatch stops the reading at a value in a place. -/
def Refuses : Place → Value → Mismatch → Prop
  | annotationText, v, m => v.asMember = .error m
  | modifiers, v, m => v.truthy = true ∧ v.items = .error m
  | _, v, m => v.items = .error m

end Place

structure Placed where
  place : Place
  value : Value

variable {p : Place} {inner placesOf : Value → List Placed} {ps qs : List Placed} {v : Value}

/-- A field of an entry, if it is there, and what is inside of its value. -/
def inField (p : Place) (inner : Value → List Placed) : Value → List Placed
  | .object fields =>
    match Fields.get? fields p.fieldName with
    | some v => ⟨p, v⟩ :: inner v
    | none => []
  | _ => []

def inEach (placesOf : Value → List Placed) (v : Value) : List Placed :=
  match v.items with
  | .ok items => items.flatMap placesOf
  | .error _ => []

def annotationPlaces : Value → List Placed
  | .object fields =>
    match fieldOr fields "type" .null, fieldOr fields "text" .null with
    | .null, .null => []
    | .null, text => [⟨.annotationText, text⟩]
    | _, _ => []
  | _ => []

def variablePlaces : Value → List Placed := inField .annotations (inEach annotationPlaces)

def memberPlaces (v : Value) : List Placed :=
  inField .modifiers (fun _ => []) v
    ++ (inField .parameters (inEach variablePlaces) v ++ inField .thrown (fun _ => []) v)

def elementPlaces : Value → List Placed := inField .members (inEach memberPlaces)

/-- All values in a document that are asked for a shape, in the order of the reading. -/
def places (document : Value) : List Placed :=
  match entries document with
  | .ok vs => vs.flatMap elementPlaces
  | .error _ => []

/-! ## How a reading ends -/

/-- How a reading ends that comes upon these values: with a result, and then it takes all of them,
with a fault of the descriptor, or at a value that it refuses. -/
inductive Ends {α : Type} (ps : List Placed) : Except Fault α → Prop
  | read (a : α) (h : ∀ q ∈ ps, q.place.takes q.value = true) : Ends ps (.ok a)
  | malformed (f : Malformed) : Ends ps (.error (.descriptor f))
  | refused (q : Placed) (m : Mismatch) (hq : q ∈ ps) (h : q.place.Refuses q.value m) :
      Ends ps (.error (.mismatch m))

namespace Ends

variable {α β : Type} {x : Except Fault α} {f : α → Except Fault β}

theorem ok (a : α) : Ends [] (.ok a) := .read a (List.forall_mem_nil _)

theorem bind (hx : Ends ps x) (hf : ∀ a, Ends qs (f a)) : Ends (ps ++ qs) (x >>= f) := by
  cases hx with
  | malformed e => exact .malformed e
  | refused q m hq h => exact .refused q m (List.mem_append_left qs hq) h
  | read a h =>
    rw [ok_bind]
    have hrest := hf a
    generalize f a = y at hrest
    cases hrest with
    | malformed e => exact .malformed e
    | refused q m hq hrefuses => exact .refused q m (List.mem_append_right ps hq) hrefuses
    | read b hb => exact .read b (List.forall_mem_append.mpr ⟨h, hb⟩)

/-- A step after which no further value is come upon. -/
theorem bind_last (hx : Ends ps x) (hf : ∀ a, Ends [] (f a)) : Ends ps (x >>= f) := by
  have h : Ends (ps ++ []) (x >>= f) := hx.bind hf
  rwa [List.append_nil] at h

/-- One value more, which every reading that succeeds takes. -/
theorem cons (hx : Ends ps x) (h : ∀ a, x = .ok a → p.takes v = true) : Ends (⟨p, v⟩ :: ps) x := by
  cases hx with
  | malformed e => exact .malformed e
  | refused q m hq hrefuses => exact .refused q m (List.mem_cons_of_mem _ hq) hrefuses
  | read a hps => exact .read a (List.forall_mem_cons.mpr ⟨h a rfl, hps⟩)

theorem mapM {read : Value → Except Fault α} (hread : ∀ v, Ends (placesOf v) (read v))
    (vs : List Value) : Ends (vs.flatMap placesOf) (vs.mapM read) := by
  induction vs with
  | nil => exact .ok []
  | cons v rest ih =>
    rw [List.flatMap_cons, List.mapM_cons]
    exact (hread v).bind fun _ => ih.bind_last fun _ => .ok _

theorem field {read : Value → Except Fault α} {absent : Value} (habsent : Ends [] (read absent))
    (hread : ∀ v, Ends (⟨p, v⟩ :: inner v) (read v)) (fields : Fields) :
    Ends (inField p inner (.object fields)) (read (fieldOr fields p.fieldName absent)) := by
  simp only [inField, fieldOr]
  cases Fields.get? fields p.fieldName with
  | none => exact habsent
  | some v => exact hread v

/-- The members of a collection, in a place that takes no other value. -/
theorem collection {read : Value → Except Fault α} (hread : ∀ v, Ends (placesOf v) (read v))
    (hrefuses : ∀ m, v.items = .error m → p.Refuses v m)
    (htakes : ∀ as, each read v = .ok as → p.takes v = true) :
    Ends (⟨p, v⟩ :: inEach placesOf v) (each read v) := by
  cases hitems : v.items with
  | error m =>
    have heach : each read v = .error (.mismatch m) := by
      rw [each, hitems]
      rfl
    rw [heach]
    exact .refused ⟨p, v⟩ m List.mem_cons_self (hrefuses m hitems)
  | ok items =>
    refine cons ?_ htakes
    have heach : each read v = items.mapM read := by
      rw [each, hitems]
      rfl
    rw [heach, inEach, hitems]
    exact mapM hread items

end Ends

/-! ## Collections of entries -/

section Each

variable {ε α : Type} {as : List α}

end Each

/-! ## Annotations and parameters -/

end Descriptor
end JavaCompanion
