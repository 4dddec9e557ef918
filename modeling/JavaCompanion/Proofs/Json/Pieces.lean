/-
JSON that is handed over piece by piece.

The pieces of a value are its text (`joined_pieces`).  If none of them stops the writing, all of
the text is handed over, and it can be bytes, as a text is if it is put together from texts that
can be (`bytes?_write`).
-/
import JavaCompanion.Json.Writer
import JavaCompanion.Proofs.Text.Surrogate
import Mathlib.Data.List.TakeWhile

namespace JavaCompanion
namespace Json

variable {v : Value} {ps qs : List Piece}

/-! ## Pieces put together -/

def joined (ps : List Piece) : String := String.join (ps.map (·.text))

theorem joined_nil : joined [] = "" := rfl

theorem joined_cons (p : Piece) (ps : List Piece) : joined (p :: ps) = p.text ++ joined ps := by
  simp [joined]

theorem joined_append (ps qs : List Piece) : joined (ps ++ qs) = joined ps ++ joined qs := by
  simp [joined]

theorem joined_singleton (p : Piece) : joined [p] = p.text := by
  simp [joined]

theorem joined_led (before : String) (ps : List Piece) :
    joined (led before ps) = before ++ joined ps := by
  unfold led
  split
  · rw [joined_singleton, joined_singleton]
  · exact joined_cons _ _

theorem joined_member {level : Nat} {v : Value} (h : joined (pieces level v) = indented level v)
    (name : String) :
    joined (memberPieces level (name, v)) = writtenText name ++ ": " ++ indented level v := by
  rw [memberPieces, joined_cons, joined_cons, h, String.append_assoc]

mutual
theorem joined_pieces (level : Nat) : ∀ v : Value, joined (pieces level v) = indented level v
  | .null | .bool _ | .int _ | .float _ | .text _ | .list [] | .object [] => joined_singleton _
  | .list [v] => by
    have hv := joined_pieces (level + 1) v
    simp [pieces, furtherItems, indented, indentedItems, joined_append, joined_led, joined_cons,
      joined_nil, hv, String.append_assoc]
  | .list (v :: w :: rest) => by
    have hv := joined_pieces (level + 1) v
    have hrest := joined_furtherItems (level + 1) (w :: rest) (List.cons_ne_nil w rest)
    simp only [pieces, indented, indentedItems, joined_append, joined_led, joined_cons,
      joined_nil, String.append_empty, hv, hrest, String.append_assoc]
  | .object [(name, v)] => by
    have hv := joined_member (joined_pieces (level + 1) v) name
    simp [pieces, furtherMembers, indented, indentedMembers, joined_append, joined_cons,
      joined_nil, hv, String.append_assoc]
  | .object ((name, v) :: f :: rest) => by
    have hv := joined_member (joined_pieces (level + 1) v) name
    have hrest := joined_furtherMembers (level + 1) (f :: rest) (List.cons_ne_nil f rest)
    simp only [pieces, indented, indentedMembers, joined_append, List.cons_append, joined_cons,
      joined_nil, String.append_empty, hv, hrest, String.append_assoc]

theorem joined_furtherItems (level : Nat) : ∀ vs : List Value, vs ≠ [] →
    joined (furtherItems level vs) = "," ++ indentedItems level vs
  | [], h => absurd rfl h
  | [v], _ => by
    have hv := joined_pieces level v
    simp [furtherItems, indentedItems, joined_led, hv, String.append_assoc]
  | v :: w :: rest, _ => by
    have hv := joined_pieces level v
    have hrest := joined_furtherItems level (w :: rest) (List.cons_ne_nil w rest)
    have hitems : indentedItems level (v :: w :: rest)
        = lineAt level ++ indented level v ++ "," ++ indentedItems level (w :: rest) := rfl
    rw [furtherItems, joined_append, joined_led, hv, hrest, hitems]
    simp only [String.append_assoc]

theorem joined_furtherMembers (level : Nat) : ∀ fs : List (String × Value), fs ≠ [] →
    joined (furtherMembers level fs) = "," ++ indentedMembers level fs
  | [], h => absurd rfl h
  | [(name, v)], _ => by
    have hv := joined_member (joined_pieces level v) name
    simp [furtherMembers, indentedMembers, joined_cons, hv, String.append_assoc]
  | (name, v) :: f :: rest, _ => by
    have hv := joined_member (joined_pieces level v) name
    have hrest := joined_furtherMembers level (f :: rest) (List.cons_ne_nil f rest)
    have hmembers : indentedMembers level ((name, v) :: f :: rest)
        = lineAt level ++ writtenText name ++ ": " ++ indented level v ++ ","
          ++ indentedMembers level (f :: rest) := rfl
    rw [furtherMembers, List.cons_append, joined_cons, joined_append, hv, hrest, hmembers]
    simp only [String.append_assoc]
end

/-! ## Nothing stops the writing -/

theorem handedOver_of_stop?_eq_none (h : stop? v = none) : handedOver v = write v := by
  have hall : ∀ p ∈ pieces 0 v, p.stop?.isNone = true := fun p hp =>
    Option.isNone_iff_eq_none.mpr (List.findSome?_eq_none_iff.mp h p hp)
  rw [handedOver, List.takeWhile_eq_self_iff.mpr hall]
  exact joined_pieces 0 v

theorem exists_characters_joined (h : ∀ p ∈ ps, p.stop? = none) :
    ∃ cs, Text.characters? (joined ps).toList = some cs := by
  induction ps with
  | nil => exact ⟨[], rfl⟩
  | cons p rest ih =>
    obtain ⟨hp, hrest⟩ := List.forall_mem_cons.mp h
    obtain ⟨ds, hds⟩ := ih hrest
    cases hcs : Text.characters? p.text.toList with
    | some cs =>
      rw [joined_cons, String.toList_append]
      exact ⟨cs ++ ds, Text.characters?_append hcs hds⟩
    | none =>
      unfold Piece.stop? at hp
      split at hp
      · exact nomatch hp
      · rw [hcs] at hp
        exact nomatch hp

theorem bytes?_write (h : stop? v = none) : ∃ bytes, Text.bytes? (write v) = some bytes := by
  obtain ⟨cs, hcs⟩ := exists_characters_joined (List.findSome?_eq_none_iff.mp h)
  rw [joined_pieces 0 v] at hcs
  exact ⟨_, by rw [Text.bytes?, write, hcs]; rfl⟩

end Json
end JavaCompanion
