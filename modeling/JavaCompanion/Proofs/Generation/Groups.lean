/-
Neighbours in groups.

Grouping looks at its members only through the comparison, so it commutes with a map that
keeps it.  Where neighbours that are grouped are related, and the relation can be chained,
every member of a group is related to the first.  A list that is put together from blocks, the
same inside and different from each other, is taken apart into these blocks
(`groups_flatMap_blocks`).
-/
import JavaCompanion.Generation.Outline

namespace JavaCompanion
namespace Generation

variable {α β : Type}

theorem groups_map (f : α → β) (same : β → β → Bool) (as : List α) :
    groups same (as.map f)
      = (groups (fun a b => same (f a) (f b)) as).map fun g => (f g.1, g.2.map f) := by
  induction as with
  | nil => rfl
  | cons a rest ih =>
    rw [List.map_cons, groups, ih, groups]
    cases groups (fun a b => same (f a) (f b)) rest with
    | nil => rfl
    | cons g others =>
      obtain ⟨b, more⟩ := g
      simp only [List.map_cons]
      split <;> rfl

theorem mem_of_mem_groups {same : α → α → Bool} {as : List α} {g : α × List α}
    (hg : g ∈ groups same as) {a : α} (ha : a ∈ g.1 :: g.2) : a ∈ as := by
  rw [← flatMap_groups same as]
  exact List.mem_flatMap.mpr ⟨g, hg, ha⟩

theorem groups_congr {same same' : α → α → Bool} {as : List α}
    (h : ∀ a ∈ as, ∀ b ∈ as, same a b = same' a b) : groups same as = groups same' as := by
  induction as with
  | nil => rfl
  | cons a rest ih =>
    have hrest : groups same rest = groups same' rest :=
      ih fun x hx y hy => h x (List.mem_cons_of_mem a hx) y (List.mem_cons_of_mem a hy)
    rw [groups, groups, hrest]
    cases hgroups : groups same' rest with
    | nil => rfl
    | cons g others =>
      have hg : g ∈ groups same' rest := by
        rw [hgroups]
        exact List.mem_cons_self
      have hmem : g.1 ∈ rest := mem_of_mem_groups hg List.mem_cons_self
      have hfirst := h a List.mem_cons_self g.1 (List.mem_cons_of_mem a hmem)
      simp only [hfirst]

theorem related_of_mem_groups {R : α → α → Prop} {same : α → α → Bool} {as : List α}
    (htrans : ∀ a b c, R a b → R b c → R a c)
    (hsame : ∀ a ∈ as, ∀ b ∈ as, same a b = true → R a b)
    {g : α × List α} (hg : g ∈ groups same as) : ∀ b ∈ g.2, R g.1 b := by
  induction as generalizing g with
  | nil => cases hg
  | cons a rest ih =>
    have ih' := fun {g} => ih (g := g) fun x hx y hy =>
      hsame x (List.mem_cons_of_mem a hx) y (List.mem_cons_of_mem a hy)
    unfold groups at hg
    cases hgroups : groups same rest with
    | nil =>
      rw [hgroups, List.mem_singleton] at hg
      rw [hg]
      exact List.forall_mem_nil _
    | cons first others =>
      obtain ⟨b, more⟩ := first
      rw [hgroups] at hg ih'
      by_cases hab : same a b = true
      · simp only [hab, if_true, List.mem_cons] at hg
        rcases hg with rfl | hg
        · -- The first group grows at its front.
          have hb : b ∈ rest := mem_of_mem_groups (g := (b, more))
            (by rw [hgroups]; exact List.mem_cons_self) List.mem_cons_self
          have hRab := hsame a List.mem_cons_self b (List.mem_cons_of_mem a hb) hab
          intro c hc
          rcases List.mem_cons.mp hc with rfl | hc
          · exact hRab
          · exact htrans a b c hRab (ih' (List.mem_cons_self) c hc)
        · exact ih' (List.mem_cons_of_mem _ hg)
      · simp only [hab, Bool.false_eq_true, if_false, List.mem_cons] at hg
        rcases hg with rfl | hg
        · exact List.forall_mem_nil _
        · exact ih' (List.mem_cons.mpr hg)

/-! ## Blocks -/

/-- A block stands in front of the groups of what follows it, if it differs from the first. -/
theorem groups_block_append {same : α → α → Bool} {a : α} {more rest : List α}
    (hwithin : ∀ x ∈ a :: more, ∀ y ∈ a :: more, same x y = true)
    (hnext : ∀ x ∈ a :: more, ∀ g ∈ (groups same rest).head?, same x g.1 = false) :
    groups same (a :: more ++ rest) = (a, more) :: groups same rest := by
  induction more generalizing a with
  | nil =>
    show groups same (a :: rest) = _
    rw [groups]
    cases hgroups : groups same rest with
    | nil => rfl
    | cons g others =>
      have hfirst : same a g.1 = false :=
        hnext a List.mem_cons_self g (by rw [hgroups]; rfl)
      simp [hfirst]
  | cons b more ih =>
    have hrest : groups same (b :: more ++ rest) = (b, more) :: groups same rest :=
      ih (fun x hx y hy => hwithin x (List.mem_cons_of_mem a hx) y (List.mem_cons_of_mem a hy))
        (fun x hx => hnext x (List.mem_cons_of_mem a hx))
    have hfirst : same a b = true :=
      hwithin a List.mem_cons_self b (List.mem_cons_of_mem a List.mem_cons_self)
    show groups same (a :: (b :: more ++ rest)) = _
    rw [groups, hrest]
    simp [hfirst]

/-- Grouping gives back the blocks from which a list is put together. -/
theorem groups_flatMap_blocks {same : α → α → Bool} {gs : List (α × List α)}
    (hwithin : ∀ g ∈ gs, ∀ x ∈ g.1 :: g.2, ∀ y ∈ g.1 :: g.2, same x y = true)
    (hapart : gs.Pairwise fun g h => ∀ x ∈ g.1 :: g.2, ∀ y ∈ h.1 :: h.2, same x y = false) :
    groups same (gs.flatMap fun g => g.1 :: g.2) = gs := by
  induction gs with
  | nil => rfl
  | cons g rest ih =>
    obtain ⟨hfirst, hrest⟩ := List.pairwise_cons.mp hapart
    have ih' := ih (fun h hh => hwithin h (List.mem_cons_of_mem g hh)) hrest
    rw [List.flatMap_cons, groups_block_append (hwithin g List.mem_cons_self), ih']
    intro x hx h hh
    rw [ih'] at hh
    exact hfirst h (List.mem_of_head? hh) x hx h.1 List.mem_cons_self

end Generation
end JavaCompanion
