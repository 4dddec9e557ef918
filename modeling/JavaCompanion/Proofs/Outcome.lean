/-
Steps that can fail, taken apart.

A sequence of steps that succeeds has succeeded at each of them.  The lemmas say so for two
steps in a row, for a step taken at every member of a list, and for a fold, where what every
step keeps is kept by the whole.  The other way round, folds that succeed one after the other
are one fold that succeeds (`foldlM_append_eq_some`).
-/
import JavaCompanion.Fault
import Mathlib.Data.List.Forall2

namespace JavaCompanion

variable {ε α β : Type}

theorem bind_eq_ok {x : Except ε α} {f : α → Except ε β} {b : β} :
    (x >>= f) = .ok b ↔ ∃ a, x = .ok a ∧ f a = .ok b := by
  cases x with
  | ok a => exact ⟨fun h => ⟨a, rfl, h⟩, fun ⟨_, ha, hb⟩ => by cases ha; exact hb⟩
  | error e => exact ⟨fun h => (nomatch h), fun ⟨_, ha, _⟩ => (nomatch ha)⟩

theorem bind_eq_error {x : Except ε α} {f : α → Except ε β} {e : ε} :
    (x >>= f) = .error e ↔ x = .error e ∨ ∃ a, x = .ok a ∧ f a = .error e := by
  cases x with
  | ok a => exact ⟨fun h => .inr ⟨a, rfl, h⟩, fun h => by
      rcases h with h | ⟨_, ha, hf⟩
      · exact nomatch h
      · cases ha
        exact hf⟩
  | error e' => exact ⟨fun h => .inl (by cases h; rfl), fun h => by
      rcases h with h | ⟨_, ha, _⟩
      · cases h
        rfl
      · exact nomatch ha⟩

/-- Where a condition tells the faults of a kind from the others and holds of every success, it
holds exactly if all faults are of that kind. -/
theorem forall_error_iff {P : ε → Prop} {Q : Prop} {x : Except ε α} (hok : ∀ a, x = .ok a → Q)
    (herror : ∀ e, x = .error e → P e ∧ Q ∨ ¬ P e ∧ ¬ Q) : (∀ e, x = .error e → P e) ↔ Q := by
  cases x with
  | ok a => exact ⟨fun _ => hok a rfl, fun _ _ h => nomatch h⟩
  | error e =>
    rcases herror e rfl with ⟨hP, hQ⟩ | ⟨hP, hQ⟩
    · exact ⟨fun _ => hQ, fun _ e' he => by cases he; exact hP⟩
    · exact ⟨fun hall => absurd (hall e rfl) hP, fun h => absurd h hQ⟩

theorem ok_bind (a : α) (f : α → Except ε β) : (Except.ok a >>= f) = f a := rfl

theorem pure_eq_ok {a b : α} : (pure a : Except ε α) = .ok b ↔ a = b :=
  ⟨fun h => by cases h; rfl, fun h => by rw [h]; rfl⟩

theorem shaped_eq_ok {x : Except Mismatch α} {a : α} : shaped x = .ok a ↔ x = .ok a :=
  orFault_eq_ok

theorem shaped_eq_error {x : Except Mismatch α} {f : Fault} :
    shaped x = .error f ↔ ∃ m, x = .error m ∧ f = .mismatch m := by
  cases x with
  | ok a => exact ⟨fun h => (nomatch h), fun ⟨_, hm, _⟩ => (nomatch hm)⟩
  | error m => exact ⟨fun h => ⟨m, rfl, by cases h; rfl⟩, fun ⟨_, hm, hf⟩ => by
      cases hm
      rw [hf]
      rfl⟩

theorem mismatch_of_shaped {x : Except Mismatch α} {f : Fault} (h : shaped x = .error f) :
    ∃ m, f = .mismatch m := by
  obtain ⟨m, -, hf⟩ := shaped_eq_error.mp h
  exact ⟨m, hf⟩

/-- The results of a step at every member of a list, side by side with the members. -/
theorem forall₂_of_mapM {f : α → Except ε β} {as : List α} {bs : List β}
    (h : as.mapM f = .ok bs) : List.Forall₂ (fun a b => f a = .ok b) as bs := by
  induction as generalizing bs with
  | nil =>
    rw [List.mapM_nil, pure_eq_ok] at h
    subst h
    exact .nil
  | cons a rest ih =>
    rw [List.mapM_cons] at h
    obtain ⟨b, hb, h⟩ := bind_eq_ok.mp h
    obtain ⟨more, hmore, h⟩ := bind_eq_ok.mp h
    rw [pure_eq_ok] at h
    subst h
    exact .cons hb (ih hmore)

theorem exists_mapM_eq_ok {f : α → Except ε β} {as : List α} (h : ∀ a ∈ as, ∃ b, f a = .ok b) :
    ∃ bs, as.mapM f = .ok bs := by
  induction as with
  | nil => exact ⟨[], rfl⟩
  | cons a rest ih =>
    obtain ⟨b, hb⟩ := h a List.mem_cons_self
    obtain ⟨bs, hbs⟩ := ih fun a' ha' => h a' (List.mem_cons_of_mem a ha')
    exact ⟨b :: bs, by rw [List.mapM_cons, hb, hbs]; rfl⟩

theorem exists_of_forall₂ {R : α → β → Prop} {as : List α} {bs : List β}
    (h : List.Forall₂ R as bs) {b : β} (hb : b ∈ bs) : ∃ a ∈ as, R a b := by
  induction h with
  | nil => exact nomatch hb
  | @cons a b' _ _ hab _ ih =>
    rcases List.mem_cons.mp hb with rfl | hb
    · exact ⟨a, List.mem_cons_self, hab⟩
    · obtain ⟨a', ha', hr⟩ := ih hb
      exact ⟨a', List.mem_cons_of_mem a ha', hr⟩

/-- What every step of a fold keeps, the fold keeps. -/
theorem foldlM_keeps {step : β → α → Except ε β} {P : β → Prop} {as : List α}
    (hstep : ∀ a ∈ as, ∀ b b', P b → step b a = .ok b' → P b') {b r : β} (hb : P b)
    (h : as.foldlM step b = .ok r) : P r := by
  induction as generalizing b with
  | nil =>
    rw [List.foldlM_nil, pure_eq_ok] at h
    rw [← h]
    exact hb
  | cons a rest ih =>
    rw [List.foldlM_cons] at h
    obtain ⟨b', hb', h⟩ := bind_eq_ok.mp h
    exact ih (fun a' ha' => hstep a' (List.mem_cons_of_mem a ha'))
      (hstep a List.mem_cons_self b b' hb hb') h

/-- A fold fails for a reason for which one of its steps can fail. -/
theorem foldlM_error {step : β → α → Except ε β} {P : ε → Prop} {as : List α}
    (hstep : ∀ a ∈ as, ∀ b f, step b a = .error f → P f) {b : β} {f : ε}
    (h : as.foldlM step b = .error f) : P f := by
  induction as generalizing b with
  | nil => exact nomatch h
  | cons a rest ih =>
    rw [List.foldlM_cons] at h
    rcases bind_eq_error.mp h with hfirst | ⟨b', -, hrest⟩
    · exact hstep a List.mem_cons_self b f hfirst
    · exact ih (fun a' ha' => hstep a' (List.mem_cons_of_mem a ha')) hrest

theorem foldlM_append_eq_some {step : β → α → Option β} {as more : List α} {b middle last : β}
    (h : as.foldlM step b = some middle) (hmore : more.foldlM step middle = some last) :
    (as ++ more).foldlM step b = some last := by
  rw [List.foldlM_append]
  show (as.foldlM step b).bind (fun b' => more.foldlM step b') = some last
  rw [h, Option.bind_some, hmore]

end JavaCompanion
