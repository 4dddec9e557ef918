/-
The names of fields.

Setting a field adds its name at the end unless it is there already, so names that are
distinct stay so.  Fields with distinct names, set one after another where none of them is
yet, stand in their own order (`putAll_eq_append`), and set over others they hide those of their
names (`get?_putAll`).
-/
import JavaCompanion.Value.Basic

namespace JavaCompanion
namespace Fields

theorem get?_eq_none {name : String} {fields : Fields} (h : name ∉ names fields) :
    get? fields name = none := by
  rw [get?, Option.map_eq_none_iff, List.find?_eq_none]
  intro f hf heq
  rw [← eq_of_beq heq] at h
  exact h (List.mem_map_of_mem hf)

theorem names_put (name : String) (v : Value) (fields : Fields) :
    names (put name v fields)
      = if name ∈ names fields then names fields else names fields ++ [name] := by
  induction fields with
  | nil => rfl
  | cons f rest ih =>
    obtain ⟨n, w⟩ := f
    by_cases h : n = name
    · simp [put, names, h]
    · have hput : names (put name v ((n, w) :: rest)) = n :: names (put name v rest) := by
        rw [put, if_neg h]
        rfl
      have hmem : name ∈ names ((n, w) :: rest) ↔ name ∈ names rest := by
        simp [names, Ne.symm h]
      rw [hput, ih]
      by_cases hrest : name ∈ names rest
      · rw [if_pos hrest, if_pos (hmem.mpr hrest)]
        rfl
      · rw [if_neg hrest, if_neg fun hall => hrest (hmem.mp hall)]
        rfl

theorem nodup_names_put {fields : Fields} (h : (names fields).Nodup) (name : String) (v : Value) :
    (names (put name v fields)).Nodup := by
  rw [names_put]
  split
  · exact h
  · next hnew =>
    refine List.nodup_append.mpr ⟨h, by simp, fun a ha b hb hab => ?_⟩
    rw [List.mem_singleton.mp hb] at hab
    exact hnew (hab ▸ ha)

theorem mem_put {name : String} {v : Value} {fields : Fields} {f : String × Value}
    (h : f ∈ put name v fields) : f ∈ fields ∨ f = (name, v) := by
  induction fields with
  | nil => exact .inr (List.mem_singleton.mp h)
  | cons g rest ih =>
    obtain ⟨n, w⟩ := g
    rw [put] at h
    split at h
    · next hn =>
      rcases List.mem_cons.mp h with rfl | h
      · exact .inr (by rw [hn])
      · exact .inl (List.mem_cons_of_mem _ h)
    · rcases List.mem_cons.mp h with rfl | h
      · exact .inl List.mem_cons_self
      · exact (ih h).imp (List.mem_cons_of_mem _) id

theorem put_eq_append {name : String} {fields : Fields} (h : name ∉ names fields) (v : Value) :
    put name v fields = fields ++ [(name, v)] := by
  induction fields with
  | nil => rfl
  | cons f rest ih =>
    obtain ⟨n, w⟩ := f
    have hne : n ≠ name := fun hn => h (by simp [names, hn])
    have hrest : name ∉ names rest := fun hmem => h (List.mem_cons_of_mem n hmem)
    rw [put, if_neg hne, ih hrest]
    rfl

theorem putAll_eq_append {new fields : Fields} (hnew : (names new).Nodup)
    (happart : ∀ name ∈ names new, name ∉ names fields) :
    putAll fields new = fields ++ new := by
  induction new generalizing fields with
  | nil => exact (List.append_nil fields).symm
  | cons f rest ih =>
    obtain ⟨hf, hrest⟩ := List.nodup_cons.mp hnew
    have hput := put_eq_append (happart f.1 List.mem_cons_self) f.2
    show putAll (put f.1 f.2 fields) rest = fields ++ f :: rest
    rw [hput, ih hrest, List.append_assoc]
    · rfl
    · intro name hname hmem
      rw [names, List.map_append, List.mem_append, List.map_singleton, List.mem_singleton] at hmem
      rcases hmem with hold | rfl
      · exact happart name (List.mem_cons_of_mem f.1 hname) hold
      · exact hf hname

theorem putAll_nil {fields : Fields} (h : (names fields).Nodup) : putAll [] fields = fields :=
  putAll_eq_append h fun _ _ => List.not_mem_nil

theorem get?_cons (f : String × Value) (rest : Fields) (name : String) :
    get? (f :: rest) name = if f.1 = name then some f.2 else get? rest name := by
  rw [get?, List.find?_cons]
  by_cases h : f.1 = name
  · rw [if_pos h, beq_iff_eq.mpr h]
    rfl
  · rw [if_neg h, beq_eq_false_iff_ne.mpr h]
    rfl

theorem get?_put (name : String) (v : Value) (fields : Fields) (other : String) :
    get? (put name v fields) other = if name = other then some v else get? fields other := by
  by_cases h : name = other
  · rw [if_pos h, ← h, get?_put_self]
  · rw [if_neg h, get?_put_of_ne (Ne.symm h)]

theorem get?_putAll {new : Fields} (hnew : (names new).Nodup) (fields : Fields) (name : String) :
    get? (putAll fields new) name = (get? new name).or (get? fields name) := by
  induction new generalizing fields with
  | nil => rfl
  | cons f rest ih =>
    obtain ⟨hf, hrest⟩ := List.nodup_cons.mp hnew
    show get? (putAll (put f.1 f.2 fields) rest) name = _
    rw [ih hrest, get?_put, get?_cons]
    by_cases h : f.1 = name
    · rw [if_pos h, if_pos h, get?_eq_none (h ▸ hf)]
      rfl
    · rw [if_neg h, if_neg h]

theorem get?_filter (p : String → Bool) (fields : Fields) (name : String) :
    get? (fields.filter fun f => p f.1) name
      = if p name = true then get? fields name else none := by
  induction fields with
  | nil => split <;> rfl
  | cons f rest ih =>
    rw [List.filter_cons]
    by_cases h : f.1 = name
    · subst h
      split
      · rw [get?_cons, if_pos rfl, get?_cons, if_pos rfl]
      · next hp => rw [ih, if_neg hp]
    · rw [get?_cons, if_neg h]
      split
      · rw [get?_cons, if_neg h, ih]
      · exact ih

end Fields
end JavaCompanion
