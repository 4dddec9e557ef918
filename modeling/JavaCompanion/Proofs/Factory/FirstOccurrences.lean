/-
Bound parameters in the order of the scan.

The constructors are scanned in order, and the parameters of each in order.  A parameter is
bound at a place of the scan if it is unmarked there and no unmarked one before it is written
alike (`IsFirst`).  One step of the scan keeps the list of what stands at these places, so the
bound parameters are exactly that (`areFirsts_scan`).  Which texts are bound does therefore not
depend on the order of the scan, and a constructor adds to them just when it has an unmarked
parameter that is written like none of them (`boundParameters_first_unmarked`).
-/
import JavaCompanion.Proofs.Factory.Binding
import JavaCompanion.Proofs.Outcome
import Mathlib.Data.List.Induction
import Mathlib.Data.List.Perm.Basic

namespace JavaCompanion
namespace Factory

open Java

/-! ## Places of a scan -/

/-- The parameter at this place is unmarked, and the first such of its text. -/
def IsFirst (ps : List Parameter) (i : Nat) : Prop :=
  ∃ p, ps[i]? = some p ∧ p.unbound = false
    ∧ ∀ j < i, ∀ q, ps[j]? = some q → q.unbound = false → q.text ≠ p.text

/-- The list has what stands at the places that are first, in the order of the places. -/
def AreFirsts (ps found : List Parameter) : Prop :=
  ∃ places : List Nat, places.Pairwise (· < ·) ∧ (∀ i, i ∈ places ↔ IsFirst ps i)
    ∧ List.Forall₂ (fun i p => ps[i]? = some p) places found

variable {ps found : List Parameter} {p : Parameter}

theorem lt_length_of_isFirst {i : Nat} (h : IsFirst ps i) : i < ps.length := by
  obtain ⟨p, hp, -⟩ := h
  exact (List.getElem?_eq_some_iff.mp hp).1

/-- What stands behind a place has no part in whether it is first. -/
theorem isFirst_append_of_lt {i : Nat} (hi : i < ps.length) (more : List Parameter) :
    IsFirst (ps ++ more) i ↔ IsFirst ps i := by
  have hsame : ∀ j ≤ i, (ps ++ more)[j]? = ps[j]? := fun j hj =>
    List.getElem?_append_left (by omega)
  unfold IsFirst
  rw [hsame i (Nat.le_refl i)]
  refine exists_congr fun p => and_congr_right fun _ => and_congr_right fun _ => ?_
  refine forall_congr' fun j => forall_congr' fun hj => ?_
  rw [hsame j (Nat.le_of_lt hj)]

theorem isFirst_append_singleton_length :
    IsFirst (ps ++ [p]) ps.length
      ↔ p.unbound = false ∧ ∀ q ∈ ps, q.unbound = false → q.text ≠ p.text := by
  unfold IsFirst
  rw [List.getElem?_concat_length]
  constructor
  · rintro ⟨q, hq, hbound, hnone⟩
    cases hq
    refine ⟨hbound, fun q hq hqbound => ?_⟩
    obtain ⟨j, hj⟩ := List.mem_iff_getElem?.mp hq
    have hlt : j < ps.length := (List.getElem?_eq_some_iff.mp hj).1
    exact hnone j hlt q ((List.getElem?_append_left hlt).trans hj) hqbound
  · rintro ⟨hbound, hnone⟩
    refine ⟨p, rfl, hbound, fun j hj q hq hqbound => hnone q ?_ hqbound⟩
    rw [List.getElem?_append_left hj] at hq
    exact List.mem_of_getElem? hq

/-! ## The scan -/

/-- A scan from the start has met a text just when an unmarked parameter has it. -/
theorem isAmong_scan :
    isAmong (ps.foldl addBound []) p = true ↔ ∃ q ∈ ps, q.text = p.text ∧ q.unbound = false := by
  rw [isAmong_eq_true]
  constructor
  · rintro ⟨q, hq, htext⟩
    rcases mem_foldl_addBound hq with hnil | ⟨hmem, hbound⟩
    · exact absurd hnil List.not_mem_nil
    · exact ⟨q, hmem, htext, hbound⟩
  · rintro ⟨q, hq, htext, hbound⟩
    have hfound : isAmong (ps.foldl addBound []) q = true := isAmong_foldl_addBound hq hbound
    obtain ⟨b, hb, hbtext⟩ := isAmong_eq_true.mp hfound
    exact ⟨b, hb, hbtext.trans htext⟩

/-- A parameter that is marked, or written like an unmarked one before it, is passed over. -/
theorem AreFirsts.pass (h : AreFirsts ps found)
    (hp : p.unbound = true ∨ ∃ q ∈ ps, q.text = p.text ∧ q.unbound = false) :
    AreFirsts (ps ++ [p]) found := by
  obtain ⟨places, hsorted, hplaces, hfound⟩ := h
  have hnot : ¬ IsFirst (ps ++ [p]) ps.length := by
    rw [isFirst_append_singleton_length]
    rintro ⟨hbound, hnone⟩
    rcases hp with hmark | ⟨q, hq, htext, hqbound⟩
    · rw [hbound] at hmark
      exact Bool.false_ne_true hmark
    · exact hnone q hq hqbound htext
  refine ⟨places, hsorted, fun i => ?_, hfound.imp fun i q hi => ?_⟩
  · rw [hplaces]
    constructor
    · exact fun hi => (isFirst_append_of_lt (lt_length_of_isFirst hi) [p]).mpr hi
    · intro hi
      have hle := lt_length_of_isFirst hi
      rw [List.length_append, List.length_singleton] at hle
      have hne : i ≠ ps.length := fun heq => hnot (heq ▸ hi)
      exact (isFirst_append_of_lt (by omega) [p]).mp hi
  · rw [List.getElem?_append_left (List.getElem?_eq_some_iff.mp hi).1]
    exact hi

/-- An unmarked parameter that is written like no unmarked one before it is taken. -/
theorem AreFirsts.take (h : AreFirsts ps found) (hbound : p.unbound = false)
    (hnew : ∀ q ∈ ps, q.unbound = false → q.text ≠ p.text) :
    AreFirsts (ps ++ [p]) (found ++ [p]) := by
  obtain ⟨places, hsorted, hplaces, hfound⟩ := h
  have hlt : ∀ i ∈ places, i < ps.length := fun i hi => lt_length_of_isFirst ((hplaces i).mp hi)
  refine ⟨places ++ [ps.length], ?_, fun i => ?_, List.rel_append (hfound.imp ?_) ?_⟩
  · refine List.pairwise_append.mpr ⟨hsorted, List.pairwise_singleton _ _, fun i hi j hj => ?_⟩
    rw [List.mem_singleton.mp hj]
    exact hlt i hi
  · rw [List.mem_append, List.mem_singleton, hplaces]
    constructor
    · rintro (hi | rfl)
      · exact (isFirst_append_of_lt (lt_length_of_isFirst hi) [p]).mpr hi
      · exact isFirst_append_singleton_length.mpr ⟨hbound, hnew⟩
    · intro hi
      have hle := lt_length_of_isFirst hi
      rw [List.length_append, List.length_singleton] at hle
      rcases Nat.lt_or_ge i ps.length with hbefore | hbehind
      · exact .inl ((isFirst_append_of_lt hbefore [p]).mp hi)
      · exact .inr (by omega)
  · intro i q hi
    rw [List.getElem?_append_left (List.getElem?_eq_some_iff.mp hi).1]
    exact hi
  · exact .cons List.getElem?_concat_length .nil

/-- A scan finds exactly the first unmarked parameters. -/
theorem areFirsts_scan (ps : List Parameter) : AreFirsts ps (ps.foldl addBound []) := by
  induction ps using List.reverseRecOn with
  | nil =>
    refine ⟨[], .nil, fun i => ⟨nofun, fun hi => ?_⟩, .nil⟩
    exact absurd (lt_length_of_isFirst hi) (Nat.not_lt_zero i)
  | append_singleton ps p ih =>
    rw [List.foldl_append, List.foldl_cons, List.foldl_nil]
    rcases addBound_cases (ps.foldl addBound []) p with ⟨heq, hknown⟩ | ⟨heq, hbound, hnew⟩
    · rw [heq]
      exact ih.pass (hknown.imp_right isAmong_scan.mp)
    · rw [heq]
      refine ih.take hbound fun q hq hqbound htext => ?_
      rw [Bool.eq_false_iff] at hnew
      exact hnew (isAmong_scan.mpr ⟨q, hq, htext, hqbound⟩)

theorem exists_before_of_mem (h : AreFirsts ps found) (hp : p ∈ found) :
    ∃ before after, ps = before ++ p :: after
      ∧ ∀ q ∈ before, q.unbound = false → q.text ≠ p.text := by
  obtain ⟨places, -, hplaces, hfound⟩ := h
  obtain ⟨i, hi, hip⟩ := exists_of_forall₂ hfound hp
  obtain ⟨p', hp', -, hnone⟩ := (hplaces i).mp hi
  rw [hip] at hp'
  cases hp'
  obtain ⟨hlt, hget⟩ := List.getElem?_eq_some_iff.mp hip
  refine ⟨ps.take i, ps.drop (i + 1), ?_, fun q hq => ?_⟩
  · rw [← hget, ← List.drop_eq_getElem_cons hlt, List.take_append_drop]
  · obtain ⟨j, hj⟩ := List.mem_iff_getElem?.mp hq
    have hjlt : j < i := by
      have hlen := (List.getElem?_eq_some_iff.mp hj).1
      rw [List.length_take] at hlen
      omega
    rw [List.getElem?_take_of_lt hjlt] at hj
    exact hnone j hjlt q hj

/-- A scan that meets nothing new finds nothing more. -/
theorem foldl_addBound_of_known (h : ∀ p ∈ ps, p.unbound = true ∨ isAmong found p = true) :
    ps.foldl addBound found = found := by
  induction ps with
  | nil => rfl
  | cons p rest ih =>
    have hkeep : addBound found p = found := by
      rw [addBound, if_pos (by simpa using h p List.mem_cons_self)]
    rw [List.foldl_cons, hkeep]
    exact ih fun q hq => h q (List.mem_cons_of_mem p hq)

/-! ## Lists of constructors -/

/-- The constructors in some order, each with its parameters in some order. -/
def Rearranges (cs cs' : List Constructor) : Prop :=
  ∃ reordered, cs.Perm reordered
    ∧ List.Forall₂ (fun c c' => c.parameters.Perm c'.parameters) reordered cs'

variable {cs cs' : List Constructor}

theorem Rearranges.mem_iff (h : Rearranges cs cs') (p : Parameter) :
    (∃ c ∈ cs, p ∈ c.parameters) ↔ ∃ c ∈ cs', p ∈ c.parameters := by
  obtain ⟨reordered, hperm, hforall⟩ := h
  constructor
  · rintro ⟨c, hc, hp⟩
    obtain ⟨c', hc', hsame⟩ := exists_of_forall₂ hforall.flip (hperm.mem_iff.mp hc)
    exact ⟨c', hc', hsame.mem_iff.mp hp⟩
  · rintro ⟨c', hc', hp⟩
    obtain ⟨c, hc, hsame⟩ := exists_of_forall₂ hforall hc'
    exact ⟨c, hperm.mem_iff.mpr hc, hsame.mem_iff.mpr hp⟩

theorem text_mem_boundParameters {text : String} :
    text ∈ (boundParameters cs).map Parameter.text
      ↔ ∃ q, (∃ c ∈ cs, q ∈ c.parameters) ∧ q.text = text ∧ q.unbound = false := by
  rw [List.mem_map, exists_mem_boundParameters]
  constructor
  · rintro ⟨c, hc, q, hq, h⟩
    exact ⟨q, ⟨c, hc, hq⟩, h⟩
  · rintro ⟨q, ⟨c, hc, hq⟩, h⟩
    exact ⟨c, hc, q, hq, h⟩

theorem boundParameters_perm (h : Rearranges cs cs') :
    ((boundParameters cs).map Parameter.text).Perm ((boundParameters cs').map Parameter.text) := by
  refine (List.perm_ext_iff_of_nodup (boundParameters_texts_nodup cs)
    (boundParameters_texts_nodup cs')).mpr fun text => ?_
  rw [text_mem_boundParameters, text_mem_boundParameters]
  exact exists_congr fun q => and_congr_left fun _ => h.mem_iff q

/-- More constructors bind nothing more just when all that they have is marked or bound. -/
theorem boundParameters_append_eq_iff (more : List Constructor) :
    boundParameters (cs ++ more) = boundParameters cs
      ↔ ∀ c ∈ more, ∀ p ∈ c.parameters,
        p.unbound = true ∨ ∃ b ∈ boundParameters cs, b.text = p.text := by
  constructor
  · intro h c hc p hp
    cases hbound : p.unbound with
    | true => exact .inl rfl
    | false =>
      rw [← h]
      exact .inr (exists_mem_boundParameters.mpr
        ⟨c, List.mem_append_right cs hc, p, hp, rfl, hbound⟩)
  · intro h
    rw [boundParameters, List.flatMap_append, List.foldl_append]
    refine foldl_addBound_of_known fun p hp => ?_
    obtain ⟨c, hc, hpc⟩ := List.mem_flatMap.mp hp
    exact (h c hc p hpc).imp_right isAmong_eq_true.mpr

/-- What the bound parameters of a type are. -/
structure AreBound (cs : List Constructor) (bound : List Parameter) : Prop where
  firsts : AreFirsts (cs.flatMap (·.parameters)) bound
  texts_nodup : (bound.map Parameter.text).Nodup
  unmarked : ∀ b ∈ bound, b.unbound = false
  one : ∀ c ∈ cs, ∀ p ∈ c.parameters, p.unbound = false → ∃! b, b ∈ bound ∧ b.text = p.text
  first : ∀ b ∈ bound, ∃ before after, cs.flatMap (·.parameters) = before ++ b :: after
    ∧ ∀ q ∈ before, q.unbound = false → q.text ≠ b.text

theorem areBound_boundParameters (cs : List Constructor) : AreBound cs (boundParameters cs) where
  firsts := areFirsts_scan _
  texts_nodup := boundParameters_texts_nodup cs
  unmarked _ hb := (mem_boundParameters hb).2
  one c hc p hp hbound := by
    obtain ⟨b, hb, htext⟩ := exists_mem_boundParameters.mpr ⟨c, hc, p, hp, rfl, hbound⟩
    refine ⟨b, ⟨hb, htext⟩, fun b' ⟨hb', htext'⟩ => ?_⟩
    exact List.inj_on_of_nodup_map (boundParameters_texts_nodup cs) hb' hb
      (htext'.trans htext.symm)
  first _ hb := exists_before_of_mem (areFirsts_scan _) hb

/-- The bound parameters are the first unmarked ones of their texts, in the order of the scan.
Another order of the constructors or their parameters gives the same texts in some order, and
constructors behind change nothing just when each of their parameters is marked or written like
a bound one. -/
theorem boundParameters_first_unmarked (cs : List Constructor) :
    AreBound cs (boundParameters cs)
      ∧ (∀ cs', Rearranges cs cs' →
          ((boundParameters cs).map Parameter.text).Perm
            ((boundParameters cs').map Parameter.text))
      ∧ ∀ more, boundParameters (cs ++ more) = boundParameters cs
          ↔ ∀ c ∈ more, ∀ p ∈ c.parameters,
            p.unbound = true ∨ ∃ b ∈ boundParameters cs, b.text = p.text :=
  ⟨areBound_boundParameters cs, fun _ h => boundParameters_perm h, boundParameters_append_eq_iff⟩

/-- Two constructors of which the first marks a parameter that the second has without the marker,
and the second has a parameter of the first once more, and with an annotation. -/
def markedThenPlain : List Constructor :=
  [ { parameters :=
        [{ type := "String", name := "id", unbound := true }, { type := "int", name := "limit" }] },
    { parameters :=
        [{ type := "String", name := "id" }, { type := "int", name := "limit" },
          { type := "int", name := "limit", annotations := [.text "@Min(1)"] }] } ]

def plainThenMarked : List Constructor :=
  [ { parameters :=
        [{ type := "int", name := "limit" }, { type := "String", name := "id" },
          { type := "int", name := "limit", annotations := [.text "@Min(1)"] }] },
    { parameters :=
        [{ type := "String", name := "id", unbound := true },
          { type := "int", name := "limit" }] } ]

/-- A constructor that has nothing new but a parameter that is marked. -/
def nothingNew : Constructor where
  parameters :=
    [{ type := "long", name := "seed", unbound := true }, { type := "String", name := "id" }]

theorem markedThenPlain_first_unmarked :
    (boundParameters markedThenPlain).map Parameter.text
        = ["int limit", "String id", "@Min(1) int limit"]
      ∧ AreBound markedThenPlain (boundParameters markedThenPlain)
      ∧ Rearranges markedThenPlain plainThenMarked
      ∧ ((boundParameters markedThenPlain).map Parameter.text).Perm
          ((boundParameters plainThenMarked).map Parameter.text)
      ∧ (∀ p ∈ nothingNew.parameters,
          p.unbound = true ∨ ∃ b ∈ boundParameters markedThenPlain, b.text = p.text)
      ∧ boundParameters (markedThenPlain ++ [nothingNew]) = boundParameters markedThenPlain := by
  obtain ⟨hbound, hperm, happend⟩ := boundParameters_first_unmarked markedThenPlain
  have hrearranges : Rearranges markedThenPlain plainThenMarked :=
    ⟨_, .swap _ _ _, .cons (.swap _ _ _) (.cons (.refl _) .nil)⟩
  have hknown : ∀ p ∈ nothingNew.parameters,
      p.unbound = true ∨ ∃ b ∈ boundParameters markedThenPlain, b.text = p.text := by
    decide +kernel
  refine ⟨rfl, hbound, hrearranges, hperm _ hrearranges, hknown, (happend _).mpr ?_⟩
  exact fun c hc => List.mem_singleton.mp hc ▸ hknown

end Factory
end JavaCompanion
