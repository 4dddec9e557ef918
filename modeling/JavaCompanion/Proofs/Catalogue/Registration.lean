/-
Registrations that are refused.

What is no generator is refused before anything is changed.  An alias is refused only when the entry
for the name and the aliases before it have been set, and these stay (`HalfRegistered`).  The name is
then taken, so the same registration made once more is skipped and not refused again
(`refused_registration_leaves`).

What a registration has set so far has no part in whether its next alias is refused
(`Gains.aliasConflict?_eq`): the alias that is refused is the first that conflicts with the catalogue
as it was.
-/
import JavaCompanion.Proofs.Catalogue.Standing

namespace JavaCompanion
namespace Catalogue

open Step

variable {c c' c'' : Catalogue} {key name : String} {given more : List String}

/-! ## One alias more -/

theorem hasName_congr (h : c'.entries = c.entries) (name : String) :
    c'.hasName name = c.hasName name := by
  rw [hasName, hasName, h]

section Rows

variable {α : Type} {value : α} {rows : List (String × α)}

theorem find?_insert_of_ne {other : String} (h : other ≠ name) :
    (insert name value rows).find? (·.1 == other) = rows.find? (·.1 == other) := by
  have hnew : (name == other) = false := beq_eq_false_iff_ne.mpr (Ne.symm h)
  induction rows with
  | nil => simp [insert, hnew]
  | cons first rest ih =>
    rw [insert]
    by_cases hkey : first.1 = name
    · rw [if_pos hkey, List.find?_cons, List.find?_cons, hkey, hnew]
    · rw [if_neg hkey, List.find?_cons, List.find?_cons, ih]

/-- What stands under the key already is set once more in its place. -/
theorem insert_of_found (h : (rows.find? (·.1 == name)).map (·.2) = some value) :
    insert name value rows = rows := by
  induction rows with
  | nil => exact nomatch h
  | cons first rest ih =>
    rw [insert]
    by_cases hkey : first.1 = name
    · have hvalue : first.2 = value := by simpa [List.find?_cons, hkey] using h
      rw [if_pos hkey, ← hkey, ← hvalue]
    · have hrest : (rest.find? (·.1 == name)).map (·.2) = some value := by
        simpa [List.find?_cons, hkey] using h
      rw [if_neg hkey, ih hrest]

theorem insert_of_new (h : name ∉ rows.map (·.1)) :
    insert name value rows = rows ++ [(name, value)] := by
  induction rows with
  | nil => rfl
  | cons first rest ih =>
    rw [List.map_cons, List.mem_cons, not_or] at h
    rw [insert, if_neg (Ne.symm h.1), ih h.2]
    rfl

end Rows

/-- What the catalogue has gained by aliases for one name, none of which is in conflict with it. -/
structure Gains (c c' : Catalogue) (key : String) (given : List String) : Prop where
  entries_eq : c'.entries = c.entries
  /-- Aliases are added behind the ones that were there. -/
  aliases_prefix : c.aliases <+: c'.aliases
  aliasTarget?_eq : ∀ name, c'.aliasTarget? name =
    if name ∈ given.map keyOf ∧ name ≠ key then some key else c.aliasTarget? name
  free : ∀ alias_ ∈ given, keyOf alias_ = key ∨ c.aliasConflict? key alias_ = none

theorem aliasConflict?_eq_none {alias_ : String} : c.aliasConflict? key alias_ = none ↔
    c.hasName (keyOf alias_) = false
      ∧ (c.aliasTarget? (keyOf alias_) = none ∨ c.aliasTarget? (keyOf alias_) = some key) := by
  unfold aliasConflict?
  cases c.hasName (keyOf alias_) with
  | true => simp
  | false =>
    cases c.aliasTarget? (keyOf alias_) with
    | none => simp
    | some target => by_cases h : target = key <;> simp [h]

namespace Gains

theorem nil (c : Catalogue) (key : String) : Gains c c key [] where
  entries_eq := rfl
  aliases_prefix := List.prefix_rfl
  aliasTarget?_eq name := by simp
  free := nofun

/-- The name itself is never set as its own alias. -/
theorem skip {alias_ : String} (h : keyOf alias_ = key) : Gains c c key [alias_] where
  entries_eq := rfl
  aliases_prefix := List.prefix_rfl
  aliasTarget?_eq name := by
    refine (if_neg fun hname => ?_).symm
    exact hname.2 (List.mem_singleton.mp hname.1 ▸ h)
  free _ hmem := .inl (List.mem_singleton.mp hmem ▸ h)

theorem set {alias_ : String} (hother : keyOf alias_ ≠ key)
    (hfree : c.aliasConflict? key alias_ = none) :
    Gains c { c with aliases := insert (keyOf alias_) key c.aliases } key [alias_] where
  entries_eq := rfl
  aliases_prefix := by
    show c.aliases <+: insert (keyOf alias_) key c.aliases
    rcases (aliasConflict?_eq_none.mp hfree).2 with hnew | hset
    · rw [insert_of_new (aliasTarget?_eq_none.mp hnew)]
      exact List.prefix_append _ _
    · exact (insert_of_found hset).symm ▸ List.prefix_rfl
  aliasTarget?_eq name := by
    by_cases hname : name = keyOf alias_
    · subst hname
      rw [if_pos ⟨List.mem_singleton.mpr rfl, hother⟩, aliasTarget?, insert_get]
      rfl
    · rw [if_neg fun h => hname (List.mem_singleton.mp h.1), aliasTarget?, aliasTarget?,
        find?_insert_of_ne hname]
  free _ hmem := .inr (List.mem_singleton.mp hmem ▸ hfree)

/-- What has been gained has no part in whether a further alias is refused. -/
theorem aliasConflict?_eq (h : Gains c c' key given) {alias_ : String} (hother : keyOf alias_ ≠ key) :
    c'.aliasConflict? key alias_ = c.aliasConflict? key alias_ := by
  by_cases hmem : keyOf alias_ ∈ given.map keyOf
  · -- given already: it stands for the name now, and was free before
    obtain ⟨twin, htwin, hsame⟩ := List.mem_map.mp hmem
    have hfree : c.aliasConflict? key twin = none :=
      (h.free twin htwin).resolve_left fun heq => hother (hsame ▸ heq)
    have hnone : c.aliasConflict? key alias_ = none := by
      rw [aliasConflict?_eq_none, ← hsame]
      exact aliasConflict?_eq_none.mp hfree
    rw [hnone, aliasConflict?_eq_none, hasName_congr h.entries_eq, h.aliasTarget?_eq,
      if_pos ⟨hmem, hother⟩]
    exact ⟨(aliasConflict?_eq_none.mp hnone).1, .inr rfl⟩
  · have htarget : c'.aliasTarget? (keyOf alias_) = c.aliasTarget? (keyOf alias_) := by
      rw [h.aliasTarget?_eq, if_neg fun hgiven => hmem hgiven.1]
    rw [aliasConflict?, hasName_congr h.entries_eq, htarget, aliasConflict?]

theorem trans (h : Gains c c' key given) (h' : Gains c' c'' key more) :
    Gains c c'' key (given ++ more) where
  entries_eq := h'.entries_eq.trans h.entries_eq
  aliases_prefix := h.aliases_prefix.trans h'.aliases_prefix
  aliasTarget?_eq name := by
    rw [h'.aliasTarget?_eq, h.aliasTarget?_eq, List.map_append]
    simp only [List.mem_append]
    split_ifs <;> tauto
  free alias_ hmem := by
    rcases List.mem_append.mp hmem with hgiven | hmore
    · exact h.free alias_ hgiven
    · by_cases hother : keyOf alias_ = key
      · exact .inl hother
      · exact (h'.free alias_ hmore).imp_right fun hfree => (h.aliasConflict?_eq hother) ▸ hfree

end Gains

/-! ## Up to the first conflict -/

/-- Where an alias may be taken from another name, none is refused. -/
theorem addAliases_replacing (c : Catalogue) (key : String) (aliases : List String) :
    (addAliases c key true aliases).2 = none := by
  induction aliases generalizing c with
  | nil => rfl
  | cons alias_ rest ih =>
    rw [addAliases]
    split
    · exact ih c
    · exact ih _

/-- The aliases before the first that conflicts with the catalogue are added. -/
theorem addAliases_refused {aliases : List String} {f : CatalogueFault}
    (h : addAliases c key false aliases = (c', some f)) :
    ∃ before refused after, aliases = before ++ refused :: after ∧ Gains c c' key before
      ∧ keyOf refused ≠ key ∧ c.aliasConflict? key refused = some f := by
  induction aliases generalizing c with
  | nil => exact nomatch h
  | cons alias_ rest ih =>
    rw [addAliases] at h
    split at h
    · next hsame =>
      obtain ⟨before, refused, after, rfl, hgains, hrefused⟩ := ih h
      exact ⟨alias_ :: before, refused, after, rfl, (Gains.skip hsame).trans hgains, hrefused⟩
    next hother =>
    rw [if_neg Bool.false_ne_true] at h
    split at h
    · next hconflict =>
      cases h
      exact ⟨[], alias_, rest, rfl, .nil _ key, hother, hconflict⟩
    · next hfree =>
      have hset := Gains.set hother hfree
      obtain ⟨before, refused, after, rfl, hgains, hne, hrefused⟩ := ih h
      refine ⟨alias_ :: before, refused, after, rfl, hset.trans hgains, hne, ?_⟩
      rw [← hset.aliasConflict?_eq hne]
      exact hrefused

/-- What is left of a registration that is refused for an alias: the entry and the aliases before
that one, the first in conflict with the catalogue as it was. -/
structure HalfRegistered (c c' : Catalogue) (name : String) (e : Entry) (before : List String)
    (refused : String) (f : CatalogueFault) : Prop where
  isNew : c.hasName (keyOf name) = false
  free : ∀ alias_ ∈ before,
    keyOf alias_ = keyOf name ∨ c.aliasConflict? (keyOf name) alias_ = none
  ne_name : keyOf refused ≠ keyOf name
  conflict : c.aliasConflict? (keyOf name) refused = some f
  entries_eq : c'.entries = c.entries ++ [(keyOf name, e)]
  aliases_prefix : c.aliases <+: c'.aliases
  aliasTarget?_eq : ∀ other, c'.aliasTarget? other =
    if other ∈ before.map keyOf ∧ other ≠ keyOf name then some (keyOf name)
    else c.aliasTarget? other

/-- An entry under the name is in conflict with no other alias. -/
theorem aliasConflict?_setEntry {e : Entry} {alias_ : String} (hother : keyOf alias_ ≠ key) :
    aliasConflict? { c with entries := insert key e c.entries } key alias_
      = c.aliasConflict? key alias_ := by
  have hname : hasName { c with entries := insert key e c.entries } (keyOf alias_)
      = c.hasName (keyOf alias_) := by
    rw [Bool.eq_iff_iff, hasName_eq_true, hasName_eq_true, mem_keys_insert,
      or_iff_right hother]
  rw [aliasConflict?, hname]
  rfl

theorem HalfRegistered.of_gains {e : Entry} {before : List String} {refused : String}
    {f : CatalogueFault} (hnew : c.hasName (keyOf name) = false)
    (h : Gains { c with entries := insert (keyOf name) e c.entries } c' (keyOf name) before)
    (hne : keyOf refused ≠ keyOf name) (hconflict : aliasConflict?
      { c with entries := insert (keyOf name) e c.entries } (keyOf name) refused = some f) :
    HalfRegistered c c' name e before refused f where
  isNew := hnew
  free alias_ hmem := by
    by_cases hother : keyOf alias_ = keyOf name
    · exact .inl hother
    · exact (h.free alias_ hmem).imp_right fun hfree => aliasConflict?_setEntry hother ▸ hfree
  ne_name := hne
  conflict := aliasConflict?_setEntry hne ▸ hconflict
  entries_eq := by
    rw [h.entries_eq]
    refine insert_of_new fun hmem => ?_
    rw [hasName_eq_true.mpr hmem] at hnew
    exact nomatch hnew
  aliases_prefix := h.aliases_prefix
  aliasTarget?_eq := h.aliasTarget?_eq

/-- A registration is refused for what is to be registered, and changes nothing, or for an alias,
and is made up to there. -/
theorem register_refused {entry : Option Entry} {aliases : List String} {replace : Bool}
    {f : CatalogueFault} (h : c.register name entry aliases replace = (c', some f)) :
    (entry = none ∧ f = .notGenerator ∧ c' = c)
      ∨ ∃ e before refused after, entry = some e ∧ replace = false
        ∧ aliases = before ++ refused :: after ∧ HalfRegistered c c' name e before refused f := by
  cases entry with
  | none =>
    cases h
    exact .inl ⟨rfl, rfl, rfl⟩
  | some e =>
    rw [register] at h
    split at h
    · cases h
    next hskipped =>
    cases replace with
    | true =>
      have hnone := addAliases_replacing { c with entries := insert (keyOf name) e c.entries }
        (keyOf name) aliases
      rw [h] at hnone
      cases hnone
    | false =>
      have hnew : c.hasName (keyOf name) = false := by simpa [isSkipped] using hskipped
      obtain ⟨before, refused, after, rfl, hgains, hne, hconflict⟩ := addAliases_refused h
      exact .inr ⟨e, before, refused, after, rfl, rfl, rfl, .of_gains hnew hgains hne hconflict⟩

/-! ## What a refused call leaves -/

namespace HalfRegistered

variable {e : Entry} {before : List String} {refused : String} {f : CatalogueFault}

theorem ne (h : HalfRegistered c c' name e before refused f) : c' ≠ c := by
  rintro rfl
  have hlength := congrArg List.length h.entries_eq
  rw [List.length_append, List.length_singleton] at hlength
  omega

theorem hasName (h : HalfRegistered c c' name e before refused f) :
    c'.hasName (keyOf name) = true := by
  rw [hasName_eq_true, h.entries_eq, List.map_append, List.mem_append]
  exact .inr (List.mem_singleton.mpr rfl)

end HalfRegistered

/-- A registration that the catalogue refuses has changed nothing if there was no generator to
register.  If it is refused for an alias, then the entry for the name and the aliases before the
refused one are there, no generator or alias is lost, and the same call is not refused again. -/
theorem refused_registration_leaves {s s' : Session} {name aliases replace : Value}
    {entry : Option Entry} {f : CatalogueFault}
    (h : (registerRaw name entry aliases replace).run.run s = (.error (.catalogue f), s')) :
    (entry = none ∧ f = .notGenerator ∧ s' = s)
      ∨ ∃ text e before refused after, name = .text text ∧ entry = some e
        ∧ replace.truthy = false ∧ (aliasTexts aliases).1 = before ++ refused :: after
        ∧ HalfRegistered s.catalogue s'.catalogue text e before refused f
        ∧ s'.catalogue ≠ s.catalogue ∧ s' = { s with catalogue := s'.catalogue }
        ∧ (registerRaw name entry aliases replace).run.run s' = (.ok (), s') := by
  cases entry with
  | none =>
    cases h
    exact .inl ⟨rfl, rfl, rfl⟩
  | some e =>
  cases name with
  | text text =>
    rw [run_registerRaw] at h
    split at h
    · cases h
    cases hmade : s.catalogue.register text (some e) (aliasTexts aliases).1 replace.truthy with
    | mk made stop =>
    rw [hmade] at h
    cases stop with
    | none => cases hmisfit : (aliasTexts aliases).2 <;> rw [hmisfit] at h <;> cases h
    | some g =>
      cases h
      obtain ⟨hentry, -⟩ | ⟨e, before, refused, after, hentry, hreplace, haliases, hhalf⟩ :=
        register_refused hmade
      · cases hentry
      cases hentry
      have hskipped : isSkipped made text replace.truthy = true := by
        rw [isSkipped, hhalf.hasName, hreplace]
        rfl
      exact .inr ⟨text, e, before, refused, after, rfl, rfl, hreplace, haliases, hhalf, hhalf.ne,
        rfl, by rw [run_registerRaw, if_pos hskipped]⟩
  | _ => cases h

/-- The supplied generators, and what is left of a factory with the name of one of them for an
alias. -/
def halfRegistered : Catalogue where
  entries := builtIn.entries ++ [("other", .concrete .factory)]
  aliases := builtIn.aliases ++ [("second", "other")]

def givenAliases : Value := .list [.text "other", .text "Second", .text "observable", .text "third"]

theorem run_givenAliases :
    (registerRaw (.text "Other") (some (.concrete .factory)) givenAliases .null).run.run {}
      = (.error (.catalogue (.aliasIsName "observable")), { catalogue := halfRegistered }) := by
  rfl

theorem givenAliases_leave :
    (registerRaw (.text "Other") (some (.concrete .factory)) givenAliases .null).run.run {}
        = (.error (.catalogue (.aliasIsName "observable")), { catalogue := halfRegistered })
      ∧ ∃ before refused after, ["other", "Second", "observable", "third"]
          = before ++ refused :: after
        ∧ HalfRegistered builtIn halfRegistered "Other" (.concrete .factory) before refused
          (.aliasIsName "observable") := by
  refine ⟨run_givenAliases, ?_⟩
  obtain ⟨hentry, -⟩ | ⟨text, e, before, refused, after, hname, hentry, -, haliases, hhalf, -⟩ :=
    refused_registration_leaves run_givenAliases
  · exact nomatch hentry
  · cases hname
    cases hentry
    exact ⟨before, refused, after, haliases, hhalf⟩

/-- The refused registration has not left the catalogue as it was: the name is known now, and so is
one of the aliases. -/
theorem refused_name_known :
    ∃ s' : Session,
      (registerRaw (.text "Other") (some (.concrete .factory)) givenAliases .null).run.run {}
          = (.error (.catalogue (.aliasIsName "observable")), s')
        ∧ builtIn.isSupported "other" = false ∧ s'.catalogue.isSupported "other" = true
        ∧ builtIn.isSupported "second" = false ∧ s'.catalogue.resolve "second" = .ok "other" :=
  ⟨{ catalogue := halfRegistered }, run_givenAliases, by decide +kernel, by decide +kernel,
    by decide +kernel, by rfl⟩

end Catalogue
end JavaCompanion
