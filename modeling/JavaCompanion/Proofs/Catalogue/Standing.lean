/-
Aliases stand for names.

Whatever is registered and taken out again, with whatever aliases, and whether a call returns or
fails half way, every alias stands for the name of a generator, and names and aliases are kept in
lower case (`Standing`).  So a name is supported exactly when it is resolved, and what it is
resolved to has an entry (`names_and_aliases_stand`).

A call changes the catalogue in small steps: an entry is set, its aliases are set one by one up
to the first that is refused (`addAliases_keeps`), or an entry goes together with its aliases.
-/
import JavaCompanion.Proofs.Session
import JavaCompanion.Proofs.Text.LowerCase
import JavaCompanion.Script.Catalogue
import Mathlib.Data.List.Nodup

namespace JavaCompanion

theorem Session.catalogue_log (s : Session) (r : Log.Record) :
    (s.log r).catalogue = s.catalogue := by
  unfold log
  dsimp only
  split
  · split <;> rfl
  · rfl

namespace Catalogue

open Step

/-! ## Rows under keys -/

section Rows

variable {α : Type} {key : String} {value : α} {rows : List (String × α)}

theorem mem_insert {row : String × α} (h : row ∈ insert key value rows) :
    row = (key, value) ∨ row ∈ rows := by
  induction rows with
  | nil => exact .inl (List.mem_singleton.mp h)
  | cons first rest ih =>
    rw [insert] at h
    split at h
    · rcases List.mem_cons.mp h with h | h
      · exact .inl h
      · exact .inr (List.mem_cons_of_mem _ h)
    · rcases List.mem_cons.mp h with h | h
      · exact .inr (h ▸ List.mem_cons_self)
      · exact (ih h).imp_right (List.mem_cons_of_mem _)

theorem keys_insert (key : String) (value : α) (rows : List (String × α)) :
    (insert key value rows).map (·.1)
      = if key ∈ rows.map (·.1) then rows.map (·.1) else rows.map (·.1) ++ [key] := by
  induction rows with
  | nil => rfl
  | cons first rest ih =>
    rw [insert]
    by_cases h : first.1 = key
    · rw [if_pos h, if_pos (h ▸ List.mem_cons_self), List.map_cons, List.map_cons, h]
    · have hmem : key ∈ first.1 :: rest.map (·.1) ↔ key ∈ rest.map (·.1) := by
        rw [List.mem_cons, or_iff_right (Ne.symm h)]
      rw [if_neg h, List.map_cons, ih, List.map_cons]
      by_cases hrest : key ∈ rest.map (·.1)
      · rw [if_pos hrest, if_pos (hmem.mpr hrest)]
      · rw [if_neg hrest, if_neg (mt hmem.mp hrest)]
        rfl

theorem mem_keys_insert {other : String} :
    other ∈ (insert key value rows).map (·.1) ↔ other = key ∨ other ∈ rows.map (·.1) := by
  rw [keys_insert]
  split
  · next hmem => exact ⟨.inr, fun h => h.elim (fun heq => heq ▸ hmem) id⟩
  · rw [List.mem_append, List.mem_singleton, or_comm]

theorem nodup_keys_insert (h : (rows.map (·.1)).Nodup) :
    ((insert key value rows).map (·.1)).Nodup := by
  rw [keys_insert]
  split
  · exact h
  · next hnew =>
    refine List.nodup_append.mpr ⟨h, List.nodup_singleton key, fun a ha b hb hab => ?_⟩
    rw [List.mem_singleton.mp hb] at hab
    exact hnew (hab ▸ ha)

end Rows

variable {c : Catalogue} {s : Session} {key name : String}

/-! ## Look-up -/

theorem hasName_eq_true : c.hasName key = true ↔ key ∈ c.entries.map (·.1) := by
  simp [hasName]

theorem exists_entry (h : c.hasName key = true) : ∃ e, c.entry? key = some e := by
  rw [← Option.isSome_iff_exists, entry?, Option.isSome_map, List.find?_isSome]
  exact List.any_eq_true.mp h

theorem mem_of_aliasTarget? {target : String} (h : c.aliasTarget? key = some target) :
    (key, target) ∈ c.aliases := by
  obtain ⟨row, hrow, rfl⟩ := Option.map_eq_some_iff.mp h
  have hkey := List.find?_some (p := fun row : String × String => row.1 == key) hrow
  rw [← eq_of_beq hkey]
  exact List.mem_of_find?_eq_some hrow

theorem aliasTarget?_eq_none : c.aliasTarget? key = none ↔ key ∉ c.aliases.map (·.1) := by
  rw [aliasTarget?, Option.map_eq_none_iff, List.find?_eq_none, List.mem_map]
  exact ⟨fun h ⟨row, hrow, hkey⟩ => h row hrow (beq_iff_eq.mpr hkey),
    fun h row hrow hkey => h ⟨row, hrow, eq_of_beq hkey⟩⟩

theorem aliasTarget?_of_mem {target : String} (hnodup : (c.aliases.map (·.1)).Nodup)
    (h : (key, target) ∈ c.aliases) : c.aliasTarget? key = some target := by
  cases hfound : c.aliasTarget? key with
  | none => exact absurd (List.mem_map_of_mem h) (aliasTarget?_eq_none.mp hfound)
  | some other =>
    have hsame := List.inj_on_of_nodup_map hnodup (mem_of_aliasTarget? hfound) h rfl
    rw [(Prod.mk.inj hsame).2]

/-! ## What a call keeps -/

/-- A call of the catalogue, with raw values for what it is given. -/
inductive Call where
  | register (name : Value) (entry : Option Entry) (aliases replace : Value)
  | unregister (name : Value)

namespace Call

def perform : Call → Step Unit
  | .register name entry aliases replace => registerRaw name entry aliases replace
  | .unregister name => do
    let name ← nameOf name
    setCatalogue ((← current).unregister name)

/-- The session after a call, whether the call has returned or failed. -/
def after (s : Session) (call : Call) : Session := (call.perform.run.run s).2

/-- Whether an entry is to be replaced by the call. -/
def replaces : Call → Bool
  | .register _ _ _ replace => replace.truthy
  | .unregister _ => false

end Call

/-- The session after calls, each made in the session that the one before it has left. -/
def afterCalls (calls : List Call) (s : Session) : Session := calls.foldl Call.after s

/-- The catalogue that calls make of one without generators. -/
def madeBy (calls : List Call) (s : Session) : Catalogue :=
  (afterCalls calls { s with catalogue := {} }).catalogue

/-- A registration does nothing, or it goes on to the aliases once the entry is set. -/
theorem register_cases (c : Catalogue) (name : String) (e : Entry) (aliases : List String)
    (replace : Bool) :
    (c.register name (some e) aliases replace).1 = c
      ∨ (c.hasName (keyOf name) = false ∨ replace = true)
        ∧ (c.register name (some e) aliases replace).1
          = (addAliases { c with entries := insert (keyOf name) e c.entries } (keyOf name) replace
              aliases).1 := by
  rw [register]
  split
  · exact .inl rfl
  · next hskipped =>
    refine .inr ⟨?_, rfl⟩
    cases hname : c.hasName (keyOf name) with
    | false => exact .inl rfl
    | true =>
      rw [isSkipped, hname, Bool.true_and, Bool.not_eq_true'] at hskipped
      exact .inr (Bool.not_eq_false _ ▸ hskipped)

theorem addAliases_keeps {P : Catalogue → Prop} {replace : Bool} (aliases : List String)
    (h : P c)
    (halias : ∀ c alias_, P c → keyOf alias_ ≠ key →
      (replace = false → c.hasName (keyOf alias_) = false) →
      P { c with aliases := insert (keyOf alias_) key c.aliases }) :
    P (addAliases c key replace aliases).1 := by
  induction aliases generalizing c with
  | nil => exact h
  | cons alias_ rest ih =>
    rw [addAliases]
    split
    · exact ih h
    next hother =>
    split
    · exact h
    · next hfree =>
      refine ih (halias c alias_ h hother fun hreplace => ?_)
      rw [hreplace, if_neg Bool.false_ne_true, aliasConflict?] at hfree
      split at hfree
      · exact nomatch hfree
      · next hname => exact Bool.eq_false_iff.mpr hname

theorem run_registerRaw (s : Session) (name : String) (e : Entry) (aliases replace : Value) :
    (registerRaw (.text name) (some e) aliases replace).run.run s =
      if s.catalogue.isSkipped name replace.truthy then (.ok (), s)
      else
        let made := s.catalogue.register name (some e) (aliasTexts aliases).1 replace.truthy
        let s' := { s with catalogue := made.1 }
        match made.2, (aliasTexts aliases).2 with
        | some f, _ => (.error (.catalogue f), s')
        | none, some m => (.error (.mismatch m), s')
        | none, none => (.ok (), s'.log (registeredRecord name e)) := by
  have hname : Gives (nameOf (.text name)) s name s := rfl
  have hcurrent : Gives current s s.catalogue s := rfl
  unfold registerRaw
  dsimp only
  rw [run_of_gives hname, run_of_gives hcurrent]
  split
  · rfl
  · cases aliasTexts aliases with
    | mk texts misfit =>
    cases s.catalogue.register name (some e) texts replace.truthy with
    | mk made stop =>
    -- the entry and the aliases are there before the call fails or is logged
    have hset : Gives (setCatalogue made) s () { s with catalogue := made } := rfl
    dsimp only
    rw [run_of_gives hset]
    cases stop with
    | some f => rfl
    | none => cases misfit <;> rfl

theorem catalogue_registerRaw (s : Session) (name : String) (e : Entry) (aliases replace : Value) :
    ((registerRaw (.text name) (some e) aliases replace).run.run s).2.catalogue
      = (s.catalogue.register name (some e) (aliasTexts aliases).1 replace.truthy).1 := by
  rw [run_registerRaw]
  by_cases hskipped : s.catalogue.isSkipped name replace.truthy = true
  · rw [if_pos hskipped, register, if_pos hskipped]
  · rw [if_neg hskipped]
    cases s.catalogue.register name (some e) (aliasTexts aliases).1 replace.truthy with
    | mk made stop =>
    cases stop with
    | some f => rfl
    | none =>
      cases (aliasTexts aliases).2 with
      | some m => rfl
      | none => exact Session.catalogue_log _ _

/-- What a call leaves behind: the catalogue as it was, one with a registration that may have been
given up among its aliases, or one without an entry and the aliases of that. -/
theorem catalogue_after (s : Session) (call : Call) :
    (call.after s).catalogue = s.catalogue
      ∨ (∃ name e aliases replace texts, call = .register (.text name) (some e) aliases replace
        ∧ (call.after s).catalogue
          = (s.catalogue.register name (some e) texts replace.truthy).1)
      ∨ ∃ name, call = .unregister (.text name)
        ∧ (call.after s).catalogue = s.catalogue.unregister name := by
  cases call with
  | unregister name =>
    cases name with
    | text name => exact .inr (.inr ⟨name, rfl, rfl⟩)
    | _ => exact .inl rfl
  | register name entry aliases replace =>
    cases entry with
    | none => exact .inl rfl
    | some e =>
      cases name with
      | text name =>
        exact .inr (.inl ⟨name, e, aliases, replace, (aliasTexts aliases).1, rfl,
          catalogue_registerRaw s name e aliases replace⟩)
      | _ => exact .inl rfl

/-! ## Names and aliases that stand -/

structure Standing (c : Catalogue) : Prop where
  /-- Every alias stands for the name of a generator. -/
  targets : ∀ row ∈ c.aliases, row.2 ∈ c.entries.map (·.1)
  /-- No alias stands for itself. -/
  ne_target : ∀ row ∈ c.aliases, row.1 ≠ row.2
  names_lower : ∀ key ∈ c.entries.map (·.1), keyOf key = key
  aliases_lower : ∀ key ∈ c.aliases.map (·.1), keyOf key = key
  /-- No alias stands for two names. -/
  aliases_nodup : (c.aliases.map (·.1)).Nodup

namespace Standing

theorem empty : Standing {} where
  targets _ h := nomatch h
  ne_target _ h := nomatch h
  names_lower _ h := nomatch h
  aliases_lower _ h := nomatch h
  aliases_nodup := List.nodup_nil

theorem setEntry (h : Standing c) (name : String) (e : Entry) :
    Standing { c with entries := insert (keyOf name) e c.entries } where
  targets row hrow := mem_keys_insert.mpr (.inr (h.targets row hrow))
  ne_target := h.ne_target
  names_lower key hkey := by
    rcases mem_keys_insert.mp hkey with rfl | hkey
    · exact Text.lower_lower name
    · exact h.names_lower key hkey
  aliases_lower := h.aliases_lower
  aliases_nodup := h.aliases_nodup

theorem setAlias (h : Standing c) (hkey : key ∈ c.entries.map (·.1)) {alias_ : String}
    (hother : keyOf alias_ ≠ key) :
    Standing { c with aliases := insert (keyOf alias_) key c.aliases } where
  targets row hrow := by
    rcases mem_insert hrow with rfl | hrow
    · exact hkey
    · exact h.targets row hrow
  ne_target row hrow := by
    rcases mem_insert hrow with rfl | hrow
    · exact hother
    · exact h.ne_target row hrow
  names_lower := h.names_lower
  aliases_lower other hother := by
    rcases mem_keys_insert.mp hother with rfl | hother
    · exact Text.lower_lower alias_
    · exact h.aliases_lower other hother
  aliases_nodup := nodup_keys_insert h.aliases_nodup

theorem register (h : Standing c) (name : String) (e : Entry) (aliases : List String)
    (replace : Bool) : Standing (c.register name (some e) aliases replace).1 := by
  rcases register_cases c name e aliases replace with hsame | ⟨-, hset⟩
  · rw [hsame]
    exact h
  · rw [hset]
    -- the name is there from the entry on, through all aliases
    refine (addAliases_keeps (P := fun c => Standing c ∧ keyOf name ∈ c.entries.map (·.1)) aliases
      ⟨h.setEntry name e, mem_keys_insert.mpr (.inl rfl)⟩ fun c alias_ hc hother _ => ?_).1
    exact ⟨hc.1.setAlias hc.2 hother, hc.2⟩

theorem unregister (h : Standing c) (name : String) : Standing (c.unregister name) where
  targets row hrow := by
    obtain ⟨hrow, hother⟩ := List.mem_filter.mp hrow
    obtain ⟨entry, hentry, htarget⟩ := List.mem_map.mp (h.targets row hrow)
    rw [← htarget] at hother ⊢
    exact List.mem_map_of_mem (List.mem_filter.mpr ⟨hentry, hother⟩)
  ne_target row hrow := h.ne_target row (List.mem_of_mem_filter hrow)
  names_lower key hkey := h.names_lower key ((List.filter_sublist.map _).subset hkey)
  aliases_lower key hkey := h.aliases_lower key ((List.filter_sublist.map _).subset hkey)
  aliases_nodup := h.aliases_nodup.sublist (List.filter_sublist.map _)

theorem after (h : Standing s.catalogue) (call : Call) : Standing (call.after s).catalogue := by
  rcases catalogue_after s call with hsame | ⟨name, e, _, _, texts, -, heq⟩ | ⟨name, -, heq⟩
  · rw [hsame]
    exact h
  · rw [heq]
    exact h.register name e texts _
  · rw [heq]
    exact h.unregister name

theorem afterCalls (h : Standing s.catalogue) (calls : List Call) :
    Standing (afterCalls calls s).catalogue := by
  induction calls generalizing s with
  | nil => exact h
  | cons call rest ih => exact ih (h.after call)

theorem madeBy (calls : List Call) (s : Session) : Standing (madeBy calls s) :=
  empty.afterCalls calls

end Standing

/-! ## Look-up in a standing catalogue -/

theorem isSupported_iff : c.isSupported name = true ↔ ∃ key, c.resolve name = .ok key := by
  unfold isSupported resolve
  cases c.hasName (keyOf name) with
  | true => exact ⟨fun _ => ⟨_, rfl⟩, fun _ => rfl⟩
  | false =>
    cases c.aliasTarget? (keyOf name) with
    | some target => exact ⟨fun _ => ⟨_, rfl⟩, fun _ => rfl⟩
    | none => exact ⟨fun h => (nomatch h), fun ⟨_, h⟩ => (nomatch h)⟩

theorem Standing.hasName_of_resolve (h : Standing c) (hkey : c.resolve name = .ok key) :
    c.hasName key = true := by
  unfold resolve at hkey
  split at hkey
  · next hname =>
    cases hkey
    exact hname
  · split at hkey
    · next target htarget =>
      cases hkey
      exact hasName_eq_true.mpr (h.targets _ (mem_of_aliasTarget? htarget))
    · exact nomatch hkey

/-- After any calls, returning or failing, every alias stands for the name of a generator, and names
and aliases are in lower case.  A name is supported exactly when it is resolved, and what it is
resolved to is the name of a generator, which is then selected. -/
theorem names_and_aliases_stand (calls : List Call) (s : Session) :
    let c := madeBy calls s
    (∀ row ∈ c.aliases, c.hasName row.2 = true)
      ∧ (∀ key, key ∈ c.entries.map (·.1) ∨ key ∈ c.aliases.map (·.1) → keyOf key = key)
      ∧ (∀ name, c.isSupported name = true ↔ ∃ key, c.resolve name = .ok key)
      ∧ ∀ name key, c.resolve name = .ok key →
        c.hasName key = true ∧ ∃ e, c.entry? key = some e ∧ c.select name = .ok (key, e) := by
  intro c
  have hstanding : Standing c := .madeBy calls s
  refine ⟨fun row hrow => hasName_eq_true.mpr (hstanding.targets row hrow),
    fun key hkey => hkey.elim (hstanding.names_lower key) (hstanding.aliases_lower key),
    fun name => isSupported_iff, fun name key hkey => ?_⟩
  have hname := hstanding.hasName_of_resolve hkey
  obtain ⟨e, he⟩ := exists_entry hname
  refine ⟨hname, e, he, ?_⟩
  rw [select, hkey, ok_bind, he]
  rfl

end Catalogue
end JavaCompanion
