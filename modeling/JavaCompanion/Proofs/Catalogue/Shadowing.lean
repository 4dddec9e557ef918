/-
Names that shadow aliases.

A new alias is checked against the names that are there, but a new name is not checked against the
aliases.  So a name can be registered that is an alias of another generator already; from then on
the alias is listed with a generator that it does not select (`alias_shadowed`).

Every other name that is listed with a generator selects that generator, and is gone with it
(`listed_names_select`).  Where nothing is replaced and no name is registered while it is an alias,
this is so for all of them.
-/
import JavaCompanion.Proofs.Catalogue.Standing

namespace JavaCompanion
namespace Catalogue

variable {c : Catalogue} {s : Session} {key name : String}

/-- Whether the name of a generator is an alias as well. -/
def isShadowed (c : Catalogue) (name : String) : Bool :=
  c.hasName name && (c.aliasTarget? name).isSome

/-- The name stands for the generator alone. -/
structure Selects (c : Catalogue) (name key : String) : Prop where
  resolve_eq : c.resolve name = .ok key
  /-- Without the generator the name is unknown. -/
  gone : (c.unregister key).isSupported name = false

/-! ## One generator less -/

theorem hasName_unregister (hkey : keyOf key = key) (name : String) :
    (c.unregister key).hasName name = (c.hasName name && name != key) := by
  rw [Bool.eq_iff_iff, Bool.and_eq_true, hasName_eq_true, hasName_eq_true, unregister, hkey,
    bne_iff_ne]
  simp only [List.mem_map, List.mem_filter, bne_iff_ne]
  constructor
  · rintro ⟨row, ⟨hrow, hother⟩, rfl⟩
    exact ⟨⟨row, hrow, rfl⟩, hother⟩
  · rintro ⟨⟨row, hrow, rfl⟩, hother⟩
    exact ⟨row, ⟨hrow, hother⟩, rfl⟩

theorem aliasTarget?_unregister (h : Standing c) (hkey : keyOf key = key) {target : String} :
    (c.unregister key).aliasTarget? name = some target ↔
      (name, target) ∈ c.aliases ∧ target ≠ key := by
  have hmem : (name, target) ∈ (c.unregister key).aliases ↔
      (name, target) ∈ c.aliases ∧ target ≠ key := by
    rw [unregister, hkey, List.mem_filter, bne_iff_ne]
  rw [← hmem]
  exact ⟨mem_of_aliasTarget?, aliasTarget?_of_mem (h.unregister key).aliases_nodup⟩

/-! ## Names that are listed -/

theorem mem_aliasesOf (hkey : keyOf key = key) :
    name ∈ c.aliasesOf key ↔ (name, key) ∈ c.aliases := by
  rw [aliasesOf, List.mem_mergeSort, List.mem_map, hkey]
  simp

/-- What is listed with a generator is its name or an alias of that. -/
theorem mem_allNames (h : Standing c) {row : String × List String} (hrow : row ∈ c.allNames)
    (hname : name ∈ row.2) :
    row.1 ∈ c.entries.map (·.1) ∧ (name = row.1 ∨ (name, row.1) ∈ c.aliases) := by
  obtain ⟨e, he, rfl⟩ := List.mem_map.mp hrow
  have hkey := List.mem_map_of_mem (f := (·.1)) he
  refine ⟨hkey, (List.mem_cons.mp hname).imp_right fun hmem => ?_⟩
  exact (mem_aliasesOf (h.names_lower _ hkey)).mp hmem

theorem isShadowed_eq_false :
    c.isShadowed name = false ↔ c.hasName name = true → c.aliasTarget? name = none := by
  unfold isShadowed
  cases c.hasName name <;> simp

theorem resolve_of_hasName (hkey : keyOf name = name) (hname : c.hasName name = true) :
    c.resolve name = .ok name := by
  rw [resolve, hkey, if_pos hname]

/-- The name of a generator that is no alias selects it. -/
theorem selects_name (h : Standing c) (hname : key ∈ c.entries.map (·.1))
    (hshadowed : c.isShadowed key = false) : c.Selects key key where
  resolve_eq := resolve_of_hasName (h.names_lower key hname) (hasName_eq_true.mpr hname)
  gone := by
    have hkey := h.names_lower key hname
    have hnone : (c.unregister key).aliasTarget? key = none := by
      refine Option.eq_none_iff_forall_ne_some.mpr fun target htarget => ?_
      have hmem := ((aliasTarget?_unregister h hkey).mp htarget).1
      have hfree := isShadowed_eq_false.mp hshadowed (hasName_eq_true.mpr hname)
      rw [aliasTarget?_of_mem h.aliases_nodup hmem] at hfree
      exact nomatch hfree
    rw [isSupported, hkey, hasName_unregister hkey, hnone]
    simp

/-- An alias that is no name of a generator selects the one that it stands for. -/
theorem selects_alias (h : Standing c) (halias : (name, key) ∈ c.aliases)
    (hshadowed : c.isShadowed name = false) : c.Selects name key := by
  have hkey := h.names_lower key (h.targets _ halias)
  have hlower := h.aliases_lower name (List.mem_map_of_mem halias)
  have htarget := aliasTarget?_of_mem h.aliases_nodup halias
  have hname : c.hasName name = false := Bool.eq_false_iff.mpr fun hname => by
    rw [isShadowed_eq_false.mp hshadowed hname] at htarget
    exact nomatch htarget
  constructor
  · rw [resolve, hlower, hname, if_neg Bool.false_ne_true, htarget]
  · have hnone : (c.unregister key).aliasTarget? name = none := by
      refine Option.eq_none_iff_forall_ne_some.mpr fun target hother => ?_
      obtain ⟨hmem, hne⟩ := (aliasTarget?_unregister h hkey).mp hother
      rw [aliasTarget?_of_mem h.aliases_nodup hmem] at htarget
      exact hne (Option.some.inj htarget)
    rw [isSupported, hlower, hasName_unregister hkey, hname, hnone]
    rfl

/-- A name that shadows an alias selects its own generator, and is known also without any one of the
generators. -/
theorem supported_of_shadowed (h : Standing c) (hkey : keyOf key = key)
    (hshadowed : c.isShadowed name = true) :
    c.resolve name = .ok name ∧ (c.unregister key).isSupported name = true := by
  obtain ⟨hname, halias⟩ := Bool.and_eq_true_iff.mp hshadowed
  obtain ⟨target, htarget⟩ := Option.isSome_iff_exists.mp halias
  have hmem := mem_of_aliasTarget? htarget
  have hlower := h.names_lower name (hasName_eq_true.mp hname)
  refine ⟨resolve_of_hasName hlower hname, ?_⟩
  rw [isSupported, hlower, Bool.or_eq_true]
  by_cases hsame : name = key
  · have hother : target ≠ key := fun heq => h.ne_target _ hmem (hsame.trans heq.symm)
    rw [(aliasTarget?_unregister h hkey).mpr ⟨hmem, hother⟩]
    exact .inr rfl
  · rw [hasName_unregister hkey, hname, Bool.true_and, bne_iff_ne]
    exact .inl hsame

theorem selects_listed (h : Standing c) {row : String × List String} (hrow : row ∈ c.allNames)
    (hname : name ∈ row.2) (hshadowed : c.isShadowed name = false) : c.Selects name row.1 := by
  obtain ⟨hkey, rfl | halias⟩ := mem_allNames h hrow hname
  · exact selects_name h hkey hshadowed
  · exact selects_alias h halias hshadowed

/-! ## Calls that keep names and aliases apart -/

/-- No name of a generator is an alias. -/
def Apart (c : Catalogue) : Prop := ∀ name ∈ c.aliases.map (·.1), name ∉ c.entries.map (·.1)

namespace Apart

theorem empty : Apart {} := fun _ h => nomatch h

theorem isShadowed (h : Apart c) (name : String) : c.isShadowed name = false :=
  isShadowed_eq_false.mpr fun hname =>
    aliasTarget?_eq_none.mpr fun halias => h name halias (hasName_eq_true.mp hname)

theorem register (h : Apart c) {name : String} (hname : c.aliasTarget? (keyOf name) = none)
    (e : Entry) (aliases : List String) : Apart (c.register name (some e) aliases false).1 := by
  rcases register_cases c name e aliases false with hsame | ⟨-, hset⟩
  · rw [hsame]
    exact h
  · rw [hset]
    have hentry : Apart { c with entries := insert (keyOf name) e c.entries } := by
      intro other hother hmem
      rcases mem_keys_insert.mp hmem with rfl | hmem
      · exact aliasTarget?_eq_none.mp hname hother
      · exact h other hother hmem
    refine addAliases_keeps aliases hentry fun c alias_ hc _ hfree other hother hmem => ?_
    rcases mem_keys_insert.mp hother with rfl | hother
    · exact Bool.eq_false_iff.mp (hfree rfl) (hasName_eq_true.mpr hmem)
    · exact hc other hother hmem

theorem unregister (h : Apart c) (name : String) : Apart (c.unregister name) :=
  fun other hother hmem => h other ((List.filter_sublist.map _).subset hother)
    ((List.filter_sublist.map _).subset hmem)

end Apart

/-- Whether the call registers no name that is an alias. -/
def Call.isApart (c : Catalogue) : Call → Bool
  | .register (.text name) _ _ _ => (c.aliasTarget? (keyOf name)).isNone
  | _ => true

/-- Whether no name is registered while it is an alias. -/
def registersApart : List Call → Session → Bool
  | [], _ => true
  | call :: rest, s => call.isApart s.catalogue && registersApart rest (call.after s)

theorem Apart.after (h : Apart s.catalogue) {call : Call} (hreplaces : call.replaces = false)
    (hnew : call.isApart s.catalogue = true) : Apart (call.after s).catalogue := by
  rcases catalogue_after s call with hsame | ⟨name, e, aliases, replace, texts, rfl, heq⟩
    | ⟨name, -, heq⟩
  · rw [hsame]
    exact h
  · rw [heq, show replace.truthy = false from hreplaces]
    exact h.register (Option.isNone_iff_eq_none.mp hnew) e texts
  · rw [heq]
    exact h.unregister name

theorem Apart.afterCalls {calls : List Call} (h : Apart s.catalogue)
    (hreplaces : ∀ call ∈ calls, call.replaces = false) (hnew : registersApart calls s = true) :
    Apart (afterCalls calls s).catalogue := by
  induction calls generalizing s with
  | nil => exact h
  | cons call rest ih =>
    obtain ⟨hfirst, hrest⟩ := Bool.and_eq_true_iff.mp hnew
    exact ih (h.after (hreplaces call List.mem_cons_self) hfirst)
      (fun other hother => hreplaces other (List.mem_cons_of_mem call hother)) hrest

/-- After any calls, a name that is listed with a generator selects that generator and is gone with
it, unless it is an alias and the name of a generator at once; it selects the latter then, and no
generator takes it along.  Where no entry is replaced and no name is registered while it is an
alias, all names that are listed with a generator select it. -/
theorem listed_names_select (calls : List Call) (s : Session) :
    let c := madeBy calls s
    (∀ row ∈ c.allNames, ∀ name ∈ row.2,
        if c.isShadowed name = true then
          c.resolve name = .ok name ∧ (c.unregister row.1).isSupported name = true
        else c.Selects name row.1)
      ∧ ((∀ call ∈ calls, call.replaces = false) →
        registersApart calls { s with catalogue := {} } = true →
        ∀ row ∈ c.allNames, ∀ name ∈ row.2, c.Selects name row.1) := by
  intro c
  have hstanding : Standing c := .madeBy calls s
  refine ⟨fun row hrow name hname => ?_, fun hreplaces happart row hrow name hname => ?_⟩
  · split
    · next hshadowed =>
      have hkey := hstanding.names_lower _ (mem_allNames hstanding hrow hname).1
      exact supported_of_shadowed hstanding hkey hshadowed
    · next hshadowed =>
      exact selects_listed hstanding hrow hname (Bool.eq_false_iff.mpr hshadowed)
  · have hapart : Apart c := Apart.empty.afterCalls hreplaces happart
    exact selects_listed hstanding hrow hname (hapart.isShadowed name)

/-- A factory with two aliases, and a model whose last alias is refused, as the factory has it.
Once the factory is gone, another model takes over its aliases, one of them as a name. -/
def handedOver : List Call :=
  [ .register (.text "Maker") (some (.concrete .factory))
      (.list [.text "Builder", .text "made"]) .null,
    .register (.text "Watcher") (some (.concrete .observable))
      (.list [.text "seen", .text "BUILDER"]) .null,
    .unregister (.text "maker"),
    .register (.text "Made") (some (.concrete .observable)) (.list [.text "builder"]) .null ]

theorem handedOver_select :
    (madeBy handedOver {}).allNames
        = [("watcher", ["watcher", "seen"]), ("made", ["made", "builder"])]
      ∧ ∀ row ∈ (madeBy handedOver {}).allNames, ∀ name ∈ row.2,
        (madeBy handedOver {}).Selects name row.1 :=
  ⟨by decide +kernel, (listed_names_select handedOver {}).2 (by decide) (by decide +kernel)⟩

/-- A factory with an alias, and a model under that very name. -/
def shadowing : List Call :=
  [ .register (.text "maker") (some (.concrete .factory)) (.list [.text "builder"]) .null,
    .register (.text "builder") (some (.concrete .observable)) .null .null ]

/-- The alias is still listed with the factory, but it selects the model, and it is supported also
without the factory. -/
theorem alias_shadowed :
    (∀ call ∈ shadowing, call.replaces = false)
      ∧ (madeBy shadowing {}).allNames
        = [("maker", ["maker", "builder"]), ("builder", ["builder"])]
      ∧ (madeBy shadowing {}).resolve "builder" = .ok "builder"
      ∧ ((madeBy shadowing {}).unregister "maker").isSupported "builder" = true :=
  ⟨by decide, by decide +kernel, by rfl, by decide +kernel⟩

end Catalogue
end JavaCompanion
