/-
Every observed method is wrapped once.

Extraction makes the mutators of a method one after the other, and no method after it has a
subject of its own that would be one of them again.  What is extracted therefore comes in blocks,
one for each method that is eligible, and the methods of two blocks have different names
(`exists_blocks`, `name_ne_of_disjoint`).  Any comparison of neighbours that tells different names
apart and finds a method equal to itself gives these blocks back, be it that of the names or that
of the whole declarations (`plan_wraps_once`).
-/
import JavaCompanion.Proofs.Config.Settings
import JavaCompanion.Proofs.Extraction.Exactness
import JavaCompanion.Proofs.Observable.Wrapped

namespace JavaCompanion
namespace Observable

open Descriptor Extraction Java

/-! ## Methods that are declared alike -/

/-- Whether two methods have the same declaration, where parameters are compared by their texts
and modifiers without regard to order. -/
def declaredAlike (m n : Method) : Bool :=
  m.name.same n.name && m.returnType == n.returnType
    && m.parameters.map Parameter.text == n.parameters.map Parameter.text
    && m.thrown == n.thrown && Modifier.toSet m.modifiers == Modifier.toSet n.modifiers

theorem declaredAlike_self {m : Method} {name : String} (h : m.name = .text name) :
    declaredAlike m m = true := by
  simp [declaredAlike, h, Value.same]

theorem same_of_declaredAlike {m n : Method} (h : declaredAlike m n = true) :
    m.name.same n.name = true := by
  simp only [declaredAlike, Bool.and_eq_true] at h
  exact h.1.1.1.1

/-! ## Blocks of mutators -/

variable {methods : List Method} {verbs : List String} {policy : Policy}

instance (verbs : List String) : DecidablePred (Eligible verbs) := fun m =>
  decidable_of_iff (∃ name ∈ m.name.text?, splits name verbs ≠ [] ∧ m.isOverridable = true
      ∧ m.isAbstract = false) <| by
    constructor
    · rintro ⟨name, hname, h⟩
      exact (eligible_iff (text?_eq_some_iff.mp hname)).mpr h
    · intro h
      obtain ⟨name, -, -, hname, -⟩ := h.split
      exact ⟨name, text?_eq_some_iff.mpr hname, (eligible_iff hname).mp h⟩

/-- The mutators are those of the method: one for each split of its name that counts, in order. -/
def AreMadeOf (methods : List Method) (verbs : List String) (policy : Policy) (m : Method)
    (ms : List Mutator) : Prop :=
  ∃ name all, m.name = .text name ∧ SplitsBy name verbs all
    ∧ List.Forall₂ (Realizes methods) ((policy.choose all).map fun s => ⟨m, s.1, s.2⟩) ms

theorem AreMadeOf.method_eq {m : Method} {ms : List Mutator}
    (h : AreMadeOf methods verbs policy m ms) : ∀ x ∈ ms, x.method = m := by
  intro x hx
  obtain ⟨name, all, -, -, hrealizes⟩ := h
  obtain ⟨c, hc, hcx⟩ := exists_of_forall₂ hrealizes hx
  obtain ⟨s, -, rfl⟩ := List.mem_map.mp hc
  exact hcx.method_eq

theorem AreMadeOf.name_eq {m : Method} {ms : List Mutator}
    (h : AreMadeOf methods verbs policy m ms) : ∃ name, m.name = .text name := by
  obtain ⟨name, all, hname, -, -⟩ := h
  exact ⟨name, hname⟩

theorem AreMadeOf.map_subject {m : Method} {ms : List Mutator} {name : String}
    (h : AreMadeOf methods verbs policy m ms) (hname : m.name = .text name) :
    ms.map (·.subject) = (policy.choose (splits name verbs)).map (·.2) := by
  obtain ⟨text, all, htext, hall, hrealizes⟩ := h
  cases hname.symm.trans htext
  rw [map_subject_of_realizes hrealizes, eq_splits hall, List.map_map]
  rfl

/-- Mutators that have no subject in common are made of methods of different names. -/
theorem name_ne_of_disjoint {m n : Method} {ms ns : List Mutator}
    (hm : AreMadeOf methods verbs policy m ms) (hn : AreMadeOf methods verbs policy n ns)
    (hsome : ms ≠ []) (hdisjoint : (ms.map (·.subject)).Disjoint (ns.map (·.subject))) :
    m.name ≠ n.name := by
  intro hsame
  obtain ⟨name, hname⟩ := hm.name_eq
  have hsubjects : ms.map (·.subject) = ns.map (·.subject) :=
    (hm.map_subject hname).trans (hn.map_subject (hsame.symm.trans hname)).symm
  obtain ⟨x, hx⟩ := List.exists_mem_of_ne_nil ms hsome
  have hmem : x.subject ∈ ms.map (·.subject) := List.mem_map.mpr ⟨x, hx, rfl⟩
  exact hdisjoint hmem (hsubjects ▸ hmem)

theorem forall₂_append_left {α β : Type} {R : α → β → Prop} {as more : List α} {bs : List β}
    (h : List.Forall₂ R (as ++ more) bs) :
    ∃ front back, bs = front ++ back ∧ List.Forall₂ R as front ∧ List.Forall₂ R more back := by
  refine ⟨bs.take as.length, bs.drop as.length, (List.take_append_drop _ _).symm, ?_, ?_⟩
  · exact (List.forall₂_take_append bs as more h.flip).flip
  · exact (List.forall₂_drop_append bs as more h.flip).flip

/-- What is extracted comes in blocks, one for each method that is eligible. -/
theorem exists_blocks {ms : List Method} {cs : List Candidate} {xs : List Mutator}
    (hcs : Candidates verbs policy ms cs) (hxs : List.Forall₂ (Realizes methods) cs xs) :
    ∃ gs : List (Mutator × List Mutator), xs = gs.flatMap (fun g => g.1 :: g.2)
      ∧ List.Forall₂ (fun m g => AreMadeOf methods verbs policy m (g.1 :: g.2))
        (ms.filter fun m => Eligible verbs m) gs := by
  induction hcs generalizing xs with
  | nil =>
    cases hxs
    exact ⟨[], rfl, .nil⟩
  | @eligible m name all ms more heligible hname hall _ ih =>
    obtain ⟨front, back, rfl, hfront, hback⟩ := forall₂_append_left hxs
    obtain ⟨gs, rfl, hgs⟩ := ih hback
    have hmade : AreMadeOf methods verbs policy m front := ⟨name, all, hname, hall, hfront⟩
    rw [List.filter_cons_of_pos (by simpa using heligible)]
    cases front with
    | nil =>
      -- An eligible method has a split that counts.
      have hnone := hmade.map_subject hname
      have hsplits : splits name verbs ≠ [] := ((eligible_iff hname).mp heligible).1
      exact absurd (List.map_eq_nil_iff.mp hnone.symm) (choose_ne_nil policy hsplits)
    | cons x rest => exact ⟨(x, rest) :: gs, rfl, .cons hmade hgs⟩
  | @passed m ms more hpassed _ ih =>
    obtain ⟨gs, hxs', hgs⟩ := ih hxs
    rw [List.filter_cons_of_neg (by simpa using hpassed)]
    exact ⟨gs, hxs', hgs⟩

/-- The blocks of a list of mutators: each is made of a method, and no two have a subject in
common. -/
structure AreBlocks (methods : List Method) (verbs : List String) (policy : Policy)
    (gs : List (Mutator × List Mutator)) : Prop where
  made : ∀ g ∈ gs, ∃ m, AreMadeOf methods verbs policy m (g.1 :: g.2)
  subjects_nodup : ((gs.flatMap fun g => g.1 :: g.2).map (·.subject)).Nodup

theorem AreBlocks.names_apart {gs : List (Mutator × List Mutator)}
    (h : AreBlocks methods verbs policy gs) :
    gs.Pairwise fun g k => ∀ x ∈ g.1 :: g.2, ∀ y ∈ k.1 :: k.2, x.method.name ≠ y.method.name := by
  have hnodup := h.subjects_nodup
  rw [List.map_flatMap, List.nodup_flatMap] at hnodup
  refine hnodup.2.imp_of_mem fun {g k} hg hk hdisjoint x hx y hy => ?_
  obtain ⟨m, hm⟩ := h.made g hg
  obtain ⟨n, hn⟩ := h.made k hk
  rw [hm.method_eq x hx, hn.method_eq y hy]
  exact name_ne_of_disjoint hm hn (List.cons_ne_nil _ _) hdisjoint

/-- Grouping mutators by the names of their methods gives back the blocks. -/
theorem AreBlocks.groups_eq {gs : List (Mutator × List Mutator)}
    (h : AreBlocks methods verbs policy gs) :
    Generation.groups sameMethod (gs.flatMap fun g => g.1 :: g.2) = gs := by
  refine Generation.groups_flatMap_blocks (fun g hg x hx y hy => ?_) ?_
  · obtain ⟨m, hm⟩ := h.made g hg
    obtain ⟨name, hname⟩ := hm.name_eq
    rw [sameMethod, hm.method_eq x hx, hm.method_eq y hy]
    simp [hname, Value.same]
  · refine h.names_apart.imp_of_mem fun {g k} hg hk hapart x hx y hy => ?_
    obtain ⟨m, hm⟩ := h.made g hg
    obtain ⟨n, hn⟩ := h.made k hk
    obtain ⟨s, hs⟩ := hm.name_eq
    obtain ⟨t, ht⟩ := hn.name_eq
    have hne := hapart x hx y hy
    rw [hm.method_eq x hx, hn.method_eq y hy, hs, ht] at hne
    rw [sameMethod, hm.method_eq x hx, hn.method_eq y hy, hs, ht]
    simpa [Value.same] using hne

/-- The mutators of an element are of methods that are declared alike if they are of methods of
one name. -/
theorem declaredAlike_eq_sameMethod {ms : List Mutator}
    (hms : AreMutatorsOf methods verbs policy ms) {m n : Mutator} (hm : m ∈ ms) (hn : n ∈ ms) :
    declaredAlike m.method n.method = sameMethod m n := by
  rw [Bool.eq_iff_iff]
  constructor
  · exact same_of_declaredAlike
  · intro h
    obtain ⟨name, hname, -⟩ := (hms.each m hm).named
    rw [← method_eq_of_sameMethod hms hm hn h]
    exact declaredAlike_self hname

/-! ## Plans -/

/-- The observed mutators of a wrapped method are those that it makes, and they took their local
names from one scope, in which the parameters of the method are taken. -/
structure Wraps (methods : List Method) (verbs : List String) (policy : Policy) (m : Method)
    (os : List Observed) : Prop where
  made : AreMadeOf methods verbs policy m (os.map (·.mutator))
  observed_eq : os = observeAll (wrapperScope m) (os.map (·.mutator))

theorem wraps_observedGroup {m : Method} {g : Mutator × List Mutator}
    (h : AreMadeOf methods verbs policy m (g.1 :: g.2)) :
    Wraps methods verbs policy m (observedGroup g) := by
  have hmap : (observedGroup g).map (·.mutator) = g.1 :: g.2 := map_mutator_observeAll _ _
  refine ⟨by rw [hmap]; exact h, ?_⟩
  rw [hmap, observedGroup, h.method_eq g.1 List.mem_cons_self]

/-- The blocks of the mutators that an element is found to have. -/
theorem exists_areBlocks {e : Element} {control : Value} {found : Found} {methods : List Method}
    (htext : TextMethods methods) (hmethods : Extraction.methods e control = .ok methods)
    (hfound : mutators e verbs policy control = .ok found) :
    ∃ gs : List (Mutator × List Mutator), found.mutators = gs.flatMap (fun g => g.1 :: g.2)
      ∧ AreBlocks methods verbs policy gs
      ∧ List.Forall₂ (fun m g => AreMadeOf methods verbs policy m (g.1 :: g.2))
        (methods.filter fun m => Eligible verbs m) gs := by
  obtain ⟨candidates, hcandidates⟩ := exists_candidates verbs policy htext
  rw [mutators, hmethods] at hfound
  have hextracts : Extracts methods verbs methods candidates {} found :=
    extracts_of_foldlM htext hcandidates List.nodup_nil hfound
  obtain ⟨⟨added, hadded, hrealizes⟩, hnodup, -⟩ := hextracts
  have hmutators : found.mutators = added := hadded
  obtain ⟨gs, hgs, hblocks⟩ := exists_blocks hcandidates hrealizes
  rw [hmutators, hgs] at hnodup
  refine ⟨gs, hmutators.trans hgs, ⟨fun g hg => ?_, hnodup⟩, hblocks⟩
  obtain ⟨m, -, hm⟩ := exists_of_forall₂ hblocks hg
  exact ⟨m, hm⟩

/-- How the wrapped methods of a plan relate to the methods of its type. -/
structure WrapsOnce (p : Plan) (methods : List Method) : Prop where
  each : List.Forall₂ (fun m w => Wraps methods p.settings.verbs p.settings.policy m (w.1 :: w.2))
    (methods.filter fun m => Eligible p.settings.verbs m) p.wrapped
  names_apart : p.wrapped.Pairwise fun w v => w.1.mutator.method.name ≠ v.1.mutator.method.name
  observed_eq : p.wrapped.flatMap (fun w => w.1 :: w.2) = p.observed
  declarations : Generation.groups
    (fun a b => declaredAlike a.mutator.method b.mutator.method) p.observed = p.wrapped
  scopes : (Generation.groups (fun m n => declaredAlike m.method n.method)
    (p.observed.map (·.mutator))).flatMap observedGroup = p.observed

/-- The wrapped methods of a plan are the methods that are eligible, in order, each with the
mutators that it makes.  Their names are different, so that grouping neighbours by their names or
by their whole declarations, before they are observed or after it, comes to the same. -/
theorem plan_wraps_once {config : Config} {e : Element} {p : Plan}
    (h : Observable.plan config e = .ok p) :
    ∃ methods, List.Forall₂ (IsMethodOf config.controlNamespace) (e.membersOf .method) methods
      ∧ WrapsOnce p methods := by
  obtain ⟨settings, cs, found, hvalid, -, -, hfound, rfl⟩ := plan_eq_ok.mp h
  obtain ⟨methods, hmethods, hms⟩ := mutators_spec hfound
  have htext : TextMethods methods := fun m hm => by
    obtain ⟨name, hname, -⟩ := isIdentifier_of_methods hvalid hmethods m hm
    rw [hname]
    rfl
  obtain ⟨gs, hgs, hblocks, hmade⟩ := exists_areBlocks htext hmethods hfound
  have hnames : Generation.groups sameMethod found.mutators = gs := by
    rw [hgs]
    exact hblocks.groups_eq
  let p := Plan.of e settings cs found
  have hmutators : p.observed.map (·.mutator) = found.mutators := map_mutator_observedOf _
  have hwrapped : gs = p.wrapped.map fun w => (w.1.mutator, w.2.map (·.mutator)) := by
    rw [← hnames, ← hmutators]
    exact Generation.groups_map (·.mutator) sameMethod p.observed
  refine ⟨methods, forall₂_methods hmethods, ?_, ?_, Generation.flatMap_groups _ _, ?_, ?_⟩
  · have hgroups : List.Forall₂ (Wraps methods settings.verbs settings.policy)
        (methods.filter fun m => Eligible settings.verbs m)
        (p.wrapped.map fun w => w.1 :: w.2) := by
      rw [wrapped_eq rfl, hnames, List.forall₂_map_right_iff]
      exact hmade.imp fun _ _ => wraps_observedGroup
    exact List.forall₂_map_right_iff.mp hgroups
  · have hapart := hblocks.names_apart
    rw [hwrapped, List.pairwise_map] at hapart
    exact hapart.imp fun h => h _ List.mem_cons_self _ List.mem_cons_self
  · refine Generation.groups_congr fun a ha b hb => ?_
    exact declaredAlike_eq_sameMethod hms (mutator_mem_of_mem_observedOf ha)
      (mutator_mem_of_mem_observedOf hb)
  · have hsame : Generation.groups (fun m n => declaredAlike m.method n.method) found.mutators
        = Generation.groups sameMethod found.mutators :=
      Generation.groups_congr fun m hm n hn => declaredAlike_eq_sameMethod hms hm hn
    show (Generation.groups _ (p.observed.map (·.mutator))).flatMap observedGroup = p.observed
    rw [hmutators, hsame]
    rfl

/-- A type with a method of two subjects, a final one between two that are observed, and getters
of one name. -/
def switchboard : Element :=
  { switchElement with
    package := "com.example"
    annotations :=
      [("observable", [("method_prefixes", .list [.text "set", .text "setUp"]),
        ("prefix_match", .text "all")])] }

def switchboardMutators : List Mutator :=
  let mode : Parameter :=
    { type := "int", name := "mode", annotations := [.text "@control.Watched"] }
  let on : Parameter := { type := "boolean", name := "on" }
  let setUpMode : Method := { name := .text "setUpMode", parameters := [mode] }
  [ { method := setUpMode, verb := "set", subject := "UpMode", parameter := mode,
      accessor := { name := .text "getUpMode", returnType := "int" } },
    { method := setUpMode, verb := "setUp", subject := "Mode", parameter := mode,
      accessor := { name := .text "getMode", returnType := "long" } },
    { method := { name := .text "setOn", parameters := [on] }, verb := "set", subject := "On",
      parameter := on, accessor := { name := .text "isOn", returnType := "boolean" } } ]

def switchboardPlan : Plan :=
  .of switchboard { verbs := ["set", "setUp"], policy := .all } []
    { mutators := switchboardMutators
      warnings :=
        [ severalVerbs "com.example.Switch" "setUpMode" .all
            [("set", "UpMode"), ("setUp", "Mode")],
          otherType "com.example.Switch" { name := .text "getMode", returnType := "long" }
            "setUpMode" "int",
          "com.example.Switch.setClosed cannot be overridden and is not observed" ] }

theorem plan_switchboard : Observable.plan {} switchboard = .ok switchboardPlan := by
  refine plan_eq_ok.mpr
    ⟨{ verbs := ["set", "setUp"], policy := .all }, _, _, rfl, ?_, rfl, rfl, rfl⟩
  show Settings.ofValues [("method_prefixes", _), ("prefix_match", _)] _ = _
  rw [Settings.ofValues, Config.checkOptions_eq_ok.mpr (by decide)]
  rfl

theorem switchboardPlan_wraps_once : Observable.plan {} switchboard = .ok switchboardPlan
    ∧ switchboardPlan.wrapped.map (fun w => (w.1 :: w.2).map Observed.subject)
      = [["UpMode", "Mode"], ["On"]]
    ∧ ∃ methods, List.Forall₂ (IsMethodOf (.text "com.companion.annotations"))
        (switchboard.membersOf .method) methods
      ∧ WrapsOnce switchboardPlan methods :=
  ⟨plan_switchboard, rfl, plan_wraps_once plan_switchboard⟩

end Observable
end JavaCompanion
