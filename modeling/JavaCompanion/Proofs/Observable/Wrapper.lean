/-
What wrappers do.

A wrapper, read back from its operations, is a straight-line program.  Run in any state over
any superclass, it calls the overridden method once with its parameter, keeps the state and
the result of that call, and tells every subject of the method the values before and after
it.  This rests on the local names being different from each other and from the parameter.
What is told fits the method that tells the listeners, and what that method passes on fits
the interface of the listeners (`plan_wrappers_refine`).
-/
import JavaCompanion.Proofs.Config.Settings
import JavaCompanion.Proofs.Observable.Execution
import JavaCompanion.Proofs.Observable.Names
import Mathlib.Data.List.Perm.Basic

namespace JavaCompanion
namespace Observable

open Descriptor Execution Extraction Java

variable {σ V : Type}

/-! ## Names of a wrapper -/

/-- The names of a group, sorted by what they stand for. -/
theorem sorted_locals_nodup {group : List Observed} (h : (group.flatMap Observed.locals).Nodup) :
    (group.map Observed.oldValueName ++ (group.map Observed.newValueName
      ++ group.map Observed.resultName)).Nodup := by
  have hperm : (group.map Observed.oldValueName ++ (group.map Observed.newValueName
      ++ group.map Observed.resultName)).Perm (group.flatMap Observed.locals) := by
    simp only [List.map_eq_flatMap]
    refine (List.Perm.append_left _ (List.flatMap_append_perm group _ _)).trans ?_
    exact List.flatMap_append_perm group _ _
  exact hperm.nodup_iff.mpr h

/-- The parameter of a wrapper and all names that its body can declare, in the order in which
they are declared. -/
def wrapperNames (x : Parameter) (resultName : String) (group : List Observed) : List String :=
  x.name :: (group.map Observed.oldValueName
    ++ (resultName :: group.map Observed.newValueName))

theorem wrapperNames_nodup {x : Parameter} {first : Observed} {others : List Observed}
    (hx : x.name ∉ (first :: others).flatMap Observed.locals)
    (h : ((first :: others).flatMap Observed.locals).Nodup) :
    (wrapperNames x first.resultName (first :: others)).Nodup := by
  let group := first :: others
  have hsub : (group.map Observed.oldValueName ++ (group.map Observed.newValueName
      ++ [first.resultName])).Sublist (group.map Observed.oldValueName
        ++ (group.map Observed.newValueName ++ group.map Observed.resultName)) :=
    ((List.nil_sublist _).cons_cons first.resultName |>.append_left _).append_left _
  have hperm : (group.map Observed.oldValueName ++ (first.resultName
      :: group.map Observed.newValueName)).Perm (group.map Observed.oldValueName
        ++ (group.map Observed.newValueName ++ [first.resultName])) :=
    (List.perm_append_singleton _ _).symm.append_left _
  have hlocals : ∀ n ∈ group.map Observed.oldValueName ++ (first.resultName
      :: group.map Observed.newValueName), n ∈ group.flatMap Observed.locals := by
    intro n hn
    rcases List.mem_append.mp hn with hold | hn
    · obtain ⟨o, ho, rfl⟩ := List.mem_map.mp hold
      exact List.mem_flatMap.mpr ⟨o, ho, by simp [Observed.locals]⟩
    · rcases List.mem_cons.mp hn with rfl | hnew
      · exact List.mem_flatMap.mpr ⟨first, List.mem_cons_self, by simp [Observed.locals]⟩
      · obtain ⟨o, ho, rfl⟩ := List.mem_map.mp hnew
        exact List.mem_flatMap.mpr ⟨o, ho, by simp [Observed.locals]⟩
  exact List.nodup_cons.mpr ⟨fun hmem => hx (hlocals _ hmem),
    hperm.nodup_iff.mpr ((sorted_locals_nodup h).sublist hsub)⟩

/-! ## Runs of a wrapper -/

/-- The values, with their types, that the listeners of a subject are told when a state
follows another. -/
def told (c : Superclass σ V) (oldValue : Bool) (before after : σ) (o : Observed) :
    List (String × V) :=
  (if oldValue then [(o.valueType, c.get o.accessorName before)] else [])
    ++ [(o.valueType, c.get o.accessorName after)]

section Run

variable (c : Superclass σ V) (oldValue : Bool) (m : Method) (x : Parameter) (resultName : String)
  (group : List Observed) (s : σ) (value : V)

/-- What the overridden method makes of the argument. -/
def given : σ × V := c.call m.name.display [value] s

def parameterLocal : Local V := { type := x.type, name := x.name, value }

def oldLocals : List (Local V) :=
  if oldValue then group.map fun o => localOf c s o o.oldValueName else []

def resultLocals : List (Local V) :=
  if m.isVoid then []
  else [{ type := m.returnType, name := resultName, value := (given c m s value).2 }]

def newLocals : List (Local V) :=
  group.map fun o => localOf c (given c m s value).1 o o.newValueName

/-- Everything that is declared when the news are told. -/
def fullScope : List (Local V) :=
  parameterLocal x value :: (oldLocals c oldValue group s
    ++ (resultLocals c m resultName s value ++ newLocals c m group s value))

/-- The wrapper when it has been entered, -/
def entered : Execution σ V := { scope := [parameterLocal x value], state := s }

/-- before it calls the overridden method, -/
def beforeCall : Execution σ V :=
  { scope := parameterLocal x value :: oldLocals c oldValue group s, state := s }

/-- after that call, -/
def afterCall : Execution σ V where
  scope := parameterLocal x value :: (oldLocals c oldValue group s
    ++ resultLocals c m resultName s value)
  state := (given c m s value).1
  events := [.superCall m.name.display [value]]

/-- when the new values have been read, -/
def beforeNews : Execution σ V :=
  { afterCall c oldValue m x resultName group s value with
    scope := fullScope c oldValue m x resultName group s value }

/-- and when every subject has been told. -/
def afterNews : Execution σ V :=
  { beforeNews c oldValue m x resultName group s value with
    events := .superCall m.name.display [value] :: group.map fun o =>
      Event.call o.fireName (told c oldValue s (given c m s value).1 o) }

variable {c oldValue m x resultName group s value}

theorem fullScope_names_sublist :
    ((fullScope c oldValue m x resultName group s value).map (·.name)).Sublist
      (wrapperNames x resultName group) := by
  have holds : ((oldLocals c oldValue group s).map (·.name)).Sublist
      (group.map Observed.oldValueName) := by
    unfold oldLocals
    split
    · simp [localOf, Function.comp_def]
    · exact List.nil_sublist _
  have hresult : ((resultLocals c m resultName s value).map (·.name)).Sublist [resultName] := by
    unfold resultLocals
    split
    · exact List.nil_sublist _
    · exact List.Sublist.refl _
  have hnews : (newLocals c m group s value).map (·.name) = group.map Observed.newValueName := by
    simp [newLocals, localOf, Function.comp_def]
  rw [fullScope, List.map_cons, List.map_append, List.map_append, hnews]
  exact (holds.append (hresult.append (List.Sublist.refl _))).cons_cons x.name

theorem fullScope_nodup (hnames : (wrapperNames x resultName group).Nodup) :
    ((fullScope c oldValue m x resultName group s value).map (·.name)).Nodup :=
  hnames.sublist fullScope_names_sublist

theorem run_olds (hnames : (wrapperNames x resultName group).Nodup) :
    run c (if oldValue then group.map fun o => readStatement o o.oldValueName else [])
      (entered x s value) = some (beforeCall c oldValue x group s value) := by
  cases oldValue with
  | false => rfl
  | true =>
    refine run_reads (e := entered x s value) Observed.oldValueName rfl ?_
    exact hnames.sublist ((List.sublist_append_left _ _).cons_cons x.name)

/-- The variable for the result is declared once, after the parameter and the old values. -/
theorem resultVariable_fresh (hnames : (wrapperNames x resultName group).Nodup) {d : Declared}
    (hd : resultVariable m resultName = some d) :
    d.name ∉ (beforeCall c oldValue x group s value).scope.map (·.name) := by
  intro hmem
  have hfull : (((beforeCall c oldValue x group s value).scope
      ++ (resultLocals c m resultName s value ++ newLocals c m group s value)).map
        (·.name)).Nodup := fullScope_nodup hnames
  unfold resultVariable at hd
  split at hd
  · exact nomatch hd
  · next hvoid =>
    cases hd
    rw [List.map_append, List.nodup_append] at hfull
    refine hfull.2.2 resultName hmem resultName ?_ rfl
    simp [resultLocals, hvoid]

theorem run_overridden (hnames : (wrapperNames x resultName group).Nodup) :
    run c [.callSuper (resultVariable m resultName) m.name.display [x.name]]
      (beforeCall c oldValue x group s value)
        = some (afterCall c oldValue m x resultName group s value) := by
  have hargument : (beforeCall c oldValue x group s value).lookup x.name
      = some (parameterLocal x value) := by
    simp [beforeCall, Execution.lookup, parameterLocal]
  refine (run_superCall (parameterLocal x value) rfl hargument
    fun d hd => resultVariable_fresh hnames hd).trans ?_
  unfold resultVariable
  cases hvoid : m.isVoid <;>
    simp [beforeCall, afterCall, resultLocals, hvoid, given, parameterLocal]

theorem run_news (hnames : (wrapperNames x resultName group).Nodup) :
    run c (group.map fun o => readStatement o o.newValueName)
      (afterCall c oldValue m x resultName group s value)
        = some (beforeNews c oldValue m x resultName group s value) := by
  have hfull : fullScope c oldValue m x resultName group s value
      = (afterCall c oldValue m x resultName group s value).scope
        ++ newLocals c m group s value := by
    simp [fullScope, afterCall, List.append_assoc]
  have hnew : (newLocals c m group s value).map (·.name) = group.map Observed.newValueName := by
    simp [newLocals, localOf, Function.comp_def]
  have hnodup : ((fullScope c oldValue m x resultName group s value).map (·.name)).Nodup :=
    fullScope_nodup hnames
  rw [hfull, List.map_append, hnew] at hnodup
  refine (run_reads Observed.newValueName rfl hnodup).trans ?_
  rw [beforeNews, hfull]
  rfl

/-- The arguments of a call of a wrapper as they are declared. -/
def passedLocals (c : Superclass σ V) (oldValue : Bool) (before after : σ) (o : Observed) :
    List (Local V) :=
  (if oldValue then [localOf c before o o.oldValueName] else [])
    ++ [localOf c after o o.newValueName]

theorem typed_passedLocals (before after : σ) (o : Observed) :
    (passedLocals c oldValue before after o).map Local.typed
      = told c oldValue before after o := by
  unfold passedLocals told
  cases oldValue <;> rfl

/-- The names in a call of a wrapper mean the values that were read for its subject. -/
theorem mapM_lookup_toldNames {e : Execution σ V} {o : Observed}
    (hscope : e.scope = fullScope c oldValue m x resultName group s value)
    (hnodup : (e.scope.map (·.name)).Nodup) (ho : o ∈ group) :
    (toldNames oldValue o.oldValueName o.newValueName).mapM e.lookup
      = some (passedLocals c oldValue s (given c m s value).1 o) := by
  have hnew : e.lookup o.newValueName
      = some (localOf c (given c m s value).1 o o.newValueName) := by
    refine lookup_of_mem hnodup (l := localOf c (given c m s value).1 o o.newValueName) ?_
    rw [hscope]
    exact List.mem_cons_of_mem _ (List.mem_append_right _ (List.mem_append_right _
      (List.mem_map.mpr ⟨o, ho, rfl⟩)))
  cases oldValue with
  | false => simp [toldNames, passedLocals, hnew]
  | true =>
    have hold : e.lookup o.oldValueName = some (localOf c s o o.oldValueName) := by
      refine lookup_of_mem hnodup (l := localOf c s o o.oldValueName) ?_
      rw [hscope]
      exact List.mem_cons_of_mem _ (List.mem_append_left _ (List.mem_map.mpr ⟨o, ho, rfl⟩))
    simp [toldNames, passedLocals, hnew, hold]

theorem run_fires (hnames : (wrapperNames x resultName group).Nodup) :
    run c (group.map fun o =>
      .call o.fireName (toldNames oldValue o.oldValueName o.newValueName))
        (beforeNews c oldValue m x resultName group s value)
          = some (afterNews c oldValue m x resultName group s value) := by
  refine (run_calls rfl fun o ho =>
    mapM_lookup_toldNames rfl (fullScope_nodup hnames) ho).trans ?_
  simp only [typed_passedLocals]
  rfl

theorem run_return (hnames : (wrapperNames x resultName group).Nodup) :
    run c (if m.isVoid then [] else [.giveBack resultName])
      (afterNews c oldValue m x resultName group s value)
        = some { afterNews c oldValue m x resultName group s value with
            returned := if m.isVoid then none
              else some (m.returnType, (given c m s value).2) } := by
  cases hvoid : m.isVoid with
  | true => rfl
  | false =>
    let result : Local V :=
      { type := m.returnType, name := resultName, value := (given c m s value).2 }
    have hresult : (afterNews c oldValue m x resultName group s value).lookup resultName
        = some result := by
      refine lookup_of_mem (fullScope_nodup hnames) (l := result) ?_
      refine List.mem_cons_of_mem _ (List.mem_append_right _ (List.mem_append_left _ ?_))
      simp [resultLocals, hvoid, result]
    show run c [.giveBack resultName] _ = _
    rw [run_singleton, execute_of_running rfl, perform, hresult]
    rfl

theorem run_wrapperBody (hnames : (wrapperNames x resultName group).Nodup) :
    run c (wrapperBody oldValue m x resultName group) (entered x s value)
      = some { afterNews c oldValue m x resultName group s value with
          returned := if m.isVoid then none
            else some (m.returnType, (given c m s value).2) } :=
  run_append (run_append (run_append (run_append (run_olds hnames) (run_overridden hnames))
    (run_news hnames)) (run_fires hnames)) (run_return hnames)

end Run

/-! ## What a wrapper, the method that tells the listeners and their interface owe each other -/

/-- A wrapper of the first mutator's method, with the parameter `x`. -/
structure Refines (oldValue : Bool) (first : Observed) (others : List Observed) (x : Parameter)
    (wrapper : MethodText) : Prop where
  name_eq : wrapper.name = first.mutator.method.name.display
  returnType_eq : wrapper.returnType = first.mutator.method.returnType
  parameters_eq : wrapper.parameters = [⟨x.type, x.name⟩]
  runs : ∀ {σ V : Type} (c : Superclass σ V) (s : σ) (value : V), ∃ last,
    run c wrapper.body (enter wrapper [value] s) = some last
      ∧ last.state = (c.call wrapper.name [value] s).1
      ∧ last.returned = (if first.mutator.method.isVoid then none
          else some (wrapper.returnType, (c.call wrapper.name [value] s).2))
      ∧ last.events = .superCall wrapper.name [value] :: (first :: others).map fun o =>
          Event.call o.fireName (told c oldValue s last.state o)

/-- The types of the variables of these names. -/
def typesIn (scope : List Declared) (names : List String) : Option (List String) :=
  names.mapM fun name => (scope.find? (·.name == name)).map (·.type)

/-- The method that tells the listeners of a subject: it takes what a wrapper passes, and
passes its parameters on, in their order, to the callback of each listener. -/
structure Relays (oldValue : Bool) (o : Observed) (fire callback : MethodText) : Prop where
  name_eq : fire.name = o.fireName
  accepts : ∀ {σ V : Type} (c : Superclass σ V) (before after : σ),
    (told c oldValue before after o).map Prod.fst = fire.parameters.map (·.type)
  owner_eq : callback.owner = some o.listenerType
  callback_eq : callback.name = o.callbackName
  body_eq : fire.body =
    [ .forEach ⟨o.listenerType, "listener"⟩ o.fieldName,
      .call ("listener." ++ o.callbackName) (fire.parameters.map (·.name)), .endEach ]
  fits : typesIn (⟨o.listenerType, "listener"⟩ :: fire.parameters) (fire.parameters.map (·.name))
    = some (callback.parameters.map (·.type))

theorem refines_wrapperText {oldValue : Bool} {first : Observed} {others : List Observed}
    {x : Parameter} (hnames : (wrapperNames x first.resultName (first :: others)).Nodup) :
    Refines oldValue first others x (wrapperText oldValue first others x) where
  name_eq := rfl
  returnType_eq := rfl
  parameters_eq := rfl
  runs _ _ _ := ⟨_, run_wrapperBody hnames, rfl, rfl, rfl⟩

theorem relays_fireText (oldValue : Bool) (o : Observed) :
    Relays oldValue o (fireText oldValue o) (callbackText oldValue o) where
  name_eq := rfl
  accepts _ _ _ := by cases oldValue <;> rfl
  owner_eq := rfl
  callback_eq := rfl
  body_eq := by cases oldValue <;> rfl
  fits := by cases oldValue <;> rfl

/-! ## Plans -/

/-- A group of a plan: mutators of one method, whose wrapper has names of its own. -/
theorem wrapped_spec {p : Plan} {methods : List Method} {verbs : List String} {policy : Policy}
    {ms : List Mutator} (hms : AreMutatorsOf methods verbs policy ms)
    (hp : p.observed = observedOf ms) {w : Observed × List Observed} (hw : w ∈ p.wrapped) :
    (∀ o ∈ w.1 :: w.2, o ∈ p.observed ∧ o.mutator.method = w.1.mutator.method)
      ∧ ∃ x, w.1.mutator.method.parameters = [x]
        ∧ (wrapperNames x w.1.resultName (w.1 :: w.2)).Nodup := by
  obtain ⟨g, hg, hgroup⟩ := mem_wrapped hp hw
  have hmutators := mutators_of_observedGroup hgroup
  have hfirst : w.1.mutator = g.1 := List.head_eq_of_cons_eq hmutators
  have hmethod : ∀ m ∈ g.2, g.1.method = m.method :=
    Generation.related_of_mem_groups (R := fun m n => m.method = n.method)
      (fun _ _ _ => Eq.trans) (fun m hm n hn => method_eq_of_sameMethod hms hm hn) hg
  refine ⟨fun o ho => ⟨Generation.mem_of_mem_groups hw ho, ?_⟩, ?_⟩
  · have hmutator : o.mutator ∈ g.1 :: g.2 := by
      rw [← hmutators]
      exact List.mem_map.mpr ⟨o, ho, rfl⟩
    rw [hfirst]
    rcases List.mem_cons.mp hmutator with heq | hrest
    · rw [heq]
    · exact (hmethod _ hrest).symm
  · obtain ⟨x, hx, hparameter, hlocals⟩ := wrapper_locals hms hp hw
    exact ⟨x, hx, wrapperNames_nodup hparameter hlocals⟩

/-- What holds of a wrapped method of a plan: its group are observed mutators of it, its
wrapper refines it and tells their subjects, and each subject has one method that relays what
it is told to the listeners. -/
structure Notifies (p : Plan) (w : Observed × List Observed) : Prop where
  group : ∀ o ∈ w.1 :: w.2, o ∈ p.observed ∧ o.mutator.method = w.1.mutator.method
  wrapper : ∃ x wrapper, w.1.mutator.method.parameters = [x]
    ∧ read (wrapperOperations p.settings.oldValue w.1 w.2) = some wrapper
    ∧ Refines p.settings.oldValue w.1 w.2 x wrapper
  relays : ∀ o ∈ w.1 :: w.2, (∀ o' ∈ p.observed, o'.fireName = o.fireName → o' = o)
    ∧ ∃ fire callback, read (fireOperations p.settings.oldValue o) = some fire
      ∧ read (interfaceOperations p o) = some callback
      ∧ Relays p.settings.oldValue o fire callback

/-- Every wrapper of a plan does what the overridden method does, and tells every subject. -/
theorem plan_wrappers_refine {config : Config} {e : Element} {p : Plan}
    (h : Observable.plan config e = .ok p) : ∀ w ∈ p.wrapped, Notifies p w := by
  obtain ⟨settings, cs, found, hvalid, -, -, hfound, rfl⟩ := plan_eq_ok.mp h
  obtain ⟨methods, hmethods, hms⟩ := mutators_spec hfound
  have hnames := isIdentifier_of_methods hvalid hmethods
  intro w hw
  obtain ⟨hgroup, x, hx, hlocals⟩ := wrapped_spec hms rfl hw
  refine ⟨hgroup, ⟨x, _, hx, read_wrapperOperations hx, refines_wrapperText hlocals⟩, ?_⟩
  intro o ho
  refine ⟨fun o' ho' hfire => eq_of_fireName_eq hms hnames rfl ho' (hgroup o ho).1 hfire, ?_⟩
  exact ⟨_, _, read_fireOperations _ o, read_interfaceOperations _ o, relays_fireText _ o⟩

/-- A type with a method that has two subjects, gives a result, and has a parameter of a name
that its wrapper would use. -/
def profile : Element where
  simpleName := "Profile"
  package := "com.example"
  annotations :=
    [("observable", [("method_prefixes", .list [.text "set", .text "setX"]),
      ("prefix_match", .text "all")])]
  members :=
    [ { kind := .method, name := .text "getName", returnType := "String" },
      { kind := .method, name := .text "getXName", returnType := "String" },
      { kind := .method, name := .text "setXName", returnType := "boolean",
        parameters := [⟨"String", "oldValue", []⟩] } ]

def profileMutators : List Mutator :=
  let parameter : Parameter := { type := "String", name := "oldValue" }
  let method : Method :=
    { name := .text "setXName", returnType := "boolean", parameters := [parameter] }
  [ { method, verb := "set", subject := "XName", parameter,
      accessor := { name := .text "getXName", returnType := "String" } },
    { method, verb := "setX", subject := "Name", parameter,
      accessor := { name := .text "getName", returnType := "String" } } ]

def profilePlan : Plan :=
  .of profile { verbs := ["set", "setX"], policy := .all } []
    { mutators := profileMutators
      warnings := [severalVerbs "com.example.Profile" "setXName" .all
        [("set", "XName"), ("setX", "Name")]] }

theorem plan_profile : Observable.plan {} profile = .ok profilePlan := by
  refine plan_eq_ok.mpr ⟨{ verbs := ["set", "setX"], policy := .all }, _, _, rfl, ?_, rfl, rfl, rfl⟩
  show Settings.ofValues [("method_prefixes", _), ("prefix_match", _)] _ = _
  rw [Settings.ofValues, Config.checkOptions_eq_ok.mpr (by decide)]
  rfl

theorem profilePlan_notifies : Observable.plan {} profile = .ok profilePlan
    ∧ profilePlan.wrapped.length = 1 ∧ ∀ w ∈ profilePlan.wrapped, Notifies profilePlan w :=
  ⟨plan_profile, rfl, plan_wrappers_refine plan_profile⟩

example : profilePlan.wrapped.map (fun w => (read (wrapperOperations true w.1 w.2)).map (·.body)) =
    [some
      [ .read ⟨"String", "oldValue_1"⟩ "getXName", .read ⟨"String", "oldValue_2"⟩ "getName",
        .callSuper (some ⟨"boolean", "result"⟩) "setXName" ["oldValue"],
        .read ⟨"String", "newValue"⟩ "getXName", .read ⟨"String", "newValue_1"⟩ "getName",
        .call "fireXNameListener" ["oldValue_1", "newValue"],
        .call "fireNameListener" ["oldValue_2", "newValue_1"], .giveBack "result" ]] := rfl

end Observable
end JavaCompanion
