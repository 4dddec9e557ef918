/-
Names of an observable class.

The subjects of an observable class are pairwise different.  As no subject begins in lower case,
the names derived from them with a capital letter are as well, and so are those derived with a
small one.  A call of a method that tells listeners can therefore mean one of these methods only
(`eq_of_fireName_eq`), and no two listeners, fields or methods of the class get one name; inside a
wrapper, the local names differ from each other and from its parameter (`plan_names_apart`).
-/
import JavaCompanion.Observable.Source
import JavaCompanion.Proofs.Config.Settings
import JavaCompanion.Proofs.Java.Identifier
import JavaCompanion.Proofs.Observable.Wrapped

namespace JavaCompanion
namespace Observable

open Descriptor Extraction Java

variable {methods : List Method} {verbs : List String} {policy : Policy} {ms : List Mutator}

/-! ## Subjects -/

/-- A subject of a method that is named by an identifier. -/
structure IsPlainSubject (s : String) : Prop where
  isSubject : isSubject s = true
  ascii : ∀ c ∈ s.toList, c.toNat < 128

theorem isPlainSubject_subject {m : Mutator}
    (hnames : ∀ m ∈ methods, ∃ s, m.name = .text s ∧ isIdentifier s = true)
    (hm : IsMutatorOf methods verbs m) : IsPlainSubject m.subject := by
  obtain ⟨name, hname, hsplit⟩ := hm.named
  obtain ⟨s, hs, hidentifier⟩ := hnames m.method hm.method_mem
  rw [hs] at hname
  cases hname
  obtain ⟨-, hsubject, hcut⟩ := mem_splits hsplit
  refine ⟨hsubject, fun c hc => ascii_of_isIdentifier hidentifier c ?_⟩
  rw [hcut]
  exact List.mem_append_right _ hc

theorem IsPlainSubject.capitalize_eq {s : String} (h : IsPlainSubject s) : capitalize s = s :=
  capitalize_of_isSubject h.isSubject h.ascii

theorem subjects_nodup {p : Plan} (hms : AreMutatorsOf methods verbs policy ms)
    (hp : p.observed = observedOf ms) : (p.observed.map Observed.subject).Nodup := by
  have hmap : p.observed.map Observed.subject = ms.map (·.subject) := by
    rw [← map_mutator_observedOf ms, ← hp, List.map_map]
    rfl
  rw [hmap]
  exact hms.subjects_nodup

/-- Names by which subjects can be told apart are different for all observed mutators. -/
theorem names_nodup_of_injective {p : Plan} (hms : AreMutatorsOf methods verbs policy ms)
    (hnames : ∀ m ∈ methods, ∃ s, m.name = .text s ∧ isIdentifier s = true)
    (hp : p.observed = observedOf ms) {name : String → String}
    (hname : ∀ s t, IsPlainSubject s → IsPlainSubject t → name s = name t → s = t) :
    (p.observed.map fun o => name o.subject).Nodup := by
  have hplain : ∀ s ∈ p.observed.map Observed.subject, IsPlainSubject s := by
    intro s hs
    obtain ⟨o, ho, rfl⟩ := List.mem_map.mp hs
    rw [hp] at ho
    exact isPlainSubject_subject hnames (hms.each _ (mutator_mem_of_mem_observedOf ho))
  have hnodup := (subjects_nodup hms hp).map_on fun s hs t ht h =>
    hname s t (hplain s hs) (hplain t ht) h
  rw [List.map_map] at hnodup
  exact hnodup

/-! ## Names with a capital letter -/

/-- What the methods for a subject do with its listeners. -/
def listenerActions : List String := ["add", "remove", "fire"]

/-- The name of a method that does something with the listeners of a subject. -/
def managementName (action subject : String) : String := action ++ capitalize subject ++ "Listener"

theorem capitalize_eq_of_managementName_eq {action s t : String}
    (h : managementName action s = managementName action t) : capitalize s = capitalize t := by
  have hlist := congrArg String.toList h
  simp only [managementName, String.toList_append] at hlist
  exact String.toList_inj.mp (List.append_cancel_left (List.append_cancel_right hlist))

/-- The actions begin with different letters, and so do the names of their methods. -/
theorem action_eq_of_managementName_eq {action action' s t : String} (ha : action ∈ listenerActions)
    (ha' : action' ∈ listenerActions) (h : managementName action s = managementName action' t) :
    action = action' := by
  have hsome : ∀ a ∈ listenerActions, a.toList ≠ [] := by decide
  have hletter : ∀ a ∈ listenerActions, ∀ b ∈ listenerActions,
      a.toList.head? = b.toList.head? → a = b := by decide
  have hhead := congrArg (fun name => name.toList.head?) h
  simp only [managementName, String.toList_append, List.append_assoc] at hhead
  rw [List.head?_append_of_ne_nil _ (hsome action ha),
    List.head?_append_of_ne_nil _ (hsome action' ha')] at hhead
  exact hletter action ha action' ha' hhead

theorem capitalize_eq_of_listenerType_eq {s t : String} (h : listenerType s = listenerType t) :
    capitalize s = capitalize t := by
  have hlist := congrArg String.toList h
  simp only [listenerType, String.toList_append] at hlist
  exact String.toList_inj.mp (List.append_cancel_right hlist)

theorem IsPlainSubject.eq_of_capitalize_eq {s t : String} (hs : IsPlainSubject s)
    (ht : IsPlainSubject t) (h : capitalize s = capitalize t) : s = t := by
  rwa [hs.capitalize_eq, ht.capitalize_eq] at h

/-- No two observed mutators have their listeners told by methods of one name. -/
theorem eq_of_fireName_eq {p : Plan} (hms : AreMutatorsOf methods verbs policy ms)
    (hnames : ∀ m ∈ methods, ∃ s, m.name = .text s ∧ isIdentifier s = true)
    (hp : p.observed = observedOf ms) {o o' : Observed} (ho : o ∈ p.observed)
    (ho' : o' ∈ p.observed) (h : o.fireName = o'.fireName) : o = o' :=
  List.inj_on_of_nodup_map
    (names_nodup_of_injective hms hnames hp fun _ _ hs ht hfire =>
      hs.eq_of_capitalize_eq ht (capitalize_eq_of_managementName_eq hfire)) ho ho' h

/-! ## Names with a small letter -/

theorem eq_of_decapitalize_append_eq {behind s t : String} (hs : IsPlainSubject s)
    (ht : IsPlainSubject t) (h : decapitalize s ++ behind = decapitalize t ++ behind) : s = t := by
  have hlist := congrArg String.toList h
  rw [String.toList_append, String.toList_append] at hlist
  exact eq_of_decapitalize_eq hs.isSubject ht.isSubject hs.ascii ht.ascii
    (String.toList_inj.mp (List.append_cancel_right hlist))

/-! ## Methods that are declared -/

/-- The names of the methods that operations declare. -/
def declaredMethods (ops : List Emitter.Operation) : List String :=
  ops.filterMap fun
    | .methodStart _ name _ => some name
    | _ => none

theorem declaredMethods_listenerOperations (oldValue : Bool) (o : Observed) :
    declaredMethods (listenerOperations oldValue o)
      = listenerActions.map fun action => managementName action o.subject := by
  cases oldValue <;> rfl

/-- All methods that manage and tell the listeners have different names. -/
theorem declaredMethods_nodup {p : Plan} (hms : AreMutatorsOf methods verbs policy ms)
    (hnames : ∀ m ∈ methods, ∃ s, m.name = .text s ∧ isIdentifier s = true)
    (hp : p.observed = observedOf ms) (oldValue : Bool) :
    (declaredMethods (p.observed.flatMap (listenerOperations oldValue))).Nodup := by
  have hdeclared : declaredMethods (p.observed.flatMap (listenerOperations oldValue))
      = p.observed.flatMap fun o => listenerActions.map fun action =>
        managementName action o.subject := by
    rw [declaredMethods, List.filterMap_flatMap]
    exact List.flatMap_congr fun o _ => declaredMethods_listenerOperations oldValue o
  rw [hdeclared, List.nodup_flatMap]
  refine ⟨fun o _ => ?_, ?_⟩
  · exact List.Nodup.map_on (fun a ha b hb => action_eq_of_managementName_eq ha hb) (by decide)
  · have hcapitals : p.observed.Pairwise fun o o' => capitalize o.subject ≠ capitalize o'.subject :=
      List.pairwise_map.mp (names_nodup_of_injective hms hnames hp
        fun _ _ => IsPlainSubject.eq_of_capitalize_eq)
    refine hcapitals.imp fun {o o'} hne name hname hname' => ?_
    obtain ⟨a, ha, rfl⟩ := List.mem_map.mp hname
    obtain ⟨b, hb, hsame⟩ := List.mem_map.mp hname'
    rw [action_eq_of_managementName_eq hb ha hsame] at hsame
    exact hne (capitalize_eq_of_managementName_eq hsame).symm

/-! ## Plans -/

/-- The names of a plan that must not meet. -/
structure NamesApart (p : Plan) : Prop where
  wrappers : ∀ w ∈ p.wrapped, ∃ x, w.1.mutator.method.parameters = [x]
    ∧ (x.name :: (w.1 :: w.2).flatMap Observed.locals).Nodup
    ∧ ∀ n ∈ x.name :: (w.1 :: w.2).flatMap Observed.locals, n ∉ reservedWords
  listenerTypes : (p.observed.map (·.listenerType)).Nodup
  fieldNames : (p.observed.map (·.fieldName)).Nodup
  callbackNames : (p.observed.map (·.callbackName)).Nodup
  fireNames : (p.observed.map (·.fireName)).Nodup
  addNames : (p.observed.map fun o => managementName "add" o.subject).Nodup
  removeNames : (p.observed.map fun o => managementName "remove" o.subject).Nodup
  declared : (declaredMethods
    (p.observed.flatMap (listenerOperations p.settings.oldValue))).Nodup

/-- Inside each wrapper of a plan the parameter and the local names differ, and none of them is a
word of the language.  In the class as a whole no two kinds of listeners, lists of listeners,
callbacks or methods for listeners have one name. -/
theorem plan_names_apart {config : Config} {e : Element} {p : Plan}
    (h : Observable.plan config e = .ok p) : NamesApart p := by
  obtain ⟨settings, cs, found, hvalid, -, -, hfound, rfl⟩ := plan_eq_ok.mp h
  obtain ⟨methods, hmethods, hms⟩ := mutators_spec hfound
  have hnames := isIdentifier_of_methods hvalid hmethods
  have hmanagement : ∀ action, ((Plan.of e settings cs found).observed.map
      fun o => managementName action o.subject).Nodup := fun action =>
    names_nodup_of_injective hms hnames rfl fun _ _ hs ht hname =>
      hs.eq_of_capitalize_eq ht (capitalize_eq_of_managementName_eq hname)
  exact {
    wrappers := fun w hw => by
      obtain ⟨x, hx, hparameter, hlocals⟩ := wrapper_locals hms rfl hw
      obtain ⟨g, -, hgroup⟩ := mem_wrapped rfl hw
      have hmutator : w.1.mutator ∈ found.mutators :=
        mutator_mem_of_mem_observedOf (Generation.mem_of_mem_groups hw List.mem_cons_self)
      have hidentifier : isIdentifier x.name = true :=
        isIdentifier_of_parameters hvalid hmethods _ (hms.each _ hmutator).method_mem x
          (by rw [hx]; exact List.mem_singleton_self x)
      refine ⟨x, hx, List.nodup_cons.mpr ⟨hparameter, hlocals⟩, List.forall_mem_cons.mpr
        ⟨not_reserved_of_isIdentifier hidentifier, fun n hn => ?_⟩⟩
      rw [hgroup] at hn
      exact not_reserved_of_mem_locals hn
    listenerTypes := names_nodup_of_injective hms hnames rfl fun _ _ hs ht hname =>
      hs.eq_of_capitalize_eq ht (capitalize_eq_of_listenerType_eq hname)
    fieldNames := names_nodup_of_injective hms hnames rfl fun _ _ =>
      eq_of_decapitalize_append_eq
    callbackNames := names_nodup_of_injective hms hnames rfl fun _ _ =>
      eq_of_decapitalize_append_eq
    fireNames := hmanagement "fire"
    addNames := hmanagement "add"
    removeNames := hmanagement "remove"
    declared := declaredMethods_nodup hms hnames rfl _ }

/-- A type with subjects that differ in their case only, or in what a verb leaves of a name, and a
parameter that is named as a local name would be. -/
def website : Element where
  simpleName := "Website"
  annotations :=
    [("observable", [("method_prefixes", .list [.text "set", .text "setU"]),
      ("prefix_match", .text "all")])]
  members :=
    [ { kind := .method, name := .text "getURL", returnType := "String" },
      { kind := .method, name := .text "getRL", returnType := "String" },
      { kind := .method, name := .text "getUrl", returnType := "String" },
      { kind := .method, name := .text "setURL", parameters := [⟨"String", "newValue", []⟩] },
      { kind := .method, name := .text "setUrl", parameters := [⟨"String", "url", []⟩] } ]

def websiteMutators : List Mutator :=
  let value : Parameter := { type := "String", name := "newValue" }
  let url : Parameter := { type := "String", name := "url" }
  let setURL : Method := { name := .text "setURL", parameters := [value] }
  [ { method := setURL, verb := "set", subject := "URL", parameter := value,
      accessor := { name := .text "getURL", returnType := "String" } },
    { method := setURL, verb := "setU", subject := "RL", parameter := value,
      accessor := { name := .text "getRL", returnType := "String" } },
    { method := { name := .text "setUrl", parameters := [url] }, verb := "set", subject := "Url",
      parameter := url, accessor := { name := .text "getUrl", returnType := "String" } } ]

def websitePlan : Plan :=
  .of website { verbs := ["set", "setU"], policy := .all } []
    { mutators := websiteMutators
      warnings := [severalVerbs "Website" "setURL" .all [("set", "URL"), ("setU", "RL")]] }

theorem plan_website : Observable.plan {} website = .ok websitePlan := by
  refine plan_eq_ok.mpr ⟨{ verbs := ["set", "setU"], policy := .all }, _, _, rfl, ?_, rfl, rfl, rfl⟩
  show Settings.ofValues [("method_prefixes", _), ("prefix_match", _)] _ = _
  rw [Settings.ofValues, Config.checkOptions_eq_ok.mpr (by decide)]
  rfl

theorem websitePlan_names_apart : Observable.plan {} website = .ok websitePlan
    ∧ websitePlan.observed.map (·.fieldName) = ["URLListeners", "RLListeners", "urlListeners"]
    ∧ websitePlan.wrapped.map (fun w => (w.1 :: w.2).flatMap Observed.locals)
      = [["oldValue", "newValue_1", "result", "oldValue_1", "newValue_2", "result_1"],
        ["oldValue", "newValue", "result"]]
    ∧ NamesApart websitePlan :=
  ⟨plan_website, rfl, rfl, plan_names_apart plan_website⟩

end Observable
end JavaCompanion
