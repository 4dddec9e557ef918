/-
The mutators of an element are the ones that its names announce.

The names of the methods and the verbs determine the candidates: each method that is eligible
gives one for each split of its name that counts (`Candidates`).  If extraction succeeds, it has
made one mutator of each candidate, in order.  It refuses the element just when a candidate
cannot become a mutator or two have one subject (`mutators_exact`).
-/
import JavaCompanion.Proofs.Extraction.Mutators
import JavaCompanion.Proofs.Text.Parts

namespace JavaCompanion
namespace Extraction

open Descriptor Java

/-! ## Splits -/

/-- The name is the verb with a subject behind it, which is not empty and does not begin in lower
case. -/
structure Splits (name verb subject : String) : Prop where
  name_eq : name = verb ++ subject
  begins : ∃ c rest, subject.toList = c :: rest ∧ Text.isLower c = false

/-- The splits of a name by those of the verbs that have one, in the order of the verbs. -/
inductive SplitsBy (name : String) : List String → List (String × String) → Prop
  | nil : SplitsBy name [] []
  | here {verb subject : String} {verbs : List String} {all : List (String × String)} :
      Splits name verb subject → SplitsBy name verbs all →
        SplitsBy name (verb :: verbs) ((verb, subject) :: all)
  | skip {verb : String} {verbs : List String} {all : List (String × String)} :
      (∀ subject, ¬ Splits name verb subject) → SplitsBy name verbs all →
        SplitsBy name (verb :: verbs) all

theorem remainder?_eq_some_iff {name start rest : String} :
    remainder? name start = some rest ↔ name = start ++ rest ∧ rest.toList ≠ [] := by
  unfold remainder?
  constructor
  · intro h
    split at h
    · next hprefix =>
      obtain ⟨more, rfl⟩ := Text.isPrefixOf_toList_iff.mp hprefix
      rw [String.toList_append, List.drop_left] at h
      split at h
      · exact nomatch h
      · next hmore =>
        rw [String.ofList_toList] at h
        cases h
        exact ⟨rfl, hmore⟩
    · exact nomatch h
  · rintro ⟨rfl, hrest⟩
    rw [if_pos (Text.isPrefixOf_toList_iff.mpr ⟨rest, rfl⟩), String.toList_append, List.drop_left]
    split
    · next hnil => exact absurd hnil hrest
    · rw [String.ofList_toList]

theorem subject?_eq_some_iff {name verb subject : String} :
    subject? name verb = some subject ↔ Splits name verb subject := by
  rw [subject?, Option.filter_eq_some_iff, remainder?_eq_some_iff]
  constructor
  · rintro ⟨⟨hname, -⟩, hsubject⟩
    unfold isSubject at hsubject
    split at hsubject
    · exact nomatch hsubject
    · next c rest hcs => exact ⟨hname, c, rest, hcs, by simpa using hsubject⟩
  · rintro ⟨hname, c, rest, hcs, hlower⟩
    refine ⟨⟨hname, by rw [hcs]; exact List.cons_ne_nil c rest⟩, ?_⟩
    simp [isSubject, hcs, hlower]

theorem splitsBy_splits (name : String) (verbs : List String) :
    SplitsBy name verbs (splits name verbs) := by
  induction verbs with
  | nil => exact .nil
  | cons verb rest ih =>
    cases hsubject : subject? name verb with
    | none =>
      have hsplits : splits name (verb :: rest) = splits name rest :=
        List.filterMap_cons_none (by rw [hsubject]; rfl)
      rw [hsplits]
      refine .skip (fun subject hsplit => ?_) ih
      rw [subject?_eq_some_iff.mpr hsplit] at hsubject
      exact nomatch hsubject
    | some subject =>
      have hsplits : splits name (verb :: rest) = (verb, subject) :: splits name rest :=
        List.filterMap_cons_some (by rw [hsubject]; rfl)
      rw [hsplits]
      exact .here (subject?_eq_some_iff.mp hsubject) ih

theorem mem_splits_iff {name : String} {verbs : List String} {verb subject : String} :
    (verb, subject) ∈ splits name verbs ↔ verb ∈ verbs ∧ Splits name verb subject := by
  simp [splits, List.mem_filterMap, subject?_eq_some_iff]

/-! ## Candidates -/

/-- A split of the name of a method. -/
structure Candidate where
  method : Method
  verb : String
  subject : String

/-- A verb splits the name of the method, and its modifiers let it be observed. -/
structure Eligible (verbs : List String) (m : Method) : Prop where
  split : ∃ name verb subject, m.name = .text name ∧ verb ∈ verbs ∧ Splits name verb subject
  modifiers : ∀ k ∈ [Modifier.«private», .static, .final, .«abstract»], k ∉ m.modifiers

/-- The splits that count of the methods that are eligible, in the order of the methods. -/
inductive Candidates (verbs : List String) (policy : Policy) :
    List Method → List Candidate → Prop
  | nil : Candidates verbs policy [] []
  | eligible {m : Method} {name : String} {all : List (String × String)} {ms : List Method}
      {more : List Candidate} :
      Eligible verbs m → m.name = .text name → SplitsBy name verbs all →
        Candidates verbs policy ms more →
          Candidates verbs policy (m :: ms)
            ((policy.choose all).map (fun s => ⟨m, s.1, s.2⟩) ++ more)
  | passed {m : Method} {ms : List Method} {more : List Candidate} :
      ¬ Eligible verbs m → Candidates verbs policy ms more →
        Candidates verbs policy (m :: ms) more

/-! ## Accessors -/

/-- The first of the methods that has the name and no parameters. -/
def IsFirstGetter (methods : List Method) (name : String) (a : Method) : Prop :=
  ∃ before after, methods = before ++ a :: after
    ∧ (a.parameters = [] ∧ a.name = .text name)
    ∧ ∀ b ∈ before, ¬ (b.parameters = [] ∧ b.name = .text name)

/-- The getter of the subject or, for want of one, its boolean getter if the type is one for
that. -/
def IsAccessor (methods : List Method) (subject type : String) (a : Method) : Prop :=
  IsFirstGetter methods ("get" ++ subject) a
    ∨ ((∀ b, ¬ IsFirstGetter methods ("get" ++ subject) b) ∧ type ∈ booleanTypes
      ∧ IsFirstGetter methods ("is" ++ subject) a)

theorem text?_eq_some_iff {v : Value} {s : String} : v.text? = some s ↔ v = .text s := by
  cases v <;> simp [Value.text?]

theorem getter?_eq_some_iff {methods : List Method} {name : String} {a : Method} :
    getter? methods name = some a ↔ IsFirstGetter methods name a := by
  have hgetter : ∀ b : Method, (b.parameters.isEmpty && b.name.text? == some name) = true
      ↔ b.parameters = [] ∧ b.name = .text name := fun b => by
    rw [Bool.and_eq_true, List.isEmpty_iff, beq_iff_eq, text?_eq_some_iff]
  rw [getter?, List.find?_eq_some_iff_append, IsFirstGetter, hgetter]
  constructor
  · rintro ⟨ha, before, after, hmethods, hbefore⟩
    exact ⟨before, after, hmethods, ha, fun b hb h => by
      have hnot := hbefore b hb
      rw [(hgetter b).mpr h] at hnot
      exact nomatch hnot⟩
  · rintro ⟨before, after, hmethods, ha, hbefore⟩
    exact ⟨ha, before, after, hmethods, fun b hb => by
      rw [Bool.not_eq_true', Bool.eq_false_iff]
      exact fun h => hbefore b hb ((hgetter b).mp h)⟩

theorem findAccessor_eq_some_iff {methods : List Method} {subject type : String} {a : Method} :
    findAccessor methods subject type = some a ↔ IsAccessor methods subject type a := by
  have hnone : getter? methods ("get" ++ subject) = none
      ↔ ∀ b, ¬ IsFirstGetter methods ("get" ++ subject) b := by
    simp only [← getter?_eq_some_iff, Option.eq_none_iff_forall_ne_some]
  rw [IsAccessor, ← getter?_eq_some_iff, ← getter?_eq_some_iff, ← hnone, findAccessor,
    accessorNames]
  cases hget : getter? methods ("get" ++ subject) with
  | some b => by_cases hboolean : type ∈ booleanTypes <;> simp [hget, hboolean]
  | none => by_cases hboolean : type ∈ booleanTypes <;> simp [hget, hboolean]

/-! ## What a candidate needs -/

/-- The mutator is what becomes of the candidate. -/
structure Realizes (methods : List Method) (c : Candidate) (x : Mutator) : Prop where
  method_eq : x.method = c.method
  verb_eq : x.verb = c.verb
  subject_eq : x.subject = c.subject
  parameters_eq : c.method.parameters = [x.parameter]
  accessor : IsAccessor methods c.subject x.parameter.type x.accessor
  accessible : Modifier.«private» ∉ x.accessor.modifiers

/-- Nothing keeps the candidate from becoming a mutator on its own. -/
def Realizable (methods : List Method) (c : Candidate) : Prop := ∃ x, Realizes methods c x

/-- What makes an element one whose mutators are refused. -/
inductive Unsupported (verbs : List String) (methods : List Method) (candidates : List Candidate) :
    Prop
  | parameterCount (m : Method) :
      m ∈ methods → Eligible verbs m → m.parameters.length ≠ 1 →
        Unsupported verbs methods candidates
  | noAccessor (c : Candidate) (p : Parameter) :
      c ∈ candidates → c.method.parameters = [p] →
        (∀ a, ¬ IsAccessor methods c.subject p.type a) → Unsupported verbs methods candidates
  | privateAccessor (c : Candidate) (p : Parameter) (a : Method) :
      c ∈ candidates → c.method.parameters = [p] → IsAccessor methods c.subject p.type a →
        Modifier.«private» ∈ a.modifiers → Unsupported verbs methods candidates
  | sharedSubject :
      ¬ (candidates.map (·.subject)).Nodup → Unsupported verbs methods candidates

variable {owner : String} {methods : List Method} {verbs : List String} {policy : Policy}
  {m : Method} {p : Parameter} {found found' : Found}

theorem realizes_of_made {split : String × String} {x : Mutator}
    (hp : m.parameters = [p]) (h : Made methods m p split x) :
    Realizes methods ⟨m, split.1, split.2⟩ x := by
  obtain ⟨rfl, rfl, rfl, haccessor, haccessible⟩ := h
  exact ⟨rfl, rfl, rfl, hp, findAccessor_eq_some_iff.mp haccessor, by simpa using haccessible⟩

theorem IsAccessor.unique {subject type : String} {a b : Method}
    (ha : IsAccessor methods subject type a) (hb : IsAccessor methods subject type b) : a = b := by
  rw [← findAccessor_eq_some_iff] at ha hb
  exact Option.some.inj (ha.symm.trans hb)

/-! ## One split -/

/-- The names of the methods are texts. -/
def TextMethods (methods : List Method) : Prop := ∀ m ∈ methods, m.name.isText = true

theorem checkNames_of_text (h : TextMethods methods) : checkNames methods = .ok () := by
  have hnone : methods.find? (fun m => m.parameters.isEmpty && m.name.isCollection) = none := by
    rw [List.find?_eq_none]
    intro m hm
    have htext := h m hm
    cases hname : m.name <;> simp_all [Value.isCollection, Value.isText, Value.text?]
  rw [checkNames, hnone]

theorem pair_of_realizes (owner : String) {split : String × String} (htext : TextMethods methods)
    (hp : m.parameters = [p]) {x : Mutator} (h : Realizes methods ⟨m, split.1, split.2⟩ x)
    (hnew : split.2 ∉ found.mutators.map (·.subject)) :
    ∃ found', pair owner methods m p found split = .ok found'
      ∧ found'.mutators.map (·.subject) = found.mutators.map (·.subject) ++ [split.2] := by
  have hparameter : [p] = [x.parameter] := hp.symm.trans h.parameters_eq
  rw [List.singleton_inj] at hparameter
  have haccessor := findAccessor_eq_some_iff.mpr h.accessor
  have haccessible : x.accessor.modifiers.contains .«private» = false := by
    simpa using h.accessible
  have hfirst : found.mutators.find? (·.subject == split.2) = none := by
    rw [List.find?_eq_none]
    intro y hy hsame
    exact hnew (List.mem_map.mpr ⟨y, hy, beq_iff_eq.mp hsame⟩)
  rw [← hparameter] at haccessor
  simp only [pair, checkNames_of_text htext, haccessor, haccessible, hfirst]
  exact ⟨_, rfl, by rw [List.map_append]; rfl⟩

theorem extraction_of_pair {split : String × String} (htext : TextMethods methods) {f : Fault}
    (h : pair owner methods m p found split = .error f) : ∃ x, f = .extraction x := by
  rcases bind_eq_error.mp h with h | ⟨_, -, h⟩
  · rw [checkNames_of_text htext] at h
    exact nomatch h
  · dsimp only at h
    split at h
    · cases h
      exact ⟨_, rfl⟩
    · split at h
      · cases h
        exact ⟨_, rfl⟩
      · split at h
        · cases h
          exact ⟨_, rfl⟩
        · exact nomatch h

/-! ## One method -/

theorem eq_splits {name : String} {all : List (String × String)} (h : SplitsBy name verbs all) :
    all = splits name verbs := by
  induction h with
  | nil => rfl
  | here hsplit _ ih =>
    rw [ih]
    exact (List.filterMap_cons_some (by rw [subject?_eq_some_iff.mpr hsplit]; rfl)).symm
  | @skip verb _ _ hnone _ ih =>
    have hsubject : subject? name verb = none := by
      rw [Option.eq_none_iff_forall_ne_some]
      exact fun subject h => hnone subject (subject?_eq_some_iff.mp h)
    rw [ih]
    exact (List.filterMap_cons_none (by rw [hsubject]; rfl)).symm

theorem eligible_iff {name : String} (hname : m.name = .text name) :
    Eligible verbs m ↔ splits name verbs ≠ [] ∧ m.isOverridable = true ∧ m.isAbstract = false := by
  have hmodifiers : (∀ k ∈ [Modifier.«private», .static, .final, .«abstract»], k ∉ m.modifiers)
      ↔ m.isOverridable = true ∧ m.isAbstract = false := by
    have hclosing : m.isOverridable = true ↔ ∀ k ∈ Method.closing, k ∉ m.modifiers := by
      simp only [Method.isOverridable, Bool.not_eq_true', List.any_eq_false, List.contains_iff_mem]
      exact ⟨fun h k hk hm => h k hm hk, fun h k hm hk => h k hk hm⟩
    have habstract : m.isAbstract = false ↔ Modifier.«abstract» ∉ m.modifiers := by
      rw [Method.isAbstract, Bool.eq_false_iff, Ne, List.contains_iff_mem]
    rw [hclosing, habstract, Method.closing]
    simp [and_assoc]
  constructor
  · rintro ⟨⟨text, verb, subject, htext, hverb, hsplit⟩, hopen⟩
    cases hname.symm.trans htext
    exact ⟨List.ne_nil_of_mem (mem_splits_iff.mpr ⟨hverb, hsplit⟩), hmodifiers.mp hopen⟩
  · rintro ⟨hsome, hopen⟩
    obtain ⟨⟨verb, subject⟩, hmem⟩ := List.exists_mem_of_ne_nil _ hsome
    obtain ⟨hverb, hsplit⟩ := mem_splits_iff.mp hmem
    exact ⟨⟨name, verb, subject, hname, hverb, hsplit⟩, hmodifiers.mpr hopen⟩

theorem splitsOf_text {name : String} (hname : m.name = .text name) :
    shaped (splitsOf m.name verbs) = .ok (splits name verbs) := by
  rw [shaped_eq_ok, hname]
  cases verbs <;> rfl

/-- What has been found once it is known how many verbs split the name. -/
def Found.begun (owner : String) (m : Method) (policy : Policy) (all : List (String × String))
    (found : Found) : Found :=
  if 1 < all.length then
    { found with
      warnings := found.warnings ++ [severalVerbs owner m.name.display policy all] }
  else found

theorem mutators_begun (owner : String) (m : Method) (policy : Policy)
    (all : List (String × String)) (found : Found) :
    (found.begun owner m policy all).mutators = found.mutators := by
  unfold Found.begun
  split <;> rfl

theorem addMethod_of_passed (owner : String) (methods : List Method) (policy : Policy)
    (found : Found) {name : String} (hname : m.name = .text name) (h : ¬ Eligible verbs m) :
    ∃ found', addMethod owner methods verbs policy found m = .ok found'
      ∧ found'.mutators = found.mutators := by
  rw [eligible_iff hname] at h
  unfold addMethod
  rw [splitsOf_text hname]
  cases hsplits : splits name verbs with
  | nil => exact ⟨found, rfl, rfl⟩
  | cons split rest =>
    have hbegun := mutators_begun owner m policy (split :: rest) found
    cases hover : m.isOverridable with
    | false => exact ⟨_, rfl, hbegun⟩
    | true =>
      cases habstract : m.isAbstract with
      | true => exact ⟨_, rfl, hbegun⟩
      | false => exact absurd ⟨by rw [hsplits]; exact List.cons_ne_nil _ _, hover, habstract⟩ h

theorem addMethod_of_eligible {name : String} (hname : m.name = .text name)
    (h : Eligible verbs m) :
    addMethod owner methods verbs policy found m =
      match m.parameters with
      | [p] => (policy.choose (splits name verbs)).foldlM (pair owner methods m p)
          (found.begun owner m policy (splits name verbs))
      | ps => refuse (.parameterCount owner m.name.display ps.length) := by
  obtain ⟨hsome, hoverridable, hconcrete⟩ := (eligible_iff hname).mp h
  have hempty : (splits name verbs).isEmpty = false := by simpa using hsome
  unfold addMethod
  rw [splitsOf_text hname]
  simp only [bind, Except.bind, hempty, hoverridable, hconcrete, Bool.not_true, Bool.false_eq_true,
    if_false]
  cases policy <;> rfl

theorem extraction_of_addMethod (htext : TextMethods methods) {name : String}
    (hname : m.name = .text name) {f : Fault}
    (h : addMethod owner methods verbs policy found m = .error f) : ∃ x, f = .extraction x := by
  by_cases heligible : Eligible verbs m
  · rw [addMethod_of_eligible hname heligible] at h
    split at h
    · exact foldlM_error (fun _ _ _ _ hpair => extraction_of_pair htext hpair) h
    · cases h
      exact ⟨_, rfl⟩
  · obtain ⟨found', hok, -⟩ := addMethod_of_passed owner methods policy found hname heligible
    rw [hok] at h
    exact nomatch h

/-- The splits of one method all become mutators if each of them can and none repeats a
subject. -/
theorem foldlM_pair_of_realizable (owner : String) (htext : TextMethods methods)
    (hp : m.parameters = [p]) {chosen : List (String × String)}
    (hchosen : ∀ s ∈ chosen, Realizable methods ⟨m, s.1, s.2⟩)
    (hnodup : (found.mutators.map (·.subject) ++ chosen.map (·.2)).Nodup) :
    ∃ found', chosen.foldlM (pair owner methods m p) found = .ok found'
      ∧ found'.mutators.map (·.subject)
        = found.mutators.map (·.subject) ++ chosen.map (·.2) := by
  induction chosen generalizing found with
  | nil => exact ⟨found, rfl, (List.append_nil _).symm⟩
  | cons split rest ih =>
    obtain ⟨x, hx⟩ := hchosen split List.mem_cons_self
    have hnew : split.2 ∉ found.mutators.map (·.subject) := fun hmem =>
      (List.nodup_append.mp hnodup).2.2 _ hmem _ List.mem_cons_self rfl
    obtain ⟨middle, hpair, hmiddle⟩ := pair_of_realizes owner htext hp hx hnew
    have happend : found.mutators.map (·.subject) ++ (split :: rest).map (·.2)
        = middle.mutators.map (·.subject) ++ rest.map (·.2) := by
      rw [hmiddle, List.append_assoc]
      rfl
    rw [happend] at hnodup ⊢
    rw [List.foldlM_cons, hpair]
    exact ih (fun s hs => hchosen s (List.mem_cons_of_mem split hs)) hnodup

/-! ## All methods -/

theorem exists_candidates (verbs : List String) (policy : Policy) {ms : List Method}
    (hms : TextMethods ms) : ∃ cs, Candidates verbs policy ms cs := by
  induction ms with
  | nil => exact ⟨[], .nil⟩
  | cons m rest ih =>
    obtain ⟨more, hmore⟩ := ih fun n hn => hms n (List.mem_cons_of_mem m hn)
    by_cases h : Eligible verbs m
    · obtain ⟨name, hname⟩ := Option.isSome_iff_exists.mp (hms m List.mem_cons_self)
      exact ⟨_, .eligible h (text?_eq_some_iff.mp hname) (splitsBy_splits name verbs) hmore⟩
    · exact ⟨more, .passed h hmore⟩

/-- What a successful extraction has found of the methods it has gone through. -/
structure Extracts (methods : List Method) (verbs : List String) (ms : List Method)
    (cs : List Candidate) (found found' : Found) : Prop where
  added : ∃ added, found'.mutators = found.mutators ++ added
    ∧ List.Forall₂ (Realizes methods) cs added
  subjects_nodup : (found'.mutators.map (·.subject)).Nodup
  count : ∀ m ∈ ms, Eligible verbs m → m.parameters.length = 1

theorem extracts_of_foldlM {ms : List Method} {cs : List Candidate} (hms : TextMethods ms)
    (hcs : Candidates verbs policy ms cs) (hnodup : (found.mutators.map (·.subject)).Nodup)
    (h : ms.foldlM (addMethod owner methods verbs policy) found = .ok found') :
    Extracts methods verbs ms cs found found' := by
  induction hcs generalizing found with
  | nil =>
    cases h
    exact ⟨⟨[], (List.append_nil _).symm, .nil⟩, hnodup, nofun⟩
  | @eligible m name all ms more heligible hname hall hmore ih =>
    rw [List.foldlM_cons] at h
    obtain ⟨middle, hfirst, hrest⟩ := bind_eq_ok.mp h
    rw [addMethod_of_eligible hname heligible] at hfirst
    split at hfirst
    · next p hp =>
      have hbegun := mutators_begun owner m policy (splits name verbs) found
      obtain ⟨added, hmiddle, hadded, hnodup'⟩ :=
        foldlM_pair_eq_ok (by rw [hbegun]; exact hnodup) hfirst
      have hlater := ih (fun n hn => hms n (List.mem_cons_of_mem m hn)) hnodup' hrest
      obtain ⟨later, hfound', hlater'⟩ := hlater.added
      have hhere : List.Forall₂ (Realizes methods)
          ((policy.choose all).map (fun s => ⟨m, s.1, s.2⟩)) added := by
        rw [eq_splits hall, List.forall₂_map_left_iff]
        exact hadded.imp fun _ _ => realizes_of_made hp
      refine ⟨⟨added ++ later, ?_, List.rel_append hhere hlater'⟩, hlater.subjects_nodup,
        fun n hn hn' => ?_⟩
      · rw [hfound', hmiddle, hbegun, List.append_assoc]
      · rcases List.mem_cons.mp hn with rfl | hn
        · rw [hp]
          rfl
        · exact hlater.count n hn hn'
    · exact nomatch hfirst
  | @passed m ms more hpassed hmore ih =>
    obtain ⟨name, hname⟩ := Option.isSome_iff_exists.mp (hms m List.mem_cons_self)
    obtain ⟨middle, hmiddle, hsame⟩ :=
      addMethod_of_passed owner methods policy found (text?_eq_some_iff.mp hname) hpassed
    rw [List.foldlM_cons, hmiddle] at h
    rw [← hsame] at hnodup
    have hlater := ih (fun n hn => hms n (List.mem_cons_of_mem m hn)) hnodup h
    refine ⟨?_, hlater.subjects_nodup, fun n hn hn' => ?_⟩
    · rw [← hsame]
      exact hlater.added
    · rcases List.mem_cons.mp hn with rfl | hn
      · exact absurd hn' hpassed
      · exact hlater.count n hn hn'

theorem foldlM_of_realizable (owner : String) {ms : List Method} {cs : List Candidate}
    (htext : TextMethods methods) (hms : TextMethods ms) (hcs : Candidates verbs policy ms cs)
    (hcount : ∀ m ∈ ms, Eligible verbs m → m.parameters.length = 1)
    (hreal : ∀ c ∈ cs, Realizable methods c)
    (hnodup : (found.mutators.map (·.subject) ++ cs.map (·.subject)).Nodup) :
    ∃ found', ms.foldlM (addMethod owner methods verbs policy) found = .ok found' := by
  induction hcs generalizing found with
  | nil => exact ⟨found, rfl⟩
  | @eligible m name all ms more heligible hname hall hmore ih =>
    obtain ⟨p, hp⟩ := List.length_eq_one_iff.mp (hcount m List.mem_cons_self heligible)
    let begun := found.begun owner m policy (splits name verbs)
    have hbegun : begun.mutators = found.mutators := mutators_begun owner m policy _ found
    rw [eq_splits hall] at hreal hnodup
    have hsubjects : found.mutators.map (·.subject)
          ++ ((policy.choose (splits name verbs)).map (fun s => Candidate.mk m s.1 s.2)
            ++ more).map (·.subject)
        = begun.mutators.map (·.subject) ++ (policy.choose (splits name verbs)).map (·.2)
          ++ more.map (·.subject) := by
      rw [hbegun, List.map_append, List.map_map, List.append_assoc]
      rfl
    rw [hsubjects] at hnodup
    obtain ⟨middle, hpairs, hmiddle⟩ := foldlM_pair_of_realizable owner htext hp
      (fun s hs => hreal _ (List.mem_append_left more (List.mem_map.mpr ⟨s, hs, rfl⟩)))
      (List.nodup_append.mp hnodup).1
    rw [List.foldlM_cons, addMethod_of_eligible hname heligible, hp]
    dsimp only
    rw [hpairs]
    rw [← hmiddle] at hnodup
    exact ih (fun n hn => hms n (List.mem_cons_of_mem m hn))
      (fun n hn => hcount n (List.mem_cons_of_mem m hn))
      (fun c hc => hreal c (List.mem_append_right _ hc)) hnodup
  | @passed m ms more hpassed hmore ih =>
    obtain ⟨name, hname⟩ := Option.isSome_iff_exists.mp (hms m List.mem_cons_self)
    obtain ⟨middle, hmiddle, hsame⟩ :=
      addMethod_of_passed owner methods policy found (text?_eq_some_iff.mp hname) hpassed
    rw [List.foldlM_cons, hmiddle]
    rw [← hsame] at hnodup
    exact ih (fun n hn => hms n (List.mem_cons_of_mem m hn))
      (fun n hn => hcount n (List.mem_cons_of_mem m hn)) hreal hnodup

/-! ## Refusals -/

theorem eligible_of_mem_candidates {ms : List Method} {cs : List Candidate}
    (hcs : Candidates verbs policy ms cs) {c : Candidate} (hc : c ∈ cs) :
    c.method ∈ ms ∧ Eligible verbs c.method := by
  induction hcs with
  | nil => exact nomatch hc
  | eligible heligible _ _ _ ih =>
    rcases List.mem_append.mp hc with hc | hc
    · obtain ⟨s, -, rfl⟩ := List.mem_map.mp hc
      exact ⟨List.mem_cons_self, heligible⟩
    · exact ⟨List.mem_cons_of_mem _ (ih hc).1, (ih hc).2⟩
  | passed _ _ ih => exact ⟨List.mem_cons_of_mem _ (ih hc).1, (ih hc).2⟩

theorem map_subject_of_realizes {cs : List Candidate} {xs : List Mutator}
    (h : List.Forall₂ (Realizes methods) cs xs) :
    xs.map (·.subject) = cs.map (·.subject) := by
  induction h with
  | nil => rfl
  | cons hx _ ih => rw [List.map_cons, List.map_cons, ih, hx.subject_eq]

theorem not_unsupported_of_extracts {cs : List Candidate}
    (h : Extracts methods verbs methods cs {} found') : ¬ Unsupported verbs methods cs := by
  obtain ⟨⟨added, hfound', hadded⟩, hnodup, hcount⟩ := h
  rw [hfound', List.nil_append] at hnodup
  have hrealizes : ∀ c ∈ cs, ∀ p, c.method.parameters = [p] →
      ∃ a, IsAccessor methods c.subject p.type a ∧ Modifier.«private» ∉ a.modifiers := by
    intro c hc p hp
    obtain ⟨x, -, hx⟩ := exists_of_forall₂ hadded.flip hc
    have hparameter : [p] = [x.parameter] := hp.symm.trans hx.parameters_eq
    rw [List.singleton_inj] at hparameter
    rw [hparameter]
    exact ⟨x.accessor, hx.accessor, hx.accessible⟩
  rintro (⟨m, hm, heligible, hne⟩ | ⟨c, p, hc, hp, hnone⟩ | ⟨c, p, a, hc, hp, ha, hprivate⟩
    | hshared)
  · exact hne (hcount m hm heligible)
  · obtain ⟨a, ha, -⟩ := hrealizes c hc p hp
    exact hnone a ha
  · obtain ⟨b, hb, hopen⟩ := hrealizes c hc p hp
    exact hopen (ha.unique hb ▸ hprivate)
  · rw [← map_subject_of_realizes hadded] at hshared
    exact hshared hnodup

theorem realizable_of_supported {cs : List Candidate}
    (hcs : Candidates verbs policy methods cs) (h : ¬ Unsupported verbs methods cs)
    {c : Candidate} (hc : c ∈ cs) : Realizable methods c := by
  obtain ⟨hm, heligible⟩ := eligible_of_mem_candidates hcs hc
  have hcount : c.method.parameters.length = 1 := by
    by_contra hne
    exact h (.parameterCount c.method hm heligible hne)
  obtain ⟨p, hp⟩ := List.length_eq_one_iff.mp hcount
  obtain ⟨a, ha⟩ : ∃ a, IsAccessor methods c.subject p.type a := by
    by_contra hnone
    exact h (.noAccessor c p hc hp (not_exists.mp hnone))
  exact ⟨⟨c.method, c.verb, c.subject, a, p⟩, rfl, rfl, rfl, hp, ha,
    fun hprivate => h (.privateAccessor c p a hc hp ha hprivate)⟩

/-! ## Elements -/

/-- The names of the methods of the element, and those of the types of the annotations on their
parameters, are texts. -/
structure TextNames (e : Element) : Prop where
  methods : ∀ m ∈ e.membersOf .method, m.name.isText = true
  annotations : ∀ m ∈ e.membersOf .method, ∀ v ∈ m.parameters, ∀ a ∈ v.annotations,
    a.typeName.isText = true

theorem exists_payload (control : String) {as : List AnnotationUse}
    (h : ∀ a ∈ as, a.typeName.isText = true) :
    ∃ texts, payload (.text control) as = .ok texts := by
  induction as with
  | nil => exact ⟨[], rfl⟩
  | cons a rest ih =>
    obtain ⟨texts, htexts⟩ := ih fun b hb => h b (List.mem_cons_of_mem a hb)
    obtain ⟨name, hname⟩ := Option.isSome_iff_exists.mp (h a List.mem_cons_self)
    obtain ⟨controls, hcontrols⟩ : ∃ controls, a.inNamespace (.text control) = .ok controls := by
      unfold AnnotationUse.inNamespace
      rw [text?_eq_some_iff.mp hname]
      split
      · exact ⟨_, rfl⟩
      · split
        · exact ⟨_, rfl⟩
        · exact ⟨_, rfl⟩
    exact ⟨_, by rw [payload, hcontrols, htexts]; rfl⟩

theorem exists_methods {e : Element} (he : TextNames e) (control : String) :
    ∃ methods, Extraction.methods e (.text control) = .ok methods := by
  refine exists_mapM_eq_ok fun m hm => ?_
  obtain ⟨ps, hps⟩ := exists_mapM_eq_ok (f := parameter (.text control) none) fun v hv => by
    obtain ⟨texts, htexts⟩ := exists_payload control (he.annotations m hm v hv)
    exact ⟨_, by rw [parameter, htexts]; rfl⟩
  exact ⟨_, by rw [hps]; rfl⟩

theorem textMethods_of_methods {e : Element} (he : TextNames e) {control : Value}
    (h : Extraction.methods e control = .ok methods) : TextMethods methods := by
  intro m hm
  obtain ⟨member, hmember, hof⟩ := exists_of_forall₂ (forall₂_methods h) hm
  rw [hof.name_eq]
  exact he.methods member hmember

/-- Where nothing is unsupported, nothing is refused. -/
theorem exists_foldlM_of_supported (owner : String) {candidates : List Candidate}
    (htext : TextMethods methods) (hcandidates : Candidates verbs policy methods candidates)
    (hsupported : ¬ Unsupported verbs methods candidates) :
    ∃ found, methods.foldlM (addMethod owner methods verbs policy) {} = .ok found := by
  have hcount : ∀ m ∈ methods, Eligible verbs m → m.parameters.length = 1 := by
    intro m hm heligible
    by_contra hne
    exact hsupported (.parameterCount m hm heligible hne)
  have hnodup : (candidates.map (·.subject)).Nodup := by
    by_contra hshared
    exact hsupported (.sharedSubject hshared)
  have hreal : ∀ c ∈ candidates, Realizable methods c := fun c hc =>
    realizable_of_supported hcandidates hsupported hc
  exact foldlM_of_realizable owner htext htext hcandidates hcount hreal hnodup

theorem extraction_of_foldlM {owner : String} {f : Fault} (htext : TextMethods methods)
    (h : methods.foldlM (addMethod owner methods verbs policy) {} = .error f) :
    ∃ x, f = .extraction x := by
  refine foldlM_error (P := fun f => ∃ x, f = .extraction x) (fun m hm found f hadd => ?_) h
  obtain ⟨name, hname⟩ := Option.isSome_iff_exists.mp (htext m hm)
  exact extraction_of_addMethod htext (text?_eq_some_iff.mp hname) hadd

/-- Extraction makes one mutator of each candidate, in order and no two of one subject, or it
refuses the element, which it does just when the element is unsupported. -/
theorem mutators_exact (e : Element) (he : TextNames e) (verbs : List String) (policy : Policy)
    (control : String) :
    ∃ methods candidates,
      List.Forall₂ (IsMethodOf (.text control)) (e.membersOf .method) methods
      ∧ Candidates verbs policy methods candidates
      ∧ (∀ found, mutators e verbs policy (.text control) = .ok found →
          List.Forall₂ (Realizes methods) candidates found.mutators
          ∧ (found.mutators.map (·.subject)).Nodup)
      ∧ ((∃ f, mutators e verbs policy (.text control) = .error (.extraction f))
          ↔ Unsupported verbs methods candidates)
      ∧ ∀ f, mutators e verbs policy (.text control) = .error f → ∃ x, f = .extraction x := by
  obtain ⟨methods, hmethods⟩ := exists_methods he control
  have htext := textMethods_of_methods he hmethods
  obtain ⟨candidates, hcandidates⟩ := exists_candidates verbs policy htext
  have hmutators : mutators e verbs policy (.text control)
      = methods.foldlM (addMethod e.qualifiedName methods verbs policy) {} := by
    rw [mutators, hmethods]
    rfl
  have hextracts : ∀ found, mutators e verbs policy (.text control) = .ok found →
      Extracts methods verbs methods candidates {} found := fun found h =>
    extracts_of_foldlM htext hcandidates List.nodup_nil (hmutators.symm.trans h)
  have hextraction : ∀ f, mutators e verbs policy (.text control) = .error f →
      ∃ x, f = .extraction x := by
    intro f h
    rw [hmutators] at h
    exact extraction_of_foldlM htext h
  refine ⟨methods, candidates, forall₂_methods hmethods, hcandidates, fun found h => ?_,
    ⟨fun ⟨f, hf⟩ => ?_, fun hunsupported => ?_⟩, hextraction⟩
  · obtain ⟨⟨added, hadded, hrealizes⟩, hnodup, -⟩ := hextracts found h
    rw [hadded] at hnodup ⊢
    exact ⟨hrealizes, hnodup⟩
  · by_contra hsupported
    obtain ⟨found, hfound⟩ :=
      exists_foldlM_of_supported e.qualifiedName htext hcandidates hsupported
    rw [hmutators, hfound] at hf
    cases hf
  · cases hresult : mutators e verbs policy (.text control) with
    | ok found => exact absurd hunsupported (not_unsupported_of_extracts (hextracts found hresult))
    | error f =>
      obtain ⟨x, rfl⟩ := hextraction f hresult
      exact ⟨x, rfl⟩

/-- A type with a getter that takes a parameter before the one that counts, a boolean value, a
name that two verbs split, and methods that only look like mutators. -/
def switchElement : Element where
  simpleName := "Switch"
  members :=
    [ { kind := .method, name := .text "getMode", parameters := [⟨"int", "position", []⟩] },
      { kind := .method, name := .text "setUpMode",
        parameters := [⟨"int", "mode", [⟨.text "control.Watched", .text "@control.Watched"⟩]⟩] },
      { kind := .method, name := .text "getUpMode", returnType := "int" },
      { kind := .method, name := .text "getMode", returnType := "long" },
      { kind := .method, name := .text "settle", parameters := [] },
      { kind := .method, name := .text "setClosed", modifiers := [.final] },
      { kind := .method, name := .text "setOn", parameters := [⟨"boolean", "on", []⟩] },
      { kind := .method, name := .text "isOn", returnType := "boolean" } ]

theorem switchElement_mutators :
    TextNames switchElement
    ∧ ∃ methods candidates found,
      mutators switchElement ["set", "setUp"] .all (.text "control") = .ok found
      ∧ List.Forall₂ (IsMethodOf (.text "control")) (switchElement.membersOf .method) methods
      ∧ Candidates ["set", "setUp"] .all methods candidates
      ∧ List.Forall₂ (Realizes methods) candidates found.mutators
      ∧ found.mutators.map (fun x => (x.verb, x.subject, x.accessor.returnType))
        = [("set", "UpMode", "int"), ("setUp", "Mode", "long"), ("set", "On", "boolean")] := by
  have he : TextNames switchElement := ⟨by decide +kernel, by decide +kernel⟩
  have hfound : (mutators switchElement ["set", "setUp"] .all (.text "control")).toOption.map
        (fun f => f.mutators.map fun x => (x.verb, x.subject, x.accessor.returnType))
      = some [("set", "UpMode", "int"), ("setUp", "Mode", "long"), ("set", "On", "boolean")] := by
    decide +kernel
  obtain ⟨methods, candidates, hmethods, hcandidates, hreturns, -, -⟩ :=
    mutators_exact switchElement he ["set", "setUp"] .all "control"
  cases hresult : mutators switchElement ["set", "setUp"] .all (.text "control") with
  | error f =>
    rw [hresult] at hfound
    exact nomatch hfound
  | ok found =>
    rw [hresult] at hfound
    exact ⟨he, methods, candidates, found, rfl, hmethods, hcandidates,
      (hreturns found hresult).1, Option.some.inj hfound⟩

end Extraction
end JavaCompanion
