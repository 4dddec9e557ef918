/-
What writing to a tree of files leaves alone.

Making directories changes no file, and opening or continuing a file changes no other
(`Keeps`).  No directory is ever lost, so a path that leads somewhere goes on leading there
(`placeOf_of_keeps`), and it leads to the same place in any tree in which it leads anywhere
(`walk_unique`).  What a file holds has no part in where paths lead (`isThere_of_sameShape`).
-/
import JavaCompanion.FileTree.Basic
import JavaCompanion.Proofs.Outcome

namespace JavaCompanion
namespace FileTree

/-! ## Entries -/

theorem entryAt?_put {t : FileTree} {place : List String}
    (h : t.entryAt? place ≠ some .directory) (e : Entry) (q : List String) :
    (t.put place e).entryAt? q = if q = place then some e else t.entryAt? q := by
  have hinner : (isRoot place || isAbove place) = false := by
    cases hplace : isRoot place || isAbove place with
    | false => rfl
    | true => exact absurd (by rw [entryAt?, if_pos hplace]) h
  by_cases hq : q = place
  · subst hq
    have hnone : (t.entries.filter (·.1 != q)).find? (·.1 == q) = none := by
      simp [List.find?_eq_none]
    simp [entryAt?, hinner, put, List.find?_append, hnone]
  · have hne : (place == q) = false := by simpa using fun h => hq h.symm
    have hsame : (t.entries.filter (·.1 != place)).find? (·.1 == q)
        = t.entries.find? (·.1 == q) := by
      rw [List.find?_filter]
      congr 1
      funext entry
      by_cases hentry : entry.1 = q <;> simp [hentry, hq]
    simp [entryAt?, put, List.find?_append, hsame, hne, hq]

/-- Outside of some places the files are the same, and no directory is lost.  The rights are the
same everywhere. -/
structure Keeps (places : List String → Prop) (t t' : FileTree) : Prop where
  permits_eq : t'.permits = t.permits
  files : ∀ place, ¬ places place → ∀ bytes,
    t'.entryAt? place = some (.file bytes) ↔ t.entryAt? place = some (.file bytes)
  directories : ∀ place, t.entryAt? place = some .directory →
    t'.entryAt? place = some .directory

variable {places : List String → Prop} {t t' t'' : FileTree} {place : List String}

theorem Keeps.refl (places : List String → Prop) (t : FileTree) : Keeps places t t :=
  ⟨rfl, fun _ _ _ => Iff.rfl, fun _ h => h⟩

theorem Keeps.trans (h : Keeps places t t') (h' : Keeps places t' t'') : Keeps places t t'' :=
  ⟨h'.permits_eq.trans h.permits_eq,
    fun q hq bytes => (h'.files q hq bytes).trans (h.files q hq bytes),
    fun q hq => h'.directories q (h.directories q hq)⟩

theorem Keeps.mono {more : List String → Prop} (h : Keeps places t t')
    (hmore : ∀ q, places q → more q) : Keeps more t t' :=
  ⟨h.permits_eq, fun q hq => h.files q fun hplace => hq (hmore q hplace), h.directories⟩

theorem keeps_put_file (h : t.entryAt? place ≠ some .directory) (bytes : ByteArray) :
    Keeps (· = place) t (t.put place (.file bytes)) := by
  refine ⟨rfl, fun q hq more => ?_, fun q hq => ?_⟩
  · rw [entryAt?_put h, if_neg hq]
  · rw [entryAt?_put h, if_neg (by rintro rfl; exact h hq)]
    exact hq

theorem keeps_put_directory (h : t.entryAt? place = none) :
    Keeps (fun _ => False) t (t.put place .directory) := by
  have hvacant : t.entryAt? place ≠ some .directory := by rw [h]; exact nofun
  have hput := entryAt?_put hvacant .directory
  refine ⟨rfl, fun q _ bytes => ?_, fun q hq => ?_⟩
  · rw [hput]
    split
    · next hq =>
      rw [hq, h]
      exact ⟨nofun, nofun⟩
    · exact Iff.rfl
  · rw [hput]
    split
    · rfl
    · exact hq

/-! ## Writing -/

theorem keeps_makeAt (t : FileTree) (place : List String) :
    Keeps (fun _ => False) t (t.makeAt place).1 := by
  unfold makeAt
  split
  · next h =>
    split
    · exact keeps_put_directory h
    · exact .refl _ t
  · exact .refl _ t
  · exact .refl _ t

theorem keeps_makeAll (fuel : Nat) (t : FileTree) (p : Path) :
    Keeps (fun _ => False) t (makeAll fuel t p).1 := by
  induction fuel generalizing t p with
  | zero =>
    unfold makeAll
    split
    · exact keeps_makeAt t _
    · contradiction
    · exact .refl _ t
    · exact .refl _ t
  | succ fuel ih =>
    unfold makeAll
    split
    · exact keeps_makeAt t _
    · next hfuel =>
      cases hfuel
      have hparent := ih t p.parent
      split
      · next hmade =>
        rw [hmade] at hparent
        exact hparent
      · next hmade =>
        rw [hmade] at hparent
        split
        · exact hparent.trans (keeps_makeAt _ _)
        · exact hparent
    · contradiction
    · exact .refl _ t

theorem keeps_makeDirectories (t : FileTree) (p : Path) :
    Keeps (fun _ => False) t (t.makeDirectories p).1 := keeps_makeAll depthLimit t p

theorem openFile_eq_ok {p : Path} {place : List String} (h : t.openFile p false = .ok (t', place)) :
    t.placeOf p = .ok place ∧ t.entryAt? place ≠ some .directory
      ∧ t' = t.put place (.file .empty) := by
  obtain ⟨q, hq, h⟩ := bind_eq_ok.mp h
  split at h
  · exact nomatch h
  · next hentry =>
    split at h
    · cases h
      exact ⟨hq, by rw [hentry]; exact nofun, rfl⟩
    · exact nomatch h
  · next hentry =>
    split at h
    · cases h
      exact ⟨hq, by rw [hentry]; exact nofun, rfl⟩
    · exact nomatch h

theorem append_of_file {old : ByteArray} (h : t.entryAt? place = some (.file old))
    (bytes : ByteArray) : t.append place bytes = t.put place (.file (old ++ bytes)) := by
  rw [append, h]

theorem keeps_append {old : ByteArray} (h : t.entryAt? place = some (.file old))
    (bytes : ByteArray) : Keeps (· = place) t (t.append place bytes) := by
  rw [append_of_file h]
  exact keeps_put_file (by rw [h]; exact nofun) _

theorem entryAt?_append {old : ByteArray} (h : t.entryAt? place = some (.file old))
    (bytes : ByteArray) :
    (t.append place bytes).entryAt? place = some (.file (old ++ bytes)) := by
  rw [append_of_file h, entryAt?_put (by rw [h]; exact nofun), if_pos rfl]

/-! ## Where paths lead -/

theorem walk_append (t : FileTree) (place parts more : List String) :
    t.walk place (parts ++ more) = t.walk place parts >>= fun q => t.walk q more := by
  induction parts generalizing place with
  | nil => rfl
  | cons part rest ih =>
    rw [List.cons_append, walk, walk]
    split
    · rfl
    · rfl
    · split
      · rfl
      · split
        · rfl
        · split <;> exact ih _

theorem walk_cons_eq_ok {part : String} {rest q : List String} :
    t.walk place (part :: rest) = .ok q ↔
      t.entryAt? place = some .directory ∧ t.permits .enter place = true
      ∧ ¬ nameLimit < (byteCount? part.toList).getD 0
      ∧ t.walk (if part = ".." then enclosing place else place ++ [part]) rest = .ok q := by
  rw [walk]
  split
  · next h => simp [h]
  · next h => simp [h]
  · next h =>
    cases henter : t.permits .enter place with
    | false => simp
    | true =>
      by_cases hlong : nameLimit < (byteCount? part.toList).getD 0
      · simp [hlong]
      · simp only [h, hlong, Bool.not_true, Bool.false_eq_true, if_false, not_false_iff, true_and]
        split <;> rfl

theorem walk_of_keeps (h : Keeps places t t') {parts q : List String}
    (hwalk : t.walk place parts = .ok q) : t'.walk place parts = .ok q := by
  induction parts generalizing place with
  | nil => exact hwalk
  | cons part rest ih =>
    obtain ⟨hdirectory, henter, hshort, hrest⟩ := walk_cons_eq_ok.mp hwalk
    rw [← h.permits_eq] at henter
    exact walk_cons_eq_ok.mpr ⟨h.directories place hdirectory, henter, hshort, ih hrest⟩

/-- Which files there are decides whether a path leads anywhere, but not where. -/
theorem walk_unique {parts q q' : List String} (h : t.walk place parts = .ok q)
    (h' : t'.walk place parts = .ok q') : q = q' := by
  induction parts generalizing place with
  | nil => exact Except.ok.inj (h.symm.trans h')
  | cons part rest ih => exact ih (walk_cons_eq_ok.mp h).2.2.2 (walk_cons_eq_ok.mp h').2.2.2

theorem eq_append_of_walk {parts q : List String} (hdown : ∀ part ∈ parts, part ≠ "..")
    (h : t.walk place parts = .ok q) : q = place ++ parts := by
  induction parts generalizing place with
  | nil =>
    cases h
    exact (List.append_nil _).symm
  | cons part rest ih =>
    have hrest := (walk_cons_eq_ok.mp h).2.2.2
    rw [if_neg (hdown part List.mem_cons_self)] at hrest
    rw [ih (fun q hq => hdown q (List.mem_cons_of_mem part hq)) hrest, List.append_assoc]
    rfl

theorem reason_of_walk {parts : List String} {r : Reason} (h : t.walk place parts = .error r) :
    r = .noEntry ∨ r = .notDirectory ∨ r = .denied ∨ r = .nameTooLong := by
  induction parts generalizing place with
  | nil => exact nomatch h
  | cons part rest ih =>
    rw [walk] at h
    split at h
    · cases h
      exact .inl rfl
    · cases h
      exact .inr (.inl rfl)
    · split at h
      · cases h
        exact .inr (.inr (.inl rfl))
      · split at h
        · cases h
          exact .inr (.inr (.inr rfl))
        · split at h <;> exact ih h

/-- What is asked of a path before it is looked up. -/
def Path.IsUsable (p : Path) : Prop :=
  ∃ count, byteCount? p.text.toList = some count ∧ p.text.toList.contains '\x00' = false
    ∧ ¬ pathLimit ≤ count

theorem placeOf_eq_ok {p : Path} {q : List String} : t.placeOf p = .ok q ↔
    p.IsUsable ∧ t.walk (if p.root = "" then [] else ["/"]) p.parts = .ok q := by
  unfold placeOf Path.IsUsable
  cases byteCount? p.text.toList with
  | none => simp
  | some count =>
    cases p.text.toList.contains '\x00' with
    | true => simp
    | false =>
      by_cases hlong : pathLimit ≤ count
      · simp [hlong, Nat.not_lt.mpr hlong]
      · simp [hlong, Nat.not_le.mp hlong]

theorem placeOf_of_keeps (h : Keeps places t t') {p : Path} {q : List String}
    (hp : t.placeOf p = .ok q) : t'.placeOf p = .ok q := by
  obtain ⟨husable, hwalk⟩ := placeOf_eq_ok.mp hp
  exact placeOf_eq_ok.mpr ⟨husable, walk_of_keeps h hwalk⟩

/-- Paths into one directory lead to different places if their last parts are different. -/
theorem placeOf_ne {root : String} {base parts parts' q q' : List String}
    (hdown : ∀ part ∈ parts, part ≠ "..") (hdown' : ∀ part ∈ parts', part ≠ "..")
    (hne : parts ≠ parts') (h : t.placeOf ⟨root, base ++ parts⟩ = .ok q)
    (h' : t'.placeOf ⟨root, base ++ parts'⟩ = .ok q') : q ≠ q' := by
  have hwalk := (placeOf_eq_ok.mp h).2
  have hwalk' := (placeOf_eq_ok.mp h').2
  dsimp only at hwalk hwalk'
  rw [walk_append] at hwalk hwalk'
  obtain ⟨middle, hbase, hlast⟩ := bind_eq_ok.mp hwalk
  obtain ⟨middle', hbase', hlast'⟩ := bind_eq_ok.mp hwalk'
  rw [walk_unique hbase hbase', eq_append_of_walk hdown hlast] at *
  rw [eq_append_of_walk hdown' hlast']
  exact fun heq => hne (List.append_cancel_left heq)

/-! ## Trees of the same shape -/

def Entry.isDirectory : Entry → Bool
  | .directory => true
  | .file _ => false

/-- The same places have entries, the same of them are directories, and the rights are the same. -/
structure SameShape (t t' : FileTree) : Prop where
  permits_eq : t'.permits = t.permits
  entries : ∀ place,
    (t'.entryAt? place).map Entry.isDirectory = (t.entryAt? place).map Entry.isDirectory

theorem SameShape.refl (t : FileTree) : SameShape t t := ⟨rfl, fun _ => rfl⟩

theorem SameShape.trans (h : SameShape t t') (h' : SameShape t' t'') : SameShape t t'' :=
  ⟨h'.permits_eq.trans h.permits_eq, fun place => (h'.entries place).trans (h.entries place)⟩

theorem sameShape_append {old : ByteArray} (h : t.entryAt? place = some (.file old))
    (bytes : ByteArray) : SameShape t (t.append place bytes) := by
  rw [append_of_file h]
  refine ⟨rfl, fun q => ?_⟩
  rw [entryAt?_put (by rw [h]; exact nofun)]
  split
  · next hq =>
    rw [hq, h]
    rfl
  · rfl

theorem walk_of_sameShape (h : SameShape t t') (place parts : List String) :
    t'.walk place parts = t.walk place parts := by
  induction parts generalizing place with
  | nil => rfl
  | cons part rest ih =>
    have hshape := h.entries place
    rw [walk, walk, h.permits_eq]
    cases hold : t.entryAt? place with
    | none =>
      rw [hold, Option.map_none, Option.map_eq_none_iff] at hshape
      rw [hshape]
    | some e =>
      obtain ⟨e', hnew, hkind⟩ := Option.map_eq_some_iff.mp (hshape.trans (by rw [hold]; rfl))
      rw [hnew]
      cases e <;> cases e'
      · rfl
      · exact nomatch hkind
      · exact nomatch hkind
      · simp only [ih]

theorem isThere_of_sameShape (h : SameShape t t') (p : Path) : t'.isThere p = t.isThere p := by
  have hplace : t'.placeOf p = t.placeOf p := by
    unfold placeOf
    rw [walk_of_sameShape h]
  unfold isThere lookUp
  rw [hplace]
  cases t.placeOf p with
  | error r => rfl
  | ok q =>
    have hshape := h.entries q
    rw [ok_bind, ok_bind]
    cases hold : t.entryAt? q with
    | none =>
      rw [hold, Option.map_none, Option.map_eq_none_iff] at hshape
      rw [hshape]
    | some e =>
      obtain ⟨e', hnew, -⟩ := Option.map_eq_some_iff.mp (hshape.trans (by rw [hold]; rfl))
      rw [hnew]

theorem lookUp_eq_ok {p : Path} {q : List String} {e : Entry} :
    t.lookUp p = .ok (q, e) ↔ t.placeOf p = .ok q ∧ t.entryAt? q = some e := by
  rw [lookUp, bind_eq_ok]
  constructor
  · rintro ⟨q', hq', h⟩
    split at h
    · next hentry =>
      cases h
      exact ⟨hq', hentry⟩
    · exact nomatch h
  · rintro ⟨hq, hentry⟩
    exact ⟨q, hq, by rw [hentry]⟩

theorem read_eq_ok {p : Path} {bytes : ByteArray} :
    t.read p = .ok bytes ↔
      ∃ q, t.placeOf p = .ok q ∧ t.entryAt? q = some (.file bytes)
        ∧ t.permits .read q = true := by
  rw [read, bind_eq_ok]
  constructor
  · rintro ⟨⟨q, e⟩, hlookUp, h⟩
    obtain ⟨hq, hentry⟩ := lookUp_eq_ok.mp hlookUp
    dsimp only at h
    split at h
    · exact nomatch h
    · next hread =>
      cases e with
      | file _ =>
        cases h
        exact ⟨q, hq, hentry, by simpa using hread⟩
      | directory => exact nomatch h
  · rintro ⟨q, hq, hentry, hread⟩
    exact ⟨(q, .file bytes), lookUp_eq_ok.mpr ⟨hq, hentry⟩, by simp [hread]⟩

/-- A name that is too long, and a directory on the way that may not be entered, leave open whether
something is there. -/
theorem reason_of_isThere {p : Path} {r : Reason} (h : t.isThere p = .error r) :
    r = .nameTooLong ∨ r = .denied := by
  unfold isThere at h
  split at h
  · exact nomatch h
  · next reason hlookUp =>
    split at h
    · exact nomatch h
    · next hpresence =>
      cases h
      rcases bind_eq_error.mp hlookUp with hplace | ⟨q, -, hentry⟩
      · unfold placeOf at hplace
        split at hplace
        · cases hplace
          exact absurd rfl hpresence
        · split at hplace
          · cases hplace
            exact absurd rfl hpresence
          · split at hplace
            · cases hplace
              exact .inl rfl
            · rcases reason_of_walk hplace with rfl | rfl | rfl | rfl
              · exact absurd rfl hpresence
              · exact absurd rfl hpresence
              · exact .inr rfl
              · exact .inl rfl
      · split at hentry
        · exact nomatch hentry
        · cases hentry
          exact absurd rfl hpresence

theorem isThere_of_read {p : Path} {bytes : ByteArray} (h : t.read p = .ok bytes) :
    t.isThere p = .ok true := by
  obtain ⟨e, hlookUp, -⟩ := bind_eq_ok.mp h
  rw [isThere, hlookUp]

end FileTree
end JavaCompanion
