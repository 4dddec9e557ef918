/-
Where a filer puts sources.

The file for a qualified name has the parts of the name for the last parts of its path, so
different names have different files (`ne_of_placeOf`).  An attempt to write a source fails at
the claim, or it is refused by the file system, or the file holds the source afterwards and no
other file has changed (`holds_of_writeToDisk`).
-/
import JavaCompanion.Output.Filer
import JavaCompanion.Proofs.FileTree.Keeping
import JavaCompanion.Proofs.Java.Identifier
import JavaCompanion.Proofs.Text.Parts
import Mathlib.Data.List.Infix
import Mathlib.Data.List.TakeWhile

namespace JavaCompanion

namespace FileTree

/-! ## Paths of names -/

/-- A text whose parts between slashes all lead on is a relative path of these parts. -/
theorem ofString_of_isStep {s : String} (h : ∀ part ∈ Text.splitAt '/' s, Path.isStep part = true) :
    Path.ofString s = ⟨"", Text.splitAt '/' s⟩ := by
  have hroot : s.toList.takeWhile (· = '/') = [] := by
    rw [List.takeWhile_eq_nil_iff]
    intro hlength heq
    obtain ⟨rest, hs⟩ : ∃ rest, s.toList = '/' :: rest := by
      cases hcs : s.toList with
      | nil => simp [hcs] at hlength
      | cons c rest =>
        simp only [hcs, List.get_eq_getElem, List.getElem_cons_zero, decide_eq_true_eq] at heq
        exact ⟨rest, by rw [heq]⟩
    have hempty : "" ∈ Text.splitAt '/' s := by
      rw [Text.splitAt, hs, Text.parts, if_pos rfl]
      exact List.mem_cons_self
    exact absurd (h "" hempty) (by decide)
  rw [Path.ofString, Path.rootOf, hroot, List.filter_eq_self.mpr h]
  rfl

theorem ofString_of_isIdentifier {s : String} (h : Java.isIdentifier s = true) :
    Path.ofString s = ⟨"", [s]⟩ := by
  have hslash : '/' ∉ s.toList := Java.not_mem_of_isIdentifier h rfl (by decide)
  have hdot : '.' ∉ s.toList := Java.not_mem_of_isIdentifier h rfl (by decide)
  have hsplit : Text.splitAt '/' s = [s] := by
    rw [Text.splitAt, Text.parts_of_not_mem hslash, List.map_singleton, String.ofList_toList]
  have hstep : Path.isStep s = true := by
    have hempty : s ≠ "" := by
      rintro rfl
      exact (Java.mem_of_isIdentifier h).1 rfl
    have hstay : s ≠ "." := by
      rintro rfl
      exact hdot (List.mem_singleton.mpr rfl)
    simp [Path.isStep, hempty, hstay]
  rw [ofString_of_isStep] <;> rw [hsplit]
  exact List.forall_mem_singleton.mpr hstep

theorem foldl_join {ids : List String} (h : ∀ id ∈ ids, Java.isIdentifier id = true) (p : Path) :
    (ids.map Path.ofString).foldl Path.join p = ⟨p.root, p.parts ++ ids⟩ := by
  induction ids generalizing p with
  | nil => rw [List.append_nil]; rfl
  | cons id rest ih =>
    rw [List.map_cons, List.foldl_cons, ofString_of_isIdentifier (h id List.mem_cons_self),
      Path.join_of_relative rfl, ih fun q hq => h q (List.mem_cons_of_mem id hq)]
    simp

theorem splitSuffix_of_isIdentifier {s : String} (h : Java.isIdentifier s = true) :
    Path.splitSuffix s = (s, "") := by
  have hdot : '.' ∉ s.toList := Java.not_mem_of_isIdentifier h rfl (by decide)
  have hfront : s.toList.reverse.dropWhile (· != '.') = [] := by
    rw [List.dropWhile_eq_nil_iff]
    intro c hc
    exact bne_iff_ne.mpr fun heq => hdot (heq ▸ List.mem_reverse.mp hc)
  simp [Path.splitSuffix, hfront]

end FileTree

namespace Output

open FileTree

/-- The last parts of the path for a qualified name. -/
def fileParts (extension name : String) : List String :=
  (Text.splitAt '.' name).dropLast ++ [(Text.splitAt '.' name).getLast?.getD "" ++ extension]

theorem fileParts_injective {extension name name' : String}
    (h : fileParts extension name = fileParts extension name') : name = name' := by
  obtain ⟨hinit, hlast⟩ := List.append_inj' h rfl
  have hlast : (Text.splitAt '.' name).getLast?.getD ""
      = (Text.splitAt '.' name').getLast?.getD "" := by
    rw [List.singleton_inj, ← String.toList_inj, String.toList_append, String.toList_append]
      at hlast
    exact String.toList_inj.mp (List.append_cancel_right hlast)
  have hwhole : ∀ s : String, Text.splitAt '.' s
      = (Text.splitAt '.' s).dropLast ++ [(Text.splitAt '.' s).getLast?.getD ""] := by
    intro s
    have hne := Text.splitAt_ne_nil '.' s
    rw [List.getLast?_eq_some_getLast hne, Option.getD_some, List.dropLast_append_getLast hne]
  exact Text.splitAt_injective (by rw [hwhole name, hwhole name', hinit, hlast])

theorem isIdentifier_of_mem {name id : String} (h : Java.isQualifiedName name = true)
    (hid : id ∈ Text.splitAt '.' name) : Java.isIdentifier id = true :=
  List.all_eq_true.mp h id hid

theorem isIdentifier_getLast {name : String} (h : Java.isQualifiedName name = true) :
    Java.isIdentifier ((Text.splitAt '.' name).getLast?.getD "") = true := by
  have hne := Text.splitAt_ne_nil '.' name
  rw [List.getLast?_eq_some_getLast hne]
  exact isIdentifier_of_mem h (List.getLast_mem hne)

/-- No part of the file for a name leads up. -/
theorem fileParts_ne_up {extension name : String} (h : Java.isQualifiedName name = true) :
    ∀ part ∈ fileParts extension name, part ≠ ".." := by
  have hup : ∀ id : String, Java.isIdentifier id = true → ∀ more, id ++ more ≠ ".." := by
    intro id hid more heq
    have hdot : '.' ∉ id.toList := Java.not_mem_of_isIdentifier hid rfl (by decide)
    have hlist := congrArg String.toList heq
    rw [String.toList_append] at hlist
    cases hcs : id.toList with
    | nil => exact (Java.mem_of_isIdentifier hid).1 hcs
    | cons c rest =>
      rw [hcs, List.cons_append] at hlist
      rw [hcs, (List.cons.inj hlist).1] at hdot
      exact hdot List.mem_cons_self
  intro part hpart
  rcases List.mem_append.mp hpart with hinit | hlast
  · have hid := isIdentifier_of_mem h (List.mem_of_mem_dropLast hinit)
    have hne := hup part hid ""
    rwa [String.append_empty] at hne
  · rw [List.mem_singleton.mp hlast]
    exact hup _ (isIdentifier_getLast h) extension

theorem pathFor?_eq_some {f : Filer} {name : String} {p : Path}
    (hname : Java.isQualifiedName name = true) (h : f.pathFor? name = some p) :
    p = ⟨f.directory.root, f.directory.parts ++ fileParts f.extension name⟩ := by
  have hne := Text.splitAt_ne_nil '.' name
  have hjoined := foldl_join (fun id hid => isIdentifier_of_mem hname hid) f.directory
  unfold Filer.pathFor? Path.withSuffix? at h
  dsimp only at h
  rw [hjoined] at h
  split at h
  · cases h
    have hlast : Path.name ⟨f.directory.root, f.directory.parts ++ Text.splitAt '.' name⟩
        = (Text.splitAt '.' name).getLast?.getD "" := by
      rw [Path.name, List.getLast?_append, List.getLast?_eq_some_getLast hne]
      rfl
    rw [hlast, splitSuffix_of_isIdentifier (isIdentifier_getLast hname),
      List.dropLast_append_of_ne_nil hne, List.append_assoc]
    rfl
  · exact nomatch h

/-- Different names have their files in different places. -/
theorem ne_of_placeOf {f : Filer} {name name' : String} {p p' : Path} {t t' : FileTree}
    {q q' : List String} (hvalid : Java.isQualifiedName name = true)
    (hvalid' : Java.isQualifiedName name' = true) (hne : name ≠ name')
    (hp : f.pathFor? name = some p) (hp' : f.pathFor? name' = some p')
    (h : t.placeOf p = .ok q) (h' : t'.placeOf p' = .ok q') : q ≠ q' := by
  rw [pathFor?_eq_some hvalid hp] at h
  rw [pathFor?_eq_some hvalid' hp'] at h'
  exact placeOf_ne (fileParts_ne_up hvalid) (fileParts_ne_up hvalid')
    (fun heq => hne (fileParts_injective heq)) h h'

/-! ## Attempts -/

/-- The filer once a name has been claimed. -/
def Filer.claimed (f : Filer) (name : String) (origins : List String) : Filer :=
  { f with created := f.created ++ [(name, origins)] }

theorem claim_eq_ok_iff {f g : Filer} {name : String} {origins : List String} :
    f.claim name origins = .ok g ↔
      Java.isQualifiedName name = true ∧ f.isClaimed name = false
        ∧ g = f.claimed name origins := by
  unfold Filer.claim
  cases Java.isQualifiedName name <;> cases f.isClaimed name <;> simp [Filer.claimed, eq_comm]

/-- The file for the name holds the text. -/
def Holds (f : Filer) (t : FileTree) (name code : String) : Prop :=
  ∃ p encoding bytes place, f.pathFor? name = some p ∧ f.encoding = some encoding
    ∧ encoding.encode code = some bytes ∧ t.placeOf p = .ok place
    ∧ t.entryAt? place = some (.file (encoding.mark ++ bytes))

variable {f g : Filer} {t t' : FileTree} {name code : String} {origins : List String} {p : Path}

theorem openAt_eq_ok {place : List String} (h : openAt t p = (t', .ok place)) :
    Keeps (· = place) t t' ∧ t'.placeOf p = .ok place
      ∧ t'.entryAt? place = some (.file .empty) := by
  unfold openAt at h
  have hmade := keeps_makeDirectories t p.parent
  split at h
  · exact nomatch h
  · next made _ heq =>
    rw [heq] at hmade
    split at h
    · next hopen =>
      cases h
      obtain ⟨hplace, hentry, rfl⟩ := openFile_eq_ok hopen
      have hput := keeps_put_file hentry .empty
      exact ⟨(hmade.mono fun _ hno => hno.elim).trans hput, placeOf_of_keeps hput hplace,
        by rw [entryAt?_put hentry, if_pos rfl]⟩
    · exact nomatch h

theorem create_of_claim_error {fault : OutputFault} {texts : List String} {interrupted : Bool}
    (h : f.claim name origins = .error fault) :
    create f t name origins texts interrupted
      = { filer := f, tree := t, opened := false, fault := some (.output fault) } := by
  rw [create, h]

theorem create_in_memory (h : f.claim name origins = .ok g) (hmedium : f.medium = .memory) :
    create f t name origins [code] false
      = { filer := { g with sources := f.sources ++ [(name, code)] }, tree := t
          opened := true } := by
  obtain ⟨-, -, rfl⟩ := claim_eq_ok_iff.mp h
  rw [create, h]
  simp [Filer.claimed, hmedium, writeToMemory, String.join]

theorem filer_writeToDisk {texts : List String} :
    (writeToDisk f t p texts false).filer = f := by
  unfold writeToDisk
  split
  · rfl
  · split <;> rfl

/-- Once a source has been written its file holds it, and no other file has changed. -/
theorem holds_of_writeToDisk (hpath : f.pathFor? name = some p)
    (h : (writeToDisk f t p [code] false).fault = none) :
    Holds f (writeToDisk f t p [code] false).tree name code
      ∧ ∃ place, (writeToDisk f t p [code] false).tree.placeOf p = .ok place
        ∧ Keeps (· = place) t (writeToDisk f t p [code] false).tree := by
  unfold writeToDisk at h ⊢
  split at h
  · exact nomatch h
  · next opened place hopen =>
    obtain ⟨hkeeps, hplace, hentry⟩ := openAt_eq_ok hopen
    split at h
    · exact nomatch h
    · next encoding hencoding =>
      cases hbytes : encoding.encode code with
      | none =>
        simp only [writeTexts, hbytes] at h
        exact nomatch h
      | some bytes =>
        have happend := keeps_append hentry (encoding.mark ++ bytes)
        have hlast := entryAt?_append hentry (encoding.mark ++ bytes)
        have hplace' := placeOf_of_keeps happend hplace
        rw [ByteArray.empty_append] at hlast
        simp only [writeTexts, hbytes]
        exact ⟨⟨p, encoding, bytes, place, hpath, hencoding, hbytes, hplace', hlast⟩, place,
          hplace', hkeeps.trans happend⟩

theorem Holds.of_keeps {places : List String → Prop} (h : Holds f t name code)
    (hkeeps : Keeps places t t')
    (hapart : ∀ p q, f.pathFor? name = some p → t'.placeOf p = .ok q → ¬ places q) :
    Holds f t' name code := by
  obtain ⟨p, encoding, bytes, q, hp, hencoding, hbytes, hq, hentry⟩ := h
  have hq' := placeOf_of_keeps hkeeps hq
  exact ⟨p, encoding, bytes, q, hp, hencoding, hbytes, hq',
    (hkeeps.files q (hapart p q hp hq') _).mpr hentry⟩

theorem refused_of_writeToDisk {fault : OutputFault}
    (h : (writeToDisk f t p [code] false).fault = some (.output fault)) :
    ∃ path reason, fault = .refused path reason := by
  unfold writeToDisk at h
  split at h
  · next reason _ =>
    dsimp only [Fault.ofReason] at h
    split at h
    · cases h
      exact ⟨_, reason, rfl⟩
    · exact nomatch h
  · split at h
    · exact nomatch h
    · next encoding _ =>
      cases hbytes : encoding.encode code with
      | none =>
        simp only [writeTexts, hbytes] at h
        exact nomatch h
      | some bytes =>
        simp only [writeTexts, hbytes] at h
        exact nomatch h

theorem create_on_disk {texts : List String} {interrupted : Bool}
    (h : f.claim name origins = .ok g) (hmedium : f.medium = .disk) :
    create f t name origins texts interrupted =
      match f.pathFor? name with
      | none => { filer := g, tree := t, opened := false, fault := some (.unusablePath name) }
      | some p => writeToDisk g t p texts interrupted := by
  obtain ⟨-, -, rfl⟩ := claim_eq_ok_iff.mp h
  have hdisk : (f.claimed name origins).medium = .disk := hmedium
  simp only [create, h, hdisk]
  rfl

/-- The source of a name, valid and not claimed before, has been brought: the filer claims the
name, and the filer or a file holds the source. -/
structure Brings (f : Filer) (t : FileTree) (name : String) (origins : List String)
    (code : String) (a : Attempt) : Prop where
  valid : Java.isQualifiedName name = true
  unclaimed : f.isClaimed name = false
  inMemory : f.medium = .memory →
    a.filer = { f.claimed name origins with sources := f.sources ++ [(name, code)] }
  onDisk : f.medium = .disk → a.filer = f.claimed name origins ∧ Holds f a.tree name code
    ∧ ∃ p place, f.pathFor? name = some p ∧ a.tree.placeOf p = .ok place
      ∧ Keeps (· = place) t a.tree

theorem create_brings {a : Attempt} (ha : a = create f t name origins [code] false)
    (h : a.fault = none) : Brings f t name origins code a := by
  subst ha
  cases hclaim : f.claim name origins with
  | error fault =>
    rw [create_of_claim_error hclaim] at h
    cases h
  | ok g =>
    obtain ⟨hvalid, hunclaimed, rfl⟩ := claim_eq_ok_iff.mp hclaim
    refine ⟨hvalid, hunclaimed, fun hmedium => ?_, fun hmedium => ?_⟩
    · rw [create_in_memory hclaim hmedium]
    · rw [create_on_disk hclaim hmedium] at h ⊢
      cases hp : f.pathFor? name with
      | none =>
        rw [hp] at h
        cases h
      | some p =>
        rw [hp] at h
        have hclaimed : (f.claimed name origins).pathFor? name = some p := hp
        obtain ⟨hholds, place, hplace, hkeeps⟩ := holds_of_writeToDisk hclaimed h
        exact ⟨filer_writeToDisk, hholds, p, place, rfl, hplace, hkeeps⟩

/-- Unless the file system refuses, an attempt fails for the name, and nothing changes. -/
theorem create_refuses {a : Attempt} {fault : OutputFault}
    (ha : a = create f t name origins [code] false) (h : a.fault = some (.output fault))
    (hcreated : f.medium = .disk → ∀ path reason, fault ≠ .refused path reason) :
    ¬ (Java.isQualifiedName name = true ∧ f.isClaimed name = false) ∧ a.filer = f ∧ a.tree = t := by
  subst ha
  cases hclaim : f.claim name origins with
  | error fault' =>
    rw [create_of_claim_error hclaim]
    refine ⟨fun ⟨hvalid, hunclaimed⟩ => ?_, rfl, rfl⟩
    rw [claim_eq_ok_iff.mpr ⟨hvalid, hunclaimed, rfl⟩] at hclaim
    cases hclaim
  | ok g =>
    cases hmedium : f.medium with
    | memory =>
      rw [create_in_memory hclaim hmedium] at h
      cases h
    | disk =>
      rw [create_on_disk hclaim hmedium] at h
      cases hp : f.pathFor? name with
      | none =>
        rw [hp] at h
        cases h
      | some p =>
        rw [hp] at h
        obtain ⟨path, reason, hrefused⟩ := refused_of_writeToDisk h
        exact absurd hrefused (hcreated hmedium path reason)

end Output
end JavaCompanion
