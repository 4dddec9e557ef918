/-
Faults of loading a file.

A file is loaded as the value that its text writes.  It is refused, for a documented cause, if it is
missing, cannot be read or is no JSON (`outcome_fromFile`).  Some causes are not documented: a name
too long for the file system, a directory that may not be entered, bytes that are no text, a number
of too many digits, and values nested too deeply.  All faults are documented exactly for a file
without any of these (`documented_iff`).
-/
import JavaCompanion.Loading.Document
import JavaCompanion.Proofs.Session

namespace JavaCompanion
namespace Loading

open FileTree Step

/-! ## Reading -/

/-- The faults that are made of a refusal by the file system and of a text that is no JSON. -/
structure Wording where
  refused : Refusal → Fault
  malformed : Json.Malformed → Fault

/-- The value that a file holds, or why it is not read. -/
def contentAt (w : Wording) (t : FileTree) (p : Path) : Except Fault Value :=
  match t.read p with
  | .error reason => .error (w.refused ⟨reason, p.text⟩)
  | .ok bytes =>
    match decodeLines bytes with
    | none => .error .undecodable
    | some text =>
      match Json.read text with
      | .ok v => .ok v
      | .error f => .error (.ofUnread w.malformed f)

/-- The wording for a file of descriptors. -/
def wordingOf (p : Path) : Wording where
  refused r := .loading (.fileRefused p.text r)
  malformed m := .loading (.fileMalformed p.text m)

/-- The bytes of the file are a text that writes the value. -/
def Holds (t : FileTree) (p : Path) (v : Value) : Prop :=
  ∃ bytes text, t.read p = .ok bytes ∧ decodeLines bytes = some text ∧ Json.read text = .ok v

/-- The session when the file is read: that it will be, and a suffix that is not the one of JSON,
has been logged by then. -/
def whenRead (s : Session) (p : Path) : Session :=
  let begun := s.log ⟨.debug, Log.loadingLogger, "Loading descriptors from file: " ++ p.text⟩
  if Text.lower p.suffix != ".json" then
    begun.log ⟨.warning, Log.loadingLogger, "File does not have .json extension: " ++ p.text⟩
  else begun

section Files

variable {s : Session} {t : FileTree} {p : Path} {w : Wording} {f : Fault} {v : Value}

/-- Without a log file, what is logged leaves the files as they are. -/
theorem tree_whenRead (h : s.logFile = none) (p : Path) : (whenRead s p).tree = s.tree := by
  have hlog : ∀ (s : Session) (r : Log.Record), s.logFile = none →
      (s.log r).tree = s.tree ∧ (s.log r).logFile = none := fun s r h => by
    simp only [Session.log, h, and_self]
  obtain ⟨htree, hfile⟩ :=
    hlog s ⟨.debug, Log.loadingLogger, "Loading descriptors from file: " ++ p.text⟩ h
  unfold whenRead
  dsimp only
  split
  · exact (hlog _ _ hfile).1.trans htree
  · exact htree

theorem contentAt_eq_ok : contentAt w t p = .ok v ↔ Holds t p v := by
  unfold contentAt Holds
  cases t.read p with
  | error reason => simp
  | ok bytes =>
    cases hdecode : decodeLines bytes with
    | none => simp [hdecode]
    | some text => cases hjson : Json.read text <;> simp [hdecode, hjson]

theorem holds_unique {v' : Value} (h : Holds t p v) (h' : Holds t p v') : v = v' := by
  obtain ⟨bytes, text, hread, hdecode, hjson⟩ := h
  obtain ⟨bytes', text', hread', hdecode', hjson'⟩ := h'
  cases hread.symm.trans hread'
  cases hdecode.symm.trans hdecode'
  exact Except.ok.inj (hjson.symm.trans hjson')

theorem gives_note (level : Log.Level) (message : String) :
    Gives (note level message) s () (s.log ⟨level, Log.loadingLogger, message⟩) := rfl

theorem outcome_contentOf_of_refused {reason : Reason} (h : s.tree.read p = .error reason) :
    outcome (contentOf p) s = .error (.loading (.fileRefused p.text ⟨reason, p.text⟩)) := by
  rw [contentOf, outcome_bind_of_gives (gives_tree s), h]
  rfl

theorem outcome_contentOf_of_undecodable {bytes : ByteArray} (h : s.tree.read p = .ok bytes)
    (hdecode : decodeLines bytes = none) : outcome (contentOf p) s = .error .undecodable := by
  rw [contentOf, outcome_bind_of_gives (gives_tree s), h]
  dsimp only
  rw [hdecode]
  rfl

theorem gives_contentOf {bytes : ByteArray} {text : String} (h : s.tree.read p = .ok bytes)
    (hdecode : decodeLines bytes = some text) : Gives (contentOf p) s text s := by
  refine gives_bind.mpr ⟨s.tree, s, gives_tree s, ?_⟩
  rw [h]
  dsimp only
  rw [hdecode]
  exact gives_pure.mpr ⟨rfl, rfl⟩

theorem outcome_content (s : Session) (p : Path) (rest : Value → Step Loaded)
    (hrest : ∀ v s', outcome (rest v) s' = .ok ⟨p.text, v⟩) :
    outcome (do rest (← dataIn p (← contentOf p))) s
      = (contentAt (wordingOf p) s.tree p).map (Loaded.mk p.text) := by
  unfold contentAt
  cases hread : s.tree.read p with
  | error reason => exact outcome_bind_of_fault (outcome_contentOf_of_refused hread)
  | ok bytes =>
    cases hdecode : decodeLines bytes with
    | none =>
      simp only [hdecode]
      exact outcome_bind_of_fault (outcome_contentOf_of_undecodable hread hdecode)
    | some text =>
      simp only [hdecode]
      rw [outcome_bind_of_gives (gives_contentOf hread hdecode), dataIn]
      cases Json.read text with
      | ok v => exact hrest v s
      | error f => cases f <;> rfl

/-- What is logged on the way changes no name of a file, but it may change the file that is read. -/
theorem outcome_fromFile (h : s.LogStands) (name : String) :
    outcome (fromFile name) s =
      match s.tree.isThere (.ofString name) with
      | .error reason => .error (.system ⟨reason, (Path.ofString name).text⟩)
      | .ok false => .error (.fileMissing (Path.ofString name).text)
      | .ok true =>
        (contentAt (wordingOf (.ofString name)) (whenRead s (.ofString name)).tree
          (.ofString name)).map (Loaded.mk (Path.ofString name).text) := by
  have hthere := isThere_of_sameShape (Session.sameShape_log h
    ⟨.debug, Log.loadingLogger, "Loading descriptors from file: " ++ (Path.ofString name).text⟩)
  rw [fromFile, outcome_bind_of_gives (gives_note _ _), outcome_bind_of_gives (gives_tree _),
    hthere]
  cases s.tree.isThere (.ofString name) with
  | error reason => exact outcome_fail _ _
  | ok there =>
    cases there with
    | false => exact (outcome_bind_of_gives (gives_note _ _)).trans (outcome_fail _ _)
    | true =>
      unfold whenRead
      dsimp only
      split
      · exact (outcome_bind_of_gives (gives_note _ _)).trans
          (outcome_content _ _ _ fun v s' => outcome_bind_of_gives (gives_note _ _))
      · exact outcome_content _ _ _ fun v s' => outcome_bind_of_gives (gives_note _ _)

/-! ## Documented faults -/

/-- If the text is not read, it is malformed, and not beyond a limit. -/
def WithinLimits (text : String) : Prop :=
  ∀ f, Json.read text = .error f → ∃ m, f = .malformed m

/-- The bytes of the file, if there is one, are a text within the limits. -/
def Legible (t : FileTree) (p : Path) : Prop :=
  ∀ bytes, t.read p = .ok bytes → ∃ text, decodeLines bytes = some text ∧ WithinLimits text

/-- The faults that nothing is documented of. -/
def IsStray (p : Path) (f : Fault) : Prop :=
  (∃ r, (r = .nameTooLong ∨ r = .denied) ∧ f = .system ⟨r, p.text⟩)
    ∨ f = .undecodable ∨ f = .tooManyDigits ∨ f = .tooDeep

theorem not_withinLimits {text : String} {unread : Json.Unread}
    (h : Json.read text = .error unread) (hlimit : ∀ m, unread ≠ .malformed m) :
    ¬ WithinLimits text := fun hlimits => by
  obtain ⟨m, hm⟩ := hlimits unread h
  exact hlimit m hm

theorem legible_iff {bytes : ByteArray} {text : String} (hread : t.read p = .ok bytes)
    (hdecode : decodeLines bytes = some text) : Legible t p ↔ WithinLimits text := by
  refine ⟨fun hlegible => ?_, fun hlimits bytes' hbytes => ?_⟩
  · obtain ⟨text', htext, hlimits⟩ := hlegible bytes hread
    rwa [Option.some.inj (hdecode.symm.trans htext)]
  · rw [Except.ok.inj (hbytes.symm.trans hread)]
    exact ⟨text, hdecode, hlimits⟩

theorem legible_of_holds (h : Holds t p v) : Legible t p := by
  obtain ⟨bytes, text, hread, hdecode, hjson⟩ := h
  exact (legible_iff hread hdecode).mpr fun f hf => nomatch hjson.symm.trans hf

/-- A file is not read for a cause that has its wording, or because it is not legible. -/
theorem contentAt_eq_error (h : contentAt w t p = .error f) :
    ((∃ r, f = w.refused r) ∨ ∃ m, f = w.malformed m) ∧ Legible t p
      ∨ IsStray p f ∧ ¬ Legible t p := by
  unfold contentAt at h
  cases hread : t.read p with
  | error reason =>
    rw [hread] at h
    cases h
    exact .inl ⟨.inl ⟨_, rfl⟩, fun bytes hbytes => nomatch hread.symm.trans hbytes⟩
  | ok bytes =>
    rw [hread] at h
    dsimp only at h
    cases hdecode : decodeLines bytes with
    | none =>
      rw [hdecode] at h
      cases h
      refine .inr ⟨.inr (.inl rfl), fun hlegible => ?_⟩
      obtain ⟨text, htext, -⟩ := hlegible bytes hread
      exact nomatch hdecode.symm.trans htext
    | some text =>
      rw [hdecode] at h
      dsimp only at h
      rw [legible_iff hread hdecode]
      cases hjson : Json.read text with
      | ok v =>
        rw [hjson] at h
        exact nomatch h
      | error unread =>
        rw [hjson] at h
        cases h
        cases unread with
        | malformed m =>
          exact .inl ⟨.inr ⟨m, rfl⟩, fun g hg => ⟨m, (Except.error.inj (hjson.symm.trans hg)).symm⟩⟩
        | tooManyDigits count =>
          exact .inr ⟨.inr (.inr (.inl rfl)), not_withinLimits hjson fun m hm => nomatch hm⟩
        | tooDeep =>
          exact .inr ⟨.inr (.inr (.inr rfl)), not_withinLimits hjson fun m hm => nomatch hm⟩

/-- The faults that are documented for files: the file is missing, or it cannot be loaded. -/
def IsDocumented : Fault → Prop
  | .fileMissing _ | .loading _ => True
  | _ => False

/-- Whether there is a file of the name, and what the file says, if there is one, can be
answered. -/
structure Answerable (t : FileTree) (p : Path) : Prop where
  presence : ∀ r, t.isThere p ≠ .error r
  content : Legible t p

theorem answerable_of_holds (h : Holds t p v) : Answerable t p := by
  refine ⟨?_, legible_of_holds h⟩
  obtain ⟨bytes, _, hread, -⟩ := h
  rw [isThere_of_read hread]
  exact fun r => nofun

theorem not_documented_of_isStray (h : IsStray p f) : ¬ IsDocumented f := by
  rcases h with ⟨r, -, rfl⟩ | rfl | rfl | rfl <;> exact id

theorem isThere_whenRead (h : s.LogStands) : (whenRead s p).tree.isThere p = s.tree.isThere p := by
  let begun : Log.Record :=
    ⟨.debug, Log.loadingLogger, "Loading descriptors from file: " ++ p.text⟩
  have hbegun := Session.sameShape_log h begun
  have hstands := ((Session.reports_log s begun).tree h).2
  unfold whenRead
  dsimp only
  split
  · exact isThere_of_sameShape (hbegun.trans (Session.sameShape_log hstands _)) p
  · exact isThere_of_sameShape hbegun p

/-- A document is what the file holds, under the path of the file. -/
theorem fromFile_eq_ok (h : s.LogStands) {name : String} {d : Loaded} :
    outcome (fromFile name) s = .ok d ↔ d.source = (Path.ofString name).text
      ∧ Holds (whenRead s (.ofString name)).tree (.ofString name) d.data := by
  have hthere := isThere_whenRead (p := .ofString name) h
  have hread : Holds (whenRead s (.ofString name)).tree (.ofString name) d.data →
      s.tree.isThere (.ofString name) = .ok true := fun ⟨_, _, hread, _⟩ =>
    hthere.symm.trans (isThere_of_read hread)
  rw [outcome_fromFile h]
  split
  · next hreason => exact ⟨nofun, fun hd => nomatch hreason.symm.trans (hread hd.2)⟩
  · next hmissing => exact ⟨nofun, fun hd => nomatch hmissing.symm.trans (hread hd.2)⟩
  · rw [← contentAt_eq_ok (w := wordingOf (.ofString name))]
    cases contentAt (wordingOf (.ofString name)) (whenRead s (.ofString name)).tree
      (.ofString name) with
    | error f => exact ⟨nofun, fun hd => nomatch hd.2⟩
    | ok v =>
      refine ⟨fun hd => ?_, fun hd => ?_⟩
      · cases hd
        exact ⟨rfl, rfl⟩
      · obtain ⟨source, data⟩ := d
        obtain ⟨rfl, hdata⟩ := hd
        cases hdata
        rfl

/-- A fault of loading is documented, or the file cannot be answered. -/
theorem fromFile_eq_error (h : s.LogStands) {name : String}
    (hfault : outcome (fromFile name) s = .error f) :
    IsDocumented f ∧ Answerable (whenRead s (.ofString name)).tree (.ofString name)
      ∨ IsStray (.ofString name) f
        ∧ ¬ Answerable (whenRead s (.ofString name)).tree (.ofString name) := by
  have hthere := isThere_whenRead (p := .ofString name) h
  rw [outcome_fromFile h] at hfault
  split at hfault
  · next reason hreason =>
    cases hfault
    exact .inr ⟨.inl ⟨reason, reason_of_isThere hreason, rfl⟩,
      fun hanswer => hanswer.presence reason (hthere.trans hreason)⟩
  · next hmissing =>
    cases hfault
    refine .inl ⟨trivial, fun r => by rw [hthere, hmissing]; exact nofun, fun bytes hbytes => ?_⟩
    exact nomatch hmissing.symm.trans (hthere.symm.trans (isThere_of_read hbytes))
  · next hfound =>
    have hcontent : contentAt (wordingOf (.ofString name)) (whenRead s (.ofString name)).tree
        (.ofString name) = .error f := by
      cases hcontent : contentAt (wordingOf (.ofString name))
          (whenRead s (.ofString name)).tree (.ofString name) with
      | error g =>
        rw [hcontent] at hfault
        cases hfault
        rfl
      | ok v =>
        rw [hcontent] at hfault
        exact nomatch hfault
    have hpresence : ∀ r, (whenRead s (.ofString name)).tree.isThere (.ofString name)
        ≠ .error r := fun r => by
      rw [hthere, hfound]
      exact nofun
    rcases contentAt_eq_error hcontent with ⟨hworded, hlegible⟩ | ⟨hstray, hillegible⟩
    · refine .inl ⟨?_, hpresence, hlegible⟩
      rcases hworded with ⟨r, rfl⟩ | ⟨m, rfl⟩ <;> trivial
    · exact .inr ⟨hstray, fun hanswer => hillegible hanswer.content⟩

theorem documented_iff (h : s.LogStands) (name : String) :
    (∀ f, outcome (fromFile name) s = .error f → IsDocumented f)
      ↔ Answerable (whenRead s (.ofString name)).tree (.ofString name) := by
  refine forall_error_iff (fun d hd => answerable_of_holds ((fromFile_eq_ok h).mp hd).2)
    fun f hf => ?_
  exact (fromFile_eq_error h hf).imp_right fun ⟨hstray, hnone⟩ =>
    ⟨not_documented_of_isStray hstray, hnone⟩

end Files

end Loading
end JavaCompanion
