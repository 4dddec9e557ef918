/-
Source files stay inside the output directory.

The parts of a qualified name are identifiers, so none of them leads up or nowhere and none holds
a slash, and with the usual extension the same goes for the last one.  A path for an accepted name
therefore goes on from the output directory by parts that lead down (`isBelow_of_pathFor`), and it
is the path that the plan of the file reports (`join_outputPath`).  Only the last part of such a
path holds a dot, so no other path runs through it (`not_isOnWayTo_of_ne`).
-/
import JavaCompanion.Generation.Outline
import JavaCompanion.Proofs.Output.Refusal

namespace JavaCompanion

namespace FileTree

/-! ## Below a directory -/

/-- A part that names something in the directory before it. -/
structure LeadsDown (part : String) : Prop where
  nonempty : part ≠ ""
  not_stay : part ≠ "."
  not_up : part ≠ ".."
  single : '/' ∉ part.toList

/-- The path goes on from the directory, and every step on leads down. -/
def Path.IsBelow (p directory : Path) : Prop :=
  ∃ parts, parts ≠ [] ∧ (∀ part ∈ parts, LeadsDown part)
    ∧ p = ⟨directory.root, directory.parts ++ parts⟩

/-- One path is the other, or a directory that the other runs through. -/
def Path.IsOnWayTo (p q : Path) : Prop := p.root = q.root ∧ p.parts <+: q.parts

/-- The place is inside of the one that the directory leads to. -/
def Inside (t : FileTree) (directory : Path) (place : List String) : Prop :=
  ∃ home rest, t.walk (if directory.root = "" then [] else ["/"]) directory.parts = .ok home
    ∧ rest ≠ [] ∧ place = home ++ rest

theorem LeadsDown.isStep {part : String} (h : LeadsDown part) : Path.isStep part = true := by
  simp [Path.isStep, h.nonempty, h.not_stay]

/-- What begins with an identifier leads down. -/
theorem leadsDown_append {id : String} (hid : Java.isIdentifier id = true) {more : String}
    (hmore : '/' ∉ more.toList) : LeadsDown (id ++ more) := by
  have hslash : '/' ∉ id.toList := Java.not_mem_of_isIdentifier hid rfl (by decide)
  have hdot : '.' ∉ id.toList := Java.not_mem_of_isIdentifier hid rfl (by decide)
  have hne := (Java.mem_of_isIdentifier hid).1
  have hbegin : ∀ s : String, (∀ c ∈ s.toList.head?, c = '.') → id ++ more ≠ s := by
    rintro s hs rfl
    rw [String.toList_append, List.head?_append_of_ne_nil _ hne] at hs
    have hhead := hs _ (List.head_mem_head? hne)
    exact hdot (hhead ▸ List.head_mem hne)
  refine ⟨hbegin "" (by simp), hbegin "." fun _ hc => (Option.some.inj hc).symm,
    hbegin ".." fun _ hc => (Option.some.inj hc).symm, ?_⟩
  rw [String.toList_append, List.mem_append, not_or]
  exact ⟨hslash, hmore⟩

/-- What a path below a directory leads to is inside of that directory. -/
theorem inside_of_placeOf {t : FileTree} {p directory : Path} {place : List String}
    (h : p.IsBelow directory) (hplace : t.placeOf p = .ok place) : Inside t directory place := by
  obtain ⟨parts, hne, hdown, rfl⟩ := h
  have hwalk := (placeOf_eq_ok.mp hplace).2
  dsimp only at hwalk
  rw [walk_append] at hwalk
  obtain ⟨home, hhome, hparts⟩ := bind_eq_ok.mp hwalk
  exact ⟨home, parts, hhome, hne, eq_append_of_walk (fun part hpart => (hdown part hpart).not_up)
    hparts⟩

end FileTree

namespace Output

open FileTree

variable {f g : Filer} {t : FileTree} {name other extension : String} {p q : Path}

/-! ## Paths of accepted names -/

/-- The filer takes the name: it is valid, and has not been claimed. -/
def Filer.Accepts (f : Filer) (name : String) : Prop :=
  Java.isQualifiedName name = true ∧ f.isClaimed name = false

theorem leadsDown_of_mem_fileParts (hname : Java.isQualifiedName name = true)
    (hextension : '/' ∉ extension.toList) : ∀ part ∈ fileParts extension name, LeadsDown part := by
  intro part hpart
  rcases List.mem_append.mp hpart with hinit | hlast
  · have hid := isIdentifier_of_mem hname (List.mem_of_mem_dropLast hinit)
    have hdown : LeadsDown (part ++ "") := leadsDown_append hid (by decide)
    rwa [String.append_empty] at hdown
  · rw [List.mem_singleton.mp hlast]
    exact leadsDown_append (isIdentifier_getLast hname) hextension

theorem fileParts_ne_nil : fileParts extension name ≠ [] :=
  List.append_ne_nil_of_right_ne_nil _ (List.cons_ne_nil _ _)

theorem isBelow_of_pathFor (hname : Java.isQualifiedName name = true)
    (hextension : '/' ∉ f.extension.toList) (hp : f.pathFor? name = some p) :
    p.IsBelow f.directory :=
  ⟨fileParts f.extension name, fileParts_ne_nil, leadsDown_of_mem_fileParts hname hextension,
    pathFor?_eq_some hname hp⟩

/-- The extension has a dot and identifiers have none, so the file for a name is no directory for
another one. -/
theorem eq_of_fileParts_begin (hother : Java.isQualifiedName other = true)
    (hextension : '.' ∈ extension.toList)
    (h : fileParts extension name <+: fileParts extension other) : name = other := by
  rw [fileParts, fileParts, List.prefix_concat_iff] at h
  rcases h with heq | hinit
  · exact fileParts_injective heq
  · have hmem := hinit.subset (List.mem_append_right _ List.mem_cons_self)
    have hid := isIdentifier_of_mem hother (List.mem_of_mem_dropLast hmem)
    refine absurd ?_ (Java.not_mem_of_isIdentifier hid (c := '.') rfl (by decide))
    rw [String.toList_append]
    exact List.mem_append_right _ hextension

theorem not_isOnWayTo_of_ne (hname : Java.isQualifiedName name = true)
    (hother : Java.isQualifiedName other = true) (hextension : '.' ∈ f.extension.toList)
    (hdirectory : g.directory = f.directory) (hsame : g.extension = f.extension)
    (hp : f.pathFor? name = some p) (hq : g.pathFor? other = some q) (hne : name ≠ other) :
    ¬ p.IsOnWayTo q := by
  rintro ⟨-, hparts⟩
  rw [pathFor?_eq_some hname hp, pathFor?_eq_some hother hq, hdirectory, hsame] at hparts
  exact hne (eq_of_fileParts_begin hother hextension ((List.prefix_append_right_inj _).mp hparts))

/-! ## Paths of plans -/

/-- The path that a plan reports leads from the output directory to the file for its name. -/
theorem join_outputPath {o : Generation.Outline} (hname : Java.isQualifiedName name = true)
    (hextension : f.extension = ".java") (hp : f.pathFor? name = some p)
    (ho : o.qualifiedName = .text name) :
    ∃ s, o.outputPath = .ok s ∧ f.directory.join (.ofString s) = p := by
  have hslash : '/' ∉ name.toList := by
    rw [← Text.intercalate_splitAt '.' name]
    exact Text.notMem_intercalate (by decide) fun id hid =>
      Java.not_mem_of_isIdentifier (isIdentifier_of_mem hname hid) rfl (by decide)
  have hsplit : Text.splitAt '/' (Text.swapChar '.' '/' name ++ ".java")
      = fileParts ".java" name := by
    rw [Text.splitAt_append_of_not_mem (by decide), Text.splitAt_swapChar hslash, fileParts]
  refine ⟨Text.swapChar '.' '/' name ++ ".java", ?_, ?_⟩
  · rw [Generation.Outline.outputPath, ho]
    rfl
  · rw [ofString_of_isStep, hsplit, Path.join_of_relative rfl, pathFor?_eq_some hname hp,
      hextension]
    rw [hsplit]
    exact fun part hpart => (leadsDown_of_mem_fileParts hname (by decide) part hpart).isStep

/-! ## Attempts -/

theorem keeps_writeTexts {place : List String} {old : ByteArray}
    (h : t.entryAt? place = some (.file old)) (encoding : Encoding) (texts : List String) :
    Keeps (· = place) t (writeTexts encoding t place texts).1 := by
  induction texts generalizing encoding t old with
  | nil => exact .refl _ t
  | cons s rest ih =>
    rw [writeTexts]
    cases encoding.encode s with
    | none => exact .refl _ t
    | some bytes =>
      exact (keeps_append h (encoding.mark ++ bytes)).trans
        (ih (entryAt?_append h (encoding.mark ++ bytes)) encoding.unmarked)

/-- An attempt to write at a path changes no file but the one that the path leads to. -/
theorem keeps_writeToDisk (f : Filer) (t : FileTree) (p : Path) (texts : List String)
    (interrupted : Bool) :
    Keeps (fun place => (writeToDisk f t p texts interrupted).tree.placeOf p = .ok place) t
      (writeToDisk f t p texts interrupted).tree := by
  unfold writeToDisk
  split
  · next hopen => exact (keeps_of_openAt hopen).mono fun _ hno => hno.elim
  · next hopen =>
    obtain ⟨hkeeps, hplace, hentry⟩ := openAt_eq_ok hopen
    split
    · exact hkeeps.mono fun _ hq => hq ▸ hplace
    · next encoding _ =>
      have htexts := keeps_writeTexts hentry encoding texts
      exact (hkeeps.trans htexts).mono fun _ hq => hq ▸ placeOf_of_keeps htexts hplace

/-- The attempt has failed over the name, and has left the filer and the files as they were. -/
def RefusesName (f : Filer) (t : FileTree) (name : String) (a : Attempt) : Prop :=
  ∃ fault, (fault = .invalidName name ∨ fault = .claimed name)
    ∧ a = { filer := f, tree := t, opened := false, fault := some (.output fault) }

theorem refusesName_of_not_accepts {origins texts : List String} {interrupted : Bool}
    (h : ¬ f.Accepts name) :
    RefusesName f t name (create f t name origins texts interrupted) := by
  cases hclaim : f.claim name origins with
  | ok g =>
    obtain ⟨hvalid, hunclaimed, -⟩ := claim_eq_ok_iff.mp hclaim
    exact absurd ⟨hvalid, hunclaimed⟩ h
  | error fault =>
    refine ⟨fault, ?_, create_of_claim_error hclaim⟩
    unfold Filer.claim at hclaim
    split at hclaim
    · cases hclaim
      exact .inl rfl
    · split at hclaim <;> cases hclaim
      exact .inr rfl

/-- A filer that writes files with the usual extension refuses a name, before it has done anything
to the files, or uses a path below the output directory.  It is the path that the plan of the file
reports, and it is neither the path for another name nor a directory on it. -/
theorem sources_confined (hmedium : f.medium = .disk) (hextension : f.extension = ".java")
    (name : String) :
    (¬ f.Accepts name → ∀ t origins texts interrupted,
        RefusesName f t name (create f t name origins texts interrupted))
      ∧ (f.Accepts name → ∃ p, f.pathFor? name = some p ∧ p.IsBelow f.directory
        ∧ (∀ o : Generation.Outline, o.qualifiedName = .text name →
          ∃ s, o.outputPath = .ok s ∧ f.directory.join (.ofString s) = p)
        ∧ (∀ (g : Filer) other q, g.directory = f.directory → g.extension = f.extension →
          g.Accepts other → name ≠ other → g.pathFor? other = some q →
          ¬ p.IsOnWayTo q ∧ ¬ q.IsOnWayTo p)
        ∧ ∀ t origins texts interrupted,
          let a := create f t name origins texts interrupted
          a = writeToDisk (f.claimed name origins) t p texts interrupted
            ∧ Keeps (Inside a.tree f.directory) t a.tree) := by
  refine ⟨fun hrefused _ _ _ _ => refusesName_of_not_accepts hrefused, fun haccepts => ?_⟩
  obtain ⟨hvalid, hunclaimed⟩ := haccepts
  have hsuffix : Path.isSuffix f.extension = true := by
    rw [hextension]
    decide +kernel
  have hslash : '/' ∉ f.extension.toList := by
    rw [hextension]
    decide
  have hdot : '.' ∈ f.extension.toList := by
    rw [hextension]
    decide
  obtain ⟨p, hp⟩ := exists_pathFor hsuffix hvalid
  have hbelow := isBelow_of_pathFor hvalid hslash hp
  refine ⟨p, hp, hbelow, fun o ho => join_outputPath hvalid hextension hp ho, ?_, ?_⟩
  · intro g other q hdirectory hsame hother hne hq
    refine ⟨not_isOnWayTo_of_ne hvalid hother.1 hdot hdirectory hsame hp hq hne, ?_⟩
    rw [← hsame] at hdot
    exact not_isOnWayTo_of_ne hother.1 hvalid hdot hdirectory.symm hsame.symm hq hp hne.symm
  · intro t origins texts interrupted a
    have hclaim : f.claim name origins = .ok (f.claimed name origins) :=
      claim_eq_ok_iff.mpr ⟨hvalid, hunclaimed, rfl⟩
    have ha : a = writeToDisk (f.claimed name origins) t p texts interrupted := by
      show create f t name origins texts interrupted = _
      rw [create_on_disk hclaim hmedium, hp]
    refine ⟨ha, ?_⟩
    rw [ha]
    exact (keeps_writeToDisk _ t p texts interrupted).mono fun place => inside_of_placeOf hbelow

/-- A filer with a step up in its directory, once a name has been claimed. -/
def buildFiler : Filer where
  medium := .disk
  directory := .ofString "build/../out"
  created := [("com.example", ["com.example.Ledger"])]

theorem accountFactory_confined :
    buildFiler.medium = .disk ∧ buildFiler.extension = ".java"
      ∧ RefusesName buildFiler {} "../Account" (create buildFiler {} "../Account" [] [] false)
      ∧ RefusesName buildFiler {} "com.example" (create buildFiler {} "com.example" [] [] false)
      ∧ ∃ p, buildFiler.pathFor? "com.example.AccountFactory" = some p
        ∧ p.text = "build/../out/com/example/AccountFactory.java" ∧ p.IsBelow buildFiler.directory
        ∧ ∀ q, buildFiler.pathFor? "com.example.AccountFactory.Entry" = some q →
          ¬ p.IsOnWayTo q := by
  have hup : ¬ buildFiler.Accepts "../Account" := fun h => absurd h.1 (by decide)
  have hclaimed : ¬ buildFiler.Accepts "com.example" := fun h => absurd h.2 (by decide +kernel)
  have haccepts : buildFiler.Accepts "com.example.AccountFactory" :=
    ⟨by decide, by decide +kernel⟩
  have hother : buildFiler.Accepts "com.example.AccountFactory.Entry" :=
    ⟨by decide, by decide +kernel⟩
  obtain ⟨p, hp, hbelow, -, happart, -⟩ :=
    (sources_confined rfl rfl "com.example.AccountFactory").2 haccepts
  refine ⟨rfl, rfl, (sources_confined rfl rfl _).1 hup _ _ _ _,
    (sources_confined rfl rfl _).1 hclaimed _ _ _ _, p, hp, ?_, hbelow, fun q hq => ?_⟩
  · rw [pathFor?_eq_some haccepts.1 hp]
    decide +kernel
  · exact (happart buildFiler _ q rfl rfl hother (by decide) hq).1

end Output
end JavaCompanion
