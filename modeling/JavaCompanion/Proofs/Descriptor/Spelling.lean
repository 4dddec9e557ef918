/-
Spellings of an annotation type.

In the text of an annotation blanks may stand on both sides of the `@` and of every dot of the
type, and arguments may follow the type (`Spells`).  Neither a blank nor a dot nor a bracket goes
on with a part, so the parts are found as they were written, and what is cut off at the ends of
the text is never a piece of them.  All entries that apply a type are read to that type
(`spellings_read_alike`), and only the type decides of which namespaces an annotation is and
whether it is the marker (`SteerAlike`).
-/
import JavaCompanion.Descriptor.Document
import JavaCompanion.Extraction.Signatures
import JavaCompanion.Proofs.Java.Grammar
import JavaCompanion.Proofs.Outcome
import JavaCompanion.Proofs.Text.Parts

namespace JavaCompanion

namespace Text

/-! ## Blanks at the ends -/

def IsBlanks (cs : List Char) : Prop := ∀ c ∈ cs, isBlank c = true

instance (cs : List Char) : Decidable (IsBlanks cs) :=
  decidable_of_iff (cs.all isBlank = true) List.all_eq_true

variable {c : Char} {blanks : List Char}

theorem isBlanks_nil : IsBlanks [] := List.forall_mem_nil _

theorem trimLeft_blanks (h : IsBlanks blanks) (cs : List Char) :
    trimLeft (blanks ++ cs) = trimLeft cs := List.dropWhile_append_of_pos h

theorem trimLeft_of_not_isBlank (h : isBlank c = false) (cs : List Char) :
    trimLeft (c :: cs) = c :: cs := by
  refine List.dropWhile_cons_of_neg ?_
  rw [h]
  exact Bool.false_ne_true

/-- Nothing is cut off before the last character that is no blank. -/
theorem trimRight_append_cons (h : isBlank c = false) (cs ds : List Char) :
    trimRight (cs ++ c :: ds) = cs ++ c :: trimRight ds := by
  induction ds using List.reverseRecOn with
  | nil => exact dropEndWhile_append_singleton h cs
  | append_singleton ds d ih =>
    have hassoc : cs ++ c :: (ds ++ [d]) = cs ++ c :: ds ++ [d] := by simp
    rw [hassoc]
    by_cases hd : isBlank d = true
    · rw [trimRight, dropEndWhile_append_of_pos hd, trimRight, dropEndWhile_append_of_pos hd]
      exact ih
    · rw [Bool.not_eq_true] at hd
      rw [trimRight, dropEndWhile_append_singleton hd, trimRight, dropEndWhile_append_singleton hd,
        hassoc]

theorem trimRight_blanks (h : IsBlanks blanks) : trimRight blanks = [] := by
  have hnil : blanks.reverse.dropWhile isBlank = [] :=
    List.dropWhile_eq_nil_iff.mpr fun c hc => h c (List.mem_reverse.mp hc)
  rw [trimRight, dropEndWhile, hnil, List.reverse_nil]

/-! ## Blanks and words -/

/-- The code points of the blanks. -/
def blankCodes : List Nat :=
  [9, 10, 11, 12, 13, 28, 29, 30, 31, 32, 0x85, 0xa0, 0x1680, 0x2000, 0x2001, 0x2002, 0x2003,
    0x2004, 0x2005, 0x2006, 0x2007, 0x2008, 0x2009, 0x200a, 0x2028, 0x2029, 0x202f, 0x205f, 0x3000]

theorem toNat_mem_blankCodes (h : isBlank c = true) : c.toNat ∈ blankCodes := by
  simp only [isBlank, Bool.or_eq_true, Bool.and_eq_true, decide_eq_true_eq, beq_iff_eq] at h
  simp only [blankCodes, List.mem_cons, List.not_mem_nil, or_false]
  omega

theorem not_isWordChar_of_mem_blankCodes :
    ∀ n ∈ blankCodes, isWordChar (Char.ofNat n) = false := by decide +kernel

theorem not_isWordChar_of_isBlank (h : isBlank c = true) : isWordChar c = false := by
  rw [← Char.ofNat_toNat c]
  exact not_isWordChar_of_mem_blankCodes c.toNat (toNat_mem_blankCodes h)

end Text

namespace Descriptor

open Text

namespace AnnotationUse

/-! ## The type as it is written -/

/-- A letter, an underscore or a dollar sign, followed by characters of words and dollar signs. -/
def IsPart (name : String) : Prop :=
  ∃ c rest, name.toList = c :: rest ∧ Java.BeginsWord c ∧ ∀ d ∈ rest, isPartChar d = true

/-- Further parts of a type, each behind a dot that may have blanks on both sides. -/
inductive Continues : List String → List Char → Prop where
  | nil : Continues [] []
  | cons {name : String} {before after : List Char} {names : List String} {cs : List Char}
    (hname : IsPart name) (hbefore : IsBlanks before) (hafter : IsBlanks after)
    (h : Continues names cs) :
    Continues (name :: names) (before ++ '.' :: (after ++ (name.toList ++ cs)))

/-- What may follow a type: nothing, or an opening bracket and anything behind it. -/
inductive Follows : List Char → Prop where
  | nothing : Follows []
  | arguments {before : List Char} (hbefore : IsBlanks before) (cs : List Char) :
    Follows (before ++ '(' :: cs)

/-- The texts that apply the annotation type with these parts. -/
inductive Spells : List String → String → Prop where
  | spelled {name : String} {names : List String} {lead after cs rest tail : List Char}
    (hname : IsPart name) (hcs : Continues names cs) (hlead : IsBlanks lead)
    (hafter : IsBlanks after) (hrest : Follows rest) (htail : IsBlanks tail) :
    Spells (name :: names)
      (String.ofList (lead ++ '@' :: (after ++ (name.toList ++ (cs ++ (rest ++ tail))))))

variable {name : String} {names : List String} {c : Char} {cs rest more : List Char}

/-! ## One part -/

theorem isPartChar_of_isNameStart (h : Java.isNameStart c = true) : isPartChar c = true := by
  rcases Java.isNameStart_iff.mp h with halpha | rfl | rfl
  · have hcode : c.toNat < 128 := by
      have hcodes : (65 ≤ c.toNat ∧ c.toNat ≤ 90) ∨ (97 ≤ c.toNat ∧ c.toNat ≤ 122) :=
        Java.isAlpha_iff.mp halpha
      omega
    rw [isPartChar, isWordChar, if_pos hcode, Char.isAlphanum, halpha]
    rfl
  · rfl
  · rfl

theorem not_isPartChar_of_isBlank (h : isBlank c = true) : isPartChar c = false := by
  rw [isPartChar, not_isWordChar_of_isBlank h, Bool.false_or, decide_eq_false_iff_not]
  rintro rfl
  exact nomatch h

theorem not_isBlank_of_isPartChar (h : isPartChar c = true) : isBlank c = false := by
  rw [← Bool.not_eq_true]
  intro hblank
  rw [not_isPartChar_of_isBlank hblank] at h
  exact nomatch h

/-- No character of a part ends it. -/
theorem IsPart.isPartChar_of_mem (h : IsPart name) (hc : c ∈ name.toList) :
    isPartChar c = true := by
  obtain ⟨d, rest, hname, hd, hrest⟩ := h
  rw [hname] at hc
  rcases List.mem_cons.mp hc with rfl | hc
  · exact isPartChar_of_isNameStart (Java.isNameStart_iff.mpr hd)
  · exact hrest c hc

/-- What ends a part. -/
def EndsPart (cs : List Char) : Prop := ∀ c ∈ cs.head?, isPartChar c = false

theorem endsPart_blanks_cons {before : List Char} (hbefore : IsBlanks before)
    (hc : isPartChar c = false) (cs : List Char) : EndsPart (before ++ c :: cs) := by
  intro d hd
  cases before with
  | nil =>
    cases hd
    exact hc
  | cons b bs =>
    cases hd
    exact not_isPartChar_of_isBlank (hbefore d List.mem_cons_self)

theorem Follows.endsPart (h : Follows rest) : EndsPart rest := by
  cases h with
  | nothing => exact nofun
  | arguments hbefore cs => exact endsPart_blanks_cons hbefore (by decide) cs

theorem Continues.endsPart (h : Continues names cs) (hrest : Follows rest) :
    EndsPart (cs ++ rest) := by
  cases h with
  | nil => exact hrest.endsPart
  | cons hname hbefore hafter h =>
    rw [List.append_assoc, List.cons_append]
    exact endsPart_blanks_cons hbefore (by decide) _

theorem namePart_append (h : IsPart name) (hmore : EndsPart more) :
    namePart (name.toList ++ more) = some (name.toList, more) := by
  obtain ⟨c, part, hname, hc, hpart⟩ := h
  obtain ⟨htake, hdrop⟩ := takeWhile_dropWhile_append hpart hmore
  rw [hname, List.cons_append, namePart, if_pos (Java.isNameStart_iff.mpr hc), htake, hdrop]

/-- A part is a text that is taken up as a whole. -/
theorem isPart_iff : IsPart name ↔ namePart name.toList = some (name.toList, []) := by
  constructor
  · intro h
    have htaken : namePart (name.toList ++ []) = some (name.toList, []) := namePart_append h nofun
    rwa [List.append_nil] at htaken
  · intro h
    unfold namePart at h
    split at h
    · exact nomatch h
    · next c rest hname =>
      split at h
      · next hc =>
        obtain ⟨htake, hdrop⟩ := Prod.mk.inj (Option.some.inj h)
        refine ⟨c, rest, hname, Java.isNameStart_iff.mp hc, ?_⟩
        exact List.dropWhile_eq_nil_iff.mp hdrop
      · exact nomatch h

instance (name : String) : Decidable (IsPart name) := decidable_of_iff _ isPart_iff.symm

theorem trimLeft_part (h : IsPart name) (cs : List Char) :
    trimLeft (name.toList ++ cs) = name.toList ++ cs := by
  obtain ⟨c, rest, hname, hc, -⟩ := h
  rw [hname, List.cons_append]
  refine trimLeft_of_not_isBlank ?_ (rest ++ cs)
  exact not_isBlank_of_isPartChar (isPartChar_of_isNameStart (Java.isNameStart_iff.mpr hc))

/-! ## All parts -/

theorem furtherParts_of_follows (h : Follows rest) (fuel : Nat) : furtherParts fuel rest = [] := by
  cases fuel with
  | zero => rfl
  | succ fuel =>
    cases h with
    | nothing => rfl
    | arguments hbefore cs =>
      rw [furtherParts, trimLeft_blanks hbefore, trimLeft_of_not_isBlank (by decide)]
      rfl

/-- The fuel lasts for all parts, as each takes up a dot at least. -/
theorem furtherParts_of_continues (h : Continues names cs) (hrest : Follows rest) {fuel : Nat}
    (hfuel : cs.length ≤ fuel) : furtherParts fuel (cs ++ rest) = names.map String.toList := by
  induction h generalizing fuel with
  | nil => exact furtherParts_of_follows hrest fuel
  | @cons name before after names cs hname hbefore hafter h ih =>
    simp only [List.length_append, List.length_cons] at hfuel
    obtain ⟨fuel, rfl⟩ : ∃ n, fuel = n + 1 := ⟨fuel - 1, by omega⟩
    have hdot : trimLeft (before ++ '.' :: (after ++ (name.toList ++ cs)) ++ rest)
        = '.' :: (after ++ (name.toList ++ (cs ++ rest))) := by
      simp only [List.append_assoc, List.cons_append]
      rw [trimLeft_blanks hbefore, trimLeft_of_not_isBlank (by decide)]
    have hpart : namePart (trimLeft (after ++ (name.toList ++ (cs ++ rest))))
        = some (name.toList, cs ++ rest) := by
      rw [trimLeft_blanks hafter, trimLeft_part hname]
      exact namePart_append hname (h.endsPart hrest)
    rw [furtherParts, hdot]
    simp only [hpart]
    -- what is left is shorter by the dot at least, and so is the fuel
    rw [ih (by omega), List.map_cons]

theorem typeParts?_of_continues {after : List Char} (hname : IsPart name)
    (hcs : Continues names cs) (hafter : IsBlanks after) (hrest : Follows rest) :
    typeParts? ('@' :: (after ++ (name.toList ++ (cs ++ rest))))
      = some ((name :: names).map String.toList) := by
  have hfirst : namePart (name.toList ++ (cs ++ rest)) = some (name.toList, cs ++ rest) :=
    namePart_append hname (hcs.endsPart hrest)
  have hfuel : cs.length ≤ (cs ++ rest).length := by
    rw [List.length_append]
    omega
  rw [typeParts?, trimLeft_blanks hafter, trimLeft_part hname, hfirst, Option.map_some,
    furtherParts_of_continues hcs hrest hfuel, List.map_cons]

/-! ## The ends of the text -/

/-- A type ends with a character of its last part. -/
theorem exists_last_of_continues (hname : IsPart name) (hcs : Continues names cs) :
    ∃ init last, name.toList ++ cs = init ++ [last] ∧ isBlank last = false := by
  induction hcs generalizing name with
  | nil =>
    have hne : name.toList ≠ [] := by
      obtain ⟨c, rest, heq, -⟩ := hname
      rw [heq]
      exact List.cons_ne_nil c rest
    refine ⟨name.toList.dropLast, name.toList.getLast hne, ?_, ?_⟩
    · rw [List.append_nil, List.dropLast_append_getLast]
    · exact not_isBlank_of_isPartChar (hname.isPartChar_of_mem (List.getLast_mem hne))
  | @cons next before after names cs hnext hbefore hafter h ih =>
    obtain ⟨init, last, heq, hlast⟩ := ih hnext
    refine ⟨name.toList ++ (before ++ '.' :: (after ++ init)), last, ?_, hlast⟩
    rw [heq]
    simp

theorem follows_trimRight {tail : List Char} (hrest : Follows rest) (htail : IsBlanks tail) :
    Follows (trimRight (rest ++ tail)) := by
  cases hrest with
  | nothing =>
    rw [List.nil_append, trimRight_blanks htail]
    exact .nothing
  | arguments hbefore cs =>
    rw [List.append_assoc, List.cons_append, trimRight_append_cons (by decide)]
    exact .arguments hbefore (trimRight (cs ++ tail))

/-- What is cut off at the ends of the text is no piece of the type. -/
theorem trim_of_continues {lead tail : List Char} (hlead : IsBlanks lead) (after : List Char)
    (hname : IsPart name) (hcs : Continues names cs) (hrest : Follows rest)
    (htail : IsBlanks tail) :
    ∃ kept, Follows kept ∧ trim (lead ++ '@' :: (after ++ (name.toList ++ (cs ++ (rest ++ tail)))))
      = '@' :: (after ++ (name.toList ++ (cs ++ kept))) := by
  obtain ⟨init, last, heq, hlast⟩ := exists_last_of_continues hname hcs
  have hwhole : ∀ more : List Char, '@' :: (after ++ (name.toList ++ (cs ++ more)))
      = '@' :: (after ++ init) ++ last :: more := by
    intro more
    rw [← List.append_assoc name.toList, heq]
    simp
  refine ⟨trimRight (rest ++ tail), follows_trimRight hrest htail, ?_⟩
  rw [trim, trimLeft_blanks hlead, trimLeft_of_not_isBlank (by decide), hwhole,
    trimRight_append_cons hlast, hwhole]

theorem ofText?_of_spells {s : String} (h : Spells names s) :
    ofText? s = some ⟨.text (".".intercalate names), .text (strip s)⟩ := by
  cases h with
  | @spelled name names lead after cs rest tail hname hcs hlead hafter hrest htail =>
    obtain ⟨kept, hkept, htrim⟩ := trim_of_continues hlead after hname hcs hrest htail
    have hparts : typeParts? (strip (String.ofList
        (lead ++ '@' :: (after ++ (name.toList ++ (cs ++ (rest ++ tail))))))).toList
          = some ((name :: names).map String.toList) := by
      rw [strip, String.toList_ofList, String.toList_ofList, htrim]
      exact typeParts?_of_continues hname hcs hafter hkept
    have hdotted : dotted ((name :: names).map String.toList) = ".".intercalate (name :: names) := by
      rw [dotted, List.map_map]
      simp
    rw [ofText?, hparts, Option.map_some, hdotted]

/-- A type without blanks continues in the same way. -/
theorem exists_continues_intercalate (hnames : ∀ name ∈ names, IsPart name) (name : String) :
    ∃ cs, Continues names cs ∧ (".".intercalate (name :: names)).toList = name.toList ++ cs := by
  induction names generalizing name with
  | nil => exact ⟨[], .nil, by rw [String.intercalate_singleton, List.append_nil]⟩
  | cons next names ih =>
    obtain ⟨hnext, hnames⟩ := List.forall_mem_cons.mp hnames
    obtain ⟨cs, hcs, heq⟩ := ih hnames next
    refine ⟨[] ++ '.' :: ([] ++ (next.toList ++ cs)),
      .cons hnext isBlanks_nil isBlanks_nil hcs, ?_⟩
    rw [String.intercalate_cons_cons, String.toList_append, String.toList_append, heq]
    simp

/-- A type without blanks is one of its spellings, and nothing of it is cut off. -/
theorem plain_spelling (hne : names ≠ []) (hnames : ∀ name ∈ names, IsPart name) :
    Spells names ("@" ++ ".".intercalate names)
      ∧ strip ("@" ++ ".".intercalate names) = "@" ++ ".".intercalate names := by
  obtain ⟨name, names, rfl⟩ := List.exists_cons_of_ne_nil hne
  obtain ⟨hname, hnames⟩ := List.forall_mem_cons.mp hnames
  obtain ⟨cs, hcs, heq⟩ := exists_continues_intercalate hnames name
  have htext : ("@" ++ ".".intercalate (name :: names)).toList = '@' :: (name.toList ++ cs) := by
    rw [String.toList_append, heq]
    rfl
  constructor
  · have hwhole : "@" ++ ".".intercalate (name :: names)
        = String.ofList ([] ++ '@' :: ([] ++ (name.toList ++ (cs ++ ([] ++ []))))) := by
      rw [← String.toList_inj, String.toList_ofList, htext]
      simp
    rw [hwhole]
    exact .spelled hname hcs isBlanks_nil isBlanks_nil .nothing isBlanks_nil
  · obtain ⟨init, last, hends, hlast⟩ := exists_last_of_continues hname hcs
    rw [← String.toList_inj, strip, String.toList_ofList, htext, trim,
      trimLeft_of_not_isBlank (by decide), hends, ← List.cons_append, trimRight_append_cons hlast]
    rfl

/-! ## Namespaces -/

theorem dot_notMem_of_isPart (h : IsPart name) : '.' ∉ name.toList := by
  intro hmem
  exact nomatch h.isPartChar_of_mem hmem

theorem splitAt_of_parts (hne : names ≠ []) (hnames : ∀ name ∈ names, IsPart name) :
    splitAt '.' (".".intercalate names) = names :=
  splitAt_intercalate hne fun name hname => dot_notMem_of_isPart (hnames name hname)

/-- A namespace holds the types whose first parts are its own. -/
theorem inNamespace_text {a : AnnotationUse} {type package : String} (ha : a.typeName = .text type)
    (h : package ≠ "") : a.inNamespace (.text package)
      = .ok (decide (splitAt '.' package <+: splitAt '.' type)) := by
  have htruthy : (Value.text package).truthy = true := by
    rw [Value.truthy]
    exact bne_iff_ne.mpr h
  have hprefix := splitAt_prefix_iff (c := '.') (s := package) (t := type)
  unfold inNamespace
  rw [htruthy, ha]
  by_cases hsame : type = package
  · subst hsame
    simp [Value.same]
  · have hother : (Value.text type).same (.text package) = false := by
      rw [Value.same]
      exact beq_eq_false_iff_ne.mpr hsame
    have hbegins : (package ++ ".").toList.isPrefixOf type.toList
        = decide (splitAt '.' package <+: splitAt '.' type) := by
      rw [Bool.eq_iff_iff, isPrefixOf_toList_iff, decide_eq_true_iff, hprefix,
        or_iff_right hsame]
      rfl
    rw [hother, Value.asMember, Value.asOperand, ← hbegins]
    rfl

/-! ## What annotations steer -/

/-- Annotations of the same namespaces, with which a parameter carries the same markers. -/
structure SteerAlike (a b : AnnotationUse) : Prop where
  inNamespace_eq : ∀ control, a.inNamespace control = b.inNamespace control
  carries_eq : ∀ (marker : Option String) (v : Variable) (before after : List AnnotationUse),
    Extraction.carries marker { v with annotations := before ++ a :: after }
      = Extraction.carries marker { v with annotations := before ++ b :: after }

theorem steerAlike_of_typeName_eq {a b : AnnotationUse} (h : a.typeName = b.typeName) :
    SteerAlike a b := by
  constructor
  · intro control
    rw [inNamespace, inNamespace, h]
  · intro marker v before after
    unfold Extraction.carries
    simp only [List.any_append, List.any_cons, h]

end AnnotationUse

/-! ## Entries -/

open AnnotationUse

/-- The entries of a descriptor that apply the annotation type with these parts: a text, or an
object with the text alone, or one that names the type. -/
inductive Applies (names : List String) : Value → Prop where
  | text {s : String} (h : Spells names s) : Applies names (.text s)
  | textField {fields : Fields} {s : String} (htype : fieldOr fields "type" .null = .null)
    (htext : fieldOr fields "text" .null = .text s) (h : Spells names s) :
    Applies names (.object fields)
  | typeField {fields : Fields}
    (htype : fieldOr fields "type" .null = .text (".".intercalate names)) :
    Applies names (.object fields)

variable {names : List String}

theorem annotationOfText_of_spells {s : String} (h : Spells names s) :
    annotationOfText s = .ok ⟨.text (".".intercalate names), .text (strip s)⟩ := by
  rw [annotationOfText, ofText?_of_spells h]

theorem annotationUse_text (s : String) : annotationUse (.text s) = annotationOfText s := by
  rw [annotationUse]

theorem typeName_of_applies {v : Value} (h : Applies names v) :
    ∃ a, annotationUse v = .ok a ∧ a.typeName = .text (".".intercalate names) := by
  cases h with
  | @text s h =>
    refine ⟨⟨.text (".".intercalate names), .text (strip s)⟩, ?_, rfl⟩
    rw [annotationUse_text, annotationOfText_of_spells h]
  | @textField fields s htype htext h =>
    refine ⟨⟨.text (".".intercalate names), .text (strip s)⟩, ?_, rfl⟩
    have hmember : shaped (Value.asMember (.text s)) = .ok s := rfl
    rw [annotationUse, htype, htext]
    dsimp only
    rw [hmember, ok_bind, annotationOfText_of_spells h]
  | @typeField fields htype =>
    -- the type is taken as it stands, whether there is a text or not
    rw [annotationUse, htype]
    cases fieldOr fields "text" .null with
    | null => exact ⟨_, rfl, rfl⟩
    | _ => exact ⟨_, rfl, rfl⟩

/-- All texts that apply a type are read to it, with the text as it is between its blanks, and an
object that names the type alone is read as the text that does.  The namespaces of the type are
those whose parts it begins with.  Entries that apply the same type steer the generators alike. -/
theorem spellings_read_alike (hne : names ≠ []) (hnames : ∀ name ∈ names, IsPart name) :
    (∀ s, Spells names s →
        annotationUse (.text s) = .ok ⟨.text (".".intercalate names), .text (strip s)⟩)
      ∧ annotationUse (.object [("type", .text (".".intercalate names))])
        = annotationUse (.text ("@" ++ ".".intercalate names))
      ∧ (∀ (a : AnnotationUse) (package : String), a.typeName = .text (".".intercalate names) →
        package ≠ "" →
        a.inNamespace (.text package) = .ok (decide (splitAt '.' package <+: names)))
      ∧ ∀ v w, Applies names v → Applies names w →
        ∃ a b, annotationUse v = .ok a ∧ annotationUse w = .ok b ∧ SteerAlike a b := by
  refine ⟨fun s hs => ?_, ?_, ?_, ?_⟩
  · rw [annotationUse_text, annotationOfText_of_spells hs]
  · obtain ⟨hspells, hstrip⟩ := plain_spelling hne hnames
    rw [annotationUse_text, annotationOfText_of_spells hspells, hstrip]
    rfl
  · intro a package ha h
    rw [inNamespace_text ha h, splitAt_of_parts hne hnames]
  · intro v w hv hw
    obtain ⟨a, ha, hatype⟩ := typeName_of_applies hv
    obtain ⟨b, hb, hbtype⟩ := typeName_of_applies hw
    exact ⟨a, b, ha, hb, steerAlike_of_typeName_eq (hatype.trans hbtype.symm)⟩

def auditedParts : List String := ["com", "example", "_Prüfung$1"]

/-- Blanks of several kinds around the parts, and arguments with a dot in them. -/
def auditedText : String := "\u3000@ com\t.\u00a0example\n. _Prüfung$1 (a.b) \n"

theorem isPart_auditedParts : ∀ name ∈ auditedParts, IsPart name := by decide +kernel

theorem spells_audited : Spells auditedParts auditedText := by
  obtain ⟨hcom, hmore⟩ := List.forall_mem_cons.mp isPart_auditedParts
  obtain ⟨hexample, hmore⟩ := List.forall_mem_cons.mp hmore
  obtain ⟨hlast, -⟩ := List.forall_mem_cons.mp hmore
  have hrest : Follows ([' '] ++ '(' :: "a.b)".toList) := .arguments (by decide) _
  have hcs : Continues ["example", "_Prüfung$1"]
      (['\t'] ++ '.' :: (['\u00a0'] ++ ("example".toList
        ++ (['\n'] ++ '.' :: ([' '] ++ ("_Prüfung$1".toList ++ [])))))) :=
    .cons hexample (by decide) (by decide) (.cons hlast (by decide) (by decide) .nil)
  have hlead : IsBlanks ['\u3000'] := by decide
  have hafter : IsBlanks [' '] := by decide
  have htail : IsBlanks [' ', '\n'] := by decide
  have hspelled := Spells.spelled hcom hcs hlead hafter hrest htail
  refine (congrArg (Spells auditedParts) ?_).mp hspelled
  decide +kernel

/-- The arguments are no part of the type, and a namespace ends where a part ends. -/
theorem auditedText_read :
    auditedParts ≠ [] ∧ (∀ name ∈ auditedParts, IsPart name) ∧ Spells auditedParts auditedText
      ∧ annotationUse (.text auditedText)
        = .ok ⟨.text "com.example._Prüfung$1", .text "@ com\t.\u00a0example\n. _Prüfung$1 (a.b)"⟩
      ∧ AnnotationUse.inNamespace ⟨.text "com.example._Prüfung$1", .null⟩ (.text "com.example")
        = .ok true
      ∧ AnnotationUse.inNamespace ⟨.text "com.example._Prüfung$1", .null⟩ (.text "com.exam")
        = .ok false := by
  have hne : auditedParts ≠ [] := by decide
  obtain ⟨htext, -, hnamespace, -⟩ := spellings_read_alike hne isPart_auditedParts
  refine ⟨hne, isPart_auditedParts, spells_audited, ?_, ?_, ?_⟩
  · rw [htext auditedText spells_audited]
    rfl
  · rw [hnamespace ⟨.text "com.example._Prüfung$1", .null⟩ "com.example" rfl (by decide)]
    rfl
  · rw [hnamespace ⟨.text "com.example._Prüfung$1", .null⟩ "com.exam" rfl (by decide)]
    rfl

end Descriptor
end JavaCompanion
