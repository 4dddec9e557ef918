/-
Texts as lines.

Lines with a line end behind each are told apart again by the line ends, if no line holds one
(`pieces_ended`), and no piece of a text holds one (`not_infix_of_mem_pieces`).  Two texts are the
same line by line where they differ in the line ends and in the blanks that lines begin with, and
in nothing else (`SameLines`).  They stay so when the same is written behind both, when a line of
both is ended, and, at the beginning of a line, when both are indented.
-/
import JavaCompanion.Proofs.Text.Parts
import JavaCompanion.Text.Blank
import JavaCompanion.Text.Lines
import Mathlib.Data.List.Forall2
import Mathlib.Data.List.TakeWhile

namespace JavaCompanion
namespace Text

/-! ## Texts on one line -/

def OneLine (s : String) : Prop := '\n' ∉ s.toList

instance (s : String) : Decidable (OneLine s) := inferInstanceAs (Decidable ('\n' ∉ s.toList))

theorem oneLine_append {s t : String} : OneLine (s ++ t) ↔ OneLine s ∧ OneLine t := by
  simp [OneLine, not_or]

theorem notMem_intercalate {c : Char} {separator : String} {parts : List String}
    (hseparator : c ∉ separator.toList) (hparts : ∀ part ∈ parts, c ∉ part.toList) :
    c ∉ (String.intercalate separator parts).toList := by
  rw [mem_intercalate hseparator]
  rintro ⟨part, hpart, hmem⟩
  exact hparts part hpart hmem

theorem oneLine_intercalate {separator : String} {texts : List String} (h : OneLine separator)
    (htexts : ∀ s ∈ texts, OneLine s) : OneLine (String.intercalate separator texts) :=
  notMem_intercalate h htexts

theorem oneLine_stripRight {s : String} (h : OneLine s) : OneLine (stripRight s) := by
  unfold OneLine stripRight
  rw [String.toList_ofList]
  exact fun hmem => h (List.mem_reverse.mp
    ((List.dropWhile_sublist isBlank).mem (List.mem_reverse.mp hmem)))

theorem feed_notMem_linesFrom {line cs : List Char} (h : '\n' ∉ line) :
    ∀ part ∈ linesFrom line cs, '\n' ∉ part := by
  induction line, cs using linesFrom.induct with
  | case1 line hempty => simp [linesFrom, hempty]
  | case2 line hempty => simpa [linesFrom, hempty] using h
  | case3 line rest ih =>
    rw [linesFrom]
    exact List.forall_mem_cons.mpr ⟨by simpa using h, ih List.not_mem_nil⟩
  | case4 line c rest hnext hbreak ih =>
    rw [linesFrom, if_pos hbreak]
    · exact List.forall_mem_cons.mpr ⟨by simpa using h, ih List.not_mem_nil⟩
    · exact hnext
  | case5 line c rest hnext hbreak ih =>
    rw [linesFrom, if_neg hbreak]
    · refine ih ?_
      rw [List.mem_cons, not_or]
      exact ⟨fun heq => hbreak (by rw [← heq]; rfl), h⟩
    · exact hnext

theorem oneLine_of_mem_splitLines {s line : String} (h : line ∈ splitLines s) : OneLine line := by
  obtain ⟨part, hpart, rfl⟩ := List.mem_map.mp h
  rw [OneLine, String.toList_ofList]
  exact feed_notMem_linesFrom List.not_mem_nil part hpart

/-! ## Line ends -/

inductive LineEnd where
  | lf
  | crlf
  deriving DecidableEq

namespace LineEnd

def text : LineEnd → String
  | .lf => "\n"
  | .crlf => "\r\n"

def chars (l : LineEnd) : List Char := l.text.toList

@[simp] theorem chars_lf : chars .lf = ['\n'] := rfl

@[simp] theorem chars_crlf : chars .crlf = ['\r', '\n'] := rfl

end LineEnd

/-- The lines with a line end behind each. -/
def ended (l : LineEnd) (lines : List (List Char)) : List Char := lines.flatMap (· ++ l.chars)

@[simp] theorem ended_nil (l : LineEnd) : ended l [] = [] := rfl

@[simp] theorem ended_cons (l : LineEnd) (line : List Char) (rest : List (List Char)) :
    ended l (line :: rest) = line ++ l.chars ++ ended l rest := rfl

theorem ended_append (l : LineEnd) (lines more : List (List Char)) :
    ended l (lines ++ more) = ended l lines ++ ended l more := List.flatMap_append

/-! ## Lines told apart -/

section Pieces

variable {l : LineEnd}

theorem not_infix_of_notMem {cs : List Char} (h : '\n' ∉ cs) : ¬ l.chars <:+: cs :=
  fun hpart => h (hpart.subset (by cases l <;> simp))

theorem not_infix_of_cons {c : Char} {cs : List Char} (h : ¬ l.chars <:+: c :: cs) :
    ¬ l.chars <:+: cs :=
  fun hpart => h (List.infix_cons hpart)

theorem pieces_cons {c : Char} {cs : List Char} (h : ¬ l.chars <+: c :: cs) :
    pieces l.chars (c :: cs)
      = match pieces l.chars cs with
        | [] => [[c]]
        | piece :: more => (c :: piece) :: more := by
  rw [pieces, piecesFrom, if_neg]
  · rfl
  · rwa [List.isPrefixOf_iff_prefix]

theorem pieces_of_not_infix {cs : List Char} (h : ¬ l.chars <:+: cs) :
    pieces l.chars cs = [cs] := by
  induction cs with
  | nil => rfl
  | cons c rest ih =>
    rw [pieces_cons fun hbegins => h hbegins.isInfix, ih (not_infix_of_cons h)]

/-- A line end does not begin in the line before it. -/
theorem not_prefix_append {c : Char} {more : List Char} (h : ¬ l.chars <:+: c :: more)
    (rest : List Char) : ¬ l.chars <+: c :: (more ++ l.chars ++ rest) := by
  intro hbegins
  cases l with
  | lf =>
    obtain ⟨rfl, -⟩ := List.cons_prefix_cons.mp hbegins
    exact h ⟨[], more, rfl⟩
  | crlf =>
    obtain ⟨rfl, hfeed⟩ := List.cons_prefix_cons.mp hbegins
    cases more with
    | nil => exact absurd (List.cons_prefix_cons.mp hfeed).1 (by decide)
    | cons d tail =>
      obtain ⟨rfl, -⟩ := List.cons_prefix_cons.mp hfeed
      exact h ⟨[], tail, rfl⟩

theorem pieces_append {line : List Char} (h : ¬ l.chars <:+: line) (rest : List Char) :
    pieces l.chars (line ++ l.chars ++ rest) = line :: pieces l.chars rest := by
  induction line with
  | nil => cases l <;> simp [pieces, piecesFrom]
  | cons c more ih =>
    rw [List.cons_append, List.cons_append, pieces_cons (not_prefix_append h rest),
      ih (not_infix_of_cons h)]

theorem pieces_ended {lines : List (List Char)} {last : List Char}
    (h : ∀ line ∈ lines, ¬ l.chars <:+: line) (hlast : ¬ l.chars <:+: last) :
    pieces l.chars (ended l lines ++ last) = lines ++ [last] := by
  induction lines with
  | nil => exact pieces_of_not_infix hlast
  | cons line rest ih =>
    obtain ⟨hline, hrest⟩ := List.forall_mem_cons.mp h
    rw [ended_cons, List.append_assoc, pieces_append hline, ih hrest, List.cons_append]

theorem piecesFrom_ne_nil (sep : List Char) (skip : Nat) (cs : List Char) :
    piecesFrom sep skip cs ≠ [] := by
  induction cs generalizing skip with
  | nil => exact List.cons_ne_nil _ _
  | cons c rest ih =>
    cases skip with
    | succ skip => exact ih skip
    | zero =>
      rw [piecesFrom]
      split
      · exact List.cons_ne_nil _ _
      · split <;> exact List.cons_ne_nil _ _

/-- The first piece is how the text begins. -/
theorem prefix_of_piecesFrom {sep cs piece : List Char} {more : List (List Char)}
    (h : piecesFrom sep 0 cs = piece :: more) : piece <+: cs := by
  induction cs generalizing piece more with
  | nil =>
    cases h
    exact List.prefix_rfl
  | cons c rest ih =>
    rw [piecesFrom] at h
    split at h
    · cases h
      exact List.nil_prefix
    · split at h
      · cases h
        exact List.cons_prefix_cons.mpr ⟨rfl, List.nil_prefix⟩
      · next first _ hrest =>
        cases h
        exact List.cons_prefix_cons.mpr ⟨rfl, ih hrest⟩

/-- No separator is left in a piece. -/
theorem not_infix_of_mem_piecesFrom {sep cs piece : List Char} {skip : Nat} (hsep : sep ≠ [])
    (h : piece ∈ piecesFrom sep skip cs) : ¬ sep <:+: piece := by
  have hnil : ¬ sep <:+: [] := fun hpart => hsep (List.infix_nil.mp hpart)
  induction cs generalizing skip piece with
  | nil =>
    rw [piecesFrom, List.mem_singleton] at h
    rwa [h]
  | cons c rest ih =>
    cases skip with
    | succ skip => exact ih h
    | zero =>
      rw [piecesFrom] at h
      split at h
      · rcases List.mem_cons.mp h with rfl | hmem
        · exact hnil
        · exact ih hmem
      · next hbegin =>
        rw [List.isPrefixOf_iff_prefix] at hbegin
        split at h
        · next hrest => exact absurd hrest (piecesFrom_ne_nil sep 0 rest)
        · next first more hrest =>
          rcases List.mem_cons.mp h with rfl | hmem
          · intro hpart
            rcases List.infix_cons_iff.mp hpart with hbegins | hpart
            · exact hbegin (hbegins.trans
                (List.cons_prefix_cons.mpr ⟨rfl, prefix_of_piecesFrom hrest⟩))
            · exact ih (by rw [hrest]; exact List.mem_cons_self) hpart
          · exact ih (by rw [hrest]; exact List.mem_cons_of_mem first hmem)

theorem not_infix_of_mem_pieces {cs piece : List Char} (h : piece ∈ pieces l.chars cs) :
    ¬ l.chars <:+: piece :=
  not_infix_of_mem_piecesFrom (by cases l <;> exact List.cons_ne_nil _ _) h

end Pieces

/-- The text with a carriage return before every line feed. -/
def withReturns (cs : List Char) : List Char :=
  cs.flatMap fun c => if c = '\n' then ['\r', '\n'] else [c]

theorem withReturns_of_notMem {cs : List Char} (h : '\n' ∉ cs) : withReturns cs = cs := by
  induction cs with
  | nil => rfl
  | cons c rest ih =>
    rw [List.mem_cons, not_or] at h
    have hne : c ≠ '\n' := Ne.symm h.1
    simpa [withReturns, hne] using ih h.2

theorem withReturns_ended {lines : List (List Char)} (h : ∀ line ∈ lines, '\n' ∉ line) :
    withReturns (ended .lf lines) = ended .crlf lines := by
  induction lines with
  | nil => rfl
  | cons line rest ih =>
    obtain ⟨hline, hrest⟩ := List.forall_mem_cons.mp h
    have hsplit : withReturns (line ++ ['\n'] ++ ended .lf rest)
        = withReturns line ++ ['\r', '\n'] ++ withReturns (ended .lf rest) := by
      simp [withReturns]
    rw [ended_cons, ended_cons, LineEnd.chars_lf, LineEnd.chars_crlf, hsplit, ih hrest,
      withReturns_of_notMem hline]

/-! ## Lines that are the same but for their blanks -/

/-- A line without the blanks it begins with. -/
def unindented (line : List Char) : List Char := line.dropWhile (· = ' ')

theorem unindented_append_of_nil {line : List Char} (h : unindented line = []) (more : List Char) :
    unindented (line ++ more) = unindented more := by
  unfold unindented at h ⊢
  rw [List.dropWhile_append, h]
  rfl

theorem unindented_append_of_ne_nil {line : List Char} (h : unindented line ≠ [])
    (more : List Char) : unindented (line ++ more) = unindented line ++ more := by
  unfold unindented at h ⊢
  rw [List.dropWhile_append, if_neg]
  simpa using h

theorem unindented_replicate (n : Nat) : unindented (List.replicate n ' ') = [] := by
  unfold unindented
  rw [List.dropWhile_eq_nil_iff]
  intro c hc
  exact decide_eq_true (List.eq_of_mem_replicate hc)

/-- The lines differ at most in the blanks they begin with, and not even there where they are
indented alike. -/
structure SameLine (alike : Prop) (line line' : List Char) : Prop where
  unindented_eq : unindented line = unindented line'
  eq_of_alike : alike → line = line'

section SameLine

variable {alike : Prop} {line line' : List Char}

theorem SameLine.refl (alike : Prop) (line : List Char) : SameLine alike line line :=
  ⟨rfl, fun _ => rfl⟩

theorem SameLine.append (h : SameLine alike line line') (more : List Char) :
    SameLine alike (line ++ more) (line' ++ more) := by
  refine ⟨?_, fun halike => by rw [h.eq_of_alike halike]⟩
  by_cases hnil : unindented line = []
  · rw [unindented_append_of_nil hnil, unindented_append_of_nil (h.unindented_eq ▸ hnil)]
  · rw [unindented_append_of_ne_nil hnil, unindented_append_of_ne_nil (h.unindented_eq ▸ hnil),
      h.unindented_eq]

/-- Lines that are still blank may be indented by different numbers of blanks. -/
theorem SameLine.indent (h : SameLine alike line line') (hblank : unindented line = [])
    {n n' : Nat} (hn : alike → n = n') :
    SameLine alike (line ++ List.replicate n ' ') (line' ++ List.replicate n' ' ') := by
  refine ⟨?_, fun halike => by rw [h.eq_of_alike halike, hn halike]⟩
  rw [unindented_append_of_nil hblank, unindented_append_of_nil (h.unindented_eq ▸ hblank),
    unindented_replicate, unindented_replicate]

end SameLine

/-! ## Texts that are the same line by line -/

/-- A text of lines, none of which holds a line feed, and of a last line without its end. -/
structure Lined (l : LineEnd) (t : String) (lines : List (List Char)) (last : List Char) :
    Prop where
  toList_eq : t.toList = ended l lines ++ last
  lines : ∀ line ∈ lines, '\n' ∉ line
  last : '\n' ∉ last

section Lined

variable {l : LineEnd} {t s : String} {lines : List (List Char)} {last : List Char}

theorem Lined.write (h : Lined l t lines last) (hs : OneLine s) :
    Lined l (t ++ s) lines (last ++ s.toList) where
  toList_eq := by rw [String.toList_append, h.toList_eq, List.append_assoc]
  lines := h.lines
  last := by
    rw [List.mem_append, not_or]
    exact ⟨h.last, hs⟩

theorem Lined.endLine (h : Lined l t lines last) : Lined l (t ++ l.text) (lines ++ [last]) [] where
  toList_eq := by
    rw [String.toList_append, h.toList_eq, ended_append, ended_cons, LineEnd.chars]
    simp
  lines := List.forall_mem_append.mpr ⟨h.lines, List.forall_mem_singleton.mpr h.last⟩
  last := List.not_mem_nil

end Lined

/-- The texts consist of the same lines, each with its own line ends.  Where a line has just begun,
nothing but blanks is behind the last line end. -/
def SameLines (alike : Prop) (l l' : LineEnd) (begun : Bool) (t t' : String) : Prop :=
  ∃ lines lines' last last', Lined l t lines last ∧ Lined l' t' lines' last'
    ∧ List.Forall₂ (SameLine alike) lines lines' ∧ SameLine alike last last'
    ∧ (begun = true → unindented last = [])

namespace SameLines

variable {alike : Prop} {l l' : LineEnd} {begun : Bool} {t t' s : String}

theorem empty (alike : Prop) (l l' : LineEnd) : SameLines alike l l' true "" "" :=
  ⟨[], [], [], [], ⟨rfl, nofun, List.not_mem_nil⟩, ⟨rfl, nofun, List.not_mem_nil⟩, .nil,
    .refl alike [], fun _ => rfl⟩

theorem weaken (h : SameLines alike l l' begun t t') {begun' : Bool}
    (hbegun : begun' = true → begun = true) : SameLines alike l l' begun' t t' := by
  obtain ⟨lines, lines', last, last', ht, ht', hlines, hlast, hblank⟩ := h
  exact ⟨lines, lines', last, last', ht, ht', hlines, hlast, fun h => hblank (hbegun h)⟩

theorem write (h : SameLines alike l l' begun t t') (hs : OneLine s) :
    SameLines alike l l' false (t ++ s) (t' ++ s) := by
  obtain ⟨lines, lines', last, last', ht, ht', hlines, hlast, -⟩ := h
  exact ⟨lines, lines', _, _, ht.write hs, ht'.write hs, hlines, hlast.append s.toList, nofun⟩

theorem endLine (h : SameLines alike l l' begun t t') :
    SameLines alike l l' true (t ++ l.text) (t' ++ l'.text) := by
  obtain ⟨lines, lines', last, last', ht, ht', hlines, hlast, -⟩ := h
  exact ⟨_, _, _, _, ht.endLine, ht'.endLine, List.rel_append hlines (.cons hlast .nil),
    .refl alike [], fun _ => rfl⟩

theorem indent (h : SameLines alike l l' true t t') {n n' : Nat} (hn : alike → n = n') :
    SameLines alike l l' true (t ++ String.ofList (List.replicate n ' '))
      (t' ++ String.ofList (List.replicate n' ' ')) := by
  obtain ⟨lines, lines', last, last', ht, ht', hlines, hlast, hblank⟩ := h
  have hblanks : ∀ n, '\n' ∉ (String.ofList (List.replicate n ' ')).toList := fun n hmem => by
    rw [String.toList_ofList] at hmem
    exact absurd (List.eq_of_mem_replicate hmem) (by decide)
  have hindented : SameLine alike (last ++ (String.ofList (List.replicate n ' ')).toList)
      (last' ++ (String.ofList (List.replicate n' ' ')).toList) := by
    simpa only [String.toList_ofList] using hlast.indent (hblank rfl) hn
  refine ⟨lines, lines', _, _, ht.write (hblanks n), ht'.write (hblanks n'), hlines, hindented,
    fun _ => ?_⟩
  rw [String.toList_ofList, unindented_append_of_nil (hblank rfl), unindented_replicate]

end SameLines

end Text
end JavaCompanion
