/-
Header comments.

A header comment is written as a line that opens it, a line for each line of the text, and a line
that closes it.  Behind the opening mark the closing mark stands at the end and nowhere before
exactly if it does not occur in the text (`header_closes_iff`): neither the beginning of a line nor
a line end is part of a mark, and the blanks cut from the ends of lines do not bring one about.  A
closing mark in the text is written as it stands and ends the comment early
(`closing_mark_written`).
-/
import JavaCompanion.Emitter.Operation
import JavaCompanion.Proofs.Text.LineEnds

namespace JavaCompanion
namespace Text

/-! ## A character outside a pattern -/

section Pattern

variable {pattern ys : List Char} {c : Char}

theorem prefix_of_prefix_append_cons (xs : List Char) (hc : c ∉ pattern)
    (h : pattern <+: xs ++ c :: ys) : pattern <+: xs := by
  rcases List.prefix_or_prefix_of_prefix h (List.prefix_append xs (c :: ys)) with hxs | ⟨more, rfl⟩
  · exact hxs
  · cases more with
    | nil => rw [List.append_nil]
    | cons d more =>
      have hbegins : d :: more <+: c :: ys := (List.prefix_append_right_inj xs).mp h
      obtain ⟨rfl, -⟩ := List.cons_prefix_cons.mp hbegins
      exact absurd (List.mem_append_right xs List.mem_cons_self) hc

/-- A character that is not part of it keeps a pattern on one side. -/
theorem infix_append_cons_iff {xs : List Char} (hc : c ∉ pattern) :
    pattern <:+: xs ++ c :: ys ↔ pattern <:+: xs ∨ pattern <:+: ys := by
  induction xs with
  | nil =>
    rw [List.nil_append, List.infix_cons_iff, List.infix_nil]
    refine or_congr_left ⟨fun h => ?_, fun h => h ▸ List.nil_prefix⟩
    exact List.prefix_nil.mp (prefix_of_prefix_append_cons [] hc h)
  | cons x rest ih =>
    rw [List.cons_append, List.infix_cons_iff, ih, List.infix_cons_iff, or_assoc]
    exact or_congr_left ⟨prefix_of_prefix_append_cons (x :: rest) hc,
      fun h => h.trans (List.prefix_append (x :: rest) (c :: ys))⟩

end Pattern

/-! ## The mark that closes a comment -/

def closingMark : List Char := ['*', '/']

theorem not_closingMark_infix_nil : ¬ closingMark <:+: [] :=
  fun h => List.cons_ne_nil _ _ (List.infix_nil.mp h)

theorem notMem_closingMark_of_isBlank {c : Char} (h : isBlank c = true) : c ∉ closingMark := by
  intro hmem
  rcases List.mem_pair.mp hmem with rfl | rfl <;> exact nomatch h

theorem notMem_closingMark_of_isLineBreak {c : Char} (h : isLineBreak c = true) :
    c ∉ closingMark := by
  intro hmem
  rcases List.mem_pair.mp hmem with rfl | rfl <;> exact nomatch h

theorem closingMark_infix_cons_iff {c : Char} {cs : List Char} (hc : c ∉ closingMark) :
    closingMark <:+: c :: cs ↔ closingMark <:+: cs := by
  have hsplit : closingMark <:+: [] ++ c :: cs ↔ closingMark <:+: [] ∨ closingMark <:+: cs :=
    infix_append_cons_iff hc
  rwa [or_iff_right not_closingMark_infix_nil] at hsplit

theorem closingMark_infix_trimRight_iff (cs : List Char) :
    closingMark <:+: trimRight cs ↔ closingMark <:+: cs := by
  induction cs using List.reverseRecOn with
  | nil => rfl
  | append_singleton cs c ih =>
    cases hc : isBlank c with
    | true =>
      rw [trimRight, dropEndWhile_append_of_pos hc, ← trimRight, ih,
        infix_append_cons_iff (notMem_closingMark_of_isBlank hc),
        or_iff_left not_closingMark_infix_nil]
    | false => rw [trimRight, dropEndWhile_append_singleton hc]

/-- Cut into its lines, a text loses no closing mark and gains none. -/
theorem closingMark_linesFrom_iff (line cs : List Char) :
    (∃ part ∈ linesFrom line cs, closingMark <:+: part) ↔ closingMark <:+: line.reverse ++ cs := by
  induction line, cs using linesFrom.induct with
  | case1 line hempty =>
    rw [linesFrom, if_pos hempty, List.isEmpty_iff.mp hempty]
    exact iff_of_false (by simp) not_closingMark_infix_nil
  | case2 line hempty =>
    rw [linesFrom, if_neg hempty]
    simp
  | case3 line rest ih =>
    rw [linesFrom, List.exists_mem_cons_iff, ih,
      infix_append_cons_iff (notMem_closingMark_of_isLineBreak rfl),
      closingMark_infix_cons_iff (notMem_closingMark_of_isLineBreak rfl)]
    rfl
  | case4 line c rest hnext hbreak ih =>
    rw [linesFrom, if_pos hbreak, List.exists_mem_cons_iff, ih,
      infix_append_cons_iff (notMem_closingMark_of_isLineBreak hbreak)]
    · rfl
    · exact hnext
  | case5 line c rest hnext hbreak ih =>
    rw [linesFrom, if_neg hbreak, ih, List.reverse_cons, List.append_assoc]
    · rfl
    · exact hnext

theorem closingMark_splitLines_iff (s : String) :
    (∃ line ∈ splitLines s, closingMark <:+: line.toList) ↔ closingMark <:+: s.toList := by
  have hlines := closingMark_linesFrom_iff [] s.toList
  rw [List.reverse_nil, List.nil_append] at hlines
  rw [← hlines]
  simp [splitLines]

theorem closingMark_lineEnd_iff (l : LineEnd) (line more : List Char) :
    closingMark <:+: line ++ l.chars ++ more
      ↔ closingMark <:+: line ∨ closingMark <:+: more := by
  have hfeed : '\n' ∉ closingMark := by decide
  have hreturn : '\r' ∉ closingMark := by decide
  rw [List.append_assoc]
  cases l with
  | lf => exact infix_append_cons_iff hfeed
  | crlf =>
    have hmore : closingMark <:+: '\n' :: more ↔ closingMark <:+: more :=
      closingMark_infix_cons_iff hfeed
    rw [← hmore]
    exact infix_append_cons_iff hreturn

theorem closingMark_ended_iff (l : LineEnd) (lines : List (List Char)) (more : List Char) :
    closingMark <:+: ended l lines ++ more
      ↔ (∃ line ∈ lines, closingMark <:+: line) ∨ closingMark <:+: more := by
  induction lines with
  | nil => simp
  | cons line rest ih =>
    rw [ended_cons, List.append_assoc, closingMark_lineEnd_iff, ih, List.exists_mem_cons_iff,
      or_assoc]

/-! ## Comments that are closed once -/

/-- The text ends with a closing mark and a line end, and no other closing mark is in it. -/
def ClosedOnce (l : LineEnd) (cs : List Char) : Prop :=
  closingMark ++ l.chars <:+ cs
    ∧ ∀ before after, cs = before ++ closingMark ++ after → after = l.chars

/-- Where the text before the final mark holds no mark, that mark is the only one. -/
theorem eq_of_append_closingMark {ending cs before after : List Char} (hending : '*' ∉ ending)
    (hcs : ¬ closingMark <:+: cs)
    (h : cs ++ ' ' :: (closingMark ++ ending) = before ++ closingMark ++ after) :
    after = ending := by
  rw [List.append_assoc] at h
  induction cs generalizing before with
  | nil =>
    -- Only the final mark is left.  A mark that began at its slash would have its star behind it.
    rcases before with _ | ⟨b, _ | ⟨d, before⟩⟩
    · exact absurd (List.cons.inj h).1 (by decide)
    · exact (List.append_cancel_left (List.cons.inj h).2).symm
    · have htail : '/' :: ending = before ++ closingMark ++ after := by
        rw [List.append_assoc]
        exact (List.cons.inj (List.cons.inj h).2).2
      have hstar : '*' ∈ '/' :: ending := by
        rw [htail]
        exact List.mem_append_left after (List.mem_append_right before List.mem_cons_self)
      rcases List.mem_cons.mp hstar with heq | hmem
      · exact absurd heq (by decide)
      · exact absurd hmem hending
  | cons c rest ih =>
    cases before with
    | nil =>
      have hbegins : closingMark <+: (c :: rest) ++ ' ' :: (closingMark ++ ending) :=
        ⟨after, h.symm⟩
      exact absurd (prefix_of_prefix_append_cons (c :: rest) (by decide) hbegins).isInfix hcs
    | cons b before => exact ih (fun hrest => hcs (List.infix_cons hrest)) (List.cons.inj h).2

theorem closedOnce_iff (l : LineEnd) (cs : List Char) :
    ClosedOnce l (cs ++ ' ' :: (closingMark ++ l.chars)) ↔ ¬ closingMark <:+: cs := by
  have hstar : '*' ∉ l.chars := by cases l <;> decide
  constructor
  · rintro ⟨-, honce⟩ ⟨before, after, rfl⟩
    have hafter := honce before (after ++ ' ' :: (closingMark ++ l.chars))
      (List.append_assoc (before ++ closingMark) after _)
    have hmem : '*' ∈ after ++ ' ' :: (closingMark ++ l.chars) :=
      List.mem_append_right after (List.mem_cons_of_mem ' ' List.mem_cons_self)
    exact hstar (hafter ▸ hmem)
  · intro hcs
    refine ⟨⟨cs ++ [' '], by rw [List.append_assoc]; rfl⟩, fun before after h => ?_⟩
    exact eq_of_append_closingMark hstar hcs h

end Text

namespace Emitter

open Text

/-- The blanks that a line begins with. -/
def margin (e : Emitter) : Except Fault String :=
  if e.depth = 0 then .ok "" else indentation e.style e.depth

/-- The emitter after a text. -/
def extend (e : Emitter) (s : String) : Emitter := { e with text := e.text ++ s }

def indented (margin : String) (lines : List String) : List (List Char) :=
  lines.map fun s => (margin ++ s).toList

/-- The lines of a comment between the one that opens it and the one that closes it. -/
def commentBody (s : String) : List String :=
  (splitLines s).map fun line => stripRight (" * " ++ line)

section Header

variable {e : Emitter} {l : LineEnd} {margin : String}

theorem extend_extend (e : Emitter) (s t : String) :
    (e.extend s).extend t = e.extend (s ++ t) := by
  simp [extend, String.append_assoc]

/-! ## Lines that are written -/

theorem append_eq_extend (hopen : e.closed = false) (s : String) :
    e.append s = .ok (e.extend s) := by
  simp [append, extend, hopen]

theorem apply_indent (hopen : e.closed = false) (hmargin : e.margin = .ok margin) :
    e.apply .indent = .ok (e.extend margin) := by
  unfold Emitter.margin at hmargin
  unfold apply
  split at hmargin
  · next hdepth =>
    cases hmargin
    rw [if_pos hdepth, extend, String.append_empty]
  · next hdepth =>
    rw [if_neg hdepth, hmargin]
    exact append_eq_extend hopen margin

theorem run_line (hopen : e.closed = false) (hending : e.style.lineEnding = .text l.text)
    (hmargin : e.margin = .ok margin) (s : String) (more : List Action) :
    e.run ([.indent, .write s, .lineEnd] ++ more)
      = (e.extend (margin ++ s ++ l.text)).run more := by
  have hwrite : (e.extend margin).apply (.write s) = .ok (e.extend (margin ++ s)) := by
    rw [← extend_extend]
    exact append_eq_extend (e := e.extend margin) hopen s
  have hline : (e.extend (margin ++ s)).apply .lineEnd
      = .ok (e.extend (margin ++ s ++ l.text)) := by
    have hvalue : (e.extend (margin ++ s)).style.lineEnding.asOperand = .ok l.text := by
      rw [show (e.extend (margin ++ s)).style = e.style from rfl, hending]
      rfl
    rw [apply, appendValue, hvalue, ← extend_extend e (margin ++ s)]
    exact append_eq_extend (e := e.extend (margin ++ s)) hopen l.text
  simp only [List.cons_append, List.nil_append, run, apply_indent hopen hmargin, hwrite, hline]

theorem run_lines (hopen : e.closed = false) (hending : e.style.lineEnding = .text l.text)
    (hmargin : e.margin = .ok margin) (lines : List String) :
    e.run (lines.flatMap fun s => [.indent, .write s, .lineEnd])
      = (e.extend (String.ofList (ended l (indented margin lines))), none) := by
  induction lines generalizing e with
  | nil => rw [List.flatMap_nil, run_nil, extend, indented, List.map_nil, ended_nil,
      String.ofList_nil, String.append_empty]
  | cons s rest ih =>
    have hfirst : String.ofList (ended l (indented margin (s :: rest)))
        = margin ++ s ++ l.text ++ String.ofList (ended l (indented margin rest)) := by
      rw [indented, List.map_cons, ended_cons, String.ofList_append, String.ofList_append,
        String.ofList_toList, LineEnd.chars, String.ofList_toList]
      rfl
    rw [List.flatMap_cons, run_line hopen hending hmargin, hfirst,
      ← extend_extend e (margin ++ s ++ l.text)]
    exact ih (e := e.extend (margin ++ s ++ l.text)) hopen hending hmargin

/-! ## The comment -/

theorem headerComment_actions (style : Style) (frame : Frame) (s : String) :
    (Operation.headerComment (.text s)).actions style frame
      = (["/*"] ++ commentBody s ++ [" */"]).flatMap
          fun s => [.indent, .write s, .lineEnd] := by
  rw [List.flatMap_append, List.flatMap_append, commentBody, List.flatMap_map]
  rfl

theorem perform_headerComment (hplace : e.place = none) (hopen : e.closed = false)
    (hending : e.style.lineEnding = .text l.text) (hmargin : e.margin = .ok margin) (s : String) :
    e.perform (.headerComment (.text s))
      = (e.extend (String.ofList
          (ended l (indented margin (["/*"] ++ commentBody s ++ [" */"])))), none) := by
  have hlegal : (Operation.headerComment (.text s)).places.contains e.place = true := by
    rw [hplace]
    rfl
  rw [perform, if_pos hlegal, headerComment_actions, run_lines hopen hending hmargin]

theorem blank_of_mem_margin (hmargin : e.margin = .ok margin) :
    ∀ c ∈ margin.toList, c = ' ' := by
  intro c hc
  unfold Emitter.margin indentation blanks at hmargin
  split at hmargin
  · cases hmargin
    exact nomatch hc
  · split at hmargin
    · split at hmargin
      · exact nomatch hmargin
      · split at hmargin
        · exact nomatch hmargin
        · cases hmargin
          rw [String.toList_ofList] at hc
          exact List.eq_of_mem_replicate hc
    · exact nomatch hmargin

theorem closingMark_blanks_append_iff {blanks : List Char} (h : ∀ c ∈ blanks, c = ' ')
    (cs : List Char) : closingMark <:+: blanks ++ cs ↔ closingMark <:+: cs := by
  induction blanks with
  | nil => rfl
  | cons c rest ih =>
    obtain ⟨rfl, hrest⟩ := List.forall_mem_cons.mp h
    rw [List.cons_append, closingMark_infix_cons_iff (by decide), ih hrest]

/-- What a line of a comment begins with does not join its first character to a mark. -/
theorem closingMark_commentBody_iff (hblank : ∀ c ∈ margin.toList, c = ' ') (s : String) :
    (∃ line ∈ indented margin (commentBody s), closingMark <:+: line)
      ↔ closingMark <:+: s.toList := by
  have hline : ∀ line : String, closingMark <:+: (margin ++ stripRight (" * " ++ line)).toList
      ↔ closingMark <:+: line.toList := fun line => by
    have hbegins : (" * " ++ line).toList = [' ', '*'] ++ ' ' :: line.toList :=
      String.toList_append
    rw [String.toList_append, closingMark_blanks_append_iff hblank, stripRight,
      String.toList_ofList, closingMark_infix_trimRight_iff, hbegins,
      infix_append_cons_iff (by decide), or_iff_right (by decide)]
  rw [← closingMark_splitLines_iff, indented, commentBody, List.map_map]
  simp only [List.mem_map, Function.comp_apply, exists_exists_and_eq_and, hline]

/-- A header comment at the top level has a line for each line of the text.  The first closing mark
behind the mark that opens it is the one at its end, exactly if none occurs in the text. -/
theorem header_closes_iff (hplace : e.place = none) (hopen : e.closed = false)
    (hending : e.style.lineEnding = .text l.text) (hmargin : e.margin = .ok margin) (s : String) :
    ∃ body, e.perform (.headerComment (.text s))
          = (e.extend (margin ++ "/*" ++ String.ofList body), none)
      ∧ body = l.chars ++ ended l (indented margin (commentBody s ++ [" */"]))
      ∧ (ClosedOnce l body ↔ ¬ closingMark <:+: s.toList) := by
  have hblank := blank_of_mem_margin hmargin
  refine ⟨_, ?_, rfl, ?_⟩
  · have hopening : ended l (indented margin (["/*"] ++ commentBody s ++ [" */"]))
        = (margin ++ "/*").toList
          ++ (l.chars ++ ended l (indented margin (commentBody s ++ [" */"]))) := by
      rw [List.append_assoc, ← List.append_assoc _ l.chars]
      rfl
    rw [perform_headerComment hplace hopen hending hmargin, hopening, String.ofList_append,
      String.ofList_toList]
  · have hlines : indented margin (commentBody s ++ [" */"])
        = indented margin (commentBody s) ++ [margin.toList ++ ' ' :: closingMark] := by
      rw [indented, List.map_append, List.map_singleton, String.toList_append]
      rfl
    have hends : l.chars ++ ended l (indented margin (commentBody s ++ [" */"]))
        = ([] ++ l.chars ++ (ended l (indented margin (commentBody s)) ++ margin.toList))
          ++ ' ' :: (closingMark ++ l.chars) := by
      rw [hlines, ended_append, ended_cons, ended_nil]
      simp only [List.append_assoc, List.cons_append, List.append_nil, List.nil_append]
    have hmark : ¬ closingMark <:+: margin.toList := by
      have hnone := closingMark_blanks_append_iff hblank []
      rw [List.append_nil] at hnone
      exact fun h => not_closingMark_infix_nil (hnone.mp h)
    rw [hends, closedOnce_iff, closingMark_lineEnd_iff, or_iff_right not_closingMark_infix_nil,
      closingMark_ended_iff, or_iff_left hmark, closingMark_commentBody_iff hblank]

end Header

def crlfEmitter : Emitter := { style := { lineEnding := .text "\r\n" } }

/-- A star and a slash on two lines, or with a blank between them, make no mark.  Nor does the star
that a line begins with join the slash behind it. -/
theorem splitMarks_closed_once :
    ∃ body, crlfEmitter.perform (.headerComment (.text "*\r\n/\u2028* /"))
        = (crlfEmitter.extend ("" ++ "/*" ++ String.ofList body), none)
      ∧ body = "\r\n * *\r\n * /\r\n * * /\r\n */\r\n".toList
      ∧ ClosedOnce .crlf body := by
  have hmargin : crlfEmitter.margin = .ok "" := rfl
  obtain ⟨body, hperform, hbody, hclosed⟩ :=
    header_closes_iff (l := .crlf) rfl rfl rfl hmargin "*\r\n/\u2028* /"
  exact ⟨body, hperform, hbody.trans (by decide), hclosed.mpr (by decide)⟩

/-- Behind the first closing mark the text goes on outside the comment. -/
theorem closing_mark_written :
    (({} : Emitter).perform (.headerComment (.text "a */ b"))).1.text
        = "/*" ++ "\n * a */ b\n */\n"
      ∧ ¬ ClosedOnce .lf "\n * a */ b\n */\n".toList := by
  refine ⟨by decide, fun h => ?_⟩
  have hafter := h.2 "\n * a ".toList " b\n */\n".toList (by decide)
  exact absurd hafter (by decide)

end Emitter
end JavaCompanion
