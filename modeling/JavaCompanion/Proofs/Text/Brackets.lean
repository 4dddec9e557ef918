/-
Brackets that match.

A matcher goes through a text and keeps the round and the curly brackets that are open.  It
looks at the brackets alone (`matchBrackets_brackets`), so blanks at the end of a line and the
line ends themselves are of no account.  A balanced text leaves whatever was open before it
(`neutral_of_balanced`).
-/
import JavaCompanion.Text.Blank
import JavaCompanion.Text.Lines

namespace JavaCompanion
namespace Text

/-- The brackets that are open after a character, the innermost first.  There are none if the
character closes another bracket than the innermost. -/
def stepBracket (opened : List Char) (c : Char) : Option (List Char) :=
  if c = '(' ∨ c = '\x7b' then some (c :: opened)
  else if c = ')' then if opened.head? = some '(' then some opened.tail else none
  else if c = '\x7d' then if opened.head? = some '\x7b' then some opened.tail else none
  else some opened

def matchBrackets (opened cs : List Char) : Option (List Char) := cs.foldlM stepBracket opened

/-- The brackets that a text leaves open, from the outside in, if all that it closes match. -/
def openBrackets (s : String) : Option (List Char) :=
  (matchBrackets [] s.toList).map List.reverse

/-- Every bracket of the text is closed, and by its own kind. -/
def Balanced (s : String) : Prop := openBrackets s = some []

instance (s : String) : Decidable (Balanced s) := inferInstanceAs (Decidable (_ = _))

def isBracket (c : Char) : Bool := c = '(' || c = ')' || c = '\x7b' || c = '\x7d'

def brackets (cs : List Char) : List Char := cs.filter isBracket

/-- Reading it leaves every row of open brackets as it was. -/
def Neutral (cs : List Char) : Prop := ∀ opened, matchBrackets opened cs = some opened

/-! ## Matching -/

@[simp] theorem matchBrackets_nil (opened : List Char) :
    matchBrackets opened [] = some opened := rfl

@[simp] theorem matchBrackets_cons (opened : List Char) (c : Char) (cs : List Char) :
    matchBrackets opened (c :: cs)
      = (stepBracket opened c).bind fun opened => matchBrackets opened cs := rfl

@[simp] theorem matchBrackets_append (opened cs ds : List Char) :
    matchBrackets opened (cs ++ ds)
      = (matchBrackets opened cs).bind fun opened => matchBrackets opened ds :=
  List.foldlM_append

theorem stepBracket_of_not_isBracket {c : Char} (h : isBracket c = false)
    (opened : List Char) : stepBracket opened c = some opened := by
  simp only [isBracket, Bool.or_eq_false_iff, decide_eq_false_iff_not] at h
  simp [stepBracket, h]

@[simp] theorem matchBrackets_brackets (opened cs : List Char) :
    matchBrackets opened (brackets cs) = matchBrackets opened cs := by
  induction cs generalizing opened with
  | nil => rfl
  | cons c rest ih =>
    cases hc : isBracket c with
    | true =>
      rw [brackets, List.filter_cons_of_pos hc, matchBrackets_cons, matchBrackets_cons]
      exact congrArg _ (funext ih)
    | false =>
      rw [brackets, List.filter_cons_of_neg (by simp [hc]), matchBrackets_cons,
        stepBracket_of_not_isBracket hc]
      exact ih opened

/-- What is open further out is not looked at. -/
theorem stepBracket_append {opened opened' : List Char} {c : Char}
    (h : stepBracket opened c = some opened') (outer : List Char) :
    stepBracket (opened ++ outer) c = some (opened' ++ outer) := by
  cases opened with
  | nil =>
    simp only [stepBracket, List.head?_nil, reduceCtorEq, if_false] at h ⊢
    grind
  | cons o rest => simp only [stepBracket, List.cons_append, List.head?_cons] at h ⊢; grind

theorem matchBrackets_outer {opened opened' cs : List Char}
    (h : matchBrackets opened cs = some opened') (outer : List Char) :
    matchBrackets (opened ++ outer) cs = some (opened' ++ outer) := by
  induction cs generalizing opened with
  | nil =>
    cases h
    rfl
  | cons c rest ih =>
    obtain ⟨middle, hmiddle, hrest⟩ := Option.bind_eq_some_iff.mp h
    rw [matchBrackets_cons, stepBracket_append hmiddle]
    exact ih hrest

/-! ## Texts that leave what is open -/

theorem neutral_nil : Neutral [] := fun _ => rfl

theorem Neutral.append {cs ds : List Char} (hcs : Neutral cs) (hds : Neutral ds) :
    Neutral (cs ++ ds) := by
  intro opened
  rw [matchBrackets_append, hcs, Option.bind_some, hds]

theorem neutral_flatMap {α : Type} {f : α → List Char} {as : List α}
    (h : ∀ a ∈ as, Neutral (f a)) : Neutral (as.flatMap f) := by
  induction as with
  | nil => exact neutral_nil
  | cons a rest ih =>
    rw [List.flatMap_cons]
    exact (h a List.mem_cons_self).append (ih fun b hb => h b (List.mem_cons_of_mem a hb))

/-- What leaves everything open may stand behind every piece of a text. -/
theorem matchBrackets_flatMap_append {α : Type} {cs : List Char} (hcs : Neutral cs)
    (f : α → List Char) (as : List α) (opened : List Char) :
    matchBrackets opened (as.flatMap fun a => f a ++ cs) = matchBrackets opened (as.flatMap f) := by
  induction as generalizing opened with
  | nil => rfl
  | cons a rest ih =>
    rw [List.flatMap_cons, List.flatMap_cons, List.append_assoc, matchBrackets_append,
      matchBrackets_append]
    refine congrArg _ (funext fun middle => ?_)
    rw [matchBrackets_append, hcs, Option.bind_some]
    exact ih middle

theorem neutral_of_balanced {s : String} (h : Balanced s) : Neutral s.toList := by
  intro opened
  obtain ⟨left, hleft, hnil⟩ := Option.map_eq_some_iff.mp h
  rw [List.reverse_eq_nil_iff] at hnil
  rw [hnil] at hleft
  exact matchBrackets_outer hleft opened

theorem neutral_brackets {cs : List Char} : Neutral (brackets cs) ↔ Neutral cs := by
  unfold Neutral
  simp only [matchBrackets_brackets]

/-! ## Blanks and lines -/

@[simp] theorem brackets_append (cs ds : List Char) :
    brackets (cs ++ ds) = brackets cs ++ brackets ds := List.filter_append ..

theorem brackets_cons {c : Char} (h : isBracket c = false) (cs : List Char) :
    brackets (c :: cs) = brackets cs := List.filter_cons_of_neg (by simp [h])

theorem brackets_eq_nil {cs : List Char} (h : ∀ c ∈ cs, isBracket c = false) :
    brackets cs = [] := by
  simpa [brackets, List.filter_eq_nil_iff] using h

theorem not_isBracket_of_isBlank {c : Char} (h : isBlank c = true) : isBracket c = false := by
  cases hc : isBracket c with
  | false => rfl
  | true =>
    simp only [isBracket, Bool.or_eq_true, decide_eq_true_iff] at hc
    rcases hc with ((rfl | rfl) | rfl) | rfl <;> exact nomatch h

theorem not_isBracket_of_isLineBreak {c : Char} (h : isLineBreak c = true) :
    isBracket c = false := by
  cases hc : isBracket c with
  | false => rfl
  | true =>
    simp only [isBracket, Bool.or_eq_true, decide_eq_true_iff] at hc
    rcases hc with ((rfl | rfl) | rfl) | rfl <;> exact nomatch h

theorem brackets_trimRight (cs : List Char) : brackets (trimRight cs) = brackets cs := by
  have hcut : trimRight cs ++ (cs.reverse.takeWhile isBlank).reverse = cs := by
    rw [trimRight, dropEndWhile, ← List.reverse_append, List.takeWhile_append_dropWhile,
      List.reverse_reverse]
  have hblank : brackets (cs.reverse.takeWhile isBlank).reverse = [] :=
    brackets_eq_nil fun c hc =>
      not_isBracket_of_isBlank (List.all_eq_true.mp List.all_takeWhile c (List.mem_reverse.mp hc))
  calc brackets (trimRight cs)
      = brackets (trimRight cs ++ (cs.reverse.takeWhile isBlank).reverse) := by
        rw [brackets_append, hblank, List.append_nil]
    _ = brackets cs := by rw [hcut]

theorem brackets_linesFrom (line cs : List Char) :
    (linesFrom line cs).flatMap brackets = brackets (line.reverse ++ cs) := by
  fun_induction linesFrom line cs with
  | case1 line hempty => simp_all [brackets]
  | case2 line hempty => simp [brackets]
  | case3 line rest ih =>
    rw [List.flatMap_cons, ih, List.reverse_nil, List.nil_append, brackets_append,
      brackets_cons (c := '\r') rfl, brackets_cons (c := '\n') rfl]
  | case4 line c rest hcr hbreak ih =>
    rw [List.flatMap_cons, ih, List.reverse_nil, List.nil_append, brackets_append,
      brackets_cons (not_isBracket_of_isLineBreak hbreak)]
  | case5 line c rest hcr hbreak ih =>
    rw [ih, List.reverse_cons, List.append_assoc]
    rfl

end Text
end JavaCompanion
