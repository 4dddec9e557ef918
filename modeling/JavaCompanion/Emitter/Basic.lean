/-
A forward-only emitter of brace-delimited source text.

Every construct that is open is a frame; the innermost comes first.  What is emitted is a
sequence of actions.  An action either fails and changes nothing, or appends to the text,
moves the indentation, or changes the frames.  Text is never taken back, so what the actions
before a failure have written stays.
-/
import JavaCompanion.Emitter.Misuse
import JavaCompanion.Fault

namespace JavaCompanion
namespace Emitter

/-- How source is laid out, and the annotation that records where it comes from.  The values
are those of a configuration; their shapes are asked for when they are used. -/
structure Style where
  indentWidth : Value := .int 4
  lineEnding : Value := .text "\n"
  generatedMarker : Value := .text "javax.annotation.Generated"
  /-- The most blanks that can be held as one text. -/
  textLimit : Nat := 4294967295

/-- An open construct: its label, the levels by which it indents, and what has been seen of
it.  `inline` marks a call inside a statement, `bodiless` a method of an interface. -/
structure Frame where
  context : Context
  label : String := ""
  indent : Nat := 0
  first : Bool := true
  inline : Bool := false
  bodiless : Bool := false
  extended : Bool := false
  implemented : Bool := false
  deriving DecidableEq, Repr

/-- What a frame can be told about its construct. -/
inductive Mark where
  /-- The first element, or the expression, has been written. -/
  | begun
  | extended
  | implemented
  deriving DecidableEq, Repr

def Frame.mark (f : Frame) : Mark → Frame
  | .begun => { f with first := false }
  | .extended => { f with extended := true }
  | .implemented => { f with implemented := true }

inductive Action where
  | write (s : String)
  /-- Writes a value that has to be a text. -/
  | writeValue (v : Value)
  | lineEnd
  /-- The blanks at the beginning of a line. -/
  | indent
  /-- The modifiers of a collection, in source order, each followed by a blank. -/
  | modifiers (v : Value)
  /-- The texts of a collection with a separator between each two. -/
  | joined (separator : String) (v : Value)
  | push (f : Frame)
  | pop
  | mark (m : Mark)
  | deepen (levels : Nat)
  | shallow (levels : Nat)
  | fail (f : Fault)

end Emitter

open Emitter in
structure Emitter where
  style : Style := {}
  text : String := ""
  depth : Nat := 0
  frames : List Frame := []
  closed : Bool := false
  /-- Whether the text may be taken from the emitter. -/
  ownsText : Bool := true

namespace Emitter

def append (e : Emitter) (s : String) : Except Fault Emitter :=
  if e.closed then .error .closedText else .ok { e with text := e.text ++ s }

def appendValue (e : Emitter) (v : Value) : Except Fault Emitter := do
  e.append (← shaped v.asOperand)

/-- Every count is below it, and no count is below its negation. -/
def countLimit : Int := 9223372036854775808

/-- A text of blanks, no more than the limit; a negative number of them is none. -/
def blanks (limit : Nat) (count : Int) : Except Fault String :=
  if count < -countLimit || countLimit ≤ count then .error .countTooLarge
  else if limit < count then .error .textTooLong
  else .ok (String.ofList (List.replicate count.toNat ' '))

/-- The blanks of `depth` levels. -/
def indentation (style : Style) (depth : Nat) : Except Fault String :=
  match style.indentWidth.int? with
  | some n => blanks style.textLimit (depth * n)
  | none => .error (.mismatch (.operand style.indentWidth))

def modifierText (v : Value) : Except Fault String :=
  match Java.modifierSet v with
  | .ok ms => .ok (String.join (ms.map fun m => m.keyword ++ " "))
  | .error f => .error (.ofModifierFault f)

def joinedText (separator : String) (v : Value) : Except Fault String := do
  let texts ← shaped do (← v.items).mapM Value.asOperand
  return String.intercalate separator texts

def markTop (m : Mark) : List Frame → List Frame
  | [] => []
  | f :: rest => f.mark m :: rest

def popFrame (e : Emitter) : Emitter :=
  match e.frames with
  | [] => e
  | f :: rest => { e with frames := rest, depth := e.depth - f.indent }

def apply (e : Emitter) : Action → Except Fault Emitter
  | .write s => e.append s
  | .writeValue v => e.appendValue v
  | .lineEnd => e.appendValue e.style.lineEnding
  | .indent =>
    if e.depth = 0 then .ok e else do e.append (← indentation e.style e.depth)
  | .modifiers v => do
    let s ← modifierText v
    if s = "" then .ok e else e.append s
  | .joined separator v => do e.append (← joinedText separator v)
  | .push f => .ok { e with frames := f :: e.frames, depth := e.depth + f.indent }
  | .pop => .ok e.popFrame
  | .mark m => .ok { e with frames := markTop m e.frames }
  | .deepen n => .ok { e with depth := e.depth + n }
  | .shallow n => .ok { e with depth := e.depth - n }
  | .fail f => .error f

/-- The actions one after another, up to the first that fails. -/
def run (e : Emitter) : List Action → Emitter × Option Fault
  | [] => (e, none)
  | a :: rest =>
    match e.apply a with
    | .ok e => run e rest
    | .error f => (e, some f)

@[simp] theorem run_nil (e : Emitter) : e.run [] = (e, none) := rfl

/-! ## Where the emitter is -/

def place (e : Emitter) : Place := e.frames.head?.map (·.context)

/-- The open constructs, outermost first. -/
def openContexts (e : Emitter) : List Context := e.frames.reverse.map (·.context)

def isBalanced (e : Emitter) : Bool := e.frames.isEmpty

def ensureBalanced (e : Emitter) : Except Misuse Unit :=
  match e.frames with
  | [] => .ok ()
  | frames => .error (.unclosed (frames.reverse.map fun f => (f.context, f.label)))

/-- Everything written, if nothing is left open. -/
def result (e : Emitter) : Except Fault String :=
  if !e.ownsText then .error (.emitter .foreignText)
  else
    match e.ensureBalanced with
    | .error m => .error (.emitter m)
    | .ok () => if e.closed then .error .closedText else .ok e.text

def close (e : Emitter) : Emitter := { e with closed := true }

theorem ensureBalanced_eq_ok {e : Emitter} : e.ensureBalanced = .ok () ↔ e.frames = [] := by
  unfold ensureBalanced
  split
  · next h => simp [h]
  · next h => simpa using h

end Emitter
end JavaCompanion
