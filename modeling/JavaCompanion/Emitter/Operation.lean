/-
The operations of an emitter.

Each operation is legal at certain places.  At such a place it becomes a list of actions,
which may still fail: for a second `extends`, for a value that is no text, for a modifier
nobody knows.
-/
import JavaCompanion.Emitter.Basic
import JavaCompanion.Text.Lines

namespace JavaCompanion
namespace Emitter

inductive Operation where
  /-- Nothing is written for an empty name. -/
  | packageDeclaration (name : String)
  /-- A block comment with one line for each line of the text. -/
  | headerComment (text : Value)
  | annotate (text : Value)
  /-- The provenance is recorded unless it is empty. -/
  | classStart (name provenance : String) (modifiers : Value)
  | classExtends (name : String)
  | classImplements (names : List Value)
  | classEnd
  | interfaceStart (name provenance : String) (modifiers extended : Value)
  | interfaceEnd
  | blockEnd
  | field (type name : String) (modifiers : Value) (value : Option String)
  | constructorStart (name : String) (modifiers : Value)
  | methodStart (type name : String) (modifiers : Value)
  /-- The annotations are one text or a collection of texts. -/
  | parameter (annotations : Value) (type name : String) (modifiers : Value)
  | bodyStart (thrown : List Value)
  /-- Ends the declaration of a method without a body. -/
  | bodiless (thrown : List Value)
  | superConstructorStart
  | superCallStart (name : String)
  | callStart (target : String)
  | argument (value : Value)
  | callEnd
  | declarationStart (type name : String) (modifiers : Value)
  | declaration (type name value : String) (modifiers : Value)
  | assignment (target value : String)
  | returnStart
  | returnValue (value : Option String)
  /-- An object creation in an open statement, each argument on a line of its own. -/
  | newInstance (name : String) (arguments : List Value)
  | statementEnd
  | loopStart (type name iterable : String) (modifiers : Value)
  | loopEnd
  | raw (text : Value)

namespace Operation

def name : Operation → String
  | .packageDeclaration _ => "write_package_declaration"
  | .headerComment _ => "write_header_comment"
  | .annotate _ => "write_annotation"
  | .classStart .. => "write_class_declaration_start"
  | .classExtends _ => "write_class_extends_declaration"
  | .classImplements _ => "write_class_implements_declaration"
  | .classEnd => "write_class_declaration_end"
  | .interfaceStart .. => "write_interface_declaration"
  | .interfaceEnd => "write_interface_block_end"
  | .blockEnd => "write_block_end"
  | .field .. => "write_field"
  | .constructorStart .. => "write_constructor_declaration_start"
  | .methodStart .. => "write_method_declaration_start"
  | .parameter .. => "write_method_parameter"
  | .bodyStart _ => "write_method_declaration_end"
  | .bodiless _ => "write_interface_method_declaration_end"
  | .superConstructorStart => "write_super_constructor_start"
  | .superCallStart _ => "write_super_method_start"
  | .callStart _ => "write_method_call_start"
  | .argument _ => "write_method_call_parameter"
  | .callEnd => "write_method_call_end"
  | .declarationStart .. => "write_declaration_start"
  | .declaration .. => "write_declaration_and_assignment"
  | .assignment .. => "write_assignment"
  | .returnStart => "write_return_start"
  | .returnValue _ => "write_return"
  | .newInstance .. => "write_new_instance"
  | .statementEnd => "write_statement_end"
  | .loopStart .. => "write_new_for_loop_start"
  | .loopEnd => "write_for_loop_end"
  | .raw _ => "write"

def everywhere : List Place :=
  [ none, some .classHeader, some .classBody, some .interfaceBody, some .parameters,
    some .arguments, some .methodBody, some .loopBody, some .statement ]

/-- Where statements stand. -/
def bodies : List Place := [some .methodBody, some .loopBody]

/-- The places at which an operation is legal, in the order in which messages name them. -/
def places : Operation → List Place
  | .packageDeclaration _ => [none]
  | .headerComment _ | .annotate _ => [none, some .classBody, some .interfaceBody]
  | .classStart .. | .interfaceStart .. => [none, some .classBody]
  | .classExtends _ | .classImplements _ | .classEnd => [some .classHeader]
  | .interfaceEnd => [some .interfaceBody]
  | .blockEnd => [some .methodBody, some .classBody]
  | .field .. | .constructorStart .. => [some .classBody]
  | .methodStart .. => [some .classBody, some .interfaceBody]
  | .parameter .. | .bodyStart _ | .bodiless _ => [some .parameters]
  | .superConstructorStart => [some .methodBody]
  | .superCallStart _ | .callStart _ => some .statement :: bodies
  | .argument _ | .callEnd => [some .arguments]
  | .declarationStart .. | .declaration .. | .assignment .. | .returnStart | .returnValue _
  | .loopStart .. => bodies
  | .newInstance .. | .statementEnd => [some .statement]
  | .loopEnd => [some .loopBody]
  | .raw _ => everywhere

/-! ## Actions -/

open Emitter.Action

def misuse (m : Misuse) : Action := .fail (.emitter m)

def generatedLine (marker : Value) (provenance : String) : List Action :=
  if provenance != "" && marker.truthy then
    [indent, write ("@" ++ marker.display ++ "(\"" ++ provenance ++ "\")"), lineEnd]
  else []

def commentLine (line : String) : List Action :=
  [indent, write (Text.stripRight (" * " ++ line)), lineEnd]

def commentLines (text : Value) : List Action :=
  match text.asMember with
  | .ok s => (Text.splitLines s).flatMap commentLine
  | .error m => [fail (.mismatch m)]

def throwsFrom (thrown : List Value) : List Action :=
  match thrown with
  | [] => []
  | [t] => [indent, writeValue t]
  | t :: rest => [indent, writeValue t, write ",", lineEnd] ++ throwsFrom rest

/-- The types that a callable throws, each on a line of its own. -/
def throwsActions (thrown : List Value) : List Action :=
  if thrown.isEmpty then [] else [write " throws", lineEnd] ++ throwsFrom thrown

def argumentLines : List Value → List Action
  | [] => []
  | [a] => [lineEnd, indent, writeValue a]
  | a :: rest => [lineEnd, indent, writeValue a, write ","] ++ argumentLines rest

def extendsActions (extended : Value) : List Action :=
  match extended.items with
  | .error m => [fail (.mismatch m)]
  | .ok [] => []
  | .ok names => [write " extends ", joined ", " (.list names)]

/-- The annotations of a parameter as one text. -/
def joinedAnnotations : Value → Except Fault String
  | .text s => .ok s
  | v => joinedText " " v

/-- A parameter on its own line.  Annotations that cannot be joined are noticed before the
line is begun. -/
def parameterLine (annotations : Value) (ms : Value) (declared : String) : List Action :=
  match joinedAnnotations annotations with
  | .error f => [fail f]
  | .ok s =>
    [lineEnd, indent] ++ (if s = "" then [] else [write s, write " "])
      ++ [modifiers ms, write declared]

/-- A call, as a statement of its own or inside a statement that is open. -/
def callActions (inStatement : Bool) (target : String) : List Action :=
  [ if inStatement then mark .begun else indent, write (target ++ "("),
    push { context := .arguments, label := target, inline := inStatement } ]

def valueSuffix : Option String → String
  | some value => " = " ++ value
  | none => ""

/-- The actions of an operation where `frame` is the innermost construct. -/
def actions (style : Style) (frame : Frame) : Operation → List Action
  | .packageDeclaration name =>
    if name = "" then [] else [indent, write ("package " ++ name ++ ";"), lineEnd, lineEnd]
  | .headerComment text =>
    [indent, write "/*", lineEnd] ++ commentLines text ++ [indent, write " */", lineEnd]
  | .annotate text => [indent, writeValue text, lineEnd]
  | .classStart name provenance ms =>
    generatedLine style.generatedMarker provenance
      ++ [indent, modifiers ms, write ("class " ++ name),
        push { context := .classHeader, label := name }]
  | .classExtends name =>
    if frame.extended then [misuse (.alreadyExtends frame.label)]
    else if frame.implemented then [misuse .implementsFirst]
    else [mark .extended, write (" extends " ++ name)]
  | .classImplements names =>
    if frame.implemented then [misuse (.alreadyImplements frame.label)]
    else if names.isEmpty then []
    else [mark .implemented, write " implements ", joined ", " (.list names)]
  | .classEnd =>
    [pop, write " \x7b", lineEnd, lineEnd,
      push { context := .classBody, label := frame.label, indent := 1 }]
  | .interfaceStart name provenance ms extended =>
    generatedLine style.generatedMarker provenance
      ++ [indent, modifiers ms, write ("interface " ++ name)] ++ extendsActions extended
      ++ [write " \x7b", lineEnd, lineEnd,
        push { context := .interfaceBody, label := name, indent := 1 }]
  | .interfaceEnd | .blockEnd => [pop, indent, write "\x7d", lineEnd, lineEnd]
  | .field type name ms value =>
    [indent, modifiers ms, write (type ++ " " ++ name), write (valueSuffix value), write ";",
      lineEnd, lineEnd]
  | .constructorStart name ms =>
    [indent, modifiers ms, write (name ++ "("),
      push { context := .parameters, label := name, indent := 2 }]
  | .methodStart type name ms =>
    [indent, modifiers ms, write (type ++ " " ++ name ++ "("),
      push { context := .parameters, label := name, indent := 2,
             bodiless := frame.context == .interfaceBody }]
  | .parameter annotations type name ms =>
    (if frame.first then [] else [write ","]) ++ [mark .begun]
      ++ parameterLine annotations ms (type ++ " " ++ name)
  | .bodyStart thrown =>
    if frame.bodiless then [misuse (.bodyInInterface frame.label)]
    else
      [write ")"] ++ throwsActions thrown
        ++ [write " \x7b", lineEnd, pop,
          push { context := .methodBody, label := frame.label, indent := 1 }]
  | .bodiless thrown =>
    [write ")"] ++ throwsActions thrown ++ [write ";", lineEnd, lineEnd, pop]
  | .superConstructorStart =>
    [indent, write "super(", push { context := .arguments, label := "super" }]
  | .superCallStart name => callActions (frame.context == .statement) ("super." ++ name)
  | .callStart target => callActions (frame.context == .statement) target
  | .argument value =>
    (if frame.first then [] else [write ", "]) ++ [mark .begun, writeValue value]
  | .callEnd => [pop, write ")"] ++ (if frame.inline then [] else [write ";", lineEnd])
  | .declarationStart type name ms =>
    [indent, modifiers ms, write (type ++ " " ++ name ++ " = "),
      push { context := .statement, label := name }]
  | .declaration type name value ms =>
    [indent, modifiers ms, write (type ++ " " ++ name ++ " = " ++ value ++ ";"), lineEnd]
  | .assignment target value => [indent, write (target ++ " = " ++ value ++ ";"), lineEnd]
  | .returnStart =>
    [indent, write "return ", push { context := .statement, label := "return" }]
  | .returnValue value =>
    [indent, write (match value with | none => "return" | some v => "return " ++ v), write ";",
      lineEnd]
  | .newInstance name arguments =>
    if !frame.first then [misuse (.secondExpression frame.label)]
    else
      [mark .begun, write ("new " ++ name ++ "("), deepen 2] ++ argumentLines arguments
        ++ [shallow 2, write ")"]
  | .statementEnd => [pop, write ";", lineEnd]
  | .loopStart type name iterable ms =>
    [indent, write "for (", modifiers ms,
      write (type ++ " " ++ name ++ " : " ++ iterable ++ ") \x7b"), lineEnd,
      push { context := .loopBody, label := name, indent := 1 }]
  | .loopEnd => [pop, indent, write "\x7d", lineEnd]
  | .raw text => [writeValue text]

end Operation

/-- The frame that operations at the top level see. -/
def outermost : Frame := { context := .classBody }

/-- What is left after an operation, and the fault that ended it, if one did. -/
def perform (e : Emitter) (op : Operation) : Emitter × Option Fault :=
  if op.places.contains e.place then
    e.run (op.actions e.style (e.frames.head?.getD outermost))
  else (e, some (.emitter (.misplaced op.name op.places e.place)))

/-- Operations one after another, up to the first that fails. -/
def performAll (e : Emitter) : List Operation → Emitter × Option Fault
  | [] => (e, none)
  | op :: rest =>
    match e.perform op with
    | (e, none) => performAll e rest
    | stopped => stopped

/-- The emitter after operations that all succeed. -/
def emit (e : Emitter) (ops : List Operation) : Except Fault Emitter :=
  match e.performAll ops with
  | (e, none) => .ok e
  | (_, some f) => .error f

@[simp] theorem performAll_nil (e : Emitter) : e.performAll [] = (e, none) := rfl

theorem performAll_append (e : Emitter) (ops more : List Operation) :
    e.performAll (ops ++ more) =
      match e.performAll ops with
      | (e, none) => e.performAll more
      | stopped => stopped := by
  induction ops generalizing e with
  | nil => rfl
  | cons op rest ih =>
    simp only [List.cons_append, performAll]
    cases h : e.perform op with
    | mk e' stop =>
      cases stop with
      | none => exact ih e'
      | some f => rfl

/-! ## Operations made of others -/

/-- A class header without clauses. -/
def classDeclaration (name provenance : String) (modifiers : Value) : List Operation :=
  [.classStart name provenance modifiers, .classEnd]

def annotationIf (text : Value) (condition : Bool) : List Operation :=
  if condition then [.annotate text] else []

def fieldAssignment (name value : String) : Operation :=
  .assignment ("this." ++ name) value

def localModifiers : Value := Java.keywords [.final]

end Emitter
end JavaCompanion
