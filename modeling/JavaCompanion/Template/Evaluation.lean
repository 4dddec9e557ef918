/-
The values of expressions in templates.

A variable that is not defined has no value, which is noticed where the value is used; a test
may ask for it.  The names of a few things that every template knows can be printed; a
variable of the same name hides them.  Calls, slices and arithmetic have no value here.
-/
import JavaCompanion.Java.RawName
import JavaCompanion.Template.Expression
import JavaCompanion.Text.Split
import JavaCompanion.Value.Display

namespace JavaCompanion
namespace Template

/-- What can stop a rendering: a cause that is the template's, or a value of the wrong
shape. -/
inductive Failure where
  | cause (c : Cause)
  | mismatch (m : Mismatch)

inductive Datum where
  | value (v : Value)
  /-- Nothing, with the cause to report when it is used. -/
  | undefined (c : Cause)
  /-- Something that every template knows, as it is printed. -/
  | known (shown : String)
  | tuple (items : List Value)

namespace Datum

def tupleText : List Value → String
  | [v] => "(" ++ v.quoted ++ ",)"
  | items => "(" ++ Value.quotedItems items ++ ")"

def display : Datum → Except Failure String
  | .value v => .ok v.display
  | .undefined c => .error (.cause c)
  | .known shown => .ok shown
  | .tuple items => .ok (tupleText items)

def truthy : Datum → Except Failure Bool
  | .value v => .ok v.truthy
  | .undefined c => .error (.cause c)
  | .known _ => .ok true
  | .tuple items => .ok !items.isEmpty

/-- The raw value of a datum, a tuple counting as a list. -/
def toValue : Datum → Except Failure Value
  | .value v => .ok v
  | .undefined c => .error (.cause c)
  | .known shown => .ok (.text shown)
  | .tuple items => .ok (.list items)

def shape : Datum → String
  | .value .null => "None"
  | .value (.bool _) => "bool object"
  | .value (.int _) => "int object"
  | .value (.float _) => "float object"
  | .value (.text _) => "str object"
  | .value (.list _) => "list object"
  | .value (.object _) => "dict object"
  | .undefined _ => "Undefined"
  | .known _ => "type object"
  | .tuple _ => "tuple object"

end Datum

def matched (x : Except Mismatch α) : Except Failure α :=
  match x with
  | .ok a => .ok a
  | .error m => .error (.mismatch m)

/-! ## Filters -/

abbrev Filter := Datum → Except Failure Datum

/-- A filter of raw values. -/
def onValue (f : Value → Except Mismatch Value) : Filter := fun d => do
  match d with
  | .known shown => .error (.mismatch (.operand (.text shown)))
  | _ => return .value (← matched (f (← d.toValue)))

/-- A filter of texts, for which every value counts as its text. -/
def onText (f : String → String) : Filter := fun d => do
  return .value (.text (f (← d.display)))

def knownFilters : List (String × Filter) :=
  [ ("capitalize_first", onValue Java.capitalizeValue),
    ("decapitalize", onValue Java.decapitalizeValue),
    ("simple_name", onText (Text.afterLast '.')), ("upper", onText Text.upper),
    ("lower", onText Text.lower) ]

def filter? (name : String) : Option Filter :=
  (knownFilters.find? (·.1 == name)).map (·.2)

/-! ## Tests -/

def isBool : Value → Bool
  | .bool _ => true
  | _ => false

def isInteger : Value → Bool
  | .int _ => true
  | _ => false

def isFloat : Value → Bool
  | .float _ => true
  | _ => false

def isObject : Value → Bool
  | .object _ => true
  | _ => false

def valueTests : List (String × (Value → Bool)) :=
  [ ("none", Value.isNull), ("boolean", isBool), ("true", fun v => isBool v && v.truthy),
    ("false", fun v => isBool v && !v.truthy), ("integer", isInteger), ("float", isFloat),
    ("number", fun v => isBool v || isInteger v || isFloat v), ("string", Value.isText),
    ("mapping", isObject) ]

def isKnownTest (name : String) : Bool :=
  name == "defined" || name == "undefined" || valueTests.any (·.1 == name)

/-- Whether a datum passes the test of that name.  What is not defined passes no test of raw
values. -/
def passes (d : Datum) (name : String) : Except Failure Bool :=
  let isDefined := match d with
    | .undefined _ => false
    | _ => true
  if name = "defined" then .ok isDefined
  else if name = "undefined" then .ok !isDefined
  else
    match valueTests.find? (·.1 == name), d with
    | some entry, .value v => .ok (entry.2 v)
    | some _, _ => .ok false
    | none, _ => .error (.cause (.unknownTest name))

/-! ## Comparisons -/

/-- The order of two whole numbers, truth values or texts. -/
def order? (x y : Value) : Option Ordering :=
  match x, y with
  | .text s, .text t => some (compare s t)
  | _, _ =>
    match x.int?, y.int? with
    | some m, some n => some (compare m n)
    | _, _ => none

def isWithin (x y : Value) : Except Mismatch Bool :=
  match x, y with
  | .text s, .text t => .ok (Text.occursIn s t)
  | v, .text _ => .error (.operand v)
  | v, .list items => .ok (items.any v.same)
  | .text s, .object fields => .ok (Fields.has fields s)
  | _, v => .error (.operand v)

def Relation.holds (r : Relation) (x y : Value) : Except Mismatch Bool :=
  let ordered (test : Ordering → Bool) : Except Mismatch Bool :=
    match order? x y with
    | some o => .ok (test o)
    | none => .error (.operand x)
  match r with
  | .equal => .ok (x.same y)
  | .unequal => .ok !(x.same y)
  | .less => ordered (· == .lt)
  | .lessOrEqual => ordered (· != .gt)
  | .greater => ordered (· == .gt)
  | .greaterOrEqual => ordered (· != .lt)
  | .within => isWithin x y
  | .notWithin => (isWithin x y).map not

/-! ## Members and elements -/

def memberOf (d : Datum) (name : String) : Except Failure Datum :=
  match d with
  | .undefined c => .error (.cause c)
  | .value (.object fields) =>
    match Fields.get? fields name with
    | some v => .ok (.value v)
    | none => .ok (.undefined (.noMember d.shape name))
  | _ => .ok (.undefined (.noMember d.shape name))

/-- The item at a place counted from the front, or from the back if the place is negative. -/
def itemAt? (items : List α) (n : Int) : Option α :=
  if 0 ≤ n then items[n.toNat]?
  else if n.natAbs ≤ items.length then items[items.length - n.natAbs]?
  else none

def elementOf (d : Datum) (key : Value) : Except Failure Datum :=
  let absent : Datum := match key with
    | .text name => .undefined (.noMember d.shape name)
    | _ => .undefined (.noElement d.shape key.quoted)
  let orAbsent (found : Option Value) : Except Failure Datum :=
    .ok ((found.map Datum.value).getD absent)
  match d, key with
  | .undefined c, _ => .error (.cause c)
  | .value (.object fields), .text name => orAbsent (Fields.get? fields name)
  | .value (.list items), .int n => orAbsent (itemAt? items n)
  | .tuple items, .int n => orAbsent (itemAt? items n)
  | .value (.text s), .int n =>
    orAbsent ((itemAt? s.toList n).map fun c => .text (String.singleton c))
  | _, _ => .ok absent

/-! ## Expressions -/

/-- What every template knows without being given it, as it is printed. -/
def knownNames : List (String × String) :=
  [ ("range", "<class 'range'>"), ("dict", "<class 'dict'>"),
    ("lipsum", "<function generate_lorem_ipsum>"), ("cycler", "<class 'jinja2.utils.Cycler'>"),
    ("joiner", "<class 'jinja2.utils.Joiner'>"),
    ("namespace", "<class 'jinja2.utils.Namespace'>") ]

/-- What expressions are evaluated in: the variables, and the template's name if it has
one. -/
structure Context where
  template : Option String
  bindings : Fields

def Context.lookUp (c : Context) (name : String) : Datum :=
  if name = "self" then
    .known ("<TemplateReference "
      ++ (match c.template with
        | some t => Text.quoted t
        | none => "None") ++ ">")
  else
    match Fields.get? c.bindings name, knownNames.find? (·.1 == name) with
    | some v, _ => .value v
    | none, some entry => .known entry.2
    | none, none => .undefined (.undefined name)

/-- A number with the sign turned, or as it is. -/
def signedValue (turn : Bool) (v : Value) : Except Mismatch Value :=
  match v, v.int? with
  | .float x, _ => .ok (.float (if turn then x.negated else x))
  | _, some n => .ok (.int (if turn then -n else n))
  | _, none => .error (.operand v)

mutual

def evaluate (c : Context) : Expression → Except Failure Datum
  | .constant v => .ok (.value v)
  | .variable name => .ok (c.lookUp name)
  | .negative e => do
    return .value (← matched (signedValue true (← (← evaluate c e).toValue)))
  | .positive e => do
    return .value (← matched (signedValue false (← (← evaluate c e).toValue)))
  | .negation e => do return .value (.bool !(← (← evaluate c e).truthy))
  | .conjunction left right => do
    let d ← evaluate c left
    if ← d.truthy then evaluate c right else return d
  | .disjunction left right => do
    let d ← evaluate c left
    if ← d.truthy then return d else evaluate c right
  | .choice condition yes none => do
    if ← (← evaluate c condition).truthy then evaluate c yes else return .value (.text "")
  | .choice condition yes (some no) => do
    if ← (← evaluate c condition).truthy then evaluate c yes else evaluate c no
  | .comparison first others => do
    let v ← (← evaluate c first).toValue
    return .value (.bool (← comparison c v others))
  | .joined parts => do
    let texts ← (← evaluateAll c parts).mapM Datum.display
    return .value (.text (String.join texts))
  | .arithmetic _ _ _ => .error (.cause (.unsupported "arithmetic"))
  | .sequence items => do
    return .value (.list (← (← evaluateAll c items).mapM Datum.toValue))
  | .tuple items => do return .tuple (← (← evaluateAll c items).mapM Datum.toValue)
  | .dictionary entries => do return .value (.object (← fieldsOf c entries []))
  | .member owner name => do memberOf (← evaluate c owner) name
  | .element owner key => do
    let d ← evaluate c owner
    elementOf d (← (← evaluate c key).toValue)
  | .slice => .error (.cause (.unsupported "a slice"))
  | .call _ _ => .error (.cause (.unsupported "a call"))
  | .filtered subject name arguments => do
    let d ← evaluate c subject
    let given ← evaluateAll c arguments
    match filter? name, given with
    | none, _ => .error (.cause (.missingFilter name))
    | some f, [] => f d
    | some _, extra :: _ => do .error (.mismatch (.operand (← extra.toValue)))
  | .tested subject name arguments => do
    let d ← evaluate c subject
    let _ ← evaluateAll c arguments
    return .value (.bool (← passes d name))

def evaluateAll (c : Context) : List Expression → Except Failure (List Datum)
  | [] => .ok []
  | e :: rest => do
    let d ← evaluate c e
    return d :: (← evaluateAll c rest)

/-- Whether each of the values has its relation to the one before it. -/
def comparison (c : Context) (left : Value) :
    List (Relation × Expression) → Except Failure Bool
  | [] => .ok true
  | (r, e) :: rest => do
    let right ← (← evaluate c e).toValue
    if ← matched (r.holds left right) then comparison c right rest else return false

def fieldsOf (c : Context) : List (Expression × Expression) → Fields → Except Failure Fields
  | [], fields => .ok fields
  | (key, value) :: rest, fields => do
    let k ← (← evaluate c key).toValue
    let v ← (← evaluate c value).toValue
    match k with
    | .text name => fieldsOf c rest (Fields.put name v fields)
    | _ => .error (.cause (.unsupported "a key that is no text"))

end

/-! ## Names that nothing has -/

mutual

/-- The unknown filter or test that is found first outside of any choice: of filters applied
one after another the last one. -/
def unknownName? : Expression → Option Cause
  | .constant _ | .variable _ | .choice _ _ _ | .slice => none
  | .negative e | .positive e | .negation e | .member e _ => unknownName? e
  | .conjunction left right | .disjunction left right | .arithmetic _ left right
  | .element left right => (unknownName? left).orElse fun _ => unknownName? right
  | .comparison first others =>
    (unknownName? first).orElse fun _ => unknownAmongRelations? others
  | .joined es | .sequence es | .tuple es => unknownAmong? es
  | .dictionary entries => unknownAmongEntries? entries
  | .call callee arguments =>
    (unknownName? callee).orElse fun _ => unknownAmong? arguments
  | .filtered subject name arguments =>
    if (filter? name).isNone then some (.unknownFilter name)
    else (unknownName? subject).orElse fun _ => unknownAmong? arguments
  | .tested subject name arguments =>
    if isKnownTest name then
      (unknownName? subject).orElse fun _ => unknownAmong? arguments
    else some (.unknownTest name)

def unknownAmong? : List Expression → Option Cause
  | [] => none
  | e :: rest => (unknownName? e).orElse fun _ => unknownAmong? rest

def unknownAmongRelations? : List (Relation × Expression) → Option Cause
  | [] => none
  | (_, e) :: rest => (unknownName? e).orElse fun _ => unknownAmongRelations? rest

def unknownAmongEntries? : List (Expression × Expression) → Option Cause
  | [] => none
  | (k, v) :: rest =>
    ((unknownName? k).orElse fun _ => unknownName? v).orElse fun _ => unknownAmongEntries? rest

end

end Template
end JavaCompanion
