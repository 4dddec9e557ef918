/-
Raw values: what descriptors and configurations are made of before they are understood.

The fields of an object keep the order in which they were first given.  A value is kept as
it came until a step needs a certain shape of it; what happens when the shape is another one
is a `Mismatch`.
-/
import JavaCompanion.Number.Binary64
import JavaCompanion.Text.Surrogate

namespace JavaCompanion

open Number

inductive Value where
  | null
  | bool (b : Bool)
  | int (n : Int)
  | float (x : Binary64)
  | text (s : String)
  | list (items : List Value)
  | object (fields : List (String × Value))
  deriving Inhabited

/-- Named values in the order in which the names were first given. -/
abbrev Fields := List (String × Value)

/-- A value of a shape that a step does not take. -/
inductive Mismatch where
  /-- The step works on values of another shape. -/
  | operand (v : Value)
  /-- The step asks the value for something that values of its shape do not offer. -/
  | member (v : Value)
  /-- The shape fits, but not what the value holds. -/
  | content (v : Value)
  /-- The value has no entry under the key that is asked for. -/
  | entry (v : Value)
  /-- The arguments of a call do not fit its parameters. -/
  | arguments
  deriving Inhabited

namespace Fields

def get? (fields : Fields) (name : String) : Option Value :=
  (fields.find? (·.1 == name)).map (·.2)

def has (fields : Fields) (name : String) : Bool := fields.any (·.1 == name)

/-- Sets a field: in its old place if there is one of that name, else at the end. -/
def put (name : String) (value : Value) : Fields → Fields
  | [] => [(name, value)]
  | (n, v) :: rest => if n = name then (n, value) :: rest else (n, v) :: put name value rest

def putAll (fields new : Fields) : Fields := new.foldl (fun acc f => put f.1 f.2 acc) fields

def names (fields : Fields) : List String := fields.map (·.1)

theorem get?_put_self (name : String) (value : Value) (fields : Fields) :
    get? (put name value fields) name = some value := by
  induction fields with
  | nil => simp [put, get?]
  | cons f rest ih =>
    obtain ⟨n, v⟩ := f
    by_cases h : n = name
    · simp [put, get?, h]
    · have hne : (n == name) = false := by simp [h]
      simpa [put, get?, h, hne] using ih

theorem get?_put_of_ne {name other : String} (h : other ≠ name) (value : Value)
    (fields : Fields) : get? (put name value fields) other = get? fields other := by
  induction fields with
  | nil => simp [put, get?, Ne.symm h]
  | cons f rest ih =>
    obtain ⟨n, v⟩ := f
    by_cases hn : n = name
    · subst hn
      simp [put, get?, Ne.symm h]
    · by_cases ho : n = other
      · subst ho
        simp [put, get?, hn]
      · have hob : (n == other) = false := by simp [ho]
        simpa [put, get?, hn, hob] using ih

end Fields

namespace Value

/-- Null, false, the zeros, the empty text and the empty collections count as absent. -/
def truthy : Value → Bool
  | .null => false
  | .bool b => b
  | .int n => n != 0
  | .float x => !x.isZero
  | .text s => s != ""
  | .list items => !items.isEmpty
  | .object fields => !fields.isEmpty

def isNull : Value → Bool
  | .null => true
  | _ => false

def text? : Value → Option String
  | .text s => some s
  | _ => none

def isText (v : Value) : Bool := v.text?.isSome

def isCollection : Value → Bool
  | .list _ | .object _ => true
  | _ => false

/-! ## Size -/

mutual
/-- How many calls inside each other it takes to go through a value, where a value that holds no
others takes `leaf` calls and a collection `step` calls around its members. -/
def height (leaf step : Nat) : Value → Nat
  | .list vs => step + heightItems leaf step vs
  | .object fields => step + heightFields leaf step fields
  | _ => leaf

def heightItems (leaf step : Nat) : List Value → Nat
  | [] => 0
  | v :: rest => max (height leaf step v) (heightItems leaf step rest)

/-- The names of fields are gone through as well. -/
def heightFields (leaf step : Nat) : List (String × Value) → Nat
  | [] => 0
  | (_, v) :: rest => max leaf (max (height leaf step v) (heightFields leaf step rest))
end

mutual
/-- The greatest number of digits that a whole number in a value has. -/
def digits : Value → Nat
  | .int n => (Nat.toDigits 10 n.natAbs).length
  | .list vs => digitsItems vs
  | .object fields => digitsFields fields
  | _ => 0

def digitsItems : List Value → Nat
  | [] => 0
  | v :: rest => max (digits v) (digitsItems rest)

def digitsFields : List (String × Value) → Nat
  | [] => 0
  | (_, v) :: rest => max (digits v) (digitsFields rest)
end

/-! ## Values taken as texts -/

/-- The text of a value that a step handles as text. -/
def asOperand : Value → Except Mismatch String
  | .text s => .ok s
  | v => .error (.operand v)

/-- The text of a value that is asked for an operation of texts. -/
def asMember : Value → Except Mismatch String
  | .text s => .ok s
  | v => .error (.member v)

/-- What a walk over the value visits: the items of a list, the characters of a text, the
names of an object's fields. -/
def items : Value → Except Mismatch (List Value)
  | .list vs => .ok vs
  | .text s => .ok ((Text.symbols s.toList).map fun cs => .text (String.ofList cs))
  | .object fields => .ok (fields.map fun f => .text f.1)
  | v => .error (.operand v)

/-! ## Equality

Truth values and numbers of both kinds are compared as numbers, objects without regard to
the order of their fields. -/

def int? : Value → Option Int
  | .bool b => some (if b then 1 else 0)
  | .int n => some n
  | _ => none

mutual
def same : Value → Value → Bool
  | .null, .null => true
  | .text s, .text t => s == t
  | .list xs, .list ys => sameItems xs ys
  | .object xs, .object ys => xs.length == ys.length && sameFields xs ys
  | .float x, .float y => x.same y
  | .float x, y =>
    match y.int? with
    | some n => x.equalsInt n
    | none => false
  | x, .float y =>
    match x.int? with
    | some n => y.equalsInt n
    | none => false
  | x, y =>
    match x.int?, y.int? with
    | some m, some n => m == n
    | _, _ => false

def sameItems : List Value → List Value → Bool
  | [], [] => true
  | x :: xs, y :: ys => same x y && sameItems xs ys
  | _, _ => false

def sameFields : List (String × Value) → List (String × Value) → Bool
  | [], _ => true
  | (n, x) :: xs, ys =>
    (match Fields.get? ys n with
      | some y => same x y
      | none => false) && sameFields xs ys
end

/-! ## Entries from pairs -/

/-- Values under keys, in the order in which the keys were first given. -/
abbrev Entries := List (Value × Value)

/-- Sets the value under a key: in its old place if there is one that equals it, else at the
end. -/
def putEntry (key value : Value) : Entries → Entries
  | [] => [(key, value)]
  | (k, v) :: rest =>
    if k.same key then (k, value) :: rest else (k, v) :: putEntry key value rest

/-- One entry given as a pair: a list of a key and a value, or a text of two characters.  A
collection is no key. -/
def entryOfPair (v : Value) : Except Mismatch (Value × Value) :=
  match v.items with
  | .error m => .error m
  | .ok [key, value] => if key.isCollection then .error (.operand key) else .ok (key, value)
  | .ok _ => .error (.content v)

/-- The entries of a value given in place of an object: its own fields, or those that the
members of another collection give as pairs, a later pair winning over an earlier one. -/
def asEntries : Value → Except Mismatch Entries
  | .object fields => .ok (fields.map fun f => (.text f.1, f.2))
  | v => do
    let members ← v.items
    let pairs ← members.mapM entryOfPair
    return pairs.foldl (fun entries e => putEntry e.1 e.2 entries) []

/-- The fields of a value given in place of an object, whose keys must be texts. -/
def asFields : Value → Except Mismatch Fields
  | .object fields => .ok fields
  | v => do (← v.asEntries).mapM fun e => do return (← e.1.asOperand, e.2)

end Value

end JavaCompanion
