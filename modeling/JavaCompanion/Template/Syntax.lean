/-
The structure of templates.

Literal text, printed expressions and branches follow one another; a branch holds such
sequences again.  A branch goes from `{% if … %}` over any number of `{% elif … %}` and at
most one `{% else %}` to `{% endif %}`.
-/
import JavaCompanion.Template.Expression

namespace JavaCompanion
namespace Template

open Reading

inductive Node where
  | literal (cs : List Char)
  | print (e : Expression)
  | branch (condition : Expression) (yes no : List Node)

/-- What ends a sequence of nodes: the template's end, or a tag of the branch around it, whose
word comes next. -/
inductive Stop where
  | ended
  | branchTag (name : String)

/-- The closing word of a tag that the innermost branch waits for. -/
def awaitedTag? (openBranches : List Bool) (t : Option Token) : Option String :=
  match t, openBranches with
  | some (.word s), inElse :: _ => if (closingTags inElse).contains s then some s else none
  | _, _ => none

/-- The expressions that a print statement names. -/
def printed : Nat → List Node → Reading (List Node)
  | 0, read => return read.reverse
  | fuel + 1, read => do
    match ← peek with
    | some (.closing .statement) => return read.reverse
    | _ =>
      if !read.isEmpty then expectSign ","
      let e ← expression true (depth (← get))
      printed fuel (.print e :: read)

mutual

/-- The nodes from here to the end of the template or of the part of a branch they stand in.
The fuel bounds the number of tokens. -/
def nodes : Nat → List Bool → List Node → Reading (List Node × Stop)
  | 0, _, read => return (read.reverse, .ended)
  | fuel + 1, openBranches, read => do
    match ← peek with
    | some (.literal cs) =>
      advance
      nodes fuel openBranches (.literal cs :: read)
    | some (.opening .print) =>
      advance
      let e ← tupleExpression true
      expectEnd .print
      nodes fuel openBranches (.print e :: read)
    | some (.opening .statement) =>
      advance
      let next ← peek
      match awaitedTag? openBranches next with
      | some name => return (read.reverse, .branchTag name)
      | none =>
        let found ← match next with
          | some (.word "if") => do
            advance
            let n ← branch fuel openBranches
            pure [n]
          | some (.word "print") => do
            advance
            printed (← get).length []
          | some (.word name) => throw (.unknownTag name openBranches)
          | _ => throw .noTagName
        expectEnd .statement
        nodes fuel openBranches (found.reverse ++ read)
    | _ => return (read.reverse, .ended)

/-- A branch behind the word that begins it, up to the word that ends it. -/
def branch : Nat → List Bool → Reading Node
  | 0, _ => throw .tooDeep
  | fuel + 1, openBranches => do
    let condition ← tupleExpression false
    let (yes, name) ← branchPart fuel (false :: openBranches)
    if name = "elif" then
      let n ← branch fuel openBranches
      return .branch condition yes [n]
    else if name = "else" then
      let (no, _) ← branchPart fuel (true :: openBranches)
      return .branch condition yes no
    else return .branch condition yes []

/-- The end of a tag of a branch, the nodes behind it, and the word of the tag that ends
them. -/
def branchPart : Nat → List Bool → Reading (List Node × String)
  | 0, _ => throw .tooDeep
  | fuel + 1, openBranches => do
    let _ ← takeSign ":"
    expectEnd .statement
    match ← nodes fuel openBranches [] with
    | (_, .ended) => throw (.unclosedBranch openBranches)
    | (found, .branchTag name) =>
      advance
      return (found, name)

end

/-- The nodes of a template. -/
def read (source : String) : Except Cause (List Node) := do
  let ts := tokens source
  let steps : Reading (List Node × Stop) := do
    goOn ts
    nodes (3 * (ts.length + 1)) [] []
  return (← steps.run ts).1.1

end Template
end JavaCompanion
