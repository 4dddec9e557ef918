/-
Everything that can stop a step.

Each part of the library has its own causes; this is their sum, together with the faults
that belong to no part: values of the wrong shape, text in a wrong encoding, a closed text,
and the like.
-/
import JavaCompanion.Catalogue.CatalogueFault
import JavaCompanion.Descriptor.Malformed
import JavaCompanion.Emitter.Misuse
import JavaCompanion.Extraction.ExtractionFault
import JavaCompanion.Java.Modifier
import JavaCompanion.Loading.LoadingFault
import JavaCompanion.Output.OutputFault
import JavaCompanion.Template.TemplateFault

namespace JavaCompanion

inductive Fault where
  | mismatch (m : Mismatch)
  | unknownModifier (spelling : Value)
  | descriptor (f : Descriptor.Malformed)
  | config (f : Config.ConfigFault)
  | extraction (f : Extraction.ExtractionFault)
  | template (f : Template.TemplateFault)
  | emitter (f : Emitter.Misuse)
  | output (f : Output.OutputFault)
  | catalogue (f : Catalogue.CatalogueFault)
  | loading (f : Loading.LoadingFault)
  /-- The messages of the units that failed. -/
  | units (messages : List String)
  | fileMissing (path : String)
  | system (r : FileTree.Refusal)
  /-- Bytes that are no text in the expected encoding. -/
  | undecodable
  /-- Text that the encoding cannot express. -/
  | unencodable
  /-- A name under which no encoding is known. -/
  | unknownEncoding
  /-- A name from which no path can be made. -/
  | unusablePath (name : String)
  | emptySeparator
  | closedText
  /-- A whole number with more digits than can be read. -/
  | tooManyDigits
  /-- Values nested more deeply than can be read. -/
  | tooDeep
  /-- A count beyond the range of counts. -/
  | countTooLarge
  /-- A text of more characters than can be held. -/
  | textTooLong
  /-- A logging level that is no number. -/
  | level (name : String)
  /-- A generator class of which no generator can be made. -/
  | abstractGenerator (name : String)
  | unknownField (name : String)
  /-- The writing of a file was given up. -/
  | interrupted
  /-- A text for the console closes a tag that is not open. -/
  | markup
  /-- A fault of code that is called from here but is no part of it, by its kind. -/
  | foreign (kind : String)
  /-- A command cannot be carried out, for the reason that is shown on the console. -/
  | command (reason : String)

namespace Fault

/-- The text of a fault that has one of its own. -/
def message? : Fault → Option String
  | .unknownModifier spelling => some ("Unknown modifier: " ++ spelling.quoted)
  | .descriptor f => some f.message
  | .config f => some f.message
  | .extraction f => some f.message
  | .template f => some f.message
  | .emitter f => some f.message
  | .output f => some f.message
  | .catalogue f => some f.message
  | .loading f => some f.message
  | .units messages => some (String.intercalate "; " messages)
  | .fileMissing path => some ("File not found: " ++ path)
  | .system r => some r.message
  | .command reason => some reason
  | _ => none

/-- A path that cannot be used, with the fault that is made of a refusal by the file
system. -/
def ofReason (refused : Fault) (reason : FileTree.Reason) (path : String) : Fault :=
  if reason.isOfSystem then refused else .system ⟨reason, path⟩

/-- A text that is no JSON, with the fault that is made of what is wrong with it. -/
def ofUnread (wrap : Json.Malformed → Fault) : Json.Unread → Fault
  | .malformed m => wrap m
  | .tooManyDigits _ => .tooManyDigits
  | .tooDeep => .tooDeep

def ofModifierFault : Java.ModifierFault → Fault
  | .mismatch m => .mismatch m
  | .unknown spelling => .unknownModifier spelling

end Fault

/-- A step of a lower level, whose faults are of one cause. -/
def orFault (wrap : ε → Fault) : Except ε α → Except Fault α
  | .ok a => .ok a
  | .error e => .error (wrap e)

/-- A step that fails only on values of the wrong shape. -/
def shaped : Except Mismatch α → Except Fault α := orFault Fault.mismatch

@[simp] theorem orFault_error (wrap : ε → Fault) (e : ε) :
    orFault wrap (.error e : Except ε α) = .error (wrap e) := rfl

theorem orFault_eq_ok {wrap : ε → Fault} {x : Except ε α} {a : α} :
    orFault wrap x = .ok a ↔ x = .ok a := by
  cases x <;> simp [orFault]

end JavaCompanion
