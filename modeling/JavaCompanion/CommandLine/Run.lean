/-
Running the program: the arguments are read, the log is set up, and the command is carried
out.

What keeps a command from being carried out is shown on the console and makes the program
exit with one.  Wrong arguments make it exit with two.  Every other fault ends the run.
-/
import JavaCompanion.CommandLine.Options
import JavaCompanion.Loading.Document
import JavaCompanion.Log.Setup
import JavaCompanion.Round.Run

namespace JavaCompanion
namespace CommandLine

structure Invocation where
  arguments : List String
  /-- The log level that the environment names. -/
  environmentLevel : Option String := none
  /-- The text of the standard input. -/
  input : String := ""

/-- What is left of a run besides the session. -/
structure Exit where
  code : Nat
  /-- A line that the reading of the arguments shows. -/
  shown : Option String := none
  /-- What is wrong with the arguments. -/
  misuse : Option String := none
  deriving DecidableEq, Repr

/-! ## The console -/

/-- Prints the lines that the screen makes, if it makes any. -/
def printAll (lines : Console.Screen → Except Fault (List String)) : Step Unit := do
  (← Step.lift (lines (← get).screen)).forM Step.print

def say (s : String) : Step Unit := printAll (·.text s)

def printTable (t : Console.Table) : Step Unit := printAll (·.table t)

def printPanel (p : Console.Panel) : Step Unit := printAll (·.panel p)

/-! ## Generating -/

def refuse (reason : String) : Step α := Step.fail (.command reason)

/-- A step whose faults of some kinds keep the command from being carried out. -/
def orRefuse (reason? : Fault → Option String) (x : Step α) : Step α :=
  tryCatch x fun f =>
    match reason? f with
    | some reason => refuse reason
    | none => Step.fail f

def withMessage (opening : String) (f : Fault) : Option String :=
  f.message?.map (opening ++ ·)

def loadingReason : Fault → Option String
  | .fileMissing path => withMessage "" (.fileMissing path)
  | .loading f => withMessage "Failed to load descriptors: " (.loading f)
  | .descriptor f => withMessage "Failed to load descriptors: " (.descriptor f)
  | _ => none

/-- The seconds that a request for a document may take. -/
def requestTimeout : Value := .int 30

def loadElements (o : Generate) (input : String) : Step (List Descriptor.Element) :=
  orRefuse loadingReason do
    let loaded ← if o.stdin then Step.lift (Loading.fromText Loading.standardInput input)
      else Loading.load o.file o.url requestTimeout
    Loading.elements loaded

/-- The members of a list without repetition, in the order of their first occurrence. -/
def distinct : List String → List String
  | [] => []
  | s :: rest => s :: (distinct rest).filter (· != s)

def catalogueReason : Fault → Option String
  | .catalogue f => withMessage "" (.catalogue f)
  | _ => none

/-- The names of the generators that are asked for, which are all if none is. -/
def chooseGenerators (requested : List Value) : Step (List String) := do
  let c ← Catalogue.current
  if requested.isEmpty then return c.names
  let names ← requested.mapM fun name => do
    let name ← Step.lift (shaped name.asMember)
    orRefuse catalogueReason (Catalogue.catalogueStep (c.resolve name))
  return distinct names

/-- The settings that the command line gives. -/
def overrides (o : Generate) : Fields :=
  (if o.noComments then [("add_comments", .bool false)] else [])
    ++ (match o.indent with
      | some n => [("indent_width", n)]
      | none => [])
    ++ match o.lineEnding with
      | some name => [("line_ending", .text name)]
      | none => []

def configReason : Fault → Option String
  | .config f => withMessage "Configuration error: " (.config f)
  | _ => none

def configFor (o : Generate) (generator : String) : Step Config :=
  orRefuse configReason
    (Config.load generator (.object (overrides o)) (.text o.config))

/-- A generator by its name, with its configuration. -/
def configured (o : Generate) (generator : String) : Step (String × Config) := do
  return (generator, ← configFor o generator)

def isDirectoryGiven (o : Generate) : Bool := o.output != ""

def filerFor (o : Generate) : Output.Filer :=
  if isDirectoryGiven o then
    { medium := .disk, directory := .ofString o.output }
  else {}

/-! ### What is shown of a round -/

def border : String := String.ofList (List.replicate 30 '═')

def printSource (s : String × String) : Step Unit := do
  say ("\n[green]" ++ border ++ " 📄 " ++ s.1 ++ " " ++ border ++ "[/green]\n")
  printAll (·.source s.2)

def outcomeRow (o : Round.Outcome) : List String :=
  [ o.source, o.generator, if o.qualifiedName = "" then "-" else o.qualifiedName,
    if o.succeeded then "[green]✓[/green]" else "[red]✗[/red]" ]

def outcomeTable (r : Round.Report) : Console.Table where
  title := "📊 Generated Units"
  columns := ["Source", "Generator", "Output", "Status"].map ({ header := · })
  rows := r.outcomes.map outcomeRow

def about (mark : String) (d : Round.Diagnostic) : String :=
  mark ++ " " ++ d.element.getD "None" ++ ": " ++ d.message

def printDiagnostics (ds : List Round.Diagnostic) : Step Unit := do
  let warnings := Round.ofSeverity .warning ds
  if !warnings.isEmpty then say "\n[yellow]⚠️  Warnings:[/yellow]"
  warnings.forM fun d => say (about "  [yellow]•[/yellow]" d)
  (Round.ofSeverity .error ds).forM fun d => say (about "[red]✗[/red]" d)

def printRound (o : Generate) (r : Round.Report) : Step Unit := do
  let s ← get
  if !isDirectoryGiven o then s.filer.sources.forM printSource
  if o.verbose && !r.outcomes.isEmpty then printTable (outcomeTable r)
  printDiagnostics s.diagnostics
  if isDirectoryGiven o then
    say ("[green]✓[/green] Generated " ++ toString r.generated.length
      ++ " file(s) in [cyan]" ++ o.output ++ "[/cyan]")

/-- Generates the sources for a document and exits with zero if no type failed. -/
def generate (o : Generate) (input : String) : Step Nat := do
  let es ← loadElements o input
  let names ← chooseGenerators o.generators
  let configs ← names.mapM (configured o)
  let gs ← configs.mapM fun c => Catalogue.create c.1 (.complete c.2)
  modify fun s => { s with filer := filerFor o, diagnostics := [] }
  let r ← Round.process gs es false
  printRound o r
  return if r.succeeded then 0 else 1

/-! ## Information -/

def infoRow (i : String × Catalogue.Info) : List String :=
  [ "🔧 " ++ i.1, i.2.annotationKey, i.2.className,
    if i.2.aliases.isEmpty then "[dim]none[/dim]" else String.intercalate ", " i.2.aliases ]

def generatorTable (infos : List (String × Catalogue.Info)) : Console.Table where
  title := "📋 Available Generators"
  columns :=
    { header := "Generator", isBreakable := false }
      :: ["Annotation", "Generator Class", "Aliases"].map ({ header := · })
  rows := infos.map infoRow

def quickStart : Console.Panel where
  title := "💡 Quick Start"
  text :=
    "[bold]Usage:[/bold] companion-gen generate [dim]types.json[/dim] -g [cyan]GENERATOR[/cyan]\n"
      ++ "[bold]Info:[/bold] companion-gen generator-info [cyan]GENERATOR[/cyan]"

def listGenerators : Step Nat := do
  let infos ← Catalogue.allInfo
  if infos.isEmpty then say "[yellow]⚠️ No generators available[/yellow]"
  else
    printTable (generatorTable infos)
    printPanel quickStart
  return 0

def infoPanel (i : Catalogue.Info) : Console.Panel where
  title := "🔧 " ++ Text.title i.name ++ " Generator"
  text := String.intercalate "\n" (
    [ "[bold]Generator:[/bold] " ++ i.name,
      "[bold]Description:[/bold] " ++ i.description,
      "[bold]Annotation Key:[/bold] " ++ i.annotationKey,
      "[bold]Provenance:[/bold] " ++ i.provenance,
      "[bold]Generator Class:[/bold] " ++ i.className,
      "[bold]Module:[/bold] " ++ i.module ]
    ++ if i.aliases.isEmpty then []
      else ["[bold]Aliases:[/bold] " ++ String.intercalate ", " i.aliases])

/-- The options of a configuration in the order of their names, each as a row. -/
def optionRows (c : Config) : List (List String) :=
  match c.generatorOptions with
  | .object options =>
    (options.mergeSort fun a b => a.1 ≤ b.1).map fun f =>
      [Text.title (Text.swapChar '_' ' ' f.1), f.2.display]
  | _ => []

def configTable (c : Config) : Console.Table where
  title := "⚙️  Default Configuration"
  columns := ["Setting", "Value"].map ({ header := · })
  rows :=
    [ ["Indent Width", c.indentWidth.display], ["Line Ending", c.lineEnding.quoted],
      ["Generated Annotation", c.generatedMarker.display],
      ["Control Namespace", c.controlNamespace.display],
      ["Add Comments", c.addComments.display] ] ++ optionRows c

def generatorInfo (name : String) : Step Nat := do
  match ← Step.attempt (Catalogue.info name) with
  | .ok i =>
    printPanel (infoPanel i)
    printTable (configTable (← Config.load i.name .null .null))
    return 0
  | .error (.catalogue f) =>
    say ("[red]✗ Generator '" ++ name ++ "' is not available[/red]")
    say ("[dim]" ++ f.message ++ "[/dim]")
    return 1
  | .error f => Step.fail f

/-! ## The program -/

def carryOut (input : String) : Command → Step Nat
  | .generate o => generate o input
  | .listGenerators => listGenerators
  | .generatorInfo name => generatorInfo name

/-- Carries out a command.  What keeps it from that is shown on the console. -/
def carryOutOrTell (input : String) (c : Command) : Step Nat :=
  tryCatch (carryOut input c) fun f =>
    match f with
    | .command reason => do
      say ("[red]✗ Error:[/red] " ++ reason)
      return 1
    | f => Step.fail f

def run (i : Invocation) : Step Exit :=
  match Arguments.ofList i.arguments with
  | .error (.shown line) => return { code := 0, shown := some line }
  | .error (.misuse program m) =>
    return { code := 2, misuse := some (program ++ ": error: " ++ m.message) }
  | .ok a => do
    let _ ← Log.setup a.logLevel i.environmentLevel a.logFile
    match a.command with
    | some c => return { code := ← carryOutOrTell i.input c }
    | none => return { code := 1, shown := some mainGrammar.usage }

end CommandLine
end JavaCompanion
