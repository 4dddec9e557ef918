/-
The command line of the program: three commands, and the options before and behind them.
-/
import JavaCompanion.CommandLine.Reading
import JavaCompanion.Log.Record
import JavaCompanion.Text.Blank

namespace JavaCompanion
namespace CommandLine

def programName : String := "companion-gen"

def version : String := "0.1.0"

/-- What the command that generates sources is told. -/
structure Generate where
  file : Option String := none
  url : Option String := none
  stdin : Bool := false
  generators : List Value := []
  output : String := ""
  config : String := ""
  noComments : Bool := false
  indent : Option Value := none
  lineEnding : Option String := none
  verbose : Bool := false

inductive Command where
  | generate (options : Generate)
  | listGenerators
  | generatorInfo (name : String)

structure Arguments where
  logLevel : Value := .null
  logFile : Value := .null
  /-- The command, if one is given. -/
  command : Option Command := none

/-! ## Shared parts -/

def helpNames : List String := ["-h", "--help"]

/-- Checks the value of an option that offers some words only. -/
def chosen (g : Grammar κ) (title : String) (choices : List String) (value : Value) :
    Except Stop Value :=
  match value with
  | .text s =>
    if choices.contains s then .ok value
    else .error (.misuse g.program (.noChoice title s choices))
  | _ => .ok value

/-- The text of a value of which something is left. -/
def textOrEmpty (value : Value) : String := value.text?.getD ""

/-! ## Generating -/

inductive GenerateKey where
  | help
  | url
  | stdin
  | generator
  | output
  | config
  | noComments
  | indent
  | lineEnding
  | verbose
  deriving DecidableEq, Repr

def lineEndingNames : List String := ["lf", "crlf"]

def generateGrammar : Grammar GenerateKey where
  program := programName ++ " generate"
  flags :=
    [ { key := .help, names := helpNames },
      { key := .url, names := ["--url"], placeholder := some "URL" },
      { key := .stdin, names := ["--stdin"] },
      { key := .generator, names := ["--generator", "-g"], placeholder := some "NAME" },
      { key := .output, names := ["--output", "-o"], placeholder := some "DIR" },
      { key := .config, names := ["--config"], placeholder := some "FILE" },
      { key := .noComments, names := ["--no-comments"] },
      { key := .indent, names := ["--indent"], placeholder := some "N" },
      { key := .lineEnding, names := ["--line-ending"]
        placeholder := some (alternatives lineEndingNames) },
      { key := .verbose, names := ["--verbose"] } ]
  positional := .atMostOne "file"

/-- The sources of a document of which exactly one is to be given, in order, each with
whether it is. -/
def sources (o : Generate) : List (String × Bool) :=
  [("file", o.file.isSome), ("--url", o.url.isSome), ("--stdin", o.stdin)]

/-- Accepts a source, unless another one has been given before. -/
def alone (title : String) (o : Generate) : Except Stop Generate :=
  match (sources o).find? fun s => s.2 && s.1 != title with
  | some other => .error (.misuse generateGrammar.program (.excluded title other.1))
  | none => .ok o

def numberOf (title : String) (value : Value) : Except Stop Value :=
  match value with
  | .text s =>
    match Text.integerOf? s with
    | some n => .ok (.int n)
    | none => .error (.misuse generateGrammar.program (.noNumber title s))
  | _ => .ok value

def generateStep (o : Generate) : Found GenerateKey → Except Stop Generate
  | .arguments [] => .ok o
  | .arguments (name :: _) => alone "file" { o with file := some name }
  | .option f value =>
    match f.key with
    | .help => .error (.shown generateGrammar.usage)
    | .url => alone f.title { o with url := some (textOrEmpty value) }
    | .stdin => alone f.title { o with stdin := true }
    | .generator => .ok { o with generators := o.generators ++ [value] }
    | .output => .ok { o with output := textOrEmpty value }
    | .config => .ok { o with config := textOrEmpty value }
    | .noComments => .ok { o with noComments := true }
    | .indent => do return { o with indent := some (← numberOf f.title value) }
    | .lineEnding => do
      return { o with
        lineEnding := (← chosen generateGrammar f.title lineEndingNames value).text? }
    | .verbose => .ok { o with verbose := true }

def readGenerate (args : List String) : Except Stop (Command × List String) := do
  let (o, extras) ← read generateGrammar generateStep {} args
  if (sources o).any (·.2) then return (.generate o, extras)
  else .error (.misuse generateGrammar.program (.noneOf ((sources o).map (·.1))))

/-! ## Information -/

/-- The grammar of a command whose only option shows its usage. -/
def plainGrammar (command : String) (positional : Positional) : Grammar Unit where
  program := programName ++ " " ++ command
  flags := [{ key := (), names := helpNames }]
  positional := positional

def listGrammar : Grammar Unit := plainGrammar "list-generators" .nothing

def infoGrammar : Grammar Unit := plainGrammar "generator-info" (.one "name")

def infoStep (g : Grammar Unit) (names : List String) : Found Unit → Except Stop (List String)
  | .option _ _ => .error (.shown g.usage)
  | .arguments texts => .ok (names ++ texts)

def readList (args : List String) : Except Stop (Command × List String) := do
  let (_, extras) ← read listGrammar (infoStep listGrammar) [] args
  return (.listGenerators, extras)

def readInfo (args : List String) : Except Stop (Command × List String) := do
  let (names, extras) ← read infoGrammar (infoStep infoGrammar) [] args
  return (.generatorInfo (names.head?.getD ""), extras)

/-! ## The whole line -/

def commands : List (String × (List String → Except Stop (Command × List String))) :=
  [ ("generate", readGenerate), ("list-generators", readList), ("generator-info", readInfo) ]

inductive MainKey where
  | help
  | version
  | logLevel
  | logFile
  deriving DecidableEq, Repr

def mainGrammar : Grammar MainKey where
  program := programName
  flags :=
    [ { key := .help, names := helpNames },
      { key := .version, names := ["--version"] },
      { key := .logLevel, names := ["--log-level"]
        placeholder := some (alternatives (Log.Level.all.map (·.name))) },
      { key := .logFile, names := ["--log-file"], placeholder := some "FILE" } ]
  positional := .command "command" (commands.map (·.1))

/-- What is read so far, with the words that the command leaves. -/
abbrev Progress := Arguments × List String

def commandStep (a : Arguments) (name : String) (args : List String) : Except Stop Progress := do
  match commands.find? (·.1 == name) with
  | some c =>
    let (command, extras) ← c.2 args
    return ({ a with command := some command }, extras)
  | none => .error (.misuse programName (.noChoice "command" name (commands.map (·.1))))

def mainStep (p : Progress) : Found MainKey → Except Stop Progress
  | .arguments [] => .ok p
  | .arguments (name :: args) => commandStep p.1 name args
  | .option f value =>
    match f.key with
    | .help => .error (.shown mainGrammar.usage)
    | .version => .error (.shown (programName ++ " " ++ version))
    | .logLevel => do
      let level ← chosen mainGrammar f.title (Log.Level.all.map (·.name)) value
      return ({ p.1 with logLevel := level }, p.2)
    | .logFile => .ok ({ p.1 with logFile := value }, p.2)

def Arguments.ofList (args : List String) : Except Stop Arguments := do
  let ((a, fromCommand), extras) ← read mainGrammar mainStep ({}, []) args
  match extras ++ fromCommand with
  | [] => return a
  | unread => .error (.misuse programName (.unrecognized unread))

end CommandLine
end JavaCompanion
