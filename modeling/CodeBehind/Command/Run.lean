import CodeBehind.Command.Arguments
import CodeBehind.Command.Config
import CodeBehind.Command.Failure
import CodeBehind.Command.LogFormat
import CodeBehind.Command.Names
import CodeBehind.Emit
import CodeBehind.Source.Reader

/-!
# A run

A run reads the config file and the names, settles the options, reads the tree and lowers it.  Only
then is the script written, so a run that fails before leaves every file as it was.
-/

namespace CodeBehind.Command

open Lowering (NodeNames)

/-- Width of an indentation by spaces when none is given. -/
def defaultIndentWidth : UInt8 := 4

/-- What a lowering is run with. -/
structure Resolved where
  options : Options := {}
  /-- The names of the config file, of the file of names and of the command line, in this order. -/
  nodeNames : List String := []
deriving DecidableEq, Inhabited

/-- The value of a setting: from the command line, or else from the config file. -/
def settingValue {α : Type} (setting : Setting) (ofName? : String → Option α) (flag : Option α)
    (configured : Option String) : Except Failure (Option α) :=
  match flag, configured with
  | some a, _ => .ok (some a)
  | none, none => .ok none
  | none, some name =>
    match ofName? name with
    | some a => .ok (some a)
    | none => .error (.invalidSetting setting name)

/-- The options and names.  The command line wins over the config file, and that wins over the
defaults. -/
def resolveOptions (config : Config) (arguments : Arguments) (fileNames : List String) :
    Except Failure Resolved := do
  let unit ← settingValue .indent IndentUnit.ofName? arguments.indent config.indent
  let lineBreak ← settingValue .lineBreak lineBreakOfName? arguments.lineBreak config.lineBreak
  let width := (arguments.indentWidth <|> config.indentWidth).getD defaultIndentWidth
  let defaults : Options := {}
  let options : Options :=
    { indent := if unit = some .spaces then .spaces width else .tab
      lineBreak := lineBreak.getD defaults.lineBreak
      annotate := !arguments.noAnnotate && config.annotate.getD defaults.annotate
      readyEvent := (arguments.readyEvent <|> config.readyEvent).getD defaults.readyEvent }
  pure { options, nodeNames := config.nodeNames.getD [] ++ fileNames ++ arguments.name }

section Files

variable {m : Type → Type} [Monad m] (files : FileSystem m)

/-- The config file to use: the one that was named, or one next to the tree. -/
def findConfig (arguments : Arguments) : m (Option String) :=
  match arguments.config, Path.parent? arguments.tree with
  | some path, _ => pure (some path)
  | none, none => pure none
  | none, some directory => do
    let path := Path.child directory Config.fileName
    if ← files.isFile path then pure (some path) else pure none

/-- Reads a file and makes something of its text. -/
def readWith {α : Type} (path : String) (unreadable : FileFault → Failure)
    (parse : String → Except Failure α) : ExceptT Failure m α := do
  match ← ExceptT.lift (files.read path) with
  | .error fault => throw (unreadable fault)
  | .ok text =>
    match parse text with
    | .error failure => throw failure
    | .ok a => pure a

def loadConfig (path : String) : ExceptT Failure m Config :=
  readWith files path (.readConfig path) fun text ↦
    (Config.parse text).mapError (.parseConfig path)

/-- Whether a file of names holds an array, by the extension of its name. -/
def holdsArray (path : String) : Bool :=
  match Path.extension? path with
  | some extension => lower extension == "json"
  | none => false

def loadNames (path : String) : ExceptT Failure m (List String) :=
  readWith files path (.readNames path) fun text ↦
    if holdsArray path then (Names.ofArray text).mapError (.parseNames path)
    else .ok (Names.ofPlain text)

def loadTree (path : String) : ExceptT Failure m Source.CompilationUnit :=
  readWith files path (.readTree path) fun text ↦
    (Source.CompilationUnit.ofText text).mapError (.parseTree path)

/-- The options and names that the arguments lead to. -/
def resolve (arguments : Arguments) : ExceptT Failure m Resolved := do
  let config ← match ← ExceptT.lift (findConfig files arguments) with
    | some path => loadConfig files path
    | none => pure {}
  let fileNames ← match arguments.names with
    | some path => loadNames files path
    | none => pure []
  match resolveOptions config arguments fileNames with
  | .ok resolved => pure resolved
  | .error failure => throw failure

/-- What is lowered, and with what. -/
structure Job where
  unit : Source.CompilationUnit
  names : NodeNames
  options : Options

/-- Reads all that the arguments name. -/
def prepare (arguments : Arguments) : ExceptT Failure m Job := do
  let resolved ← resolve files arguments
  match NodeNames.ofList resolved.nodeNames with
  | .error error => throw (.invalidNodeNames error)
  | .ok names =>
    let unit ← loadTree files arguments.tree
    pure { unit, names, options := resolved.options }

/-- The script of the tree that the arguments name. -/
def compile (arguments : Arguments) : ExceptT Failure m String := do
  let job ← prepare files arguments
  match emit job.unit job.names job.options with
  | .error error => throw (.lower arguments.tree error)
  | .ok script => pure script

/-- Compiles, and writes the script to the output file if there is one.  The result is what is left
for the standard output. -/
def run (arguments : Arguments) : ExceptT Failure m String := do
  let script ← compile files arguments
  match arguments.out with
  | none => pure script
  | some path =>
    match ← ExceptT.lift (files.write path script) with
    | .ok () => pure ""
    | .error fault => throw (.writeOutput path fault)

end Files

/-! ## The whole command -/

/-- What a command leaves behind besides files. -/
structure Outcome where
  exitCode : UInt8
  stdout : String := ""
  stderr : String := ""
deriving DecidableEq, Inhabited

/-- The answer to a request for the version. -/
def versionText : String := "wpfjs 0.1.0\n"

/-- The answer to a request for help. -/
def helpText : String :=
  "Lower WPF code-behind syntax trees to closure-based JavaScript

Usage: wpfjs [OPTIONS] <TREE_JSON>

Arguments:
  <TREE_JSON>  Syntax tree of the code-behind file, as JSON

Options:
  -o, --out <FILE>               Write the JavaScript to this file instead of stdout
      --names <FILE>             File listing the named visual nodes of the markup
      --name <NAME>              A named visual node; may be repeated
  -c, --config <FILE>            Path to wpfjs.json. Defaults to a wpfjs.json next to the tree file
      --indent <INDENT>          Indentation unit for generated lines [possible values: tab, spaces]
      --indent-width <N>         Width of one indentation level when indenting with spaces
      --new-line <NEW_LINE>      Line terminator for generated lines [possible values: lf, crlf]
      --no-annotate              Omit the generated explanatory comments
      --dom-ready-event <EVENT>  DOM event that binds the visual node references
  -h, --help                     Print help
  -V, --version                  Print version
"

/-- What is said about arguments that cannot be used. -/
def UsageError.message : UsageError → String
  | .invalidValue => "an option has no value or an invalid one"
  | .invalidNumber => "an option has a number out of range"
  | .unknownArgument => "there is an unexpected argument"
  | .missingTree => "the following required arguments were not provided: <TREE_JSON>"
  | .repeated => "an option cannot be used multiple times"
  | .unneededValue => "an option takes no value"
  | .helpRequested => ""
  | .versionRequested => ""

/-- The lines of the log of lowering the tree that the arguments name, if a filter turns the log on.
Without anything to lower there are none. -/
def logLines {m : Type → Type} [Monad m] (files : FileSystem m) (filter formatName : Option String)
    (arguments : List String) : m (List String) :=
  match filter, Arguments.parse arguments with
  | some filter, .ok arguments => do
    match ← (prepare files arguments).run with
    | .ok job =>
      let entries := (emitLog job.unit job.names job.options).filter (shows filter)
      pure (entries.map (LogFormat.ofName (formatName.getD "")).line)
    | .error _ => pure []
  | _, _ => pure []

/-- Runs the command with its arguments. -/
def execute {m : Type → Type} [Monad m] (files : FileSystem m) (color : Bool)
    (arguments : List String) : m Outcome :=
  match Arguments.parse arguments with
  | .error .helpRequested => pure { exitCode := 0, stdout := helpText }
  | .error .versionRequested => pure { exitCode := 0, stdout := versionText }
  | .error error => pure { exitCode := 2, stderr := "error: " ++ error.message ++ "\n" }
  | .ok arguments => do
    match ← (run files arguments).run with
    | .ok stdout => pure { exitCode := 0, stdout }
    | .error failure =>
      pure { exitCode := 1, stderr := report color (failure.chain.map Cause.text) ++ "\n" }

end CodeBehind.Command
