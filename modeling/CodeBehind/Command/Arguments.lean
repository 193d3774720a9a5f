import CodeBehind.Command.Word
import CodeBehind.Layout

/-!
# Command-line arguments

An argument is an option with a long or short name, a value of the option before it, or the path of
the tree.  Each option but `--name` is given at most once.

A value that stands on its own is examined only when the next argument is taken up.  So an unknown
argument is reported before an invalid value just in front of it, while `--help` is not.
-/

namespace CodeBehind.Command

/-- The unit of indentation, without a width. -/
inductive IndentUnit where
  | tab
  | spaces
deriving DecidableEq, Inhabited

def IndentUnit.ofName? (name : String) : Option IndentUnit :=
  match lower name with
  | "tab" | "tabs" => some .tab
  | "spaces" | "space" => some .spaces
  | _ => none

/-- A line break by its name on the command line or in a config file. -/
def lineBreakOfName? (name : String) : Option LineBreak :=
  match lower name with
  | "lf" => some .lf
  | "crlf" | "cr-lf" => some .crlf
  | _ => none

/-- What was asked for on the command line. -/
structure Arguments where
  /-- The path of the tree file. -/
  tree : String
  /-- The path of the generated script. -/
  out : Option String := none
  /-- The path of a file of node names. -/
  names : Option String := none
  /-- Node names given one by one. -/
  name : List String := []
  /-- The path of the config file. -/
  config : Option String := none
  indent : Option IndentUnit := none
  indentWidth : Option UInt8 := none
  lineBreak : Option LineBreak := none
  noAnnotate : Bool := false
  readyEvent : Option String := none
deriving DecidableEq, Inhabited

/-- Why the arguments cannot be used, or what was asked for in place of a run. -/
inductive UsageError where
  /-- A value is missing or not among the possible ones. -/
  | invalidValue
  /-- A value is no number in range. -/
  | invalidNumber
  | unknownArgument
  /-- The path of the tree is missing. -/
  | missingTree
  /-- An option was given before. -/
  | repeated
  /-- A value for an option that takes none. -/
  | unneededValue
  | helpRequested
  | versionRequested
deriving DecidableEq, Inhabited

namespace Arguments

/-- What an argument can be for. -/
inductive Slot where
  | tree
  | out
  | names
  | name
  | config
  | indent
  | indentWidth
  | lineBreak
  | noAnnotate
  | readyEvent
  | help
  | version
deriving DecidableEq, Inhabited

def Slot.takesValue : Slot → Bool
  | noAnnotate | help | version => false
  | _ => true

def Slot.ofLong? : String → Option Slot
  | "out" => some out
  | "names" => some names
  | "name" => some name
  | "config" => some config
  | "indent" => some indent
  | "indent-width" | "indentWidth" => some indentWidth
  | "new-line" | "newLine" => some lineBreak
  | "no-annotate" | "noAnnotate" => some noAnnotate
  | "dom-ready-event" | "domReadyEvent" => some readyEvent
  | "help" => some help
  | "version" => some version
  | _ => none

def Slot.ofShort? : Char → Option Slot
  | 'o' => some out
  | 'c' => some config
  | 'h' => some help
  | 'V' => some version
  | _ => none

/-- What has been given so far. -/
structure Draft where
  tree : Option String := none
  out : Option String := none
  names : Option String := none
  name : List String := []
  config : Option String := none
  indent : Option IndentUnit := none
  indentWidth : Option UInt8 := none
  lineBreak : Option LineBreak := none
  noAnnotate : Bool := false
  readyEvent : Option String := none
deriving DecidableEq, Inhabited

/-! ## Values -/

/-- A value of an option that may be given once. -/
def once {α : Type} (given : Option α) (parse : String → Except UsageError α) (value : String) :
    Except UsageError (Option α) :=
  if given.isSome then .error .repeated else (parse value).map some

def path (value : String) : Except UsageError String :=
  if value.isEmpty then .error .invalidValue else .ok value

def oneOf {α : Type} (ofName? : String → Option α) (value : String) : Except UsageError α :=
  match ofName? value with
  | some a => .ok a
  | none => .error .invalidValue

/-- The value of digits with an optional sign. -/
def integer? (cs : List Char) : Option Int :=
  let magnitude (digits : List Char) : Option Nat :=
    if digits.isEmpty || !digits.all Char.isDigit then none
    else some (digits.foldl (fun n c ↦ n * 10 + (c.toNat - '0'.toNat)) 0)
  match cs with
  | '+' :: digits => (magnitude digits).map Int.ofNat
  | '-' :: digits => (magnitude digits).map fun n ↦ -(n : Int)
  | digits => (magnitude digits).map Int.ofNat

def width (value : String) : Except UsageError UInt8 :=
  match integer? value.toList with
  | some n => if 0 ≤ n && n < 256 then .ok n.toNat.toUInt8 else .error .invalidNumber
  | none => .error .invalidNumber

/-- Enters the value of an option. -/
def Draft.enter (draft : Draft) (value : String) : Slot → Except UsageError Draft
  | .tree => (once draft.tree path value).map fun tree ↦ { draft with tree }
  | .out => (once draft.out path value).map fun out ↦ { draft with out }
  | .names => (once draft.names path value).map fun names ↦ { draft with names }
  | .name => .ok { draft with name := draft.name ++ [value] }
  | .config => (once draft.config path value).map fun config ↦ { draft with config }
  | .indent => (once draft.indent (oneOf IndentUnit.ofName?) value).map fun indent ↦
      { draft with indent }
  | .indentWidth => (once draft.indentWidth width value).map fun indentWidth ↦
      { draft with indentWidth }
  | .lineBreak => (once draft.lineBreak (oneOf lineBreakOfName?) value).map fun lineBreak ↦
      { draft with lineBreak }
  | .readyEvent => (once draft.readyEvent .ok value).map fun readyEvent ↦
      { draft with readyEvent }
  | .noAnnotate | .help | .version => .error .unneededValue

/-- Enters an option that takes no value. -/
def Draft.enterFlag (draft : Draft) : Slot → Except UsageError Draft
  | .noAnnotate =>
    if draft.noAnnotate then .error .repeated else .ok { draft with noAnnotate := true }
  | .help => .error .helpRequested
  | .version => .error .versionRequested
  | _ => .error .invalidValue

/-! ## Going through the arguments -/

/-- How far the arguments have been taken up. -/
structure Progress where
  draft : Draft := {}
  /-- An option or path whose value, if it has one yet, has not been examined. -/
  pending : Option (Slot × Option String) := none
  /-- Whether the path of the tree was met. -/
  treeMet : Bool := false
deriving DecidableEq, Inhabited

namespace Progress

/-- Examines the value that is pending. -/
def settle (p : Progress) : Except UsageError Progress :=
  match p.pending with
  | none => .ok p
  | some (_, none) => .error .invalidValue
  | some (slot, some value) =>
    (p.draft.enter value slot).map fun draft ↦ { p with draft, pending := none }

/-- The option that waits for a value. -/
def waiting? (p : Progress) : Option Slot :=
  match p.pending with
  | some (slot, none) => some slot
  | _ => none

/-- Takes up an option with a value attached to it. -/
def attached (p : Progress) (slot : Slot) (value : String) : Except UsageError Progress := do
  let p ← p.settle
  let draft ← p.draft.enter value slot
  pure { p with draft }

/-- Takes up an option whose value is to come. -/
def await (p : Progress) (slot : Slot) : Except UsageError Progress := do
  let p ← p.settle
  pure { p with pending := some (slot, none) }

def flag (p : Progress) (slot : Slot) : Except UsageError Progress := do
  let p ← p.settle
  let draft ← p.draft.enterFlag slot
  pure { p with draft }

/-- Takes up an option by its long name. -/
def long (p : Progress) (name : String) (value : Option String) : Except UsageError Progress :=
  match Slot.ofLong? name with
  | none => .error .unknownArgument
  | some slot =>
    match slot.takesValue, value with
    | true, some value => p.attached slot value
    | true, none => p.await slot
    | false, some _ => .error .unneededValue
    | false, none => p.flag slot

/-- Takes up a cluster of options by their short names.  What follows an option with a value is the
value, after an equals sign or not. -/
def short (p : Progress) : List Char → Except UsageError Progress
  | [] => .ok p
  | c :: rest =>
    match Slot.ofShort? c with
    | none => .error .unknownArgument
    | some slot =>
      if slot.takesValue then
        match rest with
        | [] => p.await slot
        | '=' :: value => p.attached slot (String.ofList value)
        | value => p.attached slot (String.ofList value)
      else do
        let p ← p.flag slot
        p.short rest

/-- Takes up an argument that is not an option. -/
def positional (p : Progress) (value : String) : Except UsageError Progress :=
  if p.treeMet then .error .unknownArgument
  else do
    let p ← p.settle
    pure { p with pending := some (.tree, some value), treeMet := true }

/-- Takes up an argument that may be an option. -/
def step (p : Progress) (argument : String) : Except UsageError Progress :=
  match argument.toList with
  | '-' :: '-' :: name =>
    match name.span (· != '=') with
    | (name, []) => p.long (String.ofList name) none
    | (name, _ :: value) => p.long (String.ofList name) (some (String.ofList value))
  | '-' :: c :: rest => p.short (c :: rest)
  | _ =>
    match p.waiting? with
    | some slot => .ok { p with pending := some (slot, some argument) }
    | none => p.positional argument

/-- Takes up arguments after the one that ends the options. -/
def operands (p : Progress) : List String → Except UsageError Progress
  | [] => p.settle
  | argument :: rest => do
    let p ← p.positional argument
    p.operands rest

def run (p : Progress) : List String → Except UsageError Progress
  | [] => p.settle
  | argument :: rest =>
    if argument == "--" then p.operands rest
    else do
      let p ← p.step argument
      p.run rest

end Progress

/-- What the arguments ask for. -/
def parse (arguments : List String) : Except UsageError Arguments := do
  let { draft := d, .. } ← Progress.run {} arguments
  match d.tree with
  | none => .error .missingTree
  | some tree =>
    pure { tree, out := d.out, names := d.names, name := d.name, config := d.config,
           indent := d.indent, indentWidth := d.indentWidth, lineBreak := d.lineBreak,
           noAnnotate := d.noAnnotate, readyEvent := d.readyEvent }

end Arguments

end CodeBehind.Command
