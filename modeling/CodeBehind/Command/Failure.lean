import CodeBehind.Command.Files
import CodeBehind.Json.Fault
import CodeBehind.Lowering.Error

/-!
# Failures of a run

A failure is the stage that went wrong and its cause.  It is reported as a chain of messages, from
the stage to the cause.
-/

namespace CodeBehind.Command

/-- A setting that names one of a few values. -/
inductive Setting where
  | indent
  | lineBreak
deriving DecidableEq, Inhabited

def Setting.key : Setting → String
  | indent => "indent"
  | lineBreak => "newLine"

def Setting.values : Setting → List String
  | indent => ["tab", "spaces"]
  | lineBreak => ["lf", "crlf"]

inductive Failure where
  | readConfig (path : String) (fault : FileFault)
  | parseConfig (path : String) (fault : Json.Fault)
  | readNames (path : String) (fault : FileFault)
  | parseNames (path : String) (fault : Json.Fault)
  | invalidSetting (setting : Setting) (value : String)
  | invalidNodeNames (error : Lowering.Error)
  | readTree (path : String) (fault : FileFault)
  | parseTree (path : String) (fault : Json.Fault)
  | lower (path : String) (error : Lowering.Error)
  | writeOutput (path : String) (fault : FileFault)
deriving Inhabited

/-- A link of the chain. -/
inductive Cause where
  | message (text : String)
  | document (fault : Json.Fault)
deriving Inhabited

def Cause.text : Cause → String
  | message text => text
  | document (.mismatch mismatch) => mismatch.message
  | document (.broken .malformed) => "the text is malformed"
  | document (.broken .truncated) => "the text ends too early"

namespace Failure

/-- The chain of a config text that cannot be read. -/
def configChain (fault : Json.Fault) : List Cause :=
  [.message "failed to parse wpfjs.json", .document fault]

/-- The chain of an array of names that cannot be read. -/
def namesChain (fault : Json.Fault) : List Cause :=
  [.message "node names must be a JSON array of strings", .document fault]

/-- The messages from the stage to the cause. -/
def chain : Failure → List Cause
  | readConfig path fault => [.message ("failed to read config: " ++ path), .message fault.message]
  | parseConfig path fault => .message ("failed to parse config: " ++ path) :: configChain fault
  | readNames path fault =>
    [.message ("failed to read node names: " ++ path), .message fault.message]
  | parseNames path fault => .message ("in " ++ path) :: namesChain fault
  | invalidSetting setting value =>
    [.message ("invalid value '" ++ value ++ "' for '" ++ setting.key ++ "'. Expected one of: " ++
      ", ".intercalate setting.values)]
  | invalidNodeNames error => [.message "invalid visual node name list", .message error.message]
  | readTree path fault =>
    [.message ("failed to read syntax tree: " ++ path), .message fault.message]
  | parseTree path fault => [.message ("failed to parse syntax tree: " ++ path), .document fault]
  | lower path error => [.message ("failed to lower " ++ path), .message error.message]
  | writeOutput path fault =>
    [.message ("failed to write output: " ++ path), .message fault.message]

end Failure

/-! ## Reports -/

/-- A text in a color of the terminal, or plain. -/
def painted (color : Bool) (code text : String) : String :=
  if color then "\x1b[" ++ code ++ "m" ++ text ++ "\x1b[0m" else text

/-- The first message on a line, and a line for each cause. -/
def report (color : Bool) : List String → String
  | [] => painted color "1;31" "error" ++ ": "
  | first :: causes =>
    painted color "1;31" "error" ++ ": " ++ first ++
      String.join (causes.map fun cause ↦ "\n  " ++ painted color "33" "caused by" ++ ": " ++ cause)

end CodeBehind.Command
