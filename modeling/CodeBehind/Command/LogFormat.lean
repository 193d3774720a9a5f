import CodeBehind.Command.Word
import CodeBehind.Json.Value
import CodeBehind.Lowering.Log
import CodeBehind.Text.Lines

/-!
# Formats of the log

One variable turns the log on, with a filter for what is shown, and another names its format: plain
lines, lines that are indented below the declarations around them, or one object for each line.
-/

namespace CodeBehind.Command

open Lowering (Detail Entry)

/-- The variable that turns the log on. -/
def logVariable : String := "WPFJS_LOG"

/-- The variable that names the format of the log. -/
def logFormatVariable : String := "WPFJS_LOG_FORMAT"

inductive LogFormat where
  | text
  | tree
  | json
deriving DecidableEq, Inhabited

namespace LogFormat

/-- The format of a name; a name of no format is that of plain text. -/
def ofName (name : String) : LogFormat :=
  match normalized name with
  | "tree" => tree
  | "json" => json
  | _ => text

def label : LogFormat → String
  | text => "text"
  | tree => "tree"
  | json => "json"

/-! ## Lines -/

def detailText : Detail → String
  | .text value => value
  | .number value => toString value

def detailValue : Detail → Json.Value
  | .text value => .string value
  | .number value => .number (.integer value)

/-- The level, what happened and the values that go with it. -/
def plainLine (entry : Entry) : String :=
  " ".intercalate (entry.event.level.label :: entry.event.label ::
    entry.event.details.map fun (name, detail) ↦ name ++ "=" ++ detailText detail)

/-- The entry as an object, with its name as that of a declaration or as a message. -/
def object (entry : Entry) : Json.Value :=
  .object [("level", .string entry.event.level.label),
    (if entry.event.isSpan then "span" else "message", .string entry.event.label),
    ("fields", .object (entry.event.details.map fun (name, detail) ↦ (name, detailValue detail)))]

/-- The line of an entry, without a time. -/
def line (format : LogFormat) (entry : Entry) : String :=
  match format with
  | text => plainLine entry
  | tree => String.ofList (List.replicate (2 * entry.depth) ' ') ++ plainLine entry
  | json => (object entry).render

end LogFormat

/-! ## Filters -/

/-- The level that a part of a filter names, for everything or for what stands before an equals
sign.  What it is for is not told apart. -/
def filterLevel (part : List Char) : String :=
  normalized (String.ofList (part.reverse.takeWhile (· != '=')).reverse)

/-- Whether a filter shows an entry: one of its parts names the level of the entry or a finer one. -/
def shows (filter : String) (entry : Entry) : Bool :=
  (Text.pieces (· == ',') filter.toList).any fun part ↦
    match filterLevel part with
    | "trace" => true
    | "debug" => entry.event.level == .debug
    | _ => false

end CodeBehind.Command
