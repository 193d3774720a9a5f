import CodeBehind.Command.Word
import CodeBehind.Json.Reader

/-!
# Config files

A config file is a record of settings, all of them optional.  It may hold no others.
-/

namespace CodeBehind.Command

open Json Json.Reader

/-- The settings of a config file. -/
structure Config where
  indent : Option String := none
  indentWidth : Option UInt8 := none
  lineBreak : Option String := none
  annotate : Option Bool := none
  readyEvent : Option String := none
  nodeNames : Option (List String) := none
deriving DecidableEq, Inhabited

namespace Config

/-- The name of the config file next to a tree. -/
def fileName : String := "wpfjs.json"

/-- A truth value by its name. -/
def truth? (name : String) : Option Bool :=
  match normalized name with
  | "true" | "1" | "yes" | "on" => some true
  | "false" | "0" | "no" | "off" => some false
  | _ => none

/-- A truth value or its name.  It is set aside first, and anything else is reported in the same
way. -/
def truth : Json.Reader Bool := fun origin doc ↦ do
  origin.hold doc
  match doc with
  | .bool value => pure value
  | .string name =>
    match truth? name with
    | some value => pure value
    | none => .error (.mismatch (.invalidBoolean name))
  | _ => .error (.mismatch (.noForm "BoolOrString"))

def optionalField {α β : Type} (name : String) (reader : Json.Reader α) (others : Fields β) :
    Fields (Option α × β) :=
  .field name (optional reader) (some none) others

def reader : Json.Reader Config :=
  map (fun (indent, indentWidth, lineBreak, annotate, readyEvent, nodeNames, ()) ↦
      { indent, indentWidth, lineBreak, annotate, readyEvent, nodeNames }) <|
    strictRecord "WpfjsConfig" <|
      optionalField "indent" string <| optionalField "indentWidth" byte <|
      optionalField "newLine" string <| optionalField "annotate" truth <|
      optionalField "domReadyEvent" string <| optionalField "nodeNames" (list string) .done

/-- The settings that a text spells. -/
def parse (text : String) : Except Fault Config :=
  reader.ofText text

end Config

end CodeBehind.Command
