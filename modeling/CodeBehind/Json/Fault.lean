import CodeBehind.Json.Document
import CodeBehind.Text.Quoted

/-!
# Why a document cannot be read

Either the text is no document, or the document does not have the shape that was expected.  The
message of a mismatch says what was found and what was expected in its place.
-/

namespace CodeBehind.Json

/-- What was found. -/
inductive Found where
  | null
  | bool (value : Bool)
  | number (value : Number)
  | string (value : String)
  | map
  | sequence
  /-- The bare name of a choice. -/
  | bareChoice
deriving Inhabited

def Found.label : Found → String
  | null => "null"
  | bool value => "boolean `" ++ (if value then "true" else "false") ++ "`"
  | number (.integer value) => "integer `" ++ toString value ++ "`"
  | number (.real value) => "floating point `" ++ (Number.real value).render ++ "`"
  | string value => "string " ++ Text.quoted value
  | map => "map"
  | sequence => "sequence"
  | bareChoice => "unit variant"

/-- What was expected. -/
inductive Expected where
  | string
  | sequence
  | byte
  | nothing
  | record (name : String)
  | tagged (name : String)
  | tag
  | tagIndex (count : Nat)
  | choice
  | oneMember
  | choiceWithValue
deriving DecidableEq, Inhabited

def Expected.label : Expected → String
  | string => "a string"
  | sequence => "a sequence"
  | byte => "u8"
  | nothing => "unit"
  | record name => "struct " ++ name
  | tagged name => "internally tagged enum " ++ name
  | tag => "variant identifier"
  | tagIndex count => "variant index 0 <= i < " ++ toString count
  | choice => "string or map"
  | oneMember => "map with a single key"
  | choiceWithValue => "newtype variant"

/-- The length that was expected of an array. -/
inductive ExpectedLength where
  /-- As many items as the record has fields. -/
  | fields (name : String) (count : Nat)
  /-- That many items of an array that was set aside. -/
  | items (count : Nat)
  /-- Fewer items. -/
  | fewer
deriving DecidableEq, Inhabited

def ExpectedLength.label : ExpectedLength → String
  | fields name count =>
    "struct " ++ name ++ " with " ++ toString count ++
      (if count == 1 then " element" else " elements")
  | items count =>
    toString count ++ (if count == 1 then " element" else " elements") ++ " in sequence"
  | fewer => "fewer elements in array"

/-- A list of names to choose from. -/
def oneOf (names : List String) : String :=
  let quote (name : String) : String := "`" ++ name ++ "`"
  match names with
  | [only] => quote only
  | [first, second] => quote first ++ " or " ++ quote second
  | _ => "one of " ++ ", ".intercalate (names.map quote)

/-- How a document differs from what was expected. -/
inductive Mismatch where
  | invalidType (found : Found) (expected : Expected)
  | invalidValue (found : Found) (expected : Expected)
  | invalidLength (length : Nat) (expected : ExpectedLength)
  | missingField (name : String)
  | duplicateField (name : String)
  | unknownField (name : String) (known : List String)
  | unknownVariant (name : String) (known : List String)
  /-- Neither of the forms that a node may take. -/
  | noForm (name : String)
  | invalidBoolean (text : String)
deriving Inhabited

def Mismatch.message : Mismatch → String
  | invalidType found expected => "invalid type: " ++ found.label ++ ", expected " ++ expected.label
  | invalidValue found expected =>
    "invalid value: " ++ found.label ++ ", expected " ++ expected.label
  | invalidLength length expected =>
    "invalid length " ++ toString length ++ ", expected " ++ expected.label
  | missingField name => "missing field `" ++ name ++ "`"
  | duplicateField name => "duplicate field `" ++ name ++ "`"
  | unknownField name known => "unknown field `" ++ name ++ "`, expected " ++ oneOf known
  | unknownVariant name known => "unknown variant `" ++ name ++ "`, expected " ++ oneOf known
  | noForm name => "data did not match any variant of untagged enum " ++ name
  | invalidBoolean text =>
    "invalid boolean value: '" ++ text ++ "'. Expected true, false, 'true', or 'false'"

inductive Fault where
  | broken (wrong : Break)
  | mismatch (mismatch : Mismatch)
deriving Inhabited

end CodeBehind.Json
