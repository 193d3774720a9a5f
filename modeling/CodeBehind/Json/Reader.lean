import CodeBehind.Json.Fault

/-!
# Readers

A reader turns a document into a value of another type.  It goes through the document in order and
reports the first thing that is wrong, so a mismatch is found before a lapse further on.

Where a document comes from makes a difference.  A tagged node cannot be read before its tag is
known: all its other members are set aside first, and then read from there.  Documents straight from
a text have a limit on their depth.
-/

namespace CodeBehind.Json

/-- Where a document comes from. -/
inductive Origin where
  /-- A text, of which arrays and objects may nest less than so many levels deep. -/
  | text (levels : Nat)
  /-- A value. -/
  | value
  /-- The members of a tagged node, set aside until its tag was known. -/
  | held
deriving DecidableEq, Inhabited

/-- How deep arrays and objects of a text may nest, and one more. -/
def textLevels : Nat := 128

abbrev Reader (α : Type) := Origin → Doc → Except Fault α

def Doc.found : Doc → Found
  | null => .null
  | bool value => .bool value
  | number value => .number value
  | string value => .string value
  | array _ _ => .sequence
  | object _ _ => .map
  | lapse _ => .null

/-- Something else was expected. -/
def Doc.unexpected {α : Type} (doc : Doc) (expected : Expected) : Except Fault α :=
  match doc with
  | .lapse place => .error (.broken place.read)
  | doc => .error (.mismatch (.invalidType doc.found expected))

def Fault.ofBreak {α : Type} : Except Break α → Except Fault α
  | .ok a => .ok a
  | .error wrong => .error (.broken wrong)

namespace Origin

/-- The inside of an array or object. -/
def enter : Origin → Except Fault Origin
  | text levels => if levels ≤ 1 then .error (.broken .malformed) else .ok (text (levels - 1))
  | origin => .ok origin

/-- Sets a document aside. -/
def hold (origin : Origin) (doc : Doc) : Except Fault Unit :=
  match origin with
  | text levels => Fault.ofBreak (doc.hold levels)
  | _ => .ok ()

/-- An array has more items than the record has fields. -/
def tooLong (origin : Origin) (length fields : Nat) : Fault :=
  match origin with
  | text _ => .broken .malformed
  | value => .mismatch (.invalidLength length .fewer)
  | held => .mismatch (.invalidLength length (.items fields))

end Origin

namespace Reader

variable {α β : Type}

/-! ## Simple values -/

def string : Reader String := fun _ doc ↦
  match doc with
  | .string value => .ok value
  | doc => doc.unexpected .string

/-- A number below 256. -/
def byte : Reader UInt8 := fun _ doc ↦
  match doc with
  | .number (.integer value) =>
    if 0 ≤ value && value < 256 then .ok value.toNat.toUInt8
    else .error (.mismatch (.invalidValue (.number (.integer value)) .byte))
  | doc => doc.unexpected .byte

/-- A value that may be null. -/
def optional (reader : Reader α) : Reader (Option α) := fun origin doc ↦
  match doc with
  | .null => .ok none
  | doc => (reader origin doc).map some

def readItems (reader : Reader α) (origin : Origin) : List Doc → Except Fault (List α)
  | [] => .ok []
  | item :: rest => do
    let first ← reader origin item
    let others ← readItems reader origin rest
    pure (first :: others)

def list (reader : Reader α) : Reader (List α) := fun origin doc ↦
  match doc with
  | .array items wrong => do
    let inside ← origin.enter
    let values ← readItems reader inside items
    Fault.ofBreak (Doc.passed wrong)
    pure values
  | doc => doc.unexpected .sequence

def map (f : α → β) (reader : Reader α) : Reader β := fun origin doc ↦
  (reader origin doc).map f

end Reader

/-! ## Records -/

/-- The fields of a record in order of declaration.  A field without fallback is required. -/
inductive Fields : Type → Type 1 where
  | done : Fields Unit
  | field {α β : Type} (name : String) (reader : Reader α) (fallback : Option α)
      (others : Fields β) : Fields (α × β)

namespace Fields

/-- What has been read of each field so far. -/
def Slots : {α : Type} → Fields α → Type
  | _, done => Unit
  | _, @field α _ _ _ _ others => Option α × others.Slots

def vacant : {α : Type} → (fields : Fields α) → fields.Slots
  | _, done => ()
  | _, field _ _ _ others => (none, others.vacant)

def names : {α : Type} → Fields α → List String
  | _, done => []
  | _, field name _ _ others => name :: others.names

/-- Reads a member into the slot of its field.  There is no slot for a member of another name. -/
def place : {α : Type} → (fields : Fields α) → Origin → String → Doc → fields.Slots →
    Except Fault (Option fields.Slots)
  | _, done, _, _, _, _ => .ok none
  | _, field name reader _ others, origin, key, doc, slots =>
    if key == name then
      if slots.1.isSome then .error (.mismatch (.duplicateField name))
      else (reader origin doc).map fun value ↦ some (some value, slots.2)
    else
      (others.place origin key doc slots.2).map fun placed ↦
        placed.map fun rest ↦ (slots.1, rest)

/-- Reads the members in their order.  Members without a field are skipped, or refused if the record
is strict. -/
def placeAll {α : Type} (fields : Fields α) (strict : Bool) (origin : Origin) :
    List (Doc × Doc) → fields.Slots → Except Fault fields.Slots
  | [], slots => .ok slots
  | (key, doc) :: rest, slots => do
    let name ← Fault.ofBreak key.name
    match ← fields.place origin name doc slots with
    | some slots => fields.placeAll strict origin rest slots
    | none =>
      if strict then .error (.mismatch (.unknownField name fields.names))
      else do
        Fault.ofBreak doc.skip
        fields.placeAll strict origin rest slots

/-- The record, with fallbacks for the fields that were not given. -/
def finish : {α : Type} → (fields : Fields α) → fields.Slots → Except Fault α
  | _, done, _ => .ok ()
  | _, field name _ fallback others, slots =>
    match slots.1 <|> fallback with
    | some value => do
      let rest ← others.finish slots.2
      pure (value, rest)
    | none => .error (.mismatch (.missingField name))

/-- The record, with its fields as the items of an array from index `index` on. -/
def inOrder (recordName : String) (count length : Nat) (wrong : Option Break) (origin : Origin) :
    {α : Type} → Fields α → (index : Nat) → List Doc → Except Fault α
  | _, done, _, [] => Fault.ofBreak (Doc.passed wrong)
  | _, done, _, _ :: _ => .error (origin.tooLong length count)
  | _, field _ reader _ others, index, item :: rest => do
    let value ← reader origin item
    let values ← inOrder recordName count length wrong origin others (index + 1) rest
    pure (value, values)
  | _, field _ _ fallback others, index, [] => do
    Fault.ofBreak (Doc.passed wrong)
    match fallback with
    | some value =>
      let values ← inOrder recordName count length wrong origin others (index + 1) []
      pure (value, values)
    | none => .error (.mismatch (.invalidLength index (.fields recordName count)))

end Fields

namespace Reader

variable {α β : Type}

/-- A record: an object with the fields as members, or an array of the fields in order.  Members
without a field are refused if the record is strict. -/
def recordWith (strict : Bool) (name : String) (fields : Fields α) : Reader α :=
  fun origin doc ↦
    match doc with
    | .object members wrong => do
      let inside ← origin.enter
      let slots ← fields.placeAll strict inside members fields.vacant
      Fault.ofBreak (Doc.passed wrong)
      fields.finish slots
    | .array items wrong => do
      let inside ← origin.enter
      fields.inOrder name fields.names.length items.length wrong inside 0 items
    | doc => doc.unexpected (.record name)

/-- A record that may have other members than its fields. -/
def record (name : String) (fields : Fields α) : Reader α :=
  recordWith false name fields

/-- A record that has no other members than its fields. -/
def strictRecord (name : String) (fields : Fields α) : Reader α :=
  recordWith true name fields

/-! ## Tagged nodes -/

/-- A choice with its name, and a reader of what comes with it. -/
structure Variant (α : Type) where
  name : String
  reader : Reader α

/-- The name of the member that holds the tag. -/
def tagName : String := "kind"

/-- The choice that a tag names.  Among members that were set aside, its index will do. -/
def variant (variants : List (Variant α)) (origin : Origin) (tag : Doc) :
    Except Fault (Variant α) :=
  match origin, tag with
  | _, .string name =>
    match variants.find? (·.name == name) with
    | some variant => .ok variant
    | none => .error (.mismatch (.unknownVariant name (variants.map (·.name))))
  | .held, .number (.integer index) =>
    if index < 0 then tag.unexpected .tag
    else
      match variants[index.toNat]? with
      | some variant => .ok variant
      | none => .error (.mismatch (.invalidValue (.number (.integer index))
          (.tagIndex variants.length)))
  | _, tag => tag.unexpected .tag

/-- Looks for the tag among the members and sets the others aside. -/
def splitTag (variants : List (Variant α)) (origin : Origin) :
    Option (Variant α) → List (Doc × Doc) → Except Fault (Option (Variant α) × List (Doc × Doc))
  | found, [] => .ok (found, [])
  | found, (key, doc) :: rest => do
    let name ← Fault.ofBreak key.name
    if name == tagName then
      match found with
      | some _ => .error (.mismatch (.duplicateField tagName))
      | none =>
        let chosen ← variant variants origin doc
        splitTag variants origin (some chosen) rest
    else
      origin.hold doc
      let (found, others) ← splitTag variants origin found rest
      pure (found, (key, doc) :: others)

def holdAll (origin : Origin) : List Doc → Except Fault Unit
  | [] => .ok ()
  | doc :: rest => do
    origin.hold doc
    holdAll origin rest

/-- A tagged node: an object with the tag as one of its members, or an array that starts with it. -/
def tagged (name : String) (variants : List (Variant α)) : Reader α := fun origin doc ↦
  match doc with
  | .object members wrong => do
    let inside ← origin.enter
    let (found, others) ← splitTag variants inside none members
    Fault.ofBreak (Doc.passed wrong)
    match found with
    | some chosen => chosen.reader .held (.object others none)
    | none => .error (.mismatch (.missingField tagName))
  | .array items wrong => do
    let inside ← origin.enter
    match items with
    | [] =>
      Fault.ofBreak (Doc.passed wrong)
      .error (.mismatch (.missingField tagName))
    | tag :: others =>
      let chosen ← variant variants inside tag
      holdAll inside others
      Fault.ofBreak (Doc.passed wrong)
      chosen.reader .held (.array others none)
  | doc => doc.unexpected (.tagged name)

/-! ## Choices -/

/-- What a choice can come with. -/
inductive Choice (α : Type) where
  /-- Nothing. -/
  | bare (value : α)
  /-- A value of its own. -/
  | carrying (reader : Reader α)

/-- A choice given by its bare name. -/
def bareChoice : Choice α → Except Fault α
  | .bare value => .ok value
  | .carrying _ => .error (.mismatch (.invalidType .bareChoice .choiceWithValue))

/-- A choice given with a value. -/
def choiceWith (origin : Origin) (doc : Doc) : Choice α → Except Fault α
  | .bare value =>
    match doc with
    | .null => .ok value
    | doc => doc.unexpected .nothing
  | .carrying reader => reader origin doc

/-- The choice of that name. -/
def choose (choices : List (String × Choice α)) (name : Doc) : Except Fault (Choice α) :=
  match name with
  | .string name =>
    match choices.find? (·.1 == name) with
    | some (_, chosen) => .ok chosen
    | none => .error (.mismatch (.unknownVariant name (choices.map (·.1))))
  | name => name.unexpected .tag

/-- A choice by its name: the bare name, or an object whose only member has that name.  In a text
nothing but a string or an object may start there, and a second member is malformed. -/
def choice (choices : List (String × Choice α)) : Reader α := fun origin doc ↦
  match origin, doc with
  | _, .string name => do
    let chosen ← choose choices (.string name)
    bareChoice chosen
  | .text _, .object members wrong => do
    let inside ← origin.enter
    match members with
    | [] =>
      Fault.ofBreak (Doc.passed wrong)
      .error (.broken .malformed)
    | (key, value) :: others =>
      let chosen ← choose choices key
      let result ← choiceWith inside value chosen
      if others.isEmpty then (Fault.ofBreak (Doc.passed wrong)).map fun _ ↦ result
      else .error (.broken .malformed)
  | _, .object members _ =>
    match members with
    | [(key, value)] => do
      let chosen ← choose choices key
      choiceWith origin value chosen
    | _ => .error (.mismatch (.invalidValue .map .oneMember))
  | .text _, .lapse place => .error (.broken (place.start.getD place.read))
  | .text _, _ => .error (.broken .malformed)
  | _, doc => doc.unexpected .choice

/-! ## Running a reader -/

/-- Reads a whole text. -/
def ofText (reader : Reader α) (text : String) : Except Fault α := do
  let (doc, wrong) := Doc.ofText text
  let value ← reader (.text textLevels) doc
  Fault.ofBreak (Doc.passed wrong)
  pure value

def ofValue (reader : Reader α) (value : Value) : Except Fault α :=
  reader .value (Doc.ofValue value)

end Reader

end CodeBehind.Json
