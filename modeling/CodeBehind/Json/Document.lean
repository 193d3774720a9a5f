import CodeBehind.Json.Value
import CodeBehind.Text.Slice

/-!
# Documents

Reading a text never fails as a whole: it gives a document that holds what could be read, and a
lapse at the place where the text goes wrong.  What a lapse means depends on the reader, because a
value that nobody asks for is skipped with less care than one that is used: a skipped string may
hold half of a surrogate pair and a skipped number may be too large.
-/

namespace CodeBehind.Json

/-- The two ways in which a text is no document. -/
inductive Break where
  /-- Something else was due. -/
  | malformed
  /-- The text ended. -/
  | truncated
deriving DecidableEq, Inhabited

/-- A place at which a text goes wrong. -/
structure Lapse where
  /-- What is wrong for a reader that uses the value. -/
  read : Break
  /-- What is wrong for a reader that skips the value; nothing if it can be skipped. -/
  skip : Option Break
  /-- What is wrong with the first character for a reader that only takes a string there; nothing if
  a string starts there. -/
  start : Option Break
deriving DecidableEq, Inhabited

/-- A lapse that no reader can get past. -/
def Lapse.final (wrong : Break) : Lapse where
  read := wrong
  skip := some wrong
  start := some wrong

/-- A value as far as a text gives one.  An array or object is closed, or else something was wrong
where a comma or the closing bracket was due.  The key of a member should be a string, but may be
whatever stands in its place. -/
inductive Doc where
  | null
  | bool (value : Bool)
  | number (value : Number)
  | string (value : String)
  | array (items : List Doc) (wrong : Option Break)
  | object (members : List (Doc × Doc)) (wrong : Option Break)
  | lapse (place : Lapse)
deriving Inhabited

namespace Doc

/-- What is read, and the text after it unless reading cannot go on. -/
abbrev Scan (α : Type) := α × Option (List Char)

def isSpace (c : Char) : Bool :=
  c == ' ' || c == '\n' || c == '\t' || c == '\r'

def skipSpace (cs : List Char) : List Char :=
  cs.dropWhile isSpace

/-! ## Words -/

/-- The text after a word. -/
def afterWord : List Char → List Char → Except Break (List Char)
  | [], cs => .ok cs
  | _ :: _, [] => .error .truncated
  | w :: word, c :: cs => if w == c then afterWord word cs else .error .malformed

def scanWord (word : List Char) (doc : Doc) (cs : List Char) : Scan Doc :=
  match afterWord word cs with
  | .ok rest => (doc, some rest)
  | .error wrong => (.lapse { read := wrong, skip := some wrong, start := some .malformed }, none)

/-! ## Strings -/

/-- A character of a string, or the code unit of an escape. -/
inductive Piece where
  | char (value : Char)
  | unit (value : Nat)
deriving DecidableEq, Inhabited

def hexDigit? (c : Char) : Option Nat :=
  if '0' ≤ c && c ≤ '9' then some (c.toNat - '0'.toNat)
  else if 'a' ≤ c && c ≤ 'f' then some (c.toNat - 'a'.toNat + 10)
  else if 'A' ≤ c && c ≤ 'F' then some (c.toNat - 'A'.toNat + 10)
  else none

def codeUnit? (a b c d : Char) : Option Nat := do
  let a ← hexDigit? a
  let b ← hexDigit? b
  let c ← hexDigit? c
  let d ← hexDigit? d
  pure (((a * 16 + b) * 16 + c) * 16 + d)

/-- The character that an escape of one letter stands for. -/
def letterEscape? (c : Char) : Option Char :=
  if c == '\x22' || c == '\x5c' || c == '/' then some c
  else if c == 'b' then some '\x08'
  else if c == 'f' then some '\x0c'
  else if c == 'n' then some '\n'
  else if c == 'r' then some '\r'
  else if c == 't' then some '\t'
  else none

/-- The pieces of a string after its opening quote, and the text after its closing quote. -/
def scanPieces : List Char → List Piece × Except Break (List Char)
  | [] => ([], .error .truncated)
  | '\x22' :: rest => ([], .ok rest)
  | '\x5c' :: 'u' :: a :: b :: c :: d :: rest =>
    match codeUnit? a b c d with
    | some unit =>
      let (pieces, after) := scanPieces rest
      (.unit unit :: pieces, after)
    | none => ([], .error .malformed)
  | '\x5c' :: 'u' :: rest =>
    ([], .error (if Text.byteCount rest < 4 then .truncated else .malformed))
  | ['\x5c'] => ([], .error .truncated)
  | '\x5c' :: c :: rest =>
    match letterEscape? c with
    | some letter =>
      let (pieces, after) := scanPieces rest
      (.char letter :: pieces, after)
    | none => ([], .error .malformed)
  | c :: rest =>
    if c.toNat < 0x20 then ([], .error .malformed)
    else
      let (pieces, after) := scanPieces rest
      (.char c :: pieces, after)

def isHighSurrogate (unit : Nat) : Bool :=
  0xD800 ≤ unit && unit ≤ 0xDBFF

def isLowSurrogate (unit : Nat) : Bool :=
  0xDC00 ≤ unit && unit ≤ 0xDFFF

/-- The characters of a string.  Surrogates have to come in pairs; `wrong` is what was wrong at the
end of the pieces. -/
def joinPieces (wrong : Option Break) : List Piece → Except Break (List Char)
  | [] =>
    match wrong with
    | none => .ok []
    | some wrong => .error wrong
  | .char c :: rest => (joinPieces wrong rest).map (c :: ·)
  | .unit high :: .unit low :: rest =>
    if isLowSurrogate high then .error .malformed
    else if isHighSurrogate high then
      if isLowSurrogate low then
        (joinPieces wrong rest).map
          (Char.ofNat ((high - 0xD800) * 1024 + (low - 0xDC00) + 0x10000) :: ·)
      else .error .malformed
    else (joinPieces wrong (.unit low :: rest)).map (Char.ofNat high :: ·)
  | .unit unit :: rest =>
    if isLowSurrogate unit then .error .malformed
    else if isHighSurrogate unit then
      match rest, wrong with
      | [], some wrong => .error wrong
      | _, _ => .error .malformed
    else (joinPieces wrong rest).map (Char.ofNat unit :: ·)

/-- A string after its opening quote. -/
def scanString (cs : List Char) : Scan Doc :=
  match scanPieces cs with
  | (pieces, .ok rest) =>
    match joinPieces none pieces with
    | .ok chars => (.string (String.ofList chars), some rest)
    | .error wrong => (.lapse { read := wrong, skip := none, start := none }, some rest)
  | (pieces, .error wrong) =>
    match joinPieces (some wrong) pieces with
    | .ok _ => (.lapse { read := wrong, skip := some wrong, start := none }, none)
    | .error read => (.lapse { read, skip := some wrong, start := none }, none)

/-! ## Numbers -/

/-- A lapse where a digit was due. -/
def digitDue : List Char → Lapse
  | [] => { read := .truncated, skip := some .malformed, start := some .malformed }
  | _ :: _ => .final .malformed

/-- The digits at the start of a text, at least one. -/
def scanDigits (cs : List Char) : Except Lapse (List Char × List Char) :=
  match cs.span Char.isDigit with
  | ([], rest) => .error (digitDue rest)
  | (digits, rest) => .ok (digits, rest)

/-- The digits before the point; a zero stands alone. -/
def scanWhole (cs : List Char) : Except Lapse (List Char × List Char) := do
  let (digits, rest) ← scanDigits cs
  if digits.length > 1 && digits.head? == some '0' then .error (.final .malformed)
  else .ok (digits, rest)

def scanFraction : List Char → Except Lapse (List Char × List Char)
  | '.' :: rest => scanDigits rest
  | cs => .ok ([], cs)

/-- An exponent: its sign and its digits. -/
def scanExponent (cs : List Char) : Except Lapse (Option (Bool × List Char) × List Char) :=
  let signed (negative : Bool) (cs : List Char) := do
    let (digits, rest) ← scanDigits cs
    pure (some (negative, digits), rest)
  match cs with
  | 'e' :: '-' :: rest | 'E' :: '-' :: rest => signed true rest
  | 'e' :: '+' :: rest | 'E' :: '+' :: rest => signed false rest
  | 'e' :: rest | 'E' :: rest => signed false rest
  | _ => .ok (none, cs)

def scanNumeral (negative : Bool) (cs : List Char) : Except Lapse (Numeral × List Char) := do
  let (whole, afterWhole) ← scanWhole cs
  let (fraction, afterFraction) ← scanFraction afterWhole
  let (exponent, rest) ← scanExponent afterFraction
  pure ({ negative, whole, fraction, exponent,
          isWhole := fraction.isEmpty && exponent.isNone }, rest)

def scanNumber (negative : Bool) (cs : List Char) : Scan Doc :=
  match scanNumeral negative cs with
  | .error place => (.lapse place, none)
  | .ok (numeral, rest) =>
    match numeral.value? with
    | some value => (.number value, some rest)
    | none => (.lapse { read := .malformed, skip := none, start := some .malformed }, some rest)

/-! ## Values -/

mutual

/-- A value that is due at the start of the text.  The fuel is more than any text of that length
needs. -/
def scanValue : Nat → List Char → Scan Doc
  | 0, _ => (.lapse (.final .malformed), none)
  | fuel + 1, cs =>
    match skipSpace cs with
    | [] => (.lapse (.final .truncated), none)
    | 'n' :: rest => scanWord ['u', 'l', 'l'] .null rest
    | 't' :: rest => scanWord ['r', 'u', 'e'] (.bool true) rest
    | 'f' :: rest => scanWord ['a', 'l', 's', 'e'] (.bool false) rest
    | '-' :: rest => scanNumber true rest
    | '\x22' :: rest => scanString rest
    | '[' :: rest =>
      match skipSpace rest with
      | [] => (.array [] (some .truncated), none)
      | ']' :: after => (.array [] none, some after)
      | _ :: _ =>
        let ((items, wrong), after) := scanItems fuel rest
        (.array items wrong, after)
    | '\x7b' :: rest =>
      match skipSpace rest with
      | '\x7d' :: after => (.object [] none, some after)
      | _ =>
        let ((members, wrong), after) := scanMembers fuel rest
        (.object members wrong, after)
    | c :: rest =>
      if c.isDigit then scanNumber false (c :: rest) else (.lapse (.final .malformed), none)

/-- The items of an array, of which one is due. -/
def scanItems : Nat → List Char → Scan (List Doc × Option Break)
  | 0, _ => (([], some .malformed), none)
  | fuel + 1, cs =>
    match scanValue fuel cs with
    | (item, none) => (([item], none), none)
    | (item, some rest) =>
      match skipSpace rest with
      | [] => (([item], some .truncated), none)
      | ']' :: after => (([item], none), some after)
      | ',' :: more =>
        match skipSpace more with
        | ']' :: _ => (([item, .lapse (.final .malformed)], none), none)
        | _ =>
          let ((items, wrong), after) := scanItems fuel more
          ((item :: items, wrong), after)
      | _ :: _ => (([item], some .malformed), none)

/-- The members of an object, of which one is due. -/
def scanMembers : Nat → List Char → Scan (List (Doc × Doc) × Option Break)
  | 0, _ => (([], some .malformed), none)
  | fuel + 1, cs =>
    match skipSpace cs with
    | '\x22' :: rest =>
      match scanString rest with
      | (key, none) => (([(key, .lapse (.final .malformed))], none), none)
      | (key, some afterKey) =>
        match skipSpace afterKey with
        | [] => (([(key, .lapse (.final .truncated))], none), none)
        | ':' :: afterColon =>
          match scanValue fuel afterColon with
          | (value, none) => (([(key, value)], none), none)
          | (value, some rest) =>
            match skipSpace rest with
            | [] => (([(key, value)], some .truncated), none)
            | '\x7d' :: after => (([(key, value)], none), some after)
            | ',' :: more =>
              let ((members, wrong), after) := scanMembers fuel more
              (((key, value) :: members, wrong), after)
            | _ :: _ => (([(key, value)], some .malformed), none)
        | _ :: _ => (([(key, .lapse (.final .malformed))], none), none)
    | _ => (([((scanValue fuel cs).1, .lapse (.final .malformed))], none), none)

end

/-- The document of a text, and what is wrong after it. -/
def ofText (text : String) : Doc × Option Break :=
  let cs := text.toList
  match scanValue (2 * cs.length + 2) cs with
  | (doc, none) => (doc, none)
  | (doc, some rest) => (doc, if (skipSpace rest).isEmpty then none else some .malformed)

/-! ## Passing over a document -/

/-- Goes on if nothing was wrong. -/
def passed (wrong : Option Break) : Except Break Unit :=
  match wrong with
  | none => .ok ()
  | some wrong => .error wrong

/-- The name that a key gives. -/
def name : Doc → Except Break String
  | string value => .ok value
  | lapse place => .error (place.start.getD place.read)
  | _ => .error .malformed

/-- Passes over a key. -/
def skipKey : Doc → Except Break Unit
  | string _ => .ok ()
  | lapse place => passed (place.start <|> place.skip)
  | _ => .error .malformed

mutual

/-- Passes over a document that nobody asked for. -/
def skip : Doc → Except Break Unit
  | array items wrong => do skipItems items; passed wrong
  | object members wrong => do skipMembers members; passed wrong
  | lapse place => passed place.skip
  | _ => .ok ()

def skipItems : List Doc → Except Break Unit
  | [] => .ok ()
  | item :: rest => do skip item; skipItems rest

def skipMembers : List (Doc × Doc) → Except Break Unit
  | [] => .ok ()
  | (key, value) :: rest => do
    skipKey key
    skip value
    skipMembers rest

end

mutual

/-- Sets a document aside for later use.  It must be sound, and its arrays and objects must nest
less than `levels` deep. -/
def hold (levels : Nat) : Doc → Except Break Unit
  | array items wrong =>
    if levels ≤ 1 then .error .malformed
    else do holdItems (levels - 1) items; passed wrong
  | object members wrong =>
    if levels ≤ 1 then .error .malformed
    else do holdMembers (levels - 1) members; passed wrong
  | lapse place => .error place.read
  | _ => .ok ()

def holdItems (levels : Nat) : List Doc → Except Break Unit
  | [] => .ok ()
  | item :: rest => do hold levels item; holdItems levels rest

def holdMembers (levels : Nat) : List (Doc × Doc) → Except Break Unit
  | [] => .ok ()
  | (key, value) :: rest => do
    let _ ← key.name
    hold levels value
    holdMembers levels rest

end

mutual

/-- How deep arrays and objects nest. -/
def height : Doc → Nat
  | array items _ => heightItems items + 1
  | object members _ => heightMembers members + 1
  | _ => 0

def heightItems : List Doc → Nat
  | [] => 0
  | item :: rest => max (height item) (heightItems rest)

def heightMembers : List (Doc × Doc) → Nat
  | [] => 0
  | (_, value) :: rest => max (height value) (heightMembers rest)

end

/-! ## Documents and values -/

mutual

/-- The document of a value, which has no lapse. -/
def ofValue : Value → Doc
  | .null => null
  | .bool value => bool value
  | .number value => number value
  | .string value => string value
  | .array items => array (ofItems items) none
  | .object members => object (ofMembers members) none

def ofItems : List Value → List Doc
  | [] => []
  | item :: rest => ofValue item :: ofItems rest

def ofMembers : List (String × Value) → List (Doc × Doc)
  | [] => []
  | (name, value) :: rest => (string name, ofValue value) :: ofMembers rest

end

mutual

/-- The value of a sound document. -/
def toValue : Doc → Except Break Value
  | null => .ok .null
  | bool value => .ok (.bool value)
  | number value => .ok (.number value)
  | string value => .ok (.string value)
  | array items wrong => do
    let items ← toItems items
    passed wrong
    pure (.array items)
  | object members wrong => do
    let members ← toMembers members
    passed wrong
    pure (.object members)
  | lapse place => .error place.read

def toItems : List Doc → Except Break (List Value)
  | [] => .ok []
  | item :: rest => do
    let value ← toValue item
    let values ← toItems rest
    pure (value :: values)

def toMembers : List (Doc × Doc) → Except Break (List (String × Value))
  | [] => .ok []
  | (key, member) :: rest => do
    let name ← key.name
    let value ← toValue member
    let values ← toMembers rest
    pure ((name, value) :: values)

end

end Doc

/-- The value that a text spells, at any depth. -/
def Value.parse (text : String) : Except Break Value := do
  let (doc, wrong) := Doc.ofText text
  let value ← doc.toValue
  Doc.passed wrong
  pure value

end CodeBehind.Json
