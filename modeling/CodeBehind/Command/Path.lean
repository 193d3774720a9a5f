import CodeBehind.Text.Lines

/-!
# Paths

A path is a text of segments between slashes.  Empty segments and single dots in it mean nothing,
except for a dot at the very start.
-/

namespace CodeBehind.Command.Path

/-- The text between slashes. -/
def segments (path : List Char) : List (List Char) :=
  Text.pieces (· == '/') path

def isIdle (segment : List Char) : Bool :=
  segment.isEmpty || segment == ['.']

/-- Segments from the last one on, without the idle ones at the end. -/
def dropIdle (reversed : List (List Char)) : List (List Char) :=
  reversed.dropWhile isIdle

/-- The path that segments spell. -/
def join (segments : List (List Char)) : String :=
  String.ofList (['/'].intercalate segments)

/-- The first segment if it is kept even though it is idle: that of the root, or a dot. -/
def anchor : List (List Char) → Option (List Char) × List (List Char)
  | first :: second :: rest =>
    if isIdle first then (some first, second :: rest) else (none, first :: second :: rest)
  | [first] => if first == ['.'] then (some first, []) else (none, [first])
  | [] => (none, [])

/-- The path of the directory that a path lies in; the root lies in none. -/
def parent? (path : String) : Option String :=
  let (start, body) := anchor (segments path.toList)
  match dropIdle body.reverse, start with
  | [], some [] => none
  | [], some _ => some ""
  | [], none => none
  | _ :: above, start =>
    match start, (dropIdle above).reverse with
    | none, body => some (join body)
    | some [], [] => some "/"
    | some first, body => some (join (first :: body))

/-- A name inside of a directory. -/
def child (directory name : String) : String :=
  if directory.isEmpty || directory.toList.getLast? == some '/' then directory ++ name
  else directory ++ "/" ++ name

/-- The last segment, if it names something. -/
def fileName? (path : String) : Option (List Char) :=
  let (_, body) := anchor (segments path.toList)
  match dropIdle body.reverse with
  | [] => none
  | name :: _ => if name == ['.', '.'] then none else some name

/-- What stands after the last dot of the name, if something stands before it. -/
def extension? (path : String) : Option String := do
  let name ← fileName? path
  let (after, before) := name.reverse.span (· != '.')
  match before with
  | _ :: _ :: _ => some (String.ofList after.reverse)
  | _ => none

end CodeBehind.Command.Path
