import CodeBehind.Command.Path

/-!
# Files

What a run needs of a file system: to ask whether there is a file, to read a text and to write one.
`Store` is a file system in memory, with directories from the root on, links, and a process that may
be refused to read, to write or to go through a directory.
-/

namespace CodeBehind.Command

/-- Why a file cannot be read or written. -/
inductive FileFault where
  | notFound
  /-- The process may not do what it asks for. -/
  | refused
  | notDirectory
  | isDirectory
  /-- The links of a path lead to more and more links. -/
  | tooManyLinks
  /-- The bytes are no text. -/
  | notText
  /-- The path has a character that no path can have. -/
  | badPath
  /-- Any other cause, in the words of the system. -/
  | other (message : String)
deriving DecidableEq, Inhabited

def FileFault.message : FileFault → String
  | notFound => "No such file or directory (os error 2)"
  | refused => "Permission denied (os error 13)"
  | notDirectory => "Not a directory (os error 20)"
  | isDirectory => "Is a directory (os error 21)"
  | tooManyLinks => "Too many levels of symbolic links (os error 40)"
  | notText => "stream did not contain valid UTF-8"
  | badPath => "file name contained an unexpected NUL byte"
  | other message => message

/-- Access to files by their paths. -/
structure FileSystem (m : Type → Type) where
  isFile : String → m Bool
  read : String → m (Except FileFault String)
  write : String → String → m (Except FileFault Unit)

/-! ## Files in memory -/

/-- What has a name in a directory. -/
inductive Node where
  | file (bytes : ByteArray)
  | directory
  /-- A path to go on with, from the directory that the link is in. -/
  | link (target : String)
deriving Inhabited

/-- What a process may do with a file or a directory. -/
inductive Right where
  | read
  /-- To change a file, or to put a new file into a directory. -/
  | write
  /-- To go through a directory to what is in it. -/
  | search
deriving DecidableEq, Inhabited

/-- Files, directories and links by their names from the root on. -/
structure Store where
  nodes : List (List String × Node) := []
  /-- Where paths start that do not start at the root. -/
  workingDirectory : List String := []
  /-- What the process may not do, and with what. -/
  refusals : List (Right × List String) := []
deriving Inhabited

namespace Store

/-- What has the names; the directories around it come into being with it. -/
def lookup (store : Store) (names : List String) : Option Node :=
  match store.nodes.find? (·.1 == names) with
  | some (_, node) => some node
  | none =>
    if names.isPrefixOf store.workingDirectory ||
        store.nodes.any (fun (other, _) ↦ names.isPrefixOf other) then
      some .directory
    else none

def allows (store : Store) (right : Right) (names : List String) : Bool :=
  !store.refusals.contains (right, names)

/-- Where a path leads. -/
inductive Place where
  | file (names : List String) (bytes : ByteArray)
  | directory (names : List String)
  /-- A name that is free, in a directory that exists. -/
  | free (names : List String)
  /-- A name with a slash behind it, that is free or has a file and no directory. -/
  | slashed (isFile : Bool)
  | nowhere (fault : FileFault)
deriving Inhabited

/-- The end of a path, for a name that has a file or nothing. -/
def Place.closed (names : List String) (bytes : Option ByteArray) (rest : List String) : Place :=
  match rest, bytes with
  | [], some bytes => .file names bytes
  | [], none => .free names
  | rest, bytes =>
    if rest.all String.isEmpty then .slashed bytes.isSome
    else .nowhere (if bytes.isSome then .notDirectory else .notFound)

/-- How far segments lead through directories: to a place, or to a link in a directory and the
segments behind it. -/
inductive Walk where
  | done (place : Place)
  | link (names : List String) (target : String) (rest : List String)

/-- What a segment does to a walk. -/
inductive Step where
  /-- The walk goes on from a directory. -/
  | into (names : List String)
  | ends (walk : Walk)

/-- The step from a directory along a segment, with the segments behind it. -/
def step (store : Store) (names : List String) (segment : String) (rest : List String) : Step :=
  if segment == "" then .into names
  else if !store.allows .search names then .ends (.done (.nowhere .refused))
  else if segment == "." then .into names
  else if segment == ".." then .into names.dropLast
  else
    match store.lookup (names ++ [segment]) with
    | some .directory => .into (names ++ [segment])
    | some (.link target) => .ends (.link names target rest)
    | some (.file bytes) => .ends (.done (.closed (names ++ [segment]) (some bytes) rest))
    | none => .ends (.done (.closed (names ++ [segment]) none rest))

/-- Goes through directories along segments. -/
def walk (store : Store) (names : List String) : List String → Walk
  | [] => .done (.directory names)
  | segment :: rest =>
    match store.step names segment rest with
    | .into inner => store.walk inner rest
    | .ends walk => walk

/-- Where a path starts that is used in a directory. -/
def start (names : List String) (path : String) : List String :=
  if path.toList.head? = some '/' then [] else names

def segments (path : String) : List String :=
  (Path.segments path.toList).map String.ofList

/-- Follows segments from a directory, through a number of links at most. -/
def follow (store : Store) (links : Nat) (names rest : List String) : Place :=
  match store.walk names rest with
  | .done place => place
  | .link around target behind =>
    match links with
    | 0 => .nowhere .tooManyLinks
    | links + 1 => store.follow links (start around target) (segments target ++ behind)

/-- Number of links that a path may go through. -/
def maxLinks : Nat := 40

def locate (store : Store) (path : String) : Place :=
  if path.toList.contains '\x00' then .nowhere .badPath
  else if path.isEmpty then .nowhere .notFound
  else store.follow maxLinks (start store.workingDirectory path) (segments path)

def isFile (store : Store) (path : String) : Bool :=
  match store.locate path with
  | .file _ _ => true
  | _ => false

/-- The text of a file. -/
def read (store : Store) (path : String) : Except FileFault String :=
  match store.locate path with
  | .file names bytes =>
    if store.allows .read names then
      match String.fromUTF8? bytes with
      | some text => .ok text
      | none => .error .notText
    else .error .refused
  | .directory names => .error (if store.allows .read names then .isDirectory else .refused)
  | .free _ => .error .notFound
  | .slashed isFile => .error (if isFile then .notDirectory else .notFound)
  | .nowhere fault => .error fault

/-- Puts a file in place of what has its names, or adds it. -/
def put (store : Store) (names : List String) (node : Node) : Store :=
  if store.nodes.any (·.1 == names) then
    { store with
      nodes := store.nodes.map fun entry ↦ if entry.1 == names then (names, node) else entry }
  else { store with nodes := store.nodes ++ [(names, node)] }

/-- Writes a text to a file, which need not exist. -/
def write (store : Store) (path text : String) : Except FileFault Store :=
  match store.locate path with
  | .file names _ =>
    if store.allows .write names then .ok (store.put names (.file text.toUTF8))
    else .error .refused
  | .free names =>
    if store.allows .write names.dropLast then .ok (store.put names (.file text.toUTF8))
    else .error .refused
  | .directory _ | .slashed _ => .error .isDirectory
  | .nowhere fault => .error fault

/-- The store as a file system of computations that change it. -/
def fileSystem : FileSystem (StateM Store) where
  isFile path := fun store ↦ (store.isFile path, store)
  read path := fun store ↦ (store.read path, store)
  write path text := fun store ↦
    match store.write path text with
    | .ok changed => (.ok (), changed)
    | .error fault => (.error fault, store)

end Store

end CodeBehind.Command
