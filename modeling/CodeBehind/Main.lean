import CodeBehind.Command.Run

/-!
# The program

The command on the files of the system, with its log on the standard error output.
-/

namespace CodeBehind.Program

open Command

/-- The fault that the system reports by its number. -/
def faultOf : IO.Error → FileFault
  | .noFileOrDirectory _ _ _ => .notFound
  | .permissionDenied _ 13 _ => .refused
  | .inappropriateType _ 20 _ => .notDirectory
  | .inappropriateType _ 21 _ => .isDirectory
  | .invalidArgument _ 40 _ => .tooManyLinks
  | error => .other error.toString

/-- Whether a path that may not be read is that of a file: nothing can be below a file, and a
directory either shows what is below it or refuses that too. -/
def hasNothingBelow (path : String) : IO Bool := do
  try
    let _ ← IO.FS.Handle.mk (path ++ "/.") .read
    pure false
  catch error => pure (faultOf error == .notDirectory)

/-- The files of the system. -/
def systemFiles : FileSystem IO where
  isFile path := do
    try
      let handle ← IO.FS.Handle.mk path .read
      let _ ← handle.read 1
      pure true
    catch error =>
      if faultOf error == .refused then hasNothingBelow path else pure false
  read path := do
    try
      let handle ← IO.FS.Handle.mk path .read
      let bytes ← handle.readBinToEnd
      match String.fromUTF8? bytes with
      | some text => pure (.ok text)
      | none => pure (.error .notText)
    catch error => pure (.error (faultOf error))
  write path text := do
    try
      IO.FS.writeFile path text
      pure (.ok ())
    catch error => pure (.error (faultOf error))

end CodeBehind.Program

def main (arguments : List String) : IO UInt32 := do
  let stderr ← IO.getStderr
  let color ← stderr.isTty
  let filter ← IO.getEnv CodeBehind.Command.logVariable
  let formatName ← IO.getEnv CodeBehind.Command.logFormatVariable
  for line in ← CodeBehind.Command.logLines CodeBehind.Program.systemFiles filter formatName
      arguments do
    IO.eprintln line
  let outcome ← CodeBehind.Command.execute CodeBehind.Program.systemFiles color arguments
  IO.print outcome.stdout
  IO.eprint outcome.stderr
  pure outcome.exitCode.toUInt32
