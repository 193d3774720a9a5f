import CodeBehind.Lowering.Declaration

/-!
# Emitting a script

The script of a whole code-behind file, as a text.
-/

namespace CodeBehind

open Lowering

/-- A writer to an empty text. -/
def Writer.empty : Writer String where
  sink := ""

/-- The generated script, or why there is none. -/
def emit (unit : Source.CompilationUnit) (names : NodeNames) (options : Options) :
    Except Lowering.Error String :=
  match (lowerUnit names options unit).run .unbounded options.toLayout .empty with
  | (.ok (), w) => .ok w.sink
  | (.error error, _) => .error error

/-- The log of emitting the script. -/
def emitLog (unit : Source.CompilationUnit) (names : NodeNames) (options : Options) :
    List Lowering.Entry :=
  (lowerUnit names options unit).entries

end CodeBehind
