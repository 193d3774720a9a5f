import CodeBehind.Lowering.Error
import CodeBehind.Lowering.Log
import CodeBehind.Writer

/-!
# Scripts of writer instructions

A lowering is a list of steps: instructions to a writer, entries of the log, and failures.  Carrying
it out stops at the first failure, or when the sink turns a text down; what was written before stays
written.  Joining two lists of steps is carrying out one after the other, so a lowering is put
together from its parts by `++`.
-/

namespace CodeBehind.Lowering

inductive Step where
  | write (instruction : Instruction)
  | log (entry : Entry)
  | fail (error : Error)
deriving DecidableEq, Inhabited

abbrev Script := List Step

namespace Step

/-! ## Single steps -/

def code (text : String) : Step := write (.code text)
def verbatim (text : String) : Step := write (.verbatim text)
def terminator : Step := write .terminator
def breakLine : Step := write .breakLine
def endLine : Step := write .endLine
def blankLine : Step := write .blankLine
def openLine (depth : Nat) : Step := write (.openLine depth)
def separate : Step := write .separate
def markComment : Step := write .markComment

/-- An entry that nothing in the same script encloses. -/
def note (event : Event) : Step := log { depth := 0, event }

/-- Puts an entry of the log one level deeper. -/
def deepen : Step → Step
  | log entry => log entry.deepen
  | step => step

end Step

namespace Script

/-- An entry of the log with a script that it encloses. -/
def within (event : Event) (script : Script) : Script :=
  Step.note event :: script.map Step.deepen

/-- Goes on with a value, or fails. -/
def whenOk {α : Type} (value : Except Error α) (next : α → Script) : Script :=
  match value with
  | .ok a => next a
  | .error error => [.fail error]

/-- The first failure, which ends the script. -/
def failure : Script → Option Error
  | [] => none
  | .fail error :: _ => some error
  | _ :: rest => failure rest

/-- The entries of the log before the first failure. -/
def entries : Script → List Entry
  | [] => []
  | .fail _ :: _ => []
  | .log entry :: rest => entry :: entries rest
  | .write _ :: rest => entries rest

/-- Carries out the steps up to the first failure. -/
def run {σ : Type} (out : Sink σ) (layout : Layout) :
    Script → Writer σ → Except Error Unit × Writer σ
  | [], w => (.ok (), w)
  | .fail error :: _, w => (.error error, w)
  | .log _ :: rest, w => run out layout rest w
  | .write instruction :: rest, w =>
    match instruction.perform out layout w with
    | (true, w) => run out layout rest w
    | (false, w) => (.error .sink, w)

end Script

end CodeBehind.Lowering
