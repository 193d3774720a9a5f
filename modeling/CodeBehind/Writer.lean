import CodeBehind.Layout
import CodeBehind.Text.Blank
import CodeBehind.Text.Slice

/-!
# Writing to a sink

A writer hands texts to a sink that may turn them down.  It remembers three things about what the
sink took: whether it stands at the start of a line, the last character, and whether a line comment
was marked as open on the current line.  A text that is turned down changes none of them, and an
empty text is not handed over at all.
-/

namespace CodeBehind

/-- A receiver of texts: `put` says whether it takes a text and what becomes of it. -/
structure Sink (σ : Type) where
  put : σ → String → Bool × σ

namespace Sink

/-- The sink that takes everything. -/
def unbounded : Sink String where
  put taken text := (true, taken ++ text)

/-- What a sink of limited size holds. -/
structure Held where
  text : String := ""
  /-- Whether a text was turned down. -/
  full : Bool := false
deriving DecidableEq, Inhabited

/-- The sink that takes at most `limit` bytes.  Of the first text that does not fit it keeps the
characters that do, and after that it takes nothing. -/
def limited (limit : Nat) : Sink Held where
  put held text :=
    if held.full then (false, held)
    else
      let room := limit - Text.byteCount held.text.toList
      if Text.byteCount text.toList ≤ room then (true, { held with text := held.text ++ text })
      else
        let kept := String.ofList (Text.fitting text.toList room)
        (false, { text := held.text ++ kept, full := true })

end Sink

/-- A sink and what is known of the texts that it took. -/
structure Writer (σ : Type) where
  sink : σ
  atLineStart : Bool := true
  last : Option Char := none
  inComment : Bool := false
deriving DecidableEq, Inhabited

namespace Writer

variable {σ : Type}

/-- Whether the next token needs no space before it. -/
def endsWithSeparator (w : Writer σ) : Bool :=
  match w.last with
  | none => true
  | some c => Text.isBlank c || c == '('

/-- The writer after its sink took a text that ends in `last`. -/
def took (w : Writer σ) (sink : σ) (text : List Char) (last : Char) : Writer σ where
  sink := sink
  atLineStart := Text.isBreak last
  last := some last
  inComment := w.inComment && !text.any Text.isBreak

/-- Hands a text to the sink as it is. -/
def put (out : Sink σ) (text : String) (w : Writer σ) : Bool × Writer σ :=
  match text.toList.getLast? with
  | none => (true, w)
  | some last =>
    match out.put w.sink text with
    | (true, sink) => (true, w.took sink text.toList last)
    | (false, sink) => (false, { w with sink })

/-- Does a second thing if the first was done. -/
def andThen (done : Bool × Writer σ) (next : Writer σ → Bool × Writer σ) : Bool × Writer σ :=
  match done with
  | (true, w) => next w
  | (false, w) => (false, w)

/-- Ends the current line, also an empty one. -/
def breakLine (out : Sink σ) (layout : Layout) (w : Writer σ) : Bool × Writer σ :=
  w.put out layout.lineBreak.text

/-- Ends the current line unless nothing was written on it. -/
def endLine (out : Sink σ) (layout : Layout) (w : Writer σ) : Bool × Writer σ :=
  if w.atLineStart then (true, w) else w.breakLine out layout

/-- Writes code, on a new line if a comment is open on this one. -/
def code (out : Sink σ) (layout : Layout) (text : String) (w : Writer σ) : Bool × Writer σ :=
  if w.inComment && !text.isEmpty then andThen (w.breakLine out layout) (put out text)
  else w.put out text

end Writer

/-- What a writer can be told to do. -/
inductive Instruction where
  /-- Write code, on a new line if a comment is open on this one. -/
  | code (text : String)
  /-- Write a text as it is. -/
  | verbatim (text : String)
  /-- Write a semicolon, also into an open comment. -/
  | terminator
  /-- End the current line, also an empty one. -/
  | breakLine
  /-- End the current line unless nothing was written on it. -/
  | endLine
  /-- End the current line and write an empty one. -/
  | blankLine
  /-- Start an indented line. -/
  | openLine (depth : Nat)
  /-- Write a space unless the text so far ends in a separator. -/
  | separate
  /-- Take note that a line comment is open. -/
  | markComment
deriving DecidableEq, Inhabited

/-- Carries out an instruction, and says whether the sink took all that it wrote. -/
def Instruction.perform {σ : Type} (out : Sink σ) (layout : Layout) (w : Writer σ) :
    Instruction → Bool × Writer σ
  | code text => w.code out layout text
  | verbatim text => w.put out text
  | terminator => w.put out ";"
  | breakLine => w.breakLine out layout
  | endLine => w.endLine out layout
  | blankLine => Writer.andThen (w.endLine out layout) (Writer.breakLine out layout)
  | openLine depth =>
    Writer.andThen (w.endLine out layout) (Writer.put out (layout.indent.text depth))
  | separate => if w.endsWithSeparator then (true, w) else w.code out layout " "
  | markComment => (true, { w with inComment := true })

end CodeBehind
