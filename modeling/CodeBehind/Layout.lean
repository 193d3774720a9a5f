/-!
# Layout of generated lines

Generated lines are indented by a unit per level and ended by one kind of line break.  Trivia keeps
the breaks and blanks that it has.
-/

namespace CodeBehind

/-- The break at the end of a generated line. -/
inductive LineBreak where
  | lf
  | crlf
deriving DecidableEq, Inhabited

def LineBreak.text : LineBreak → String
  | lf => "\n"
  | crlf => "\r\n"

/-- The unit of indentation. -/
inductive Indent where
  | tab
  | spaces (width : UInt8)
deriving DecidableEq, Inhabited

namespace Indent

/-- The characters of one level. -/
def unit : Indent → List Char
  | tab => ['\t']
  | spaces width => List.replicate width.toNat ' '

/-- The indentation of the given number of levels. -/
def text (indent : Indent) (depth : Nat) : String :=
  String.ofList (List.replicate depth indent.unit).flatten

theorem eq_of_mem_text {indent : Indent} {depth : Nat} {c : Char}
    (h : c ∈ (indent.text depth).toList) : c = '\t' ∨ c = ' ' := by
  rw [text, String.toList_ofList] at h
  obtain ⟨level, hlevel, hc⟩ := List.mem_flatten.mp h
  rw [List.eq_of_mem_replicate hlevel] at hc
  cases indent with
  | tab => exact .inl (List.mem_singleton.mp hc)
  | spaces width => exact .inr (List.eq_of_mem_replicate hc)

end Indent

/-- How generated lines are laid out. -/
structure Layout where
  indent : Indent := .tab
  lineBreak : LineBreak := .lf
deriving DecidableEq, Inhabited

/-- What a caller can choose about the generated script. -/
structure Options extends Layout where
  /-- Whether the two explaining comments are written. -/
  annotate : Bool := true
  /-- The event after which the visual nodes are looked up. -/
  readyEvent : String := "DOMContentLoaded"
deriving DecidableEq, Inhabited

end CodeBehind
