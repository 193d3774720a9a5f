/-!
# Blanks and line breaks

Blanks are the characters with the Unicode property `White_Space`.  Line breaks are the two
characters that end a line of a source text, and four characters end a line of a script.
Trimming removes blanks from the ends of a text and nothing else.
-/

namespace CodeBehind.Text

/-- The blanks: every character with the Unicode property `White_Space`. -/
def isBlank (c : Char) : Bool :=
  let n := c.toNat
  (9 ≤ n && n ≤ 13) || n == 0x20 || n == 0x85 || n == 0xA0 || n == 0x1680 ||
    (0x2000 ≤ n && n ≤ 0x200A) || n == 0x2028 || n == 0x2029 || n == 0x202F ||
    n == 0x205F || n == 0x3000

/-- The two characters that break a line of source text. -/
def isBreak (c : Char) : Bool :=
  c == '\n' || c == '\r'

/-- The four characters that end a line comment of a script. -/
def isLineTerminator (c : Char) : Bool :=
  isBreak c || c == '\u2028' || c == '\u2029'

def trimStart (cs : List Char) : List Char :=
  cs.dropWhile isBlank

def trimEnd (cs : List Char) : List Char :=
  (cs.reverse.dropWhile isBlank).reverse

def trim (cs : List Char) : List Char :=
  trimEnd (trimStart cs)

/-- The characters that are not blank, in order. -/
def inked (cs : List Char) : List Char :=
  cs.filter (!isBlank ·)

@[simp]
theorem inked_append (xs ys : List Char) : inked (xs ++ ys) = inked xs ++ inked ys :=
  List.filter_append xs ys

/-- A line break is a blank. -/
theorem isBlank_of_isBreak {c : Char} (h : isBreak c = true) : isBlank c = true := by
  simp only [isBreak, Bool.or_eq_true, beq_iff_eq] at h
  rcases h with rfl | rfl <;> decide

end CodeBehind.Text
