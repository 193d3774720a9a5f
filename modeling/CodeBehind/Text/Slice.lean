/-!
# Cutting a text at byte offsets

A text is measured in the bytes of its UTF-8 form.  An offset is usable only when it falls
between two characters, so cutting there is partial.
-/

namespace CodeBehind.Text

/-- Number of bytes of the UTF-8 form. -/
def byteCount : List Char → Nat
  | [] => 0
  | c :: cs => c.utf8Size + byteCount cs

/-- The text before and after a byte offset, if the offset falls between two characters. -/
def cut? : List Char → Nat → Option (List Char × List Char)
  | cs, 0 => some ([], cs)
  | [], _ + 1 => none
  | c :: cs, offset + 1 =>
    if c.utf8Size ≤ offset + 1 then
      (cut? cs (offset + 1 - c.utf8Size)).map fun (before, rest) ↦ (c :: before, rest)
    else none

/-- The text from one byte offset up to another. -/
def slice? (cs : List Char) (start stop : Nat) : Option (List Char) := do
  let (before, _) ← cut? cs stop
  let (_, middle) ← cut? before start
  pure middle

/-- The longest beginning of a text that has at most the given number of bytes. -/
def fitting : List Char → Nat → List Char
  | [], _ => []
  | c :: cs, room => if c.utf8Size ≤ room then c :: fitting cs (room - c.utf8Size) else []

@[simp]
theorem byteCount_append (xs ys : List Char) :
    byteCount (xs ++ ys) = byteCount xs + byteCount ys := by
  induction xs with
  | nil => simp [byteCount]
  | cons c cs ih => simp [byteCount, ih, Nat.add_assoc]

/-- A text can be cut where its first part ends. -/
theorem cut?_append (xs ys : List Char) : cut? (xs ++ ys) (byteCount xs) = some (xs, ys) := by
  induction xs with
  | nil => simp [byteCount, cut?]
  | cons c cs ih =>
    have hc : 0 < c.utf8Size := Char.utf8Size_pos c
    have hsize : byteCount (c :: cs) = c.utf8Size + byteCount cs := rfl
    obtain ⟨k, hk⟩ : ∃ k, byteCount (c :: cs) = k + 1 := ⟨byteCount (c :: cs) - 1, by omega⟩
    have hle : c.utf8Size ≤ k + 1 := by omega
    have hrest : k + 1 - c.utf8Size = byteCount cs := by omega
    rw [hk, List.cons_append, cut?, if_pos hle, hrest, ih]
    rfl

end CodeBehind.Text
