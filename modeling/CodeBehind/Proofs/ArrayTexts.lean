import CodeBehind.Json.Reader
import Mathlib.Data.List.TakeWhile

/-!
# Texts of arrays of strings

Many texts spell the same array of strings.  There may be spaces around its brackets, strings and
commas, and a character inside of a string stands for itself or is written as an escape: of one
letter, of its code unit, or of the two code units that it has beyond the first plane.  All these
texts are read alike, and the text without spaces that a value is written as is one of them.
-/

namespace CodeBehind.Json

/-! ## Spellings of a character -/

/-- A hexadecimal digit, in lower or upper case. -/
def HexDigit (n : Nat) (c : Char) : Prop :=
  n < 16 ∧ (c = Nat.digitChar n ∨ c = (Nat.digitChar n).toUpper)

/-- The escape of a code unit by its four digits. -/
def UnitSpelling (unit : Nat) (cs : List Char) : Prop :=
  ∃ k l m n a b c d, HexDigit k a ∧ HexDigit l b ∧ HexDigit m c ∧ HexDigit n d ∧
    unit = ((k * 16 + l) * 16 + m) * 16 + n ∧ cs = ['\x5c', 'u', a, b, c, d]

/-- The letters of escapes, with the characters that they stand for. -/
def letterEscapes : List (Char × Char) :=
  [('\x22', '\x22'), ('\x5c', '\x5c'), ('/', '/'), ('b', '\x08'), ('f', '\x0c'), ('n', '\n'),
   ('r', '\r'), ('t', '\t')]

/-- How a character can be written inside of a string. -/
inductive CharSpelling (c : Char) : List Char → Prop where
  | self (hcontrol : 0x20 ≤ c.toNat) (hquote : c ≠ '\x22') (hbackslash : c ≠ '\x5c') :
      CharSpelling c [c]
  | letter {letter : Char} (h : (letter, c) ∈ letterEscapes) : CharSpelling c ['\x5c', letter]
  | unit {cs : List Char} (h : UnitSpelling c.toNat cs) : CharSpelling c cs
  | pair {high low : Nat} {first second : List Char} (hhigh : high < 0x400) (hlow : low < 0x400)
      (hc : c.toNat = 0x10000 + high * 0x400 + low) (hfirst : UnitSpelling (0xD800 + high) first)
      (hsecond : UnitSpelling (0xDC00 + low) second) : CharSpelling c (first ++ second)

/-- What can stand between the quotes of a string. -/
inductive Inside : List Char → List Char → Prop where
  | nil : Inside [] []
  | cons {c : Char} {text spelled rest : List Char} (hc : CharSpelling c spelled)
      (hrest : Inside text rest) : Inside (c :: text) (spelled ++ rest)

/-! ## Spellings of an array -/

/-- Nothing but the characters that may stand between the parts of a document. -/
def Spaces (cs : List Char) : Prop :=
  ∀ c ∈ cs, c ∈ [' ', '\n', '\t', '\r']

instance (cs : List Char) : Decidable (Spaces cs) :=
  List.decidableBAll (· ∈ [' ', '\n', '\t', '\r']) cs

/-- A string with spaces around it. -/
def StringSpelling (text : String) (cs : List Char) : Prop :=
  ∃ before inside after, Spaces before ∧ Inside text.toList inside ∧ Spaces after ∧
    cs = before ++ '\x22' :: (inside ++ '\x22' :: after)

/-- Strings with commas between them. -/
inductive ItemsSpelling : List String → List Char → Prop where
  | last {text : String} {cs : List Char} (h : StringSpelling text cs) : ItemsSpelling [text] cs
  | cons {text : String} {cs rest : List Char} {texts : List String} (h : StringSpelling text cs)
      (hrest : ItemsSpelling texts rest) : ItemsSpelling (text :: texts) (cs ++ ',' :: rest)

/-- An array of strings with spaces around it. -/
inductive ArraySpelling : List String → List Char → Prop where
  | empty {before inside after : List Char} (hbefore : Spaces before) (hinside : Spaces inside)
      (hafter : Spaces after) : ArraySpelling [] (before ++ '[' :: (inside ++ ']' :: after))
  | items {before inside after : List Char} {texts : List String} (hbefore : Spaces before)
      (hinside : ItemsSpelling texts inside) (hafter : Spaces after) :
      ArraySpelling texts (before ++ '[' :: (inside ++ ']' :: after))

/-! ## Reading a character -/

namespace Doc

theorem hexDigit?_eq {n : Nat} {c : Char} (h : HexDigit n c) : hexDigit? c = some n := by
  have hdigits : ∀ n < 16, hexDigit? (Nat.digitChar n) = some n ∧
      hexDigit? (Nat.digitChar n).toUpper = some n := by decide
  obtain ⟨hn, rfl | rfl⟩ := h
  · exact (hdigits n hn).1
  · exact (hdigits n hn).2

/-- The escape of a code unit is one piece. -/
theorem scanPieces_unit {unit : Nat} {cs : List Char} (h : UnitSpelling unit cs)
    (rest : List Char) :
    scanPieces (cs ++ rest) = (.unit unit :: (scanPieces rest).1, (scanPieces rest).2) := by
  obtain ⟨k, l, m, n, a, b, c, d, ha, hb, hc, hd, rfl, rfl⟩ := h
  have hunit : codeUnit? a b c d = some (((k * 16 + l) * 16 + m) * 16 + n) := by
    simp only [codeUnit?, hexDigit?_eq ha, hexDigit?_eq hb, hexDigit?_eq hc, hexDigit?_eq hd]
    rfl
  simp only [List.cons_append, List.nil_append, scanPieces, hunit]

theorem scanPieces_letter {letter c : Char} (h : (letter, c) ∈ letterEscapes)
    (rest : List Char) :
    scanPieces ('\x5c' :: letter :: rest) =
      (.char c :: (scanPieces rest).1, (scanPieces rest).2) := by
  simp only [letterEscapes, List.mem_cons, Prod.mk.injEq, List.not_mem_nil, or_false] at h
  rcases h with ⟨rfl, rfl⟩ | ⟨rfl, rfl⟩ | ⟨rfl, rfl⟩ | ⟨rfl, rfl⟩ | ⟨rfl, rfl⟩ | ⟨rfl, rfl⟩ |
    ⟨rfl, rfl⟩ | ⟨rfl, rfl⟩ <;> rfl

theorem scanPieces_self {c : Char} (hcontrol : 0x20 ≤ c.toNat) (hquote : c ≠ '\x22')
    (hbackslash : c ≠ '\x5c') (rest : List Char) :
    scanPieces (c :: rest) = (.char c :: (scanPieces rest).1, (scanPieces rest).2) := by
  rw [scanPieces, if_neg (Nat.not_lt.mpr hcontrol)]
  all_goals simp_all

/-- A code unit that is no surrogate is a character, whatever the next piece is. -/
theorem joinPieces_unit (c : Char) (pieces : List Piece) :
    joinPieces none (.unit c.toNat :: pieces) = (joinPieces none pieces).map (c :: ·) := by
  have hvalid : c.toNat < 0xD800 ∨ 0xDFFF < c.toNat ∧ c.toNat < 0x110000 := c.valid
  have hlow : isLowSurrogate c.toNat = false := by
    simp only [isLowSurrogate, Bool.and_eq_false_iff, decide_eq_false_iff_not]
    omega
  have hhigh : isHighSurrogate c.toNat = false := by
    simp only [isHighSurrogate, Bool.and_eq_false_iff, decide_eq_false_iff_not]
    omega
  rcases pieces with _ | ⟨d | unit, rest⟩
  all_goals simp [joinPieces, hlow, hhigh, Char.ofNat_toNat]

theorem joinPieces_pair {c : Char} {high low : Nat} (hhigh : high < 0x400) (hlow : low < 0x400)
    (hc : c.toNat = 0x10000 + high * 0x400 + low) (pieces : List Piece) :
    joinPieces none (.unit (0xD800 + high) :: .unit (0xDC00 + low) :: pieces) =
      (joinPieces none pieces).map (c :: ·) := by
  have hfirst : isLowSurrogate (0xD800 + high) = false := by
    simp only [isLowSurrogate, Bool.and_eq_false_iff, decide_eq_false_iff_not]
    omega
  have hleading : isHighSurrogate (0xD800 + high) = true := by
    simp only [isHighSurrogate, Bool.and_eq_true, decide_eq_true_eq]
    omega
  have hsecond : isLowSurrogate (0xDC00 + low) = true := by
    simp only [isLowSurrogate, Bool.and_eq_true, decide_eq_true_eq]
    omega
  have hvalue : (0xD800 + high - 0xD800) * 1024 + (0xDC00 + low - 0xDC00) + 0x10000 =
      c.toNat := by omega
  simp only [joinPieces, hfirst, hleading, hsecond, hvalue, Char.ofNat_toNat]
  rfl

/-- However a character is written, its pieces are read as that character. -/
theorem exists_pieces {c : Char} {spelled : List Char} (h : CharSpelling c spelled) :
    ∃ first : List Piece,
      (∀ rest, scanPieces (spelled ++ rest) =
        (first ++ (scanPieces rest).1, (scanPieces rest).2)) ∧
      ∀ pieces, joinPieces none (first ++ pieces) = (joinPieces none pieces).map (c :: ·) := by
  cases h with
  | self hcontrol hquote hbackslash =>
    exact ⟨[.char c], scanPieces_self hcontrol hquote hbackslash, fun _ ↦ rfl⟩
  | letter hletter => exact ⟨[.char c], scanPieces_letter hletter, fun _ ↦ rfl⟩
  | unit hunit => exact ⟨[.unit c.toNat], scanPieces_unit hunit, joinPieces_unit c⟩
  | @pair high low first second hhigh hlow hc hfirst hsecond =>
    refine ⟨[.unit (0xD800 + high), .unit (0xDC00 + low)], fun rest ↦ ?_,
      joinPieces_pair hhigh hlow hc⟩
    rw [List.append_assoc, scanPieces_unit hfirst, scanPieces_unit hsecond]
    rfl

/-! ## Reading strings and arrays -/

theorem scanString_inside {text inside : List Char} (h : Inside text inside) (rest : List Char) :
    scanString (inside ++ '\x22' :: rest) = (.string (String.ofList text), some rest) := by
  have hpieces : ∃ pieces, scanPieces (inside ++ '\x22' :: rest) = (pieces, .ok rest) ∧
      joinPieces none pieces = .ok text := by
    induction h with
    | nil => exact ⟨[], rfl, rfl⟩
    | cons hc hrest ih =>
      obtain ⟨pieces, hscan, hjoin⟩ := ih
      obtain ⟨first, hfirst, hchar⟩ := exists_pieces hc
      refine ⟨first ++ pieces, ?_, ?_⟩
      · rw [List.append_assoc, hfirst, hscan]
      · rw [hchar, hjoin]
        rfl
  obtain ⟨pieces, hscan, hjoin⟩ := hpieces
  simp only [scanString, hscan, hjoin]

theorem isSpace_of_spaces {cs : List Char} (h : Spaces cs) : ∀ c ∈ cs, isSpace c = true := by
  have hspaces : ∀ c ∈ [' ', '\n', '\t', '\r'], isSpace c = true :=
    List.all_eq_true.mp (by decide)
  exact fun c hc ↦ hspaces c (h c hc)

theorem skipSpace_append {before : List Char} (h : Spaces before) {c : Char}
    (hc : isSpace c = false) (rest : List Char) :
    skipSpace (before ++ c :: rest) = c :: rest := by
  rw [skipSpace, List.dropWhile_append_of_pos (isSpace_of_spaces h),
    List.dropWhile_cons_of_neg (by simp [hc])]

theorem skipSpace_of_spaces {cs : List Char} (h : Spaces cs) : skipSpace cs = [] :=
  List.dropWhile_eq_nil_iff.mpr (isSpace_of_spaces h)

/-- A string is read up to the spaces behind it. -/
theorem scanValue_string {text : String} {cs : List Char} (h : StringSpelling text cs) :
    ∃ after, Spaces after ∧ ∀ fuel rest,
      scanValue (fuel + 1) (cs ++ rest) = (.string text, some (after ++ rest)) := by
  obtain ⟨before, inside, after, hbefore, hinside, hafter, rfl⟩ := h
  refine ⟨after, hafter, fun fuel rest ↦ ?_⟩
  have hcut : before ++ '\x22' :: (inside ++ '\x22' :: after) ++ rest =
      before ++ '\x22' :: (inside ++ '\x22' :: (after ++ rest)) := by simp
  rw [hcut, scanValue, skipSpace_append hbefore rfl]
  simp only [scanString_inside hinside, String.ofList_toList]

theorem exists_skipSpace_string {text : String} {cs : List Char} (h : StringSpelling text cs)
    (rest : List Char) : ∃ more, skipSpace (cs ++ rest) = '\x22' :: more := by
  obtain ⟨before, inside, after, hbefore, _, _, rfl⟩ := h
  rw [List.append_assoc, List.cons_append, skipSpace_append hbefore rfl]
  exact ⟨_, rfl⟩

theorem exists_skipSpace_items {texts : List String} {cs : List Char}
    (h : ItemsSpelling texts cs) (rest : List Char) :
    ∃ more, skipSpace (cs ++ rest) = '\x22' :: more := by
  cases h with
  | last hstring => exact exists_skipSpace_string hstring rest
  | cons hstring hrest =>
    rw [List.append_assoc]
    exact exists_skipSpace_string hstring _

/-- Strings are read up to the closing bracket. -/
theorem scanItems_strings {texts : List String} {cs : List Char} (h : ItemsSpelling texts cs)
    {fuel : Nat} (hfuel : texts.length < fuel) (rest : List Char) :
    scanItems fuel (cs ++ ']' :: rest) = ((texts.map .string, none), some rest) := by
  induction h generalizing fuel with
  | @last text cs hstring =>
    obtain ⟨fuel, rfl⟩ : ∃ n, fuel = n + 2 := ⟨fuel - 2, by simp at hfuel; omega⟩
    obtain ⟨after, hafter, hscan⟩ := scanValue_string hstring
    simp only [scanItems, hscan, skipSpace_append hafter (c := ']') rfl]
    rfl
  | @cons text cs more texts hstring hrest ih =>
    obtain ⟨fuel, rfl⟩ : ∃ n, fuel = n + 2 := ⟨fuel - 2, by simp at hfuel; omega⟩
    obtain ⟨after, hafter, hscan⟩ := scanValue_string hstring
    obtain ⟨next, hnext⟩ := exists_skipSpace_items hrest (']' :: rest)
    have hothers := @ih (fuel + 1) (by simpa using hfuel)
    rw [List.append_assoc, List.cons_append, scanItems, hscan]
    simp only [skipSpace_append hafter (c := ',') rfl, hnext, hothers]
    rfl

/-- Each string takes at least its two quotes. -/
theorem length_le_of_items {texts : List String} {cs : List Char} (h : ItemsSpelling texts cs) :
    texts.length ≤ cs.length := by
  have hstring {text : String} {cs : List Char} (h : StringSpelling text cs) :
      1 ≤ cs.length := by
    obtain ⟨before, inside, after, _, _, _, rfl⟩ := h
    simp
    omega
  induction h with
  | last h => exact hstring h
  | cons h _ ih =>
    have hlength := hstring h
    simp
    omega

/-- The document of an array of strings, however it is spelled. -/
theorem ofText_strings {texts : List String} {text : String}
    (h : ArraySpelling texts text.toList) :
    ofText text = (.array (texts.map .string) none, none) := by
  have hscan : ∃ after, Spaces after ∧ scanValue (2 * text.toList.length + 2) text.toList =
      (.array (texts.map .string) none, some after) := by
    generalize hcs : text.toList = cs at h
    cases h with
    | @empty before inside after hbefore hinside hafter =>
      refine ⟨after, hafter, ?_⟩
      rw [scanValue, skipSpace_append hbefore rfl]
      simp only [skipSpace_append hinside (c := ']') rfl]
      rfl
    | @items before inside after texts hbefore hinside hafter =>
      refine ⟨after, hafter, ?_⟩
      obtain ⟨more, hmore⟩ := exists_skipSpace_items hinside (']' :: after)
      have hlength := length_le_of_items hinside
      have hfuel : texts.length < 2 * (before ++ '[' :: (inside ++ ']' :: after)).length + 1 := by
        simp
        omega
      have hitems := scanItems_strings hinside hfuel after
      rw [scanValue, skipSpace_append hbefore rfl]
      simp only [hmore, hitems]
      rfl
  obtain ⟨after, hafter, hscan⟩ := hscan
  simp only [ofText, hscan, skipSpace_of_spaces hafter]
  rfl

end Doc

theorem Reader.readItems_strings (origin : Origin) (texts : List String) :
    readItems string origin (texts.map .string) = .ok texts := by
  induction texts with
  | nil => rfl
  | cons first rest ih =>
    rw [List.map_cons, readItems, ih]
    rfl

/-- An array of strings is read as its strings, however it is spelled. -/
theorem Reader.ofText_strings {texts : List String} {text : String}
    (h : ArraySpelling texts text.toList) : (list string).ofText text = .ok texts := by
  unfold ofText
  rw [Doc.ofText_strings h]
  change (readItems string _ _ >>= _) >>= _ = _
  rw [readItems_strings]
  rfl

/-! ## The text of a value -/

namespace Value

theorem charSpelling_escapedChar (c : Char) : CharSpelling c (escapedChar c) := by
  have hletter {letter d : Char} (hd : (c == d) = true) (h : (letter, d) ∈ letterEscapes) :
      CharSpelling c ['\x5c', letter] := by
    obtain rfl := eq_of_beq hd
    exact .letter h
  have hdigit {n : Nat} (hn : n < 16) : HexDigit n (Nat.digitChar n) := ⟨hn, .inl rfl⟩
  unfold escapedChar
  split_ifs with hquote hbackslash hbackspace htab hfeed hform hreturn hcontrol
  · exact hletter hquote (by decide)
  · exact hletter hbackslash (by decide)
  · exact hletter hbackspace (by decide)
  · exact hletter htab (by decide)
  · exact hletter hfeed (by decide)
  · exact hletter hform (by decide)
  · exact hletter hreturn (by decide)
  · refine .unit ⟨0, 0, c.toNat / 16, c.toNat % 16, '0', '0', _, _, hdigit (by decide),
      hdigit (by decide), hdigit (by omega), hdigit (by omega), by omega, rfl⟩
  · exact .self (Nat.le_of_not_lt hcontrol) (by simpa using hquote) (by simpa using hbackslash)

theorem inside_flatMap_escapedChar (text : List Char) : Inside text (text.flatMap escapedChar) := by
  induction text with
  | nil => exact .nil
  | cons c rest ih =>
    rw [List.flatMap_cons]
    exact .cons (charSpelling_escapedChar c) ih

theorem stringSpelling_renderString (text : String) :
    StringSpelling text (renderString text).toList := by
  refine ⟨[], text.toList.flatMap escapedChar, [], nofun, inside_flatMap_escapedChar _, nofun, ?_⟩
  simp [renderString]

/-- The text of an array of strings, without spaces, is one of its spellings. -/
theorem arraySpelling_render (texts : List String) :
    ArraySpelling texts (array (texts.map .string)).render.toList := by
  have hitems (texts : List String) : renderItems (texts.map .string) = texts.map renderString := by
    induction texts with
    | nil => rfl
    | cons first rest ih => rw [List.map_cons, renderItems, ih, render, List.map_cons]
  have hinside (first : String) (rest : List String) :
      ItemsSpelling (first :: rest)
        (",".intercalate ((first :: rest).map renderString)).toList := by
    induction rest generalizing first with
    | nil =>
      rw [List.map_singleton, String.intercalate_singleton]
      exact .last (stringSpelling_renderString first)
    | cons next others ih =>
      rw [List.map_cons, List.map_cons, String.intercalate_cons_cons, ← List.map_cons,
        String.append_assoc, String.toList_append, String.toList_append]
      exact .cons (stringSpelling_renderString first) (ih next)
  rw [render, hitems, String.toList_append, String.toList_append]
  cases texts with
  | nil => exact @ArraySpelling.empty [] [] [] nofun nofun nofun
  | cons first rest =>
    have h := @ArraySpelling.items [] _ [] _ nofun (hinside first rest) nofun
    simpa using h

end Value

end CodeBehind.Json
