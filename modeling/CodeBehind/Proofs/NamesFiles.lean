import CodeBehind.Command.Names
import CodeBehind.Proofs.ArrayTexts
import CodeBehind.Proofs.FirstOffender
import CodeBehind.Proofs.MarkedText

/-!
# What a file of names holds

A plain file is read line by line, so the names of two files that are joined at a line feed are
the names of the first and then those of the second.  A list of names has many files: each name
stands on a line with blanks around it, any line may end in a remark, and lines without a name may
stand between the others.  Of a list that can be bound, all of these files hold just the list, and
so do all arrays that spell it.
-/

namespace CodeBehind

namespace Text

/-! ## Trimming behind blanks -/

theorem trimStart_append_of_blank {before : List Char} (h : ∀ c ∈ before, isBlank c = true)
    (cs : List Char) : trimStart (before ++ cs) = trimStart cs :=
  List.dropWhile_append_of_pos h

theorem trimEnd_append_of_blank {after : List Char} (h : ∀ c ∈ after, isBlank c = true)
    (cs : List Char) : trimEnd (cs ++ after) = trimEnd cs := by
  have hreverse : ∀ c ∈ after.reverse, isBlank c = true := by simpa using h
  rw [trimEnd, List.reverse_append, List.dropWhile_append_of_pos hreverse, trimEnd]

theorem trimEnd_eq_self {cs : List Char} (h : ∀ c ∈ cs.getLast?, isBlank c = false) :
    trimEnd cs = cs := by
  have hreverse := @trimStart_eq_self cs.reverse (by simpa using h)
  unfold trimStart at hreverse
  rw [trimEnd, hreverse, List.reverse_reverse]

/-- Blanks at the end make no difference to trimming. -/
theorem trim_append_of_blank {after : List Char} (h : ∀ c ∈ after, isBlank c = true)
    (cs : List Char) : trim (cs ++ after) = trim cs := by
  by_cases hink : inked cs = []
  · have hblank : ∀ c ∈ cs, isBlank c = true := by simpa [inked, List.filter_eq_nil_iff] using hink
    have hall : ∀ c ∈ cs ++ after, isBlank c = true := List.forall_mem_append.mpr ⟨hblank, h⟩
    rw [trim, trim, trimStart, trimStart, List.dropWhile_eq_nil_iff.mpr hblank,
      List.dropWhile_eq_nil_iff.mpr hall]
  · rw [trim, trimStart_append hink, trimEnd_append_of_blank h, trim]

/-- A text that has no blanks is what trimming leaves of it with blanks around it. -/
theorem trim_surrounded {before cs after : List Char} (hbefore : ∀ c ∈ before, isBlank c = true)
    (hcs : ∀ c ∈ cs, isBlank c = false) (hafter : ∀ c ∈ after, isBlank c = true) :
    trim (before ++ cs ++ after) = cs := by
  rw [trim_append_of_blank hafter, trim, trimStart_append_of_blank hbefore,
    trimStart_eq_self fun c hc ↦ hcs c (List.mem_of_mem_head? hc),
    trimEnd_eq_self fun c hc ↦ hcs c (List.mem_of_getLast? hc)]

/-! ## Characters of names -/

/-- The blanks, as ranges of code points. -/
def blanks : Ranges :=
  [(0x09, 0x0D), (0x20, 0x20), (0x85, 0x85), (0xA0, 0xA0), (0x1680, 0x1680), (0x2000, 0x200A),
   (0x2028, 0x2029), (0x202F, 0x202F), (0x205F, 0x205F), (0x3000, 0x3000)]

theorem holds_blanks {c : Char} (h : isBlank c = true) : blanks.Holds c := by
  rw [← Ranges.contains_iff]
  simp only [isBlank, Bool.or_eq_true, Bool.and_eq_true, decide_eq_true_eq, beq_iff_eq] at h
  simp only [Ranges.contains, blanks, List.any_cons, List.any_nil, Bool.or_eq_true,
    Bool.and_eq_true, decide_eq_true_eq, Bool.or_false]
  omega

/-- No range of the one kind meets one of the other. -/
def Ranges.apart (a b : Ranges) : Bool :=
  a.all fun r ↦ b.all fun s ↦ Nat.blt r.2 s.1 || Nat.blt s.2 r.1

theorem Ranges.contains_eq_false {a b : Ranges} (h : a.apart b = true) {c : Char}
    (hb : b.Holds c) : a.contains c = false := by
  rw [← Bool.not_eq_true, contains_iff]
  rintro ⟨r, hr, hfirst, hlast⟩
  obtain ⟨s, hs, hsfirst, hslast⟩ := hb
  have hmiss := List.all_eq_true.mp (List.all_eq_true.mp h r hr) s hs
  simp only [Bool.or_eq_true, Nat.blt_eq] at hmiss
  omega

/-- Neither blanks nor number signs occur in a name. -/
theorem not_mem_name {name : List Char} (h : isIdentifier name = true) {c : Char}
    (hc : isBlank c = true ∨ c = '#') : c ∉ name := by
  have hholds : Ranges.Holds ((0x23, 0x23) :: blanks) c := by
    rcases hc with hblank | rfl
    · obtain ⟨range, hrange, hin⟩ := holds_blanks hblank
      exact ⟨range, List.mem_cons_of_mem _ hrange, hin⟩
    · exact ⟨(0x23, 0x23), List.mem_cons_self, by decide⟩
  have hother {d : Char} (hd : isBlank d = false ∧ d ≠ '#') : c ≠ d := by
    rintro rfl
    exact hc.elim (fun hblank ↦ by simp [hblank] at hd) hd.2
  refine not_mem_of_isIdentifier h ?_ ?_
  · simp only [startsIdentifier, Bool.or_eq_false_iff, beq_eq_false_iff_ne]
    exact ⟨⟨Ranges.contains_eq_false (by decide +kernel) hholds, hother (by decide)⟩,
      hother (by decide)⟩
  · simp only [continuesIdentifier, Bool.or_eq_false_iff, beq_eq_false_iff_ne]
    exact ⟨Ranges.contains_eq_false (by decide +kernel) hholds, hother (by decide)⟩

end Text

namespace Command.Names

open Text

/-! ## Line by line -/

/-- Blanks at the end of a line make no difference to the name on it, whether they stand in a remark
or not. -/
theorem ofLine_append_of_blank {after : List Char} (h : ∀ c ∈ after, isBlank c = true)
    (line : List Char) : ofLine (line ++ after) = ofLine line := by
  unfold ofLine
  rw [List.takeWhile_append]
  split
  next hlength =>
    have hline : line.takeWhile (· != '#') = line := (List.takeWhile_prefix _).eq_of_length hlength
    have hsign : ∀ c ∈ after, (c != '#') = true := by
      intro c hc
      rw [bne_iff_ne]
      rintro rfl
      exact absurd (h _ hc) (by decide)
    rw [hline, List.takeWhile_eq_self_iff.mpr hsign, trim_append_of_blank h]
  next => rfl

theorem ofLine_dropReturn (line : List Char) : ofLine (dropReturn line) = ofLine line := by
  unfold dropReturn
  split
  next hlast =>
    have hline : line.dropLast ++ ['\r'] = line := List.dropLast_append_getLast? '\r' hlast
    have hblank : ∀ c ∈ ['\r'], isBlank c = true := List.all_eq_true.mp (by decide)
    conv_rhs => rw [← hline, ofLine_append_of_blank hblank]
  next => rfl

/-- The names on lines, in order. -/
def onLines (lines : List (List Char)) : List String :=
  ((lines.map ofLine).filter (!·.isEmpty)).map String.ofList

theorem onLines_append (a b : List (List Char)) : onLines (a ++ b) = onLines a ++ onLines b := by
  simp only [onLines, List.map_append, List.filter_append]

theorem onLines_cons (line : List Char) (rest : List (List Char)) :
    onLines (line :: rest) = onLines [line] ++ onLines rest :=
  onLines_append [line] rest

/-- The ends of lines make no difference to the names on them. -/
theorem onLines_linesOfPieces (parts : List (List Char)) :
    onLines (linesOfPieces parts) = onLines parts := by
  induction parts with
  | nil => rfl
  | cons piece rest ih =>
    cases rest with
    | nil =>
      cases piece with
      | nil => rfl
      | cons c more => rfl
    | cons next others =>
      change onLines (dropReturn piece :: linesOfPieces (next :: others)) = _
      rw [onLines_cons, onLines_cons piece, ih]
      simp only [onLines, List.map_singleton, ofLine_dropReturn]

theorem ofPlain_eq_onLines (text : String) :
    ofPlain text = onLines (pieces (· == '\n') text.toList) :=
  onLines_linesOfPieces _

/-- Two files that are joined at a line feed hold the names of the first and then those of the
second. -/
theorem ofPlain_append (a b : String) : ofPlain (a ++ "\n" ++ b) = ofPlain a ++ ofPlain b := by
  have htext : (a ++ "\n" ++ b).toList = a.toList ++ '\n' :: b.toList := by simp
  rw [ofPlain_eq_onLines, htext, pieces_append_cons _ _ rfl, onLines_append,
    ← ofPlain_eq_onLines, ← ofPlain_eq_onLines]

/-! ## Names -/

/-- What a name in a plain file is like. -/
structure Clean (name : String) : Prop where
  ne_empty : name ≠ ""
  first : ∀ c ∈ name.toList.head?, isBlank c = false
  last : ∀ c ∈ name.toList.getLast?, isBlank c = false
  sign : '#' ∉ name.toList
  feed : '\n' ∉ name.toList

theorem mem_of_mem_ofLine {line : List Char} {c : Char} (h : c ∈ ofLine line) :
    c ∈ line ∧ c ≠ '#' := by
  have hmem : c ∈ line.takeWhile (· != '#') := mem_of_mem_trim h
  exact ⟨(List.takeWhile_prefix _).subset hmem, by simpa using List.mem_takeWhile_imp hmem⟩

theorem clean_of_mem_ofPlain {text name : String} (h : name ∈ ofPlain text) : Clean name := by
  rw [ofPlain_eq_onLines] at h
  obtain ⟨chars, hchars, rfl⟩ := List.mem_map.mp h
  obtain ⟨hline, hnonempty⟩ := List.mem_filter.mp hchars
  obtain ⟨line, hpiece, rfl⟩ := List.mem_map.mp hline
  have hfeed : ∀ c ∈ line, (c == '\n') = false := by
    obtain ⟨_, _, _, hinside, _, _⟩ := mem_pieces_iff.mp hpiece
    exact hinside
  refine ⟨?_, ?_, ?_, ?_, ?_⟩
  · rintro hempty
    rw [String.ofList_eq_empty_iff.mp hempty] at hnonempty
    cases hnonempty
  · rw [String.toList_ofList]
    exact fun c hc ↦ head?_trimStart _ c (head?_trimEnd hc)
  · rw [String.toList_ofList]
    exact getLast?_trimEnd _
  · rw [String.toList_ofList]
    exact fun hmem ↦ (mem_of_mem_ofLine hmem).2 rfl
  · rw [String.toList_ofList]
    exact fun hmem ↦ by simpa using hfeed _ (mem_of_mem_ofLine hmem).1

/-! ## Files of a list -/

/-- A line that holds a name, or none: blanks around the name, and a remark behind it. -/
def LineForm (held : Option String) (line : List Char) : Prop :=
  ∃ before after remark, line = before ++ held.elim [] String.toList ++ after ++ remark ∧
    (∀ c ∈ before, isBlank c = true) ∧ (∀ c ∈ after, isBlank c = true) ∧
    (∀ c ∈ remark.head?, c = '#') ∧ '\n' ∉ line

/-- Lines that hold the names in order, with a line break of either kind between them. -/
inductive PlainForm : List String → List Char → Prop where
  | last {held : Option String} {line : List Char} (h : LineForm held line) :
      PlainForm held.toList line
  | line {held : Option String} {line ending text : List Char} {names : List String}
      (h : LineForm held line) (hending : ending = ['\n'] ∨ ending = ['\r', '\n'])
      (hrest : PlainForm names text) : PlainForm (held.toList ++ names) (line ++ ending ++ text)

/-- The name on a line is the one that the line holds. -/
theorem onLines_lineForm {held : Option String} {line : List Char} (h : LineForm held line)
    (hname : ∀ name ∈ held, Lowering.isName name = true) : onLines [line] = held.toList := by
  obtain ⟨before, after, remark, rfl, hbefore, hafter, hremark, _⟩ := h
  have hink : ∀ c ∈ held.elim [] String.toList, isBlank c = false ∧ c ≠ '#' := by
    intro c hc
    cases held with
    | none => cases hc
    | some name =>
      have hnone := @not_mem_name name.toList (hname name rfl) c
      refine ⟨?_, fun hsign ↦ hnone (.inr hsign) hc⟩
      rw [← Bool.not_eq_true]
      exact fun hblank ↦ hnone (.inl hblank) hc
  have hblank {c : Char} (hc : isBlank c = true) : (c != '#') = true := by
    rw [bne_iff_ne]
    rintro rfl
    exact absurd hc (by decide)
  have hcode : ∀ c ∈ before ++ held.elim [] String.toList ++ after, (c != '#') = true := by
    refine List.forall_mem_append.mpr ⟨List.forall_mem_append.mpr ⟨?_, ?_⟩, ?_⟩
    · exact fun c hc ↦ hblank (hbefore c hc)
    · exact fun c hc ↦ bne_iff_ne.mpr (hink c hc).2
    · exact fun c hc ↦ hblank (hafter c hc)
  have hcut : (before ++ held.elim [] String.toList ++ after ++ remark).takeWhile (· != '#') =
      before ++ held.elim [] String.toList ++ after := by
    rw [List.takeWhile_append_of_pos hcode]
    cases remark with
    | nil => rw [List.takeWhile_nil, List.append_nil]
    | cons c rest =>
      obtain rfl := hremark c rfl
      rw [List.takeWhile_cons_of_neg (by decide), List.append_nil]
  have hline : ofLine (before ++ held.elim [] String.toList ++ after ++ remark) =
      held.elim [] String.toList := by
    rw [ofLine, hcut, trim_surrounded hbefore (fun c hc ↦ (hink c hc).1) hafter]
  cases held with
  | none =>
    rw [onLines, List.map_singleton, hline]
    rfl
  | some name =>
    have hnonempty : name.toList ≠ [] := by
      intro hnil
      have hisName := hname name rfl
      rw [Lowering.isName, hnil] at hisName
      cases hisName
    rw [onLines, List.map_singleton, hline]
    simp [hnonempty]

/-- A file of names holds the names in order. -/
theorem ofPlain_plainForm {names : List String} {text : List Char} (h : PlainForm names text)
    (hnames : ∀ name ∈ names, Lowering.isName name = true) :
    ofPlain (String.ofList text) = names := by
  rw [ofPlain_eq_onLines, String.toList_ofList]
  induction h with
  | @last held line hline =>
    obtain ⟨_, _, _, _, _, _, _, hfeed⟩ := id hline
    have hpiece : ∀ c ∈ line, (c == '\n') = false := by
      intro c hc
      rw [beq_eq_false_iff_ne]
      rintro rfl
      exact hfeed hc
    rw [pieces_of_forall hpiece]
    exact onLines_lineForm hline fun name hname ↦ hnames name (Option.mem_toList.mpr hname)
  | @line held line ending text names hline hending hrest ih =>
    obtain ⟨hheld, hothers⟩ := List.forall_mem_append.mp hnames
    obtain ⟨_, _, _, _, _, _, _, hfeed⟩ := id hline
    -- A carriage return before the line feed is a blank at the end of the line.
    obtain ⟨carriage, hreturn, hfeeds, hcut⟩ : ∃ carriage : List Char,
        (∀ c ∈ carriage, isBlank c = true) ∧ '\n' ∉ carriage ∧
          line ++ ending ++ text = (line ++ carriage) ++ '\n' :: text := by
      rcases hending with rfl | rfl
      · exact ⟨[], nofun, nofun, by simp⟩
      · exact ⟨['\r'], List.all_eq_true.mp (by decide), by decide, by simp⟩
    have hpiece : ∀ c ∈ line ++ carriage, (c == '\n') = false := by
      intro c hc
      rw [beq_eq_false_iff_ne]
      rintro rfl
      exact (List.mem_append.mp hc).elim hfeed hfeeds
    have hfirst : onLines [line ++ carriage] = onLines [line] := by
      simp only [onLines, List.map_singleton, ofLine_append_of_blank hreturn]
    rw [hcut, pieces_append_cons _ _ rfl, pieces_of_forall hpiece, onLines_append, hfirst,
      ih hothers, onLines_lineForm hline fun name hname ↦ hheld name (Option.mem_toList.mpr hname)]

/-- The names with nothing but line breaks between them are one of their files. -/
theorem plainForm_intercalate {ending : List Char}
    (hending : ending = ['\n'] ∨ ending = ['\r', '\n']) {names : List String}
    (hnames : ∀ name ∈ names, Lowering.isName name = true) :
    PlainForm names (ending.intercalate (names.map String.toList)) := by
  have hline {name : String} (h : Lowering.isName name = true) :
      LineForm (some name) name.toList :=
    ⟨[], [], [], by simp, nofun, nofun, nofun, not_mem_name h (.inl rfl)⟩
  induction names with
  | nil =>
    have hempty : LineForm none [] := ⟨[], [], [], rfl, nofun, nofun, nofun, nofun⟩
    exact .last hempty
  | cons first rest ih =>
    obtain ⟨hfirst, hrest⟩ := List.forall_mem_cons.mp hnames
    cases rest with
    | nil => simpa using PlainForm.last (hline hfirst)
    | cons next others =>
      rw [List.map_cons, List.map_cons, List.intercalate_cons_cons, ← List.map_cons]
      exact .line (hline hfirst) hending (ih hrest)

open Lowering (NodeNames)

/-- Plain files join line by line, and the names in them are clean.  Of a list that can be bound,
the plain files and the spelled arrays all hold just the list; among them are its names between
line breaks and the array without spaces. -/
theorem ofPlain_ofArray_forms :
    (∀ a b, ofPlain (a ++ "\n" ++ b) = ofPlain a ++ ofPlain b) ∧
      (∀ text, ∀ name ∈ ofPlain text, Clean name) ∧
      ∀ names nodes, NodeNames.ofList names = .ok nodes →
        (∀ ending, (ending = ['\n'] ∨ ending = ['\r', '\n']) →
          PlainForm names (ending.intercalate (names.map String.toList))) ∧
        (∀ text : String, PlainForm names text.toList → ofPlain text = names) ∧
        Json.ArraySpelling names (Json.Value.array (names.map .string)).render.toList ∧
        ∀ text : String, Json.ArraySpelling names text.toList → ofArray text = .ok names := by
  refine ⟨ofPlain_append, fun _ _ ↦ clean_of_mem_ofPlain, fun names nodes h ↦ ?_⟩
  have hnames : ∀ name ∈ names, Lowering.isName name = true :=
    Lowering.names_eq_of_ofList h ▸ nodes.identifiers
  refine ⟨fun _ hending ↦ plainForm_intercalate hending hnames, fun text htext ↦ ?_,
    Json.Value.arraySpelling_render names, fun _ ↦ Json.Reader.ofText_strings⟩
  rw [← ofPlain_plainForm htext hnames, String.ofList_toList]

/-- Two names on the lines of a file with remarks, and in an array with an escape and spaces. -/
theorem ofPlain_ofArray_forms_twoNames :
    ofPlain "\r\n # two\r\ntip\t##\n\u00a0ö " = ["tip", "ö"] ∧
      ofArray "[ \"tip\" ,\n\"\\u00F6\"]\n" = .ok ["tip", "ö"] := by
  have hform (held : Option String) (before after remark : List Char)
      (hblanks : (before ++ after).all isBlank = true)
      (hsign : remark.head?.all (· == '#') = true)
      (hfeed : '\n' ∉ before ++ held.elim [] String.toList ++ after ++ remark) :
      LineForm held (before ++ held.elim [] String.toList ++ after ++ remark) := by
    rw [List.all_append, Bool.and_eq_true] at hblanks
    refine ⟨before, after, remark, rfl, List.all_eq_true.mp hblanks.1,
      List.all_eq_true.mp hblanks.2, fun c hc ↦ ?_, hfeed⟩
    rw [Option.mem_def.mp hc] at hsign
    exact eq_of_beq hsign
  have hempty : LineForm none [] := hform none [] [] [] rfl rfl (by decide)
  have hremark : LineForm none " # two".toList :=
    hform none [' '] [] "# two".toList rfl rfl (by decide)
  have htip : LineForm (some "tip") "tip\t##".toList :=
    hform (some "tip") [] ['\t'] "##".toList rfl rfl (by decide)
  have hname : LineForm (some "ö") "\u00a0ö ".toList :=
    hform (some "ö") ['\u00a0'] [' '] [] rfl rfl (by decide)
  have hplain : PlainForm ["tip", "ö"]
      "\r\n # two\r\ntip\t##\n\u00a0ö ".toList :=
    .line hempty (.inr rfl) <| .line hremark (.inr rfl) <| .line htip (.inl rfl) <| .last hname
  have hescape : Json.CharSpelling 'ö' "\\u00F6".toList :=
    .unit ⟨0, 0, 15, 6, '0', '0', 'F', '6', ⟨by decide, .inl rfl⟩, ⟨by decide, .inl rfl⟩,
      ⟨by decide, .inr rfl⟩, ⟨by decide, .inl rfl⟩, rfl, rfl⟩
  have hinside : Json.Inside "ö".toList "\\u00F6".toList :=
    .cons hescape .nil
  have hfirst : Json.StringSpelling "tip" " \"tip\" ".toList :=
    ⟨[' '], _, [' '], by decide, Json.Value.inside_flatMap_escapedChar _, by decide, rfl⟩
  have hsecond : Json.StringSpelling "ö" "\n\"\\u00F6\"".toList :=
    ⟨['\n'], _, [], by decide, hinside, by decide, rfl⟩
  have hbefore : Json.Spaces [] := by decide
  have hafter : Json.Spaces ['\n'] := by decide
  have harray : Json.ArraySpelling ["tip", "ö"]
      "[ \"tip\" ,\n\"\\u00F6\"]\n".toList :=
    .items hbefore (.cons hfirst (.last hsecond)) hafter
  obtain ⟨nodes, hnodes⟩ := NodeNames.exists_ofList_eq_ok_iff.mpr
    (by decide +kernel : NodeNames.offender [] ["tip", "ö"] = none)
  obtain ⟨-, hplains, -, harrays⟩ := ofPlain_ofArray_forms.2.2 ["tip", "ö"] nodes hnodes
  exact ⟨hplains _ hplain, harrays _ harray⟩

end Command.Names

end CodeBehind
