import CodeBehind.Proofs.Execution

/-!
# Writers in lockstep

Two layouts are compared of which the second writes a spelling of its own where the first writes one
character, such as two spaces for a tab.  If the character is in no text of a script, then it comes
from the layout only, and the two writers go in lockstep: the second one wrote what the first one
did, respelled.  A spelling gives the same answers to all that a writer asks about what it wrote, so
no instruction ever tells the writers apart.
-/

namespace CodeBehind

namespace Text

/-- The text with a spelling wherever the character stands. -/
def respelled (mark : Char) (spelling : List Char) (cs : List Char) : List Char :=
  cs.flatMap fun c ↦ if c = mark then spelling else [c]

/-- The spelling of a character answers what writers ask as the character does: whether a line is
broken, and whether a line or a separator ends there. -/
structure Spells (mark : Char) (spelling : List Char) : Prop where
  breaks : spelling.any isBreak = isBreak mark
  last : ∃ c, spelling.getLast? = some c ∧ isBreak c = isBreak mark ∧
    (isBlank c || c == '(') = (isBlank mark || mark == '(')

section Respelled

variable {mark : Char} {spelling : List Char}

@[simp]
theorem respelled_append (a b : List Char) :
    respelled mark spelling (a ++ b) = respelled mark spelling a ++ respelled mark spelling b :=
  List.flatMap_append

theorem respelled_flatten (parts : List (List Char)) :
    respelled mark spelling parts.flatten = (parts.map (respelled mark spelling)).flatten := by
  induction parts with
  | nil => rfl
  | cons part rest ih => rw [List.flatten_cons, respelled_append, ih, List.map_cons, List.flatten_cons]

theorem respelled_singleton (c : Char) :
    respelled mark spelling [c] = if c = mark then spelling else [c] :=
  List.flatMap_singleton ..

theorem respelled_of_not_mem {cs : List Char} (h : mark ∉ cs) :
    respelled mark spelling cs = cs := by
  induction cs with
  | nil => rfl
  | cons c rest ih =>
    rw [List.mem_cons, not_or] at h
    rw [← List.singleton_append, respelled_append, ih h.2, respelled_singleton,
      if_neg (Ne.symm h.1)]

theorem any_isBreak_respelled (h : Spells mark spelling) (cs : List Char) :
    (respelled mark spelling cs).any isBreak = cs.any isBreak := by
  induction cs with
  | nil => rfl
  | cons c rest ih =>
    rw [← List.singleton_append, respelled_append, List.any_append, ih, respelled_singleton,
      List.any_append]
    split
    next hc => rw [h.breaks, hc, List.any_cons, List.any_nil, Bool.or_false]
    next => rfl

/-- A question to which the end of the spelling gives the answer of the character has one answer
for a text and the respelled text. -/
theorem elim_getLast?_respelled {asks : Char → Bool} {last : Char}
    (hlast : spelling.getLast? = some last) (hasks : asks last = asks mark) (cs : List Char)
    (before : Bool) :
    (respelled mark spelling cs).getLast?.elim before asks = cs.getLast?.elim before asks := by
  rcases List.eq_nil_or_concat cs with rfl | ⟨start, c, rfl⟩
  · rfl
  · rw [List.concat_eq_append, respelled_append, respelled_singleton, List.getLast?_append,
      List.getLast?_concat]
    split
    next hc => rw [hlast, Option.some_or, Option.elim_some, Option.elim_some, hasks, hc]
    next => rfl

end Respelled

end Text

open Text

/-! ## Writers in lockstep -/

/-- The second layout spells the character out that the first one writes. -/
structure Layout.Respells (mark : Char) (spelling : List Char) (a b : Layout) : Prop where
  spells : Spells mark spelling
  lineBreak : b.lineBreak.text.toList = respelled mark spelling a.lineBreak.text.toList
  indent : ∀ depth,
    (b.indent.text depth).toList = respelled mark spelling (a.indent.text depth).toList

/-- Spaces for tabs.  Without a space the end of a line of indentation would be lost. -/
theorem Layout.respells_spaces {width : UInt8} (h : 0 < width) (lineBreak : LineBreak) :
    Respells '\t' (List.replicate width.toNat ' ') ⟨.tab, lineBreak⟩ ⟨.spaces width, lineBreak⟩ where
  spells := by
    have hwidth : width.toNat ≠ 0 := by
      have hlt := UInt8.lt_iff_toNat_lt.mp h
      omega
    refine ⟨?_, ' ', ?_, rfl, rfl⟩
    · rw [List.any_replicate, if_neg hwidth]
      rfl
    · rw [List.getLast?_replicate, if_neg hwidth]
  lineBreak := by
    have hnone : '\t' ∉ lineBreak.text.toList := by cases lineBreak <;> decide
    rw [respelled_of_not_mem hnone]
  indent depth := by
    rw [Indent.text, Indent.text, String.toList_ofList, String.toList_ofList, respelled_flatten,
      List.map_replicate]
    have hunit : respelled '\t' (List.replicate width.toNat ' ') Indent.tab.unit =
        (Indent.spaces width).unit := (respelled_singleton '\t').trans (if_pos rfl)
    rw [hunit]

/-- Two characters for a line break. -/
theorem Layout.respells_crlf (indent : Indent) :
    Respells '\n' ['\r', '\n'] ⟨indent, .lf⟩ ⟨indent, .crlf⟩ where
  spells := ⟨rfl, '\n', rfl, rfl, rfl⟩
  lineBreak := (by decide : "\r\n".toList = respelled '\n' ['\r', '\n'] "\n".toList)
  indent depth := by
    have hnone : '\n' ∉ (indent.text depth).toList := by
      intro hmem
      rcases Indent.eq_of_mem_text hmem with hfeed | hfeed <;> cases hfeed
    rw [respelled_of_not_mem hnone]

/-- The second writer wrote the respelled text, and nothing else that writers ask tells the two
apart. -/
structure Writer.Respelled (mark : Char) (spelling : List Char) (v u : Writer String) : Prop where
  sink : u.sink.toList = respelled mark spelling v.sink.toList
  atLineStart : u.atLineStart = v.atLineStart
  inComment : u.inComment = v.inComment
  endsWithSeparator : u.endsWithSeparator = v.endsWithSeparator

/-- The character is not in the text. -/
def Avoids (mark : Char) (text : String) : Prop :=
  mark ∉ text.toList

instance (mark : Char) (text : String) : Decidable (Avoids mark text) :=
  inferInstanceAs (Decidable (mark ∉ text.toList))

@[simp]
theorem avoids_append {mark : Char} {a b : String} :
    Avoids mark (a ++ b) ↔ Avoids mark a ∧ Avoids mark b := by
  unfold Avoids
  rw [String.toList_append, List.mem_append, not_or]

/-- A control character is not among printable ones. -/
theorem not_mem_printable {mark : Char} (hmark : mark.toNat < 32) {cs : List Char}
    (h : cs.all (32 ≤ ·.toNat) = true) : mark ∉ cs := by
  intro hmem
  have hprintable := List.all_eq_true.mp h mark hmem
  rw [decide_eq_true_eq] at hprintable
  omega

theorem avoids_printable {mark : Char} (hmark : mark.toNat < 32) {text : String}
    (h : text.toList.all (32 ≤ ·.toNat) = true) : Avoids mark text :=
  not_mem_printable hmark h

/-- The instruction has a text of its own, and the character is not in it; or it has none. -/
def Instruction.Spares (mark : Char) : Instruction → Prop
  | code text => Avoids mark text
  | verbatim text => Avoids mark text
  | _ => True

section Lockstep

variable {mark : Char} {spelling : List Char} {a b : Layout} {v u : Writer String}

theorem Writer.Respelled.after (hspells : Spells mark spelling) (h : Respelled mark spelling v u)
    {text text' : String} (htext : text'.toList = respelled mark spelling text.toList) :
    Respelled mark spelling (v.after text) (u.after text') where
  sink := by rw [after_sink, after_sink, h.sink, htext, respelled_append]
  atLineStart := by
    obtain ⟨last, hlast, hbreak, _⟩ := hspells.last
    rw [after_atLineStart, after_atLineStart, htext, elim_getLast?_respelled hlast hbreak,
      h.atLineStart]
  inComment := by
    rw [after_inComment, after_inComment, htext, any_isBreak_respelled hspells, h.inComment]
  endsWithSeparator := by
    obtain ⟨last, hlast, _, hseparates⟩ := hspells.last
    rw [after_endsWithSeparator, after_endsWithSeparator, htext, h.endsWithSeparator]
    exact @elim_getLast?_respelled _ _ (fun c ↦ isBlank c || c == '(') _ hlast hseparates ..

theorem Writer.Respelled.spared (hspells : Spells mark spelling) (h : Respelled mark spelling v u)
    {text : String} (htext : Avoids mark text) :
    Respelled mark spelling (v.after text) (u.after text) :=
  h.after hspells (respelled_of_not_mem htext).symm

namespace Instruction

open Writer

theorem respelled_endLine (hlayout : Layout.Respells mark spelling a b)
    (h : Respelled mark spelling v u) :
    Respelled mark spelling (endLine.apply a v) (endLine.apply b u) := by
  rw [apply_endLine, apply_endLine, h.atLineStart]
  split
  · exact h
  · exact h.after hlayout.spells hlayout.lineBreak

theorem respelled_code (hlayout : Layout.Respells mark spelling a b)
    (h : Respelled mark spelling v u) {text : String} (htext : Avoids mark text) :
    Respelled mark spelling ((code text).apply a v) ((code text).apply b u) := by
  rw [apply_code, apply_code, h.inComment]
  split
  · exact (h.after hlayout.spells hlayout.lineBreak).spared hlayout.spells htext
  · exact h.spared hlayout.spells htext

/-- One instruction keeps the writers in lockstep. -/
theorem respelled_apply (hlayout : Layout.Respells mark spelling a b) (hmark : mark.toNat < 32)
    (h : Respelled mark spelling v u) {i : Instruction} (hi : i.Spares mark) :
    Respelled mark spelling (i.apply a v) (i.apply b u) := by
  have hspells := hlayout.spells
  cases i with
  | code text => exact respelled_code hlayout h hi
  | verbatim text =>
    rw [apply_verbatim, apply_verbatim]
    exact h.spared hspells hi
  | terminator =>
    rw [apply_terminator, apply_terminator]
    exact h.spared hspells (avoids_printable hmark (by decide))
  | breakLine =>
    rw [apply_breakLine, apply_breakLine]
    exact h.after hspells hlayout.lineBreak
  | endLine => exact respelled_endLine hlayout h
  | blankLine =>
    rw [apply_blankLine, apply_blankLine]
    exact (respelled_endLine hlayout h).after hspells hlayout.lineBreak
  | openLine depth =>
    rw [apply_openLine, apply_openLine]
    exact (respelled_endLine hlayout h).after hspells (hlayout.indent depth)
  | separate =>
    rw [apply_separate, apply_separate, h.endsWithSeparator]
    split
    · exact h
    · exact respelled_code hlayout h (avoids_printable hmark (by decide))
  | markComment => exact ⟨h.sink, h.atLineStart, rfl, h.endsWithSeparator⟩

end Instruction

end Lockstep

namespace Lowering

/-! ## Scripts without the character -/

/-- No text of the step has the character in it. -/
def Step.Spares (mark : Char) : Step → Prop
  | .write instruction => instruction.Spares mark
  | _ => True

/-- The character is in no text of the script. -/
def Script.Spares (mark : Char) (s : Script) : Prop :=
  ∀ step ∈ s, step.Spares mark

/-- A script that does not have the character keeps the writers in lockstep. -/
theorem Script.respelled_effect {mark : Char} {spelling : List Char} {a b : Layout}
    (hlayout : Layout.Respells mark spelling a b) (hmark : mark.toNat < 32) {s : Script}
    (hs : s.Spares mark) {v u : Writer String} (h : v.Respelled mark spelling u) :
    (s.effect a v).Respelled mark spelling (s.effect b u) := by
  induction s generalizing v u with
  | nil => exact h
  | cons step rest ih =>
    obtain ⟨hstep, hrest⟩ := List.forall_mem_cons.mp hs
    cases step with
    | fail error => exact ih hrest h
    | log entry => exact ih hrest h
    | write instruction =>
      exact ih hrest (Instruction.respelled_apply hlayout hmark h hstep)

section Spares

variable {mark : Char}

namespace Script

@[simp]
theorem spares_nil : Spares mark [] :=
  List.forall_mem_nil _

@[simp]
theorem spares_cons {step : Step} {rest : Script} :
    Spares mark (step :: rest) ↔ step.Spares mark ∧ Spares mark rest :=
  List.forall_mem_cons

@[simp]
theorem spares_append {a b : Script} : Spares mark (a ++ b) ↔ Spares mark a ∧ Spares mark b :=
  List.forall_mem_append

theorem spares_flatMap {α : Type} {xs : List α} {part : α → Script}
    (h : ∀ x ∈ xs, (part x).Spares mark) : Spares mark (xs.flatMap part) := by
  intro step hstep
  obtain ⟨x, hx, hpart⟩ := List.mem_flatMap.mp hstep
  exact h x hx step hpart

theorem spares_whenOk {α : Type} {value : Except Error α} {next : α → Script}
    (h : ∀ a, value = .ok a → (next a).Spares mark) : (whenOk value next).Spares mark := by
  cases value with
  | ok a => exact h a rfl
  | error error => exact List.forall_mem_singleton.mpr trivial

theorem spares_ite {condition : Prop} [Decidable condition] {s t : Script}
    (hs : s.Spares mark) (ht : t.Spares mark) :
    Spares mark (if condition then s else t) := by
  split
  · exact hs
  · exact ht

theorem Spares.within {s : Script} (h : s.Spares mark) (event : Event) :
    (within event s).Spares mark := by
  refine List.forall_mem_cons.mpr ⟨trivial, List.forall_mem_map.mpr fun step hstep ↦ ?_⟩
  have hspares := h step hstep
  cases step <;> exact hspares

end Script

namespace Step

@[simp]
theorem spares_code {text : String} : (code text).Spares mark ↔ Avoids mark text := .rfl

@[simp]
theorem spares_verbatim {text : String} : (verbatim text).Spares mark ↔ Avoids mark text := .rfl

@[simp]
theorem spares_openLine (depth : Nat) : (openLine depth).Spares mark := trivial

@[simp]
theorem spares_terminator : terminator.Spares mark := trivial

@[simp]
theorem spares_breakLine : breakLine.Spares mark := trivial

@[simp]
theorem spares_endLine : endLine.Spares mark := trivial

@[simp]
theorem spares_blankLine : blankLine.Spares mark := trivial

@[simp]
theorem spares_separate : separate.Spares mark := trivial

@[simp]
theorem spares_markComment : markComment.Spares mark := trivial

@[simp]
theorem spares_note (event : Event) : (note event).Spares mark := trivial

@[simp]
theorem spares_fail (error : Error) : (fail error).Spares mark := trivial

end Step

end Spares

end Lowering

end CodeBehind
