import CodeBehind.Proofs.Stages
import Mathlib.Data.List.Forall2
import Mathlib.Tactic.SplitIfs

/-!
# Where the options come from

Each option is settled by itself: the command line wins over the config file, and that wins over the
default.  Two settings of the config file are words, in any case, and only these can be wrong.  What
the command line decides is not looked at in the config file, so there it may be anything.
-/

namespace CodeBehind.Command

/-! ## Words in any case -/

/-- The same character, or a capital of ASCII and its small letter. -/
def SameLetter (c d : Char) : Prop :=
  c = d ∨ ∃ n < 26, (c.toNat = 0x41 + n ∧ d.toNat = 0x61 + n) ∨
    (c.toNat = 0x61 + n ∧ d.toNat = 0x41 + n)

instance (c d : Char) : Decidable (SameLetter c d) :=
  inferInstanceAs (Decidable (_ ∨ _))

/-- The same word in any case. -/
def SameWord (a b : String) : Prop :=
  List.Forall₂ SameLetter a.toList b.toList

instance (a b : String) : Decidable (SameWord a b) :=
  inferInstanceAs (Decidable (List.Forall₂ _ _ _))

theorem toNat_toLower (c : Char) :
    c.toLower.toNat = if 0x41 ≤ c.toNat ∧ c.toNat ≤ 0x5A then c.toNat + 0x20 else c.toNat := by
  have hcapital : (c.val ≥ 'A'.val ∧ c.val ≤ 'Z'.val) ↔ 0x41 ≤ c.toNat ∧ c.toNat ≤ 0x5A := Iff.rfl
  unfold Char.toLower
  split
  next h =>
    have hcode := (hcapital.mp h).2
    rw [if_pos (hcapital.mp h)]
    change (c.val + 0x20).toNat = _
    rw [UInt32.toNat_add, Nat.mod_eq_of_lt]
    · rfl
    · exact Nat.lt_of_le_of_lt (Nat.add_le_add_right hcode 0x20) (by decide)
  next h => rw [if_neg (mt hcapital.mpr h)]

theorem toLower_eq_iff {c d : Char} : c.toLower = d.toLower ↔ SameLetter c d := by
  rw [← Char.toNat_inj, toNat_toLower, toNat_toLower, SameLetter, ← Char.toNat_inj]
  constructor
  · intro h
    by_cases heq : c.toNat = d.toNat
    · exact .inl heq
    · split_ifs at h with hc hd hd
      · omega
      · exact .inr ⟨c.toNat - 0x41, by omega, .inl (by omega)⟩
      · exact .inr ⟨d.toNat - 0x41, by omega, .inr (by omega)⟩
      · exact absurd h heq
  · rintro (heq | ⟨n, hn, ⟨hc, hd⟩ | ⟨hc, hd⟩⟩)
    · rw [heq]
    · rw [if_pos (by omega), if_neg (by omega)]
      omega
    · rw [if_neg (by omega), if_pos (by omega)]
      omega

theorem lower_eq_iff {a b : String} : lower a = lower b ↔ SameWord a b := by
  rw [lower, lower, String.ofList_inj, SameWord, ← List.forall₂_eq_eq_eq,
    List.forall₂_map_left_iff, List.forall₂_map_right_iff]
  simp only [toLower_eq_iff]

/-! ## Words for values -/

section Words

variable {α : Type} (words : List (String × α))

/-- A text is a word for a value. -/
def Named (text : String) (a : α) : Prop :=
  ∃ word ∈ words, SameWord text word.1 ∧ word.2 = a

/-- The value that wins: that of the command line, or else the one that the config file names. -/
def Wins (flag : Option α) (configured : Option String) (a : α) : Prop :=
  flag = some a ∨ flag = none ∧ ∃ text, configured = some text ∧ Named words text a

/-- The config file decides, and it holds a text that is no word for a value. -/
def Unknown (flag : Option α) (configured : Option String) (text : String) : Prop :=
  flag = none ∧ configured = some text ∧ ∀ a, ¬Named words text a

variable {words}

theorem named_iff (h : ∀ word ∈ words, lower word.1 = word.1) {text : String} {a : α} :
    Named words text a ↔ (lower text, a) ∈ words := by
  constructor
  · rintro ⟨word, hmem, hsame, rfl⟩
    rwa [lower_eq_iff.mpr hsame, h word hmem]
  · intro hmem
    exact ⟨_, hmem, lower_eq_iff.mp (h _ hmem).symm, rfl⟩

variable {setting : Setting} {ofName? : String → Option α}
  (hwords : ∀ text a, ofName? text = some a ↔ Named words text a)

include hwords

theorem settingValue_eq_error_iff {flag : Option α} {configured : Option String}
    {failure : Failure} : settingValue setting ofName? flag configured = .error failure ↔
      ∃ text, Unknown words flag configured text ∧ failure = .invalidSetting setting text := by
  rcases flag with _ | a
  · rcases configured with _ | text
    · simp [settingValue, Unknown]
    · cases hvalue : ofName? text with
      | none =>
        have hnone : ∀ a, ¬Named words text a := fun a hnamed ↦ by
          rw [← hwords, hvalue] at hnamed
          cases hnamed
        simpa [settingValue, Unknown, hvalue, hnone] using eq_comm
      | some a =>
        have hnamed : Named words text a := (hwords text a).mp hvalue
        simpa [settingValue, Unknown, hvalue] using fun h ↦ absurd hnamed (h a)
  · simp [settingValue, Unknown]

theorem wins_of_settingValue {flag : Option α} {configured : Option String} {value : Option α}
    (h : settingValue setting ofName? flag configured = .ok value) (a : α) :
    Wins words flag configured a ↔ value = some a := by
  rcases flag with _ | b
  · rcases configured with _ | text
    · obtain rfl : none = value := Except.ok.inj h
      simp [Wins]
    · cases hvalue : ofName? text with
      | none => simp [settingValue, hvalue] at h
      | some b =>
        obtain rfl : some b = value := by simpa [settingValue, hvalue] using h
        simp [Wins, ← hwords, hvalue]
  · obtain rfl : some b = value := Except.ok.inj h
    simp [Wins]

end Words

/-- The words for the units of indentation. -/
def unitWords : List (String × IndentUnit) :=
  [("tab", .tab), ("tabs", .tab), ("spaces", .spaces), ("space", .spaces)]

/-- The words for the line breaks. -/
def lineBreakWords : List (String × LineBreak) :=
  [("lf", .lf), ("crlf", .crlf), ("cr-lf", .crlf)]

theorem IndentUnit.ofName?_eq_some_iff (text : String) (unit : IndentUnit) :
    ofName? text = some unit ↔ Named unitWords text unit := by
  rw [named_iff (by decide), ofName?]
  split
  all_goals simp_all [unitWords]
  all_goals exact eq_comm

theorem lineBreakOfName?_eq_some_iff (text : String) (lineBreak : LineBreak) :
    lineBreakOfName? text = some lineBreak ↔ Named lineBreakWords text lineBreak := by
  rw [named_iff (by decide), lineBreakOfName?]
  split
  all_goals simp_all [lineBreakWords]
  all_goals exact eq_comm

/-! ## The options -/

section Options

variable (config : Config) (arguments : Arguments) (fileNames : List String)

/-- The indentation that the config file names counts and makes no sense. -/
def UnknownIndent (text : String) : Prop :=
  Unknown unitWords arguments.indent config.indent text

/-- The line break that the config file names counts and makes no sense. -/
def UnknownLineBreak (text : String) : Prop :=
  Unknown lineBreakWords arguments.lineBreak config.lineBreak text

/-- Every option has the value that wins, or else the default, and no name is lost. -/
structure Settled (resolved : Resolved) : Prop where
  spaces : ∀ width, resolved.options.indent = .spaces width ↔
    Wins unitWords arguments.indent config.indent .spaces ∧
      width = (arguments.indentWidth.or config.indentWidth).getD 4
  tab : resolved.options.indent = .tab ↔
    ¬Wins unitWords arguments.indent config.indent .spaces
  lineBreak : ∀ b, Wins lineBreakWords arguments.lineBreak config.lineBreak b →
    resolved.options.lineBreak = b
  noLineBreak : (∀ b, ¬Wins lineBreakWords arguments.lineBreak config.lineBreak b) →
    resolved.options.lineBreak = .lf
  annotate : resolved.options.annotate = false ↔
    arguments.noAnnotate = true ∨ config.annotate = some false
  readyEvent : resolved.options.readyEvent =
    (arguments.readyEvent.or config.readyEvent).getD "DOMContentLoaded"
  nodeNames : resolved.nodeNames = config.nodeNames.getD [] ++ fileNames ++ arguments.name

/-- Two config files hold the same where the command line does not decide. -/
structure AgreeBehind (a b : Config) : Prop where
  indent : arguments.indent = none → a.indent = b.indent
  indentWidth : arguments.indentWidth = none → a.indentWidth = b.indentWidth
  lineBreak : arguments.lineBreak = none → a.lineBreak = b.lineBreak
  annotate : arguments.noAnnotate = false → a.annotate = b.annotate
  readyEvent : arguments.readyEvent = none → a.readyEvent = b.readyEvent
  nodeNames : a.nodeNames = b.nodeNames

variable {config arguments fileNames}

theorem resolveOptions_eq_error_iff {failure : Failure} :
    resolveOptions config arguments fileNames = .error failure ↔
      (∃ text, UnknownIndent config arguments text ∧ failure = .invalidSetting .indent text) ∨
        (∀ text, ¬UnknownIndent config arguments text) ∧
          ∃ text, UnknownLineBreak config arguments text ∧
            failure = .invalidSetting .lineBreak text := by
  have hfault {α : Type} (result : Except Failure α) (failure : Failure) :
      fault? result = some failure ↔ result = .error failure := by
    cases result <;> simp [fault?]
  have hindent (failure : Failure) := @settingValue_eq_error_iff _ _ .indent _
    IndentUnit.ofName?_eq_some_iff arguments.indent config.indent failure
  have hlineBreak := @settingValue_eq_error_iff _ _ .lineBreak _
    lineBreakOfName?_eq_some_iff arguments.lineBreak config.lineBreak failure
  have hfine : fault? (settingValue .indent IndentUnit.ofName? arguments.indent config.indent) =
      none ↔ ∀ text, ¬UnknownIndent config arguments text := by
    rw [Option.eq_none_iff_forall_ne_some]
    simp only [ne_eq, hfault, hindent]
    exact ⟨fun h text htext ↦ h _ ⟨text, htext, rfl⟩, fun h _ ⟨text, htext, _⟩ ↦ h text htext⟩
  rw [← hfault, fault?_resolveOptions, Option.or_eq_some_iff, hfault, hfault, hfine, hindent,
    hlineBreak]
  rfl

theorem settled_of_resolveOptions {resolved : Resolved}
    (h : resolveOptions config arguments fileNames = .ok resolved) :
    Settled config arguments fileNames resolved := by
  have hor {β : Type} (a b : Option β) : (a <|> b) = a.or b := by cases a <;> rfl
  obtain ⟨unit, hunit, h⟩ := Json.exists_of_bind_eq_ok h
  obtain ⟨lineBreak, hlineBreak, h⟩ := Json.exists_of_bind_eq_ok h
  obtain rfl := Except.ok.inj h
  have hspaces := wins_of_settingValue IndentUnit.ofName?_eq_some_iff hunit .spaces
  have hbreaks := wins_of_settingValue lineBreakOfName?_eq_some_iff hlineBreak
  refine ⟨fun width ↦ ?_, ?_, fun b hb ↦ ?_, fun hnone ↦ ?_, ?_, ?_, rfl⟩
  · rw [hspaces]
    by_cases h : unit = some .spaces <;> simp [h, hor, defaultIndentWidth, eq_comm]
  · rw [hspaces]
    by_cases h : unit = some .spaces <;> simp [h]
  · obtain rfl := (hbreaks b).mp hb
    rfl
  · cases lineBreak with
    | none => rfl
    | some b => exact absurd ((hbreaks b).mpr rfl) (hnone b)
  · rcases config.annotate with _ | _ | _ <;> cases arguments.noAnnotate <;> simp
  · simp only [hor]

theorem resolveOptions_congr {a b : Config} (h : AgreeBehind arguments a b) :
    resolveOptions a arguments fileNames = resolveOptions b arguments fileNames := by
  have hvalue {α : Type} (setting : Setting) (ofName? : String → Option α) {flag : Option α}
      {configured other : Option String} (h : flag = none → configured = other) :
      settingValue setting ofName? flag configured = settingValue setting ofName? flag other := by
    cases flag with
    | none => rw [h rfl]
    | some a => rfl
  have hor {β : Type} {flag configured other : Option β} (h : flag = none → configured = other) :
      (flag <|> configured) = (flag <|> other) := by
    cases flag with
    | none => rw [h rfl]
    | some a => rfl
  have hannotate : (!arguments.noAnnotate && a.annotate.getD true) =
      (!arguments.noAnnotate && b.annotate.getD true) := by
    cases hflag : arguments.noAnnotate with
    | false => rw [h.annotate hflag]
    | true => rfl
  simp only [resolveOptions, hvalue _ _ h.indent, hvalue _ _ h.lineBreak, hor h.indentWidth,
    hannotate, hor h.readyEvent, h.nodeNames]

end Options

/-- The options are settled one by one, by precedence.  Nothing but a word that counts and makes no
sense is wrong, and the indentation is reported first.  What the command line decides may be
anything in the config file. -/
theorem resolveOptions_precedence (config : Config) (arguments : Arguments)
    (fileNames : List String) :
    ((∃ failure, resolveOptions config arguments fileNames = .error failure) ↔
        (∃ text, UnknownIndent config arguments text) ∨
          ∃ text, UnknownLineBreak config arguments text) ∧
      (∀ failure, resolveOptions config arguments fileNames = .error failure →
        (∃ text, UnknownIndent config arguments text ∧ failure = .invalidSetting .indent text) ∨
          (∀ text, ¬UnknownIndent config arguments text) ∧
            ∃ text, UnknownLineBreak config arguments text ∧
              failure = .invalidSetting .lineBreak text) ∧
      (∀ resolved, resolveOptions config arguments fileNames = .ok resolved →
        Settled config arguments fileNames resolved) ∧
      ∀ other, AgreeBehind arguments config other →
        resolveOptions config arguments fileNames = resolveOptions other arguments fileNames := by
  refine ⟨?_, fun _ ↦ resolveOptions_eq_error_iff.mp, fun _ ↦ settled_of_resolveOptions,
    fun _ ↦ resolveOptions_congr⟩
  simp only [resolveOptions_eq_error_iff]
  constructor
  · rintro ⟨_, ⟨text, htext, _⟩ | ⟨_, text, htext, _⟩⟩
    · exact .inl ⟨text, htext⟩
    · exact .inr ⟨text, htext⟩
  · intro h
    by_cases hindent : ∃ text, UnknownIndent config arguments text
    · obtain ⟨text, htext⟩ := hindent
      exact ⟨_, .inl ⟨text, htext, rfl⟩⟩
    · obtain ⟨text, htext⟩ := h.resolve_left hindent
      exact ⟨_, .inr ⟨not_exists.mp hindent, text, htext, rfl⟩⟩

/-- The indentation of the command line makes a word of no sense in the config file harmless, and
the width of the config file holds for it. -/
theorem resolveOptions_precedence_spacesFlag :
    ∃ resolved : Resolved,
      resolveOptions { indent := some "wide", indentWidth := some 8, lineBreak := some "CR-lf" }
        { tree := "tree.json", indent := some .spaces } [] = .ok resolved ∧
      resolveOptions { indentWidth := some 8, lineBreak := some "CR-lf" }
        { tree := "tree.json", indent := some .spaces } [] = .ok resolved ∧
      resolved.options.indent = .spaces 8 ∧ resolved.options.lineBreak = .crlf := by
  obtain ⟨-, -, hsettled, hagree⟩ := resolveOptions_precedence
    { indent := some "wide", indentWidth := some 8, lineBreak := some "CR-lf" }
    { tree := "tree.json", indent := some .spaces } []
  have hsame := hagree { indentWidth := some 8, lineBreak := some "CR-lf" }
    ⟨nofun, fun _ ↦ rfl, fun _ ↦ rfl, fun _ ↦ rfl, fun _ ↦ rfl, rfl⟩
  refine ⟨_, hsame.trans rfl, rfl, ?_, ?_⟩
  · exact ((hsettled _ (hsame.trans rfl)).spaces 8).mpr ⟨.inl rfl, rfl⟩
  · exact (hsettled _ (hsame.trans rfl)).lineBreak .crlf
      (.inr ⟨rfl, "CR-lf", rfl, ("cr-lf", .crlf), by decide, by decide, rfl⟩)

end CodeBehind.Command
