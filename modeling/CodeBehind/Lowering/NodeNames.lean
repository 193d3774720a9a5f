import CodeBehind.Lowering.Error
import CodeBehind.Text.Identifier

/-!
# Names of visual nodes

The generated script binds a variable to each named node of the markup.  The names are identifiers
and no two of them are equal; a list of texts that is not like this has a first offender, which is
reported.
-/

namespace CodeBehind.Lowering

/-- Whether a text can name a variable. -/
def isName (text : String) : Bool :=
  Text.isIdentifier text.toList

/-- Distinct identifiers in the order in which they are bound. -/
structure NodeNames where
  names : List String := []
  identifiers : ∀ name ∈ names, isName name = true := by simp
  distinct : names.Nodup := by simp

namespace NodeNames

/-- The first text that is no identifier, or that one of `seen` or an earlier text equals. -/
def offender (seen : List String) : List String → Option Error
  | [] => none
  | name :: rest =>
    if !isName name then some (.invalidNodeName name)
    else if name ∈ seen then some (.duplicateNodeName name)
    else offender (name :: seen) rest

theorem isName_of_offender_eq_none {seen names : List String} (h : offender seen names = none) :
    ∀ name ∈ names, isName name = true := by
  induction names generalizing seen with
  | nil => simp
  | cons first rest ih =>
    rw [offender] at h
    split at h
    · simp at h
    split at h
    · simp at h
    intro name hmem
    rcases List.mem_cons.mp hmem with rfl | hrest
    · simp_all
    · exact ih h name hrest

theorem nodup_of_offender_eq_none {seen names : List String} (h : offender seen names = none) :
    names.Nodup ∧ ∀ name ∈ names, name ∉ seen := by
  induction names generalizing seen with
  | nil => simp
  | cons first rest ih =>
    rw [offender] at h
    split at h
    · simp at h
    split at h
    · simp at h
    obtain ⟨hnodup, hfresh⟩ := ih h
    refine ⟨List.nodup_cons.mpr ⟨fun hmem ↦ ?_, hnodup⟩, fun name hmem ↦ ?_⟩
    · exact hfresh first hmem (List.mem_cons_self ..)
    · rcases List.mem_cons.mp hmem with rfl | hrest
      · assumption
      · exact fun hseen ↦ hfresh name hrest (List.mem_cons_of_mem _ hseen)

/-- The names, if all of them can be bound. -/
def ofList (names : List String) : Except Error NodeNames :=
  match h : offender [] names with
  | some error => .error error
  | none =>
    .ok { names, identifiers := isName_of_offender_eq_none h,
          distinct := (nodup_of_offender_eq_none h).1 }

end NodeNames

end CodeBehind.Lowering
