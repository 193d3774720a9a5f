import CodeBehind.Lowering.NodeNames
import Mathlib.Data.List.Nodup

/-!
# Which node names can be bound

A list of texts is accepted exactly if all of them are identifiers and no two of them are equal, and
its order is kept.  Else the first text that is no identifier, or that equals an earlier one, is
reported, and the report says which of the two it is: a text that is no identifier is never called
a repetition.
-/

namespace CodeBehind

namespace Text

/-- The character stands in one of the ranges. -/
def Ranges.Holds (ranges : Ranges) (c : Char) : Prop :=
  ∃ range ∈ ranges, range.1 ≤ c.toNat ∧ c.toNat ≤ range.2

theorem Ranges.contains_iff (ranges : Ranges) (c : Char) :
    ranges.contains c = true ↔ ranges.Holds c := by
  simp only [contains, Holds, List.any_eq_true, Bool.and_eq_true, decide_eq_true_eq]

/-- A character that starts an identifier, and then characters that go on with it. -/
def Identifier (text : List Char) : Prop :=
  ∃ first rest, text = first :: rest ∧
    (identifierStarts.Holds first ∨ first = '_' ∨ first = '$') ∧
    ∀ c ∈ rest, identifierParts.Holds c ∨ c = '$'

theorem isIdentifier_iff (text : List Char) : isIdentifier text = true ↔ Identifier text := by
  cases text with
  | nil => simp [isIdentifier, Identifier]
  | cons first rest =>
    simp only [isIdentifier, startsIdentifier, continuesIdentifier, Identifier, Bool.and_eq_true,
      Bool.or_eq_true, beq_iff_eq, List.all_eq_true, Ranges.contains_iff, or_assoc,
      List.cons.injEq]
    constructor
    · intro h
      exact ⟨first, rest, ⟨rfl, rfl⟩, h⟩
    · rintro ⟨_, _, ⟨rfl, rfl⟩, h⟩
      exact h

end Text

namespace Lowering

open Text

theorem isName_iff (name : String) : isName name = true ↔ Identifier name.toList :=
  isIdentifier_iff name.toList

/-- The names of an accepted list are the list. -/
theorem names_eq_of_ofList {list : List String} {nodes : NodeNames}
    (h : NodeNames.ofList list = .ok nodes) : nodes.names = list := by
  unfold NodeNames.ofList at h
  split at h
  · cases h
  · rw [← Except.ok.inj h]

/-- What is reported of a text: that it is no identifier if it is none, else that it was listed
before. -/
def Reports (error : Error) (name : String) : Prop :=
  (¬ Identifier name.toList ∧ error = .invalidNodeName name) ∨
    Identifier name.toList ∧ error = .duplicateNodeName name

theorem Reports.unique {error error' : Error} {name : String} (h : Reports error name)
    (h' : Reports error' name) : error = error' := by
  rcases h with ⟨hname, rfl⟩ | ⟨hname, rfl⟩ <;> rcases h' with ⟨hname', rfl⟩ | ⟨hname', rfl⟩
  · rfl
  · exact absurd hname' hname
  · exact absurd hname hname'
  · rfl

namespace NodeNames

/-! ## Faults of a list -/

/-- The text at an index is no identifier, or equals an earlier one. -/
def Fault (names : List String) (i : Nat) (name : String) : Prop :=
  names[i]? = some name ∧ (¬ Identifier name.toList ∨ ∃ j < i, names[j]? = some name)

/-- The fault with the least index. -/
def FirstFault (names : List String) (i : Nat) (name : String) : Prop :=
  Fault names i name ∧ ∀ j < i, ∀ other, ¬ Fault names j other

theorem FirstFault.unique {names : List String} {i j : Nat} {name other : String}
    (h : FirstFault names i name) (h' : FirstFault names j other) : name = other := by
  have hle : j ≤ i := Nat.le_of_not_lt fun hlt ↦ h'.2 i hlt name h.1
  have hge : i ≤ j := Nat.le_of_not_lt fun hlt ↦ h.2 j hlt other h'.1
  obtain rfl := Nat.le_antisymm hge hle
  exact Option.some.inj (h.1.1.symm.trans h'.1.1)

/-- A list without faults consists of distinct identifiers. -/
theorem faultless_iff (names : List String) :
    (∀ i name, ¬ Fault names i name) ↔
      (∀ name ∈ names, Identifier name.toList) ∧ names.Nodup := by
  rw [List.nodup_iff_getElem?_ne_getElem?]
  constructor
  · intro h
    refine ⟨fun name hmem ↦ ?_, fun i j hij hj heq ↦ ?_⟩
    · obtain ⟨i, hget⟩ := List.mem_iff_getElem?.mp hmem
      by_contra hname
      exact h i name ⟨hget, .inl hname⟩
    · have hget : names[j]? = some names[j] := List.getElem?_eq_getElem hj
      exact h j names[j] ⟨hget, .inr ⟨i, hij, heq.trans hget⟩⟩
  · rintro ⟨hnames, hdistinct⟩ i name ⟨hget, hname | ⟨j, hji, hearlier⟩⟩
    · exact hname (hnames name (List.mem_of_getElem? hget))
    · obtain ⟨hi, _⟩ := List.getElem?_eq_some_iff.mp hget
      exact hdistinct j i hji hi (hearlier.trans hget.symm)

/-- The text behind `read` has a fault if it is no identifier or was read before. -/
theorem fault_length_iff (read rest : List String) (first name : String) :
    Fault (read ++ first :: rest) read.length name ↔
      first = name ∧ (¬ Identifier first.toList ∨ first ∈ read) := by
  have hget : (read ++ first :: rest)[read.length]? = some first := by
    rw [List.getElem?_append_right (Nat.le_refl _), Nat.sub_self, List.getElem?_cons_zero]
  have hearlier : (∃ j < read.length, (read ++ first :: rest)[j]? = some name) ↔ name ∈ read := by
    rw [List.mem_iff_getElem?]
    constructor
    · rintro ⟨j, hj, h⟩
      exact ⟨j, List.getElem?_append_left hj ▸ h⟩
    · rintro ⟨j, h⟩
      obtain ⟨hj, _⟩ := List.getElem?_eq_some_iff.mp h
      exact ⟨j, hj, (List.getElem?_append_left hj).trans h⟩
  rw [Fault, hget, hearlier, Option.some.injEq]
  exact and_congr_right fun h ↦ by rw [h]

/-- An identifier that was not read before goes on with a beginning without faults. -/
theorem not_fault_snoc {read rest : List String} {first : String}
    (hread : ∀ i < read.length, ∀ name, ¬ Fault (read ++ first :: rest) i name)
    (hname : Identifier first.toList) (hseen : first ∉ read) :
    ∀ i < (read ++ [first]).length, ∀ name, ¬ Fault (read ++ [first] ++ rest) i name := by
  rw [List.append_assoc, List.singleton_append, List.length_append, List.length_singleton]
  intro i hi name hfault
  rcases Nat.lt_succ_iff_lt_or_eq.mp hi with hlt | rfl
  · exact hread i hlt name hfault
  · rcases ((fault_length_iff read rest first name).mp hfault).2 with hbad | hmem
    · exact hbad hname
    · exact hseen hmem

/-- Behind a beginning without faults the search finds the first fault, if there is one. -/
theorem offender_cases (read rest : List String)
    (hread : ∀ i < read.length, ∀ name, ¬ Fault (read ++ rest) i name) :
    (offender read.reverse rest = none ∧ ∀ i name, ¬ Fault (read ++ rest) i name) ∨
      ∃ i name error, FirstFault (read ++ rest) i name ∧ Reports error name ∧
        offender read.reverse rest = some error := by
  induction rest generalizing read with
  | nil =>
    refine .inl ⟨rfl, fun i name hfault ↦ ?_⟩
    obtain ⟨hi, _⟩ := List.getElem?_eq_some_iff.mp hfault.1
    rw [List.append_nil] at hi
    exact hread i hi name hfault
  | cons first rest ih =>
    have hfirst := fault_length_iff read rest first
    by_cases hname : isName first = true
    · by_cases hseen : first ∈ read
      · refine .inr ⟨read.length, first, .duplicateNodeName first,
          ⟨(hfirst first).mpr ⟨rfl, .inr hseen⟩, hread⟩,
          .inr ⟨(isName_iff first).mp hname, rfl⟩, ?_⟩
        rw [offender, hname, if_neg (by decide), if_pos (List.mem_reverse.mpr hseen)]
      · have hclean := not_fault_snoc hread ((isName_iff first).mp hname) hseen
        -- The search holds what it read in reverse, so one more text goes to the front.
        have hrest := ih (read ++ [first]) hclean
        rw [List.append_assoc, List.singleton_append, List.reverse_append,
          List.reverse_singleton, List.singleton_append] at hrest
        rw [offender, hname, if_neg (by decide), if_neg (mt List.mem_reverse.mp hseen)]
        exact hrest
    · have hbad : ¬ Identifier first.toList := mt (isName_iff first).mpr hname
      refine .inr ⟨read.length, first, .invalidNodeName first,
        ⟨(hfirst first).mpr ⟨rfl, .inl hbad⟩, hread⟩, .inl ⟨hbad, rfl⟩, ?_⟩
      rw [offender, Bool.eq_false_iff.mpr hname, Bool.not_false, if_pos rfl]

/-! ## Accepted lists -/

theorem ofList_eq_error_iff {names : List String} {error : Error} :
    ofList names = .error error ↔ offender [] names = some error := by
  unfold ofList
  split <;> simp_all

theorem exists_ofList_eq_ok_iff {names : List String} :
    (∃ nodes, ofList names = .ok nodes) ↔ offender [] names = none := by
  unfold ofList
  split <;> simp_all

/-- Accepted are the lists of distinct identifiers. -/
theorem accepted_iff (names : List String) :
    (∃ nodes, ofList names = .ok nodes) ↔
      (∀ name ∈ names, Identifier name.toList) ∧ names.Nodup := by
  rw [exists_ofList_eq_ok_iff, ← faultless_iff]
  rcases offender_cases [] names (by simp) with ⟨hnone, hclean⟩ | ⟨i, name, error, hfault, _, hsome⟩
  · exact iff_of_true hnone hclean
  · refine iff_of_false ?_ fun hclean ↦ hclean i name hfault.1
    rw [List.reverse_nil] at hsome
    rw [hsome]
    exact Option.some_ne_none error

/-- A list that is not accepted is reported by its first fault. -/
theorem rejected_iff (names : List String) (error : Error) :
    ofList names = .error error ↔ ∃ i name, FirstFault names i name ∧ Reports error name := by
  rw [ofList_eq_error_iff]
  rcases offender_cases [] names (by simp) with ⟨hnone, hclean⟩ |
    ⟨i, name, found, hfault, hreports, hsome⟩
  · rw [List.reverse_nil] at hnone
    rw [hnone]
    refine iff_of_false (Option.some_ne_none error).symm ?_
    rintro ⟨i, name, hfault, _⟩
    exact hclean i name hfault.1
  · rw [List.reverse_nil] at hsome
    rw [hsome, Option.some.injEq]
    constructor
    · rintro rfl
      exact ⟨i, name, hfault, hreports⟩
    · rintro ⟨j, other, hother, hreported⟩
      obtain rfl := hfault.unique hother
      exact hreports.unique hreported

/-- The joined list is accepted if both parts are and share no name. -/
theorem accepted_append_iff (a b : List String) :
    (∃ nodes, ofList (a ++ b) = .ok nodes) ↔
      (∃ nodes, ofList a = .ok nodes) ∧ (∃ nodes, ofList b = .ok nodes) ∧
        ∀ name ∈ a, name ∉ b := by
  have hdisjoint : (∀ x ∈ a, ∀ y ∈ b, x ≠ y) ↔ ∀ name ∈ a, name ∉ b :=
    forall₂_congr fun x _ ↦ ⟨fun h hmem ↦ h x hmem rfl, fun h y hy heq ↦ h (heq ▸ hy)⟩
  simp only [accepted_iff, List.forall_mem_append, List.nodup_append, hdisjoint]
  constructor
  · rintro ⟨⟨ha, hb⟩, hnodupA, hnodupB, hshare⟩
    exact ⟨⟨ha, hnodupA⟩, ⟨hb, hnodupB⟩, hshare⟩
  · rintro ⟨⟨ha, hnodupA⟩, ⟨hb, hnodupB⟩, hshare⟩
    exact ⟨⟨ha, hb⟩, hnodupA, hnodupB, hshare⟩

/-- A list is accepted exactly if it consists of distinct identifiers, and then it is kept as it is.
Else the report is about the first text that is no identifier or equals an earlier one.  So two lists
are accepted as one exactly if both are accepted and they share no name. -/
theorem ofList_outcome (names : List String) :
    ((∃ nodes, ofList names = .ok nodes) ↔
        (∀ name ∈ names, Identifier name.toList) ∧ names.Nodup) ∧
      (∀ nodes, ofList names = .ok nodes → nodes.names = names) ∧
      (∀ error, ofList names = .error error ↔
        ∃ i name, FirstFault names i name ∧ Reports error name) ∧
      ∀ more, (∃ nodes, ofList (names ++ more) = .ok nodes) ↔
        (∃ nodes, ofList names = .ok nodes) ∧ (∃ nodes, ofList more = .ok nodes) ∧
          ∀ name ∈ names, name ∉ more :=
  ⟨accepted_iff names, fun _ ↦ names_eq_of_ofList, rejected_iff names, accepted_append_iff names⟩

/-- Of a repetition and a text that is no identifier, the one that comes first is reported. -/
theorem ofList_outcome_repeatedSlider :
    (∃ nodes, ofList ["slider", "größe"] = .ok nodes ∧ nodes.names = ["slider", "größe"]) ∧
      ofList ["slider", "größe", "slider", "1st"] = .error (.duplicateNodeName "slider") := by
  have hslider : Identifier "slider".toList := (isName_iff _).mp (by decide +kernel)
  have hsize : Identifier "größe".toList := (isName_iff _).mp (by decide +kernel)
  have hpair := ofList_outcome ["slider", "größe"]
  obtain ⟨nodes, hnodes⟩ := hpair.1.mpr
    ⟨List.forall_mem_cons.mpr ⟨hslider, List.forall_mem_singleton.mpr hsize⟩, by decide⟩
  refine ⟨⟨nodes, hnodes, hpair.2.1 nodes hnodes⟩, ?_⟩
  refine ((ofList_outcome _).2.2.1 _).mpr ⟨2, "slider", ⟨⟨rfl, .inr ⟨0, by decide, rfl⟩⟩, ?_⟩,
    .inr ⟨hslider, rfl⟩⟩
  rintro (_ | _ | j) hj other ⟨hget, hfault⟩
  · obtain rfl := Option.some.inj hget
    rcases hfault with hbad | ⟨i, hi, _⟩
    · exact hbad hslider
    · cases hi
  · obtain rfl := Option.some.inj hget
    rcases hfault with hbad | ⟨i, hi, hearlier⟩
    · exact hbad hsize
    · obtain rfl := Nat.lt_one_iff.mp hi
      exact absurd hearlier (by decide)
  · omega

end NodeNames

end Lowering

end CodeBehind
