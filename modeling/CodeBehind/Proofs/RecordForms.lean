import CodeBehind.Json.Reader
import Mathlib.Data.List.Forall2
import Mathlib.Data.List.Perm.Basic

/-!
# Forms of records

A record can be spelt as an object in many ways.  A field stands in one of its own forms, or it is
left out if its value is what a reader falls back to.  There may be members of other names, and all
members stand in any order.  A reader of the record reads all of these forms as the same record: each
member is read into the slot of its field, wherever it stands, and no slot is filled twice.

A tagged node has one more member, which is found wherever it stands.  Documents made from values
have no lapse, so only their depth is of interest, as a measure for readers of nodes that nest.
-/

namespace CodeBehind.Json

/-! ## Documents of values -/

/-- How deep arrays and objects nest. -/
def Value.depth (value : Value) : Nat :=
  (Doc.ofValue value).height

namespace Doc

theorem ofMembers_append (a b : List (String × Value)) :
    ofMembers (a ++ b) = ofMembers a ++ ofMembers b := by
  induction a with
  | nil => rw [ofMembers, List.nil_append, List.nil_append]
  | cons m rest ih => rw [List.cons_append, ofMembers, ofMembers, ih, List.cons_append]

mutual

theorem skip_ofValue : (value : Value) → (ofValue value).skip = .ok ()
  | .null => by rw [ofValue, skip] <;> simp
  | .bool _ => by rw [ofValue, skip] <;> simp
  | .number _ => by rw [ofValue, skip] <;> simp
  | .string _ => by rw [ofValue, skip] <;> simp
  | .array items => by
    rw [ofValue, skip, skipItems_ofItems items]
    rfl
  | .object members => by
    rw [ofValue, skip, skipMembers_ofMembers members]
    rfl

theorem skipItems_ofItems : (items : List Value) → skipItems (ofItems items) = .ok ()
  | [] => by rw [ofItems, skipItems]
  | item :: rest => by
    rw [ofItems, skipItems, skip_ofValue item]
    exact skipItems_ofItems rest

theorem skipMembers_ofMembers :
    (members : List (String × Value)) → skipMembers (ofMembers members) = .ok ()
  | [] => by rw [ofMembers, skipMembers]
  | (name, value) :: rest => by
    rw [ofMembers, skipMembers, skip_ofValue value]
    exact skipMembers_ofMembers rest

end

end Doc

namespace Value

theorem depth_array (items : List Value) :
    (array items).depth = Doc.heightItems (Doc.ofItems items) + 1 := by
  rw [depth, Doc.ofValue, Doc.height]

theorem depth_object (members : List (String × Value)) :
    (object members).depth = Doc.heightMembers (Doc.ofMembers members) + 1 := by
  rw [depth, Doc.ofValue, Doc.height]

theorem heightItems_le_iff {items : List Value} {n : Nat} :
    Doc.heightItems (Doc.ofItems items) ≤ n ↔ ∀ item ∈ items, item.depth ≤ n := by
  induction items with
  | nil => simp [Doc.ofItems, Doc.heightItems]
  | cons item rest ih =>
    rw [Doc.ofItems, Doc.heightItems, Nat.max_le, ih, List.forall_mem_cons]
    rfl

theorem heightMembers_le_iff {members : List (String × Value)} {n : Nat} :
    Doc.heightMembers (Doc.ofMembers members) ≤ n ↔ ∀ m ∈ members, m.2.depth ≤ n := by
  induction members with
  | nil => simp [Doc.ofMembers, Doc.heightMembers]
  | cons m rest ih =>
    rw [Doc.ofMembers, Doc.heightMembers, Nat.max_le, ih, List.forall_mem_cons]
    rfl

theorem depth_lt_of_mem_items {items : List Value} {item : Value} (h : item ∈ items) :
    item.depth < (array items).depth := by
  rw [depth_array]
  exact Nat.lt_succ_of_le (heightItems_le_iff.mp (Nat.le_refl _) item h)

theorem depth_lt_of_mem_members {members : List (String × Value)} {m : String × Value}
    (h : m ∈ members) : m.2.depth < (object members).depth := by
  rw [depth_object]
  exact Nat.lt_succ_of_le (heightMembers_le_iff.mp (Nat.le_refl _) m h)

theorem depth_object_le {a b : List (String × Value)} (h : ∀ m ∈ a, m ∈ b) :
    (object a).depth ≤ (object b).depth := by
  rw [depth_object a, depth_object b]
  apply Nat.succ_le_succ
  rw [heightMembers_le_iff]
  intro m hm
  exact heightMembers_le_iff.mp (Nat.le_refl _) m (h m hm)

end Value

/-! ## Forms -/

/-- How a field of a record is spelt: the values that stand for it, and whether it may be left
out. -/
structure Spelling where
  name : String
  form : Value → Prop
  silent : Prop

namespace Spelling

def required (name : String) (form : Value → Prop) : Spelling where
  name := name
  form := form
  silent := False

/-- The member that holds the tag of a node. -/
def tag (name : String) : Spelling :=
  required Reader.tagName (· = .string name)

end Spelling

/-- The members of a record in the order of its fields, without some of those that may be left
out. -/
inductive Kept : List Spelling → List (String × Value) → Prop where
  | nil : Kept [] []
  | keep {field : Spelling} {fields : List Spelling} {value : Value}
      {members : List (String × Value)} (form : field.form value) (rest : Kept fields members) :
      Kept (field :: fields) ((field.name, value) :: members)
  | drop {field : Spelling} {fields : List Spelling} {members : List (String × Value)}
      (silent : field.silent) (rest : Kept fields members) : Kept (field :: fields) members

/-- The objects that spell a record: its members and others, in any order.  The others have neither
the name of a field nor that of a tag. -/
inductive RecordForm (fields : List Spelling) : Value → Prop where
  | object {members kept others : List (String × Value)} (kept_fields : Kept fields kept)
      (others_names : ∀ m ∈ others, m.1 ≠ Reader.tagName ∧ m.1 ∉ fields.map (·.name))
      (perm : members.Perm (kept ++ others)) : RecordForm fields (.object members)

/-- The arrays whose items spell the items of a list, in their order. -/
inductive ListForm {α : Type} (form : α → Value → Prop) (xs : List α) : Value → Prop where
  | array {items : List Value} (forms : List.Forall₂ form xs items) : ListForm form xs (.array items)

/-- What is absent is null. -/
def OptionForm {α : Type} (form : α → Value → Prop) : Option α → Value → Prop
  | none, value => value = .null
  | some a, value => form a value

namespace Spelling

variable {α : Type} (name : String) (form : α → Value → Prop)

/-- A list, which may be left out if it is empty. -/
def list (xs : List α) : Spelling where
  name := name
  form := ListForm form xs
  silent := xs = []

/-- An optional value, which may be left out if it is absent. -/
def optional (value : Option α) : Spelling where
  name := name
  form := OptionForm form value
  silent := value = none

end Spelling

theorem RecordForm.ne_null {fields : List Spelling} {value : Value} (h : RecordForm fields value) :
    value ≠ .null := by
  cases h
  exact nofun

/-- Members in the order of the fields, and nothing else. -/
theorem RecordForm.of_kept {fields : List Spelling} {members : List (String × Value)}
    (h : Kept fields members) : RecordForm fields (.object members) := by
  apply RecordForm.object h (List.forall_mem_nil _)
  rw [List.append_nil]

/-- Other members and then those of the record, all in reverse order. -/
theorem RecordForm.of_reverse {fields : List Spelling} {kept : List (String × Value)}
    (h : Kept fields kept) (others : List (String × Value))
    (hothers : ∀ m ∈ others, m.1 ≠ Reader.tagName ∧ m.1 ∉ fields.map (·.name)) :
    RecordForm fields (.object (kept ++ others).reverse) :=
  .object h hothers (List.reverse_perm _)

section Lists

variable {α : Type} {form : α → Value → Prop}

theorem listForm_nil_iff {value : Value} : ListForm form [] value ↔ value = .array [] := by
  constructor
  · rintro ⟨hforms⟩
    rw [List.forall₂_nil_left_iff.mp hforms]
  · rintro rfl
    exact .array .nil

theorem listForm_cons_iff {x : α} {xs : List α} {value : Value} :
    ListForm form (x :: xs) value ↔
      ∃ item items, value = .array (item :: items) ∧ form x item ∧
        ListForm form xs (.array items) := by
  constructor
  · rintro ⟨hforms⟩
    obtain ⟨item, items, hitem, hitems, rfl⟩ := List.forall₂_cons_left_iff.mp hforms
    exact ⟨item, items, rfl, hitem, .array hitems⟩
  · rintro ⟨item, items, rfl, hitem, ⟨hitems⟩⟩
    exact .array (.cons hitem hitems)

theorem listForm_map {write : α → Value} {xs : List α} (h : ∀ x ∈ xs, form x (write x)) :
    ListForm form xs (.array (xs.map write)) :=
  .array (List.forall₂_map_right_iff.mpr (List.forall₂_same.mpr h))

end Lists

theorem Kept.sublist {fields : List Spelling} {members : List (String × Value)}
    (h : Kept fields members) : (members.map (·.1)).Sublist (fields.map (·.name)) := by
  induction h with
  | nil => exact .refl _
  | keep form rest ih => exact ih.cons_cons _
  | drop silent rest ih => exact ih.cons _

/-! ## Reading values -/

/-- The depth of documents from there has no limit. -/
def Origin.Unlimited : Origin → Prop
  | .text _ => False
  | _ => True

/-- Wherever a value comes from, if not from a text, it is read as `a`. -/
def Reads {α : Type} (reader : Reader α) (a : α) (value : Value) : Prop :=
  ∀ origin : Origin, origin.Unlimited → reader origin (Doc.ofValue value) = .ok a

section Reading

variable {α β : Type}

theorem Origin.Unlimited.enter {origin : Origin} (h : origin.Unlimited) :
    origin.enter = .ok origin := by
  cases origin with
  | text levels => exact h.elim
  | value => rfl
  | held => rfl

theorem Origin.Unlimited.hold {origin : Origin} (h : origin.Unlimited) (doc : Doc) :
    origin.hold doc = .ok () := by
  cases origin with
  | text levels => exact h.elim
  | value => rfl
  | held => rfl

theorem Reads.map {reader : Reader α} {a : α} {value : Value} (h : Reads reader a value)
    (f : α → β) : Reads (reader.map f) (f a) value := by
  intro origin horigin
  rw [Reader.map, h origin horigin]
  rfl

theorem reads_string (text : String) : Reads Reader.string text (.string text) := by
  intro origin _
  rw [Doc.ofValue]
  rfl

theorem reads_list {reader : Reader α} {form : α → Value → Prop} {xs : List α} {value : Value}
    (h : ListForm form xs value)
    (hreads : ∀ x ∈ xs, ∀ item, form x item → item.depth < value.depth → Reads reader x item) :
    Reads (Reader.list reader) xs value := by
  intro origin horigin
  obtain ⟨hforms⟩ := h
  rename_i items
  have hitems : Reader.readItems reader origin (Doc.ofItems items) = .ok xs := by
    have hlower (item : Value) (hitem : item ∈ items) := Value.depth_lt_of_mem_items hitem
    generalize (Value.array items).depth = depth at hreads hlower
    induction hforms with
    | nil =>
      rw [Doc.ofItems]
      rfl
    | @cons x item xs items hform hforms ih =>
      obtain ⟨hx, hxs⟩ := List.forall_mem_cons.mp hreads
      obtain ⟨hitem, hitems⟩ := List.forall_mem_cons.mp hlower
      rw [Doc.ofItems, Reader.readItems, hx item hform hitem origin horigin]
      change (Reader.readItems reader origin (Doc.ofItems items) >>= _) = _
      rw [ih hxs hitems]
      rfl
  rw [Doc.ofValue, Reader.list, horigin.enter]
  change (Reader.readItems reader origin (Doc.ofItems items) >>= _) = _
  rw [hitems]
  rfl

theorem reads_null (reader : Reader α) : Reads (Reader.optional reader) none .null := by
  intro origin _
  rw [Doc.ofValue]
  rfl

theorem Reads.some {reader : Reader α} {a : α} {value : Value} (h : Reads reader a value)
    (hne : value ≠ .null) : Reads (Reader.optional reader) (some a) value := by
  intro origin horigin
  have hread := h origin horigin
  cases value with
  | null => exact absurd rfl hne
  | bool _ => simp_all [Reader.optional, Doc.ofValue, Except.map]
  | number _ => simp_all [Reader.optional, Doc.ofValue, Except.map]
  | string _ => simp_all [Reader.optional, Doc.ofValue, Except.map]
  | array _ => simp_all [Reader.optional, Doc.ofValue, Except.map]
  | object _ => simp_all [Reader.optional, Doc.ofValue, Except.map]

end Reading

/-! ## Slots -/

namespace Fields

/-- The slots once the fields of some names are read. -/
def partly : {α : Type} → (fields : Fields α) → α → List String → fields.Slots
  | _, done, _, _ => ()
  | _, field name _ _ others, a, given =>
    (if name ∈ given then some a.1 else none, others.partly a.2 given)

/-- If a member has the name of a field, then the field is read from it. -/
def Takes : {α : Type} → Fields α → α → Origin → String → Doc → Prop
  | _, done, _, _, _, _ => True
  | _, field name reader _ others, a, origin, key, doc =>
    if key = name then reader origin doc = .ok a.1 else others.Takes a.2 origin key doc

section

variable {α : Type}

theorem partly_nil (fields : Fields α) (a : α) : fields.partly a [] = fields.vacant := by
  induction fields with
  | done => rfl
  | field name reader fallback others ih =>
    rw [partly, vacant, ih]
    rfl

theorem partly_cons {fields : Fields α} {key : String} (h : key ∉ fields.names) (a : α)
    (given : List String) : fields.partly a (key :: given) = fields.partly a given := by
  induction fields with
  | done => rfl
  | field name reader fallback others ih =>
    rw [names, List.mem_cons, not_or] at h
    simp only [partly, ih h.2, List.mem_cons, Ne.symm h.1, false_or]
    rfl

theorem takes_of_not_mem {fields : Fields α} {key : String} (h : key ∉ fields.names) (a : α)
    (origin : Origin) (doc : Doc) : fields.Takes a origin key doc := by
  induction fields with
  | done => trivial
  | field name reader fallback others ih =>
    rw [names, List.mem_cons, not_or] at h
    rw [Takes, if_neg h.1]
    exact ih h.2 a.2

theorem place_of_not_mem {fields : Fields α} {key : String} (h : key ∉ fields.names)
    (origin : Origin) (doc : Doc) (slots : fields.Slots) :
    fields.place origin key doc slots = .ok none := by
  induction fields with
  | done => rfl
  | field name reader fallback others ih =>
    rw [names, List.mem_cons, not_or] at h
    simp only [place, beq_iff_eq, h.1, if_false, ih h.2]
    rfl

/-- A member is read into the slot of its field, if nothing is there. -/
theorem place_partly {fields : Fields α} (hnames : fields.names.Nodup) {a : α} {origin : Origin}
    {key : String} {doc : Doc} {given : List String} (hmem : key ∈ fields.names)
    (htakes : fields.Takes a origin key doc) (hgiven : key ∉ given) :
    fields.place origin key doc (fields.partly a given) =
      .ok (some (fields.partly a (key :: given))) := by
  induction fields with
  | done => cases hmem
  | field name reader fallback others ih =>
    rw [names, List.nodup_cons] at hnames
    rw [Takes] at htakes
    by_cases hkey : key = name
    · subst hkey
      rw [if_pos rfl] at htakes
      simp only [place, partly, hgiven, htakes, partly_cons hnames.1, beq_self_eq_true, if_true,
        if_false, Option.isSome_none, Bool.false_eq_true, List.mem_cons, true_or]
      rfl
    · rw [if_neg hkey] at htakes
      have hrest : key ∈ others.names := (List.mem_cons.mp hmem).resolve_left hkey
      simp only [place, partly, beq_iff_eq, hkey, if_false, ih hnames.2 hrest htakes,
        List.mem_cons, Ne.symm hkey, false_or]
      rfl

/-- Members are read in their order, and other members are passed over. -/
theorem placeAll_partly {fields : Fields α} (hnames : fields.names.Nodup) {a : α} {origin : Origin}
    {members : List (String × Value)} {given : List String}
    (htakes : ∀ m ∈ members, fields.Takes a origin m.1 (Doc.ofValue m.2))
    (hnodup : ((members.map (·.1)).filter (· ∈ fields.names)).Nodup)
    (hgiven : ∀ m ∈ members, m.1 ∈ fields.names → m.1 ∉ given) :
    fields.placeAll false origin (Doc.ofMembers members) (fields.partly a given) =
      .ok (fields.partly a ((members.map (·.1)).reverse ++ given)) := by
  induction members generalizing given with
  | nil =>
    rw [Doc.ofMembers]
    rfl
  | cons m rest ih =>
    obtain ⟨key, value⟩ := m
    obtain ⟨htake, htakes⟩ := List.forall_mem_cons.mp htakes
    obtain ⟨hfresh, hfreshRest⟩ := List.forall_mem_cons.mp hgiven
    have hkeys : (((key, value) :: rest).map (·.1)).reverse ++ given =
        (rest.map (·.1)).reverse ++ key :: given := by simp
    rw [Doc.ofMembers, placeAll, hkeys]
    by_cases hmem : key ∈ fields.names
    · rw [List.map_cons, List.filter_cons_of_pos (by simpa using hmem), List.nodup_cons] at hnodup
      have hplace := place_partly hnames hmem htake (hfresh hmem)
      have hrest : ∀ m ∈ rest, m.1 ∈ fields.names → m.1 ∉ key :: given := by
        intro m hm hname hin
        rcases List.mem_cons.mp hin with heq | hin
        · apply hnodup.1
          have hkey : key ∈ rest.map (·.1) := List.mem_map.mpr ⟨m, hm, heq⟩
          exact List.mem_filter.mpr ⟨hkey, by simpa using hmem⟩
        · exact hfreshRest m hm hname hin
      change (fields.place origin key (Doc.ofValue value) _ >>= _) = _
      rw [hplace]
      exact ih htakes hnodup.2 hrest
    · rw [List.map_cons, List.filter_cons_of_neg (by simpa using hmem)] at hnodup
      change (fields.place origin key (Doc.ofValue value) _ >>= _) = _
      rw [place_of_not_mem hmem]
      change (Fault.ofBreak (Doc.ofValue value).skip >>= _) = _
      rw [Doc.skip_ofValue, ← partly_cons hmem a given]
      apply ih htakes hnodup
      intro m hm hname hin
      rcases List.mem_cons.mp hin with heq | hin
      · exact hmem (heq ▸ hname)
      · exact hfreshRest m hm hname hin

end

end Fields

/-! ## Records -/

/-- The fields of a record, read as `a`, and the way in which they are spelt.  A form is only read if
its depth is below a bound, and a field that may be left out is what a reader falls back to. -/
inductive Spells (bound : Nat) : {α : Type} → Fields α → α → List Spelling → Prop where
  | done : Spells bound .done () []
  | field {α β : Type} {name : String} {reader : Reader α} {fallback : Option α} {others : Fields β}
      {a : α} {b : β} {form : Value → Prop} {silent : Prop} {rest : List Spelling}
      (reads : ∀ value, form value → value.depth < bound → Reads reader a value)
      (falls : silent → fallback = some a) (others_spelt : Spells bound others b rest) :
      Spells bound (.field name reader fallback others) (a, b) (⟨name, form, silent⟩ :: rest)

namespace Spells

variable {α : Type} {bound : Nat} {fields : Fields α} {a : α} {spellings : List Spelling}

theorem names_eq (h : Spells bound fields a spellings) :
    fields.names = spellings.map (·.name) := by
  induction h with
  | done => rfl
  | field reads falls others_spelt ih => rw [Fields.names, ih, List.map_cons]

/-- A member that stands for a field is read into it. -/
theorem takes (h : Spells bound fields a spellings) (hnodup : fields.names.Nodup)
    {members : List (String × Value)} (hkept : Kept spellings members) {m : String × Value} (hm : m ∈ members)
    (hdepth : m.2.depth < bound) {origin : Origin} (horigin : origin.Unlimited) :
    fields.Takes a origin m.1 (Doc.ofValue m.2) := by
  induction h generalizing members with
  | done =>
    cases hkept
    cases hm
  | @field α β name reader fallback others a b form silent rest reads falls hothers ih =>
    obtain ⟨hfresh, hnodup⟩ := List.nodup_cons.mp hnodup
    -- A member of one of the other fields has another name.
    have hother {members : List (String × Value)} (hrest : Kept rest members) (hm : m ∈ members) :
        (Fields.field name reader fallback others).Takes (a, b) origin m.1 (Doc.ofValue m.2) := by
      have hmem : m.1 ∈ others.names := by
        rw [hothers.names_eq]
        exact hrest.sublist.mem (List.mem_map_of_mem hm)
      have hne : m.1 ≠ name := fun heq ↦ hfresh (heq ▸ hmem)
      rw [Fields.Takes, if_neg hne]
      exact ih hnodup hrest hm
    cases hkept with
    | keep hform hrest =>
      rcases List.mem_cons.mp hm with rfl | hm
      · rw [Fields.Takes, if_pos rfl]
        exact reads _ hform hdepth origin horigin
      · exact hother hrest hm
    | drop hsilent hrest => exact hother hrest hm

/-- The fields that are not given are what a reader falls back to. -/
theorem finish (h : Spells bound fields a spellings) {members : List (String × Value)}
    (hkept : Kept spellings members) {given : List String}
    (hgiven : ∀ m ∈ members, m.1 ∈ given) : fields.finish (fields.partly a given) = .ok a := by
  induction h generalizing members with
  | done => rfl
  | @field α β name reader fallback others a b form silent rest reads falls hothers ih =>
    have hslot {members : List (String × Value)} (hrest : Kept rest members)
        (hgiven : ∀ m ∈ members, m.1 ∈ given)
        (hvalue : ((if name ∈ given then some a else none) <|> fallback) = some a) :
        (Fields.field name reader fallback others).finish
          ((Fields.field name reader fallback others).partly (a, b) given) = .ok (a, b) := by
      simp only [Fields.finish, Fields.partly, hvalue, ih hrest hgiven]
      rfl
    cases hkept with
    | keep hform hrest =>
      obtain ⟨hname, hgiven⟩ := List.forall_mem_cons.mp hgiven
      apply hslot hrest hgiven
      rw [if_pos hname]
      rfl
    | drop hsilent hrest =>
      apply hslot hrest hgiven
      rw [falls hsilent]
      split <;> rfl

/-! Fields of the usual kinds. -/

section Kinds

variable {β γ : Type} {others : Fields β} {b : β} {rest : List Spelling} {name : String}

theorem required {reader : Reader γ} {c : γ} {form : Value → Prop}
    (hreads : ∀ value, form value → value.depth < bound → Reads reader c value)
    (h : Spells bound others b rest) :
    Spells bound (.field name reader none others) (c, b) (.required name form :: rest) :=
  .field hreads False.elim h

theorem list {reader : Reader γ} {form : γ → Value → Prop} {xs : List γ}
    (hreads : ∀ x ∈ xs, ∀ item, form x item → item.depth < bound → Reads reader x item)
    (h : Spells bound others b rest) :
    Spells bound (.field name (Reader.list reader) (some []) others) (xs, b)
      (.list name form xs :: rest) := by
  refine .field (fun value hvalue hdepth ↦ ?_) (fun hsilent ↦ ?_) h
  · apply reads_list hvalue
    intro x hx item hitem hlt
    exact hreads x hx item hitem (Nat.lt_trans hlt hdepth)
  · rw [hsilent]

theorem optional {reader : Reader γ} {form : γ → Value → Prop} {c : Option γ}
    (hnull : ∀ x value, form x value → value ≠ .null)
    (hreads : ∀ x ∈ c, ∀ value, form x value → value.depth < bound → Reads reader x value)
    (h : Spells bound others b rest) :
    Spells bound (.field name (Reader.optional reader) (some none) others) (c, b)
      (.optional name form c :: rest) := by
  refine .field (fun value hvalue hdepth ↦ ?_) (fun hsilent ↦ ?_) h
  · cases c with
    | none =>
      obtain rfl : value = .null := hvalue
      exact reads_null reader
    | some x => exact (hreads x rfl value hvalue hdepth).some (hnull x value hvalue)
  · rw [hsilent]

end Kinds

end Spells

/-- A record is read from all its forms. -/
theorem reads_record {α : Type} {bound : Nat} {fields : Fields α} {a : α}
    {spellings : List Spelling} (name : String)
    (hdistinct : decide (spellings.map (·.name)).Nodup = true) {value : Value}
    (hform : RecordForm spellings value) (hdepth : value.depth ≤ bound)
    (hspells : Spells bound fields a spellings) : Reads (Reader.record name fields) a value := by
  intro origin horigin
  obtain ⟨hkept, hothers, hperm⟩ := hform
  rename_i members kept others
  have hnames : fields.names.Nodup := hspells.names_eq ▸ of_decide_eq_true hdistinct
  have hbound (m : String × Value) (hm : m ∈ members) : m.2.depth < bound :=
    Nat.lt_of_lt_of_le (Value.depth_lt_of_mem_members hm) hdepth
  have htakes : ∀ m ∈ members, fields.Takes a origin m.1 (Doc.ofValue m.2) := by
    intro m hm
    rcases List.mem_append.mp (hperm.mem_iff.mp hm) with hkeptMem | hotherMem
    · exact hspells.takes hnames hkept hkeptMem (hbound m hm) horigin
    · exact Fields.takes_of_not_mem (hspells.names_eq ▸ (hothers m hotherMem).2) a origin _
  have hnodup : ((members.map (·.1)).filter (· ∈ fields.names)).Nodup := by
    have hotherNames : (others.map (·.1)).filter (· ∈ fields.names) = [] := by
      rw [List.filter_eq_nil_iff]
      intro key hkey
      obtain ⟨m, hm, rfl⟩ := List.mem_map.mp hkey
      simpa [hspells.names_eq] using (hothers m hm).2
    have hkeptNames : ((kept.map (·.1)).filter (· ∈ fields.names)).Nodup :=
      (hnames.sublist (hspells.names_eq ▸ hkept.sublist)).filter _
    have hfilter := (hperm.map (·.1)).filter (· ∈ fields.names)
    rw [List.map_append, List.filter_append, hotherNames, List.append_nil] at hfilter
    exact hfilter.nodup_iff.mpr hkeptNames
  have hplaced : fields.placeAll false origin (Doc.ofMembers members) (fields.partly a []) = _ :=
    Fields.placeAll_partly hnames htakes hnodup fun m _ _ ↦ List.not_mem_nil
  have hfinish : fields.finish (fields.partly a ((members.map (·.1)).reverse ++ [])) = .ok a := by
    apply hspells.finish hkept
    intro m hm
    have hmem : m ∈ members := hperm.mem_iff.mpr (List.mem_append_left _ hm)
    simpa using ⟨m.2, hmem⟩
  rw [Fields.partly_nil] at hplaced
  rw [Doc.ofValue]
  change (origin.enter >>= _) = _
  rw [horigin.enter]
  change (fields.placeAll false origin (Doc.ofMembers members) fields.vacant >>= _) = _
  rw [hplaced]
  exact hfinish

/-! ## Tagged nodes -/

section Tagged

variable {α : Type} {variants : List (Reader.Variant α)}

/-- Members that stand before the tag are set aside in their order. -/
theorem splitTag_append {origin : Origin} (horigin : origin.Unlimited)
    {members : List (String × Value)} (h : ∀ m ∈ members, m.1 ≠ Reader.tagName)
    (found : Option (Reader.Variant α)) (rest : List (Doc × Doc)) :
    Reader.splitTag variants origin found (Doc.ofMembers members ++ rest) =
      (Reader.splitTag variants origin found rest).map fun split ↦
        (split.1, Doc.ofMembers members ++ split.2) := by
  induction members with
  | nil =>
    rw [Doc.ofMembers, List.nil_append]
    cases Reader.splitTag variants origin found rest <;> rfl
  | cons m others ih =>
    obtain ⟨key, value⟩ := m
    obtain ⟨hkey, hothers⟩ := List.forall_mem_cons.mp h
    have hname : (key == Reader.tagName) = false := by simpa using hkey
    have hstep : Reader.splitTag variants origin found
        ((.string key, Doc.ofValue value) :: (Doc.ofMembers others ++ rest)) =
          (Reader.splitTag variants origin found (Doc.ofMembers others ++ rest)).map fun split ↦
            (split.1, (.string key, Doc.ofValue value) :: split.2) := by
      simp only [Reader.splitTag, Doc.name, Fault.ofBreak, bind, Except.bind, hname, horigin.hold,
        Bool.false_eq_true, if_false]
      cases Reader.splitTag variants origin found (Doc.ofMembers others ++ rest) <;> rfl
    rw [Doc.ofMembers, List.cons_append, hstep, ih hothers]
    cases Reader.splitTag variants origin found rest <;> rfl

theorem splitTag_ofMembers {origin : Origin} (horigin : origin.Unlimited)
    {members : List (String × Value)} (h : ∀ m ∈ members, m.1 ≠ Reader.tagName)
    (found : Option (Reader.Variant α)) :
    Reader.splitTag variants origin found (Doc.ofMembers members) =
      .ok (found, Doc.ofMembers members) := by
  have hsplit : Reader.splitTag variants origin found (Doc.ofMembers members ++ []) = _ :=
    splitTag_append horigin h found []
  rw [List.append_nil] at hsplit
  rw [hsplit, Reader.splitTag]
  simp [Except.map]

/-- The tag is one of the members, and the others spell the record that comes with it. -/
theorem RecordForm.exists_tag {tag : String} {spellings : List Spelling}
    (hfresh : Reader.tagName ∉ spellings.map (·.name)) {value : Value}
    (h : RecordForm (.tag tag :: spellings) value) :
    ∃ before behind, value = .object (before ++ (Reader.tagName, .string tag) :: behind) ∧
      (∀ m ∈ before ++ behind, m.1 ≠ Reader.tagName) ∧
      RecordForm spellings (.object (before ++ behind)) := by
  obtain ⟨hkept, hothers, hperm⟩ := h
  rename_i members kept others
  cases hkept with
  | drop hsilent _ => exact hsilent.elim
  | @keep _ _ held kept hheld hkept =>
    obtain rfl : held = .string tag := hheld
    obtain ⟨before, behind, rfl⟩ := List.append_of_mem
      (hperm.mem_iff.mpr (List.mem_append_left others (List.mem_cons_self ..)))
    have hrest : (before ++ behind).Perm (kept ++ others) :=
      (List.perm_middle.symm.trans hperm).cons_inv
    refine ⟨before, behind, rfl, fun m hm ↦ ?_, .object hkept (fun m hm ↦ ?_) hrest⟩
    · rcases List.mem_append.mp (hrest.mem_iff.mp hm) with hkeptMem | hotherMem
      · have hname := hkept.sublist.mem (List.mem_map_of_mem hkeptMem)
        exact fun heq ↦ hfresh (heq ▸ hname)
      · exact (hothers m hotherMem).1
    · exact ⟨(hothers m hm).1, fun hname ↦ (hothers m hm).2 (List.mem_cons_of_mem _ hname)⟩

theorem variant_string {chosen : Reader.Variant α} {tag : String}
    (hfind : variants.find? (·.name == tag) = some chosen) (origin : Origin) :
    Reader.variant variants origin (.string tag) = .ok chosen := by
  simp [Reader.variant, hfind]

/-- The tag is found wherever it stands, and chooses the reader of what is left. -/
theorem reads_tagged {chosen : Reader.Variant α} {tag : String} (name : String)
    (hfind : variants.find? (·.name == tag) = some chosen) {spellings : List Spelling}
    (hfresh : (spellings.map (·.name)).contains Reader.tagName = false) {value : Value}
    (hform : RecordForm (.tag tag :: spellings) value) {a : α}
    {bound : Nat} (hbound : value.depth ≤ bound)
    (hreads : ∀ rest, RecordForm spellings rest → rest.depth ≤ bound →
      Reads chosen.reader a rest) :
    Reads (Reader.tagged name variants) a value := by
  intro origin horigin
  obtain ⟨before, behind, rfl, hnames, hrest⟩ :=
    hform.exists_tag (by simpa using hfresh)
  obtain ⟨hbefore, hbehind⟩ := List.forall_mem_append.mp hnames
  have hdepth : (Value.object (before ++ behind)).depth ≤
      (Value.object (before ++ (Reader.tagName, .string tag) :: behind)).depth := by
    apply Value.depth_object_le
    intro m hm
    rcases List.mem_append.mp hm with hm | hm
    · exact List.mem_append_left _ hm
    · exact List.mem_append_right _ (List.mem_cons_of_mem _ hm)
  have hsplit : Reader.splitTag variants origin none
      (Doc.ofMembers (before ++ (Reader.tagName, .string tag) :: behind)) =
        .ok (some chosen, Doc.ofMembers (before ++ behind)) := by
    have htag : Reader.splitTag variants origin none
        (Doc.ofMembers ((Reader.tagName, .string tag) :: behind)) =
          .ok (some chosen, Doc.ofMembers behind) := by
      rw [Doc.ofMembers, Doc.ofValue]
      change (Reader.variant variants origin (.string tag) >>= fun found ↦
        Reader.splitTag variants origin (some found) (Doc.ofMembers behind)) = _
      rw [variant_string hfind]
      exact splitTag_ofMembers horigin hbehind (some chosen)
    rw [Doc.ofMembers_append, splitTag_append horigin hbefore, htag, Doc.ofMembers_append]
    rfl
  rw [Doc.ofValue]
  change (origin.enter >>= _) = _
  rw [horigin.enter]
  change (Reader.splitTag variants origin none _ >>= _) = _
  rw [hsplit]
  have hread := hreads _ hrest (Nat.le_trans hdepth hbound) .held trivial
  rw [Doc.ofValue] at hread
  exact hread

end Tagged

end CodeBehind.Json
