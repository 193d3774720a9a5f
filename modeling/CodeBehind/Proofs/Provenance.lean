import CodeBehind.Json.Reader

/-!
# Where read values come from

A reader that succeeds has made its value from parts of the document.  A field of a record is what
the reader falls back to, or it was read from a document that is less deep than that of the record,
whichever way the record is spelt.  A tagged node was read from what is left without its tag, and in
a text all of that was set aside first, so it is no deeper than the text allows.
-/

namespace CodeBehind.Json

theorem exists_of_bind_eq_ok {ε α β : Type} {value : Except ε α} {next : α → Except ε β} {b : β}
    (h : (value >>= next) = .ok b) : ∃ a, value = .ok a ∧ next a = .ok b := by
  cases value with
  | error error => cases h
  | ok a => exact ⟨a, rfl, h⟩

theorem exists_of_map_eq_ok {ε α β : Type} {f : α → β} {value : Except ε α} {b : β}
    (h : value.map f = .ok b) : ∃ a, value = .ok a ∧ f a = b := by
  cases value with
  | error error => cases h
  | ok a => exact ⟨a, rfl, Except.ok.inj h⟩

/-! ## Heights of documents -/

namespace Doc

theorem heightItems_le_iff {items : List Doc} {n : Nat} :
    heightItems items ≤ n ↔ ∀ item ∈ items, item.height ≤ n := by
  induction items with
  | nil => simp [heightItems]
  | cons item rest ih => rw [heightItems, Nat.max_le, ih, List.forall_mem_cons]

theorem heightMembers_le_iff {members : List (Doc × Doc)} {n : Nat} :
    heightMembers members ≤ n ↔ ∀ m ∈ members, m.2.height ≤ n := by
  induction members with
  | nil => simp [heightMembers]
  | cons m rest ih => rw [heightMembers, Nat.max_le, ih, List.forall_mem_cons]

theorem height_lt_of_mem_items {items : List Doc} {wrong : Option Break} {item : Doc}
    (h : item ∈ items) : item.height < (array items wrong).height := by
  rw [height]
  exact Nat.lt_succ_of_le (heightItems_le_iff.mp (Nat.le_refl _) item h)

theorem height_lt_of_mem_members {members : List (Doc × Doc)} {wrong : Option Break}
    {m : Doc × Doc} (h : m ∈ members) : m.2.height < (object members wrong).height := by
  rw [height]
  exact Nat.lt_succ_of_le (heightMembers_le_iff.mp (Nat.le_refl _) m h)

theorem unexpected_ne_ok {α : Type} {doc : Doc} {expected : Expected} {a : α} :
    doc.unexpected expected ≠ .ok a := by
  cases doc <;> exact fun h ↦ nomatch h

mutual

/-- What can be set aside is not deeper than allowed. -/
theorem height_le_of_hold {levels : Nat} : (doc : Doc) → doc.hold levels = .ok () →
    doc.height ≤ levels - 1
  | null, _ => by rw [height] <;> simp
  | bool _, _ => by rw [height] <;> simp
  | number _, _ => by rw [height] <;> simp
  | string _, _ => by rw [height] <;> simp
  | lapse _, _ => by rw [height] <;> simp
  | array items wrong, h => by
    rw [hold] at h
    split at h
    next => cases h
    next hlevels =>
      obtain ⟨_, hitems, _⟩ := exists_of_bind_eq_ok h
      have hle := heightItems_le_of_hold items hitems
      rw [height]
      omega
  | object members wrong, h => by
    rw [hold] at h
    split at h
    next => cases h
    next hlevels =>
      obtain ⟨_, hmembers, _⟩ := exists_of_bind_eq_ok h
      have hle := heightMembers_le_of_hold members hmembers
      rw [height]
      omega

theorem heightItems_le_of_hold {levels : Nat} : (items : List Doc) →
    holdItems levels items = .ok () → heightItems items ≤ levels - 1
  | [], _ => by rw [heightItems]; exact Nat.zero_le _
  | item :: rest, h => by
    rw [holdItems] at h
    obtain ⟨_, hitem, hrest⟩ := exists_of_bind_eq_ok h
    rw [heightItems, Nat.max_le]
    exact ⟨height_le_of_hold item hitem, heightItems_le_of_hold rest hrest⟩

theorem heightMembers_le_of_hold {levels : Nat} : (members : List (Doc × Doc)) →
    holdMembers levels members = .ok () → heightMembers members ≤ levels - 1
  | [], _ => by rw [heightMembers]; exact Nat.zero_le _
  | (key, value) :: rest, h => by
    rw [holdMembers] at h
    obtain ⟨_, _, h⟩ := exists_of_bind_eq_ok h
    obtain ⟨_, hvalue, hrest⟩ := exists_of_bind_eq_ok h
    rw [heightMembers, Nat.max_le]
    exact ⟨height_le_of_hold value hvalue, heightMembers_le_of_hold rest hrest⟩

end

end Doc

theorem Origin.height_le_of_hold {levels : Nat} {doc : Doc}
    (h : (Origin.text levels).hold doc = .ok ()) : doc.height ≤ levels - 1 := by
  rw [hold] at h
  cases hdoc : doc.hold levels with
  | error wrong =>
    rw [hdoc] at h
    cases h
  | ok _ => exact Doc.height_le_of_hold doc hdoc

theorem Origin.enter_text {levels : Nat} {inside : Origin}
    (h : (Origin.text levels).enter = .ok inside) :
    inside = .text (levels - 1) ∧ 1 < levels := by
  rw [enter] at h
  split at h
  next => cases h
  next hlevels => exact ⟨(Except.ok.inj h).symm, by omega⟩

/-! ## Lists and choices -/

section Readers

variable {α β : Type} {reader : Reader α} {origin : Origin} {doc : Doc}

theorem exists_of_map_reader {f : α → β} {b : β} (h : Reader.map f reader origin doc = .ok b) :
    ∃ a, reader origin doc = .ok a ∧ f a = b :=
  exists_of_map_eq_ok h

theorem of_optional {a : α} (h : Reader.optional reader origin doc = .ok (some a)) :
    reader origin doc = .ok a := by
  unfold Reader.optional at h
  split at h
  next => cases h
  next =>
    obtain ⟨b, hread, hb⟩ := exists_of_map_eq_ok h
    rw [hread, Option.some.inj hb]

theorem exists_of_readItems {items : List Doc} {xs : List α}
    (h : Reader.readItems reader origin items = .ok xs) :
    ∀ x ∈ xs, ∃ item ∈ items, reader origin item = .ok x := by
  induction items generalizing xs with
  | nil =>
    obtain rfl : [] = xs := Except.ok.inj h
    simp
  | cons item rest ih =>
    rw [Reader.readItems] at h
    obtain ⟨first, hfirst, h⟩ := exists_of_bind_eq_ok h
    obtain ⟨others, hothers, h⟩ := exists_of_bind_eq_ok h
    obtain rfl : first :: others = xs := Except.ok.inj h
    rw [List.forall_mem_cons]
    refine ⟨⟨item, List.mem_cons_self .., hfirst⟩, fun x hx ↦ ?_⟩
    obtain ⟨found, hmem, hread⟩ := ih hothers x hx
    exact ⟨found, List.mem_cons_of_mem _ hmem, hread⟩

/-- The items of a list were read from documents inside of it. -/
theorem exists_of_list {xs : List α} (h : Reader.list reader origin doc = .ok xs) :
    ∃ inside, origin.enter = .ok inside ∧
      ∀ x ∈ xs, ∃ item : Doc, item.height < doc.height ∧ reader inside item = .ok x := by
  cases doc with
  | array items wrong =>
    rw [Reader.list] at h
    obtain ⟨inside, hinside, h⟩ := exists_of_bind_eq_ok h
    obtain ⟨values, hvalues, h⟩ := exists_of_bind_eq_ok h
    obtain ⟨_, _, h⟩ := exists_of_bind_eq_ok h
    obtain rfl : values = xs := Except.ok.inj h
    refine ⟨inside, hinside, fun x hx ↦ ?_⟩
    obtain ⟨item, hmem, hread⟩ := exists_of_readItems hvalues x hx
    exact ⟨item, Doc.height_lt_of_mem_items hmem, hread⟩
  | null => cases h
  | bool value => cases h
  | number value => cases h
  | string value => cases h
  | object members wrong => cases h
  | lapse place => cases h

end Readers

/-! ## Records -/

namespace Fields

/-- Where the fields of a record come from: each is its fallback, or was read from a document below
the given height. -/
def From (origin : Origin) (height : Nat) : {α : Type} → Fields α → α → Prop
  | _, done, _ => True
  | _, field _ reader fallback others, a =>
    (fallback = some a.1 ∨ ∃ doc : Doc, doc.height < height ∧ reader origin doc = .ok a.1) ∧
      others.From origin height a.2

/-- The same of the slots that are filled so far. -/
def Filled (origin : Origin) (height : Nat) : {α : Type} → (fields : Fields α) →
    fields.Slots → Prop
  | _, done, _ => True
  | _, field _ reader _ others, slots =>
    (∀ a, slots.1 = some a → ∃ doc : Doc, doc.height < height ∧ reader origin doc = .ok a) ∧
      others.Filled origin height slots.2

variable {origin : Origin} {height : Nat}

theorem filled_vacant {α : Type} (fields : Fields α) :
    fields.Filled origin height fields.vacant := by
  induction fields with
  | done => exact trivial
  | field name reader fallback others ih => exact ⟨fun _ h ↦ (nomatch h), ih⟩

theorem Filled.place {α : Type} {fields : Fields α} {key : String} {doc : Doc}
    {slots placed : fields.Slots} (hslots : fields.Filled origin height slots)
    (hdoc : doc.height < height) (h : fields.place origin key doc slots = .ok (some placed)) :
    fields.Filled origin height placed := by
  induction fields with
  | done => cases h
  | field name reader fallback others ih =>
    rw [Fields.place] at h
    split at h
    next =>
      split at h
      next => cases h
      next =>
        obtain ⟨a, hread, hplaced⟩ := exists_of_map_eq_ok h
        obtain rfl := Option.some.inj hplaced
        refine ⟨fun b hb ↦ ⟨doc, hdoc, ?_⟩, hslots.2⟩
        rw [hread, Option.some.inj hb]
    next =>
      obtain ⟨rest, hrest, hplaced⟩ := exists_of_map_eq_ok h
      obtain ⟨others, rfl, rfl⟩ := Option.map_eq_some_iff.mp hplaced
      exact ⟨hslots.1, ih hslots.2 hrest⟩

theorem Filled.placeAll {α : Type} {fields : Fields α} {strict : Bool}
    {members : List (Doc × Doc)} {slots placed : fields.Slots}
    (hslots : fields.Filled origin height slots) (hmembers : ∀ m ∈ members, m.2.height < height)
    (h : fields.placeAll strict origin members slots = .ok placed) :
    fields.Filled origin height placed := by
  induction members generalizing slots with
  | nil =>
    obtain rfl : slots = placed := Except.ok.inj h
    exact hslots
  | cons m rest ih =>
    obtain ⟨key, doc⟩ := m
    obtain ⟨hdoc, hrest⟩ := List.forall_mem_cons.mp hmembers
    rw [Fields.placeAll] at h
    obtain ⟨name, _, h⟩ := exists_of_bind_eq_ok h
    obtain ⟨found, hfound, h⟩ := exists_of_bind_eq_ok h
    cases found with
    | some found => exact ih (hslots.place hdoc hfound) hrest h
    | none =>
      cases strict with
      | true => cases h
      | false =>
        obtain ⟨_, _, h⟩ := exists_of_bind_eq_ok h
        exact ih hslots hrest h

theorem Filled.finish {α : Type} {fields : Fields α} {slots : fields.Slots} {a : α}
    (hslots : fields.Filled origin height slots) (h : fields.finish slots = .ok a) :
    fields.From origin height a := by
  induction fields with
  | done => exact trivial
  | field name reader fallback others ih =>
    rw [Fields.finish] at h
    split at h
    next value hvalue =>
      obtain ⟨rest, hrest, h⟩ := exists_of_bind_eq_ok h
      obtain rfl : (value, rest) = a := Except.ok.inj h
      refine ⟨?_, ih hslots.2 hrest⟩
      cases hslot : slots.1 with
      | some given =>
        rw [hslot] at hvalue
        obtain rfl : given = value := Option.some.inj hvalue
        exact .inr (hslots.1 given hslot)
      | none =>
        rw [hslot] at hvalue
        exact .inl hvalue
    next => cases h

theorem from_inOrder {α : Type} {fields : Fields α} {recordName : String}
    {count length index : Nat} {wrong : Option Break} {items : List Doc} {a : α}
    (hitems : ∀ item ∈ items, item.height < height)
    (h : fields.inOrder recordName count length wrong origin index items = .ok a) :
    fields.From origin height a := by
  induction fields generalizing index items with
  | done => exact trivial
  | field name reader fallback others ih =>
    cases items with
    | cons item rest =>
      obtain ⟨hitem, hrest⟩ := List.forall_mem_cons.mp hitems
      rw [inOrder] at h
      obtain ⟨value, hvalue, h⟩ := exists_of_bind_eq_ok h
      obtain ⟨values, hvalues, h⟩ := exists_of_bind_eq_ok h
      obtain rfl : (value, values) = a := Except.ok.inj h
      exact ⟨.inr ⟨item, hitem, hvalue⟩, ih hrest hvalues⟩
    | nil =>
      simp only [inOrder] at h
      obtain ⟨_, _, h⟩ := exists_of_bind_eq_ok h
      cases fallback with
      | none => cases h
      | some value =>
        obtain ⟨values, hvalues, h⟩ := exists_of_bind_eq_ok h
        obtain rfl : (value, values) = a := Except.ok.inj h
        exact ⟨.inl rfl, ih hitems hvalues⟩

end Fields

/-- The fields of a record come from inside of it, in whichever way it is spelt. -/
theorem from_record {α : Type} {name : String} {fields : Fields α} {origin : Origin} {doc : Doc}
    {a : α} (h : Reader.record name fields origin doc = .ok a) :
    ∃ inside, origin.enter = .ok inside ∧ fields.From inside doc.height a := by
  unfold Reader.record Reader.recordWith at h
  split at h
  next members wrong =>
    obtain ⟨inside, hinside, h⟩ := exists_of_bind_eq_ok h
    obtain ⟨slots, hslots, h⟩ := exists_of_bind_eq_ok h
    obtain ⟨_, _, h⟩ := exists_of_bind_eq_ok h
    have hmembers : ∀ m ∈ members, m.2.height < (Doc.object members wrong).height :=
      fun m hm ↦ Doc.height_lt_of_mem_members hm
    exact ⟨inside, hinside, ((Fields.filled_vacant fields).placeAll hmembers hslots).finish h⟩
  next items wrong =>
    obtain ⟨inside, hinside, h⟩ := exists_of_bind_eq_ok h
    exact ⟨inside, hinside, Fields.from_inOrder (fun item ↦ Doc.height_lt_of_mem_items) h⟩
  next => exact absurd h Doc.unexpected_ne_ok

/-- A record costs a level of its own. -/
theorem height_pos_of_record {α : Type} {name : String} {fields : Fields α} {origin : Origin}
    {doc : Doc} {a : α} (h : Reader.record name fields origin doc = .ok a) : 0 < doc.height := by
  unfold Reader.record Reader.recordWith at h
  split at h
  next => rw [Doc.height]; exact Nat.succ_pos _
  next => rw [Doc.height]; exact Nat.succ_pos _
  next => exact absurd h Doc.unexpected_ne_ok

section Kinds

variable {α : Type} {reader : Reader α} {origin : Origin} {height : Nat}

/-- A required field was read. -/
theorem exists_of_required {a : α}
    (h : none = some a ∨ ∃ doc : Doc, doc.height < height ∧ reader origin doc = .ok a) :
    ∃ doc : Doc, doc.height < height ∧ reader origin doc = .ok a :=
  h.resolve_left nofun

/-- A field that may be absent was read if it is there. -/
theorem exists_of_optional {value : Option α}
    (h : some none = some value ∨
      ∃ doc : Doc, doc.height < height ∧ Reader.optional reader origin doc = .ok value) :
    ∀ a ∈ value, ∃ doc : Doc, doc.height < height ∧ reader origin doc = .ok a := by
  rintro a rfl
  obtain ⟨doc, hdoc, hread⟩ := h.resolve_left nofun
  exact ⟨doc, hdoc, of_optional hread⟩

/-- The items of a list that may be left out were read. -/
theorem exists_of_items {xs : List α}
    (h : some [] = some xs ∨
      ∃ doc : Doc, doc.height < height ∧ Reader.list reader origin doc = .ok xs) :
    ∀ x ∈ xs, ∃ inside, origin.enter = .ok inside ∧
      ∃ item : Doc, item.height < height ∧ reader inside item = .ok x := by
  intro x hx
  rcases h with hnil | ⟨doc, hdoc, hread⟩
  · obtain rfl := Option.some.inj hnil
    cases hx
  · obtain ⟨inside, hinside, hitems⟩ := exists_of_list hread
    obtain ⟨item, hitem, hread⟩ := hitems x hx
    exact ⟨inside, hinside, item, Nat.lt_trans hitem hdoc, hread⟩

end Kinds

/-! ## Tagged nodes -/

section Tagged

variable {α : Type} {variants : List (Reader.Variant α)} {origin : Origin}

theorem mem_of_variant {tag : Doc} {chosen : Reader.Variant α}
    (h : Reader.variant variants origin tag = .ok chosen) : chosen ∈ variants := by
  unfold Reader.variant at h
  split at h
  next =>
    split at h
    next found hfound =>
      obtain rfl : found = chosen := Except.ok.inj h
      exact List.mem_of_find?_eq_some hfound
    next => cases h
  next =>
    split at h
    next => cases h
    next =>
      split at h
      next found hfound =>
        obtain rfl : found = chosen := Except.ok.inj h
        exact List.mem_of_getElem? hfound
      next => cases h
  next => exact absurd h Doc.unexpected_ne_ok

/-- The choice that was found, and the members without the tag, as far as they were set aside. -/
theorem of_splitTag {members others : List (Doc × Doc)} {found chosen : Option (Reader.Variant α)}
    (h : Reader.splitTag variants origin found members = .ok (chosen, others)) :
    (∀ choice, chosen = some choice → found = some choice ∨ choice ∈ variants) ∧
      ∀ m ∈ others, m ∈ members ∧ origin.hold m.2 = .ok () := by
  induction members generalizing found others with
  | nil =>
    obtain ⟨rfl, rfl⟩ := Prod.mk.inj (Except.ok.inj h)
    exact ⟨fun choice ↦ .inl, by simp⟩
  | cons m rest ih =>
    obtain ⟨key, doc⟩ := m
    simp only [Reader.splitTag] at h
    obtain ⟨name, _, h⟩ := exists_of_bind_eq_ok h
    split at h
    next =>
      cases found with
      | some earlier => cases h
      | none =>
        obtain ⟨choice, hchoice, h⟩ := exists_of_bind_eq_ok h
        obtain ⟨hfound, hothers⟩ := ih h
        refine ⟨fun other hother ↦ .inr ?_, fun m hm ↦ ?_⟩
        · rcases hfound other hother with heq | hmem
          · exact Option.some.inj heq ▸ mem_of_variant hchoice
          · exact hmem
        · exact ⟨List.mem_cons_of_mem _ (hothers m hm).1, (hothers m hm).2⟩
    next =>
      obtain ⟨_, hhold, h⟩ := exists_of_bind_eq_ok h
      obtain ⟨⟨later, kept⟩, hsplit, h⟩ := exists_of_bind_eq_ok h
      obtain ⟨rfl, rfl⟩ := Prod.mk.inj (Except.ok.inj h)
      obtain ⟨hfound, hkept⟩ := ih hsplit
      refine ⟨hfound, List.forall_mem_cons.mpr ⟨⟨List.mem_cons_self .., hhold⟩, fun m hm ↦ ?_⟩⟩
      exact ⟨List.mem_cons_of_mem _ (hkept m hm).1, (hkept m hm).2⟩

theorem hold_of_holdAll {docs : List Doc} (h : Reader.holdAll origin docs = .ok ()) :
    ∀ doc ∈ docs, origin.hold doc = .ok () := by
  induction docs with
  | nil => simp
  | cons doc rest ih =>
    rw [Reader.holdAll] at h
    obtain ⟨_, hdoc, hrest⟩ := exists_of_bind_eq_ok h
    exact List.forall_mem_cons.mpr ⟨hdoc, ih hrest⟩

/-- A tagged node was read by one of its variants from a document no deeper than its own, nor deeper
than a text may be. -/
theorem exists_of_tagged {name : String} {doc : Doc} {a : α}
    (h : Reader.tagged name variants origin doc = .ok a) :
    ∃ chosen ∈ variants, ∃ rest : Doc, chosen.reader .held rest = .ok a ∧
      rest.height ≤ doc.height ∧ ∀ levels, origin = .text levels → rest.height ≤ levels - 1 := by
  unfold Reader.tagged at h
  split at h
  next members wrong =>
    obtain ⟨inside, hinside, h⟩ := exists_of_bind_eq_ok h
    obtain ⟨⟨found, others⟩, hsplit, h⟩ := exists_of_bind_eq_ok h
    obtain ⟨_, _, h⟩ := exists_of_bind_eq_ok h
    obtain ⟨hfound, hothers⟩ := of_splitTag hsplit
    cases found with
    | none => cases h
    | some chosen =>
      have hmem : chosen ∈ variants := by
        rcases hfound chosen rfl with hnone | hmem
        · cases hnone
        · exact hmem
      refine ⟨chosen, hmem, .object others none, h, ?_, ?_⟩
      · rw [Doc.height, Doc.height]
        apply Nat.succ_le_succ
        rw [Doc.heightMembers_le_iff]
        exact fun m hm ↦ Doc.heightMembers_le_iff.mp (Nat.le_refl _) m (hothers m hm).1
      · rintro levels rfl
        obtain ⟨rfl, hlevels⟩ := Origin.enter_text hinside
        have hheld : Doc.heightMembers others ≤ levels - 1 - 1 := by
          rw [Doc.heightMembers_le_iff]
          exact fun m hm ↦ Origin.height_le_of_hold (hothers m hm).2
        rw [Doc.height]
        omega
  next items wrong =>
    obtain ⟨inside, hinside, h⟩ := exists_of_bind_eq_ok h
    cases items with
    | nil =>
      obtain ⟨_, _, h⟩ := exists_of_bind_eq_ok h
      cases h
    | cons tag others =>
      obtain ⟨chosen, hchosen, h⟩ := exists_of_bind_eq_ok h
      obtain ⟨_, hhold, h⟩ := exists_of_bind_eq_ok h
      obtain ⟨_, _, h⟩ := exists_of_bind_eq_ok h
      refine ⟨chosen, mem_of_variant hchosen, .array others none, h, ?_, ?_⟩
      · rw [Doc.height, Doc.height, Doc.heightItems]
        exact Nat.succ_le_succ (Nat.le_max_right _ _)
      · rintro levels rfl
        obtain ⟨rfl, hlevels⟩ := Origin.enter_text hinside
        have hheld : Doc.heightItems others ≤ levels - 1 - 1 := by
          rw [Doc.heightItems_le_iff]
          exact fun item hitem ↦ Origin.height_le_of_hold (hold_of_holdAll hhold item hitem)
        rw [Doc.height]
        omega
  next => exact absurd h Doc.unexpected_ne_ok

end Tagged

end CodeBehind.Json
