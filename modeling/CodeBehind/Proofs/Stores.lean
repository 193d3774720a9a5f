import CodeBehind.Command.Files

/-!
# Writing to a file system

An inventory says what a file system holds: where its paths lead and what is there.  A text that was
written is what its path leads to afterwards.  Every other place has what it had, and every other
path leads where it did, unless it led nowhere and is another way to a file that is new.

A store keeps to this, through links and with whatever is refused.  A new file does not bring any
directory into being, since a path leads to a free name only through directories that exist.
-/

namespace CodeBehind.Command

/-! ## What a file system holds -/

/-- Where the paths of a file system lead in each of its states, and what is there.  Several paths
may lead to one place, by links or by other spellings. -/
structure Inventory (σ : Type) where
  Place : Type
  Item : Type
  locate : σ → String → Option Place
  item : σ → Place → Option Item
  /-- A file with these bytes. -/
  file : ByteArray → Item

namespace Inventory

variable {σ : Type} (held : Inventory σ)

/-- Nothing differs between two states except that there is a file with this text at a place, to
which the path leads. -/
structure Replaced (path text : String) (before after : σ) (place : held.Place) : Prop where
  locate : held.locate after path = some place
  item : held.item after place = some (held.file text.toUTF8)
  others : ∀ other, other ≠ place → held.item after other = held.item before other
  paths : ∀ other, held.locate after other = held.locate before other ∨
    held.locate before other = none ∧ held.locate after other = some place

/-- Whatever is written to the path in this state, it changes one file if it is written at all. -/
def Follows (files : FileSystem (StateM σ)) (state : σ) (path : String) : Prop :=
  ∀ text after, (files.write path text).run state = (.ok (), after) →
    ∃ place, held.Replaced path text state after place

end Inventory

namespace Store

variable {store after : Store} {names other : List String} {node : Node}

/-! ## Putting a file -/

/-- An entry that may be put in place of another, with the same names. -/
def replaced (names : List String) (node : Node) (entry : List String × Node) :
    List String × Node :=
  if entry.1 == names then (names, node) else entry

theorem replaced_fst (names : List String) (node : Node) (entry : List String × Node) :
    (replaced names node entry).1 = entry.1 := by
  unfold replaced
  split
  next h => exact (eq_of_beq h).symm
  next => rfl

theorem find?_map_replaced (nodes : List (List String × Node)) (names : List String) (node : Node)
    (other : List String) :
    (nodes.map (replaced names node)).find? (·.1 == other) =
      (nodes.find? (·.1 == other)).map (replaced names node) := by
  rw [List.find?_map]
  congr 2
  funext entry
  exact congrArg (· == other) (replaced_fst names node entry)

theorem lookup_put_self (store : Store) (names : List String) (node : Node) :
    (store.put names node).lookup names = some node := by
  have hfind : (store.put names node).nodes.find? (·.1 == names) = some (names, node) := by
    unfold put
    split
    next hany =>
      obtain ⟨entry, hentry⟩ := Option.isSome_iff_exists.mp (List.find?_isSome.mpr
        (List.any_eq_true.mp hany))
      have hnames := List.find?_some hentry
      refine (find?_map_replaced store.nodes names node names).trans ?_
      rw [hentry, Option.map_some, replaced, if_pos hnames]
    next hany =>
      have hnone : store.nodes.find? (·.1 == names) = none := by
        rw [List.find?_eq_none]
        exact fun entry hentry hname ↦ hany (List.any_eq_true.mpr ⟨entry, hentry, hname⟩)
      simp [List.find?_append, hnone]
  rw [lookup, hfind]

theorem lookup_map_replaced (hne : other ≠ names) :
    lookup { store with nodes := store.nodes.map (replaced names node) } other =
      store.lookup other := by
  have hfind : (store.nodes.map (replaced names node)).find? (·.1 == other) =
      store.nodes.find? (·.1 == other) := by
    rw [find?_map_replaced]
    cases hentry : store.nodes.find? (·.1 == other) with
    | none => rfl
    | some entry =>
      have hother := List.find?_some hentry
      rw [Option.map_some, replaced, if_neg]
      rw [eq_of_beq hother]
      exact fun h ↦ hne (eq_of_beq h)
  have hany : (store.nodes.map (replaced names node)).any (fun entry ↦ other.isPrefixOf entry.1) =
      store.nodes.any (fun entry ↦ other.isPrefixOf entry.1) := by
    rw [List.any_map]
    congr 1
    funext entry
    exact congrArg other.isPrefixOf (replaced_fst names node entry)
  unfold lookup
  simp only [hfind, hany]

/-- One name more matters only to itself and to the names around it. -/
theorem lookup_concat (hne : other ≠ names)
    (haround : other <+: names → store.lookup other ≠ none) :
    lookup { store with nodes := store.nodes ++ [(names, node)] } other = store.lookup other := by
  have hfind : (store.nodes ++ [(names, node)]).find? (·.1 == other) =
      store.nodes.find? (·.1 == other) := by
    simp [List.find?_append, Ne.symm hne]
  unfold lookup at haround ⊢
  simp only [hfind]
  split
  next => rfl
  next hnone =>
    rw [hnone] at haround
    congr 2
    rw [List.any_append]
    by_cases hprefix : other <+: names
    · have hthere : (other.isPrefixOf store.workingDirectory ||
          store.nodes.any (fun entry ↦ other.isPrefixOf entry.1)) = true :=
        Decidable.byContradiction fun hnot ↦ haround hprefix (if_neg hnot)
      rw [← Bool.or_assoc]
      exact (congrArg (· || _) hthere).trans hthere.symm
    · have hnot : other.isPrefixOf names = false := by
        rwa [← Bool.not_eq_true, List.isPrefixOf_iff_prefix]
      simp [hnot]

/-- Putting a file leaves every other name as it was, as long as the names around the file exist. -/
theorem lookup_put_of_ne (hne : other ≠ names)
    (haround : other <+: names → store.lookup other ≠ none) :
    (store.put names node).lookup other = store.lookup other := by
  unfold put
  split
  · exact lookup_map_replaced hne
  · exact lookup_concat hne haround

theorem workingDirectory_put (store : Store) (names : List String) (node : Node) :
    (store.put names node).workingDirectory = store.workingDirectory := by
  unfold put
  split <;> rfl

theorem allows_put (store : Store) (names : List String) (node : Node) :
    (store.put names node).allows = store.allows := by
  unfold put
  split <;> rfl

/-! ## Following a path -/

/-- The names are there, and so are all names around them. -/
def Reached (store : Store) (names : List String) : Prop :=
  ∀ other, other <+: names → store.lookup other ≠ none

theorem reached_workingDirectory (store : Store) : store.Reached store.workingDirectory := by
  intro other hother
  unfold lookup
  split
  · simp
  · rw [List.isPrefixOf_iff_prefix.mpr hother, Bool.true_or, if_pos rfl]
    simp

theorem Reached.start (h : store.Reached names) (path : String) :
    store.Reached (Store.start names path) := by
  unfold Store.start
  split
  · intro other hother
    exact h other (hother.trans (List.nil_prefix))
  · exact h

theorem Reached.concat (h : store.Reached names) {segment : String}
    (hsegment : store.lookup (names ++ [segment]) ≠ none) :
    store.Reached (names ++ [segment]) := by
  intro other hother
  rcases List.prefix_concat_iff.mp hother with rfl | hprefix
  · exact hsegment
  · exact h other hprefix

/-- The names to which a text is written. -/
def Place.target? : Place → Option (List String)
  | .file names _ | .free names => some names
  | _ => none

/-- The names of what there is. -/
def Place.names? : Place → Option (List String)
  | .file names _ | .directory names => some names
  | _ => none

/-- A text goes to the end of a path only. -/
theorem Place.target?_closed (names : List String) (bytes : Option ByteArray)
    (rest : List String) :
    (Place.closed names bytes rest).target? = if rest = [] then some names else none := by
  cases rest with
  | nil => cases bytes <;> rfl
  | cons segment rest =>
    rw [if_neg (List.cons_ne_nil segment rest)]
    unfold Place.closed
    dsimp only
    split <;> rfl

/-- A path that goes on behind a file, or behind nothing, leads nowhere. -/
theorem Place.names?_closed_cons (names : List String) (bytes : Option ByteArray)
    (segment : String) (rest : List String) :
    (Place.closed names bytes (segment :: rest)).names? = none := by
  unfold Place.closed
  dsimp only
  split <;> rfl

/-- A file can be put at the names: nothing else has them, and the names around them are there. -/
structure Takes (store : Store) (names : List String) : Prop where
  around : ∀ other, other <+: names → other ≠ names → store.lookup other ≠ none
  file : ∀ node, store.lookup names = some node → ∃ bytes, node = .file bytes

theorem Reached.takes (h : store.Reached names) {segment : String} (bytes : Option ByteArray)
    (hbytes : store.lookup (names ++ [segment]) = bytes.map .file) :
    store.Takes (names ++ [segment]) := by
  constructor
  · intro other hother hne
    exact h other ((List.prefix_concat_iff.mp hother).resolve_left hne)
  · intro node hnode
    obtain ⟨bytes, -, hfile⟩ := Option.map_eq_some_iff.mp (hbytes.symm.trans hnode)
    exact ⟨bytes, hfile.symm⟩

/-- A text that is written to the place goes where a file can be put. -/
def Settled (store : Store) (place : Place) : Prop :=
  ∀ names, place.target? = some names → store.Takes names

theorem settled_of_target?_eq_none {place : Place} (h : place.target? = none) :
    store.Settled place := by
  intro names htarget
  cases h.symm.trans htarget

theorem Takes.settled_closed (h : store.Takes names) (bytes : Option ByteArray)
    (rest : List String) : store.Settled (.closed names bytes rest) := by
  intro target htarget
  rw [Place.target?_closed] at htarget
  split at htarget
  · exact Option.some.inj htarget ▸ h
  · cases htarget

/-- What a walk comes to is inside of directories that exist. -/
def Walk.Sound (store : Store) : Walk → Prop
  | .done place => store.Settled place
  | .link names _ _ => store.Reached names

def Step.Sound (store : Store) : Step → Prop
  | .into names => store.Reached names
  | .ends walk => walk.Sound store

theorem Reached.sound_step (h : store.Reached names) (segment : String) (rest : List String) :
    (store.step names segment rest).Sound store := by
  unfold step
  split
  · exact h
  · split
    · exact settled_of_target?_eq_none rfl
    · split
      · exact h
      · split
        · intro other hother
          exact h other (hother.trans (List.dropLast_prefix names))
        · cases hlookup : store.lookup (names ++ [segment]) with
          | none => exact (h.takes none hlookup).settled_closed none rest
          | some node =>
            cases node with
            | file bytes =>
              exact (h.takes (some bytes) hlookup).settled_closed (some bytes) rest
            | directory => exact h.concat (hlookup ▸ Option.some_ne_none _)
            | link target => exact h

theorem Reached.sound_walk (h : store.Reached names) (rest : List String) :
    (store.walk names rest).Sound store := by
  induction rest generalizing names with
  | nil => exact settled_of_target?_eq_none rfl
  | cons segment rest ih =>
    have hstep := h.sound_step segment rest
    unfold walk
    generalize store.step names segment rest = step at hstep ⊢
    cases step with
    | into inner => exact ih hstep
    | ends walk => exact hstep

theorem Reached.settled_follow {start : List String} (h : store.Reached start) (links : Nat)
    (rest : List String) : store.Settled (store.follow links start rest) := by
  have hwalk := h.sound_walk rest
  unfold follow
  generalize store.walk start rest = walk at hwalk ⊢
  cases walk with
  | done place => exact hwalk
  | link around target behind =>
    cases links with
    | zero => exact settled_of_target?_eq_none rfl
    -- as in the definition, one link less may be followed from here
    | succ links => exact (Reached.start hwalk target).settled_follow links _

theorem settled_locate (store : Store) (path : String) : store.Settled (store.locate path) := by
  unfold locate
  split
  · exact settled_of_target?_eq_none rfl
  · split
    · exact settled_of_target?_eq_none rfl
    · exact (store.reached_workingDirectory.start path).settled_follow maxLinks _

/-! ## The same path before and after -/

/-- What becomes of a place when a file is put at the names: where the file goes, it is found, and
all else is where it was. -/
def Place.Becomes (names : List String) (bytes : ByteArray) (before after : Place) : Prop :=
  before.target? = some names ∧ after = .file names bytes ∨
    before.target? ≠ some names ∧ after.names? = before.names?

inductive Walk.Becomes (names : List String) (bytes : ByteArray) : Walk → Walk → Prop
  | done {before after : Place} (h : before.Becomes names bytes after) :
      Walk.Becomes names bytes (.done before) (.done after)
  | link (around : List String) (target : String) (rest : List String) :
      Walk.Becomes names bytes (.link around target rest) (.link around target rest)

inductive Step.Becomes (names : List String) (bytes : ByteArray) : Step → Step → Prop
  | into (inner : List String) : Step.Becomes names bytes (.into inner) (.into inner)
  | ends {before after : Walk} (h : before.Becomes names bytes after) :
      Step.Becomes names bytes (.ends before) (.ends after)

section Places

variable {bytes : ByteArray}

theorem Place.becomes_self {place : Place} (h : place.target? ≠ some names) :
    place.Becomes names bytes place :=
  .inr ⟨h, rfl⟩

theorem Place.becomes_closed (before : Option ByteArray) (rest : List String) :
    (Place.closed names before rest).Becomes names bytes (.closed names (some bytes) rest) := by
  cases rest with
  | nil => exact .inl ⟨Place.target?_closed names before [], rfl⟩
  | cons segment rest =>
    refine .inr ⟨?_, ?_⟩
    · rw [Place.target?_closed]
      exact nofun
    · rw [Place.names?_closed_cons, Place.names?_closed_cons]

theorem Place.becomes_closed_of_ne (hne : other ≠ names) (there : Option ByteArray)
    (rest : List String) :
    (Place.closed other there rest).Becomes names bytes (.closed other there rest) := by
  apply Place.becomes_self
  rw [Place.target?_closed]
  split
  · exact fun h ↦ hne (Option.some.inj h)
  · exact nofun

end Places

section Changed

variable {bytes : ByteArray} (htakes : store.Takes names)
  (hself : after.lookup names = some (.file bytes))
  (hothers : ∀ other, other ≠ names → after.lookup other = store.lookup other)
  (hallows : after.allows = store.allows)

include htakes hself hothers hallows

/-- A step goes on from directories only, and none of them is the file. -/
theorem becomes_step (directory : List String) (segment : String) (rest : List String) :
    (store.step directory segment rest).Becomes names bytes
      (after.step directory segment rest) := by
  unfold step
  rw [hallows]
  split
  · exact .into directory
  · split
    · exact .ends (.done (Place.becomes_self nofun))
    · split
      · exact .into directory
      · split
        · exact .into directory.dropLast
        · by_cases hchild : directory ++ [segment] = names
          · rw [hchild, hself]
            cases hlookup : store.lookup names with
            | none => exact .ends (.done (Place.becomes_closed none rest))
            | some node =>
              obtain ⟨old, rfl⟩ := htakes.file node hlookup
              exact .ends (.done (Place.becomes_closed (some old) rest))
          · rw [hothers _ hchild]
            cases store.lookup (directory ++ [segment]) with
            | none => exact .ends (.done (Place.becomes_closed_of_ne hchild none rest))
            | some node =>
              cases node with
              | file old =>
                exact .ends (.done (Place.becomes_closed_of_ne hchild (some old) rest))
              | directory => exact .into (directory ++ [segment])
              | link target => exact .ends (.link directory target rest)

theorem becomes_walk (directory rest : List String) :
    (store.walk directory rest).Becomes names bytes (after.walk directory rest) := by
  induction rest generalizing directory with
  | nil => exact .done (Place.becomes_self nofun)
  | cons segment rest ih =>
    have hstep := becomes_step htakes hself hothers hallows directory segment rest
    unfold walk
    generalize store.step directory segment rest = first,
      after.step directory segment rest = second at hstep ⊢
    cases hstep with
    | into inner => exact ih inner
    | ends h => exact h

theorem becomes_follow (links : Nat) (directory rest : List String) :
    (store.follow links directory rest).Becomes names bytes
      (after.follow links directory rest) := by
  have hwalk := becomes_walk htakes hself hothers hallows directory rest
  unfold follow
  generalize store.walk directory rest = first, after.walk directory rest = second at hwalk ⊢
  cases hwalk with
  | done h => exact h
  | link around target behind =>
    cases links with
    | zero => exact Place.becomes_self nofun
    | succ links => exact becomes_follow links _ _

theorem becomes_locate (hdirectory : after.workingDirectory = store.workingDirectory)
    (path : String) : (store.locate path).Becomes names bytes (after.locate path) := by
  unfold locate
  split
  · exact Place.becomes_self nofun
  · split
    · exact Place.becomes_self nofun
    · rw [hdirectory]
      exact becomes_follow htakes hself hothers hallows maxLinks _ _

end Changed

/-! ## Writing -/

/-- What a store holds at the names of its files, directories and links. -/
def inventory : Inventory Store where
  Place := List String
  Item := Node
  locate store path := (store.locate path).names?
  item := lookup
  file := .file

theorem exists_target_of_write {path text : String} (h : store.write path text = .ok after) :
    ∃ names, (store.locate path).target? = some names ∧
      after = store.put names (.file text.toUTF8) := by
  unfold write at h
  split at h
  next names bytes hlocate =>
    split at h
    · exact ⟨names, congrArg Place.target? hlocate, (Except.ok.inj h).symm⟩
    · cases h
  next names hlocate =>
    split at h
    · exact ⟨names, congrArg Place.target? hlocate, (Except.ok.inj h).symm⟩
    · cases h
  next => cases h
  next => cases h
  next => cases h

theorem replaced_of_write {path text : String} (h : store.write path text = .ok after) :
    ∃ names, inventory.Replaced path text store after names := by
  obtain ⟨names, htarget, rfl⟩ := exists_target_of_write h
  have htakes : store.Takes names := store.settled_locate path names htarget
  have hself := store.lookup_put_self names (.file text.toUTF8)
  have hothers (other : List String) (hne : other ≠ names) :
      (store.put names (.file text.toUTF8)).lookup other = store.lookup other :=
    lookup_put_of_ne hne fun hother ↦ htakes.around other hother hne
  have hbecomes := becomes_locate htakes hself hothers (store.allows_put names _)
    (store.workingDirectory_put names _)
  have hfound (other : String) (htarget : (store.locate other).target? = some names) :
      inventory.locate (store.put names (.file text.toUTF8)) other = some names := by
    rcases hbecomes other with ⟨-, hafter⟩ | ⟨hnot, -⟩
    · exact congrArg Place.names? hafter
    · exact absurd htarget hnot
  refine ⟨names, hfound path htarget, hself, hothers, fun other ↦ ?_⟩
  rcases hbecomes other with ⟨hother, -⟩ | ⟨-, hsame⟩
  · rw [hfound other hother]
    -- a file was there and has the same names, or the name was free
    change _ = (store.locate other).names? ∨ (store.locate other).names? = none ∧ _
    cases hplace : store.locate other with
    | file there bytes =>
      rw [hplace] at hother
      exact .inl hother.symm
    | free there => exact .inr ⟨rfl, rfl⟩
    | directory there | slashed isFile | nowhere fault =>
      rw [hplace] at hother
      cases hother
  · exact .inl hsame

theorem run_write_of_ok {path text : String} (h : store.write path text = .ok after) :
    (fileSystem.write path text).run store = (.ok (), after) := by
  simp [fileSystem, StateT.run, h]

theorem run_write_of_error {path text : String} {fault : FileFault}
    (h : store.write path text = .error fault) :
    (fileSystem.write path text).run store = (.error fault, store) := by
  simp [fileSystem, StateT.run, h]

/-- Whatever is written to a path of a store, it changes one file if it is written at all. -/
theorem follows (store : Store) (path : String) : inventory.Follows fileSystem store path := by
  intro text after h
  cases hwrite : store.write path text with
  | ok changed =>
    have hafter : changed = after := (Prod.mk.inj ((run_write_of_ok hwrite).symm.trans h)).2
    exact replaced_of_write (hafter ▸ hwrite)
  | error fault =>
    have hresult := (Prod.mk.inj ((run_write_of_error hwrite).symm.trans h)).1
    cases hresult

end Store

end CodeBehind.Command
