import CodeBehind.Proofs.Inversion
import CodeBehind.Proofs.Statements
import Mathlib.Data.List.Basic

/-!
# Flattening blocks

A block of a statement list with no comment before it stands for its own statements.  Flattening a
file puts these in its place, everywhere in the file.  A block counts against the limit of levels,
so a flattened file may be accepted where the file itself is not, but of a file that is accepted
the lowering stays the same: how many levels enclose a statement only decides whether it fails.
-/

namespace CodeBehind

namespace Flattening

open Source

/-! ## Flattening files -/

/-- What a statement is in a list: a block with no comment before it is its statements. -/
def spliced : Statement → List Statement
  | .block leading inner trailing =>
    if leading.hasComments then [.block leading inner trailing] else inner
  | s => [s]

mutual

/-- The statement with the lists inside of it flattened; it may be a block itself. -/
def statement : Statement → Statement
  | .ifThen leading condition body trailing => .ifThen leading condition (statement body) trailing
  | .ifElse leading condition body elseLeading elseBody trailing =>
    .ifElse leading condition (statement body) elseLeading (statement elseBody) trailing
  | .block leading inner trailing => .block leading (statements inner) trailing
  | other => other

def statements : List Statement → List Statement
  | [] => []
  | first :: rest => spliced (statement first) ++ statements rest

end

theorem statements_eq_flatMap (list : List Statement) :
    statements list = list.flatMap fun s ↦ spliced (statement s) := by
  induction list with
  | nil => rw [statements, List.flatMap_nil]
  | cons first rest ih => rw [statements, ih, List.flatMap_cons]

def body (block : Block) : Block :=
  { block with statements := statements block.statements }

mutual

def declaration : Declaration → Declaration
  | .namespaceDecl leading name members trailing =>
    .namespaceDecl leading name (declarations members) trailing
  | .classDecl leading modifiers identifier members trailing =>
    .classDecl leading modifiers identifier (declarations members) trailing
  | .constructorDecl node => .constructorDecl { node with body := node.body.map body }
  | .methodDecl node => .methodDecl { node with body := node.body.map body }
  | other => other

def declarations : List Declaration → List Declaration
  | [] => []
  | first :: rest => declaration first :: declarations rest

end

theorem declarations_eq_map (list : List Declaration) :
    declarations list = list.map declaration := by
  induction list with
  | nil => rw [declarations, List.map_nil]
  | cons first rest ih => rw [declarations, ih, List.map_cons]

def file (unit : CompilationUnit) : CompilationUnit where
  members := declarations unit.members

/-! ## Flat files -/

/-- A statement that stands in a list as it is. -/
def Stands : Statement → Prop
  | .block leading _ _ => leading.hasComments = true
  | _ => True

mutual

/-- Every statement of a list inside of the statement stands as it is. -/
def FlatStatement : Statement → Prop
  | .ifThen _ _ body _ => FlatStatement body
  | .ifElse _ _ body _ elseBody _ => FlatStatement body ∧ FlatStatement elseBody
  | .block _ inner _ => FlatStatements inner
  | _ => True

def FlatStatements : List Statement → Prop
  | [] => True
  | first :: rest => Stands first ∧ FlatStatement first ∧ FlatStatements rest

end

mutual

def FlatDeclaration : Declaration → Prop
  | .namespaceDecl _ _ members _ => FlatDeclarations members
  | .classDecl _ _ _ members _ => FlatDeclarations members
  | .constructorDecl node => ∀ body ∈ node.body, FlatStatements body.statements
  | .methodDecl node => ∀ body ∈ node.body, FlatStatements body.statements
  | _ => True

def FlatDeclarations : List Declaration → Prop
  | [] => True
  | first :: rest => FlatDeclaration first ∧ FlatDeclarations rest

end

theorem flatStatements_iff (list : List Statement) :
    FlatStatements list ↔ ∀ s ∈ list, Stands s ∧ FlatStatement s := by
  induction list with
  | nil => simp [FlatStatements]
  | cons first rest ih => rw [FlatStatements, ih, List.forall_mem_cons, and_assoc]

theorem flatDeclarations_iff (list : List Declaration) :
    FlatDeclarations list ↔ ∀ d ∈ list, FlatDeclaration d := by
  induction list with
  | nil => simp [FlatDeclarations]
  | cons first rest ih => rw [FlatDeclarations, ih, List.forall_mem_cons]

/-- The statements of a flat block are flat, so nothing is left to put in the place of them. -/
theorem flatStatements_spliced {s : Statement} (h : FlatStatement s) :
    FlatStatements (spliced s) := by
  rw [flatStatements_iff]
  cases s with
  | block leading inner trailing =>
    rw [spliced]
    split
    next hcomments => exact List.forall_mem_singleton.mpr ⟨hcomments, h⟩
    next => exact (flatStatements_iff inner).mp h
  | _ => exact List.forall_mem_singleton.mpr ⟨trivial, h⟩

theorem flatStatements_statements {list : List Statement}
    (h : ∀ s ∈ list, FlatStatement (statement s)) : FlatStatements (statements list) := by
  rw [statements_eq_flatMap, flatStatements_iff]
  intro u hu
  obtain ⟨s, hs, hmem⟩ := List.mem_flatMap.mp hu
  exact (flatStatements_iff _).mp (flatStatements_spliced (h s hs)) u hmem

theorem flat_statement (s : Statement) : FlatStatement (statement s) := by
  induction s using Statement.inductionOn with
  | ifThen leading condition body trailing ih => exact ih
  | ifElse leading condition body elseLeading elseBody trailing ih ihElse => exact ⟨ih, ihElse⟩
  | block leading inner trailing ih => exact flatStatements_statements ih
  | ret leading value trailing => trivial
  | locals leading declared trailing => trivial
  | expression leading value trailing => trivial
  | unsupported node => trivial

theorem flat_body (block : Block) : FlatStatements (body block).statements :=
  flatStatements_statements fun s _ ↦ flat_statement s

theorem flat_declaration (d : Declaration) : FlatDeclaration (declaration d) := by
  have hbody (found : Option Block) : ∀ b ∈ found.map body, FlatStatements b.statements := by
    intro b hb
    obtain ⟨block, _, rfl⟩ := Option.map_eq_some_iff.mp hb
    exact flat_body block
  induction d using Declaration.inductionOn with
  | namespaceDecl leading name members trailing ih =>
    rw [declaration, FlatDeclaration, declarations_eq_map, flatDeclarations_iff]
    exact List.forall_mem_map.mpr ih
  | classDecl leading modifiers identifier members trailing ih =>
    rw [declaration, FlatDeclaration, declarations_eq_map, flatDeclarations_iff]
    exact List.forall_mem_map.mpr ih
  | constructorDecl node => exact hbody node.body
  | methodDecl node => exact hbody node.body
  | fieldDecl node => trivial
  | unsupported node => trivial

/-- In a flattened file no block is left to be flattened. -/
theorem flat_file (unit : CompilationUnit) : FlatDeclarations (file unit).members := by
  rw [file, declarations_eq_map, flatDeclarations_iff]
  exact List.forall_mem_map.mpr fun d _ ↦ flat_declaration d

end Flattening

namespace Lowering

open Source

/-! ## Scripts that agree -/

/-- The second script is the first one, unless the first one fails. -/
def Script.Agrees (a b : Script) : Prop :=
  a.failure = none → b = a

namespace Script.Agrees

theorem refl (a : Script) : Agrees a a :=
  fun _ ↦ rfl

theorem trans {a b c : Script} (hab : Agrees a b) (hbc : Agrees b c) : Agrees a c := by
  intro h
  obtain rfl := hab h
  exact hbc h

theorem append {a a' b b' : Script} (ha : Agrees a a') (hb : Agrees b b') :
    Agrees (a ++ b) (a' ++ b') := by
  intro h
  obtain ⟨hfirst, hsecond⟩ := (failure_append_eq_none a b).mp h
  rw [ha hfirst, hb hsecond]

theorem append_left {a b b' : Script} (h : Agrees b b') : Agrees (a ++ b) (a ++ b') :=
  (refl a).append h

theorem append_right {a a' b : Script} (h : Agrees a a') : Agrees (a ++ b) (a' ++ b) :=
  h.append (refl b)

theorem within {a b : Script} (h : Agrees a b) (event : Event) :
    Agrees (Script.within event a) (Script.within event b) := by
  intro hfailure
  rw [failure_within] at hfailure
  rw [h hfailure]

/-- If the first script has a value to go on with, then the second one has to have one too. -/
theorem whenOk {α β : Type} {value : Except Error α} {value' : Except Error β}
    {next : α → Script} {next' : β → Script}
    (h : ∀ a, value = .ok a → ∃ b, value' = .ok b ∧ Agrees (next a) (next' b)) :
    Agrees (Script.whenOk value next) (Script.whenOk value' next') := by
  intro hfailure
  obtain ⟨a, rfl, hnext⟩ := failure_whenOk_eq_none.mp hfailure
  obtain ⟨b, rfl, hagrees⟩ := h a rfl
  exact hagrees hnext

theorem whenOk_congr {α : Type} {value : Except Error α} {next next' : α → Script}
    (h : ∀ a, Agrees (next a) (next' a)) :
    Agrees (Script.whenOk value next) (Script.whenOk value next') :=
  whenOk fun a ha ↦ ⟨a, ha, h a⟩

theorem flatMap {α : Type} {xs : List α} {part part' : α → Script}
    (h : ∀ x ∈ xs, Agrees (part x) (part' x)) : Agrees (xs.flatMap part) (xs.flatMap part') := by
  induction xs with
  | nil => exact refl []
  | cons x rest ih =>
    obtain ⟨hfirst, hrest⟩ := List.forall_mem_cons.mp h
    rw [List.flatMap_cons, List.flatMap_cons]
    exact hfirst.append (ih hrest)

end Script.Agrees

/-! ## Fewer levels -/

/-- A scope with the same indentation and no more levels around it. -/
structure Scope.Roomier (scope' scope : Scope) : Prop where
  depth : scope'.depth = scope.depth
  nesting : scope'.nesting ≤ scope.nesting

namespace Scope.Roomier

variable {scope scope' inner : Scope}

theorem enterBlock (h : Roomier scope' scope) (hinner : scope.enterBlock = .ok inner) :
    ∃ inner', scope'.enterBlock = .ok inner' ∧ Roomier inner' inner := by
  unfold Scope.enterBlock at hinner ⊢
  split at hinner
  next hroom =>
    refine ⟨_, if_pos (Nat.lt_of_le_of_lt h.nesting hroom), ?_⟩
    rw [← Except.ok.inj hinner]
    exact ⟨h.depth, Nat.succ_le_succ h.nesting⟩
  next => cases hinner

theorem enter (h : Roomier scope' scope) (hinner : scope.enter = .ok inner) :
    ∃ inner', scope'.enter = .ok inner' ∧ Roomier inner' inner := by
  unfold Scope.enter at hinner ⊢
  cases hblock : scope.enterBlock with
  | error error =>
    rw [hblock] at hinner
    cases hinner
  | ok block =>
    obtain ⟨block', hblock', hroomier⟩ := h.enterBlock hblock
    rw [hblock] at hinner
    rw [hblock', ← Except.ok.inj hinner]
    exact ⟨_, rfl, congrArg (· + 1) h.depth, hroomier.nesting⟩

/-- A block has more levels around it than what it stands in, and the same indentation. -/
theorem of_enterBlock (h : scope.enterBlock = .ok inner) : Roomier scope inner := by
  unfold Scope.enterBlock at h
  split at h
  next =>
    rw [← Except.ok.inj h]
    exact ⟨rfl, Nat.le_succ scope.nesting⟩
  next => cases h

end Scope.Roomier

section Roomier

variable {scope scope' : Scope}

theorem beginStatement_roomier (h : scope'.Roomier scope) (leading : Trivia) :
    beginStatement leading scope' = beginStatement leading scope := by
  rw [beginStatement, beginStatement, h.depth]

theorem openIf_roomier (h : scope'.Roomier scope) (leading : Trivia) (condition : Expression) :
    openIf leading condition scope' = openIf leading condition scope := by
  rw [openIf, openIf, beginStatement_roomier h]

theorem elseLine_roomier (h : scope'.Roomier scope) (leading : Trivia) :
    elseLine leading scope' = elseLine leading scope := by
  rw [elseLine, elseLine, h.depth]

theorem closeIf_roomier (h : scope'.Roomier scope) (trailing : Trivia) :
    closeIf trailing scope' = closeIf trailing scope := by
  rw [closeIf, closeIf, h.depth]

/-- How many levels there are around a statement does not matter as long as it does not fail. -/
theorem lowerStatement_roomier (h : scope'.Roomier scope) (s : Statement) :
    Script.Agrees (lowerStatement scope s) (lowerStatement scope' s) := by
  -- Wherever the lowering goes one level deeper from `scope`, it can do so from `scope'`.
  induction s using Statement.inductionOn generalizing scope scope' with
  | ifThen leading condition body trailing ih =>
    rw [lowerStatement, lowerStatement, openIf_roomier h, closeIf_roomier h]
    apply Script.Agrees.append_left
    apply Script.Agrees.whenOk
    intro inner hinner
    obtain ⟨inner', hinner', hroomier⟩ := h.enter hinner
    exact ⟨inner', hinner', (ih hroomier).append_right⟩
  | ifElse leading condition body elseLeading elseBody trailing ih ihElse =>
    rw [lowerStatement, lowerStatement, openIf_roomier h, elseLine_roomier h, closeIf_roomier h]
    apply Script.Agrees.append_left
    apply Script.Agrees.whenOk
    intro inner hinner
    obtain ⟨inner', hinner', hroomier⟩ := h.enter hinner
    refine ⟨inner', hinner', .append_right (.append ?_ (ihElse hroomier))⟩
    exact (ih hroomier).append_right
  | block leading statements trailing ih =>
    rw [lowerStatement, lowerStatement]
    apply Script.Agrees.whenOk
    intro inner hinner
    obtain ⟨inner', hinner', hroomier⟩ := h.enterBlock hinner
    refine ⟨inner', hinner', .append_left ?_⟩
    rw [lowerStatements_eq_flatMap, lowerStatements_eq_flatMap]
    exact .flatMap fun s hs ↦ ih s hs hroomier
  | ret leading value trailing =>
    rw [lowerStatement, lowerStatement, beginStatement_roomier h]
    exact .refl _
  | locals leading declared trailing =>
    rw [lowerStatement, lowerStatement, beginStatement_roomier h]
    exact .refl _
  | expression leading value trailing =>
    rw [lowerStatement, lowerStatement, beginStatement_roomier h]
    exact .refl _
  | unsupported node => exact .refl _

theorem lowerStatements_roomier (h : scope'.Roomier scope) (list : List Statement) :
    Script.Agrees (lowerStatements scope list) (lowerStatements scope' list) := by
  rw [lowerStatements_eq_flatMap, lowerStatements_eq_flatMap]
  exact .flatMap fun s _ ↦ lowerStatement_roomier h s

end Roomier

/-! ## Flattened statements -/

/-- The statements of a block with no comment before it are lowered as the block is. -/
theorem lowerStatements_spliced (scope : Scope) (s : Statement) :
    Script.Agrees (lowerStatement scope s) (lowerStatements scope (Flattening.spliced s)) := by
  have hsingle : lowerStatements scope [s] = lowerStatement scope s := by
    rw [lowerStatements, lowerStatements, List.append_nil]
  cases s with
  | block leading inner trailing =>
    rw [Flattening.spliced]
    split
    next => exact fun _ ↦ hsingle
    next hcomments =>
      -- The block writes nothing of its own, but its statements are one level deeper.
      intro h
      rw [lowerStatement] at h ⊢
      obtain ⟨below, hbelow, hinner⟩ := Script.failure_whenOk_eq_none.mp h
      rw [hbelow, Script.whenOk_ok]
      rw [innerTrivia, if_neg hcomments, List.nil_append] at hinner ⊢
      exact lowerStatements_roomier (.of_enterBlock hbelow) inner hinner
  | _ => exact fun _ ↦ hsingle

theorem lowerStatements_flattening {scope : Scope} {list : List Statement}
    (h : ∀ s ∈ list,
      Script.Agrees (lowerStatement scope s) (lowerStatement scope (Flattening.statement s))) :
    Script.Agrees (lowerStatements scope list)
      (lowerStatements scope (Flattening.statements list)) := by
  have hlist : lowerStatements scope (Flattening.statements list) =
      list.flatMap fun s ↦ lowerStatements scope (Flattening.spliced (Flattening.statement s)) := by
    simp only [lowerStatements_eq_flatMap, Flattening.statements_eq_flatMap, List.flatMap_assoc]
  rw [hlist, lowerStatements_eq_flatMap]
  exact .flatMap fun s hs ↦ (h s hs).trans (lowerStatements_spliced scope _)

theorem lowerStatement_flattening (scope : Scope) (s : Statement) :
    Script.Agrees (lowerStatement scope s) (lowerStatement scope (Flattening.statement s)) := by
  induction s using Statement.inductionOn generalizing scope with
  | ifThen leading condition body trailing ih =>
    rw [Flattening.statement, lowerStatement, lowerStatement]
    apply Script.Agrees.append_left
    apply Script.Agrees.whenOk_congr
    intro inner
    exact (ih inner).append_right
  | ifElse leading condition body elseLeading elseBody trailing ih ihElse =>
    rw [Flattening.statement, lowerStatement, lowerStatement]
    apply Script.Agrees.append_left
    apply Script.Agrees.whenOk_congr
    intro inner
    exact ((ih inner).append_right.append (ihElse inner)).append_right
  | block leading statements trailing ih =>
    rw [Flattening.statement, lowerStatement, lowerStatement]
    apply Script.Agrees.whenOk_congr
    intro inner
    apply Script.Agrees.append_left
    exact lowerStatements_flattening fun s hs ↦ ih s hs inner
  | ret leading value trailing => exact .refl _
  | locals leading declared trailing => exact .refl _
  | expression leading value trailing => exact .refl _
  | unsupported node => exact .refl _

/-! ## Flattened declarations -/

theorem lowerFunction_flattening (leading : Trivia) (header : String) (body : Block)
    (trailing : Trivia) (scope : Scope) :
    Script.Agrees (lowerFunction leading header body trailing scope)
      (lowerFunction leading header (Flattening.body body) trailing scope) := by
  have hbody : Script.Agrees (lowerBody body scope) (lowerBody (Flattening.body body) scope) := by
    rw [lowerBody, lowerBody]
    apply Script.Agrees.append_left
    apply Script.Agrees.whenOk_congr
    intro inner
    exact lowerStatements_flattening fun s _ ↦ lowerStatement_flattening inner s
  rw [lowerFunction, lowerFunction]
  exact hbody.append_left.append_right.append_right

/-- A body that is required and flattened is flattened and then required. -/
theorem requiredBody_flattening (body : Option Block) (kind : Kind) (name : String)
    {next : Block → Script}
    (h : ∀ block, Script.Agrees (next block) (next (Flattening.body block))) :
    Script.Agrees (Script.whenOk (requiredBody body kind name) next)
      (Script.whenOk (requiredBody (body.map Flattening.body) kind name) next) := by
  cases body with
  | none => exact .refl _
  | some block => exact h block

theorem lowerClassMember_flattening (scope : Scope) (member : Declaration) :
    Script.Agrees (lowerClassMember scope member)
      (lowerClassMember scope (Flattening.declaration member)) := by
  cases member with
  | methodDecl node =>
    rw [Flattening.declaration, lowerClassMember, lowerClassMember, lowerMethod, lowerMethod]
    apply Script.Agrees.within
    apply Script.Agrees.whenOk_congr
    intro className
    apply Script.Agrees.whenOk_congr
    intro name
    apply requiredBody_flattening
    intro block
    apply Script.Agrees.whenOk_congr
    intro inner
    exact lowerFunction_flattening _ _ block _ inner
  | constructorDecl node =>
    rw [Flattening.declaration, lowerClassMember, lowerClassMember, lowerConstructor,
      lowerConstructor]
    apply Script.Agrees.within
    apply Script.Agrees.whenOk_congr
    intro className
    apply requiredBody_flattening
    intro block
    apply Script.Agrees.whenOk_congr
    intro inner
    exact lowerFunction_flattening _ _ block _ inner
  | fieldDecl node => exact .refl _
  | namespaceDecl leading name members trailing => exact .refl _
  | classDecl leading modifiers identifier members trailing => exact .refl _
  | unsupported node => exact .refl _

/-- The members of a declaration agree if each of them does. -/
theorem lowerMembers_flattening {lower : Declaration → Script}
    (h : ∀ member, Script.Agrees (lower member) (lower (Flattening.declaration member)))
    (members : List Declaration) :
    Script.Agrees (members.flatMap lower) ((Flattening.declarations members).flatMap lower) := by
  rw [Flattening.declarations_eq_map, List.flatMap_map]
  exact .flatMap fun member _ ↦ h member

theorem any_isConstructor_declarations (members : List Declaration) :
    (Flattening.declarations members).any Declaration.isConstructor =
      members.any Declaration.isConstructor := by
  rw [Flattening.declarations_eq_map, List.any_map]
  congr 1
  funext member
  cases member <;> rfl

theorem lowerNamespaceMember_flattening (options : Options) (scope : Scope)
    (member : Declaration) :
    Script.Agrees (lowerNamespaceMember options scope member)
      (lowerNamespaceMember options scope (Flattening.declaration member)) := by
  cases member with
  | classDecl leading modifiers identifier members trailing =>
    have hconstructor :
        ClassDecl.hasConstructor
          ⟨leading, modifiers, identifier, Flattening.declarations members, trailing⟩ =
        ClassDecl.hasConstructor ⟨leading, modifiers, identifier, members, trailing⟩ :=
      any_isConstructor_declarations members
    rw [Flattening.declaration, lowerNamespaceMember, lowerNamespaceMember, lowerClass, lowerClass,
      hconstructor]
    apply Script.Agrees.within
    apply Script.Agrees.whenOk_congr
    intro name
    cases scope.enclosingNamespace with
    | none => exact .refl _
    | some namespaceName =>
      have hmembers := lowerMembers_flattening (lowerClassMember_flattening (scope.inClass name))
        members
      exact hmembers.append_left.append_right.append_right.append_right
  | namespaceDecl leading name members trailing => exact .refl _
  | constructorDecl node => exact .refl _
  | methodDecl node => exact .refl _
  | fieldDecl node => exact .refl _
  | unsupported node => exact .refl _

theorem lowerTopLevel_flattening (names : NodeNames) (options : Options) (member : Declaration) :
    Script.Agrees (lowerTopLevel names options member)
      (lowerTopLevel names options (Flattening.declaration member)) := by
  cases member with
  | namespaceDecl leading token members trailing =>
    rw [Flattening.declaration, lowerTopLevel, lowerTopLevel, lowerNamespace, lowerNamespace]
    apply Script.Agrees.within
    apply Script.Agrees.whenOk_congr
    intro name
    apply Script.Agrees.append_left
    apply Script.Agrees.whenOk_congr
    intro inner
    have hmembers := lowerMembers_flattening
      (lowerNamespaceMember_flattening options (inner.inNamespace name)) members
    exact hmembers.append_left.append_right.append_right
  | classDecl leading modifiers identifier members trailing => exact .refl _
  | constructorDecl node => exact .refl _
  | methodDecl node => exact .refl _
  | fieldDecl node => exact .refl _
  | unsupported node => exact .refl _

/-- A file that is accepted has the lowering of its flattening. -/
theorem lowerUnit_flattening (names : NodeNames) (options : Options) (unit : CompilationUnit) :
    Script.Agrees (lowerUnit names options unit)
      (lowerUnit names options (Flattening.file unit)) := by
  rw [lowerUnit, lowerUnit]
  exact (lowerMembers_flattening (lowerTopLevel_flattening names options) unit.members).append_right

end Lowering

open Source Lowering

/-- A block with no comment before it leaves no trace.  In a flattened file no statement list has
one, and it gives the script that the file gives.  A flattened statement is carried out as the
statement is, in any scope and by any writer, and leaves the same writer behind. -/
theorem emit_flattening :
    (∀ unit, Flattening.FlatDeclarations (Flattening.file unit).members) ∧
      (∀ unit names options text, emit unit names options = .ok text →
        emit (Flattening.file unit) names options = .ok text) ∧
      (∀ s, Flattening.FlatStatement (Flattening.statement s)) ∧
      ∀ {σ : Type} (out : Sink σ) (layout : Layout) (scope : Scope) (s : Statement)
        (w w' : Writer σ), Script.run out layout (lowerStatement scope s) w = (.ok (), w') →
        Script.run out layout (lowerStatement scope (Flattening.statement s)) w = (.ok (), w') := by
  refine ⟨Flattening.flat_file, ?_, Flattening.flat_statement, ?_⟩
  · intro unit names options text hemit
    have hfailure := (emit_eq_ok_iff.mp hemit).1
    rw [emit, lowerUnit_flattening names options unit hfailure]
    exact hemit
  · intro σ out layout scope s w w' hrun
    have hfailure := Script.failure_eq_none_of_run (congrArg Prod.fst hrun)
    rw [lowerStatement_flattening scope s hfailure]
    exact hrun

/-- A conditional with blocks in its branch; a comment stands before one of them. -/
def nestedBlocks : Statement :=
  .ifThen {} (.ofText "ready")
    (.block {}
      [.block { text := " // inner\n" }
        [.block { text := "\n" } [.block {} [.ret { text := "\n" } none {}] {}] {}] {}] {}) {}

/-- The conditional with the block that has the comment, and the branch, as its only blocks. -/
def flatBlocks : Statement :=
  .ifThen {} (.ofText "ready")
    (.block {} [.block { text := " // inner\n" } [.ret { text := "\n" } none {}] {}] {}) {}

/-- A method with the given statements. -/
def blockFile (statements : List Statement) : CompilationUnit where
  members :=
    [.namespaceDecl {} { text := "App" }
      [.classDecl {} [] { text := "Main" }
        [.methodDecl { identifier := { text := "Run" }, body := some { statements } }]
        {}]
      {}]

theorem emit_flattening_nestedBlocks :
    (∃ text, emit (blockFile [nestedBlocks, .block {} [] {}]) {} {} = .ok text ∧
        emit (blockFile [flatBlocks]) {} {} = .ok text) ∧
      ∃ w : Writer Sink.Held,
        Script.run (.limited 99) {} (lowerStatement .root nestedBlocks) { sink := {} } =
          (.ok (), w) ∧
        Script.run (.limited 99) {} (lowerStatement .root flatBlocks) { sink := {} } =
          (.ok (), w) := by
  have hfile : Flattening.file (blockFile [nestedBlocks, .block {} [] {}]) =
      blockFile [flatBlocks] := rfl
  have hfailure : (lowerUnit {} {} (blockFile [nestedBlocks, .block {} [] {}])).failure = none := by
    decide +kernel
  have hemit := emit_eq_ok_iff.mpr ⟨hfailure, rfl⟩
  let ran := Script.run (.limited 99) {} (lowerStatement .root nestedBlocks)
    { sink := ({} : Sink.Held) }
  have hran : ran = (.ok (), ran.2) := Prod.ext (by rfl) rfl
  exact ⟨⟨_, hemit, hfile ▸ emit_flattening.2.1 _ _ _ _ hemit⟩, ran.2, hran,
    emit_flattening.2.2.2 _ _ _ nestedBlocks _ ran.2 hran⟩

end CodeBehind
