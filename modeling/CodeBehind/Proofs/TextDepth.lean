import CodeBehind.Proofs.Acceptance
import CodeBehind.Proofs.Provenance
import CodeBehind.Source.Reader

/-!
# Trees from a text are not too deep

Every level of a tree costs at least one level of arrays and objects in the text that spells it, in
whichever form its nodes are written.  A text may nest less than 128 levels, which is far below the
levels that a lowering allows for conditionals, blocks and expressions.  So neither limit of the
lowering is ever met by a tree that was read from a text.
-/

namespace CodeBehind

open Json

namespace Source

/-! ## Expressions -/

/-- The induction is on the bound of the reader, which shrinks from a node to its operands. -/
theorem Expression.depth_le_height {bound : Nat} {origin : Origin} {doc : Doc} {e : Expression}
    (h : Reader.expression bound origin doc = .ok e) : e.depth ≤ doc.height := by
  induction bound generalizing origin doc e with
  | zero => cases h
  | succ bound ih =>
    obtain ⟨chosen, hchosen, rest, hread, hrest, -⟩ := exists_of_tagged h
    simp only [List.mem_cons, List.not_mem_nil, or_false] at hchosen
    rcases hchosen with rfl | rfl | rfl | rfl
    · obtain ⟨⟨left, operator, right, _⟩, hrecord, rfl⟩ := exists_of_map_reader hread
      obtain ⟨inside, -, hleft, -, hright, -⟩ := from_record hrecord
      obtain ⟨leftDoc, hleftDoc, hleft⟩ := exists_of_required hleft
      obtain ⟨rightDoc, hrightDoc, hright⟩ := exists_of_required hright
      have hleftDepth : left.depth ≤ leftDoc.height := ih hleft
      have hrightDepth : right.depth ≤ rightDoc.height := ih hright
      change max left.depth right.depth + 1 ≤ _
      omega
    · obtain ⟨⟨left, operator, right, _⟩, -, rfl⟩ := exists_of_map_reader hread
      exact Nat.zero_le _
    · obtain ⟨⟨opening, type, closing, operand, _⟩, hrecord, rfl⟩ := exists_of_map_reader hread
      obtain ⟨inside, -, -, -, -, hoperand, -⟩ := from_record hrecord
      obtain ⟨operandDoc, hoperandDoc, hoperand⟩ := exists_of_required hoperand
      have hoperandDepth : operand.depth ≤ operandDoc.height := ih hoperand
      change operand.depth + 1 ≤ _
      omega
    · obtain ⟨token, -, rfl⟩ := exists_of_map_reader hread
      exact Nat.zero_le _

section Bounded

variable {bound : Nat} {origin : Origin} {doc : Doc}

theorem Variables.depth_le_height {declared : Variables}
    (h : Reader.variableList bound origin doc = .ok declared) :
    ∀ e ∈ declared.values, e.depth ≤ doc.height := by
  obtain ⟨⟨type, declarators, _⟩, hrecord, rfl⟩ := exists_of_map_reader h
  obtain ⟨inside, -, -, hdeclarators, -⟩ := from_record hrecord
  obtain ⟨list, hlist, hread⟩ := exists_of_required hdeclarators
  obtain ⟨within, -, hitems⟩ := exists_of_list hread
  intro e he
  obtain ⟨declarator, hmem, hinitializer⟩ := List.mem_filterMap.mp he
  obtain ⟨item, hitem, hread⟩ := hitems declarator hmem
  obtain ⟨⟨identifier, initializer, _⟩, hrecord, rfl⟩ := exists_of_map_reader hread
  obtain ⟨deeper, -, -, hvalue, -⟩ := from_record hrecord
  obtain ⟨value, hheight, hread⟩ := exists_of_optional hvalue e hinitializer
  have hdepth := Expression.depth_le_height hread
  omega

/-! ## Statements -/

/-- Neither conditionals and blocks nor the rewritten expressions of the statement nest deeper than
`n` levels. -/
structure Statement.Within (n : Nat) (s : Statement) : Prop where
  height_le : s.height ≤ n
  depth_le : ∀ e ∈ s.rewritten, e.depth ≤ n

theorem Statement.Within.mono {n m : Nat} {s : Statement} (h : s.Within n) (hle : n ≤ m) :
    s.Within m where
  height_le := Nat.le_trans h.height_le hle
  depth_le e he := Nat.le_trans (h.depth_le e he) hle

/-- The statements of a block were read from inside of it. -/
theorem Block.exists_of_reader {reader : Json.Reader Statement} {block : Block}
    (h : Reader.blockOf reader origin doc = .ok block) :
    ∀ s ∈ block.statements, ∃ inside, ∃ item : Doc, item.height < doc.height ∧
      reader inside item = .ok s := by
  obtain ⟨⟨leading, statements, trailing, _⟩, hrecord, rfl⟩ := exists_of_map_reader h
  obtain ⟨inside, -, -, hstatements, -⟩ := from_record hrecord
  intro s hs
  obtain ⟨within, -, item, hitem, hread⟩ := exists_of_items hstatements s hs
  exact ⟨within, item, hitem, hread⟩

/-- A conditional costs a level more than each of its branches. -/
theorem Statement.within_conditional {leading trailing : Trivia} {condition : Expression}
    {body : Statement} {otherwise : Option (Trivia × Statement)} {n : Nat}
    (hbody : body.Within n) (hotherwise : ∀ branch ∈ otherwise, branch.2.Within n) :
    (Reader.conditional leading condition body otherwise trailing).Within (n + 1) := by
  cases otherwise with
  | none =>
    exact ⟨Nat.succ_le_succ hbody.height_le, fun e he ↦ Nat.le_succ_of_le (hbody.depth_le e he)⟩
  | some branch =>
    have hbranch := hotherwise branch rfl
    refine ⟨Nat.succ_le_succ (Nat.max_le.mpr ⟨hbody.height_le, hbranch.height_le⟩), fun e he ↦ ?_⟩
    rcases List.mem_append.mp he with he | he
    · exact Nat.le_succ_of_le (hbody.depth_le e he)
    · exact Nat.le_succ_of_le (hbranch.depth_le e he)

theorem Statement.within_ofBlock {block : Block} {n : Nat}
    (h : ∀ s ∈ block.statements, s.Within n) : (Statement.ofBlock block).Within (n + 1) := by
  refine ⟨Nat.succ_le_succ ?_, fun e he ↦ Nat.le_succ_of_le ?_⟩
  · exact (Statement.heights_le_iff _ n).mpr fun s hs ↦ (h s hs).height_le
  · rw [Statement.ofBlock, Statement.rewritten, Statement.rewrittenInAll_eq_flatMap] at he
    obtain ⟨s, hs, hmem⟩ := List.mem_flatMap.mp he
    exact (h s hs).depth_le e hmem

/-- The induction is on the bound of the reader.  What stands inside of a node was read below its
document, so it is within one level less. -/
theorem Statement.within_of_reader {s : Statement}
    (h : Reader.statement bound origin doc = .ok s) : s.Within doc.height := by
  induction bound generalizing origin doc s with
  | zero => cases h
  | succ bound ih =>
    have hinside {n : Nat} {inside : Origin} {item : Doc} {s : Statement} (hitem : item.height < n)
        (hread : Reader.statement bound inside item = .ok s) : s.Within (n - 1) :=
      (ih hread).mono (Nat.le_sub_one_of_lt hitem)
    obtain ⟨chosen, hchosen, rest, hread, hrest, -⟩ := exists_of_tagged h
    refine Statement.Within.mono ?_ hrest
    simp only [List.mem_cons, List.not_mem_nil, or_false] at hchosen
    rcases hchosen with rfl | rfl | rfl | rfl | rfl | rfl
    · obtain ⟨⟨leading, condition, body, otherwise, trailing, _⟩, hrecord, rfl⟩ :=
        exists_of_map_reader hread
      obtain ⟨inside, -, -, -, hbody, hotherwise, -⟩ := from_record hrecord
      obtain ⟨bodyDoc, hbodyDoc, hbody⟩ := exists_of_required hbody
      have hpositive : rest.height - 1 + 1 = rest.height := by omega
      rw [← hpositive]
      refine Statement.within_conditional (hinside hbodyDoc hbody) fun branch hbranch ↦ ?_
      obtain ⟨branchDoc, hbranchDoc, hread⟩ := exists_of_optional hotherwise branch hbranch
      obtain ⟨⟨elseLeading, elseBody, _⟩, hrecord, rfl⟩ := exists_of_map_reader hread
      obtain ⟨deeper, -, -, helse, -⟩ := from_record hrecord
      obtain ⟨elseDoc, helseDoc, helse⟩ := exists_of_required helse
      exact hinside (Nat.lt_trans helseDoc hbranchDoc) helse
    · obtain ⟨⟨leading, value, trailing, _⟩, hrecord, rfl⟩ := exists_of_map_reader hread
      obtain ⟨inside, -, -, hvalue, -⟩ := from_record hrecord
      refine ⟨Nat.zero_le _, fun e he ↦ ?_⟩
      obtain ⟨value, hheight, hread⟩ := exists_of_optional hvalue e (Option.mem_toList.mp he)
      exact Nat.le_of_lt (Nat.lt_of_le_of_lt (Expression.depth_le_height hread) hheight)
    · obtain ⟨⟨leading, declared, trailing, _⟩, hrecord, rfl⟩ := exists_of_map_reader hread
      obtain ⟨inside, -, -, hdeclared, -⟩ := from_record hrecord
      obtain ⟨value, hheight, hread⟩ := exists_of_required hdeclared
      refine ⟨Nat.zero_le _, fun e he ↦ ?_⟩
      exact Nat.le_of_lt (Nat.lt_of_le_of_lt (Variables.depth_le_height hread e he) hheight)
    · obtain ⟨⟨leading, value, trailing, _⟩, hrecord, rfl⟩ := exists_of_map_reader hread
      obtain ⟨inside, -, -, hvalue, -⟩ := from_record hrecord
      obtain ⟨value, hheight, hread⟩ := exists_of_required hvalue
      refine ⟨Nat.zero_le _, fun e he ↦ ?_⟩
      obtain rfl := List.mem_singleton.mp he
      exact Nat.le_of_lt (Nat.lt_of_le_of_lt (Expression.depth_le_height hread) hheight)
    · obtain ⟨block, hblock, rfl⟩ := exists_of_map_reader hread
      obtain ⟨_, hrecord, _⟩ := exists_of_map_reader hblock
      have hpositive : rest.height - 1 + 1 = rest.height :=
        Nat.sub_add_cancel (height_pos_of_record hrecord)
      rw [← hpositive]
      refine Statement.within_ofBlock fun s hs ↦ ?_
      obtain ⟨inside, item, hitem, hread⟩ := Block.exists_of_reader hblock s hs
      exact hinside hitem hread
    · obtain ⟨node, -, rfl⟩ := exists_of_map_reader hread
      exact ⟨Nat.zero_le _, by simp [Statement.rewritten]⟩

/-! ## Declarations -/

/-- Nothing in the bodies and initial values of the declaration nests deeper than `n` levels. -/
inductive Declaration.Within (n : Nat) : Declaration → Prop
  | namespaceDecl {leading : Trivia} {name : Token} {members : List Declaration} {trailing : Trivia}
      (h : ∀ member ∈ members, member.Within n) :
      (Declaration.namespaceDecl leading name members trailing).Within n
  | classDecl {leading : Trivia} {modifiers : List Token} {identifier : Token}
      {members : List Declaration} {trailing : Trivia} (h : ∀ member ∈ members, member.Within n) :
      (Declaration.classDecl leading modifiers identifier members trailing).Within n
  | constructorDecl {node : ConstructorDecl}
      (h : ∀ body ∈ node.body, ∀ s ∈ body.statements, s.Within n) :
      (Declaration.constructorDecl node).Within n
  | methodDecl {node : MethodDecl} (h : ∀ body ∈ node.body, ∀ s ∈ body.statements, s.Within n) :
      (Declaration.methodDecl node).Within n
  | fieldDecl {node : FieldDecl} (h : ∀ e ∈ node.declared.values, e.depth ≤ n) :
      (Declaration.fieldDecl node).Within n
  | unsupported {node : Unsupported} : (Declaration.unsupported node).Within n

theorem Statement.within_of_body {height n : Nat} {body : Option Block} (hheight : height ≤ n)
    (h : some none = some body ∨ ∃ doc : Doc, doc.height < height ∧
      Json.Reader.optional (Reader.blockOf (Reader.statement bound)) origin doc = .ok body) :
    ∀ block ∈ body, ∀ s ∈ block.statements, s.Within n := by
  intro block hblock s hs
  obtain ⟨value, hvalue, hread⟩ := exists_of_optional h block hblock
  obtain ⟨inside, item, hitem, hread⟩ := Block.exists_of_reader hread s hs
  exact (Statement.within_of_reader hread).mono (by omega)

/-- A declaration in a text is bounded by the levels that are left there, and so is everything
inside of it. -/
theorem Declaration.within_of_reader {d : Declaration} {n : Nat}
    (hn : doc.height ≤ n ∨ ∃ levels, origin = .text levels ∧ levels - 1 ≤ n)
    (h : Reader.declaration bound origin doc = .ok d) : d.Within n := by
  induction bound generalizing origin doc d with
  | zero => cases h
  | succ bound ih =>
    obtain ⟨chosen, hchosen, rest, hread, hdoc, htext⟩ := exists_of_tagged h
    have hrest : rest.height ≤ n := by
      rcases hn with hn | ⟨levels, horigin, hn⟩
      · exact Nat.le_trans hdoc hn
      · exact Nat.le_trans (htext levels horigin) hn
    simp only [List.mem_cons, List.not_mem_nil, or_false] at hchosen
    rcases hchosen with rfl | rfl | rfl | rfl | rfl | rfl
    · obtain ⟨_, hnode, rfl⟩ := exists_of_map_reader hread
      obtain ⟨⟨leading, name, members, trailing, _⟩, hrecord, rfl⟩ := exists_of_map_reader hnode
      obtain ⟨inside, -, -, -, hmembers, -⟩ := from_record hrecord
      refine .namespaceDecl fun member hmember ↦ ?_
      obtain ⟨within, -, item, hitem, hread⟩ := exists_of_items hmembers member hmember
      exact ih (.inl (by omega)) hread
    · obtain ⟨_, hnode, rfl⟩ := exists_of_map_reader hread
      obtain ⟨⟨leading, modifiers, identifier, members, trailing, _⟩, hrecord, rfl⟩ :=
        exists_of_map_reader hnode
      obtain ⟨inside, -, -, -, -, hmembers, -⟩ := from_record hrecord
      refine .classDecl fun member hmember ↦ ?_
      obtain ⟨within, -, item, hitem, hread⟩ := exists_of_items hmembers member hmember
      exact ih (.inl (by omega)) hread
    · obtain ⟨_, hnode, rfl⟩ := exists_of_map_reader hread
      obtain ⟨⟨leading, modifiers, identifier, parameters, body, trailing, _⟩, hrecord, rfl⟩ :=
        exists_of_map_reader hnode
      obtain ⟨inside, -, -, -, -, -, hbody, -⟩ := from_record hrecord
      exact .constructorDecl (Statement.within_of_body hrest hbody)
    · obtain ⟨_, hnode, rfl⟩ := exists_of_map_reader hread
      obtain ⟨⟨leading, modifiers, returnType, identifier, parameters, attributes, body, trailing,
        _⟩, hrecord, rfl⟩ := exists_of_map_reader hnode
      obtain ⟨inside, -, -, -, -, -, -, -, hbody, -⟩ := from_record hrecord
      exact .methodDecl (Statement.within_of_body hrest hbody)
    · obtain ⟨_, hnode, rfl⟩ := exists_of_map_reader hread
      obtain ⟨⟨leading, modifiers, declared, trailing, _⟩, hrecord, rfl⟩ :=
        exists_of_map_reader hnode
      obtain ⟨inside, -, -, -, hdeclared, -⟩ := from_record hrecord
      obtain ⟨value, hvalue, hread⟩ := exists_of_required hdeclared
      refine .fieldDecl fun e he ↦ ?_
      have hdepth := Variables.depth_le_height hread e he
      omega
    · obtain ⟨node, -, rfl⟩ := exists_of_map_reader hread
      exact .unsupported

end Bounded

/-- Nothing in a file that was read from a text nests deeper than 125 levels.  The file and the list
of its members are the other levels of the text. -/
theorem CompilationUnit.within_of_ofText {text : String} {unit : CompilationUnit}
    (h : CompilationUnit.ofText text = .ok unit) : ∀ member ∈ unit.members, member.Within 125 := by
  unfold ofText Json.Reader.ofText at h
  obtain ⟨read, hread, h⟩ := exists_of_bind_eq_ok h
  obtain ⟨_, _, h⟩ := exists_of_bind_eq_ok h
  obtain rfl : read = unit := Except.ok.inj h
  obtain ⟨⟨members, _⟩, hrecord, rfl⟩ := exists_of_map_reader hread
  obtain ⟨inside, hinside, hmembers, -⟩ := from_record hrecord
  obtain ⟨rfl, -⟩ := Origin.enter_text hinside
  intro member hmember
  obtain ⟨within, hwithin, item, -, hread⟩ := exists_of_items hmembers member hmember
  obtain ⟨rfl, -⟩ := Origin.enter_text hwithin
  exact Declaration.within_of_reader (.inr ⟨_, rfl, by decide⟩) hread

end Source

/-! ## The limits of a lowering -/

namespace Lowering

open Source

/-- The errors of the two limits. -/
def Error.isTooDeep : Error → Bool
  | nestingTooDeep | expressionTooDeep => true
  | _ => false

variable {n : Nat}

theorem isTooDeep_nameViolations (token : Token) (kind : Kind) :
    ∀ error ∈ nameViolations token kind, error.isTooDeep = false := by
  unfold nameViolations
  split <;> simp [Error.isTooDeep]

theorem isTooDeep_bodyViolations {body : Option Block} (hbody : n ≤ maxBodyHeight)
    (h : ∀ block ∈ body, ∀ s ∈ block.statements, s.Within n) (kind : Kind) (name : String) :
    ∀ error ∈ bodyViolations body kind name, error.isTooDeep = false := by
  cases body with
  | none => simp [bodyViolations, Error.isTooDeep]
  | some block =>
    have haccepted : statementsViolations 0 block.statements = [] := by
      rw [statementsViolations_eq_nil]
      intro s hs
      have hwithin := h block rfl s hs
      refine ⟨Nat.le_trans hwithin.height_le hbody, fun e he ↦ ?_⟩
      exact Nat.le_trans (hwithin.depth_le e he) (Nat.le_trans hbody (by decide))
    rw [bodyViolations, haccepted]
    simp

theorem isTooDeep_classMemberViolations {member : Declaration} (hn : n ≤ maxBodyHeight)
    (h : member.Within n) (className : String) :
    ∀ error ∈ classMemberViolations className member, error.isTooDeep = false := by
  cases h with
  | methodDecl h =>
    rw [classMemberViolations, List.forall_mem_append]
    exact ⟨isTooDeep_nameViolations _ _, isTooDeep_bodyViolations hn h _ _⟩
  | constructorDecl h => exact isTooDeep_bodyViolations hn h _ _
  | fieldDecl h =>
    have haccepted := (flatMap_expressionViolations_eq_nil _).mpr fun e he ↦
      Nat.le_trans (h e he) (Nat.le_trans hn (by decide))
    rw [classMemberViolations, haccepted]
    simp
  | namespaceDecl h => simp [classMemberViolations]
  | classDecl h => simp [classMemberViolations]
  | unsupported => simp [classMemberViolations]

theorem isTooDeep_namespaceMemberViolations {member : Declaration} (hn : n ≤ maxBodyHeight)
    (h : member.Within n) :
    ∀ error ∈ namespaceMemberViolations member, error.isTooDeep = false := by
  cases h with
  | classDecl h =>
    rw [namespaceMemberViolations, List.forall_mem_append, List.forall_mem_flatMap]
    exact ⟨isTooDeep_nameViolations _ _,
      fun member hmember ↦ isTooDeep_classMemberViolations hn (h member hmember) _⟩
  | namespaceDecl h => simp [namespaceMemberViolations]
  | constructorDecl h => simp [namespaceMemberViolations]
  | methodDecl h => simp [namespaceMemberViolations]
  | fieldDecl h => simp [namespaceMemberViolations]
  | unsupported => simp [namespaceMemberViolations]

theorem isTooDeep_topLevelViolations {member : Declaration} (hn : n ≤ maxBodyHeight)
    (h : member.Within n) : ∀ error ∈ topLevelViolations member, error.isTooDeep = false := by
  cases h with
  | namespaceDecl h =>
    rw [topLevelViolations, namespaceNameViolations, List.forall_mem_append, List.forall_mem_append,
      List.forall_mem_flatMap]
    refine ⟨⟨isTooDeep_nameViolations _ _, ?_⟩,
      fun member hmember ↦ isTooDeep_namespaceMemberViolations hn (h member hmember)⟩
    split <;> simp [Error.isTooDeep]
  | classDecl h => simp [topLevelViolations]
  | constructorDecl h => simp [topLevelViolations]
  | methodDecl h => simp [topLevelViolations]
  | fieldDecl h => simp [topLevelViolations]
  | unsupported => simp [topLevelViolations]

end Lowering

open Lowering

/-- A file that was read from a text never meets a limit of the lowering, whatever it is lowered
with. -/
theorem emit_ofText_ne_tooDeep {text : String} {unit : Source.CompilationUnit}
    (h : Source.CompilationUnit.ofText text = .ok unit) (names : NodeNames) (options : Options) :
    emit unit names options ≠ .error .nestingTooDeep ∧
      emit unit names options ≠ .error .expressionTooDeep := by
  have hviolations : ∀ error ∈ violations unit, error.isTooDeep = false := by
    rw [violations, List.forall_mem_flatMap]
    exact fun member hmember ↦ isTooDeep_topLevelViolations (by decide)
      (Source.CompilationUnit.within_of_ofText h member hmember)
  have hemit (error : Lowering.Error) (hemit : emit unit names options = .error error) :
      error.isTooDeep = false :=
    hviolations error (List.mem_of_mem_head? (emit_eq_error_iff_violation.mp hemit))
  constructor
  · intro h
    cases hemit _ h
  · intro h
    cases hemit _ h

/-- A block that returns the value of an assignment, with its records spelt as arrays and some of
its tags as indices. -/
def nestedText : String :=
  "[[[\"Namespace\",\"\",\"A\",[[\"Class\",\"\",[],\"B\",[[\"Constructor\",\"\",[],\"B\",[]," ++
    "[\"\",[[\"Block\",\"\",[[\"Return\",\"\"," ++
    "[\"Assignment\",\x7b\"kind\":3,\"text\":\"x\"\x7d,\"=\",\x7b\"kind\":3,\"text\":\"y\"\x7d]" ++
    "]]]]]]]]]]]]"

theorem emit_ofText_ne_tooDeep_nestedText :
    ∃ unit, Source.CompilationUnit.ofText nestedText = .ok unit ∧
      emit unit {} {} ≠ .error .nestingTooDeep ∧ emit unit {} {} ≠ .error .expressionTooDeep := by
  have hok : (Source.CompilationUnit.ofText nestedText).isOk = true := by decide +kernel
  cases hread : Source.CompilationUnit.ofText nestedText with
  | error fault =>
    rw [hread] at hok
    cases hok
  | ok unit => exact ⟨unit, rfl, emit_ofText_ne_tooDeep hread {} {}⟩

end CodeBehind
