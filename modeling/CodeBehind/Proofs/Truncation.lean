import CodeBehind.Proofs.Sessions
import CodeBehind.Proofs.Statements

/-!
# A sink that turns texts down truncates the script

Every node can be lowered by a call of its own, in any scope.  No call blames the sink without cause,
so what is known of sessions holds of any list of calls on one writer: up to the first refusal the
sink gets what a sink that takes everything gets, and the call that meets the refusal reports it.  A
sink with room for a number of bytes ends up with a beginning of the whole output, and a call reports
it if and only if the whole output does not fit.
-/

namespace CodeBehind

variable {σ : Type}

open Sink

namespace Lowering

open Source

/-! ## Calls -/

/-- A node to lower, and where it stands. -/
inductive Call where
  | unit (node : CompilationUnit)
  | namespaceDecl (node : NamespaceDecl) (scope : Scope)
  | classDecl (node : ClassDecl) (scope : Scope)
  | constructorDecl (node : ConstructorDecl) (scope : Scope)
  | methodDecl (node : MethodDecl) (scope : Scope)
  | fieldDecl (node : FieldDecl) (scope : Scope)
  | statement (node : Statement) (scope : Scope)
  | expression (node : Expression)

def Call.script (names : NodeNames) (options : Options) : Call → Script
  | unit node => lowerUnit names options node
  | namespaceDecl node scope => lowerNamespace names options node scope
  | classDecl node scope => lowerClass options node scope
  | constructorDecl node scope => lowerConstructor node scope
  | methodDecl node scope => lowerMethod node scope
  | fieldDecl node scope => lowerField node scope
  | statement node scope => lowerStatement scope node
  | expression node => lowerExpression node

/-- Calls one after the other on the same writer, failed or not. -/
def Call.session (out : Sink σ) (names : NodeNames) (options : Options) (calls : List Call)
    (w : Writer σ) : List Turn × Writer σ :=
  Lowering.session out options.toLayout (calls.map (Call.script names options)) w

/-! ## Lowerings do not blame the sink -/

/-- The script does not fail on its own account with the error that stands for a refusal. -/
def Script.Blameless (s : Script) : Prop :=
  s.failure ≠ some .sink

namespace Script.Blameless

theorem of_none {s : Script} (h : s.failure = none) : s.Blameless := by
  rw [Script.Blameless, h]
  exact (Option.some_ne_none _).symm

theorem append {a b : Script} (ha : a.Blameless) (hb : b.Blameless) :
    Script.Blameless (a ++ b) := by
  rw [Script.Blameless, failure_append]
  cases hfailure : a.failure with
  | none => exact hb
  | some error =>
    rw [Script.Blameless, hfailure] at ha
    exact ha

theorem within {s : Script} (h : s.Blameless) (event : Event) :
    (Script.within event s).Blameless := by
  rwa [Script.Blameless, failure_within]

theorem flatMap {α : Type} {xs : List α} {part : α → Script}
    (h : ∀ x ∈ xs, (part x).Blameless) : Script.Blameless (xs.flatMap part) := by
  induction xs with
  | nil => exact of_none rfl
  | cons x rest ih =>
    obtain ⟨hfirst, hrest⟩ := List.forall_mem_cons.mp h
    rw [List.flatMap_cons]
    exact hfirst.append (ih hrest)

theorem whenOk {α : Type} {value : Except Error α} {next : α → Script}
    (hvalue : value ≠ .error .sink) (hnext : ∀ a, (next a).Blameless) :
    (Script.whenOk value next).Blameless := by
  cases value with
  | ok a => exact hnext a
  | error error =>
    intro h
    exact hvalue (congrArg Except.error (Option.some.inj h))

end Script.Blameless

open Script (Blameless)

/-! The checks before a lowering goes on have errors of their own. -/

theorem enterBlock_ne_sink (scope : Scope) : scope.enterBlock ≠ .error .sink := by
  unfold Scope.enterBlock
  split <;> simp

theorem enter_ne_sink (scope : Scope) : scope.enter ≠ .error .sink := by
  unfold Scope.enter Scope.enterBlock
  split <;> simp [Except.map]

theorem declaredName_ne_sink (token : Token) (kind : Kind) :
    declaredName token kind ≠ .error .sink := by
  unfold declaredName
  split <;> simp

theorem namespaceName_ne_sink (token : Token) : namespaceName token ≠ .error .sink := by
  unfold namespaceName
  cases hname : declaredName token .namespaceDeclaration with
  | error error =>
    intro h
    have herror : error = .sink := Except.error.inj h
    exact declaredName_ne_sink token _ (herror ▸ hname)
  | ok name =>
    simp only [bind, Except.bind]
    split <;> simp

theorem enclosingClass_ne_sink (scope : Scope) (kind : Kind) :
    enclosingClass scope kind ≠ .error .sink := by
  unfold enclosingClass
  split <;> simp

theorem requiredBody_ne_sink (body : Option Block) (kind : Kind) (name : String) :
    requiredBody body kind name ≠ .error .sink := by
  unfold requiredBody
  split <;> simp

theorem blameless_lowerExpressionAt (level : Nat) (e : Expression) :
    (lowerExpressionAt level e).Blameless := by
  induction e generalizing level with
  | assignment left operator right ihLeft ihRight =>
    rw [lowerExpressionAt]
    split
    · intro h
      cases h
    · have htrivia (e : Expression) := Blameless.of_none (failure_operandTrivia e)
      exact ((((ihLeft _).append (htrivia left)).append (.of_none rfl)).append (ihRight _)).append
        (htrivia right)
  | compound left operator right =>
    rw [lowerExpressionAt]
    split <;> exact fun h ↦ nomatch h
  | cast opening type closing operand ih =>
    rw [lowerExpressionAt]
    split
    · intro h
      cases h
    · exact ih _
  | verbatim token =>
    rw [lowerExpressionAt]
    split <;> exact fun h ↦ nomatch h

theorem blameless_lowerReturn (value : Option Expression) : (lowerReturn value).Blameless := by
  cases value with
  | none => exact .of_none rfl
  | some value => exact (blameless_lowerExpressionAt 0 value).append (.of_none rfl)

theorem blameless_lowerVariables (declared : Variables) : (lowerVariables declared).Blameless := by
  have hdeclarator (d : Declarator) : (lowerDeclarator d).Blameless := by
    unfold lowerDeclarator
    cases d.initializer with
    | none => exact .of_none rfl
    | some value => exact (blameless_lowerExpressionAt 0 value).append (.of_none rfl)
  have hdeclarators : Blameless (declared.declarators.flatMap lowerDeclarator) :=
    .flatMap fun d _ ↦ hdeclarator d
  exact hdeclarators

theorem blameless_lowerStatement (scope : Scope) (s : Statement) :
    (lowerStatement scope s).Blameless := by
  induction s using Statement.inductionOn generalizing scope with
  | ifThen leading condition body trailing ih =>
    rw [lowerStatement]
    refine .append (.of_none (failure_openIf ..)) (.whenOk (enter_ne_sink scope) fun inner ↦ ?_)
    exact (ih inner).append (.of_none (failure_closeIf ..))
  | ifElse leading condition body elseLeading elseBody trailing ih ihElse =>
    rw [lowerStatement]
    refine .append (.of_none (failure_openIf ..)) (.whenOk (enter_ne_sink scope) fun inner ↦ ?_)
    exact (((ih inner).append (.of_none (failure_elseLine ..))).append (ihElse inner)).append
      (.of_none (failure_closeIf ..))
  | ret leading value trailing =>
    rw [lowerStatement]
    exact (Blameless.append (.of_none (failure_beginStatement ..))
      (blameless_lowerReturn value)).append (.of_none rfl)
  | locals leading declared trailing =>
    rw [lowerStatement]
    exact (Blameless.append (.of_none (failure_beginStatement ..))
      (blameless_lowerVariables declared)).append (.of_none rfl)
  | expression leading value trailing =>
    rw [lowerStatement]
    exact (Blameless.append (.of_none (failure_beginStatement ..))
      (blameless_lowerExpressionAt 0 value)).append (.of_none rfl)
  | block leading statements trailing ih =>
    rw [lowerStatement]
    refine .whenOk (enterBlock_ne_sink scope) fun inner ↦ ?_
    rw [lowerStatements_eq_flatMap]
    exact .append (.of_none (failure_innerTrivia leading)) (.flatMap fun s hs ↦ ih s hs inner)
  | unsupported node => exact .of_none rfl

theorem blameless_lowerFunction (leading : Trivia) (header : String) (body : Block)
    (trailing : Trivia) (scope : Scope) :
    (lowerFunction leading header body trailing scope).Blameless := by
  have hbody : (lowerBody body scope).Blameless := by
    refine .append (.of_none (by split <;> rfl)) (.whenOk (enter_ne_sink scope) fun inner ↦ ?_)
    rw [lowerStatements_eq_flatMap]
    exact .flatMap fun s _ ↦ blameless_lowerStatement inner s
  exact ((((Blameless.of_none (failure_headerTrivia leading)).append (.of_none rfl)).append
    hbody).append (.of_none rfl)).append (.of_none (failure_closingTrivia trailing))

theorem blameless_lowerConstructor (node : ConstructorDecl) (scope : Scope) :
    (lowerConstructor node scope).Blameless := by
  refine .within (.whenOk (enclosingClass_ne_sink scope _) fun className ↦ ?_) _
  refine .whenOk (requiredBody_ne_sink node.body _ className) fun body ↦ ?_
  exact .whenOk (enter_ne_sink scope) fun inner ↦ blameless_lowerFunction _ _ _ _ _

theorem blameless_lowerMethod (node : MethodDecl) (scope : Scope) :
    (lowerMethod node scope).Blameless := by
  refine .within (.whenOk (enclosingClass_ne_sink scope _) fun className ↦ ?_) _
  refine .whenOk (declaredName_ne_sink node.identifier _) fun name ↦ ?_
  refine .whenOk (requiredBody_ne_sink node.body _ name) fun body ↦ ?_
  exact .whenOk (enter_ne_sink scope) fun inner ↦ blameless_lowerFunction _ _ _ _ _

theorem blameless_lowerField (node : FieldDecl) (scope : Scope) :
    (lowerField node scope).Blameless := by
  refine .whenOk (enclosingClass_ne_sink scope _) fun _ ↦ .whenOk (enter_ne_sink scope) fun inner ↦ ?_
  exact (Blameless.append (.of_none (failure_beginStatement ..))
    (blameless_lowerVariables node.declared)).append (.of_none rfl)

theorem blameless_lowerClass (options : Options) (node : ClassDecl) (scope : Scope) :
    (lowerClass options node scope).Blameless := by
  have hmember (inner : Scope) (member : Declaration) :
      (lowerClassMember inner member).Blameless := by
    cases member with
    | methodDecl node => exact blameless_lowerMethod node inner
    | constructorDecl node => exact blameless_lowerConstructor node inner
    | fieldDecl node => exact blameless_lowerField node inner
    | _ => exact .of_none rfl
  refine .within (.whenOk (declaredName_ne_sink node.identifier _) fun name ↦ ?_) _
  cases scope.enclosingNamespace with
  | none =>
    intro h
    cases h
  | some namespaceName =>
    refine .append (.append (.append (.append ?_ (.flatMap fun m _ ↦ hmember _ m)) (.of_none rfl)) ?_)
      (.of_none (failure_closingTrivia node.trailing))
    · exact .append (.of_none (failure_headerTrivia node.leading)) (.of_none rfl)
    · split
      · exact .of_none (failure_constructorCall ..)
      · exact .of_none rfl

theorem blameless_lowerReferences (names : NodeNames) (options : Options) (scope : Scope) :
    (lowerReferences names options scope).Blameless := by
  unfold lowerReferences
  cases scope.enclosingNamespace with
  | none =>
    intro h
    cases h
  | some namespaceName =>
    simp only
    split
    · exact .of_none rfl
    · refine .append (.append (.of_none (by unfold referencesNote; split <;> rfl)) (.of_none rfl))
        (.whenOk (enter_ne_sink scope) fun inner ↦ ?_)
      exact .append (.flatMap fun name _ ↦ .of_none rfl) (.of_none rfl)

theorem blameless_lowerNamespace (names : NodeNames) (options : Options) (node : NamespaceDecl)
    (scope : Scope) : (lowerNamespace names options node scope).Blameless := by
  have hmember (inner : Scope) (member : Declaration) :
      (lowerNamespaceMember options inner member).Blameless := by
    cases member with
    | classDecl leading modifiers identifier members trailing =>
      exact blameless_lowerClass options _ inner
    | _ => exact .of_none rfl
  refine .within (.whenOk (namespaceName_ne_sink node.name) fun name ↦ ?_) _
  refine .append (.append (.of_none (failure_headerTrivia node.leading)) (.of_none rfl))
    (.whenOk (enter_ne_sink scope) fun inner ↦ ?_)
  refine .append (.append (.append ?_ (.flatMap fun m _ ↦ hmember _ m)) (.of_none rfl))
    (.of_none (failure_closingTrivia node.trailing))
  exact blameless_lowerReferences names options _

/-- No call fails with the error of a sink on its own account. -/
theorem Call.blameless_script (names : NodeNames) (options : Options) (call : Call) :
    (call.script names options).Blameless := by
  cases call with
  | unit node =>
    refine .append (.flatMap fun member _ ↦ ?_) (.of_none rfl)
    cases member with
    | namespaceDecl leading name members trailing =>
      exact blameless_lowerNamespace names options _ .root
    | _ => exact .of_none rfl
  | namespaceDecl node scope => exact blameless_lowerNamespace names options node scope
  | classDecl node scope => exact blameless_lowerClass options node scope
  | constructorDecl node scope => exact blameless_lowerConstructor node scope
  | methodDecl node scope => exact blameless_lowerMethod node scope
  | fieldDecl node scope => exact blameless_lowerField node scope
  | statement node scope => exact blameless_lowerStatement scope node
  | expression node => exact blameless_lowerExpressionAt 0 node

end Lowering

/-! ## Sinks of limited size -/

namespace Sink

/-- A sink with room for `limit` bytes.  While it is open it takes a text if there is room for it, and
else turns it down and keeps at most a beginning of it.  What it does when it is no longer open is
left to the sink. -/
structure Bounded (out : Sink σ) (limit : Nat) (held : σ → List Char) (isOpen : σ → Prop) :
    Prop where
  takes : ∀ s text, isOpen s → Text.byteCount (held s ++ text.toList) ≤ limit →
    ∃ s', out.put s text = (true, s') ∧ held s' = held s ++ text.toList ∧ isOpen s'
  refuses : ∀ s text, isOpen s → limit < Text.byteCount (held s ++ text.toList) →
    ∃ s', out.put s text = (false, s') ∧ held s' <+: held s ++ text.toList

/-- Once the sink turned a text down, nothing is added to what it holds. -/
def Shuts (out : Sink σ) (held : σ → List Char) : Prop :=
  ∃ shut : σ → Prop, (∀ s text, (out.put s text).1 = false → shut (out.put s text).2) ∧
    ∀ s text, shut s → shut (out.put s text).2 ∧ held (out.put s text).2 = held s

section Bounded

variable {out : Sink σ} {limit : Nat} {held : σ → List Char} {isOpen : σ → Prop}

theorem Bounded.of_takes (h : out.Bounded limit held isOpen) {list : List String} {a b : σ}
    (htakes : out.Takes a list b) (hopen : isOpen a) (hfits : Text.byteCount (held a) ≤ limit) :
    isOpen b ∧ held b = held a ++ list.flatMap String.toList ∧
      Text.byteCount (held b) ≤ limit := by
  induction list generalizing a with
  | nil =>
    obtain rfl : a = b := htakes
    exact ⟨hopen, by simp, hfits⟩
  | cons text rest ih =>
    obtain ⟨next, hput, hrest⟩ := htakes
    rcases Nat.lt_or_ge limit (Text.byteCount (held a ++ text.toList)) with hfull | hroom
    · obtain ⟨s', hrefused, _⟩ := h.refuses a text hopen hfull
      rw [hput] at hrefused
      cases hrefused
    · obtain ⟨s', htaken, hheld, hopen'⟩ := h.takes a text hopen hroom
      obtain rfl : next = s' := by
        rw [hput] at htaken
        exact congrArg Prod.snd htaken
      obtain ⟨hlast, htext, hbytes⟩ := ih hrest hopen' (hheld ▸ hroom)
      exact ⟨hlast, by rw [htext, hheld, List.flatMap_cons, List.append_assoc], hbytes⟩

theorem Bounded.of_refused (h : out.Bounded limit held isOpen) {s s' : σ} {text : String}
    (hopen : isOpen s) (hput : out.put s text = (false, s')) :
    limit < Text.byteCount (held s ++ text.toList) ∧ held s' <+: held s ++ text.toList := by
  rcases Nat.lt_or_ge limit (Text.byteCount (held s ++ text.toList)) with hfull | hroom
  · obtain ⟨s'', hrefused, hkept⟩ := h.refuses s text hopen hfull
    rw [hput] at hrefused
    obtain rfl : s' = s'' := congrArg Prod.snd hrefused
    exact ⟨hfull, hkept⟩
  · obtain ⟨s'', htaken, _⟩ := h.takes s text hopen hroom
    rw [hput] at htaken
    cases htaken

end Bounded

theorem isPrefix_fitting (cs : List Char) (room : Nat) : Text.fitting cs room <+: cs := by
  induction cs generalizing room with
  | nil => exact List.nil_prefix
  | cons c rest ih =>
    rw [Text.fitting]
    split
    · exact List.cons_prefix_cons.mpr ⟨rfl, ih _⟩
    · exact List.nil_prefix

theorem bounded_limited (limit : Nat) :
    (Sink.limited limit).Bounded limit (·.text.toList)
      fun held ↦ held.full = false ∧ Text.byteCount held.text.toList ≤ limit where
  takes held text hopen hroom := by
    have hsum := hroom
    rw [Text.byteCount_append] at hsum
    have hfits : Text.byteCount text.toList ≤ limit - Text.byteCount held.text.toList := by omega
    refine ⟨{ held with text := held.text ++ text }, ?_, String.toList_append, hopen.1, ?_⟩
    · simp only [limited, hopen.1, Bool.false_eq_true, if_false, if_pos hfits]
    · rwa [String.toList_append]
  refuses held text hopen hfull := by
    have hsum := hfull
    rw [Text.byteCount_append] at hsum
    have hlimit := hopen.2
    have hlarge : ¬ Text.byteCount text.toList ≤ limit - Text.byteCount held.text.toList := by omega
    have hput : (limited limit).put held text = (false, ⟨held.text ++ String.ofList
        (Text.fitting text.toList (limit - Text.byteCount held.text.toList)), true⟩) := by
      simp only [limited, hopen.1, Bool.false_eq_true, if_false, if_neg hlarge]
    refine ⟨_, hput, ?_⟩
    rw [String.toList_append, String.toList_ofList]
    exact (List.prefix_append_right_inj _).mpr (isPrefix_fitting ..)

theorem shuts_limited (limit : Nat) : (Sink.limited limit).Shuts (·.text.toList) := by
  refine ⟨fun held ↦ held.full = true, fun held text h ↦ ?_, fun held text hfull ↦ ?_⟩
  · simp only [limited] at h ⊢
    split
    next hfull => exact hfull
    next hopen =>
      rw [if_neg hopen] at h
      split
      next hroom =>
        rw [if_pos hroom] at h
        cases h
      next => rfl
  · simp [limited, hfull]

end Sink

theorem byteCount_mono {a b : List Char} (h : a <+: b) : Text.byteCount a ≤ Text.byteCount b := by
  obtain ⟨rest, rfl⟩ := h
  rw [Text.byteCount_append]
  exact Nat.le_add_right ..

namespace Lowering

section Truncation

variable {out : Sink σ} {layout : Layout} {scripts : List Script} {w : Writer σ}
  {u : Writer String}

/-- Up to the first refusal a sink gets what a sink that takes everything gets. -/
theorem throughRefusal_session (h : w.stance = u.stance) :
    (throughRefusal (attempts (session out layout scripts w).1)).map (·.text) <+:
      texts (session .unbounded layout scripts u).1 := by
  obtain ⟨before, _, _, ⟨hturns, _, _⟩ | ⟨text, _, _, htexts, hrefused, _⟩⟩ :=
    session_cases out layout scripts w u h
  · rw [hturns]
    exact (isPrefix_throughRefusal _).map _
  · rw [hrefused, List.map_append, text_allTaken]
    exact htexts

/-- Without a refusal, nothing tells the sink from one that takes everything. -/
theorem session_eq_unbounded (h : w.stance = u.stance)
    (htaken : ∀ attempt ∈ attempts (session out layout scripts w).1, attempt.taken = true) :
    (session out layout scripts w).1 = (session .unbounded layout scripts u).1 := by
  obtain ⟨before, _, _, ⟨hturns, _, _⟩ | ⟨text, _, _, _, hrefused, _⟩⟩ :=
    session_cases out layout scripts w u h
  · exact hturns
  · have hmem : ⟨text, false⟩ ∈ throughRefusal (attempts (session out layout scripts w).1) := by
      rw [hrefused]
      exact List.mem_append_right _ (List.mem_singleton_self _)
    cases htaken _ ((isPrefix_throughRefusal _).mem hmem)

/-- A sink that takes everything is never blamed. -/
theorem result_ne_sink_unbounded (hscripts : ∀ s ∈ scripts, s.Blameless) :
    ∀ turn ∈ (session .unbounded layout scripts u).1, turn.result ≠ .error .sink := by
  apply forall_mem_session
  intro s hs u
  obtain ⟨sink, _, hturn⟩ := s.turn_unbounded layout u
  have hstops := (s.stopsAtRefusal_turn (hscripts s hs) u : (s.turn .unbounded layout u).1.StopsAtRefusal)
  intro hresult
  obtain ⟨attempt, hmem, htaken⟩ := hstops.2.mp hresult
  rw [hturn] at hmem
  rw [taken_of_mem_allTaken hmem] at htaken
  cases htaken

variable {limit : Nat} {held : σ → List Char} {isOpen : σ → Prop}

/-- On a sink of limited size some turn fails for the sink if and only if there is no room for all that
is written, and what the sink holds then is a beginning of that. -/
theorem session_bounded (h : w.stance = u.stance) (hscripts : ∀ s ∈ scripts, s.Blameless)
    (hbounded : out.Bounded limit held isOpen) (hopen : isOpen w.sink)
    (hheld : held w.sink = u.sink.toList) (hfits : Text.byteCount (held w.sink) ≤ limit) :
    ((∃ turn ∈ (session out layout scripts w).1, turn.result = .error .sink) ↔
        limit < Text.byteCount (session .unbounded layout scripts u).2.sink.toList) ∧
      (out.Shuts held ∨
          (∀ turn ∈ (session out layout scripts w).1.dropLast, turn.result ≠ .error .sink) →
        held (session out layout scripts w).2.sink <+:
          (session .unbounded layout scripts u).2.sink.toList) := by
  have hfull := sink_session_unbounded layout scripts u
  obtain ⟨before, state, htakes, hcases⟩ := session_cases out layout scripts w u h
  obtain ⟨hstate, hbefore, hbytes⟩ := hbounded.of_takes htakes hopen hfits
  rw [hheld] at hbefore
  rcases hcases with ⟨hturns, htexts, hsink⟩ |
    ⟨text, state', hput, htexts, _, early, turn, late, w', hresult, hsink, hsession⟩
  · -- Nothing was turned down, so the sink holds all that was written.
    rw [← htexts, ← hbefore] at hfull
    rw [hsink, hfull, hturns]
    refine ⟨⟨?_, fun hlarge ↦ absurd hbytes (Nat.not_le_of_lt hlarge)⟩, fun _ ↦ List.prefix_rfl⟩
    rintro ⟨turn, hmem, hresult⟩
    exact absurd hresult (result_ne_sink_unbounded hscripts turn hmem)
  · obtain ⟨hlarge, hkept⟩ := hbounded.of_refused hstate hput
    have hbegin : held state ++ text.toList <+:
        (session .unbounded layout scripts u).2.sink.toList := by
      obtain ⟨rest, hrest⟩ := htexts
      refine ⟨rest.flatMap String.toList, ?_⟩
      rw [hfull, hbefore, ← hrest]
      simp
    refine ⟨⟨fun _ ↦ Nat.lt_of_lt_of_le hlarge (byteCount_mono hbegin), fun _ ↦ ⟨turn, ?_, hresult⟩⟩,
      fun hstop ↦ ?_⟩
    · rw [hsession]
      exact List.mem_append_right _ (List.mem_cons_self ..)
    · have hlast : held (session out layout scripts w).2.sink = held state' := by
        rw [hsession]
        rcases hstop with ⟨shut, hshuts, hkeeps⟩ | hstop
        · refine (session_invariant (P := fun s ↦ shut s ∧ held s = held state')
            (fun s text hs ↦ ?_) ?_).2
          · exact ⟨(hkeeps s text hs.1).1, (hkeeps s text hs.1).2.trans hs.2⟩
          · have hshut := hshuts state text (by rw [hput])
            rw [hput] at hshut
            rw [hsink]
            exact ⟨hshut, rfl⟩
        · -- The turn that met the refusal was the last one.
          cases late with
          | nil => exact congrArg held hsink
          | cons s late =>
            rw [hsession] at hstop
            refine absurd hresult (hstop turn ?_)
            simp [session]
      rw [hlast]
      exact hkept.trans hbegin

end Truncation

end Lowering

open Lowering Act

/-- A sink truncates what calls write, and does nothing else.  Up to the first refusal it is handed
what a sink that takes everything is handed.  The call that meets a refusal stops and reports it, and
no other call does; without a refusal all calls end as on a sink that takes everything.  The writer
stands where the texts that were taken and the comments that were marked put it.  On a sink of limited
size a refusal is reported if and only if the whole output does not fit, and until the caller goes on
after that, or for ever if the sink shuts, the sink holds a beginning of the whole output. -/
theorem session_truncated (out : Sink σ) (start : σ) (names : NodeNames) (options : Options)
    (calls : List Call) :
    let cut := Call.session out names options calls { sink := start }
    let full := Call.session .unbounded names options calls .empty
    (throughRefusal (attempts cut.1)).map (·.text) <+: texts full.1 ∧
      (∀ turn ∈ cut.1, turn.StopsAtRefusal) ∧
      ((∀ attempt ∈ attempts cut.1, attempt.taken = true) → cut.1 = full.1) ∧
      (cut.2.Reflects (cut.1.flatMap (·.done)) ∧
        handed (cut.1.flatMap (·.done)) = accepted (attempts cut.1)) ∧
      ∀ limit held isOpen, out.Bounded limit held isOpen → isOpen start → held start = [] →
        ((∃ turn ∈ cut.1, turn.result = .error .sink) ↔
            limit < Text.byteCount full.2.sink.toList) ∧
          (out.Shuts held ∨ (∀ turn ∈ cut.1.dropLast, turn.result ≠ .error .sink) →
            held cut.2.sink <+: full.2.sink.toList) := by
  have hscripts : ∀ s ∈ calls.map (Call.script names options), s.Blameless := by
    intro s hs
    obtain ⟨call, _, rfl⟩ := List.mem_map.mp hs
    exact call.blameless_script names options
  have hnew : ({ sink := start } : Writer σ).Reflects [] :=
    ⟨rfl, rfl, by simp⟩
  refine ⟨throughRefusal_session rfl,
    forall_mem_session fun s hs w ↦ s.stopsAtRefusal_turn (hscripts s hs) w,
    session_eq_unbounded rfl, ⟨reflects_session hnew _, accepted_session.symm⟩, ?_⟩
  intro limit held isOpen hbounded hopen hheld
  have hfits : Text.byteCount (held start) ≤ limit := by
    rw [hheld]
    exact Nat.zero_le limit
  exact session_bounded rfl hscripts hbounded hopen hheld hfits

/-- A marker, a statement behind it, and a method that has no class. -/
def timerCalls : List Call :=
  [.expression (.assignWith "+=" (.ofText "timer.Tick") (.ofText "OnTick")),
   .statement (.ret {} (some (.ofText "x")) {}) .root,
   .methodDecl { identifier := { text := "Run" } } .root]

theorem session_truncated_timerCalls :
    let cut := Call.session (.limited 45) {} {} timerCalls { sink := {} }
    let full := Call.session .unbounded {} {} timerCalls .empty
    (∃ turn ∈ cut.1, turn.result = .error .sink) ∧ cut.2.sink.text.toList <+: full.2.sink.toList := by
  obtain ⟨_, _, _, _, hlimited⟩ := session_truncated (.limited 45) {} {} {} timerCalls
  obtain ⟨hreported, hheld⟩ := hlimited 45 _ _ (bounded_limited 45) ⟨rfl, Nat.zero_le _⟩ rfl
  exact ⟨hreported.mpr (by decide +kernel), hheld (.inl (shuts_limited 45))⟩

end CodeBehind
