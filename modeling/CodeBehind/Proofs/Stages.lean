import CodeBehind.Command.Run
import CodeBehind.Proofs.Provenance
import CodeBehind.Proofs.Stores

/-!
# The stages of a run

A run goes through ten stages, each of which can fail on its own.  Whatever else is wrong, the
failure that is reported is that of the first stage that fails.  Nothing is written before the last
stage has passed, so a run changes the output file or nothing at all.
-/

namespace CodeBehind.Command

open Lowering (NodeNames)

/-- What went wrong, if anything did. -/
def fault? {ε α : Type} : Except ε α → Option ε
  | .error e => some e
  | .ok _ => none

/-! ## Files that are read -/

/-- What there is to be read. -/
structure View where
  isFile : String → Bool
  read : String → Except FileFault String

def Store.view (store : Store) : View where
  isFile := store.isFile
  read := store.read

/-- A file to be read, the failure if it cannot be, and what becomes of its text. -/
structure Input (α : Type) where
  path : String
  unreadable : FileFault → Failure
  parse : String → Except Failure α

namespace Input

def config (path : String) : Input Config where
  path
  unreadable := .readConfig path
  parse text := (Config.parse text).mapError (.parseConfig path)

def names (path : String) : Input (List String) where
  path
  unreadable := .readNames path
  parse text :=
    if holdsArray path then (Names.ofArray text).mapError (.parseNames path)
    else .ok (Names.ofPlain text)

def tree (path : String) : Input Source.CompilationUnit where
  path
  unreadable := .readTree path
  parse text := (Source.CompilationUnit.ofText text).mapError (.parseTree path)

variable {α : Type} (view : View) (input : Input α)

def load : Except Failure α :=
  match view.read input.path with
  | .error fault => .error (input.unreadable fault)
  | .ok text => input.parse text

def readFailure : Option Failure :=
  (fault? (view.read input.path)).map input.unreadable

/-- A text that was read need not make sense. -/
def parseFailure : Option Failure :=
  (view.read input.path).toOption.bind fun text ↦ fault? (input.parse text)

theorem fault?_load :
    fault? (input.load view) = (input.readFailure view).or (input.parseFailure view) := by
  unfold load readFailure parseFailure
  cases view.read input.path <;> rfl

end Input

/-- The value of a file, or a fallback if there is none to read. -/
def loadOr {α : Type} (view : View) (fallback : α) : Option (Input α) → Except Failure α
  | none => .ok fallback
  | some input => input.load view

theorem fault?_loadOr {α : Type} (view : View) (fallback : α) (input : Option (Input α)) :
    fault? (loadOr view fallback input) =
      (input.bind (·.readFailure view)).or (input.bind (·.parseFailure view)) := by
  cases input with
  | none => rfl
  | some input => exact input.fault?_load view

/-! ## Stages -/

/-- The steps that a run takes before it writes. -/
inductive Stage where
  | configRead
  | configParse
  | namesRead
  | namesParse
  | indentValue
  | lineBreakValue
  | nodeNames
  | treeRead
  | treeParse
  | lowering
deriving DecidableEq

/-- The stages in the order in which they are taken. -/
def Stage.all : List Stage :=
  [configRead, configParse, namesRead, namesParse, indentValue, lineBreakValue, nodeNames, treeRead,
   treeParse, lowering]

section Outcome

variable (view : View) (arguments : Arguments)

/-- The config file that was named, or else one next to the tree. -/
def configPath : Option String :=
  arguments.config <|> (Path.parent? arguments.tree).bind fun directory ↦
    let path := Path.child directory Config.fileName
    if view.isFile path then some path else none

def configInput : Option (Input Config) :=
  (configPath view arguments).map .config

def namesInput : Option (Input (List String)) :=
  arguments.names.map .names

/-- The settings of the config file, none of them if there is no such file or it makes no sense. -/
def settings : Config :=
  (loadOr view {} (configInput view arguments)).toOption.getD {}

def fileNames : List String :=
  (loadOr view [] (namesInput arguments)).toOption.getD []

/-- All node names, in the order in which they are bound. -/
def listedNames : List String :=
  (settings view arguments).nodeNames.getD [] ++ fileNames view arguments ++ arguments.name

/-- The script, if there is all that it takes to lower the tree. -/
def lowered : Option (Except Lowering.Error String) := do
  let resolved ← (resolveOptions (settings view arguments) arguments
    (fileNames view arguments)).toOption
  let names ← (NodeNames.ofList (listedNames view arguments)).toOption
  let unit ← ((Input.tree arguments.tree).load view).toOption
  pure (emit unit names resolved.options)

/-- The failure of a stage, whether or not an earlier one fails. -/
def Stage.failure : Stage → Option Failure
  | configRead => (configInput view arguments).bind (·.readFailure view)
  | configParse => (configInput view arguments).bind (·.parseFailure view)
  | namesRead => (namesInput arguments).bind (·.readFailure view)
  | namesParse => (namesInput arguments).bind (·.parseFailure view)
  | indentValue =>
    fault? (settingValue .indent IndentUnit.ofName? arguments.indent
      (settings view arguments).indent)
  | lineBreakValue =>
    fault? (settingValue .lineBreak lineBreakOfName? arguments.lineBreak
      (settings view arguments).lineBreak)
  | nodeNames => (fault? (NodeNames.ofList (listedNames view arguments))).map .invalidNodeNames
  | treeRead => (Input.tree arguments.tree).readFailure view
  | treeParse => (Input.tree arguments.tree).parseFailure view
  | lowering => ((lowered view arguments).bind fault?).map (.lower arguments.tree)

/-- The failure of the first stage that fails. -/
def firstFailure : Option Failure :=
  Stage.all.findSome? (Stage.failure view arguments)

/-- The options and names that the arguments lead to. -/
def resolution : Except Failure Resolved := do
  let config ← loadOr view {} (configInput view arguments)
  let fileNames ← loadOr view [] (namesInput arguments)
  resolveOptions config arguments fileNames

/-- What there is to be lowered. -/
def preparation : Except Failure Job := do
  let resolved ← resolution view arguments
  let names ← (NodeNames.ofList resolved.nodeNames).mapError .invalidNodeNames
  let unit ← (Input.tree arguments.tree).load view
  pure { unit, names, options := resolved.options }

/-- What a run comes to before it writes. -/
def outcome : Except Failure String := do
  let job ← preparation view arguments
  (emit job.unit job.names job.options).mapError (.lower arguments.tree)

/-! ## The first failure -/

theorem fault?_resolveOptions (config : Config) (fileNames : List String) :
    fault? (resolveOptions config arguments fileNames) =
      (fault? (settingValue .indent IndentUnit.ofName? arguments.indent config.indent)).or
        (fault? (settingValue .lineBreak lineBreakOfName? arguments.lineBreak
          config.lineBreak)) := by
  unfold resolveOptions
  cases settingValue .indent IndentUnit.ofName? arguments.indent config.indent with
  | error failure => rfl
  | ok unit =>
    cases settingValue .lineBreak lineBreakOfName? arguments.lineBreak config.lineBreak <;> rfl

theorem nodeNames_of_resolveOptions {config : Config} {fileNames : List String}
    {resolved : Resolved} (h : resolveOptions config arguments fileNames = .ok resolved) :
    resolved.nodeNames = config.nodeNames.getD [] ++ fileNames ++ arguments.name := by
  obtain ⟨unit, -, h⟩ := Json.exists_of_bind_eq_ok h
  obtain ⟨lineBreak, -, h⟩ := Json.exists_of_bind_eq_ok h
  rw [← Except.ok.inj h]

theorem resolution_cases :
    fault? (resolution view arguments) =
        (fault? (loadOr view {} (configInput view arguments))).or
          ((fault? (loadOr view [] (namesInput arguments))).or
            (fault? (resolveOptions (settings view arguments) arguments
              (fileNames view arguments)))) ∧
      ∀ resolved, resolution view arguments = .ok resolved →
        resolveOptions (settings view arguments) arguments (fileNames view arguments) =
          .ok resolved := by
  unfold resolution settings fileNames
  cases loadOr view {} (configInput view arguments) with
  | error failure => exact ⟨rfl, fun resolved h ↦ nomatch h⟩
  | ok config =>
    cases loadOr view [] (namesInput arguments) with
    | error failure => exact ⟨rfl, fun resolved h ↦ nomatch h⟩
    | ok list => exact ⟨rfl, fun resolved h ↦ h⟩

/-- The stages up to the options are those of the resolution, and the two that read the tree are
those of its file. -/
theorem firstFailure_eq :
    firstFailure view arguments =
      (fault? (resolution view arguments)).or
        ((Stage.nodeNames.failure view arguments).or
          ((fault? ((Input.tree arguments.tree).load view)).or
            (Stage.lowering.failure view arguments))) := by
  have hcons (stage : Stage) (rest : List Stage) :
      (stage :: rest).findSome? (Stage.failure view arguments) =
        (stage.failure view arguments).or (rest.findSome? (Stage.failure view arguments)) := by
    rw [List.findSome?_cons]
    cases stage.failure view arguments <;> rfl
  rw [(resolution_cases view arguments).1]
  simp only [firstFailure, Stage.all, hcons, List.findSome?_nil, Option.or_none, fault?_loadOr,
    fault?_resolveOptions, Input.fault?_load, Option.or_assoc]
  rfl

theorem fault?_outcome : fault? (outcome view arguments) = firstFailure view arguments := by
  rw [firstFailure_eq, outcome, preparation]
  cases hresolution : resolution view arguments with
  | error failure => rfl
  | ok resolved =>
    have hresolved := (resolution_cases view arguments).2 resolved hresolution
    have hlisted : listedNames view arguments = resolved.nodeNames :=
      (nodeNames_of_resolveOptions arguments hresolved).symm
    rw [Stage.failure, Stage.failure, lowered, hlisted, hresolved]
    change fault? (((NodeNames.ofList resolved.nodeNames).mapError .invalidNodeNames >>=
        fun names ↦ (Input.tree arguments.tree).load view >>= fun unit ↦
          .ok ({ unit, names, options := resolved.options } : Job)) >>= fun job ↦
      (emit job.unit job.names job.options).mapError (.lower arguments.tree)) = _
    cases NodeNames.ofList resolved.nodeNames with
    | error error => rfl
    | ok names =>
      cases (Input.tree arguments.tree).load view with
      | error failure => rfl
      | ok unit =>
        change fault? ((emit unit names resolved.options).mapError (Failure.lower arguments.tree)) =
          (fault? (emit unit names resolved.options)).map (Failure.lower arguments.tree)
        cases emit unit names resolved.options <;> rfl

theorem eq_ok_of_mapError {ε δ α : Type} {f : ε → δ} {value : Except ε α} {a : α}
    (h : value.mapError f = .ok a) : value = .ok a := by
  cases value with
  | error e => cases h
  | ok b => rw [Except.ok.inj h]

/-- Before it writes, a run has read the options and names and a tree that is emitted with them. -/
theorem exists_of_outcome {script : String} (h : outcome view arguments = .ok script) :
    ∃ resolved names text unit, resolution view arguments = .ok resolved ∧
      NodeNames.ofList resolved.nodeNames = .ok names ∧
      view.read arguments.tree = .ok text ∧ Source.CompilationUnit.ofText text = .ok unit ∧
      emit unit names resolved.options = .ok script := by
  obtain ⟨job, hjob, h⟩ := Json.exists_of_bind_eq_ok h
  obtain ⟨resolved, hresolved, hjob⟩ := Json.exists_of_bind_eq_ok hjob
  obtain ⟨names, hnames, hjob⟩ := Json.exists_of_bind_eq_ok hjob
  obtain ⟨unit, hunit, hjob⟩ := Json.exists_of_bind_eq_ok hjob
  cases Except.ok.inj hjob
  unfold Input.load at hunit
  split at hunit
  next => cases hunit
  next text htext =>
    exact ⟨resolved, names, text, unit, hresolved, eq_ok_of_mapError hnames, htext,
      eq_ok_of_mapError hunit, eq_ok_of_mapError h⟩

end Outcome

/-! ## Computations that only read -/

/-- A computation has a value in a state and leaves the state as it is. -/
def Gives {σ α : Type} (state : σ) (computation : ExceptT Failure (StateM σ) α)
    (value : Except Failure α) : Prop :=
  computation.run.run state = (value, state)

namespace Gives

variable {σ α β : Type} {state : σ}

theorem of_pure (a : α) : Gives state (pure a) (.ok a) := rfl

theorem of_throw (failure : Failure) :
    Gives state (throw failure : ExceptT _ _ α) (.error failure) := rfl

theorem of_except (value : Except Failure α) :
    Gives state (MonadExcept.ofExcept value) value := by
  cases value <;> rfl

theorem bind {computation : ExceptT Failure (StateM σ) α}
    {next : α → ExceptT Failure (StateM σ) β} {value : Except Failure α}
    {result : α → Except Failure β} (h : Gives state computation value)
    (hnext : ∀ a, value = .ok a → Gives state (next a) (result a)) :
    Gives state (computation >>= next) (value >>= result) := by
  unfold Gives at h ⊢
  rw [ExceptT.run_bind, StateT.run_bind, h]
  cases value with
  | error failure => rfl
  | ok a => exact hnext a rfl

/-- What is asked of the files goes into a computation as a value. -/
theorem lift_bind {query : StateM σ α} {a : α} {next : α → ExceptT Failure (StateM σ) β}
    {result : Except Failure β} (h : query.run state = (a, state))
    (hnext : Gives state (next a) result) : Gives state (ExceptT.lift query >>= next) result := by
  have hlift : Gives state (ExceptT.lift query) (.ok a) := by
    unfold Gives
    rw [ExceptT.run_lift, StateT.run_map, h]
    rfl
  exact hlift.bind fun b hb ↦ Except.ok.inj hb ▸ hnext

end Gives

/-- The steps of resolving one after the other, for a file that may be missing as for any other. -/
theorem resolve_eq {σ : Type} (files : FileSystem (StateM σ)) (arguments : Arguments) :
    resolve files arguments =
      ExceptT.lift (findConfig files arguments) >>= fun path ↦
        path.elim (pure {}) (loadConfig files) >>= fun config ↦
          arguments.names.elim (pure []) (loadNames files) >>= fun fileNames ↦
            MonadExcept.ofExcept (resolveOptions config arguments fileNames) := by
  refine bind_congr fun path ↦ ?_
  cases path <;> cases arguments.names
  all_goals
    refine bind_congr fun config ↦ bind_congr fun fileNames ↦ ?_
    dsimp only
    cases resolveOptions config arguments fileNames <;> rfl

/-- In a state, reading from the files shows the view and leaves the state as it is. -/
structure Shows {σ : Type} (files : FileSystem (StateM σ)) (state : σ) (view : View) : Prop where
  isFile : ∀ path, (files.isFile path).run state = (view.isFile path, state)
  read : ∀ path, (files.read path).run state = (view.read path, state)

theorem Store.shows (store : Store) : Shows Store.fileSystem store store.view :=
  ⟨fun _ ↦ rfl, fun _ ↦ rfl⟩

section Runs

variable {σ : Type} {files : FileSystem (StateM σ)} {state : σ} {view : View}
  (hshows : Shows files state view) (arguments : Arguments)

include hshows

theorem run_findConfig :
    (findConfig files arguments).run state = (configPath view arguments, state) := by
  unfold findConfig configPath
  cases arguments.config with
  | some path => rfl
  | none =>
    cases Path.parent? arguments.tree with
    | none => rfl
    | some directory =>
      simp only [StateT.run_bind, hshows.isFile]
      cases hfile : view.isFile (Path.child directory Config.fileName) with
      | false => simp [hfile]; rfl
      | true => simp [hfile]; rfl

theorem gives_readWith {α : Type} (input : Input α) :
    Gives state (readWith files input.path input.unreadable input.parse) (input.load view) := by
  refine Gives.lift_bind (hshows.read input.path) ?_
  unfold Input.load
  cases view.read input.path with
  | error fault => exact .of_throw _
  | ok text =>
    cases hparse : input.parse text with
    | error failure => simp only [hparse]; exact .of_throw _
    | ok a => simp only [hparse]; exact .of_pure a

theorem gives_loadOr {α : Type} (input : String → Input α) (fallback : α) (path : Option String) :
    Gives state
      (path.elim (pure fallback) fun path ↦
        readWith files (input path).path (input path).unreadable (input path).parse)
      (loadOr view fallback (path.map input)) := by
  cases path with
  | none => exact .of_pure fallback
  | some path => exact gives_readWith hshows (input path)

theorem gives_resolve :
    Gives state (resolve files arguments) (resolution view arguments) := by
  rw [resolve_eq]
  refine .lift_bind (run_findConfig hshows arguments) ?_
  refine .bind (gives_loadOr hshows .config {} _) fun config _ ↦ ?_
  refine .bind (gives_loadOr hshows .names [] _) fun fileNames _ ↦ ?_
  exact .of_except _

theorem gives_prepare : Gives state (prepare files arguments) (preparation view arguments) := by
  refine (gives_resolve hshows arguments).bind fun resolved _ ↦ ?_
  cases NodeNames.ofList resolved.nodeNames with
  | error error => exact .of_throw _
  | ok names =>
    exact (gives_readWith hshows (.tree arguments.tree)).bind fun unit _ ↦ .of_pure _

theorem gives_compile : Gives state (compile files arguments) (outcome view arguments) := by
  refine (gives_prepare hshows arguments).bind fun job _ ↦ ?_
  cases emit job.unit job.names job.options with
  | error error => exact .of_throw _
  | ok script => exact .of_pure script

/-- The one effect of a run is the write at its end. -/
theorem run_run {out : String} (hout : arguments.out = some out) :
    (run files arguments).run.run state =
      match outcome view arguments with
      | .error failure => (.error failure, state)
      | .ok script =>
        match (files.write out script).run state with
        | (.ok (), after) => (.ok "", after)
        | (.error fault, after) => (.error (.writeOutput out fault), after) := by
  have hcompile := gives_compile hshows arguments
  unfold Gives at hcompile
  unfold run
  rw [ExceptT.run_bind, StateT.run_bind, hcompile, hout]
  cases outcome view arguments with
  | error failure => rfl
  | ok script =>
    change (ExceptT.lift (files.write out script) >>= _).run.run state = _
    rw [ExceptT.run_bind, ExceptT.run_lift, StateT.run_bind, StateT.run_map]
    dsimp only
    rcases (files.write out script).run state with ⟨_ | _, after⟩ <;> rfl

end Runs

/-- A run with an output file does all of its work or none, on any file system.  Either a stage
fails, and then the first that does is reported and the files are as they were, or the emitted
script is in the file to which the output path leads and nothing else has changed.  Only the write
itself may still fail.  Compiling comes to the same script or failure. -/
theorem run_all_or_nothing {σ : Type} {files : FileSystem (StateM σ)} {state : σ} {view : View}
    (held : Inventory σ) (arguments : Arguments) {out : String}
    (hshows : Shows files state view) (hfollows : held.Follows files state out)
    (hout : arguments.out = some out) :
    (∃ failure, firstFailure view arguments = some failure ∧
      (compile files arguments).run.run state = (.error failure, state) ∧
      (run files arguments).run.run state = (.error failure, state)) ∨
    firstFailure view arguments = none ∧
      ∃ resolved names text unit script,
        (resolve files arguments).run.run state = (.ok resolved, state) ∧
        NodeNames.ofList resolved.nodeNames = .ok names ∧
        view.read arguments.tree = .ok text ∧ Source.CompilationUnit.ofText text = .ok unit ∧
        emit unit names resolved.options = .ok script ∧
        (compile files arguments).run.run state = (.ok script, state) ∧
        ((∃ after place, (files.write out script).run state = (.ok (), after) ∧
            (run files arguments).run.run state = (.ok "", after) ∧
            held.Replaced out script state after place) ∨
          ∃ fault after, (files.write out script).run state = (.error fault, after) ∧
            (run files arguments).run.run state = (.error (.writeOutput out fault), after)) := by
  have hfault := fault?_outcome view arguments
  have hcompile : _ = _ := gives_compile hshows arguments
  have hrun := run_run hshows arguments hout
  cases houtcome : outcome view arguments with
  | error failure =>
    rw [houtcome] at hfault hcompile hrun
    exact .inl ⟨failure, hfault.symm, hcompile, hrun⟩
  | ok script =>
    obtain ⟨resolved, names, text, unit, hresolved, hnames, htext, hunit, hemit⟩ :=
      exists_of_outcome view arguments houtcome
    have hresolve : _ = _ := gives_resolve hshows arguments
    rw [hresolved] at hresolve
    rw [houtcome] at hfault hcompile hrun
    refine .inr ⟨hfault.symm, resolved, names, text, unit, script, hresolve, hnames, htext, hunit,
      hemit, hcompile, ?_⟩
    cases hwrite : (files.write out script).run state with
    | mk result after =>
      simp only [hwrite] at hrun
      cases result with
      | ok done =>
        obtain ⟨place, hplace⟩ := hfollows script after hwrite
        exact .inl ⟨after, place, rfl, hrun, hplace⟩
      | error fault => exact .inr ⟨fault, after, rfl, hrun⟩

/-- The tree of an empty namespace, and a link to a file that is not there yet. -/
def treeStore : Store where
  nodes := [(["tmp", "tree.json"], .file "[[[\"Namespace\",\"\",\"App\"]]]".toUTF8),
    (["tmp", "app.js"], .link "../srv/app.js"), (["srv"], .directory)]
  workingDirectory := ["home"]

/-- The same files, and a config file next to the tree that may not be read. -/
def guardedStore : Store :=
  { treeStore with
    nodes := (["tmp", "wpfjs.json"], .file "{}".toUTF8) :: treeStore.nodes
    refusals := [(.read, ["tmp", "wpfjs.json"])] }

/-- Writes through the link. -/
def linking : Arguments where
  tree := "/tmp/tree.json"
  out := some "/tmp/app.js"

/-- Names a file that is missing, too. -/
def astray : Arguments :=
  { linking with names := some "names.txt" }

theorem run_all_or_nothing_treeStore :
    (∃ after script,
      (compile Store.fileSystem linking).run.run treeStore = (.ok script, treeStore) ∧
      (run Store.fileSystem linking).run.run treeStore = (.ok "", after) ∧
      Store.inventory.Replaced "/tmp/app.js" script treeStore after ["srv", "app.js"]) ∧
    (run Store.fileSystem astray).run.run guardedStore =
      (.error (.readConfig "/tmp/wpfjs.json" .refused), guardedStore) := by
  constructor
  · have hnone : firstFailure treeStore.view linking = none :=
      Option.isNone_iff_eq_none.mp (by decide +kernel)
    obtain ⟨failure, hsome, -⟩ |
        ⟨-, _, _, _, _, script, -, -, -, -, -, hcompile, ⟨after, place, hwrite, hrun, hplace⟩ |
          ⟨fault, after, hwrite, -⟩⟩ :=
      run_all_or_nothing Store.inventory linking treeStore.shows (treeStore.follows "/tmp/app.js")
        rfl
    · cases hnone.symm.trans hsome
    · have hafter : after = treeStore.put ["srv", "app.js"] (.file script.toUTF8) :=
        (Prod.mk.inj hwrite).2.symm
      have hlocate : Store.inventory.locate after "/tmp/app.js" = some ["srv", "app.js"] := by
        rw [hafter]
        rfl
      cases Option.some.inj (hlocate.symm.trans hplace.locate)
      exact ⟨after, script, hcompile, hrun, hplace⟩
    · cases (Prod.mk.inj hwrite).1
  · have hsome : firstFailure guardedStore.view astray =
        some (.readConfig "/tmp/wpfjs.json" .refused) := rfl
    obtain ⟨failure, hfirst, -, hrun⟩ | ⟨hnone, -⟩ :=
      run_all_or_nothing Store.inventory astray guardedStore.shows
        (guardedStore.follows "/tmp/app.js") rfl
    · rw [← Option.some.inj (hsome.symm.trans hfirst)] at hrun
      exact hrun
    · cases hnone.symm.trans hsome

end CodeBehind.Command
