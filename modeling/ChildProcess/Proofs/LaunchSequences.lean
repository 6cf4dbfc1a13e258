import ChildProcess.Proofs.LaunchSettings
import ChildProcess.Proofs.StartErrors

/-!
# What a sequence of settings describes

Settings may come in any order.  A command takes the first place of the command line
whenever it comes, arguments stay once there are any, a variable stays once its key has
been given, and of all other settings the last one of its kind counts.  So a launch is a
function of the settings of each kind in their order, and exchanging settings of different
kinds changes nothing.
-/

namespace ChildProcess

open Program (Runs)

/-! ## Kinds of settings -/

/-- Which part of a launch a setting is there for. -/
inductive SettingKind
  | command
  | arguments
  | environment
  | inheritEnvironment
  | redirect (stream : StandardStream)
  | directory
  | mergeOutputs
  deriving DecidableEq, Repr

namespace LaunchSetting

/-- The kind of a setting. -/
def kind : LaunchSetting → SettingKind
  | .command _ => .command
  | .arguments _ => .arguments
  | .environment _ _ => .environment
  | .inheritEnvironment _ => .inheritEnvironment
  | .redirect stream _ => .redirect stream
  | .directory _ => .directory
  | .mergeOutputs _ => .mergeOutputs

/-- One sequence of settings is the other one in another order, in which settings of one
kind stand as they did. -/
def Reordered (first second : List LaunchSetting) : Prop :=
  ∀ kind, first.filter (·.kind = kind) = second.filter (·.kind = kind)

/-- What is read off the settings of one kind alone is not changed by another order. -/
theorem Reordered.filterMap_eq
    {α : Type}
    {first second : List LaunchSetting}
    (reordered : Reordered first second)
    (read? : LaunchSetting → Option α)
    (kind : SettingKind)
    (others : ∀ setting, setting.kind ≠ kind → read? setting = none) :
    first.filterMap read? = second.filterMap read? := by
  have ofKind : ∀ settings : List LaunchSetting,
      settings.filterMap read? = (settings.filter (·.kind = kind)).filterMap read? := by
    intro settings
    induction settings with
    | nil => rfl
    | cons setting settings inductionHypothesis =>
        by_cases isKind : setting.kind = kind
        · simp [isKind, List.filterMap_cons, inductionHypothesis]
        · simp [isKind, others setting isKind, inductionHypothesis]
  rw [ofKind first, ofKind second, reordered kind]

/-- A setting that begins the command line. -/
def startsCommandLine (setting : LaunchSetting) : Bool :=
  setting.command?.isSome || setting.arguments?.isSome

theorem any_startsCommandLine (settings : List LaunchSetting) :
    settings.any startsCommandLine = false ↔
      settings.filterMap command? = [] ∧ settings.filterMap arguments? = [] := by
  simp [startsCommandLine, List.filterMap_eq_nil_iff, forall_and]

end LaunchSetting

namespace Launch

open LaunchSetting (command? arguments? override? inherits? redirects? directory? merges?
  startsCommandLine Reordered)

/-! ## The command line -/

/-- The command line that commands and lists of arguments make: the last command, or an
empty one, and the first list that is not empty. -/
def lineOf (commands : List String) (lists : List (List String)) : List String :=
  if commands.isEmpty && lists.isEmpty then []
  else commands.getLast?.getD "" :: (lists.find? (!·.isEmpty)).getD []

variable (commands : List String) (lists : List (List String))

/-- Another command takes the first place. -/
theorem withCommand_lineOf (name : String) :
    withCommand name (lineOf commands lists) = lineOf (commands ++ [name]) lists := by
  unfold lineOf
  by_cases nothing : (commands.isEmpty && lists.isEmpty) = true
  · obtain ⟨rfl, rfl⟩ : commands = [] ∧ lists = [] := by simpa using nothing
    rfl
  · simp [nothing, withCommand]

/-- Another list of arguments counts if there have been none. -/
theorem withArguments_lineOf (tokens : List String) :
    withArguments tokens (lineOf commands lists) = lineOf commands (lists ++ [tokens]) := by
  unfold lineOf
  by_cases nothing : (commands.isEmpty && lists.isEmpty) = true
  · obtain ⟨rfl, rfl⟩ : commands = [] ∧ lists = [] := by simpa using nothing
    cases tokens <;> rfl
  · rw [if_neg nothing, if_neg (by simp), List.find?_append]
    cases found : lists.find? (!·.isEmpty) with
    | none => cases tokens <;> rfl
    | some kept =>
        have notEmpty := List.find?_some found
        cases kept with
        | nil => simp at notEmpty
        | cons => rfl

theorem lineOf_eq_nil_iff :
    lineOf commands lists = [] ↔ commands = [] ∧ lists = [] := by
  unfold lineOf
  split <;> simp_all

theorem commandLine_ofSettings (settings : List LaunchSetting) :
    (ofSettings settings).commandLine =
      lineOf (settings.filterMap command?) (settings.filterMap arguments?) := by
  unfold ofSettings
  induction settings using List.reverseRecOn with
  | nil => rfl
  | append_singleton settings setting inductionHypothesis =>
      rw [List.foldl_append, List.foldl_cons, List.foldl_nil, List.filterMap_append,
        List.filterMap_append]
      cases setting with
      | command name =>
          simp [apply, inductionHypothesis, withCommand_lineOf, List.filterMap_cons, command?,
            arguments?]
      | arguments tokens =>
          simp [apply, inductionHypothesis, withArguments_lineOf, List.filterMap_cons,
            command?, arguments?]
      | _ => simp [apply, inductionHypothesis, List.filterMap_cons, command?, arguments?]

/-! ## The whole launch -/

/-- Where a sequence of settings sends a stream. -/
def redirectionOf (settings : List LaunchSetting) (stream : StandardStream) : Redirection :=
  (settings.filterMap (redirects? stream)).getLast?.getD .pipe

theorem get_redirections_ofSettings (settings : List LaunchSetting) (stream : StandardStream) :
    (ofSettings settings).redirections.get stream = redirectionOf settings stream := by
  have replaces (launch : Launch) (setting : LaunchSetting) :
      (launch.apply setting).redirections.get stream =
        (redirects? stream setting).getD (launch.redirections.get stream) := by
    cases setting with
    | redirect other target => cases other <;> cases stream <;> rfl
    | _ => rfl
  rw [ofSettings,
    initial.part_foldl_apply (fun launch => launch.redirections.get stream)
      (redirects? stream) replaces]
  cases stream <;> rfl

/-- A launch is a function of the settings of each kind. -/
theorem ofSettings_eq (settings : List LaunchSetting) :
    ofSettings settings =
      { commandLine := lineOf (settings.filterMap command?) (settings.filterMap arguments?)
        overrides := OrderedMap.empty.insertManyIfNew (settings.filterMap override?)
        inheritsEnvironment := (settings.filterMap inherits?).getLast?.getD true
        directory := (settings.filterMap directory?).getLast?.getD [46]
        redirections :=
          ⟨redirectionOf settings .stdin, redirectionOf settings .stdout,
            redirectionOf settings .stderr⟩
        mergesOutputs := (settings.filterMap merges?).getLast?.getD false } := by
  have overrides := initial.overrides_foldl_apply settings
  have inherits := initial.inheritsEnvironment_foldl_apply settings
  have directory : (ofSettings settings).directory = _ :=
    initial.part_foldl_apply Launch.directory directory?
      (fun _ setting => by cases setting <;> rfl) settings
  have merges : (ofSettings settings).mergesOutputs = _ :=
    initial.part_foldl_apply mergesOutputs merges?
      (fun _ setting => by cases setting <;> rfl) settings
  rw [← get_redirections_ofSettings, ← get_redirections_ofSettings,
    ← get_redirections_ofSettings, ← commandLine_ofSettings]
  apply Launch.ext
  case commandLine => rfl
  case overrides => exact overrides
  case inheritsEnvironment => exact inherits
  case directory => exact directory
  case redirections => rfl
  case mergesOutputs => exact merges

/-- Another order of the settings describes the same launch. -/
theorem ofSettings_eq_of_reordered
    {first second : List LaunchSetting}
    (reordered : Reordered first second) :
    ofSettings first = ofSettings second := by
  have redirections (stream : StandardStream) :
      redirectionOf first stream = redirectionOf second stream := by
    unfold redirectionOf
    rw [reordered.filterMap_eq (redirects? stream) (.redirect stream)]
    intro setting isOther
    cases setting with
    | redirect other target =>
        have differs : other ≠ stream := fun same => isOther (congrArg _ same)
        simp [redirects?, differs]
    | _ => rfl
  rw [ofSettings_eq first, ofSettings_eq second, redirections, redirections, redirections,
    reordered.filterMap_eq command? .command,
    reordered.filterMap_eq arguments? .arguments,
    reordered.filterMap_eq override? .environment,
    reordered.filterMap_eq inherits? .inheritEnvironment,
    reordered.filterMap_eq directory? .directory,
    reordered.filterMap_eq merges? .mergeOutputs]
  all_goals
    intro setting isOther
    cases setting <;> first | rfl | exact absurd rfl isOther

/-! ## What is described and what is started -/

/-- A launch is what a sequence of settings says.

The command line is empty unless a setting begins one, and is otherwise the last command
followed by the first arguments there were.  A variable has the first value for its key.
Anything else is as the last setting of its kind says, or as it is by default. -/
structure DescribedBy (launch : Launch) (settings : List LaunchSetting) : Prop where
  empty : launch.commandLine = [] ↔ settings.any startsCommandLine = false
  commandLine :
    launch.commandLine ≠ [] →
      launch.commandLine =
        (settings.filterMap command?).getLast?.getD "" ::
          ((settings.filterMap arguments?).find? (!·.isEmpty)).getD []
  keys :
    launch.overrides.keys = ((settings.filterMap override?).map Prod.fst).eraseDups
  value (key : String) :
    launch.overrides.get? key = (settings.filterMap override?).lookup key
  inherits :
    launch.inheritsEnvironment = (settings.filterMap inherits?).getLast?.getD true
  redirection (stream : StandardStream) :
    launch.redirections.get stream =
      (settings.filterMap (redirects? stream)).getLast?.getD .pipe
  directory : launch.directory = (settings.filterMap directory?).getLast?.getD [46]
  merges : launch.mergesOutputs = (settings.filterMap merges?).getLast?.getD false

theorem describedBy_ofSettings (settings : List LaunchSetting) :
    (ofSettings settings).DescribedBy settings := by
  have equal := ofSettings_eq settings
  constructor
  case empty =>
    rw [commandLine_ofSettings, lineOf_eq_nil_iff, LaunchSetting.any_startsCommandLine]
  case commandLine =>
    intro notEmpty
    rw [commandLine_ofSettings] at notEmpty ⊢
    unfold lineOf at notEmpty ⊢
    split at notEmpty
    · exact absurd rfl notEmpty
    · rw [if_neg ‹_›]
  case keys => rw [equal, OrderedMap.keys_insertManyIfNew]; rfl
  case value => intro key; rw [equal, OrderedMap.get?_insertManyIfNew]; rfl
  case inherits => rw [equal]
  case redirection => exact get_redirections_ofSettings settings
  case directory => rw [equal]
  case merges => rw [equal]

/-- Without a command line nothing is called. -/
theorem start_of_noCommand
    {launch : Launch}
    (rounds : Nat)
    (parent : Environment)
    (empty : launch.commandLine = []) :
    launch.start rounds parent = pure (.error .noCommand) := by
  simp [start, empty]

/-- A start with a command line does not fail for the lack of one, whatever the operating
system answers. -/
theorem ne_noCommand_of_runs_start
    {σ : Type}
    {answers : System σ}
    {launch : Launch}
    {rounds : Nat}
    {parent : Environment}
    {state after : σ}
    {events : List Event}
    {answer : Except LaunchError Handle}
    (notEmpty : launch.commandLine ≠ [])
    (runs : Runs answers (launch.start rounds parent) state events (.done answer) after) :
    answer ≠ .error .noCommand := by
  rw [start, if_neg (by simpa using notEmpty)] at runs
  intro isNoCommand
  exact (launch.results_spawn rounds _ parent).of_runs runs .noCommand isNoCommand

/-- A sequence of settings describes one launch, which only the order of settings of one
kind matters for, and which cannot be started for the lack of a command exactly if there
is no setting that begins a command line. -/
theorem ofSettings_describes (settings : List LaunchSetting) :
    (ofSettings settings).DescribedBy settings ∧
      (∀ other, Reordered settings other → ofSettings other = ofSettings settings) ∧
      ∀ rounds parent,
        (settings.any startsCommandLine = false →
          (ofSettings settings).start rounds parent = pure (.error .noCommand)) ∧
        ∀ (σ : Type) (answers : System σ) (state after : σ) (events : List Event)
          (answer : Except LaunchError Handle),
          Runs answers ((ofSettings settings).start rounds parent) state events (.done answer)
              after →
            (answer = .error .noCommand ↔ settings.any startsCommandLine = false) := by
  have described := describedBy_ofSettings settings
  refine ⟨described, fun other reordered => (ofSettings_eq_of_reordered reordered).symm,
    fun rounds parent => ?_⟩
  have withoutCommand (noneStarts : settings.any startsCommandLine = false) :
      (ofSettings settings).start rounds parent = pure (.error .noCommand) :=
    start_of_noCommand rounds parent (described.empty.mpr noneStarts)
  refine ⟨withoutCommand, fun σ answers state after events answer runs => ⟨?_, ?_⟩⟩
  · intro isNoCommand
    by_contra someStarts
    exact ne_noCommand_of_runs_start (mt described.empty.mp someStarts) runs isNoCommand
  · intro noneStarts
    rw [withoutCommand noneStarts] at runs
    cases runs
    rfl

/-- The arguments wait for their command, and the second ones do not count. -/
example :
    (ofSettings
        [.arguments [], .arguments ["-l"], .command "dir", .arguments ["-a"], .command "ls"]
      ).commandLine = ["ls", "-l"] := by
  decide

end Launch
end ChildProcess
