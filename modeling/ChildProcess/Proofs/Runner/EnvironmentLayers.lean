import ChildProcess.Runner.Supervision
import ChildProcess.Proofs.ExecutableSearch
import ChildProcess.Proofs.LaunchSettings

/-!
# The layers of a command's environment

The variables of a command come from three places: the arguments of the run, the table
of the settings, and the parent.  The arguments are asked first, then the table, then
the parent, of which the last entry counts where the first one does in the arguments.
Between the three places and the child stand a list of options, a map of overrides
and the merged map; what survives all of them is said here for the whole way.
-/

namespace ChildProcess

namespace Runner

/-! ## Variables in the arguments -/

namespace Arguments

/-- The name in a variable that is given as a text: what stands before the first
`=`. -/
def variableName (text : String) : String :=
  String.ofList (text.toList.takeWhile (· != '='))

/-- What is read of a variable is its name and the text behind the first `=`. -/
theorem eq_of_readVariable {text : String} {binding : String × String}
    (accepted : readVariable text = .ok binding) :
    binding.1 = variableName text ∧ text = binding.1 ++ "=" ++ binding.2 := by
  simp only [readVariable] at accepted
  split at accepted
  · cases accepted
  · rename_i mark value rest
    split at accepted
    · cases accepted
    · cases accepted
      have isMark : mark = '=' := by
        have stopped := List.head?_dropWhile_not (· != '=') text.toList
        rw [rest] at stopped
        simpa using stopped
      have whole :
          text.toList.takeWhile (· != '=') ++ text.toList.dropWhile (· != '=') =
            text.toList :=
        List.takeWhile_append_dropWhile
      rw [rest, isMark] at whole
      refine ⟨rfl, String.toList_injective ?_⟩
      simpa using whole.symm

/-- A text that is accepted is handed on byte for byte. -/
theorem entry_of_readVariable {text : String} {binding : String × String}
    (accepted : readVariable text = .ok binding) :
    ExecRequest.entry binding = Bytes.ofText text := by
  obtain ⟨-, form⟩ := eq_of_readVariable accepted
  rw [form, ExecRequest.entry_eq_ofText]

/-- Of several texts with one name, the first is what is found under the name. -/
theorem lookup_of_readVariable {texts : List String} {given : List (String × String)}
    (accepted : List.Forall₂ (fun text binding => readVariable text = .ok binding)
      texts given)
    {before after : List String} {text : String}
    (place : texts = before ++ text :: after)
    (first : ∀ earlier ∈ before, variableName earlier ≠ variableName text) :
    ∃ binding, readVariable text = .ok binding ∧
      given.lookup binding.1 = some binding.2 := by
  induction before generalizing texts given with
  | nil =>
      subst place
      cases accepted with
      | cons accepted _ => exact ⟨_, accepted, by simp [lookup_cons_eq_ite]⟩
  | cons earlier before inductionHypothesis =>
      subst place
      cases accepted with
      | cons passed accepted =>
          obtain ⟨binding, read, found⟩ :=
            inductionHypothesis accepted rfl fun other member =>
              first other (List.mem_cons_of_mem earlier member)
          have different := first earlier List.mem_cons_self
          rw [← (eq_of_readVariable passed).1, ← (eq_of_readVariable read).1] at different
          refine ⟨binding, read, ?_⟩
          rw [lookup_cons_eq_ite, if_neg different, found]

end Arguments

/-! ## Variables in the settings -/

/-- A list holds the variables of a table in the order of their keys. -/
structure Sorts (sorted table : List (String × String)) : Prop where
  ascends : (sorted.map Prod.fst).Pairwise (· ≤ ·)
  permutes : sorted.Perm table
  /-- The same value is found under every key. -/
  agrees : ∀ key, sorted.lookup key = table.lookup key

theorem sorts_mergeSort (table : List (String × String)) :
    Sorts (table.mergeSort fun left right => !decide (right.1 < left.1)) table := by
  have transitive (first second third : String) :
      (!decide (second < first)) = true → (!decide (third < second)) = true →
        (!decide (third < first)) = true := by
    simp only [Bool.not_eq_true', decide_eq_false_iff_not, String.not_lt]
    exact String.le_trans
  have total (first second : String) :
      ((!decide (second < first)) || (!decide (first < second))) = true := by
    simp only [Bool.or_eq_true, Bool.not_eq_true', decide_eq_false_iff_not, String.not_lt]
    exact String.le_total first second
  -- The comparison is given, as it is not found through the keys in reasonable time.
  have agrees := @lookup_mergeSort _ _ _ (fun first second => !decide (second < first))
    transitive total table
  have ascends := @List.pairwise_mergeSort _ (fun left right => !decide (right.1 < left.1))
    (fun first second third => transitive first.1 second.1 third.1)
    (fun first second => total first.1 second.1) table
  refine ⟨?_, List.mergeSort_perm table _, agrees⟩
  rw [List.pairwise_map]
  simpa only [Bool.not_eq_true', decide_eq_false_iff_not, String.not_lt] using ascends

/-- The variables of settings are those of the table `env`, sorted. -/
theorem Settings.sorts_of_ofEntries {entries : List (String × Toml.Value)}
    {settings : Settings} (loaded : Settings.ofEntries entries = some settings) :
    ∃ table?, Settings.readField Settings.readVariables entries "env" = some table? ∧
      Sorts settings.environment (table?.getD []) := by
  simp only [Settings.ofEntries, Option.bind_eq_bind, Option.bind_eq_some_iff] at loaded
  obtain ⟨known, isKnown, process, -, debug, -, table?, found, loaded⟩ := loaded
  obtain ⟨_, -, _, -, _, -, _, -, _, -, loaded⟩ := loaded
  cases loaded
  have unchanged : known = entries := by
    unfold Settings.knownFields? at isKnown
    split at isKnown <;> simp_all
  rw [← unchanged]
  exact ⟨table?, found, sorts_mergeSort _⟩

/-! ## From the options to the launch -/

theorem RunOptions.environment_of_combine {settings : Settings} {arguments : Arguments}
    {options : RunOptions} (combined : RunOptions.combine settings arguments = .ok options) :
    options.environment = arguments.environment ++ settings.environment ∧
      options.clearsEnvironment = arguments.clearsEnvironment := by
  unfold RunOptions.combine at combined
  cases timeout : RunOptions.readDuration? "timeout"
      (arguments.timeout?.or settings.timeout?) with
  | error cause => simp [timeout, bind, Except.bind] at combined
  | ok timeout? =>
      cases killAfter : RunOptions.readDuration? "kill-after"
          (arguments.killAfter?.or settings.killAfter?) with
      | error cause => simp [timeout, killAfter, bind, Except.bind] at combined
      | ok killAfter? =>
          simp only [timeout, killAfter, bind, Except.bind, Except.ok.injEq] at combined
          subst combined
          exact ⟨rfl, rfl⟩

section LaunchOf

variable (command : String) (tokens : List String) (options : RunOptions)
  (files : PerStream (Option Descriptor))

/-- The overrides of the launch are the variables of the options, of which the first
for a key counts. -/
theorem overrides_launchOf :
    (launchOf command tokens options files).overrides =
      OrderedMap.empty.insertManyIfNew options.environment := by
  have given :
      ((options.environment.map fun entry =>
          LaunchSetting.environment entry.1 entry.2).filterMap LaunchSetting.override?) =
        options.environment := by
    rw [List.filterMap_map]
    exact List.filterMap_some
  rw [launchOf, Launch.ofSettings, Launch.overrides_foldl_apply, List.filterMap_append,
    List.filterMap_append, List.filterMap_append, given]
  cases options.directory? <;>
    simp [List.filterMap_cons, LaunchSetting.override?, redirect, Launch.initial]

theorem inheritsEnvironment_launchOf :
    (launchOf command tokens options files).inheritsEnvironment =
      !options.clearsEnvironment := by
  have given :
      ((options.environment.map fun entry =>
          LaunchSetting.environment entry.1 entry.2).filterMap LaunchSetting.inherits?) =
        [] := by
    rw [List.filterMap_map]
    exact List.filterMap_none options.environment
  rw [launchOf, Launch.ofSettings, Launch.inheritsEnvironment_foldl_apply,
    List.filterMap_append, List.filterMap_append, List.filterMap_append, given]
  cases options.directory? <;>
    simp [List.filterMap_cons, LaunchSetting.inherits?, redirect]

end LaunchOf

/-! ## The whole way -/

/-- Three lists of variables lie over each other in an environment: those given for
the run, those of a table, and those that are inherited. -/
structure IsLayered (environment : OrderedMap String String)
    (given table inherited : List (String × String)) : Prop where
  distinct : environment.keys.Nodup
  /-- What is given first counts, then the table, then what is inherited last. -/
  value : ∀ key,
    environment.get? key =
      (given.lookup key).or ((table.lookup key).or (inherited.reverse.lookup key))
  /-- Inherited keys come first, whether they are overridden or not. -/
  order :
    environment.keys =
      (inherited.map Prod.fst ++ given.map Prod.fst ++ table.map Prod.fst).eraseDups

theorem isLayered_effectiveEnvironment {launch : Launch}
    {given table : List (String × String)}
    (overrides : launch.overrides = OrderedMap.empty.insertManyIfNew (given ++ table))
    (parent : Environment) :
    IsLayered (launch.effectiveEnvironment parent) given table
      (launch.inheritedVariables parent) := by
  refine ⟨OrderedMap.nodup_keys _, fun key => ?_, ?_⟩
  · rw [Launch.get?_effectiveEnvironment, overrides, OrderedMap.get?_insertManyIfNew,
      OrderedMap.get?_empty, Option.none_or, List.lookup_append, Option.or_assoc]
  · rw [Launch.keys_effectiveEnvironment, overrides, OrderedMap.keys_insertManyIfNew,
      OrderedMap.keys_empty, List.nil_append, eraseDups_append_eraseDups,
      List.map_append, List.append_assoc]

/-- What an accepted request hands over as the environment. -/
theorem read_environment_of_ofLaunch {launch : Launch} {path : Bytes}
    {parent : Environment} {request : ExecRequest}
    (accepted : ExecRequest.ofLaunch launch (SearchPath.parse path) parent = .ok request) :
    request.environment.read =
      (launch.effectiveEnvironment parent).entries.map ExecRequest.entry :=
  (ExecRequest.carries_and_looksFor_of_ofLaunch accepted).1.environment

/-- The environment of a command is layered from its accepted arguments, the sorted
table of its settings and the parent's variables, unless these are left out; and the
first of the arguments with some name is among the entries that are handed over for
the command as it was given. -/
theorem isLayered_of_combine
    {texts : List String} {entries : List (String × Toml.Value)}
    {settings : Settings} {arguments : Arguments} {options : RunOptions}
    (accepted : texts.mapM Arguments.readVariable = .ok arguments.environment)
    (loaded : Settings.ofEntries entries = some settings)
    (combined : RunOptions.combine settings arguments = .ok options)
    (command : String) (tokens : List String) (files : PerStream (Option Descriptor))
    (parent : Environment) :
    let launch := launchOf command tokens options files
    let environment := launch.effectiveEnvironment parent
    let inherited := if arguments.clearsEnvironment then [] else parent.textVariables
    IsLayered environment arguments.environment settings.environment inherited ∧
      (∃ table?,
        Settings.readField Settings.readVariables entries "env" = some table? ∧
          Sorts settings.environment (table?.getD [])) ∧
      ∀ path request,
        ExecRequest.ofLaunch launch (SearchPath.parse path) parent = .ok request →
          request.environment.read = environment.entries.map ExecRequest.entry ∧
            ∀ before text after, texts = before ++ text :: after →
              (∀ earlier ∈ before,
                Arguments.variableName earlier ≠ Arguments.variableName text) →
              Bytes.ofText text ∈ request.environment.read := by
  intro launch environment inherited
  obtain ⟨joined, clears⟩ := RunOptions.environment_of_combine combined
  have overrides : launch.overrides =
      OrderedMap.empty.insertManyIfNew (arguments.environment ++ settings.environment) := by
    rw [← joined]
    exact overrides_launchOf command tokens options files
  have leavesOut : launch.inheritedVariables parent = inherited := by
    unfold Launch.inheritedVariables
    rw [inheritsEnvironment_launchOf, clears]
    cases clearing : arguments.clearsEnvironment <;> simp [inherited, clearing]
  have layered :
      IsLayered environment arguments.environment settings.environment inherited := by
    rw [← leavesOut]
    exact isLayered_effectiveEnvironment overrides parent
  refine ⟨layered, Settings.sorts_of_ofEntries loaded, ?_⟩
  intro path request handsOver
  have read := read_environment_of_ofLaunch handsOver
  refine ⟨read, ?_⟩
  intro before text after place first
  obtain ⟨binding, isRead, found⟩ :=
    Arguments.lookup_of_readVariable (forall₂_of_mapM_eq_ok accepted) place first
  have effective : environment.get? binding.1 = some binding.2 := by
    rw [layered.value, found, Option.some_or]
  rw [read, ← Arguments.entry_of_readVariable isRead]
  exact List.mem_map_of_mem (OrderedMap.mem_entries_iff.mpr effective)

/-- A key that all three places have, one that the parent has twice, one that the
parent has with bytes that are no text, and keys of the arguments and of the table
alone. -/
theorem isLayered_of_overlapping_keys :
    let texts := ["A=1=2", "C=", "A=3"]
    let entries :=
      [("env", Toml.Value.table [("D", .text "d"), ("B", .text "b"), ("A", .text "a")])]
    let settings : Settings := { environment := [("A", "a"), ("B", "b"), ("D", "d")] }
    let arguments : Arguments := { environment := [("A", "1=2"), ("C", ""), ("A", "3")] }
    let options : RunOptions :=
      { environment := arguments.environment ++ settings.environment }
    let parent : Environment :=
      ⟨[Bytes.ofText "P=1", Bytes.ofText "A=p", [66, 61, 255], Bytes.ofText "P=2"]⟩
    let launch := launchOf "env" [] options ⟨none, none, none⟩
    let environment := launch.effectiveEnvironment parent
    texts.mapM Arguments.readVariable = .ok arguments.environment ∧
      Settings.ofEntries entries = some settings ∧
      RunOptions.combine settings arguments = .ok options ∧
      environment.keys = ["P", "A", "C", "B", "D"] ∧
      environment.get? "P" = some "2" ∧ environment.get? "A" = some "1=2" ∧
      environment.get? "B" = some "b" ∧ environment.get? "E" = none ∧
      ∀ path request,
        ExecRequest.ofLaunch launch (SearchPath.parse path) parent = .ok request →
          Bytes.ofText "A=1=2" ∈ request.environment.read := by
  intro texts entries settings arguments options parent launch environment
  have accepted : texts.mapM Arguments.readVariable = .ok arguments.environment := by
    rfl
  have sorted :
      ([("D", "d"), ("B", "b"), ("A", "a")].mergeSort fun left right =>
        !decide (right.1 < left.1)) = settings.environment := by
    simp only [settings, List.mergeSort, List.length_cons, List.length_nil, Nat.reduceAdd,
      Nat.reduceDiv, List.MergeSort.Internal.splitInTwo_fst,
      List.MergeSort.Internal.splitInTwo_snd, List.take_succ_cons, List.take_zero,
      List.drop_succ_cons, List.drop_zero, List.mergeSort_singleton, String.reduceLT,
      decide_true, Bool.not_true, Bool.false_eq_true, not_false_eq_true,
      List.cons_merge_cons_neg, List.merge_right]
  have loaded : Settings.ofEntries entries = some settings :=
    congrArg (fun listed => some ({ environment := listed } : Settings)) sorted
  have combined : RunOptions.combine settings arguments = .ok options := by
    rfl
  have inherited : parent.textVariables = [("P", "1"), ("A", "p"), ("P", "2")] := by
    decide +kernel
  obtain ⟨layered, -, handsOver⟩ :=
    isLayered_of_combine accepted loaded combined "env" [] ⟨none, none, none⟩ parent
  have order : environment.keys = ["P", "A", "C", "B", "D"] := by
    rw [layered.order, inherited]
    decide
  refine ⟨accepted, loaded, combined, order, ?_, ?_, ?_, ?_, ?_⟩
  · rw [layered.value, inherited]
    decide
  · rw [layered.value, inherited]
    decide
  · rw [layered.value, inherited]
    decide
  · rw [layered.value, inherited]
    decide
  · intro path request isHanded
    exact (handsOver path request isHanded).2 [] "A=1=2" ["C=", "A=3"] rfl (by simp)

end Runner
end ChildProcess
