import ChildProcess.Spawn.Execution
import Mathlib.Data.List.Forall2

/-!
# The search for an executable

What a child asks the operating system to execute is compared with a plan that can
be read off the launch: a list of places, the executions that trying one place
takes, and the place at which trying stops.  Both sides are given the same function
from executions to their outcomes, so every combination of failures is covered, and
so is the success of any execution, the command interpreter's included.
-/

namespace ChildProcess

theorem Bytes.ofText_append (left right : String) :
    ofText (left ++ right) = ofText left ++ ofText right := by
  simp [ofText, String.toByteArray_append]

/-- What the operating system is asked for when a process is to become another
program. -/
structure Execution where
  path : Bytes
  arguments : List Bytes
  environment : List Bytes
  deriving DecidableEq, Repr

/-- What comes of every execution: an error number, or nothing if the process
becomes another program. -/
abbrev ExecutionOutcomes := Execution → Option Errno

/-- How a program ends whose only calls are executions. -/
inductive ExecutionEnd (α : Type)
  | returned (value : α)
  /-- The process has become another program. -/
  | replaced
  /-- It made another call, or its rounds are used up. -/
  | stuck
  deriving DecidableEq, Repr

namespace ExecutionEnd

/-- Nothing is left of a process that has become another program. -/
def ofResult {α : Type} : Option α → ExecutionEnd α
  | some value => .returned value
  | none => .replaced

end ExecutionEnd

namespace Program

/-- The executions that a program asks for in order, and how it ends. -/
def runExecutions {α : Type} (outcomes : ExecutionOutcomes) :
    Program α → List Execution × ExecutionEnd α
  | .done value => ([], .returned value)
  | .exhausted => ([], .stuck)
  | .call (.execute path arguments environment) resume =>
      match outcomes ⟨path, arguments, environment⟩ with
      | none => ([⟨path, arguments, environment⟩], .replaced)
      | some errno =>
          let later := runExecutions outcomes (resume errno)
          (⟨path, arguments, environment⟩ :: later.1, later.2)
  | .call _ _ => ([], .stuck)

@[simp] theorem runExecutions_done {α : Type}
    (outcomes : ExecutionOutcomes) (value : α) :
    (Program.done value).runExecutions outcomes = ([], .returned value) := rfl

/-- Going on after a program: if it returns, its executions come first. -/
theorem runExecutions_bind {α β : Type}
    (outcomes : ExecutionOutcomes)
    (program : Program α)
    (next : α → Program β) :
    (program >>= next).runExecutions outcomes =
      match program.runExecutions outcomes with
      | (executions, .returned value) =>
          (executions ++ ((next value).runExecutions outcomes).1,
            ((next value).runExecutions outcomes).2)
      | (executions, .replaced) => (executions, .replaced)
      | (executions, .stuck) => (executions, .stuck) := by
  induction program with
  | done value => rfl
  | exhausted => rfl
  | call request resume inductionHypothesis =>
      cases request with
      | execute path arguments environment =>
          rw [call_bind]
          simp only [runExecutions]
          cases outcomes ⟨path, arguments, environment⟩ with
          | none => rfl
          | some errno =>
              simp only [inductionHypothesis]
              rcases (resume errno).runExecutions outcomes with
                ⟨executions, _ | _ | _⟩ <;> rfl
      | _ => rfl

end Program

/-! ## The plan -/

/-- The places at which a bare command is looked for: one for each piece of the
search path, where an empty piece is the current directory.  Places with a zero
byte are left out. -/
def searchPlaces (path command : Bytes) : List Bytes :=
  ((path.splitOn SearchPath.colon).map fun piece =>
      let directory := if piece = [] then Bytes.ofText "." else piece
      if directory.getLast? = some Bytes.slash then directory ++ command
      else directory ++ Bytes.slash :: command).filter
    fun place => 0 ∉ place

/-- A command line with its environment, to be tried at some place. -/
structure CommandLine where
  line : List Bytes
  environment : List Bytes
  deriving DecidableEq, Repr

namespace CommandLine

/-- The command line and the environment of a launch. -/
def ofLaunch (launch : Launch) (parent : Environment) : CommandLine where
  line := launch.commandLine.map Bytes.ofText
  environment :=
    (launch.effectiveEnvironment parent).entries.map ExecRequest.entry

/-- The command: the first token of the line. -/
def command (commandLine : CommandLine) : Bytes :=
  commandLine.line.headD []

/-- The execution of a place itself. -/
def direct (commandLine : CommandLine) (place : Bytes) : Execution where
  path := place
  arguments := commandLine.line
  environment := commandLine.environment

/-- The execution of the command interpreter with a place as its script. -/
def script (commandLine : CommandLine) (place : Bytes) : Execution where
  path := Bytes.ofText "/bin/sh"
  arguments := Bytes.ofText "/bin/sh" :: place :: commandLine.line.drop 1
  environment := commandLine.environment

/-- The executions that trying a place takes.  The interpreter is asked for exactly
if the format of the place is not recognised. -/
def executionsAt (commandLine : CommandLine) (outcomes : ExecutionOutcomes)
    (place : Bytes) : List Execution :=
  if outcomes (commandLine.direct place) = some Errno.ENOEXEC then
    [commandLine.direct place, commandLine.script place]
  else [commandLine.direct place]

/-- What comes of trying a place.  An interpreter that cannot be executed either does
not change it. -/
def outcomeAt (commandLine : CommandLine) (outcomes : ExecutionOutcomes)
    (place : Bytes) : Option Errno :=
  if outcomes (commandLine.direct place) = some Errno.ENOEXEC then
    (outcomes (commandLine.script place)).map fun _ => Errno.ENOEXEC
  else outcomes (commandLine.direct place)

/-- The failures after which the next place is tried. -/
def passedOver : List Errno :=
  [Errno.EACCES, Errno.ENOENT, Errno.ENOTDIR, Errno.ELOOP, Errno.ESTALE,
    Errno.ENODEV, Errno.ETIMEDOUT]

/-- Whether the next place is tried after this one. -/
def goesOnAfter (commandLine : CommandLine) (outcomes : ExecutionOutcomes)
    (place : Bytes) : Bool :=
  (commandLine.outcomeAt outcomes place).any fun errno => passedOver.contains errno

/-- Try one place. -/
def tryPlace (commandLine : CommandLine) (outcomes : ExecutionOutcomes)
    (place : Bytes) : List Execution × ExecutionEnd Errno :=
  (commandLine.executionsAt outcomes place,
    .ofResult (commandLine.outcomeAt outcomes place))

/-- Try places up to the first one after which the search does not go on.  If there
is none, a place that was there but may not be executed is what is reported, and
`otherwise` if there was none of these either. -/
def tryPlaces (commandLine : CommandLine) (outcomes : ExecutionOutcomes)
    (otherwise : Errno) (places : List Bytes) :
    List Execution × ExecutionEnd Errno :=
  let passed := places.takeWhile (commandLine.goesOnAfter outcomes)
  let executions := passed.flatMap (commandLine.executionsAt outcomes)
  match places.dropWhile (commandLine.goesOnAfter outcomes) with
  | place :: _ =>
      (executions ++ commandLine.executionsAt outcomes place,
        .ofResult (commandLine.outcomeAt outcomes place))
  | [] =>
      (executions,
        .returned
          (if passed.any fun place =>
              commandLine.outcomeAt outcomes place == some Errno.EACCES
            then Errno.EACCES else otherwise))

/-- What becoming the program of a command line takes. -/
def plan (commandLine : CommandLine) (path : Bytes) (outcomes : ExecutionOutcomes) :
    List Execution × ExecutionEnd Errno :=
  if commandLine.command = [] then ([], .returned Errno.ENOENT)
  else if Bytes.slash ∈ commandLine.command then
    commandLine.tryPlace outcomes commandLine.command
  else
    commandLine.tryPlaces outcomes Errno.ENOENT
      (searchPlaces path commandLine.command)

end CommandLine

/-! ## Where a command is looked for -/

theorem Bytes.fields_eq_splitOn (separator : UInt8) (bytes : Bytes) :
    Bytes.fields separator bytes = bytes.splitOn separator := by
  induction bytes with
  | nil => rfl
  | cons byte rest inductionHypothesis =>
      rw [List.splitOn_cons_eq_if_modifyHead, Bytes.fields, inductionHypothesis]
      by_cases separates : byte = separator
      · simp [separates]
      · obtain ⟨field, others, split⟩ :=
          List.exists_cons_of_ne_nil (List.splitOn_ne_nil separator rest)
        simp [separates, split]

namespace CString

theorem ofBytes_eq_ok_iff {bytes : Bytes} {string : CString} :
    ofBytes bytes = .ok string ↔ string.bytes = bytes := by
  unfold ofBytes
  split
  · rename_i present
    constructor
    · intro impossible
      cases impossible
    · rintro rfl
      exact absurd present string.nulFree
  · constructor
    · intro same
      cases same
      rfl
    · rintro rfl
      rfl

/-- The strings that some byte strings are: those without a zero byte. -/
theorem map_bytes_filterMap_ofBytes? (places : List Bytes) :
    (places.filterMap ofBytes?).map bytes = places.filter fun place => 0 ∉ place := by
  induction places with
  | nil => rfl
  | cons place rest inductionHypothesis =>
      by_cases present : (0 : UInt8) ∈ place
      · have refused : ofBytes? place = none := by
          simp [ofBytes?, ofBytes, present, Except.toOption]
        simpa [refused, present] using inductionHypothesis
      · have accepted : ofBytes? place = some ⟨place, present⟩ := by
          simp [ofBytes?, ofBytes, present, Except.toOption]
        simpa [accepted, present] using inductionHypothesis

end CString

/-- A name without a slash is put behind a directory with exactly one slash between
the two. -/
theorem Bytes.join_of_not_mem_slash {directory name : Bytes}
    (nonempty : directory ≠ [])
    (bare : Bytes.slash ∉ name) :
    Bytes.join directory name =
      if directory.getLast? = some Bytes.slash then directory ++ name
      else directory ++ Bytes.slash :: name := by
  have relative : name.isAbsolute = false := by
    cases name with
    | nil => rfl
    | cons first rest =>
        have different : first ≠ Bytes.slash := by
          rintro rfl
          exact bare List.mem_cons_self
        simpa [Bytes.isAbsolute] using different
  simp [Bytes.join, relative, nonempty]

/-- The candidates of a bare command are its places. -/
theorem SearchPath.map_bytes_candidates (path : Bytes) {command : Bytes}
    (bare : Bytes.slash ∉ command) :
    (((SearchPath.parse path).candidates command).filterMap
        CString.ofBytes?).map CString.bytes =
      searchPlaces path command := by
  rw [CString.map_bytes_filterMap_ofBytes?, searchPlaces, SearchPath.candidates,
    SearchPath.parse, Bytes.fields_eq_splitOn, List.map_map]
  congr 1
  refine List.map_congr_left fun piece _ => ?_
  have current : Bytes.ofText "." = [46] := by decide
  rw [current]
  by_cases empty : piece = []
  · simp [empty, Bytes.join_of_not_mem_slash _ bare]
  · simp [empty, Bytes.join_of_not_mem_slash empty bare]

/-! ## What a request carries -/

namespace PointerVector

/-- What is read from the vector of some strings is these strings. -/
@[simp] theorem read_ofList (strings : List CString) :
    read (ofList strings) = strings.map CString.bytes := by
  induction strings with
  | nil => rfl
  | cons string rest inductionHypothesis =>
      simpa [ofList, read] using inductionHypothesis

end PointerVector

/-- If every item of a list is accepted, the results stand in the order of the
items. -/
theorem forall₂_of_mapM_eq_ok {α β ε : Type} {accept : α → Except ε β}
    {items : List α} {results : List β} (accepted : items.mapM accept = .ok results) :
    List.Forall₂ (fun item result => accept item = .ok result) items results := by
  induction items generalizing results with
  | nil =>
      cases accepted
      exact .nil
  | cons item rest inductionHypothesis =>
      rw [List.mapM_cons] at accepted
      cases first : accept item with
      | error cause => simp [first, bind, Except.bind] at accepted
      | ok result =>
          cases others : rest.mapM accept with
          | error cause => simp [first, others, bind, Except.bind] at accepted
          | ok remaining =>
              simp only [first, others, bind, Except.bind, pure, Except.pure,
                Except.ok.injEq] at accepted
              subst accepted
              exact .cons first (inductionHypothesis others)

namespace ExecRequest

theorem requireString_eq_ok_iff {what : String} {bytes : Bytes} {string : CString} :
    requireString what bytes = .ok string ↔ string.bytes = bytes := by
  rw [← CString.ofBytes_eq_ok_iff, requireString]
  cases CString.ofBytes bytes <;> simp

/-- Strings that were all accepted are the strings that were given. -/
theorem map_bytes_of_mapM_requireString {α : Type} {what : String}
    {render : α → Bytes} {items : List α} {strings : List CString}
    (accepted :
      (items.mapM fun item => requireString what (render item)) = .ok strings) :
    strings.map CString.bytes = items.map render := by
  have each := forall₂_of_mapM_eq_ok accepted
  clear accepted
  induction each with
  | nil => rfl
  | cons first _ inductionHypothesis =>
      simp [requireString_eq_ok_iff.mp first, inductionHypothesis]

/-- A request hands over a command line and its environment, and has the command
interpreter ready. -/
structure Carries (request : ExecRequest) (commandLine : CommandLine) : Prop where
  arguments : request.arguments.read = commandLine.line
  scriptArguments : ∀ place : CString,
    (request.scriptArguments (some place)).read =
      Bytes.ofText "/bin/sh" :: place.bytes :: commandLine.line.drop 1
  environment : request.environment.read = commandLine.environment

/-- What a request looks for is where the command of a launch may be. -/
def LooksFor (executable : Executable) (path command : Bytes) : Prop :=
  match executable with
  | .absent => command = []
  | .path location =>
      command ≠ [] ∧ Bytes.slash ∈ command ∧ location.bytes = command
  | .search candidates =>
      command ≠ [] ∧ Bytes.slash ∉ command ∧
        candidates.map CString.bytes = searchPlaces path command

theorem looksFor_of_locate {command path : Bytes} {executable : Executable}
    (located : locate command (SearchPath.parse path) = .ok executable) :
    LooksFor executable path command := by
  unfold locate at located
  split at located
  · rename_i empty
    cases located
    simpa [LooksFor] using empty
  · rename_i nonempty
    have nonempty : command ≠ [] := by simpa using nonempty
    split at located
    · rename_i separated
      have separated : Bytes.slash ∈ command := by
        simpa [SearchPath.isPath] using separated
      cases required : requireString "command" command with
      | error cause => simp [required, Functor.map, Except.map] at located
      | ok location =>
          simp only [required, Functor.map, Except.map, Except.ok.injEq] at located
          subst located
          exact ⟨nonempty, separated, requireString_eq_ok_iff.mp required⟩
    · rename_i bare
      have bare : Bytes.slash ∉ command := by
        simpa [SearchPath.isPath] using bare
      cases located
      exact ⟨nonempty, bare, SearchPath.map_bytes_candidates path bare⟩

theorem entry_eq_ofText (binding : String × String) :
    entry binding = Bytes.ofText (binding.1 ++ "=" ++ binding.2) := by
  have equals : Bytes.ofText "=" = [Environment.equals] := by decide
  rw [Bytes.ofText_append, Bytes.ofText_append, equals]
  simp [entry]

/-- The vectors of a request are made of these strings. -/
structure IsMadeOf (request : ExecRequest) (tokens entries : List CString) : Prop where
  arguments : request.arguments = .ofList tokens
  scriptArguments : ∀ script, request.scriptArguments script =
    some CString.shell :: script :: PointerVector.ofList (tokens.drop 1)
  environment : request.environment = .ofList entries

/-- What is known about the request of a launch that was accepted. -/
theorem isMadeOf_of_ofLaunch
    {launch : Launch} {path : SearchPath} {parent : Environment} {request : ExecRequest}
    (accepted : ofLaunch launch path parent = .ok request) :
    ∃ tokens entries : List CString,
      request.IsMadeOf tokens entries ∧
        tokens.map CString.bytes = launch.commandLine.map Bytes.ofText ∧
        entries.map CString.bytes =
          (launch.effectiveEnvironment parent).entries.map entry ∧
        request.directory.bytes = launch.directory ∧
        locate (Bytes.ofText (launch.program?.getD "")) path = .ok request.executable := by
  unfold ofLaunch at accepted
  cases tokens : launch.commandLine.mapM fun token =>
      requireString "argument" (Bytes.ofText token) with
  | error cause => simp [tokens, bind, Except.bind] at accepted
  | ok arguments =>
  cases bindings :
      (launch.effectiveEnvironment parent).entries.mapM fun binding =>
        requireString "environment entry" (entry binding) with
  | error cause => simp [tokens, bindings, bind, Except.bind] at accepted
  | ok environment =>
  cases entered : requireString "working directory" launch.directory with
  | error cause => simp [tokens, bindings, entered, bind, Except.bind] at accepted
  | ok directory =>
  cases located : locate (Bytes.ofText (launch.program?.getD "")) path with
  | error cause =>
      simp [tokens, bindings, entered, located, bind, Except.bind] at accepted
  | ok executable =>
      simp only [tokens, bindings, entered, located, bind, Except.bind, pure,
        Except.pure, Except.ok.injEq] at accepted
      subst accepted
      exact ⟨arguments, environment, ⟨rfl, fun _ => rfl, rfl⟩,
        map_bytes_of_mapM_requireString tokens, map_bytes_of_mapM_requireString bindings,
        requireString_eq_ok_iff.mp entered, rfl⟩

/-- A launch that was accepted hands over what it describes, and looks for its command. -/
theorem carries_and_looksFor_of_ofLaunch
    {launch : Launch} {path : Bytes} {parent : Environment} {request : ExecRequest}
    (accepted : ofLaunch launch (SearchPath.parse path) parent = .ok request) :
    request.Carries (CommandLine.ofLaunch launch parent) ∧
      LooksFor request.executable path
        (CommandLine.ofLaunch launch parent).command := by
  obtain ⟨tokens, entries, isMadeOf, line, isEnvironment, -, located⟩ :=
    isMadeOf_of_ofLaunch accepted
  have command :
      (CommandLine.ofLaunch launch parent).command =
        Bytes.ofText (launch.program?.getD "") := by
    rw [CommandLine.command, CommandLine.ofLaunch, Launch.program?]
    cases launch.commandLine <;> rfl
  refine ⟨⟨?_, fun place => ?_, ?_⟩, ?_⟩
  · simpa [isMadeOf.arguments, CommandLine.ofLaunch] using line
  · have shell : CString.shell.bytes = Bytes.ofText "/bin/sh" := by decide
    simp [isMadeOf.scriptArguments, PointerVector.read, CommandLine.ofLaunch, ← line, shell]
  · simpa [isMadeOf.environment, CommandLine.ofLaunch] using isEnvironment
  · rw [command]
    exact looksFor_of_locate located

end ExecRequest

/-! ## What a request does -/

namespace ExecRequest

variable {request : ExecRequest} {commandLine : CommandLine}

theorem runExecutions_execute
    (outcomes : ExecutionOutcomes)
    (path : CString)
    (arguments : PointerVector) :
    (request.execute path arguments).runExecutions outcomes =
      ([⟨path.bytes, arguments.read, request.environment.read⟩],
        .ofResult (outcomes
          ⟨path.bytes, arguments.read, request.environment.read⟩)) := by
  simp only [execute, Program.perform, Program.runExecutions]
  cases outcomes ⟨path.bytes, arguments.read, request.environment.read⟩ <;> rfl

/-- An attempt tries one place. -/
theorem Carries.runExecutions_attempt
    (carries : request.Carries commandLine)
    (outcomes : ExecutionOutcomes)
    (place : CString) :
    (request.attempt place).runExecutions outcomes =
      commandLine.tryPlace outcomes place.bytes := by
  have shell : CString.shell.bytes = Bytes.ofText "/bin/sh" := by decide
  have direct :
      (⟨place.bytes, request.arguments.read, request.environment.read⟩ : Execution) =
        commandLine.direct place.bytes := by
    rw [carries.arguments, carries.environment, CommandLine.direct]
  have script :
      (⟨CString.shell.bytes, (request.scriptArguments (some place)).read,
          request.environment.read⟩ : Execution) =
        commandLine.script place.bytes := by
    rw [shell, carries.scriptArguments, carries.environment, CommandLine.script]
  rw [attempt, Program.runExecutions_bind, runExecutions_execute, direct]
  unfold CommandLine.tryPlace CommandLine.executionsAt CommandLine.outcomeAt
  cases tried : outcomes (commandLine.direct place.bytes) with
  | none => simp [ExecutionEnd.ofResult]
  | some errno =>
      by_cases unrecognised : errno = Errno.ENOEXEC
      · simp only [unrecognised, ExecutionEnd.ofResult, if_true,
          Program.runExecutions_bind, runExecutions_execute, script]
        cases outcomes (commandLine.script place.bytes) <;> simp
      · simp [unrecognised, ExecutionEnd.ofResult]

/-- A place after which the search goes on is put before what the rest takes. -/
theorem tryPlaces_cons_of_goesOnAfter
    (outcomes : ExecutionOutcomes)
    (otherwise : Errno)
    {place : Bytes}
    (rest : List Bytes)
    (goesOn : commandLine.goesOnAfter outcomes place = true) :
    commandLine.tryPlaces outcomes otherwise (place :: rest) =
      let later :=
        commandLine.tryPlaces outcomes
          (if commandLine.outcomeAt outcomes place = some Errno.EACCES
            then Errno.EACCES else otherwise) rest
      (commandLine.executionsAt outcomes place ++ later.1, later.2) := by
  unfold CommandLine.tryPlaces
  rw [List.takeWhile_cons_of_pos goesOn, List.dropWhile_cons_of_pos goesOn]
  cases rest.dropWhile (commandLine.goesOnAfter outcomes) with
  | cons stop _ => simp
  | nil =>
      by_cases refused : commandLine.outcomeAt outcomes place = some Errno.EACCES
      · simp [refused]
      · simp [refused]

/-- A place after which the search does not go on is the last one. -/
theorem tryPlaces_cons_of_not_goesOnAfter
    (outcomes : ExecutionOutcomes)
    (otherwise : Errno)
    {place : Bytes}
    (rest : List Bytes)
    (stops : commandLine.goesOnAfter outcomes place = false) :
    commandLine.tryPlaces outcomes otherwise (place :: rest) =
      commandLine.tryPlace outcomes place := by
  have stops : ¬commandLine.goesOnAfter outcomes place = true := by simp [stops]
  unfold CommandLine.tryPlaces
  rw [List.takeWhile_cons_of_neg stops, List.dropWhile_cons_of_neg stops]
  simp [CommandLine.tryPlace]

/-- A search tries the places in order. -/
theorem Carries.runExecutions_search
    (carries : request.Carries commandLine)
    (outcomes : ExecutionOutcomes)
    (otherwise : Errno)
    (candidates : List CString) :
    (request.search otherwise candidates).runExecutions outcomes =
      commandLine.tryPlaces outcomes otherwise
        (candidates.map CString.bytes) := by
  induction candidates generalizing otherwise with
  | nil => rfl
  | cons candidate rest inductionHypothesis =>
      rw [search, Program.runExecutions_bind, carries.runExecutions_attempt,
        List.map_cons, CommandLine.tryPlace]
      cases tried : commandLine.outcomeAt outcomes candidate.bytes with
      | none =>
          have stops :
              commandLine.goesOnAfter outcomes candidate.bytes = false := by
            simp [CommandLine.goesOnAfter, tried]
          rw [tryPlaces_cons_of_not_goesOnAfter _ _ _ stops, CommandLine.tryPlace,
            tried]
          rfl
      | some errno =>
          -- The search distinguishes three kinds of failures, the plan only two.
          by_cases refused : errno = Errno.EACCES
          · have goesOn :
                commandLine.goesOnAfter outcomes candidate.bytes = true := by
              simp [CommandLine.goesOnAfter, tried, refused, CommandLine.passedOver]
            rw [tryPlaces_cons_of_goesOnAfter _ _ _ goesOn]
            simp [ExecutionEnd.ofResult, refused, tried, inductionHypothesis]
          · by_cases skipped : isSkipped errno = true
            · have goesOn :
                  commandLine.goesOnAfter outcomes candidate.bytes = true := by
                simpa [CommandLine.goesOnAfter, tried, refused,
                  CommandLine.passedOver, isSkipped] using skipped
              rw [tryPlaces_cons_of_goesOnAfter _ _ _ goesOn]
              simp [ExecutionEnd.ofResult, refused, skipped, tried,
                inductionHypothesis]
            · have stops :
                  commandLine.goesOnAfter outcomes candidate.bytes = false := by
                simpa [CommandLine.goesOnAfter, tried, refused,
                  CommandLine.passedOver, isSkipped] using skipped
              rw [tryPlaces_cons_of_not_goesOnAfter _ _ _ stops,
                CommandLine.tryPlace, tried]
              simp [ExecutionEnd.ofResult, refused, skipped]

/-- The request of an accepted launch asks for exactly the executions of the plan,
and what it reports is what the plan says. -/
theorem runExecutions_run_eq_plan
    (launch : Launch)
    (path : Bytes)
    (parent : Environment)
    (request : ExecRequest)
    (accepted : ofLaunch launch (SearchPath.parse path) parent = .ok request)
    (outcomes : ExecutionOutcomes) :
    request.run.runExecutions outcomes =
      (CommandLine.ofLaunch launch parent).plan path outcomes := by
  obtain ⟨carries, looksFor⟩ := carries_and_looksFor_of_ofLaunch accepted
  unfold run CommandLine.plan
  cases looked : request.executable with
  | absent =>
      rw [looked] at looksFor
      have empty : (CommandLine.ofLaunch launch parent).command = [] := looksFor
      simp [empty]
  | path location =>
      rw [looked] at looksFor
      obtain ⟨nonempty, separated, same⟩ := looksFor
      simp only [nonempty, separated, if_true, if_false]
      rw [carries.runExecutions_attempt, same]
  | search candidates =>
      rw [looked] at looksFor
      obtain ⟨nonempty, bare, same⟩ := looksFor
      simp only [nonempty, bare, if_false]
      rw [carries.runExecutions_search, same]

/-- A search past a refusal, an absent place and a place with a zero byte, which ends
at a script that the command interpreter cannot run either. -/
theorem runExecutions_run_of_unrunnable_script :
    let launch : Launch :=
      { Launch.initial with
        commandLine := ["tool", "x"], inheritsEnvironment := false }
    let path := Bytes.ofText "/a::/z\x00:b/:/c"
    let line := [Bytes.ofText "tool", Bytes.ofText "x"]
    let outcomes : ExecutionOutcomes := fun execution =>
      if execution.path = Bytes.ofText "/a/tool" then some Errno.EACCES
      else if execution.path = Bytes.ofText "b/tool" then some Errno.ENOEXEC
      else some Errno.ENOENT
    ∃ request : ExecRequest,
      ExecRequest.ofLaunch launch (SearchPath.parse path) ⟨[]⟩ = .ok request ∧
        request.run.runExecutions outcomes =
          ([⟨Bytes.ofText "/a/tool", line, []⟩, ⟨Bytes.ofText "./tool", line, []⟩,
            ⟨Bytes.ofText "b/tool", line, []⟩,
            ⟨Bytes.ofText "/bin/sh",
              [Bytes.ofText "/bin/sh", Bytes.ofText "b/tool", Bytes.ofText "x"], []⟩],
            .returned Errno.ENOEXEC) := by
  intro launch path line outcomes
  refine ⟨_, rfl, ?_⟩
  rw [runExecutions_run_eq_plan launch path ⟨[]⟩ _ rfl outcomes]
  decide

end ExecRequest
end ChildProcess
