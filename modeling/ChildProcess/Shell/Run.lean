import ChildProcess.Shell.Builtin
import ChildProcess.Shell.Redirect

/-!
# Running commands

Commands are run one after another. Built-in commands are run by the interpreter
itself, and others in processes of their own, except that the last command of all is
run in the interpreter's process if that has nothing else to do. Whoever runs a
command is told whether the next one follows, or a loop or the whole run is left.
-/

namespace ChildProcess
namespace Shell

open Program (perform)

/-- What follows on a command. -/
inductive Flow
  | next
  | exit
  /-- The loop around is left, and so many others around that. -/
  | breaks (outer : Nat)
  /-- The next round of the loop around follows, or of one around that. -/
  | continues (outer : Nat)
  /-- The function around is left. -/
  | returns
  deriving DecidableEq, Repr, Inhabited

/-- Where a command stands. -/
structure Position where
  /-- Whether nothing follows, so that its process need not come back. -/
  isLast : Bool := false
  /-- Whether something depends on its success, so that a failure is no error. -/
  isTested : Bool := false
  deriving DecidableEq, Repr, Inhabited

namespace Run

/-! ## Steps that run no other command -/

/-- Why an expansion fails, as it is reported. -/
def expansionMessage : ExpansionError → String
  | .badSubstitution => "Bad substitution"
  | .arithmetic expression =>
      "arithmetic expression: expecting primary: \x22" ++ String.ofList expression
        ++ "\x22"
  | .unset name message =>
      String.ofList name ++ ": "
        ++ (if message.isEmpty then "parameter not set" else String.ofList message)

/-- Report an error that ends the interpreter. -/
def fail (message : String) : Action Flow := do
  report message
  setStatus Builtin.failureCode
  pure .exit

/-- Go on with what an expansion yields. -/
def expanding {α : Type} (expander : Expansion.Expander α) (next : α → Action Flow) :
    Action Flow := do
  match ← expander.run with
  | .error cause => fail (expansionMessage cause)
  | .ok value => next value

/-- End the run if a failure is an error. -/
def checked (position : Position) (flow : Flow) : Action Flow := do
  let state ← get
  let isError := state.exitsOnError && !position.isTested && state.status != 0
  pure (if isError && flow = .next then .exit else flow)

/-- Set variables. -/
def assign (values : List (Text × Text)) : Action Unit :=
  values.forM fun (name, value) => modify (·.set name value)

/-- Set variables for a program to be executed. -/
def assignExported (values : List (Text × Text)) : Action Unit :=
  values.forM fun (name, value) =>
    modify fun state => (state.set name value).markExported name

/-- Give some variables the values that they had before. -/
def restoreVariables (before : State) (values : List (Text × Text)) : Action Unit :=
  values.forM fun (name, _) =>
    modify fun state =>
      match before.bindings.get? name with
      | none => state.unset name
      | some binding =>
          { state with bindings := state.bindings.insert name binding }

/-- Run a built-in command. Variables that are set for it keep their values only if
it is special. -/
def runBuiltin (name : String) (builtin : Builtin)
    (values : List (Text × Text)) (arguments : List Text) : Action Flow := do
  let before ← get
  assign values
  let answer ← builtin arguments
  if !Builtin.isSpecial name then restoreVariables before values
  match answer with
  | .ok code => do
      setStatus code
      pure .next
  | .error reason => do
      report (name ++ ": " ++ reason)
      setStatus Builtin.failureCode
      pure (if Builtin.isSpecial name then .exit else .next)

/-- Run a program, in this process if nothing else is left to do here. -/
def runProgram (position : Position) (values : List (Text × Text))
    (words : List Text) : Action Flow := do
  let work : Action Nat := do
    assignExported values
    Job.become "" words
  if position.isLast && !(← get).hasTraps then do
    setStatus (← work)
    pure .exit
  else
    match ← Job.start work with
    | none => do
        setStatus Builtin.failureCode
        pure .exit
    | some process => do
        setStatus (← (Job.await process : Program Nat))
        pure .next

/-- Leave the run, or a function, with a code. -/
def leave (name : String) (flow : Flow) (arguments : List Text) : Action Flow := do
  match arguments with
  | [] => pure flow
  | argument :: _ =>
      match Token.number? argument with
      | none => fail (name ++ ": Illegal number: " ++ String.ofList argument)
      | some code => do
          setStatus (code % 256)
          pure flow

/-- Leave so many loops as the arguments say, one without any, or go on with the
outermost of these. Without a loop around nothing happens. -/
def leaveLoops (flow : Nat → Flow) (arguments : List Text) : Action Flow := do
  setStatus 0
  let asked := (arguments.head?.bind Token.number?).getD 1
  match min asked (← get).loops with
  | 0 => pure .next
  | outer + 1 => pure (flow outer)

/-- Do something with one more loop around. -/
def inLoop (action : Action Flow) : Action Flow := do
  modify fun state => { state with loops := state.loops + 1 }
  let flow ← action
  modify fun state => { state with loops := state.loops - 1 }
  pure flow

/-- Let a descriptor stand for an end of a pipe, which is closed. -/
def connect (source target : Descriptor) : Program Unit := do
  if source ≠ target then
    let _ ← perform (.duplicate source target)
    let _ ← perform (.close source)
  else
    let _ ← perform (.setCloseOnExec target false)

/-- Close a descriptor if there is one. -/
def closeOptional (descriptor? : Option Descriptor) : Program Unit :=
  descriptor?.forM fun descriptor => do
    let _ ← perform (.close descriptor)

/-- Read nothing from standard input, and take no signals from the keyboard. -/
def detach : Program Unit := do
  perform (.setDisposition Signal.interrupt .ignore)
  perform (.setDisposition Signal.quit .ignore)
  let _ ← perform (.close 0)
  let _ ← perform (.openFile (Bytes.ofText "/dev/null") { closesOnExec := false })

/-- The content of the first of some files that can be read. -/
def firstContent? : List Text → Program (Option Text)
  | [] => pure none
  | path :: rest => do
      match ← perform (.openFile (Bytes.ofCharacters path) .reading) with
      | .error _ => firstContent? rest
      | .ok descriptor => do
          let content ← Program.readToEnd
            (Program.readSome Program.patience descriptor) Program.patience
          let _ ← perform (.close descriptor)
          pure (content.toOption.map Bytes.toCharacters)

/-- The content of a file with commands, which is looked for like a command. -/
def content? (searchPath name : Text) : Program (Option Text) :=
  firstContent? (Job.candidates searchPath name)

/-- Whether a source has no commands behind those that were read. -/
def isAtEnd (source rest : Source) : Bool :=
  rest.tokens.isEmpty && source.tokens.getLast? != some (.operator .newline)

/-- The flow outside of a loop, or a decision to go on with the loop. -/
def afterRound : Flow → Option Flow
  | .next | .continues 0 => none
  | .exit => some .exit
  | .returns => some .returns
  | .breaks 0 => some .next
  | .breaks (outer + 1) => some (.breaks outer)
  | .continues (outer + 1) => some (.continues outer)

/-! ## Running -/

mutual

/-- Run a command. -/
def command : Nat → Position → Command → Action Flow
  | 0, _, _ => (Program.exhausted : Program Flow)
  | depth + 1, position, given => do
      match given with
      | .nothing => do
          setStatus 0
          pure .next
      | .simple line assignments words redirections => do
          modify fun state => { state with line, substituted? := none }
          let flow ← simple depth position assignments words redirections
          checked position (← runTraps depth flow)
      | .pipeline stages => do
          let processes ← startStages depth none stages
          setStatus (← (Job.awaitAll processes : Program Nat))
          checked position (← runTraps depth .next)
      | .negation inner => do
          let flow ← command depth { isTested := true } inner
          modify fun state => state.withStatus (if state.status = 0 then 1 else 0)
          pure flow
      | .both first second => do
          let flow ← command depth { isTested := true } first
          if flow = .next && (← get).status = 0 then command depth position second
          else pure flow
      | .either first second => do
          let flow ← command depth { isTested := true } first
          if flow = .next && (← get).status != 0 then command depth position second
          else pure flow
      | .sequence first second => do
          let flow ← command depth { position with isLast := false } first
          if flow = .next then command depth position second else pure flow
      | .background inner => do
          let started ← Job.start do
            (detach : Program Unit)
            toEnd depth (command depth { isLast := true } inner)
          modify fun state => { state with lastBackground? := started, status := 0 }
          pure .next
      | .subshell body => do
          if position.isLast && !(← get).hasTraps then
            command depth position body
          else do
            let started ← Job.start
              (toEnd depth (command depth { isLast := true } body))
            let processes := started.toList
            setStatus (← (Job.awaitAll processes : Program Nat))
            checked position (← runTraps depth .next)
      | .conditional condition body otherwise => do
          let flow ← command depth { isTested := true } condition
          if flow ≠ .next then pure flow
          else if (← get).status = 0 then command depth position body
          else command depth position otherwise
      | .repetition whileFails condition body =>
          inLoop
            (rounds depth { position with isLast := false } whileFails condition body 0)
      | .iteration name words? body => do
          let items : Expansion.Expander (List Text) :=
            match words? with
            | none => do pure (← get).arguments
            | some words => Expansion.allFields (substitution depth) words
          expanding items fun items => do
            setStatus 0
            inLoop (roundsFor depth { position with isLast := false } name body items)
      | .selection subject clauses =>
          expanding (Expansion.text (substitution depth) subject) fun subject =>
            firstClause depth position subject clauses
      | .redirected inner redirections =>
          expanding (targets depth redirections) fun targets => do
            match ← (Redirection.applyAll targets : Program _) with
            | .error reason => do
                report reason
                setStatus Builtin.failureCode
                checked position .next
            | .ok kept => do
                let flow ← command depth { position with isLast := false } inner
                (Redirection.restoreAll kept : Program Unit)
                pure flow
      | .definition name body => do
          modify fun state =>
            { state with functions := state.functions.insert name body, status := 0 }
          pure .next

/-- Do what is to be done about signals that have arrived during a command. The code
of that command stays. -/
def runTraps : Nat → Flow → Action Flow
  | 0, _ => (Program.exhausted : Program Flow)
  | depth + 1, flow => do
      if !(← get).hasTraps || flow = .exit then pure flow
      else do
        let signals ← (perform .notedSignals : Program (List Nat))
        let texts := signals.filterMap (← get).traps.get?
        runTexts depth flow texts

/-- Run texts one after another, of which one may end the run. -/
def runTexts : Nat → Flow → List Text → Action Flow
  | 0, _, _ => (Program.exhausted : Program Flow)
  | _ + 1, flow, [] => pure flow
  | depth + 1, flow, text :: rest => do
      let status := (← get).status
      match ← runText depth {} text with
      | .exit => pure .exit
      | _ => do
          setStatus status
          runTexts depth flow rest

/-- Run the body of a function, with arguments of its own. -/
def runFunction : Nat → Position → Command → List Text → Action Flow
  | 0, _, _, _ => (Program.exhausted : Program Flow)
  | depth + 1, position, body, arguments => do
      let before ← get
      set { before with arguments, loops := 0 }
      let flow ← command depth position body
      modify fun state =>
        { state with arguments := before.arguments, loops := before.loops }
      pure (if flow = .returns then .next else flow)

/-- Expand the targets of redirections. -/
def targets : Nat → List Redirection → Expansion.Expander (List Redirection)
  | 0, _ => (Program.exhausted : Program (List Redirection))
  | depth + 1, redirections =>
      redirections.mapM fun redirection => do
        let target ← Expansion.text (substitution depth) redirection.target
        pure { redirection with target }

/-- Run a simple command: expand its words, redirect, and set its variables. -/
def simple : Nat → Position → List (Text × Text) → List Text → List Redirection →
    Action Flow
  | 0, _, _, _, _ => (Program.exhausted : Program Flow)
  | depth + 1, position, assignments, words, redirections =>
      expanding (Expansion.allFields (substitution depth) words) fun words =>
        expanding (targets depth redirections) fun targets => do
          let name := String.ofList (words.headD [])
          match ← (Redirection.applyAll targets : Program _) with
          | .error reason => do
              report reason
              setStatus Builtin.failureCode
              pure (if Builtin.isSpecial name then .exit else .next)
          | .ok kept => do
              let values := assignments.mapM fun (name, raw) => do
                pure (name, ← Expansion.text (substitution depth) raw)
              let flow ← expanding values fun values => run depth position values words
              if name = "exec" then (Redirection.forgetAll kept : Program Unit)
              else (Redirection.restoreAll kept : Program Unit)
              pure flow

/-- Run what the words of a simple command stand for. -/
def run : Nat → Position → List (Text × Text) → List Text → Action Flow
  | 0, _, _, _ => (Program.exhausted : Program Flow)
  | _ + 1, _, values, [] => do
      assign values
      setStatus ((← get).substituted?.getD 0)
      pure .next
  | depth + 1, position, values, name :: arguments => do
      match String.ofList name with
      | "exit" => leave "exit" .exit arguments
      | "return" =>
          leave "return" .returns arguments
      | "break" => leaveLoops .breaks arguments
      | "continue" => leaveLoops .continues arguments
      | "eval" => do
          assign values
          let text := (arguments.intersperse [' ']).flatten
          runText depth { isTested := position.isTested } text
      | "exec" => do
          assignExported values
          if arguments.isEmpty then do
            setStatus 0
            pure .next
          else do
            setStatus (← Job.become "exec: " arguments)
            pure .exit
      | "." => do
          let file := arguments.headD []
          match ← (content? (← get).searchPath file : Program _) with
          | some text => do
              let flow ← runText depth { isTested := position.isTested } text
              pure (if flow = .returns then .next else flow)
          | none =>
              let name := String.ofList file
              fail
                (if file.contains '/' then
                  ".: cannot open " ++ name ++ ": No such file"
                else ".: " ++ name ++ ": not found")
      | "command" => run depth position values arguments
      | text =>
          match (← get).functions.get? name with
          | some body => do
              assign values
              runFunction depth { isTested := position.isTested } body arguments
          | none =>
              match Builtin.ofName? text with
              | some builtin => runBuiltin text builtin values arguments
              | none => runProgram position values (name :: arguments)

/-- Run a text as commands of this interpreter. Without any, the code is zero. -/
def runText : Nat → Position → Text → Action Flow
  | 0, _, _ => (Program.exhausted : Program Flow)
  | depth + 1, position, text => do
      let tokens := Token.ofText text
      if tokens.isEmpty then setStatus 0
      source depth position false { tokens, line := (← get).line }

/-- Run a script in a process of its own, and take what it writes. -/
def substitution : Nat → Expansion.Substitute
  | 0 => fun _ _ => .exhausted
  | depth + 1 => fun script state => do
      match ← perform .pipe with
      | .error _ => pure (state.withStatus Builtin.failureCode, [])
      | .ok (reader, writer) => do
          let work : Action Nat := do
            (closeOptional (some reader) : Program Unit)
            (connect writer 1 : Program Unit)
            let text := (script.reverse.dropWhile (· == '\n')).reverse
            toEnd depth
              (source depth {} true { tokens := Token.ofText text, line := state.line })
          let (started, state) ← (Job.start work).run state
          closeOptional (some writer)
          let output ← Program.readToEnd
            (Program.readSome Program.patience reader) Program.patience
          closeOptional (some reader)
          let code ← Job.awaitAll started.toList
          let text := Bytes.toCharacters ((output.toOption.getD []).filter (· != 0))
          pure ({ state with status := code, substituted? := some code }, text)

/-- Run commands to the end of their process: what is to be done at the end is done,
and the answer is the code. -/
def toEnd : Nat → Action Flow → Action Nat
  | 0, _ => (Program.exhausted : Program Nat)
  | depth + 1, work => do
      let _ ← work
      let state ← get
      match state.traps.get? 0 with
      | none => pure state.status
      | some text => do
          set (state.withTrap 0 [])
          let flow ← source depth {} false { tokens := Token.ofText text }
          let last := (← get).status
          pure (if flow = .exit then last else state.status)

/-- Run the commands of a source line by line. The last one may be run in this
process if `leaves` says so. -/
def source : Nat → Position → Bool → Source → Action Flow
  | 0, _, _, _ => (Program.exhausted : Program Flow)
  | depth + 1, position, leaves, given => do
      match Reader.next? given with
      | .error cause => do
          complain (← get) (cause.message given.lastLine)
          setStatus Builtin.failureCode
          pure .exit
      | .ok (none, _) => pure .next
      | .ok (some first, rest) => do
          let isLast := leaves && isAtEnd given rest
          let flow ← command depth { position with isLast } first
          if flow = .next then source depth position leaves rest else pure flow

/-- Start the stages of a pipeline, the first of which may read from a pipe. -/
def startStages : Nat → Option Descriptor → List Command → Action (List ProcessId)
  | 0, _, _ => (Program.exhausted : Program (List ProcessId))
  | _ + 1, input?, [] => do
      (closeOptional input? : Program Unit)
      pure []
  | depth + 1, input?, [last] => do
      let started ← Job.start do
        input?.forM fun input => (connect input 0 : Program Unit)
        toEnd depth (command depth { isLast := true } last)
      (closeOptional input? : Program Unit)
      pure started.toList
  | depth + 1, input?, first :: rest => do
      match ← perform .pipe with
      | .error _ => do
          report "Pipe call failed"
          (closeOptional input? : Program Unit)
          pure []
      | .ok (reader, writer) => do
          let started ← Job.start do
            (closeOptional (some reader) : Program Unit)
            input?.forM fun input => (connect input 0 : Program Unit)
            (connect writer 1 : Program Unit)
            toEnd depth (command depth { isLast := true } first)
          (closeOptional input? : Program Unit)
          (closeOptional (some writer) : Program Unit)
          let others ← startStages depth (some reader) rest
          pure (started.toList ++ others)

/-- Repeat a body as long as a condition says. Between rounds others may run. The
status is in the end that of the last round. -/
def rounds : Nat → Position → Bool → Command → Command → Nat → Action Flow
  | 0, _, _, _, _, _ => (Program.exhausted : Program Flow)
  | depth + 1, position, whileFails, condition, body, status => do
      perform .yield
      let flow ← command depth { isTested := true } condition
      match afterRound flow with
      | some flow => pure flow
      | none =>
          let succeeded := (← get).status = 0
          if succeeded = whileFails then do
            setStatus status
            pure .next
          else do
            let flow ← command depth position body
            match afterRound flow with
            | some flow => pure flow
            | none => do
                let status := (← get).status
                rounds depth position whileFails condition body status

/-- Repeat a body for some texts as the value of a variable. -/
def roundsFor : Nat → Position → Text → Command → List Text → Action Flow
  | 0, _, _, _, _ => (Program.exhausted : Program Flow)
  | _ + 1, _, _, _, [] => pure .next
  | depth + 1, position, name, body, item :: rest => do
      perform .yield
      modify (·.set name item)
      let flow ← command depth position body
      match afterRound flow with
      | some flow => pure flow
      | none => roundsFor depth position name body rest

/-- Run the commands of the first clause that has a pattern which a text matches. -/
def firstClause : Nat → Position → Text → List (List Text × Command) → Action Flow
  | 0, _, _, _ => (Program.exhausted : Program Flow)
  | _ + 1, _, _, [] => do
      setStatus 0
      pure .next
  | depth + 1, position, subject, (patterns, body) :: rest =>
      expanding (patterns.mapM (Expansion.pattern (substitution depth))) fun patterns =>
        if patterns.any fun pattern => Pattern.isMatch pattern subject then
          command depth position body
        else firstClause depth position subject rest

end

end Run
end Shell
end ChildProcess
