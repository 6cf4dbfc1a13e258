import ChildProcess.Proofs.Descriptors.Closing
import ChildProcess.Proofs.Waiting.Parenthood
import ChildProcess.Runner.Supervision

/-!
# What a command leaves behind

A command is started, watched within its time limits and waited for once.  None of the
looks at the command and none of the signals sent to it collects it, so it is the wait
that decides: its code is that of the end of the command, which has been collected then,
or that of a stop, and then the command is still there.
-/

namespace ChildProcess

open Program (Runs)
open Parenthood (leavesChildren makes_log)

/-! ## Calls that leave the command alone -/

namespace Wait

/-- Waiting makes no child. -/
theorem ne_fork_of_awaits
    {process : ProcessId}
    {request : Call}
    (awaiting : awaits process request) :
    request ≠ .fork := by
  rintro rfl
  exact awaiting.elim id id

end Wait

namespace Handle

theorem makes_hasExited (rounds : Nat) (handle : Handle) :
    (handle.hasExited rounds).Makes (Wait.looksAt handle.process) := by
  unfold hasExited
  split
  · trivial
  · exact Wait.makes_look rounds handle.process

theorem makes_interrupt (handle : Handle) (force : Bool) :
    (handle.interrupt force).Makes leavesChildren := by
  unfold interrupt
  split
  · trivial
  · refine ⟨trivial, fun _ => ⟨trivial, fun answer => ?_⟩⟩
    cases answer <;> trivial

theorem completes_drop (handle : Handle) : handle.drop.Completes preparesOrCloses := by
  have closes : (do
      dropDescriptor handle.streams.stdin
      dropDescriptor handle.streams.stdout
      dropDescriptor handle.streams.stderr : Program Unit).Completes preparesOrCloses :=
    Program.completes_bind (completes_dropDescriptor _) fun _ =>
      Program.completes_bind (completes_dropDescriptor _) fun _ =>
        completes_dropDescriptor _
  unfold drop
  split
  · exact ⟨trivial, fun _ => closes⟩
  · exact closes

end Handle

namespace Runner

/-- The calls with which a command is looked at until its time is up. -/
def bides (process : ProcessId) : Call → Prop
  | .clock | .sleep _ => True
  | request => Wait.looksAt process request

theorem bides_of_looksAt
    {process : ProcessId}
    {request : Call}
    (looking : Wait.looksAt process request) :
    bides process request := by
  cases request with
  | clock | sleep => trivial
  | _ => exact looking

theorem leavesChildren_of_bides
    {process : ProcessId}
    {request : Call}
    (biding : bides process request) :
    leavesChildren request := by
  cases request with
  | fork | collect => exact biding.elim
  | _ => trivial

theorem makes_exitsBefore (handle : Handle) (deadline rounds : Nat) :
    (exitsBefore handle deadline rounds).Makes (bides handle.process) := by
  induction rounds with
  | zero => trivial
  | succ rounds inductionHypothesis =>
      refine Program.makes_bind ((handle.makes_hasExited _).mono fun _ => bides_of_looksAt)
        fun answer => ?_
      rcases answer with cause | (_ | _)
      · trivial
      · refine ⟨trivial, fun now => ?_⟩
        change (if deadline ≤ now then _ else _ : Program _).Makes (bides handle.process)
        split
        · trivial
        · exact ⟨trivial, fun _ => inductionHypothesis⟩
      · trivial

theorem makes_exitsWithin (handle : Handle) (limit : Duration) :
    (exitsWithin handle limit).Makes (bides handle.process) := by
  refine ⟨trivial, fun now => ?_⟩
  change (if clockBound * nanosPerSecond ≤ now + limit.nanoseconds then _ else _ :
    Program _).Makes (bides handle.process)
  split
  · exact ⟨trivial, fun _ => trivial⟩
  · exact makes_exitsBefore handle _ _

theorem makes_interrupt (handle : Handle) (force : Bool) :
    (interrupt handle force).Makes leavesChildren :=
  Program.makes_bind (handle.makes_interrupt force) fun _ => trivial

theorem makes_enforceTimeout (handle : Handle) (timeout killAfter : Duration) :
    (enforceTimeout handle timeout killAfter).Makes leavesChildren := by
  have watching (limit : Duration) : (exitsWithin handle limit).Makes leavesChildren :=
    (makes_exitsWithin handle limit).mono fun _ => leavesChildren_of_bides
  refine Program.makes_bind (watching timeout) fun exits => ?_
  rcases exits with cause | (_ | _)
  · trivial
  · refine Program.makes_bind (makes_log _ _ _) fun _ => ?_
    refine Program.makes_bind (makes_interrupt handle false) fun answer => ?_
    rcases answer with cause | ⟨⟩
    · trivial
    · refine Program.makes_bind (watching killAfter) fun exits => ?_
      rcases exits with cause | (_ | _)
      · trivial
      · exact ⟨trivial, fun _ => makes_interrupt handle true⟩
      · trivial
  · trivial

end Runner

/-! ## The wait for the command -/

namespace Parenthood

variable {process : ProcessId} {before : Parenthood}

/-- A process has a child of which an outcome tells what became of it. -/
def HasTold (process : ProcessId) (outcome : Wait.Outcome) (events : List Event)
    (state : Parenthood) : Prop :=
  ∃ life, state = .parent process life ∧ outcome.Tells process events life

theorem Awaits.ensures_waitFor
    (awaits : before.Awaits process)
    (isProcess : process ≠ 0)
    (rounds : Nat)
    (history : List Event) :
    (Wait.waitFor rounds process).Ensures free
      (fun later after answer =>
        ∃ outcome, answer = .ok outcome ∧ HasTold process outcome later after)
      history before := by
  cases awaits with
  | parent uncollected =>
      refine ((Wait.makes_waitFor rounds process).ensures_of_simulates
        (fun state life => state = .parent process life) ?_
        (Wait.ensures_waitFor isProcess rounds history uncollected) rfl).mono ?_
      · rintro _ life request answer after rfl awaiting answered
        exact watching_of_answers (Wait.ne_fork_of_awaits awaiting) answered
      · rintro later after _ ⟨life, rfl, outcome, rfl, tells⟩
        exact ⟨outcome, rfl, life, rfl, tells⟩

/-- What has been told stays true while descriptors are closed. -/
theorem ensures_hasTold
    {α : Type}
    {program : Program α}
    {outcome : Wait.Outcome}
    {history : List Event}
    (makes : program.Makes preparesOrCloses)
    (hasTold : HasTold process outcome history before) :
    program.Ensures free (fun later after _ => HasTold process outcome later after)
      history before := by
  refine makes.ensures (HasTold process outcome) trivial (fun _ _ _ _ _ => trivial) ?_
    hasTold
  rintro history _ request answer next ⟨life, rfl, tells⟩ prepares answered
  have leaves := leavesChildren_of_preparesOrCloses prepares
  have noFork : request ≠ .fork := by
    rintro rfl
    exact leaves
  have notCollecting : ∀ mode, request ≠ .collect process mode := by
    rintro mode rfl
    exact leaves
  have notAsking : request ≠ .childReport process := by
    rintro rfl
    exact prepares
  obtain ⟨later, watched, rfl⟩ := watching_of_answers noFork answered
  exact ⟨later, rfl, tells.append notAsking notCollecting watched⟩

end Parenthood

namespace Runner

open Parenthood

/-- The code of a command tells what became of the child that ran it. -/
def TellsOfChild (events : List Event) (state : Parenthood)
    (result : Except RunError Int) : Prop :=
  ∀ code, result = .ok code →
    ∃ process collected, HasTold process ⟨code, collected⟩ events state

/-- The wait for a command tells what became of it. -/
theorem ensures_awaitCommand
    {handle : Handle}
    {before : Parenthood}
    (isProcess : 0 < handle.process)
    (notCollected : handle.collected = false)
    (awaits : before.Awaits handle.process)
    (history : List Event) :
    (do
      let (answer, handle) ← handle.waitFor Program.patience
      handle.drop
      pure (answer.mapError RunError.wait) : Program (Except RunError Int)).Ensures free
      TellsOfChild history before := by
  rw [Program.ensures_bind, Handle.waitFor, notCollected]
  dsimp only
  rw [Program.ensures_bind]
  refine (awaits.ensures_waitFor (Int.ne_of_gt isProcess) _ history).mono ?_
  rintro history state _ ⟨⟨code, collected⟩, rfl, hasTold⟩
  dsimp only [Program.pure_eq_done, Program.ensures_done]
  rw [Program.ensures_bind]
  refine (ensures_hasTold (Handle.completes_drop _).makes hasTold).mono ?_
  rintro later after _ hasTold _ ⟨rfl⟩
  exact ⟨handle.process, collected, hasTold⟩

theorem ensures_finishCommand
    {handle : Handle}
    {before : Parenthood}
    (isProcess : 0 < handle.process)
    (notCollected : handle.collected = false)
    (awaits : before.Awaits handle.process)
    (options : RunOptions)
    (history : List Event) :
    (finishCommand handle options).Ensures free TellsOfChild history before := by
  unfold finishCommand
  cases options.timeout? with
  | none => exact ensures_awaitCommand isProcess notCollected awaits history
  | some timeout =>
      have enforces := makes_enforceTimeout handle timeout options.killAfter
      refine awaits.ensures_bind enforces fun history state enforced awaits => ?_
      rcases enforced with cause | ⟨⟩
      · refine ensures_bind_anything _ (fun history state _ => ?_) history state
        exact nofun
      · exact ensures_awaitCommand isProcess notCollected awaits history

theorem ensures_runCommand
    (environment : Environment)
    (command : List String)
    (options : RunOptions)
    (paths : PerStream (Option Bytes))
    (history : List Event)
    (state : Parenthood) :
    (runCommand environment command options paths).Ensures free TellsOfChild history
      state := by
  refine ensures_bind_anything _ (fun history state files => ?_) history state
  rcases files with cause | files
  · exact nofun
  cases command with
  | nil =>
      refine ensures_bind_anything _ (fun history state _ => ?_) history state
      exact nofun
  | cons name arguments =>
      dsimp only
      rw [Program.ensures_bind]
      refine (ensures_start _ _ _ history state).mono ?_
      intro history state started givesOut
      rcases started with cause | handle
      · refine ensures_bind_anything _ (fun history state _ => ?_) history state
        exact nofun
      · obtain ⟨isProcess, notCollected, awaits⟩ := givesOut handle rfl
        have closes : (closeFiles files).Makes leavesChildren :=
          (Descriptors.completes_closeEach (fun _ => by trivial) _).makes
        refine awaits.ensures_bind closes fun history state _ awaits => ?_
        exact ensures_finishCommand isProcess notCollected awaits options history

/-- A shell with the caller's own streams is started with one pipe, for its report. -/
theorem exists_runs_start (limit : Duration) :
    ∃ events, Runs Parenthood.Answers
      ((launchOf "/bin/sh" ["-c", "kill -STOP $$"]
        { timeout? := some limit, killAfter := limit } ⟨none, none, none⟩).start
          Program.patience ⟨[]⟩)
      .childless events
      (.done (.ok { process := 7, streams := ⟨none, none, none⟩ }))
      (.parent 7 .running) := by
  have pipes : Parenthood.Answers .childless .pipe (.ok (3, 4)) .childless :=
    ⟨trivial, rfl⟩
  have asksLimit : Parenthood.Answers .childless .descriptorLimit (1024 : Int) .childless :=
    ⟨trivial, rfl⟩
  have forks : Parenthood.Answers .childless .fork (.ok (.parent 7))
      (.parent 7 .running) := ⟨by decide, rfl⟩
  have closes : ∀ number, Parenthood.Answers (.parent 7 .running) (.close number) (.ok ())
      (.parent 7 .running) := fun _ => ⟨_, ⟨_, .refl, rfl⟩, rfl⟩
  have reads : Parenthood.Answers (.parent 7 .running) (.read 3 4) (.ok [])
      (.parent 7 .running) := ⟨_, ⟨_, .refl, rfl⟩, rfl⟩
  have logs : ∀ record, Parenthood.Answers (.parent 7 .running) (.log record) ()
      (.parent 7 .running) := fun _ => ⟨_, ⟨_, .refl, rfl⟩, rfl⟩
  -- One round is enough, and the rest of them is not looked at.
  obtain ⟨rounds, isPatience⟩ : ∃ rounds, Program.patience = rounds + 1 :=
    ⟨99999999, rfl⟩
  rw [isPatience]
  exact ⟨_, .call pipes <| .call asksLimit <| .call forks <| .call (closes 4) <|
    .call reads <| .call (closes 3) <| .call (logs _) <| .stop _ _⟩

/-- Once such a shell has been started, its limit is enforced and it is waited for. -/
theorem exists_runs_runCommand
    {limit : Duration}
    {enforced last : Life}
    {code : Int} :
    let handle : Handle := { process := 7, streams := ⟨none, none, none⟩ }
    (∃ events, Runs Parenthood.Answers (enforceTimeout handle limit limit)
      (.parent 7 .running) events (.done (.ok ())) (.parent 7 enforced)) →
    (∃ events, Runs Parenthood.Answers
      (do
        let (answer, handle) ← handle.waitFor Program.patience
        handle.drop
        pure (answer.mapError RunError.wait))
      (.parent 7 enforced) events (.done (.ok code)) (.parent 7 last)) →
    ∃ events, Runs Parenthood.Answers
      (runCommand ⟨[]⟩ ["/bin/sh", "-c", "kill -STOP $$"]
        { timeout? := some limit, killAfter := limit } ⟨none, none, none⟩)
      .childless events (.done (.ok code)) (.parent 7 last) := by
  rintro handle ⟨first, enforces⟩ ⟨second, waits⟩
  obtain ⟨before, starts⟩ := exists_runs_start limit
  have finishes : Runs Parenthood.Answers
      (finishCommand handle { timeout? := some limit, killAfter := limit })
      (.parent 7 .running) (first ++ second) (.done (.ok code)) (.parent 7 last) := by
    unfold finishCommand
    exact enforces.bind waits
  exact ⟨_, starts.bind finishes⟩

/-- Looks that have come to a result come to it with more rounds as well. -/
theorem runs_exitsBefore_of_le
    {σ : Type}
    {answers : System σ}
    {handle : Handle}
    {deadline rounds more : Nat}
    {state after : σ}
    {events : List Event}
    {result : Except RunError Bool}
    (enough : rounds ≤ more)
    (runs : Runs answers (exitsBefore handle deadline rounds) state events (.done result)
      after) :
    Runs answers (exitsBefore handle deadline more) state events (.done result) after := by
  induction rounds generalizing more state events with
  | zero => cases runs
  | succ rounds inductionHypothesis =>
      obtain ⟨more, rfl⟩ := Nat.exists_eq_add_of_lt enough
      rw [exitsBefore] at runs ⊢
      obtain ⟨first, second, looked, between, rfl, looks, goesOn⟩ := runs.of_bind_done
      refine looks.bind ?_
      rcases looked with cause | (_ | _)
      · exact goesOn
      · cases goesOn with
        | @call _ _ _ next _ now _ _ answered rest =>
            refine .call answered ?_
            change Runs answers (if deadline ≤ now then _ else _) _ _ _ _ at rest
            change Runs answers (if deadline ≤ now then _ else _) _ _ _ _
            split at rest
            · rw [if_pos ‹_›]
              exact rest
            · rw [if_neg ‹_›]
              cases rest with
              | call slept rest =>
                  exact .call slept (inductionHypothesis (by omega) rest)
      · exact goesOn

/-- A limit that the clock can reach is one for the looks at the command. -/
theorem runs_exitsWithin
    {σ : Type}
    {answers : System σ}
    {handle : Handle}
    {limit : Duration}
    {state next after : σ}
    {now : Nat}
    {events : List Event}
    {result : Except RunError Bool}
    (inTime : ¬clockBound * nanosPerSecond ≤ now + limit.nanoseconds)
    (answered : answers state .clock now next)
    (runs : Runs answers
      (exitsBefore handle (now + limit.nanoseconds) Program.patience) next events
        (.done result) after) :
    Runs answers (exitsWithin handle limit) state (⟨.clock, now⟩ :: events) (.done result)
      after := by
  refine .call answered ?_
  change Runs answers (if clockBound * nanosPerSecond ≤ now + limit.nanoseconds
    then Program.log .debug none _ >>= fun _ => pure (.ok true)
    else exitsBefore handle (now + limit.nanoseconds) _) _ _ _ _
  rw [if_neg inTime]
  exact runs_exitsBefore_of_le (Nat.le_add_left _ _) runs

/-- Whatever a command does and however often it is looked at and signalled, a code that
is answered is that of its end, and then it has been collected, or that of the last stop
that was seen, and then it has not.  A command that is not seen stopped has come to its
end. -/
theorem code_tells_of_runs_runCommand
    {environment : Environment}
    {command : List String}
    {options : RunOptions}
    {paths : PerStream (Option Bytes)}
    {before after : Parenthood}
    {events : List Event}
    {code : Int}
    (runs : Runs Parenthood.Answers (runCommand environment command options paths) before
      events (.done (.ok code)) after) :
    ∃ process life, after = .parent process life ∧
      ((∃ ending, life = .collected ending ∧ code = ending.code) ∨
        (life.IsUncollected ∧
          ∃ signal, code = SignalNumber.code signal ∧
            IsLastReport process events (signal.stopReport process))) ∧
      ((∀ signal, ⟨.childReport process, .ok (SignalNumber.stopReport signal process)⟩
          ∉ events) →
        ∃ ending, life = .collected ending ∧ code = ending.code) := by
  obtain ⟨process, collected, life, rfl, tells⟩ :=
    (ensures_runCommand environment command options paths [] before).of_runs runs code rfl
  refine ⟨process, life, rfl, ?_, fun noStop => ?_⟩
  · cases tells with
    | collected ending => exact .inl ⟨ending, rfl, rfl⟩
    | stopped uncollected signal shown => exact .inr ⟨uncollected, signal, rfl, shown⟩
  · cases tells with
    | collected ending => exact ⟨ending, rfl, rfl⟩
    | stopped uncollected signal shown => exact absurd shown.mem (noStop signal)

/-- The same command, when it is not quick enough: it is asked to end at its limit. -/
theorem code_tells_of_runs_runCommand_of_timeout :
    let termination : SignalNumber := ⟨15, by decide, by decide⟩
    let options : RunOptions :=
      { timeout? := some (.ofMilliseconds 2000), killAfter := .ofMilliseconds 2000 }
    let life : Life := .collected (.killed termination false)
    ∃ events,
      Runs Parenthood.Answers
        (runCommand ⟨[]⟩ ["/bin/sh", "-c", "kill -STOP $$"] options ⟨none, none, none⟩)
        .childless events (.done (.ok 143)) (.parent 7 life) ∧
      ((∃ ending, life = .collected ending ∧ 143 = ending.code) ∨
        (life.IsUncollected ∧
          ∃ signal, 143 = SignalNumber.code signal ∧
            IsLastReport 7 events (signal.stopReport 7))) := by
  intro termination options life
  let handle : Handle := { process := 7, streams := ⟨none, none, none⟩ }
  have logs : ∀ life record, Parenthood.Answers (.parent 7 life) (.log record) ()
      (.parent 7 life) := fun _ _ => ⟨_, ⟨_, .refl, rfl⟩, rfl⟩
  have asksTime : ∀ now : Nat, Parenthood.Answers (.parent 7 .running) .clock now
      (.parent 7 .running) := fun _ => ⟨_, ⟨_, .refl, rfl⟩, rfl⟩
  have showsNothing : Parenthood.Answers (.parent 7 .running) (.childReport 7)
      (.ok .empty) (.parent 7 .running) := ⟨_, ⟨_, .refl, fun _ => rfl, rfl⟩, rfl⟩
  have asks : Parenthood.Answers (.parent 7 .running) (.signal 7 15) (.ok ())
      (.parent 7 .running) := ⟨_, ⟨_, .refl, rfl⟩, rfl⟩
  have dies : Relation.ReflTransGen Life.Moves .running
      (.ended (.killed termination false)) := .single (.kill termination false)
  have showsEnd : Parenthood.Answers (.parent 7 .running) (.childReport 7)
      (.ok ((Ending.killed termination false).report 7))
      (.parent 7 (.ended (.killed termination false))) :=
    ⟨_, ⟨_, dies, fun _ => rfl, rfl⟩, rfl⟩
  have showsAgain : Parenthood.Answers (.parent 7 (.ended (.killed termination false)))
      (.childReport 7) (.ok ((Ending.killed termination false).report 7))
      (.parent 7 (.ended (.killed termination false))) :=
    ⟨_, ⟨_, .refl, fun _ => rfl, rfl⟩, rfl⟩
  have collects : Parenthood.Answers (.parent 7 (.ended (.killed termination false)))
      (.collect 7 .immediately) (.ok (7, .ofKill 15)) (.parent 7 life) :=
    ⟨_, ⟨_, .refl, rfl, rfl, rfl⟩, rfl⟩
  obtain ⟨rounds, isPatience⟩ : ∃ rounds, Program.patience = rounds + 1 :=
    ⟨99999999, rfl⟩
  have looksInVain : ∃ events, Runs Parenthood.Answers
      (exitsBefore handle (0 + (Duration.ofMilliseconds 2000).nanoseconds) Program.patience)
      (.parent 7 .running) events (.done (.ok false)) (.parent 7 .running) := by
    rw [isPatience, exitsBefore, isPatience]
    exact ⟨_, .call showsNothing <| .call (asksTime 3000000000) <| .stop _ _⟩
  have looks : ∃ events, Runs Parenthood.Answers
      (exitsBefore handle (0 + (Duration.ofMilliseconds 2000).nanoseconds) Program.patience)
      (.parent 7 .running) events (.done (.ok true))
      (.parent 7 (.ended (.killed termination false))) := by
    rw [isPatience, exitsBefore, isPatience]
    exact ⟨_, .call showsEnd <| .stop _ _⟩
  have waits : ∃ events, Runs Parenthood.Answers
      (do
        let (answer, handle) ← handle.waitFor Program.patience
        handle.drop
        pure (answer.mapError RunError.wait))
      (.parent 7 (.ended (.killed termination false))) events (.done (.ok 143))
      (.parent 7 life) := by
    rw [isPatience]
    exact ⟨_, .call showsAgain <| .call collects <| .call (logs _ _) <| .stop _ _⟩
  obtain ⟨first, looksInVain⟩ := looksInVain
  obtain ⟨second, looks⟩ := looks
  have isLate := runs_exitsWithin (by decide) (asksTime 0) looksInVain
  have exits := runs_exitsWithin (by decide) (asksTime 0) looks
  have enforces : ∃ events, Runs Parenthood.Answers
      (enforceTimeout handle (.ofMilliseconds 2000) (.ofMilliseconds 2000))
      (.parent 7 .running) events (.done (.ok ()))
      (.parent 7 (.ended (.killed termination false))) := by
    unfold enforceTimeout
    exact ⟨_, isLate.bind <| .call (logs _ _) <| .call (logs _ _) <| .call asks <|
      exits.bind (.stop _ _)⟩
  obtain ⟨events, runs⟩ := exists_runs_runCommand enforces waits
  obtain ⟨process, life, same, tells, -⟩ := code_tells_of_runs_runCommand runs
  cases same
  exact ⟨_, runs, tells⟩

/-- Not every command of which a code is answered has come to its end: this one stops
itself within its time limit, is taken for one that has exited, and is left stopped. -/
theorem exists_stopped_of_runs_runCommand :
    let stop : SignalNumber := ⟨19, by decide, by decide⟩
    let options : RunOptions :=
      { timeout? := some (.ofMilliseconds 2000), killAfter := .ofMilliseconds 2000 }
    ∃ events,
      Runs Parenthood.Answers
        (runCommand ⟨[]⟩ ["/bin/sh", "-c", "kill -STOP $$"] options ⟨none, none, none⟩)
        .childless events (.done (.ok 147)) (.parent 7 (.stopped stop true)) ∧
      ¬∃ process ending, Parenthood.parent 7 (.stopped stop true) =
        .parent process (.collected ending) := by
  intro stop options
  let handle : Handle := { process := 7, streams := ⟨none, none, none⟩ }
  have logs : ∀ life record, Parenthood.Answers (.parent 7 life) (.log record) ()
      (.parent 7 life) := fun _ _ => ⟨_, ⟨_, .refl, rfl⟩, rfl⟩
  have asksTime : Parenthood.Answers (.parent 7 .running) .clock (0 : Nat)
      (.parent 7 .running) := ⟨_, ⟨_, .refl, rfl⟩, rfl⟩
  have showsStop : Parenthood.Answers (.parent 7 .running) (.childReport 7)
      (.ok (stop.stopReport 7)) (.parent 7 (.stopped stop false)) :=
    ⟨_, ⟨_, .single (.stop stop), fun _ => rfl, rfl⟩, rfl⟩
  have showsAgain : Parenthood.Answers (.parent 7 (.stopped stop false)) (.childReport 7)
      (.ok (stop.stopReport 7)) (.parent 7 (.stopped stop false)) :=
    ⟨_, ⟨_, .refl, fun _ => rfl, rfl⟩, rfl⟩
  have notes : Parenthood.Answers (.parent 7 (.stopped stop false))
      (.collect 7 .immediately) (.ok (7, .ofStop 19)) (.parent 7 (.stopped stop true)) :=
    ⟨_, ⟨_, .refl, rfl, rfl, rfl, rfl⟩, rfl⟩
  -- One round is enough everywhere, and the rest of them is not looked at.
  obtain ⟨rounds, isPatience⟩ : ∃ rounds, Program.patience = rounds + 1 :=
    ⟨99999999, rfl⟩
  have looks : ∃ events, Runs Parenthood.Answers
      (exitsBefore handle (0 + (Duration.ofMilliseconds 2000).nanoseconds) Program.patience)
      (.parent 7 .running) events (.done (.ok true)) (.parent 7 (.stopped stop false)) := by
    rw [isPatience, exitsBefore, isPatience]
    exact ⟨_, .call showsStop <| .stop _ _⟩
  have waits : ∃ events, Runs Parenthood.Answers
      (do
        let (answer, handle) ← handle.waitFor Program.patience
        handle.drop
        pure (answer.mapError RunError.wait))
      (.parent 7 (.stopped stop false)) events (.done (.ok 147))
      (.parent 7 (.stopped stop true)) := by
    rw [isPatience]
    exact ⟨_, .call showsAgain <| .call notes <| .call (logs _ _) <| .call (logs _ _) <|
      .stop _ _⟩
  obtain ⟨shown, looks⟩ := looks
  have exits := runs_exitsWithin (by decide) asksTime looks
  have enforces : ∃ events, Runs Parenthood.Answers
      (enforceTimeout handle (.ofMilliseconds 2000) (.ofMilliseconds 2000))
      (.parent 7 .running) events (.done (.ok ())) (.parent 7 (.stopped stop false)) := by
    unfold enforceTimeout
    exact ⟨_, exits.bind (.stop _ _)⟩
  obtain ⟨events, runs⟩ := exists_runs_runCommand enforces waits
  refine ⟨events, runs, ?_⟩
  rintro ⟨process, ending, same⟩
  cases same

end Runner
end ChildProcess
