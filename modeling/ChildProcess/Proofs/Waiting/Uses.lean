import ChildProcess.Proofs.Waiting.Outcome
import ChildProcess.Session.Stranger
import Mathlib.Data.List.Forall2

/-!
# Handles that are used again and again

A handle knows whether its child has been collected.  Before that, each wait tells of a
stop, until one of them tells of the end and collects the child.  After that, the code of
the end is remembered, and no use makes a call.
-/

namespace ChildProcess

open Program (Runs)
open Session (HandleUse HandleAnswer)

namespace Handle

/-- Use a handle once. -/
def use (rounds : Nat) (handle : Handle) : HandleUse → Program (HandleAnswer × Handle)
  | .id => pure (.id handle.process, handle)
  | .wait => do
      match ← handle.waitFor rounds with
      | (.ok code, handle) => pure (.code code, handle)
      | (.error cause, handle) => pure (.failed cause, handle)
  | .exited => do
      match ← handle.hasExited rounds with
      | .ok value => pure (.flag value, handle)
      | .error cause => pure (.failed cause, handle)
  | .interrupt force => do
      match ← handle.interrupt force with
      | .ok () => pure (.done, handle)
      | .error cause => pure (.failed cause, handle)

/-- Use a handle several times. -/
def useMany (rounds : Nat) (handle : Handle) :
    List HandleUse → Program (List HandleAnswer × Handle)
  | [] => pure ([], handle)
  | use :: uses => do
      let (answer, handle) ← handle.use rounds use
      let (answers, handle) ← handle.useMany rounds uses
      pure (answer :: answers, handle)

/-! ## Before the child has been collected -/

/-- What a use is answered as long as the child has not been collected: a wait tells of
a stop that was seen. -/
inductive IsEarlyAnswer (process : ProcessId) (events : List Event) :
    HandleUse → HandleAnswer → Prop
  | id : IsEarlyAnswer process events .id (.id process)
  | wait (signal : SignalNumber)
      (shown : ⟨.childReport process, .ok (signal.stopReport process)⟩ ∈ events) :
      IsEarlyAnswer process events .wait (.code signal.code)
  | exited (report : ChildReport)
      (shown : ⟨.childReport process, .ok report⟩ ∈ events) :
      IsEarlyAnswer process events .exited (.flag report.status.isTerminal)
  | interrupted (force : Bool) : IsEarlyAnswer process events (.interrupt force) .done
  | notInterrupted (force : Bool) :
      IsEarlyAnswer process events (.interrupt force) (.failed (.signal process))

theorem IsEarlyAnswer.mono
    {process : ProcessId}
    {events more : List Event}
    {use : HandleUse}
    {answer : HandleAnswer}
    (early : IsEarlyAnswer process events use answer)
    (fewer : events ⊆ more) :
    IsEarlyAnswer process more use answer := by
  cases early with
  | id => exact .id
  | wait signal shown => exact .wait signal (fewer shown)
  | exited report shown => exact .exited report (fewer shown)
  | interrupted force => exact .interrupted force
  | notInterrupted force => exact .notInterrupted force

/-! ## After the child has been collected -/

/-- What a use is answered from a code that is remembered. -/
def rememberedAnswer (process : ProcessId) (code : Int) : HandleUse → HandleAnswer
  | .id => .id process
  | .wait => .code code
  | .exited => .flag true
  | .interrupt _ => .done

/-- No use makes a call once the child has been collected and its code is known. -/
theorem use_eq_of_collected
    {handle : Handle}
    {code : Int}
    (isCollected : handle.collected = true)
    (hasCode : handle.exitCode? = some code)
    (rounds : Nat)
    (use : HandleUse) :
    handle.use rounds use = pure (rememberedAnswer handle.process code use, handle) := by
  cases use <;>
    simp [Handle.use, waitFor, hasExited, interrupt, isCollected, hasCode, rememberedAnswer]

/-- The handle knows how its child has ended. -/
def IsSettled (handle : Handle) (ending : Ending) : Prop :=
  handle.collected = true ∧ handle.exitCode? = some ending.code

/-- What a use is answered once the child has been collected. -/
def settledAnswer (process : ProcessId) (ending : Ending) : HandleUse → HandleAnswer
  | .id => .id process
  | .wait => .code ending.code
  | .exited => .flag true
  | .interrupt _ => .done

variable {handle : Handle} {ending : Ending}

/-- No call is made once the child has been collected. -/
theorem IsSettled.use_eq
    (settled : handle.IsSettled ending)
    (rounds : Nat)
    (use : HandleUse) :
    handle.use rounds use = pure (settledAnswer handle.process ending use, handle) := by
  rw [use_eq_of_collected settled.1 settled.2]
  cases use <;> rfl

theorem IsSettled.useMany_eq
    (settled : handle.IsSettled ending)
    (rounds : Nat)
    (uses : List HandleUse) :
    handle.useMany rounds uses =
      pure (uses.map (settledAnswer handle.process ending), handle) := by
  induction uses with
  | nil => rfl
  | cons use uses inductionHypothesis =>
      rw [useMany, settled.use_eq]
      simp [inductionHypothesis]

/-! ## The use that collects the child -/

variable {process : ProcessId} {before : Life}

/-- A use of a handle whose child has not been collected is answered early, or it is a
wait that collects the child. -/
theorem ensures_use
    (isProcess : process ≠ 0)
    (isHandle : handle.process = process)
    (notCollected : handle.collected = false)
    (uncollected : before.IsUncollected)
    (rounds : Nat)
    (use : HandleUse)
    (history : List Event) :
    (handle.use rounds use).Ensures (Life.watched process)
      (fun later after result =>
        result.2.process = process ∧
          ((after.IsUncollected ∧ result.2.collected = false ∧
              IsEarlyAnswer process later use result.1) ∨
            ∃ ending, use = .wait ∧ result.1 = .code ending.code ∧
              result.2.IsSettled ending ∧ after = .collected ending))
      history before := by
  subst isHandle
  cases use with
  | id => exact ⟨rfl, .inl ⟨uncollected, notCollected, .id⟩⟩
  | wait =>
      rw [Handle.use, Program.ensures_bind, waitFor, notCollected]
      dsimp only
      rw [Program.ensures_bind]
      refine (Wait.ensures_waitFor isProcess rounds history uncollected).mono ?_
      rintro later after _ ⟨outcome, rfl, tells⟩
      cases tells with
      | collected ending => exact ⟨rfl, .inr ⟨ending, rfl, rfl, ⟨rfl, rfl⟩, rfl⟩⟩
      | stopped stillThere signal shown =>
          exact ⟨rfl, .inl ⟨stillThere, rfl, .wait signal shown.mem⟩⟩
  | exited =>
      rw [Handle.use, Program.ensures_bind, hasExited, notCollected, if_neg nofun,
        Wait.hasExited, Program.ensures_bind]
      refine (Wait.ensures_poll rounds history uncollected).mono ?_
      rintro later after _ ⟨stillThere, report, rfl, shown, -⟩
      exact ⟨rfl, .inl ⟨stillThere, notCollected, .exited report shown.mem⟩⟩
  | interrupt force =>
      rw [Handle.use, Program.ensures_bind, interrupt, notCollected, if_neg nofun,
        Program.log]
      refine ⟨trivial, ?_⟩
      rintro _ next ⟨_, moves, rfl⟩
      refine ⟨trivial, ?_⟩
      rintro (errno | ⟨⟩) after ⟨_, goesOn, rfl⟩
      · exact ⟨rfl, .inl ⟨(uncollected.of_moves moves).of_moves goesOn, notCollected,
          .notInterrupted force⟩⟩
      · exact ⟨rfl, .inl ⟨(uncollected.of_moves moves).of_moves goesOn, notCollected,
          .interrupted force⟩⟩

/-! ## A sequence of uses -/

/-- What becomes of a sequence of uses: all are answered early, or those before the wait
that collects the child are.  The events are then those up to that wait, and what comes
after it is answered from what is known. -/
inductive Unfolds (process : ProcessId) (rounds : Nat) (handle : Handle) (before : Life)
    (events : List Event) : List HandleUse → List HandleAnswer → Life → Prop
  | early {uses : List HandleUse} {answers : List HandleAnswer} {after : Life}
      (uncollected : after.IsUncollected)
      (early : List.Forall₂ (IsEarlyAnswer process events) uses answers) :
      Unfolds process rounds handle before events uses answers after
  | settled {earlier later : List HandleUse} {answers : List HandleAnswer}
      (ending : Ending) (last : Handle)
      (early : List.Forall₂ (IsEarlyAnswer process events) earlier answers)
      (runs : Runs (Life.watching process) (handle.useMany rounds (earlier ++ [.wait]))
        before events (.done (answers ++ [.code ending.code], last))
        (.collected ending)) :
      Unfolds process rounds handle before events (earlier ++ .wait :: later)
        (answers ++ .code ending.code :: later.map (settledAnswer process ending))
        (.collected ending)

theorem forall₂_isEarlyAnswer_mono
    {events more : List Event}
    {uses : List HandleUse}
    {answers : List HandleAnswer}
    (early : List.Forall₂ (IsEarlyAnswer process events) uses answers)
    (fewer : events ⊆ more) :
    List.Forall₂ (IsEarlyAnswer process more) uses answers :=
  early.imp fun _ _ early => early.mono fewer

/-- An early answer in front of a sequence of uses. -/
theorem Unfolds.cons
    {rounds : Nat}
    {use : HandleUse}
    {uses : List HandleUse}
    {answer : HandleAnswer}
    {answers : List HandleAnswer}
    {first second : List Event}
    {next : Handle}
    {between after : Life}
    (early : IsEarlyAnswer process first use answer)
    (runs : Runs (Life.watching process) (handle.use rounds use) before first
      (.done (answer, next)) between)
    (unfolds : Unfolds process rounds next between second uses answers after) :
    Unfolds process rounds handle before (first ++ second) (use :: uses)
      (answer :: answers) after := by
  have fewer : first ⊆ first ++ second := List.subset_append_left first second
  have fewerLater : second ⊆ first ++ second := List.subset_append_right first second
  cases unfolds with
  | early uncollected earlyLater =>
      exact .early uncollected
        (.cons (early.mono fewer) (forall₂_isEarlyAnswer_mono earlyLater fewerLater))
  | settled ending last earlyLater goesOn =>
      show Unfolds process rounds handle before _ ((use :: _) ++ .wait :: _)
        ((answer :: _) ++ .code ending.code :: _) _
      refine .settled ending last
        (.cons (early.mono fewer) (forall₂_isEarlyAnswer_mono earlyLater fewerLater)) ?_
      rw [List.cons_append, useMany]
      refine runs.bind ?_
      simpa using goesOn.bind (.stop _ _)

/-- Whatever the child does, a sequence of uses unfolds, and the child is collected at
most once, with the code of its end. -/
theorem unfolds_of_runs_useMany
    {rounds : Nat}
    {uses : List HandleUse}
    {answers : List HandleAnswer}
    {events : List Event}
    {last : Handle}
    {after : Life}
    (isProcess : process ≠ 0)
    (isHandle : handle.process = process)
    (notCollected : handle.collected = false)
    (uncollected : before.IsUncollected)
    (runs : Runs (Life.watching process) (handle.useMany rounds uses) before events
      (.done (answers, last)) after) :
    Unfolds process rounds handle before events uses answers after := by
  induction uses generalizing handle before events answers with
  | nil =>
      cases runs
      exact .early uncollected .nil
  | cons use uses inductionHypothesis =>
      rw [useMany] at runs
      obtain ⟨first, second, ⟨answer, next⟩, between, rfl, usesOnce, goesOn⟩ :=
        runs.of_bind_done
      obtain ⟨third, fourth, ⟨answers, last⟩, final, rfl, usesMore, stops⟩ :=
        goesOn.of_bind_done
      cases stops
      rw [List.append_nil]
      have outcome := (ensures_use isProcess isHandle notCollected uncollected rounds use
        []).of_runs usesOnce
      rcases outcome with
        ⟨isNext, ⟨stillThere, notYet, early⟩ | ⟨ending, rfl, same, settled, rfl⟩⟩
      · exact .cons early usesOnce (inductionHypothesis isNext notYet stillThere usesMore)
      · rw [settled.useMany_eq, isNext] at usesMore
        cases usesMore
        obtain rfl : answer = .code ending.code := same
        refine .settled ending next .nil ?_
        rw [List.nil_append, useMany]
        exact usesOnce.bind (.stop _ _)

/-- Whatever the child does between the calls of its parent, waiting for a child that has
not been collected tells of its end if it collects the child, and of the last stop that
was seen if it does not.  Over any sequence of uses of a handle the child is collected at
most once, and the code of its end is the answer of the wait that collects it and of
every later one. -/
theorem outcome_and_answers_of_runs
    {process : ProcessId}
    {before : Life}
    (positive : 0 < process)
    (uncollected : before.IsUncollected) :
    (∀ {rounds : Nat} {events : List Event} {answer : Except LaunchError Wait.Outcome}
        {after : Life},
      Runs (Life.watching process) (Wait.waitFor rounds process) before events
          (.done answer) after →
        ∃ outcome, answer = .ok outcome ∧ outcome.Tells process events after ∧
          collectedCodes process events = after.codes) ∧
      ∀ {rounds : Nat} {handle last : Handle} {uses : List HandleUse}
        {events : List Event} {answers : List HandleAnswer} {after : Life},
        handle.process = process → handle.collected = false →
          Runs (Life.watching process) (handle.useMany rounds uses) before events
              (.done (answers, last)) after →
            Unfolds process rounds handle before events uses answers after ∧
              collectedCodes process events = after.codes := by
  have isProcess : process ≠ 0 := Int.ne_of_gt positive
  have collects : ∀ {α : Type} {program left : Program α} {events : List Event}
      {after : Life},
      Runs (Life.watching process) program before events left after →
        collectedCodes process events = after.codes := by
    intro α program left events after runs
    have codes := Life.codes_of_runs isProcess runs
    rwa [Life.codes_eq_nil uncollected, List.nil_append] at codes
  refine ⟨fun runs => ?_, fun isHandle notCollected runs => ⟨?_, collects runs⟩⟩
  · obtain ⟨outcome, isOk, tells⟩ :=
      (Wait.ensures_waitFor isProcess _ [] uncollected).of_runs runs
    exact ⟨outcome, isOk, tells, collects runs⟩
  · exact unfolds_of_runs_useMany isProcess isHandle notCollected uncollected runs

/-- A child is seen stopped and killed before it can be collected; asked twice, its
handle remembers the code of the end. -/
theorem outcome_and_answers_of_runs_with_late_kill :
    let stop : SignalNumber := ⟨19, by decide, by decide⟩
    let kill : SignalNumber := ⟨9, by decide, by decide⟩
    let collected : Life := .collected (.killed kill false)
    let handle : Handle := { process := 7, streams := ⟨none, none, none⟩ }
    0 < (7 : ProcessId) ∧ Life.running.IsUncollected ∧
      (∃ events,
        Runs (Life.watching 7) (Wait.waitFor 2 7) .running events
            (.done (.ok ⟨137, true⟩)) collected ∧
          ⟨.childReport 7, .ok (stop.stopReport 7)⟩ ∈ events ∧
          Wait.Outcome.Tells 7 events ⟨137, true⟩ collected ∧
          collectedCodes 7 events = [137]) ∧
      ∃ events last,
        Runs (Life.watching 7) (handle.useMany 2 [.wait, .exited, .wait, .wait]) .running
            events (.done ([.code 147, .flag false, .code 137, .code 137], last))
            collected ∧
          Unfolds 7 2 handle .running events [.wait, .exited, .wait, .wait]
            [.code 147, .flag false, .code 137, .code 137] collected ∧
          collectedCodes 7 events = [137] := by
  intro stop kill collected handle
  -- Until the stop is seen, and from then until it is collected.
  have stops : Relation.ReflTransGen Life.Moves .running (.stopped stop false) :=
    .single (.stop stop)
  have showsStop : Life.watching 7 .running (.childReport 7) (.ok (stop.stopReport 7))
      (.stopped stop false) := ⟨_, stops, fun _ => rfl, rfl⟩
  have dies : Relation.ReflTransGen Life.Moves (.stopped stop false)
      (.ended (.killed kill false)) := .single (.killStopped stop false kill false)
  have collects : Life.watching 7 (.stopped stop false) (.collect 7 .immediately)
      (.ok (7, .ofKill 9)) collected := ⟨_, dies, rfl, rfl, rfl⟩
  have noted : Life.watching 7 (.stopped stop false) (.collect 7 .immediately)
      (.ok (7, .ofStop 19)) (.stopped stop true) := ⟨_, .refl, rfl, rfl, rfl, rfl⟩
  -- It goes on, and ends by a signal.
  have goesOn : Relation.ReflTransGen Life.Moves (.stopped stop true) .running :=
    .single (.goOn stop true)
  have showsNothing : Life.watching 7 (.stopped stop true) (.childReport 7)
      (.ok .empty) .running := ⟨_, goesOn, fun _ => rfl, rfl⟩
  have isKilled : Relation.ReflTransGen Life.Moves .running (.ended (.killed kill false)) :=
    .single (.kill kill false)
  have showsKill : Life.watching 7 .running (.childReport 7)
      (.ok ((Ending.killed kill false).report 7)) (.ended (.killed kill false)) :=
    ⟨_, isKilled, fun _ => rfl, rfl⟩
  have collectsKilled : Life.watching 7 (.ended (.killed kill false))
      (.collect 7 .immediately) (.ok (7, .ofKill 9)) collected :=
    ⟨_, .refl, rfl, rfl, rfl⟩
  have logs : ∀ life record, Life.watching 7 life (.log record) () life :=
    fun life record => ⟨life, .refl, rfl⟩
  have waits : ∃ events,
      Runs (Life.watching 7) (Wait.waitFor 2 7) .running events
          (.done (.ok ⟨137, true⟩)) collected ∧
        ⟨.childReport 7, .ok (stop.stopReport 7)⟩ ∈ events :=
    ⟨_, .call showsStop <| .call collects <| .call (logs _ _) <| .stop _ _,
      List.mem_cons_self⟩
  have isUsed : ∃ events last,
      Runs (Life.watching 7) (handle.useMany 2 [.wait, .exited, .wait, .wait]) .running
        events (.done ([.code 147, .flag false, .code 137, .code 137], last)) collected :=
    ⟨_, _, .call showsStop <| .call noted <| .call (logs _ _) <| .call showsNothing <|
      .call showsKill <| .call collectsKilled <| .call (logs _ _) <| .stop _ _⟩
  obtain ⟨events, waits, shown⟩ := waits
  obtain ⟨more, last, isUsed⟩ := isUsed
  have positive : 0 < (7 : ProcessId) := by decide
  have uncollected : Life.running.IsUncollected := trivial
  obtain ⟨outcomes, answers⟩ := outcome_and_answers_of_runs positive uncollected
  obtain ⟨_, same, tells, codes⟩ := outcomes waits
  cases same
  exact ⟨positive, uncollected, ⟨events, waits, shown, tells, codes⟩, more, last, isUsed,
    answers rfl rfl isUsed⟩

end Handle
end ChildProcess
