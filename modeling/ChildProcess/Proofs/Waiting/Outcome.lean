import ChildProcess.Proofs.Waiting.Calls
import ChildProcess.Proofs.Waiting.Life

/-!
# What waiting for a child yields

The state of a child is seen first and collected later, and the child may change in
between.  Seeing it gives a code that the child has for good if it has ended, and that
of a stop otherwise; collecting it gives the code of its end, or nothing as long as
there is none.  So whatever the child does meanwhile, an outcome that counts as collected
has the code of the end, and any other one the code of the last stop that was seen.
-/

namespace ChildProcess

open Program (perform)

/-- A report is the last one about a process among some events. -/
def IsLastReport (process : ProcessId) (events : List Event) (report : ChildReport) :
    Prop :=
  ∃ earlier later, events = earlier ++ ⟨.childReport process, .ok report⟩ :: later ∧
    ∀ event ∈ later, event.1 ≠ .childReport process

/-- Calls that ask for no report leave the last one as it is. -/
theorem IsLastReport.append
    {process : ProcessId}
    {history events : List Event}
    {report : ChildReport}
    (isLast : IsLastReport process history report)
    (others : ∀ event ∈ events, event.1 ≠ .childReport process) :
    IsLastReport process (history ++ events) report := by
  obtain ⟨earlier, later, rfl, none⟩ := isLast
  refine ⟨earlier, later ++ events, by simp, fun event isThere => ?_⟩
  rcases List.mem_append.mp isThere with isThere | isThere
  · exact none event isThere
  · exact others event isThere

theorem IsLastReport.mem
    {process : ProcessId}
    {events : List Event}
    {report : ChildReport}
    (isLast : IsLastReport process events report) :
    ⟨.childReport process, .ok report⟩ ∈ events := by
  obtain ⟨earlier, later, rfl, -⟩ := isLast
  simp

namespace Life

/-- A child that is watched may do what it likes between the calls of its parent. -/
def watched (process : ProcessId) : Setting Life where
  answers := watching process

/-- The code of what was seen of a child is for good, or that of a stop. -/
inductive IsSeen (process : ProcessId) (events : List Event) : Life → Int → Prop
  | ended (ending : Ending) : IsSeen process events (.ended ending) ending.code
  | stopped {life : Life}
      (uncollected : life.IsUncollected)
      (signal : SignalNumber)
      (shown : IsLastReport process events (signal.stopReport process)) :
      IsSeen process events life signal.code

variable {process : ProcessId} {life : Life}

/-- A child that has not been collected can be asked for. -/
theorem Shows.eq_ok_or_interrupted
    {answer : Except Errno ChildReport}
    (shows : life.Shows process answer)
    (uncollected : life.IsUncollected) :
    (∃ report, answer = .ok report) ∨ answer = .error Errno.EINTR := by
  rcases answer with errno | report
  · cases life with
    | collected ending => exact uncollected.elim
    | running | stopped | ended => exact .inr (congrArg Except.error shows)
  · exact .inl ⟨report, rfl⟩

/-- A report says nothing, or its code is that of what was seen. -/
theorem isSeen_of_shows
    {events : List Event}
    {report : ChildReport}
    {code : Int}
    (isProcess : process ≠ 0)
    (shows : life.Shows process (.ok report))
    (isLast : IsLastReport process events report)
    (hasCode : report.status.exitCode? = some code) :
    life.IsSeen process events code := by
  cases life with
  | running =>
      have silent : report.process = 0 := shows
      simp [ChildReport.status, silent, ChildStatus.exitCode?] at hasCode
  | stopped signal noted =>
      cases noted with
      | true =>
          have silent : report.process = 0 := shows
          simp [ChildReport.status, silent, ChildStatus.exitCode?] at hasCode
      | false =>
          obtain rfl : report = signal.stopReport process := shows
          rw [signal.exitCode?_status isProcess] at hasCode
          obtain rfl : signal.code = code := Option.some.inj hasCode
          exact .stopped (by trivial) signal isLast
  | ended ending =>
      obtain rfl : report = ending.report process := shows
      rw [ending.exitCode?_status isProcess] at hasCode
      obtain rfl : ending.code = code := Option.some.inj hasCode
      exact .ended ending
  | collected ending => cases shows

theorem IsSeen.isUncollected
    {events : List Event}
    {code : Int}
    (isSeen : life.IsSeen process events code) :
    life.IsUncollected := by
  cases isSeen with
  | ended => trivial
  | stopped uncollected => exact uncollected

/-- Collecting a child that is there fails with nothing but an interruption. -/
theorem Yields.of_error
    {mode : CollectMode}
    {errno : Errno}
    {after : Life}
    (yields : life.Yields process mode (.error errno) after)
    (uncollected : life.IsUncollected) :
    errno = Errno.EINTR ∧ after = life := by
  cases life with
  | collected ending => exact uncollected.elim
  | running | stopped | ended => exact yields

/-- Collecting yields the end of the child, or news from which no final code is read. -/
theorem Yields.of_ok
    {mode : CollectMode}
    {child : ProcessId}
    {word : StatusWord}
    {after : Life}
    (yields : life.Yields process mode (.ok (child, word)) after) :
    (∃ ending, after = .collected ending ∧ child = process ∧ word = ending.word) ∨
      after.IsUncollected ∧ (child = 0 ∨ word.finalCode? = none) ∧
        ∀ ending, life ≠ .ended ending := by
  cases life with
  | running =>
      obtain ⟨-, silent, rfl⟩ := yields
      exact .inr ⟨by trivial, .inl silent, nofun⟩
  | stopped signal noted =>
      cases noted with
      | true =>
          obtain ⟨-, silent, rfl⟩ := yields
          exact .inr ⟨by trivial, .inl silent, nofun⟩
      | false =>
          obtain ⟨-, -, rfl, rfl⟩ := yields
          exact .inr ⟨by trivial, .inr signal.finalCode?_ofStop, nofun⟩
  | ended ending =>
      obtain ⟨rfl, rfl, rfl⟩ := yields
      exact .inl ⟨ending, rfl, rfl, rfl⟩
  | collected ending => cases yields.1

/-- A call that does not collect a child leaves it uncollected. -/
theorem IsUncollected.of_other
    {request : Call}
    {answer : request.Answer}
    {after : Life}
    (uncollected : life.IsUncollected)
    (other : ∀ mode, request ≠ .collect process mode)
    (answered : watching process life request answer after) :
    after.IsUncollected := by
  obtain ⟨meanwhile, moves, answered⟩ := answered
  rw [eq_of_answers other answered]
  exact uncollected.of_moves moves

end Life

namespace Wait

variable {process : ProcessId} {before : Life}

/-- A poll shows the child as it is. -/
theorem ensures_poll
    (rounds : Nat)
    (history : List Event)
    (uncollected : before.IsUncollected) :
    (poll rounds process).Ensures (Life.watched process)
      (fun later after answer =>
        after.IsUncollected ∧
          ∃ report, answer = .ok report.status ∧ IsLastReport process later report ∧
            after.Shows process (.ok report))
      history before := by
  rw [poll, Program.ensures_bind]
  refine Program.ensures_retrying (fun _ state => state.IsUncollected) trivial ?_ rounds
    uncollected
  intro history state uncollected
  refine ⟨trivial, ?_⟩
  rintro answer after ⟨_, moves, answered, rfl⟩
  have stillThere : after.IsUncollected := uncollected.of_moves moves
  refine ⟨fun _ => stillThere, fun noInterruption => ⟨stillThere, ?_⟩⟩
  rcases (answered rfl).eq_ok_or_interrupted stillThere with ⟨report, rfl⟩ | interrupted
  · exact ⟨report, rfl, ⟨history, [], rfl, by simp⟩, answered rfl⟩
  · exact absurd interrupted noInterruption

theorem ne_collect_of_watches
    {request : Call}
    (watching : watches process request)
    (mode : CollectMode) :
    request ≠ .collect process mode := by
  rintro rfl
  exact watching

/-- While time passes, the child is not collected. -/
theorem ensures_rest
    (polls : Nat)
    (history : List Event)
    (uncollected : before.IsUncollected) :
    (rest polls).Ensures (Life.watched process) (fun _ after _ => after.IsUncollected)
      history before := by
  refine (makes_rest process polls).ensures
    (fun _ (state : Life) => state.IsUncollected) trivial ?_ ?_ uncollected
  · intros
    trivial
  · intro _ _ _ _ _ uncollected watching answered
    exact uncollected.of_other (ne_collect_of_watches watching) answered

/-- Asking for a child again and again ends with a code of what was seen. -/
theorem ensures_awaitCode
    (isProcess : process ≠ 0)
    (rounds more polls : Nat)
    (history : List Event)
    (uncollected : before.IsUncollected) :
    (awaitCode rounds process more polls).Ensures (Life.watched process)
      (fun later after answer =>
        ∃ code, answer = .ok (some code) ∧ after.IsSeen process later code)
      history before := by
  induction more generalizing polls history before with
  | zero => trivial
  | succ more inductionHypothesis =>
      rw [awaitCode, Program.ensures_bind]
      refine (ensures_poll rounds history uncollected).mono ?_
      rintro later after _ ⟨stillThere, report, rfl, isLast, shows⟩
      dsimp only
      cases hasCode : report.status.exitCode? with
      | some code =>
          exact ⟨code, rfl, Life.isSeen_of_shows isProcess shows isLast hasCode⟩
      | none =>
          dsimp only
          rw [Program.ensures_bind]
          refine (ensures_rest (polls + 1) later stillThere).mono ?_
          intro later after _ stillThere
          exact inductionHypothesis (polls + 1) later stillThere

/-- Collecting a child yields its end, or news from which no final code is read as long
as it has not ended. -/
theorem ensures_collectOnce
    (rounds : Nat)
    (history : List Event)
    (uncollected : before.IsUncollected) :
    (Program.retrying (perform (.collect process .immediately)) rounds).Ensures
      (Life.watched process)
      (fun _ after answer =>
        ∃ child word, answer = .ok (child, word) ∧
          ((∃ ending, after = .collected ending ∧ child = process ∧
              word = ending.word) ∨
            after.IsUncollected ∧ (child = 0 ∨ word.finalCode? = none) ∧
              ∀ ending, before ≠ .ended ending))
      history before := by
  -- Until an answer comes, the child is not collected, and an end it had is still there.
  refine Program.ensures_retrying
    (fun _ state =>
      state.IsUncollected ∧ ∀ ending, before = .ended ending → state = .ended ending)
    trivial ?_ rounds ⟨uncollected, fun _ same => same⟩
  rintro history state ⟨uncollected, keepsEnd⟩
  refine ⟨trivial, ?_⟩
  rintro answer next ⟨meanwhile, moves, answered⟩
  have yields : meanwhile.Yields process .immediately answer next := by
    simpa [Life.Answers] using answered
  have stillThere : meanwhile.IsUncollected := uncollected.of_moves moves
  have keepsEnd : ∀ ending, before = .ended ending → meanwhile = .ended ending := by
    intro ending isEnded
    rw [keepsEnd ending isEnded] at moves
    exact Life.eq_of_moves_ended moves
  rcases answer with errno | ⟨child, word⟩
  · obtain ⟨interrupted, rfl⟩ := yields.of_error stillThere
    exact ⟨fun _ => ⟨stillThere, keepsEnd⟩,
      fun noInterruption => absurd (congrArg Except.error interrupted) noInterruption⟩
  · refine ⟨?_, fun _ => ⟨child, word, rfl, ?_⟩⟩
    · rintro ⟨⟩
    rcases yields.of_ok with hasEnded | ⟨still, nothing, notEnded⟩
    · exact .inl hasEnded
    · exact .inr ⟨still, nothing,
        fun ending isEnded => notEnded ending (keepsEnd ending isEnded)⟩

/-- Collecting a child yields the code of its end, or nothing as long as it has not
ended. -/
theorem ensures_collect
    (isProcess : process ≠ 0)
    (rounds : Nat)
    (seen : Int)
    (history : List Event)
    (uncollected : before.IsUncollected) :
    (collect rounds process seen).Ensures (Life.watched process)
      (fun _ after final? =>
        (∃ ending, after = .collected ending ∧ final? = some ending.code) ∨
          after.IsUncollected ∧ final? = none ∧ ∀ ending, before ≠ .ended ending)
      history before := by
  rw [collect, Program.ensures_bind]
  refine (ensures_collectOnce rounds history uncollected).mono ?_
  rintro _ after _ ⟨child, word, rfl, outcome⟩
  rcases outcome with ⟨ending, rfl, rfl, rfl⟩ | ⟨still, nothing, notEnded⟩
  · refine .inl ⟨ending, rfl, ?_⟩
    rw [if_neg isProcess, ending.finalCode?_word]
  · refine .inr ⟨still, ?_, notEnded⟩
    rcases nothing with rfl | noCode
    · rw [if_pos rfl]
    · rw [noCode, ite_self]

/-- An outcome that counts as collected has the code of the end, and any other one the
code of the last stop that was seen. -/
inductive Outcome.Tells (process : ProcessId) (events : List Event) :
    Outcome → Life → Prop
  | collected (ending : Ending) :
      Tells process events ⟨ending.code, true⟩ (.collected ending)
  | stopped {after : Life}
      (uncollected : after.IsUncollected)
      (signal : SignalNumber)
      (shown : IsLastReport process events (signal.stopReport process)) :
      Tells process events ⟨signal.code, false⟩ after

/-- What an outcome tells stays true while the child is left alone. -/
theorem Outcome.Tells.append
    {events : List Event}
    {outcome : Outcome}
    {after : Life}
    {request : Call}
    {answer : request.Answer}
    (tells : outcome.Tells process events before)
    (notAsking : request ≠ .childReport process)
    (notCollecting : ∀ mode, request ≠ .collect process mode)
    (watched : Life.watching process before request answer after) :
    outcome.Tells process (events ++ [⟨request, answer⟩]) after := by
  cases tells with
  | collected ending =>
      obtain ⟨meanwhile, moves, answered⟩ := watched
      rw [Life.eq_of_answers notCollecting answered, Life.eq_of_moves_collected moves]
      exact .collected ending
  | stopped uncollected signal shown =>
      refine .stopped (uncollected.of_other notCollecting watched) signal (shown.append ?_)
      simpa using notAsking

/-- Waiting for a child that has not been collected does not fail, and its outcome tells
what became of the child. -/
theorem ensures_waitFor
    (isProcess : process ≠ 0)
    (rounds : Nat)
    (history : List Event)
    (uncollected : before.IsUncollected) :
    (waitFor rounds process).Ensures (Life.watched process)
      (fun later after answer =>
        ∃ outcome, answer = .ok outcome ∧ outcome.Tells process later after)
      history before := by
  rw [waitFor, Program.ensures_bind]
  refine (ensures_awaitCode isProcess rounds rounds 0 history uncollected).mono ?_
  rintro later state _ ⟨seen, rfl, isSeen⟩
  dsimp only
  rw [Program.ensures_bind]
  refine (ensures_collect isProcess rounds seen later isSeen.isUncollected).mono_runs ?_
  rintro events after final? runs outcome
  have noReports : ∀ event ∈ events, event.1 ≠ .childReport process := by
    intro event isMember isReport
    have collecting := ((makes_collect rounds process seen).of_runs runs).1 event isMember
    rw [isReport] at collecting
    exact collecting
  have tells : Outcome.Tells process (later ++ events)
      ⟨final?.getD seen, final?.isSome⟩ after := by
    rcases outcome with ⟨ending, rfl, rfl⟩ | ⟨still, rfl, notEnded⟩
    · exact .collected ending
    · cases isSeen with
      | ended ending => exact absurd rfl (notEnded ending)
      | stopped _ signal shown => exact .stopped still signal (shown.append noReports)
  refine ⟨trivial, fun _ final watched => ⟨_, rfl, ?_⟩⟩
  exact tells.append (by exact nofun) (by exact fun _ => nofun) watched

end Wait
end ChildProcess
