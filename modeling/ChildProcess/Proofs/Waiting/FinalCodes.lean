import ChildProcess.Proofs.Waiting.Looks

/-!
# The code of a child that was collected by anybody

A child may be collected by its wait, by somebody else, or by the operating system.  A
wait that comes too late is told so, by its poll or when it collects the child, and what
it returns then rests on what it was shown before: the end of the child, which is for
good, or a stop, which says nothing about the end that has come behind it.

Calls about the child may fail for any reason, but only a child that is gone is said to
be missing.
-/

namespace ChildProcess

open Program (Runs perform)

namespace Life

/-- What a call of the parent may be answered, and the child afterwards.  A call about
the child fails, or it is answered truly; that the child is missing is always true. -/
def AnswersOrFails (process : ProcessId) : System Life := fun before request answer after =>
  match request, answer with
  | .childReport child, answer =>
      (child = process →
        (∃ errno, errno ≠ Errno.ECHILD ∧ answer = .error errno) ∨
          before.Shows process answer) ∧
        after = before
  | .collect child mode, answer =>
      if child = process then
        (∃ errno, errno ≠ Errno.ECHILD ∧ answer = .error errno ∧ after = before) ∨
          before.Yields process mode answer after
      else after = before
  | _, _ => after = before

/-- Between any two calls, whatever can become of the child may do so, and anybody may
collect it. -/
def contested (process : ProcessId) : System Life := fun before request answer after =>
  ∃ meanwhile, Relation.ReflTransGen Fares before meanwhile ∧
    AnswersOrFails process meanwhile request answer after

variable {process : ProcessId} {before after : Life}

/-- Collecting does nothing with a child that could not become of it otherwise. -/
theorem Yields.fares
    {mode : CollectMode}
    {answer : Except Errno (ProcessId × StatusWord)}
    (yields : before.Yields process mode answer after) :
    Relation.ReflTransGen Fares before after := by
  have unchanged (same : after = before) : Relation.ReflTransGen Fares before after :=
    same ▸ .refl
  cases before with
  | collected ending => exact unchanged yields.2
  | running =>
      rcases answer with errno | ⟨child, word⟩
      · exact unchanged yields.2
      · exact unchanged yields.2.2
  | stopped signal noted =>
      rcases answer with errno | ⟨child, word⟩
      · exact unchanged yields.2
      cases noted with
      | true => exact unchanged yields.2.2
      | false =>
          obtain ⟨-, -, -, rfl⟩ := yields
          exact .single (.note signal)
  | ended ending =>
      rcases answer with errno | ⟨child, word⟩
      · exact unchanged yields.2
      · obtain ⟨-, -, rfl⟩ := yields
        exact .single (.collect ending)

/-- Collecting fails for an interruption, or since the child is gone. -/
theorem Yields.eq_of_error
    {mode : CollectMode}
    {errno : Errno}
    (yields : before.Yields process mode (.error errno) after) :
    errno = Errno.EINTR ∨
      errno = Errno.ECHILD ∧ ∃ ending, after = .collected ending := by
  cases before with
  | collected ending => exact .inr ⟨Except.error.inj yields.1, ending, yields.2⟩
  | running | stopped | ended => exact .inl yields.1

/-- Whatever a call is answered, the child is one that it could become anyway. -/
theorem fares_of_contested
    {request : Call}
    {answer : request.Answer}
    (answered : contested process before request answer after) :
    Relation.ReflTransGen Fares before after := by
  obtain ⟨meanwhile, fares, answered⟩ := answered
  cases request with
  | childReport child =>
      obtain ⟨-, rfl⟩ := answered
      exact fares
  | collect child mode =>
      unfold AnswersOrFails at answered
      dsimp only at answered
      split at answered
      · rcases answered with ⟨errno, -, -, rfl⟩ | yields
        · exact fares
        · exact fares.trans yields.fares
      · exact answered ▸ fares
  | _ =>
      obtain rfl : after = meanwhile := answered
      exact fares

/-- A child that has ended can only be collected. -/
theorem eq_of_fares_ended
    {ending : Ending}
    (fares : Relation.ReflTransGen Fares (.ended ending) after) :
    after = .ended ending ∨ after = .collected ending := by
  induction fares with
  | refl => exact .inl rfl
  | tail _ step inductionHypothesis =>
      rcases inductionHypothesis with rfl | rfl
      · cases step with
        | move moves => cases moves
        | release moves => cases moves
        | collect => exact .inr rfl
      · exact .inr (eq_of_fares_collected (.single step))

end Life

namespace Wait

variable {process : ProcessId} {before : Life}

/-- A poll shows the child as it is, or finds it gone, or fails otherwise. -/
theorem ensures_poll_contested
    (rounds : Nat)
    (history : List Event) :
    (poll rounds process).Ensures { answers := Life.contested process }
      (fun later after answer =>
        (∃ report, answer = .ok report.status ∧ IsLastReport process later report ∧
          after.Shows process (.ok report)) ∨
        (answer = .error Errno.ECHILD ∧
          ⟨.childReport process, .error Errno.ECHILD⟩ ∈ later ∧
          ∃ ending, after = .collected ending) ∨
        ∃ errno, errno ≠ Errno.ECHILD ∧ answer = .error errno)
      history before := by
  rw [poll, Program.ensures_bind]
  refine Program.ensures_retrying (fun _ _ => True) trivial ?_ rounds trivial
  rintro history state -
  refine ⟨trivial, ?_⟩
  rintro answer after ⟨_, -, answered, rfl⟩
  refine ⟨fun _ => trivial, fun noInterruption => ?_⟩
  rcases answered rfl with ⟨errno, isOther, rfl⟩ | shows
  · exact .inr (.inr ⟨errno, isOther, rfl⟩)
  rcases answer with errno | report
  · obtain rfl | ⟨rfl, isGone⟩ := shows.of_error
    · exact absurd rfl noInterruption
    · exact .inr (.inl ⟨rfl, by simp, isGone⟩)
  · exact .inl ⟨report, rfl, ⟨history, [], rfl, by simp⟩, shows⟩

/-- The code of the last report about a child: of its end, or of a stop, behind which
the child may have become anything. -/
inductive IsShown (process : ProcessId) (events : List Event) : Life → Int → Prop
  | ended (ending : Ending)
      (shown : IsLastReport process events (ending.report process)) :
      IsShown process events (.ended ending) ending.code
  | stopped (life : Life) (signal : SignalNumber)
      (shown : IsLastReport process events (signal.stopReport process)) :
      IsShown process events life signal.code

/-- What asking for a child again and again may come to. -/
inductive Finds (process : ProcessId) (events : List Event) :
    Life → Except LaunchError (Option Int) → Prop
  | shown {life : Life} {code : Int} (isShown : IsShown process events life code) :
      Finds process events life (.ok (some code))
  | gone (ending : Ending)
      (missing : ⟨.childReport process, .error Errno.ECHILD⟩ ∈ events) :
      Finds process events (.collected ending) (.ok none)
  | failed {life : Life} (cause : LaunchError) : Finds process events life (.error cause)

theorem isShown_of_shows
    {life : Life}
    {events : List Event}
    {report : ChildReport}
    {code : Int}
    (isProcess : process ≠ 0)
    (shows : life.Shows process (.ok report))
    (isLast : IsLastReport process events report)
    (hasCode : report.status.exitCode? = some code) :
    IsShown process events life code := by
  cases Life.isSeen_of_shows isProcess shows isLast hasCode with
  | ended ending =>
      obtain rfl : report = ending.report process := shows
      exact .ended ending isLast
  | stopped _ signal shown => exact .stopped life signal shown

theorem ensures_awaitCode_contested
    (isProcess : process ≠ 0)
    (rounds more polls : Nat)
    (history : List Event) :
    (awaitCode rounds process more polls).Ensures { answers := Life.contested process }
      (Finds process) history before := by
  induction more generalizing polls history before with
  | zero => trivial
  | succ more inductionHypothesis =>
      rw [awaitCode, Program.ensures_bind]
      refine (ensures_poll_contested rounds history).mono ?_
      rintro later after _
        (⟨report, rfl, isLast, shows⟩ | ⟨rfl, missing, ending, rfl⟩ | ⟨errno, isOther, rfl⟩)
      case inl =>
        dsimp only
        cases hasCode : report.status.exitCode? with
        | some code => exact .shown (isShown_of_shows isProcess shows isLast hasCode)
        | none =>
            dsimp only
            rw [Program.ensures_bind]
            refine (Program.ensures_anything trivial (fun _ _ _ => trivial)
              (rest (polls + 1)) later after).mono ?_
            intro later after _ _
            exact inductionHypothesis (polls + 1) later
      case inr.inl =>
        refine ⟨trivial, ?_⟩
        intro _ final answered
        obtain rfl := Life.eq_of_fares_collected (Life.fares_of_contested answered)
        exact .gone ending (List.mem_append_left _ missing)
      case inr.inr =>
        dsimp only
        rw [if_neg isOther]
        exact .failed (.poll errno)

/-- How a wait comes to a final code when it collects a child. -/
inductive Collects (process : ProcessId) (seen : Int) (events : List Event)
    (ending : Ending) : Int → Prop
  /-- The child is handed over with its end. -/
  | itself
      (word : ⟨.collect process .immediately, .ok (process, ending.word)⟩ ∈ events) :
      Collects process seen events ending ending.code
  /-- The child is gone, and the code is the one that was seen. -/
  | tooLate
      (missing : ⟨.collect process .immediately, .error Errno.ECHILD⟩ ∈ events) :
      Collects process seen events ending seen

/-- A final code belongs to a child that has been collected by now. -/
theorem ensures_collect_contested
    (isProcess : process ≠ 0)
    (rounds : Nat)
    (seen : Int)
    (history : List Event) :
    (collect rounds process seen).Ensures { answers := Life.contested process }
      (fun later after final? =>
        ∀ code, final? = some code →
          Relation.ReflTransGen Life.Fares before after ∧
            ∃ ending, after = .collected ending ∧
              Collects process seen later ending code)
      history before := by
  rw [collect, Program.ensures_bind]
  refine Program.ensures_retrying
    (fun _ state => Relation.ReflTransGen Life.Fares before state) trivial ?_ rounds .refl
  intro history state reached
  refine ⟨trivial, ?_⟩
  intro answer after answered
  have reached := reached.trans (Life.fares_of_contested answered)
  refine ⟨fun _ => reached, fun noInterruption => ?_⟩
  obtain ⟨meanwhile, -, answered⟩ := answered
  simp only [Life.AnswersOrFails, if_pos] at answered
  rcases answered with ⟨errno, isOther, rfl, -⟩ | yields
  · dsimp only
    rw [if_neg isOther]
    refine ⟨trivial, fun _ _ _ => ?_⟩
    rintro _ ⟨⟩
  rcases answer with errno | ⟨child, word⟩
  · obtain rfl | ⟨rfl, ending, rfl⟩ := yields.eq_of_error
    · exact absurd rfl noInterruption
    · rintro _ ⟨⟩
      exact ⟨reached, ending, rfl, .tooLate (by simp)⟩
  · rcases yields.of_ok with ⟨ending, rfl, rfl, rfl⟩ | ⟨-, nothing, -⟩
    · intro code isCode
      rw [if_neg isProcess, ending.finalCode?_word] at isCode
      cases isCode
      exact ⟨reached, ending, rfl, .itself (by simp)⟩
    · intro code isCode
      rcases nothing with rfl | noCode
      · rw [if_pos rfl] at isCode
        cases isCode
      · rw [noCode, ite_self] at isCode
        cases isCode

/-- What the code of an outcome tells about the end of a child that has been
collected. -/
inductive Outcome.TellsEnd (process : ProcessId) (events : List Event)
    (ending : Ending) : Int → Prop
  /-- The wait has collected the child, and the code is that of its end. -/
  | collected
      (word : ⟨.collect process .immediately, .ok (process, ending.word)⟩ ∈ events) :
      TellsEnd process events ending ending.code
  /-- The end was shown before somebody else collected the child. -/
  | shown
      (report : IsLastReport process events (ending.report process))
      (missing : ⟨.collect process .immediately, .error Errno.ECHILD⟩ ∈ events) :
      TellsEnd process events ending ending.code
  /-- The child was gone before its end was shown. -/
  | lost
      (missing : ⟨.childReport process, .error Errno.ECHILD⟩ ∈ events) :
      TellsEnd process events ending 0
  /-- A stop was shown, and then the child ended and somebody else collected it. -/
  | stale
      (signal : SignalNumber)
      (report : IsLastReport process events (signal.stopReport process))
      (missing : ⟨.collect process .immediately, .error Errno.ECHILD⟩ ∈ events) :
      TellsEnd process events ending signal.code

/-- What a code tells about the end is not changed by calls that ask for nothing. -/
theorem Outcome.TellsEnd.append
    {events more : List Event}
    {ending : Ending}
    {code : Int}
    (tells : TellsEnd process events ending code)
    (others : ∀ event ∈ more, event.1 ≠ .childReport process) :
    TellsEnd process (events ++ more) ending code := by
  cases tells with
  | collected word => exact .collected (List.mem_append_left _ word)
  | shown report missing =>
      exact .shown (report.append others) (List.mem_append_left _ missing)
  | lost missing => exact .lost (List.mem_append_left _ missing)
  | stale signal report missing =>
      exact .stale signal (report.append others) (List.mem_append_left _ missing)

/-- Collecting a child after a report yields a code that tells about its end. -/
theorem tellsEnd_of_collects
    {events more : List Event}
    {seen code : Int}
    {ending : Ending}
    (isShown : IsShown process events before seen)
    (reached : Relation.ReflTransGen Life.Fares before (.collected ending))
    (collects : Collects process seen (events ++ more) ending code)
    (others : ∀ event ∈ more, event.1 ≠ .childReport process) :
    Outcome.TellsEnd process (events ++ more) ending code := by
  cases collects with
  | itself word => exact .collected word
  | tooLate missing =>
      cases isShown with
      | stopped _ signal shown => exact .stale signal (shown.append others) missing
      | ended earlier shown =>
          obtain same | same := Life.eq_of_fares_ended reached
          · cases same
          · cases same
            exact .shown (shown.append others) missing

/-- With an outcome that counts as collected the child is gone, and the code tells about
its end. -/
theorem ensures_waitFor_contested
    (isProcess : process ≠ 0)
    (rounds : Nat)
    (history : List Event) :
    (waitFor rounds process).Ensures { answers := Life.contested process }
      (fun later after answer =>
        ∀ outcome, answer = .ok outcome → outcome.collected = true →
          ∃ ending, after = .collected ending ∧
            Outcome.TellsEnd process later ending outcome.code)
      history before := by
  rw [waitFor, Program.ensures_bind]
  refine (ensures_awaitCode_contested isProcess rounds rounds 0 history).mono ?_
  rintro later state _ (isShown | ⟨ending, missing⟩ | cause)
  case failed => rintro _ ⟨⟩
  case gone =>
    rintro _ ⟨⟩ -
    exact ⟨ending, rfl, .lost missing⟩
  case shown seen =>
    dsimp only
    rw [Program.ensures_bind]
    refine (ensures_collect_contested isProcess rounds seen later).mono_runs ?_
    intro events after final? runs tellsCode
    have noReports : ∀ event ∈ events, event.1 ≠ .childReport process := by
      intro event isMember isReport
      have collecting := ((makes_collect rounds process seen).of_runs runs).1 event isMember
      rw [isReport] at collecting
      exact collecting
    refine ⟨trivial, ?_⟩
    rintro _ final answered _ ⟨⟩ isCollected
    obtain ⟨code, rfl⟩ := Option.isSome_iff_exists.mp isCollected
    obtain ⟨reached, ending, rfl, collects⟩ := tellsCode code rfl
    obtain rfl := Life.eq_of_fares_collected (Life.fares_of_contested answered)
    refine ⟨ending, rfl, ?_⟩
    exact (tellsEnd_of_collects isShown reached collects noReports).append (by simp)

/-- Whoever collects the child, an outcome that counts as collected has the code of its
end, or zero where nothing was seen of it; but the code of a stop, if the child was last
seen stopped and is gone when it is collected. -/
theorem tellsEnd_of_runs_waitFor
    {rounds : Nat}
    {events : List Event}
    {outcome : Outcome}
    {after : Life}
    (isProcess : process ≠ 0)
    (runs : Runs (Life.contested process) (waitFor rounds process) before events
      (.done (.ok outcome)) after)
    (isCollected : outcome.collected = true) :
    ∃ ending, after = .collected ending ∧
      Outcome.TellsEnd process events ending outcome.code :=
  (ensures_waitFor_contested isProcess rounds []).of_runs runs outcome rfl isCollected

/-- The child exits, and is collected by somebody else between the poll that shows it
and the call that is to collect it. -/
theorem tellsEnd_of_runs_waitFor_with_other_collector :
    let gone : Life := .collected (.exited 3)
    ∃ events,
      Runs (Life.contested 7) (waitFor 2 7) .running events (.done (.ok ⟨3, true⟩)) gone ∧
        ⟨.childReport 7, .error Errno.EINTR⟩ ∈ events ∧
        (7 : ProcessId) ≠ 0 ∧
        ∃ ending, gone = .collected ending ∧ Outcome.TellsEnd 7 events ending 3 := by
  intro gone
  have isInterrupted : Life.contested 7 .running (.childReport 7) (.error Errno.EINTR)
      .running :=
    ⟨_, .refl, fun _ => .inr rfl, rfl⟩
  have shows : Life.contested 7 .running (.childReport 7)
      (.ok ((Ending.exited 3).report 7)) (.ended (.exited 3)) :=
    ⟨_, .single (.move (.exit 3)), fun _ => .inr rfl, rfl⟩
  have isGone : Life.contested 7 (.ended (.exited 3)) (.collect 7 .immediately)
      (.error Errno.ECHILD) gone :=
    ⟨_, .single (.collect (.exited 3)), .inr ⟨rfl, rfl⟩⟩
  have logs : ∀ record, Life.contested 7 gone (.log record) () gone :=
    fun record => ⟨_, .refl, rfl⟩
  have runs : Runs (Life.contested 7) (waitFor 2 7) .running _
      (.done (.ok ⟨3, true⟩)) gone :=
    .call isInterrupted <| .call shows <| .call isGone <| .call (logs _) <| .stop _ _
  have isProcess : (7 : ProcessId) ≠ 0 := by
    decide
  exact ⟨_, runs, List.mem_cons_self, isProcess,
    tellsEnd_of_runs_waitFor isProcess runs rfl⟩

/-- A child is seen stopped, is killed, and is collected by somebody else before its wait
can: the wait takes the code of the stop for that of the end. -/
theorem exists_stale_of_runs_waitFor :
    let stop : SignalNumber := ⟨19, by decide, by decide⟩
    let kill : SignalNumber := ⟨9, by decide, by decide⟩
    let ending : Ending := .killed kill false
    ∃ events,
      Runs (Life.contested 7) (waitFor 1 7) .running events (.done (.ok ⟨stop.code, true⟩))
          (.collected ending) ∧
        stop.code ≠ ending.code ∧ stop.code ≠ 0 := by
  intro stop kill ending
  have shows : Life.contested 7 .running (.childReport 7) (.ok (stop.stopReport 7))
      (.stopped stop false) :=
    ⟨_, .single (.move (.stop stop)), fun _ => .inr rfl, rfl⟩
  have isGone : Life.contested 7 (.stopped stop false) (.collect 7 .immediately)
      (.error Errno.ECHILD) (.collected ending) :=
    ⟨_, .tail (.single (.move (.killStopped stop false kill false))) (.collect ending),
      .inr ⟨rfl, rfl⟩⟩
  have logs : ∀ record, Life.contested 7 (.collected ending) (.log record) ()
      (.collected ending) :=
    fun record => ⟨_, .refl, rfl⟩
  exact ⟨_, .call shows <| .call isGone <| .call (logs _) <| .stop _ _, by decide, by decide⟩

end Wait
end ChildProcess
