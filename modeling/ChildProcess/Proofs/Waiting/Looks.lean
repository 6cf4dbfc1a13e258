import ChildProcess.Proofs.Waiting.RememberedCode

/-!
# Looking at a child

A look tells whether a child does not go on: it has ended, it is gone, or it has been
stopped and nobody has taken note of that.  What it is told depends on how the child's
number is treated by now.  A child that can be asked for is shown as it is; one that
cannot be asked for is gone, which the disposition of the signal about children and the
entry among the processes both agree with.  A look takes nothing away, so a wait behind it
goes as if there had been none.

The operating system fails calls only for an interruption or for want of the child, the
number of a child that is gone is not in use again, and opening a directory is not
interrupted.  Anybody may collect the child.
-/

namespace ChildProcess

open Program (Runs perform)
open Session (HandleUse HandleAnswer)

namespace Life

/-- Whether a child does not go on, and there is something to be told about that. -/
def hasNews : Life → Bool
  | .running => false
  | .stopped _ noted => !noted
  | .ended _ | .collected _ => true

/-- Whether a child has been collected by anybody. -/
def isGone : Life → Bool
  | .collected _ => true
  | _ => false

/-- What becomes of a child that anybody may collect or take note of.  Where the
operating system collects children by itself, one that ends is gone at once. -/
inductive Fares : Life → Life → Prop
  | move {before after : Life} (moves : Moves before after) : Fares before after
  | release {before : Life} {ending : Ending} (moves : Moves before (.ended ending)) :
      Fares before (.collected ending)
  | collect (ending : Ending) : Fares (.ended ending) (.collected ending)
  | note (signal : SignalNumber) : Fares (.stopped signal false) (.stopped signal true)

/-- What a call of the parent may be answered, and the child afterwards.  A signal may
have any disposition, and the entry of the child is missing exactly if it is gone. -/
def AnswersTruly (process : ProcessId) : System Life := fun before request answer after =>
  match request, answer with
  | .childReport child, answer =>
      (child = process → answer = .error Errno.EINTR ∨ before.Shows process answer) ∧
        after = before
  | .collect child mode, answer =>
      if child = process then
        answer = .error Errno.EINTR ∧ after = before ∨
          before.Yields process mode answer after
      else after = before
  | .disposition _, answer => (∃ disposition, answer = .ok disposition) ∧ after = before
  | .openFile path _, answer =>
      (path = Wait.processEntry process →
        if before.isGone then answer = .error Errno.ENOENT
        else ∃ descriptor, answer = .ok descriptor) ∧
        after = before
  | _, _ => after = before

/-- Before a call is answered, the child becomes another one in some way. -/
def answering (becomes : Life → Life → Prop) (process : ProcessId) : System Life :=
  fun before request answer after =>
    ∃ meanwhile, becomes before meanwhile ∧ AnswersTruly process meanwhile request answer after

/-- Between any two calls, whatever can become of the child may do so. -/
def faring (process : ProcessId) : System Life :=
  answering (Relation.ReflTransGen Fares) process

/-- Nothing becomes of the child but what the calls make of it. -/
def still (process : ProcessId) : System Life := answering Eq process

/-! ## What a report tells -/

variable {process : ProcessId} {before after : Life}

/-- A report says that a child does not go on exactly if there is something to be told. -/
theorem isTerminal_eq_hasNews
    {report : ChildReport}
    (isProcess : process ≠ 0)
    (shows : before.Shows process (.ok report)) :
    report.status.isTerminal = before.hasNews := by
  have isTerminal {code : Int} (hasCode : report.status.exitCode? = some code) :
      report.status.isTerminal = true := by
    cases isStatus : report.status <;> simp_all [ChildStatus.exitCode?, ChildStatus.isTerminal]
  have isSilent (silent : report.process = 0) : report.status.isTerminal = false := by
    simp [ChildReport.status, silent, ChildStatus.isTerminal]
  cases before with
  | running => exact isSilent shows
  | stopped signal noted =>
      cases noted with
      | true => exact isSilent shows
      | false =>
          obtain rfl : report = signal.stopReport process := shows
          exact isTerminal (signal.exitCode?_status isProcess)
  | ended ending =>
      obtain rfl : report = ending.report process := shows
      exact isTerminal (ending.exitCode?_status isProcess)
  | collected ending => cases shows

/-- An answer that is no report is an interruption, or the child is gone. -/
theorem Shows.of_error
    {errno : Errno}
    (shows : before.Shows process (.error errno)) :
    errno = Errno.EINTR ∨ errno = Errno.ECHILD ∧ ∃ ending, before = .collected ending := by
  cases before with
  | collected ending => exact .inr ⟨Except.error.inj shows, ending, rfl⟩
  | running | stopped | ended => exact .inl shows

/-- A child that is gone does not come back. -/
theorem eq_of_fares_collected
    {ending : Ending}
    (fares : Relation.ReflTransGen Fares (.collected ending) after) :
    after = .collected ending := by
  induction fares with
  | refl => rfl
  | tail _ fares inductionHypothesis =>
      subst inductionHypothesis
      cases fares with
      | move moves => cases moves
      | release moves => cases moves

/-- A way in which a child becomes another one: it need not, it may in several steps, and
one that is gone stays so. -/
structure IsPassage (becomes : Life → Life → Prop) : Prop where
  refl (life : Life) : becomes life life
  trans {first second third : Life} :
    becomes first second → becomes second third → becomes first third
  gone {ending : Ending} {after : Life} :
    becomes (.collected ending) after → after = .collected ending

theorem isPassage_eq : IsPassage Eq where
  refl _ := rfl
  trans := Eq.trans
  gone := Eq.symm

theorem isPassage_fares : IsPassage (Relation.ReflTransGen Fares) where
  refl _ := .refl
  trans := .trans
  gone := eq_of_fares_collected

end Life

/-! ## Looking -/

namespace Wait

variable {becomes : Life → Life → Prop} {process : ProcessId} {before : Life}

/-- A poll shows the child as it is when the poll is answered. -/
theorem ensures_poll_truly
    (passage : Life.IsPassage becomes)
    (rounds : Nat)
    (history : List Event) :
    (poll rounds process).Ensures { answers := Life.answering becomes process }
      (fun _ after answer =>
        becomes before after ∧ ∃ report, answer = report.map ChildReport.status ∧
          report ≠ .error Errno.EINTR ∧ after.Shows process report)
      history before := by
  rw [poll, Program.ensures_bind]
  refine Program.ensures_retrying (fun _ state => becomes before state) trivial ?_ rounds
    (passage.refl before)
  intro history state reached
  refine ⟨trivial, ?_⟩
  rintro report after ⟨_, becomes, answered, rfl⟩
  have reached := passage.trans reached becomes
  refine ⟨fun _ => reached, fun noInterruption => ⟨reached, report, rfl, noInterruption, ?_⟩⟩
  exact (answered rfl).resolve_left noInterruption

/-- The entry of a child that is gone is missing. -/
theorem ensures_entryExists_of_gone
    {ending : Ending}
    (passage : Life.IsPassage becomes)
    (history : List Event) :
    (entryExists process).Ensures { answers := Life.answering becomes process }
      (fun _ after isThere => after = .collected ending ∧ isThere = false)
      history (.collected ending) := by
  refine ⟨trivial, ?_⟩
  rintro answer after ⟨meanwhile, becomes, answered, rfl⟩
  obtain rfl := passage.gone becomes
  obtain rfl : answer = .error Errno.ENOENT := answered rfl
  exact ⟨rfl, rfl⟩

/-- A look tells what there is to be told about the child as it was when it was asked
for. -/
theorem ensures_hasExited
    (passage : Life.IsPassage becomes)
    (isProcess : process ≠ 0)
    (rounds : Nat)
    (history : List Event) :
    (hasExited rounds process).Ensures { answers := Life.answering becomes process }
      (fun _ after answer =>
        ∃ shown, becomes before shown ∧ becomes shown after ∧ answer = .ok shown.hasNews)
      history before := by
  rw [hasExited, Program.ensures_bind]
  refine (ensures_poll_truly passage rounds history).mono ?_
  rintro later shown _ ⟨reached, report, rfl, noInterruption, shows⟩
  rcases report with errno | report
  case ok =>
    exact ⟨shown, reached, passage.refl shown,
      congrArg Except.ok (Life.isTerminal_eq_hasNews isProcess shows)⟩
  case error =>
    obtain rfl | ⟨rfl, ending, rfl⟩ := shows.of_error
    · exact absurd rfl noInterruption
    have isGone : ∃ shown, becomes before shown ∧ becomes shown (.collected ending) ∧
        (.ok true : Except LaunchError Bool) = .ok shown.hasNews :=
      ⟨.collected ending, reached, passage.refl _, rfl⟩
    refine ⟨trivial, ?_⟩
    rintro _ _ ⟨meanwhile, stays, ⟨disposition, rfl⟩, rfl⟩
    obtain rfl := passage.gone stays
    cases disposition with
    | standard => exact isGone
    | note => exact isGone
    | ignore =>
        show Program.Ensures _ _ (entryExists process >>= _) _ _
        rw [Program.ensures_bind]
        refine (ensures_entryExists_of_gone passage _).mono ?_
        rintro _ _ _ ⟨rfl, rfl⟩
        refine ⟨trivial, ?_⟩
        rintro _ _ ⟨meanwhile, stays, rfl⟩
        obtain rfl := passage.gone stays
        exact isGone

/-! ## Polls and what follows them -/

/-- A poll that a signal has interrupted. -/
def interruptedPoll (process : ProcessId) : Event :=
  ⟨.childReport process, .error Errno.EINTR⟩

/-- An attempt at collecting a child that a signal has interrupted. -/
def interruptedCollect (process : ProcessId) : Event :=
  ⟨.collect process .immediately, .error Errno.EINTR⟩

section Runs

variable {σ β : Type} {answers : System σ} {rounds : Nat} {left : Program β}
  {state after : σ} {events : List Event}

/-- A run that begins with a poll goes on with what it has been answered, after some
interruptions. -/
theorem runs_poll_bind_cases
    {next : Except Errno ChildStatus → Program β}
    (runs : Runs answers (poll rounds process >>= next) state events left after) :
    (∃ count, events = List.replicate count (interruptedPoll process) ∧
        (∀ value, left ≠ .done value) ∧ (left = .exhausted → count = rounds)) ∨
      ∃ count report rest between,
        events = List.replicate count (interruptedPoll process) ++
            ⟨.childReport process, report⟩ :: rest ∧
          report ≠ .error Errno.EINTR ∧
            Runs answers (next (report.map ChildReport.status)) between rest left after := by
  simp only [poll, bind_assoc, pure_bind] at runs
  exact Runs.of_retrying_bind (.childReport process) id (.error Errno.EINTR)
    (fun _ same => same) runs

/-- What a look does about a child that cannot be asked for. -/
def lookElsewhere (process : ProcessId) : Program (Except LaunchError Bool) := do
  match ← perform (.disposition childSignal) with
  | .error errno => pure (.error (.disposition errno))
  | .ok .standard | .ok .note => pure (.ok true)
  | .ok .ignore => do
      let isThere ← entryExists process
      Program.log .debug (some .wait)
        ("pid " ++ toString process
          ++ " not waitable with SIGCHLD ignored; entry exists: "
          ++ toString isThere)
      pure (.ok !isThere)

/-- What a look makes of its poll. -/
def afterPoll (process : ProcessId) :
    Except Errno ChildStatus → Program (Except LaunchError Bool)
  | .ok status => pure (.ok status.isTerminal)
  | .error errno =>
      if errno ≠ Errno.ECHILD then pure (.error (.poll errno)) else lookElsewhere process

theorem hasExited_eq (rounds : Nat) (process : ProcessId) :
    hasExited rounds process = poll rounds process >>= afterPoll process := rfl

theorem completes_lookElsewhere (process : ProcessId) :
    (lookElsewhere process).Completes fun _ => True := by
  have completesEntry : (entryExists process).Completes fun _ => True := by
    refine ⟨trivial, fun answer => ?_⟩
    cases answer with
    | error errno => trivial
    | ok descriptor => exact ⟨trivial, fun _ => trivial⟩
  have completesAsking : (perform (.disposition childSignal)).Completes fun _ => True :=
    ⟨trivial, fun _ => trivial⟩
  refine Program.completes_bind completesAsking fun disposition => ?_
  rcases disposition with errno | (_ | _ | _)
  · trivial
  · trivial
  · exact Program.completes_bind completesEntry fun _ => ⟨trivial, fun _ => trivial⟩
  · trivial

theorem completes_afterPoll (process : ProcessId) (answer : Except Errno ChildStatus) :
    (afterPoll process answer).Completes fun _ => True := by
  rcases answer with errno | status
  · simp only [afterPoll]
    split
    · trivial
    · exact completes_lookElsewhere process
  · trivial

/-- After its poll, a look comes to its end. -/
theorem exhausted_of_runs_hasExited_bind
    {next : Except LaunchError Bool → Program β}
    (completes : ∀ answer, (next answer).Completes fun _ => True)
    (runs : Runs answers (hasExited rounds process >>= next) state events .exhausted after) :
    events = List.replicate rounds (interruptedPoll process) := by
  rw [hasExited_eq, bind_assoc] at runs
  rcases runs_poll_bind_cases runs with
    ⟨count, rfl, -, usesUp⟩ | ⟨count, report, rest, between, rfl, -, goesOn⟩
  · rw [usesUp rfl]
  · exact ((Program.completes_bind (completes_afterPoll process _) completes).of_runs
      goesOn).elim

/-! ## Waiting for a child that does not go on -/

/-- What a wait is left to do once the child has been collected: it comes to its end, and
to a code. -/
structure Finishes (process : ProcessId) (waiting : Program (HandleAnswer × Handle)) :
    Prop where
  completes : waiting.Completes (collects process)
  code : waiting.Results fun result => ∃ code, result.1 = .code code

/-- A wait that knows that the child does not go on collects it, and returns with a code
unless it is interrupted all the time.  It neither asks again nor lets time pass. -/
structure ReturnsAtOnce (process : ProcessId) (rounds : Nat) (events : List Event)
    (waited : Program (HandleAnswer × Handle)) : Prop where
  collects : ∀ event ∈ events, collects process event.1
  code : ∀ result, waited = .done result → ∃ code, result.1 = .code code
  interrupted : waited = .exhausted →
    events = List.replicate rounds (interruptedCollect process)

variable {waiting waited : Program (HandleAnswer × Handle)}

theorem Finishes.bind
    {α : Type}
    {program : Program α}
    {next : α → Program (HandleAnswer × Handle)}
    (completes : program.Completes (Wait.collects process))
    (finishes : ∀ value, Finishes process (next value)) :
    Finishes process (program >>= next) where
  completes := Program.completes_bind completes fun value => (finishes value).completes
  code := Program.results_bind_anything program fun value => (finishes value).code

theorem Finishes.returnsAtOnce
    (finishes : Finishes process waiting)
    (runs : Runs answers waiting state events waited after) :
    ReturnsAtOnce process rounds events waited where
  collects := (finishes.completes.makes.of_runs runs).1
  code result isDone := by
    subst isDone
    exact finishes.code.of_runs runs
  interrupted isExhausted := by
    subst isExhausted
    exact (finishes.completes.of_runs runs).elim

/-- What is made of the answer to an attempt at collecting a child. -/
def afterCollect (process : ProcessId) (seen : Int) :
    Except Errno (ProcessId × StatusWord) → Program (Option Int)
  | .ok (collected, word) => pure (if collected = 0 then none else word.finalCode?)
  | .error errno =>
      if errno = Errno.ECHILD then pure (some seen)
      else do
        Program.log .warn (some .wait)
          ("failed to reap pid " ++ toString process ++ ": " ++ errno.symbolicMessage)
        pure none

theorem collect_eq (rounds : Nat) (process : ProcessId) (seen : Int) :
    collect rounds process seen =
      Program.retrying (perform (.collect process .immediately)) rounds >>=
        afterCollect process seen := rfl

theorem completes_afterCollect
    (seen : Int)
    (answer : Except Errno (ProcessId × StatusWord)) :
    (afterCollect process seen answer).Completes (Wait.collects process) := by
  rcases answer with errno | ⟨collected, word⟩
  · simp only [afterCollect]
    split
    · trivial
    · exact ⟨trivial, fun _ => trivial⟩
  · trivial

/-- Collecting the child comes to its end after some interruptions. -/
theorem returnsAtOnce_of_runs_collect_bind
    {seen : Int}
    {next : Option Int → Program (HandleAnswer × Handle)}
    (finishes : ∀ final?, Finishes process (next final?))
    (runs : Runs answers (collect rounds process seen >>= next) state events waited after) :
    ReturnsAtOnce process rounds events waited := by
  rw [collect_eq, bind_assoc] at runs
  have interruptions (count : Nat) :
      ∀ event ∈ List.replicate count (interruptedCollect process),
        Wait.collects process event.1 := by
    intro event isMember
    rw [List.eq_of_mem_replicate isMember]
    exact ⟨rfl, rfl⟩
  rcases Runs.of_retrying_bind (.collect process .immediately) id (.error Errno.EINTR)
      (fun _ same => same) runs with
    ⟨count, rfl, notDone, usesUp⟩ | ⟨count, answer, rest, between, rfl, -, goesOn⟩
  · refine ⟨interruptions count, fun result isDone => absurd isDone (notDone result), ?_⟩
    intro isExhausted
    rw [usesUp isExhausted]
    rfl
  · have finishesRest :=
      Finishes.bind (completes_afterCollect seen answer) finishes
    obtain ⟨collects, code, -⟩ : ReturnsAtOnce process rounds rest waited :=
      finishesRest.returnsAtOnce goesOn
    refine ⟨?_, code, fun isExhausted => ?_⟩
    · rw [List.forall_mem_append, List.forall_mem_cons]
      exact ⟨interruptions count, ⟨rfl, rfl⟩, collects⟩
    · subst isExhausted
      exact (finishesRest.completes.of_runs goesOn).elim

end Runs

end Wait

namespace Handle

variable {handle : Handle} {rounds : Nat} {before : Life}

/-- How a wait for a child that does not go on is done with one poll: its first poll that
is not interrupted shows the child as it is, and the wait returns at once. -/
inductive NeedsOnePoll (handle : Handle) (rounds : Nat) (before : Life) :
    List Event → Program (HandleAnswer × Handle) → Prop
  | interrupted {waited : Program (HandleAnswer × Handle)}
      (count : Nat)
      (notDone : ∀ result, waited ≠ .done result)
      (usesUp : waited = .exhausted → count = rounds) :
      NeedsOnePoll handle rounds before
        (List.replicate count (Wait.interruptedPoll handle.process)) waited
  | answered {waited : Program (HandleAnswer × Handle)} {rest : List Event}
      (count : Nat)
      (report : Except Errno ChildReport)
      (notInterrupted : report ≠ .error Errno.EINTR)
      (returns : before.Shows handle.process report →
        Wait.ReturnsAtOnce handle.process rounds rest waited) :
      NeedsOnePoll handle rounds before
        (List.replicate count (Wait.interruptedPoll handle.process) ++
          ⟨.childReport handle.process, report⟩ :: rest) waited

theorem needsOnePoll_of_runs
    {σ : Type}
    {answers : System σ}
    {state after : σ}
    {events : List Event}
    {waited : Program (HandleAnswer × Handle)}
    (isProcess : handle.process ≠ 0)
    (notCollected : handle.collected = false)
    (hasNews : before.hasNews = true)
    (runs : Runs answers (handle.use rounds .wait) state events waited after) :
    handle.NeedsOnePoll rounds before events waited := by
  rw [use_wait_eq notCollected, Wait.waitFor] at runs
  cases rounds with
  | zero =>
      simp only [Wait.awaitCode, Program.exhausted_bind] at runs
      cases runs
      exact .interrupted 0 (fun result isDone => by cases isDone) fun _ => rfl
  | succ rounds =>
      simp only [Wait.awaitCode, bind_assoc] at runs
      rcases Wait.runs_poll_bind_cases runs with
        ⟨count, rfl, notDone, usesUp⟩ | ⟨count, report, rest, between, rfl, isLast, goesOn⟩
      · exact .interrupted count notDone usesUp
      refine .answered count report isLast fun shows => ?_
      rcases report with errno | report
      case error =>
        obtain rfl | ⟨rfl, -⟩ := shows.of_error
        · exact absurd rfl isLast
        refine Wait.Finishes.returnsAtOnce ⟨?_, ?_⟩ goesOn
        · exact ⟨trivial, fun _ => trivial⟩
        · exact fun _ => ⟨0, rfl⟩
      case ok =>
        have isTerminal := Life.isTerminal_eq_hasNews isProcess shows
        rw [hasNews] at isTerminal
        obtain ⟨code, hasCode⟩ : ∃ code, report.status.exitCode? = some code := by
          cases isStatus : report.status <;>
            simp_all [ChildStatus.exitCode?, ChildStatus.isTerminal]
        simp only [Except.map, hasCode, pure_bind, bind_assoc] at goesOn
        refine Wait.returnsAtOnce_of_runs_collect_bind (fun final? => ?_) goesOn
        exact ⟨⟨trivial, fun _ => trivial⟩, fun _ => ⟨_, rfl⟩⟩

/-! ## Looking through a handle -/

section Look

variable {σ : Type} {answers : System σ} {becomes : Life → Life → Prop} {events : List Event}
  {answer : HandleAnswer} {next : Handle}

/-- What the holder of a handle is told by a look. -/
def told : Except LaunchError Bool → HandleAnswer
  | .ok value => .flag value
  | .error cause => .failed cause

/-- A look asks the operating system as long as the child has not been collected. -/
theorem use_exited_eq (notCollected : handle.collected = false) :
    handle.use rounds .exited =
      Wait.hasExited rounds handle.process >>= fun answer => pure (told answer, handle) := by
  rw [use, hasExited, notCollected, if_neg Bool.false_ne_true]
  apply bind_congr
  intro answer
  cases answer <;> rfl

theorem eq_flag_of_runs_use_exited
    {after : Life}
    (passage : Life.IsPassage becomes)
    (isProcess : handle.process ≠ 0)
    (notCollected : handle.collected = false)
    (runs : Runs (Life.answering becomes handle.process) (handle.use rounds .exited) before
      events (.done (answer, next)) after) :
    next = handle ∧
      ∃ shown, becomes before shown ∧ becomes shown after ∧ answer = .flag shown.hasNews := by
  rw [use_exited_eq notCollected] at runs
  obtain ⟨first, second, looked, between, rfl, looks, stops⟩ := runs.of_bind_done
  obtain ⟨shown, reached, goesOn, rfl⟩ :=
    (Wait.ensures_hasExited passage isProcess rounds []).of_runs looks
  cases stops
  exact ⟨rfl, shown, reached, goesOn, rfl⟩

theorem watches_of_runs_use_exited
    {state after : σ}
    {left : Program (HandleAnswer × Handle)}
    (notCollected : handle.collected = false)
    (runs : Runs answers (handle.use rounds .exited) state events left after) :
    ∀ event ∈ events, Wait.watches handle.process event.1 := by
  rw [use_exited_eq notCollected] at runs
  have makes : (Wait.hasExited rounds handle.process >>= fun answer =>
      pure (told answer, handle)).Makes (Wait.watches handle.process) :=
    Program.makes_bind (Wait.makes_hasExited rounds handle.process) fun _ => trivial
  exact (makes.of_runs runs).1

end Look

/-- What looking at a child tells, and what it leaves as it is. -/
structure LooksTruly (handle : Handle) (before : Life) : Prop where
  /-- Whatever becomes of the child meanwhile, the answer is right for the moment at which
  it was asked for. -/
  exact {rounds : Nat} {events : List Event} {answer : HandleAnswer} {next : Handle}
      {after : Life} :
    Runs (Life.faring handle.process) (handle.use rounds .exited) before events
        (.done (answer, next)) after →
      next = handle ∧
        ∃ shown, Relation.ReflTransGen Life.Fares before shown ∧
          Relation.ReflTransGen Life.Fares shown after ∧ answer = .flag shown.hasNews
  /-- If nothing becomes of the child, it is left as it is. -/
  still {rounds : Nat} {events : List Event} {answer : HandleAnswer} {next : Handle}
      {after : Life} :
    Runs (Life.still handle.process) (handle.use rounds .exited) before events
        (.done (answer, next)) after →
      next = handle ∧ after = before ∧ answer = .flag before.hasNews
  /-- Whatever is answered, the child is neither collected nor signalled. -/
  harmless {σ : Type} {answers : System σ} {rounds : Nat} {events : List Event}
      {left : Program (HandleAnswer × Handle)} {state after : σ} :
    Runs answers (handle.use rounds .exited) state events left after →
      ∀ event ∈ events, Wait.watches handle.process event.1
  /-- There is an answer unless every single poll is interrupted. -/
  returns {σ : Type} {answers : System σ} {rounds : Nat} {events : List Event}
      {state after : σ} :
    Runs answers (handle.use rounds .exited) state events .exhausted after →
      events = List.replicate rounds (Wait.interruptedPoll handle.process)
  /-- A wait behind a look goes as one without it. -/
  passive {rounds : Nat} {events : List Event} {answer : HandleAnswer} {next : Handle}
      {between : Life} :
    Runs (Life.still handle.process) (handle.use rounds .exited) before events
        (.done (answer, next)) between →
      ∀ waited result after,
        Runs (Life.faring handle.process) (next.use rounds .wait) between waited
            (.done result) after ↔
          Runs (Life.faring handle.process) (handle.use rounds .wait) before waited
            (.done result) after
  /-- If the child does not go on, a wait behind a look needs one poll. -/
  prompt {rounds : Nat} {events : List Event} {next : Handle} {between : Life} :
    Runs (Life.still handle.process) (handle.use rounds .exited) before events
        (.done (.flag true, next)) between →
      ∀ waited left after,
        Runs (Life.faring handle.process) (next.use rounds .wait) between waited left after →
          next.NeedsOnePoll rounds between waited left

/-- Wherever a child is in its life, a look at it through a handle that has not collected
it is right, and changes nothing. -/
theorem looksTruly
    (before : Life)
    (positive : 0 < handle.process)
    (notCollected : handle.collected = false) :
    handle.LooksTruly before := by
  have isProcess : handle.process ≠ 0 := Int.ne_of_gt positive
  have still {rounds : Nat} {events : List Event} {answer : HandleAnswer} {next : Handle}
      {after : Life}
      (runs : Runs (Life.still handle.process) (handle.use rounds .exited) before events
        (.done (answer, next)) after) :
      next = handle ∧ after = before ∧ answer = .flag before.hasNews := by
    obtain ⟨rfl, shown, rfl, rfl, isFlag⟩ :=
      eq_flag_of_runs_use_exited Life.isPassage_eq isProcess notCollected runs
    exact ⟨rfl, rfl, isFlag⟩
  constructor
  case exact =>
    intro rounds events answer next after
    exact eq_flag_of_runs_use_exited Life.isPassage_fares isProcess notCollected
  case still => exact still
  case harmless =>
    intro σ answers rounds events left state after
    exact watches_of_runs_use_exited notCollected
  case returns =>
    intro σ answers rounds events state after runs
    rw [use_exited_eq notCollected] at runs
    refine Wait.exhausted_of_runs_hasExited_bind (fun _ => ?_) runs
    trivial
  case passive =>
    intro rounds events answer next between looks waited result after
    obtain ⟨rfl, rfl, -⟩ := still looks
    rfl
  case prompt =>
    intro rounds events next between looks waited left after waits
    obtain ⟨rfl, rfl, isTrue⟩ := still looks
    exact needsOnePoll_of_runs isProcess notCollected (HandleAnswer.flag.inj isTrue).symm waits

/-- A stop that nobody has taken note of is seen, by a look and by the wait behind it; and
a child that the operating system has collected by itself is found gone among the
processes. -/
theorem looksTruly_of_stopped_and_gone :
    let stop : SignalNumber := ⟨19, by decide, by decide⟩
    let gone : Life := .collected (.exited 3)
    let handle : Handle := { process := 7, streams := ⟨none, none, none⟩ }
    0 < handle.process ∧ handle.collected = false ∧
      handle.LooksTruly (.stopped stop false) ∧ handle.LooksTruly gone ∧
      (∃ looked waited,
        Runs (Life.still 7) (handle.use 2 .exited) (.stopped stop false) looked
            (.done (.flag true, handle)) (.stopped stop false) ∧
          Runs (Life.faring 7) (handle.use 2 .wait) (.stopped stop false) waited
            (.done (.code 147, { handle with exitCode? := some 147 }))
            (.stopped stop true) ∧
          handle.NeedsOnePoll 2 (.stopped stop false) waited
            (.done (.code 147, { handle with exitCode? := some 147 }))) ∧
      ∃ looked, ⟨.disposition Wait.childSignal, .ok .ignore⟩ ∈ looked ∧
        Runs (Life.still 7) (handle.use 2 .exited) gone looked
          (.done (.flag true, handle)) gone := by
  intro stop gone handle
  have showsStop : Life.still 7 (.stopped stop false) (.childReport 7)
      (.ok (stop.stopReport 7)) (.stopped stop false) :=
    ⟨_, rfl, fun _ => .inr rfl, rfl⟩
  have looksAtStop : Runs (Life.still 7) (handle.use 2 .exited) (.stopped stop false)
      [⟨.childReport 7, .ok (stop.stopReport 7)⟩] (.done (.flag true, handle))
      (.stopped stop false) :=
    .call showsStop (.stop _ _)
  have showsStopAgain : Life.faring 7 (.stopped stop false) (.childReport 7)
      (.ok (stop.stopReport 7)) (.stopped stop false) :=
    ⟨_, .refl, fun _ => .inr rfl, rfl⟩
  have notes : Life.faring 7 (.stopped stop false) (.collect 7 .immediately)
      (.ok (7, .ofStop 19)) (.stopped stop true) :=
    ⟨_, .refl, .inr ⟨rfl, rfl, rfl, rfl⟩⟩
  have logs : ∀ life record, Life.faring 7 life (.log record) () life :=
    fun life record => ⟨life, .refl, rfl⟩
  have waits : ∃ waited,
      Runs (Life.faring 7) (handle.use 2 .wait) (.stopped stop false) waited
        (.done (.code 147, { handle with exitCode? := some 147 })) (.stopped stop true) :=
    ⟨_, .call showsStopAgain <| .call notes <| .call (logs _ _) <| .stop _ _⟩
  have isInterrupted : Life.still 7 gone (.childReport 7) (.error Errno.EINTR) gone :=
    ⟨_, rfl, fun _ => .inl rfl, rfl⟩
  have isMissing : Life.still 7 gone (.childReport 7) (.error Errno.ECHILD) gone :=
    ⟨_, rfl, fun _ => .inr rfl, rfl⟩
  have isIgnored : Life.still 7 gone (.disposition Wait.childSignal) (.ok .ignore) gone :=
    ⟨_, rfl, ⟨_, rfl⟩, rfl⟩
  have noEntry : Life.still 7 gone (.openFile (Wait.processEntry 7) OpenMode.listing)
      (.error Errno.ENOENT) gone :=
    ⟨_, rfl, fun _ => rfl, rfl⟩
  have logsGone : ∀ record, Life.still 7 gone (.log record) () gone :=
    fun record => ⟨_, rfl, rfl⟩
  have looksAtGone : ∃ looked, ⟨.disposition Wait.childSignal, .ok .ignore⟩ ∈ looked ∧
      Runs (Life.still 7) (handle.use 2 .exited) gone looked (.done (.flag true, handle))
        gone :=
    ⟨_, .tail _ <| .tail _ <| .head _, .call isInterrupted <| .call isMissing <|
      .call isIgnored <| .call noEntry <| .call (logsGone _) <| .stop _ _⟩
  have positive : 0 < handle.process := by decide
  have ofStopped : handle.LooksTruly (.stopped stop false) := looksTruly _ positive rfl
  obtain ⟨waited, waits⟩ := waits
  exact ⟨positive, rfl, ofStopped, looksTruly gone positive rfl,
    ⟨_, waited, looksAtStop, waits, ofStopped.prompt looksAtStop waited _ _ waits⟩,
    looksAtGone⟩

end Handle
end ChildProcess
