import ChildProcess.Proofs.Runner.Watching

/-!
# Time limits

A command that goes on for too long is asked to end, and ended by force if it still goes
on after another while.  Each of the two phases looks at the command until its time is up
and then sends its signal.  So the signals come in one order only, each has its reason in
what has happened before, and none comes after the command has been seen not to go on.
-/

namespace ChildProcess

open Program (Runs)

namespace Runner

/-! ## One phase and both -/

/-- The signal of a phase. -/
def signalNumber (force : Bool) : Nat :=
  if force then Wait.killSignal else Wait.terminationSignal

/-- The end of a phase whose time is up.  The answer tells that the command has been
signalled. -/
def signalling (handle : Handle) (notice : String) (force : Bool) :
    Program (Except RunError Bool) := do
  Program.log .info none notice
  let answer ← interrupt handle force
  pure (answer.map fun _ => true)

/-- One phase: the command is looked at for a while, and signalled if it goes on all the
time.  The answer tells whether it has been signalled. -/
def phase (handle : Handle) (limit : Duration) (notice : String) (force : Bool) :
    Program (Except RunError Bool) := do
  match ← exitsWithin handle limit with
  | .error cause => pure (.error cause)
  | .ok true => pure (.ok false)
  | .ok false => signalling handle notice force

/-- What follows the first phase: the second one if the command has been signalled. -/
def afterFirst (handle : Handle) (killAfter : Duration) :
    Except RunError Bool → Program (Except RunError Unit)
  | .error cause => pure (.error cause)
  | .ok false => pure (.ok ())
  | .ok true => do
      let signalled ← phase handle killAfter
        ("pid " ++ toString handle.process ++ " ignored termination; killing it") true
      pure (signalled.map fun _ => ())

theorem enforceTimeout_eq (handle : Handle) (timeout killAfter : Duration) :
    enforceTimeout handle timeout killAfter =
      phase handle timeout
          ("command timed out after " ++ timeout.display ++ "; terminating pid "
            ++ toString handle.process) false >>=
        afterFirst handle killAfter := by
  unfold enforceTimeout phase
  rw [bind_assoc]
  apply bind_congr
  rintro (cause | (_ | _))
  · rfl
  · simp only [signalling, bind_assoc, pure_bind]
    apply bind_congr
    intro _
    apply bind_congr
    rintro (cause | ⟨⟩)
    · rfl
    · simp only [Except.map, afterFirst, phase, bind_assoc]
      apply bind_congr
      rintro (cause | (_ | _))
      · rfl
      · simp only [signalling, bind_assoc, pure_bind]
        apply bind_congr
        intro _
        rw [← bind_pure (interrupt handle true), bind_assoc]
        apply bind_congr
        rintro (cause | ⟨⟩) <;> rfl
      · rfl
  · rfl

/-- What a run of a phase has come to, if it is about to signal the command or has come to
an end without an error: the command is spared, the signal is due, or it has been sent. -/
inductive PhaseReaches (handle : Handle) (limit : Duration) (force : Bool) (start now : Nat) :
    List Event → Program (Except RunError Bool) → Prop
  | other {events : List Event} {left : Program (Except RunError Bool)}
      (noSignal : ∀ child number resume, left ≠ .call (.signal child number) resume)
      (notOk : ∀ answer, left ≠ .done (.ok answer)) :
      PhaseReaches handle limit force start now events left
  | spared {began : Nat} {looking : List Event}
      (isSpared : IsSpared handle limit began looking) :
      PhaseReaches handle limit force start now (⟨.clock, began⟩ :: looking)
        (.done (.ok false))
  | due {began : Nat} {looking : List Event}
      {resume : Except Errno Unit → Program (Except RunError Bool)}
      (notCollected : handle.collected = false)
      (started : start ≤ began)
      (isUp : IsUp limit began looking now)
      (ends : ∀ answer, ∃ result, resume answer = .done result) :
      PhaseReaches handle limit force start now (⟨.clock, began⟩ :: looking)
        (.call (.signal handle.process (signalNumber force)) resume)
  | signalled {began sent : Nat} {looking : List Event}
      (started : start ≤ began)
      (isUp : IsUp limit began looking sent)
      (later : sent ≤ now) :
      PhaseReaches handle limit force start now
        (⟨.clock, began⟩ ::
          (looking ++ [⟨.signal handle.process (signalNumber force), .ok ()⟩]))
        (.done (.ok true))

section Phase

variable {handle : Handle} {limit : Duration} {notice : String} {force : Bool}
  {start now : Nat} {events : List Event}

/-- Nothing has been done yet when something is noted in the log. -/
theorem PhaseReaches.of_log
    {record : LogRecord}
    {resume : Unit → Program (Except RunError Bool)} :
    PhaseReaches handle limit force start now events (.call (.log record) resume) :=
  .other (fun _ _ _ isCall => by cases isCall) fun _ isDone => by cases isDone

/-- When the time of a phase is up, two notes are made and the signal is sent. -/
theorem phaseReaches_of_runs_signalling
    {began up : Nat}
    {looking : List Event}
    {left : Program (Except RunError Bool)}
    (notCollected : handle.collected = false)
    (started : start ≤ began)
    (isUp : IsUp limit began looking up)
    (runs : Runs ticking (signalling handle notice force) up events left now) :
    PhaseReaches handle limit force start now (⟨.clock, began⟩ :: (looking ++ events)) left := by
  have later := le_of_runs_ticking runs
  simp only [signalling, interrupt, Handle.interrupt, notCollected, Bool.false_eq_true,
    if_false] at runs
  cases runs with
  | stop => exact .of_log
  | call _ rest =>
  cases rest with
  | stop => exact .of_log
  | call _ rest =>
  have noted {time : Nat} (isLater : up ≤ time) (first second : LogRecord) :
      IsUp limit began (looking ++ [⟨.log first, ()⟩, ⟨.log second, ()⟩]) time := by
    simpa using (isUp.log isLater first).log (Nat.le_refl time) second
  cases rest with
  | stop =>
      refine .due notCollected started (noted later _ _) fun answer => ?_
      rcases answer with errno | ⟨⟩ <;> exact ⟨_, rfl⟩
  | @call _ _ _ _ _ answer _ _ _ rest =>
      rcases answer with errno | ⟨⟩
      · cases rest
        exact .other (fun _ _ _ isCall => by cases isCall) fun _ isDone => by cases isDone
      · cases rest
        have split (first second third : Event) :
            looking ++ [first, second, third] = looking ++ [first, second] ++ [third] := by
          simp
        rw [split]
        exact .signalled started (noted (Nat.le_refl up) _ _) later

theorem phaseReaches_of_runs
    {left : Program (Except RunError Bool)}
    (runs : Runs ticking (phase handle limit notice force) start events left now) :
    PhaseReaches handle limit force start now events left := by
  rcases runs.bind_cases with
    ⟨middle, notDone, rfl, looks⟩ | ⟨first, second, answer, between, rfl, looks, goesOn⟩
  · have bidesOrEnds := ((makes_exitsWithin handle limit).of_runs looks).2
    cases middle with
    | done answer => exact absurd rfl (notDone answer)
    | exhausted => exact .other (by simp) (by simp)
    | call request resume =>
        refine .other (fun child number _ isCall => ?_) (by simp)
        cases isCall
        exact bidesOrEnds.1
  · rcases answer with cause | (_ | _)
    · cases goesOn
      exact .other (by simp) (by simp)
    · obtain ⟨notCollected, began, looking, rfl, started, isUp⟩ :=
        isUp_of_runs_exitsWithin looks
      exact phaseReaches_of_runs_signalling notCollected started isUp goesOn
    · cases goesOn
      obtain ⟨began, looking, rfl, isSpared⟩ := isSpared_of_runs_exitsWithin looks
      rw [List.append_nil]
      exact .spared isSpared

/-- A phase whose end the clock does not reach only makes a note of it. -/
theorem logs_of_runs_phase_bind
    {σ α : Type}
    {answers : System σ}
    {before after : σ}
    {next : Except RunError Bool → Program α}
    {result : α}
    {left : Program α}
    {began : Nat}
    (runs : Runs answers (phase handle limit notice force >>= next) before
      (⟨.clock, began⟩ :: events) left after)
    (unbounded : ¬Fits began limit)
    (ends : next (.ok false) = .done result) :
    ∀ event ∈ events, ∃ record, event.1 = .log record := by
  cases runs with
  | call _ rest =>
      change Runs answers (((if clockBound * nanosPerSecond ≤ began + limit.nanoseconds
        then waitUnbounded limit else _) >>= _) >>= next) _ _ _ _ at rest
      rw [if_pos (Nat.le_of_not_lt unbounded), bind_assoc] at rest
      exact logs_of_runs_waitUnbounded_bind rest ends

end Phase

/-! ## Which signals are sent -/

/-- When a process may be signalled, and how: it may be asked to end when the time of the
first phase is up, and killed when that has been done and the time of the second phase is
up as well. -/
inductive MaySignal (process : ProcessId) (timeout killAfter : Duration) (start now : Nat) :
    List Event → Nat → Prop
  | terminate {began : Nat} {looking : List Event}
      (started : start ≤ began)
      (isUp : IsUp timeout began looking now) :
      MaySignal process timeout killAfter start now (⟨.clock, began⟩ :: looking)
        Wait.terminationSignal
  | kill {began sent again : Nat} {looking watching : List Event}
      (started : start ≤ began)
      (isUp : IsUp timeout began looking sent)
      (goesOn : sent ≤ again)
      (isUpAgain : IsUp killAfter again watching now) :
      MaySignal process timeout killAfter start now
        (⟨.clock, began⟩ :: looking ++
          ⟨.signal process Wait.terminationSignal, .ok ()⟩ :: ⟨.clock, again⟩ :: watching)
        Wait.killSignal

/-- After some events nothing is left to be done: a look has told that the command does not
go on, or an operation has failed. -/
def IsFinal : Event → Prop
  | ⟨.signal _ _, .error _⟩ => True
  | event => ∃ answer, lookAnswer? event = some answer ∧ answer ≠ .ok false

theorem IsUp.not_isFinal
    {limit : Duration}
    {began now : Nat}
    {looking : List Event}
    (isUp : IsUp limit began looking now) :
    ∀ event ∈ looking, ¬IsFinal event := by
  rintro ⟨request, answer⟩ isMember isFinal
  have tells : ∃ told, lookAnswer? ⟨request, answer⟩ = some told ∧ told ≠ .ok false := by
    cases request with
    | signal child number =>
        have isSent : (child, number) ∈ sentSignals looking :=
          List.mem_filterMap.mpr ⟨_, isMember, rfl⟩
        rw [isUp.silent] at isSent
        cases isSent
    | _ => exact isFinal
  obtain ⟨told, isTold, notFalse⟩ := tells
  exact notFalse (isUp.inVain told (List.mem_filterMap.mpr ⟨_, isMember, isTold⟩))

/-- How the enforcement of time limits ends well: there is a reason to spare the command in
the first phase, or in the second one, or both signals have been sent. -/
inductive IsEnforced (handle : Handle) (timeout killAfter : Duration) : List Event → Prop
  | spared {began : Nat} {looking : List Event}
      (isSpared : IsSpared handle timeout began looking) :
      IsEnforced handle timeout killAfter (⟨.clock, began⟩ :: looking)
  | sparedAgain {again : Nat} {asking watching : List Event}
      (isSpared : IsSpared handle killAfter again watching) :
      IsEnforced handle timeout killAfter
        (asking ++ ⟨.signal handle.process Wait.terminationSignal, .ok ()⟩ ::
          ⟨.clock, again⟩ :: watching)
  | killed {events : List Event}
      (sent : sentSignals events =
        [(handle.process, Wait.terminationSignal), (handle.process, Wait.killSignal)]) :
      IsEnforced handle timeout killAfter events

theorem IsUp.sentSignals_eq
    {limit : Duration}
    {began now : Nat}
    {looking : List Event}
    (isUp : IsUp limit began looking now)
    (process : ProcessId)
    (number : Nat) :
    sentSignals (⟨.clock, began⟩ :: (looking ++ [⟨.signal process number, .ok ()⟩])) =
      [(process, number)] := by
  rw [← List.cons_append, sentSignals_append]
  exact congrArg (· ++ [(process, number)]) isUp.silent

/-- Among events that send a signal there is a last one that does. -/
theorem exists_last_signal
    {events : List Event}
    (sends : sentSignals events ≠ []) :
    ∃ first child number answer rest,
      events = first ++ ⟨.signal child number, answer⟩ :: rest ∧ sentSignals rest = [] := by
  induction events with
  | nil => exact absurd rfl sends
  | cons event events inductionHypothesis =>
      by_cases isLast : sentSignals events = []
      · obtain ⟨request, answer⟩ := event
        cases request with
        | signal child number => exact ⟨[], child, number, answer, events, rfl, isLast⟩
        | _ => exact absurd isLast sends
      · obtain ⟨first, child, number, answer, rest, rfl, silent⟩ :=
          inductionHypothesis isLast
        exact ⟨event :: first, child, number, answer, rest, rfl, silent⟩

namespace MaySignal

variable {process : ProcessId} {timeout killAfter : Duration} {start now number : Nat}
  {events : List Event}

/-- A process is signalled twice at most. -/
theorem sentSignals_prefix
    (maySignal : MaySignal process timeout killAfter start now events number) :
    sentSignals events ++ [(process, number)] <+:
      [(process, Wait.terminationSignal), (process, Wait.killSignal)] := by
  cases maySignal with
  | @terminate began looking _ isUp =>
      have silent : sentSignals (⟨.clock, began⟩ :: looking) = [] := isUp.silent
      rw [silent]
      exact ⟨_, rfl⟩
  | @kill began sent again looking watching _ isUp _ isUpAgain =>
      have silent : sentSignals (⟨.clock, began⟩ :: looking) = [] := isUp.silent
      have asked : sentSignals (⟨.signal process Wait.terminationSignal, .ok ()⟩ ::
          ⟨.clock, again⟩ :: watching) = [(process, Wait.terminationSignal)] :=
        congrArg ((process, Wait.terminationSignal) :: ·) isUpAgain.silent
      rw [sentSignals_append, silent, asked]
      exact List.prefix_refl _

/-- Before a signal, nothing has happened after which nothing is left to be done. -/
theorem not_isFinal
    (maySignal : MaySignal process timeout killAfter start now events number) :
    ∀ event ∈ events, ¬IsFinal event := by
  have goesOn (reading : Nat) : ¬IsFinal ⟨.clock, reading⟩ := by
    rintro ⟨_, told, -⟩
    cases told
  cases maySignal with
  | terminate _ isUp => exact List.forall_mem_cons.mpr ⟨goesOn _, isUp.not_isFinal⟩
  | kill _ isUp _ isUpAgain =>
      have succeeds : ¬IsFinal ⟨.signal process Wait.terminationSignal, .ok ()⟩ := by
        rintro ⟨_, told, -⟩
        cases told
      refine List.forall_mem_append.mpr
        ⟨List.forall_mem_cons.mpr ⟨goesOn _, isUp.not_isFinal⟩, ?_⟩
      exact List.forall_mem_cons.mpr
        ⟨succeeds, List.forall_mem_cons.mpr ⟨goesOn _, isUpAgain.not_isFinal⟩⟩

end MaySignal

section Enforcement

variable {handle : Handle} {timeout killAfter : Duration} {start now : Nat}
  {events : List Event}

/-- Whenever a signal is about to be sent, it may be sent. -/
theorem maySignal_of_runs_enforceTimeout
    {child : ProcessId}
    {number : Nat}
    {resume : Except Errno Unit → Program (Except RunError Unit)}
    (runs : Runs ticking (enforceTimeout handle timeout killAfter) start events
      (.call (.signal child number) resume) now) :
    handle.collected = false ∧ child = handle.process ∧
      MaySignal handle.process timeout killAfter start now events number := by
  rw [enforceTimeout_eq] at runs
  rcases runs.bind_call_cases with
    ⟨_, -, inFirst⟩ | ⟨first, second, signalled, between, rfl, signals, goesOn⟩
  · cases phaseReaches_of_runs inFirst with
    | other noSignal => exact absurd rfl (noSignal _ _ _)
    | due notCollected started isUp => exact ⟨notCollected, rfl, .terminate started isUp⟩
  rcases signalled with cause | (_ | _)
  · cases goesOn
  · cases goesOn
  · rcases goesOn.bind_call_cases with ⟨_, -, inSecond⟩ | ⟨_, _, _, _, -, -, isOver⟩
    · cases phaseReaches_of_runs inSecond with
      | other noSignal => exact absurd rfl (noSignal _ _ _)
      | due notCollected startedAgain isUpAgain =>
      cases phaseReaches_of_runs signals with
      | other _ notOk => exact absurd rfl (notOk _)
      | signalled started isUp later =>
          refine ⟨notCollected, rfl, ?_⟩
          rw [List.cons_append, List.append_assoc]
          exact .kill started isUp (later.trans startedAgain) isUpAgain
    · cases isOver

/-- What happens after the command has been asked to end is the end of a run of the second
phase, or there is no such phase. -/
theorem runs_afterFirst_of_signal
    {child : ProcessId}
    {answer : Except Errno Unit}
    {first rest : List Event}
    {left : Program (Except RunError Unit)}
    (runs : Runs ticking (enforceTimeout handle timeout killAfter) start
      (first ++ ⟨.signal child Wait.terminationSignal, answer⟩ :: rest) left now) :
    ∃ signalled next, Runs ticking (afterFirst handle killAfter signalled) next rest left
      now := by
  obtain ⟨resume, between, next, earlier, -, goesOn⟩ := runs.cut
  rw [enforceTimeout_eq] at earlier
  rcases earlier.bind_call_cases with
    ⟨resumeFirst, rfl, inFirst⟩ | ⟨_, second, signalled, _, -, -, inSecond⟩
  · obtain ⟨signalled, isDone⟩ : ∃ result, resumeFirst answer = .done result := by
      cases phaseReaches_of_runs inFirst with
      | other noSignal => exact absurd rfl (noSignal _ _ _)
      | due _ _ _ ends => exact ends answer
    dsimp only at goesOn
    rw [isDone] at goesOn
    exact ⟨signalled, next, goesOn⟩
  rcases signalled with cause | (_ | _)
  · cases inSecond
  · cases inSecond
  · rcases inSecond.bind_call_cases with ⟨_, -, kills⟩ | ⟨_, _, _, _, -, -, isOver⟩
    · cases phaseReaches_of_runs kills with
      | other noSignal => exact absurd rfl (noSignal _ _ _)
    · cases isOver

/-- Enforcement that comes to its end without an error has a reason to spare the command,
or has killed it. -/
theorem isEnforced_of_runs_enforceTimeout
    (runs : Runs ticking (enforceTimeout handle timeout killAfter) start events
      (.done (.ok ())) now) :
    IsEnforced handle timeout killAfter events := by
  rw [enforceTimeout_eq] at runs
  obtain ⟨first, second, signalled, between, rfl, inFirst, goesOn⟩ := runs.of_bind_done
  rcases signalled with cause | (_ | _)
  · cases goesOn
  · cases goesOn
    rw [List.append_nil]
    cases phaseReaches_of_runs inFirst with
    | other _ notOk => exact absurd rfl (notOk _)
    | spared isSpared => exact .spared isSpared
  · cases phaseReaches_of_runs inFirst with
    | other _ notOk => exact absurd rfl (notOk _)
    | signalled _ isUp =>
    obtain ⟨second, rest, signalled, _, rfl, inSecond, ends⟩ := goesOn.of_bind_done
    rcases signalled with cause | (_ | _)
    · cases ends
    · cases ends
      cases phaseReaches_of_runs inSecond with
      | other _ notOk => exact absurd rfl (notOk _)
      | spared isSpared =>
          rw [List.append_nil, ← List.cons_append, List.append_assoc]
          exact .sparedAgain isSpared
    · cases ends
      cases phaseReaches_of_runs inSecond with
      | other _ notOk => exact absurd rfl (notOk _)
      | signalled _ isUpAgain =>
          refine .killed ?_
          rw [List.append_nil, sentSignals_append, isUp.sentSignals_eq,
            isUpAgain.sentSignals_eq]
          rfl

end Enforcement

/-! ## What is enforced -/

/-- What is done about time limits for a command, whatever the looks and the signals are
answered and however time passes.  Signals are sent in their order only, each when its time
is up, and none when nothing is left to be done; what comes to its end without an error has
sent both, unless there is a reason to spare the command.  A phase of which the end does not
fit the clock is the last one, and nothing is done in it but to make a note. -/
structure EnforcesLimits (handle : Handle) (timeout killAfter : Duration) : Prop where
  signals : ∀ {start now : Nat} {events : List Event}
    {left : Program (Except RunError Unit)},
    Runs ticking (enforceTimeout handle timeout killAfter) start events left now →
      sentSignals events <+:
        [(handle.process, Wait.terminationSignal), (handle.process, Wait.killSignal)]
  due : ∀ {start now : Nat} {events : List Event} {child : ProcessId} {number : Nat}
    {resume : Except Errno Unit → Program (Except RunError Unit)},
    Runs ticking (enforceTimeout handle timeout killAfter) start events
        (.call (.signal child number) resume) now →
      handle.collected = false ∧ child = handle.process ∧
        MaySignal handle.process timeout killAfter start now events number
  stops : ∀ {start now : Nat} {first rest : List Event} {event : Event}
    {left : Program (Except RunError Unit)},
    Runs ticking (enforceTimeout handle timeout killAfter) start (first ++ event :: rest)
        left now →
      IsFinal event → sentSignals rest = []
  enforced : ∀ {start now : Nat} {events : List Event},
    Runs ticking (enforceTimeout handle timeout killAfter) start events (.done (.ok ()))
        now →
      IsEnforced handle timeout killAfter events
  unbounded : ∀ {start now began : Nat} {rest : List Event}
    {left : Program (Except RunError Unit)},
    Runs ticking (enforceTimeout handle timeout killAfter) start (⟨.clock, began⟩ :: rest)
        left now →
      ¬Fits began timeout → ∀ event ∈ rest, ∃ record, event.1 = .log record
  unboundedAgain : ∀ {start now again : Nat} {child : ProcessId}
    {answer : Except Errno Unit} {first rest : List Event}
    {left : Program (Except RunError Unit)},
    Runs ticking (enforceTimeout handle timeout killAfter) start
        (first ++ ⟨.signal child Wait.terminationSignal, answer⟩ :: ⟨.clock, again⟩ :: rest)
        left now →
      ¬Fits again killAfter → ∀ event ∈ rest, ∃ record, event.1 = .log record
  watches : ∀ limit, WatchesFor handle limit

/-- Time limits are enforced. -/
theorem enforcesLimits (handle : Handle) (timeout killAfter : Duration) :
    EnforcesLimits handle timeout killAfter where
  signals {_ _ events _} runs := by
    by_cases silent : sentSignals events = []
    · rw [silent]
      exact List.nil_prefix
    · -- What is known when the last signal is due tells of the earlier one.
      obtain ⟨first, child, number, answer, rest, rfl, isLast⟩ := exists_last_signal silent
      obtain ⟨resume, between, next, earlier, -, -⟩ := runs.cut
      obtain ⟨-, rfl, maySignal⟩ := maySignal_of_runs_enforceTimeout earlier
      have sent : sentSignals (⟨.signal handle.process number, answer⟩ :: rest) =
          [(handle.process, number)] := congrArg ((handle.process, number) :: ·) isLast
      rw [sentSignals_append, sent]
      exact maySignal.sentSignals_prefix
  due runs := maySignal_of_runs_enforceTimeout runs
  stops {_ _ first rest event _} runs isFinal := by
    by_contra sends
    -- A signal among the rest would be due after the event.
    obtain ⟨between, child, number, answer, last, rfl, -⟩ := exists_last_signal sends
    have later : first ++ event :: (between ++ ⟨.signal child number, answer⟩ :: last) =
        (first ++ event :: between) ++ ⟨.signal child number, answer⟩ :: last := by simp
    rw [later] at runs
    obtain ⟨resume, state, next, earlier, -, -⟩ := runs.cut
    obtain ⟨-, -, maySignal⟩ := maySignal_of_runs_enforceTimeout earlier
    exact maySignal.not_isFinal event (by simp) isFinal
  enforced runs := isEnforced_of_runs_enforceTimeout runs
  unbounded runs notFits := by
    rw [enforceTimeout_eq] at runs
    exact logs_of_runs_phase_bind runs notFits rfl
  unboundedAgain runs notFits := by
    obtain ⟨signalled, next, goesOn⟩ := runs_afterFirst_of_signal runs
    rcases signalled with cause | (_ | _)
    · cases goesOn
    · cases goesOn
    · exact logs_of_runs_phase_bind goesOn notFits rfl
  watches limit := watchesFor handle limit

/-- A command that goes on is asked to end after two milliseconds, of which the sleep takes
more than it is to take, and killed at once when it still goes on. -/
theorem enforcesLimits_of_stubborn :
    let handle : Handle := { process := 7, streams := ⟨none, none, none⟩ }
    let timeout := Duration.ofMilliseconds 2
    let killAfter := Duration.ofMilliseconds 0
    ∃ events resume,
      Runs ticking (enforceTimeout handle timeout killAfter) 1000000 events
        (.call (.signal 7 Wait.killSignal) resume) 6000000 ∧
      sentSignals events = [(7, Wait.terminationSignal)] ∧
        MaySignal 7 timeout killAfter 1000000 6000000 events Wait.killSignal := by
  intro handle timeout killAfter
  have showsNothing : ∀ now : Nat, ticking now (.childReport 7) (.ok .empty) now :=
    Nat.le_refl
  have notes : ∀ (now : Nat) record, ticking now (.log record) () now :=
    fun now _ => Nat.le_refl now
  have asksTime : ∀ now : Nat, ticking now .clock now now :=
    fun now => ⟨Nat.le_refl now, Nat.le_refl now⟩
  have sleeps : ∀ now pause later : Nat, now + pause ≤ later →
      ticking now (.sleep pause) () later := fun _ _ _ => id
  have asks : ∀ number, ticking 5000000 (.signal 7 number) (.ok ()) 6000000 :=
    fun _ => Nat.le_add_right 5000000 1000000
  obtain ⟨rounds, isPatience⟩ : ∃ rounds, Program.patience = rounds + 1 + 1 :=
    ⟨99999998, rfl⟩
  have looksInVain : ∃ events, sentSignals events = [] ∧ Runs ticking
      (exitsBefore handle (1000000 + timeout.nanoseconds) Program.patience) 1000000 events
      (.done (.ok false)) 5000000 := by
    rw [isPatience, exitsBefore, exitsBefore, isPatience]
    exact ⟨_, rfl, .call (showsNothing _) <| .call (asksTime 1000000) <|
      .call (sleeps 1000000 _ 5000000 (by decide)) <|
        .call (showsNothing _) <| .call (asksTime 5000000) <| .stop _ _⟩
  have looksAgain : ∃ events, sentSignals events = [] ∧ Runs ticking
      (exitsBefore handle (6000000 + killAfter.nanoseconds) Program.patience) 6000000 events
      (.done (.ok false)) 6000000 := by
    rw [isPatience, exitsBefore, isPatience]
    exact ⟨_, rfl, .call (showsNothing _) <| .call (asksTime 6000000) <| .stop _ _⟩
  obtain ⟨first, silent, looksInVain⟩ := looksInVain
  obtain ⟨second, silentAgain, looksAgain⟩ := looksAgain
  have isUp := runs_exitsWithin (by decide) (asksTime 1000000) looksInVain
  have isUpAgain := runs_exitsWithin (by decide) (asksTime 6000000) looksAgain
  have enforces : ∃ events resume,
      Runs ticking (enforceTimeout handle timeout killAfter) 1000000 events
        (.call (.signal 7 Wait.killSignal) resume) 6000000 ∧
      sentSignals events = [(7, Wait.terminationSignal)] := by
    unfold enforceTimeout
    refine ⟨_, _, isUp.bind <| .call (notes _ _) <| .call (notes _ _) <| .call (asks _) <|
      isUpAgain.bind <| .call (notes _ _) <| .call (notes _ _) <| .stop _ _, ?_⟩
    unfold sentSignals at silent silentAgain ⊢
    simp [silent, silentAgain, handle]
  obtain ⟨events, resume, runs, sent⟩ := enforces
  exact ⟨events, resume, runs, sent, ((enforcesLimits handle timeout killAfter).due runs).2.2⟩

end Runner
end ChildProcess
