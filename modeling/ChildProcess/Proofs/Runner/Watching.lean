import ChildProcess.Proofs.Runner.Completion
import ChildProcess.Proofs.Waiting.Looks
import ChildProcess.Proofs.Waiting.Signals

/-!
# Looking at a command until its time is up

A command that may go on for some time only is looked at again and again, with rests in
between, until it does not go on or the clock says that the time is up.  No more is relied
on than that the clock does not go backwards and that a sleep does not end too early: what
the looks are answered, how late a sleep ends, and how much time passes in between is left
open.
-/

namespace ChildProcess

open Program (Runs perform)

namespace Runner

/-! ## Time and looks -/

/-- Time passes, and a sleep takes as long as it is to take or longer.  The state is the
time.  Nothing is said about the answers of calls that do not ask for the time. -/
def ticking : System Nat := fun before request answer after =>
  match request, answer with
  | .clock, reading => before ≤ reading ∧ reading ≤ after
  | .sleep pause, _ => before + pause ≤ after
  | _, _ => before ≤ after

/-- The time does not go backwards. -/
theorem le_of_ticking
    {request : Call}
    {answer : request.Answer}
    {before after : Nat}
    (ticks : ticking before request answer after) :
    before ≤ after := by
  cases request with
  | clock => exact ticks.1.trans ticks.2
  | sleep pause => exact (Nat.le_add_right before pause).trans ticks
  | _ => exact ticks

theorem le_of_runs_ticking
    {α : Type}
    {program left : Program α}
    {events : List Event}
    {before after : Nat}
    (runs : Runs ticking program before events left after) :
    before ≤ after := by
  induction runs with
  | stop => exact Nat.le_refl _
  | call answered _ inductionHypothesis =>
      exact (le_of_ticking answered).trans inductionHypothesis

/-- What a look is answered, if an event decides about that: whether the command does not
go on, or why that is not known. -/
def lookAnswer? : Event → Option (Except LaunchError Bool)
  | ⟨.childReport _, .ok report⟩ => some (.ok report.status.isTerminal)
  | ⟨.childReport _, .error errno⟩ =>
      if errno = Errno.EINTR ∨ errno = Errno.ECHILD then none
      else some (.error (.poll errno))
  | ⟨.disposition _, .ok disposition⟩ =>
      if disposition = .ignore then none else some (.ok true)
  | ⟨.disposition _, .error errno⟩ => some (.error (.disposition errno))
  | ⟨.openFile _ _, .ok _⟩ => some (.ok false)
  | ⟨.openFile _ _, .error errno⟩ => some (.ok (errno == Errno.ENOENT))
  | _ => none

/-- What the looks among some events are answered. -/
def looks (events : List Event) : List (Except LaunchError Bool) :=
  events.filterMap lookAnswer?

@[simp] theorem looks_nil : looks [] = [] := rfl

@[simp] theorem looks_append (first second : List Event) :
    looks (first ++ second) = looks first ++ looks second :=
  List.filterMap_append

theorem looks_cons (event : Event) (events : List Event) :
    looks (event :: events) = (lookAnswer? event).toList ++ looks events := by
  cases answered : lookAnswer? event <;> simp [looks, answered]

@[simp] theorem looks_clock (reading : Nat) (events : List Event) :
    looks (⟨.clock, reading⟩ :: events) = looks events := rfl

@[simp] theorem looks_sleep (pause : Nat) (events : List Event) :
    looks (⟨.sleep pause, ()⟩ :: events) = looks events := rfl

@[simp] theorem looks_log (record : LogRecord) (events : List Event) :
    looks (⟨.log record, ()⟩ :: events) = looks events := rfl

theorem looks_interruptedPolls (process : ProcessId) (count : Nat) :
    looks (List.replicate count (Wait.interruptedPoll process)) = [] := by
  refine List.filterMap_eq_nil_iff.mpr fun event isMember => ?_
  rw [List.eq_of_mem_replicate isMember]
  rfl

theorem looks_eq_nil_of_logs
    {events : List Event}
    (logs : ∀ event ∈ events, ∃ record, event.1 = .log record) :
    looks events = [] := by
  refine List.filterMap_eq_nil_iff.mpr ?_
  rintro ⟨request, answer⟩ isMember
  obtain ⟨record, rfl⟩ : ∃ record, request = .log record := logs _ isMember
  rfl

section Look

variable {σ : Type} {answers : System σ} {rounds : Nat} {process : ProcessId}
  {handle : Handle} {state after : σ} {events : List Event}
  {left : Program (Except LaunchError Bool)}

/-- If a child cannot be asked for, one event decides about the look. -/
theorem ensures_lookElsewhere :
    (Wait.lookElsewhere process).Ensures
      ⟨answers, fun history _ _ => (looks history).length ≤ 1, False⟩
      (fun later _ answer => looks later = [answer]) [] state := by
  refine ⟨Nat.zero_le 1, fun disposition _ _ => ?_⟩
  rcases disposition with errno | (_ | _ | _)
  case error | ok.standard | ok.note => rfl
  case ok.ignore =>
    refine ⟨Nat.zero_le 1, fun entry _ _ => ?_⟩
    rcases entry with errno | descriptor
    · refine ⟨Nat.le_refl 1, fun _ _ _ => ?_⟩
      show [_] = [Except.ok (!(errno != Errno.ENOENT))]
      rw [bne, Bool.not_not]
    · exact ⟨Nat.le_refl 1, fun _ _ _ => ⟨Nat.le_refl 1, fun _ _ _ => rfl⟩⟩

theorem looks_of_runs_lookElsewhere
    (runs : Runs answers (Wait.lookElsewhere process) state events left after) :
    (looks events).length ≤ 1 ∧ ∀ answer, left = .done answer → looks events = [answer] := by
  have ensures := ensures_lookElsewhere.of_runs runs
  rw [List.nil_append] at ensures
  cases left with
  | done answer =>
      have looked : looks events = [answer] := ensures
      refine ⟨by rw [looked]; exact Nat.le_refl 1, ?_⟩
      rintro _ ⟨⟩
      exact looked
  | call request resume => exact ⟨ensures.1, fun _ isDone => by cases isDone⟩
  | exhausted => exact ensures.elim

/-- A look is answered once, when it comes to its end. -/
theorem looks_of_runs_hasExited
    (runs : Runs answers (Wait.hasExited rounds process) state events left after) :
    (looks events).length ≤ 1 ∧ ∀ answer, left = .done answer → looks events = [answer] := by
  rw [Wait.hasExited_eq] at runs
  rcases Wait.runs_poll_bind_cases runs with
    ⟨count, rfl, notDone, -⟩ | ⟨count, report, rest, between, rfl, isLast, goesOn⟩
  · rw [looks_interruptedPolls]
    exact ⟨Nat.zero_le 1, fun answer isDone => absurd isDone (notDone answer)⟩
  rw [looks_append, looks_interruptedPolls, List.nil_append, looks_cons]
  rcases report with errno | report
  · have notInterrupted : errno ≠ Errno.EINTR := fun same => isLast (congrArg _ same)
    simp only [Except.map, Wait.afterPoll] at goesOn
    split at goesOn
    · cases goesOn
      simp [lookAnswer?, *]
    · obtain rfl : errno = Errno.ECHILD := by simpa using ‹¬errno ≠ Errno.ECHILD›
      exact looks_of_runs_lookElsewhere goesOn
  · simp only [Except.map, Wait.afterPoll] at goesOn
    cases goesOn
    simp [lookAnswer?]

/-- A look through a handle is answered by the operating system, or without it once the
child has been collected. -/
theorem looks_of_runs_look
    (runs : Runs answers (handle.hasExited rounds) state events left after) :
    (looks events).length ≤ 1 ∧ ∀ answer, left = .done answer →
      handle.collected = false ∧ looks events = [answer] ∨
        handle.collected = true ∧ answer = .ok true := by
  unfold Handle.hasExited at runs
  split at runs
  · cases runs
    refine ⟨Nat.zero_le 1, ?_⟩
    rintro _ ⟨⟩
    exact .inr ⟨‹_›, rfl⟩
  · have notCollected : handle.collected = false := by simpa using ‹¬handle.collected = true›
    obtain ⟨atMostOne, atEnd⟩ := looks_of_runs_hasExited runs
    exact ⟨atMostOne, fun answer isDone => .inl ⟨notCollected, atEnd answer isDone⟩⟩

/-- A look that says that the command goes on has asked for it. -/
theorem looks_of_runs_look_false
    (runs : Runs answers (handle.hasExited rounds) state events (.done (.ok false)) after) :
    handle.collected = false ∧ looks events = [.ok false] := by
  rcases (looks_of_runs_look runs).2 _ rfl with looked | ⟨-, isTrue⟩
  · exact looked
  · cases isTrue

end Look

/-! ## One round of looking -/

/-- How far a run of looking has come: it is in the first look, it has been told enough, it
has seen that the time is up, or it rests and goes on with the other rounds. -/
inductive Round {σ : Type} (answers : System σ) (handle : Handle) (deadline rounds : Nat)
    (before after : σ) : List Event → Program (Except RunError Bool) → Prop
  | looking {events : List Event} {looked : Program (Except LaunchError Bool)}
      {left : Program (Except RunError Bool)}
      (looking : Runs answers (handle.hasExited Program.patience) before events looked after)
      (notDone : ∀ result, left ≠ .done result)
      (sameCall : ∀ request resume, left = .call request resume →
        Wait.looksAt handle.process request)
      (usesUp : left = .exhausted → looked = .exhausted) :
      Round answers handle deadline rounds before after events left
  | told {events : List Event} {answer : Except LaunchError Bool}
      {result : Except RunError Bool}
      (looking : Runs answers (handle.hasExited Program.patience) before events
        (.done answer) after)
      (notFalse : answer ≠ .ok false)
      (tells : ∀ value, result = .ok value → answer = .ok value) :
      Round answers handle deadline rounds before after events (.done result)
  | asking {events : List Event} {resume : Nat → Program (Except RunError Bool)}
      (looking : Runs answers (handle.hasExited Program.patience) before events
        (.done (.ok false)) after) :
      Round answers handle deadline rounds before after events (.call .clock resume)
  | up {events : List Event} {between : σ} {now : Nat}
      (looking : Runs answers (handle.hasExited Program.patience) before events
        (.done (.ok false)) between)
      (reads : answers between .clock now after)
      (isUp : deadline ≤ now) :
      Round answers handle deadline rounds before after (events ++ [⟨.clock, now⟩])
        (.done (.ok false))
  | resting {events : List Event} {between : σ} {now : Nat}
      {resume : Unit → Program (Except RunError Bool)}
      (looking : Runs answers (handle.hasExited Program.patience) before events
        (.done (.ok false)) between)
      (reads : answers between .clock now after)
      (notUp : now < deadline) :
      Round answers handle deadline rounds before after (events ++ [⟨.clock, now⟩])
        (.call (.sleep (min pollInterval (deadline - now))) resume)
  | again {events others : List Event} {between read rested : σ} {now : Nat}
      {left : Program (Except RunError Bool)}
      (looking : Runs answers (handle.hasExited Program.patience) before events
        (.done (.ok false)) between)
      (reads : answers between .clock now read)
      (notUp : now < deadline)
      (rests : answers read (.sleep (min pollInterval (deadline - now))) () rested)
      (goesOn : Runs answers (exitsBefore handle deadline rounds) rested others left after) :
      Round answers handle deadline rounds before after
        (events ++
          ⟨.clock, now⟩ :: ⟨.sleep (min pollInterval (deadline - now)), ()⟩ :: others) left

theorem round_of_runs
    {σ : Type}
    {answers : System σ}
    {handle : Handle}
    {deadline rounds : Nat}
    {before after : σ}
    {events : List Event}
    {left : Program (Except RunError Bool)}
    (runs : Runs answers (exitsBefore handle deadline (rounds + 1)) before events left after) :
    Round answers handle deadline rounds before after events left := by
  rw [exitsBefore] at runs
  rcases runs.bind_cases with
    ⟨looked, notYet, rfl, looking⟩ | ⟨first, second, answer, between, rfl, looking, goesOn⟩
  · have makes := ((handle.makes_hasExited _).of_runs looking).2
    cases looked with
    | done answer => exact absurd rfl (notYet answer)
    | exhausted =>
        exact .looking looking (fun _ isDone => by cases isDone)
          (fun _ _ isCall => by cases isCall) fun _ => rfl
    | call request resume =>
        refine .looking looking (fun _ isDone => by cases isDone) ?_
          fun isExhausted => by cases isExhausted
        rintro _ _ ⟨⟩
        exact makes.1
  · rcases answer with cause | (_ | _)
    · cases goesOn
      rw [List.append_nil]
      exact .told looking (by simp) fun _ isOk => by cases isOk
    · cases goesOn with
      | stop =>
          rw [List.append_nil]
          exact .asking looking
      | @call _ _ _ read _ now _ _ reads goesOn =>
      change Runs answers (if deadline ≤ now then _ else _) _ _ _ _ at goesOn
      split at goesOn
      · cases goesOn
        exact .up looking reads ‹_›
      · have notUp : now < deadline := Nat.lt_of_not_le ‹_›
        cases goesOn with
        | stop => exact .resting looking reads notUp
        | call rests goesOn => exact .again looking reads notUp rests goesOn
    · cases goesOn
      rw [List.append_nil]
      refine .told looking (by simp) ?_
      rintro _ ⟨⟩
      rfl

/-! ## Looking until the time is up -/

section ExitsBefore

variable {handle : Handle} {deadline rounds before after : Nat} {events : List Event}

/-- What is known when the time is up: the command has been looked at, and every look has
told that it goes on. -/
theorem inVain_of_runs_exitsBefore
    (runs : Runs ticking (exitsBefore handle deadline rounds) before events
      (.done (.ok false)) after) :
    handle.collected = false ∧ deadline ≤ after ∧ looks events ≠ [] ∧
      ∀ answer ∈ looks events, answer = .ok false := by
  induction rounds generalizing before events with
  | zero => cases runs
  | succ rounds inductionHypothesis =>
      cases round_of_runs runs with
      | looking _ notDone => exact absurd rfl (notDone _)
      | told _ notFalse tells => exact absurd (tells _ rfl) notFalse
      | up looking reads isUp =>
          obtain ⟨notCollected, looked⟩ := looks_of_runs_look_false looking
          refine ⟨notCollected, isUp.trans reads.2, ?_⟩
          simp [looked]
      | again looking _ _ _ goesOn =>
          obtain ⟨notCollected, looked⟩ := looks_of_runs_look_false looking
          obtain ⟨-, late, -, inVain⟩ := inductionHypothesis goesOn
          refine ⟨notCollected, late, ?_⟩
          simpa [looked] using inVain

/-- What is known when the command counts as one that has exited. -/
theorem seen_of_runs_exitsBefore
    {σ : Type}
    {answers : System σ}
    {before after : σ}
    (runs : Runs answers (exitsBefore handle deadline rounds) before events
      (.done (.ok true)) after) :
    handle.collected = true ∨ .ok true ∈ looks events := by
  induction rounds generalizing before events with
  | zero => cases runs
  | succ rounds inductionHypothesis =>
      cases round_of_runs runs with
      | looking _ notDone => exact absurd rfl (notDone _)
      | told looking _ tells =>
          obtain rfl := tells _ rfl
          rcases (looks_of_runs_look looking).2 _ rfl with ⟨-, looked⟩ | ⟨collected, -⟩
          · exact .inr (by simp [looked])
          · exact .inl collected
      | again _ _ _ _ goesOn =>
          have seen := inductionHypothesis goesOn
          exact seen.imp_right fun isMember => by simp [isMember]

/-- Before a rest the clock has been read, and what is left until the time is up is more
than nothing. -/
theorem rests_of_runs_exitsBefore
    {σ : Type}
    {answers : System σ}
    {before after : σ}
    {pause : Nat}
    {resume : Unit → Program (Except RunError Bool)}
    (runs : Runs answers (exitsBefore handle deadline rounds) before events
      (.call (.sleep pause) resume) after) :
    ∃ earlier now, events = earlier ++ [⟨.clock, now⟩] ∧ now < deadline ∧
      pause = min pollInterval (deadline - now) := by
  induction rounds generalizing before events with
  | zero => cases runs
  | succ rounds inductionHypothesis =>
      cases round_of_runs runs with
      | looking _ _ sameCall => exact (sameCall _ _ rfl).elim
      | resting _ _ notUp => exact ⟨_, _, rfl, notUp, rfl⟩
      | @again first _ _ _ _ reading _ _ _ _ _ goesOn =>
          obtain ⟨earlier, now, rfl, notUp, isPause⟩ := inductionHypothesis goesOn
          refine ⟨first ++ ⟨.clock, reading⟩ ::
            ⟨.sleep (min pollInterval (deadline - reading)), ()⟩ :: earlier, now, ?_, notUp,
            isPause⟩
          rw [List.append_assoc]
          rfl

/-- After a rest, the time is up or a whole interval has passed. -/
theorem late_or_interval_of_rests
    {read rested now : Nat}
    (reads : now ≤ read)
    (rests : read + min pollInterval (deadline - now) ≤ rested) :
    deadline ≤ rested ∨ now + pollInterval ≤ rested := by
  omega

/-- All looks but the last two are followed by a rest of a whole interval. -/
theorem lt_deadline_of_runs_exitsBefore
    {left : Program (Except RunError Bool)}
    {count : Nat}
    (runs : Runs ticking (exitsBefore handle deadline rounds) before events left after)
    (isCount : (looks events).length = count + 2) :
    before + count * pollInterval < deadline := by
  -- A round that rests takes its own look off the count, and a whole interval off the time
  -- that is left; only the rest before the last look may be cut short.
  induction rounds generalizing before events count with
  | zero =>
      cases runs
      simp at isCount
  | succ rounds inductionHypothesis =>
      cases round_of_runs runs with
      | looking looking | told looking | asking looking =>
          have atMostOne := (looks_of_runs_look looking).1
          omega
      | up looking | resting looking =>
          have atMostOne := (looks_of_runs_look looking).1
          simp only [looks_append, looks_clock, looks_nil, List.append_nil] at isCount
          omega
      | @again first others between read rested now _ looking reads notUp rests goesOn =>
          have started : before ≤ now := (le_of_runs_ticking looking).trans reads.1
          obtain ⟨-, looked⟩ := looks_of_runs_look_false looking
          have isCount : (looks others).length = count + 1 := by
            simp only [looks_append, looked, looks_clock, looks_sleep, List.length_append,
              List.length_singleton] at isCount
            omega
          cases count with
          | zero => omega
          | succ count =>
              have notLate := inductionHypothesis goesOn isCount
              have rested := late_or_interval_of_rests reads.2 rests
              rw [Nat.add_mul]
              omega

/-- Looks of which none is answered. -/
def EndsInterrupted (process : ProcessId) (events : List Event) : Prop :=
  ∃ earlier, events = earlier ++ List.replicate Program.patience (Wait.interruptedPoll process)

theorem endsInterrupted_of_runs_look
    {σ : Type}
    {answers : System σ}
    {before after : σ}
    (runs : Runs answers (handle.hasExited Program.patience) before events .exhausted after) :
    EndsInterrupted handle.process events := by
  unfold Handle.hasExited at runs
  split at runs
  · cases runs
  · rw [← bind_pure (Wait.hasExited _ _)] at runs
    refine ⟨[], Wait.exhausted_of_runs_hasExited_bind (fun _ => ?_) runs⟩
    trivial

/-- With enough rounds, the time is up before they are. -/
theorem endsInterrupted_of_runs_exitsBefore
    (runs : Runs ticking (exitsBefore handle deadline (rounds + 1)) before events .exhausted
      after)
    (enough : deadline ≤ before + rounds * pollInterval) :
    EndsInterrupted handle.process events := by
  -- The rounds that are left are more than the intervals that are left.
  induction rounds generalizing before events with
  | zero =>
      cases round_of_runs runs with
      | looking looking _ _ usesUp =>
          obtain rfl := usesUp rfl
          exact endsInterrupted_of_runs_look looking
      | again looking reads notUp =>
          have started := (le_of_runs_ticking looking).trans reads.1
          omega
  | succ rounds inductionHypothesis =>
      cases round_of_runs runs with
      | looking looking _ _ usesUp =>
          obtain rfl := usesUp rfl
          exact endsInterrupted_of_runs_look looking
      | @again first others between read rested now _ looking reads notUp rests goesOn =>
          have started := (le_of_runs_ticking looking).trans reads.1
          have enough : deadline ≤ rested + rounds * pollInterval := by
            have rested := late_or_interval_of_rests reads.2 rests
            rw [Nat.add_mul] at enough
            omega
          obtain ⟨earlier, rfl⟩ := inductionHypothesis goesOn enough
          refine ⟨first ++ ⟨.clock, now⟩ ::
            ⟨.sleep (min pollInterval (deadline - now)), ()⟩ :: earlier, ?_⟩
          rw [List.append_assoc]
          rfl

end ExitsBefore

/-! ## Looking for a while -/

/-- The clock reaches the end of a limit. -/
def Fits (began : Nat) (limit : Duration) : Prop :=
  began + limit.nanoseconds < clockBound * nanosPerSecond

/-- What is done about a limit whose end the clock does not reach. -/
def waitUnbounded (limit : Duration) : Program (Except RunError Bool) := do
  Program.log .debug none
    ("timeout of " ++ limit.display
      ++ " is unbounded; waiting without a deadline")
  pure (.ok true)

/-- The time is up: the clock says so, the command has been looked at, and every look has
told that it goes on.  No signal has been sent meanwhile. -/
structure IsUp (limit : Duration) (began : Nat) (looking : List Event) (now : Nat) :
    Prop where
  fits : Fits began limit
  elapsed : began + limit.nanoseconds ≤ now
  looked : looks looking ≠ []
  inVain : ∀ answer ∈ looks looking, answer = .ok false
  silent : sentSignals looking = []

theorem sentSignals_of_bides
    {process : ProcessId}
    {events : List Event}
    (biding : ∀ event ∈ events, bides process event.1) :
    sentSignals events = [] := by
  refine sentSignals_eq_nil fun event isMember child number isSignal => ?_
  have bidesSignal := biding event isMember
  rw [isSignal] at bidesSignal
  exact bidesSignal

/-- There is a reason to spare the command: the clock does not reach the end of the limit,
the command has been collected, or a look has told that it does not go on. -/
def IsSpared (handle : Handle) (limit : Duration) (began : Nat) (looking : List Event) :
    Prop :=
  ¬Fits began limit ∨ handle.collected = true ∨ .ok true ∈ looks looking

/-- A note in the log does not matter. -/
theorem IsUp.log
    {limit : Duration}
    {began now later : Nat}
    {looking : List Event}
    (isUp : IsUp limit began looking now)
    (isLater : now ≤ later)
    (record : LogRecord) :
    IsUp limit began (looking ++ [⟨.log record, ()⟩]) later where
  fits := isUp.fits
  elapsed := isUp.elapsed.trans isLater
  looked := by simpa using isUp.looked
  inVain := by simpa using isUp.inVain
  silent := by
    rw [sentSignals_append, isUp.silent]
    rfl

section ExitsWithin

variable {σ : Type} {answers : System σ} {handle : Handle} {limit : Duration}
  {events : List Event}

/-- Looking for a while begins with reading the clock, which tells until when. -/
theorem runs_exitsWithin_cases
    {before after : σ}
    {left : Program (Except RunError Bool)}
    (runs : Runs answers (exitsWithin handle limit) before events left after) :
    (events = [] ∧ ∃ resume : Nat → Program (Except RunError Bool),
        left = .call .clock resume) ∨
      ∃ (began : Nat) (next : σ) (rest : List Event), events = ⟨.clock, began⟩ :: rest ∧
        answers before .clock began next ∧
          (¬Fits began limit ∧ Runs answers (waitUnbounded limit) next rest left after ∨
            Fits began limit ∧
              Runs answers (exitsBefore handle (began + limit.nanoseconds)
                (limit.nanoseconds / pollInterval + Program.patience)) next rest left
                after) := by
  cases runs with
  | stop => exact .inl ⟨rfl, _, rfl⟩
  | @call _ _ _ next _ began _ _ reads rest =>
      refine .inr ⟨began, next, _, rfl, reads, ?_⟩
      change Runs answers (if clockBound * nanosPerSecond ≤ began + limit.nanoseconds
        then waitUnbounded limit else _) _ _ _ _ at rest
      split at rest
      · exact .inl ⟨Nat.not_lt.mpr ‹_›, rest⟩
      · exact .inr ⟨Nat.lt_of_not_le ‹_›, rest⟩

variable {start now : Nat}

/-- If looking for a while has come to its end in vain, the time is up. -/
theorem isUp_of_runs_exitsWithin
    (runs : Runs ticking (exitsWithin handle limit) start events (.done (.ok false)) now) :
    handle.collected = false ∧ ∃ began looking, events = ⟨.clock, began⟩ :: looking ∧
      start ≤ began ∧ IsUp limit began looking now := by
  rcases runs_exitsWithin_cases runs with
    ⟨-, resume, isCall⟩ | ⟨began, next, looking, rfl, reads, ⟨-, waits⟩ | ⟨fits, looks⟩⟩
  · cases isCall
  · cases waits with
    | call _ rest => cases rest
  · obtain ⟨notCollected, elapsed, looked, inVain⟩ := inVain_of_runs_exitsBefore looks
    have silent := sentSignals_of_bides ((makes_exitsBefore handle _ _).of_runs looks).1
    exact ⟨notCollected, began, looking, rfl, reads.1,
      ⟨fits, elapsed, looked, inVain, silent⟩⟩

/-- If looking for a while has come to its end otherwise, there is a reason to spare the
command. -/
theorem isSpared_of_runs_exitsWithin
    {before after : σ}
    (runs : Runs answers (exitsWithin handle limit) before events (.done (.ok true)) after) :
    ∃ began looking, events = ⟨.clock, began⟩ :: looking ∧
      IsSpared handle limit began looking := by
  rcases runs_exitsWithin_cases runs with
    ⟨-, resume, isCall⟩ | ⟨began, next, looking, rfl, -, ⟨notFits, -⟩ | ⟨-, looks⟩⟩
  · cases isCall
  · exact ⟨began, looking, rfl, .inl notFits⟩
  · exact ⟨began, looking, rfl, .inr (seen_of_runs_exitsBefore looks)⟩

/-- Nothing but a note in the log is made of a limit that does not fit the clock. -/
theorem logs_of_runs_waitUnbounded_bind
    {α : Type}
    {before after : σ}
    {next : Except RunError Bool → Program α}
    {result : α}
    {left : Program α}
    (runs : Runs answers (waitUnbounded limit >>= next) before events left after)
    (ends : next (.ok true) = .done result) :
    ∀ event ∈ events, ∃ record, event.1 = .log record := by
  cases runs with
  | stop => exact List.forall_mem_nil _
  | call _ rest =>
      change Runs answers (next (.ok true)) _ _ _ _ at rest
      rw [ends] at rest
      cases rest
      exact List.forall_mem_singleton.mpr ⟨_, rfl⟩

end ExitsWithin

/-! ## What a limit comes to -/

/-- What is done within a time limit.  A time that is up is up at the end of it, and the
command has been looked at; otherwise there is a reason to spare the command.  The time that
is left is only computed while some is left.  There are at most as many looks as there are
intervals in the limit, and one more; the rounds are used up only by a look of which every
call is interrupted. -/
structure WatchesFor (handle : Handle) (limit : Duration) : Prop where
  elapsed : ∀ {start now : Nat} {events : List Event},
    Runs ticking (exitsWithin handle limit) start events (.done (.ok false)) now →
      start + limit.nanoseconds ≤ now ∧ looks events ≠ [] ∧
        ∀ answer ∈ looks events, answer = .ok false
  spared : ∀ {start now : Nat} {events : List Event},
    Runs ticking (exitsWithin handle limit) start events (.done (.ok true)) now →
      ∃ began looking, events = ⟨.clock, began⟩ :: looking ∧
        IsSpared handle limit began looking
  rests : ∀ {start now pause : Nat} {events : List Event} {resume : Unit → _},
    Runs ticking (exitsWithin handle limit) start events (.call (.sleep pause) resume) now →
      ∃ began earlier reading,
        events = ⟨.clock, began⟩ :: (earlier ++ [⟨.clock, reading⟩]) ∧
          reading < began + limit.nanoseconds ∧
            pause = min pollInterval (began + limit.nanoseconds - reading)
  bounded : ∀ {start now : Nat} {events : List Event} {left : Program (Except RunError Bool)},
    Runs ticking (exitsWithin handle limit) start events left now →
      (looks events).length ≤
        (limit.nanoseconds + pollInterval - 1) / pollInterval + 1
  returns : ∀ {start now : Nat} {events : List Event},
    Runs ticking (exitsWithin handle limit) start events .exhausted now →
      EndsInterrupted handle.process events

theorem watchesFor (handle : Handle) (limit : Duration) : WatchesFor handle limit where
  elapsed runs := by
    obtain ⟨-, began, looking, rfl, started, isUp⟩ := isUp_of_runs_exitsWithin runs
    refine ⟨?_, isUp.looked, isUp.inVain⟩
    have elapsed := isUp.elapsed
    omega
  spared runs := isSpared_of_runs_exitsWithin runs
  rests runs := by
    rcases runs_exitsWithin_cases runs with
      ⟨-, resume, isCall⟩ | ⟨began, next, rest, rfl, -, ⟨-, waits⟩ | ⟨-, looks⟩⟩
    · cases isCall
    · cases waits with
      | call _ rest => cases rest
    · obtain ⟨earlier, reading, rfl, notUp, isPause⟩ := rests_of_runs_exitsBefore looks
      exact ⟨began, earlier, reading, rfl, notUp, isPause⟩
  bounded runs := by
    rcases runs_exitsWithin_cases runs with
      ⟨rfl, -⟩ | ⟨began, next, rest, rfl, reads, ⟨-, waits⟩ | ⟨-, looking⟩⟩
    · exact Nat.zero_le _
    · rw [← bind_pure (waitUnbounded limit)] at waits
      rw [looks_clock, looks_eq_nil_of_logs (logs_of_runs_waitUnbounded_bind waits rfl)]
      exact Nat.zero_le _
    · rw [looks_clock]
      unfold pollInterval
      by_contra tooMany
      obtain ⟨count, isCount⟩ : ∃ count, (looks rest).length = count + 2 :=
        ⟨(looks rest).length - 2, by omega⟩
      have notLate := lt_deadline_of_runs_exitsBefore looking isCount
      have started : began ≤ next := reads.2
      unfold pollInterval at notLate
      omega
  returns runs := by
    rcases runs_exitsWithin_cases runs with
      ⟨-, resume, isCall⟩ | ⟨began, next, rest, rfl, reads, ⟨-, waits⟩ | ⟨-, looking⟩⟩
    · cases isCall
    · cases waits with
      | call _ rest => cases rest
    · -- There is a round for the last look, and one for an interval that is cut short.
      have enough : began + limit.nanoseconds ≤
          next + (limit.nanoseconds / pollInterval + 99999999) * pollInterval := by
        have started : began ≤ next := reads.2
        unfold pollInterval
        omega
      obtain ⟨earlier, rfl⟩ := endsInterrupted_of_runs_exitsBefore looking enough
      exact ⟨⟨.clock, began⟩ :: earlier, rfl⟩

end Runner
end ChildProcess
