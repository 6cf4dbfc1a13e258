import ChildProcess.Proofs.Waiting.RememberedCode

/-!
# Signals to a child that is gone

The number of a child is its own until the child has been collected, and may belong to
another process afterwards.  The operating system says so in two ways: it knows no such
child any more, or it hands over the child's end.  A wait writes down what it learns, and
no operation after it makes a call.  A look writes nothing down: whatever it has learnt,
the next interruption signals the number all the same.
-/

namespace ChildProcess

open Program (Runs)
open Session (HandleUse HandleAnswer)

/-! ## What the events tell -/

/-- The operating system has answered that a child is gone: it knows no such child, or it
has handed over how the child has ended. -/
def TellsGone (process : ProcessId) : Event → Prop
  | ⟨.childReport child, .error errno⟩ => child = process ∧ errno = Errno.ECHILD
  | ⟨.collect child _, .error errno⟩ => child = process ∧ errno = Errno.ECHILD
  | ⟨.collect child _, .ok (collected, word)⟩ =>
      child = process ∧ collected ≠ 0 ∧ word.finalCode?.isSome = true
  | _ => False

/-- Some events tell that a child is gone. -/
def IsFoundGone (process : ProcessId) (events : List Event) : Prop :=
  ∃ event ∈ events, TellsGone process event

/-- The signals that are sent, with the processes that they are sent to. -/
def sentSignals (events : List Event) : List (ProcessId × Nat) :=
  events.filterMap fun event =>
    match event with
    | ⟨.signal process number, _⟩ => some (process, number)
    | _ => none

section Events

variable {process : ProcessId} {events : List Event}

/-- An event behind others tells what they have told, or something of its own. -/
theorem isFoundGone_concat (event : Event) :
    IsFoundGone process (events ++ [event]) ↔
      IsFoundGone process events ∨ TellsGone process event := by
  simp only [IsFoundGone, List.mem_append, List.mem_singleton, or_and_right, exists_or,
    exists_eq_left]

/-- Nothing is told by a note in the log. -/
theorem isFoundGone_log (record : LogRecord) (answer : Unit) :
    IsFoundGone process (events ++ [⟨.log record, answer⟩]) ↔
      IsFoundGone process events := by
  rw [isFoundGone_concat]
  exact or_iff_left id

theorem sentSignals_eq_nil
    (noSignal : ∀ event ∈ events, ∀ child number, event.1 ≠ .signal child number) :
    sentSignals events = [] := by
  refine List.filterMap_eq_nil_iff.mpr ?_
  rintro ⟨request, answer⟩ isMember
  cases request with
  | signal child number => exact absurd rfl (noSignal _ isMember child number)
  | _ => rfl

theorem sentSignals_append (first second : List Event) :
    sentSignals (first ++ second) = sentSignals first ++ sentSignals second :=
  List.filterMap_append

end Events

/-! ## What a wait finds -/

namespace Wait

open Handle (anything)

variable {process : ProcessId} {history : List Event}

/-- A poll fails with the error for unknown children exactly if it finds the child gone. -/
theorem ensures_poll_gone
    (rounds : Nat)
    (notYet : ¬IsFoundGone process history) :
    (poll rounds process).Ensures { answers := anything }
      (fun later _ answer =>
        IsFoundGone process later ↔ answer = .error Errno.ECHILD)
      history () := by
  rw [poll, Program.ensures_bind]
  refine Program.ensures_retrying (fun later _ => ¬IsFoundGone process later) trivial ?_
    rounds notYet
  intro later _ notYet
  refine ⟨trivial, fun answer after _ => ?_⟩
  rcases answer with errno | report
  · have finds : IsFoundGone process (later ++ [⟨.childReport process, .error errno⟩]) ↔
        errno = Errno.ECHILD := by
      rw [isFoundGone_concat, or_iff_right notYet]
      exact and_iff_right rfl
    refine ⟨?_, fun _ => ?_⟩
    · rintro ⟨⟩
      rw [finds]
      decide
    · simpa [Except.map] using finds
  · refine ⟨by rintro ⟨⟩, fun _ => iff_of_false ?_ (by rintro ⟨⟩)⟩
    rw [isFoundGone_concat, or_iff_right notYet]
    exact id

/-- Nothing is found while time passes or something is noted in the log. -/
theorem ensures_silent {α : Type}
    {program : Program α}
    (makes : program.Makes fun request =>
      ∀ answer, ¬TellsGone process ⟨request, answer⟩)
    (notYet : ¬IsFoundGone process history) :
    program.Ensures { answers := anything }
      (fun later _ _ => ¬IsFoundGone process later) history () := by
  refine makes.ensures (fun later _ => ¬IsFoundGone process later) trivial ?_ ?_ notYet
  · intros
    trivial
  · intro later _ request answer _ notYet silent _
    rw [isFoundGone_concat, or_iff_right notYet]
    exact silent answer

/-- Asking again and again yields no code exactly if it finds the child gone. -/
theorem ensures_awaitCode_gone
    (rounds more polls : Nat)
    (notYet : ¬IsFoundGone process history) :
    (awaitCode rounds process more polls).Ensures { answers := anything }
      (fun later _ answer => IsFoundGone process later ↔ answer = .ok none)
      history () := by
  induction more generalizing polls history with
  | zero => trivial
  | succ more inductionHypothesis =>
      rw [awaitCode, Program.ensures_bind]
      refine (ensures_poll_gone rounds notYet).mono ?_
      rintro later _ (errno | status) finds
      · dsimp only
        split
        · next unknown =>
          refine ⟨trivial, fun _ _ _ => (isFoundGone_log _ _).trans ?_⟩
          simpa [unknown] using finds
        · next other => simpa [other] using finds
      · have notYet : ¬IsFoundGone process later := by simp [finds]
        dsimp only
        cases status.exitCode? with
        | some code => simpa using notYet
        | none =>
            dsimp only
            rw [Program.ensures_bind]
            have rests : (rest (polls + 1)).Makes fun request =>
                ∀ answer, ¬TellsGone process ⟨request, answer⟩ := by
              unfold rest
              split <;> exact ⟨fun _ => id, fun _ => trivial⟩
            refine (ensures_silent rests notYet).mono fun later _ _ notYet => ?_
            exact inductionHypothesis (polls + 1) notYet

/-- Collecting yields a final code exactly if it finds the child gone. -/
theorem ensures_collect_gone
    (rounds : Nat)
    (seen : Int)
    (notYet : ¬IsFoundGone process history) :
    (collect rounds process seen).Ensures { answers := anything }
      (fun later _ final? => IsFoundGone process later ↔ final?.isSome = true)
      history () := by
  rw [collect, Program.ensures_bind]
  refine Program.ensures_retrying (fun later _ => ¬IsFoundGone process later) trivial ?_
    rounds notYet
  intro later _ notYet
  refine ⟨trivial, fun answer after _ => ?_⟩
  rcases answer with errno | ⟨collected, word⟩
  · have finds :
        IsFoundGone process
            (later ++ [⟨.collect process .immediately, .error errno⟩]) ↔
          errno = Errno.ECHILD := by
      rw [isFoundGone_concat, or_iff_right notYet]
      exact and_iff_right rfl
    refine ⟨?_, fun _ => ?_⟩
    · rintro ⟨⟩
      rw [finds]
      decide
    · dsimp only
      split
      · next unknown => simpa [unknown] using finds
      · next other =>
        refine ⟨trivial, fun _ _ _ => (isFoundGone_log _ _).trans ?_⟩
        simpa [other] using finds
  · refine ⟨by rintro ⟨⟩, fun _ => ?_⟩
    have finds :
        IsFoundGone process
            (later ++ [⟨.collect process .immediately, .ok (collected, word)⟩]) ↔
          collected ≠ 0 ∧ word.finalCode?.isSome = true := by
      rw [isFoundGone_concat, or_iff_right notYet]
      exact and_iff_right rfl
    by_cases nothing : collected = 0
    · simpa [nothing] using finds
    · simpa [nothing] using finds

/-- A wait counts the child as collected exactly if it finds it gone. -/
theorem ensures_waitFor_gone
    (rounds : Nat)
    (notYet : ¬IsFoundGone process history) :
    (waitFor rounds process).Ensures { answers := anything }
      (fun later _ answer =>
        IsFoundGone process later ↔ ∃ code, answer = .ok ⟨code, true⟩)
      history () := by
  rw [waitFor, Program.ensures_bind]
  refine (ensures_awaitCode_gone rounds rounds 0 notYet).mono ?_
  rintro later _ (cause | (_ | seen)) finds
  · simpa using finds
  · simpa using finds
  · have notYet : ¬IsFoundGone process later := by simp [finds]
    dsimp only
    rw [Program.ensures_bind]
    refine (ensures_collect_gone rounds seen notYet).mono fun later _ final? finds => ?_
    refine ⟨trivial, fun _ _ _ => (isFoundGone_log _ _).trans (finds.trans ?_)⟩
    cases final? <;> simp

end Wait

namespace Handle

variable {handle last : Handle} {rounds : Nat}

/-! ## What an operation sends -/

/-- The signals that an operation is there to send. -/
def Operation.signals (process : ProcessId) : Operation → List (ProcessId × Nat)
  | .use (.interrupt force) =>
      [(process, if force then Wait.killSignal else Wait.terminationSignal)]
  | _ => []

/-- Nothing but an interruption sends a signal. -/
theorem makes_use_of_ne_interrupt
    {use : HandleUse}
    (noInterruption : ∀ force, use ≠ .interrupt force) :
    (handle.use rounds use).Makes fun request =>
      ∀ child number, request ≠ .signal child number := by
  have noSignal : ∀ request, Wait.awaits handle.process request →
      ∀ child number, request ≠ .signal child number := by
    rintro _ awaiting child number rfl
    exact awaiting.elim id id
  cases use with
  | id => trivial
  | interrupt force => exact absurd rfl (noInterruption force)
  | wait =>
      refine Program.makes_bind ?_ fun answer => ?_
      · unfold waitFor
        split
        · trivial
        · refine Program.makes_bind ((Wait.makes_waitFor rounds _).mono noSignal) ?_
          rintro (cause | outcome) <;> trivial
      · rcases answer with ⟨cause | code, next⟩ <;> trivial
  | exited =>
      refine Program.makes_bind ?_ fun answer => ?_
      · unfold hasExited
        split
        · trivial
        · exact (Wait.makes_hasExited rounds _).mono fun request watching =>
            noSignal request (.inl watching)
      · cases answer <;> trivial

/-- An interruption sends one signal as long as the child does not count as collected. -/
theorem ensures_use_interrupt
    (notCollected : handle.collected = false)
    (force : Bool) :
    (handle.use rounds (.interrupt force)).Ensures { answers := anything }
      (fun later _ _ =>
        sentSignals later = Operation.signals handle.process (.use (.interrupt force)))
      [] () := by
  rw [use, interrupt, notCollected, if_neg Bool.false_ne_true]
  refine ⟨trivial, fun _ _ _ => ⟨trivial, fun answer _ _ => ?_⟩⟩
  cases answer <;> rfl

namespace Turn

variable {turn : Turn}

/-- As long as the child does not count as collected, an operation sends what it is there
to send. -/
theorem Happens.sentSignals_eq
    (happens : turn.Happens rounds)
    (notCollected : turn.before.collected = false) :
    sentSignals turn.events = turn.operation.signals turn.before.process := by
  cases operation : turn.operation with
  | take stream =>
      rw [(happens.of_take operation).1]
      rfl
  | use use =>
      obtain ⟨answer, -, runs⟩ := happens.of_use operation
      by_cases interrupts : ∃ force, use = .interrupt force
      · obtain ⟨force, rfl⟩ := interrupts
        exact (ensures_use_interrupt notCollected force).of_runs runs
      · have noInterruption : ∀ force, use ≠ .interrupt force :=
          fun force same => interrupts ⟨force, same⟩
        have makes : (turn.before.use rounds use).Makes fun request =>
            ∀ child number, request ≠ .signal child number :=
          makes_use_of_ne_interrupt noInterruption
        rw [sentSignals_eq_nil (makes.of_runs runs).1]
        cases use with
        | interrupt force => exact absurd rfl (noInterruption force)
        | _ => rfl

/-! ## What a wait writes down -/

/-- A wait that asks finds the child gone exactly if the child counts as collected from
then on. -/
theorem AsksAgain.isFoundGone_iff
    (asks : turn.AsksAgain rounds)
    (notCollected : turn.before.collected = false) :
    IsFoundGone turn.before.process turn.events ↔ turn.after.collected = true := by
  obtain ⟨-, outcome, runs, -, isAfter⟩ := asks
  have nothing : ¬IsFoundGone turn.before.process [] := by simp [IsFoundGone]
  have finds : IsFoundGone turn.before.process turn.events ↔
      ∃ code, outcome = .ok ⟨code, true⟩ :=
    (Wait.ensures_waitFor_gone rounds nothing).of_runs runs
  rw [finds, isAfter]
  rcases outcome with cause | ⟨code, collected⟩
  · simp [learn, notCollected]
  · simp [learn]

/-- The child counts as collected from the first wait on that finds it gone. -/
theorem Happens.collected_iff
    (happens : turn.Happens rounds)
    (sound : turn.before.IsSound) :
    turn.after.collected = true ↔
      turn.before.collected = true ∨
        turn.operation = .use .wait ∧ IsFoundGone turn.before.process turn.events := by
  cases collected : turn.before.collected with
  | true =>
      obtain ⟨code, knows⟩ := sound.knows collected
      simpa using (happens.of_knows knows).2.2.1.1
  | false =>
      by_cases waits : turn.operation = .use .wait
      · simpa [waits] using
          ((happens.asksAgain waits collected).isFoundGone_iff collected).symm
      · simp [waits, (happens.keeps_of_ne_wait waits).2.2, collected]

end Turn

/-! ## All operations -/

/-- One of some operations is a wait that finds the child gone. -/
def WaitFindsGone (process : ProcessId) (turns : List Turn) : Prop :=
  ∃ turn ∈ turns, turn.operation = .use .wait ∧ IsFoundGone process turn.events

/-- Along a history, the child counts as collected exactly if a wait has found it gone. -/
theorem History.collected_iff
    {turns : List Turn}
    (history : History rounds handle turns last)
    (sound : handle.IsSound) :
    last.collected = true ↔
      handle.collected = true ∨ WaitFindsGone handle.process turns := by
  induction history with
  | nil handle => simp [WaitFindsGone]
  | @cons turn turns last happens others inductionHypothesis =>
      rw [inductionHypothesis (happens.isSound sound), happens.process_eq sound,
        happens.collected_iff sound, or_assoc]
      simp [WaitFindsGone]

/-- Which signals are sent along a history. -/
structure SignalsInTime (handle : Handle) (turns : List Turn) : Prop where
  /-- A wait that finds the child gone is answered by a code. -/
  tells : ∀ turn ∈ turns, turn.operation = .use .wait →
    IsFoundGone handle.process turn.events → ∃ code, turn.reply = .answer (.code code)
  /-- After such a wait no operation makes a call. -/
  spares : ∀ earlier turn later, turns = earlier ++ turn :: later →
    handle.collected = true ∨ WaitFindsGone handle.process earlier → turn.events = []
  /-- Until then an interruption sends its one signal, whatever a look has found, and no
  other operation sends any. -/
  sends : ∀ earlier turn later, turns = earlier ++ turn :: later →
    ¬(handle.collected = true ∨ WaitFindsGone handle.process earlier) →
      sentSignals turn.events = turn.operation.signals handle.process

/-- Whatever the operating system answers, and in whatever order a handle is used, the
number of a child is never signalled after a wait has found the child gone, and every
interruption before that signals it. -/
theorem signalsInTime_of_history
    {turns : List Turn}
    (sound : handle.IsSound)
    (history : History rounds handle turns last) :
    SignalsInTime handle turns := by
  constructor
  case tells =>
    intro turn isMember waits finds
    obtain ⟨happens, soundBefore, sameProcess⟩ := history.of_mem sound isMember
    rw [← sameProcess] at finds
    have isCollected : turn.after.collected = true :=
      (happens.collected_iff soundBefore).mpr (.inr ⟨waits, finds⟩)
    obtain ⟨code, isReply, -⟩ := happens.knows_of_collected soundBefore waits isCollected
    exact ⟨code, isReply⟩
  case spares =>
    rintro earlier turn later rfl found
    obtain ⟨middle, first, second⟩ := history.of_append
    cases second with
    | cons happens others =>
        have isCollected := (first.collected_iff sound).mpr found
        obtain ⟨code, knows⟩ := (first.isSound sound).knows isCollected
        exact (happens.of_knows knows).1
  case sends =>
    rintro earlier turn later rfl notFound
    obtain ⟨middle, first, second⟩ := history.of_append
    cases second with
    | cons happens others =>
        have notCollected : turn.before.collected = false := by
          rw [← Bool.not_eq_true, first.collected_iff sound]
          exact notFound
        rw [happens.sentSignals_eq notCollected, first.process_eq sound]

/-- An interruption before the child counts as collected may be refused. -/
theorem exists_happens_interrupt
    (handle : Handle)
    (notCollected : handle.collected = false)
    (force : Bool) :
    ∃ record,
      Turn.Happens rounds
        ⟨handle, .use (.interrupt force),
          [⟨.log record, ()⟩,
            ⟨.signal handle.process
              (if force then Wait.killSignal else Wait.terminationSignal),
              .error Errno.ESRCH⟩],
          .answer (.failed (.signal handle.process)), handle⟩ := by
  have logs : ∀ record, anything () (.log record) () () := fun _ => trivial
  have refuses : ∀ number,
      anything () (.signal handle.process number) (.error Errno.ESRCH) () := fun _ => trivial
  unfold Turn.Happens
  dsimp only [operate, use, interrupt]
  rw [notCollected, if_neg nofun]
  exact ⟨_, .call (logs _) <| .call (refuses _) <| .stop _ _⟩

/-- A look and a wait both find the child gone, and only the wait puts an end to the
signals. -/
theorem signalsInTime_of_history_with_look_and_wait :
    let handle : Handle := { process := 7, streams := ⟨none, none, none⟩ }
    handle.IsSound ∧
      ∃ turns last,
        History 1 handle turns last ∧
          turns.map (fun turn => (turn.operation, sentSignals turn.events)) =
              [(.use .exited, []), (.use (.interrupt false), [(7, 15)]), (.use .wait, []),
                (.use (.interrupt true), [])] ∧
            SignalsInTime handle turns := by
  intro handle
  have sound : handle.IsSound := nofun
  let collected : Handle := { handle with exitCode? := some 0, collected := true }
  have unknown : anything () (.childReport 7) (.error Errno.ECHILD) () := trivial
  have standard : anything () (.disposition 17) (.ok .standard) () := trivial
  have logs : ∀ record, anything () (.log record) () () := fun _ => trivial
  have looks : Runs anything (handle.operate 1 (.use .exited)) ()
      [⟨.childReport 7, .error Errno.ECHILD⟩, ⟨.disposition 17, .ok .standard⟩]
      (.done (.answer (.flag true), handle)) () :=
    .call unknown <| .call standard <| .stop _ _
  have waits : ∃ record, Runs anything (handle.operate 1 (.use .wait)) ()
      [⟨.childReport 7, .error Errno.ECHILD⟩, ⟨.log record, ()⟩]
      (.done (.answer (.code 0), collected)) () :=
    ⟨_, .call unknown <| .call (logs _) <| .stop _ _⟩
  obtain ⟨note, waits⟩ := waits
  have looks : Turn.Happens 1 ⟨handle, .use .exited, _, .answer (.flag true), handle⟩ := looks
  have waits : Turn.Happens 1 ⟨handle, .use .wait, _, .answer (.code 0), collected⟩ := waits
  have interrupts : Turn.Happens 1
      ⟨collected, .use (.interrupt true), [], .answer .done, collected⟩ := .stop _ _
  obtain ⟨record, signals⟩ := exists_happens_interrupt handle rfl false
  have history := History.cons looks <| .cons signals <| .cons waits <|
    .cons interrupts <| .nil _
  exact ⟨sound, _, _, history, rfl, signalsInTime_of_history sound history⟩

/-! ## After a look -/

/-- An operation says that the child has exited. -/
def Turn.SaysExited (turn : Turn) : Prop :=
  turn.reply = .answer (.flag true) ∨ ∃ code, turn.reply = .answer (.code code)

/-- No signal is sent after an operation that has found the child gone and has said so. -/
def SparesGone (process : ProcessId) (turns : List Turn) : Prop :=
  ∀ earlier turn later, turns = earlier ++ turn :: later →
    turn.SaysExited → IsFoundGone process turn.events →
      ∀ next ∈ later, sentSignals next.events = []

/-- Not every history spares a child that is gone: where the operating system releases
children by itself, a look finds no such child and no entry for it and says so, and the
interruption after it signals the number. -/
theorem exists_signalled_of_history :
    let handle : Handle := { process := 7, streams := ⟨none, none, none⟩ }
    handle.IsSound ∧
      ∃ turns last,
        History 1 handle turns last ∧
          turns.map Turn.operation = [.use .exited, .use (.interrupt false)] ∧
            ¬SparesGone 7 turns := by
  intro handle
  have unknown : anything () (.childReport 7) (.error Errno.ECHILD) () := trivial
  have ignores : anything () (.disposition 17) (.ok .ignore) () := trivial
  have noEntry : anything () (.openFile (Wait.processEntry 7) .listing)
      (.error Errno.ENOENT) () := trivial
  have logs : ∀ record, anything () (.log record) () () := fun _ => trivial
  have looks : ∃ events, Runs anything (handle.operate 1 (.use .exited)) ()
      (⟨.childReport 7, .error Errno.ECHILD⟩ :: events)
      (.done (.answer (.flag true), handle)) () :=
    ⟨_, .call unknown <| .call ignores <| .call noEntry <| .call (logs _) <| .stop _ _⟩
  obtain ⟨events, looks⟩ := looks
  have looks : Turn.Happens 1 ⟨handle, .use .exited, _, .answer (.flag true), handle⟩ := looks
  obtain ⟨record, signals⟩ := exists_happens_interrupt handle rfl false
  refine ⟨nofun, _, _, .cons looks <| .cons signals <| .nil _, rfl, fun spares => ?_⟩
  have silent := spares [] _ _ rfl (.inl rfl) ⟨_, List.mem_cons_self, rfl, rfl⟩ _
    (List.mem_singleton_self _)
  cases silent

end Handle
end ChildProcess
