import ChildProcess.Proofs.Waiting.Uses

/-!
# The code that a handle remembers

A handle writes down the code of every wait that succeeds, also of one that told of a
stop and did not collect the child.  It must answer from what is written down only once
the child has been collected.  Here the operating system may answer anything at all; a
history lists the operations on one handle with their calls, and what a handle remembers
is followed from one operation to the next and so along every history.
-/

namespace ChildProcess

open Program (Runs)
open Session (HandleUse HandleAnswer)

namespace Handle

/-! ## Histories -/

/-- What the holder of a handle does with it. -/
inductive Operation
  | use (use : HandleUse)
  /-- Take a stream out of the handle. -/
  | take (stream : StandardStream)
  deriving DecidableEq, Repr

/-- The answer of an operation. -/
inductive Reply
  | answer (answer : HandleAnswer)
  /-- The stream that was taken, if it was there. -/
  | taken (stream? : Option Descriptor)
  deriving DecidableEq, Repr

/-- Carry out an operation. -/
def operate (rounds : Nat) (handle : Handle) : Operation → Program (Reply × Handle)
  | .use use => do
      let (answer, handle) ← handle.use rounds use
      pure (.answer answer, handle)
  | .take stream =>
      pure (.taken (handle.streams.get stream), handle.withoutStream stream)

/-- One operation on a handle. -/
structure Turn where
  before : Handle
  operation : Operation
  /-- The calls that are made, with their answers. -/
  events : List Event
  reply : Reply
  after : Handle

/-- The operating system may answer what it likes. -/
abbrev anything : System Unit := fun _ _ _ _ => True

/-- An operation is carried out. -/
def Turn.Happens (rounds : Nat) (turn : Turn) : Prop :=
  Runs anything (turn.before.operate rounds turn.operation) () turn.events
    (.done (turn.reply, turn.after)) ()

/-- Some operations are carried out one after another, each on the handle that the one
before it has left. -/
inductive History (rounds : Nat) : Handle → List Turn → Handle → Prop
  | nil (handle : Handle) : History rounds handle [] handle
  | cons {turn : Turn} {turns : List Turn} {last : Handle}
      (happens : turn.Happens rounds)
      (others : History rounds turn.after turns last) :
      History rounds turn.before (turn :: turns) last

/-! ## What a handle knows -/

/-- A handle whose child has been collected has a code. -/
def IsSound (handle : Handle) : Prop :=
  handle.collected = true → handle.exitCode?.isSome = true

/-- The child has been collected, and its code is written down. -/
def Knows (handle : Handle) (code : Int) : Prop :=
  handle.collected = true ∧ handle.exitCode? = some code

/-- What is answered and written down after the operating system has been asked. -/
def learn (handle : Handle) :
    Except LaunchError Wait.Outcome → HandleAnswer × Handle
  | .error cause => (.failed cause, handle)
  | .ok outcome =>
      (.code outcome.code,
        { handle with
          exitCode? := some outcome.code
          collected := outcome.collected })

/-- The operating system is asked about the child, and nothing but what it says decides
about the reply. -/
structure Turn.AsksAgain (rounds : Nat) (turn : Turn) : Prop where
  asks : ∃ report rest,
    turn.events = ⟨.childReport turn.before.process, report⟩ :: rest
  learns : ∃ outcome,
    Runs anything (Wait.waitFor rounds turn.before.process) () turn.events
        (.done outcome) () ∧
      turn.reply = .answer (turn.before.learn outcome).1 ∧
        turn.after = (turn.before.learn outcome).2

variable {handle last : Handle} {code : Int} {rounds : Nat}

theorem IsSound.knows
    (sound : handle.IsSound)
    (isCollected : handle.collected = true) :
    ∃ code, handle.Knows code := by
  obtain ⟨code, hasCode⟩ := Option.isSome_iff_exists.mp (sound isCollected)
  exact ⟨code, isCollected, hasCode⟩

theorem Knows.isSound (knows : handle.Knows code) : handle.IsSound := by
  intro _
  rw [knows.2]
  rfl

/-- Before the child has been collected, a wait does not look at what is written down. -/
theorem use_wait_eq (notCollected : handle.collected = false) :
    handle.use rounds .wait =
      Wait.waitFor rounds handle.process >>= fun outcome => pure (handle.learn outcome) := by
  rw [use, waitFor, notCollected]
  simp only [bind_assoc]
  apply bind_congr
  intro outcome
  cases outcome <;> rfl

/-- A wait that comes to a result has asked for the child first. -/
theorem exists_report_of_runs_waitFor
    {process : ProcessId}
    {events : List Event}
    {outcome : Except LaunchError Wait.Outcome}
    (runs : Runs anything (Wait.waitFor rounds process) () events (.done outcome) ()) :
    ∃ report rest, events = ⟨.childReport process, report⟩ :: rest := by
  cases rounds with
  | zero => cases runs
  | succ rounds =>
      cases runs with
      | call => exact ⟨_, _, rfl⟩

/-- Uses other than a wait write nothing down. -/
theorem ensures_use_of_ne_wait
    {use : HandleUse}
    (notWait : use ≠ .wait) :
    (handle.use rounds use).Ensures { answers := anything }
      (fun _ _ result => result.2 = handle) [] () := by
  have goesOn {α : Type} (program : Program α) (history : List Event) (state : Unit) :
      program.Ensures { answers := anything } (fun _ _ _ => True) history state :=
    Program.ensures_anything trivial (fun _ _ _ => trivial) program history state
  cases use with
  | id => rfl
  | wait => exact absurd rfl notWait
  | exited =>
      rw [Handle.use, Program.ensures_bind]
      apply (goesOn _ _ _).mono
      intro later after answer _
      cases answer <;> rfl
  | interrupt force =>
      rw [Handle.use, Program.ensures_bind]
      apply (goesOn _ _ _).mono
      intro later after answer _
      cases answer <;> rfl

/-! ## One operation -/

namespace Turn

variable {turn : Turn}

/-- Taking a stream makes no call and leaves what is written down. -/
theorem Happens.of_take
    {stream : StandardStream}
    (happens : turn.Happens rounds)
    (takes : turn.operation = .take stream) :
    turn.events = [] ∧ turn.after = turn.before.withoutStream stream ∧
      turn.reply = .taken (turn.before.streams.get stream) := by
  rw [Happens, takes, operate] at happens
  generalize turn.events = events, turn.after = after, turn.reply = reply at happens
  cases happens
  exact ⟨rfl, rfl, rfl⟩

theorem Happens.of_use
    {use : HandleUse}
    (happens : turn.Happens rounds)
    (uses : turn.operation = .use use) :
    ∃ answer, turn.reply = .answer answer ∧
      Runs anything (turn.before.use rounds use) () turn.events
        (.done (answer, turn.after)) () := by
  rw [Happens, uses, operate] at happens
  generalize turn.events = events, turn.after = after, turn.reply = reply at happens ⊢
  obtain ⟨first, second, ⟨answer, next⟩, between, rfl, runs, stops⟩ :=
    happens.of_bind_done
  cases stops
  exact ⟨answer, rfl, by simpa using runs⟩

/-- Once the child has been collected, an operation makes no call, is answered from the
code that is written down, and leaves it. -/
theorem Happens.of_knows
    (happens : turn.Happens rounds)
    (knows : turn.before.Knows code) :
    turn.events = [] ∧ turn.after.process = turn.before.process ∧ turn.after.Knows code ∧
      ∀ use, turn.operation = .use use →
        turn.reply = .answer (rememberedAnswer turn.before.process code use) := by
  cases operation : turn.operation with
  | take stream =>
      obtain ⟨noEvents, isAfter, -⟩ := happens.of_take operation
      rw [isAfter]
      exact ⟨noEvents, rfl, knows, fun _ uses => nomatch uses⟩
  | use use =>
      obtain ⟨answer, isReply, runs⟩ := happens.of_use operation
      rw [use_eq_of_collected knows.1 knows.2] at runs
      generalize turn.events = events, turn.after = after at runs ⊢
      cases runs
      refine ⟨rfl, rfl, knows, fun other same => ?_⟩
      obtain rfl : use = other := Operation.use.inj same
      exact isReply

/-- Before that, a wait asks the operating system. -/
theorem Happens.asksAgain
    (happens : turn.Happens rounds)
    (waits : turn.operation = .use .wait)
    (notCollected : turn.before.collected = false) :
    turn.AsksAgain rounds := by
  obtain ⟨answer, isReply, runs⟩ := happens.of_use waits
  rw [use_wait_eq notCollected] at runs
  obtain ⟨first, second, outcome, between, isEvents, waited, stops⟩ := runs.of_bind_done
  have learned : second = [] ∧ (answer, turn.after) = turn.before.learn outcome := by
    generalize (answer, turn.after) = result at stops ⊢
    cases stops
    exact ⟨rfl, rfl⟩
  obtain ⟨rfl, learned⟩ := learned
  rw [List.append_nil] at isEvents
  rw [← isEvents] at waited
  refine ⟨exists_report_of_runs_waitFor waited, outcome, waited, ?_, ?_⟩
  · rw [isReply, ← learned]
  · rw [← learned]

/-- An operation that is no wait leaves what is written down. -/
theorem Happens.keeps_of_ne_wait
    (happens : turn.Happens rounds)
    (notWait : turn.operation ≠ .use .wait) :
    turn.after.process = turn.before.process ∧
      turn.after.exitCode? = turn.before.exitCode? ∧
        turn.after.collected = turn.before.collected := by
  cases operation : turn.operation with
  | take stream =>
      obtain ⟨-, isAfter, -⟩ := happens.of_take operation
      rw [isAfter]
      exact ⟨rfl, rfl, rfl⟩
  | use use =>
      obtain ⟨answer, -, runs⟩ := happens.of_use operation
      have isOther : use ≠ .wait := by
        intro isWait
        exact notWait (by rw [operation, isWait])
      have same : turn.after = turn.before :=
        (ensures_use_of_ne_wait isOther).of_runs runs
      rw [same]
      exact ⟨rfl, rfl, rfl⟩

/-- A wait either asks the operating system, or answers from what is written down. -/
theorem Happens.knows_or_asksAgain
    (happens : turn.Happens rounds)
    (sound : turn.before.IsSound)
    (waits : turn.operation = .use .wait) :
    (∃ code, turn.before.Knows code) ∨ turn.AsksAgain rounds := by
  cases collected : turn.before.collected with
  | true => exact .inl (sound.knows collected)
  | false => exact .inr (happens.asksAgain waits collected)

/-- A handle stays sound. -/
theorem Happens.isSound
    (happens : turn.Happens rounds)
    (sound : turn.before.IsSound) :
    turn.after.IsSound := by
  by_cases waits : turn.operation = .use .wait
  · obtain ⟨code, knows⟩ | ⟨-, outcome, -, -, isAfter⟩ :=
      happens.knows_or_asksAgain sound waits
    · exact (happens.of_knows knows).2.2.1.isSound
    · rw [isAfter]
      cases outcome with
      | error cause => exact sound
      | ok outcome => exact fun _ => rfl
  · obtain ⟨-, sameCode, sameState⟩ := happens.keeps_of_ne_wait waits
    rw [IsSound, sameCode, sameState]
    exact sound

/-- A handle stays one of the same process. -/
theorem Happens.process_eq
    (happens : turn.Happens rounds)
    (sound : turn.before.IsSound) :
    turn.after.process = turn.before.process := by
  by_cases waits : turn.operation = .use .wait
  · obtain ⟨code, knows⟩ | ⟨-, outcome, -, -, isAfter⟩ :=
      happens.knows_or_asksAgain sound waits
    · exact (happens.of_knows knows).2.1
    · rw [isAfter]
      cases outcome <;> rfl
  · exact (happens.keeps_of_ne_wait waits).1

/-- An operation that fails leaves what is written down. -/
theorem Happens.keeps_of_failed
    {cause : LaunchError}
    (happens : turn.Happens rounds)
    (sound : turn.before.IsSound)
    (failed : turn.reply = .answer (.failed cause)) :
    turn.after.exitCode? = turn.before.exitCode? ∧
      turn.after.collected = turn.before.collected := by
  by_cases waits : turn.operation = .use .wait
  · obtain ⟨code, knows⟩ | ⟨-, outcome, -, isReply, isAfter⟩ :=
      happens.knows_or_asksAgain sound waits
    · have isReply := (happens.of_knows knows).2.2.2 .wait waits
      rw [failed] at isReply
      cases isReply
    · rw [failed] at isReply
      cases outcome with
      | ok outcome => cases isReply
      | error cause =>
          rw [isAfter]
          exact ⟨rfl, rfl⟩
  · exact (happens.keeps_of_ne_wait waits).2

/-- A wait that leaves the child collected is answered by the code that is written down
from then on. -/
theorem Happens.knows_of_collected
    (happens : turn.Happens rounds)
    (sound : turn.before.IsSound)
    (waits : turn.operation = .use .wait)
    (isCollected : turn.after.collected = true) :
    ∃ code, turn.reply = .answer (.code code) ∧ turn.after.Knows code := by
  cases collected : turn.before.collected with
  | true =>
      obtain ⟨code, knows⟩ := sound.knows collected
      obtain ⟨-, -, knowsAfter, replies⟩ := happens.of_knows knows
      exact ⟨code, replies .wait waits, knowsAfter⟩
  | false =>
      obtain ⟨-, outcome, -, isReply, isAfter⟩ := happens.asksAgain waits collected
      cases outcome with
      | error cause =>
          rw [isAfter] at isCollected
          exact absurd (isCollected.symm.trans collected) nofun
      | ok outcome =>
          refine ⟨outcome.code, isReply, isCollected, ?_⟩
          rw [isAfter]
          rfl

end Turn

/-! ## All operations -/

namespace History

variable {turns earlier later : List Turn} {turn : Turn}

/-- A history can be cut in two. -/
theorem of_append (history : History rounds handle (earlier ++ later) last) :
    ∃ middle, History rounds handle earlier middle ∧
      History rounds middle later last := by
  induction earlier generalizing handle with
  | nil => exact ⟨handle, .nil handle, history⟩
  | cons turn earlier inductionHypothesis =>
      cases history with
      | cons happens others =>
          obtain ⟨middle, first, second⟩ := inductionHypothesis others
          exact ⟨middle, .cons happens first, second⟩

theorem isSound
    (history : History rounds handle turns last)
    (sound : handle.IsSound) :
    last.IsSound := by
  induction history with
  | nil handle => exact sound
  | cons happens _ inductionHypothesis =>
      exact inductionHypothesis (happens.isSound sound)

theorem process_eq
    (history : History rounds handle turns last)
    (sound : handle.IsSound) :
    last.process = handle.process := by
  induction history with
  | nil handle => rfl
  | cons happens _ inductionHypothesis =>
      rw [inductionHypothesis (happens.isSound sound), happens.process_eq sound]

/-- Every operation of a history is carried out on a sound handle of the process. -/
theorem of_mem
    (history : History rounds handle turns last)
    (sound : handle.IsSound)
    (isMember : turn ∈ turns) :
    turn.Happens rounds ∧ turn.before.IsSound ∧
      turn.before.process = handle.process := by
  obtain ⟨earlier, later, rfl⟩ := List.append_of_mem isMember
  obtain ⟨middle, first, second⟩ := history.of_append
  cases second with
  | cons happens others =>
      exact ⟨happens, first.isSound sound, first.process_eq sound⟩

/-- Once the code is known, all operations are answered from it and make no calls. -/
theorem of_knows
    (history : History rounds handle turns last)
    (knows : handle.Knows code) :
    last.Knows code ∧
      ∀ next ∈ turns, next.events = [] ∧
        ∀ use, next.operation = .use use →
          next.reply = .answer (rememberedAnswer handle.process code use) := by
  induction history with
  | nil handle => exact ⟨knows, by simp⟩
  | @cons turn turns last happens others inductionHypothesis =>
      obtain ⟨noEvents, -, knowsAfter, replies⟩ := happens.of_knows knows
      obtain ⟨knowsLast, silent⟩ := inductionHypothesis knowsAfter
      rw [happens.process_eq knows.isSound] at silent
      refine ⟨knowsLast, ?_⟩
      rw [List.forall_mem_cons]
      exact ⟨⟨noEvents, replies⟩, silent⟩

/-- Nothing but a wait makes a handle count its child as collected. -/
theorem exists_of_collected
    (history : History rounds handle turns last)
    (notYet : handle.collected = false)
    (isCollected : last.collected = true) :
    ∃ turn ∈ turns, turn.operation = .use .wait ∧ turn.after.collected = true := by
  induction history with
  | nil handle => exact absurd (isCollected.symm.trans notYet) nofun
  | @cons turn turns last happens others inductionHypothesis =>
      cases collected : turn.after.collected with
      | false =>
          obtain ⟨found, isMember, waits, collects⟩ :=
            inductionHypothesis collected isCollected
          exact ⟨found, List.mem_cons_of_mem _ isMember, waits, collects⟩
      | true =>
          refine ⟨turn, List.mem_cons_self, ?_, collected⟩
          by_contra notWait
          rw [(happens.keeps_of_ne_wait notWait).2.2, notYet] at collected
          cases collected

end History

/-- What a handle remembers along a history. -/
structure Remembers (rounds : Nat) (handle : Handle) (turns : List Turn)
    (last : Handle) : Prop where
  /-- A handle whose child has been collected has a code. -/
  hasCode : ∀ turn ∈ turns,
    turn.after.collected = true → turn.after.exitCode?.isSome = true
  /-- An operation that fails leaves what is written down. -/
  keeps : ∀ turn ∈ turns, ∀ cause, turn.reply = .answer (.failed cause) →
    turn.after.exitCode? = turn.before.exitCode? ∧
      turn.after.collected = turn.before.collected
  /-- From the wait on that leaves the child collected, no operation makes a call, and
  all of them are answered at once from the code that this wait told. -/
  freezes : ∀ earlier turn later, turns = earlier ++ turn :: later →
    turn.operation = .use .wait → turn.after.collected = true →
      ∃ code, turn.reply = .answer (.code code) ∧
        (∀ next ∈ later, next.events = [] ∧
          ∀ use, next.operation = .use use →
            next.reply = .answer (rememberedAnswer handle.process code use)) ∧
          ∀ use, last.use rounds use =
            pure (rememberedAnswer handle.process code use, last)
  /-- After a wait that did not leave the child collected, the next waits ask the
  operating system, until one of them leaves the child collected. -/
  asks : ∀ earlier turn between next later,
    turns = earlier ++ turn :: between ++ next :: later →
      turn.operation = .use .wait → turn.after.collected = false →
        next.operation = .use .wait →
          next.AsksAgain rounds ∨
            ∃ other ∈ between, other.operation = .use .wait ∧
              other.after.collected = true

/-- Whatever the operating system answers, and in whatever order a handle is used and its
streams are taken, it remembers the code of the wait that collected the child, and no
other. -/
theorem remembers_of_history
    {turns : List Turn}
    (sound : handle.IsSound)
    (history : History rounds handle turns last) :
    Remembers rounds handle turns last := by
  constructor
  case hasCode =>
    intro turn isMember
    obtain ⟨happens, soundBefore, -⟩ := history.of_mem sound isMember
    exact happens.isSound soundBefore
  case keeps =>
    intro turn isMember cause failed
    obtain ⟨happens, soundBefore, -⟩ := history.of_mem sound isMember
    exact happens.keeps_of_failed soundBefore failed
  case freezes =>
    rintro earlier turn later rfl waits isCollected
    obtain ⟨middle, first, second⟩ := history.of_append
    cases second with
    | cons happens others =>
        have soundBefore := first.isSound sound
        obtain ⟨code, isReply, knows⟩ :=
          happens.knows_of_collected soundBefore waits isCollected
        obtain ⟨knowsLast, silent⟩ := others.of_knows knows
        have sameProcess : turn.after.process = handle.process := by
          rw [happens.process_eq soundBefore, first.process_eq sound]
        rw [sameProcess] at silent
        refine ⟨code, isReply, silent, fun use => ?_⟩
        rw [← history.process_eq sound]
        exact use_eq_of_collected knowsLast.1 knowsLast.2 rounds use
  case asks =>
    rintro earlier turn between next later rfl waits notCollected waitsNext
    rw [List.append_assoc] at history
    obtain ⟨middle, -, second⟩ := history.of_append
    cases second with
    | cons _ others =>
        obtain ⟨after, others, last⟩ := others.of_append
        cases last with
        | cons happens _ =>
            cases collected : next.before.collected with
            | false => exact .inl (happens.asksAgain waitsNext collected)
            | true => exact .inr (others.exists_of_collected notCollected collected)

/-- A child is seen stopped, cannot be killed, and is collected by the next wait; from
then on its handle remembers. -/
theorem remembers_of_history_with_stop :
    let handle : Handle := { process := 7, streams := ⟨some 4, none, none⟩ }
    handle.IsSound ∧
      ∃ turns last,
        History 2 handle turns last ∧
          turns.map Turn.reply =
              [.answer (.code 147), .answer (.failed (.signal 7)), .taken (some 4),
                .answer (.code 137), .answer (.flag true), .answer (.code 137)] ∧
            Remembers 2 handle turns last := by
  intro handle
  have sound : handle.IsSound := nofun
  let stopped : Handle := { handle with exitCode? := some 147 }
  let taken : Handle := stopped.withoutStream .stdin
  let collected : Handle := { taken with exitCode? := some 137, collected := true }
  have showsStop : anything () (.childReport 7) (.ok ⟨5, 7, 19⟩) () := trivial
  have tellsStop : anything () (.collect 7 .immediately) (.ok (7, .ofStop 19)) () := trivial
  have refuses : anything () (.signal 7 9) (.error Errno.ESRCH) () := trivial
  have showsKill : anything () (.childReport 7) (.ok ⟨2, 7, 9⟩) () := trivial
  have tellsKill : anything () (.collect 7 .immediately) (.ok (7, .ofKill 9)) () := trivial
  have logs : ∀ record, anything () (.log record) () () := fun _ => trivial
  have waits : ∃ events, Runs anything (handle.operate 2 (.use .wait)) () events
      (.done (.answer (.code 147), stopped)) () :=
    ⟨_, .call showsStop <| .call tellsStop <| .call (logs _) <| .stop _ _⟩
  have kills : ∃ events, Runs anything (stopped.operate 2 (.use (.interrupt true))) () events
      (.done (.answer (.failed (.signal 7)), stopped)) () :=
    ⟨_, .call (logs _) <| .call refuses <| .stop _ _⟩
  have collects : ∃ events, Runs anything (taken.operate 2 (.use .wait)) () events
      (.done (.answer (.code 137), collected)) () :=
    ⟨_, .call showsKill <| .call tellsKill <| .call (logs _) <| .stop _ _⟩
  obtain ⟨waiting, waits⟩ := waits
  obtain ⟨killing, kills⟩ := kills
  obtain ⟨collecting, collects⟩ := collects
  have waits : Turn.Happens 2
      ⟨handle, .use .wait, waiting, .answer (.code 147), stopped⟩ := waits
  have kills : Turn.Happens 2
      ⟨stopped, .use (.interrupt true), killing, .answer (.failed (.signal 7)), stopped⟩ :=
    kills
  have takes : Turn.Happens 2 ⟨stopped, .take .stdin, [], .taken (some 4), taken⟩ := .stop _ _
  have collects : Turn.Happens 2
      ⟨taken, .use .wait, collecting, .answer (.code 137), collected⟩ := collects
  have asks : Turn.Happens 2
      ⟨collected, .use .exited, [], .answer (.flag true), collected⟩ := .stop _ _
  have waitsAgain : Turn.Happens 2
      ⟨collected, .use .wait, [], .answer (.code 137), collected⟩ := .stop _ _
  have history := History.cons waits <| .cons kills <| .cons takes <| .cons collects <|
    .cons asks <| .cons waitsAgain <| .nil _
  exact ⟨sound, _, _, history, rfl, remembers_of_history sound history⟩

end Handle
end ChildProcess
