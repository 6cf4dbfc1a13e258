import ChildProcess.Proofs.Filling
import ChildProcess.Proofs.Spawn.Accounting
import ChildProcess.Proofs.Spawn.Supervision

/-!
# The transport of a report

A child writes an error number into a pipe in pieces of any size, and its parent takes the
bytes out in pieces of other sizes.  Either may be interrupted, and the child may stop
writing or be killed after any byte.  The parent comes to an answer all the same, and the
answer tells how far the child got: all bytes are the error number, none at all is a
success, and anything in between is an error of its own.
-/

namespace ChildProcess

/-! ## What the parent reads -/

/-- A call that reads. -/
def isReading : Event → Bool
  | ⟨.read _ _, _⟩ => true
  | _ => false

/-- What a parent answers when reading the report has come to its end. -/
def Launch.answerTo (launch : Launch) : Except SystemError Bytes → Except LaunchError Unit
  | .error cause => .error (.report cause)
  | .ok [] => .ok ()
  | .ok payload =>
      match Report.decode payload with
      | some errno => .error (.execution (launch.program?.getD "") (.os errno))
      | none => .error (.report (Launch.partialReport payload.length))

/-- A payload that is there is an error number, or is none. -/
theorem Launch.answerTo_of_ne_nil
    {payload : Bytes}
    (launch : Launch)
    (nonempty : payload ≠ []) :
    launch.answerTo (.ok payload) =
      match Report.decode payload with
      | some errno => .error (.execution (launch.program?.getD "") (.os errno))
      | none => .error (.report (Launch.partialReport payload.length)) := by
  cases payload with
  | nil => exact absurd rfl nonempty
  | cons byte rest => rfl

/-- The answer of a parent is the one to what its calls have read. -/
def Launch.Learns (launch : Launch) (reader : Descriptor) (events : List Event)
    (outcome : Except LaunchError Unit) : Prop :=
  ∃ answer, Fills reader Report.length (events.filter isReading) answer ∧
    outcome = launch.answerTo answer

/-- Calls by which a parent learns about its child. -/
def receives (process : ProcessId) (reader : Descriptor) : Call → Prop
  | .read number count => number = reader ∧ 0 < count
  | .collect child mode => child = process ∧ mode = .untilEnd
  | .close _ | .log _ => True
  | _ => False

/-- Calls other than reading. -/
def doesNotRead : Call → Prop
  | .read _ _ => False
  | _ => True

section Receiving

variable {process : ProcessId} {reader : Descriptor} {rounds : Nat} {events : List Event}

theorem Fills.filter_isReading
    {wanted : Nat}
    {answer : Except SystemError Bytes}
    (fills : Fills reader wanted events answer) :
    events.filter isReading = events := by
  obtain ⟨steps, last, rfl, readsOn, stops⟩ := fills
  rw [List.filter_eq_self]
  intro event isMember
  rcases List.mem_append.mp isMember with earlier | final
  · obtain ⟨request, answer⟩ := event
    cases request with
    | read => rfl
    | _ => exact (readsOn _ earlier).elim
  · cases stops with
    | full => cases final
    | atEnd | failed =>
        rw [List.mem_singleton.mp final]
        rfl

theorem received_filter_isReading (events : List Event) :
    received (events.filter isReading) = received events := by
  induction events with
  | nil => rfl
  | cons event events inductionHypothesis =>
      obtain ⟨request, answer⟩ := event
      change _ = received ([⟨request, answer⟩] ++ events)
      rw [received_append, ← inductionHypothesis]
      cases request with
      | read number count =>
          rw [List.filter_cons_of_pos rfl, ← received_append]
          rfl
      | _ => rfl

section Programs

variable {σ : Type} {answers : System σ} {state : σ}

/-- A program that does not read leaves the calls that have read. -/
theorem ensures_filter_isReading {α : Type}
    {program : Program α}
    (makes : program.Makes doesNotRead)
    (history : List Event) :
    program.Ensures { answers }
      (fun later _ _ => later.filter isReading = history.filter isReading) history state := by
  refine makes.ensures (fun later _ => later.filter isReading = history.filter isReading)
    trivial ?_ ?_ rfl
  · intros
    trivial
  · intro later _ request answer _ same doesNotRead _
    rw [List.filter_append, same]
    cases request with
    | read => exact doesNotRead.elim
    | _ => exact List.append_nil _

/-- However the calls are answered, as long as the answers fit, a parent answers to what it
has read. -/
theorem ensures_awaitReport_learns
    (fits : ∀ state number count bytes next,
      answers state (.read number count) (.ok bytes) next → bytes.length ≤ count)
    (launch : Launch) :
    (launch.awaitReport rounds process reader).Ensures { answers }
      (fun later _ outcome => launch.Learns reader later outcome) [] state := by
  have drops : (dropDescriptor (some reader)).Makes doesNotRead :=
    (completes_dropDescriptor_of_closes (fun _ => trivial) (fun _ => trivial) _).makes
  have collects : (collectEnded process rounds).Makes doesNotRead :=
    makes_collectEnded process rounds trivial fun _ => trivial
  rw [Launch.awaitReport, Program.ensures_bind]
  refine (ensures_readPieces_fills fits rounds _ reader _ state).mono ?_
  intro reads between answer fills
  rw [Program.ensures_bind]
  refine (ensures_filter_isReading drops reads).mono ?_
  intro later after _ same
  rw [← fills.filter_isReading, ← same] at fills
  rcases answer with cause | (_ | ⟨byte, rest⟩)
  · exact ⟨_, fills, rfl⟩
  · exact ⟨_, fills, rfl⟩
  · dsimp only
    rw [Program.ensures_bind]
    refine (ensures_filter_isReading collects later).mono ?_
    intro last after _ same
    rw [← same] at fills
    have learns : launch.Learns reader last (launch.answerTo (.ok (byte :: rest))) :=
      ⟨_, fills, rfl⟩
    rw [launch.answerTo_of_ne_nil (List.cons_ne_nil byte rest)] at learns
    cases decoded : Report.decode (byte :: rest) with
    | some errno => simpa [decoded] using learns
    | none => simpa [decoded] using learns

end Programs

theorem makes_awaitReport (launch : Launch) :
    (launch.awaitReport rounds process reader).Makes (receives process reader) := by
  have drops : (dropDescriptor (some reader)).Makes (receives process reader) :=
    (completes_dropDescriptor_of_closes (fun _ => trivial) (fun _ => trivial) _).makes
  have collects : (collectEnded process rounds).Makes (receives process reader) :=
    makes_collectEnded process rounds ⟨rfl, rfl⟩ fun _ => trivial
  refine Program.makes_bind ?_ fun answer => ?_
  · exact Program.makes_readPieces (fun count positive => ⟨rfl, positive⟩) _ _
  · refine Program.makes_bind drops fun _ => ?_
    split
    · trivial
    · trivial
    · refine Program.makes_bind collects fun _ => ?_
      split <;> trivial

end Receiving

/-! ## What the child writes -/

/-- A call by which writing stops for good. -/
def givesUp : Event → Bool
  | ⟨.write _ _, .ok 0⟩ => true
  | ⟨.write _ _, .error errno⟩ => errno ≠ Errno.EINTR
  | _ => false

/-- Writing has stopped before its end. -/
def HasGivenUp (events : List Event) : Prop :=
  ∃ event ∈ events, givesUp event = true

/-- All bytes have been written, or writing has stopped before its end. -/
def HasFinished (payload : Bytes) (events : List Event) : Prop :=
  HasGivenUp events ∨ sent events = payload

/-- No more bytes are taken than there are. -/
def Accepts : Event → Prop
  | ⟨.write _ data, .ok count⟩ => count ≤ data.length
  | _ => True

/-- What a child that writes may do after some events. -/
def Conveys (writer : Descriptor) (payload : Bytes) (events : List Event) : Call → Prop
  | .write number data => number = writer ∧ ¬HasGivenUp events ∧ sent events ++ data = payload
  | .close number => number = writer ∧ HasFinished payload events
  | .exit _ => HasFinished payload events
  | _ => False

/-- The circumstances of a child that writes and may be held up so often. -/
abbrev conveying (writer : Descriptor) (payload : Bytes) : Setting Nat where
  answers before request answer after :=
    Accepts ⟨request, answer⟩ ∧ before = after + delay ⟨request, answer⟩
  allows events _ := Conveys writer payload events
  exhaustion := False

section Conveying

variable {writer : Descriptor} {payload rest : Bytes} {events history : List Event}

theorem hasGivenUp_concat (event : Event) :
    HasGivenUp (events ++ [event]) ↔ HasGivenUp events ∨ givesUp event = true := by
  simp only [HasGivenUp, List.mem_append, List.mem_singleton, or_and_right, exists_or,
    exists_eq_left]

theorem hasGivenUp_append (earlier : List Event) (givenUp : HasGivenUp events) :
    HasGivenUp (earlier ++ events) := by
  obtain ⟨event, isMember, givesUp⟩ := givenUp
  exact ⟨event, List.mem_append_right earlier isMember, givesUp⟩

theorem HasFinished.concat
    {request : Call}
    {answer : request.Answer}
    (finished : HasFinished payload events)
    (noBytes : sent [⟨request, answer⟩] = []) :
    HasFinished payload (events ++ [⟨request, answer⟩]) := by
  refine finished.imp (fun givenUp => (hasGivenUp_concat _).mpr (.inl givenUp)) ?_
  intro complete
  rw [sent_append, noBytes, List.append_nil, complete]

/-- With more rounds than it can be held up and bytes to write, a child writes until all
bytes are written or writing stops. -/
theorem ensures_send_finished
    {rounds before : Nat}
    (isRest : sent history ++ rest = payload)
    (goesOn : ¬HasGivenUp history)
    (enough : before + rest.length ≤ rounds) :
    (Report.send writer rounds rest).Ensures (conveying writer payload)
      (fun later _ _ => HasFinished payload later) history before := by
  induction rounds generalizing rest history before with
  | zero =>
      cases rest with
      | nil => exact .inr (by simpa using isRest)
      | cons byte rest => exact absurd enough (by simp)
  | succ rounds inductionHypothesis =>
      cases rest with
      | nil => exact .inr (by simpa using isRest)
      | cons byte rest =>
          rw [List.length_cons] at enough
          refine ⟨⟨rfl, goesOn, isRest⟩, fun answer after answered => ?_⟩
          obtain ⟨accepts, rfl⟩ := answered
          rcases answer with errno | (_ | count)
          · by_cases interrupted : errno = Errno.EINTR
            · subst interrupted
              refine inductionHypothesis ?_ ?_ ?_
              · rw [sent_append]
                simpa [sent] using isRest
              · rw [hasGivenUp_concat]
                simpa [givesUp] using goesOn
              · rw [List.length_cons]
                simp only [delay] at enough
                omega
            · have stops : givesUp ⟨.write writer (byte :: rest), .error errno⟩ = true := by
                simpa [givesUp] using interrupted
              change (if errno = Errno.EINTR then _ else _ : Program Unit).Ensures _ _ _ _
              rw [if_neg interrupted]
              exact .inl ((hasGivenUp_concat _).mpr (.inr stops))
          · exact .inl ((hasGivenUp_concat _).mpr (.inr rfl))
          · refine inductionHypothesis ?_ ?_ ?_
            · rw [sent_append, List.append_assoc, ← isRest]
              simp [sent]
            · rw [hasGivenUp_concat]
              simpa [givesUp] using goesOn
            · rw [List.length_drop, List.length_cons]
              simp only [delay] at enough
              omega

theorem ensures_sendAndExit_finished
    {rounds before : Nat}
    (errno : Errno)
    (enough : before + Report.length ≤ rounds) :
    (Report.sendAndExit rounds writer errno).Ensures
      (conveying writer (Report.encode errno)) (fun _ _ _ => False) [] before := by
  rw [Report.sendAndExit, Program.ensures_bind]
  have nothing : ¬HasGivenUp [] := by simp [HasGivenUp]
  refine (ensures_send_finished rfl nothing enough).mono ?_
  intro later after _ finished
  refine ⟨⟨rfl, finished⟩, fun answer closed _ => ?_⟩
  exact ⟨finished.concat rfl, fun never => nomatch never⟩

end Conveying

/-! ## Two processes and a pipe -/

/-- What has become of a child that writes. -/
inductive WritingLife
  | running (program : Program Empty)
  /-- It has come to its end. -/
  | ended
  /-- Something has put an end to it. -/
  | killed

/-- A child that writes, a parent that reads, and what is in the pipe between them. -/
structure Channel where
  child : WritingLife
  /-- What the child has done. -/
  childEvents : List Event
  /-- How often the child may still be held up. -/
  childDelays : Nat
  parent : Program (Except LaunchError Unit)
  /-- What the parent has done. -/
  parentEvents : List Event
  /-- How often the parent may still be held up. -/
  parentDelays : Nat
  /-- The child has not closed its end of the pipe. -/
  isOpen : Bool
  pipe : Bytes

namespace Channel

/-- The child goes on running. -/
def IsRunning (channel : Channel) : Prop :=
  ∃ program, channel.child = .running program

/-- A parent that reads gets some of the bytes that are in the pipe, or sees its end when
nobody can write any more.  It gets its child when the child is gone. -/
def Gets (channel : Channel) (process : ProcessId) (reader : Descriptor) (left : Bytes) :
    Event → Prop
  | ⟨.read number _, .ok []⟩ =>
      number = reader ∧ channel.pipe = [] ∧ channel.isOpen = false ∧ left = []
  | ⟨.read number _, .ok bytes⟩ => number = reader ∧ channel.pipe = bytes ++ left
  | ⟨.collect child _, answer⟩ =>
      child = process ∧ left = channel.pipe ∧
        (answer = .error Errno.EINTR ∨ ¬channel.IsRunning)
  | _ => left = channel.pipe

/-- One of the two takes a step, or the child is killed if it can be. -/
inductive Step (isMortal : Bool) (process : ProcessId) (reader writer : Descriptor) :
    Channel → Channel → Prop
  | parentCalls {channel : Channel} {request : Call}
      {resume : request.Answer → Program (Except LaunchError Unit)}
      {answer : request.Answer} {delays : Nat} {left : Bytes}
      (isNext : channel.parent = .call request resume)
      (answered : enduring.answers channel.parentDelays request answer delays)
      (gets : channel.Gets process reader left ⟨request, answer⟩) :
      Step isMortal process reader writer channel
        { channel with
          parent := resume answer
          parentEvents := channel.parentEvents ++ [⟨request, answer⟩]
          parentDelays := delays
          pipe := left }
  | childCalls {channel : Channel} {request : Call}
      {resume : request.Answer → Program Empty} {answer : request.Answer} {delays : Nat}
      (isNext : channel.child = .running (.call request resume))
      (accepts : Accepts ⟨request, answer⟩)
      (isHeldUp : channel.childDelays = delays + delay ⟨request, answer⟩)
      (canWrite : channel.isOpen = false → sent [⟨request, answer⟩] = []) :
      Step isMortal process reader writer channel
        { channel with
          child := .running (resume answer)
          childEvents := channel.childEvents ++ [⟨request, answer⟩]
          childDelays := delays
          isOpen := channel.isOpen && request ≠ .close writer
          pipe := channel.pipe ++ sent [⟨request, answer⟩] }
  | childEnds {channel : Channel} {code : Int} {resume : Empty → Program Empty}
      (isNext : channel.child = .running (.call (.exit code) resume)) :
      Step isMortal process reader writer channel
        { channel with child := .ended, isOpen := false }
  | childDies {channel : Channel} {program : Program Empty}
      (canDie : isMortal = true)
      (isRunning : channel.child = .running program) :
      Step isMortal process reader writer channel
        { channel with child := .killed, isOpen := false }

/-- The parent has come to an answer, which tells how many bytes the child has written. -/
structure Delivered (launch : Launch) (errno : Errno) (reader : Descriptor) (count : Nat)
    (outcome : Except LaunchError Unit) (channel : Channel) : Prop where
  isDone : channel.parent = .done outcome
  fits : count ≤ Report.length
  /-- The child has written the first bytes of the error number. -/
  sent : sent channel.childEvents = (Report.encode errno).take count
  /-- The parent has read all of them. -/
  received : received channel.parentEvents = (Report.encode errno).take count
  /-- The child cannot write the others any more. -/
  final : count < Report.length → channel.isOpen = false
  /-- It has been killed or has given up, unless it has written them all. -/
  complete : channel.child ≠ .killed → ¬HasGivenUp channel.childEvents →
    count = Report.length
  silent : count = 0 → outcome = .ok ()
  cut : 0 < count → count < Report.length →
    outcome = .error (.report (Launch.partialReport count))
  whole : count = Report.length →
    outcome = .error (.execution (launch.program?.getD "") (.os errno))
  /-- The calls that read. -/
  reads : Fills reader Report.length (channel.parentEvents.filter isReading)
    (.ok ((Report.encode errno).take count))
  /-- No more of them than there are bytes have read any. -/
  readsInTime : (channel.parentEvents.filter isReading).countP movesBytes ≤ Report.length
  /-- No more calls than there are bytes have written any. -/
  writesInTime : channel.childEvents.countP movesBytes ≤ Report.length
  /-- At most one call has made the child give up. -/
  givesUpOnce : channel.childEvents.countP givesUp ≤ 1

/-! ## What always holds -/

/-- Both do what they should, and what the parent has learnt is true. -/
structure Consistent (launch : Launch) (errno : Errno) (process : ProcessId)
    (reader writer : Descriptor) (channel : Channel) : Prop where
  receives : channel.parent.Makes (receives process reader)
  parent : channel.parent.Ensures enduring
    (fun later _ outcome => launch.Learns reader later outcome)
    channel.parentEvents channel.parentDelays
  orderly : ∀ event ∈ channel.parentEvents, IsOrderly event
  child : ∀ program, channel.child = .running program →
    program.Ensures (conveying writer (Report.encode errno)) (fun _ _ _ => False)
      channel.childEvents channel.childDelays
  isPrefix : ChildProcess.sent channel.childEvents <+: Report.encode errno
  bytes : ChildProcess.received channel.parentEvents ++ channel.pipe =
    ChildProcess.sent channel.childEvents
  closes : ¬channel.IsRunning → channel.isOpen = false
  finished : channel.isOpen = false → channel.child = .killed ∨
    HasFinished (Report.encode errno) channel.childEvents
  atEnd : EndSeen channel.parentEvents → channel.pipe = [] ∧ channel.isOpen = false
  writesInTime : channel.childEvents.countP movesBytes ≤
    (ChildProcess.sent channel.childEvents).length
  givesUpOnce : channel.childEvents.countP givesUp ≤ 1

section Consistency

variable {launch : Launch} {errno : Errno} {process : ProcessId} {isMortal : Bool}
variable {reader writer : Descriptor} {channel next : Channel}

/-! ### Steps of the parent -/

/-- What a call reads is taken out of the pipe. -/
theorem Gets.pipe_eq
    {left : Bytes}
    {event : Event}
    (gets : channel.Gets process reader left event) :
    ChildProcess.received [event] ++ left = channel.pipe := by
  obtain ⟨request, answer⟩ := event
  cases request with
  | read number count =>
      rcases answer with errno | (_ | ⟨byte, rest⟩)
      · exact gets
      · exact gets.2.2.2.trans gets.2.1.symm
      · exact (congrArg (· ++ left) (List.append_nil _)).trans gets.2.symm
  | collect => exact gets.2.1
  | _ => exact gets

theorem Consistent.parentCalls
    {request : Call}
    {resume : request.Answer → Program (Except LaunchError Unit)}
    {answer : request.Answer}
    {delays : Nat}
    {left : Bytes}
    (consistent : Consistent launch errno process reader writer channel)
    (isNext : channel.parent = .call request resume)
    (answered : enduring.answers channel.parentDelays request answer delays)
    (gets : channel.Gets process reader left ⟨request, answer⟩) :
    Consistent launch errno process reader writer
      { channel with
        parent := resume answer
        parentEvents := channel.parentEvents ++ [⟨request, answer⟩]
        parentDelays := delays
        pipe := left } := by
  have makes := consistent.receives
  have ensures := consistent.parent
  rw [isNext] at makes ensures
  refine
    { consistent with
      receives := makes.2 answer
      parent := ensures.2 answer delays answered
      orderly := ?_
      bytes := ?_
      atEnd := ?_ }
  · intro event isMember
    rcases List.mem_append.mp isMember with earlier | last
    · exact consistent.orderly event earlier
    · rw [List.mem_singleton.mp last]
      exact answered.1
  · rw [received_append, List.append_assoc, gets.pipe_eq]
    exact consistent.bytes
  · intro endSeen
    rcases endSeen_append.mp endSeen with earlier | ⟨_, _, isMember⟩
    · obtain ⟨isEmpty, isClosed⟩ := consistent.atEnd earlier
      exact ⟨(List.append_eq_nil_iff.mp (gets.pipe_eq.trans isEmpty)).2, isClosed⟩
    · cases List.mem_singleton.mp isMember
      exact ⟨gets.2.2.2, gets.2.2.1⟩

/-! ### Steps of the child -/

/-- What a call writes are the next bytes of what is to be written. -/
theorem sent_concat_prefix
    {payload : Bytes}
    {events : List Event}
    {request : Call}
    (conveys : Conveys writer payload events request)
    (isPrefix : ChildProcess.sent events <+: payload)
    (answer : request.Answer) :
    ChildProcess.sent (events ++ [⟨request, answer⟩]) <+: payload := by
  rw [sent_append]
  cases request with
  | write number data =>
      cases answer with
      | error errno => simpa [ChildProcess.sent] using isPrefix
      | ok count =>
          obtain ⟨-, -, rfl⟩ := conveys
          refine List.prefix_append_right_inj _ |>.mpr ?_
          simpa [ChildProcess.sent] using List.take_prefix count data
  | close | exit => exact (List.append_nil (ChildProcess.sent events)).symm ▸ isPrefix
  | _ => exact conveys.elim

/-- A call that writes something writes at least one byte. -/
theorem countP_movesBytes_le_sent
    {payload : Bytes}
    {events : List Event}
    {request : Call}
    {answer : request.Answer}
    (conveys : Conveys writer payload events request)
    (accepts : Accepts ⟨request, answer⟩) :
    [(⟨request, answer⟩ : Event)].countP movesBytes ≤
      (ChildProcess.sent [⟨request, answer⟩]).length := by
  cases request with
  | write number data =>
      rcases answer with errno | (_ | count)
      · exact Nat.zero_le _
      · exact Nat.zero_le _
      · have accepts : count + 1 ≤ data.length := accepts
        simp [ChildProcess.sent, movesBytes]
        omega
  | close | exit => exact Nat.zero_le _
  | _ => exact conveys.elim

/-- A call that makes the child give up is the first one to do so. -/
theorem countP_givesUp_concat_le
    {payload : Bytes}
    {events : List Event}
    {request : Call}
    (conveys : Conveys writer payload events request)
    (once : events.countP givesUp ≤ 1)
    (answer : request.Answer) :
    (events ++ [(⟨request, answer⟩ : Event)]).countP givesUp ≤ 1 := by
  rw [List.countP_append]
  cases request with
  | write number data =>
      have goesOn : ¬HasGivenUp events := conveys.2.1
      have none : events.countP givesUp = 0 := by
        rw [List.countP_eq_zero]
        exact fun event isMember gives => goesOn ⟨event, isMember, gives⟩
      rw [none, Nat.zero_add]
      exact List.countP_le_length
  | close | exit => exact once
  | _ => exact conveys.elim

/-- A running child is about to make a call that it may make. -/
theorem Consistent.conveys
    {program : Program Empty}
    (consistent : Consistent launch errno process reader writer channel)
    (isRunning : channel.child = .running program) :
    ∃ request resume, program = .call request resume ∧
      Conveys writer (Report.encode errno) channel.childEvents request ∧
      ∀ answer after, Accepts ⟨request, answer⟩ →
        channel.childDelays = after + delay ⟨request, answer⟩ →
          (resume answer).Ensures (conveying writer (Report.encode errno))
            (fun _ _ _ => False) (channel.childEvents ++ [⟨request, answer⟩]) after := by
  have ensures := consistent.child program isRunning
  cases program with
  | done value => exact value.elim
  | exhausted => exact ensures.elim
  | call request resume =>
      exact ⟨request, resume, rfl, ensures.1,
        fun answer after accepts isHeldUp => ensures.2 answer after ⟨accepts, isHeldUp⟩⟩

theorem Consistent.hasFinished
    {program : Program Empty}
    (consistent : Consistent launch errno process reader writer channel)
    (isRunning : channel.child = .running program)
    (isClosed : channel.isOpen = false) :
    HasFinished (Report.encode errno) channel.childEvents := by
  refine (consistent.finished isClosed).resolve_left ?_
  rw [isRunning]
  exact nofun

theorem Consistent.childCalls
    {request : Call}
    {resume : request.Answer → Program Empty}
    {answer : request.Answer}
    {delays : Nat}
    (consistent : Consistent launch errno process reader writer channel)
    (isNext : channel.child = .running (.call request resume))
    (accepts : Accepts ⟨request, answer⟩)
    (isHeldUp : channel.childDelays = delays + delay ⟨request, answer⟩)
    (canWrite : channel.isOpen = false → ChildProcess.sent [⟨request, answer⟩] = []) :
    Consistent launch errno process reader writer
      { channel with
        child := .running (resume answer)
        childEvents := channel.childEvents ++ [⟨request, answer⟩]
        childDelays := delays
        isOpen := channel.isOpen && request ≠ .close writer
        pipe := channel.pipe ++ ChildProcess.sent [⟨request, answer⟩] } := by
  obtain ⟨_, _, same, conveys, goesOn⟩ := consistent.conveys isNext
  cases same
  refine
    { consistent with
      child := ?_
      isPrefix := sent_concat_prefix conveys consistent.isPrefix answer
      bytes := ?_
      closes := fun notRunning => absurd ⟨_, rfl⟩ notRunning
      finished := ?_
      atEnd := ?_
      writesInTime := ?_
      givesUpOnce := countP_givesUp_concat_le conveys consistent.givesUpOnce answer }
  · rintro _ ⟨rfl⟩
    exact goesOn answer delays accepts isHeldUp
  · rw [sent_append, ← List.append_assoc, consistent.bytes]
  · intro isClosed
    right
    rcases Bool.and_eq_false_iff.mp isClosed with closed | closes
    · exact (consistent.hasFinished isNext closed).concat (canWrite closed)
    · obtain rfl : request = .close writer := by simpa using closes
      exact conveys.2.concat rfl
  · intro endSeen
    obtain ⟨isEmpty, isClosed⟩ := consistent.atEnd endSeen
    exact ⟨by rw [isEmpty, canWrite isClosed]; rfl, by rw [isClosed]; rfl⟩
  · rw [sent_append, List.countP_append, List.length_append]
    exact Nat.add_le_add consistent.writesInTime (countP_movesBytes_le_sent conveys accepts)

/-- A child that is gone cannot write any more. -/
theorem Consistent.of_gone
    {child : WritingLife}
    (consistent : Consistent launch errno process reader writer channel)
    (isGone : ∀ program, child ≠ .running program)
    (finished : child = .killed ∨ HasFinished (Report.encode errno) channel.childEvents) :
    Consistent launch errno process reader writer
      { channel with child := child, isOpen := false } :=
  { consistent with
    child := fun program isRunning => absurd isRunning (isGone program)
    closes := fun _ => rfl
    finished := fun _ => finished
    atEnd := fun endSeen => ⟨(consistent.atEnd endSeen).1, rfl⟩ }

/-- Whoever takes a step, both stay consistent. -/
theorem Consistent.step
    (consistent : Consistent launch errno process reader writer channel)
    (step : Step isMortal process reader writer channel next) :
    Consistent launch errno process reader writer next := by
  cases step with
  | parentCalls isNext answered gets => exact consistent.parentCalls isNext answered gets
  | childCalls isNext accepts isHeldUp canWrite =>
      exact consistent.childCalls isNext accepts isHeldUp canWrite
  | childEnds isNext =>
      obtain ⟨_, _, same, conveys, -⟩ := consistent.conveys isNext
      cases same
      exact consistent.of_gone nofun (.inr conveys)
  | childDies => exact consistent.of_gone nofun (.inl rfl)

/-! ## There is always a step -/

theorem Consistent.exists_step_of_running
    {program : Program Empty}
    (consistent : Consistent launch errno process reader writer channel)
    (isRunning : channel.child = .running program) :
    ∃ next, Step isMortal process reader writer channel next := by
  obtain ⟨request, resume, rfl, conveys, -⟩ := consistent.conveys isRunning
  cases request with
  | write number data =>
      cases isOpen : channel.isOpen with
      | true =>
          have accepts : Accepts ⟨.write number data, .ok data.length⟩ := le_rfl
          exact ⟨_, .childCalls isRunning accepts rfl (by simp [isOpen])⟩
      | false =>
          have accepts : Accepts ⟨.write number data, .ok 0⟩ := Nat.zero_le _
          exact ⟨_, .childCalls isRunning accepts rfl fun _ => rfl⟩
  | close number =>
      have accepts : Accepts ⟨.close number, .ok ()⟩ := trivial
      exact ⟨_, .childCalls isRunning accepts rfl fun _ => rfl⟩
  | exit => exact ⟨_, .childEnds isRunning⟩
  | _ => exact conveys.elim

/-- As long as the parent has no answer, one of the two can take a step, and nobody needs to
be killed. -/
theorem Consistent.exists_step
    {request : Call}
    {resume : request.Answer → Program (Except LaunchError Unit)}
    (consistent : Consistent launch errno process reader writer channel)
    (isNext : channel.parent = .call request resume) :
    ∃ next, Step isMortal process reader writer channel next := by
  have makes := consistent.receives
  rw [isNext] at makes
  have receives := makes.1
  by_cases isRunning : channel.IsRunning
  · obtain ⟨program, isRunning⟩ := isRunning
    exact consistent.exists_step_of_running isRunning
  have calls : ∀ (answer : request.Answer) (left : Bytes),
      IsOrderly ⟨request, answer⟩ → delay ⟨request, answer⟩ = 0 →
        channel.Gets process reader left ⟨request, answer⟩ →
          ∃ next, Step isMortal process reader writer channel next := by
    intro answer left orderly noDelay gets
    have answered : enduring.answers channel.parentDelays request answer
        channel.parentDelays := ⟨orderly, by rw [noDelay]; rfl⟩
    exact ⟨_, .parentCalls isNext answered gets⟩
  cases request with
  | read number count =>
      obtain ⟨rfl, positive⟩ := receives
      cases isPipe : channel.pipe with
      | nil =>
          refine calls (.ok []) [] (Nat.zero_le count) rfl ?_
          exact ⟨rfl, isPipe, consistent.closes isRunning, rfl⟩
      | cons byte rest => exact calls (.ok [byte]) rest positive rfl ⟨rfl, isPipe⟩
  | collect child mode =>
      obtain ⟨rfl, rfl⟩ := receives
      exact calls (.ok (child, .ofExit 127)) channel.pipe trivial rfl
        ⟨rfl, rfl, .inr isRunning⟩
  | close number => exact calls (.ok ()) channel.pipe trivial rfl rfl
  | log record => exact calls () channel.pipe trivial rfl rfl
  | _ => exact receives.elim

/-! ## The answer is true -/

/-- Calls that were answered orderly have read a payload. -/
theorem Consistent.exists_payload
    {outcome : Except LaunchError Unit}
    (consistent : Consistent launch errno process reader writer channel)
    (isDone : channel.parent = .done outcome) :
    ∃ payload,
      Fills reader Report.length (channel.parentEvents.filter isReading) (.ok payload) ∧
        ChildProcess.received channel.parentEvents = payload ∧
          outcome = launch.answerTo (.ok payload) := by
  have ensures := consistent.parent
  rw [isDone] at ensures
  obtain ⟨answer, fills, isAnswer⟩ := ensures
  cases answer with
  | ok payload =>
      refine ⟨payload, fills, ?_, isAnswer⟩
      rw [← received_filter_isReading, fills.received_eq]
  | error cause =>
      obtain ⟨steps, last, same, -, stops⟩ := fills
      cases stops with
      | @failed count failure _ notInterrupted =>
          have isMember : ⟨.read reader count, .error failure⟩ ∈
              channel.parentEvents.filter isReading := by
            rw [same]
            exact List.mem_append_right _ (List.mem_singleton_self _)
          exact absurd (consistent.orderly _ (List.mem_filter.mp isMember).1) notInterrupted

theorem endSeen_of_filter {events : List Event} (endSeen : EndSeen (events.filter isReading)) :
    EndSeen events := by
  obtain ⟨number, count, isMember⟩ := endSeen
  exact ⟨number, count, (List.mem_filter.mp isMember).1⟩

/-- What has been read is all that has been written, and a child that has written less
cannot write any more. -/
theorem Consistent.sent_eq
    {payload : Bytes}
    (consistent : Consistent launch errno process reader writer channel)
    (fills : Fills reader Report.length (channel.parentEvents.filter isReading)
      (.ok payload))
    (isPayload : ChildProcess.received channel.parentEvents = payload) :
    ChildProcess.sent channel.childEvents = payload ∧
      (payload.length < Report.length → channel.isOpen = false) := by
  have bytes := consistent.bytes
  rw [isPayload] at bytes
  by_cases short : payload.length < Report.length
  · obtain ⟨isEmpty, isClosed⟩ := consistent.atEnd (endSeen_of_filter (fills.endSeen short))
    rw [isEmpty, List.append_nil] at bytes
    exact ⟨bytes.symm, fun _ => isClosed⟩
  · have lengths := consistent.isPrefix.length_le
    rw [← bytes, List.length_append, Report.length_encode] at lengths
    have isEmpty : channel.pipe = [] := List.length_eq_zero_iff.mp (by omega)
    rw [isEmpty, List.append_nil] at bytes
    exact ⟨bytes.symm, fun isShort => absurd isShort short⟩

/-- Bytes of a wrong number are no error number. -/
theorem decode_eq_none {payload : Bytes} (wrong : payload.length ≠ Report.length) :
    Report.decode payload = none := by
  unfold Report.decode
  split
  · exact absurd rfl wrong
  · rfl

/-- When the parent has an answer, it tells how far the child got. -/
theorem Consistent.delivered
    {outcome : Except LaunchError Unit}
    (consistent : Consistent launch errno process reader writer channel)
    (isDone : channel.parent = .done outcome) :
    ∃ count, channel.Delivered launch errno reader count outcome := by
  obtain ⟨payload, fills, isPayload, rfl⟩ := consistent.exists_payload isDone
  obtain ⟨isSent, final⟩ := consistent.sent_eq fills isPayload
  have isPrefix := consistent.isPrefix
  rw [isSent, List.prefix_iff_eq_take] at isPrefix
  have fits : payload.length ≤ Report.length := isPayload ▸ received_filter_isReading
    channel.parentEvents ▸ fills.length_received_le
  have inTime := consistent.writesInTime
  rw [isSent] at inTime
  refine ⟨payload.length,
    { isDone
      fits
      sent := isSent.trans isPrefix
      received := isPayload.trans isPrefix
      final
      complete := ?_
      silent := ?_
      cut := ?_
      whole := ?_
      reads := isPrefix ▸ fills
      readsInTime := fills.countP_movesBytes_le
      writesInTime := inTime.trans fits
      givesUpOnce := consistent.givesUpOnce }⟩
  · intro notKilled goesOn
    by_contra incomplete
    have short : payload.length < Report.length := lt_of_le_of_ne fits incomplete
    have finished := (consistent.finished (final short)).resolve_left notKilled
    have complete := finished.resolve_left goesOn
    rw [isSent] at complete
    rw [complete] at short
    exact absurd short (Nat.lt_irrefl _)
  · intro nothing
    rw [List.length_eq_zero_iff.mp nothing]
    rfl
  · intro something short
    rw [launch.answerTo_of_ne_nil (List.length_pos_iff.mp something),
      decode_eq_none short.ne]
  · intro complete
    rw [complete] at isPrefix
    obtain rfl : payload = Report.encode errno := isPrefix
    have nonempty : Report.encode errno ≠ [] := List.cons_ne_nil _ _
    rw [launch.answerTo_of_ne_nil nonempty, Report.decode_encode]

theorem sideBySide :
    SideBySide (Step isMortal process reader writer)
      (Consistent launch errno process reader writer) parent
      fun channel =>
        match channel.child with
        | .running program => some program
        | .ended | .killed => none where
  kept _ _ consistent step := consistent.step step
  possible _ _ _ consistent isNext := consistent.exists_step isNext
  goesOn := by
    rintro channel _ - (⟨isNext, -, -⟩ | ⟨isNext, -, -, -⟩ | isNext | ⟨-, isRunning⟩)
    · exact .inl ⟨_, _, _, isNext, rfl⟩
    · exact .inr ⟨rfl, _, by rw [isNext], .inr ⟨_, _, _, rfl, rfl⟩⟩
    · exact .inr ⟨rfl, _, by rw [isNext], .inl rfl⟩
    · exact .inr ⟨rfl, _, by rw [isRunning], .inl rfl⟩

/-- Whatever the two do, the parent comes to an answer that is true. -/
theorem Consistent.eventually_delivered
    (consistent : Consistent launch errno process reader writer channel) :
    Eventually (Step isMortal process reader writer)
      (fun channel => ∃ count outcome, channel.Delivered launch errno reader count outcome)
      channel := by
  refine sideBySide.eventually ?_ ?_ consistent
  · intro channel outcome consistent isDone
    obtain ⟨count, delivered⟩ := consistent.delivered isDone
    exact ⟨count, outcome, delivered⟩
  · intro channel consistent isExhausted
    have ensures := consistent.parent
    rw [isExhausted] at ensures
    exact ensures

end Consistency

/-! ## From the beginning -/

/-- What a program ensures, it ensures without using up its rounds if it lasts. -/
theorem ensures_enduring
    {α : Type}
    {program : Program α}
    {result : List Event → Nat → α → Prop}
    {history : List Event}
    {before : Nat}
    (lasts : Lasts before program)
    (ensures : program.Ensures { answers := enduring.answers } result history before) :
    program.Ensures enduring result history before := by
  have both := ensures.and (lasts history before le_rfl)
  refine Program.Ensures.mono (Program.Ensures.weaken both ?_ ?_ ?_) fun _ _ _ => And.left
  · exact fun _ _ _ _ => id
  · exact fun _ _ _ _ => trivial
  · exact And.right

/-- A child that begins to report an error number, and a parent that begins to read. -/
def beginning (launch : Launch) (errno : Errno) (process : ProcessId)
    (reader writer : Descriptor) (rounds parentDelays childDelays : Nat) : Channel where
  child := .running (Report.sendAndExit rounds writer errno)
  childEvents := []
  childDelays := childDelays
  parent := launch.awaitReport rounds process reader
  parentEvents := []
  parentDelays := parentDelays
  isOpen := true
  pipe := []

theorem consistent_beginning
    {rounds parentDelays childDelays : Nat}
    (launch : Launch)
    (errno : Errno)
    (process : ProcessId)
    (reader writer : Descriptor)
    (enoughForParent : parentDelays < rounds)
    (enoughForChild : childDelays + Report.length ≤ rounds) :
    Consistent launch errno process reader writer
      (beginning launch errno process reader writer rounds parentDelays childDelays) := by
  have fits : ∀ state number count bytes next,
      enduring.answers state (.read number count) (.ok bytes) next → bytes.length ≤ count :=
    fun _ _ _ _ _ => And.left
  have learns : (launch.awaitReport rounds process reader).Ensures
      { answers := enduring.answers }
      (fun later _ outcome => launch.Learns reader later outcome) [] parentDelays :=
    ensures_awaitReport_learns fits launch
  have lasts := launch.lasts_awaitReport process reader enoughForParent
  have sends : (Report.sendAndExit rounds writer errno).Ensures
      (conveying writer (Report.encode errno)) (fun _ _ _ => False) [] childDelays :=
    ensures_sendAndExit_finished errno enoughForChild
  refine
    { receives := makes_awaitReport launch
      parent := ensures_enduring lasts learns
      orderly := List.forall_mem_nil _
      child := ?_
      isPrefix := List.nil_prefix
      bytes := rfl
      closes := fun notRunning => absurd ⟨_, rfl⟩ notRunning
      finished := nofun
      atEnd := ?_
      writesInTime := le_rfl
      givesUpOnce := Nat.zero_le 1 }
  · rintro _ ⟨rfl⟩
    exact sends
  · rintro ⟨_, _, isMember⟩
    cases isMember

/-- However a child writes an error number and its parent reads it, and whether or not the
child may be killed, the parent comes to the answer that the bytes call for which the child
has written.  Reading into a buffer of any size keeps all bytes in order. -/
theorem eventually_delivered_of_beginning
    {rounds parentDelays childDelays : Nat}
    (enoughForParent : parentDelays < rounds)
    (enoughForChild : childDelays + Report.length ≤ rounds)
    (launch : Launch)
    (errno : Errno)
    (process : ProcessId)
    (reader writer : Descriptor)
    (isMortal : Bool) :
    Eventually (Step isMortal process reader writer)
        (fun channel => ∃ count outcome, channel.Delivered launch errno reader count outcome)
        (beginning launch errno process reader writer rounds parentDelays childDelays) ∧
      ∀ (answers : System Unit) (rounds count : Nat) (reader : Descriptor)
        (events : List Event) (answer : Except SystemError Bytes),
        Program.Runs (answers.only Fits) (Program.readFully rounds reader count) () events
            (.done answer) () →
          Fills reader count events answer ∧ events.countP movesBytes ≤ count ∧
            ∀ bytes, answer = .ok bytes → received events = bytes ∧ bytes.length ≤ count ∧
              (bytes.length < count → EndSeen events) := by
  refine ⟨?_, ?_⟩
  · exact (consistent_beginning launch errno process reader writer enoughForParent
      enoughForChild).eventually_delivered
  · intro answers rounds count reader events answer runs
    have fills := fills_of_runs_readFully runs
    refine ⟨fills, fills.countP_movesBytes_le, ?_⟩
    rintro bytes rfl
    exact ⟨fills.received_eq, fills.received_eq ▸ fills.length_received_le, fills.endSeen⟩

/-- A child is killed after two bytes, and its parent has been interrupted once. -/
theorem eventually_delivered_of_beginning_with_kill :
    let launch : Launch := { Launch.initial with commandLine := ["no-such"] }
    let start := beginning launch Errno.ENOENT 7 3 4 5 1 1
    1 < 5 ∧ 1 + Report.length ≤ 5 ∧
      Eventually (Step true 7 3 4)
        (fun channel => ∃ count outcome,
          channel.Delivered launch Errno.ENOENT 3 count outcome) start ∧
      ∃ last, Relation.ReflTransGen (Step true 7 3 4) start last ∧
        last.parent = .done (.error (.report (Launch.partialReport 2))) := by
  intro launch start
  have delivers := (eventually_delivered_of_beginning (by decide : 1 < 5)
    (by decide : 1 + Report.length ≤ 5) launch Errno.ENOENT 7 3 4 true).1
  refine ⟨by decide, by decide, delivers, ?_⟩
  have writes : Accepts ⟨.write 4 (Report.encode Errno.ENOENT), .ok 2⟩ :=
    (by decide : 2 ≤ 4)
  have interrupts : enduring.answers 1 (.read 3 4) (.error Errno.EINTR) 0 := ⟨rfl, rfl⟩
  have reads : enduring.answers 0 (.read 3 4) (.ok [2, 0]) 0 :=
    ⟨(by decide : 2 ≤ 4), rfl⟩
  have ends : enduring.answers 0 (.read 3 2) (.ok []) 0 := ⟨Nat.zero_le 2, rfl⟩
  have closes : enduring.answers 0 (.close 3) (.ok ()) 0 := ⟨trivial, rfl⟩
  have collects : enduring.answers 0 (.collect 7 .untilEnd) (.error Errno.ECHILD) 0 :=
    ⟨.inr rfl, rfl⟩
  refine ⟨_, .head (.childCalls rfl writes rfl nofun) <| .head (.childDies rfl rfl) <|
    .head (.parentCalls rfl interrupts rfl) <| .head (.parentCalls rfl reads ⟨rfl, rfl⟩) <|
    .head (.parentCalls rfl ends ⟨rfl, rfl, rfl, rfl⟩) <|
    .head (.parentCalls rfl closes rfl) <|
    .head (.parentCalls rfl collects ⟨rfl, rfl, .inr ?_⟩) .refl, rfl⟩
  rintro ⟨program, isRunning⟩
  cases isRunning

end Channel
end ChildProcess
