import ChildProcess.Proofs.Concurrency.Ledger
import ChildProcess.Proofs.Spawn.Survivors
import ChildProcess.Proofs.Spawn.TwoSides

/-!
# Starts in several threads

A process starts children in any number of threads at once, and all of them share its
descriptors.  The threads, the children and whatever else the process does take steps in
any order, and a child gets a copy of the descriptors as they are at that instant, with
all that the other threads have half set up.  Every end of a pipe closes on execution as
long as it is in the process that has made it, and a child clears this only for what it
puts onto its own standard descriptors.  So a child that has become another program has no
end of a pipe but those that were meant for it.

Files are told apart by numbers, and a child goes on from the next one that its parent
would have used.  No file that it makes itself is left when it becomes another program, so
that what is left always is a file of its parent.
-/

namespace ChildProcess

open Descriptors

/-! ## A process and its children -/

/-- A child that is to be started. -/
structure Plan where
  rounds : Nat
  launch : Launch
  path : SearchPath
  environment : Environment

/-- What the thread for a child does. -/
def Plan.program (plan : Plan) : Program (Except LaunchError Handle) :=
  plan.launch.spawn plan.rounds plan.path plan.environment

/-- How far a thread has come. -/
structure Thread where
  program : Program (Except LaunchError Handle)
  /-- The pipes that it has made, in order. -/
  pipes : List PipeEnds
  /-- What the owner of the handle has closed since. -/
  closed : List Descriptor

/-- A child with its own descriptors. -/
structure Offspring where
  /-- The descriptors of its parent when the process was duplicated. -/
  atFork : Descriptors
  life : ChildLife
  descriptors : Descriptors

/-- A process with its threads, and the children that they have started. -/
structure Household (ι : Type) where
  descriptors : Descriptors
  threads : ι → Thread
  children : ι → Option Offspring

/-- The pipes that a call makes. -/
def madePipes (before : Descriptors) : (request : Call) → request.Answer → List PipeEnds
  | .pipe, .ok _ => [⟨before.nextFile, before.nextFile + 1⟩]
  | _, _ => []

/-- All numbers that stand for a file are left alone. -/
def Descriptors.Spares (before after : Descriptors) (file : FileId) : Prop :=
  ∀ number slot, slot.file = file →
    (after.slot? number = some slot ↔ before.slot? number = some slot)

theorem Descriptors.Spares.refl (descriptors : Descriptors) (file : FileId) :
    descriptors.Spares descriptors file :=
  fun _ _ _ => Iff.rfl

/-- Closing a number that stands for another file leaves a file alone. -/
theorem Descriptors.Spares.of_becomes
    {before after : Descriptors}
    {number : Descriptor}
    {held : Slot}
    {file : FileId}
    (stands : before.slot? number = some held)
    (closes : before.Becomes number none after)
    (different : held.file ≠ file) :
    before.Spares after file := by
  rintro other slot rfl
  refine closes.slot?_eq_some_iff.trans ⟨And.right, fun isSlot => ⟨?_, isSlot⟩⟩
  rintro rfl
  rw [stands] at isSlot
  exact different (congrArg Slot.file (Option.some.inj isSlot))

namespace Thread

/-- The ends of the pipes that a thread has made. -/
def ends (thread : Thread) : List FileId :=
  PipeEnds.files thread.pipes

/-- A thread has come to its end, and all descriptors of its handle have been closed. -/
def IsOver (thread : Thread) : Prop :=
  ∃ outcome, thread.program = .done outcome ∧
    ∀ handle, outcome = .ok handle → ∀ number ∈ handle.owned, number ∈ thread.closed

end Thread

/-- A child, or the program that it has become, has a descriptor for a file. -/
def Offspring.Holds (child : Offspring) (file : FileId) : Prop :=
  match child.life with
  | .running _ => ∃ number, child.descriptors.file? number = some file
  | .replaced =>
      ∃ number slot, child.descriptors.afterExecution number = some slot ∧ slot.file = file
  | .ended | .collected => False

/-- The caller has passed a file as the target of a stream. -/
def Launch.Passes (launch : Launch) (atFork : Descriptors) (file : FileId) : Prop :=
  ∃ stream target, launch.redirections.get stream = .descriptor target ∧
    (stream = .stderr → launch.mergesOutputs = false) ∧ atFork.file? target = some file

namespace Household

variable {ι : Type}

/-- No thread has begun. -/
def initial (plans : ι → Plan) (descriptors : Descriptors) : Household ι where
  descriptors
  threads i := ⟨(plans i).program, [], []⟩
  children _ := none

/-- The process, or the child of one of its threads, has a descriptor for a file. -/
def Holds (household : Household ι) (file : FileId) : Option ι → Prop
  | none => ∃ number, household.descriptors.file? number = some file
  | some i => ∃ child, household.children i = some child ∧ child.Holds file

/-- One thread, one child or the rest of the process takes a step. -/
inductive Step [DecidableEq ι] : Household ι → Household ι → Prop
  | threadCalls {household : Household ι} {i : ι} {request : Call}
      {resume : request.Answer → Program (Except LaunchError Handle)}
      {answer : request.Answer} {next : Descriptors}
      (isNext : (household.threads i).program = .call request resume)
      (answered : household.descriptors.Answers request answer next)
      (noChild : ∀ side, (⟨request, answer⟩ : Event) ≠ ⟨.fork, .ok side⟩) :
      Step household
        { household with
          descriptors := next
          threads := Function.update household.threads i
            { household.threads i with
              program := resume answer
              pipes := (household.threads i).pipes ++
                madePipes household.descriptors request answer } }
  /-- The child gets a copy of all descriptors. -/
  | threadForks {household : Household ι} {i : ι} {process : ProcessId}
      {side : Except Errno ForkSide → Program (Except LaunchError Handle)}
      (isNext : (household.threads i).program = .call .fork side) :
      Step household
        { household with
          threads := Function.update household.threads i
            { household.threads i with program := side (.ok (.parent process)) }
          children := Function.update household.children i
            (some ⟨household.descriptors, .running (side (.ok .child)),
              household.descriptors⟩) }
  | childCalls {household : Household ι} {i : ι} {child : Offspring} {request : Call}
      {resume : request.Answer → Program (Except LaunchError Handle)}
      {answer : request.Answer} {next : Descriptors}
      (isChild : household.children i = some child)
      (isNext : child.life = .running (.call request resume))
      (answered : child.descriptors.Answers request answer next) :
      Step household
        { household with
          children := Function.update household.children i
            (some { child with life := .running (resume answer), descriptors := next }) }
  | childBecomes {household : Household ι} {i : ι} {child : Offspring} {path : Bytes}
      {arguments environment : List Bytes}
      {resume : Errno → Program (Except LaunchError Handle)}
      (isChild : household.children i = some child)
      (isNext : child.life = .running (.call (.execute path arguments environment) resume)) :
      Step household
        { household with
          children := Function.update household.children i
            (some { child with life := .replaced }) }
  /-- The child exits, or is killed, as whatever program. -/
  | childEnds {household : Household ι} {i : ι} {child : Offspring}
      (isChild : household.children i = some child) :
      Step household
        { household with
          children := Function.update household.children i
            (some { child with life := .ended }) }
  | ownerCloses {household : Household ι} {i : ι} {handle : Handle} {number : Descriptor}
      {answer : Except Errno Unit} {next : Descriptors}
      (isOwner : (household.threads i).program = .done (.ok handle))
      (isOwned : number ∈ handle.owned)
      (notClosed : number ∉ (household.threads i).closed)
      (answered : household.descriptors.Answers (.close number) answer next) :
      Step household
        { household with
          descriptors := next
          threads := Function.update household.threads i
            { household.threads i with closed := number :: (household.threads i).closed } }
  /-- Whatever else the process does, it leaves the pipes of the threads alone. -/
  | callerCalls {household : Household ι} {request : Call} {answer : request.Answer}
      {next : Descriptors}
      (answered : household.descriptors.Answers request answer next)
      (spares : ∀ i, ∀ file ∈ (household.threads i).ends,
        household.descriptors.Spares next file) :
      Step household { household with descriptors := next }

end Household

/-! ## One thread -/

/-- What the descriptors of a process show of a thread, and what its own ledger does. -/
structure Thread.Follows (plan : Plan) (shared : Descriptors) (thread : Thread)
    (ledger : Descriptors) : Prop where
  runs : ∃ events, Program.Runs inParent plan.program blank events thread.program ledger
  counts : ledger.nextFile = 2 * thread.pipes.length
  /-- What is in the ledger, and has not been closed since, is there under its number. -/
  stands : ∀ number slot, ledger.slot? number = some slot → number ∉ thread.closed →
    ∃ file, PipeEnds.file? thread.pipes slot.file = some file ∧
      shared.slot? number = some ⟨file, true⟩
  /-- Nothing else stands for an end of the thread's pipes. -/
  isOnly : ∀ number slot, shared.slot? number = some slot → slot.file ∈ thread.ends →
    slot.closesOnExec = true ∧ number ∉ thread.closed ∧ ledger.IsOpen number
  isMade : ∀ file ∈ thread.ends, file < shared.nextFile
  distinct : thread.ends.Nodup
  isOwner : thread.closed ≠ [] → ∃ handle, thread.program = .done (.ok handle)

section Threads

variable {plan : Plan} {shared next ledger : Descriptors} {thread : Thread}

theorem Thread.follows_initial (plan : Plan) (shared : Descriptors) :
    Thread.Follows plan shared ⟨plan.program, [], []⟩ blank where
  runs := ⟨[], .stop _ _⟩
  counts := rfl
  stands _ _ isSlot := nomatch isSlot
  isOnly _ _ _ isEnd := nomatch isEnd
  isMade _ isEnd := nomatch isEnd
  distinct := List.nodup_nil
  isOwner notNil := absurd rfl notNil

namespace Thread.Follows

/-- A thread is not concerned by what leaves its pipes alone. -/
theorem of_spares
    (follows : thread.Follows plan shared ledger)
    (spares : ∀ file ∈ thread.ends, shared.Spares next file)
    (notFewer : shared.nextFile ≤ next.nextFile) :
    thread.Follows plan next ledger where
  runs := follows.runs
  counts := follows.counts
  stands number slot isSlot notClosed := by
    obtain ⟨file, isFile, stands⟩ := follows.stands number slot isSlot notClosed
    have isEnd := PipeEnds.mem_files_of_file? isFile
    exact ⟨file, isFile, (spares file isEnd number _ rfl).mpr stands⟩
  isOnly number slot isSlot isEnd :=
    follows.isOnly number slot ((spares slot.file isEnd number slot rfl).mp isSlot) isEnd
  isMade file isEnd := Nat.lt_of_lt_of_le (follows.isMade file isEnd) notFewer
  distinct := follows.distinct
  isOwner := follows.isOwner

/-- A number that a thread has in its ledger stands for an end of its pipes. -/
theorem exists_end
    {number : Descriptor}
    (follows : thread.Follows plan shared ledger)
    (isOpen : ledger.IsOpen number)
    (notClosed : number ∉ thread.closed) :
    ∃ file ∈ thread.ends, shared.slot? number = some ⟨file, true⟩ := by
  obtain ⟨slot, isSlot⟩ := Option.ne_none_iff_exists'.mp isOpen
  obtain ⟨file, isFile, stands⟩ := follows.stands number slot isSlot notClosed
  exact ⟨file, PipeEnds.mem_files_of_file? isFile, stands⟩

/-- A number that is free in the process is free in the ledger. -/
theorem isFree
    {number : Descriptor}
    (follows : thread.Follows plan shared ledger)
    (notClosed : number ∉ thread.closed)
    (free : shared.IsFree number) :
    ledger.IsFree number := by
  refine ⟨?_, free.2⟩
  by_contra isOpen
  obtain ⟨file, -, stands⟩ := follows.exists_end isOpen notClosed
  rw [free.1] at stands
  cases stands

/-- As long as a thread is running, nothing has been closed of its handle. -/
theorem closed_eq_nil
    {request : Call}
    {resume : request.Answer → Program (Except LaunchError Handle)}
    (follows : thread.Follows plan shared ledger)
    (isNext : thread.program = .call request resume) :
    thread.closed = [] := by
  by_contra notNil
  obtain ⟨handle, isDone⟩ := follows.isOwner notNil
  rw [isNext] at isDone
  cases isDone

/-- A running thread makes pipes, and closes what is in its ledger. -/
theorem allows
    {request : Call}
    {resume : request.Answer → Program (Except LaunchError Handle)}
    (follows : thread.Follows plan shared ledger)
    (isNext : thread.program = .call request resume) :
    usesPipes request ∧ ∀ number, request = .close number → ledger.IsOpen number := by
  obtain ⟨events, runs⟩ := follows.runs
  rw [isNext] at runs
  have uses := (plan.launch.ensures_usesPipes plan.rounds plan.path plan.environment
    blank).of_runs runs
  have accounts := (plan.launch.ensures_spawn plan.rounds plan.path plan.environment
    blank).of_runs runs
  refine ⟨uses.1, ?_⟩
  rintro number rfl
  exact accounts.1.2

/-- The ledger of a thread goes on with the thread. -/
theorem runs_call
    {request : Call}
    {resume : request.Answer → Program (Except LaunchError Handle)}
    {answer : request.Answer}
    {ledgerNext : Descriptors}
    (follows : thread.Follows plan shared ledger)
    (isNext : thread.program = .call request resume)
    (notChild : (⟨request, answer⟩ : Event) ≠ ⟨.fork, .ok .child⟩)
    (answered : ledger.Answers request answer ledgerNext) :
    ∃ events, Program.Runs inParent plan.program blank events (resume answer) ledgerNext := by
  obtain ⟨events, runs⟩ := follows.runs
  rw [isNext] at runs
  exact ⟨_, runs.trans (.call ⟨answered, notChild⟩ (.stop _ _))⟩

/-- A call that leaves all descriptors as they are. -/
theorem leave
    {request : Call}
    {resume : request.Answer → Program (Except LaunchError Handle)}
    {answer : request.Answer}
    (follows : thread.Follows plan shared ledger)
    (isNext : thread.program = .call request resume)
    (notChild : (⟨request, answer⟩ : Event) ≠ ⟨.fork, .ok .child⟩)
    (answered : ledger.Answers request answer ledger) :
    Thread.Follows plan shared { thread with program := resume answer } ledger where
  runs := follows.runs_call isNext notChild answered
  counts := follows.counts
  stands := follows.stands
  isOnly := follows.isOnly
  isMade := follows.isMade
  distinct := follows.distinct
  isOwner notNil := absurd (follows.closed_eq_nil isNext) notNil

/-- A call that makes a pipe puts it on the ledger. -/
theorem pipe
    {reader writer : Descriptor}
    {resume : Except Errno (Descriptor × Descriptor) → Program (Except LaunchError Handle)}
    (follows : thread.Follows plan shared ledger)
    (isNext : thread.program = .call .pipe resume)
    (freeReader : shared.IsFree reader)
    (freeWriter : (shared.openNext reader true freeReader).IsFree writer) :
    ∃ ledgerNext, Thread.Follows plan
      ((shared.openNext reader true freeReader).openNext writer true freeWriter)
      { thread with
        program := resume (.ok (reader, writer))
        pipes := thread.pipes ++ [⟨shared.nextFile, shared.nextFile + 1⟩] }
      ledgerNext := by
  have notClosed : ∀ number, number ∉ thread.closed := by
    simp [follows.closed_eq_nil isNext]
  have freeOwnReader := follows.isFree (notClosed reader) freeReader
  obtain ⟨different, wasFree⟩ := (isFree_openNext_iff freeReader true).mp freeWriter
  have freeOwnWriter := (isFree_openNext_iff freeOwnReader true).mpr
    ⟨different, follows.isFree (notClosed writer) wasFree⟩
  refine ⟨(ledger.openNext reader true freeOwnReader).openNext writer true freeOwnWriter, ?_⟩
  have isOwn := slot?_openPipe_eq_some_iff freeOwnReader freeOwnWriter
  have isShared := slot?_openPipe_eq_some_iff freeReader freeWriter
  refine ⟨follows.runs_call isNext nofun ⟨freeOwnReader, freeOwnWriter, rfl⟩, ?_, ?_, ?_,
    PipeEnds.lt_of_mem_files_concat follows.isMade,
    PipeEnds.nodup_files_concat follows.distinct follows.isMade,
    fun notNil => absurd (follows.closed_eq_nil isNext) notNil⟩
  · change ledger.nextFile + 1 + 1 = _
    rw [follows.counts, List.length_append]
    rfl
  · intro number slot isSlot _
    rcases (isOwn number slot).mp isSlot with ⟨rfl, rfl⟩ | ⟨rfl, rfl⟩ | isSlot
    · refine ⟨shared.nextFile, ?_, (isShared _ _).mpr (.inl ⟨rfl, rfl⟩)⟩
      rw [follows.counts, PipeEnds.file?_two_mul]
      simp
    · refine ⟨shared.nextFile + 1, ?_, (isShared _ _).mpr (.inr (.inl ⟨rfl, rfl⟩))⟩
      rw [follows.counts, PipeEnds.file?_two_mul_add_one]
      simp
    · obtain ⟨file, isFile, stands⟩ := follows.stands number slot isSlot (notClosed number)
      exact ⟨file, PipeEnds.file?_append isFile, (isShared _ _).mpr (.inr (.inr stands))⟩
  · intro number slot isSlot isEnd
    rw [Descriptors.IsOpen, Option.ne_none_iff_exists']
    rcases (isShared number slot).mp isSlot with ⟨rfl, rfl⟩ | ⟨rfl, rfl⟩ | isSlot
    · exact ⟨rfl, notClosed _, _, (isOwn _ _).mpr (.inl ⟨rfl, rfl⟩)⟩
    · exact ⟨rfl, notClosed _, _, (isOwn _ _).mpr (.inr (.inl ⟨rfl, rfl⟩))⟩
    · have isEnd := PipeEnds.mem_files_of_lt isEnd (shared.isMade number slot isSlot)
      obtain ⟨closes, _, isOpen⟩ := follows.isOnly number slot isSlot isEnd
      obtain ⟨held, isHeld⟩ := Option.ne_none_iff_exists'.mp isOpen
      exact ⟨closes, notClosed _, held, (isOwn _ _).mpr (.inr (.inr isHeld))⟩

/-- A number that has been closed is off the ledger. -/
theorem close
    {number : Descriptor}
    {answer : Except Errno Unit}
    {resume : Except Errno Unit → Program (Except LaunchError Handle)}
    (follows : thread.Follows plan shared ledger)
    (isNext : thread.program = .call (.close number) resume)
    (closes : shared.Becomes number none next) :
    Thread.Follows plan next { thread with program := resume answer }
      (ledger.release number) where
  runs := follows.runs_call isNext nofun (ledger.becomes_release number)
  counts := follows.counts
  stands other slot isSlot notClosed := by
    obtain ⟨different, isSlot⟩ :=
      (ledger.becomes_release number).slot?_eq_some_iff.mp isSlot
    rw [closes.slot?_of_ne different]
    exact follows.stands other slot isSlot notClosed
  isOnly other slot isSlot isEnd := by
    obtain ⟨different, isSlot⟩ := closes.slot?_eq_some_iff.mp isSlot
    rw [Descriptors.IsOpen, (ledger.becomes_release number).slot?_of_ne different]
    exact follows.isOnly other slot isSlot isEnd
  isMade := closes.files ▸ follows.isMade
  distinct := follows.distinct
  isOwner notNil := absurd (follows.closed_eq_nil isNext) notNil

/-- What its owner has closed counts no more. -/
theorem ownerCloses
    {number : Descriptor}
    {handle : Handle}
    (follows : thread.Follows plan shared ledger)
    (isOwner : thread.program = .done (.ok handle))
    (closes : shared.Becomes number none next) :
    Thread.Follows plan next { thread with closed := number :: thread.closed } ledger where
  runs := follows.runs
  counts := follows.counts
  stands other slot isSlot notClosed := by
    rw [List.mem_cons, not_or] at notClosed
    rw [closes.slot?_of_ne notClosed.1]
    exact follows.stands other slot isSlot notClosed.2
  isOnly other slot isSlot isEnd := by
    obtain ⟨different, isSlot⟩ := closes.slot?_eq_some_iff.mp isSlot
    obtain ⟨closesOnExec, notClosed, isOpen⟩ := follows.isOnly other slot isSlot isEnd
    exact ⟨closesOnExec, by simp [different, notClosed], isOpen⟩
  isMade := closes.files ▸ follows.isMade
  distinct := follows.distinct
  isOwner _ := ⟨handle, isOwner⟩

/-- Whatever a running thread calls, its ledger goes on with it. -/
theorem call
    {request : Call}
    {resume : request.Answer → Program (Except LaunchError Handle)}
    {answer : request.Answer}
    (follows : thread.Follows plan shared ledger)
    (isNext : thread.program = .call request resume)
    (notChild : (⟨request, answer⟩ : Event) ≠ ⟨.fork, .ok .child⟩)
    (answered : shared.Answers request answer next) :
    ∃ ledgerNext, Thread.Follows plan next
      { thread with
        program := resume answer
        pipes := thread.pipes ++ madePipes shared request answer }
      ledgerNext := by
  have leave : leavesDescriptors request = true → madePipes shared request answer = [] →
      ∃ ledgerNext, Thread.Follows plan next
        { thread with
          program := resume answer
          pipes := thread.pipes ++ madePipes shared request answer }
        ledgerNext := by
    intro leaves noPipe
    rw [noPipe, List.append_nil, eq_of_answers leaves answered]
    exact ⟨ledger, follows.leave isNext notChild (answers_of_leaves answer leaves)⟩
  have uses := (follows.allows isNext).1
  cases request with
  | pipe =>
      rcases answer with errno | ⟨reader, writer⟩
      · obtain rfl : next = shared := answered
        have noPipe : madePipes next .pipe (.error errno) = [] := rfl
        rw [noPipe, List.append_nil]
        exact ⟨ledger, follows.leave isNext notChild rfl⟩
      · obtain ⟨freeReader, freeWriter, rfl⟩ := answered
        exact follows.pipe isNext freeReader freeWriter
  | close number =>
      have noPipe : madePipes shared (.close number) answer = [] := rfl
      rw [noPipe, List.append_nil]
      exact ⟨ledger.release number, follows.close isNext answered⟩
  | duplicate | duplicateFrom | setCloseOnExec | openFile | directoryRecords => cases uses
  | _ => exact leave rfl rfl

/-- A thread's call leaves alone the files of all others that have been made. -/
theorem spares_of_call
    {request : Call}
    {resume : request.Answer → Program (Except LaunchError Handle)}
    {answer : request.Answer}
    {file : FileId}
    (follows : thread.Follows plan shared ledger)
    (isNext : thread.program = .call request resume)
    (answered : shared.Answers request answer next)
    (isMade : file < shared.nextFile)
    (notOwn : file ∉ thread.ends) :
    shared.Spares next file := by
  obtain ⟨uses, closesOwn⟩ := follows.allows isNext
  cases request with
  | pipe =>
      rcases answer with errno | ⟨reader, writer⟩
      · obtain rfl : next = shared := answered
        exact .refl next file
      · obtain ⟨freeReader, freeWriter, rfl⟩ := answered
        rintro number slot rfl
        refine (slot?_openPipe_eq_some_iff freeReader freeWriter _ _).trans
          ⟨?_, fun isSlot => .inr (.inr isSlot)⟩
        rintro (⟨-, rfl⟩ | ⟨-, rfl⟩ | isSlot)
        · exact absurd isMade (Nat.lt_irrefl _)
        · exact absurd isMade (Nat.not_lt.mpr (Nat.le_succ _))
        · exact isSlot
  | close closed =>
      have notClosed : closed ∉ thread.closed := by simp [follows.closed_eq_nil isNext]
      obtain ⟨ownFile, isEnd, stands⟩ := follows.exists_end (closesOwn closed rfl) notClosed
      refine .of_becomes stands answered ?_
      rintro rfl
      exact notOwn isEnd
  | duplicate | duplicateFrom | setCloseOnExec | openFile | directoryRecords => cases uses
  | _ => exact (eq_of_answers rfl answered) ▸ .refl shared file

/-- What a thread has in its ledger when it is done are the descriptors of its handle. -/
theorem mem_owned
    {outcome : Except LaunchError Handle}
    {number : Descriptor}
    (follows : thread.Follows plan shared ledger)
    (isDone : thread.program = .done outcome) :
    ledger.IsOpen number ↔ ∃ handle, outcome = .ok handle ∧ number ∈ handle.owned := by
  obtain ⟨events, runs⟩ := follows.runs
  rw [isDone] at runs
  have accounts := (plan.launch.ensures_spawn plan.rounds plan.path plan.environment
    blank).of_runs runs
  cases outcome with
  | ok handle =>
      obtain ⟨-, -, -, -, -, -, adds⟩ := accounts
      constructor
      · intro isOpen
        refine ⟨handle, rfl, ?_⟩
        by_contra notOwned
        exact isOpen (adds.keeps number notOwned)
      · rintro ⟨_, ⟨⟩, isOwned⟩
        exact adds.isOpen isOwned
  | error cause =>
      refine iff_of_false ?_ nofun
      rw [Descriptors.IsOpen, accounts.1]
      exact fun isOpen => isOpen rfl

/-- What its owner closes leaves alone the files of all other threads. -/
theorem spares_of_ownerCloses
    {handle : Handle}
    {number : Descriptor}
    {file : FileId}
    (follows : thread.Follows plan shared ledger)
    (isOwner : thread.program = .done (.ok handle))
    (isOwned : number ∈ handle.owned)
    (notClosed : number ∉ thread.closed)
    (closes : shared.Becomes number none next)
    (notOwn : file ∉ thread.ends) :
    shared.Spares next file := by
  have isOpen := (follows.mem_owned isOwner).mpr ⟨handle, rfl, isOwned⟩
  obtain ⟨ownFile, isEnd, stands⟩ := follows.exists_end isOpen notClosed
  refine .of_becomes stands closes ?_
  rintro rfl
  exact notOwn isEnd

/-- When a thread is over, nothing in its process stands for an end of its pipes. -/
theorem file?_ne_of_isOver
    {file : FileId}
    (follows : thread.Follows plan shared ledger)
    (isOver : thread.IsOver)
    (isEnd : file ∈ thread.ends)
    (number : Descriptor) :
    shared.file? number ≠ some file := by
  intro stands
  obtain ⟨slot, isSlot, rfl⟩ := Option.map_eq_some_iff.mp stands
  obtain ⟨-, notClosed, isOpen⟩ := follows.isOnly number slot isSlot isEnd
  obtain ⟨outcome, isDone, allClosed⟩ := isOver
  obtain ⟨handle, rfl, isOwned⟩ := (follows.mem_owned isDone).mp isOpen
  exact notClosed (allClosed handle rfl number isOwned)

end Thread.Follows
end Threads
end ChildProcess
