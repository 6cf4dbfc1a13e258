import ChildProcess.Proofs.Concurrency.Threads

/-!
# Isolation of concurrent starts

A child takes nothing into another program but what it was given and what stayed open on
execution in its parent when the process was duplicated.  At that moment all ends of all
pipes of the threads close on execution, and none of those that are made later gets into
the child.  So whatever the threads, the children and the rest of the process do, and in
which order, a child that has become another program has an end of a pipe only if it was
given that end.
-/

namespace ChildProcess

open Descriptors

/-- A file is the child's end of a stream, or has been passed by the caller. -/
def Launch.Gives (launch : Launch) (pipes : List PipeEnds) (atFork : Descriptors)
    (file : FileId) : Prop :=
  (∃ stream, launch.childFile? pipes stream = some file) ∨ launch.Passes atFork file

theorem Launch.Gives.append
    {launch : Launch}
    {pipes : List PipeEnds}
    {atFork : Descriptors}
    {file : FileId}
    (gives : launch.Gives pipes atFork file)
    (more : List PipeEnds) :
    launch.Gives (pipes ++ more) atFork file :=
  gives.imp_left fun ⟨stream, isFile⟩ => ⟨stream, childFile?_append isFile more⟩

/-! ## The duplication -/

namespace Thread.Follows

variable {plan : Plan} {shared ledger : Descriptors} {thread : Thread}

/-- What a child is to put onto its standard descriptors stands for files that it is
given. -/
theorem offers_childEnds
    {events : List Event}
    {reader writer : Descriptor}
    {bindings : Bindings}
    (follows : thread.Follows plan shared ledger)
    (notClosed : thread.closed = [])
    (prepares : plan.launch.Prepares blank events reader writer bindings ledger)
    (stream : StandardStream) :
    Child.Offers (plan.launch.Gives thread.pipes shared) shared
      (bindings.childEnds.get stream) := by
  obtain ⟨numbers, sameLength, rfl, opens⟩ := prepares.opens
  have samePipes : thread.pipes.length = numbers.length + 1 := by
    have twice := opens.nextFile_eq
    rw [follows.counts, List.length_cons] at twice
    change 2 * thread.pipes.length = 0 + 2 * (numbers.length + 1) at twice
    omega
  intro source file isSource stands
  obtain ⟨provided, isEnd, provides⟩ :=
    Launch.provides_childEnds sameLength stream
  obtain rfl : provided = source := Option.some.inj (isEnd.symm.trans isSource)
  rcases provides with isPipe | ⟨target, isCaller, isBound⟩
  · obtain ⟨_, slot, ownFile, isSlot, isFile, isChilds⟩ :=
      Launch.exists_childFile?_of_mem_pipeEnds opens samePipes isPipe
    obtain ⟨other, isOther, held⟩ :=
      follows.stands provided slot isSlot (by simp [notClosed])
    rw [isFile] at isOther
    cases isOther
    rw [Descriptors.file?, held] at stands
    cases stands
    exact .inl ⟨_, isChilds⟩
  · exact .inr ⟨target, provided, isCaller, isBound, stands⟩

/-- A thread duplicates the process once, and whenever the child executes a program, it
has inherited no more than it should. -/
theorem of_fork
    {side : Except Errno ForkSide → Program (Except LaunchError Handle)}
    (follows : thread.Follows plan shared ledger)
    (isNext : thread.program = .call .fork side) :
    (∀ answer, (side answer).Makes isNoFork) ∧
      (side (.ok .child)).Ensures
        (Child.executing (Child.Inherits (plan.launch.Gives thread.pipes shared) shared []))
        (fun _ _ _ => True) [] shared := by
  have notClosed := follows.closed_eq_nil isNext
  obtain ⟨events, runs⟩ := follows.runs
  rw [isNext] at runs
  obtain ⟨reader, writer, bindings, request, limit, prepares, -, rfl⟩ :=
    Launch.prepares_of_runs_spawn runs.of_only
  refine ⟨Launch.makes_follow _ _ _ _ _ _ _, (Program.ensures_bind _ _ _ _ _).mpr ?_⟩
  refine (Child.ensures_inherits plan.rounds _ fun stream => ?_).mono
    fun _ _ never => nomatch never
  exact follows.offers_childEnds notClosed prepares stream

end Thread.Follows

/-! ## Children -/

/-- Whenever a child executes a program, what stays open did so in its parent, or stands
for a given file. -/
def Offspring.InheritsOnly (child : Offspring) (given : FileId → Prop) : Prop :=
  match child.life with
  | .running program =>
      ∃ events, program.Ensures
        (Child.executing (Child.Inherits given child.atFork [])) (fun _ _ _ => True)
        events child.descriptors
  | .replaced => Child.Inherits given child.atFork [] child.descriptors
  | .ended | .collected => True

namespace Household

variable {ι : Type}
variable {plans : ι → Plan} {before after household : Household ι} {i : ι}

/-- A child of a thread has none of the ends of pipes, on execution, but what its thread
has given it. -/
structure IsSoundChild (plans : ι → Plan) (household : Household ι) (i : ι)
    (child : Offspring) : Prop where
  older : child.atFork.nextFile ≤ household.descriptors.nextFile
  closes : ∀ number slot, child.atFork.slot? number = some slot → ∀ j,
    slot.file ∈ (household.threads j).ends → slot.closesOnExec = true
  inherits : ∃ given, child.InheritsOnly given ∧ ∀ file, given file →
    (plans i).launch.Gives (household.threads i).pipes child.atFork file

/-- What holds of a household at any time. -/
structure IsSound (plans : ι → Plan) (household : Household ι) : Prop where
  follows : ∀ i, ∃ ledger,
    (household.threads i).Follows (plans i) household.descriptors ledger
  apart : ∀ i j, ∀ file ∈ (household.threads i).ends,
    file ∈ (household.threads j).ends → i = j
  sound : ∀ i child, household.children i = some child →
    household.IsSoundChild plans i child
  forked : ∀ i child, household.children i = some child →
    (household.threads i).program.Makes isNoFork

theorem isSound_initial (plans : ι → Plan) (descriptors : Descriptors) :
    (initial plans descriptors).IsSound plans where
  follows i := ⟨blank, Thread.follows_initial (plans i) descriptors⟩
  apart _ _ _ isEnd := nomatch isEnd
  sound _ _ isChild := nomatch isChild
  forked _ _ isChild := nomatch isChild

/-! ## Pipes that are made in a step -/

/-- Threads make pipes of new files, one thread at a time. -/
structure Grows (before after : Household ι) : Prop where
  notFewer : before.descriptors.nextFile ≤ after.descriptors.nextFile
  pipes : ∀ j, ∃ more, (after.threads j).pipes = (before.threads j).pipes ++ more ∧
    ∀ file ∈ PipeEnds.files more, before.descriptors.nextFile ≤ file
  maker : ∀ j k, (after.threads j).pipes ≠ (before.threads j).pipes →
    (after.threads k).pipes ≠ (before.threads k).pipes → j = k

theorem Grows.of_pipes_eq
    (notFewer : before.descriptors.nextFile ≤ after.descriptors.nextFile)
    (same : ∀ j, (after.threads j).pipes = (before.threads j).pipes) :
    before.Grows after where
  notFewer := notFewer
  pipes j := ⟨[], by rw [same j, List.append_nil], nofun⟩
  maker j _ changed := absurd (same j) changed

theorem nextFile_le_of_mem_madePipes
    {descriptors : Descriptors}
    {request : Call}
    {answer : request.Answer}
    {file : FileId}
    (isEnd : file ∈ PipeEnds.files (madePipes descriptors request answer)) :
    descriptors.nextFile ≤ file := by
  unfold madePipes at isEnd
  split at isEnd
  · rw [PipeEnds.mem_files] at isEnd
    obtain ⟨pipe, isPipe, isEnd⟩ := isEnd
    cases List.mem_singleton.mp isPipe
    rcases isEnd with rfl | rfl
    · exact Nat.le_refl _
    · exact Nat.le_succ _
  · cases isEnd

theorem Step.grows [DecidableEq ι] (step : Step before after) : before.Grows after := by
  have updated : ∀ (i : ι) (thread : Thread),
      thread.pipes = (before.threads i).pipes → ∀ j,
        (Function.update before.threads i thread j).pipes = (before.threads j).pipes := by
    intro i thread same
    exact (Function.forall_update_iff before.threads
      fun j thread => thread.pipes = (before.threads j).pipes).mpr ⟨same, fun _ _ => rfl⟩
  cases step with
  | @threadCalls i request resume answer next isNext answered noChild =>
      refine ⟨nextFile_le_of_answers answered, ?_, fun j k changed changedToo => ?_⟩
      · refine (Function.forall_update_iff before.threads fun j thread => ∃ more,
          thread.pipes = (before.threads j).pipes ++ more ∧
            ∀ file ∈ PipeEnds.files more, before.descriptors.nextFile ≤ file).mpr ⟨?_, ?_⟩
        · exact ⟨_, rfl, fun file => nextFile_le_of_mem_madePipes⟩
        · exact fun j _ => ⟨[], (List.append_nil _).symm, nofun⟩
      · have isMaker : ∀ thread j, (Function.update before.threads i thread j).pipes ≠
            (before.threads j).pipes → j = i := by
          intro thread j changed
          by_contra different
          exact changed (congrArg Thread.pipes (Function.update_of_ne different _ _))
        exact (isMaker _ j changed).trans (isMaker _ k changedToo).symm
  | @threadForks i => exact .of_pipes_eq (Nat.le_refl _) (updated i _ rfl)
  | @ownerCloses i _ _ _ _ _ _ _ answered =>
      exact .of_pipes_eq (nextFile_le_of_answers answered) (updated i _ rfl)
  | callerCalls answered =>
      exact .of_pipes_eq (nextFile_le_of_answers answered) fun _ => rfl
  | childCalls | childBecomes | childEnds =>
      exact .of_pipes_eq (Nat.le_refl _) fun _ => rfl

/-- An end of a pipe was one before, or stands for a new file. -/
theorem Grows.mem_ends
    {file : FileId}
    (grows : before.Grows after)
    (isEnd : file ∈ (after.threads i).ends) :
    file ∈ (before.threads i).ends ∨
      before.descriptors.nextFile ≤ file ∧
        (after.threads i).pipes ≠ (before.threads i).pipes := by
  obtain ⟨more, same, areNew⟩ := grows.pipes i
  rw [Thread.ends, same, PipeEnds.files_append, List.mem_append] at isEnd
  refine isEnd.imp_right fun isEnd => ⟨areNew file isEnd, fun unchanged => ?_⟩
  rw [same, List.append_right_eq_self] at unchanged
  rw [unchanged] at isEnd
  cases isEnd

theorem IsSound.apart_of_grows
    (isSound : before.IsSound plans)
    (grows : before.Grows after) :
    ∀ i j, ∀ file ∈ (after.threads i).ends, file ∈ (after.threads j).ends → i = j := by
  have areOld : ∀ i, ∀ file ∈ (before.threads i).ends,
      ¬before.descriptors.nextFile ≤ file := by
    intro i file isEnd
    obtain ⟨ledger, follows⟩ := isSound.follows i
    exact Nat.not_le.mpr (follows.isMade file isEnd)
  intro i j file isEnd isEndToo
  rcases grows.mem_ends isEnd with isOld | ⟨isNew, changed⟩
  · rcases grows.mem_ends isEndToo with isOldToo | ⟨isNew, -⟩
    · exact isSound.apart i j file isOld isOldToo
    · exact absurd isNew (areOld i file isOld)
  · rcases grows.mem_ends isEndToo with isOldToo | ⟨-, changedToo⟩
    · exact absurd isNew (areOld j file isOldToo)
    · exact grows.maker i j changed changedToo

/-- A child is not concerned by the pipes that are made after the duplication. -/
theorem IsSoundChild.of_grows
    {child : Offspring}
    (isSound : before.IsSoundChild plans i child)
    (grows : before.Grows after) :
    after.IsSoundChild plans i child where
  older := Nat.le_trans isSound.older grows.notFewer
  closes number slot isSlot j isEnd := by
    rcases grows.mem_ends isEnd with isOld | ⟨isNew, -⟩
    · exact isSound.closes number slot isSlot j isOld
    · have isMade := child.atFork.isMade number slot isSlot
      exact absurd (Nat.lt_of_lt_of_le isMade (Nat.le_trans isSound.older isNew))
        (Nat.lt_irrefl _)
  inherits := by
    obtain ⟨given, inheritsOnly, gives⟩ := isSound.inherits
    obtain ⟨more, same, -⟩ := grows.pipes i
    exact ⟨given, inheritsOnly, fun file isGiven => same ▸ (gives file isGiven).append more⟩

/-- A child goes on. -/
theorem IsSoundChild.goesOn
    {child next : Offspring}
    (isSound : household.IsSoundChild plans i child)
    (sameFork : next.atFork = child.atFork)
    (keeps : ∀ given, child.InheritsOnly given → next.InheritsOnly given) :
    household.IsSoundChild plans i next where
  older := sameFork ▸ isSound.older
  closes := sameFork ▸ isSound.closes
  inherits := by
    obtain ⟨given, inheritsOnly, gives⟩ := isSound.inherits
    exact ⟨given, keeps given inheritsOnly, sameFork ▸ gives⟩

/-! ## One step -/

section Steps

variable [DecidableEq ι]

/-- What a thread does keeps its own ledger up to date, and leaves those of all others
alone. -/
theorem follows_update
    {thread : Thread}
    {next ledger : Descriptors}
    (isSound : before.IsSound plans)
    (follows : thread.Follows (plans i) next ledger)
    (notFewer : before.descriptors.nextFile ≤ next.nextFile)
    (spares : ∀ file < before.descriptors.nextFile, file ∉ (before.threads i).ends →
      before.descriptors.Spares next file) :
    ∀ j, ∃ ledger,
      (Function.update before.threads i thread j).Follows (plans j) next ledger := by
  refine (Function.forall_update_iff before.threads fun j thread => ∃ ledger,
    thread.Follows (plans j) next ledger).mpr ⟨⟨ledger, follows⟩, fun j different => ?_⟩
  obtain ⟨other, followsOther⟩ := isSound.follows j
  refine ⟨other, followsOther.of_spares (fun file isEnd => ?_) notFewer⟩
  refine spares file (followsOther.isMade file isEnd) fun isOwn => ?_
  exact different (isSound.apart j i file isEnd isOwn)

theorem IsSound.follows_step
    (isSound : before.IsSound plans)
    (step : Step before after) :
    ∀ i, ∃ ledger, (after.threads i).Follows (plans i) after.descriptors ledger := by
  cases step with
  | @threadCalls i request resume answer next isNext answered noChild =>
      obtain ⟨ledger, follows⟩ := isSound.follows i
      obtain ⟨ledgerNext, followsNext⟩ := follows.call isNext (noChild .child) answered
      exact follows_update isSound followsNext (nextFile_le_of_answers answered)
        fun file isMade => follows.spares_of_call isNext answered isMade
  | @threadForks i process side isNext =>
      obtain ⟨ledger, follows⟩ := isSound.follows i
      have answered : ledger.Answers .fork (.ok (.parent process)) ledger := rfl
      exact follows_update isSound (follows.leave isNext nofun answered) (Nat.le_refl _)
        fun file _ _ => .refl _ file
  | @ownerCloses i handle number answer next isOwner isOwned notClosed answered =>
      obtain ⟨ledger, follows⟩ := isSound.follows i
      exact follows_update isSound (follows.ownerCloses isOwner answered)
        (nextFile_le_of_answers answered) fun file _ =>
          follows.spares_of_ownerCloses isOwner isOwned notClosed answered
  | callerCalls answered spares =>
      intro i
      obtain ⟨ledger, follows⟩ := isSound.follows i
      exact ⟨ledger, follows.of_spares (spares i) (nextFile_le_of_answers answered)⟩
  | childCalls | childBecomes | childEnds => exact isSound.follows

theorem forall_children_update
    {children : ι → Option Offspring}
    {child : Offspring}
    {holds : ι → Offspring → Prop}
    (ofNew : holds i child)
    (ofOld : ∀ j old, children j = some old → holds j old) :
    ∀ j next, Function.update children i (some child) j = some next → holds j next := by
  refine (Function.forall_update_iff children fun j child? =>
    ∀ next, child? = some next → holds j next).mpr ⟨?_, fun j _ => ofOld j⟩
  rintro _ ⟨⟩
  exact ofNew

/-- No thread duplicates the process twice. -/
theorem IsSound.forked_step
    (isSound : before.IsSound plans)
    (step : Step before after) :
    ∀ i child, after.children i = some child →
      (after.threads i).program.Makes isNoFork := by
  have updated : ∀ (i : ι) (thread : Thread),
      ((before.threads i).program.Makes isNoFork → thread.program.Makes isNoFork) →
        ∀ j child, before.children j = some child →
          (Function.update before.threads i thread j).program.Makes isNoFork := by
    intro i thread keeps
    refine (Function.forall_update_iff before.threads fun j thread =>
      ∀ child, before.children j = some child → thread.program.Makes isNoFork).mpr
        ⟨fun child isChild => keeps (isSound.forked i child isChild), fun j _ => ?_⟩
    exact isSound.forked j
  cases step with
  | @threadCalls i request resume answer next isNext answered noChild =>
      refine updated i _ fun makes => ?_
      rw [isNext] at makes
      exact makes.2 answer
  | @threadForks i process side isNext =>
      obtain ⟨ledger, follows⟩ := isSound.follows i
      have makes := (follows.of_fork isNext).1 (.ok (.parent process))
      refine forall_children_update ?_ (updated i _ fun _ => makes)
      change (Function.update before.threads i _ i).program.Makes isNoFork
      rwa [Function.update_self]
  | ownerCloses => exact updated _ _ id
  | callerCalls => exact isSound.forked
  | childCalls isChild | childBecomes isChild | childEnds isChild =>
      exact forall_children_update (isSound.forked _ _ isChild) isSound.forked

/-- No end of a pipe gets into a child that has not been given to it. -/
theorem IsSound.children_step
    (isSound : before.IsSound plans)
    (step : Step before after) :
    ∀ i child, after.children i = some child → after.IsSoundChild plans i child := by
  have grows := step.grows
  have grown : ∀ i child, before.children i = some child →
      after.IsSoundChild plans i child :=
    fun i child isChild => (isSound.sound i child isChild).of_grows grows
  cases step with
  | threadCalls | ownerCloses | callerCalls => exact grown
  | @threadForks i process side isNext =>
      obtain ⟨ledger, follows⟩ := isSound.follows i
      have begun : before.IsSoundChild plans i
          ⟨before.descriptors, .running (side (.ok .child)), before.descriptors⟩ := by
        refine ⟨Nat.le_refl _, fun number slot isSlot j isEnd => ?_, ?_⟩
        · obtain ⟨_, followsOther⟩ := isSound.follows j
          exact (followsOther.isOnly number slot isSlot isEnd).1
        · exact ⟨_, ⟨[], (follows.of_fork isNext).2⟩, fun file => id⟩
      exact forall_children_update (begun.of_grows grows) grown
  | @childCalls i child request resume answer next isChild isNext answered =>
      refine forall_children_update ((grown i child isChild).goesOn rfl ?_) grown
      intro given inheritsOnly
      rw [Offspring.InheritsOnly, isNext] at inheritsOnly
      obtain ⟨events, ensures⟩ := inheritsOnly
      exact ⟨_, ensures.2 answer next answered⟩
  | @childBecomes i child path arguments environment resume isChild isNext =>
      refine forall_children_update ((grown i child isChild).goesOn rfl ?_) grown
      intro given inheritsOnly
      rw [Offspring.InheritsOnly, isNext] at inheritsOnly
      obtain ⟨events, ensures⟩ := inheritsOnly
      exact ensures.1 trivial
  | @childEnds i child isChild =>
      refine forall_children_update ((grown i child isChild).goesOn rfl ?_) grown
      exact fun _ _ => trivial

theorem IsSound.step
    (isSound : before.IsSound plans)
    (step : Step before after) :
    after.IsSound plans where
  follows := isSound.follows_step step
  apart := isSound.apart_of_grows step.grows
  sound := isSound.children_step step
  forked := isSound.forked_step step

theorem isSound_of_steps
    {descriptors : Descriptors}
    (steps : Relation.ReflTransGen Step (initial plans descriptors) household) :
    household.IsSound plans := by
  induction steps with
  | refl => exact isSound_initial plans descriptors
  | tail _ step inductionHypothesis => exact inductionHypothesis.step step

/-! ## Going on alone -/

/-- A thread may go on by itself. -/
theorem steps_of_runs_thread
    {program left : Program (Except LaunchError Handle)}
    {events : List Event}
    {next : Descriptors}
    (isNext : (household.threads i).program = program)
    (runs : Program.Runs Answers program household.descriptors events left next)
    (isAlone : ∀ event ∈ events, event.1 ≠ .pipe ∧ event.1 ≠ .fork) :
    Relation.ReflTransGen Step household
      { household with
        descriptors := next
        threads := Function.update household.threads i
          { household.threads i with program := left } } := by
  generalize isState : household.descriptors = state at runs
  induction runs generalizing household with
  | stop program state =>
      subst isState
      rw [← isNext, Function.update_eq_self]
  | @call request resume state between after answer events left answered rest
      inductionHypothesis =>
      subst isState
      obtain ⟨⟨notPipe, notFork⟩, isAlone⟩ := List.forall_mem_cons.mp isAlone
      have notChild : ∀ side, (⟨request, answer⟩ : Event) ≠ ⟨.fork, .ok side⟩ :=
        fun _ same => notFork (congrArg Sigma.fst same)
      refine .head (.threadCalls isNext answered notChild) ?_
      have noPipe : madePipes household.descriptors request answer = [] := by
        cases request with
        | pipe => exact absurd rfl notPipe
        | _ => rfl
      rw [noPipe, List.append_nil]
      let called : Thread := { household.threads i with program := resume answer }
      let afterCall : Household ι :=
        { household with
          descriptors := between
          threads := Function.update household.threads i called }
      have isCalled : afterCall.threads i = called := Function.update_self ..
      have goesOn := inductionHypothesis (congrArg Thread.program isCalled) isAlone rfl
      simpa only [afterCall, called, Function.update_idem, Function.update_self] using goesOn

/-- A child may go on by itself. -/
theorem steps_of_runs_child
    {child : Offspring}
    {program left : Program (Except LaunchError Handle)}
    {events : List Event}
    {next : Descriptors}
    (isChild : household.children i = some child)
    (isNext : child.life = .running program)
    (runs : Program.Runs Answers program child.descriptors events left next) :
    Relation.ReflTransGen Step household
      { household with
        children := Function.update household.children i
          (some { child with life := .running left, descriptors := next }) } := by
  generalize isState : child.descriptors = state at runs
  induction runs generalizing household child with
  | stop program state =>
      subst isState
      rw [← isNext, Function.update_eq_self_iff.mpr isChild.symm]
  | @call request resume state between after answer events left answered rest
      inductionHypothesis =>
      subst isState
      refine .head (.childCalls isChild isNext answered) ?_
      let called : Offspring :=
        { child with life := .running (resume answer), descriptors := between }
      let afterCall : Household ι :=
        { household with children := Function.update household.children i (some called) }
      have isCalled : afterCall.children i = some called := Function.update_self ..
      simpa only [afterCall, Function.update_idem] using inductionHypothesis isCalled rfl rfl

end Steps

/-! ## At any time -/

/-- The starts do not get into each other's way. -/
structure IsIsolated (plans : ι → Plan) (household : Household ι) : Prop where
  /-- A child that has become another program has an end of a pipe only as a standard
  descriptor, and only if it was given that end. -/
  keepsOut : ∀ i child, household.children i = some child → child.life = .replaced →
    ∀ number slot, child.descriptors.afterExecution number = some slot →
      ∀ j, slot.file ∈ (household.threads j).ends →
        0 ≤ number ∧ number ≤ 2 ∧
          ((j = i ∧ ∃ stream, (plans i).launch.childFile? (household.threads i).pipes stream =
              some slot.file) ∨
            (plans i).launch.Passes child.atFork slot.file)
  /-- When a thread is over, and no child is still running as what it began, nobody can
  write to a pipe of the thread but those who were given its writer. -/
  letsGo : (∀ i child program, household.children i = some child →
      child.life ≠ .running program) →
    ∀ j, (household.threads j).IsOver → ∀ pipe ∈ (household.threads j).pipes,
      ∀ holder, household.Holds pipe.writeEnd holder →
        ∃ i child, holder = some i ∧ household.children i = some child ∧
          ((i = j ∧ ∃ stream, stream ≠ .stdin ∧
              (plans j).launch.childFile? (household.threads j).pipes stream =
                some pipe.writeEnd) ∨
            (plans i).launch.Passes child.atFork pipe.writeEnd)
  /-- No child is forgotten for another one. -/
  forksOnce : ∀ i side, (household.threads i).program = .call .fork side →
    household.children i = none

/-- What a child has as another program, of the ends of pipes, it was given by its own
thread. -/
theorem IsSound.gives_of_replaced
    {child : Offspring}
    {number : Descriptor}
    {slot : Slot}
    {j : ι}
    (isSound : household.IsSound plans)
    (isChild : household.children i = some child)
    (isReplaced : child.life = .replaced)
    (isLeft : child.descriptors.afterExecution number = some slot)
    (isEnd : slot.file ∈ (household.threads j).ends) :
    number ≤ 2 ∧
      (plans i).launch.Gives (household.threads i).pipes child.atFork slot.file := by
  have soundChild := isSound.sound i child isChild
  obtain ⟨given, inheritsOnly, gives⟩ := soundChild.inherits
  rw [Offspring.InheritsOnly, isReplaced] at inheritsOnly
  obtain ⟨isSlot, stays⟩ := Option.filter_eq_some_iff.mp isLeft
  rw [Bool.not_eq_true'] at stays
  rcases inheritsOnly number slot isSlot stays with wasSlot | ⟨isGiven, low | isCopy⟩
  · rw [soundChild.closes number slot wasSlot j isEnd] at stays
    cases stays
  · exact ⟨low, gives _ isGiven⟩
  · cases isCopy

theorem IsSound.isIsolated (isSound : household.IsSound plans) :
    household.IsIsolated plans := by
  refine ⟨?_, ?_, ?_⟩
  · intro i child isChild isReplaced number slot isLeft j isEnd
    obtain ⟨low, gives⟩ := isSound.gives_of_replaced isChild isReplaced isLeft isEnd
    have isSlot := (Option.filter_eq_some_iff.mp isLeft).1
    have isOpen : child.descriptors.slot? number ≠ none := by simp [isSlot]
    refine ⟨(child.descriptors.inRange number isOpen).1, low, gives.imp_left ?_⟩
    rintro ⟨stream, isFile⟩
    exact ⟨isSound.apart j i _ isEnd (Launch.mem_files_of_childFile? isFile), stream, isFile⟩
  · intro noneRuns j isOver pipe isPipe holder holds
    have isEnd : pipe.writeEnd ∈ (household.threads j).ends :=
      PipeEnds.mem_files.mpr ⟨pipe, isPipe, .inr rfl⟩
    obtain ⟨ledger, follows⟩ := isSound.follows j
    cases holder with
    | none =>
        obtain ⟨number, stands⟩ := holds
        exact absurd stands (follows.file?_ne_of_isOver isOver isEnd number)
    | some i =>
        obtain ⟨child, isChild, holds⟩ := holds
        refine ⟨i, child, rfl, isChild, ?_⟩
        unfold Offspring.Holds at holds
        split at holds
        · next isRunning => exact absurd isRunning (noneRuns i child _ isChild)
        · next isReplaced =>
          obtain ⟨number, slot, isLeft, isWriter⟩ := holds
          rw [← isWriter] at isEnd
          have gives := (isSound.gives_of_replaced isChild isReplaced isLeft isEnd).2
          rw [isWriter] at gives
          refine gives.imp_left ?_
          rintro ⟨stream, isFile⟩
          obtain rfl : i = j := isSound.apart i j _ (Launch.mem_files_of_childFile? isFile)
            (isWriter ▸ isEnd)
          have isOutput := Launch.ne_stdin_of_childFile? follows.distinct isPipe isFile
          exact ⟨rfl, stream, isOutput, isFile⟩
        · exact holds.elim
        · exact holds.elim
  · intro i side isNext
    by_contra forked
    obtain ⟨child, isChild⟩ := Option.ne_none_iff_exists'.mp forked
    have makes := isSound.forked i child isChild
    rw [isNext] at makes
    exact makes.1 rfl

/-- Starts in any number of threads are isolated from each other, in whatever order all
of them take their steps. -/
theorem isIsolated_of_steps
    [DecidableEq ι]
    {descriptors : Descriptors}
    (steps : Relation.ReflTransGen Step (initial plans descriptors) household) :
    household.IsIsolated plans :=
  (isSound_of_steps steps).isIsolated

/-- A child with a pipe for its output got the ends of a pipe that another thread had
made.  It is another program now, its parent has closed the pipes, and it alone can write
to its output. -/
theorem isIsolated_of_steps_with_two_threads :
    let plan : Plan :=
      { rounds := 5
        launch :=
          { Launch.initial with
            commandLine := ["/bin/cat"]
            inheritsEnvironment := false
            redirections := ⟨.descriptor 0, .pipe, .descriptor 2⟩ }
        path := ⟨[]⟩
        environment := ⟨[]⟩ }
    ∃ (household : Household Bool) (child : Offspring),
      Relation.ReflTransGen Step (initial (fun _ => plan) standard) household ∧
        (household.threads true).pipes = [⟨3, 4⟩] ∧
        (household.threads false).pipes = [⟨5, 6⟩, ⟨7, 8⟩] ∧
        household.children false = some child ∧ child.life = .replaced ∧
        child.atFork.file? 4 = some 4 ∧ (household.threads false).IsOver ∧
        household.Holds 8 (some false) ∧ household.IsIsolated fun _ => plan := by
  intro plan
  let first := standardAndPipe
  let second := (first.openNext 5 true ⟨rfl, by decide, by decide⟩).openNext 6 true
    ⟨rfl, by decide, by decide⟩
  let atFork := (second.openNext 7 true ⟨rfl, by decide, by decide⟩).openNext 8 true
    ⟨rfl, by decide, by decide⟩
  have opensFirst : standard.Answers .pipe (.ok (3, 4)) first := standard_answers_pipe
  have opensSecond : first.Answers .pipe (.ok (5, 6)) second :=
    ⟨⟨rfl, by decide, by decide⟩, ⟨rfl, by decide, by decide⟩, rfl⟩
  have opensThird : second.Answers .pipe (.ok (7, 8)) atFork :=
    ⟨⟨rfl, by decide, by decide⟩, ⟨rfl, by decide, by decide⟩, rfl⟩
  have asksLimit : atFork.Answers .descriptorLimit (3 : Int) atFork := rfl
  -- What the child does.
  let spared := (atFork.release 5).release 7
  have closes : atFork.Answers (.close 5) (.ok ()) (atFork.release 5) ∧
      (atFork.release 5).Answers (.close 7) (.ok ()) spared :=
    ⟨becomes_release .., becomes_release ..⟩
  have ignores : spared.Answers (.setDisposition 13 .standard) () spared := rfl
  have unblocks : spared.Answers (.setSignalMask []) () spared := rfl
  let withInput := spared.occupy 0 ⟨0, false⟩ (by decide) (by decide)
  have keepsInput : spared.Answers (.setCloseOnExec 0 false) (.ok ()) withInput :=
    ⟨⟨0, false⟩, rfl, spared.becomes_occupy ..⟩
  let withOutput := withInput.occupy 1 ⟨8, false⟩ (by decide) (by decide)
  have installsOutput : withInput.Answers (.duplicate 8 1) (.ok ()) withOutput :=
    ⟨⟨8, true⟩, rfl, by decide, withInput.becomes_occupy ..⟩
  let withErrors := withOutput.occupy 2 ⟨2, false⟩ (by decide) (by decide)
  have keepsErrors : withOutput.Answers (.setCloseOnExec 2 false) (.ok ()) withErrors :=
    ⟨⟨2, false⟩, rfl, withOutput.becomes_occupy ..⟩
  let cleared := withErrors.release 8
  have clears : withErrors.Answers (.close 8) (.ok ()) cleared := withErrors.becomes_release 8
  have noListing : cleared.Answers (.openFile Inherited.descriptorDirectory .listing)
    (.error Errno.ENOENT) cleared := rfl
  have enters : cleared.Answers (.changeDirectory [46]) (.ok ()) cleared := rfl
  let atExecution := cleared.occupy 6 ⟨6, true⟩ (by decide) (by decide)
  have seals : cleared.Answers (.setCloseOnExec 6 true) (.ok ()) atExecution :=
    ⟨⟨6, true⟩, rfl, cleared.becomes_occupy ..⟩
  -- What its parent does.
  let handle : Handle := { process := 7, streams := ⟨none, some 7, none⟩ }
  let waiting := atFork.release 6
  have closesWriter : atFork.Answers (.close 6) (.ok ()) waiting := atFork.becomes_release 6
  have reads : waiting.Answers (.read 5 4) (.ok []) waiting := rfl
  let told := waiting.release 5
  have closesReader : waiting.Answers (.close 5) (.ok ()) told := waiting.becomes_release 5
  let started := told.release 8
  have closesOutput : told.Answers (.close 8) (.ok ()) started := told.becomes_release 8
  have forks : ∃ (household : Household Bool)
      (parent begun : Program (Except LaunchError Handle)),
      Relation.ReflTransGen Step (initial (fun _ => plan) standard) household ∧
        (household.threads true).pipes = [⟨3, 4⟩] ∧
        (household.threads false).pipes = [⟨5, 6⟩, ⟨7, 8⟩] ∧
        (household.threads false).closed = [] ∧ household.descriptors = atFork ∧
        (household.threads false).program = parent ∧
        household.children false = some ⟨atFork, .running begun, atFork⟩ ∧
        (∃ events path arguments entries resume,
          Program.Runs Answers begun atFork events
            (.call (.execute path arguments entries) resume) atExecution) ∧
        ∃ events, Program.Runs Answers parent atFork events (.done (.ok handle)) started ∧
          ∀ event ∈ events, event.1 ≠ .pipe ∧ event.1 ≠ .fork := by
    refine ⟨_, _, _, Relation.ReflTransGen.refl
      |>.tail (.threadCalls (i := true) rfl opensFirst nofun)
      |>.tail (.threadCalls (i := false) rfl opensSecond nofun)
      |>.tail (.threadCalls (i := false) rfl opensThird nofun)
      |>.tail (.threadCalls (i := false) rfl asksLimit nofun)
      |>.tail (@Step.threadForks _ _ _ false 7 _ rfl), rfl, rfl, rfl, rfl, rfl, rfl,
      ⟨_, _, _, _, _, .call closes.1 <| .call closes.2 <| .call ignores <|
        .call unblocks <| .call keepsInput <| .call installsOutput <|
        .call keepsErrors <| .call clears <| .call noListing <| .call enters <|
        .call seals <| by exact .stop _ _⟩,
      _, .call closesWriter <| .call reads <| .call closesReader <|
        .call closesOutput <|
        .call (show started.Answers (.log _) () started from rfl) <| .stop _ _, ?_⟩
    simp
  obtain ⟨household, parent, begun, steps, isFirst, isSecond, noneClosed, isShared, isParent,
    isChild, ⟨_, path, arguments, entries, resume, childRuns⟩, _, parentRuns, isAlone⟩ := forks
  let executing : Offspring :=
    ⟨atFork, .running (.call (.execute path arguments entries) resume), atExecution⟩
  let ready : Household Bool :=
    { household with children := Function.update household.children false (some executing) }
  have isReady : ready.children false = some executing := rfl
  have becomes := (steps.trans (steps_of_runs_child isChild rfl childRuns)).tail
    (.childBecomes isReady rfl)
  have isStarted := becomes.trans
    (steps_of_runs_thread isParent (isShared ▸ parentRuns) isAlone)
  have notClosed : 7 ∉ (household.threads false).closed := by simp [noneClosed]
  have closesHandle : started.Answers (.close 7) (.ok ()) (started.release 7) :=
    started.becomes_release 7
  have isOver := isStarted.tail
    (@Step.ownerCloses _ _ _ false handle 7 _ _ rfl (by decide) notClosed closesHandle)
  refine ⟨_, { executing with life := .replaced }, isOver, isFirst, isSecond, rfl, rfl, rfl,
    ⟨.ok handle, rfl, ?_⟩, ⟨_, rfl, 1, ⟨8, false⟩, rfl, rfl⟩, isIsolated_of_steps isOver⟩
  rintro _ ⟨⟩ number isOwned
  obtain rfl : number = 7 := List.mem_singleton.mp isOwned
  exact List.mem_cons_self

end Household
end ChildProcess
