import ChildProcess.Proofs.Descriptors.Additions
import ChildProcess.Session.Bindings
import ChildProcess.Spawn.Start

/-!
# What is prepared for a child

The bindings of a launch own the ends of the pipes that were made for them, and
nothing else: a caller's descriptor is never owned.  `Launch.bindings` says which
pipe each stream gets when the pipes are handed out in order.  Binding the streams
gives exactly that, or gives back everything and blames the first stream whose pipe
could not be made.
-/

namespace ChildProcess

open Descriptors

/-- The ends of a pipe that are held. -/
def StreamEnds.owned : StreamEnds → List Descriptor
  | .pipe reader writer => reader.toList ++ writer.toList
  | .caller _ | .unbound => []

/-- The ends of all pipes that are held. -/
def Bindings.owned (bindings : Bindings) : List Descriptor :=
  bindings.stdin.owned ++ (bindings.stdout.owned ++ bindings.stderr.owned)

/-- The bindings without the child's ends. -/
def Bindings.withoutChildEnds (bindings : Bindings) : Bindings :=
  ⟨bindings.stdin.withoutChildEnd .stdin, bindings.stdout.withoutChildEnd .stdout,
    bindings.stderr.withoutChildEnd .stderr⟩

/-- What a stream is bound to when pipes are handed out to the streams in order. -/
def Launch.bindingOf (launch : Launch) (pipes : List (Descriptor × Descriptor))
    (stream : StandardStream) : StreamEnds :=
  match launch.mergesOutputs && stream == .stderr, launch.redirections.get stream with
  | true, _ => .unbound
  | false, .descriptor number => .caller number
  | false, .pipe =>
      match (launch.pipedStreams.zip pipes).lookup stream with
      | some (reader, writer) => .pipe (some reader) (some writer)
      | none => .unbound

/-- The bindings when pipes are handed out to the streams in order. -/
def Launch.bindings (launch : Launch) (pipes : List (Descriptor × Descriptor)) :
    Bindings :=
  ⟨launch.bindingOf pipes .stdin, launch.bindingOf pipes .stdout,
    launch.bindingOf pipes .stderr⟩

theorem Bindings.systemPipe_bind {α : Type}
    (next : Except SystemError (Descriptor × Descriptor) → Program α) :
    Bindings.systemPipe >>= next =
      Program.perform .pipe >>= fun answer => next (answer.mapError .os) :=
  rfl

/-! ## Which calls are made -/

/-- The calls with which bindings are made and given back. -/
def preparesOrCloses : Call → Prop
  | .pipe | .close _ | .log _ => True
  | _ => False

theorem completes_dropDescriptor_of_closes
    {kind : Call → Prop}
    (closes : ∀ number, kind (.close number))
    (logs : ∀ record, kind (.log record))
    (held? : Option Descriptor) :
    (dropDescriptor held?).Completes kind := by
  cases held? with
  | none => trivial
  | some number =>
      refine ⟨closes number, fun answer => ?_⟩
      cases answer with
      | ok => trivial
      | error errno => exact ⟨logs _, fun _ => trivial⟩

theorem completes_dropDescriptor (held? : Option Descriptor) :
    (dropDescriptor held?).Completes preparesOrCloses :=
  completes_dropDescriptor_of_closes (fun _ => trivial) (fun _ => trivial) held?

theorem StreamEnds.completes_drop (ends : StreamEnds) :
    ends.drop.Completes preparesOrCloses := by
  cases ends with
  | pipe reader writer =>
      exact Program.completes_bind (completes_dropDescriptor reader) fun _ =>
        completes_dropDescriptor writer
  | caller | unbound => trivial

theorem StreamEnds.completes_closeChildEnd (ends : StreamEnds) (stream : StandardStream) :
    (ends.closeChildEnd stream).Completes preparesOrCloses := by
  cases ends with
  | caller | unbound => trivial
  | pipe reader writer =>
      cases isEnd : (StreamEnds.pipe reader writer).childEnd stream with
      | none =>
          simp only [closeChildEnd, isEnd]
          trivial
      | some number =>
          simp only [closeChildEnd, isEnd]
          refine ⟨trivial, fun answer => ?_⟩
          cases answer with
          | ok => trivial
          | error errno => exact ⟨trivial, fun _ => trivial⟩

theorem Bindings.completes_drop (bindings : Bindings) :
    bindings.drop.Completes preparesOrCloses :=
  Program.completes_bind bindings.stdin.completes_drop fun _ =>
    Program.completes_bind bindings.stdout.completes_drop fun _ =>
      bindings.stderr.completes_drop

theorem Bindings.completes_closeChildEnds (bindings : Bindings) :
    bindings.closeChildEnds.Completes preparesOrCloses :=
  Program.completes_bind (bindings.stdin.completes_closeChildEnd .stdin) fun _ =>
    Program.completes_bind (bindings.stdout.completes_closeChildEnd .stdout) fun _ =>
      Program.completes_bind (bindings.stderr.completes_closeChildEnd .stderr) fun _ =>
        trivial

theorem Launch.completes_dropReportPipe (reader writer : Descriptor) :
    (Launch.dropReportPipe reader writer).Completes preparesOrCloses :=
  Program.completes_bind (completes_dropDescriptor writer) fun _ =>
    completes_dropDescriptor reader

theorem Bindings.completes_bind (stream : StandardStream) (redirection : Redirection) :
    (Bindings.bind (fun _ => Bindings.systemPipe) stream redirection).Completes
      preparesOrCloses := by
  cases redirection with
  | descriptor number => trivial
  | pipe =>
      refine ⟨trivial, fun answer => ?_⟩
      cases answer with
      | ok => trivial
      | error errno => exact ⟨trivial, fun _ => trivial⟩

theorem Bindings.completes_resolve (launch : Launch) :
    (Bindings.resolve (fun _ => Bindings.systemPipe) launch).Completes preparesOrCloses := by
  refine Program.completes_bind (Bindings.completes_bind _ _) fun stdin => ?_
  rcases stdin with cause | stdin
  · trivial
  refine Program.completes_bind (Bindings.completes_bind _ _) fun stdout => ?_
  rcases stdout with cause | stdout
  · exact Program.completes_bind stdin.completes_drop fun _ => trivial
  refine Program.completes_bind ?_ fun stderr => ?_
  · unfold Bindings.bindError
    split
    · trivial
    · exact Bindings.completes_bind _ _
  rcases stderr with cause | stderr
  · exact Program.completes_bind stdout.completes_drop fun _ =>
      Program.completes_bind stdin.completes_drop fun _ => trivial
  · trivial

section Accounting

variable {before state : Descriptors} {owned : List Descriptor}

/-! ## Giving back -/

theorem StreamEnds.ensures_drop
    (ends : StreamEnds)
    (adds : before.Adds (ends.owned ++ owned) state)
    (history : List Event) :
    ends.drop.Ensures before.accounting (before.leaves owned history) history state := by
  cases ends with
  | caller number => exact leaves_of_adds adds ()
  | unbound => exact leaves_of_adds adds ()
  | pipe reader writer =>
      rw [StreamEnds.owned, List.append_assoc] at adds
      refine ensures_leaves_bind (adds.ensures_dropDescriptor reader history) ?_
      intro later after _ adds
      exact adds.ensures_dropDescriptor writer later

theorem Bindings.ensures_drop
    (bindings : Bindings)
    (adds : before.Adds (bindings.owned ++ owned) state)
    (history : List Event) :
    bindings.drop.Ensures before.accounting (before.leaves owned history)
      history state := by
  rw [Bindings.owned, List.append_assoc, List.append_assoc] at adds
  refine ensures_leaves_bind (bindings.stdin.ensures_drop adds history) ?_
  intro later after _ adds
  refine ensures_leaves_bind (bindings.stdout.ensures_drop adds later) ?_
  intro later after _ adds
  exact bindings.stderr.ensures_drop adds later

theorem Launch.ensures_dropReportPipe
    {reader writer : Descriptor}
    (adds : before.Adds (writer :: reader :: owned) state)
    (history : List Event) :
    (Launch.dropReportPipe reader writer).Ensures before.accounting
      (before.leaves owned history) history state := by
  refine ensures_leaves_bind
    (adds.ensures_dropDescriptor (some writer) history) ?_
  intro later after _ adds
  exact adds.ensures_dropDescriptor (some reader) later

/-! ## The child's ends -/

theorem StreamEnds.withoutChildEnd_of_none
    {ends : StreamEnds}
    {stream : StandardStream}
    (noEnd : ends.childEnd stream = none) :
    ends.withoutChildEnd stream = ends := by
  cases ends <;> cases stream <;> simp_all [childEnd, withoutChildEnd]

/-- The child's end of a pipe is owned besides what is left without it. -/
theorem StreamEnds.owned_perm_of_childEnd
    {reader writer : Option Descriptor}
    {stream : StandardStream}
    {number : Descriptor}
    (isEnd : (StreamEnds.pipe reader writer).childEnd stream = some number) :
    (StreamEnds.pipe reader writer).owned.Perm
      (number :: ((StreamEnds.pipe reader writer).withoutChildEnd stream).owned) := by
  cases stream with
  | stdin =>
      obtain rfl : reader = some number := isEnd
      exact .refl _
  | stdout | stderr =>
      obtain rfl : writer = some number := isEnd
      simp [owned, withoutChildEnd]

theorem StreamEnds.ensures_closeChildEnd
    (ends : StreamEnds)
    (stream : StandardStream)
    (adds : before.Adds (ends.owned ++ owned) state)
    (history : List Event) :
    (ends.closeChildEnd stream).Ensures before.accounting
      (fun later after left =>
        left = ends.withoutChildEnd stream ∧
          before.leaves (left.owned ++ owned) history later after left)
      history state := by
  cases ends with
  | caller number => exact ⟨rfl, leaves_of_adds adds _⟩
  | unbound => exact ⟨rfl, leaves_of_adds adds _⟩
  | pipe reader writer =>
      cases isEnd : (StreamEnds.pipe reader writer).childEnd stream with
      | none =>
          simp only [closeChildEnd, isEnd]
          exact ⟨(withoutChildEnd_of_none isEnd).symm, leaves_of_adds adds _⟩
      | some number =>
          have adds := adds.perm ((owned_perm_of_childEnd isEnd).append_right owned)
          simp only [closeChildEnd, isEnd]
          refine adds.ensures_close fun later after answer adds noPipe => ?_
          cases answer with
          | ok => exact ⟨rfl, adds, noPipe⟩
          | error errno =>
              refine ensures_log fun later same => ?_
              exact ⟨rfl, adds, same.trans noPipe⟩

/-- Closing the child's ends leaves the parent's. -/
theorem Bindings.ensures_closeChildEnds
    (bindings : Bindings)
    (adds : before.Adds (bindings.owned ++ owned) state)
    (history : List Event) :
    bindings.closeChildEnds.Ensures before.accounting
      (fun later after left =>
        left = bindings.withoutChildEnds ∧
          before.leaves (left.owned ++ owned) history later after left)
      history state := by
  rw [Bindings.owned, List.append_assoc, List.append_assoc] at adds
  rw [Bindings.closeChildEnds, Program.ensures_bind]
  refine (bindings.stdin.ensures_closeChildEnd .stdin adds history).mono ?_
  rintro later after stdin ⟨isStdin, adds, sameFirst⟩
  have adds := adds.perm List.perm_append_comm
  rw [List.append_assoc, List.append_assoc] at adds
  rw [Program.ensures_bind]
  refine (bindings.stdout.ensures_closeChildEnd .stdout adds later).mono ?_
  rintro later after stdout ⟨isStdout, adds, sameSecond⟩
  have adds := adds.perm List.perm_append_comm
  rw [List.append_assoc, List.append_assoc] at adds
  rw [Program.ensures_bind]
  refine (bindings.stderr.ensures_closeChildEnd .stderr adds later).mono ?_
  rintro later after stderr ⟨isStderr, adds, sameThird⟩
  refine ⟨by rw [isStdin, isStdout, isStderr, withoutChildEnds], adds.perm ?_, ?_⟩
  · rw [List.perm_iff_count]
    intro number
    simp only [Bindings.owned, List.count_append]
    omega
  · exact sameThird.trans (sameSecond.trans sameFirst)

/-! ## Binding the streams -/

section Binding

variable {history : List Event}

/-- What a stream is bound to, given the pipes that were made for it. -/
inductive BoundTo : Redirection → List (Descriptor × Descriptor) → StreamEnds → Prop
  | caller (number : Descriptor) : BoundTo (.descriptor number) [] (.caller number)
  | pipe (reader writer : Descriptor) :
      BoundTo .pipe [(reader, writer)] (.pipe (some reader) (some writer))

/-- What standard error is bound to, given the pipes that were made for it. -/
def ErrorBoundTo (launch : Launch) (pipes : List (Descriptor × Descriptor))
    (ends : StreamEnds) : Prop :=
  if launch.mergesOutputs then pipes = [] ∧ ends = .unbound
  else BoundTo launch.redirections.stderr pipes ends

/-- Binding a stream makes its pipes, or fails at the last one asked for. -/
def binds (before : Descriptors) (owned : List Descriptor) (history : List Event)
    (bound : List (Descriptor × Descriptor) → StreamEnds → Prop)
    (refused : Errno → LaunchError → Prop)
    (later : List Event) (after : Descriptors) :
    Except LaunchError StreamEnds → Prop
  | .ok ends =>
      ∃ pipes, bound pipes ends ∧ before.Adds (ends.owned ++ owned) after ∧
        pipeAnswers later = pipeAnswers history ++ pipes.map .ok
  | .error cause =>
      ∃ errno, refused errno cause ∧ before.Adds owned after ∧
        pipeAnswers later = pipeAnswers history ++ [.error errno]

theorem Bindings.ensures_bind
    (stream : StandardStream)
    (redirection : Redirection)
    (adds : before.Adds owned state) :
    (Bindings.bind (fun _ => Bindings.systemPipe) stream redirection).Ensures
      before.accounting
      (binds before owned history (BoundTo redirection) fun errno cause =>
        redirection = .pipe ∧ cause = .streamBinding stream (.os errno))
      history state := by
  cases redirection with
  | descriptor number => exact ⟨[], .caller number, adds, by simp⟩
  | pipe =>
      refine ⟨trivial, fun answer after answered => ?_⟩
      cases answer with
      | ok ends =>
          obtain ⟨reader, writer⟩ := ends
          obtain ⟨freeReader, freeWriter, rfl⟩ := answered
          refine ⟨[(reader, writer)], .pipe reader writer, ?_, by simp⟩
          exact ((adds.openNext freeReader).openNext freeWriter).perm (.swap _ _ _)
      | error errno =>
          obtain rfl : after = state := answered
          refine ensures_log fun later same => ?_
          exact ⟨errno, ⟨rfl, rfl⟩, adds, by rw [same]; simp⟩

theorem Bindings.ensures_bindError
    (launch : Launch)
    (adds : before.Adds owned state) :
    (Bindings.bindError (fun _ => Bindings.systemPipe) launch).Ensures
      before.accounting
      (binds before owned history (ErrorBoundTo launch) fun errno cause =>
        (launch.mergesOutputs = false ∧ launch.redirections.stderr = .pipe) ∧
          cause = .streamBinding .stderr (.os errno))
      history state := by
  unfold Bindings.bindError
  cases merges : launch.mergesOutputs with
  | true => exact ⟨[], by simp [ErrorBoundTo, merges], adds, by simp⟩
  | false =>
      refine (Bindings.ensures_bind .stderr launch.redirections.stderr adds).mono ?_
      intro later after bound result
      cases bound with
      | ok ends => simpa [binds, ErrorBoundTo, merges] using result
      | error cause => simpa [binds] using result

/-- The pipes of the three streams are those of the launch, in order. -/
theorem Launch.bindings_of_boundTo
    {launch : Launch}
    {forStdin forStdout forStderr : List (Descriptor × Descriptor)}
    (bindings : Bindings)
    (stdin : BoundTo launch.redirections.stdin forStdin bindings.stdin)
    (stdout : BoundTo launch.redirections.stdout forStdout bindings.stdout)
    (stderr : ErrorBoundTo launch forStderr bindings.stderr) :
    (forStdin ++ (forStdout ++ forStderr)).length = launch.pipedStreams.length ∧
      bindings = launch.bindings (forStdin ++ (forStdout ++ forStderr)) := by
  obtain ⟨_, _, _, _, ⟨_, _, errorRedirection⟩, mergesOutputs⟩ := launch
  obtain ⟨_, _, _⟩ := bindings
  cases mergesOutputs with
  | true =>
      obtain ⟨rfl, isUnbound⟩ := stderr
      cases isUnbound
      cases errorRedirection <;> cases stdin <;> cases stdout <;> exact ⟨rfl, rfl⟩
  | false =>
      replace stderr : BoundTo _ forStderr _ := stderr
      cases stdin <;> cases stdout <;> cases stderr <;> exact ⟨rfl, rfl⟩

theorem Launch.pipedStreams_stdin
    {launch : Launch}
    (isPipe : launch.redirections.stdin = .pipe) :
    launch.pipedStreams[0]? = some .stdin := by
  simp [Launch.pipedStreams, PerStream.get, isPipe, Redirection.target?]

theorem Launch.pipedStreams_stdout
    {launch : Launch}
    {forStdin : List (Descriptor × Descriptor)}
    {stdin : StreamEnds}
    (stdinBound : BoundTo launch.redirections.stdin forStdin stdin)
    (isPipe : launch.redirections.stdout = .pipe) :
    launch.pipedStreams[forStdin.length]? = some .stdout := by
  generalize isStdin : launch.redirections.stdin = redirection at stdinBound
  cases stdinBound <;>
    simp [Launch.pipedStreams, PerStream.get, isStdin, isPipe, Redirection.target?]

theorem Launch.pipedStreams_stderr
    {launch : Launch}
    {forStdin forStdout : List (Descriptor × Descriptor)}
    {stdin stdout : StreamEnds}
    (stdinBound : BoundTo launch.redirections.stdin forStdin stdin)
    (stdoutBound : BoundTo launch.redirections.stdout forStdout stdout)
    (separate : launch.mergesOutputs = false)
    (isPipe : launch.redirections.stderr = .pipe) :
    launch.pipedStreams[(forStdin ++ forStdout).length]? = some .stderr := by
  generalize isStdin : launch.redirections.stdin = redirection at stdinBound
  generalize isStdout : launch.redirections.stdout = redirection at stdoutBound
  cases stdinBound <;> cases stdoutBound <;>
    simp [Launch.pipedStreams, PerStream.get, isStdin, isStdout, isPipe, separate,
      Redirection.target?]

/-- Binding the streams of a launch ends with pipes handed out in order, or with
nothing owned and the first stream without a pipe to blame. -/
def Launch.Resolves (launch : Launch) (before : Descriptors) (owned : List Descriptor)
    (history later : List Event) (after : Descriptors) :
    Except LaunchError Bindings → Prop
  | .ok bindings =>
      ∃ pipes : List (Descriptor × Descriptor),
        pipes.length = launch.pipedStreams.length ∧
          bindings = launch.bindings pipes ∧
          before.Adds (bindings.owned ++ owned) after ∧
          pipeAnswers later = pipeAnswers history ++ pipes.map .ok
  | .error cause =>
      ∃ (pipes : List (Descriptor × Descriptor)) (errno : Errno)
        (stream : StandardStream),
        launch.pipedStreams[pipes.length]? = some stream ∧
          cause = .streamBinding stream (.os errno) ∧
          before.Adds owned after ∧
          pipeAnswers later =
            pipeAnswers history ++ (pipes.map .ok ++ [.error errno])

theorem Launch.ensures_resolve
    (launch : Launch)
    (adds : before.Adds owned state) :
    (Bindings.resolve (fun _ => Bindings.systemPipe) launch).Ensures before.accounting
      (launch.Resolves before owned history) history state := by
  rw [Bindings.resolve, Program.ensures_bind]
  refine (Bindings.ensures_bind .stdin _ adds).mono ?_
  rintro later after (cause | stdin) bound
  · obtain ⟨errno, ⟨isPipe, rfl⟩, adds, same⟩ := bound
    exact ⟨[], errno, .stdin, Launch.pipedStreams_stdin isPipe, rfl, adds, same⟩
  obtain ⟨forStdin, stdinBound, adds, sameFirst⟩ := bound
  rw [Program.ensures_bind]
  refine (Bindings.ensures_bind .stdout _ adds).mono ?_
  rintro later after (cause | stdout) bound
  · obtain ⟨errno, ⟨isPipe, rfl⟩, adds, same⟩ := bound
    refine ensures_bind_of_leaves (stdin.ensures_drop adds later) ?_
    intro later after _ adds noPipe
    refine ⟨forStdin, errno, .stdout, Launch.pipedStreams_stdout stdinBound isPipe, rfl,
      adds, ?_⟩
    simp [noPipe, same, sameFirst]
  obtain ⟨forStdout, stdoutBound, adds, sameSecond⟩ := bound
  rw [Program.ensures_bind]
  refine (Bindings.ensures_bindError launch adds).mono ?_
  rintro later after (cause | stderr) bound
  · obtain ⟨errno, ⟨⟨separate, isPipe⟩, rfl⟩, adds, same⟩ := bound
    refine ensures_bind_of_leaves (stdout.ensures_drop adds later) ?_
    intro later after _ adds noPipeFirst
    refine ensures_bind_of_leaves (stdin.ensures_drop adds later) ?_
    intro later after _ adds noPipeSecond
    refine ⟨forStdin ++ forStdout, errno, .stderr,
      Launch.pipedStreams_stderr stdinBound stdoutBound separate isPipe, rfl, adds, ?_⟩
    simp [noPipeSecond, noPipeFirst, same, sameSecond, sameFirst]
  obtain ⟨forStderr, stderrBound, adds, sameThird⟩ := bound
  obtain ⟨sameLength, isBindings⟩ :=
    Launch.bindings_of_boundTo ⟨stdin, stdout, stderr⟩ stdinBound stdoutBound stderrBound
  refine ⟨forStdin ++ (forStdout ++ forStderr), sameLength, isBindings, ?_, ?_⟩
  · refine adds.perm ?_
    rw [List.perm_iff_count]
    intro number
    simp only [Bindings.owned, List.count_append]
    omega
  · simp [sameThird, sameSecond, sameFirst]

end Binding
end Accounting
end ChildProcess
