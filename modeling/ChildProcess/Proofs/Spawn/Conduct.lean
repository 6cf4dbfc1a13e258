import ChildProcess.Proofs.Spawn.Exchange
import ChildProcess.Proofs.Spawn.Wiring

/-!
# The conduct of a child

Seen from outside, a child keeps the only descriptor for its report until it becomes
another program or has failed.  It writes nothing before it has failed, and afterwards
exactly the bytes of the error number that says why; then it closes the descriptor and
ends.  With more rounds than it can be held up, it gets that far.
-/

namespace ChildProcess
namespace Child

open Descriptors

/-! ## What a child tells -/

/-- Calls with which a failure is reported. -/
def isReporting : Call → Prop
  | .write _ _ | .close _ => True
  | _ => False

/-- A child has failed with an error number, and has written it but for the rest. -/
structure Tells (request : ExecRequest) (writer : Descriptor) (errno : Errno)
    (rest : Bytes) (events : List Event) : Prop where
  fails : ∃ steps reports, events = steps ++ reports ∧
    Fails request writer steps errno ∧ ∀ event ∈ reports, isReporting event.1
  bytes : sent events ++ rest = Report.encode errno

/-- What a child may do after some events. -/
def Conducts (request : ExecRequest) (writer : Descriptor) (report : FileId)
    (events : List Event) (state : Descriptors) : Call → Prop
  | .write number data =>
      number = writer ∧ state.OnlyAt writer report ∧ data ≠ [] ∧
        ∃ errno, Tells request writer errno data events
  | .exit _ =>
      (∀ number, state.file? number ≠ some report) ∧
        ∃ errno, Tells request writer errno [] events
  | .execute _ _ _ =>
      state.OnlyAt writer report ∧ state.slot? writer = some ⟨report, true⟩ ∧
        sent events = []
  | other => state.OnlyAt writer report ∧ IsPrivate other

section Telling

variable {request : ExecRequest} {writer : Descriptor} {report : FileId} {errno : Errno}
variable {rest : Bytes} {history events : List Event} {state : Descriptors}

theorem sent_eq_nil
    (noWriting : ∀ event ∈ events, ∀ number data, event.1 ≠ .write number data) :
    sent events = [] := by
  induction events with
  | nil => rfl
  | cons event events inductionHypothesis =>
      rw [List.forall_mem_cons] at noWriting
      change sent ([event] ++ events) = []
      rw [sent_append, sent_of_ne event.2 noWriting.1, inductionHypothesis noWriting.2]
      rfl

/-- Nothing is written before the stage of reporting. -/
theorem Proceeds.sent_eq_nil
    {reached : Stage}
    (proceeds : Proceeds writer reached events)
    (before : reached.rank < Stage.reporting.rank) :
    sent events = [] := by
  refine Child.sent_eq_nil fun event isMember number data isWriting => ?_
  have reports : Stage.reporting ∈ stages writer events :=
    mem_stages.mpr ⟨event, isMember, by rw [isWriting]; rfl⟩
  exact Nat.not_lt.mpr (proceeds.within _ reports) before

theorem Breaks.sent_eq_nil (breaks : Breaks writer events errno) : sent events = [] := by
  obtain ⟨earlier, ⟨call, answer⟩, stage, rfl, proceeds, belongs, failed⟩ := breaks
  have noWriting : ∀ number data, call ≠ .write number data := by
    rintro number data rfl
    cases failed
  have inTime : stage.rank < Stage.reporting.rank := by
    cases call with
    | duplicateFrom | duplicate | changeDirectory => cases belongs; decide
    | setCloseOnExec number value =>
        cases belongs
        split <;> decide
    | _ => cases failed
  rw [sent_append, proceeds.sent_eq_nil inTime, sent_of_ne answer noWriting]
  rfl

/-- A child that has just failed has told nothing yet. -/
theorem Fails.tells (fails : Fails request writer events errno) :
    Tells request writer errno (Report.encode errno) events := by
  refine ⟨⟨events, [], by simp, fails, by simp⟩, ?_⟩
  have noBytes : sent events = [] := by
    rcases fails with breaks | ⟨setUp, executions, rfl, proceeds, runs⟩
    · exact breaks.sent_eq_nil
    · have executes := (request.completes_run.makes.of_runs runs).1
      rw [sent_append, proceeds.sent_eq_nil (by decide), Child.sent_eq_nil]
      · rfl
      · intro event isMember number data isWriting
        exact absurd (executes event isMember) (by rw [isWriting]; exact id)
  rw [noBytes, List.nil_append]

theorem Tells.append
    {event : Event}
    {left : Bytes}
    (tells : Tells request writer errno rest history)
    (reports : isReporting event.1)
    (same : sent [event] ++ left = rest) :
    Tells request writer errno left (history ++ [event]) := by
  obtain ⟨⟨steps, reported, rfl, fails, reporting⟩, bytes⟩ := tells
  refine ⟨⟨steps, reported ++ [event], by simp, fails, ?_⟩, ?_⟩
  · simp only [List.mem_append, List.mem_singleton]
    rintro other (earlier | rfl)
    · exact reporting other earlier
    · exact reports
  · rw [sent_append, List.append_assoc, same, bytes]

theorem Conducts.onlyAt
    {call : Call}
    (conducts : Conducts request writer report history state call)
    (isPrivate : IsPrivate call) :
    state.OnlyAt writer report := by
  cases call with
  | read | write | collect | fork | exit => exact isPrivate.elim
  | execute => exact conducts.1
  | _ => exact conducts.1

/-- A child can still write, or has told everything. -/
theorem Conducts.onlyAt_or_tells
    {call : Call}
    (conducts : Conducts request writer report history state call) :
    state.OnlyAt writer report ∨ ∃ errno, Tells request writer errno [] history := by
  cases call with
  | exit => exact .inr conducts.2
  | write => exact .inl conducts.2.1
  | _ => exact .inl conducts.1

/-- The circumstances of a child that conducts itself well. -/
abbrev conducting (request : ExecRequest) (writer : Descriptor) (report : FileId) :
    Setting Descriptors where
  answers := System.only Answers IsOrderly
  allows := Conducts request writer report

theorem ensures_send
    (rounds : Nat)
    (tells : Tells request writer errno rest history)
    (only : state.OnlyAt writer report) :
    (Report.send writer rounds rest).Ensures (conducting request writer report)
      (fun later after _ =>
        after.OnlyAt writer report ∧ Tells request writer errno [] later)
      history state := by
  induction rounds generalizing rest history with
  | zero =>
      cases rest with
      | nil => exact ⟨only, tells⟩
      | cons byte rest => trivial
  | succ rounds inductionHypothesis =>
      cases rest with
      | nil => exact ⟨only, tells⟩
      | cons byte rest =>
          refine ⟨⟨rfl, only, nofun, errno, tells⟩, fun answer next answered => ?_⟩
          obtain ⟨answered, orderly⟩ := answered
          obtain rfl : next = state := answered
          rcases answer with interruption | (_ | count)
          · obtain rfl : interruption = Errno.EINTR := orderly
            exact inductionHypothesis (tells.append trivial rfl)
          · exact absurd orderly.1 (Nat.lt_irrefl 0)
          · refine inductionHypothesis (tells.append trivial ?_)
            exact (congrArg (· ++ _) (List.append_nil _)).trans
              (List.take_append_drop (count + 1) (byte :: rest))

theorem ensures_sendAndExit
    (rounds : Nat)
    (fails : Fails request writer history errno)
    (only : state.OnlyAt writer report) :
    (Report.sendAndExit rounds writer errno).Ensures (conducting request writer report)
      (fun _ _ _ => False) history state := by
  rw [Report.sendAndExit, Program.ensures_bind]
  refine (ensures_send rounds fails.tells only).mono ?_
  rintro later after _ ⟨only, tells⟩
  refine ⟨⟨only, trivial⟩, fun answer closed closes => ?_⟩
  refine ⟨⟨fun number isReport => ?_, errno, tells.append trivial rfl⟩,
    fun never => nomatch never⟩
  have becomes : after.Becomes writer none closed := closes.1
  by_cases same : number = writer
  · rw [same, Descriptors.file?, becomes.slot?_self] at isReport
    cases isReport
  · rw [becomes.file?_of_ne same, only number] at isReport
    exact same isReport

/-- Whatever is answered, a child conducts itself well. -/
theorem ensures_conducting
    {inheritance : Inheritance}
    {sources : StandardStream → Descriptor}
    {files : StandardStream → FileId}
    (rounds : Nat)
    (sound : inheritance.IsSound report sources files state) :
    (run rounds inheritance).Ensures
      (conducting inheritance.request inheritance.reportWriter report)
      (fun _ _ _ => False) [] state := by
  refine ensures_run rounds sound (fun _ _ _ _ => And.left) trivial ?_ ?_ ?_
  · intro history state request only spared
    cases request with
    | execute | write | exit | fork | read | collect => exact spared.elim
    | _ => exact ⟨only, trivial⟩
  · intro history state path arguments environment ready
    exact ⟨ready.only, ready.isSetUp.isSealed, ready.proceeds.sent_eq_nil (by decide)⟩
  · intro history state errno only fails
    exact ensures_sendAndExit rounds fails only

end Telling

/-! ## Endurance -/

section Endurance

variable {delays : Nat} {α β : Type}

theorem lasts_exceptT_bind
    {program : ExceptT Errno Program α}
    {next : α → ExceptT Errno Program β}
    (first : Lasts delays program.run)
    (second : ∀ value, Lasts delays (next value).run) :
    Lasts delays (program >>= next).run := by
  rw [ExceptT.run_bind]
  refine lasts_bind first fun outcome => ?_
  cases outcome with
  | error errno => exact lasts_done _
  | ok value => exact second value

/-! ### Closing -/

theorem lasts_closeEach (numbers : List Descriptor) :
    Lasts delays (Inherited.closeEach numbers) := by
  have closes : ∀ number, findsOrCloses (.close number) := fun _ => trivial
  exact lasts_of_completes (completes_closeEach closes numbers)

theorem lasts_closeListed
    {rounds : Nat}
    (first keep directory : Descriptor)
    (enough : delays < rounds)
    (buffer : Bytes) :
    Lasts delays (Inherited.closeListed first keep directory rounds buffer) := by
  induction rounds generalizing delays buffer with
  | zero => exact absurd enough (Nat.not_lt_zero _)
  | succ rounds inductionHypothesis =>
      refine lasts_call fun answer left _ less => ?_
      rcases answer with errno | (_ | ⟨byte, rest⟩)
      · exact lasts_done false
      · exact lasts_done true
      · -- Each further batch holds the child up, and takes a round.
        have less : left + 1 ≤ delays := less
        have enough : left < rounds := by omega
        change Lasts left (Inherited.closeEach _ >>= fun _ =>
          Inherited.closeListed first keep directory rounds _)
        exact lasts_bind (lasts_closeEach _) fun _ => inductionHypothesis enough _

theorem lasts_close
    {rounds : Nat}
    (first keep limit : Descriptor)
    (enough : delays < rounds) :
    Lasts delays (Inherited.close rounds first keep limit) := by
  refine lasts_bind (lasts_call fun answer left _ less => ?_) fun completed => ?_
  · cases answer with
    | error errno => exact lasts_done false
    | ok directory =>
        have enough : left < rounds := by omega
        change Lasts left (Inherited.closeListed first keep directory rounds _ >>=
          fun _ => Program.perform (.close directory) >>= fun _ => _)
        exact lasts_bind (lasts_closeListed _ _ _ enough _) fun _ =>
          lasts_bind (lasts_perform _) fun _ => lasts_done _
  · cases completed with
    | true => exact lasts_done _
    | false =>
        have closes : ∀ number, findsOrCloses (.close number) := fun _ => trivial
        exact lasts_bind (lasts_of_completes (completes_closeRange closes _ _ _)) fun _ =>
          lasts_done _

/-! ### The whole child -/

theorem lasts_setUp
    {rounds : Nat}
    (inheritance : Inheritance)
    (enough : delays < rounds) :
    Lasts delays (setUp rounds inheritance).run := by
  have moves : ∀ stream source, Lasts delays (moveAside stream source).run :=
    fun stream source => lasts_of_completes (completes_moveAside stream source)
  have installs : ∀ stream source, Lasts delays (install stream source).run :=
    fun stream source => lasts_of_completes (completes_install stream source)
  refine lasts_exceptT_bind ?_ fun sources => ?_
  · refine lasts_exceptT_bind (moves _ _) fun _ => ?_
    refine lasts_exceptT_bind (moves _ _) fun _ => ?_
    exact lasts_exceptT_bind (moves _ _) fun _ => lasts_done _
  refine lasts_exceptT_bind ?_ fun _ => ?_
  · refine lasts_exceptT_bind (installs _ _) fun _ => ?_
    exact lasts_exceptT_bind (installs _ _) fun _ => installs _ _
  refine lasts_exceptT_bind (lasts_bind (lasts_closeEach _) fun _ => lasts_done _) ?_
  intro _
  refine lasts_exceptT_bind
    (lasts_bind (lasts_close _ _ _ enough) fun _ => lasts_done _) fun _ => ?_
  exact lasts_exceptT_bind (lasts_perform _) fun _ => lasts_perform _

theorem lasts_send
    {rounds : Nat}
    (writer : Descriptor)
    (payload : Bytes)
    (enough : delays + payload.length ≤ rounds) :
    Lasts delays (Report.send writer rounds payload) := by
  induction rounds generalizing delays payload with
  | zero =>
      cases payload with
      | nil => exact lasts_done ()
      | cons byte rest => exact absurd enough (by simp)
  | succ rounds inductionHypothesis =>
      cases payload with
      | nil => exact lasts_done ()
      | cons byte rest =>
          refine lasts_call fun answer left orderly less => ?_
          rcases answer with interruption | (_ | count)
          · obtain rfl : interruption = Errno.EINTR := orderly
            have less : left + 1 ≤ delays := less
            exact inductionHypothesis _ (by omega)
          · exact lasts_done ()
          · have less : left ≤ delays := less
            refine inductionHypothesis _ ?_
            rw [List.length_drop]
            rw [List.length_cons] at enough ⊢
            omega

theorem lasts_sendAndExit
    {rounds : Nat}
    (writer : Descriptor)
    (errno : Errno)
    (enough : delays + Report.length ≤ rounds) :
    Lasts delays (Report.sendAndExit rounds writer errno) := by
  refine lasts_bind (lasts_send writer _ enough) fun _ => ?_
  exact lasts_bind (lasts_perform _) fun _ => lasts_call fun never => nomatch never

/-- A child with more rounds than it can be held up does not use them up. -/
theorem lasts_run
    {rounds : Nat}
    (inheritance : Inheritance)
    (enough : delays + Report.length ≤ rounds) :
    Lasts delays (run rounds inheritance) := by
  have more : delays < rounds := by
    unfold Report.length at enough
    omega
  refine lasts_bind (lasts_perform _) fun _ => ?_
  refine lasts_bind (lasts_closeEach _) fun _ => ?_
  refine lasts_bind (lasts_bind (lasts_perform _) fun _ => lasts_perform _) fun _ => ?_
  refine lasts_bind (lasts_setUp inheritance more) fun outcome => ?_
  cases outcome with
  | error errno => exact lasts_sendAndExit _ errno enough
  | ok =>
      exact lasts_bind (lasts_of_completes inheritance.request.completes_run) fun errno =>
        lasts_sendAndExit _ errno enough

end Endurance

/-! ## Both together -/

/-- The circumstances of a child that comes to an end. -/
abbrev behaving (request : ExecRequest) (writer : Descriptor) (report : FileId) :
    Setting Side where
  answers := Side.Answers
  allows history side := Conducts request writer report history side.descriptors
  exhaustion := False

theorem ensures_behaving
    {inheritance : Inheritance}
    {report : FileId}
    {sources : StandardStream → Descriptor}
    {files : StandardStream → FileId}
    {rounds : Nat}
    (side : Side)
    (sound : inheritance.IsSound report sources files side.descriptors)
    (enough : side.delays + Report.length ≤ rounds) :
    (run rounds inheritance).Ensures
      (behaving inheritance.request inheritance.reportWriter report)
      (fun _ _ _ => False) [] side := by
  exact (lasts_run inheritance enough).ensures (ensures_conducting rounds sound)

end Child
end ChildProcess
