import ChildProcess.Proofs.Spawn.Exchange
import ChildProcess.Proofs.Spawn.Preparation

/-!
# The supervision of a start

Seen from outside, a parent gives up its copy of the child's end of the report pipe
before it reads, so that the file can come to its end.  It reads until it has a whole
error number or has seen the end, waits for the child exactly when it has read
something, and then answers with what it has read.
-/

namespace ChildProcess

open Descriptors

/-! ## What a parent has learnt -/

/-- Nothing more has been read, and no child has been waited for. -/
structure Quiet (process : ProcessId) (earlier later : List Event) : Prop where
  received : received later = received earlier
  endSeen : EndSeen later ↔ EndSeen earlier
  hasCollected : HasCollected process later ↔ HasCollected process earlier

namespace Quiet

variable {process : ProcessId} {first second third : List Event}

theorem refl (events : List Event) : Quiet process events events :=
  ⟨rfl, Iff.rfl, Iff.rfl⟩

theorem trans (earlier : Quiet process first second) (later : Quiet process second third) :
    Quiet process first third :=
  ⟨later.received.trans earlier.received, later.endSeen.trans earlier.endSeen,
    later.hasCollected.trans earlier.hasCollected⟩

theorem append {request : Call} (isPrivate : IsPrivate request)
    (answer : request.Answer) (events : List Event) :
    Quiet process events (events ++ [⟨request, answer⟩]) := by
  have noReading : ∀ number count, request ≠ .read number count := by
    rintro number count rfl
    exact isPrivate
  have noCollecting : ∀ number mode, request ≠ .collect number mode := by
    rintro number mode rfl
    exact isPrivate
  refine ⟨?_, ?_, ?_⟩
  · rw [received_append, received_of_ne answer noReading, List.append_nil]
  · rw [endSeen_append, or_iff_left (not_endSeen_of_ne noReading)]
  · rw [hasCollected_append, or_iff_left (not_hasCollected_of_ne noCollecting)]

end Quiet

namespace Launch

/-- What the answer to a start says about the events before it. -/
def Concludes {α : Type} (launch : Launch) (process : ProcessId) (events : List Event) :
    Except LaunchError α → Prop
  | .ok _ => EndSeen events ∧ received events = []
  | .error cause =>
      HasCollected process events ∧
        ((received events).length = Report.length ∨ EndSeen events) ∧
        received events ≠ [] ∧
        ∀ errno, Report.decode (received events) = some errno →
          cause = .execution (launch.program?.getD "") (.os errno)

theorem Concludes.of_quiet {α : Type}
    {launch : Launch}
    {process : ProcessId}
    {earlier later : List Event}
    {outcome : Except LaunchError α}
    (concludes : launch.Concludes process earlier outcome)
    (quiet : Quiet process earlier later) :
    launch.Concludes process later outcome := by
  cases outcome with
  | ok value => simpa only [Concludes, quiet.endSeen, quiet.received] using concludes
  | error cause =>
      simpa only [Concludes, quiet.endSeen, quiet.received, quiet.hasCollected]
        using concludes

end Launch

/-- What a parent may do after some events. -/
def Supervises (process : ProcessId) (readEnd writeEnd : FileId) (events : List Event)
    (state : Descriptors) : Call → Prop
  | .read number count =>
      state.file? number = some readEnd ∧ (∀ other, state.file? other ≠ some writeEnd) ∧
        0 < count
  | .collect child mode =>
      child = process ∧ mode = .untilEnd ∧ ¬HasCollected process events ∧
        received events ≠ []
  | other => IsPrivate other

/-- The circumstances of a parent that supervises its child. -/
abbrev supervising (process : ProcessId) (readEnd writeEnd : FileId) :
    Setting Descriptors where
  answers := System.only Answers IsOrderly
  allows := Supervises process readEnd writeEnd

section Supervision

variable {process : ProcessId} {readEnd writeEnd : FileId}
variable {history : List Event} {state : Descriptors} {reader : Descriptor}

theorem isPrivate_of_preparesOrCloses {request : Call}
    (prepares : preparesOrCloses request) : IsPrivate request := by
  cases request with
  | pipe | close | log => trivial
  | _ => exact prepares.elim

theorem supervises_of_isPrivate {request : Call} (isPrivate : IsPrivate request) :
    Supervises process readEnd writeEnd history state request := by
  cases request with
  | read | collect | write | fork | exit => exact isPrivate.elim
  | _ => exact isPrivate

/-- A program that only prepares and closes lets a parent learn nothing. -/
theorem ensures_quiet {α : Type}
    {program : Program α}
    (makes : program.Makes preparesOrCloses)
    (history : List Event)
    (state : Descriptors) :
    program.Ensures (supervising process readEnd writeEnd)
      (fun later _ _ => Quiet process history later) history state := by
  refine makes.ensures (fun later _ => Quiet process history later) trivial ?_ ?_ (.refl _)
  · intro later after request quiet prepares
    exact supervises_of_isPrivate (isPrivate_of_preparesOrCloses prepares)
  · intro later after request answer next quiet prepares answered
    exact quiet.trans (.append (isPrivate_of_preparesOrCloses prepares) answer later)

/-- Giving up a descriptor leaves nothing on its number. -/
theorem ensures_dropDescriptor_becomes
    (number : Descriptor)
    (history : List Event)
    (state : Descriptors) :
    (dropDescriptor (some number)).Ensures (supervising process readEnd writeEnd)
      (fun later after _ => Quiet process history later ∧ state.Becomes number none after)
      history state := by
  have closePrivate : IsPrivate (.close number) := trivial
  refine ⟨trivial, fun answer closed closes => ?_⟩
  have quiet : Quiet process history (history ++ [⟨.close number, answer⟩]) :=
    .append closePrivate answer history
  cases answer with
  | ok => exact ⟨quiet, closes.1⟩
  | error errno =>
      refine ⟨trivial, fun _ logged logs => ?_⟩
      obtain rfl : logged = closed := logs.1
      have logPrivate : ∀ record, IsPrivate (.log record) := fun _ => trivial
      exact ⟨quiet.trans (.append (logPrivate _) () _), closes.1⟩

/-! ## Reading -/

/-- The reader is the only end of the report pipe that a parent still has. -/
def HoldsReader (reader : Descriptor) (readEnd writeEnd : FileId) (state : Descriptors) :
    Prop :=
  state.file? reader = some readEnd ∧ ∀ other, state.file? other ≠ some writeEnd

/-- Some bytes have been read since, and no child has been waited for. -/
structure HasRead (process : ProcessId) (earlier later : List Event) (bytes : Bytes) :
    Prop where
  received : received later = received earlier ++ bytes
  hasCollected : HasCollected process later ↔ HasCollected process earlier

namespace HasRead

variable {earlier : List Event} {bytes : Bytes}

theorem refl (events : List Event) : HasRead process events events [] :=
  ⟨by simp, Iff.rfl⟩

theorem more
    (hasRead : HasRead process earlier history bytes)
    (number : Descriptor)
    (count : Nat)
    (piece : Bytes) :
    HasRead process earlier (history ++ [⟨.read number count, .ok piece⟩])
      (bytes ++ piece) := by
  have noCollecting : ∀ child mode, Call.read number count ≠ .collect child mode := nofun
  refine ⟨?_, ?_⟩
  · rw [received_append, hasRead.received, List.append_assoc]
    simp [ChildProcess.received]
  · rw [hasCollected_append, or_iff_left (not_hasCollected_of_ne noCollecting)]
    exact hasRead.hasCollected

theorem interrupted
    (hasRead : HasRead process earlier history bytes)
    (number : Descriptor)
    (count : Nat)
    (errno : Errno) :
    HasRead process earlier (history ++ [⟨.read number count, .error errno⟩]) bytes := by
  have noCollecting : ∀ child mode, Call.read number count ≠ .collect child mode := nofun
  refine ⟨?_, ?_⟩
  · rw [received_append, hasRead.received]
    simp [ChildProcess.received]
  · rw [hasCollected_append, or_iff_left (not_hasCollected_of_ne noCollecting)]
    exact hasRead.hasCollected

end HasRead

/-- An answer to an attempt to read is some bytes, and none only at the end. -/
def Reads (process : ProcessId) (earlier later : List Event) (limit : Nat)
    (answer : Except SystemError Bytes) : Prop :=
  ∃ bytes, answer = .ok bytes ∧ bytes.length ≤ limit ∧
    HasRead process earlier later bytes ∧ (bytes = [] → EndSeen later)

theorem ensures_readSome
    (rounds : Nat)
    {count : Nat}
    (positive : 0 < count)
    (holds : HoldsReader reader readEnd writeEnd state)
    (history : List Event) :
    (Program.readSome rounds reader count).Ensures (supervising process readEnd writeEnd)
      (fun later after answer => after = state ∧ Reads process history later count answer)
      history state := by
  rw [Program.readSome, Program.ensures_bind]
  refine Program.ensures_retrying
    (fun later after => after = state ∧ HasRead process history later []) trivial ?_ rounds
    ⟨rfl, .refl history⟩
  rintro later after ⟨rfl, hasRead⟩
  refine ⟨⟨holds.1, holds.2, positive⟩, fun answer next answered => ?_⟩
  obtain ⟨answered, orderly⟩ := answered
  obtain rfl : next = after := answered
  rcases answer with interruption | bytes
  · obtain rfl : interruption = Errno.EINTR := orderly
    exact ⟨fun _ => ⟨rfl, hasRead.interrupted _ _ _⟩, fun finished => absurd rfl finished⟩
  · refine ⟨nofun, fun _ => ⟨rfl, bytes, rfl, orderly, hasRead.more _ _ bytes, ?_⟩⟩
    rintro rfl
    exact ⟨reader, count, by simp⟩

theorem HasRead.trans
    {first second third : List Event}
    {bytes more : Bytes}
    (earlier : HasRead process first second bytes)
    (later : HasRead process second third more) :
    HasRead process first third (bytes ++ more) := by
  refine ⟨?_, later.hasCollected.trans earlier.hasCollected⟩
  rw [later.received, earlier.received, List.append_assoc]

/-- What has been read when reading comes to its end. -/
def ReadsFully (process : ProcessId) (earlier later : List Event) (missing : Nat)
    (answer : Except SystemError Bytes) : Prop :=
  ∃ bytes, answer = .ok bytes ∧ HasRead process earlier later bytes ∧
    (bytes.length = missing ∨ EndSeen later)

theorem ensures_readPieces
    (rounds pieces : Nat)
    (missing : Nat)
    (holds : HoldsReader reader readEnd writeEnd state)
    (history : List Event) :
    (Program.readPieces (Program.readSome rounds reader) pieces missing).Ensures
      (supervising process readEnd writeEnd)
      (fun later after answer =>
        after = state ∧ ReadsFully process history later missing answer)
      history state := by
  refine Program.ensures_readPieces
    (fun bytes later after =>
      after = state ∧ bytes.length ≤ missing ∧ HasRead process history later bytes)
    ?_ ?_ (.inl trivial) ⟨rfl, Nat.zero_le _, .refl history⟩
  · rintro bytes later _ ⟨rfl, fits, hasRead⟩ complete
    exact ⟨rfl, bytes, rfl, hasRead, .inl (Nat.le_antisymm fits complete)⟩
  · rintro bytes earlier _ ⟨rfl, fits, hasRead⟩ short
    refine (ensures_readSome rounds (Nat.sub_pos_of_lt short) holds earlier).mono ?_
    rintro later after _ ⟨rfl, piece, rfl, pieceFits, hasReadPiece, atEnd⟩
    have hasReadMore := hasRead.trans hasReadPiece
    cases piece with
    | nil =>
        rw [List.append_nil] at hasReadMore
        exact ⟨rfl, bytes, rfl, hasReadMore, .inr (atEnd rfl)⟩
    | cons byte rest =>
        refine ⟨rfl, ?_, hasReadMore⟩
        rw [List.length_append]
        omega

/-! ## Waiting -/

theorem ensures_collectEnded
    (rounds : Nat)
    (notCollected : ¬HasCollected process history)
    (somethingRead : received history ≠ []) :
    (collectEnded process rounds).Ensures (supervising process readEnd writeEnd)
      (fun later _ _ =>
        HasCollected process later ∧ received later = received history ∧
          (EndSeen later ↔ EndSeen history))
      history state := by
  have noReading : ∀ number count,
      Call.collect process .untilEnd ≠ .read number count := nofun
  rw [collectEnded, Program.ensures_bind]
  refine Program.ensures_retrying
    (fun later _ => ¬HasCollected process later ∧ received later = received history ∧
      (EndSeen later ↔ EndSeen history)) trivial ?_ rounds
    ⟨notCollected, rfl, Iff.rfl⟩
  rintro later after ⟨notYet, sameBytes, sameEnd⟩
  refine ⟨⟨rfl, rfl, notYet, sameBytes ▸ somethingRead⟩, fun answer next answered => ?_⟩
  have sameBytes : received (later ++ [⟨.collect process .untilEnd, answer⟩]) =
      received history := by
    rw [received_append, received_of_ne answer noReading, List.append_nil, sameBytes]
  have sameEnd : EndSeen (later ++ [⟨.collect process .untilEnd, answer⟩]) ↔
      EndSeen history := by
    rw [endSeen_append, or_iff_left (not_endSeen_of_ne noReading), sameEnd]
  have collected : answer ≠ .error Errno.EINTR →
      HasCollected process (later ++ [⟨.collect process .untilEnd, answer⟩]) :=
    fun finished => ⟨answer, by simp, finished⟩
  refine ⟨fun interrupted => ⟨?_, sameBytes, sameEnd⟩, fun finished => ?_⟩
  · rw [hasCollected_append]
    rintro (earlier | ⟨other, isMember, finished⟩)
    · exact notYet earlier
    · cases List.mem_singleton.mp isMember
      exact finished interrupted
  · rcases answer with errno | collectedChild
    · obtain rfl : errno = Errno.ECHILD :=
        answered.2.resolve_left fun same => finished (congrArg _ same)
      exact ⟨collected finished, sameBytes, sameEnd⟩
    · exact ⟨collected finished, sameBytes, sameEnd⟩

namespace Launch

/-- A parent that has read something waits for its child and answers with what it has
read. -/
theorem ensures_collectEnded_concludes
    {payload : Bytes}
    (rounds : Nat)
    (launch : Launch)
    (isPayload : received history = payload)
    (nonempty : payload ≠ [])
    (finished : payload.length = Report.length ∨ EndSeen history)
    (notCollected : ¬HasCollected process history) :
    (do
      collectEnded process rounds
      match Report.decode payload with
      | some errno =>
          pure (.error (.execution (launch.program?.getD "") (.os errno)))
      | none => pure (.error (.report (partialReport payload.length))) :
      Program (Except LaunchError Unit)).Ensures
      (supervising process readEnd writeEnd)
      (fun later _ outcome => launch.Concludes process later outcome) history state := by
  rw [Program.ensures_bind]
  refine (ensures_collectEnded rounds notCollected (isPayload ▸ nonempty)).mono ?_
  rintro later after _ ⟨collected, sameBytes, sameEnd⟩
  have isPayload : received later = payload := sameBytes.trans isPayload
  have concludes : ∀ cause,
      (∀ errno, Report.decode payload = some errno →
        cause = .execution (launch.program?.getD "") (.os errno)) →
      launch.Concludes process later (.error cause : Except LaunchError Unit) := by
    intro cause isCause
    refine ⟨collected, ?_, isPayload ▸ nonempty, isPayload ▸ isCause⟩
    rw [isPayload]
    exact finished.imp_right sameEnd.mpr
  cases decoded : Report.decode payload with
  | some errno =>
      refine concludes _ fun other same => ?_
      obtain rfl : errno = other := Option.some.inj (decoded.symm.trans same)
      rfl
  | none =>
      refine concludes _ fun other same => ?_
      cases decoded.symm.trans same

theorem ensures_awaitReport_concludes
    (rounds : Nat)
    (launch : Launch)
    (holds : HoldsReader reader readEnd writeEnd state)
    (nothingRead : received history = [])
    (notCollected : ¬HasCollected process history) :
    (launch.awaitReport rounds process reader).Ensures
      (supervising process readEnd writeEnd)
      (fun later _ outcome => launch.Concludes process later outcome) history state := by
  rw [awaitReport, Program.readFully, Program.ensures_bind]
  refine (ensures_readPieces rounds (Report.length + 1) Report.length holds history).mono ?_
  rintro later after _ ⟨rfl, bytes, rfl, hasRead, finished⟩
  have isBytes : received later = bytes := by
    rw [hasRead.received, nothingRead, List.nil_append]
  rw [Program.ensures_bind]
  refine (ensures_dropDescriptor_becomes reader later after).mono ?_
  rintro last after _ ⟨quiet, -⟩
  have isBytes : received last = bytes := quiet.received.trans isBytes
  have finished : bytes.length = Report.length ∨ EndSeen last :=
    finished.imp_right quiet.endSeen.mpr
  have notCollected : ¬HasCollected process last := by
    rw [quiet.hasCollected, hasRead.hasCollected]
    exact notCollected
  cases bytes with
  | nil => exact ⟨finished.resolve_left nofun, isBytes⟩
  | cons byte rest =>
      exact ensures_collectEnded_concludes rounds launch isBytes nofun finished notCollected

/-- A parent that starts with both ends of the report pipe supervises its child. -/
theorem ensures_supervising
    {writer : Descriptor}
    (rounds : Nat)
    (launch : Launch)
    (bindings : Bindings)
    (process : ProcessId)
    (stands : state.file? reader = some readEnd)
    (different : reader ≠ writer)
    (only : state.OnlyAt writer writeEnd) :
    (launch.superviseStart rounds process reader writer bindings).Ensures
      (supervising process readEnd writeEnd)
      (fun later _ outcome => launch.Concludes process later outcome) [] state := by
  rw [superviseStart, Program.ensures_bind]
  refine (ensures_dropDescriptor_becomes writer [] state).mono ?_
  rintro later after _ ⟨quiet, becomes⟩
  have holds : HoldsReader reader readEnd writeEnd after := by
    refine ⟨by rw [becomes.file?_of_ne different, stands], fun other isWriteEnd => ?_⟩
    by_cases same : other = writer
    · rw [same, Descriptors.file?, becomes.slot?_self] at isWriteEnd
      cases isWriteEnd
    · rw [becomes.file?_of_ne same, only other] at isWriteEnd
      exact same isWriteEnd
  have notCollected : ¬HasCollected process later := by
    rw [quiet.hasCollected]
    rintro ⟨answer, isMember, -⟩
    cases isMember
  rw [Program.ensures_bind]
  have awaits := ensures_awaitReport_concludes rounds launch holds quiet.received notCollected
  refine awaits.mono ?_
  intro later after outcome concludes
  rw [Program.ensures_bind]
  refine (ensures_quiet bindings.completes_closeChildEnds.makes later after).mono ?_
  intro later after left quiet
  have concludes := concludes.of_quiet quiet
  have concludes : ∀ record,
      launch.Concludes process (later ++ [⟨.log record, ()⟩]) outcome := by
    intro record
    have isPrivate : IsPrivate (.log record) := trivial
    exact concludes.of_quiet (.append isPrivate () later)
  cases outcome with
  | ok => exact ⟨trivial, fun _ logged _ => concludes _⟩
  | error cause =>
      refine ⟨trivial, fun _ logged _ => ?_⟩
      change (left.drop >>= fun _ => _).Ensures _ _ _ _
      rw [Program.ensures_bind]
      refine (ensures_quiet left.completes_drop.makes _ logged).mono ?_
      intro last dropped _ quiet
      exact (concludes _).of_quiet quiet

end Launch
end Supervision

/-! ## Endurance -/

section Endurance

variable {delays rounds : Nat}

theorem lasts_readSome
    (reader : Descriptor)
    (count : Nat)
    (enough : delays < rounds) :
    Lasts delays (Program.readSome rounds reader count) := by
  refine lasts_bind (lasts_retrying (fun history before => ?_) enough) fun _ => lasts_done _
  refine ⟨trivial, fun answer after answered => ?_⟩
  obtain ⟨-, rfl⟩ := answered
  refine ⟨Nat.le_add_right _ _, ?_⟩
  rintro rfl
  exact Nat.lt_succ_self after

theorem lasts_readPieces
    {pieces : Nat}
    (reader : Descriptor)
    (missing : Nat)
    (enough : delays < rounds)
    (enoughPieces : missing < pieces) :
    Lasts delays (Program.readPieces (Program.readSome rounds reader) pieces missing) := by
  intro history before isBefore
  refine Program.ensures_readPieces (fun _ _ after => after ≤ delays)
    (fun _ _ _ left _ => left) ?_ (.inr enoughPieces) isBefore
  intro bytes earlier between isBetween _
  refine (lasts_readSome reader _ enough earlier between isBetween).mono ?_
  rintro later after (cause | (_ | ⟨byte, rest⟩)) left <;> exact left

theorem lasts_collectEnded (process : ProcessId) (enough : delays < rounds) :
    Lasts delays (collectEnded process rounds) := by
  refine lasts_bind (lasts_retrying (fun history before => ?_) enough) fun answer => ?_
  · refine ⟨trivial, fun answer after answered => ?_⟩
    obtain ⟨-, rfl⟩ := answered
    refine ⟨Nat.le_add_right _ _, ?_⟩
    rintro rfl
    exact Nat.lt_succ_self after
  · cases answer with
    | ok value => exact lasts_done _
    | error errno =>
        dsimp only
        split
        · exact lasts_done _
        · exact lasts_perform _

theorem Launch.lasts_awaitReport
    (launch : Launch)
    (process : ProcessId)
    (reader : Descriptor)
    (enough : delays < rounds) :
    Lasts delays (launch.awaitReport rounds process reader) := by
  refine lasts_bind (lasts_readPieces reader _ enough (Nat.lt_succ_self _)) fun answer => ?_
  refine lasts_bind (lasts_of_completes (completes_dropDescriptor _)) fun _ => ?_
  split
  · exact lasts_done _
  · exact lasts_done _
  · refine lasts_bind (lasts_collectEnded process enough) fun _ => ?_
    split <;> exact lasts_done _

/-- A parent with more rounds than it can be held up does not use them up. -/
theorem Launch.lasts_superviseStart
    (launch : Launch)
    (process : ProcessId)
    (reader writer : Descriptor)
    (bindings : Bindings)
    (enough : delays < rounds) :
    Lasts delays (launch.superviseStart rounds process reader writer bindings) := by
  refine lasts_bind (lasts_of_completes (completes_dropDescriptor _)) fun _ => ?_
  refine lasts_bind (launch.lasts_awaitReport process reader enough) fun result => ?_
  refine lasts_bind (lasts_of_completes bindings.completes_closeChildEnds) fun left => ?_
  cases result with
  | ok => exact lasts_bind (lasts_perform _) fun _ => lasts_done _
  | error cause =>
      refine lasts_bind (lasts_perform _) fun _ => ?_
      exact lasts_bind (lasts_of_completes left.completes_drop) fun _ => lasts_done _

end Endurance

/-! ## Both together -/

/-- The circumstances of a parent that comes to an end. -/
abbrev guiding (process : ProcessId) (readEnd writeEnd : FileId) : Setting Side where
  answers := Side.Answers
  allows history side := Supervises process readEnd writeEnd history side.descriptors
  exhaustion := False

theorem Launch.ensures_guiding
    {process : ProcessId}
    {readEnd writeEnd : FileId}
    {reader writer : Descriptor}
    {rounds : Nat}
    {side : Side}
    (launch : Launch)
    (bindings : Bindings)
    (stands : side.descriptors.file? reader = some readEnd)
    (different : reader ≠ writer)
    (only : side.descriptors.OnlyAt writer writeEnd)
    (enough : side.delays < rounds) :
    (launch.superviseStart rounds process reader writer bindings).Ensures
      (guiding process readEnd writeEnd)
      (fun later _ outcome => launch.Concludes process later outcome) [] side := by
  exact (launch.lasts_superviseStart process reader writer bindings enough).ensures
    (launch.ensures_supervising rounds bindings process stands different only)

end ChildProcess
