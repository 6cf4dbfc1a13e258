import ChildProcess.Proofs.Spawn.Exchange

/-!
# Filling a buffer

A call that reads may be interrupted, and may be answered by fewer bytes than were asked
for.  Whoever wants a number of bytes asks again until they are there.  However the bytes
come in pieces, they are kept in order, none is lost and none is kept twice, and fewer come
back only where the end of the file has been seen.
-/

namespace ChildProcess

open Program (Runs readSome readPieces readFully)

/-- No more bytes are answered than have been asked for. -/
def Fits : Event → Prop
  | ⟨.read _ count, .ok bytes⟩ => bytes.length ≤ count
  | _ => True

/-- A call that moves some bytes. -/
def movesBytes : Event → Bool
  | ⟨.read _ _, .ok (_ :: _)⟩ | ⟨.write _ _, .ok (_ + 1)⟩ => true
  | _ => false

/-- A call after which reading goes on: it has read some bytes or was interrupted. -/
def ReadsOn (reader : Descriptor) : Event → Prop
  | ⟨.read number _, .ok (_ :: _)⟩ => number = reader
  | ⟨.read number _, .error errno⟩ => number = reader ∧ errno = Errno.EINTR
  | _ => False

/-- How reading stops after some calls: by one more call, or by none if all bytes that are
wanted are there. -/
inductive StopsReading (reader : Descriptor) (wanted : Nat) (steps : List Event) :
    List Event → Except SystemError Bytes → Prop
  | full (complete : (received steps).length = wanted) :
      StopsReading reader wanted steps [] (.ok (received steps))
  | atEnd {count : Nat} (short : (received steps).length < wanted) :
      StopsReading reader wanted steps [⟨.read reader count, .ok []⟩]
        (.ok (received steps))
  | failed {count : Nat} {errno : Errno} (short : (received steps).length < wanted)
      (notInterrupted : errno ≠ Errno.EINTR) :
      StopsReading reader wanted steps [⟨.read reader count, .error errno⟩]
        (.error (.os errno))

/-- Some calls fill a buffer for so many bytes: reading goes on after each of them but the
one by which it stops. -/
def Fills (reader : Descriptor) (wanted : Nat) (events : List Event)
    (answer : Except SystemError Bytes) : Prop :=
  ∃ steps last, events = steps ++ last ∧ (∀ event ∈ steps, ReadsOn reader event) ∧
    StopsReading reader wanted steps last answer

/-! ## Single calls -/

section Calls

variable {reader : Descriptor} {wanted : Nat} {events : List Event}

theorem movesBytes_le_received {event : Event} (readsOn : ReadsOn reader event) :
    [event].countP movesBytes ≤ (received [event]).length := by
  obtain ⟨request, answer⟩ := event
  cases request with
  | read number count =>
      rcases answer with errno | (_ | ⟨byte, rest⟩)
      · exact Nat.zero_le _
      · exact readsOn.elim
      · simp [received, movesBytes]
  | _ => exact readsOn.elim

/-- Every call that moves bytes adds at least one. -/
theorem countP_movesBytes_le_received (readsOn : ∀ event ∈ events, ReadsOn reader event) :
    events.countP movesBytes ≤ (received events).length := by
  induction events with
  | nil => exact le_rfl
  | cons event events inductionHypothesis =>
      obtain ⟨first, others⟩ := List.forall_mem_cons.mp readsOn
      have more := movesBytes_le_received first
      have rest := inductionHypothesis others
      change ([event] ++ events).countP movesBytes ≤ (received ([event] ++ events)).length
      rw [List.countP_append, received_append, List.length_append]
      exact Nat.add_le_add more rest

end Calls

/-! ## What filling a buffer comes to -/

namespace Fills

variable {reader : Descriptor} {wanted : Nat} {events : List Event}
variable {answer : Except SystemError Bytes} {bytes : Bytes}

/-- What comes back is what the calls have read, in order. -/
theorem received_eq (fills : Fills reader wanted events (.ok bytes)) :
    received events = bytes := by
  obtain ⟨steps, last, rfl, -, stops⟩ := fills
  rw [received_append]
  cases stops with
  | full => exact List.append_nil _
  | atEnd => exact List.append_nil _

/-- Where reading fails only for an interruption, everything that is read comes back. -/
theorem eq_ok_received
    (fills : Fills reader wanted events answer)
    (interrupted : ∀ number count errno,
      (⟨.read number count, .error errno⟩ : Event) ∈ events → errno = Errno.EINTR) :
    answer = .ok (ChildProcess.received events) := by
  cases answer with
  | ok bytes => rw [fills.received_eq]
  | error cause =>
      obtain ⟨steps, last, rfl, -, stops⟩ := fills
      cases stops with
      | @failed count errno short notInterrupted =>
          refine absurd (interrupted reader count errno ?_) notInterrupted
          exact List.mem_append_right steps (List.mem_singleton_self _)

theorem length_received_le (fills : Fills reader wanted events answer) :
    (received events).length ≤ wanted := by
  obtain ⟨steps, last, rfl, -, stops⟩ := fills
  rw [received_append, List.length_append]
  cases stops with
  | full complete => exact complete.le
  | atEnd short => exact short.le
  | failed short => exact short.le

/-- Fewer bytes than are wanted come back only at the end of the file. -/
theorem endSeen
    (fills : Fills reader wanted events (.ok bytes))
    (short : bytes.length < wanted) :
    EndSeen events := by
  obtain ⟨steps, last, rfl, -, stops⟩ := fills
  cases stops with
  | full complete => exact absurd complete short.ne
  | atEnd => exact ⟨reader, _, List.mem_append_right _ (List.mem_singleton_self _)⟩

/-- No more calls than bytes that are wanted move any. -/
theorem countP_movesBytes_le (fills : Fills reader wanted events answer) :
    events.countP movesBytes ≤ wanted := by
  have length := fills.length_received_le
  obtain ⟨steps, last, rfl, readsOn, stops⟩ := fills
  have progress := countP_movesBytes_le_received readsOn
  rw [received_append, List.length_append] at length
  have nothing : last.countP movesBytes = 0 := by cases stops <;> rfl
  rw [List.countP_append, nothing]
  omega

end Fills

/-! ## Reading -/

/-- After some calls a buffer holds these bytes, and reading goes on. -/
structure IsFilling (reader : Descriptor) (wanted : Nat) (bytes : Bytes)
    (events : List Event) : Prop where
  readsOn : ∀ event ∈ events, ReadsOn reader event
  received : received events = bytes
  fits : bytes.length ≤ wanted

theorem IsFilling.concat
    {reader : Descriptor}
    {wanted : Nat}
    {bytes piece : Bytes}
    {events : List Event}
    {event : Event}
    (isFilling : IsFilling reader wanted bytes events)
    (readsOn : ReadsOn reader event)
    (isPiece : ChildProcess.received [event] = piece)
    (fits : bytes.length + piece.length ≤ wanted) :
    IsFilling reader wanted (bytes ++ piece) (events ++ [event]) where
  readsOn := by
    intro earlier isMember
    rcases List.mem_append.mp isMember with isEarlier | isLast
    · exact isFilling.readsOn earlier isEarlier
    · rwa [List.mem_singleton.mp isLast]
  received := by rw [received_append, isFilling.received, isPiece]
  fits := by rwa [List.length_append]

section Reading

variable {σ : Type} {answers : System σ} {state : σ}

theorem ensures_readSome_fills
    {wanted : Nat}
    {reader : Descriptor}
    {bytes : Bytes}
    {history : List Event}
    (fits : ∀ state number count bytes next,
      answers state (.read number count) (.ok bytes) next → bytes.length ≤ count)
    (rounds : Nat)
    (isFilling : IsFilling reader wanted bytes history)
    (short : bytes.length < wanted) :
    (readSome rounds reader (wanted - bytes.length)).Ensures { answers }
      (fun later _ answer =>
        match answer with
        | .error cause => Fills reader wanted later (.error cause)
        | .ok [] => Fills reader wanted later (.ok bytes)
        | .ok (byte :: rest) => IsFilling reader wanted (bytes ++ byte :: rest) later)
      history state := by
  rw [readSome, Program.ensures_bind]
  refine Program.ensures_retrying (fun later _ => IsFilling reader wanted bytes later)
    trivial ?_ rounds isFilling
  intro later between isFilling
  obtain rfl := isFilling.received
  refine ⟨trivial, fun answer after answered => ⟨?_, fun finished => ?_⟩⟩
  · rintro rfl
    let event : Event :=
      ⟨.read reader (wanted - (received later).length), .error Errno.EINTR⟩
    have readsOn : ReadsOn reader event := ⟨rfl, rfl⟩
    have nothing : received [event] = [] := rfl
    have interrupted := isFilling.concat readsOn nothing isFilling.fits
    rwa [List.append_nil] at interrupted
  · rcases answer with errno | (_ | ⟨byte, rest⟩)
    · exact ⟨later, _, rfl, isFilling.readsOn,
        .failed short fun same => finished (congrArg _ same)⟩
    · exact ⟨later, _, rfl, isFilling.readsOn, .atEnd short⟩
    · have pieceFits : (byte :: rest).length ≤ wanted - (received later).length :=
        fits _ _ _ _ _ answered
      have readsOn : ReadsOn reader
          ⟨.read reader (wanted - (received later).length), .ok (byte :: rest)⟩ := rfl
      exact isFilling.concat readsOn (List.append_nil _) (by omega)

/-- However the calls are answered, as long as the answers fit, pieces are read until the
buffer is full or reading stops. -/
theorem ensures_readPieces_fills
    (fits : ∀ state number count bytes next,
      answers state (.read number count) (.ok bytes) next → bytes.length ≤ count)
    (rounds pieces : Nat)
    (reader : Descriptor)
    (wanted : Nat)
    (state : σ) :
    (readPieces (readSome rounds reader) pieces wanted).Ensures { answers }
      (fun later _ answer => Fills reader wanted later answer) [] state := by
  refine Program.ensures_readPieces (fun bytes later _ => IsFilling reader wanted bytes later)
    ?_ ?_ (.inl trivial) ⟨List.forall_mem_nil _, rfl, Nat.zero_le _⟩
  · intro bytes later _ isFilling complete
    have isWhole := Nat.le_antisymm isFilling.fits complete
    obtain rfl := isFilling.received
    exact ⟨later, [], (List.append_nil later).symm, isFilling.readsOn, .full isWhole⟩
  · intro bytes earlier between isFilling short
    exact ensures_readSome_fills fits rounds isFilling short

/-- Whatever fits is answered, reading fills a buffer. -/
theorem fills_of_runs_readFully
    {rounds count : Nat}
    {reader : Descriptor}
    {events : List Event}
    {answer : Except SystemError Bytes}
    {after : σ}
    (runs : Runs (answers.only Fits) (readFully rounds reader count) state events
      (.done answer) after) :
    Fills reader count events answer := by
  have fits : ∀ state number count bytes next,
      answers.only Fits state (.read number count) (.ok bytes) next → bytes.length ≤ count :=
    fun _ _ _ _ _ => And.right
  exact (ensures_readPieces_fills fits rounds (count + 1) reader count state).of_runs runs

end Reading
end ChildProcess
