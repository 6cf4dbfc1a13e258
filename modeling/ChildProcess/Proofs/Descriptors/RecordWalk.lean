import ChildProcess.Proofs.Descriptors.Closing
import ChildProcess.Proofs.Descriptors.Names

/-!
# Going through records

The records of a directory are gone through by their own lengths, whatever the buffer
holds.  `Look` is one round of this, and `walk` goes the same way without knowing more of
the buffer than its size: it fetches single bytes, and never one from outside.  Each look
lies behind the one before, so that there are no more of them than bytes; in a row of
whole records there is one look at each.
-/

namespace ChildProcess
namespace DirectoryRecord

/-! ## Looks -/

/-- A look at a record: where it starts, and the bytes for its name if they lie within
the buffer. -/
structure Look where
  offset : Nat
  name? : Option Bytes

/-- The looks at the records from an offset up to a limit. -/
def looks (buffer : Bytes) (limit offset : Nat) : List Look :=
  if offset < limit then
    match length? buffer offset with
    | none | some 0 => []
    | some (length + 1) =>
        ⟨offset, name? buffer offset (length + 1)⟩ ::
          looks buffer limit (offset + (length + 1))
  else []
  termination_by limit - offset

theorem looks_eq_cons
    {buffer : Bytes}
    {limit offset length : Nat}
    (within : offset < limit)
    (isLength : length? buffer offset = some length)
    (positive : 0 < length) :
    looks buffer limit offset =
      ⟨offset, name? buffer offset length⟩ :: looks buffer limit (offset + length) := by
  obtain ⟨count, rfl⟩ := Nat.exists_eq_succ_of_ne_zero positive.ne'
  rw [looks, if_pos within, isLength]

/-- The descriptors that are found are those in the names that have been looked at. -/
theorem descriptors_eq_filterMap_looks (buffer : Bytes) (limit offset : Nat) :
    descriptors buffer limit offset =
      (looks buffer limit offset).filterMap fun look => look.name?.bind descriptor? := by
  induction offset using looks.induct buffer limit with
  | case1 offset within isLength => simp [descriptors, looks, within, isLength]
  | case2 offset within isLength => simp [descriptors, looks, within, isLength]
  | case3 offset within length isLength inductionHypothesis =>
      rw [descriptors, if_pos within, looks_eq_cons within isLength length.succ_pos,
        isLength]
      dsimp only
      rw [inductionHypothesis, List.filterMap_cons]
      cases (name? buffer offset (length + 1)).bind descriptor? <;> rfl
  | case4 offset behind => simp [descriptors, looks, behind]

/-- Looks go forward up to the limit. -/
theorem pairwise_looks (buffer : Bytes) (limit offset : Nat) :
    (looks buffer limit offset).Pairwise (·.offset < ·.offset) ∧
      ∀ look ∈ looks buffer limit offset, offset ≤ look.offset ∧ look.offset < limit := by
  induction offset using looks.induct buffer limit with
  | case1 offset within isLength => simp [looks, within, isLength]
  | case2 offset within isLength => simp [looks, within, isLength]
  | case3 offset within length isLength inductionHypothesis =>
      obtain ⟨goesForward, bounds⟩ := inductionHypothesis
      rw [looks_eq_cons within isLength length.succ_pos, List.pairwise_cons,
        List.forall_mem_cons]
      refine ⟨⟨fun look isMember => ?_, goesForward⟩, ⟨le_rfl, within⟩, fun look isMember => ?_⟩
      · have bound := bounds look isMember
        show offset < look.offset
        omega
      · have bound := bounds look isMember
        omega
  | case4 offset behind => simp [looks, behind]

theorem length_looks_le (buffer : Bytes) (limit offset : Nat) :
    (looks buffer limit offset).length ≤ limit - offset := by
  induction offset using looks.induct buffer limit with
  | case1 offset within isLength => simp [looks, within, isLength]
  | case2 offset within isLength => simp [looks, within, isLength]
  | case3 offset within length isLength inductionHypothesis =>
      rw [looks_eq_cons within isLength length.succ_pos, List.length_cons,
        Nat.succ_eq_add_one]
      omega
  | case4 offset behind => simp [looks, behind]

/-! ## Fetching bytes -/

end DirectoryRecord

/-- A computation that fetches bytes by their positions and goes on with each. -/
inductive Fetching (α : Type) : Type
  | done (value : α)
  | fetch (position : Nat) (resume : UInt8 → Fetching α)

namespace Fetching

variable {α β : Type}

def bind : Fetching α → (α → Fetching β) → Fetching β
  | .done value, next => next value
  | .fetch position resume, next =>
      .fetch position fun byte => (resume byte).bind next

instance : Monad Fetching where
  pure := .done
  bind := bind

/-- The result with the bytes of a buffer.  There is none if a byte is fetched from
outside of it. -/
def run? (buffer : Bytes) : Fetching α → Option α
  | .done value => some value
  | .fetch position resume =>
      buffer[position]?.bind fun byte => (resume byte).run? buffer

theorem run?_pure (buffer : Bytes) (value : α) :
    (pure value : Fetching α).run? buffer = some value := rfl

theorem run?_bind (buffer : Bytes) (first : Fetching α) (next : α → Fetching β) :
    (first >>= next).run? buffer =
      (first.run? buffer).bind fun value => (next value).run? buffer := by
  induction first with
  | done value => rfl
  | fetch position resume inductionHypothesis =>
      show (buffer[position]?.bind fun byte => (resume byte >>= next).run? buffer) =
        (buffer[position]?.bind fun byte => (resume byte).run? buffer).bind _
      rw [Option.bind_assoc]
      exact Option.bind_congr fun byte _ => inductionHypothesis byte

/-- So many bytes from a position on. -/
def many : Nat → Nat → Fetching Bytes
  | _, 0 => pure []
  | position, count + 1 =>
      .fetch position fun byte => do
        let rest ← many (position + 1) count
        pure (byte :: rest)

/-- The bytes of a range, which is to lie within so many bytes. -/
def range? (size start stop : Nat) : Fetching (Option Bytes) :=
  if start ≤ stop ∧ stop ≤ size then do
    let bytes ← many start (stop - start)
    pure (some bytes)
  else pure none

theorem run?_many
    {buffer : Bytes}
    {position count : Nat}
    (inside : position + count ≤ buffer.length) :
    (many position count).run? buffer = some ((buffer.drop position).take count) := by
  induction count generalizing position with
  | zero => simp [many, run?_pure]
  | succ count inductionHypothesis =>
      have isByte : position < buffer.length := by omega
      rw [many, run?, List.getElem?_eq_getElem isByte, Option.bind_some, run?_bind,
        inductionHypothesis (by omega), List.drop_eq_getElem_cons isByte,
        List.take_succ_cons]
      rfl

/-- The bytes of a range of a buffer, if it is one. -/
def part? (buffer : Bytes) (start stop : Nat) : Option Bytes :=
  if start ≤ stop ∧ stop ≤ buffer.length then
    some ((buffer.drop start).take (stop - start))
  else none

theorem run?_range? (buffer : Bytes) (start stop : Nat) :
    (range? buffer.length start stop).run? buffer = some (part? buffer start stop) := by
  unfold range? part?
  split
  · next inside =>
    rw [run?_bind, run?_many (by omega)]
    rfl
  · rfl

end Fetching

namespace DirectoryRecord

/-- Go through the records in a buffer of some size, fetching what is looked at. -/
def walk (size limit offset : Nat) : Fetching (List Look) :=
  if offset < limit then do
    match ← Fetching.range? size (offset + lengthOffset) (offset + lengthOffset + 2) with
    | some [low, high] =>
        match low.toNat + 256 * high.toNat with
        | 0 => pure []
        | length + 1 =>
            let name? ← Fetching.range? size (offset + nameOffset) (offset + (length + 1))
            let others ← walk size limit (offset + (length + 1))
            pure (⟨offset, name?⟩ :: others)
    | _ => pure []
  else pure []
  termination_by limit - offset

theorem length?_eq_some_iff {buffer : Bytes} {offset length : Nat} :
    length? buffer offset = some length ↔
      ∃ low high,
        Fetching.part? buffer (offset + lengthOffset) (offset + lengthOffset + 2) =
            some [low, high] ∧
          low.toNat + 256 * high.toNat = length := by
  have isLength : (buffer.drop (offset + lengthOffset)).length =
      buffer.length - (offset + lengthOffset) := List.length_drop
  have inside : offset + lengthOffset ≤ offset + lengthOffset + 2 := Nat.le_add_right _ 2
  unfold length? Fetching.part?
  rw [Nat.add_sub_cancel_left]
  rcases rest : buffer.drop (offset + lengthOffset) with _ | ⟨low, _ | ⟨high, more⟩⟩
  · simp
  · simp
  · rw [rest, List.length_cons, List.length_cons] at isLength
    rw [if_pos ⟨inside, by omega⟩]
    simp

theorem name?_eq (buffer : Bytes) (offset length : Nat) :
    name? buffer offset length =
      Fetching.part? buffer (offset + nameOffset) (offset + length) := by
  unfold name? Fetching.part?
  simp only [Nat.add_le_add_iff_left, Nat.add_sub_add_left]

/-- Walking makes the looks without fetching a byte from outside of the buffer. -/
theorem run?_walk (buffer : Bytes) (limit offset : Nat) :
    (walk buffer.length limit offset).run? buffer = some (looks buffer limit offset) := by
  induction offset using looks.induct buffer limit with
  | case1 offset within isLength =>
      -- Without a length the bytes for it do not all lie within the buffer.
      rw [walk, looks, if_pos within, if_pos within, isLength, Fetching.run?_bind,
        Fetching.run?_range?, Option.bind_some]
      split
      · next low high isPart =>
        have isSome := length?_eq_some_iff.mpr ⟨low, high, isPart, rfl⟩
        rw [isLength] at isSome
        cases isSome
      · rfl
  | case2 offset within isLength =>
      obtain ⟨low, high, isPart, isZero⟩ := length?_eq_some_iff.mp isLength
      rw [walk, looks, if_pos within, if_pos within, isLength, Fetching.run?_bind,
        Fetching.run?_range?, Option.bind_some, isPart]
      dsimp only
      rw [isZero]
      rfl
  | case3 offset within length isLength inductionHypothesis =>
      obtain ⟨low, high, isPart, isNumber⟩ := length?_eq_some_iff.mp isLength
      rw [walk, looks, if_pos within, if_pos within, isLength, Fetching.run?_bind,
        Fetching.run?_range?, Option.bind_some, isPart]
      dsimp only
      rw [isNumber]
      dsimp only
      rw [Fetching.run?_bind, Fetching.run?_range?, Option.bind_some, ← name?_eq,
        Fetching.run?_bind, inductionHypothesis]
      rfl
  | case4 offset behind =>
      rw [walk, looks, if_neg behind, if_neg behind]
      rfl

/-! ## Whole records -/

/-- Where records in a row start, the first one at an offset. -/
def starts : Nat → List Bytes → List Nat
  | _, [] => []
  | offset, record :: records => offset :: starts (offset + record.length) records

theorem areRecords_flatten
    {records names : List Bytes}
    (areRecords : List.Forall₂ IsRecord records names) :
    AreRecords records.flatten names := by
  induction areRecords with
  | nil => exact .nil
  | cons first rest inductionHypothesis => exact .cons first inductionHypothesis

/-- There is one look at each of the records in a row. -/
theorem map_offset_looks
    {records names : List Bytes}
    (areRecords : List.Forall₂ IsRecord records names)
    (earlier later : Bytes) :
    (looks (earlier ++ (records.flatten ++ later)) (earlier ++ records.flatten).length
        earlier.length).map Look.offset =
      starts earlier.length records := by
  induction areRecords generalizing earlier with
  | nil =>
      rw [looks, if_neg (by simp)]
      rfl
  | @cons record name records names first rest inductionHypothesis =>
      have isLength := length?_of_isRecord first earlier (records.flatten ++ later)
      have positive : 0 < record.length :=
        (Nat.zero_le _).trans_lt (nameOffset_lt_length first)
      have within : earlier.length < (earlier ++ (record ++ records.flatten)).length := by
        rw [List.length_append, List.length_append]
        omega
      have behind : (earlier ++ record).length = earlier.length + record.length :=
        List.length_append
      -- The record that has been looked at joins those before.
      have others := inductionHypothesis (earlier ++ record)
      rw [behind, List.append_assoc, List.append_assoc] at others
      rw [List.flatten_cons, List.append_assoc, looks_eq_cons within isLength positive,
        List.map_cons, others, starts]

theorem exists_isRecord_of_forall₂
    {records names : List Bytes}
    (areRecords : List.Forall₂ IsRecord records names)
    {name : Bytes}
    (isMember : name ∈ names) :
    ∃ record, IsRecord record name := by
  induction areRecords with
  | nil => cases isMember
  | cons first rest inductionHypothesis =>
      rcases List.mem_cons.mp isMember with rfl | isMember
      · exact ⟨_, first⟩
      · exact inductionHypothesis isMember

/-- The length of a record has two bytes, so that there are few in its name. -/
theorem length_lt_of_isRecord
    {record name : Bytes}
    (isRecord : IsRecord record name) :
    name.length < 2 ^ 31 := by
  obtain ⟨front, low, high, kind, padding, -, shape, isLength⟩ := isRecord.shape
  have lowBound := low.toNat_lt
  have highBound := high.toNat_lt
  have shorter : name.length ≤ record.length := by
    simp only [shape, List.length_append, List.length_cons]
    omega
  omega

/-- The name of a record is read as its decimal number. -/
theorem descriptor?_eq_some_iff_of_isRecord
    {record name : Bytes}
    (isRecord : IsRecord record name)
    {descriptor : Descriptor} :
    descriptor? name = some descriptor ↔ IsDecimal name descriptor := by
  have isFront := front_eq_self isRecord.nulFree
  have counts : ¬CountOverflows name :=
    not_countOverflows_of_length_lt (isFront.symm ▸ length_lt_of_isRecord isRecord)
  rw [descriptor?_eq_some_iff_of_not_countOverflows counts, isFront]

end DirectoryRecord

namespace Descriptors

open DirectoryRecord (IsDecimal IsRecord Look looks starts walk)

/-! ## Closing what is named -/

/-- The circumstances in which anything may be answered, but nothing may be done except
closing some numbers one after another and coming to an end. -/
abbrev closingInTurn (numbers : List Descriptor) : Setting Unit where
  answers := anything
  allows history _ request :=
    ∃ number later, numbers = closedNumbers history ++ number :: later ∧
      request = .close number
  exhaustion := False

theorem closesInTurn_closeEach
    {numbers left : List Descriptor}
    {history : List Event}
    (parts : numbers = closedNumbers history ++ left) :
    (Inherited.closeEach left).Ensures (closingInTurn numbers)
      (fun later _ _ => closedNumbers later = numbers) history () := by
  induction left generalizing history with
  | nil => exact (parts.trans (List.append_nil _)).symm
  | cons number rest inductionHypothesis =>
      refine ⟨⟨number, rest, parts, rfl⟩, fun answer _ _ => inductionHypothesis ?_⟩
      have isClosed : closedNumbers [⟨.close number, answer⟩] = [number] := rfl
      rw [closedNumbers_append, isClosed, List.append_assoc, List.singleton_append, parts]

/-- The calls of a scan that spares what it is to spare. -/
def listsOrCloses (first keep directory : Descriptor) : Call → Prop
  | .directoryRecords number size => number = directory ∧ size = Inherited.bufferSize
  | .close number => first ≤ number ∧ number ≠ keep ∧ number ≠ directory
  | _ => False

/-- How a batch of records, of which nothing is known but that it fills the front of a
buffer up to a limit, is gone through to close some numbers. -/
structure GoesThrough (buffer : Bytes) (limit : Nat) (first keep directory : Descriptor)
    (closed : List Descriptor) : Prop where
  /-- What is looked at is fetched from within the buffer. -/
  staysInside : (walk buffer.length limit 0).run? buffer = some (looks buffer limit 0)
  /-- Each look lies behind the one before. -/
  goesForward : (looks buffer limit 0).Pairwise (·.offset < ·.offset)
  ends : (looks buffer limit 0).length ≤ limit
  /-- What is closed is named where it has been looked. -/
  named :
    closed = ((looks buffer limit 0).filterMap fun look =>
      look.name?.bind DirectoryRecord.descriptor?).filter (selects first keep directory)
  spares (number : Descriptor) :
    number ∈ closed → first ≤ number ∧ number ≠ keep ∧ number ≠ directory
  /-- Whatever closing is answered, each number is closed once and then the batch is done
  with. -/
  closes :
    (Inherited.closeEach closed).Ensures (closingInTurn closed)
      (fun events _ _ => closedNumbers events = closed) [] ()
  /-- If the batch is a row of whole records, each is looked at once, and what their names
  are the numbers of is closed. -/
  wholeRecords (records names : List Bytes) (rest : Bytes) :
    List.Forall₂ IsRecord records names → buffer = records.flatten ++ rest →
      limit = records.flatten.length →
        (looks buffer limit 0).map Look.offset = starts 0 records ∧
          ∀ number, number ∈ closed ↔
            (∃ name ∈ names, IsDecimal name number) ∧
              first ≤ number ∧ number ≠ keep ∧ number ≠ directory

theorem mem_filter_selects_iff
    {first keep directory number : Descriptor}
    {numbers : List Descriptor} :
    number ∈ numbers.filter (selects first keep directory) ↔
      number ∈ numbers ∧ first ≤ number ∧ number ≠ keep ∧ number ≠ directory := by
  simp [selects, and_assoc]

/-- A number is found in whole records if it is one of their names. -/
theorem mem_descriptors_iff_of_forall₂
    {records names : List Bytes}
    (areRecords : List.Forall₂ IsRecord records names)
    (rest : Bytes)
    (number : Descriptor) :
    number ∈ DirectoryRecord.descriptors (records.flatten ++ rest) records.flatten.length 0 ↔
      ∃ name ∈ names, IsDecimal name number := by
  have found : DirectoryRecord.descriptors (records.flatten ++ rest)
      records.flatten.length 0 = names.filterMap DirectoryRecord.descriptor? :=
    DirectoryRecord.descriptors_of_areRecords
      (DirectoryRecord.areRecords_flatten areRecords) [] rest
  rw [found, List.mem_filterMap]
  refine exists_congr fun name => and_congr_right fun isMember => ?_
  obtain ⟨record, isRecord⟩ := DirectoryRecord.exists_isRecord_of_forall₂ areRecords isMember
  exact DirectoryRecord.descriptor?_eq_some_iff_of_isRecord isRecord

theorem goesThrough_batch
    (buffer : Bytes)
    (limit : Nat)
    (first keep directory : Descriptor) :
    GoesThrough buffer limit first keep directory
      ((DirectoryRecord.descriptors buffer limit 0).filter
        (selects first keep directory)) where
  staysInside := DirectoryRecord.run?_walk buffer limit 0
  goesForward := (DirectoryRecord.pairwise_looks buffer limit 0).1
  ends := DirectoryRecord.length_looks_le buffer limit 0
  named := by rw [DirectoryRecord.descriptors_eq_filterMap_looks]
  spares _ isMember := (mem_filter_selects_iff.mp isMember).2
  closes := closesInTurn_closeEach rfl
  wholeRecords records names rest areRecords isBuffer isLimit := by
    subst isBuffer isLimit
    refine ⟨DirectoryRecord.map_offset_looks areRecords [] rest, fun number => ?_⟩
    rw [mem_filter_selects_iff, mem_descriptors_iff_of_forall₂ areRecords]

/-- Whatever fills the front of the buffer, what a scan closes on its account comes from
going through it, after which the scan goes on with the next batch; and in no batch does a
scan close what it is to spare. -/
theorem goesThrough_closeListed
    (first keep directory : Descriptor)
    (rounds : Nat)
    (buffer : Bytes)
    (byte : UInt8)
    (bytes : Bytes) :
    let batch := byte :: bytes
    let filled := batch ++ buffer.drop batch.length
    let scan := Inherited.closeListed first keep directory
    (scan (rounds + 1) buffer).Makes (listsOrCloses first keep directory) ∧
      ∃ closed,
        GoesThrough filled batch.length first keep directory closed ∧
          Program.Runs anything (scan (rounds + 1) buffer) ()
            [⟨.directoryRecords directory Inherited.bufferSize, .ok batch⟩]
            (Inherited.closeEach closed >>= fun _ => scan rounds filled) () := by
  intro batch filled scan
  refine ⟨makes_closeListed (fun _ low notKept notDirectory => ⟨low, notKept, notDirectory⟩)
    ⟨rfl, rfl⟩ _ _, _, goesThrough_batch filled batch.length first keep directory, ?_⟩
  exact .call trivial (.stop _ _)

end Descriptors
end ChildProcess
