import ChildProcess.Proofs.Descriptors.Names
import Mathlib.Data.List.Basic
import Mathlib.Data.List.TakeWhile

/-!
# Reading the directory of descriptors

Names in the directory of descriptors are decimal numbers.  Reading such a name gives
its number back, and going through whole records at the front of a buffer finds
exactly the numbers that they name, whatever the rest of the buffer holds.
-/

namespace ChildProcess
namespace DirectoryRecord

/-! ## Records -/

theorem length?_of_isRecord
    {record name : Bytes}
    (isRecord : IsRecord record name)
    (earlier later : Bytes) :
    length? (earlier ++ (record ++ later)) earlier.length = some record.length := by
  obtain ⟨front, low, high, kind, padding, frontLength, shape, isLength⟩ := isRecord.shape
  have behind : (earlier ++ (record ++ later)).drop (earlier.length + lengthOffset) =
      low :: high :: kind :: (name ++ (List.replicate (padding + 1) 0 ++ later)) := by
    rw [shape, ← frontLength, ← List.length_append]
    simp
  rw [length?, behind, ← isLength]

theorem nameOffset_lt_length
    {record name : Bytes}
    (isRecord : IsRecord record name) :
    nameOffset < record.length := by
  obtain ⟨front, low, high, kind, padding, frontLength, shape, -⟩ := isRecord.shape
  rw [lengthOffset] at frontLength
  simp only [shape, nameOffset, List.length_append, List.length_cons,
    List.length_replicate]
  omega

theorem name?_of_isRecord
    {record name : Bytes}
    (isRecord : IsRecord record name)
    (earlier later : Bytes) :
    ∃ padding,
      name? (earlier ++ (record ++ later)) earlier.length record.length =
        some (name ++ List.replicate padding 0) := by
  obtain ⟨front, low, high, kind, padding, frontLength, shape, -⟩ := isRecord.shape
  refine ⟨padding + 1, ?_⟩
  have fits : nameOffset ≤ record.length ∧
      earlier.length + record.length ≤ (earlier ++ (record ++ later)).length := by
    refine ⟨(nameOffset_lt_length isRecord).le, ?_⟩
    simp only [List.length_append]
    omega
  have parts : earlier ++ (record ++ later) =
      (earlier ++ (front ++ [low, high, kind])) ++
        ((name ++ List.replicate (padding + 1) 0) ++ later) := by
    rw [shape]
    simp
  have before : earlier.length + nameOffset =
      (earlier ++ (front ++ [low, high, kind])).length := by
    simp [frontLength, nameOffset, lengthOffset]
  have within : record.length - nameOffset =
      (name ++ List.replicate (padding + 1) 0).length := by
    rw [shape]
    simp only [List.length_append, List.length_cons, frontLength, lengthOffset,
      nameOffset]
    omega
  rw [name?, if_pos fits, parts, before, within, List.drop_left, List.take_left]

@[simp] theorem descriptors_nil : descriptors [] 0 0 = [] := by
  rw [descriptors, if_neg (Nat.lt_irrefl 0)]

/-- Going through whole records in a buffer finds what their names stand for. -/
theorem descriptors_of_areRecords
    {records : Bytes}
    {names : List Bytes}
    (areRecords : AreRecords records names)
    (earlier later : Bytes) :
    descriptors (earlier ++ (records ++ later)) (earlier ++ records).length
        earlier.length =
      names.filterMap descriptor? := by
  induction areRecords generalizing earlier with
  | nil =>
      rw [descriptors, if_neg (by simp)]
      rfl
  | @cons record name records names first rest inductionHypothesis =>
      have others := inductionHypothesis (earlier ++ record)
      obtain ⟨padding, isName⟩ := name?_of_isRecord first earlier (records ++ later)
      have isLength := length?_of_isRecord first earlier (records ++ later)
      have positive : 0 < record.length :=
        (Nat.zero_le _).trans_lt (nameOffset_lt_length first)
      obtain ⟨count, isCount⟩ := Nat.exists_eq_succ_of_ne_zero positive.ne'
      have within : earlier.length < (earlier ++ (record ++ records)).length := by
        simp only [List.length_append]
        omega
      have behind : (earlier ++ record).length = earlier.length + (count + 1) := by
        rw [List.length_append, isCount]
      rw [behind, List.append_assoc, List.append_assoc] at others
      rw [isCount] at isLength isName
      rw [List.append_assoc record, descriptors, if_pos within, isLength]
      dsimp only
      rw [isName, Option.bind_some, descriptor?_append_replicate first.nulFree, others]
      cases named : descriptor? name with
      | none => rw [List.filterMap_cons_none named, Option.toList_none, List.nil_append]
      | some number =>
          rw [List.filterMap_cons_some named, Option.toList_some, List.singleton_append]

/-! ## Records that are written -/

@[simp] theorem length_littleEndian (count number : Nat) :
    (littleEndian count number).length = count := by
  induction count generalizing number with
  | zero => rfl
  | succ count inductionHypothesis => simp [littleEndian, inductionHypothesis]

theorem lengthOf_lt (name : Bytes) : nameOffset + name.length < lengthOf name := by
  simp only [lengthOf, nameOffset]
  omega

theorem length_encode (position : Nat) (name : Bytes) :
    (encode position name).length = lengthOf name := by
  have long := lengthOf_lt name
  simp only [encode, List.length_append, length_littleEndian, List.length_replicate,
    List.length_singleton, nameOffset] at long ⊢
  omega

theorem isRecord_encode
    {name : Bytes}
    (nulFree : 0 ∉ name)
    (fits : lengthOf name < 65536)
    (position : Nat) :
    IsRecord (encode position name) name where
  nulFree := nulFree
  shape := by
    refine ⟨littleEndian 8 0 ++ littleEndian 8 (position + 1),
      UInt8.ofNat (lengthOf name % 256), UInt8.ofNat (lengthOf name / 256 % 256), 0,
      lengthOf name - (nameOffset + name.length) - 1, by simp [lengthOffset], ?_, ?_⟩
    · have padded : lengthOf name - (nameOffset + name.length) - 1 + 1 =
          lengthOf name - (nameOffset + name.length) := by
        have long := lengthOf_lt name
        omega
      have front : (littleEndian 8 0 ++ littleEndian 8 (position + 1)
          ++ littleEndian 2 (lengthOf name) ++ [0] ++ name).length =
            nameOffset + name.length := by
        simp only [List.length_append, length_littleEndian, List.length_singleton,
          nameOffset]
      rw [encode, front, padded]
      simp [littleEndian]
    · rw [length_encode, UInt8.toNat_ofNat', UInt8.toNat_ofNat']
      omega

theorem areRecords_encode
    {names : List Bytes}
    (position : Nat)
    (areNames : ∀ name ∈ names, 0 ∉ name ∧ lengthOf name < 65536) :
    AreRecords (names.flatMap (encode position)) names := by
  induction names with
  | nil => exact .nil
  | cons name rest inductionHypothesis =>
      rw [List.forall_mem_cons] at areNames
      exact .cons (isRecord_encode areNames.1.1 areNames.1.2 position)
        (inductionHypothesis areNames.2)

end DirectoryRecord

namespace Descriptors

section Lists

variable {descriptors : Descriptors} {first next : Descriptor} {records : Bytes}

/-- The rest of a buffer does not matter to what is found in a listing at its front. -/
theorem Lists.descriptors_append
    (lists : descriptors.Lists first records next)
    (later : Bytes) :
    DirectoryRecord.descriptors (records ++ later) records.length 0 =
      DirectoryRecord.descriptors records records.length 0 := by
  obtain ⟨dots, numbers, areRecords, -⟩ := lists
  have found := DirectoryRecord.descriptors_of_areRecords areRecords [] later
  have alone := DirectoryRecord.descriptors_of_areRecords areRecords [] []
  rw [List.append_nil] at alone
  exact found.trans alone.symm

/-- What is found in a listing. -/
theorem Lists.mem_descriptors_iff
    (lists : descriptors.Lists first records next)
    (number : Descriptor) :
    number ∈ DirectoryRecord.descriptors records records.length 0 ↔
      first ≤ number ∧ number < next ∧ descriptors.IsOpen number := by
  obtain ⟨dots, numbers, areRecords, areDots, areOpen, areAll, -⟩ := lists
  have found := DirectoryRecord.descriptors_of_areRecords areRecords [] []
  rw [List.append_nil, List.nil_append, List.length_nil] at found
  have noDots : dots.filterMap DirectoryRecord.descriptor? = [] :=
    List.filterMap_eq_nil_iff.mpr fun name isMember =>
      DirectoryRecord.descriptor?_of_mem_dots (areDots name isMember)
  have named : (numbers.map DirectoryRecord.nameOf).filterMap
      DirectoryRecord.descriptor? = numbers := by
    rw [List.filterMap_map]
    refine (List.filterMap_congr fun listed isMember => ?_).trans List.filterMap_some
    have inRange := descriptors.inRange listed (areOpen listed isMember).2.2
    exact DirectoryRecord.descriptor?_nameOf inRange.1 inRange.2
  rw [found, List.filterMap_append, noDots, named, List.nil_append]
  exact ⟨fun isMember => areOpen number isMember,
    fun ⟨low, high, isOpen⟩ => areAll number low high isOpen⟩

end Lists

end Descriptors
end ChildProcess

