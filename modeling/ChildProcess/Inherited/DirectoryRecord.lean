import ChildProcess.Launch

/-!
# Records of a directory

The operating system lists a directory as records in a buffer: the length of the
record in two bytes at offset 16, and from offset 19 to its end the name of the
entry with zero bytes behind it. The names in the directory of a process's
descriptors are numbers.
-/

namespace ChildProcess
namespace DirectoryRecord

/-- Where the length of a record stands. -/
def lengthOffset : Nat := 16

/-- Where the name of a record starts. -/
def nameOffset : Nat := 19

/-- The greatest number of a descriptor. -/
def maxDescriptor : Nat := 2147483647

/-- What has been read of a name: a number and how many digits it has, both in words of
32 bits. -/
structure Reading where
  number : Int32
  digits : Int32
  deriving DecidableEq, Repr, Inhabited

/-- The word that stands for a number, if there is one. -/
def word? (number : Int) : Option Int32 :=
  let word := Int32.ofInt number
  if word.toInt = number then some word else none

/-- Put a decimal digit behind a number; the product and the sum each have to be words.
That the digits can be counted is not checked: behind the greatest word comes the
least. -/
def appendDigit (reading : Reading) (byte : UInt8) : Option Reading := do
  if 48 ≤ byte ∧ byte ≤ 57 then
    let product ← word? (reading.number.toInt * 10)
    let longer ← word? (product.toInt + (byte.toNat - 48 : Nat))
    some ⟨longer, reading.digits + 1⟩
  else none

/-- The descriptor that a name, which ends before its first zero byte, is the
number of. -/
def descriptor? (name : Bytes) : Option Descriptor := do
  let reading ← (name.takeWhile (· != 0)).foldlM appendDigit ⟨0, 0⟩
  if 0 < reading.digits then some reading.number.toInt else none

/-- The length of the record at an offset of a buffer. -/
def length? (buffer : Bytes) (offset : Nat) : Option Nat :=
  match buffer.drop (offset + lengthOffset) with
  | low :: high :: _ => some (low.toNat + 256 * high.toNat)
  | _ => none

/-- The name part of the record at an offset of a buffer, if the record has one
and lies within the buffer. -/
def name? (buffer : Bytes) (offset length : Nat) : Option Bytes :=
  if nameOffset ≤ length ∧ offset + length ≤ buffer.length then
    some ((buffer.drop (offset + nameOffset)).take (length - nameOffset))
  else none

/-- The names in the records from an offset up to a limit. -/
def names (buffer : Bytes) (limit offset : Nat) : List Bytes :=
  if offset < limit then
    match length? buffer offset with
    | none | some 0 => []
    | some (length + 1) =>
        ((name? buffer offset (length + 1)).map (·.takeWhile (· != 0))).toList
          ++ names buffer limit (offset + (length + 1))
  else []
  termination_by limit - offset

/-- The descriptors that the records from an offset up to a limit name. Reading
stops at a record without length. -/
def descriptors (buffer : Bytes) (limit offset : Nat) : List Descriptor :=
  if offset < limit then
    match length? buffer offset with
    | none | some 0 => []
    | some (length + 1) =>
        ((name? buffer offset (length + 1)).bind descriptor?).toList
          ++ descriptors buffer limit (offset + (length + 1))
  else []
  termination_by limit - offset

/-- The lowest so many bytes of a number, the lowest one first. -/
def littleEndian : Nat → Nat → Bytes
  | 0, _ => []
  | count + 1, number =>
      UInt8.ofNat (number % 256) :: littleEndian count (number / 256)

/-- The length of the record of a name: there is room for a zero byte behind it, and
records start at multiples of eight. -/
def lengthOf (name : Bytes) : Nat :=
  (nameOffset + name.length + 8) / 8 * 8

/-- The record of a name that stands at a position of its directory. -/
def encode (position : Nat) (name : Bytes) : Bytes :=
  let front :=
    littleEndian 8 0 ++ littleEndian 8 (position + 1)
      ++ littleEndian 2 (lengthOf name) ++ [0] ++ name
  front ++ List.replicate (lengthOf name - front.length) 0

end DirectoryRecord
end ChildProcess
