import ChildProcess.Bytes

/-!
# Lossy display of byte strings

Bytes that are to be shown as text are decoded as UTF-8; every longest piece
that starts like a character but cannot be continued to one is shown as the
replacement character U+FFFD.
-/

namespace ChildProcess
namespace Bytes

/-- Whether a byte is one of the continuation bytes from `low` to `high`. -/
def continues (low high : UInt8) (bytes : Bytes) : Option UInt8 :=
  match bytes with
  | [] => none
  | byte :: _ => if low ≤ byte ∧ byte ≤ high then some byte else none

/-- What a lead byte asks of the bytes after it: the bits that it contributes,
the range of the second byte, and how many bytes follow in all. -/
def leadByte (byte : UInt8) : Option (Nat × UInt8 × UInt8 × Nat) :=
  let number := byte.toNat
  if number < 0xC2 then none
  else if number ≤ 0xDF then some (number - 0xC0, 0x80, 0xBF, 1)
  else if number = 0xE0 then some (0, 0xA0, 0xBF, 2)
  else if number = 0xED then some (0xD, 0x80, 0x9F, 2)
  else if number ≤ 0xEF then some (number - 0xE0, 0x80, 0xBF, 2)
  else if number = 0xF0 then some (0, 0x90, 0xBF, 3)
  else if number ≤ 0xF3 then some (number - 0xF0, 0x80, 0xBF, 3)
  else if number = 0xF4 then some (4, 0x80, 0x8F, 3)
  else none

/-- Read `count` more continuation bytes. The answer is the character, if it
was complete, and the number of bytes that belong to it. -/
def continueCharacter
    (bits : Nat)
    (low high : UInt8)
    (taken : Nat) :
    Nat → Bytes → Option Char × Nat
  | 0, _ => (some (Char.ofNat bits), taken)
  | count + 1, bytes =>
      match continues low high bytes with
      | none => (none, taken)
      | some byte =>
          continueCharacter (bits * 64 + (byte.toNat - 0x80)) 0x80 0xBF
            (taken + 1) count bytes.tail

/-- The character that starts with a given byte, if it is complete, and the
number of bytes after the first that belong to it. -/
def scanCharacter (byte : UInt8) (rest : Bytes) : Option Char × Nat :=
  if byte.toNat < 0x80 then (some (Char.ofNat byte.toNat), 0)
  else
    match leadByte byte with
    | none => (none, 0)
    | some (bits, low, high, count) =>
        continueCharacter bits low high 0 count rest

/-- The characters of a byte string, with U+FFFD for what is not UTF-8. -/
def lossyCharacters : Bytes → List Char
  | [] => []
  | byte :: rest =>
      let (character, taken) := scanCharacter byte rest
      character.getD '\uFFFD' :: lossyCharacters (rest.drop taken)
  termination_by bytes => bytes.length
  decreasing_by simp only [List.length_drop, List.length_cons]; omega

/-- The text of a byte string, with U+FFFD for what is not UTF-8. -/
def toLossyText (bytes : Bytes) : String :=
  String.ofList bytes.lossyCharacters

end Bytes
end ChildProcess
