import ChildProcess.Inherited.DirectoryRecord
import ChildProcess.Program

/-!
# Native programs

A file that starts with the mark of the executable format holds machine code. Of
the instructions only those are known that a small program needs to make a few
calls and to end: loading constants and addresses, copying and clearing registers,
and the call instruction. Whatever else is met ends the program by the signal for
an illegal instruction.
-/

namespace ChildProcess
namespace NativeImage

/-- The four bytes that an executable starts with. -/
def mark : Bytes := [0x7f, 0x45, 0x4c, 0x46]

/-- The size of the headers before the code. -/
def headerSize : Nat := 120

/-- The number that some bytes of an image are, the lowest one first. -/
def number (image : Bytes) (offset count : Nat) : Nat :=
  ((image.drop offset).take count).foldr (fun byte high => byte.toNat + 256 * high) 0

/-- Whether the file is in the executable format, made for this machine, and not
cut off in its headers. -/
def isExecutable (image : Bytes) : Bool :=
  image.take 4 == mark && decide (headerSize ≤ image.length)
    && number image 16 2 == 2 && number image 18 2 == 62

/-- The address at which the image starts. -/
def base (image : Bytes) : Nat := number image 80 8 - number image 72 8

/-- Where in the image its first instruction is. -/
def entry (image : Bytes) : Nat := number image 24 8 - base image

/-- The numbers of the registers that calls use. -/
structure Registers where
  values : List Nat := List.replicate 8 0
  deriving Repr

namespace Registers

/-- What a register holds. -/
def get (registers : Registers) (index : Nat) : Nat :=
  registers.values.getD index 0

/-- Put a number into a register. -/
def set (registers : Registers) (index value : Nat) : Registers :=
  ⟨registers.values.set index value⟩

/-- The register that holds the number of a call, and its answer. -/
def call (registers : Registers) : Nat := registers.get 0

/-- The first argument of a call. -/
def first (registers : Registers) : Nat := registers.get 7

/-- The second argument of a call. -/
def second (registers : Registers) : Nat := registers.get 6

/-- The third argument of a call. -/
def third (registers : Registers) : Nat := registers.get 2

end Registers

/-- A 32-bit number read as a signed one. -/
def signed (value : Nat) : Int :=
  Int.bmod value (Nat.pow 2 32)

/-- The 32-bit form of an answer; failures are negative. -/
def answerOf : Except Errno Nat → Nat
  | .ok value => value
  | .error errno => ((Nat.pow 2 32 : Int) - errno.code.toInt).toNat

/-- What a call instruction does. -/
def performCall (image : Bytes) (registers : Registers) : Program Nat := do
  match registers.call with
  | 1 =>
      let address := registers.second - base image
      let data := (image.drop address).take registers.third
      pure (answerOf (← Program.perform (.write (signed registers.first) data)))
  | 3 =>
      let answer ← Program.perform (.close (signed registers.first))
      pure (answerOf (answer.map fun _ => 0))
  | 39 =>
      let self ← Program.perform .processId
      pure self.toNat
  | 62 =>
      let answer ←
        Program.perform (.signal (signed registers.first) registers.second)
      pure (answerOf (answer.map fun _ => 0))
  | 60 | 231 => Program.exit (signed registers.first)
  | 101 => do
      Program.perform .traceMe
      pure 0
  | _ => pure (answerOf (.error Errno.ENOSYS))

/-- End by the signal for an illegal instruction. -/
def fail : Program Unit := do
  let self ← Program.perform .processId
  let _ ← Program.perform (.signal self 4)
  Program.exit 132

/-- Execute so many instructions from a position on. -/
def executeFrom (image : Bytes) : Nat → Nat → Registers → Program Unit
  | 0, _, _ => fail
  | instructions + 1, position, registers =>
      match image.drop position with
      | 0x0f :: 0x05 :: _ => do
          let answer ← performCall image registers
          executeFrom image instructions (position + 2) (registers.set 0 answer)
      | 0x89 :: operands :: _ =>
          if operands ≥ 0xc0 then
            let source := (operands.toNat / 8) % 8
            let target := operands.toNat % 8
            executeFrom image instructions (position + 2)
              (registers.set target (registers.get source))
          else fail
      | 0x31 :: operands :: _ =>
          if operands ≥ 0xc0 then
            let source := (operands.toNat / 8) % 8
            let target := operands.toNat % 8
            executeFrom image instructions (position + 2)
              (registers.set target
                (Nat.xor (registers.get source) (registers.get target)))
          else fail
      | 0x48 :: 0x8d :: operands :: _ =>
          if operands &&& 0xc7 = 0x05 then
            let target := (operands.toNat / 8) % 8
            let next := position + 7
            let distance := signed (number image (position + 3) 4)
            executeFrom image instructions next
              (registers.set target (base image + next + distance).toNat)
          else fail
      | code :: _ =>
          if 0xb8 ≤ code ∧ code ≤ 0xbf then
            executeFrom image instructions (position + 5)
              (registers.set (code.toNat - 0xb8) (number image (position + 1) 4))
          else fail
      | [] => fail

/-- The program that an image is. -/
def program (image : Bytes) : Program Unit :=
  executeFrom image Program.patience (entry image) {}

end NativeImage
end ChildProcess
