import ChildProcess.Launch
import ChildProcess.Text.Uppercase

/-!
# Windows environment blocks

On Windows a child gets its variables as one block of UTF-16 units: the entries
`KEY=VALUE`, each followed by a zero unit, sorted by their keys regardless of
case, and one more zero unit at the end. A block without entries has two.
`environmentBlock` writes a block, and `readBlock` reads one.
-/

namespace ChildProcess
namespace Windows

/-- The UTF-16 units of a character. -/
def utf16Units (character : Char) : List UInt16 :=
  let number := character.toNat
  if number < 0x10000 then [UInt16.ofNat number]
  else
    let offset := number - 0x10000
    [UInt16.ofNat (0xD800 + offset / 0x400), UInt16.ofNat (0xDC00 + offset % 0x400)]

/-- The UTF-16 units of a text. -/
def wide (text : String) : List UInt16 :=
  text.toList.flatMap utf16Units

/-- The key by which entries are sorted. -/
def sortKey (binding : String × String) : List Char :=
  Text.uppercase binding.1

/-- The variables by their uppercase keys; those with equal ones keep their
order. -/
def sortVariables (pairs : List (String × String)) : List (String × String) :=
  pairs.mergeSort fun left right => !decide (sortKey right < sortKey left)

/-- One entry and its end. -/
def blockEntry (binding : String × String) : List UInt16 :=
  wide (binding.1 ++ "=" ++ binding.2) ++ [0]

/-- The block for a list of variables in order. -/
def blockOf (pairs : List (String × String)) : List UInt16 :=
  let block := pairs.flatMap blockEntry
  (if block.isEmpty then [0] else block) ++ [0]

/-- The environment block of a launch. -/
def environmentBlock (launch : Launch) (parent : Environment) : List UInt16 :=
  blockOf (sortVariables (launch.effectiveEnvironment parent).entries)

/-! ## Reading a block -/

/-- Put a unit in front of the first piece of a list. -/
def extendPiece (unit : UInt16) : List (List UInt16) → List (List UInt16)
  | [] => [[unit]]
  | first :: rest => (unit :: first) :: rest

/-- The pieces in front of zero units, up to the first empty piece, and what is
behind that. `isOpen` tells whether a piece has been started. -/
def readPieces : Bool → List UInt16 → List (List UInt16) × List UInt16
  | isOpen, [] => (if isOpen then [[]] else [], [])
  | isOpen, unit :: rest =>
      if unit = 0 then
        if isOpen then
          let (pieces, behind) := readPieces false rest
          ([] :: pieces, behind)
        else ([], rest)
      else
        let (pieces, behind) := readPieces true rest
        (extendPiece unit pieces, behind)

/-- The characters that UTF-16 units stand for, if they stand for any. -/
def charactersOf? : List UInt16 → Option (List Char)
  | [] => some []
  | high :: rest =>
      if high < 0xD800 ∨ 0xE000 ≤ high then
        (charactersOf? rest).map (Char.ofNat high.toNat :: ·)
      else if 0xDC00 ≤ high then none
      else
        match rest with
        | [] => none
        | low :: rest =>
            if 0xDC00 ≤ low ∧ low < 0xE000 then
              (charactersOf? rest).map
                (Char.ofNat
                  (0x10000 + (high.toNat - 0xD800) * 0x400
                    + (low.toNat - 0xDC00)) :: ·)
            else none

/-- The entries of a block, each as a text if it is one, and the units behind the
end of the block. -/
def readBlock (block : List UInt16) : List (Option String) × List UInt16 :=
  let (pieces, behind) := readPieces false block
  (pieces.map fun piece => (charactersOf? piece).map String.ofList, behind)

end Windows
end ChildProcess
