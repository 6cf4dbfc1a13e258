/-!
# Byte strings

Names, arguments and data reach the operating system as bytes. Texts are the
byte strings that happen to be valid UTF-8; `Bytes.ofText` and `Bytes.toText?`
go between the two. Paths are byte strings with `/` between their components.
-/

namespace ChildProcess

/-- A string of bytes. -/
abbrev Bytes := List UInt8

namespace Bytes

/-- The UTF-8 bytes of a text. -/
def ofText (text : String) : Bytes :=
  text.toUTF8.data.toList

/-- The text that these bytes are the UTF-8 form of, if there is one. -/
def toText? (bytes : Bytes) : Option String :=
  String.fromUTF8? ⟨bytes.toArray⟩

/-- Position of the first zero byte. -/
def firstNul? (bytes : Bytes) : Option Nat :=
  bytes.findIdx? (· == 0)

/-- Split at every occurrence of a separator; there is always at least one
field. -/
def fields (separator : UInt8) : Bytes → List Bytes
  | [] => [[]]
  | byte :: rest =>
      if byte = separator then
        [] :: fields separator rest
      else
        match fields separator rest with
        | [] => [[byte]]
        | field :: others => (byte :: field) :: others

/-- One character for every byte, with the byte's number. -/
def toCharacters (bytes : Bytes) : List Char :=
  bytes.map fun byte => Char.ofNat byte.toNat

/-- One byte for every character, which is to be numbered below 256. -/
def ofCharacters (characters : List Char) : Bytes :=
  characters.map fun character => UInt8.ofNat character.toNat

/-- The byte `/`, which separates the components of a path. -/
def slash : UInt8 := 47

/-- Whether a path starts at the root directory. -/
def isAbsolute (path : Bytes) : Bool :=
  path.head? == some slash

/-- A name looked up from a directory: an absolute name stands for itself, and
a slash is put between the two unless the directory is empty or ends in one. -/
def join (directory name : Bytes) : Bytes :=
  if name.isAbsolute then name
  else if directory.isEmpty || directory.getLast? == some slash then
    directory ++ name
  else
    directory ++ slash :: name

/-- A text is recovered from its bytes. -/
@[simp] theorem toText?_ofText (text : String) :
    toText? (ofText text) = some text := by
  simp only [toText?, ofText, String.fromUTF8?, String.toUTF8_eq_toByteArray,
    Array.toArray_toList]
  exact dif_pos text.isValidUTF8

end Bytes
end ChildProcess
