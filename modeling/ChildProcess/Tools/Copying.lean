import ChildProcess.Tools.Basic

/-!
# Programs that copy

`cat` copies files, `head` and `tail` copy the parts at their ends, `wc` only counts,
and `yes` writes the same line without end.
-/

namespace ChildProcess
namespace Tools

open Program (perform)

/-- Copy a file to standard output block by block. -/
def copyAll (descriptor : Descriptor) : Nat → Program (Except Errno Unit)
  | 0 => .exhausted
  | rounds + 1 => do
      match ← readBlock descriptor with
      | .error errno => pure (.error errno)
      | .ok [] => pure (.ok ())
      | .ok block =>
          if ← print block then copyAll descriptor rounds
          else pure (.error Errno.EIO)

/-- Copy files. -/
def cat : Tool := ofArguments fun arguments =>
  forFiles "cat" (fun descriptor => copyAll descriptor Program.patience)
    (orInput (arguments.filter (· != bytes "-u")))

/-- How much of a file is meant. -/
inductive Amount
  | lines (count : Nat)
  | bytes (count : Nat)
  deriving DecidableEq, Repr, Inhabited

namespace Amount

/-- The usual amount. -/
def standard : Amount := .lines 10

/-- So many lines, or why there is no such number. -/
def ofLines (value : Bytes) : Except Bytes Amount :=
  match number? value with
  | some count => .ok (.lines count)
  | none => .error (Tools.bytes "invalid number of lines: " ++ quoted value)

/-- So many bytes, or why there is no such number. -/
def ofBytes (value : Bytes) : Except Bytes Amount :=
  match number? value with
  | some count => .ok (.bytes count)
  | none => .error (Tools.bytes "invalid number of bytes: " ++ quoted value)

/-- The amount that options in front ask for, and the names behind them. -/
def ofArguments (amount : Amount) : List Bytes → Except Bytes (Amount × List Bytes)
  | [] => .ok (amount, [])
  | argument :: rest =>
      match argument, rest with
      | [45, 110], value :: rest => do ofArguments (← ofLines value) rest
      | [45, 99], value :: rest => do ofArguments (← ofBytes value) rest
      | 45 :: 110 :: value, rest => do ofArguments (← ofLines value) rest
      | 45 :: 99 :: value, rest => do ofArguments (← ofBytes value) rest
      | 45 :: value, rest =>
          match number? value with
          | some count => ofArguments (.lines count) rest
          | none => .ok (amount, argument :: rest)
      | _, rest => .ok (amount, argument :: rest)

/-- The lines of some bytes, each with its end. -/
def linesOf : Bytes → List Bytes
  | [] => []
  | byte :: rest =>
      match linesOf rest, byte with
      | others, 10 => [10] :: others
      | [], byte => [[byte]]
      | first :: others, byte => (byte :: first) :: others

/-- The first part of some bytes. -/
def front (amount : Amount) (data : Bytes) : Bytes :=
  match amount with
  | .lines count => ((linesOf data).take count).flatten
  | .bytes count => data.take count

/-- The last part of some bytes. -/
def back (amount : Amount) (data : Bytes) : Bytes :=
  match amount with
  | .lines count =>
      let all := linesOf data
      (all.drop (all.length - count)).flatten
  | .bytes count => data.drop (data.length - count)

/-- What is still missing when some bytes are there. -/
def without (amount : Amount) (data : Bytes) : Amount :=
  match amount with
  | .lines count => .lines (count - data.count 10)
  | .bytes count => .bytes (count - data.length)

/-- Whether nothing is meant. -/
def isNothing : Amount → Bool
  | .lines count | .bytes count => count == 0

/-- How much is read at once to find the first part. -/
def readSize : Amount → Nat
  | .lines _ => 8192
  | .bytes count => min count 8192

end Amount

/-- Copy the first part of a file. -/
def copyFront (descriptor : Descriptor) : Nat → Amount → Program (Except Errno Unit)
  | 0, _ => .exhausted
  | rounds + 1, amount => do
      if amount.isNothing then pure (.ok ())
      else
        match ← Program.retrying (perform (.read descriptor amount.readSize))
            Program.patience with
        | .error errno => pure (.error errno)
        | .ok [] => pure (.ok ())
        | .ok block => do
            let _ ← print (amount.front block)
            copyFront descriptor rounds (amount.without block)

/-- Copy the last part of a file. -/
def copyBack (descriptor : Descriptor) (amount : Amount) :
    Program (Except Errno Unit) := do
  match ← Program.readToEnd (Program.readSome Program.patience descriptor)
      Program.patience with
  | .error _ => pure (.error Errno.EIO)
  | .ok content => do
      let _ ← print (amount.back content)
      pure (.ok ())

/-- A program that copies a part of files. -/
def partCopier (name : String)
    (copy : Amount → Descriptor → Program (Except Errno Unit)) : Tool :=
  ofArguments fun arguments =>
    match Amount.standard.ofArguments arguments with
    | .error reason => do
        complain name reason
        pure 1
    | .ok (amount, names) => forFiles name (copy amount) (orInput names)

/-- Copy the first parts of files. -/
def head : Tool :=
  partCopier "head" fun amount descriptor =>
    copyFront descriptor Program.patience amount

/-- Copy the last parts of files. -/
def tail : Tool :=
  partCopier "tail" fun amount descriptor => copyBack descriptor amount

/-- Write a text without end. -/
def repeatText (text : Bytes) : Nat → Program Nat
  | 0 => .exhausted
  | rounds + 1 => do
      if ← print text then repeatText text rounds
      else do
        complain "yes" (bytes "standard output: Broken pipe")
        pure 1

/-- Write a line without end, many at once. -/
def yes : Tool := ofArguments fun arguments =>
  let words := if arguments.isEmpty then [bytes "y"] else arguments
  let line := (words.intersperse [32]).flatten ++ [10]
  repeatText ((List.replicate (8192 / line.length + 1) line).flatten) Program.patience

/-! ## Counting -/

/-- The number that an argument is. -/
def integer? : Bytes → Option Int
  | 45 :: digits => (number? digits).map fun value => -Int.ofNat value
  | digits => (number? digits).map Int.ofNat

/-- The numbers from a first one to a last one, so many at most. -/
def numbersBetween (first step last : Int) : Nat → List Int
  | 0 => []
  | more + 1 =>
      if (0 < step ∧ last < first) ∨ (step < 0 ∧ first < last) then []
      else first :: numbersBetween (first + step) step last more

/-- Write the numbers of a sequence, one on a line. -/
def seq : Tool := ofArguments fun arguments => do
  let bounds? : Option (Int × Int × Int) :=
    match arguments.map integer? with
    | [some last] => some (1, 1, last)
    | [some first, some last] => some (first, 1, last)
    | [some first, some step, some last] => some (first, step, last)
    | _ => none
  match bounds? with
  | some (first, step, last) => do
      let numbers := numbersBetween first step last ((last - first).natAbs + 1)
      let _ ← print (numbers.flatMap fun number => bytes (toString number) ++ [10])
      pure 0
  | none => do
      complain "seq" (bytes "invalid operands")
      pure 1

/-- How many words there are in some bytes. -/
def wordCount (data : Bytes) : Nat :=
  let isBlank := fun (byte : UInt8) => byte == 32 || (9 ≤ byte && byte ≤ 13)
  let pairs := (32 :: data).zip data
  pairs.countP fun (before, byte) => isBlank before && !isBlank byte

/-- A number with blanks in front to make it so wide. -/
def padded (width value : Nat) : Bytes :=
  let digits := bytes (toString value)
  List.replicate (width - digits.length) 32 ++ digits

/-- Count the lines, words or bytes of standard input. -/
def wc : Tool := ofArguments fun arguments => do
  let content ← Program.readToEnd (Program.readSome Program.patience 0) Program.patience
  let data := content.toOption.getD []
  let line :=
    match arguments with
    | [[45, 108]] => padded 0 (data.count 10)
    | [[45, 119]] => padded 0 (wordCount data)
    | [[45, 99]] => padded 0 data.length
    | _ =>
        padded 7 (data.count 10) ++ padded 8 (wordCount data) ++ padded 8 data.length
  let _ ← print (line ++ [10])
  pure 0

end Tools
end ChildProcess
