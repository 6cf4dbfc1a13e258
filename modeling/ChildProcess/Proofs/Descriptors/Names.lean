import ChildProcess.Proofs.Descriptors.Answers
import Mathlib.Data.List.Induction
import Mathlib.Data.List.TakeWhile
import Mathlib.Data.Nat.Digits.Defs

/-!
# Names that are numbers

The name of a descriptor is read digit by digit up to its first zero byte.  It is taken if
it is a decimal number that a descriptor may have, with or without zeros in front.
Otherwise reading ends at the first byte that is no digit or with which the number would
grow too great, whichever comes first.  All this is done in words of 32 bits: the number
cannot leave them unnoticed, but the count of the digits does so with the digit of number
2 ^ 31, which only zeros in front can bring about.
-/

namespace ChildProcess
namespace DirectoryRecord

/-! ## Decimal numbers -/

/-- A byte stands for a decimal digit. -/
def IsDigit (byte : UInt8) : Prop :=
  48 ≤ byte ∧ byte ≤ 57

/-- What digits stand for, the last one being worth the least. -/
def decimalValue (digits : Bytes) : Nat :=
  Nat.ofDigits 10 (digits.reverse.map fun byte => byte.toNat - 48)

/-- The part of a name before its first zero byte. -/
def front (name : Bytes) : Bytes :=
  name.takeWhile (· != 0)

/-- Digits are the number of a descriptor, perhaps with zeros in front. -/
structure IsDecimal (digits : Bytes) (descriptor : Descriptor) : Prop where
  nonempty : digits ≠ []
  areDigits : ∀ byte ∈ digits, IsDigit byte
  isValue : descriptor = decimalValue digits
  small : decimalValue digits < 2 ^ 31

/-- Digits cannot go on with a byte, since it is no digit or makes them too great a
number. -/
structure FailsAt (digits : Bytes) (byte : UInt8) : Prop where
  areDigits : ∀ digit ∈ digits, IsDigit digit
  small : decimalValue digits < 2 ^ 31
  fails : ¬IsDigit byte ∨ 2 ^ 31 ≤ decimalValue (digits ++ [byte])

@[simp] theorem decimalValue_nil : decimalValue [] = 0 := rfl

theorem decimalValue_concat (digits : Bytes) (byte : UInt8) :
    decimalValue (digits ++ [byte]) = 10 * decimalValue digits + (byte.toNat - 48) := by
  rw [decimalValue, List.reverse_concat, List.map_cons, Nat.ofDigits_cons, Nat.add_comm]
  rfl

/-- A number grows with its digits. -/
theorem decimalValue_le_append (digits more : Bytes) :
    decimalValue digits ≤ decimalValue (digits ++ more) := by
  induction more using List.reverseRecOn with
  | nil => rw [List.append_nil]
  | append_singleton more byte inductionHypothesis =>
      rw [← List.append_assoc, decimalValue_concat]
      omega

/-! ## The end of a name -/

theorem front_append {name : Bytes} (nulFree : 0 ∉ name) (rest : Bytes) :
    front (name ++ rest) = name ++ front rest := by
  refine List.takeWhile_append_of_pos fun byte isMember => ?_
  exact bne_iff_ne.mpr fun same => nulFree (same ▸ isMember)

theorem front_eq_nil {rest : Bytes} (isEnd : rest = [] ∨ rest.head? = some 0) :
    front rest = [] := by
  rcases isEnd with rfl | isZero
  · rfl
  · obtain ⟨others, rfl⟩ := List.head?_eq_some_iff.mp isZero
    simp [front]

/-- What stands behind the end of a name does not belong to it. -/
theorem front_append_of_end
    {name rest : Bytes}
    (nulFree : 0 ∉ name)
    (isEnd : rest = [] ∨ rest.head? = some 0) :
    front (name ++ rest) = name := by
  rw [front_append nulFree, front_eq_nil isEnd, List.append_nil]

theorem front_eq_self {name : Bytes} (nulFree : 0 ∉ name) : front name = name := by
  have alone := @front_append_of_end name [] nulFree (.inl rfl)
  rwa [List.append_nil] at alone

/-! ## Reading digits -/

theorem word?_eq_some_iff {number : Int} {word : Int32} :
    word? number = some word ↔ word.toInt = number := by
  unfold word?
  constructor
  · intro isWord
    dsimp only at isWord
    split at isWord
    · next exact => rwa [← Option.some.inj isWord]
    · cases isWord
  · rintro rfl
    simp only [Int32.ofInt_toInt, if_true]

theorem exists_word?_of_lt {number : Nat} (small : number < 2 ^ 31) :
    ∃ word, word? number = some word :=
  ⟨_, word?_eq_some_iff.mpr (Int32.toInt_ofInt_of_le (by omega) (by omega))⟩

/-- A digit makes the number longer by itself, as long as there is a word for the longer
one; the product cannot be what there is no word for, since it is not greater. -/
theorem appendDigit_eq_some_iff
    {reading longer : Reading}
    {number : Nat}
    (stands : reading.number.toInt = number)
    {byte : UInt8} :
    appendDigit reading byte = some longer ↔
      IsDigit byte ∧ longer.number.toInt = (10 * number + (byte.toNat - 48) : Nat) ∧
        longer.digits = reading.digits + 1 := by
  obtain ⟨longerNumber, longerDigits⟩ := longer
  unfold appendDigit IsDigit
  split
  · next isDigit =>
    simp only [Option.bind_eq_bind, Option.bind_eq_some_iff, word?_eq_some_iff,
      Option.some_inj, Reading.mk.injEq]
    constructor
    · rintro ⟨product, isProduct, sum, isSum, rfl, rfl⟩
      exact ⟨isDigit, by omega, rfl⟩
    · rintro ⟨-, isLonger, rfl⟩
      have bound := Int32.toInt_lt longerNumber
      have small : 10 * number < 2 ^ 31 := by omega
      obtain ⟨product, isProduct⟩ := exists_word?_of_lt small
      rw [word?_eq_some_iff] at isProduct
      exact ⟨product, by omega, longerNumber, by omega, rfl, rfl⟩
  · next noDigit => simp [noDigit]

theorem foldlM_appendDigit_concat_eq_some_iff
    {digits : Bytes}
    {byte : UInt8}
    {longer : Reading} :
    (digits ++ [byte]).foldlM appendDigit ⟨0, 0⟩ = some longer ↔
      ∃ reading, digits.foldlM appendDigit ⟨0, 0⟩ = some reading ∧
        appendDigit reading byte = some longer := by
  simp [List.foldlM_append, Option.bind_eq_some_iff]

/-- What has been read of digits stands for them, and their count for their number modulo
2 ^ 32. -/
theorem foldlM_appendDigit_eq_some_iff {digits : Bytes} {reading : Reading} :
    digits.foldlM appendDigit ⟨0, 0⟩ = some reading ↔
      (∀ byte ∈ digits, IsDigit byte) ∧ reading.number.toInt = decimalValue digits ∧
        reading.digits = Int32.ofNat digits.length := by
  induction digits using List.reverseRecOn generalizing reading with
  | nil =>
      obtain ⟨number, count⟩ := reading
      have isZero : number.toInt = 0 ↔ number = 0 := Int32.toInt_inj (y := 0)
      simp [isZero, eq_comm]
  | append_singleton digits byte inductionHypothesis =>
      rw [foldlM_appendDigit_concat_eq_some_iff, List.length_append, List.length_singleton,
        Int32.ofNat_add]
      simp only [inductionHypothesis, decimalValue_concat, List.forall_mem_append,
        List.forall_mem_singleton]
      constructor
      · rintro ⟨earlier, ⟨areDigits, stands, counted⟩, isRead⟩
        obtain ⟨isDigit, isLonger, isNext⟩ := (appendDigit_eq_some_iff stands).mp isRead
        exact ⟨⟨areDigits, isDigit⟩, isLonger, by rw [isNext, counted]; rfl⟩
      · rintro ⟨⟨areDigits, isDigit⟩, isLonger, isNext⟩
        have bound := Int32.toInt_lt reading.number
        have stands : (Int32.ofNat (decimalValue digits)).toInt = decimalValue digits :=
          Int32.toInt_ofNat_of_lt (by omega)
        refine ⟨⟨_, Int32.ofNat digits.length⟩, ⟨areDigits, stands, rfl⟩, ?_⟩
        exact (appendDigit_eq_some_iff stands).mpr ⟨isDigit, isLonger, isNext⟩

/-- Digits are read if they are digits and their number is small enough. -/
theorem isSome_foldlM_appendDigit_iff {digits : Bytes} :
    (∃ reading, digits.foldlM appendDigit ⟨0, 0⟩ = some reading) ↔
      (∀ byte ∈ digits, IsDigit byte) ∧ decimalValue digits < 2 ^ 31 := by
  constructor
  · rintro ⟨reading, isRead⟩
    obtain ⟨areDigits, stands, -⟩ := foldlM_appendDigit_eq_some_iff.mp isRead
    have bound := Int32.toInt_lt reading.number
    exact ⟨areDigits, by omega⟩
  · rintro ⟨areDigits, small⟩
    refine ⟨⟨Int32.ofNat (decimalValue digits), Int32.ofNat digits.length⟩, ?_⟩
    exact foldlM_appendDigit_eq_some_iff.mpr
      ⟨areDigits, Int32.toInt_ofNat_of_lt small, rfl⟩

/-- Digits that are not read have a first place at which reading fails. -/
theorem foldlM_appendDigit_eq_none_iff {digits : Bytes} :
    digits.foldlM appendDigit ⟨0, 0⟩ = none ↔
      ∃ before byte after, digits = before ++ byte :: after ∧ FailsAt before byte := by
  rw [Option.eq_none_iff_forall_ne_some, ← not_exists, isSome_foldlM_appendDigit_iff]
  constructor
  · intro refused
    -- Either reading has failed before the last byte, or it fails at that one.
    induction digits using List.reverseRecOn with
    | nil => simp at refused
    | append_singleton digits byte inductionHypothesis =>
        by_cases isRead : (∀ byte ∈ digits, IsDigit byte) ∧ decimalValue digits < 2 ^ 31
        · refine ⟨digits, byte, [], rfl, isRead.1, isRead.2, ?_⟩
          by_contra goesOn
          rw [not_or, not_not, Nat.not_le] at goesOn
          refine refused ⟨?_, goesOn.2⟩
          rw [List.forall_mem_append, List.forall_mem_singleton]
          exact ⟨isRead.1, goesOn.1⟩
        · obtain ⟨before, stop, after, rfl, fails⟩ := inductionHypothesis isRead
          exact ⟨before, stop, after ++ [byte], by simp, fails⟩
  · rintro ⟨before, byte, after, rfl, -, -, fails⟩ ⟨areDigits, small⟩
    have shorter := decimalValue_le_append (before ++ [byte]) after
    rw [List.append_cons] at areDigits small
    rcases fails with noDigit | great
    · exact noDigit (areDigits byte (by simp))
    · omega

/-- Whatever the name, it is read as its decimal number if the word that counts its digits
is positive. -/
theorem descriptor?_eq_some_iff {name : Bytes} {descriptor : Descriptor} :
    descriptor? name = some descriptor ↔
      IsDecimal (front name) descriptor ∧ 0 < Int32.ofNat (front name).length := by
  have isReading : descriptor? name = some descriptor ↔
      ∃ reading, (front name).foldlM appendDigit ⟨0, 0⟩ = some reading ∧
        0 < reading.digits ∧ reading.number.toInt = descriptor := by
    unfold descriptor? front
    simp only [Option.bind_eq_bind, Option.bind_eq_some_iff, Option.ite_none_right_eq_some,
      Option.some_inj]
  rw [isReading]
  constructor
  · rintro ⟨reading, isRead, positive, rfl⟩
    obtain ⟨areDigits, stands, counted⟩ := foldlM_appendDigit_eq_some_iff.mp isRead
    rw [counted] at positive
    have nonempty : front name ≠ [] := by
      rintro nothing
      rw [nothing] at positive
      exact absurd positive (by decide)
    have small := (isSome_foldlM_appendDigit_iff.mp ⟨reading, isRead⟩).2
    exact ⟨⟨nonempty, areDigits, stands, small⟩, positive⟩
  · rintro ⟨⟨-, areDigits, rfl, small⟩, positive⟩
    obtain ⟨reading, isRead⟩ := isSome_foldlM_appendDigit_iff.mpr ⟨areDigits, small⟩
    obtain ⟨-, stands, counted⟩ := foldlM_appendDigit_eq_some_iff.mp isRead
    exact ⟨reading, isRead, counted ▸ positive, stands⟩

/-! ## Counting digits -/

/-- Counting one of the digits that are read comes to another number than the next.  Where
sums are checked, reading is given up there; elsewhere it goes on with that number. -/
def CountOverflows (name : Bytes) : Prop :=
  ∃ before byte after reading longer,
    front name = before ++ byte :: after ∧
      before.foldlM appendDigit ⟨0, 0⟩ = some reading ∧
        appendDigit reading byte = some longer ∧
          longer.digits.toInt ≠ reading.digits.toInt + 1

/-- Only the greatest word has another one behind it than that of the next number. -/
theorem toInt_ofNat_add_one_ne_iff {count : Nat} :
    (Int32.ofNat count + 1).toInt ≠ (Int32.ofNat count).toInt + 1 ↔
      count % 2 ^ 32 = 2 ^ 31 - 1 := by
  have next : (Int32.ofNat count + 1).toInt = ((Int32.ofNat count).toInt + 1).bmod (2 ^ 32) :=
    Int32.toInt_add (Int32.ofNat count) 1
  have isCount : (Int32.ofNat count).toInt = (count : Int).bmod (2 ^ 32) := Int32.toInt_ofNat'
  rw [next, isCount]
  simp only [Int.bmod_def]
  omega

/-- Digits that are read and are one too many to be counted. -/
structure IsUncounted (digits : Bytes) : Prop where
  areDigits : ∀ byte ∈ digits, IsDigit byte
  small : decimalValue digits < 2 ^ 31
  many : digits.length = 2 ^ 31

/-- Among too many digits the first ones are one too many. -/
theorem exists_isUncounted
    {digits : Bytes}
    (areDigits : ∀ byte ∈ digits, IsDigit byte)
    (small : decimalValue digits < 2 ^ 31)
    (many : 2 ^ 31 ≤ digits.length) :
    ∃ first rest, digits = first ++ rest ∧ IsUncounted first := by
  have parts : digits.take (2 ^ 31) ++ digits.drop (2 ^ 31) = digits :=
    List.take_append_drop _ _
  have shorter := decimalValue_le_append (digits.take (2 ^ 31)) (digits.drop (2 ^ 31))
  rw [parts] at shorter
  exact ⟨_, _, parts.symm, fun byte isMember => areDigits byte (List.mem_of_mem_take isMember),
    shorter.trans_lt small, List.length_take_of_le many⟩

/-- Counting overflows at the digit of number 2 ^ 31, if reading comes that far. -/
theorem countOverflows_iff {name : Bytes} :
    CountOverflows name ↔ ∃ digits rest, front name = digits ++ rest ∧ IsUncounted digits := by
  constructor
  · rintro ⟨before, byte, after, reading, longer, parts, isRead, isLonger, overflows⟩
    have whole := foldlM_appendDigit_concat_eq_some_iff.mpr ⟨reading, isRead, isLonger⟩
    obtain ⟨areDigits, small⟩ := isSome_foldlM_appendDigit_iff.mp ⟨longer, whole⟩
    obtain ⟨-, stands, counted⟩ := foldlM_appendDigit_eq_some_iff.mp isRead
    have isNext := ((appendDigit_eq_some_iff stands).mp isLonger).2.2
    rw [isNext, counted, toInt_ofNat_add_one_ne_iff] at overflows
    have many : 2 ^ 31 ≤ (before ++ [byte]).length := by
      rw [List.length_append, List.length_singleton]
      omega
    obtain ⟨digits, rest, isWhole, isUncounted⟩ := exists_isUncounted areDigits small many
    refine ⟨digits, rest ++ after, ?_, isUncounted⟩
    rw [parts, List.append_cons, isWhole, List.append_assoc]
  · rintro ⟨digits, rest, parts, areDigits, small, many⟩
    rcases List.eq_nil_or_concat digits with rfl | ⟨before, byte, isConcat⟩
    · exact absurd many (by decide)
    rw [List.concat_eq_append] at isConcat
    subst isConcat
    obtain ⟨longer, whole⟩ := isSome_foldlM_appendDigit_iff.mpr ⟨areDigits, small⟩
    obtain ⟨reading, isRead, isLonger⟩ := foldlM_appendDigit_concat_eq_some_iff.mp whole
    rw [List.append_assoc, List.singleton_append] at parts
    refine ⟨before, byte, rest, reading, longer, parts, isRead, isLonger, ?_⟩
    obtain ⟨-, stands, counted⟩ := foldlM_appendDigit_eq_some_iff.mp isRead
    have isNext := ((appendDigit_eq_some_iff stands).mp isLonger).2.2
    rw [isNext, counted, toInt_ofNat_add_one_ne_iff]
    rw [List.length_append, List.length_singleton] at many
    omega

theorem not_countOverflows_of_length_lt
    {name : Bytes}
    (few : (front name).length < 2 ^ 31) :
    ¬CountOverflows name := by
  rw [countOverflows_iff]
  rintro ⟨digits, rest, parts, isUncounted⟩
  rw [parts, List.length_append, isUncounted.many] at few
  omega

/-- A name is read as its decimal number, as long as counting its digits does not
overflow. -/
theorem descriptor?_eq_some_iff_of_not_countOverflows
    {name : Bytes}
    (counts : ¬CountOverflows name)
    {descriptor : Descriptor} :
    descriptor? name = some descriptor ↔ IsDecimal (front name) descriptor := by
  rw [descriptor?_eq_some_iff, and_iff_left_iff_imp]
  rintro ⟨nonempty, areDigits, -, small⟩
  have few : (front name).length < 2 ^ 31 := by
    by_contra many
    exact counts (countOverflows_iff.mpr
      (exists_isUncounted areDigits small (Nat.not_lt.mp many)))
  rw [Int32.lt_iff_toInt_lt, Int32.toInt_ofNat_of_lt few]
  exact Int.natCast_pos.mpr (List.length_pos_iff.mpr nonempty)

/-- Reading fails for want of digits, or at the first byte that digits cannot go on
with. -/
theorem descriptor?_eq_none_iff_of_not_countOverflows
    {name : Bytes}
    (counts : ¬CountOverflows name) :
    descriptor? name = none ↔
      front name = [] ∨
        ∃ before byte after, front name = before ++ byte :: after ∧ FailsAt before byte := by
  have isDecimal : (∃ descriptor, IsDecimal (front name) descriptor) ↔
      front name ≠ [] ∧ (∀ byte ∈ front name, IsDigit byte) ∧
        decimalValue (front name) < 2 ^ 31 := by
    constructor
    · rintro ⟨descriptor, nonempty, areDigits, -, small⟩
      exact ⟨nonempty, areDigits, small⟩
    · rintro ⟨nonempty, areDigits, small⟩
      exact ⟨_, nonempty, areDigits, rfl, small⟩
  rw [← foldlM_appendDigit_eq_none_iff, Option.eq_none_iff_forall_ne_some,
    Option.eq_none_iff_forall_ne_some, ← not_exists, ← not_exists,
    isSome_foldlM_appendDigit_iff]
  simp only [descriptor?_eq_some_iff_of_not_countOverflows counts]
  rw [isDecimal, not_and_or, not_not]

/-! ## The names of descriptors -/

/-- The byte of a digit. -/
def digitByte (character : Char) : UInt8 :=
  UInt8.ofNat character.toNat

theorem toNat_digitByte
    {character : Char}
    (isDigit : character.isDigit = true) :
    (digitByte character).toNat = character.toNat := by
  have small : character.toNat ≤ 57 := (Char.isDigit_iff_toNat.mp isDigit).2
  rw [digitByte, UInt8.toNat_ofNat']
  omega

theorem ofText_ofList_of_isDigit
    {characters : List Char}
    (areDigits : ∀ character ∈ characters, character.isDigit = true) :
    Bytes.ofText (String.ofList characters) = characters.map digitByte := by
  rw [Bytes.ofText, String.toUTF8, String.toByteArray_ofList, List.utf8Encode]
  rw [List.data_toByteArray, List.toList_toArray]
  induction characters with
  | nil => rfl
  | cons character rest inductionHypothesis =>
      rw [List.forall_mem_cons] at areDigits
      have small := (Char.isDigit_iff_toNat.mp areDigits.1).2
      have oneByte : String.utf8EncodeChar character = [digitByte character] :=
        if_pos (small.trans (by decide))
      rw [List.flatMap_cons, oneByte, inductionHypothesis areDigits.2]
      rfl

theorem isDigit_digitByte {character : Char} (isDigit : character.isDigit = true) :
    IsDigit (digitByte character) := by
  rw [IsDigit, UInt8.le_iff_toNat_le, UInt8.le_iff_toNat_le, toNat_digitByte isDigit]
  exact Char.isDigit_iff_toNat.mp isDigit

theorem decimalValue_map_digitByte
    {characters : List Char}
    (areDigits : ∀ character ∈ characters, character.isDigit = true) :
    decimalValue (characters.map digitByte) = Nat.ofDigitChars 10 characters 0 := by
  induction characters using List.reverseRecOn with
  | nil => rfl
  | append_singleton characters character inductionHypothesis =>
      rw [List.forall_mem_append, List.forall_mem_singleton] at areDigits
      rw [List.map_append, List.map_singleton, decimalValue_concat,
        inductionHypothesis areDigits.1, toNat_digitByte areDigits.2]
      simp [Nat.ofDigitChars]

theorem nameOf_natCast (number : Nat) :
    nameOf (number : Int) = (Nat.toDigits 10 number).map digitByte := by
  have isText : toString (number : Int) = String.ofList (Nat.toDigits 10 number) :=
    Nat.toString_eq_ofList_toDigits
  rw [nameOf, isText, ofText_ofList_of_isDigit]
  intro character isMember
  exact Nat.isDigit_of_mem_toDigits (by decide) (by decide) isMember

theorem not_mem_map_digitByte
    {characters : List Char}
    (areDigits : ∀ character ∈ characters, character.isDigit = true) :
    0 ∉ characters.map digitByte := by
  intro isMember
  obtain ⟨character, isMember, isZero⟩ := List.mem_map.mp isMember
  have isDigit := areDigits character isMember
  have positive := (Char.isDigit_iff_toNat.mp isDigit).1
  rw [← toNat_digitByte isDigit, isZero] at positive
  exact absurd positive (by decide)

theorem zero_not_mem_nameOf (number : Nat) : 0 ∉ nameOf number := by
  rw [nameOf_natCast]
  exact not_mem_map_digitByte fun _ =>
    Nat.isDigit_of_mem_toDigits (by decide) (by decide)

/-- The name of a descriptor is its decimal number. -/
theorem isDecimal_nameOf {number : Nat} (small : number < 2 ^ 31) :
    IsDecimal (nameOf number) number := by
  have areDigits : ∀ character ∈ Nat.toDigits 10 number, character.isDigit = true :=
    fun _ => Nat.isDigit_of_mem_toDigits (by decide) (by decide)
  have isNumber : decimalValue ((Nat.toDigits 10 number).map digitByte) = number := by
    rw [decimalValue_map_digitByte areDigits, Nat.ofDigitChars_ten_toDigits]
  rw [nameOf_natCast]
  constructor
  case nonempty => simp [Nat.toDigits_ne_nil]
  case areDigits =>
    intro byte isMember
    obtain ⟨character, isCharacter, rfl⟩ := List.mem_map.mp isMember
    exact isDigit_digitByte (areDigits character isCharacter)
  case isValue => rw [isNumber]
  case small => rwa [isNumber]

theorem length_nameOf_le {number : Nat} (small : number < 2 ^ 31) :
    (nameOf number).length ≤ 10 := by
  rw [nameOf_natCast, List.length_map]
  exact Nat.toDigits_length 10 number 10 (by decide) (by omega)

/-- The name of a descriptor can be counted and is read as its number, whatever stands
behind its end. -/
theorem readsBack_nameOf
    {number : Nat}
    (small : number < 2 ^ 31)
    {rest : Bytes}
    (isEnd : rest = [] ∨ rest.head? = some 0) :
    ¬CountOverflows (nameOf number ++ rest) ∧
      descriptor? (nameOf number ++ rest) = some (number : Int) := by
  have isFront := front_append_of_end (zero_not_mem_nameOf number) isEnd
  have counts : ¬CountOverflows (nameOf number ++ rest) := by
    apply not_countOverflows_of_length_lt
    rw [isFront]
    exact (length_nameOf_le small).trans_lt (by decide)
  refine ⟨counts, ?_⟩
  rw [descriptor?_eq_some_iff_of_not_countOverflows counts, isFront]
  exact isDecimal_nameOf small

/-- The name of a descriptor is read as its number. -/
theorem descriptor?_nameOf
    {number : Descriptor}
    (low : 0 ≤ number)
    (high : number ≤ maxDescriptor) :
    descriptor? (nameOf number) = some number := by
  obtain ⟨number, rfl⟩ := Int.eq_ofNat_of_zero_le low
  have small : number < 2 ^ 31 := Nat.lt_succ_of_le (Int.ofNat_le.mp high)
  have isRead := (@readsBack_nameOf number small [] (.inl rfl)).2
  rwa [List.append_nil] at isRead

/-- A name without zero bytes is read the same with zero bytes behind it. -/
theorem descriptor?_append_replicate
    {name : Bytes}
    (nulFree : 0 ∉ name)
    (padding : Nat) :
    descriptor? (name ++ List.replicate padding 0) = descriptor? name := by
  have isEnd : List.replicate padding (0 : UInt8) = [] ∨
      (List.replicate padding (0 : UInt8)).head? = some 0 := by
    cases padding with
    | zero => exact .inl rfl
    | succ padding => exact .inr rfl
  have sameFront : front (name ++ List.replicate padding 0) = front name := by
    rw [front_append_of_end nulFree isEnd, front_eq_self nulFree]
  unfold front at sameFront
  rw [descriptor?, descriptor?, sameFront]

theorem descriptor?_of_mem_dots
    {name : Bytes}
    (isDots : name ∈ dots) :
    descriptor? name = none := by
  rw [dots, List.mem_cons, List.mem_singleton] at isDots
  rcases isDots with rfl | rfl <;> decide

/-! ## All names -/

/-- A name is read if what stands before its first zero byte is the decimal number of a
descriptor, and otherwise not, as long as its digits can be counted. -/
structure ReadsDecimal (name : Bytes) : Prop where
  accepts (descriptor : Descriptor) :
    ¬CountOverflows name →
      (descriptor? name = some descriptor ↔ IsDecimal (front name) descriptor)
  /-- Reading fails for want of digits, or at the first byte that digits cannot go on
  with. -/
  refuses :
    ¬CountOverflows name →
      (descriptor? name = none ↔
        front name = [] ∨
          ∃ before byte after, front name = before ++ byte :: after ∧ FailsAt before byte)
  /-- Words are enough for every number on the way. -/
  fits :
    descriptor? name ≠ none → ∀ before byte after, front name = before ++ byte :: after →
      10 * decimalValue before + (byte.toNat - 48) < 2 ^ 31
  /-- Counting overflows just at the digit of number 2 ^ 31, if reading comes that far. -/
  overflows_iff :
    CountOverflows name ↔ ∃ digits rest, front name = digits ++ rest ∧ IsUncounted digits
  /-- Whether it does or not, a name is read if the word that counts its digits is
  positive. -/
  wraps (descriptor : Descriptor) :
    descriptor? name = some descriptor ↔
      IsDecimal (front name) descriptor ∧ 0 < Int32.ofNat (front name).length
  /-- The number of a descriptor is read back, whatever stands behind its end. -/
  readsBack (number : Nat) (rest : Bytes) :
    number < 2 ^ 31 → (rest = [] ∨ rest.head? = some 0) → name = nameOf number ++ rest →
      ¬CountOverflows name ∧ descriptor? name = some (number : Int)

/-- Exactly the decimal numbers of descriptors are read, as long as their digits can be
counted. -/
theorem readsDecimal (name : Bytes) : ReadsDecimal name where
  accepts _ counts := descriptor?_eq_some_iff_of_not_countOverflows counts
  refuses counts := descriptor?_eq_none_iff_of_not_countOverflows counts
  fits isRead before byte after parts := by
    obtain ⟨descriptor, isRead⟩ := Option.ne_none_iff_exists'.mp isRead
    have small := (descriptor?_eq_some_iff.mp isRead).1.small
    have shorter := decimalValue_le_append (before ++ [byte]) after
    rw [List.append_assoc, List.singleton_append, ← parts, decimalValue_concat] at shorter
    omega
  overflows_iff := countOverflows_iff
  wraps _ := descriptor?_eq_some_iff
  readsBack number rest small isEnd isName := isName ▸ readsBack_nameOf small isEnd

/-- The greatest number of a descriptor with zeros in front and bytes behind its end, the
number after it, and a name with too many digits before a byte that is none. -/
example :
    descriptor? (Bytes.ofText "0002147483647\x00x") = some 2147483647 ∧
      descriptor? (Bytes.ofText "2147483648") = none ∧
        descriptor? (Bytes.ofText "99999999999x") = none := by
  decide +kernel

theorem decimalValue_replicate_zero (count : Nat) :
    decimalValue (List.replicate count 48) = 0 := by
  induction count with
  | zero => rfl
  | succ count inductionHypothesis =>
      rw [List.replicate_succ', decimalValue_concat, inductionHypothesis]
      rfl

/-- So many zeros that they cannot be counted are the decimal number zero, but are not
read. -/
theorem exists_uncounted_of_descriptor? :
    let name : Bytes := List.replicate (2 ^ 31) 48
    IsDecimal (front name) 0 ∧ CountOverflows name ∧ descriptor? name = none := by
  intro name
  have many : name.length = 2 ^ 31 := List.length_replicate
  have areZeros : ∀ byte ∈ name, byte = 48 := fun _ => List.eq_of_mem_replicate
  have isZero : decimalValue name = 0 := decimalValue_replicate_zero (2 ^ 31)
  clear_value name
  have areDigits : ∀ byte ∈ name, IsDigit byte := by
    intro byte isMember
    rw [areZeros byte isMember]
    exact ⟨by decide, by decide⟩
  have small : decimalValue name < 2 ^ 31 := by
    rw [isZero]
    decide
  have isFront : front name = name :=
    front_eq_self fun isMember => absurd (areZeros 0 isMember) (by decide)
  have nonempty : name ≠ [] := by
    rintro rfl
    exact absurd many (by decide)
  refine ⟨?_, ?_, ?_⟩
  · rw [isFront]
    exact ⟨nonempty, areDigits, by rw [isZero]; rfl, small⟩
  · exact countOverflows_iff.mpr
      ⟨name, [], by rw [isFront, List.append_nil], areDigits, small, many⟩
  · rw [Option.eq_none_iff_forall_ne_some]
    intro descriptor isRead
    have positive := (descriptor?_eq_some_iff.mp isRead).2
    rw [isFront, many] at positive
    exact absurd positive (by decide)

end DirectoryRecord
end ChildProcess
