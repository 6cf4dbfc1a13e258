import ChildProcess.Proofs.LaunchSettings
import ChildProcess.Proofs.Marshalling
import ChildProcess.Windows.EnvironmentBlock

/-!
# Environment blocks say what environments say

A block has its entries in a row, each with a zero unit behind it, in UTF-16, where some
characters take two units.  No unit of an entry without zero characters is zero, and an
entry has at least an equals sign, so that the entries can be told from one another and
from the end.  What is read from the block of a launch is therefore what the launch hands
over elsewhere, only in the order of the uppercase keys.
-/

namespace ChildProcess
namespace Windows

/-! ## Characters and their units -/

/-- A unit that is no surrogate is read as the character with its number. -/
theorem charactersOf?_cons
    {number : Nat}
    (isBasic : number < 0x10000)
    (notSurrogate : number < 0xD800 ∨ 0xE000 ≤ number)
    (rest : List UInt16) :
    charactersOf? (UInt16.ofNat number :: rest) =
      (charactersOf? rest).map (Char.ofNat number :: ·) := by
  have same : (UInt16.ofNat number).toNat = number := UInt16.toNat_ofNat_of_lt' isBasic
  have isAlone : UInt16.ofNat number < 0xD800 ∨ 0xE000 ≤ UInt16.ofNat number := by
    rwa [UInt16.lt_iff_toNat_lt, UInt16.le_iff_toNat_le, same]
  rw [charactersOf?.eq_def]
  simp only [isAlone, if_true, same]

/-- Two surrogates are read as one character, of whose number each has ten bits. -/
theorem charactersOf?_cons_cons
    {offset : Nat}
    (inRange : offset < 0x100000)
    (rest : List UInt16) :
    charactersOf? (UInt16.ofNat (0xD800 + offset / 0x400) ::
        UInt16.ofNat (0xDC00 + offset % 0x400) :: rest) =
      (charactersOf? rest).map (Char.ofNat (0x10000 + offset) :: ·) := by
  have high : (UInt16.ofNat (0xD800 + offset / 0x400)).toNat = 0xD800 + offset / 0x400 :=
    UInt16.toNat_ofNat_of_lt' (by rw [UInt16.size]; omega)
  have low : (UInt16.ofNat (0xDC00 + offset % 0x400)).toNat = 0xDC00 + offset % 0x400 :=
    UInt16.toNat_ofNat_of_lt' (by rw [UInt16.size]; omega)
  have notAlone : ¬(UInt16.ofNat (0xD800 + offset / 0x400) < 0xD800 ∨
      0xE000 ≤ UInt16.ofNat (0xD800 + offset / 0x400)) := by
    rw [UInt16.lt_iff_toNat_lt, UInt16.le_iff_toNat_le, high]
    show ¬(0xD800 + offset / 0x400 < 0xD800 ∨ 0xE000 ≤ 0xD800 + offset / 0x400)
    omega
  have isHigh : ¬0xDC00 ≤ UInt16.ofNat (0xD800 + offset / 0x400) := by
    rw [UInt16.le_iff_toNat_le, high]
    show ¬0xDC00 ≤ 0xD800 + offset / 0x400
    omega
  have isLow : 0xDC00 ≤ UInt16.ofNat (0xDC00 + offset % 0x400) ∧
      UInt16.ofNat (0xDC00 + offset % 0x400) < 0xE000 := by
    rw [UInt16.lt_iff_toNat_lt, UInt16.le_iff_toNat_le, low]
    show 0xDC00 ≤ 0xDC00 + offset % 0x400 ∧ 0xDC00 + offset % 0x400 < 0xE000
    omega
  have together : 0x10000 + (0xD800 + offset / 0x400 - 0xD800) * 0x400 +
      (0xDC00 + offset % 0x400 - 0xDC00) = 0x10000 + offset := by
    omega
  rw [charactersOf?.eq_def]
  simp only [notAlone, if_false, isHigh, isLow, and_self, if_true, high, low, together]

theorem toNat_isScalar (character : Char) :
    character.toNat < 0xD800 ∨ 0xDFFF < character.toNat ∧ character.toNat < 0x110000 :=
  character.valid

/-- A character has one unit, or two that are surrogates. -/
theorem utf16Units_cases (character : Char) :
    character.toNat < 0x10000 ∧ utf16Units character = [UInt16.ofNat character.toNat] ∨
      ∃ offset < 0x100000, character.toNat = 0x10000 + offset ∧
        utf16Units character =
          [UInt16.ofNat (0xD800 + offset / 0x400), UInt16.ofNat (0xDC00 + offset % 0x400)] := by
  have isScalar := toNat_isScalar character
  unfold utf16Units
  by_cases isBasic : character.toNat < 0x10000
  · exact .inl ⟨isBasic, if_pos isBasic⟩
  · exact .inr ⟨character.toNat - 0x10000, by omega, by omega, if_neg isBasic⟩

/-- The units of a character are read as that character, whatever comes behind them. -/
theorem charactersOf?_utf16Units_append (character : Char) (rest : List UInt16) :
    charactersOf? (utf16Units character ++ rest) =
      (charactersOf? rest).map (character :: ·) := by
  have isScalar := toNat_isScalar character
  rcases utf16Units_cases character with ⟨isBasic, units⟩ | ⟨offset, inRange, isNumber, units⟩
  · rw [units, List.singleton_append, charactersOf?_cons isBasic (by omega),
      Char.ofNat_toNat]
  · rw [units, List.cons_append, List.singleton_append, charactersOf?_cons_cons inRange,
      ← isNumber, Char.ofNat_toNat]

/-- A text is what its units stand for. -/
theorem charactersOf?_wide (text : String) : charactersOf? (wide text) = some text.toList := by
  unfold wide
  induction text.toList with
  | nil => rfl
  | cons character characters inductionHypothesis =>
      rw [List.flatMap_cons, charactersOf?_utf16Units_append, inductionHypothesis]
      rfl

/-- Only the zero character has a zero unit. -/
theorem zero_not_mem_utf16Units {character : Char} (nonzero : character ≠ '\x00') :
    0 ∉ utf16Units character := by
  have positive : character.toNat ≠ 0 := by
    intro isZero
    exact nonzero (by rw [← Char.ofNat_toNat character, isZero])
  have nonzeroUnit {number : Nat} (isPositive : number ≠ 0) (isUnit : number < 0x10000) :
      (0 : UInt16) ≠ UInt16.ofNat number := by
    intro isZero
    apply isPositive
    rw [← UInt16.toNat_ofNat_of_lt' isUnit, ← isZero]
    rfl
  rcases utf16Units_cases character with ⟨isBasic, units⟩ | ⟨offset, inRange, -, units⟩
  · rw [units, List.mem_singleton]
    exact nonzeroUnit positive isBasic
  · rw [units, List.mem_pair, not_or]
    exact ⟨nonzeroUnit (by omega) (by omega), nonzeroUnit (by omega) (by omega)⟩

theorem zero_mem_ofText {text : String} (isMember : '\x00' ∈ text.toList) :
    0 ∈ Bytes.ofText text := by
  obtain ⟨before, after, parts⟩ := List.append_of_mem isMember
  have inParts : text = String.ofList before ++ ("\x00" ++ String.ofList after) := by
    rw [← @String.ofList_toList text, parts]
    simp
  have zero : Bytes.ofText "\x00" = [0] := by decide
  simp [inParts, Bytes.ofText_append, zero]

/-- A text without zero bytes has no zero units either. -/
theorem zero_not_mem_wide {text : String} (nulFree : 0 ∉ Bytes.ofText text) :
    0 ∉ wide text := by
  intro isMember
  obtain ⟨character, isCharacter, isUnit⟩ := List.mem_flatMap.mp isMember
  refine zero_not_mem_utf16Units ?_ isUnit
  rintro rfl
  exact nulFree (zero_mem_ofText isCharacter)

/-! ## Entries and their pieces -/

/-- Units without a zero are one piece up to the zero behind them, if they are any or if
they go on with a piece. -/
theorem readPieces_append_zero
    {isOpen : Bool}
    {piece : List UInt16}
    (nonzero : 0 ∉ piece)
    (isPiece : isOpen = true ∨ piece ≠ [])
    (rest : List UInt16) :
    readPieces isOpen (piece ++ 0 :: rest) =
      (piece :: (readPieces false rest).1, (readPieces false rest).2) := by
  induction piece generalizing isOpen with
  | nil =>
      have isOpen : isOpen = true := by simpa using isPiece
      simp [readPieces, isOpen]
  | cons unit piece inductionHypothesis =>
      have isNotZero : unit ≠ 0 := fun isZero => nonzero (isZero ▸ List.mem_cons_self)
      have nonzero : 0 ∉ piece := mt (List.mem_cons_of_mem unit) nonzero
      rw [List.cons_append, readPieces, if_neg isNotZero,
        inductionHypothesis nonzero (.inl rfl)]
      rfl

/-- The units of a text with an equals sign in it. -/
theorem wide_variableText_ne_nil (binding : String × String) :
    wide (Launch.variableText binding) ≠ [] := by
  intro isEmpty
  have read := charactersOf?_wide (Launch.variableText binding)
  rw [isEmpty] at read
  have noCharacters : [] = (Launch.variableText binding).toList := Option.some.inj read
  simp [Launch.variableText] at noCharacters

/-- A binding none of whose characters is zero. -/
def IsNulFree (binding : String × String) : Prop :=
  0 ∉ Bytes.ofText (Launch.variableText binding)

/-- Entries are the first pieces, each apart from the others, before whatever follows. -/
theorem readPieces_flatMap_blockEntry
    {pairs : List (String × String)}
    (nulFree : ∀ binding ∈ pairs, IsNulFree binding)
    (behind : List UInt16) :
    readPieces false (pairs.flatMap blockEntry ++ behind) =
      (pairs.map (fun binding => wide (Launch.variableText binding)) ++
        (readPieces false behind).1, (readPieces false behind).2) := by
  induction pairs with
  | nil => rfl
  | cons binding pairs inductionHypothesis =>
      obtain ⟨isNulFree, nulFree⟩ := List.forall_mem_cons.mp nulFree
      have entry : blockEntry binding = wide (Launch.variableText binding) ++ [0] := rfl
      rw [List.flatMap_cons, entry, List.append_assoc, List.append_assoc,
        List.singleton_append,
        readPieces_append_zero (zero_not_mem_wide isNulFree)
          (.inr (wide_variableText_ne_nil binding)),
        inductionHypothesis nulFree]
      rfl

/-- A block is read as the texts that it was written for.  Behind its last entry it has
one unit that is read as its end; a block without entries has another one. -/
theorem readBlock_blockOf_append
    {pairs : List (String × String)}
    (nulFree : ∀ binding ∈ pairs, IsNulFree binding)
    (behind : List UInt16) :
    readBlock (blockOf pairs ++ behind) =
      (pairs.map fun binding => some (Launch.variableText binding),
        if pairs = [] then 0 :: behind else behind) := by
  have texts : (pairs.map fun binding => wide (Launch.variableText binding)).map
      (fun piece => (charactersOf? piece).map String.ofList) =
        pairs.map fun binding => some (Launch.variableText binding) := by
    simp [charactersOf?_wide]
  have atEnd (rest : List UInt16) : readPieces false (0 :: rest) = ([], rest) := by
    simp [readPieces]
  unfold readBlock blockOf
  cases pairs with
  | nil => simp [atEnd]
  | cons binding others =>
      have notEmpty : ((binding :: others).flatMap blockEntry).isEmpty = false := by
        simp [blockEntry]
      simp only [notEmpty]
      rw [if_neg (by decide), if_neg (List.cons_ne_nil _ _), List.append_assoc,
        readPieces_flatMap_blockEntry nulFree, List.singleton_append, atEnd,
        List.append_nil, texts]

/-- Read a block with all that belongs to it, which is one more unit if there are no
entries. -/
def decodeBlock (block : List UInt16) : List (Option String) × List UInt16 :=
  let (entries, behind) := readBlock block
  (entries, if entries.isEmpty then behind.drop 1 else behind)

theorem decodeBlock_blockOf_append
    {pairs : List (String × String)}
    (nulFree : ∀ binding ∈ pairs, IsNulFree binding)
    (behind : List UInt16) :
    decodeBlock (blockOf pairs ++ behind) =
      (pairs.map fun binding => some (Launch.variableText binding), behind) := by
  rw [decodeBlock, readBlock_blockOf_append nulFree]
  cases pairs <;> simp

/-! ## The order of the entries -/

/-- Whether a key may stand in front of another one. -/
def mayPrecede (first second : List Char) : Bool :=
  !decide (second < first)

theorem mayPrecede_iff {first second : List Char} :
    mayPrecede first second = true ↔ ¬second < first := by
  simp [mayPrecede]

theorem mayPrecede_trans (first second third : List Char) :
    mayPrecede first second = true → mayPrecede second third = true →
      mayPrecede first third = true := by
  simp only [mayPrecede_iff]
  exact @List.le_trans Char _ _ _ _ first second third

theorem mayPrecede_total (first second : List Char) :
    (mayPrecede first second || mayPrecede second first) = true := by
  simp only [Bool.or_eq_true, mayPrecede_iff]
  exact @List.le_total Char _ _ first second

theorem sortVariables_perm (pairs : List (String × String)) : (sortVariables pairs).Perm pairs :=
  List.mergeSort_perm pairs _

/-- No variable stands behind one whose key is greater in uppercase. -/
def Ascends (pairs : List (String × String)) : Prop :=
  pairs.Pairwise fun left right => ¬Text.uppercase right.1 < Text.uppercase left.1

instance : DecidablePred Ascends :=
  fun pairs => inferInstanceAs (Decidable (List.Pairwise _ pairs))

theorem ascends_sortVariables (pairs : List (String × String)) :
    Ascends (sortVariables pairs) := by
  simp only [Ascends, ← mayPrecede_iff]
  exact List.pairwise_mergeSort
    (fun first second third =>
      mayPrecede_trans (sortKey first) (sortKey second) (sortKey third))
    (fun first second => mayPrecede_total (sortKey first) (sortKey second)) pairs

/-- Variables with one uppercase key stand as they did. -/
theorem filter_sortVariables (pairs : List (String × String)) (key : List Char) :
    (sortVariables pairs).filter (sortKey · = key) = pairs.filter (sortKey · = key) :=
  filter_mergeSort mayPrecede_trans mayPrecede_total sortKey pairs key

theorem Ascends.not_lt_of_mem
    {leading binding : String × String}
    {rest : List (String × String)}
    (ascends : Ascends (leading :: rest))
    (isMember : binding ∈ leading :: rest) :
    ¬Text.uppercase binding.1 < Text.uppercase leading.1 := by
  rcases List.mem_cons.mp isMember with rfl | isMember
  · exact List.lt_irrefl _
  · exact (List.pairwise_cons.mp ascends).1 binding isMember

theorem mem_of_filter_eq
    {binding : String × String}
    {first second : List (String × String)}
    (same : first.filter (Text.uppercase ·.1 = Text.uppercase binding.1) =
      second.filter (Text.uppercase ·.1 = Text.uppercase binding.1))
    (isMember : binding ∈ first) :
    binding ∈ second :=
  List.mem_of_mem_filter (same ▸ List.mem_filter.mpr ⟨isMember, decide_eq_true rfl⟩)

/-- Variables have only one order in which uppercase keys do not descend and those with
one uppercase key stand as they did. -/
theorem Ascends.eq_of_stable
    {first second : List (String × String)}
    (firstAscends : Ascends first)
    (secondAscends : Ascends second)
    (stable : ∀ binding ∈ first ++ second,
      first.filter (Text.uppercase ·.1 = Text.uppercase binding.1) =
        second.filter (Text.uppercase ·.1 = Text.uppercase binding.1)) :
    first = second := by
  induction first generalizing second with
  | nil =>
      refine (List.eq_nil_iff_forall_not_mem.mpr fun binding isMember => ?_).symm
      exact List.not_mem_nil (mem_of_filter_eq (stable binding isMember).symm isMember)
  | cons leading rest inductionHypothesis =>
      have leadingStable := stable leading List.mem_cons_self
      cases second with
      | nil =>
          exact absurd (mem_of_filter_eq leadingStable List.mem_cons_self) List.not_mem_nil
      | cons otherLeading otherRest =>
          have otherStable := stable otherLeading (by simp)
          -- Neither of the two leading keys is less than the other one.
          have same : Text.uppercase leading.1 = Text.uppercase otherLeading.1 :=
            List.le_antisymm
              (firstAscends.not_lt_of_mem
                (mem_of_filter_eq otherStable.symm List.mem_cons_self))
              (secondAscends.not_lt_of_mem
                (mem_of_filter_eq leadingStable List.mem_cons_self))
          rw [List.filter_cons_of_pos (by simp),
            List.filter_cons_of_pos (by simp [same])] at leadingStable
          obtain ⟨rfl, -⟩ := List.cons.inj leadingStable
          have restStable : ∀ binding ∈ rest ++ otherRest,
              rest.filter (Text.uppercase ·.1 = Text.uppercase binding.1) =
                otherRest.filter (Text.uppercase ·.1 = Text.uppercase binding.1) := by
            intro binding isMember
            have whole := stable binding (by
              rcases List.mem_append.mp isMember with isMember | isMember <;> simp [isMember])
            rw [List.filter_cons, List.filter_cons] at whole
            split at whole
            · exact (List.cons.inj whole).2
            · exact whole
          rw [inductionHypothesis (List.pairwise_cons.mp firstAscends).2
            (List.pairwise_cons.mp secondAscends).2 restStable]

end Windows

/-! ## The block of a launch -/

namespace Launch

open Windows (Ascends IsNulFree blockOf decodeBlock environmentBlock sortVariables)

/-- The variables of a launch in the order of its block. -/
def blockVariables (launch : Launch) (parent : Environment) : List (String × String) :=
  sortVariables (launch.effectiveEnvironment parent).entries

/-- The block of a launch says what a request for it hands over as its environment. -/
structure BlockAgrees (launch : Launch) (parent : Environment) (request : ExecRequest) :
    Prop where
  /-- One entry is read for each variable, and everything that belongs to the block. -/
  decodes (behind : List UInt16) :
    decodeBlock (environmentBlock launch parent ++ behind) =
      ((launch.blockVariables parent).map fun binding => some (variableText binding), behind)
  /-- The same strings are handed over, in another order. -/
  handedOver :
    ((launch.blockVariables parent).map fun binding => Bytes.ofText (variableText binding)).Perm
      request.environment.read
  permutes : (launch.blockVariables parent).Perm (launch.effectiveEnvironment parent).entries
  ascends : Ascends (launch.blockVariables parent)
  /-- Variables whose uppercase keys are equal keep their order. -/
  stable (key : List Char) :
    (launch.blockVariables parent).filter (Text.uppercase ·.1 = key) =
      (launch.effectiveEnvironment parent).entries.filter (Text.uppercase ·.1 = key)

theorem isNulFree_of_ofLaunch
    {launch : Launch}
    {path : SearchPath}
    {parent : Environment}
    {request : ExecRequest}
    (accepted : ExecRequest.ofLaunch launch path parent = .ok request) :
    ∀ binding ∈ (launch.effectiveEnvironment parent).entries, IsNulFree binding := by
  intro binding isMember
  apply ExecRequest.nulFree_of_ofLaunch accepted
    ("environment entry", Bytes.ofText (variableText binding))
  simp only [handedOver, List.mem_append, List.mem_map]
  exact .inl (.inr ⟨binding, isMember, rfl⟩)

/-- Whatever launch can be handed over, its block agrees with its environment. -/
theorem blockAgrees_of_ofLaunch
    {launch : Launch}
    {path : SearchPath}
    {parent : Environment}
    {request : ExecRequest}
    (accepted : ExecRequest.ofLaunch launch path parent = .ok request) :
    launch.BlockAgrees parent request := by
  have permutes : (launch.blockVariables parent).Perm _ := Windows.sortVariables_perm _
  constructor
  case decodes =>
    refine Windows.decodeBlock_blockOf_append fun binding isMember => ?_
    exact isNulFree_of_ofLaunch accepted binding (permutes.mem_iff.mp isMember)
  case handedOver =>
    obtain ⟨_, entries, isMadeOf, -, isEnvironment, -, -⟩ :=
      ExecRequest.isMadeOf_of_ofLaunch accepted
    rw [isMadeOf.environment, PointerVector.read_ofList, isEnvironment,
      List.map_congr_left fun binding _ => ExecRequest.entry_eq_ofText binding]
    exact permutes.map _
  case permutes => exact permutes
  case ascends => exact Windows.ascends_sortVariables _
  case stable => exact Windows.filter_sortVariables _

/-- Keys that differ only in case, one whose uppercase is longer and stands in front of
another for that, a character with two units, and a variable of the parent with no
value. -/
theorem blockAgrees_of_equal_uppercase :
    let launch := ofSettings
      [.command "true", .environment "path" "1", .environment "STRASSF" "2",
        .environment "straße" "😀", .environment "PATH" "3"]
    let parent : Environment := ⟨[Bytes.ofText "HOME="]⟩
    ∃ request,
      ExecRequest.ofLaunch launch (SearchPath.parse []) parent = .ok request ∧
        (launch.effectiveEnvironment parent).entries =
          [("HOME", ""), ("path", "1"), ("STRASSF", "2"), ("straße", "😀"), ("PATH", "3")] ∧
        (decodeBlock (environmentBlock launch parent)).1 =
          [some "HOME=", some "path=1", some "PATH=3", some "straße=😀", some "STRASSF=2"] ∧
        launch.BlockAgrees parent request := by
  intro launch parent
  have nulFree : ∀ string ∈ launch.handedOver parent, 0 ∉ string.2 := by
    decide +kernel
  obtain ⟨request, accepted⟩ :=
    @ExecRequest.exists_ofLaunch launch (SearchPath.parse []) parent nulFree
  have agrees := blockAgrees_of_ofLaunch accepted
  have effective : (launch.effectiveEnvironment parent).entries =
      [("HOME", ""), ("path", "1"), ("STRASSF", "2"), ("straße", "😀"), ("PATH", "3")] := by
    decide +kernel
  have inOrder : launch.blockVariables parent =
      [("HOME", ""), ("path", "1"), ("PATH", "3"), ("straße", "😀"), ("STRASSF", "2")] := by
    refine agrees.ascends.eq_of_stable (by decide +kernel) fun binding isMember => ?_
    rw [List.mem_append, agrees.permutes.mem_iff, effective, ← List.mem_append] at isMember
    rw [agrees.stable, effective]
    revert binding
    decide +kernel
  have decoded := agrees.decodes []
  rw [List.append_nil, inOrder] at decoded
  exact ⟨request, accepted, effective, congrArg Prod.fst decoded, agrees⟩

end Launch
end ChildProcess
