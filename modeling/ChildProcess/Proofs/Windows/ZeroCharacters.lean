import ChildProcess.Proofs.InheritedVariables
import ChildProcess.Proofs.Windows.EnvironmentBlock

/-!
# Zero characters in environment blocks

In a block the zero unit both separates entries and marks the end, and nothing keeps zero
characters out of the entries.  What is read from a block is therefore not the entries but
their parts between zero characters, up to the first part that is empty.  These are the
entries exactly if no entry has a zero character, which lies with the overrides alone,
since no entry of the parent can have one.
-/

namespace ChildProcess

/-! ## Splitting -/

section Splitting

variable {α : Type} [BEq α] [LawfulBEq α]

theorem splitOn_append_of_not_mem
    {separator : α}
    {first : List α}
    (absent : separator ∉ first)
    (rest : List α) :
    (first ++ rest).splitOn separator =
      (rest.splitOn separator).modifyHead (first ++ ·) := by
  induction first with
  | nil =>
      rw [List.nil_append]
      cases rest.splitOn separator <;> rfl
  | cons element first inductionHypothesis =>
      rw [List.mem_cons, not_or] at absent
      obtain ⟨different, absent⟩ := absent
      rw [List.cons_append, List.splitOn_cons_eq_if_modifyHead,
        if_neg (by simpa using Ne.symm different), inductionHypothesis absent,
        List.modifyHead_modifyHead]
      rfl

theorem not_mem_of_mem_splitOn
    {separator : α}
    {list part : List α}
    (isPart : part ∈ list.splitOn separator) :
    separator ∉ part := by
  induction list generalizing part with
  | nil => simp_all
  | cons element list inductionHypothesis =>
      rw [List.splitOn_cons_eq_if_modifyHead] at isPart
      split at isPart
      · rcases List.mem_cons.mp isPart with rfl | isPart
        · exact List.not_mem_nil
        · exact inductionHypothesis isPart
      · next different =>
        obtain ⟨first, others, parts⟩ :=
          List.exists_cons_of_ne_nil (List.splitOn_ne_nil separator list)
        rw [parts, List.modifyHead_cons] at isPart
        rw [parts] at inductionHypothesis
        rcases List.mem_cons.mp isPart with rfl | isPart
        · rw [List.mem_cons, not_or]
          refine ⟨fun same => different (by simp [same]), ?_⟩
          exact inductionHypothesis List.mem_cons_self
        · exact inductionHypothesis (List.mem_cons_of_mem _ isPart)

theorem takeWhile_append_cons_of_neg
    {α : Type}
    {condition : α → Bool}
    {stop : α}
    (stops : condition stop = false)
    (list behind : List α) :
    (list ++ stop :: behind).takeWhile condition = list.takeWhile condition := by
  induction list with
  | nil => simp [stops]
  | cons element list inductionHypothesis =>
      rw [List.cons_append, List.takeWhile_cons, List.takeWhile_cons, inductionHypothesis]

end Splitting

namespace Windows

/-! ## Parts of entries -/

/-- The parts of a text between its zero characters. -/
def parts (text : String) : List String :=
  (text.toList.splitOn '\x00').map String.ofList

/-- Reading ends with the first piece between zeros that is empty; a piece that has been
started is one in any case. -/
theorem readPieces_eq_takeWhile (units : List UInt16) :
    (readPieces false units).1 = (units.splitOn 0).takeWhile (!·.isEmpty) ∧
      (readPieces true units).1 =
        (units.splitOn 0).head (List.splitOn_ne_nil 0 units) ::
          (units.splitOn 0).tail.takeWhile (!·.isEmpty) := by
  induction units with
  | nil => exact ⟨rfl, rfl⟩
  | cons unit units inductionHypothesis =>
      obtain ⟨closed, opened⟩ := inductionHypothesis
      simp only [List.splitOn_cons_eq_if_modifyHead]
      by_cases isZero : unit = 0
      · simp [readPieces, isZero, closed]
      · obtain ⟨first, others, split⟩ :=
          List.exists_cons_of_ne_nil (List.splitOn_ne_nil 0 units)
        simp only [split, List.head_cons, List.tail_cons] at opened
        simp [readPieces, isZero, split, opened, extendPiece]

theorem splitOn_flatMap_utf16Units (characters : List Char) :
    (characters.flatMap utf16Units).splitOn 0 =
      (characters.splitOn '\x00').map (·.flatMap utf16Units) := by
  induction characters with
  | nil => rfl
  | cons character characters inductionHypothesis =>
      rw [List.flatMap_cons, List.splitOn_cons_eq_if_modifyHead]
      by_cases isZero : character = '\x00'
      · subst isZero
        have units : utf16Units '\x00' = [0] := by decide
        rw [units, List.singleton_append, List.splitOn_cons_eq_if_modifyHead,
          inductionHypothesis]
        rfl
      · -- The units of another character are not split, so that they join the first part.
        rw [splitOn_append_of_not_mem (zero_not_mem_utf16Units isZero), inductionHypothesis,
          if_neg (by simpa using isZero)]
        cases characters.splitOn '\x00' <;> rfl

/-- A text without units is empty. -/
theorem isEmpty_wide (text : String) : (wide text).isEmpty = (text == "") := by
  have units := charactersOf?_wide text
  rw [Bool.eq_iff_iff, List.isEmpty_iff, beq_iff_eq]
  constructor
  · intro isEmpty
    rw [isEmpty] at units
    exact String.toList_eq_nil_iff.mp (Option.some.inj units).symm
  · rintro rfl
    rfl

/-- The pieces of entries are the units of their parts. -/
theorem splitOn_flatMap_blockEntry (pairs : List (String × String)) (behind : List UInt16) :
    (pairs.flatMap blockEntry ++ behind).splitOn 0 =
      (pairs.flatMap fun binding => (parts (Launch.variableText binding)).map wide) ++
        behind.splitOn 0 := by
  induction pairs with
  | nil => rfl
  | cons binding pairs inductionHypothesis =>
      have entry : blockEntry binding = wide (Launch.variableText binding) ++ [0] := rfl
      have pieces : (wide (Launch.variableText binding)).splitOn 0 =
          (parts (Launch.variableText binding)).map wide := by
        rw [wide, splitOn_flatMap_utf16Units, parts, List.map_map]
        exact List.map_congr_left fun characters _ => by simp [wide]
      rw [List.flatMap_cons, List.flatMap_cons, entry, List.append_assoc, List.append_assoc,
        List.singleton_append, List.splitOn_eq_splitOnP, List.splitOnP_append_cons _ _ (by simp),
        ← List.splitOn_eq_splitOnP, ← List.splitOn_eq_splitOnP, pieces, inductionHypothesis,
        List.append_assoc]

theorem exists_blockOf_eq (pairs : List (String × String)) :
    ∃ behind, blockOf pairs = pairs.flatMap blockEntry ++ 0 :: behind := by
  unfold blockOf
  cases pairs with
  | nil => exact ⟨[0], rfl⟩
  | cons binding others =>
      have notEmpty : ((binding :: others).flatMap blockEntry).isEmpty = false := by
        simp [blockEntry]
      refine ⟨[], ?_⟩
      simp only [notEmpty]
      rfl

/-- What is read from a block are the parts of its entries up to the first empty one. -/
theorem readBlock_blockOf_fst (pairs : List (String × String)) :
    (readBlock (blockOf pairs)).1 =
      ((pairs.flatMap fun binding => parts (Launch.variableText binding)).takeWhile
        (· != "")).map some := by
  obtain ⟨behind, isBlock⟩ := exists_blockOf_eq pairs
  have pieces : (readPieces false (blockOf pairs)).1 =
      ((pairs.flatMap fun binding => parts (Launch.variableText binding)).map wide).takeWhile
        (!·.isEmpty) := by
    rw [(readPieces_eq_takeWhile _).1, isBlock, splitOn_flatMap_blockEntry,
      List.splitOn_cons_eq_if_modifyHead, if_pos (beq_self_eq_true 0),
      takeWhile_append_cons_of_neg (by rfl), List.map_flatMap]
  have isText (text : String) :
      (charactersOf? (wide text)).map String.ofList = some text := by
    rw [charactersOf?_wide, Option.map_some, String.ofList_toList]
  have notEmpty : (fun piece : List UInt16 => !piece.isEmpty) ∘ wide = (· != "") := by
    funext text
    rw [Function.comp_apply, isEmpty_wide, bne]
  unfold readBlock
  simp only [pieces, List.takeWhile_map, notEmpty, List.map_map]
  exact List.map_congr_left fun text _ => isText text

theorem parts_eq_singleton {text : String} (noZero : '\x00' ∉ text.toList) :
    parts text = [text] := by
  rw [parts, List.splitOn_eq_singleton noZero, List.map_singleton, String.ofList_toList]

theorem not_mem_of_mem_parts {text part : String} (isPart : part ∈ parts text) :
    '\x00' ∉ part.toList := by
  obtain ⟨characters, isSplit, rfl⟩ := List.mem_map.mp isPart
  rw [String.toList_ofList]
  exact not_mem_of_mem_splitOn isSplit

/-- Neither the key nor the value of a variable has a zero character. -/
def HasNoZero (binding : String × String) : Prop :=
  '\x00' ∉ binding.1.toList ∧ '\x00' ∉ binding.2.toList

theorem hasNoZero_iff {binding : String × String} :
    HasNoZero binding ↔ '\x00' ∉ (Launch.variableText binding).toList := by
  simp [HasNoZero, Launch.variableText]

/-- Entries without zero characters are read as they are. -/
theorem readBlock_blockOf_fst_of_hasNoZero
    {pairs : List (String × String)}
    (noZero : ∀ binding ∈ pairs, HasNoZero binding) :
    (readBlock (blockOf pairs)).1 =
      pairs.map fun binding => some (Launch.variableText binding) := by
  have whole : (pairs.flatMap fun binding => parts (Launch.variableText binding)) =
      pairs.map Launch.variableText := by
    rw [List.map_eq_flatMap]
    refine List.flatMap_congr fun binding isMember => ?_
    exact parts_eq_singleton (hasNoZero_iff.mp (noZero binding isMember))
  have goesOn : ∀ text ∈ pairs.map Launch.variableText, (text != "") = true := by
    intro text isText
    obtain ⟨binding, -, rfl⟩ := List.mem_map.mp isText
    simp [Launch.variableText]
  rw [readBlock_blockOf_fst, whole, List.takeWhile_eq_self_iff.mpr goesOn, List.map_map]
  rfl

theorem hasNoZero_of_isNulFree {binding : String × String} (isNulFree : IsNulFree binding) :
    HasNoZero binding :=
  hasNoZero_iff.mpr (mt zero_mem_ofText isNulFree)

end Windows

/-! ## The block of a launch -/

namespace Launch

open Windows (HasNoZero environmentBlock parts readBlock)

variable {launch : Launch} {parent : Environment} {binding : String × String}

theorem mem_effectiveEnvironment_of_mem_overrides
    (isOverride : binding ∈ launch.overrides.entries) :
    binding ∈ (launch.effectiveEnvironment parent).entries := by
  have found : launch.overrides.get? binding.1 = some binding.2 :=
    OrderedMap.mem_entries_iff.mp isOverride
  refine OrderedMap.mem_entries_iff.mpr ?_
  rw [get?_effectiveEnvironment, found, Option.some_or]

/-- What is no override is inherited. -/
theorem mem_overrides_or_inherited
    (isMember : binding ∈ (launch.effectiveEnvironment parent).entries) :
    binding ∈ launch.overrides.entries ∨ binding ∈ launch.inheritedVariables parent := by
  have found : (launch.effectiveEnvironment parent).get? binding.1 = some binding.2 :=
    OrderedMap.mem_entries_iff.mp isMember
  rw [get?_effectiveEnvironment, Option.or_eq_some_iff] at found
  rcases found with isOverride | ⟨-, isInherited⟩
  · exact .inl (OrderedMap.mem_entries_iff.mpr isOverride)
  · obtain ⟨before, after, same, -⟩ := List.lookup_eq_some_iff.mp isInherited
    refine .inr (List.mem_reverse.mp ?_)
    rw [same]
    exact List.mem_append_right _ List.mem_cons_self

/-- Where the parent's entries have no zero bytes, neither have its variables. -/
theorem hasNoZero_of_mem_inherited
    (nulFree : ∀ entry ∈ parent.entries, 0 ∉ entry)
    (isMember : binding ∈ launch.inheritedVariables parent) :
    HasNoZero binding := by
  unfold inheritedVariables at isMember
  split at isMember
  · have holds := (Environment.mem_textVariables_iff.mp isMember).2
    have noZero := nulFree _ holds
    rw [Environment.entryOf, List.mem_append, List.mem_cons, not_or, not_or] at noZero
    exact ⟨mt Windows.zero_mem_ofText noZero.1, mt Windows.zero_mem_ofText noZero.2.2⟩
  · cases isMember

theorem readBlock_environmentBlock_fst
    (noZero : ∀ binding ∈ (launch.effectiveEnvironment parent).entries, HasNoZero binding) :
    (readBlock (environmentBlock launch parent)).1 =
      (launch.blockVariables parent).map fun binding => some (variableText binding) := by
  refine Windows.readBlock_blockOf_fst_of_hasNoZero fun binding isMember => ?_
  exact noZero binding ((Windows.sortVariables_perm _).mem_iff.mp isMember)

/-- Exactly the variables of a launch are read from its block. -/
def ReadsVariables (launch : Launch) (parent : Environment) : Prop :=
  ∀ entry?, entry? ∈ (readBlock (environmentBlock launch parent)).1 ↔
    ∃ binding ∈ (launch.effectiveEnvironment parent).entries,
      entry? = some (variableText binding)

/-- Without zero characters all entries are read; a part of one that has some is no
entry. -/
theorem readsVariables_iff :
    launch.ReadsVariables parent ↔
      ∀ binding ∈ (launch.effectiveEnvironment parent).entries, HasNoZero binding := by
  have permutes : (launch.blockVariables parent).Perm _ := Windows.sortVariables_perm _
  constructor
  · intro reads binding isMember
    have isEntry := (reads (some (variableText binding))).mpr ⟨binding, isMember, rfl⟩
    have isRead : (readBlock (environmentBlock launch parent)).1 = _ :=
      Windows.readBlock_blockOf_fst (launch.blockVariables parent)
    rw [isRead] at isEntry
    obtain ⟨text, isText, same⟩ := List.mem_map.mp isEntry
    rw [Option.some_inj] at same
    obtain ⟨other, -, isPart⟩ :=
      List.mem_flatMap.mp ((List.takeWhile_sublist _).subset isText)
    exact Windows.hasNoZero_iff.mpr (same ▸ Windows.not_mem_of_mem_parts isPart)
  · intro noZero entry?
    rw [readBlock_environmentBlock_fst noZero, List.mem_map]
    simp only [permutes.mem_iff, eq_comm]

/-- What is read from the block of a launch, whatever characters its variables have. -/
structure BlockReads (launch : Launch) (parent : Environment) : Prop where
  /-- The parts of the entries are read up to the first one that is empty. -/
  reads :
    (readBlock (environmentBlock launch parent)).1 =
      (((launch.blockVariables parent).flatMap fun binding =>
        parts (variableText binding)).takeWhile (· != "")).map some
  /-- Only zero characters can make a block say something else than the variables, and
  they always do. -/
  faithful_iff :
    launch.ReadsVariables parent ↔
      ∀ binding ∈ (launch.effectiveEnvironment parent).entries, HasNoZero binding
  /-- What is inherited has none, since no entry of a process can have one. -/
  ofOverrides :
    (∀ entry ∈ parent.entries, 0 ∉ entry) →
      ((∀ binding ∈ (launch.effectiveEnvironment parent).entries, HasNoZero binding) ↔
        ∀ binding ∈ launch.overrides.entries, HasNoZero binding)
  /-- A request for the launch would not be made with a zero character. -/
  accepted (path : SearchPath) (request : ExecRequest) :
    ExecRequest.ofLaunch launch path parent = .ok request →
      ∀ binding ∈ (launch.effectiveEnvironment parent).entries, HasNoZero binding

/-- Every block is read as the parts of its entries. -/
theorem blockReads (launch : Launch) (parent : Environment) :
    launch.BlockReads parent where
  reads := Windows.readBlock_blockOf_fst (launch.blockVariables parent)
  faithful_iff := readsVariables_iff
  ofOverrides nulFree := by
    constructor
    · intro noZero binding isOverride
      exact noZero binding (mem_effectiveEnvironment_of_mem_overrides isOverride)
    · intro noZero binding isMember
      rcases mem_overrides_or_inherited isMember with isOverride | isInherited
      · exact noZero binding isOverride
      · exact hasNoZero_of_mem_inherited nulFree isInherited
  accepted _ _ accepted binding isMember :=
    Windows.hasNoZero_of_isNulFree (isNulFree_of_ofLaunch accepted binding isMember)

/-- A value with zero characters brings in a variable that nobody has named, and cuts off
those behind it. -/
theorem exists_injected_of_environmentBlock :
    let launch := ofSettings
      [.command "true", .environment "A" "1\x00B=2\x00", .environment "C" "3"]
    (launch.effectiveEnvironment ⟨[]⟩).entries = [("A", "1\x00B=2\x00"), ("C", "3")] ∧
      (readBlock (environmentBlock launch ⟨[]⟩)).1 = [some "A=1", some "B=2"] ∧
        ¬launch.ReadsVariables ⟨[]⟩ := by
  intro launch
  have entries : (launch.effectiveEnvironment ⟨[]⟩).entries =
      [("A", "1\x00B=2\x00"), ("C", "3")] := by
    decide +kernel
  have isSorted : launch.blockVariables ⟨[]⟩ = [("A", "1\x00B=2\x00"), ("C", "3")] := by
    rw [blockVariables, entries]
    exact List.mergeSort_of_pairwise (by decide +kernel)
  have isRead : (readBlock (environmentBlock launch ⟨[]⟩)).1 = [some "A=1", some "B=2"] := by
    show (readBlock (Windows.blockOf (launch.blockVariables ⟨[]⟩))).1 = _
    rw [isSorted]
    decide +kernel
  refine ⟨entries, isRead, fun reads => ?_⟩
  have injected := (reads (some "B=2")).mp (by rw [isRead]; simp)
  rw [entries] at injected
  revert injected
  decide +kernel

end Launch
end ChildProcess
