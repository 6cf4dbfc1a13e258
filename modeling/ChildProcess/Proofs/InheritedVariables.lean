import ChildProcess.Proofs.ExecutableSearch
import ChildProcess.Proofs.LaunchSettings
import Mathlib.Data.List.TakeWhile

/-!
# Variables that are inherited

The parent's environment is read in two ways: a single variable is looked up in the
entries as they are, and for the child all of them are enumerated, split into names
and values, and put into a map of texts.  What a variable that no override touches
comes to on this way is said here by the entries alone: it is passed on as far as its
name and its value are texts.
-/

namespace ChildProcess

namespace Bytes

/-- The bytes of which a text was read are its bytes. -/
theorem eq_ofText_of_toText?
    {bytes : Bytes}
    {text : String}
    (read : bytes.toText? = some text) :
    bytes = ofText text := by
  unfold toText? String.fromUTF8? at read
  split at read
  · cases read
    rfl
  · cases read

theorem ofText_injective : Function.Injective ofText := by
  intro first second same
  have read := congrArg toText? same
  rwa [toText?_ofText, toText?_ofText, Option.some_inj] at read

/-- Some bytes are those of a text. -/
def IsText (bytes : Bytes) : Prop :=
  ∃ text, bytes = ofText text

end Bytes

/-! ## Entries and what is read of them -/

/-- Bytes that can be the name of a variable: there is a first one, and behind it
none is the byte between names and values. -/
def IsVariableName : Bytes → Prop
  | [] => False
  | _ :: rest => Environment.equals ∉ rest

instance : DecidablePred IsVariableName
  | [] => inferInstanceAs (Decidable False)
  | _ :: rest => inferInstanceAs (Decidable (Environment.equals ∉ rest))

namespace Environment

/-- The entry of a variable. -/
def entryOf (name value : Bytes) : Bytes :=
  name ++ equals :: value

/-- An environment has an entry for a variable with a value. -/
def Holds (environment : Environment) (name value : Bytes) : Prop :=
  entryOf name value ∈ environment.entries

/-- The value that is found in an entry is what stands behind the name. -/
theorem valueOf?_eq_some_iff
    {name entry value : Bytes} :
    valueOf? name entry = some value ↔ entry = entryOf name value := by
  unfold valueOf? entryOf
  constructor
  · intro found
    split at found
    · rename_i begins
      obtain ⟨rest, rfl⟩ := List.isPrefixOf_iff_prefix.mp begins
      simpa using found
    · cases found
  · rintro rfl
    simp

/-- An entry is split behind its name. -/
theorem splitEntry_entryOf
    {name : Bytes}
    (isName : IsVariableName name)
    (value : Bytes) :
    splitEntry (entryOf name value) = some (name, value) := by
  cases name with
  | nil => exact isName.elim
  | cons first rest =>
    have others : ∀ byte ∈ rest, (byte != equals) = true := by
      intro byte isThere
      simpa using fun same : byte = equals => isName (same ▸ isThere)
    simp [entryOf, splitEntry, List.takeWhile_append_of_pos others,
      List.dropWhile_append_of_pos others]

/-- What was split is the entry of a name and a value. -/
theorem eq_of_splitEntry
    {entry name value : Bytes}
    (isSplit : splitEntry entry = some (name, value)) :
    IsVariableName name ∧ entry = entryOf name value := by
  cases entry with
  | nil => cases isSplit
  | cons first rest =>
    rw [splitEntry] at isSplit
    split at isSplit
    case isFalse => cases isSplit
    case isTrue contains =>
      obtain ⟨rfl, rfl⟩ := Prod.mk.inj (Option.some.inj isSplit)
      have without : equals ∉ rest.takeWhile (· != equals) := fun isThere => by
        simpa using List.mem_takeWhile_imp isThere
      refine ⟨without, ?_⟩
      have divided : rest.takeWhile (· != equals) ++ rest.dropWhile (· != equals) =
          rest :=
        List.takeWhile_append_dropWhile
      -- The first byte that is dropped is the one between the name and the value.
      cases dropped : rest.dropWhile (· != equals) with
      | nil =>
        rw [dropped, List.append_nil] at divided
        rw [divided] at without
        exact absurd (List.contains_iff_mem.mp contains) without
      | cons mark value =>
        have stopped := List.head?_dropWhile_not (· != equals) rest
        rw [dropped] at stopped divided
        have isMark : mark = equals := by simpa using stopped
        rw [isMark] at divided
        rw [entryOf, List.drop_one, List.tail_cons, List.cons_append, divided]

/-- The entry of a variable determines its name and its value. -/
theorem entryOf_inj
    {name value otherName otherValue : Bytes}
    (isName : IsVariableName name)
    (otherIsName : IsVariableName otherName) :
    entryOf name value = entryOf otherName otherValue ↔
      name = otherName ∧ value = otherValue := by
  constructor
  · intro same
    have split := congrArg splitEntry same
    rwa [splitEntry_entryOf isName, splitEntry_entryOf otherIsName, Option.some_inj,
      Prod.mk.injEq] at split
  · rintro ⟨rfl, rfl⟩
    rfl

variable {environment : Environment}

/-- A value that is looked up stands in an entry for the variable. -/
theorem holds_of_lookup
    {name value : Bytes}
    (found : environment.lookup name = some value) :
    environment.Holds name value := by
  obtain ⟨entry, isThere, isFound⟩ := List.exists_of_findSome?_eq_some found
  rwa [valueOf?_eq_some_iff.mp isFound] at isThere

/-- Nothing is found just if there is no entry for the variable. -/
theorem lookup_eq_none_iff
    {name : Bytes} :
    environment.lookup name = none ↔ ∀ value, ¬ environment.Holds name value := by
  rw [lookup, List.findSome?_eq_none_iff]
  constructor
  · intro none value holds
    have found := valueOf?_eq_some_iff.mpr (rfl : entryOf name value = _)
    rw [none _ holds] at found
    cases found
  · intro without entry isThere
    cases found : valueOf? name entry with
    | none => rfl
    | some value =>
      rw [valueOf?_eq_some_iff.mp found] at isThere
      exact absurd isThere (without value)

/-- The variables that are enumerated are those of the entries with a name, as far
as they are texts. -/
theorem mem_textVariables_iff
    {name value : String} :
    (name, value) ∈ environment.textVariables ↔
      IsVariableName (Bytes.ofText name) ∧
        environment.Holds (Bytes.ofText name) (Bytes.ofText value) := by
  simp only [textVariables, pairs, List.mem_filterMap]
  constructor
  · rintro ⟨⟨nameBytes, valueBytes⟩, ⟨entry, isThere, isSplit⟩, read⟩
    obtain ⟨isName, rfl⟩ := eq_of_splitEntry isSplit
    cases nameRead : nameBytes.toText? with
    | none => simp [nameRead] at read
    | some nameText =>
      cases valueRead : valueBytes.toText? with
      | none => simp [nameRead, valueRead] at read
      | some valueText =>
        simp only [nameRead, valueRead, Option.some.injEq, Prod.mk.injEq] at read
        obtain ⟨rfl, rfl⟩ := read
        rw [← Bytes.eq_ofText_of_toText? nameRead, ← Bytes.eq_ofText_of_toText? valueRead]
        exact ⟨isName, isThere⟩
  · rintro ⟨isName, holds⟩
    exact ⟨_, ⟨_, holds, splitEntry_entryOf isName _⟩, by simp⟩

end Environment

/-! ## On the way to the child -/

namespace Launch

/-- The overrides of a launch have keys that can be names of variables. -/
def NamesOverrides (launch : Launch) : Prop :=
  ∀ key ∈ launch.overrides.keys, IsVariableName (Bytes.ofText key)

/-- A launch says nothing of its own about a variable. -/
def LeavesAlone (launch : Launch) (name : Bytes) : Prop :=
  ∀ key ∈ launch.overrides.keys, Bytes.ofText key ≠ name

variable {launch : Launch} {parent : Environment}

/-- The entries that the child gets. -/
def childEnvironment (launch : Launch) (parent : Environment) : Environment :=
  ⟨(launch.effectiveEnvironment parent).entries.map ExecRequest.entry⟩

/-- What an accepted request hands over is the environment of the child. -/
theorem read_environment_eq
    {path : SearchPath}
    {request : ExecRequest}
    (accepted : ExecRequest.ofLaunch launch path parent = .ok request) :
    (⟨request.environment.read⟩ : Environment) = launch.childEnvironment parent := by
  obtain ⟨tokens, entries, isMadeOf, -, isEnvironment, -⟩ :=
    ExecRequest.isMadeOf_of_ofLaunch accepted
  rw [isMadeOf.environment, PointerVector.read_ofList, isEnvironment, childEnvironment]

/-- All keys that the child gets are names of variables. -/
theorem isVariableName_of_mem_keys
    (named : launch.NamesOverrides)
    {key : String}
    (isKey : key ∈ (launch.effectiveEnvironment parent).keys) :
    IsVariableName (Bytes.ofText key) := by
  rw [keys_effectiveEnvironment, List.mem_eraseDups, List.mem_append] at isKey
  rcases isKey with isInherited | isOverride
  · obtain ⟨⟨name, value⟩, isThere, rfl⟩ := List.mem_map.mp isInherited
    unfold inheritedVariables at isThere
    split at isThere
    · exact (Environment.mem_textVariables_iff.mp isThere).1
    · cases isThere
  · exact named key isOverride

/-- The child has an entry for a variable just if the merged map has it. -/
theorem holds_childEnvironment_iff
    (named : launch.NamesOverrides)
    {name value : Bytes}
    (isName : IsVariableName name) :
    (launch.childEnvironment parent).Holds name value ↔
      ∃ key text, name = Bytes.ofText key ∧ value = Bytes.ofText text ∧
        (launch.effectiveEnvironment parent).get? key = some text := by
  simp only [Environment.Holds, childEnvironment, List.mem_map]
  constructor
  · rintro ⟨⟨key, text⟩, isThere, same⟩
    have isKey : key ∈ (launch.effectiveEnvironment parent).keys :=
      List.mem_map_of_mem isThere
    obtain ⟨sameName, sameValue⟩ :=
      (Environment.entryOf_inj (isVariableName_of_mem_keys named isKey) isName).mp same
    exact ⟨key, text, sameName.symm, sameValue.symm,
      OrderedMap.mem_entries_iff.mp isThere⟩
  · rintro ⟨key, text, rfl, rfl, found⟩
    exact ⟨(key, text), OrderedMap.mem_entries_iff.mpr found, rfl⟩

/-- No variable has two entries among those of the child. -/
theorem pairwise_entries_childEnvironment
    (named : launch.NamesOverrides)
    {name : Bytes}
    (isName : IsVariableName name) :
    (launch.childEnvironment parent).entries.Pairwise fun first second =>
      ∀ value other, first = Environment.entryOf name value →
        second ≠ Environment.entryOf name other := by
  have distinct := (launch.effectiveEnvironment parent).nodup
  rw [List.Nodup, List.pairwise_map] at distinct
  rw [childEnvironment, List.pairwise_map]
  refine distinct.imp_of_mem ?_
  intro first second firstIsThere secondIsThere apart value other isFirst isSecond
  have firstNamed :=
    isVariableName_of_mem_keys named (List.mem_map_of_mem firstIsThere)
  have secondNamed :=
    isVariableName_of_mem_keys named (List.mem_map_of_mem secondIsThere)
  obtain ⟨firstName, -⟩ := (Environment.entryOf_inj firstNamed isName).mp isFirst
  obtain ⟨secondName, -⟩ := (Environment.entryOf_inj secondNamed isName).mp isSecond
  exact apart (Bytes.ofText_injective (firstName.trans secondName.symm))

/-- Without an override, a variable comes from the parent's. -/
theorem get?_effectiveEnvironment_of_leavesAlone
    (inherits : launch.inheritsEnvironment = true)
    {key : String}
    (leftAlone : launch.LeavesAlone (Bytes.ofText key)) :
    (launch.effectiveEnvironment parent).get? key =
      parent.textVariables.reverse.lookup key := by
  have absent : launch.overrides.get? key = none := by
    rw [← Option.not_isSome_iff_eq_none, OrderedMap.isSome_get?_iff]
    exact fun isKey => leftAlone key isKey rfl
  rw [get?_effectiveEnvironment, absent, Option.none_or, inheritedVariables,
    if_pos inherits]

end Launch

/-- A variable is passed on from a parent to its child, as far as texts are. -/
structure PassesOn (parent child : Environment) (name : Bytes) : Prop where
  /-- The child has no two entries for it. -/
  once :
    child.entries.Pairwise fun first second =>
      ∀ value other, first = Environment.entryOf name value →
        second ≠ Environment.entryOf name other
  /-- A value that the child has stands in an entry of the parent, and is a text
  under a name that is one. -/
  ofParent :
    ∀ value, child.lookup name = some value →
      name.IsText ∧ value.IsText ∧ parent.Holds name value
  /-- With an entry of the parent that is a text, the child has the variable. -/
  kept :
    ∀ value, name.IsText → value.IsText → parent.Holds name value →
      (child.lookup name).isSome
  /-- Where the parent finds nothing, neither does the child. -/
  absent :
    parent.lookup name = none → child.lookup name = none
  /-- What the parent finds is what the child finds if it is a text and no other
  entry of the parent has another value for the variable. -/
  unchanged :
    ∀ value, parent.lookup name = some value →
      (∀ other, parent.Holds name other → other = value) →
        name.IsText → value.IsText → child.lookup name = some value

namespace Launch

variable {launch : Launch} {parent : Environment}

/-- A variable without an override is passed on to the child. -/
theorem passesOn_of_ofLaunch
    {path : SearchPath}
    {request : ExecRequest}
    (accepted : ExecRequest.ofLaunch launch path parent = .ok request)
    (inherits : launch.inheritsEnvironment = true)
    (named : launch.NamesOverrides)
    {name : Bytes}
    (isName : IsVariableName name)
    (leftAlone : launch.LeavesAlone name) :
    PassesOn parent ⟨request.environment.read⟩ name := by
  rw [read_environment_eq accepted]
  have ofParent : ∀ value, (launch.childEnvironment parent).lookup name = some value →
      name.IsText ∧ value.IsText ∧ parent.Holds name value := by
    intro value found
    obtain ⟨key, text, rfl, rfl, merged⟩ :=
      (holds_childEnvironment_iff named isName).mp (Environment.holds_of_lookup found)
    rw [get?_effectiveEnvironment_of_leavesAlone inherits leftAlone] at merged
    obtain ⟨later, earlier, listed, -⟩ := List.lookup_eq_some_iff.mp merged
    have isThere : (key, text) ∈ parent.textVariables := by
      rw [← List.mem_reverse, listed]
      exact List.mem_append_right later List.mem_cons_self
    exact ⟨⟨key, rfl⟩, ⟨text, rfl⟩,
      (Environment.mem_textVariables_iff.mp isThere).2⟩
  have kept : ∀ value, name.IsText → value.IsText → parent.Holds name value →
      ((launch.childEnvironment parent).lookup name).isSome := by
    rintro _ ⟨key, rfl⟩ ⟨text, rfl⟩ holds
    have isThere := List.mem_reverse.mpr
      (Environment.mem_textVariables_iff.mpr ⟨isName, holds⟩)
    have isFound := List.lookup_isSome_iff.mpr ⟨_, isThere, beq_self_eq_true key⟩
    rw [← get?_effectiveEnvironment_of_leavesAlone inherits leftAlone] at isFound
    obtain ⟨other, merged⟩ := Option.isSome_iff_exists.mp isFound
    rw [Option.isSome_iff_ne_none, ne_eq, Environment.lookup_eq_none_iff]
    exact fun missing => missing _
      ((holds_childEnvironment_iff named isName).mpr ⟨key, other, rfl, rfl, merged⟩)
  refine ⟨pairwise_entries_childEnvironment named isName, ofParent, kept, ?_, ?_⟩
  · intro missing
    cases found : (launch.childEnvironment parent).lookup name with
    | none => rfl
    | some value =>
      exact absurd (ofParent value found).2.2
        (Environment.lookup_eq_none_iff.mp missing value)
  · intro value found agree isText valueIsText
    obtain ⟨other, isFound⟩ := Option.isSome_iff_exists.mp
      (kept value isText valueIsText (Environment.holds_of_lookup found))
    rw [isFound, agree other (ofParent other isFound).2.2]

/-- The parent has a variable that the launch overrides and one that it does not. -/
theorem passesOn_of_ofLaunch_with_override :
    let launch := ofSettings [.command "true", .environment "C" "c"]
    let name := Bytes.ofText "B"
    let parent := Environment.ofPairs
      [(Bytes.ofText "B", Bytes.ofText "b"), (Bytes.ofText "C", Bytes.ofText "d")]
    ∃ request,
      ExecRequest.ofLaunch launch .standard parent = .ok request ∧
        launch.inheritsEnvironment = true ∧
        launch.NamesOverrides ∧
        IsVariableName name ∧
        launch.LeavesAlone name ∧
        PassesOn parent ⟨request.environment.read⟩ name ∧
        (⟨request.environment.read⟩ : Environment).lookup name =
          some (Bytes.ofText "b") := by
  intro launch name parent
  obtain ⟨request, accepted⟩ :
      ∃ request, ExecRequest.ofLaunch launch .standard parent = .ok request :=
    ⟨_, rfl⟩
  have inherits : launch.inheritsEnvironment = true := by
    rfl
  have keys : launch.overrides.keys = ["C"] := by
    rfl
  have named : launch.NamesOverrides := by
    rw [NamesOverrides, keys]
    decide
  have isName : IsVariableName name := by
    decide
  have leftAlone : launch.LeavesAlone name := by
    rw [LeavesAlone, keys]
    decide
  have passesOn := passesOn_of_ofLaunch accepted inherits named isName leftAlone
  refine ⟨request, accepted, inherits, named, isName, leftAlone, passesOn, ?_⟩
  refine passesOn.unchanged _ (by decide) ?_ ⟨"B", rfl⟩ ⟨"b", rfl⟩
  intro other holds
  rcases List.mem_pair.mp holds with same | same
  · exact ((Environment.entryOf_inj isName isName).mp same).2
  · have sameName := ((Environment.entryOf_inj isName (by decide)).mp same).1
    exact absurd sameName (by decide)

/-- The parent finds a value that is no text, and the child does not have the
variable, though nothing overrides it. -/
theorem exists_left_out_of_ofLaunch :
    let launch := ofSettings [.command "true"]
    let parent : Environment := ⟨[Bytes.ofText "A=" ++ [255], Bytes.ofText "B=b"]⟩
    ∃ request,
      ExecRequest.ofLaunch launch .standard parent = .ok request ∧
        launch.inheritsEnvironment = true ∧
        launch.overrides.keys = [] ∧
        parent.lookup (Bytes.ofText "A") = some [255] ∧
        (⟨request.environment.read⟩ : Environment).lookup (Bytes.ofText "A") = none :=
  ⟨_, rfl, rfl, rfl, by decide, by decide +kernel⟩

end Launch
end ChildProcess
