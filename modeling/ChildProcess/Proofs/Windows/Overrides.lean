import ChildProcess.Proofs.Windows.ZeroCharacters

/-!
# Overrides in environment blocks

Variables are merged by their keys as these are spelled, while a block is sorted by
uppercase keys.  An override therefore takes the place of the inherited variable with its
own spelling only, and every other spelling of its key stays beside it in the block.
-/

namespace ChildProcess
namespace Launch

open Windows (HasNoZero environmentBlock readBlock sortKey)

variable {launch : Launch} {parent : Environment} {key value : String}

/-! ## The variables beside an override -/

/-- The inherited variables, each name once and with its last value. -/
def inheritedMap (launch : Launch) (parent : Environment) : OrderedMap String String :=
  OrderedMap.empty.insertMany (launch.inheritedVariables parent)

/-- The variables in a block whose keys are a key up to case. -/
def spellings (launch : Launch) (parent : Environment) (key : String) :
    List (String × String) :=
  (launch.blockVariables parent).filter (sortKey · = Text.uppercase key)

theorem spellings_eq_filter :
    launch.spellings parent key =
      (launch.effectiveEnvironment parent).entries.filter
        (sortKey · = Text.uppercase key) :=
  Windows.filter_sortVariables _ _

/-- No other variable has the key of an override as it is spelled. -/
theorem filter_effectiveEnvironment_eq_singleton
    (isOverride : (key, value) ∈ launch.overrides.entries) :
    (launch.effectiveEnvironment parent).entries.filter (·.1 = key) = [(key, value)] :=
  filter_eq_singleton_of_nodup_map (launch.effectiveEnvironment parent).nodup
    (mem_effectiveEnvironment_of_mem_overrides isOverride)

section

variable
    (distinct : (launch.overrides.entries.map sortKey).Nodup)
    (isOverride : (key, value) ∈ launch.overrides.entries)

include distinct isOverride

theorem filter_overrides_eq_singleton :
    launch.overrides.entries.filter (sortKey · = Text.uppercase key) = [(key, value)] :=
  filter_eq_singleton_of_nodup_map distinct isOverride

/-- The override is merged into the inherited spellings. -/
theorem spellings_eq_insertEntry :
    launch.spellings parent key =
      insertEntry key value
        ((launch.inheritedMap parent).entries.filter
          (sortKey · = Text.uppercase key)) := by
  have merged : (launch.effectiveEnvironment parent).entries.filter
        (sortKey · = Text.uppercase key) =
      (launch.overrides.entries.filter (sortKey · = Text.uppercase key)).foldl
        (fun current entry => insertEntry entry.1 entry.2 current)
        ((launch.inheritedMap parent).entries.filter (sortKey · = Text.uppercase key)) := by
    rw [effectiveEnvironment_eq_insertMany]
    exact OrderedMap.filter_entries_insertMany _ _ (Text.uppercase · = Text.uppercase key)
  rw [spellings_eq_filter, merged, filter_overrides_eq_singleton distinct isOverride]
  rfl

/-- The override is the only spelling if nothing with another one is inherited, and only
then. -/
theorem spellings_eq_singleton_iff :
    launch.spellings parent key = [(key, value)] ↔
      ∀ inherited ∈ launch.inheritedVariables parent,
        sortKey inherited = Text.uppercase key → inherited.1 = key := by
  rw [spellings_eq_filter]
  constructor
  · intro alone inherited isInherited same
    -- The name is a key of the merged variables, whichever value has come under it.
    have isKey : inherited.1 ∈ (launch.effectiveEnvironment parent).keys := by
      rw [keys_effectiveEnvironment, List.mem_eraseDups]
      exact List.mem_append_left _ (List.mem_map_of_mem isInherited)
    obtain ⟨binding, isMember, isSame⟩ := List.mem_map.mp isKey
    have isSpelling : binding ∈ [(key, value)] := by
      rw [← alone, List.mem_filter, decide_eq_true_iff]
      exact ⟨isMember, (congrArg Text.uppercase isSame).trans same⟩
    rw [← isSame, List.mem_singleton.mp isSpelling]
  · intro spelled
    have spelledSo : ∀ binding ∈ (launch.effectiveEnvironment parent).entries,
        sortKey binding = Text.uppercase key → binding.1 = key := by
      intro binding isMember same
      rcases mem_overrides_or_inherited isMember with isOther | isInherited
      · have isOwn : binding ∈ [(key, value)] := by
          rw [← filter_overrides_eq_singleton distinct isOverride, List.mem_filter,
            decide_eq_true_iff]
          exact ⟨isOther, same⟩
        rw [List.mem_singleton.mp isOwn]
      · exact spelled binding isInherited same
    rw [← filter_effectiveEnvironment_eq_singleton isOverride]
    refine List.filter_congr fun binding isMember => ?_
    rw [decide_eq_decide]
    exact ⟨spelledSo binding isMember, congrArg Text.uppercase⟩

end

/-- What a block has for an override. -/
structure HasOverride (launch : Launch) (parent : Environment) (key value : String) :
    Prop where
  /-- With the key as it is spelled, the override is the only entry. -/
  replaces : (launch.blockVariables parent).filter (·.1 = key) = [(key, value)]
  /-- Up to case the inherited spellings remain; the override has the place of its own
  one, or stands behind all others. -/
  remain :
    launch.spellings parent key =
      insertEntry key value
        ((launch.inheritedMap parent).entries.filter (sortKey · = Text.uppercase key))
  /-- It is the only entry up to case just if nothing with another spelling is
  inherited. -/
  alone_iff :
    launch.spellings parent key = [(key, value)] ↔
      ∀ inherited ∈ launch.inheritedVariables parent,
        sortKey inherited = Text.uppercase key → inherited.1 = key
  /-- These are the entries that are read, if there are no zero characters in them. -/
  reads :
    (∀ binding ∈ (launch.effectiveEnvironment parent).entries, HasNoZero binding) →
      (readBlock (environmentBlock launch parent)).1 =
        (launch.blockVariables parent).map fun binding => some (variableText binding)

/-- An override whose key no other one has up to case is in the block once, beside the
other spellings that are inherited. -/
theorem hasOverride_of_mem
    (distinct : (launch.overrides.entries.map sortKey).Nodup)
    (isOverride : (key, value) ∈ launch.overrides.entries) :
    launch.HasOverride parent key value where
  replaces := by
    have permutes : (launch.blockVariables parent).Perm _ := Windows.sortVariables_perm _
    have kept := permutes.filter (·.1 = key)
    rw [filter_effectiveEnvironment_eq_singleton isOverride] at kept
    exact List.perm_singleton.mp kept
  remain := spellings_eq_insertEntry distinct isOverride
  alone_iff := spellings_eq_singleton_iff distinct isOverride
  reads := readBlock_environmentBlock_fst

/-- An override among inherited variables with its own spelling and with another one, and
one whose key is longer in uppercase. -/
theorem hasOverride_of_two_spellings :
    let launch := ofSettings
      [.command "true", .environment "PATH" "/new", .environment "straße" "1"]
    let parent : Environment :=
      ⟨[Bytes.ofText "Path=/bin", Bytes.ofText "PATH=/old", Bytes.ofText "STRASSE=2"]⟩
    (launch.overrides.entries.map sortKey).Nodup ∧
      ("PATH", "/new") ∈ launch.overrides.entries ∧
        launch.HasOverride parent "PATH" "/new" := by
  intro launch parent
  have distinct : (launch.overrides.entries.map sortKey).Nodup := by decide +kernel
  have isOverride : ("PATH", "/new") ∈ launch.overrides.entries := by decide +kernel
  exact ⟨distinct, isOverride, hasOverride_of_mem distinct isOverride⟩

/-- An inherited variable remains in the block beside an override whose key differs from
its name only in case. -/
theorem exists_remaining_of_environmentBlock :
    let launch := ofSettings [.command "true", .environment "PATH" "/new"]
    let parent : Environment := ⟨[Bytes.ofText "Path=/bin"]⟩
    launch.overrides.entries = [("PATH", "/new")] ∧
      Text.uppercase "Path" = Text.uppercase "PATH" ∧
        launch.spellings parent "PATH" = [("Path", "/bin"), ("PATH", "/new")] ∧
          (readBlock (environmentBlock launch parent)).1 =
            [some "Path=/bin", some "PATH=/new"] := by
  intro launch parent
  have entries : (launch.effectiveEnvironment parent).entries =
      [("Path", "/bin"), ("PATH", "/new")] := by
    decide +kernel
  have isSorted : launch.blockVariables parent = [("Path", "/bin"), ("PATH", "/new")] := by
    rw [blockVariables, entries]
    exact List.mergeSort_of_pairwise (by decide +kernel)
  refine ⟨by decide +kernel, by decide +kernel, ?_, ?_⟩
  · rw [spellings_eq_filter, entries]
    decide +kernel
  · show (readBlock (Windows.blockOf (launch.blockVariables parent))).1 = _
    rw [isSorted]
    decide +kernel

end Launch
end ChildProcess
