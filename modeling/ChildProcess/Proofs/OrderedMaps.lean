import ChildProcess.OrderedMap
import Mathlib.Data.List.Induction

/-!
# Maps filled from lists

A map that is filled from a list has the keys of the list in the order of their first
occurrences.  Under a key it has the last value of the list if every entry is
inserted, and the first one if only new keys are.  Both are proved from what one entry
does, by induction from the end of the list.
-/

namespace ChildProcess

/-! ## First occurrences -/

section FirstOccurrences

variable {α : Type} [BEq α] [LawfulBEq α]

/-- An element behind a list is a first occurrence unless the list has it. -/
theorem eraseDups_concat (list : List α) (element : α) :
    (list ++ [element]).eraseDups =
      if element ∈ list then list.eraseDups else list.eraseDups ++ [element] := by
  rw [List.eraseDups_append]
  by_cases present : element ∈ list
  · simp [List.removeAll, present]
  · simp [List.removeAll, present, List.eraseDups_cons]

theorem nodup_eraseDups (list : List α) : list.eraseDups.Nodup := by
  induction list using List.reverseRecOn with
  | nil => simp
  | append_singleton list element inductionHypothesis =>
      rw [eraseDups_concat]
      split
      · exact inductionHypothesis
      · rename_i absent
        refine List.nodup_append.mpr ⟨inductionHypothesis, by simp, ?_⟩
        intro other member last isLast same
        apply absent
        rwa [← List.mem_singleton.mp isLast, ← same, ← List.mem_eraseDups]

/-- In a list without repetitions every occurrence is the first one. -/
theorem eraseDups_eq_self_of_nodup {list : List α} (nodup : list.Nodup) :
    list.eraseDups = list := by
  induction list using List.reverseRecOn with
  | nil => rfl
  | append_singleton list element inductionHypothesis =>
      obtain ⟨nodup, -, apart⟩ := List.nodup_append.mp nodup
      have absent : element ∉ list :=
        fun present => apart element present element (by simp) rfl
      rw [eraseDups_concat, if_neg absent, inductionHypothesis nodup]

/-- First occurrences of the first part may be taken beforehand. -/
theorem eraseDups_eraseDups_append (before after : List α) :
    (before.eraseDups ++ after).eraseDups = (before ++ after).eraseDups := by
  induction after using List.reverseRecOn with
  | nil => simpa using eraseDups_eq_self_of_nodup (nodup_eraseDups before)
  | append_singleton after element inductionHypothesis =>
      rw [← List.append_assoc, ← List.append_assoc, eraseDups_concat,
        eraseDups_concat, inductionHypothesis]
      simp

/-- First occurrences of the second part may be taken beforehand. -/
theorem eraseDups_append_eraseDups (before after : List α) :
    (before ++ after.eraseDups).eraseDups = (before ++ after).eraseDups := by
  induction after using List.reverseRecOn with
  | nil => rfl
  | append_singleton after element inductionHypothesis =>
      rw [eraseDups_concat]
      by_cases present : element ∈ after
      · rw [if_pos present, inductionHypothesis, ← List.append_assoc,
          eraseDups_concat, if_pos (List.mem_append_right before present)]
      · rw [if_neg present, ← List.append_assoc, ← List.append_assoc,
          eraseDups_concat, eraseDups_concat, inductionHypothesis]
        simp

end FirstOccurrences

/-! ## Sorting -/

/-- Sorting by a rank leaves the elements with one rank in their order. -/
theorem filter_mergeSort {α β : Type} [DecidableEq β] {le : β → β → Bool}
    (transitive : ∀ first second third,
      le first second = true → le second third = true → le first third = true)
    (total : ∀ first second, (le first second || le second first) = true)
    (rank : α → β) (list : List α) (value : β) :
    (list.mergeSort fun left right => le (rank left) (rank right)).filter
        (fun element => rank element = value) =
      list.filter fun element => rank element = value := by
  have reflexive : le value value = true := by simpa using total value value
  have chain :
      (list.filter fun element => rank element = value).Pairwise
        fun left right => le (rank left) (rank right) = true := by
    apply List.pairwise_of_forall_mem_list
    intro left leftMember right rightMember
    simp only [List.mem_filter, decide_eq_true_eq] at leftMember rightMember
    rw [leftMember.2, rightMember.2, reflexive]
  have kept :=
    (List.sublist_mergeSort
      (fun first second third => transitive (rank first) (rank second) (rank third))
      (fun first second => total (rank first) (rank second)) chain
      List.filter_sublist).filter fun element => rank element = value
  rw [List.filter_filter] at kept
  have same := kept.eq_of_length (by
    simpa using ((List.mergeSort_perm list _).filter _).length_eq.symm)
  rw [← same]
  simp

/-! ## Keeping -/

/-- What has its rank to itself is all that a rank keeps. -/
theorem filter_eq_singleton_of_nodup_map
    {α β : Type}
    [DecidableEq β]
    {rank : α → β}
    {list : List α}
    {element : α}
    (distinct : (list.map rank).Nodup)
    (isMember : element ∈ list) :
    list.filter (rank · = rank element) = [element] := by
  induction list with
  | nil => cases isMember
  | cons first rest inductionHypothesis =>
      obtain ⟨absent, distinct⟩ := List.nodup_cons.mp distinct
      rcases List.mem_cons.mp isMember with rfl | isMember
      · have noOther : rest.filter (rank · = rank element) = [] := by
          refine List.filter_eq_nil_iff.mpr fun other isOther => ?_
          have different : rank other ≠ rank element := fun same =>
            absent (same ▸ List.mem_map_of_mem isOther)
          simpa using different
        rw [List.filter_cons_of_pos (by simp), noOther]
      · have different : rank first ≠ rank element := fun same =>
          absent (same ▸ List.mem_map_of_mem isMember)
        rw [List.filter_cons_of_neg (by simpa using different),
          inductionHypothesis distinct isMember]

/-! ## Looking up in a list -/

section Lookup

variable {κ ν : Type} [DecidableEq κ]

theorem lookup_cons_eq_ite (entry : κ × ν) (rest : List (κ × ν)) (key : κ) :
    (entry :: rest).lookup key =
      if entry.1 = key then some entry.2 else rest.lookup key := by
  rw [List.lookup_cons]
  by_cases same : entry.1 = key
  · simp [same]
  · have different : (key == entry.1) = false := by
      simpa using fun equal : key = entry.1 => same equal.symm
    rw [different, if_neg same]

/-- If no key is repeated, it does not matter from which end a list is searched. -/
theorem lookup_reverse_of_nodup {entries : List (κ × ν)}
    (nodup : (entries.map Prod.fst).Nodup) (key : κ) :
    entries.reverse.lookup key = entries.lookup key := by
  induction entries with
  | nil => rfl
  | cons entry rest inductionHypothesis =>
      obtain ⟨absent, nodup⟩ := List.nodup_cons.mp nodup
      rw [List.reverse_cons, List.lookup_append, inductionHypothesis nodup,
        lookup_cons_eq_ite, lookup_cons_eq_ite, List.lookup_nil]
      by_cases same : entry.1 = key
      · have missing : rest.lookup key = none := by
          rw [List.lookup_eq_none_iff]
          intro other member
          have different : key ≠ other.1 := by
            rintro rfl
            exact absent (same ▸ List.mem_map_of_mem member)
          simpa using different
        simp [same, missing]
      · simp [same]

/-- Only the entries with a key matter for what is found under it. -/
theorem lookup_filter_key (entries : List (κ × ν)) (key : κ) :
    (entries.filter fun entry => entry.1 = key).lookup key = entries.lookup key := by
  induction entries with
  | nil => rfl
  | cons entry rest inductionHypothesis =>
      by_cases same : entry.1 = key
      · simp [lookup_cons_eq_ite, same]
      · simpa [lookup_cons_eq_ite, same] using inductionHypothesis

/-- Sorting by the keys changes nothing that is found, since it leaves the entries
with one key in their order. -/
theorem lookup_mergeSort {le : κ → κ → Bool}
    (transitive : ∀ first second third,
      le first second = true → le second third = true → le first third = true)
    (total : ∀ first second, (le first second || le second first) = true)
    (entries : List (κ × ν)) (key : κ) :
    (entries.mergeSort fun left right => le left.1 right.1).lookup key =
      entries.lookup key := by
  rw [← lookup_filter_key, filter_mergeSort transitive total Prod.fst, lookup_filter_key]

end Lookup

/-! ## One entry -/

/-- A new key comes last, and one that is there stays where it is. -/
theorem keys_insertEntry {κ ν : Type} [DecidableEq κ]
    (key : κ) (value : ν) (entries : List (κ × ν)) :
    (insertEntry key value entries).map Prod.fst =
      if key ∈ entries.map Prod.fst then entries.map Prod.fst
      else entries.map Prod.fst ++ [key] := by
  induction entries with
  | nil => rfl
  | cons entry rest inductionHypothesis =>
      unfold insertEntry
      by_cases same : entry.1 = key
      · simp [same]
      · have different : key ≠ entry.1 := fun equal => same equal.symm
        rw [if_neg same, List.map_cons, inductionHypothesis]
        by_cases present : key ∈ rest.map Prod.fst
        · simp [present]
        · simp [present, different]

/-- An entry may be put in after the others have been kept or dropped, if it is one that
is kept; else it need not be put in. -/
theorem filter_insertEntry {κ ν : Type} [DecidableEq κ]
    (keeps : κ → Bool) (key : κ) (value : ν) (entries : List (κ × ν)) :
    (insertEntry key value entries).filter (keeps ·.1) =
      if keeps key then insertEntry key value (entries.filter (keeps ·.1))
      else entries.filter (keeps ·.1) := by
  induction entries with
  | nil => cases kept : keeps key <;> simp [insertEntry, kept]
  | cons entry rest inductionHypothesis =>
      by_cases same : entry.1 = key
      · cases kept : keeps key <;> simp [insertEntry, same, kept]
      · cases kept : keeps key <;> cases entryKept : keeps entry.1 <;>
          simp [insertEntry, same, kept, entryKept, inductionHypothesis]

namespace OrderedMap

variable {κ ν : Type} [DecidableEq κ]

theorem get?_eq_lookup (map : OrderedMap κ ν) (key : κ) :
    map.get? key = map.entries.lookup key := by
  unfold get?
  induction map.entries with
  | nil => rfl
  | cons entry rest inductionHypothesis =>
      rw [List.find?_cons, lookup_cons_eq_ite, ← inductionHypothesis]
      by_cases same : entry.1 = key <;> simp [same]

@[simp] theorem get?_empty (key : κ) : (empty : OrderedMap κ ν).get? key = none := rfl

@[simp] theorem keys_empty : (empty : OrderedMap κ ν).keys = [] := rfl

theorem nodup_keys (map : OrderedMap κ ν) : map.keys.Nodup := map.nodup

/-- An entry is what is found under its key. -/
theorem mem_entries_iff {map : OrderedMap κ ν} {key : κ} {value : ν} :
    (key, value) ∈ map.entries ↔ map.get? key = some value := by
  obtain ⟨entries, nodup⟩ := map
  rw [get?_eq_lookup]
  show (key, value) ∈ entries ↔ entries.lookup key = some value
  induction entries with
  | nil => simp
  | cons entry rest inductionHypothesis =>
      obtain ⟨absent, nodup⟩ := List.nodup_cons.mp nodup
      rw [List.mem_cons, lookup_cons_eq_ite, inductionHypothesis nodup]
      by_cases same : entry.1 = key
      · have missing : rest.lookup key ≠ some value := by
          intro found
          have member := (inductionHypothesis nodup).mpr found
          exact absent (List.mem_map.mpr ⟨(key, value), member, same.symm⟩)
        simp [Prod.ext_iff, same, missing, eq_comm]
      · have other : key ≠ entry.1 := fun equal => same equal.symm
        simp [Prod.ext_iff, same, other]

theorem isSome_get?_iff {map : OrderedMap κ ν} {key : κ} :
    (map.get? key).isSome ↔ key ∈ map.keys := by
  rw [Option.isSome_iff_exists, keys, List.mem_map]
  constructor
  · rintro ⟨value, found⟩
    exact ⟨(key, value), mem_entries_iff.mpr found, rfl⟩
  · rintro ⟨⟨key, value⟩, member, rfl⟩
    exact ⟨value, mem_entries_iff.mp member⟩

theorem keys_insert (map : OrderedMap κ ν) (key : κ) (value : ν) :
    (map.insert key value).keys =
      if key ∈ map.keys then map.keys else map.keys ++ [key] :=
  keys_insertEntry key value map.entries

theorem get?_insertIfNew (map : OrderedMap κ ν) (key : κ) (value : ν) (other : κ) :
    (map.insertIfNew key value).get? other =
      (map.get? other).or (if key = other then some value else none) := by
  unfold insertIfNew
  by_cases same : key = other
  · subst same
    cases found : map.get? key with
    | none => simp [get?_insert]
    | some present => simp [found]
  · split <;> simp [get?_insert, same]

theorem keys_insertIfNew (map : OrderedMap κ ν) (key : κ) (value : ν) :
    (map.insertIfNew key value).keys =
      if key ∈ map.keys then map.keys else map.keys ++ [key] := by
  unfold insertIfNew
  by_cases present : key ∈ map.keys
  · rw [if_pos (isSome_get?_iff.mpr present), if_pos present]
  · have missing : ¬ (map.get? key).isSome :=
      fun found => present (isSome_get?_iff.mp found)
    rw [if_neg missing, keys_insert]

/-! ## All entries of a list -/

/-- Put in the entries of a list, the first one first, as far as their keys are
new. -/
def insertManyIfNew (map : OrderedMap κ ν) (entries : List (κ × ν)) :
    OrderedMap κ ν :=
  entries.foldl (fun current entry => current.insertIfNew entry.1 entry.2) map

variable (map : OrderedMap κ ν) (entries : List (κ × ν))

@[simp] theorem insertMany_nil : map.insertMany [] = map := rfl

@[simp] theorem insertManyIfNew_nil : map.insertManyIfNew [] = map := rfl

theorem insertMany_concat (entry : κ × ν) :
    map.insertMany (entries ++ [entry]) =
      (map.insertMany entries).insert entry.1 entry.2 := by
  simp [insertMany]

theorem insertManyIfNew_append (more : List (κ × ν)) :
    map.insertManyIfNew (entries ++ more) =
      (map.insertManyIfNew entries).insertManyIfNew more := by
  simp [insertManyIfNew]

theorem insertManyIfNew_concat (entry : κ × ν) :
    map.insertManyIfNew (entries ++ [entry]) =
      (map.insertManyIfNew entries).insertIfNew entry.1 entry.2 :=
  map.insertManyIfNew_append entries [entry]

/-- The keys of the list join those of the map, each where it first occurs. -/
theorem keys_insertMany :
    (map.insertMany entries).keys = (map.keys ++ entries.map Prod.fst).eraseDups := by
  induction entries using List.reverseRecOn with
  | nil => simpa using (eraseDups_eq_self_of_nodup map.nodup_keys).symm
  | append_singleton entries entry inductionHypothesis =>
      rw [insertMany_concat, keys_insert, inductionHypothesis, List.map_append,
        List.map_singleton, ← List.append_assoc, eraseDups_concat]
      simp only [List.mem_eraseDups]

/-- The same keys in the same order as if every entry had been inserted. -/
theorem keys_insertManyIfNew :
    (map.insertManyIfNew entries).keys =
      (map.keys ++ entries.map Prod.fst).eraseDups := by
  induction entries using List.reverseRecOn with
  | nil => simpa using (eraseDups_eq_self_of_nodup map.nodup_keys).symm
  | append_singleton entries entry inductionHypothesis =>
      rw [insertManyIfNew_concat, keys_insertIfNew, inductionHypothesis,
        List.map_append, List.map_singleton, ← List.append_assoc, eraseDups_concat]
      simp only [List.mem_eraseDups]

/-- The last value for a key counts, and what was there before all of them last. -/
theorem get?_insertMany (key : κ) :
    (map.insertMany entries).get? key =
      (entries.reverse.lookup key).or (map.get? key) := by
  induction entries using List.reverseRecOn with
  | nil => rfl
  | append_singleton entries entry inductionHypothesis =>
      rw [insertMany_concat, get?_insert, inductionHypothesis, List.reverse_concat,
        lookup_cons_eq_ite]
      split <;> simp

/-- What was there before counts, and then the first value for a key. -/
theorem get?_insertManyIfNew (key : κ) :
    (map.insertManyIfNew entries).get? key =
      (map.get? key).or (entries.lookup key) := by
  induction entries using List.reverseRecOn with
  | nil => simp
  | append_singleton entries entry inductionHypothesis =>
      rw [insertManyIfNew_concat, get?_insertIfNew, inductionHypothesis,
        List.lookup_append, lookup_cons_eq_ite, List.lookup_nil, Option.or_assoc]

/-- Where the entries of one map are put into another, the first map decides. -/
theorem get?_insertMany_entries (other : OrderedMap κ ν) (key : κ) :
    (map.insertMany other.entries).get? key = (other.get? key).or (map.get? key) := by
  rw [get?_insertMany, lookup_reverse_of_nodup other.nodup, get?_eq_lookup other]

/-- What is kept of a map comes from the entries that are kept. -/
theorem filter_entries_insertMany (keeps : κ → Bool) :
    (map.insertMany entries).entries.filter (keeps ·.1) =
      (entries.filter (keeps ·.1)).foldl
        (fun current entry => insertEntry entry.1 entry.2 current)
        (map.entries.filter (keeps ·.1)) := by
  induction entries using List.reverseRecOn with
  | nil => rfl
  | append_singleton entries entry inductionHypothesis =>
      have inserted : (map.insertMany (entries ++ [entry])).entries =
          insertEntry entry.1 entry.2 (map.insertMany entries).entries := by
        rw [insertMany_concat]
        rfl
      rw [inserted, filter_insertEntry, List.filter_append, List.foldl_append,
        ← inductionHypothesis]
      cases kept : keeps entry.1 <;> simp [kept]

end OrderedMap
end ChildProcess
