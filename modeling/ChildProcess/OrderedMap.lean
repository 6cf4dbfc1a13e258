/-!
# Maps that remember the order of insertion

An `OrderedMap` holds each key once, in the order in which the keys were first
inserted. Inserting a key again changes its value and leaves its place.
-/

namespace ChildProcess

/-- Put a value under a key: in the place of the key if it occurs, else behind
all others. -/
def insertEntry {κ ν : Type} [DecidableEq κ] (key : κ) (value : ν) :
    List (κ × ν) → List (κ × ν)
  | [] => [(key, value)]
  | entry :: rest =>
      if entry.1 = key then (key, value) :: rest
      else entry :: insertEntry key value rest

theorem mem_keys_insertEntry {κ ν : Type} [DecidableEq κ]
    (key : κ) (value : ν) (entries : List (κ × ν)) (other : κ) :
    other ∈ (insertEntry key value entries).map Prod.fst ↔
      other = key ∨ other ∈ entries.map Prod.fst := by
  induction entries with
  | nil => simp [insertEntry]
  | cons entry rest inductionHypothesis =>
      unfold insertEntry
      split
      · rename_i same
        simp [same]
      · rw [List.map_cons, List.mem_cons, inductionHypothesis, List.map_cons,
          List.mem_cons]
        exact or_left_comm

theorem nodup_keys_insertEntry {κ ν : Type} [DecidableEq κ]
    (key : κ) (value : ν) (entries : List (κ × ν))
    (nodup : (entries.map Prod.fst).Nodup) :
    ((insertEntry key value entries).map Prod.fst).Nodup := by
  induction entries with
  | nil => simp [insertEntry]
  | cons entry rest inductionHypothesis =>
      have parts := List.nodup_cons.mp nodup
      unfold insertEntry
      split
      · rename_i same
        rw [List.map_cons, List.nodup_cons, ← same]
        exact parts
      · rename_i different
        rw [List.map_cons, List.nodup_cons, mem_keys_insertEntry]
        refine ⟨?_, inductionHypothesis parts.2⟩
        rintro (same | present)
        · exact different same
        · exact parts.1 present

theorem find?_insertEntry {κ ν : Type} [DecidableEq κ]
    (key : κ) (value : ν) (entries : List (κ × ν)) (other : κ) :
    (insertEntry key value entries).find? (fun entry => entry.1 = other) =
      if key = other then some (key, value)
      else entries.find? fun entry => entry.1 = other := by
  induction entries with
  | nil => by_cases same : key = other <;> simp [insertEntry, same]
  | cons entry rest inductionHypothesis =>
      unfold insertEntry
      by_cases replaced : entry.1 = key
      · by_cases same : key = other <;> simp [replaced, same]
      · by_cases found : entry.1 = other
        · subst found
          have different : key ≠ entry.1 := fun same => replaced same.symm
          simp [replaced, different]
        · simp [replaced, found, inductionHypothesis]

/-- A finite map whose entries stand in the order in which their keys were first
inserted. -/
structure OrderedMap (κ ν : Type) [DecidableEq κ] where
  /-- The entries in order. -/
  entries : List (κ × ν)
  /-- No key occurs twice. -/
  nodup : (entries.map Prod.fst).Nodup

namespace OrderedMap

variable {κ ν : Type} [DecidableEq κ]

/-- The map without entries. -/
def empty : OrderedMap κ ν := ⟨[], List.nodup_nil⟩

instance : Inhabited (OrderedMap κ ν) := ⟨empty⟩

/-- The value under a key. -/
def get? (map : OrderedMap κ ν) (key : κ) : Option ν :=
  (map.entries.find? fun entry => entry.1 = key).map Prod.snd

/-- Put a value under a key, replacing the one that is there. -/
def insert (map : OrderedMap κ ν) (key : κ) (value : ν) : OrderedMap κ ν :=
  ⟨insertEntry key value map.entries,
    nodup_keys_insertEntry key value map.entries map.nodup⟩

/-- Put a value under a key unless there is one. -/
def insertIfNew (map : OrderedMap κ ν) (key : κ) (value : ν) : OrderedMap κ ν :=
  if (map.get? key).isSome then map else map.insert key value

/-- Keep only the entries that satisfy a predicate. -/
def filter (map : OrderedMap κ ν) (keeps : κ → ν → Bool) : OrderedMap κ ν :=
  ⟨map.entries.filter fun entry => keeps entry.1 entry.2,
    map.nodup.sublist (List.filter_sublist.map Prod.fst)⟩

/-- Remove a key with its value. -/
def erase (map : OrderedMap κ ν) (key : κ) : OrderedMap κ ν :=
  map.filter fun other _ => decide (other ≠ key)

/-- Change the value under a key, if there is one. -/
def modify (map : OrderedMap κ ν) (key : κ) (change : ν → ν) : OrderedMap κ ν :=
  match map.get? key with
  | none => map
  | some value => map.insert key (change value)

/-- The keys in order. -/
def keys (map : OrderedMap κ ν) : List κ :=
  map.entries.map Prod.fst

/-- Insert all entries of a list, the first one first. -/
def insertMany (map : OrderedMap κ ν) (entries : List (κ × ν)) : OrderedMap κ ν :=
  entries.foldl (fun current entry => current.insert entry.1 entry.2) map

theorem get?_insert (map : OrderedMap κ ν) (key : κ) (value : ν) (other : κ) :
    (map.insert key value).get? other =
      if key = other then some value else map.get? other := by
  unfold get? insert
  rw [find?_insertEntry]
  split <;> rfl

end OrderedMap
end ChildProcess
