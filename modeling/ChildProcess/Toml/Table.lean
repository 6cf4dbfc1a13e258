import ChildProcess.Toml.Value

/-!
# Tables under construction

A table is filled by headers, by keys with points and by inline tables, and each
way may go on only with tables that it may have begun: a table with a header of its
own is not given one again, keys with points extend only tables without a header of
their own and make them theirs, and an inline table is complete.
-/

namespace ChildProcess
namespace Toml

/-- What stands under a key while a document is being read. -/
inductive Node
  /-- A complete value. -/
  | leaf (value : Value)
  /-- A table. It is implicit if only longer keys have mentioned it so far, and
  dotted if one of them was a key with points. -/
  | table (implicit dotted : Bool) (entries : List (String × Node))
  /-- An array of tables, of which the last one is being filled. -/
  | tables (complete : List (List (String × Node))) (last : List (String × Node))
  deriving Inhabited

/-- The entries of a table. -/
abbrev Entries := List (String × Node)

/-- Change what stands under a key; a new key comes last. -/
def Entries.update (key : String) (change : Option Node → Option Node) :
    Entries → Option Entries
  | [] => (change none).map fun node => [(key, node)]
  | (name, node) :: rest =>
      if name = key then
        (change (some node)).map fun changed => (name, changed) :: rest
      else (Entries.update key change rest).map ((name, node) :: ·)

/-- Which way a key leads to a table. -/
inductive Access
  /-- To the table whose header was read last. -/
  | current
  /-- In front of the last part of a header. -/
  | header
  /-- In front of the last part of a key with points. -/
  | dotted
  deriving DecidableEq, Repr

/-- Change the table that a key leads to, making tables on the way. Those on the way
of a key with points become dotted. What is done in the end gets to know whether the
table is a dotted one. -/
def Entries.descend
    (access : Access)
    (act : Bool → Entries → Option Entries)
    (dotted : Bool) :
    List String → Entries → Option Entries
  | [], entries => act dotted entries
  | key :: keys, entries =>
      Entries.update key
        (fun
          | none =>
              (Entries.descend access act (access == .dotted) keys []).map
                (.table true (access == .dotted))
          | some (.leaf _) => none
          | some (.table implicit dotted inner) =>
              if access == .dotted && !implicit then none
              else
                let dotted := dotted || access == .dotted
                (Entries.descend access act dotted keys inner).map
                  (.table implicit dotted)
          | some (.tables complete last) =>
              (Entries.descend access act false keys last).map (.tables complete))
        entries

/-- Put a value under a key. The table that a key without points goes into must
not be a dotted one, and the table that a key with points goes into must be. -/
def Entries.assign (keys : List String) (value : Value) (dotted : Bool)
    (entries : Entries) : Option Entries :=
  match keys.getLast? with
  | none => none
  | some key =>
      let parents := keys.dropLast
      Entries.descend .dotted
        (fun dotted inner =>
          if dotted == parents.isEmpty then none
          else
            Entries.update key
              (fun
                | none => some (.leaf value)
                | some _ => none)
              inner)
        dotted parents entries

/-- Open the table of a header. -/
def Entries.openTable (keys : List String) (entries : Entries) : Option Entries :=
  match keys.getLast? with
  | none => none
  | some key =>
      Entries.descend .header
        (fun _ inner =>
          Entries.update key
            (fun
              | none => some (.table false false [])
              | some (.table true false children) =>
                  some (.table false false children)
              | some _ => none)
            inner)
        false keys.dropLast entries

/-- Open one more table of the array of a header. -/
def Entries.openElement (keys : List String) (entries : Entries) :
    Option Entries :=
  match keys.getLast? with
  | none => none
  | some key =>
      Entries.descend .header
        (fun _ inner =>
          Entries.update key
            (fun
              | none => some (.tables [] [])
              | some (.tables complete last) =>
                  some (.tables (complete ++ [last]) [])
              | some _ => none)
            inner)
        false keys.dropLast entries

/-- Put a value under a key of the table whose header was read last. -/
def Entries.assignAt (current keys : List String) (value : Value)
    (entries : Entries) : Option Entries :=
  Entries.descend .current (Entries.assign keys value) false current entries

mutual

/-- The value that a node has become. -/
def Node.toValue : Node → Value
  | .leaf value => value
  | .table _ _ entries => .table (entriesToValues entries)
  | .tables complete last =>
      .array (tablesToValues complete ++ [.table (entriesToValues last)])

/-- The entries of a table as values. -/
def entriesToValues : List (String × Node) → List (String × Value)
  | [] => []
  | (key, node) :: rest => (key, node.toValue) :: entriesToValues rest

/-- The tables of an array as values. -/
def tablesToValues : List (List (String × Node)) → List Value
  | [] => []
  | entries :: rest => .table (entriesToValues entries) :: tablesToValues rest

end

end Toml
end ChildProcess
