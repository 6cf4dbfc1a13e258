import ChildProcess.Decimal.Binary64

/-!
# TOML values

The values that a TOML document is made of. A table keeps its keys in the order in
which they were written, each of them once. A number without a value is well-formed;
it is a fault only of a document in which somebody looks at it.
-/

namespace ChildProcess
namespace Toml

/-- A value of a TOML document. -/
inductive Value
  | text (content : String)
  | integer (number : Int)
  | float (number : Binary64)
  /-- A number without a value: it is too great to be held, or it is the mark of a
  base without digits. -/
  | unreadable
  | boolean (value : Bool)
  /-- A date, a time, or both, in a uniform spelling. -/
  | dateTime (spelling : String)
  | array (elements : List Value)
  | table (entries : List (String × Value))
  deriving Inhabited

mutual

/-- Whether all numbers in a value have values. -/
def Value.isReadable : Value → Bool
  | .unreadable => false
  | .array elements => elementsAreReadable elements
  | .table entries => entriesAreReadable entries
  | _ => true

/-- Whether all numbers in some values have values. -/
def elementsAreReadable : List Value → Bool
  | [] => true
  | element :: rest => element.isReadable && elementsAreReadable rest

/-- Whether all numbers in the entries of a table have values. -/
def entriesAreReadable : List (String × Value) → Bool
  | [] => true
  | (_, value) :: rest => value.isReadable && entriesAreReadable rest

end

end Toml
end ChildProcess
