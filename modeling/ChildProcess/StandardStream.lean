/-!
# Standard streams

Every process starts with three streams, on the descriptors 0, 1 and 2.
-/

namespace ChildProcess

/-- One of the three standard streams of a process. -/
inductive StandardStream
  | stdin
  | stdout
  | stderr
  deriving DecidableEq, Repr, Inhabited

namespace StandardStream

/-- The name of the stream in messages. -/
def name : StandardStream → String
  | .stdin => "stdin"
  | .stdout => "stdout"
  | .stderr => "stderr"

/-- The descriptor on which a process finds the stream. -/
def slot : StandardStream → Nat
  | .stdin => 0
  | .stdout => 1
  | .stderr => 2

end StandardStream

/-- Something for each of the three standard streams. -/
structure PerStream (α : Type) where
  stdin : α
  stdout : α
  stderr : α
  deriving DecidableEq, Repr, Inhabited

namespace PerStream

/-- What there is for one stream. -/
def get {α : Type} (streams : PerStream α) : StandardStream → α
  | .stdin => streams.stdin
  | .stdout => streams.stdout
  | .stderr => streams.stderr

/-- Put something else in place for one stream. -/
def set {α : Type} (streams : PerStream α) (stream : StandardStream) (value : α) :
    PerStream α :=
  match stream with
  | .stdin => { streams with stdin := value }
  | .stdout => { streams with stdout := value }
  | .stderr => { streams with stderr := value }

/-- The three things in the order of the descriptors. -/
def toList {α : Type} (streams : PerStream α) : List α :=
  [streams.stdin, streams.stdout, streams.stderr]

/-- Apply a function to each of the three things. -/
def map {α β : Type} (function : α → β) (streams : PerStream α) : PerStream β :=
  ⟨function streams.stdin, function streams.stdout, function streams.stderr⟩

end PerStream
end ChildProcess
