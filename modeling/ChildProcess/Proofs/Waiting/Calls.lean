import ChildProcess.Proofs.Runs
import ChildProcess.Wait

/-!
# The calls of watching and waiting

Watching a child changes nothing: its state is asked for, it is looked for among the
processes, and time passes.  Waiting for it does the same, and may collect it in the end.
-/

namespace ChildProcess

open Program (perform)

namespace Wait

/-- The calls with which a child is watched. -/
def watches (process : ProcessId) : Call → Prop
  | .childReport child => child = process
  | .yield | .sleep _ | .log _ | .disposition _ | .openFile _ _ | .close _ => True
  | _ => False

/-- The calls with which a child is collected. -/
def collects (process : ProcessId) : Call → Prop
  | .collect child mode => child = process ∧ mode = .immediately
  | .log _ => True
  | _ => False

theorem makes_poll_only (rounds : Nat) (process : ProcessId) :
    (poll rounds process).Makes (· = .childReport process) := by
  refine Program.makes_bind (Program.makes_retrying ?_ rounds) fun _ => trivial
  exact Program.makes_perform rfl

theorem makes_poll (rounds : Nat) (process : ProcessId) :
    (poll rounds process).Makes (watches process) := by
  refine (makes_poll_only rounds process).mono ?_
  rintro _ rfl
  rfl

theorem makes_rest (process : ProcessId) (polls : Nat) :
    (rest polls).Makes (watches process) := by
  unfold rest
  split <;> exact ⟨trivial, fun _ => trivial⟩

/-- The calls with which a child is looked at, for which no time has to pass. -/
def looksAt (process : ProcessId) : Call → Prop
  | .childReport child => child = process
  | .log _ | .disposition _ | .openFile _ _ | .close _ => True
  | _ => False

theorem watches_of_looksAt
    {process : ProcessId}
    {request : Call}
    (looking : looksAt process request) :
    watches process request := by
  cases request with
  | childReport child => exact looking
  | log | disposition | openFile | close => trivial
  | _ => exact looking.elim

theorem makes_entryExists (process : ProcessId) :
    (entryExists process).Makes (looksAt process) := by
  refine ⟨trivial, fun answer => ?_⟩
  cases answer with
  | error errno => trivial
  | ok descriptor => exact ⟨trivial, fun _ => trivial⟩

theorem makes_look (rounds : Nat) (process : ProcessId) :
    (hasExited rounds process).Makes (looksAt process) := by
  have makesPoll : (poll rounds process).Makes (looksAt process) := by
    refine (makes_poll_only rounds process).mono ?_
    rintro _ rfl
    rfl
  refine Program.makes_bind makesPoll fun answer => ?_
  rcases answer with errno | status
  · dsimp only
    split
    · trivial
    · refine Program.makes_bind (Program.makes_perform trivial) fun disposition => ?_
      rcases disposition with errno | (_ | _ | _)
      · trivial
      · trivial
      · exact Program.makes_bind (makes_entryExists process) fun _ =>
          ⟨trivial, fun _ => trivial⟩
      · trivial
  · trivial

/-- Looking at a child is watching it. -/
theorem makes_hasExited (rounds : Nat) (process : ProcessId) :
    (hasExited rounds process).Makes (watches process) :=
  (makes_look rounds process).mono fun _ => watches_of_looksAt

theorem makes_awaitCode (rounds : Nat) (process : ProcessId) (more polls : Nat) :
    (awaitCode rounds process more polls).Makes (watches process) := by
  induction more generalizing polls with
  | zero => trivial
  | succ more inductionHypothesis =>
      refine Program.makes_bind (makes_poll rounds process) fun answer => ?_
      rcases answer with errno | status
      · dsimp only
        split
        · exact ⟨trivial, fun _ => trivial⟩
        · trivial
      · dsimp only
        split
        · trivial
        · exact Program.makes_bind (makes_rest process _) fun _ =>
            inductionHypothesis (polls + 1)

theorem makes_collect (rounds : Nat) (process : ProcessId) (seen : Int) :
    (collect rounds process seen).Makes (collects process) := by
  refine Program.makes_bind (Program.makes_retrying ?_ rounds) ?_
  · exact Program.makes_perform ⟨rfl, rfl⟩
  · rintro (errno | ⟨collected, word⟩)
    · dsimp only
      split
      · trivial
      · exact ⟨trivial, fun _ => trivial⟩
    · trivial

/-- The calls with which a child is waited for. -/
def awaits (process : ProcessId) (request : Call) : Prop :=
  watches process request ∨ collects process request

/-- Waiting is watching, and collecting in the end. -/
theorem makes_waitFor (rounds : Nat) (process : ProcessId) :
    (waitFor rounds process).Makes (awaits process) := by
  refine Program.makes_bind
    ((makes_awaitCode rounds process rounds 0).mono fun _ => .inl) ?_
  rintro (cause | (_ | seen))
  · trivial
  · trivial
  · refine Program.makes_bind
      ((makes_collect rounds process seen).mono fun _ => .inr) fun final? => ?_
    exact ⟨.inl trivial, fun _ => trivial⟩

end Wait
end ChildProcess
