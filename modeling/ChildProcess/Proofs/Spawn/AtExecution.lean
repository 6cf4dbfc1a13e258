import ChildProcess.Proofs.Spawn.Wiring

/-!
# What holds when a child executes a program

Nothing but the preparation of a child comes before its first execution, an execution that
fails changes no descriptor, and a report is not followed by an execution.  So what a
successful preparation leads to holds at every execution.  Here nothing is asked of the
descriptors that the child begins with.
-/

namespace ChildProcess
namespace Child

open Descriptors

variable {history : List Event} {state : Descriptors} {α β : Type}

/-! ## Parts of the preparation -/

/-- If a part of the preparation succeeds, it leads to descriptors of some kind. -/
def Leads (program : ExceptT Errno Program α) (result : α → Descriptors → Prop)
    (history : List Event) (state : Descriptors) : Prop :=
  program.run.Ensures answering
    (fun _ after outcome => ∀ value, outcome = .ok value → result value after) history state

namespace Leads

theorem pure
    {result : α → Descriptors → Prop}
    {value : α}
    (isResult : result value state) :
    Leads (Pure.pure value) result history state := by
  rintro _ ⟨⟩
  exact isResult

theorem bind
    {first : α → Descriptors → Prop}
    {result : β → Descriptors → Prop}
    {program : ExceptT Errno Program α}
    {next : α → ExceptT Errno Program β}
    (leads : Leads program first history state)
    (goesOn : ∀ later after value, first value after →
      Leads (next value) result later after) :
    Leads (program >>= next) result history state := by
  unfold Leads at leads ⊢
  rw [ExceptT.run_bind, Program.ensures_bind]
  refine leads.mono ?_
  rintro later after (errno | value) outcome
  · exact nofun
  · exact goesOn later after value (outcome value rfl)

/-- What no call of some kind changes holds after a part that makes no other calls. -/
theorem of_makes
    {kind : Call → Prop}
    {program : ExceptT Errno Program α}
    (invariant : Descriptors → Prop)
    (makes : program.run.Makes kind)
    (kept : ∀ state request answer next, kind request → invariant state →
      state.Answers request answer next → invariant next)
    (holds : invariant state) :
    Leads program (fun _ => invariant) history state := by
  refine (makes.ensures (fun _ state => invariant state) trivial
    (fun _ _ _ _ _ => trivial) ?_ holds).mono fun _ _ _ holds _ _ => holds
  intro _ state request answer next holds isKind
  exact kept state request answer next isKind holds

end Leads

/-- As long as the descriptor for the report is kept, what is known about the set-up may
be used. -/
theorem Arranges.leads_bind
    {writer : Descriptor}
    {report : FileId}
    {reached : Stage}
    {first : List Event → Descriptors → α → Prop}
    {result : β → Descriptors → Prop}
    {program : ExceptT Errno Program α}
    {next : α → ExceptT Errno Program β}
    (arranges : Arranges writer report reached first program history state)
    (goesOn : ∀ later after value, after.OnlyAt writer report →
      Proceeds writer reached later → first later after value →
        Leads (next value) result later after) :
    Leads (program >>= next) result history state := by
  unfold Leads
  rw [ExceptT.run_bind, Program.ensures_bind]
  have arranged : program.run.Ensures answering _ history state :=
    arranges.weaken (fun _ _ _ _ => id) (fun _ _ _ _ => trivial) id
  refine arranged.mono ?_
  rintro later after (errno | value) ⟨only, outcome⟩
  · exact nofun
  · exact goesOn later after value only outcome.1 outcome.2

/-! ## The whole child -/

/-- The circumstances of a child that executes programs only with descriptors of some
kind. -/
abbrev executing (ready : Descriptors → Prop) : Setting Descriptors where
  answers := Answers
  allows _ state request := isExecution request → ready state

/-- The calls with which a child prepares itself. -/
def prepares : Call → Prop
  | .setDisposition _ _ | .setSignalMask _ => True
  | request => setsUp request

theorem prepares_of_setsUp (request : Call) (setsUp : setsUp request) : prepares request := by
  cases request <;> trivial

theorem not_isExecution_of_prepares (request : Call) (prepares : prepares request) :
    ¬isExecution request := by
  intro isExecution
  cases request with
  | execute => exact prepares
  | _ => exact isExecution

theorem makes_preparation (rounds : Nat) (inheritance : Inheritance) :
    (preparation rounds inheritance).run.Makes prepares := by
  have closes : (Inherited.closeEach inheritance.surplus).Completes prepares :=
    completes_closeEach (fun _ => trivial) _
  refine makes_exceptT_bind (Program.makes_bind closes.makes fun _ => trivial) fun _ => ?_
  refine makes_exceptT_bind ⟨trivial, fun _ => ⟨trivial, fun _ => trivial⟩⟩ fun _ => ?_
  exact (makes_setUp rounds inheritance).mono prepares_of_setsUp

/-- What a successful preparation leads to holds whenever a program is executed. -/
theorem ensures_run_of_leads
    {inheritance : Inheritance}
    {ready : Descriptors → Prop}
    (rounds : Nat)
    (leads : Leads (preparation rounds inheritance) (fun _ => ready) [] state) :
    (run rounds inheritance).Ensures (executing ready) (fun _ _ _ => True) [] state := by
  have reports : ∀ errno history state,
      (Report.sendAndExit rounds inheritance.reportWriter errno).Ensures (executing ready)
        (fun _ _ _ => True) history state := by
    intro errno history state
    have makes : (Report.sendAndExit rounds inheritance.reportWriter errno).Makes
        fun request => ¬isExecution request :=
      Report.makes_sendAndExit (fun _ => id) id id rounds errno
    exact makes.ensures_of_allowed trivial (fun _ _ _ notMade made => absurd made notMade)
      history state
  have allowed : (preparation rounds inheritance).run.Ensures (executing ready)
      (fun _ _ _ => True) [] state :=
    (makes_preparation rounds inheritance).ensures_of_allowed trivial
      (fun _ _ request prepares made =>
        absurd made (not_isExecution_of_prepares request prepares)) [] state
  have prepared : (preparation rounds inheritance).run.Ensures (executing ready) _ []
      state :=
    (leads.and allowed).weaken (fun _ _ _ _ => id) (fun _ _ _ => And.right) And.right
  rw [run_eq, Program.ensures_bind]
  refine prepared.mono ?_
  rintro later after (errno | _) ⟨outcome, -⟩
  · exact reports errno later after
  rw [Program.ensures_bind]
  refine (inheritance.request.completes_run.makes.ensures (fun _ state => ready state)
    trivial ?_ ?_ (outcome () rfl)).mono fun later after errno _ => reports errno later after
  · intro _ _ _ isReady _ _
    exact isReady
  · intro _ state request answer next isReady executes answered
    cases request with
    | execute =>
        obtain rfl : next = state := answered
        exact isReady
    | _ => exact executes.elim

end Child
end ChildProcess
