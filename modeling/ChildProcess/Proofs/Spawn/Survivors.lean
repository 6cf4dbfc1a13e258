import ChildProcess.Proofs.Spawn.AtExecution

/-!
# What survives the execution of a program

A child makes descriptors that stay open on execution only from the ends that it was
given: copies of them that it moves out of the way, which it closes again, and the
standard descriptors that it puts them onto.  Everything else that is left when a program
takes over was open in the parent under the same number and stayed open on execution
there.  This holds however the descriptors lay when the process was duplicated, and
whether or not the given ends were open.
-/

namespace ChildProcess
namespace Child

open Descriptors

/-- What stays open on execution did so in the parent, or stands for a given file, under a
standard number or that of a copy. -/
def Inherits (given : FileId → Prop) (atFork : Descriptors) (copies : List Descriptor)
    (state : Descriptors) : Prop :=
  ∀ number slot, state.slot? number = some slot → slot.closesOnExec = false →
    atFork.slot? number = some slot ∨ given slot.file ∧ (number ≤ 2 ∨ number ∈ copies)

/-- If a source is open, it stands for a given file. -/
def Offers (given : FileId → Prop) (state : Descriptors) (source? : Option Descriptor) :
    Prop :=
  ∀ source file, source? = some source → state.file? source = some file → given file

section Inheriting

variable {given : FileId → Prop} {atFork state after : Descriptors}
variable {copies more : List Descriptor} {source? : Option Descriptor}
variable {number : Descriptor} {file : FileId} {history : List Event}

/-! ## Single changes -/

theorem Inherits.of_closed
    {numbers : Descriptor → Prop}
    (inherits : Inherits given atFork copies state)
    (closed : state.Closed numbers after) :
    Inherits given atFork copies after := by
  intro number slot isSlot stays
  refine inherits number slot ?_ stays
  rw [← closed.keeps number fun isClosed => ?_]
  · exact isSlot
  · rw [closed.closed number isClosed] at isSlot
    cases isSlot

theorem Offers.of_closed
    {numbers : Descriptor → Prop}
    (offers : Offers given state source?)
    (closed : state.Closed numbers after) :
    Offers given after source? := by
  intro source file isSource stands
  refine offers source file isSource ?_
  rw [Descriptors.file?, ← closed.keeps source fun isClosed => ?_]
  · exact stands
  · rw [Descriptors.file?, closed.closed source isClosed] at stands
    cases stands

/-- A given file may be put onto a standard number, or onto that of a copy. -/
theorem Inherits.put
    (inherits : Inherits given atFork copies state)
    (isGiven : given file)
    (becomes : state.Becomes number (some ⟨file, false⟩) after)
    (place : number ≤ 2 ∨ number ∈ more) :
    Inherits given atFork (copies ++ more) after := by
  intro other slot isSlot stays
  by_cases same : other = number
  · rw [same, becomes.slot?_self] at isSlot
    cases isSlot
    rw [same]
    exact .inr ⟨isGiven, place.imp_right (List.mem_append_right _)⟩
  · rw [becomes.slot?_of_ne same] at isSlot
    exact (inherits other slot isSlot stays).imp_right
      (And.imp_right (Or.imp_right (List.mem_append_left _)))

theorem Offers.put
    (offers : Offers given state source?)
    (isGiven : given file)
    (becomes : state.Becomes number (some ⟨file, false⟩) after) :
    Offers given after source? := by
  intro source other isSource stands
  by_cases same : source = number
  · rw [same, Descriptors.file?, becomes.slot?_self] at stands
    cases stands
    exact isGiven
  · rw [becomes.file?_of_ne same] at stands
    exact offers source other isSource stands

/-- A number that is made to close on execution does not survive. -/
theorem Inherits.seal
    {slot : Slot}
    (inherits : Inherits given atFork copies state)
    (becomes : state.Becomes number (some ⟨slot.file, true⟩) after) :
    Inherits given atFork copies after := by
  intro other slot isSlot stays
  by_cases same : other = number
  · rw [same, becomes.slot?_self] at isSlot
    cases isSlot
    cases stays
  · rw [becomes.slot?_of_ne same] at isSlot
    exact inherits other slot isSlot stays

/-! ## Moving and installing -/

/-- A source may be moved, and every other one offers what it did. -/
theorem leads_moveAside
    (stream : StandardStream)
    (inherits : Inherits given atFork copies state)
    (offers : Offers given state source?) :
    Leads (moveAside stream source?)
      (fun moved after =>
        (∃ more, (∀ number ∈ more, 2 < number ∧ moved = some number) ∧
          Inherits given atFork (copies ++ more) after) ∧
        Offers given after moved ∧
          ∀ other?, Offers given state other? → Offers given after other?)
      history state := by
  have stay : (∃ more, (∀ number ∈ more, 2 < number ∧ source? = some number) ∧
      Inherits given atFork (copies ++ more) state) ∧
      Offers given state source? ∧
        ∀ other?, Offers given state other? → Offers given state other? :=
    ⟨⟨[], by simp, by rwa [List.append_nil]⟩, offers, fun _ => id⟩
  cases source? with
  | none => exact .pure stay
  | some source =>
      rw [moveAside]
      split
      · refine ⟨trivial, fun answer after answered => ?_⟩
        cases answer with
        | error errno => rintro _ ⟨⟩
        | ok number =>
            obtain ⟨slot, isSlot, above, -, becomes⟩ := answered
            have isGiven : given slot.file :=
              offers source slot.file rfl (by rw [Descriptors.file?, isSlot]; rfl)
            rintro _ ⟨⟩
            refine ⟨⟨[number], ?_, inherits.put isGiven becomes (.inr (by simp))⟩, ?_, ?_⟩
            · intro copy isCopy
              rw [List.mem_singleton.mp isCopy]
              exact ⟨Int.lt_of_lt_of_le (by decide) above, rfl⟩
            · rintro _ file ⟨⟩ stands
              rw [Descriptors.file?, becomes.slot?_self] at stands
              cases stands
              exact isGiven
            · exact fun other? offers => offers.put isGiven becomes
      · exact .pure stay

theorem leads_moveSources
    {ends : PerStream (Option Descriptor)}
    (inherits : Inherits given atFork [] state)
    (offers : ∀ stream, Offers given state (ends.get stream)) :
    Leads (moveSources ends)
      (fun moved after =>
        (∃ copies, (∀ number ∈ copies, 2 < number ∧ ∃ stream, moved.get stream = some number) ∧
          Inherits given atFork copies after) ∧
        ∀ stream, Offers given after (moved.get stream))
      history state := by
  rw [moveSources]
  refine (leads_moveAside .stdin inherits (offers .stdin)).bind ?_
  rintro later first stdin ⟨⟨copiesFirst, areFirst, inherits⟩, offersStdin, keepsFirst⟩
  refine (leads_moveAside .stdout inherits (keepsFirst _ (offers .stdout))).bind ?_
  rintro later second stdout ⟨⟨copiesSecond, areSecond, inherits⟩, offersStdout, keepsSecond⟩
  refine (leads_moveAside .stderr inherits
    (keepsSecond _ (keepsFirst _ (offers .stderr)))).bind ?_
  rintro later third stderr ⟨⟨copiesThird, areThird, inherits⟩, offersStderr, keepsThird⟩
  refine .pure ⟨⟨_, fun number isCopy => ?_, inherits⟩, fun stream => ?_⟩
  · simp only [List.nil_append, List.mem_append] at isCopy
    rcases isCopy with (isCopy | isCopy) | isCopy
    · exact ⟨(areFirst number isCopy).1, .stdin, (areFirst number isCopy).2⟩
    · exact ⟨(areSecond number isCopy).1, .stdout, (areSecond number isCopy).2⟩
    · exact ⟨(areThird number isCopy).1, .stderr, (areThird number isCopy).2⟩
  · cases stream with
    | stdin => exact keepsThird _ (keepsSecond _ offersStdin)
    | stdout => exact keepsThird _ offersStdout
    | stderr => exact offersStderr

theorem leads_install_given
    (stream : StandardStream)
    (inherits : Inherits given atFork copies state)
    (offers : Offers given state source?) :
    Leads (install stream source?)
      (fun _ after =>
        Inherits given atFork copies after ∧
          ∀ other?, Offers given state other? → Offers given after other?)
      history state := by
  have low : (stream.slot : Descriptor) ≤ 2 := by cases stream <;> decide
  -- Either way the slot of the stream comes to stand for the source's file.
  have puts : ∀ after slot source, source? = some source → state.slot? source = some slot →
      state.Becomes stream.slot (some ⟨slot.file, false⟩) after →
        Inherits given atFork copies after ∧
          ∀ other?, Offers given state other? → Offers given after other? := by
    intro after slot source isSource isSlot becomes
    have isGiven : given slot.file :=
      offers source slot.file isSource (by rw [Descriptors.file?, isSlot]; rfl)
    have put : Inherits given atFork (copies ++ []) after :=
      inherits.put isGiven becomes (.inl low)
    rw [List.append_nil] at put
    exact ⟨put, fun other? offers => offers.put isGiven becomes⟩
  cases source? with
  | none => exact .pure ⟨inherits, fun _ => id⟩
  | some source =>
      rw [install]
      split
      · next inPlace =>
        refine ⟨trivial, fun answer after answered => ?_⟩
        cases answer with
        | error errno => rintro _ ⟨⟩
        | ok =>
            obtain ⟨slot, isSlot, becomes⟩ := answered
            exact fun _ _ => puts after slot source rfl isSlot (inPlace ▸ becomes)
      · refine ⟨trivial, fun answer after answered => ?_⟩
        cases answer with
        | error errno => rintro _ ⟨⟩
        | ok =>
            obtain ⟨slot, isSlot, -, becomes⟩ := answered
            exact fun _ _ => puts after slot source rfl isSlot becomes

theorem leads_installSources_given
    {moved : PerStream (Option Descriptor)}
    (inherits : Inherits given atFork copies state)
    (offers : ∀ stream, Offers given state (moved.get stream)) :
    Leads (installSources moved) (fun _ => Inherits given atFork copies) history state := by
  rw [installSources]
  refine (leads_install_given .stdin inherits (offers .stdin)).bind ?_
  rintro later first _ ⟨inherits, keepsFirst⟩
  refine (leads_install_given .stdout inherits (keepsFirst _ (offers .stdout))).bind ?_
  rintro later second _ ⟨inherits, keepsSecond⟩
  refine (leads_install_given .stderr inherits
    (keepsSecond _ (keepsFirst _ (offers .stderr)))).mono ?_
  rintro later third outcome holds value isValue
  exact (holds value isValue).1

/-! ## Closing -/

theorem leads_closeEach (numbers : List Descriptor) :
    Leads (liftM (Inherited.closeEach numbers))
      (fun _ after => state.Closed (· ∈ numbers) after) history state := by
  unfold Leads
  change (Inherited.closeEach numbers >>= fun value => Program.done (Except.ok value)).Ensures
    _ _ _ _
  rw [Program.ensures_bind]
  refine .of_start history ((closes_closeEach numbers state).mono ?_)
  rintro events after _ ⟨closed, -⟩ _ -
  exact closed

/-- All copies are among the sources that are closed in the end. -/
theorem leads_closeSources
    {moved : PerStream (Option Descriptor)}
    (areSources : ∀ number ∈ copies, 2 < number ∧ ∃ stream, moved.get stream = some number)
    (inherits : Inherits given atFork copies state) :
    Leads (liftM (closeSources moved)) (fun _ => Inherits given atFork []) history state := by
  refine (leads_closeEach _).mono fun later after outcome holds value isValue => ?_
  have closed := holds value isValue
  intro number slot isSlot stays
  refine (inherits.of_closed closed number slot isSlot stays).imp_right ?_
  rintro ⟨isGiven, low | isCopy⟩
  · exact ⟨isGiven, .inl low⟩
  · obtain ⟨above, stream, isMoved⟩ := areSources number isCopy
    have isClosed : number ∈ (moved.toList.filterMap id).filter (2 < ·) := by
      rw [List.mem_filter, List.mem_filterMap]
      refine ⟨⟨some number, ?_, rfl⟩, decide_eq_true above⟩
      cases stream <;> simp [PerStream.toList, ← isMoved, PerStream.get]
    rw [closed.closed number isClosed] at isSlot
    cases isSlot

/-- The calls after the sources have been closed. -/
def tidies : Call → Prop
  | .close _ | .directoryRecords _ _ | .changeDirectory _ => True
  | .openFile _ mode => mode.closesOnExec = true
  | .setCloseOnExec _ value => value = true
  | _ => False

theorem Inherits.of_tidies
    {request : Call}
    {answer : request.Answer}
    (inherits : Inherits given atFork copies state)
    (isTidy : tidies request)
    (answered : state.Answers request answer after) :
    Inherits given atFork copies after := by
  cases request with
  | close => exact inherits.of_closed (.of_becomes answered)
  | changeDirectory =>
      obtain rfl : after = state := answered
      exact inherits
  | directoryRecords =>
      rcases answer with errno | records
      · obtain rfl : after = state := answered
        exact inherits
      · obtain ⟨slot, -, listed⟩ := answered
        split at listed
        · exact listed ▸ inherits
        · obtain ⟨next, -, rfl⟩ := listed
          exact inherits
  | openFile path mode =>
      rcases answer with errno | opened
      · obtain rfl : after = state := answered
        exact inherits
      · obtain ⟨free, rfl⟩ := answered
        intro number slot isSlot stays
        change (state.openNext opened mode.closesOnExec free).slot? number = _ at isSlot
        by_cases same : number = opened
        · rw [same, openNext_slot?_self] at isSlot
          cases isSlot
          rw [isTidy] at stays
          cases stays
        · rw [openNext_slot?_of_ne free _ same] at isSlot
          exact inherits number slot isSlot stays
  | setCloseOnExec target value =>
      obtain rfl : value = true := isTidy
      rcases answer with errno | _
      · obtain rfl : after = state := answered
        exact inherits
      · obtain ⟨slot, -, becomes⟩ := answered
        exact inherits.seal becomes
  | _ => exact isTidy.elim

theorem leads_of_tidies
    {α : Type}
    {program : ExceptT Errno Program α}
    (makes : program.run.Makes tidies)
    (inherits : Inherits given atFork copies state) :
    Leads program (fun _ => Inherits given atFork copies) history state :=
  .of_makes _ makes (fun _ _ _ _ isTidy inherits => inherits.of_tidies isTidy) inherits

/-! ## The whole child -/

theorem leads_setUp_given
    (rounds : Nat)
    (inheritance : Inheritance)
    (inherits : Inherits given atFork [] state)
    (offers : ∀ stream, Offers given state (inheritance.childEnds.get stream)) :
    Leads (setUp rounds inheritance) (fun _ => Inherits given atFork []) history state := by
  have closesNumber : ∀ number, tidies (.close number) := fun _ => trivial
  have lists : ∀ number size, tidies (.directoryRecords number size) := fun _ _ => trivial
  have closes : (liftM (Inherited.close rounds 3 inheritance.reportWriter
      inheritance.limit) : ExceptT Errno Program Inherited.Strategy).run.Makes tidies :=
    Program.makes_bind (makes_close closesNumber rfl lists _ _ _ _) fun _ => trivial
  have enters : (ExceptT.mk (Program.perform
      (.changeDirectory inheritance.request.directory.bytes))).run.Makes tidies :=
    ⟨trivial, fun _ => trivial⟩
  have seals : (ExceptT.mk (Program.perform
      (.setCloseOnExec inheritance.reportWriter true))).run.Makes tidies :=
    ⟨rfl, fun _ => trivial⟩
  refine (leads_moveSources inherits offers).bind ?_
  rintro later after moved ⟨⟨copies, areSources, inherits⟩, offers⟩
  refine (leads_installSources_given inherits offers).bind fun _ _ _ inherits => ?_
  refine (leads_closeSources areSources inherits).bind fun _ _ _ inherits => ?_
  refine (leads_of_tidies closes inherits).bind fun _ _ _ inherits => ?_
  refine (leads_of_tidies enters inherits).bind fun _ _ _ inherits => ?_
  exact leads_of_tidies seals inherits

/-- Whenever a child executes a program, what stays open did so in the parent, or is a
standard descriptor that stands for a given file. -/
theorem ensures_inherits
    (rounds : Nat)
    (inheritance : Inheritance)
    (offers : ∀ stream, Offers given state (inheritance.childEnds.get stream)) :
    (run rounds inheritance).Ensures (executing (Inherits given state []))
      (fun _ _ _ => True) [] state := by
  refine ensures_run_of_leads rounds ?_
  have inherits : Inherits given state [] state := fun _ _ isSlot _ => .inl isSlot
  refine (leads_closeEach inheritance.surplus).bind fun _ closed _ isClosed => ?_
  have resets : (liftM resetSignals : ExceptT Errno Program Unit).run.Makes
      fun request => leavesDescriptors request = true :=
    ⟨rfl, fun _ => ⟨rfl, fun _ => trivial⟩⟩
  refine (Leads.of_makes (· = closed) resets ?_ rfl).bind ?_
  · intro state request answer next leaves same answered
    exact (eq_of_answers leaves answered).trans same
  · rintro _ _ _ rfl
    exact leads_setUp_given rounds inheritance (inherits.of_closed isClosed) fun stream =>
      (offers stream).of_closed isClosed

end Inheriting
end Child
end ChildProcess
