import ChildProcess.Proofs.Descriptors.Closing
import ChildProcess.Proofs.Spawn.Accounting
import ChildProcess.Session.Streams

/-!
# Who closes the descriptors of a handle

Whoever has started a child holds its handle, may take streams out of it, use them by
name, turn them into descriptors and back, close them, and drop them or the handle in
any order.  The descriptors that are still owned and those that have been closed are
together always the ones that the handle came with, each counted once.
-/

namespace ChildProcess

open Descriptors
open Session (Holding Holdings StreamUse)

/-- The descriptor that is owned with what is held. -/
def Session.Holding.owned : Holding → List Descriptor
  | .descriptor number? | .reader number? | .writer number? => number?.toList
  | .raw _ => []

/-- All descriptors that are owned with what is held. -/
def Session.Holdings.owned (holdings : Holdings) : List Descriptor :=
  holdings.entries.flatMap fun entry => entry.2.owned

/-- Uses that neither give up a number without closing it nor take one over. -/
def Session.StreamUse.keepsOwnership : StreamUse → Bool
  | .bad _ | .intoRaw | .fromRaw => false
  | _ => true

/-- Somebody who has started a child. -/
structure Owner where
  /-- The handle, unless it has been given up. -/
  handle? : Option Handle
  /-- What is held under names. -/
  held : Holdings

/-- What the owner of a handle does. -/
inductive OwnerStep
  /-- Take a stream out of the handle and hold it under a name. -/
  | take (stream : StandardStream) (name : String)
  /-- Use what is held under a name. -/
  | use (name : String) (way : StreamUse)
  /-- Give up the handle. -/
  | dropHandle

/-- Whether a step keeps account of what is owned. -/
def OwnerStep.keepsOwnership : OwnerStep → Bool
  | .use _ way => way.keepsOwnership
  | .take _ _ | .dropHandle => true

namespace Owner

/-- The owner of a new handle. -/
def ofHandle (handle : Handle) : Owner := ⟨some handle, .empty⟩

/-- Everything that is owned. -/
def owned (owner : Owner) : List Descriptor :=
  (owner.handle?.map Handle.owned).getD [] ++ owner.held.owned

/-- A stream as it is held: the parent writes standard input and reads the others. -/
def holdingOf (stream : StandardStream) (number? : Option Descriptor) : Holding :=
  if stream = .stdin then .writer number? else .reader number?

/-- Take a step. -/
def takeStep (owner : Owner) : OwnerStep → Program Owner
  | .take stream name =>
      match owner.handle? with
      | none => pure owner
      | some handle => do
          let held ←
            Session.hold owner.held name
              (holdingOf stream (handle.streams.get stream))
          pure ⟨some (handle.withoutStream stream), held⟩
  | .use name way => do
      let (held, _) ← Session.useHolding owner.held name way
      pure { owner with held }
  | .dropHandle =>
      match owner.handle? with
      | none => pure owner
      | some handle => do
          handle.drop
          pure { owner with handle? := none }

/-- Take steps one after another. -/
def takeSteps (owner : Owner) : List OwnerStep → Program Owner
  | [] => pure owner
  | step :: rest => do
      let owner ← owner.takeStep step
      owner.takeSteps rest

/-- Give up everything that is still held. -/
def drop (owner : Owner) : Program Unit := do
  match owner.handle? with
  | none => pure ()
  | some handle => handle.drop
  owner.held.entries.forM fun entry => Session.dropHolding entry.2

end Owner

/-! ## Descriptors that are spent -/

section Spending

variable {σ α β : Type} {answers : System σ} {state : σ}
variable {owned : List Descriptor} {history : List Event}

/-- Some owned descriptors have either been closed since, or are still owned. -/
def Spends (owned : List Descriptor) (history : List Event)
    (left : α → List Descriptor) (later : List Event) (_ : σ) (value : α) : Prop :=
  (closedNumbers later ++ left value).Perm (closedNumbers history ++ owned)

theorem ensures_bind_of_spends
    {program : Program α}
    {next : α → Program β}
    {between : α → List Descriptor}
    {left : β → List Descriptor}
    (first : program.Ensures { answers } (Spends owned history between) history state)
    (second : ∀ later after value,
      (next value).Ensures { answers } (Spends (between value) later left) later after) :
    (program >>= next).Ensures { answers } (Spends owned history left)
      history state := by
  rw [Program.ensures_bind]
  refine first.mono fun later after value spends => ?_
  refine (second later after value).mono fun later after value spendsMore => ?_
  exact spendsMore.trans spends

/-- What is owned besides stays owned. -/
theorem ensures_spends_append
    {program : Program α}
    {left : α → List Descriptor}
    (ensures : program.Ensures { answers } (Spends owned history left) history state)
    (others : List Descriptor) :
    program.Ensures { answers }
      (Spends (owned ++ others) history fun value => left value ++ others)
      history state := by
  refine ensures.mono fun later after value spends => ?_
  have framed := List.Perm.append_right others spends
  rw [List.append_assoc, List.append_assoc] at framed
  exact framed

/-- A program that closes nothing spends nothing. -/
theorem ensures_spends_of_makes
    {program : Program α}
    (makes : program.Makes fun request => ∀ number, request ≠ .close number)
    (owned : List Descriptor)
    (history : List Event)
    (state : σ) :
    program.Ensures { answers } (Spends owned history fun _ => owned)
      history state := by
  have ensures : program.Ensures { answers }
      (fun later _ _ => closedNumbers later = closedNumbers history) history state := by
    refine makes.ensures (fun later _ => closedNumbers later = closedNumbers history) trivial
      (fun _ _ _ _ _ => trivial) ?_ rfl
    intro later after request answer next same noClose _
    rw [closedNumbers_append, closedNumbers_cons_of_ne answer [] noClose, closedNumbers_nil,
      List.append_nil, same]
  refine ensures.mono fun later after value same => ?_
  rw [Spends, same]

theorem ensures_dropDescriptor_spends
    (held? : Option Descriptor)
    (history : List Event)
    (state : σ) :
    (dropDescriptor held?).Ensures { answers }
      (Spends held?.toList history fun _ => []) history state := by
  cases held? with
  | none => exact .refl _
  | some number =>
      rw [dropDescriptor, Program.ensures_perform_bind]
      refine ⟨trivial, fun answer after answered => ?_⟩
      cases answer with
      | ok => simp [Spends, closedNumbers]
      | error errno =>
          refine ⟨trivial, fun answer after answered => ?_⟩
          simp [Spends, closedNumbers]

end Spending

/-! ## Changing what is held -/

section Holdings

variable {κ ν α : Type} [DecidableEq κ]

theorem insertEntry_flatMap_perm
    (function : κ × ν → List α)
    (key : κ)
    (value : ν)
    (entries : List (κ × ν)) :
    ((insertEntry key value entries).flatMap function ++
        (entries.find? fun entry => entry.1 = key).elim [] function).Perm
      (function (key, value) ++ entries.flatMap function) := by
  induction entries with
  | nil => simp [insertEntry]
  | cons entry rest inductionHypothesis =>
      by_cases same : entry.1 = key
      · simpa [insertEntry, same] using List.perm_append_comm.append_left _
      · simp only [insertEntry, same, List.flatMap_cons, List.find?_cons,
          decide_false, if_false, List.append_assoc]
        exact (inductionHypothesis.append_left (function entry)).trans
          (List.perm_append_comm_assoc _ _ _)

/-- Removing a key removes what belongs to its entry. -/
theorem filter_flatMap_perm
    (function : κ × ν → List α)
    (key : κ)
    (entries : List (κ × ν))
    (nodup : (entries.map Prod.fst).Nodup) :
    ((entries.filter fun entry => decide (entry.1 ≠ key)).flatMap function ++
        (entries.find? fun entry => entry.1 = key).elim [] function).Perm
      (entries.flatMap function) := by
  induction entries with
  | nil => simp
  | cons entry rest inductionHypothesis =>
      obtain ⟨isNew, nodup⟩ := List.nodup_cons.mp nodup
      by_cases same : entry.1 = key
      · have others : rest.filter (fun entry => decide (entry.1 ≠ key)) = rest := by
          rw [List.filter_eq_self]
          intro other isMember
          have differs : other.1 ≠ key := by
            rintro rfl
            exact isNew (same ▸ List.mem_map_of_mem isMember)
          simpa using differs
        rw [List.filter_cons_of_neg (by simp [same]), others,
          List.find?_cons_of_pos (by simp [same])]
        exact List.perm_append_comm
      · simpa [same] using (inductionHypothesis nodup).append_left (function entry)

end Holdings

namespace Session

/-- The descriptors that are owned with what is held under a name. -/
def Holdings.ownedAt (holdings : Holdings) (name : String) : List Descriptor :=
  (holdings.get? name).elim [] Holding.owned

theorem Holdings.ownedAt_eq (holdings : Holdings) (name : String) :
    holdings.ownedAt name =
      (holdings.entries.find? fun entry => entry.1 = name).elim []
        fun entry => entry.2.owned := by
  rw [ownedAt, OrderedMap.get?]
  cases holdings.entries.find? fun entry => entry.1 = name <;> rfl

theorem Holdings.owned_insert_perm
    (holdings : Holdings)
    (name : String)
    (holding : Holding) :
    ((Holdings.owned (holdings.insert name holding)) ++ holdings.ownedAt name).Perm
      (holding.owned ++ holdings.owned) := by
  rw [holdings.ownedAt_eq]
  exact insertEntry_flatMap_perm (fun entry => entry.2.owned) name holding
    holdings.entries

theorem Holdings.owned_erase_perm (holdings : Holdings) (name : String) :
    ((Holdings.owned (holdings.erase name)) ++ holdings.ownedAt name).Perm
      holdings.owned := by
  rw [holdings.ownedAt_eq]
  exact filter_flatMap_perm (fun entry => entry.2.owned) name holdings.entries
    holdings.nodup

section Spending

variable {σ : Type} {answers : System σ} {state : σ} {history : List Event}

theorem ensures_dropHolding (holding : Holding) (history : List Event) (state : σ) :
    (dropHolding holding).Ensures { answers }
      (Spends holding.owned history fun _ => []) history state := by
  cases holding with
  | raw number? => exact .refl _
  | descriptor number? | reader number? | writer number? =>
      exact ensures_dropDescriptor_spends number? history state

/-- Something new takes the place of what was held under a name. -/
theorem ensures_hold
    (answers : System σ)
    (holdings : Holdings)
    (name : String)
    (holding : Holding)
    (history : List Event)
    (state : σ) :
    (hold holdings name holding).Ensures { answers }
      (Spends (holding.owned ++ holdings.owned) history Holdings.owned)
      history state := by
  have replaced := holdings.owned_insert_perm name holding
  unfold Holdings.ownedAt at replaced
  unfold hold
  cases found : holdings.get? name with
  | none =>
      rw [found, Option.elim_none, List.append_nil] at replaced
      exact replaced.append_left _
  | some earlier =>
      rw [found, Option.elim_some] at replaced
      rw [Program.ensures_bind]
      refine (ensures_dropHolding earlier history state).mono ?_
      intro later after _ spends
      have closed := spends.append_right (Holdings.owned (holdings.insert name holding))
      rw [List.append_nil, List.append_assoc] at closed
      exact closed.trans ((List.perm_append_comm.trans replaced).append_left _)

/-- What is held under a name is replaced by something that owns the same. -/
theorem Holdings.owned_insert_perm_of_eq
    {holdings : Holdings}
    {name : String}
    {holding : Holding}
    (same : holding.owned = holdings.ownedAt name) :
    (Holdings.owned (holdings.insert name holding)).Perm holdings.owned := by
  have replaced := holdings.owned_insert_perm name holding
  rw [same] at replaced
  exact (List.perm_append_right_iff _).mp (replaced.trans List.perm_append_comm)

theorem owned_of_converted?
    {use : StreamUse}
    {held? : Option Holding}
    {holding : Holding}
    {answer : StreamAnswer}
    (keeps : use.keepsOwnership = true)
    (converted : converted? use held? = some (holding, answer)) :
    holding.owned = held?.elim [] Holding.owned := by
  cases use <;> try cases keeps
  all_goals rcases held? with _ | (_ | _ | _ | _) <;> cases converted <;> rfl

theorem owned_of_fresh?
    {use : StreamUse}
    {holding : Holding}
    (keeps : use.keepsOwnership = true)
    (isFresh : fresh? use = some holding) :
    holding.owned = [] := by
  cases use <;> cases isFresh <;> first | rfl | cases keeps

theorem ensures_closeDescriptor
    (number? : Option Descriptor)
    (history : List Event)
    (state : σ) :
    (closeDescriptor number?).Ensures { answers }
      (Spends number?.toList history fun _ => []) history state := by
  cases number? with
  | none => exact .refl _
  | some number =>
      rw [closeDescriptor, Program.ensures_perform_bind]
      refine ⟨trivial, fun answer after answered => ?_⟩
      cases answer <;> simp [Spends, closedNumbers]

end Spending

/-! ## Uses that close nothing -/

/-- Calls that close no descriptor. -/
def closesNothing (request : Call) : Prop :=
  ∀ number, request ≠ .close number

theorem makes_readStream (rounds : Nat) (number? : Option Descriptor) (count : Nat) :
    (readStream rounds number? count).Makes closesNothing := by
  cases number? with
  | none => trivial
  | some number =>
      exact Program.makes_bind
        (Program.makes_retrying (Program.makes_perform nofun) rounds) fun _ => trivial

theorem makes_writeStream (rounds : Nat) (number? : Option Descriptor) (data : Bytes) :
    (writeStream rounds number? data).Makes closesNothing := by
  cases number? with
  | none => trivial
  | some number =>
      exact Program.makes_bind
        (Program.makes_retrying (Program.makes_perform nofun) rounds) fun _ => trivial

theorem makes_readToEnd
    {kind : Call → Prop}
    {read : Nat → Program (Except SystemError Bytes)}
    (makes : ∀ count, (read count).Makes kind)
    (rounds : Nat) :
    (Program.readToEnd read rounds).Makes kind := by
  induction rounds with
  | zero => trivial
  | succ rounds inductionHypothesis =>
      refine Program.makes_bind (makes _) fun answer => ?_
      split
      · trivial
      · trivial
      · refine Program.makes_bind inductionHypothesis fun rest => ?_
        cases rest <;> trivial

theorem makes_writeAll
    {kind : Call → Prop}
    {write : Bytes → Program (Except SystemError Nat)}
    (makes : ∀ data, (write data).Makes kind)
    (rounds : Nat)
    (data : Bytes) :
    (Program.writeAll write rounds data).Makes kind := by
  induction rounds generalizing data with
  | zero => cases data <;> trivial
  | succ rounds inductionHypothesis =>
      cases data with
      | nil => trivial
      | cons byte rest =>
          refine Program.makes_bind (makes _) fun answer => ?_
          split
          · trivial
          · trivial
          · exact inductionHypothesis _

theorem makes_useInPlace (held? : Option Holding) (use : StreamUse) :
    (useInPlace held? use).Makes closesNothing := by
  unfold useInPlace
  split
  · split
    · exact Program.makes_bind (makes_readStream _ _ _) fun _ => trivial
    · trivial
  · split
    · exact Program.makes_bind (makes_readToEnd (makes_readStream _ _) _)
        fun _ => trivial
    · trivial
  · split
    · exact Program.makes_bind (makes_writeStream _ _ _) fun _ => trivial
    · trivial
  · split
    · exact Program.makes_bind (makes_writeAll (makes_writeStream _ _) _ _)
        fun _ => trivial
    · trivial
  · split <;> trivial
  · split
    · trivial
    · exact Program.makes_bind (Program.makes_readFully _ _ (fun _ => nofun) _)
        fun _ => trivial
  · split
    · trivial
    · exact Program.makes_bind (Program.makes_perform nofun) fun _ => trivial
  · split
    · trivial
    · exact Program.makes_bind (Program.makes_perform nofun) fun _ => trivial
  · trivial

section Spending

variable {σ : Type} {answers : System σ} {state : σ} {history : List Event}

/-- What was held under a name is closed and no longer there. -/
theorem ensures_bind_of_closes
    {α : Type}
    {program : Program α}
    {holdings left : Holdings}
    (name : String)
    (closes : program.Ensures { answers }
      (Spends (holdings.ownedAt name) history fun _ => []) history state)
    (rest : (left.owned ++ holdings.ownedAt name).Perm holdings.owned)
    (answer : α → StreamAnswer) :
    (program >>= fun value => pure (left, answer value)).Ensures { answers }
      (Spends holdings.owned history fun used => Holdings.owned used.1)
      history state := by
  rw [Program.ensures_bind]
  refine closes.mono fun later after value spends => ?_
  have closed := spends.append_right left.owned
  rw [List.append_nil, List.append_assoc] at closed
  exact closed.trans ((List.perm_append_comm.trans rest).append_left _)

/-- Whatever is done with what is held under a name, ownership is kept account of. -/
theorem ensures_useHolding
    (answers : System σ)
    (holdings : Holdings)
    (name : String)
    {use : StreamUse}
    (keeps : use.keepsOwnership = true)
    (history : List Event)
    (state : σ) :
    (useHolding holdings name use).Ensures { answers }
      (Spends holdings.owned history fun used => Holdings.owned used.1)
      history state := by
  unfold useHolding
  dsimp only
  split
  case h_1 =>
    rename_i holding isFresh
    have replaced := ensures_hold answers holdings name holding history state
    rw [owned_of_fresh? keeps isFresh, List.nil_append] at replaced
    rw [Program.ensures_bind]
    exact replaced
  case h_2 =>
    rename_i holding answer isFresh converted
    refine List.Perm.append_left _ (Holdings.owned_insert_perm_of_eq ?_)
    exact owned_of_converted? keeps converted
  case h_3 =>
    rename_i number? found _ _
    have isOwned : holdings.ownedAt name = number?.toList := by
      rw [Holdings.ownedAt, found]
      rfl
    refine ensures_bind_of_closes name ?_ ?_ id
    · rw [isOwned]
      exact ensures_closeDescriptor number? history state
    · exact holdings.owned_insert_perm name (.descriptor none)
  case h_4 =>
    have erased := holdings.owned_erase_perm name
    cases found : holdings.get? name with
    | none =>
        rw [Holdings.ownedAt, found, Option.elim_none, List.append_nil] at erased
        exact erased.append_left _
    | some holding =>
        refine ensures_bind_of_closes name ?_ erased fun _ => .done
        rw [Holdings.ownedAt, found]
        exact ensures_dropHolding holding history state
  case h_5 =>
    rw [Program.ensures_bind]
    exact ensures_spends_of_makes (makes_useInPlace _ _) holdings.owned history state

end Spending
end Session

namespace Owner

section Spending

variable {σ : Type} {answers : System σ} {history : List Event} {state : σ}

theorem ensures_dropDescriptor_bind
    {α : Type}
    {next : Unit → Program α}
    {owned : List Descriptor}
    {left : α → List Descriptor}
    (held? : Option Descriptor)
    (goesOn : ∀ later after,
      (next ()).Ensures { answers } (Spends owned later left) later after) :
    (dropDescriptor held? >>= next).Ensures { answers }
      (Spends (held?.toList ++ owned) history left) history state :=
  ensures_bind_of_spends
    (ensures_spends_append (ensures_dropDescriptor_spends held? history state) owned)
    fun later after _ => goesOn later after

/-- A handle that is given up has its streams closed. -/
theorem ensures_dropHandle
    (answers : System σ)
    (handle : Handle)
    (history : List Event)
    (state : σ) :
    handle.drop.Ensures { answers }
      (Spends handle.owned history fun _ => []) history state := by
  have isOwned : handle.owned = handle.streams.stdin.toList ++
      (handle.streams.stdout.toList ++ handle.streams.stderr.toList) := by
    rw [Handle.owned, PerStream.toList]
    cases handle.streams.stdin <;> cases handle.streams.stdout <;>
      cases handle.streams.stderr <;> rfl
  have closes : ∀ later after,
      (do
        dropDescriptor handle.streams.stdin
        dropDescriptor handle.streams.stdout
        dropDescriptor handle.streams.stderr : Program Unit).Ensures { answers }
        (Spends handle.owned later fun _ => []) later after := by
    intro later after
    rw [isOwned]
    refine ensures_dropDescriptor_bind _ fun later after => ?_
    refine ensures_dropDescriptor_bind _ fun later after => ?_
    exact ensures_dropDescriptor_spends _ later after
  unfold Handle.drop
  split
  · refine ⟨trivial, fun answer after answered => ?_⟩
    have noClose : closedNumbers (history ++ [⟨.log _, answer⟩]) =
        closedNumbers history := by
      rw [closedNumbers_append, closedNumbers_cons_of_ne answer []]
      · simp
      · rintro _ ⟨⟩
    refine (closes _ after).mono fun later after value spends => ?_
    rw [Spends, noClose] at spends
    exact spends
  · exact closes history state

theorem owned_holdingOf (stream : StandardStream) (number? : Option Descriptor) :
    (holdingOf stream number?).owned = number?.toList := by
  unfold holdingOf
  split <;> rfl

/-- A stream that is taken is owned besides the rest of the handle. -/
theorem owned_withoutStream_perm (handle : Handle) (stream : StandardStream) :
    ((handle.streams.get stream).toList ++ (handle.withoutStream stream).owned).Perm
      handle.owned := by
  obtain ⟨process, ⟨stdin, stdout, stderr⟩, exitCode?, collected⟩ := handle
  rw [List.perm_iff_count]
  intro number
  cases stream <;> cases stdin <;> cases stdout <;> cases stderr <;>
    simp [Handle.owned, Handle.withoutStream, PerStream.get, PerStream.set,
      PerStream.toList, List.count_cons] <;> omega

theorem ensures_takeStep
    (answers : System σ)
    (owner : Owner)
    {step : OwnerStep}
    (keeps : step.keepsOwnership = true)
    (history : List Event)
    (state : σ) :
    (owner.takeStep step).Ensures { answers } (Spends owner.owned history Owner.owned)
      history state := by
  obtain ⟨handle?, held⟩ := owner
  cases step with
  | use name way =>
      have used := ensures_spends_append
        (Session.ensures_useHolding answers held name keeps history state)
        ((handle?.map Handle.owned).getD [])
      rw [takeStep, Program.ensures_bind]
      refine used.mono fun later after value spends => ?_
      exact (List.perm_append_comm.append_left _).trans
        (spends.trans (List.perm_append_comm.append_left _))
  | take stream name =>
      cases handle? with
      | none => exact .refl _
      | some handle =>
          have taken := ensures_spends_append
            (Session.ensures_hold answers held name
              (holdingOf stream (handle.streams.get stream)) history state)
            (handle.withoutStream stream).owned
          rw [takeStep, Program.ensures_bind]
          refine taken.mono fun later after value spends => ?_
          refine (List.perm_append_comm.append_left _).trans (spends.trans ?_)
          refine List.Perm.append_left _ ?_
          rw [owned_holdingOf, List.append_assoc]
          refine (List.perm_append_comm.append_left _).trans ?_
          rw [← List.append_assoc]
          exact (owned_withoutStream_perm handle stream).append_right held.owned
  | dropHandle =>
      cases handle? with
      | none => exact .refl _
      | some handle =>
          have dropped := ensures_spends_append
            (ensures_dropHandle answers handle history state) held.owned
          rw [takeStep, Program.ensures_bind]
          exact dropped

theorem ensures_takeSteps
    (answers : System σ)
    (owner : Owner)
    {steps : List OwnerStep}
    (keep : ∀ step ∈ steps, step.keepsOwnership = true)
    (history : List Event)
    (state : σ) :
    (owner.takeSteps steps).Ensures { answers } (Spends owner.owned history Owner.owned)
      history state := by
  induction steps generalizing owner history state with
  | nil => exact .refl _
  | cons step rest inductionHypothesis =>
      rw [List.forall_mem_cons] at keep
      exact ensures_bind_of_spends (owner.ensures_takeStep answers keep.1 history state)
        fun later after owner => inductionHypothesis owner keep.2 later after

theorem ensures_dropEntries
    (entries : List (String × Holding))
    (history : List Event)
    (state : σ) :
    (entries.forM fun entry => Session.dropHolding entry.2 : Program Unit).Ensures
      { answers } (Spends (entries.flatMap fun entry => entry.2.owned) history fun _ => [])
      history state := by
  induction entries generalizing history state with
  | nil => exact .refl _
  | cons entry rest inductionHypothesis =>
      rw [List.flatMap_cons]
      exact ensures_bind_of_spends
        (ensures_spends_append (Session.ensures_dropHolding entry.2 history state) _)
        fun later after _ => inductionHypothesis later after

/-- Whoever gives up everything has closed all that was owned. -/
theorem ensures_drop (answers : System σ) (owner : Owner) (history : List Event) (state : σ) :
    owner.drop.Ensures { answers } (Spends owner.owned history fun _ => [])
      history state := by
  obtain ⟨handle?, held⟩ := owner
  cases handle? with
  | none => exact ensures_dropEntries held.entries history state
  | some handle =>
      exact ensures_bind_of_spends
        (ensures_spends_append (ensures_dropHandle answers handle history state) _)
        fun later after _ => ensures_dropEntries held.entries later after

end Spending
end Owner

/-! ## From the start to the end -/

/-- Whatever is done with a handle, and whatever is answered, the descriptors that it
came with are those that have been closed and those that are still owned, and once
everything has been given up each of them has been closed once. -/
def Handle.IsSpentOnce (handle : Handle) : Prop :=
  ∀ {σ : Type} (answers : System σ) (state between : σ) (steps : List OwnerStep)
    (events : List Event) (owner : Owner),
    (∀ step ∈ steps, step.keepsOwnership = true) →
      Program.Runs answers ((Owner.ofHandle handle).takeSteps steps) state events
        (.done owner) between →
      (closedNumbers events ++ owner.owned).Perm handle.owned ∧
        ∀ (more : List Event) (after : σ),
          Program.Runs answers owner.drop between more (.done ()) after →
            (closedNumbers (events ++ more)).Perm handle.owned

theorem Handle.isSpentOnce (handle : Handle) : handle.IsSpentOnce := by
  intro σ answers state between steps events owner keep runs
  have isOwned : (Owner.ofHandle handle).owned = handle.owned := by
    simp [Owner.ofHandle, Owner.owned, Session.Holdings.owned, OrderedMap.empty]
  have spends := (Owner.ensures_takeSteps answers _ keep [] state).of_runs runs
  rw [isOwned] at spends
  refine ⟨spends, fun more after runsOn => ?_⟩
  have drops := (owner.ensures_drop answers [] between).of_runs runsOn
  rw [closedNumbers_append]
  have closes : (closedNumbers more).Perm owner.owned := by
    simpa [Spends] using drops
  exact (closes.append_left _).trans spends

namespace Launch

/-- Where the descriptors go when a child is started.  Whatever is answered in the
parent, only descriptors that were not in use before are closed, and only while they
are in use.  A failed start leaves the descriptors as they were and blames a stream
only if it is the first one without a pipe.  A successful one adds the ends of pipes
that the handle owns, and nothing else, and each of these is closed once by whoever
owns the handle. -/
theorem accounts_of_runs_spawn
    {rounds : Nat}
    {launch : Launch}
    {path : SearchPath}
    {environment : Environment}
    {before after : Descriptors}
    {events : List Event}
    {result : Except LaunchError Handle}
    (runs : Program.Runs Descriptors.Answers (launch.spawn rounds path environment)
      before events (.done result) after)
    (inParent : ∀ event ∈ events, event ≠ ⟨.fork, .ok .child⟩) :
    launch.Accounts before events after result ∧
      (∀ first number answer rest, events = first ++ ⟨.close number, answer⟩ :: rest →
        ¬before.IsOpen number ∧
          ∃ middle between,
            Program.Runs Descriptors.Answers (launch.spawn rounds path environment)
              before first middle between ∧ between.IsOpen number) ∧
      ∀ handle, result = .ok handle → handle.IsSpentOnce := by
  have ensures := launch.ensures_spawn rounds path environment before
  have runsInParent := runs.only inParent
  refine ⟨ensures.of_runs runsInParent, ?_, fun handle _ => handle.isSpentOnce⟩
  rintro first number answer rest rfl
  obtain ⟨between, ⟨middle, earlier⟩, allowed⟩ := runsInParent.allows_of_ensures ensures
  exact ⟨not_not.mpr allowed.1, middle, between, earlier.of_only, allowed.2⟩

/-- A child that reads from a pipe and writes to the parent's standard output. -/
theorem accounts_of_runs_spawn_with_piped_input :
    let launch : Launch :=
      { Launch.initial with
        commandLine := ["cat"]
        inheritsEnvironment := false
        redirections := ⟨.pipe, .descriptor 1, .pipe⟩
        mergesOutputs := true }
    let handle : Handle := { process := 7, streams := ⟨some 6, none, none⟩ }
    ∃ events after,
      Program.Runs Descriptors.Answers (launch.spawn 5 ⟨[]⟩ ⟨[]⟩) standard events
          (.done (.ok handle)) after ∧
        (∀ event ∈ events, event ≠ ⟨.fork, .ok .child⟩) ∧
        launch.Accounts standard events after (.ok handle) ∧ handle.IsSpentOnce := by
  intro launch handle
  let reported := standardAndPipe
  let free5 : reported.IsFree 5 := ⟨rfl, by decide, by decide⟩
  let free6 : (reported.openNext 5 true free5).IsFree 6 := ⟨rfl, by decide, by decide⟩
  let prepared := (reported.openNext 5 true free5).openNext 6 true free6
  have makesInput : reported.Answers .pipe (.ok (5, 6)) prepared := ⟨free5, free6, rfl⟩
  have asksLimit : prepared.Answers .descriptorLimit (1024 : Int) prepared := rfl
  have forks : prepared.Answers .fork (.ok (.parent 7)) prepared := rfl
  let supervising := prepared.release 4
  have closesWriter : prepared.Answers (.close 4) (.ok ()) supervising :=
    prepared.becomes_release 4
  have reads : supervising.Answers (.read 3 4) (.ok []) supervising := rfl
  let told := supervising.release 3
  have closesReader : supervising.Answers (.close 3) (.ok ()) told :=
    supervising.becomes_release 3
  let started := told.release 5
  have closesInput : told.Answers (.close 5) (.ok ()) started := told.becomes_release 5
  have runs : ∃ events,
      Program.Runs Descriptors.Answers (launch.spawn 5 ⟨[]⟩ ⟨[]⟩) standard events
          (.done (.ok handle)) started ∧
        ∀ event ∈ events, event ≠ ⟨.fork, .ok .child⟩ := by
    refine ⟨_, .call standard_answers_pipe <| .call makesInput <| .call asksLimit <|
      .call forks <| .call closesWriter <| .call reads <| .call closesReader <|
      .call closesInput <|
      .call (show started.Answers (.log _) () started from rfl) <| .stop _ _, ?_⟩
    simp
  obtain ⟨events, runs, inParent⟩ := runs
  have accounts := accounts_of_runs_spawn runs inParent
  exact ⟨events, started, runs, inParent, accounts.1, accounts.2.2 handle rfl⟩

end Launch
end ChildProcess
