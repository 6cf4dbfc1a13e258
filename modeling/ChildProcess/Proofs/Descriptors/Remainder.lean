import ChildProcess.Proofs.Descriptors.Closing
import Mathlib.Data.Int.Interval
import Mathlib.Data.Set.Card

/-!
# What is left after closing

Where every listing but the last names a descriptor, a scan comes to its end, or is
given up, after no more listings than there are descriptors, and one more for the
directory and one for the end.  Closing then comes to its result, and what is left is
known exactly: it does not depend on how far the scan has come as long as all
descriptors lie below the limit.
-/

namespace ChildProcess
namespace Descriptors

/-- A listing names a descriptor, unless it is the last one. -/
def NamesDescriptor : Event → Prop
  | ⟨.directoryRecords _ _, .ok records⟩ =>
      records = [] ∨ DirectoryRecord.descriptors records records.length 0 ≠ []
  | _ => True

/-- The circumstances in which listings go on, and a program has to come to a
result. -/
abbrev delivering : Setting Descriptors where
  answers := System.only Answers NamesDescriptor
  exhaustion := False

/-- The numbers that are open. -/
def openNumbers (descriptors : Descriptors) : Set Descriptor :=
  {number | descriptors.IsOpen number}

theorem finite_openNumbers (descriptors : Descriptors) : descriptors.openNumbers.Finite :=
  (Set.finite_Icc (0 : Int) DirectoryRecord.maxDescriptor).subset fun number isOpen =>
    descriptors.inRange number isOpen

section Delivering

variable {state : Descriptors} {directory start : Descriptor} {slot : Slot}
variable {rounds : Nat}

theorem delivers_closeEach
    {result : List Event → Descriptors → Unit → Prop}
    (numbers : List Descriptor)
    (closed : ∀ later after, state.Closed (· ∈ numbers) after →
      after.listedFrom? = state.listedFrom? → result later after ())
    (history : List Event) :
    (Inherited.closeEach numbers).Ensures delivering result history state := by
  have closes : (Inherited.closeEach numbers).Ensures ⟨Answers, fun _ _ _ => True, False⟩
      result history state :=
    .of_start history ((closes_closeEach numbers state).mono fun events after _ holds =>
      closed _ after holds.1 holds.2.1)
  exact closes.restrict

/-- Each listing uses up one of the descriptors that are left to be listed. -/
theorem delivers_closeListed
    (isDirectory : state.slot? directory = some slot)
    (begins : state.listedFrom? slot.file = some start)
    (left : Finset Descriptor)
    (covers : ∀ number, start ≤ number → state.IsOpen number → number ∈ left)
    (enough : left.card < rounds)
    (first keep : Descriptor)
    (buffer : Bytes)
    (history : List Event) :
    (Inherited.closeListed first keep directory rounds buffer).Ensures delivering
      (fun _ _ _ => True) history state := by
  induction rounds generalizing state start left buffer history with
  | zero => exact absurd enough (Nat.not_lt_zero _)
  | succ rounds inductionHypothesis =>
      rw [Inherited.closeListed, Program.ensures_perform_bind]
      refine ⟨trivial, fun answer next answered => ?_⟩
      rcases answer with errno | (_ | ⟨byte, rest⟩)
      · trivial
      · trivial
      obtain ⟨⟨found, isFound, answered⟩, named⟩ := answered
      rw [isDirectory] at isFound
      cases isFound
      rw [begins] at answered
      obtain ⟨following, lists, rfl⟩ := answered
      obtain ⟨number, isNamed⟩ :=
        List.exists_mem_of_ne_nil _ (named.resolve_left (List.cons_ne_nil byte rest))
      obtain ⟨low, high, isOpen⟩ := (lists.mem_descriptors_iff number).mp isNamed
      rw [Program.ensures_bind]
      refine delivers_closeEach _ (fun later after closed sameListing => ?_) _
      have stays : after.slot? directory = some slot :=
        (closed.keeps directory (by simp)).trans isDirectory
      have goesOn : after.listedFrom? slot.file = some following := by
        rw [sameListing, listing_listedFrom?_self]
      -- what is left lies behind the listing, so the number it named is not among it
      refine inductionHypothesis stays goesOn (left.erase number) ?_ ?_ _ later
      · intro other behind isLeft
        have wasOpen : state.IsOpen other := closed.isOpen_of_isOpen isLeft
        rw [Finset.mem_erase]
        unfold Descriptor at *
        exact ⟨by omega, covers other (by omega) wasOpen⟩
      · rw [Finset.card_erase_of_mem (covers number low isOpen)]
        have some := Finset.card_pos.mpr ⟨number, covers number low isOpen⟩
        omega

theorem delivers_closeByDirectory
    (enough : state.openNumbers.ncard + 2 ≤ rounds)
    (first keep : Descriptor)
    (history : List Event) :
    (Inherited.closeByDirectory rounds first keep).Ensures delivering
      (fun _ _ _ => True) history state := by
  rw [Inherited.closeByDirectory, Program.ensures_perform_bind]
  refine ⟨trivial, fun answer opened answered => ?_⟩
  rcases answer with errno | directory
  · trivial
  obtain ⟨⟨free, rfl⟩, -⟩ := answered
  have isDirectory : ((state.openNext directory true free).listing state.nextFile
      (some 0)).slot? directory = some ⟨state.nextFile, true⟩ :=
    openNext_slot?_self free true
  rw [if_pos rfl, Program.ensures_bind]
  refine (delivers_closeListed isDirectory (listing_listedFrom?_self _ _ _)
    (insert directory state.finite_openNumbers.toFinset) ?_ ?_ first keep _ _).mono ?_
  · intro number _ isOpen
    rw [Finset.mem_insert, Set.Finite.mem_toFinset]
    by_cases same : number = directory
    · exact .inl same
    · refine .inr fun isFree => isOpen ?_
      exact (openNext_slot?_of_ne free true same).trans isFree
  · have atMost := Finset.card_insert_le directory state.finite_openNumbers.toFinset
    rw [← Set.ncard_eq_toFinset_card _ state.finite_openNumbers] at atMost
    omega
  · intro later after completed _
    exact ⟨trivial, fun _ _ _ => trivial⟩

theorem delivers_close
    (enough : state.openNumbers.ncard + 2 ≤ rounds)
    (first keep limit : Descriptor)
    (history : List Event) :
    (Inherited.close rounds first keep limit).Ensures delivering (fun _ _ _ => True)
      history state := by
  rw [Inherited.close, Program.ensures_bind]
  refine (delivers_closeByDirectory enough first keep history).mono ?_
  intro later after completed _
  cases completed with
  | true => trivial
  | false =>
      rw [if_neg Bool.false_ne_true, closeByNumber_eq_closeEach, Program.ensures_bind]
      exact delivers_closeEach _ (fun _ _ _ _ => trivial) later

end Delivering

/-! ## Runs that are given up -/

section GivenUp

variable {state : Descriptors} {directory : Descriptor} {rounds : Nat}

/-- Numbers that are closed one after another. -/
def closings (numbers : List Descriptor) : List Event :=
  numbers.map fun number => ⟨.close number, .ok ()⟩

theorem runs_closeEach (numbers : List Descriptor) (state : Descriptors) :
    ∃ after, Program.Runs delivering.answers (Inherited.closeEach numbers) state
        (closings numbers) (.done ()) after ∧
      state.Closed (· ∈ numbers) after ∧ after.listedFrom? = state.listedFrom? := by
  induction numbers generalizing state with
  | nil => exact ⟨state, .stop _ _, .of_eq rfl fun _ => List.not_mem_nil, rfl⟩
  | cons number rest inductionHypothesis =>
      obtain ⟨after, runs, closed, sameListing⟩ := inductionHypothesis (state.release number)
      have closes := state.becomes_release number
      refine ⟨after, .call ⟨closes, trivial⟩ runs, ?_, sameListing⟩
      exact ((Closed.of_becomes closes).trans closed).congr (by simp)

/-- One listing that names something, in the run of a scan. -/
theorem runs_closeListed
    {next between after : Descriptors}
    {first keep : Descriptor}
    {records buffer : Bytes}
    {later : List Event}
    {left : Program Bool}
    {numbers : List Descriptor}
    (nonempty : records ≠ [])
    (answered : delivering.answers state
      (.directoryRecords directory Inherited.bufferSize) (.ok records) next)
    (chosen : (DirectoryRecord.descriptors (records ++ buffer.drop records.length)
      records.length 0).filter (selects first keep directory) = numbers)
    (closes : Program.Runs delivering.answers (Inherited.closeEach numbers) next
      (closings numbers) (.done ()) between)
    (goesOn : ∀ filled, Program.Runs delivering.answers
      (Inherited.closeListed first keep directory rounds filled) between later left after) :
    Program.Runs delivering.answers
      (Inherited.closeListed first keep directory (rounds + 1) buffer) state
      (⟨.directoryRecords directory Inherited.bufferSize, .ok records⟩ ::
        (closings numbers ++ later)) left after := by
  obtain ⟨byte, rest, rfl⟩ := List.exists_cons_of_ne_nil nonempty
  refine .call answered ?_
  change Program.Runs _ (Inherited.closeEach
    ((DirectoryRecord.descriptors _ _ 0).filter (selects first keep directory)) >>= _)
    _ _ _ _
  rw [chosen]
  exact closes.bind (goesOn _)

theorem runs_closeByDirectory
    {between : Descriptors}
    {first keep : Descriptor}
    {events : List Event}
    {completed : Bool}
    (free : state.IsFree directory)
    (scans : Program.Runs delivering.answers
      (Inherited.closeListed first keep directory rounds
        (List.replicate Inherited.bufferSize 0))
      ((state.openNext directory true free).listing state.nextFile (some 0)) events
      (.done completed) between) :
    Program.Runs delivering.answers (Inherited.closeByDirectory rounds first keep) state
      (⟨.openFile Inherited.descriptorDirectory .listing, .ok directory⟩ ::
        (events ++ [⟨.close directory, .ok ()⟩]))
      (.done completed) (between.release directory) := by
  have opens : delivering.answers state
      (.openFile Inherited.descriptorDirectory .listing) (.ok directory)
      ((state.openNext directory true free).listing state.nextFile (some 0)) := by
    refine ⟨⟨free, ?_⟩, trivial⟩
    rw [if_pos rfl]
    rfl
  exact .call opens
    (scans.bind (.call ⟨between.becomes_release directory, trivial⟩ (.stop _ _)))

/-- A scan that was given up is followed by trying every number. -/
theorem runs_close
    {between : Descriptors}
    {first keep : Descriptor}
    {events : List Event}
    (limit : Descriptor)
    (scans : Program.Runs delivering.answers
      (Inherited.closeByDirectory rounds first keep) state events (.done false) between) :
    ∃ after, Program.Runs delivering.answers
      (Inherited.close rounds first keep limit) state
      (events ++ (closings (inRangeExcept first keep limit) ++ [])) (.done .bruteForce)
      after := by
  obtain ⟨after, closes, -⟩ := runs_closeEach (inRangeExcept first keep limit) between
  rw [← closeByNumber_eq_closeEach] at closes
  exact ⟨after, scans.bind (closes.bind (.stop _ _))⟩

/-- The descriptors of a process with standard streams, a pipe, and two more files. -/
def crowded : Descriptors :=
  (standardAndPipe.openNext 6 false ⟨rfl, by decide, by decide⟩).openNext 7 false
    ⟨rfl, by decide, by decide⟩

theorem isOpen_crowded_iff (number : Descriptor) :
    crowded.IsOpen number ↔ 0 ≤ number ∧ number ≤ 7 ∧ number ≠ 5 := by
  simp only [IsOpen, crowded, standardAndPipe, openNext, standard, Function.update_apply]
  unfold Descriptor at *
  split_ifs <;> simp <;> omega

/-- What a first listing of `crowded` may be. -/
def someRecords : Bytes :=
  (Bytes.ofText "." :: [0, 1, 2, 3, 4, 5, 6].map DirectoryRecord.nameOf).flatMap
    (DirectoryRecord.encode 0)

theorem areRecords_someRecords :
    DirectoryRecord.AreRecords someRecords
      ([Bytes.ofText "."] ++ [0, 1, 2, 3, 4, 5, 6].map DirectoryRecord.nameOf) :=
  DirectoryRecord.areRecords_encode 0 (by decide +kernel)

theorem descriptors_someRecords (later : Bytes) :
    DirectoryRecord.descriptors (someRecords ++ later) someRecords.length 0 =
      [0, 1, 2, 3, 4, 5, 6] := by
  have found := DirectoryRecord.descriptors_of_areRecords areRecords_someRecords [] later
  rw [List.nil_append, List.nil_append, List.length_nil] at found
  rw [found]
  decide +kernel

theorem lists_someRecords
    (state : Descriptors)
    (isOpen : ∀ number, 0 ≤ number → number ≤ 6 → state.IsOpen number) :
    state.Lists 0 someRecords 7 := by
  refine ⟨[Bytes.ofText "."], [0, 1, 2, 3, 4, 5, 6], areRecords_someRecords, by decide,
    ?_, ?_, ?_⟩
  · intro number isNamed
    have range : 0 ≤ number ∧ number ≤ 6 := by
      simp only [List.mem_cons, List.not_mem_nil, or_false] at isNamed
      unfold Descriptor at *
      omega
    exact ⟨range.1, Int.lt_add_one_of_le range.2, isOpen number range.1 range.2⟩
  · intro number low high _
    simp only [List.mem_cons, List.not_mem_nil, or_false]
    unfold Descriptor at *
    omega
  · intro empty
    have named := descriptors_someRecords []
    rw [empty] at named
    simp at named

/-- The directory of `crowded` is opened under a free number. -/
theorem isFree_crowded : crowded.IsFree 5 := by
  refine ⟨not_not.mp fun isOpen => ?_, by decide, by decide⟩
  exact ((isOpen_crowded_iff 5).mp isOpen).2.2 rfl

/-- A scan of `crowded` that is given up after one listing. -/
theorem runs_closeListed_crowded :
    ∃ after, Program.Runs delivering.answers
      (Inherited.closeListed 3 4 5 9 (List.replicate Inherited.bufferSize 0))
      ((crowded.openNext 5 true isFree_crowded).listing crowded.nextFile (some 0))
      (⟨.directoryRecords 5 Inherited.bufferSize, .ok someRecords⟩ ::
        (closings [3, 6] ++ [⟨.directoryRecords 5 Inherited.bufferSize, .error Errno.EIO⟩]))
      (.done false) after := by
  have isDirectory := openNext_slot?_self isFree_crowded true
  have isOpen : ∀ number, 0 ≤ number → number ≤ 6 →
      (crowded.openNext 5 true isFree_crowded).IsOpen number := by
    intro number low high
    by_cases same : number = 5
    · rw [same, IsOpen, isDirectory]
      exact Option.some_ne_none _
    · rw [IsOpen, openNext_slot?_of_ne isFree_crowded true same]
      exact (isOpen_crowded_iff number).mpr ⟨low, Int.le_trans high (by decide), same⟩
  have named := descriptors_someRecords []
  rw [List.append_nil] at named
  have nonempty : someRecords ≠ [] := by
    intro empty
    simp [empty] at named
  obtain ⟨between, closes, -⟩ := runs_closeEach [3, 6]
    (((crowded.openNext 5 true isFree_crowded).listing crowded.nextFile (some 0)).listing
      crowded.nextFile (some 7))
  refine ⟨between, runs_closeListed nonempty ⟨⟨_, isDirectory, ?_⟩, .inr (by simp [named])⟩
    ?_ closes fun filled => .call ⟨rfl, trivial⟩ (.stop _ _)⟩
  · rw [listing_listedFrom?_self]
    exact ⟨7, lists_someRecords _ isOpen, rfl⟩
  · rw [descriptors_someRecords]
    decide

end GivenUp

/-! ## What is left -/

/-- Where all descriptors lie below the limit, the limit plays no part. -/
theorem IsRemainder.closed_of_lt
    {before after : Descriptors}
    {first keep limit : Descriptor}
    {events : List Event}
    {strategy : Inherited.Strategy}
    (remainder : before.IsRemainder first keep limit events strategy after)
    (below : ∀ number, before.IsOpen number → number < limit) :
    before.Closed (fun number => first ≤ number ∧ number ≠ keep) after := by
  refine remainder.closed.congr_of_isOpen fun number isOpen => ?_
  simp [IsLeft, Int.not_le.mpr (below number isOpen)]

theorem delivers_closeByNumber
    {before : Descriptors}
    {limit : Descriptor}
    (below : ∀ number, before.IsOpen number → number < limit)
    (first keep : Descriptor) :
    (Inherited.closeByNumber first keep limit).Ensures delivering
      (fun _ after _ => before.Closed (fun number => first ≤ number ∧ number ≠ keep) after)
      [] before := by
  rw [closeByNumber_eq_closeEach]
  refine delivers_closeEach _ (fun later after closed _ => ?_) []
  refine closed.congr_of_isOpen fun number isOpen => ?_
  simp [mem_inRangeExcept_iff, below number isOpen]

/-- Closing leaves exactly the numbers below `first`, `keep` if it was open, and, if the
scan was given up, those from the limit on that it had not closed, and it comes to its
result whatever is answered.  If all descriptors lie below the limit, a scan, trying
every number, and a scan that was given up followed by trying every number leave the
same. -/
theorem isRemainder_of_close
    {before : Descriptors}
    {rounds : Nat}
    (enough : before.openNumbers.ncard + 2 ≤ rounds)
    (first keep limit : Descriptor) :
    (Inherited.close rounds first keep limit).Ensures answering
        (fun events after strategy =>
          before.IsRemainder first keep limit events strategy after) [] before ∧
      (Inherited.close rounds first keep limit).Ensures delivering (fun _ _ _ => True)
        [] before ∧
      ((∀ number, before.IsOpen number → number < limit) →
        (Inherited.close rounds first keep limit).Ensures answering
            (fun _ after _ =>
              before.Closed (fun number => first ≤ number ∧ number ≠ keep) after)
            [] before ∧
          (Inherited.closeByNumber first keep limit).Ensures delivering
            (fun _ after _ =>
              before.Closed (fun number => first ≤ number ∧ number ≠ keep) after)
            [] before) := by
  have closes := closes_close rounds first keep limit before
  refine ⟨closes, delivers_close enough first keep limit [], fun below => ⟨?_, ?_⟩⟩
  · exact closes.mono fun _ _ _ remainder => remainder.closed_of_lt below
  · exact delivers_closeByNumber below first keep

/-- A scan that is given up after one listing, with a file behind the limit that has
been listed and one that has not. -/
theorem isRemainder_of_close_given_up :
    crowded.openNumbers.ncard + 2 ≤ 9 ∧
      ∃ events after,
        Program.Runs delivering.answers (Inherited.close 9 3 4 5) crowded events
            (.done .bruteForce) after ∧
          ∀ number, after.IsOpen number ↔ number ∈ ([0, 1, 2, 4, 7] : List Descriptor) := by
  have enough : crowded.openNumbers.ncard + 2 ≤ 9 := by
    have within : crowded.openNumbers ⊆ ↑({0, 1, 2, 3, 4, 6, 7} : Finset Descriptor) := by
      intro number isOpen
      have range := (isOpen_crowded_iff number).mp isOpen
      simp only [Finset.coe_insert, Finset.coe_singleton, Set.mem_insert_iff,
        Set.mem_singleton_iff]
      unfold Descriptor at *
      omega
    have small := Set.ncard_le_ncard within (Finset.finite_toSet _)
    rw [Set.ncard_coe_finset] at small
    exact Nat.add_le_add_right small 2
  obtain ⟨between, scans⟩ := runs_closeListed_crowded
  obtain ⟨after, runs⟩ := runs_close 5 (runs_closeByDirectory isFree_crowded scans)
  refine ⟨enough, _, after, runs, fun number => ?_⟩
  have remainder := (isRemainder_of_close enough 3 4 5).1.of_runs runs.of_only
  rw [Program.ensures_done, List.nil_append] at remainder
  have notEnded : ¬ScanEnded _ := fun ended => nomatch remainder.strategy.mpr ended
  rw [remainder.closed.isOpen_iff, isOpen_crowded_iff, not_not, IsLeft]
  have closed : closedNumbers
      (⟨.openFile Inherited.descriptorDirectory .listing, .ok 5⟩ ::
        ((⟨.directoryRecords 5 Inherited.bufferSize, .ok someRecords⟩ ::
            (closings [3, 6] ++
              [⟨.directoryRecords 5 Inherited.bufferSize, .error Errno.EIO⟩])) ++
          [⟨.close 5, .ok ()⟩]) ++ (closings (inRangeExcept 3 4 5) ++ [])) =
        [3, 6, 5, 3] := by
    rfl
  simp only [closed, notEnded]
  unfold Descriptor at *
  simp
  omega

end Descriptors
end ChildProcess
