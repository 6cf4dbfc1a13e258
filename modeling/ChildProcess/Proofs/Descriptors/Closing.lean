import ChildProcess.Proofs.Descriptors.Listing

/-!
# Closing what was inherited

A process closes its descriptors from some number on, all but one.  Going through the
directory of its descriptors closes what is listed while the listing goes on; when the
listing came to its end, everything was listed, and however it ends, exactly what was
listed is closed.  Trying number after number closes exactly the numbers that are
tried.  Which numbers are opened, listed and closed can be read off the events.
-/

namespace ChildProcess

/-! ## Numbers in events -/

/-- The numbers that some events close, each as often as it is closed. -/
def closedNumbers (events : List Event) : List Descriptor :=
  events.filterMap fun event =>
    match event with
    | ⟨.close number, _⟩ => some number
    | _ => none

@[simp] theorem closedNumbers_nil : closedNumbers [] = [] := rfl

@[simp] theorem closedNumbers_append (first second : List Event) :
    closedNumbers (first ++ second) = closedNumbers first ++ closedNumbers second :=
  List.filterMap_append

theorem closedNumbers_cons_of_ne
    {request : Call}
    (answer : request.Answer)
    (events : List Event)
    (noClose : ∀ number, request ≠ .close number) :
    closedNumbers (⟨request, answer⟩ :: events) = closedNumbers events := by
  cases request with
  | close number => exact absurd rfl (noClose number)
  | _ => rfl

/-- The numbers under which some events open files. -/
def openedNumbers (events : List Event) : List Descriptor :=
  events.filterMap fun event =>
    match event with
    | ⟨.openFile _ _, .ok number⟩ => some number
    | _ => none

/-- The numbers that some events find in directories. -/
def listedNumbers (events : List Event) : List Descriptor :=
  events.flatMap fun event =>
    match event with
    | ⟨.directoryRecords _ _, .ok records⟩ =>
        DirectoryRecord.descriptors records records.length 0
    | _ => []

namespace Descriptors

/-- Calls with which a process arranges its descriptors without touching one that it
keeps. -/
def spares (keep : Descriptor) : Call → Prop
  | .close number => number ≠ keep
  | .duplicate source target => source ≠ keep ∧ target ≠ keep
  | .duplicateFrom source _ => source ≠ keep
  | .setCloseOnExec _ _ | .openFile _ _ | .directoryRecords _ _
  | .changeDirectory _ | .setDisposition _ _ | .setSignalMask _ => True
  | _ => False

/-- The circumstances of a process that keeps the only descriptor of a file. -/
abbrev keeping (keep : Descriptor) (file : FileId) : Setting Descriptors where
  answers := Answers
  allows _ state request := state.OnlyAt keep file ∧ spares keep request

/-- A directory has been read to its end. -/
def ScanEnded (events : List Event) : Prop :=
  ∃ number size, (⟨.directoryRecords number size, .ok []⟩ : Event) ∈ events

theorem scanEnded_append (first second : List Event) :
    ScanEnded (first ++ second) ↔ ScanEnded first ∨ ScanEnded second := by
  simp only [ScanEnded, List.mem_append, exists_or]

theorem not_scanEnded_of_ne
    {request : Call}
    {answer : request.Answer}
    (noListing : ∀ number size, request ≠ .directoryRecords number size) :
    ¬ScanEnded [⟨request, answer⟩] := by
  rintro ⟨number, size, isMember⟩
  rw [List.mem_singleton] at isMember
  cases isMember
  exact noListing number size rfl

/-- Which numbers are opened, listed and closed in some events, in their order, and
whether a directory is read to its end. -/
structure Tally (events : List Event) (opened listed closed : List Descriptor)
    (ended : Prop) : Prop where
  opened : openedNumbers events = opened
  listed : listedNumbers events = listed
  closed : closedNumbers events = closed
  ended : ScanEnded events ↔ ended

namespace Tally

theorem nil : Tally [] [] [] [] False where
  opened := rfl
  listed := rfl
  closed := rfl
  ended := by simp [ScanEnded]

theorem append
    {first second : List Event}
    {openedFirst openedSecond listedFirst listedSecond : List Descriptor}
    {closedFirst closedSecond : List Descriptor}
    {endedFirst endedSecond : Prop}
    (tallyFirst : Tally first openedFirst listedFirst closedFirst endedFirst)
    (tallySecond : Tally second openedSecond listedSecond closedSecond endedSecond) :
    Tally (first ++ second) (openedFirst ++ openedSecond) (listedFirst ++ listedSecond)
      (closedFirst ++ closedSecond) (endedFirst ∨ endedSecond) where
  opened := by
    rw [← tallyFirst.opened, ← tallySecond.opened]
    exact List.filterMap_append
  listed := by
    rw [← tallyFirst.listed, ← tallySecond.listed]
    exact List.flatMap_append
  closed := by rw [closedNumbers_append, tallyFirst.closed, tallySecond.closed]
  ended := by rw [scanEnded_append, tallyFirst.ended, tallySecond.ended]

theorem of_events (events : List Event) :
    Tally events (openedNumbers events) (listedNumbers events) (closedNumbers events)
      (ScanEnded events) :=
  ⟨rfl, rfl, rfl, Iff.rfl⟩

theorem close (number : Descriptor) (answer : Except Errno Unit) :
    Tally [⟨.close number, answer⟩] [] [] [number] False :=
  ⟨rfl, rfl, rfl, iff_of_false (not_scanEnded_of_ne nofun) not_false⟩

theorem openFile
    (path : Bytes)
    (mode : OpenMode)
    (answer : Except Errno Descriptor) :
    Tally [⟨.openFile path mode, answer⟩] answer.toOption.toList [] [] False := by
  refine ⟨?_, rfl, rfl, iff_of_false (not_scanEnded_of_ne nofun) not_false⟩
  cases answer <;> rfl

theorem directoryRecords (number : Descriptor) (size : Nat) (records : Bytes) :
    Tally [⟨.directoryRecords number size, .ok records⟩] []
      (DirectoryRecord.descriptors records records.length 0) [] (records = []) where
  opened := rfl
  listed := List.append_nil _
  closed := rfl
  ended := by
    constructor
    · rintro ⟨_, _, isMember⟩
      rw [List.mem_singleton] at isMember
      cases isMember
      rfl
    · rintro rfl
      exact ⟨number, size, List.mem_singleton_self _⟩

theorem noRecords (number : Descriptor) (size : Nat) (errno : Errno) :
    Tally [⟨.directoryRecords number size, .error errno⟩] [] [] [] False where
  opened := rfl
  listed := rfl
  closed := rfl
  ended := by
    refine iff_of_false ?_ not_false
    rintro ⟨_, _, isMember⟩
    rw [List.mem_singleton] at isMember
    cases isMember

end Tally

/-! ## Which calls are made -/

/-- The calls with which descriptors are found and closed. -/
def findsOrCloses : Call → Prop
  | .close _ | .openFile _ _ | .directoryRecords _ _ => True
  | _ => False

theorem completes_closeEach_of_mem
    {kind : Call → Prop}
    {numbers : List Descriptor}
    (closes : ∀ number ∈ numbers, kind (.close number)) :
    (Inherited.closeEach numbers).Completes kind := by
  induction numbers with
  | nil => trivial
  | cons number rest inductionHypothesis =>
      rw [List.forall_mem_cons] at closes
      exact ⟨closes.1, fun _ => inductionHypothesis closes.2⟩

theorem completes_closeEach
    {kind : Call → Prop}
    (closes : ∀ number, kind (.close number))
    (numbers : List Descriptor) :
    (Inherited.closeEach numbers).Completes kind :=
  completes_closeEach_of_mem fun number _ => closes number

/-- So many consecutive numbers. -/
def consecutive : Nat → Descriptor → List Descriptor
  | 0, _ => []
  | count + 1, start => start :: consecutive count (start + 1)

theorem mem_consecutive_iff {count : Nat} {start number : Descriptor} :
    number ∈ consecutive count start ↔ start ≤ number ∧ number < start + count := by
  induction count generalizing start with
  | zero =>
      unfold Descriptor at *
      simp [consecutive]
  | succ count inductionHypothesis =>
      rw [consecutive, List.mem_cons, inductionHypothesis]
      unfold Descriptor at *
      omega

/-- Trying consecutive numbers is closing those that are not kept. -/
theorem closeRange_eq_closeEach
    (keep : Descriptor)
    (count : Nat)
    (start : Descriptor) :
    Inherited.closeRange keep count start =
      Inherited.closeEach ((consecutive count start).filter (· ≠ keep)) := by
  induction count generalizing start with
  | zero => rfl
  | succ count inductionHypothesis =>
      rw [Inherited.closeRange, consecutive, inductionHypothesis]
      by_cases isKept : start = keep
      · simp [isKept]
      · simp [isKept, Inherited.closeEach]

/-- The numbers from `first` up to a limit that are not kept. -/
def inRangeExcept (first keep limit : Descriptor) : List Descriptor :=
  (consecutive (limit - first).toNat first).filter (· ≠ keep)

theorem mem_inRangeExcept_iff {first keep limit number : Descriptor} :
    number ∈ inRangeExcept first keep limit ↔
      first ≤ number ∧ number < limit ∧ number ≠ keep := by
  rw [inRangeExcept, List.mem_filter, mem_consecutive_iff, decide_eq_true_eq]
  unfold Descriptor at *
  omega

theorem closeByNumber_eq_closeEach (first keep limit : Descriptor) :
    Inherited.closeByNumber first keep limit =
      Inherited.closeEach (inRangeExcept first keep limit) :=
  closeRange_eq_closeEach keep _ first

theorem completes_closeRange
    {kind : Call → Prop}
    (closes : ∀ number, kind (.close number))
    (keep : Descriptor)
    (count : Nat)
    (start : Descriptor) :
    (Inherited.closeRange keep count start).Completes kind := by
  rw [closeRange_eq_closeEach]
  exact completes_closeEach closes _

/-- A scan lists its directory and closes none of the numbers that it is to spare. -/
theorem makes_closeListed
    {kind : Call → Prop}
    {first keep directory : Descriptor}
    (closes : ∀ number, first ≤ number → number ≠ keep → number ≠ directory →
      kind (.close number))
    (lists : kind (.directoryRecords directory Inherited.bufferSize))
    (rounds : Nat)
    (buffer : Bytes) :
    (Inherited.closeListed first keep directory rounds buffer).Makes kind := by
  induction rounds generalizing buffer with
  | zero => trivial
  | succ rounds inductionHypothesis =>
      refine ⟨lists, fun answer => ?_⟩
      rcases answer with errno | (_ | ⟨byte, rest⟩)
      · trivial
      · trivial
      · change (Inherited.closeEach _ >>= fun _ =>
          Inherited.closeListed first keep directory rounds _).Makes _
        refine Program.makes_bind (completes_closeEach_of_mem ?_).makes
          fun _ => inductionHypothesis _
        intro number isListed
        simp only [List.mem_filter, Bool.and_eq_true, decide_eq_true_eq, bne_iff_ne] at isListed
        exact closes number isListed.2.1.1 isListed.2.1.2 isListed.2.2

theorem makes_close
    {kind : Call → Prop}
    (closes : ∀ number, kind (.close number))
    (opens : kind (.openFile Inherited.descriptorDirectory .listing))
    (lists : ∀ number size, kind (.directoryRecords number size))
    (rounds : Nat)
    (first keep limit : Descriptor) :
    (Inherited.close rounds first keep limit).Makes kind := by
  refine Program.makes_bind ⟨opens, fun answer => ?_⟩ fun completed => ?_
  · cases answer with
    | error errno => trivial
    | ok directory =>
        change (Inherited.closeListed first keep directory rounds _ >>= fun _ =>
          Program.perform (.close directory) >>= fun _ => _).Makes _
        refine Program.makes_bind
          (makes_closeListed (fun number _ _ _ => closes number) (lists _ _) _ _)
          fun _ => ?_
        exact ⟨closes directory, fun _ => trivial⟩
  · cases completed with
    | true => trivial
    | false =>
        exact Program.makes_bind (completes_closeRange closes _ _ _).makes fun _ => trivial

section Closing

variable {state : Descriptors} {keep : Descriptor} {file : FileId}
variable {history : List Event}

/-! ## Closing numbers one by one -/

/-- Exactly some numbers have been closed since. -/
structure Closed (before : Descriptors) (numbers : Descriptor → Prop)
    (after : Descriptors) : Prop where
  closed : ∀ number, numbers number → after.slot? number = none
  keeps : ∀ number, ¬numbers number → after.slot? number = before.slot? number

namespace Closed

variable {before between after : Descriptors} {first second : Descriptor → Prop}

theorem of_eq {numbers : Descriptor → Prop}
    (same : after.slot? = before.slot?)
    (none : ∀ number, ¬numbers number) :
    before.Closed numbers after :=
  ⟨fun number isClosed => absurd isClosed (none number), fun number _ => congrFun same number⟩

theorem of_becomes
    {number : Descriptor}
    (closes : before.Becomes number none after) :
    before.Closed (· = number) after where
  closed other same := by rw [same, closes.slot?_self]
  keeps _ different := closes.slot?_of_ne different

theorem trans
    (closedFirst : before.Closed first between)
    (closedSecond : between.Closed second after) :
    before.Closed (fun number => first number ∨ second number) after where
  closed number isClosed := by
    by_cases later : second number
    · exact closedSecond.closed number later
    · rw [closedSecond.keeps number later]
      exact closedFirst.closed number (isClosed.resolve_right later)
  keeps number isOpen := by
    rw [not_or] at isOpen
    rw [closedSecond.keeps number isOpen.2, closedFirst.keeps number isOpen.1]

theorem congr
    (closed : before.Closed first after)
    (same : ∀ number, first number ↔ second number) :
    before.Closed second after := by
  rwa [show first = second from funext fun number => propext (same number)] at closed

/-- What is not open is not opened by closing. -/
theorem slot?_eq_none
    (closed : before.Closed first after)
    {number : Descriptor}
    (isFree : before.slot? number = none) :
    after.slot? number = none := by
  by_cases isClosed : first number
  · exact closed.closed number isClosed
  · rw [closed.keeps number isClosed, isFree]

/-- It only matters which of the open numbers are closed. -/
theorem congr_of_isOpen
    (closed : before.Closed first after)
    (same : ∀ number, before.IsOpen number → (first number ↔ second number)) :
    before.Closed second after where
  closed number isClosed := by
    by_cases isOpen : before.IsOpen number
    · exact closed.closed number ((same number isOpen).mpr isClosed)
    · exact closed.slot?_eq_none (not_not.mp isOpen)
  keeps number isKept := by
    by_cases isOpen : before.IsOpen number
    · exact closed.keeps number (mt (same number isOpen).mp isKept)
    · rw [closed.slot?_eq_none (not_not.mp isOpen), not_not.mp isOpen]

/-- What is open is what was open and has not been closed. -/
theorem isOpen_iff
    (closed : before.Closed first after)
    (number : Descriptor) :
    after.IsOpen number ↔ before.IsOpen number ∧ ¬first number := by
  by_cases isClosed : first number
  · simp [IsOpen, closed.closed number isClosed, isClosed]
  · simp [IsOpen, closed.keeps number isClosed, isClosed]

theorem isOpen_of_isOpen
    (closed : before.Closed first after)
    {number : Descriptor}
    (isOpen : after.IsOpen number) :
    before.IsOpen number :=
  ((closed.isOpen_iff number).mp isOpen).1

end Closed

theorem closes_closeEach
    {exhaustion : Prop}
    (numbers : List Descriptor)
    (state : Descriptors) :
    (Inherited.closeEach numbers).Ensures ⟨Answers, fun _ _ _ => True, exhaustion⟩
      (fun events after _ =>
        state.Closed (· ∈ numbers) after ∧ after.listedFrom? = state.listedFrom? ∧
          Tally events [] [] numbers False)
      [] state := by
  induction numbers generalizing state with
  | nil => exact ⟨.of_eq rfl fun _ => List.not_mem_nil, rfl, .nil⟩
  | cons number rest inductionHypothesis =>
      refine Program.ensures_perform_bind_of_start fun answer next closes => ?_
      refine (inductionHypothesis next).mono ?_
      rintro events after _ ⟨closed, sameListing, tally⟩
      refine ⟨((Closed.of_becomes closes).trans closed).congr (by simp),
        sameListing.trans closes.lists, ?_⟩
      simpa using (Tally.close number answer).append tally

/-! ## Going through the directory -/

/-- What is closed of what is listed. -/
def selects (first keep directory number : Descriptor) : Bool :=
  first ≤ number && number != keep && number != directory

/-- What has been listed is closed if it is chosen, and if the listing came to its end,
everything from its start on has been listed. -/
structure Scans (before : Descriptors) (start : Descriptor) (chosen : Descriptor → Bool)
    (listed : List Descriptor) (completed : Bool) (after : Descriptors) : Prop where
  closed : before.Closed (· ∈ listed.filter chosen) after
  complete : completed = true → ∀ number, start ≤ number → before.IsOpen number →
    number ∈ listed

/-- A listing without records shows that there is nothing left. -/
theorem scans_of_lists_nil
    {start next : Descriptor}
    {chosen : Descriptor → Bool}
    {after : Descriptors}
    (lists : state.Lists start [] next)
    (same : after.slot? = state.slot?) :
    state.Scans start chosen [] true after := by
  obtain ⟨-, -, -, -, -, -, noneLeft⟩ := lists
  refine ⟨.of_eq same fun _ => List.not_mem_nil, fun _ number low isOpen => ?_⟩
  exact absurd isOpen (noneLeft rfl number low)

/-- One batch of records is listed, and what it names is closed; then the scan goes on
behind it. -/
theorem Scans.step
    {between after : Descriptors}
    {start next : Descriptor}
    {chosen : Descriptor → Bool}
    {records : Bytes}
    {listed : List Descriptor}
    {completed : Bool}
    (lists : state.Lists start records next)
    (closed : state.Closed
      (· ∈ (DirectoryRecord.descriptors records records.length 0).filter chosen) between)
    (scans : between.Scans next chosen listed completed after) :
    state.Scans start chosen
      (DirectoryRecord.descriptors records records.length 0 ++ listed) completed after := by
  refine ⟨(closed.trans scans.closed).congr fun number => ?_, fun isCompleted => ?_⟩
  · rw [List.filter_append, List.mem_append]
  · intro number low isOpen
    rw [List.mem_append]
    by_cases inBatch : number ∈ DirectoryRecord.descriptors records records.length 0
    · exact .inl inBatch
    · -- The batch names all open numbers up to `next`, so this one lies behind it.
      have behind : next ≤ number := by
        by_contra before
        exact inBatch ((lists.mem_descriptors_iff number).mpr
          ⟨low, Int.not_le.mp before, isOpen⟩)
      refine .inr (scans.complete isCompleted number behind ?_)
      rwa [IsOpen, closed.keeps number fun isClosed => inBatch (List.mem_of_mem_filter isClosed)]

theorem scans_closeListed
    {directory : Descriptor}
    {slot : Slot}
    (rounds : Nat)
    (isDirectory : state.slot? directory = some slot)
    {start : Descriptor}
    (begins : state.listedFrom? slot.file = some start)
    (first keep : Descriptor)
    (buffer : Bytes) :
    (Inherited.closeListed first keep directory rounds buffer).Ensures answering
      (fun events after completed => ∃ listed,
        state.Scans start (selects first keep directory) listed completed after ∧
          Tally events [] listed (listed.filter (selects first keep directory))
            (completed = true))
      [] state := by
  induction rounds generalizing state start buffer with
  | zero => trivial
  | succ rounds inductionHypothesis =>
      refine Program.ensures_perform_bind_of_start fun answer next answered => ?_
      rcases answer with errno | records
      · obtain rfl : next = state := answered
        refine ⟨[], ⟨.of_eq rfl fun _ => List.not_mem_nil, nofun⟩, ?_⟩
        simpa using Tally.noRecords directory Inherited.bufferSize errno
      · obtain ⟨found, isFound, answered⟩ := answered
        rw [isDirectory] at isFound
        cases isFound
        rw [begins] at answered
        obtain ⟨following, lists, rfl⟩ := answered
        cases records with
        | nil =>
            refine ⟨[], scans_of_lists_nil lists rfl, ?_⟩
            simpa using Tally.directoryRecords directory Inherited.bufferSize []
        | cons byte rest =>
            refine Program.ensures_bind_of_start ?_
            rw [lists.descriptors_append]
            refine (closes_closeEach
              ((DirectoryRecord.descriptors (byte :: rest) (byte :: rest).length 0).filter
                (selects first keep directory)) _).mono ?_
            rintro events between _ ⟨closed, sameListing, tally⟩
            have closed : state.Closed _ between := ⟨closed.closed, closed.keeps⟩
            have isDirectory : between.slot? directory = some slot := by
              rw [closed.keeps directory (by simp [selects]), isDirectory]
            have begins : between.listedFrom? slot.file = some following := by
              rw [sameListing, listing_listedFrom?_self]
            refine (inductionHypothesis isDirectory begins _).mono ?_
            rintro later after completed ⟨listed, scans, tallyLater⟩
            refine ⟨_, scans.step lists closed, ?_⟩
            have tallyBatch := (Tally.directoryRecords directory Inherited.bufferSize
              (byte :: rest)).append (tally.append tallyLater)
            simpa using tallyBatch

/-! ## A whole scan -/

/-- A scan, whether it comes to its end or not, closes exactly those of the open
descriptors that it lists from `first` on, except `keep`. -/
structure IsScanned (before : Descriptors) (first keep : Descriptor)
    (events : List Event) (completed : Bool) (after : Descriptors) : Prop where
  closed : before.Closed
    (fun number => number ∈ listedNumbers events ∧ first ≤ number ∧ number ≠ keep) after
  ended : ScanEnded events ↔ completed = true
  complete : completed = true → ∀ number, before.IsOpen number →
    number ∈ listedNumbers events
  closes : ∀ number, before.IsOpen number →
    (number ∈ closedNumbers events ↔
      number ∈ listedNumbers events ∧ first ≤ number ∧ number ≠ keep)
  /-- The directory was free before, and is closed again. -/
  directory : ∀ number ∈ openedNumbers events,
    ¬before.IsOpen number ∧ number ∈ closedNumbers events

/-- A scan of a directory that was opened for it, and is closed behind it. -/
theorem isScanned_of_scans
    {opened between after : Descriptors}
    {first directory : Descriptor}
    {events : List Event}
    {listed : List Descriptor}
    {completed : Bool}
    (free : state.IsFree directory)
    (others : ∀ number, number ≠ directory → opened.slot? number = state.slot? number)
    (scans : opened.Scans 0 (selects first keep directory) listed completed between)
    (closes : between.Becomes directory none after)
    (tally : Tally events [directory] listed
      (listed.filter (selects first keep directory) ++ [directory]) (completed = true)) :
    state.IsScanned first keep events completed after := by
  have ne_of_isOpen : ∀ number, state.IsOpen number → number ≠ directory := by
    rintro number isOpen rfl
    exact isOpen free.1
  have chosen : ∀ number, number ≠ directory →
      (number ∈ listed.filter (selects first keep directory) ↔
        number ∈ listed ∧ first ≤ number ∧ number ≠ keep) := by
    intro number different
    simp [selects, different]
  refine ⟨?_, tally.ended, ?_, ?_, ?_⟩
  · rw [tally.listed]
    refine ⟨fun number isClosed => ?_, fun number isKept => ?_⟩
    · by_cases same : number = directory
      · rw [same, closes.slot?_self]
      · rw [closes.slot?_of_ne same]
        exact scans.closed.closed number ((chosen number same).mpr isClosed)
    · by_cases same : number = directory
      · rw [same, closes.slot?_self, free.1]
      · have notClosed := mt (chosen number same).mp isKept
        rw [closes.slot?_of_ne same, scans.closed.keeps number notClosed, others number same]
  · intro isCompleted number isOpen
    rw [tally.listed]
    refine scans.complete isCompleted number (state.inRange number isOpen).1 ?_
    rwa [IsOpen, others number (ne_of_isOpen number isOpen)]
  · intro number isOpen
    have different := ne_of_isOpen number isOpen
    rw [tally.closed, tally.listed, List.mem_append, List.mem_singleton,
      or_iff_left different, chosen number different]
  · rw [tally.opened, tally.closed]
    simp [IsOpen, free.1]

theorem scans_closeByDirectory
    (rounds : Nat)
    (first keep : Descriptor)
    (state : Descriptors) :
    (Inherited.closeByDirectory rounds first keep).Ensures answering
      (fun events after completed => state.IsScanned first keep events completed after)
      [] state := by
  refine Program.ensures_perform_bind_of_start fun answer opened answered => ?_
  rcases answer with errno | directory
  · obtain rfl : opened = state := answered
    have tally := Tally.openFile Inherited.descriptorDirectory .listing (.error errno)
    refine ⟨?_, tally.ended.trans (by simp), nofun, ?_, ?_⟩
    · rw [tally.listed]
      exact .of_eq rfl (by simp)
    · rw [tally.listed, tally.closed]
      simp
    · rw [tally.opened]
      exact fun _ => nofun
  · obtain ⟨free, answered⟩ := answered
    rw [if_pos rfl] at answered
    have isDirectory : opened.slot? directory = some ⟨state.nextFile, true⟩ := by
      rw [answered]
      exact openNext_slot?_self free true
    have begins : opened.listedFrom? state.nextFile = some 0 := by
      rw [answered, listing_listedFrom?_self]
    have others : ∀ number, number ≠ directory →
        opened.slot? number = state.slot? number := by
      intro number different
      rw [answered]
      exact openNext_slot?_of_ne free true different
    refine Program.ensures_bind_of_start
      ((scans_closeListed rounds isDirectory begins first keep _).mono ?_)
    rintro events between completed ⟨listed, scans, tally⟩
    refine Program.ensures_perform_bind_of_start fun answer after closes => ?_
    refine isScanned_of_scans free others scans closes ?_
    have tallyOpen := Tally.openFile Inherited.descriptorDirectory .listing (.ok directory)
    simpa [Except.toOption] using
      (tallyOpen.append tally).append (Tally.close directory answer)

/-! ## Closing everything -/

/-- The numbers that are left as they were: those below `first`, `keep`, and if the scan
did not come to its end, those from the limit on that it has not closed. -/
def IsLeft (first keep limit : Descriptor) (events : List Event) (number : Descriptor) :
    Prop :=
  number < first ∨ number = keep ∨
    (¬ScanEnded events ∧ limit ≤ number ∧ number ∉ closedNumbers events)

/-- What has become of the descriptors when all from `first` on except `keep` were to be
closed. -/
structure IsRemainder (before : Descriptors) (first keep limit : Descriptor)
    (events : List Event) (strategy : Inherited.Strategy) (after : Descriptors) :
    Prop where
  strategy : strategy = .directoryScan ↔ ScanEnded events
  closed : before.Closed (fun number => ¬IsLeft first keep limit events number) after
  /-- From the limit on, what has been listed is closed, and nothing else. -/
  closes : ∀ number, before.IsOpen number →
    first ≤ number → limit ≤ number → number ≠ keep →
      (number ∈ closedNumbers events ↔ number ∈ listedNumbers events)
  /-- The directory was free before, and is closed again. -/
  directory : ∀ number ∈ openedNumbers events,
    ¬before.IsOpen number ∧ number ∈ closedNumbers events ∧ ¬after.IsOpen number

theorem IsScanned.isRemainder
    {after : Descriptors}
    {first : Descriptor}
    {events : List Event}
    (limit : Descriptor)
    (scanned : state.IsScanned first keep events true after) :
    state.IsRemainder first keep limit events .directoryScan after := by
  have ended : ScanEnded events := scanned.ended.mpr rfl
  refine ⟨iff_of_true rfl ended, scanned.closed.congr_of_isOpen ?_, ?_, ?_⟩
  · intro number isOpen
    simp only [IsLeft, not_or, Int.not_lt, ended, not_true_eq_false, false_and,
      not_false_eq_true, and_true]
    exact and_iff_right (scanned.complete rfl number isOpen)
  · intro number isOpen low _ notKept
    simp [scanned.closes number isOpen, low, notKept]
  · intro number isOpened
    obtain ⟨wasFree, isClosed⟩ := scanned.directory number isOpened
    exact ⟨wasFree, isClosed, mt scanned.closed.isOpen_of_isOpen wasFree⟩

/-- Behind a scan that was given up, every number up to the limit is tried. -/
theorem IsScanned.isRemainder_of_closed
    {between after : Descriptors}
    {first limit : Descriptor}
    {events later : List Event}
    (scanned : state.IsScanned first keep events false between)
    (closed : between.Closed (· ∈ inRangeExcept first keep limit) after)
    (tally : Tally later [] [] (inRangeExcept first keep limit) False) :
    state.IsRemainder first keep limit (events ++ later) .bruteForce after := by
  have both := (Tally.of_events events).append tally
  simp only [List.append_nil, or_false] at both
  have notEnded : ¬ScanEnded (events ++ later) := by
    rw [both.ended, scanned.ended]
    exact Bool.false_ne_true
  have isClosed_iff : ∀ number,
      number ∈ closedNumbers (events ++ later) ↔
        number ∈ closedNumbers events ∨ first ≤ number ∧ number < limit ∧ number ≠ keep := by
    intro number
    rw [both.closed, List.mem_append, mem_inRangeExcept_iff]
  have gone := scanned.closed.trans closed
  refine ⟨iff_of_false nofun notEnded, gone.congr_of_isOpen ?_, ?_, ?_⟩
  · intro number isOpen
    have isScanned := scanned.closes number isOpen
    rw [IsLeft, isClosed_iff, isScanned, mem_inRangeExcept_iff]
    grind
  · intro number isOpen low high notKept
    rw [isClosed_iff, both.listed, scanned.closes number isOpen]
    simp [low, notKept, Int.not_lt.mpr high]
  · rw [both.opened]
    intro number isOpened
    obtain ⟨wasFree, isClosed⟩ := scanned.directory number isOpened
    exact ⟨wasFree, (isClosed_iff number).mpr (.inl isClosed),
      mt gone.isOpen_of_isOpen wasFree⟩

theorem closes_close
    (rounds : Nat)
    (first keep limit : Descriptor)
    (state : Descriptors) :
    (Inherited.close rounds first keep limit).Ensures answering
      (fun events after strategy =>
        state.IsRemainder first keep limit events strategy after)
      [] state := by
  refine Program.ensures_bind_of_start
    ((scans_closeByDirectory rounds first keep state).mono ?_)
  intro events between completed scanned
  cases completed with
  | true =>
      have remainder := scanned.isRemainder limit
      rw [← List.append_nil events] at remainder
      exact remainder
  | false =>
      rw [if_neg Bool.false_ne_true, closeByNumber_eq_closeEach]
      refine Program.ensures_bind_of_start ((closes_closeEach _ between).mono ?_)
      rintro later after _ ⟨closed, -, tally⟩
      have remainder := scanned.isRemainder_of_closed closed tally
      rw [← List.append_nil later] at remainder
      exact remainder

/-! ## Keeping one descriptor -/

/-- The calls with which other descriptors are found and closed. -/
def findsOrClosesOthers (keep : Descriptor) (request : Call) : Prop :=
  findsOrCloses request ∧ spares keep request

theorem ensures_keeping_of_makes
    {α : Type}
    {program : Program α}
    (makes : program.Makes (findsOrClosesOthers keep))
    (only : state.OnlyAt keep file)
    (history : List Event) :
    program.Ensures (keeping keep file) (fun _ after _ => after.OnlyAt keep file)
      history state := by
  refine makes.ensures (fun _ (state : Descriptors) => state.OnlyAt keep file) trivial
    ?_ ?_ only
  · intro history state request only kind
    exact ⟨only, kind.2⟩
  intro history state request answer next only kind answered
  obtain ⟨finds, spared⟩ := kind
  cases request with
  | close number => exact only.of_becomes answered spared nofun
  | openFile path mode =>
      rcases answer with errno | number
      · obtain rfl : next = state := answered
        exact only
      · obtain ⟨free, rfl⟩ := answered
        exact only.openNext free mode.closesOnExec
  | directoryRecords number size =>
      rcases answer with errno | records
      · obtain rfl : next = state := answered
        exact only
      · obtain ⟨slot, -, listed⟩ := answered
        split at listed
        · exact listed ▸ only
        · obtain ⟨following, -, rfl⟩ := listed
          exact only
  | _ => exact finds.elim

/-- What a program does anyway it does while it keeps a descriptor. -/
theorem ensures_keeping_of_start
    {α : Type}
    {program : Program α}
    {result : List Event → Descriptors → α → Prop}
    (keeps : program.Ensures (keeping keep file)
      (fun _ after _ => after.OnlyAt keep file) history state)
    (does : program.Ensures answering result [] state) :
    program.Ensures (keeping keep file)
      (fun later after value => after.OnlyAt keep file ∧
        ∃ events, later = history ++ events ∧ result events after value)
      history state := by
  have does : program.Ensures answering
      (fun later after value =>
        ∃ events, later = history ++ events ∧ result events after value) history state :=
    .of_start history (does.mono fun events after value holds => ⟨events, rfl, holds⟩)
  exact (keeps.and does).weaken (fun _ _ _ _ => id) (fun _ _ _ => And.left) fun _ => trivial

theorem ensures_closeEach
    {numbers : List Descriptor}
    (spared : keep ∉ numbers)
    (only : state.OnlyAt keep file)
    (history : List Event) :
    (Inherited.closeEach numbers).Ensures (keeping keep file)
      (fun later after _ =>
        after.OnlyAt keep file ∧ state.Closed (· ∈ numbers) after ∧
          (ScanEnded later → ScanEnded history))
      history state := by
  have makes : (Inherited.closeEach numbers).Makes (findsOrClosesOthers keep) :=
    (completes_closeEach_of_mem fun number isMember =>
      ⟨trivial, fun same => spared (same ▸ isMember)⟩).makes
  refine (ensures_keeping_of_start (ensures_keeping_of_makes makes only history)
    (closes_closeEach numbers state)).mono ?_
  rintro _ after _ ⟨only, events, rfl, closed, -, tally⟩
  refine ⟨only, closed, fun ended => ?_⟩
  rw [scanEnded_append] at ended
  exact ended.resolve_right tally.ended.mp

theorem ensures_keeping_close
    (rounds : Nat)
    (first limit : Descriptor)
    (only : state.OnlyAt keep file)
    (history : List Event) :
    (Inherited.close rounds first keep limit).Ensures (keeping keep file)
      (fun _ after _ => after.OnlyAt keep file) history state := by
  rw [Inherited.close, Program.ensures_bind, Inherited.closeByDirectory,
    Program.ensures_perform_bind]
  have byNumber : ∀ later (after : Descriptors), after.OnlyAt keep file →
      (Inherited.closeByNumber first keep limit >>= fun _ =>
        pure Inherited.Strategy.bruteForce).Ensures (keeping keep file)
          (fun _ after _ => after.OnlyAt keep file) later after := by
    intro later after only
    have makes : (Inherited.closeByNumber first keep limit).Makes
        (findsOrClosesOthers keep) := by
      rw [closeByNumber_eq_closeEach]
      exact (completes_closeEach_of_mem fun number isTried =>
        ⟨trivial, (mem_inRangeExcept_iff.mp isTried).2.2⟩).makes
    rw [Program.ensures_bind]
    exact ensures_keeping_of_makes makes only later
  refine ⟨⟨only, trivial⟩, fun answer opened answered => ?_⟩
  rcases answer with errno | directory
  · obtain rfl : opened = state := answered
    exact byNumber _ _ only
  · obtain ⟨free, rfl⟩ := answered
    have notKeep := only.ne_of_isFree free
    have makes : (Inherited.closeListed first keep directory rounds
          (List.replicate Inherited.bufferSize 0) >>= fun completed =>
        Program.perform (.close directory) >>= fun _ => pure completed).Makes
          (findsOrClosesOthers keep) :=
      Program.makes_bind
        (makes_closeListed (fun number _ different _ => ⟨trivial, different⟩)
          ⟨trivial, trivial⟩ rounds _)
        fun completed => ⟨⟨trivial, notKeep⟩, fun _ => trivial⟩
    have onlyOpened : ((state.openNext directory true free).listing state.nextFile
        (some 0)).OnlyAt keep file := only.openNext free true
    rw [if_pos rfl]
    refine (ensures_keeping_of_makes makes onlyOpened _).mono ?_
    intro later after completed only
    cases completed with
    | true => exact only
    | false => exact byNumber _ _ only

/-- What was inherited from `first` on may have been closed, except `keep`. -/
structure Thins (before : Descriptors) (first keep : Descriptor)
    (after : Descriptors) : Prop where
  keeps : ∀ number, number < first ∨ number = keep →
    after.slot? number = before.slot? number
  only : ∀ number, after.slot? number = before.slot? number ∨
    after.slot? number = none

theorem IsRemainder.thins
    {after : Descriptors}
    {first limit : Descriptor}
    {events : List Event}
    {strategy : Inherited.Strategy}
    (remainder : state.IsRemainder first keep limit events strategy after) :
    state.Thins first keep after where
  keeps number kept := by
    apply remainder.closed.keeps number
    rw [IsLeft, not_not]
    tauto
  only number := by
    by_cases isLeft : IsLeft first keep limit events number
    · exact .inl (remainder.closed.keeps number (not_not.mpr isLeft))
    · exact .inr (remainder.closed.closed number isLeft)

/-- A scan that came to its end leaves nothing from `first` on but `keep`. -/
theorem IsRemainder.slot?_eq_none
    {after : Descriptors}
    {first limit : Descriptor}
    {events : List Event}
    {strategy : Inherited.Strategy}
    (remainder : state.IsRemainder first keep limit events strategy after)
    (ended : ScanEnded events)
    {number : Descriptor}
    (low : first ≤ number)
    (notKept : number ≠ keep) :
    after.slot? number = none := by
  apply remainder.closed.closed number
  simp [IsLeft, ended, Int.not_lt.mpr low, notKept]

theorem ensures_close
    (rounds : Nat)
    (first limit : Descriptor)
    (only : state.OnlyAt keep file)
    (history : List Event) :
    (Inherited.close rounds first keep limit).Ensures (keeping keep file)
      (fun later after _ =>
        after.OnlyAt keep file ∧ state.Thins first keep after ∧
          (ScanEnded later → ScanEnded history ∨
            ∀ number, first ≤ number → number ≠ keep → after.slot? number = none))
      history state := by
  refine (ensures_keeping_of_start (ensures_keeping_close rounds first limit only history)
    (closes_close rounds first keep limit state)).mono ?_
  rintro _ after strategy ⟨only, events, rfl, remainder⟩
  refine ⟨only, remainder.thins, fun ended => ?_⟩
  rw [scanEnded_append] at ended
  exact ended.imp_right fun ended number => remainder.slot?_eq_none ended

end Closing
end Descriptors
end ChildProcess
