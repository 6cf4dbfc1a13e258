import ChildProcess.Proofs.ExecutableSearch

/-!
# What is handed over to the operating system

The operating system takes strings that end in a zero byte and vectors that end in a null
pointer, and sees nothing behind either.  A launch is put into this form only if none of
its strings holds a zero byte, so that what is read from memory is all that was to be
handed over.
-/

namespace ChildProcess

/-! ## Reading from memory -/

/-- What is read of a string: the bytes before the first zero byte. -/
def readString (memory : Bytes) : Bytes :=
  memory.takeWhile (· != 0)

/-- What is read of a vector, given what its pointers point to: the strings before the
first null pointer. -/
def readVector : List (Option Bytes) → List Bytes
  | some memory :: rest => readString memory :: readVector rest
  | none :: _ | [] => []

/-- From some address on, memory holds a string, its end, and whatever lies behind. -/
def CString.StoredAt (string : CString) (memory : Bytes) : Prop :=
  ∃ behind, memory = string.bytes ++ 0 :: behind

/-- Memory holds the pointers of a vector and whatever lies behind, and the strings that
they point to. -/
inductive PointerVector.StoredAt : PointerVector → List (Option Bytes) → Prop
  | behind (cells : List (Option Bytes)) : StoredAt [] cells
  | null {rest : PointerVector} {cells : List (Option Bytes)}
      (stored : StoredAt rest cells) :
      StoredAt (none :: rest) (none :: cells)
  | pointer {string : CString} {memory : Bytes} {rest : PointerVector}
      {cells : List (Option Bytes)}
      (pointsTo : string.StoredAt memory)
      (stored : StoredAt rest cells) :
      StoredAt (some string :: rest) (some memory :: cells)

theorem CString.StoredAt.readString_eq
    {string : CString}
    {memory : Bytes}
    (stored : string.StoredAt memory) :
    readString memory = string.bytes := by
  obtain ⟨behind, rfl⟩ := stored
  have nonzero : ∀ byte ∈ string.bytes, (byte != 0) = true := by
    intro byte isMember
    rw [bne_iff_ne]
    rintro rfl
    exact string.nulFree isMember
  rw [readString, List.takeWhile_append_of_pos nonzero]
  simp

namespace PointerVector

/-- Wherever a vector ends in a null pointer, it is read from memory as it is. -/
theorem StoredAt.readVector_eq
    {vector : PointerVector}
    {cells : List (Option Bytes)}
    (stored : vector.StoredAt cells)
    (ends : none ∈ vector) :
    readVector cells = vector.read := by
  induction stored with
  | behind cells => cases ends
  | null stored => rfl
  | pointer pointsTo stored inductionHypothesis =>
      have ends : none ∈ _ := (List.mem_cons.mp ends).resolve_left nofun
      rw [readVector, read, pointsTo.readString_eq, inductionHypothesis ends]

theorem none_mem_ofList (strings : List CString) : none ∈ ofList strings :=
  List.mem_append_right _ (List.mem_singleton_self none)

/-- However a vector is stored, these strings are read from it. -/
def Presents (vector : PointerVector) (strings : List Bytes) : Prop :=
  ∀ cells, vector.StoredAt cells → readVector cells = strings

/-- What a program is executed with is what is read from memory. -/
theorem presents_read {vector : PointerVector} (ends : none ∈ vector) :
    vector.Presents vector.read :=
  fun _ stored => stored.readVector_eq ends

end PointerVector

/-! ## What is to be handed over -/

namespace Launch

/-- A variable as it stands in an environment. -/
def variableText (binding : String × String) : String :=
  binding.1 ++ "=" ++ binding.2

/-- All strings that a launch hands over, with what they are called, in the order in which
they are looked at. -/
def handedOver (launch : Launch) (parent : Environment) : List (String × Bytes) :=
  launch.commandLine.map (fun token => ("argument", Bytes.ofText token)) ++
    (launch.effectiveEnvironment parent).entries.map
      (fun binding => ("environment entry", Bytes.ofText (variableText binding))) ++
    [("working directory", launch.directory)]

end Launch

/-! ## Accepting and refusing strings -/

section Lists

variable {α β ε : Type} {accept : α → Except ε β}

theorem exists_mapM_eq_ok
    {items : List α}
    (accepted : ∀ item ∈ items, ∃ result, accept item = .ok result) :
    ∃ results, items.mapM accept = .ok results := by
  induction items with
  | nil => exact ⟨[], rfl⟩
  | cons item rest inductionHypothesis =>
      obtain ⟨⟨result, first⟩, others⟩ := List.forall_mem_cons.mp accepted
      obtain ⟨results, remaining⟩ := inductionHypothesis others
      exact ⟨result :: results, by simp [first, remaining, bind, Except.bind, pure, Except.pure]⟩

/-- The first item that is refused gives the error. -/
theorem mapM_eq_error
    {earlier later : List α}
    {item : α}
    {cause : ε}
    (accepted : ∀ item ∈ earlier, ∃ result, accept item = .ok result)
    (refused : accept item = .error cause) :
    (earlier ++ item :: later).mapM accept = .error cause := by
  obtain ⟨results, before⟩ := exists_mapM_eq_ok accepted
  rw [List.mapM_append, before, List.mapM_cons, refused]
  rfl

end Lists

namespace ExecRequest

/-- The error that blames a string for the zero byte at a position. -/
def zeroByteError (what : String) (position : Nat) : LaunchError :=
  .invalidArgument
    (what ++ " contains a NUL byte: nul byte found in provided data at position: "
      ++ toString position)

/-- A string is refused for its first zero byte. -/
theorem requireString_eq_error
    {front : Bytes}
    (what : String)
    (nulFree : 0 ∉ front)
    (back : Bytes) :
    requireString what (front ++ 0 :: back) = .error (zeroByteError what front.length) := by
  have noZero : ∀ byte ∈ front, (byte == (0 : UInt8)) = false := by
    intro byte isMember
    rw [beq_eq_false_iff_ne]
    rintro rfl
    exact nulFree isMember
  have position : (front ++ 0 :: back).findIdx (· == 0) = front.length := by
    rw [List.findIdx_append, List.findIdx_eq_length.mpr noZero, if_neg (Nat.lt_irrefl _),
      List.findIdx_cons]
    simp
  have present : (0 : UInt8) ∈ front ++ 0 :: back := by simp
  rw [requireString, CString.ofBytes, dif_pos present, position]
  rfl

theorem exists_requireString
    {bytes : Bytes}
    (what : String)
    (nulFree : 0 ∉ bytes) :
    ∃ string, requireString what bytes = .ok string :=
  ⟨⟨bytes, nulFree⟩, requireString_eq_ok_iff.mpr rfl⟩

/-- Look at some strings in order. -/
def requireStrings (strings : List (String × Bytes)) : Except LaunchError (List CString) :=
  strings.mapM fun (what, bytes) => requireString what bytes

theorem exists_requireStrings
    {strings : List (String × Bytes)}
    (nulFree : ∀ string ∈ strings, 0 ∉ string.2) :
    ∃ accepted, requireStrings strings = .ok accepted :=
  exists_mapM_eq_ok fun string isMember =>
    exists_requireString string.1 (nulFree string isMember)

theorem nulFree_of_requireStrings
    {strings : List (String × Bytes)}
    {accepted : List CString}
    (required : requireStrings strings = .ok accepted) :
    ∀ string ∈ strings, 0 ∉ string.2 := by
  have each := forall₂_of_mapM_eq_ok required
  clear required
  induction each with
  | nil => exact List.forall_mem_nil _
  | @cons string result _ _ isResult _ inductionHypothesis =>
      refine List.forall_mem_cons.mpr ⟨?_, inductionHypothesis⟩
      rw [← requireString_eq_ok_iff.mp isResult]
      exact result.nulFree

theorem requireStrings_eq_error
    {earlier later : List (String × Bytes)}
    {what : String}
    {front back : Bytes}
    (nulFree : ∀ string ∈ earlier, 0 ∉ string.2)
    (isFirst : 0 ∉ front) :
    requireStrings (earlier ++ (what, front ++ 0 :: back) :: later) =
      .error (zeroByteError what front.length) :=
  mapM_eq_error
    (fun string isMember => exists_requireString string.1 (nulFree string isMember))
    (requireString_eq_error what isFirst back)

/-- A command without a zero byte can be looked for. -/
theorem exists_locate
    {command : Bytes}
    (nulFree : 0 ∉ command)
    (path : SearchPath) :
    ∃ executable, locate command path = .ok executable := by
  unfold locate
  split
  · exact ⟨.absent, rfl⟩
  · split
    · obtain ⟨location, required⟩ := exists_requireString "command" nulFree
      exact ⟨.path location, by rw [required]; rfl⟩
    · exact ⟨_, rfl⟩

/-! ## Making a request -/

section Making

variable {launch : Launch} {path : SearchPath} {parent : Environment}

theorem requireStrings_handedOver :
    requireStrings (launch.handedOver parent) = (do
      let tokens ←
        launch.commandLine.mapM fun token => requireString "argument" (Bytes.ofText token)
      let entries ←
        (launch.effectiveEnvironment parent).entries.mapM fun binding =>
          requireString "environment entry" (entry binding)
      let directory ← requireString "working directory" launch.directory
      pure (tokens ++ entries ++ [directory])) := by
  simp only [requireStrings, Launch.handedOver, List.mapM_append, List.mapM_map,
    List.mapM_cons, List.mapM_nil, entry_eq_ofText, Launch.variableText]
  simp [Function.comp_def]

/-- A request fails as looking at all its strings does, and else as looking for the command
does. -/
theorem ofLaunch_cases (launch : Launch) (path : SearchPath) (parent : Environment) :
    (∃ cause, requireStrings (launch.handedOver parent) = .error cause ∧
      ofLaunch launch path parent = .error cause) ∨
    (∃ strings, requireStrings (launch.handedOver parent) = .ok strings) ∧
      ∃ request : Executable → ExecRequest,
        ofLaunch launch path parent =
          request <$> locate (Bytes.ofText (launch.program?.getD "")) path := by
  rw [requireStrings_handedOver]
  unfold ofLaunch
  cases launch.commandLine.mapM fun token =>
      requireString "argument" (Bytes.ofText token) with
  | error cause => exact .inl ⟨cause, rfl, rfl⟩
  | ok arguments =>
  cases (launch.effectiveEnvironment parent).entries.mapM fun binding =>
        requireString "environment entry" (entry binding) with
  | error cause => exact .inl ⟨cause, rfl, rfl⟩
  | ok environment =>
  cases requireString "working directory" launch.directory with
  | error cause => exact .inl ⟨cause, rfl, rfl⟩
  | ok directory =>
      refine .inr ⟨⟨_, rfl⟩, fun executable =>
        { executable
          directory
          arguments := .ofList arguments
          scriptArguments := fun script =>
            some CString.shell :: script :: PointerVector.ofList (arguments.drop 1)
          environment := .ofList environment }, ?_⟩
      cases locate (Bytes.ofText (launch.program?.getD "")) path <;> rfl

/-- A command is a token, or there is none. -/
theorem nulFree_command
    (nulFree : ∀ string ∈ launch.handedOver parent, 0 ∉ string.2) :
    0 ∉ Bytes.ofText (launch.program?.getD "") := by
  unfold Launch.program?
  cases tokens : launch.commandLine with
  | nil => exact List.not_mem_nil
  | cons command arguments =>
      exact nulFree ("argument", Bytes.ofText command) (by simp [Launch.handedOver, tokens])

/-- A launch without zero bytes is accepted. -/
theorem exists_ofLaunch
    (nulFree : ∀ string ∈ launch.handedOver parent, 0 ∉ string.2) :
    ∃ request, ofLaunch launch path parent = .ok request := by
  obtain ⟨strings, accepted⟩ := exists_requireStrings nulFree
  obtain ⟨executable, located⟩ := exists_locate (nulFree_command nulFree) path
  rcases ofLaunch_cases launch path parent with ⟨cause, refused, -⟩ | ⟨-, request, isRequest⟩
  · rw [accepted] at refused
    cases refused
  · exact ⟨request executable, by rw [isRequest, located]; rfl⟩

/-- A launch is refused for the first zero byte of its first string with one. -/
theorem ofLaunch_eq_error
    {earlier later : List (String × Bytes)}
    {what : String}
    {front back : Bytes}
    (strings : launch.handedOver parent = earlier ++ (what, front ++ 0 :: back) :: later)
    (nulFree : ∀ string ∈ earlier, 0 ∉ string.2)
    (isFirst : 0 ∉ front) :
    ofLaunch launch path parent = .error (zeroByteError what front.length) := by
  have blames : requireStrings (launch.handedOver parent) =
      .error (zeroByteError what front.length) := by
    rw [strings]
    exact requireStrings_eq_error nulFree isFirst
  rcases ofLaunch_cases launch path parent with ⟨cause, refused, fails⟩ | ⟨⟨_, accepted⟩, -⟩
  · rw [blames] at refused
    cases refused
    exact fails
  · rw [blames] at accepted
    cases accepted

/-- A launch that is accepted has no zero bytes. -/
theorem nulFree_of_ofLaunch
    {request : ExecRequest}
    (accepted : ofLaunch launch path parent = .ok request) :
    ∀ string ∈ launch.handedOver parent, 0 ∉ string.2 := by
  rcases ofLaunch_cases launch path parent with ⟨cause, -, fails⟩ | ⟨⟨_, required⟩, -⟩
  · rw [accepted] at fails
    cases fails
  · exact nulFree_of_requireStrings required

end Making

/-- What an accepted launch hands over to the operating system, as it is read from
memory. -/
structure Delivers (request : ExecRequest) (launch : Launch) (parent : Environment) :
    Prop where
  /-- The command line. -/
  arguments : request.arguments.Presents (launch.commandLine.map Bytes.ofText)
  /-- The variables in order. -/
  environment : request.environment.Presents
    ((launch.effectiveEnvironment parent).entries.map fun binding =>
      Bytes.ofText (Launch.variableText binding))
  /-- The working directory. -/
  directory : ∀ memory, request.directory.StoredAt memory →
    readString memory = launch.directory
  /-- The command interpreter with a script in place of the command. -/
  scriptArguments : ∀ script : CString,
    (request.scriptArguments (some script)).Presents
      (Bytes.ofText "/bin/sh" :: script.bytes ::
        (launch.commandLine.drop 1).map Bytes.ofText)

theorem delivers_of_ofLaunch
    {launch : Launch}
    {path : SearchPath}
    {parent : Environment}
    {request : ExecRequest}
    (accepted : ofLaunch launch path parent = .ok request) :
    request.Delivers launch parent := by
  obtain ⟨tokens, entries, isMadeOf, line, isEnvironment, directory, -⟩ :=
    isMadeOf_of_ofLaunch accepted
  have presents : ∀ strings : List CString,
      (PointerVector.ofList strings).Presents (strings.map CString.bytes) := fun strings => by
    rw [← PointerVector.read_ofList]
    exact PointerVector.presents_read (PointerVector.none_mem_ofList strings)
  constructor
  case arguments =>
    rw [isMadeOf.arguments, ← line]
    exact presents tokens
  case environment =>
    rw [isMadeOf.environment]
    simp only [Launch.variableText, ← entry_eq_ofText]
    rw [← isEnvironment]
    exact presents entries
  case directory =>
    intro memory stored
    rw [stored.readString_eq, directory]
  case scriptArguments =>
    intro script
    have shell : CString.shell.bytes = Bytes.ofText "/bin/sh" := by decide
    have strings : Bytes.ofText "/bin/sh" :: script.bytes ::
        (launch.commandLine.drop 1).map Bytes.ofText =
          (CString.shell :: script :: tokens.drop 1).map CString.bytes := by
      rw [List.map_cons, List.map_cons, List.map_drop, ← line, ← List.map_drop, shell]
    rw [isMadeOf.scriptArguments, strings]
    exact presents (CString.shell :: script :: tokens.drop 1)

/-- What becomes of a launch whose strings are put into the form that the operating system
takes. -/
structure Marshals (launch : Launch) (path : SearchPath) (parent : Environment) :
    Prop where
  /-- It is accepted exactly if none of its strings holds a zero byte. -/
  accepts : (∃ request, ofLaunch launch path parent = .ok request) ↔
    ∀ string ∈ launch.handedOver parent, 0 ∉ string.2
  /-- If it is refused, the first zero byte of the first string with one is blamed. -/
  refuses : ∀ earlier what front back later,
    launch.handedOver parent = earlier ++ (what, front ++ 0 :: back) :: later →
      (∀ string ∈ earlier, 0 ∉ string.2) → 0 ∉ front →
        ofLaunch launch path parent = .error (zeroByteError what front.length)
  /-- If it is accepted, everything is handed over. -/
  delivers : ∀ request, ofLaunch launch path parent = .ok request →
    request.Delivers launch parent

/-- Every launch is handed over as a whole or refused for its first zero byte. -/
theorem marshals_ofLaunch (launch : Launch) (path : SearchPath) (parent : Environment) :
    Marshals launch path parent where
  accepts := ⟨fun ⟨_, accepted⟩ => nulFree_of_ofLaunch accepted, exists_ofLaunch⟩
  refuses _ _ _ _ _ strings nulFree isFirst := ofLaunch_eq_error strings nulFree isFirst
  delivers _ := delivers_of_ofLaunch

end ExecRequest
end ChildProcess
