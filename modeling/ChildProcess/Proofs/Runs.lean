import ChildProcess.Program.Transfer

/-!
# Runs of programs

A system says which answers a call may get in a state, and in which states it may be
afterwards.  A program then has many runs, each a list of calls with their answers.
`Program.Ensures` speaks about all of them at once: whatever is answered, every call
is made when it may be made, and every result comes when it may come.  It is defined
along the tree of the program, so it composes along `bind` and needs no induction on
runs; `Program.Ensures.of_runs` goes back to a single run.
-/

namespace ChildProcess

/-- A call with the answer that it got. -/
abbrev Event := Σ request : Call, request.Answer

/-- Which answers a call may get in a state, and the states afterwards. -/
abbrev System (σ : Type) := σ → (request : Call) → request.Answer → σ → Prop

/-- The answers that are events of some kind. -/
def System.only {σ : Type} (answers : System σ) (kind : Event → Prop) : System σ :=
  fun state request answer next =>
    answers state request answer next ∧ kind ⟨request, answer⟩

/-- A system that gives any answer at any time. -/
abbrev anything : System Unit :=
  fun _ _ _ _ => True

/-- The circumstances under which programs are looked at. -/
structure Setting (σ : Type) where
  /-- What may be answered. -/
  answers : System σ
  /-- Which calls may be made after which events. -/
  allows : List Event → σ → Call → Prop := fun _ _ _ => True
  /-- Whether a program may use up its rounds. -/
  exhaustion : Prop := True

namespace Program

variable {σ τ α β : Type}

/-- From a state, a program may get to another program and state by some events. -/
inductive Runs (answers : System σ) :
    Program α → σ → List Event → Program α → σ → Prop
  | stop (program : Program α) (state : σ) :
      Runs answers program state [] program state
  | call {request : Call} {resume : request.Answer → Program α} {state next after : σ}
      {answer : request.Answer} {events : List Event} {left : Program α}
      (answered : answers state request answer next)
      (rest : Runs answers (resume answer) next events left after) :
      Runs answers (.call request resume) state (⟨request, answer⟩ :: events)
        left after

/-- Whatever a program is answered after a history of events, its calls are allowed
and its result satisfies a condition. -/
def Ensures (setting : Setting σ) (result : List Event → σ → α → Prop) :
    Program α → List Event → σ → Prop
  | .done value, history, state => result history state value
  | .exhausted, _, _ => setting.exhaustion
  | .call request resume, history, state =>
      setting.allows history state request ∧
        ∀ answer next, setting.answers state request answer next →
          Ensures setting result (resume answer)
            (history ++ [⟨request, answer⟩]) next

section Ensures

variable {setting : Setting σ} {result : List Event → σ → α → Prop}

@[simp] theorem ensures_done
    (value : α) (history : List Event) (state : σ) :
    (Program.done value).Ensures setting result history state =
      result history state value := rfl

@[simp] theorem ensures_exhausted
    (history : List Event) (state : σ) :
    (Program.exhausted : Program α).Ensures setting result history state =
      setting.exhaustion := rfl

theorem ensures_call
    (request : Call)
    (resume : request.Answer → Program α)
    (history : List Event)
    (state : σ) :
    (Program.call request resume).Ensures setting result history state ↔
      setting.allows history state request ∧
        ∀ answer next, setting.answers state request answer next →
          (resume answer).Ensures setting result
            (history ++ [⟨request, answer⟩]) next :=
  Iff.rfl

theorem ensures_perform_bind
    (request : Call)
    (next : request.Answer → Program α)
    (history : List Event)
    (state : σ) :
    (perform request >>= next).Ensures setting result history state ↔
      setting.allows history state request ∧
        ∀ answer after, setting.answers state request answer after →
          (next answer).Ensures setting result
            (history ++ [⟨request, answer⟩]) after :=
  Iff.rfl

/-- A program followed by another one is looked at piece by piece. -/
theorem ensures_bind
    (program : Program α)
    (next : α → Program β)
    (result : List Event → σ → β → Prop)
    (history : List Event)
    (state : σ) :
    (program >>= next).Ensures setting result history state ↔
      program.Ensures setting
        (fun later after value => (next value).Ensures setting result later after)
        history state := by
  induction program generalizing history state with
  | done value => rfl
  | exhausted => rfl
  | call request resume inductionHypothesis =>
      rw [call_bind, ensures_call, ensures_call]
      simp only [inductionHypothesis]

/-- What a result satisfies may be weakened, and what is known about the run that
leads to it may be used. -/
theorem Ensures.mono_runs
    {result weaker : List Event → σ → α → Prop}
    {program : Program α}
    {history : List Event}
    {state : σ}
    (ensures : program.Ensures setting result history state)
    (weaken : ∀ events after value,
      Runs setting.answers program state events (.done value) after →
        result (history ++ events) after value →
          weaker (history ++ events) after value) :
    program.Ensures setting weaker history state := by
  induction program generalizing history state with
  | done value => simpa using weaken [] state value (.stop _ _) (by simpa using ensures)
  | exhausted => exact ensures
  | call request resume inductionHypothesis =>
      refine ⟨ensures.1, fun answer next answered => ?_⟩
      refine inductionHypothesis answer (ensures.2 answer next answered) ?_
      intro events after value runs
      simpa using weaken (⟨request, answer⟩ :: events) after value
        (.call answered runs)

theorem Ensures.mono
    {result weaker : List Event → σ → α → Prop}
    {program : Program α}
    {history : List Event}
    {state : σ}
    (ensures : program.Ensures setting result history state)
    (weaken : ∀ later after value,
      result later after value → weaker later after value) :
    program.Ensures setting weaker history state :=
  ensures.mono_runs fun events after value _ => weaken (history ++ events) after value

/-- Along a run, what a program ensures is passed on. -/
theorem Ensures.of_runs
    {program left : Program α}
    {history events : List Event}
    {state after : σ}
    (ensures : program.Ensures setting result history state)
    (runs : Runs setting.answers program state events left after) :
    left.Ensures setting result (history ++ events) after := by
  induction runs generalizing history with
  | stop program state => simpa using ensures
  | call answered rest inductionHypothesis =>
      simpa using inductionHypothesis (ensures.2 _ _ answered)

/-- What is ensured twice is ensured together.  It is enough for one of the two to
rule out that the rounds are used up. -/
theorem Ensures.and
    {answers : System σ}
    {allowsFirst allowsSecond : List Event → σ → Call → Prop}
    {exhaustionFirst exhaustionSecond : Prop}
    {first second : List Event → σ → α → Prop}
    {program : Program α}
    {history : List Event}
    {state : σ}
    (ensuresFirst :
      program.Ensures ⟨answers, allowsFirst, exhaustionFirst⟩ first history state)
    (ensuresSecond :
      program.Ensures ⟨answers, allowsSecond, exhaustionSecond⟩ second history
        state) :
    program.Ensures
      ⟨answers,
        fun history state request =>
          allowsFirst history state request ∧ allowsSecond history state request,
        exhaustionFirst ∧ exhaustionSecond⟩
      (fun later after value => first later after value ∧ second later after value)
      history state := by
  induction program generalizing history state with
  | done value => exact ⟨ensuresFirst, ensuresSecond⟩
  | exhausted => exact ⟨ensuresFirst, ensuresSecond⟩
  | call request resume inductionHypothesis =>
      refine ⟨⟨ensuresFirst.1, ensuresSecond.1⟩, fun answer next answered => ?_⟩
      exact inductionHypothesis answer (ensuresFirst.2 answer next answered)
        (ensuresSecond.2 answer next answered)

/-- What is ensured on a system is ensured on every system that shows it in a part
of its state. -/
theorem Ensures.lift
    {answers : System σ}
    {wider : System τ}
    (view : τ → σ)
    (shows : ∀ state request answer next,
      wider state request answer next →
        answers (view state) request answer (view next))
    {allows : List Event → σ → Call → Prop}
    {exhaustion : Prop}
    {program : Program α}
    {history : List Event}
    {state : τ}
    (ensures :
      program.Ensures ⟨answers, allows, exhaustion⟩ result history (view state)) :
    program.Ensures
      ⟨wider, fun history state => allows history (view state), exhaustion⟩
      (fun later after => result later (view after)) history state := by
  induction program generalizing history state with
  | done value => exact ensures
  | exhausted => exact ensures
  | call request resume inductionHypothesis =>
      refine ⟨ensures.1, fun answer next answered => ?_⟩
      exact inductionHypothesis answer
        (ensures.2 answer (view next) (shows _ _ _ _ answered))

end Ensures

/-- What is ensured in a setting is ensured in one with fewer answers that forbids
less. -/
theorem Ensures.weaken
    {strict loose : Setting σ}
    {program : Program α}
    {history : List Event}
    {state : σ}
    (ensures : program.Ensures strict result history state)
    (answers : ∀ state request answer next,
      loose.answers state request answer next →
        strict.answers state request answer next)
    (allows : ∀ history state request,
      strict.allows history state request → loose.allows history state request)
    (exhaustion : strict.exhaustion → loose.exhaustion) :
    program.Ensures loose result history state := by
  induction program generalizing history state with
  | done value => exact ensures
  | exhausted => exact exhaustion ensures
  | call request resume inductionHypothesis =>
      refine ⟨allows history state request ensures.1, fun answer next answered => ?_⟩
      exact inductionHypothesis answer
        (ensures.2 answer next (answers _ _ _ _ answered))

/-- What is ensured under all answers is ensured under some of them. -/
theorem Ensures.restrict
    {answers : System σ}
    {kind : Event → Prop}
    {allows : List Event → σ → Call → Prop}
    {exhaustion : Prop}
    {program : Program α}
    {history : List Event}
    {state : σ}
    (ensures : program.Ensures ⟨answers, allows, exhaustion⟩ result history state) :
    program.Ensures ⟨answers.only kind, allows, exhaustion⟩ result history state :=
  ensures.lift id fun _ _ _ _ => And.left

section Start

variable {answers : System σ} {exhaustion : Prop} {result : List Event → σ → α → Prop}

/-- Where calls are allowed at any time, what happened before a program does not matter
to it. -/
theorem Ensures.behind
    {program : Program α}
    {earlier : List Event}
    {state : σ}
    (history : List Event)
    (ensures : program.Ensures ⟨answers, fun _ _ _ => True, exhaustion⟩
      (fun events after value => result (history ++ events) after value) earlier state) :
    program.Ensures ⟨answers, fun _ _ _ => True, exhaustion⟩ result
      (history ++ earlier) state := by
  induction program generalizing earlier state with
  | done value => exact ensures
  | exhausted => exact ensures
  | call request resume inductionHypothesis =>
      refine ⟨trivial, fun answer next answered => ?_⟩
      rw [List.append_assoc]
      exact inductionHypothesis answer (ensures.2 answer next answered)

theorem Ensures.of_start
    {program : Program α}
    {state : σ}
    (history : List Event)
    (ensures : program.Ensures ⟨answers, fun _ _ _ => True, exhaustion⟩
      (fun events after value => result (history ++ events) after value) [] state) :
    program.Ensures ⟨answers, fun _ _ _ => True, exhaustion⟩ result history state := by
  have ensures := ensures.behind history
  rwa [List.append_nil] at ensures

/-- The parts of a program may be looked at as if each were the first. -/
theorem ensures_bind_of_start
    {program : Program β}
    {next : β → Program α}
    {state : σ}
    (ensures : program.Ensures ⟨answers, fun _ _ _ => True, exhaustion⟩
      (fun first between value =>
        (next value).Ensures ⟨answers, fun _ _ _ => True, exhaustion⟩
          (fun second after value => result (first ++ second) after value) [] between)
      [] state) :
    (program >>= next).Ensures ⟨answers, fun _ _ _ => True, exhaustion⟩ result [] state := by
  rw [ensures_bind]
  exact ensures.mono fun first between value goesOn => goesOn.of_start first

theorem ensures_perform_bind_of_start
    {request : Call}
    {next : request.Answer → Program α}
    {state : σ}
    (ensures : ∀ answer between, answers state request answer between →
      (next answer).Ensures ⟨answers, fun _ _ _ => True, exhaustion⟩
        (fun events after value => result (⟨request, answer⟩ :: events) after value)
        [] between) :
    (perform request >>= next).Ensures ⟨answers, fun _ _ _ => True, exhaustion⟩ result
      [] state :=
  ⟨trivial, fun answer between answered =>
    (ensures answer between answered).of_start [⟨request, answer⟩]⟩

end Start

/-- A repetition comes to its result if an interruption leaves it where it began. -/
theorem ensures_retrying
    {setting : Setting σ}
    {result : List Event → σ → Except Errno α → Prop}
    {attempt : Program (Except Errno α)}
    {history : List Event}
    {state : σ}
    (again : List Event → σ → Prop)
    (exhaustion : setting.exhaustion)
    (attempts : ∀ history state, again history state →
      attempt.Ensures setting
        (fun later after answer =>
          (answer = .error Errno.EINTR → again later after) ∧
            (answer ≠ .error Errno.EINTR → result later after answer))
        history state)
    (rounds : Nat)
    (start : again history state) :
    (retrying attempt rounds).Ensures setting result history state := by
  induction rounds generalizing history state with
  | zero => exact exhaustion
  | succ rounds inductionHypothesis =>
      rw [retrying, ensures_bind]
      refine (attempts history state start).mono ?_
      rintro later after (errno | value) ⟨interrupted, final⟩
      · dsimp only
        split
        · next isInterruption =>
          exact inductionHypothesis (interrupted (by rw [isInterruption]))
        · next noInterruption => exact final (by simpa using noInterruption)
      · exact final nofun

section Pieces

variable {setting : Setting σ} {wanted pieces : Nat} {history : List Event} {state : σ}
variable {result : List Event → σ → Except SystemError Bytes → Prop}
variable {readPiece : Nat → Program (Except SystemError Bytes)}
variable (holds : Bytes → List Event → σ → Prop)
variable (full : ∀ bytes history state, holds bytes history state →
  wanted ≤ bytes.length → result history state (.ok bytes))
variable (reads : ∀ bytes history state, holds bytes history state →
  bytes.length < wanted →
    (readPiece (wanted - bytes.length)).Ensures setting
      (fun later after answer =>
        match answer with
        | .error cause => result later after (.error cause)
        | .ok [] => result later after (.ok bytes)
        | .ok (byte :: rest) => holds (bytes ++ byte :: rest) later after)
      history state)
include full reads

theorem ensures_readPieces_behind
    {bytes : Bytes}
    (enough : setting.exhaustion ∨ wanted - bytes.length < pieces)
    (start : holds bytes history state) :
    (readPieces readPiece pieces (wanted - bytes.length)).Ensures setting
      (fun later after answer => result later after (answer.map (bytes ++ ·)))
      history state := by
  induction pieces generalizing bytes history state with
  | zero => exact enough.resolve_right (Nat.not_lt_zero _)
  | succ pieces inductionHypothesis =>
      unfold readPieces
      split
      · next nothing =>
        have final := full bytes history state start (Nat.le_of_sub_eq_zero nothing)
        rwa [← List.append_nil bytes] at final
      · next something =>
        have short : bytes.length < wanted := Nat.lt_of_sub_ne_zero something
        rw [ensures_bind]
        refine (reads bytes history state start short).mono ?_
        rintro later after (cause | (_ | ⟨byte, rest⟩)) goesOn
        · exact goesOn
        · change result later after (.ok bytes) at goesOn
          rwa [← List.append_nil bytes] at goesOn
        · have missing : wanted - bytes.length - (byte :: rest).length =
              wanted - (bytes ++ byte :: rest).length := by
            rw [List.length_append, Nat.sub_sub]
          have enough : setting.exhaustion ∨
              wanted - (bytes ++ byte :: rest).length < pieces := by
            refine enough.imp_right fun bounded => ?_
            rw [← missing, List.length_cons]
            omega
          dsimp only
          rw [ensures_bind, missing]
          refine (inductionHypothesis enough goesOn).mono ?_
          rintro last between (cause | more) final
          · exact final
          · rwa [Except.map, List.append_assoc] at final

/-- Reading pieces comes to its result if every piece leaves the bytes read so far where
the next one may be read. -/
theorem ensures_readPieces
    (enough : setting.exhaustion ∨ wanted < pieces)
    (start : holds [] history state) :
    (readPieces readPiece pieces wanted).Ensures setting result history state := by
  refine (ensures_readPieces_behind holds full reads enough start).mono ?_
  intro later after answer final
  cases answer <;> exact final

end Pieces

/-! ## Calls of one kind -/

/-- Whatever a program is answered, it makes calls of one kind only. -/
def Makes (kind : Call → Prop) : Program α → Prop
  | .done _ | .exhausted => True
  | .call request resume => kind request ∧ ∀ answer, (resume answer).Makes kind

section Makes

variable {kind : Call → Prop}

theorem makes_bind
    {program : Program α}
    {next : α → Program β}
    (first : program.Makes kind)
    (second : ∀ value, (next value).Makes kind) :
    (program >>= next).Makes kind := by
  induction program with
  | done value => exact second value
  | exhausted => trivial
  | call request resume inductionHypothesis =>
      exact ⟨first.1, fun answer => inductionHypothesis answer (first.2 answer)⟩

theorem Makes.mono
    {wider : Call → Prop}
    {program : Program α}
    (makes : program.Makes kind)
    (widen : ∀ request, kind request → wider request) :
    program.Makes wider := by
  induction program with
  | done value => trivial
  | exhausted => trivial
  | call request resume inductionHypothesis =>
      refine ⟨widen request makes.1, fun answer => ?_⟩
      exact inductionHypothesis answer (makes.2 answer)

theorem makes_perform {request : Call} (isKind : kind request) :
    (perform request).Makes kind :=
  ⟨isKind, fun _ => trivial⟩

theorem makes_retrying
    {attempt : Program (Except Errno α)}
    (makes : attempt.Makes kind)
    (rounds : Nat) :
    (retrying attempt rounds).Makes kind := by
  induction rounds with
  | zero => trivial
  | succ rounds inductionHypothesis =>
      refine makes_bind makes fun answer => ?_
      cases answer with
      | ok value => trivial
      | error errno =>
          dsimp only
          split
          · exact inductionHypothesis
          · trivial

/-- What every call of some kind preserves holds after a program that makes no other
calls. -/
theorem Makes.ensures
    {setting : Setting σ}
    {program : Program α}
    {history : List Event}
    {state : σ}
    (makes : program.Makes kind)
    (invariant : List Event → σ → Prop)
    (exhaustion : setting.exhaustion)
    (allowed : ∀ history state request,
      invariant history state → kind request → setting.allows history state request)
    (kept : ∀ history state request answer next,
      invariant history state → kind request →
        setting.answers state request answer next →
          invariant (history ++ [⟨request, answer⟩]) next)
    (holds : invariant history state) :
    program.Ensures setting (fun later after _ => invariant later after)
      history state := by
  induction program generalizing history state with
  | done value => exact holds
  | exhausted => exact exhaustion
  | call request resume inductionHypothesis =>
      refine ⟨allowed history state request holds makes.1, ?_⟩
      intro answer next answered
      exact inductionHypothesis answer (makes.2 answer)
        (kept history state request answer next holds makes.1 answered)

/-- What is ensured on a system is ensured on every system whose answers to the calls of
the program it can give as well. -/
theorem Makes.ensures_of_simulates
    {answers : System σ}
    {wider : System τ}
    {exhaustion : Prop}
    {result : List Event → σ → α → Prop}
    {program : Program α}
    {history : List Event}
    {view : σ}
    {state : τ}
    (makes : program.Makes kind)
    (relates : τ → σ → Prop)
    (simulates : ∀ state view request answer next,
      relates state view → kind request → wider state request answer next →
        ∃ viewNext, answers view request answer viewNext ∧ relates next viewNext)
    (ensures :
      program.Ensures ⟨answers, fun _ _ _ => True, exhaustion⟩ result history view)
    (related : relates state view) :
    program.Ensures ⟨wider, fun _ _ _ => True, exhaustion⟩
      (fun later after value => ∃ view, relates after view ∧ result later view value)
      history state := by
  induction program generalizing history view state with
  | done value => exact ⟨view, related, ensures⟩
  | exhausted => exact ensures
  | call request resume inductionHypothesis =>
      refine ⟨trivial, fun answer next answered => ?_⟩
      obtain ⟨viewNext, viewAnswered, relatedNext⟩ :=
        simulates state view request answer next related makes.1 answered
      exact inductionHypothesis answer (makes.2 answer)
        (ensures.2 answer viewNext viewAnswered) relatedNext

/-- A program may be allowed all of its calls at any time. -/
theorem Makes.ensures_of_allowed
    {setting : Setting σ}
    {program : Program α}
    (makes : program.Makes kind)
    (exhaustion : setting.exhaustion)
    (allowed : ∀ history state request,
      kind request → setting.allows history state request)
    (history : List Event)
    (state : σ) :
    program.Ensures setting (fun _ _ _ => True) history state := by
  refine makes.ensures (fun _ _ => True) exhaustion ?_ ?_ trivial
  · intro history state request _ isKind
    exact allowed history state request isKind
  · intros
    trivial

/-- Every program makes calls of whatever kind. -/
theorem makes_anything (program : Program α) : program.Makes fun _ => True := by
  induction program with
  | done value => trivial
  | exhausted => trivial
  | call request resume inductionHypothesis => exact ⟨trivial, inductionHypothesis⟩

/-- Where every call is allowed, every program goes on to whatever result. -/
theorem ensures_anything
    {setting : Setting σ}
    (exhaustion : setting.exhaustion)
    (allowed : ∀ history state request, setting.allows history state request)
    (program : Program α)
    (history : List Event)
    (state : σ) :
    program.Ensures setting (fun _ _ _ => True) history state :=
  program.makes_anything.ensures_of_allowed exhaustion
    (fun history state request _ => allowed history state request) history state

/-- Whatever a program is answered, it makes calls of one kind only and comes to a
result, since no rounds are granted to it. -/
def Completes (kind : Call → Prop) : Program α → Prop
  | .done _ => True
  | .exhausted => False
  | .call request resume => kind request ∧ ∀ answer, (resume answer).Completes kind

theorem completes_bind
    {program : Program α}
    {next : α → Program β}
    (first : program.Completes kind)
    (second : ∀ value, (next value).Completes kind) :
    (program >>= next).Completes kind := by
  induction program with
  | done value => exact second value
  | exhausted => exact first.elim
  | call request resume inductionHypothesis =>
      exact ⟨first.1, fun answer => inductionHypothesis answer (first.2 answer)⟩

theorem Completes.makes
    {program : Program α}
    (completes : program.Completes kind) :
    program.Makes kind := by
  induction program with
  | done value => trivial
  | exhausted => exact completes.elim
  | call request resume inductionHypothesis =>
      exact ⟨completes.1, fun answer => inductionHypothesis answer (completes.2 answer)⟩

end Makes

/-! ## Results -/

/-- Whatever a program is answered, its result satisfies a condition. -/
def Results (condition : α → Prop) : Program α → Prop
  | .done value => condition value
  | .exhausted => True
  | .call _ resume => ∀ answer, (resume answer).Results condition

section Results

variable {condition : α → Prop} {conditionNext : β → Prop}

theorem results_bind
    {program : Program α}
    {next : α → Program β}
    (first : program.Results condition)
    (second : ∀ value, condition value → (next value).Results conditionNext) :
    (program >>= next).Results conditionNext := by
  induction program with
  | done value => exact second value first
  | exhausted => trivial
  | call request resume inductionHypothesis =>
      exact fun answer => inductionHypothesis answer (first answer)

/-- Nothing needs to be known about what comes first. -/
theorem results_bind_anything
    (program : Program α)
    {next : α → Program β}
    (follows : ∀ value, (next value).Results conditionNext) :
    (program >>= next).Results conditionNext := by
  induction program with
  | done value => exact follows value
  | exhausted => trivial
  | call request resume inductionHypothesis => exact inductionHypothesis

end Results

/-! ## Single runs -/

section Runs

variable {answers : System σ}

/-- The calls of a run are of the kind that the program makes, and so are those that
are left. -/
theorem Makes.of_runs
    {kind : Call → Prop}
    {program left : Program α}
    {state after : σ}
    {events : List Event}
    (makes : program.Makes kind)
    (runs : Runs answers program state events left after) :
    (∀ event ∈ events, kind event.1) ∧ left.Makes kind := by
  induction runs with
  | stop program state => exact ⟨by simp, makes⟩
  | call answered rest inductionHypothesis =>
      obtain ⟨isKind, left⟩ := inductionHypothesis (makes.2 _)
      exact ⟨List.forall_mem_cons.mpr ⟨makes.1, isKind⟩, left⟩

theorem Completes.of_runs
    {kind : Call → Prop}
    {program left : Program α}
    {state after : σ}
    {events : List Event}
    (completes : program.Completes kind)
    (runs : Runs answers program state events left after) :
    left.Completes kind := by
  induction runs with
  | stop program state => exact completes
  | call answered rest inductionHypothesis => exact inductionHypothesis (completes.2 _)

theorem Results.of_runs
    {condition : α → Prop}
    {program : Program α}
    {state after : σ}
    {events : List Event}
    {value : α}
    (results : program.Results condition)
    (runs : Runs answers program state events (.done value) after) :
    condition value := by
  induction events generalizing program state with
  | nil =>
      cases runs
      exact results
  | cons event events inductionHypothesis =>
      cases runs with
      | call answered rest => exact inductionHypothesis (results _) rest

/-- A run all of whose events are of some kind is one under answers of that kind. -/
theorem Runs.only
    {kind : Event → Prop}
    {program left : Program α}
    {state after : σ}
    {events : List Event}
    (runs : Runs answers program state events left after)
    (isKind : ∀ event ∈ events, kind event) :
    Runs (answers.only kind) program state events left after := by
  induction runs with
  | stop program state => exact .stop program state
  | call answered rest inductionHypothesis =>
      rw [List.forall_mem_cons] at isKind
      exact .call ⟨answered, isKind.1⟩ (inductionHypothesis isKind.2)

theorem Runs.of_only
    {kind : Event → Prop}
    {program left : Program α}
    {state after : σ}
    {events : List Event}
    (runs : Runs (answers.only kind) program state events left after) :
    Runs answers program state events left after := by
  induction runs with
  | stop program state => exact .stop program state
  | call answered rest inductionHypothesis => exact .call answered.1 inductionHypothesis

/-- A run on a system is one where anything may be answered. -/
theorem Runs.forget
    {program left : Program α}
    {state after : σ}
    {events : List Event}
    (runs : Runs answers program state events left after) :
    Runs anything program () events left () := by
  induction runs with
  | stop program state => exact .stop program ()
  | call answered rest inductionHypothesis => exact .call trivial inductionHypothesis

/-- One more call, whatever it is answered. -/
theorem Runs.next
    {request : Call}
    {resume : request.Answer → Program α}
    {answer : request.Answer}
    {events : List Event}
    {left : Program α}
    (rest : Runs anything (resume answer) () events left ()) :
    Runs anything (.call request resume) () (⟨request, answer⟩ :: events) left () :=
  .call trivial rest

/-- By the same events a program gets to one program only. -/
theorem Runs.left_unique
    {program first second : Program α}
    {events : List Event}
    (runs : Runs anything program () events first ())
    (others : Runs anything program () events second ()) :
    first = second := by
  induction events generalizing program with
  | nil =>
      cases runs
      cases others
      rfl
  | cons event events inductionHypothesis =>
      cases runs with
      | call _ rest =>
          cases others with
          | call _ otherRest => exact inductionHypothesis rest otherRest

/-- A run can be cut at each of its calls. -/
theorem Runs.cut
    {program left : Program α}
    {state after : σ}
    {first rest : List Event}
    {request : Call}
    {answer : request.Answer}
    (runs : Runs answers program state (first ++ ⟨request, answer⟩ :: rest) left after) :
    ∃ resume between next,
      Runs answers program state first (.call request resume) between ∧
        answers between request answer next ∧
          Runs answers (resume answer) next rest left after := by
  induction first generalizing program state with
  | nil =>
      cases runs with
      | call answered goesOn => exact ⟨_, _, _, .stop _ _, answered, goesOn⟩
  | cons event first inductionHypothesis =>
      cases runs with
      | call answered goesOn =>
          obtain ⟨resume, between, next, runs, answeredThen, rest⟩ :=
            inductionHypothesis goesOn
          exact ⟨resume, between, next, .call answered runs, answeredThen, rest⟩

/-- Every call of a run was allowed when it was made. -/
theorem Runs.allows_of_ensures
    {allows : List Event → σ → Call → Prop}
    {exhaustion : Prop}
    {result : List Event → σ → α → Prop}
    {program left : Program α}
    {history first rest : List Event}
    {state after : σ}
    {request : Call}
    {answer : request.Answer}
    (runs : Runs answers program state (first ++ ⟨request, answer⟩ :: rest) left after)
    (ensures : program.Ensures ⟨answers, allows, exhaustion⟩ result history state) :
    ∃ between, (∃ middle, Runs answers program state first middle between) ∧
      allows (history ++ first) between request := by
  obtain ⟨resume, between, next, earlier, -, -⟩ := runs.cut
  exact ⟨between, ⟨_, earlier⟩, (ensures.of_runs earlier).1⟩

/-- A run of a program followed by another one either is still in the first, which has no
result yet, or has gone on to the second. -/
theorem Runs.bind_cases
    {program : Program α}
    {next : α → Program β}
    {left : Program β}
    {state after : σ}
    {events : List Event}
    (runs : Runs answers (program >>= next) state events left after) :
    (∃ middle, (∀ value, middle ≠ .done value) ∧ left = middle >>= next ∧
        Runs answers program state events middle after) ∨
      ∃ first second value between,
        events = first ++ second ∧
          Runs answers program state first (.done value) between ∧
            Runs answers (next value) between second left after := by
  induction program generalizing state events with
  | done value => exact .inr ⟨[], events, value, state, rfl, .stop _ _, runs⟩
  | exhausted =>
      cases runs
      exact .inl ⟨.exhausted, nofun, rfl, .stop _ _⟩
  | call request resume inductionHypothesis =>
      rw [call_bind] at runs
      cases runs with
      | stop => exact .inl ⟨.call request resume, nofun, rfl, .stop _ _⟩
      | call answered rest =>
          rcases inductionHypothesis _ rest with
            ⟨middle, notDone, same, runs⟩ |
              ⟨first, second, value, between, same, runs, goesOn⟩
          · exact .inl ⟨middle, notDone, same, .call answered runs⟩
          · exact .inr ⟨_ :: first, second, value, between, by rw [same]; rfl,
              .call answered runs, goesOn⟩

/-- A run goes on with a run of what is left. -/
theorem Runs.trans
    {program middle left : Program α}
    {state between after : σ}
    {first second : List Event}
    (runs : Runs answers program state first middle between)
    (goesOn : Runs answers middle between second left after) :
    Runs answers program state (first ++ second) left after := by
  induction runs with
  | stop program state => exact goesOn
  | call answered _ inductionHypothesis => exact .call answered (inductionHypothesis goesOn)

/-- A run of a program and one of what follows make a run of both. -/
theorem Runs.bind
    {program : Program α}
    {next : α → Program β}
    {left : Program β}
    {state between after : σ}
    {first second : List Event}
    {value : α}
    (runs : Runs answers program state first (.done value) between)
    (goesOn : Runs answers (next value) between second left after) :
    Runs answers (program >>= next) state (first ++ second) left after := by
  induction first generalizing program state with
  | nil =>
      cases runs
      exact goesOn
  | cons event first inductionHypothesis =>
      cases runs with
      | call answered rest => exact .call answered (inductionHypothesis rest)

/-- A run of a program followed by another one that has come to a result has gone
through both. -/
theorem Runs.of_bind_done
    {program : Program α}
    {next : α → Program β}
    {result : β}
    {state after : σ}
    {events : List Event}
    (runs : Runs answers (program >>= next) state events (.done result) after) :
    ∃ first second value between,
      events = first ++ second ∧
        Runs answers program state first (.done value) between ∧
          Runs answers (next value) between second (.done result) after := by
  rcases runs.bind_cases with ⟨middle, notDone, same, -⟩ | goesOn
  · cases middle with
    | done value => exact absurd rfl (notDone value)
    | exhausted => cases same
    | call request resume => cases same
  · exact goesOn

/-- A run of a program followed by another one that is about to make a call either is in
the first, or has gone on to the second. -/
theorem Runs.bind_call_cases
    {program : Program α}
    {next : α → Program β}
    {request : Call}
    {resume : request.Answer → Program β}
    {state after : σ}
    {events : List Event}
    (runs : Runs answers (program >>= next) state events (.call request resume) after) :
    (∃ resumeFirst, resume = (fun answer => resumeFirst answer >>= next) ∧
        Runs answers program state events (.call request resumeFirst) after) ∨
      ∃ first second value between,
        events = first ++ second ∧
          Runs answers program state first (.done value) between ∧
            Runs answers (next value) between second (.call request resume) after := by
  rcases runs.bind_cases with ⟨middle, notDone, same, inFirst⟩ | goesOn
  · cases middle with
    | done value => exact absurd rfl (notDone value)
    | exhausted => cases same
    | call other resumeFirst =>
        cases same
        exact .inl ⟨resumeFirst, rfl, inFirst⟩
  · exact .inr goesOn

/-- A run of a program followed by another one that is about to make a call which the
first does not make has gone on to the second. -/
theorem Runs.of_bind_call
    {kind : Call → Prop}
    {program : Program α}
    {next : α → Program β}
    {request : Call}
    {resume : request.Answer → Program β}
    {state after : σ}
    {events : List Event}
    (runs : Runs answers (program >>= next) state events (.call request resume) after)
    (makes : program.Makes kind)
    (notMade : ¬kind request) :
    ∃ first second value between,
      events = first ++ second ∧
        Runs answers program state first (.done value) between ∧
          Runs answers (next value) between second (.call request resume) after := by
  rcases runs.bind_call_cases with ⟨resumeFirst, -, inFirst⟩ | goesOn
  · exact absurd (makes.of_runs inFirst).2.1 notMade
  · exact goesOn

/-- A call that is repeated while a signal interrupts it is interrupted some times and then
answered otherwise, unless the run ends before that; the rounds are used up by
interruptions only. -/
theorem Runs.of_retrying_bind
    {γ : Type}
    {next : Except Errno γ → Program β}
    {rounds : Nat}
    {left : Program β}
    {state after : σ}
    {events : List Event}
    (request : Call)
    (convert : request.Answer → Except Errno γ)
    (interrupted : request.Answer)
    (isInterruption : ∀ answer, convert answer = .error Errno.EINTR → answer = interrupted)
    (runs : Runs answers
      (retrying (.call request fun answer => .done (convert answer)) rounds >>= next)
      state events left after) :
    (∃ count, events = List.replicate count ⟨request, interrupted⟩ ∧
        (∀ value, left ≠ .done value) ∧ (left = .exhausted → count = rounds)) ∨
      ∃ count answer rest between,
        events = List.replicate count ⟨request, interrupted⟩ ++ ⟨request, answer⟩ :: rest ∧
          convert answer ≠ .error Errno.EINTR ∧
            Runs answers (next (convert answer)) between rest left after := by
  induction rounds generalizing state events with
  | zero =>
      cases runs
      exact .inl ⟨0, rfl, nofun, fun _ => rfl⟩
  | succ rounds inductionHypothesis =>
      simp only [retrying, call_bind, done_bind] at runs
      cases runs with
      | stop => exact .inl ⟨0, rfl, nofun, nofun⟩
      | @call _ _ _ between _ answer _ _ answered rest =>
          by_cases again : convert answer = .error Errno.EINTR
          · obtain rfl := isInterruption answer again
            simp only [again, if_true] at rest
            rcases inductionHypothesis rest with
              ⟨count, rfl, goesOn, usesUp⟩ | ⟨count, last, more, reached, rfl, isLast, runs⟩
            · exact .inl ⟨count + 1, rfl, goesOn, fun ends => congrArg (· + 1) (usesUp ends)⟩
            · exact .inr ⟨count + 1, last, more, reached, rfl, isLast, runs⟩
          · refine .inr ⟨0, answer, _, between, rfl, again, ?_⟩
            cases converted : convert answer with
            | ok value => simpa [converted] using rest
            | error errno =>
                have differs : errno ≠ Errno.EINTR := fun same => again (same ▸ converted)
                simpa [converted, differs] using rest

/-- A program does not come to a call that it does not make. -/
theorem Runs.not_of_makes
    {kind : Call → Prop}
    {program : Program α}
    {request : Call}
    {resume : request.Answer → Program α}
    {state after : σ}
    {events : List Event}
    (makes : program.Makes kind)
    (notMade : ¬kind request) :
    ¬Runs answers program state events (.call request resume) after :=
  fun runs => notMade (makes.of_runs runs).2.1

end Runs

end Program

/-! ## What happens in the end -/

/-- Whatever steps are taken, a goal is reached after finitely many, and until then
there is always a step to take. -/
inductive Eventually {σ : Type} (step : σ → σ → Prop) (goal : σ → Prop) : σ → Prop
  | now {state : σ} (reached : goal state) : Eventually step goal state
  | later {state : σ}
      (possible : ∃ next, step state next)
      (always : ∀ next, step state next → Eventually step goal next) :
      Eventually step goal state

/-- Two programs go on side by side.  There is a step as long as the first one has no
result, and every step goes on with the first one, or leaves it and goes on with the second
one or puts an end to it. -/
structure SideBySide {σ α β : Type} (step : σ → σ → Prop) (invariant : σ → Prop)
    (first : σ → Program α) (second? : σ → Option (Program β)) : Prop where
  kept : ∀ state next, invariant state → step state next → invariant next
  possible : ∀ state request resume, invariant state →
    first state = .call request resume → ∃ next, step state next
  goesOn : ∀ state next, invariant state → step state next →
    (∃ request resume answer, first state = .call request resume ∧
      first next = resume answer) ∨
    first next = first state ∧ ∃ program, second? state = some program ∧
      (second? next = none ∨ ∃ request resume answer, program = .call request resume ∧
        second? next = some (resume answer))

namespace SideBySide

variable {σ α β : Type} {step : σ → σ → Prop} {goal invariant : σ → Prop} {state : σ}
variable {first : σ → Program α} {second? : σ → Option (Program β)}
variable {request : Call} {resume : request.Answer → Program α}

/-- A goal is reached if it is reached whenever the first program goes on, for the second
one cannot go on alone for ever. -/
theorem eventually_of_goesOn
    (sides : SideBySide step invariant first second?)
    (goesOn : ∀ next answer, invariant next → first next = resume answer →
      Eventually step goal next)
    (holds : invariant state)
    (isFirst : first state = .call request resume) :
    Eventually step goal state := by
  have always : ∀ state, invariant state → first state = .call request resume →
      (∀ next, invariant next → first next = .call request resume →
        ∀ program, second? state = some program →
          (second? next = none ∨ ∃ request resume answer, program = .call request resume ∧
            second? next = some (resume answer)) → Eventually step goal next) →
        Eventually step goal state := by
    intro state holds isFirst second
    refine .later (sides.possible state _ _ holds isFirst) fun next taken => ?_
    have holdsNext := sides.kept state next holds taken
    rcases sides.goesOn state next holds taken with
      ⟨_, _, answer, isCall, isNext⟩ | ⟨same, program, isSecond, isNext⟩
    · cases isFirst.symm.trans isCall
      exact goesOn next answer holdsNext isNext
    · exact second next holdsNext (same.trans isFirst) program isSecond isNext
  have alone : ∀ state, invariant state → first state = .call request resume →
      second? state = none → Eventually step goal state := by
    intro state holds isFirst isOver
    refine always state holds isFirst fun next _ _ program isSecond _ => ?_
    cases isOver.symm.trans isSecond
  cases isSecond : second? state with
  | none => exact alone state holds isFirst isSecond
  | some program =>
      -- The induction is on what the second program still does.
      induction program generalizing state with
      | done value =>
          refine always state holds isFirst fun next holds isFirst program same isNext => ?_
          cases isSecond.symm.trans same
          rcases isNext with isOver | ⟨_, _, _, isCall, -⟩
          · exact alone next holds isFirst isOver
          · cases isCall
      | exhausted =>
          refine always state holds isFirst fun next holds isFirst program same isNext => ?_
          cases isSecond.symm.trans same
          rcases isNext with isOver | ⟨_, _, _, isCall, -⟩
          · exact alone next holds isFirst isOver
          · cases isCall
      | call request resume inductionHypothesis =>
          refine always state holds isFirst fun next holds isFirst program same isNext => ?_
          cases isSecond.symm.trans same
          rcases isNext with isOver | ⟨_, _, answer, isCall, isNext⟩
          · exact alone next holds isFirst isOver
          · cases isCall
            exact inductionHypothesis answer holds isFirst isNext

/-- The first program comes to a result. -/
theorem eventually
    (sides : SideBySide step invariant first second?)
    (reached : ∀ state value, invariant state → first state = .done value → goal state)
    (lasts : ∀ state, invariant state → first state ≠ .exhausted)
    (holds : invariant state) :
    Eventually step goal state := by
  generalize isFirst : first state = program
  induction program generalizing state with
  | done value => exact .now (reached state value holds isFirst)
  | exhausted => exact absurd isFirst (lasts state holds)
  | call request resume inductionHypothesis =>
      refine sides.eventually_of_goesOn (fun next answer holds isNext => ?_) holds isFirst
      exact inductionHypothesis answer holds isNext

end SideBySide
end ChildProcess
