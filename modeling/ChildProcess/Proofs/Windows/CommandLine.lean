import ChildProcess.Windows.CommandLine

/-!
# Command lines are split into their tokens

How a child splits its command line is documented by rules about runs of backslashes:
they are special in front of a quote only, where every two stand for one, and an odd one
makes the quote part of the argument.  `ReadsArgument` and `ReadsLine` state these rules
without a state that is carried along.  Every line is split by them in exactly one way,
which is the one that `argumentsOf` finds, and a line that `commandLine` writes is split
into exactly the tokens that it was written for.
-/

namespace ChildProcess
namespace Windows

/-! ## The rules -/

/-- Some backslashes. -/
abbrev backslashes (count : Nat) : List Char :=
  List.replicate count '\\'

/-- The characters that stand between arguments. -/
def IsBlank (character : Char) : Prop :=
  character = ' ' ∨ character = '\t'

/-- The rules for the inside of an argument, which is in a quoted part or not: a line
goes on with some more characters of the argument, and behind it with a rest. -/
inductive ReadsArgument : Bool → List Char → List Char → List Char → Prop
  /-- Backslashes at the end of the line stand for themselves. -/
  | lineEnd (isQuoted : Bool) (count : Nat) :
      ReadsArgument isQuoted (backslashes count) (backslashes count) []
  /-- A blank outside quotes ends the argument. -/
  | blank {blank : Char} {line : List Char}
      (count : Nat)
      (isBlank : IsBlank blank) :
      ReadsArgument false (backslashes count ++ blank :: line) (backslashes count) line
  /-- Behind an even number of backslashes, of which half are meant, a quote starts or
  ends a quoted part. -/
  | quote {isQuoted : Bool} {line argument rest : List Char}
      (count : Nat)
      (reads : ReadsArgument (!isQuoted) line argument rest) :
      ReadsArgument isQuoted (backslashes (2 * count) ++ '\x22' :: line)
        (backslashes count ++ argument) rest
  /-- Behind an odd number of backslashes, a quote belongs to the argument. -/
  | escapedQuote {isQuoted : Bool} {line argument rest : List Char}
      (count : Nat)
      (reads : ReadsArgument isQuoted line argument rest) :
      ReadsArgument isQuoted (backslashes (2 * count + 1) ++ '\x22' :: line)
        (backslashes count ++ '\x22' :: argument) rest
  /-- Any other character stands for itself, and so do backslashes in front of it. -/
  | literal {isQuoted : Bool} {character : Char} {line argument rest : List Char}
      (count : Nat)
      (notBackslash : character ≠ '\\')
      (notQuote : character ≠ '\x22')
      (notEnding : IsBlank character → isQuoted = true)
      (reads : ReadsArgument isQuoted line argument rest) :
      ReadsArgument isQuoted (backslashes count ++ character :: line)
        (backslashes count ++ character :: argument) rest

/-- The rules for a whole line: an argument starts where no blank stands. -/
inductive ReadsLine : List Char → List (List Char) → Prop
  | nil : ReadsLine [] []
  | blank {blank : Char} {line : List Char} {arguments : List (List Char)}
      (isBlank : IsBlank blank)
      (reads : ReadsLine line arguments) :
      ReadsLine (blank :: line) arguments
  | argument {first : Char} {line argument rest : List Char}
      {arguments : List (List Char)}
      (notBlank : ¬IsBlank first)
      (reads : ReadsArgument false (first :: line) argument rest)
      (others : ReadsLine rest arguments) :
      ReadsLine (first :: line) (argument :: arguments)

/-! ## Splitting follows the rules -/

section Splitting

variable {isQuoted : Bool} {count : Nat} {character : Char}
variable {line argument rest : List Char} {arguments : List (List Char)}

@[simp] theorem read_backslash (state : ArgumentState) :
    state.read '\\' =
      some ([], { state with backslashes := state.backslashes + 1 }) := rfl

@[simp] theorem read_quote_of_even :
    (⟨isQuoted, 2 * count⟩ : ArgumentState).read '\x22' =
      some (backslashes count, ⟨!isQuoted, 0⟩) := by
  simp [ArgumentState.read]

@[simp] theorem read_quote_of_odd :
    (⟨isQuoted, 2 * count + 1⟩ : ArgumentState).read '\x22' =
      some (backslashes count ++ ['\x22'], ⟨isQuoted, 0⟩) := by
  have half : (2 * count + 1) / 2 = count := by omega
  have odd : (2 * count + 1) % 2 = 1 := by omega
  simp [ArgumentState.read, half, odd]

theorem read_of_isBlank (isBlank : IsBlank character) :
    (⟨false, count⟩ : ArgumentState).read character = none := by
  obtain rfl | rfl := isBlank <;> simp [ArgumentState.read]

theorem read_of_literal
    (notBackslash : character ≠ '\\')
    (notQuote : character ≠ '\x22')
    (notEnding : IsBlank character → isQuoted = true) :
    (⟨isQuoted, count⟩ : ArgumentState).read character =
      some (backslashes count ++ [character], ⟨isQuoted, 0⟩) := by
  have goesOn : ¬((character = ' ' ∨ character = '\t') ∧ (!isQuoted) = true) := by
    intro ⟨isBlank, unquoted⟩
    simp [notEnding isBlank] at unquoted
  simp only [ArgumentState.read, if_neg notBackslash, if_neg notQuote, if_neg goesOn]

/-- Reading one character of an argument. -/
theorem argumentsFrom_cons
    {state next : ArgumentState}
    {characters : List Char}
    (read : state.read character = some (characters, next)) :
    argumentsFrom (some state) (character :: line) =
      extendFirst characters (argumentsFrom (some next) line) := by
  simp [argumentsFrom, read]

/-- Once an argument has been started, it is there. -/
theorem argumentsFrom_some_ne_nil (state : ArgumentState) (line : List Char) :
    argumentsFrom (some state) line ≠ [] := by
  cases line with
  | nil => simp [argumentsFrom]
  | cons character line =>
      cases read : state.read character with
      | none => simp [argumentsFrom, read]
      | some found =>
          rw [argumentsFrom_cons read]
          cases argumentsFrom (some found.2) line <;> simp [extendFirst]

/-- Backslashes are counted. -/
theorem argumentsFrom_backslashes (start : Nat) :
    argumentsFrom (some ⟨isQuoted, start⟩) (backslashes count ++ line) =
      argumentsFrom (some ⟨isQuoted, start + count⟩) line := by
  induction count generalizing start with
  | zero => rfl
  | succ count inductionHypothesis =>
      rw [backslashes, List.replicate_succ, List.cons_append,
        argumentsFrom_cons (read_backslash _), inductionHypothesis,
        Nat.add_right_comm start 1 count]
      cases found : argumentsFrom (some ⟨isQuoted, start + count + 1⟩) line with
      | nil => exact absurd found (argumentsFrom_some_ne_nil _ _)
      | cons first others => rfl

/-- Backslashes in front of another character are looked at together with it. -/
theorem argumentsFrom_run
    {next : ArgumentState}
    {characters : List Char}
    (read : (⟨isQuoted, count⟩ : ArgumentState).read character =
      some (characters, next)) :
    argumentsFrom (some ⟨isQuoted, 0⟩) (backslashes count ++ character :: line) =
      extendFirst characters (argumentsFrom (some next) line) := by
  rw [argumentsFrom_backslashes, Nat.zero_add, argumentsFrom_cons read]

/-- What is read by the rules from within an argument is found. -/
theorem ReadsArgument.argumentsFrom_eq
    (reads : ReadsArgument isQuoted line argument rest) :
    argumentsFrom (some ⟨isQuoted, 0⟩) line = argument :: argumentsFrom none rest := by
  induction reads with
  | lineEnd isQuoted count =>
      have counted :
          argumentsFrom (some ⟨isQuoted, 0⟩) (backslashes count ++ []) =
            argumentsFrom (some ⟨isQuoted, 0 + count⟩) [] :=
        argumentsFrom_backslashes 0
      rw [List.append_nil, Nat.zero_add] at counted
      rw [counted]
      rfl
  | blank count isBlank =>
      rw [argumentsFrom_backslashes, Nat.zero_add]
      simp [argumentsFrom, read_of_isBlank isBlank]
  | quote count reads inductionHypothesis =>
      rw [argumentsFrom_run read_quote_of_even, inductionHypothesis, extendFirst]
  | escapedQuote count reads inductionHypothesis =>
      rw [argumentsFrom_run read_quote_of_odd, inductionHypothesis, extendFirst,
        List.append_assoc, List.singleton_append]
  | literal count notBackslash notQuote notEnding reads inductionHypothesis =>
      rw [argumentsFrom_run (read_of_literal notBackslash notQuote notEnding),
        inductionHypothesis, extendFirst, List.append_assoc, List.singleton_append]

/-- An argument starts with any character that is no blank. -/
theorem argumentsFrom_none_cons (notBlank : ¬IsBlank character) :
    argumentsFrom none (character :: line) =
      argumentsFrom (some .initial) (character :: line) := by
  obtain ⟨found, read⟩ : ∃ found, ArgumentState.initial.read character = some found := by
    by_cases isBackslash : character = '\\'
    · exact ⟨_, isBackslash ▸ read_backslash _⟩
    by_cases isQuote : character = '\x22'
    · have opens :
          (⟨false, 2 * 0⟩ : ArgumentState).read '\x22' =
            some (backslashes 0, ⟨!false, 0⟩) :=
        read_quote_of_even
      exact ⟨_, isQuote ▸ opens⟩
    · exact ⟨_, read_of_literal isBackslash isQuote fun isBlank => absurd isBlank notBlank⟩
  rw [argumentsFrom_cons read]
  simp [argumentsFrom, read]

/-- What a line is split into by the rules is found. -/
theorem ReadsLine.argumentsFrom_eq (reads : ReadsLine line arguments) :
    argumentsFrom none line = arguments := by
  induction reads with
  | nil => rfl
  | blank isBlank reads inductionHypothesis =>
      rw [← inductionHypothesis]
      simp [argumentsFrom, ArgumentState.initial, read_of_isBlank isBlank]
  | argument notBlank reads others inductionHypothesis =>
      rw [argumentsFrom_none_cons notBlank, ← inductionHypothesis]
      exact reads.argumentsFrom_eq

/-- The rules say how every argument goes on, and something of the line is used up. -/
theorem exists_readsArgument (isQuoted : Bool) (count : Nat) (line : List Char) :
    ∃ argument rest,
      ReadsArgument isQuoted (backslashes count ++ line) argument rest ∧
        rest.length ≤ line.length - 1 := by
  induction line generalizing isQuoted count with
  | nil =>
      rw [List.append_nil]
      exact ⟨_, [], .lineEnd isQuoted count, by simp⟩
  | cons character line inductionHypothesis =>
      by_cases isBackslash : character = '\\'
      · obtain ⟨argument, rest, reads, shorter⟩ := inductionHypothesis isQuoted (count + 1)
        refine ⟨argument, rest, ?_, by simp; omega⟩
        rwa [isBackslash, backslashes, List.append_cons, ← List.replicate_succ']
      by_cases isQuote : character = '\x22'
      · subst isQuote
        obtain ⟨half, isEven | isOdd⟩ :
            ∃ half, count = 2 * half ∨ count = 2 * half + 1 := ⟨count / 2, by omega⟩
        · subst isEven
          obtain ⟨argument, rest, reads, shorter⟩ := inductionHypothesis (!isQuoted) 0
          exact ⟨_, rest, .quote half reads, by simp; omega⟩
        · subst isOdd
          obtain ⟨argument, rest, reads, shorter⟩ := inductionHypothesis isQuoted 0
          exact ⟨_, rest, .escapedQuote half reads, by simp; omega⟩
      by_cases ends : IsBlank character ∧ isQuoted = false
      · obtain ⟨isBlank, rfl⟩ := ends
        exact ⟨_, line, .blank count isBlank, by simp⟩
      · obtain ⟨argument, rest, reads, shorter⟩ := inductionHypothesis isQuoted 0
        refine ⟨_, rest, .literal count isBackslash isQuote ?_ reads, by simp; omega⟩
        intro isBlank
        simpa [isBlank] using ends

/-- The rules say how every line is split. -/
theorem exists_readsLine (line : List Char) : ∃ arguments, ReadsLine line arguments := by
  induction length : line.length using Nat.strongRecOn generalizing line with
  | ind length inductionHypothesis =>
      cases line with
      | nil => exact ⟨[], .nil⟩
      | cons first line =>
          rw [List.length_cons] at length
          by_cases isBlank : IsBlank first
          · obtain ⟨arguments, reads⟩ :=
              inductionHypothesis line.length (by omega) line rfl
            exact ⟨arguments, .blank isBlank reads⟩
          · obtain ⟨argument, rest, reads, shorter⟩ :=
              exists_readsArgument false 0 (first :: line)
            simp only [List.length_cons] at shorter
            obtain ⟨arguments, others⟩ :=
              inductionHypothesis rest.length (by omega) rest rfl
            exact ⟨argument :: arguments, .argument isBlank reads others⟩

/-- A line is split by the rules in exactly the way that is found. -/
theorem readsLine_iff : ReadsLine line arguments ↔ argumentsFrom none line = arguments := by
  constructor
  · exact ReadsLine.argumentsFrom_eq
  · intro found
    obtain ⟨others, reads⟩ := exists_readsLine line
    rwa [← found, reads.argumentsFrom_eq]

end Splitting

/-! ## Written lines -/

section Writing

variable {line rest : List Char}

/-- A place at which an argument ends: the end of the line, or a blank. -/
def EndsArgument (line rest : List Char) : Prop :=
  (line = [] ∧ rest = []) ∨ line = ' ' :: rest

/-- Backslashes at the end of an argument stand for themselves. -/
theorem EndsArgument.readsArgument (ends : EndsArgument line rest) (count : Nat) :
    ReadsArgument false (backslashes count ++ line) (backslashes count) rest := by
  obtain ⟨rfl, rfl⟩ | rfl := ends
  · rw [List.append_nil]
    exact .lineEnd false count
  · exact .blank count (.inl rfl)

/-- The inside of a quoted token is read back.  The backslashes that are held back when
it is written are those that have not been looked at when it is read. -/
theorem readsArgument_quotedBody
    (ends : EndsArgument line rest)
    (token : List Char)
    (count : Nat) :
    ReadsArgument true (quotedBody count token ++ line) (backslashes count ++ token)
      rest := by
  induction token generalizing count with
  | nil =>
      rw [quotedBody, Nat.mul_comm, List.append_assoc, List.singleton_append]
      exact .quote count (ends.readsArgument 0)
  | cons character token inductionHypothesis =>
      by_cases isBackslash : character = '\\'
      · subst isBackslash
        rw [quotedBody, backslashes, List.append_cons, ← List.replicate_succ']
        exact inductionHypothesis (count + 1)
      rw [quotedBody.eq_3 _ _ _ isBackslash]
      split
      · next isQuote =>
        subst isQuote
        rw [Nat.mul_comm, List.append_assoc, List.cons_append]
        exact .escapedQuote count (inductionHypothesis 0)
      · next notQuote =>
        rw [List.append_assoc, List.cons_append]
        exact .literal count isBackslash notQuote (fun _ => rfl) (inductionHypothesis 0)

theorem not_isBlank_of_plain
    {character : Char}
    (plain : ¬needsQuotes character = true) :
    ¬IsBlank character := by
  intro isBlank
  apply plain
  obtain rfl | rfl := isBlank <;> rfl

theorem ne_quote_of_plain
    {character : Char}
    (plain : ¬needsQuotes character = true) :
    character ≠ '\x22' := by
  intro isQuote
  apply plain
  rw [isQuote]
  rfl

/-- A token that needs no quotes is read back. -/
theorem readsArgument_plain
    (ends : EndsArgument line rest)
    (token : List Char)
    (count : Nat)
    (plain : ∀ character ∈ token, ¬needsQuotes character = true) :
    ReadsArgument false (backslashes count ++ (token ++ line))
      (backslashes count ++ token) rest := by
  induction token generalizing count with
  | nil =>
      rw [List.nil_append, List.append_nil]
      exact ends.readsArgument count
  | cons character token inductionHypothesis =>
      rw [List.forall_mem_cons] at plain
      by_cases isBackslash : character = '\\'
      · subst isBackslash
        have reads := inductionHypothesis (count + 1) plain.2
        simpa [backslashes, List.replicate_succ'] using reads
      · refine .literal count isBackslash (ne_quote_of_plain plain.1) ?_
          (inductionHypothesis 0 plain.2)
        intro isBlank
        exact absurd isBlank (not_isBlank_of_plain plain.1)

/-- A written token is read back as one argument. -/
theorem readsLine_quoted
    {arguments : List (List Char)}
    (ends : EndsArgument line rest)
    (token : List Char)
    (others : ReadsLine rest arguments) :
    ReadsLine (quoted token ++ line) (token :: arguments) := by
  unfold quoted
  split
  · have body := readsArgument_quotedBody ends token 0
    have reads := ReadsArgument.quote 0 (show ReadsArgument (!false) _ _ _ from body)
    exact .argument (by simp [IsBlank]) reads others
  · next plain =>
    rw [Bool.or_eq_true, List.isEmpty_iff, not_or, Bool.not_eq_true (token.any _),
      List.any_eq_false] at plain
    have reads := readsArgument_plain ends token 0 plain.2
    obtain ⟨first, token, rfl⟩ := List.exists_cons_of_ne_nil plain.1
    exact .argument (not_isBlank_of_plain (plain.2 first List.mem_cons_self)) reads others

/-- Tokens that are written with blanks between them are read back. -/
theorem readsLine_joined (tokens : List (List Char)) :
    ReadsLine (joined tokens) tokens := by
  induction tokens with
  | nil => exact .nil
  | cons token tokens inductionHypothesis =>
      cases tokens with
      | nil =>
          have reads := readsLine_quoted (.inl ⟨rfl, rfl⟩) token .nil
          rwa [List.append_nil] at reads
      | cons next tokens => exact readsLine_quoted (.inr rfl) token inductionHypothesis

/-- The command line for some tokens is split, by the rules as well as in fact, into
exactly these tokens; without tokens, and only then, it is empty. -/
theorem commandLine_reads_back (tokens : List String) :
    (∀ arguments,
      ReadsLine (commandLine tokens).toList arguments ↔
        arguments = tokens.map String.toList) ∧
      argumentsOf (commandLine tokens) = tokens ∧
        (commandLine tokens = "" ↔ tokens = []) := by
  have found : argumentsFrom none (commandLine tokens).toList =
      tokens.map String.toList := by
    rw [commandLine, String.toList_ofList]
    exact (readsLine_joined _).argumentsFrom_eq
  refine ⟨fun arguments => ?_, ?_, ?_, ?_⟩
  · rw [readsLine_iff, found, eq_comm]
  · rw [argumentsOf, found, List.map_map]
    simp [Function.comp_def]
  · intro isEmpty
    rw [isEmpty] at found
    exact List.map_eq_nil_iff.mp found.symm
  · intro none
    rw [none]
    rfl

end Writing

end Windows
end ChildProcess
