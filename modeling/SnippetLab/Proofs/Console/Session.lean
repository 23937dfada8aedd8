import SnippetLab.Console.Session
import SnippetLab.Proofs.Console.Words
import SnippetLab.Proofs.Source.Stripping
import SnippetLab.Proofs.Text.Parts

/-!
# What a session at the prompt does to the stepper

The prompt shows where the stepper stands, what a command has reported and what was wrong with a
line.  None of this touches the stepper: all that a session does to it is **to apply the operations
that the typed lines ask for, in order, up to the first line that quits, and then to stop.**

What a line asks for is told apart from the code that finds it out.  The words there are stand in
three tables, and the words of a line are the ones it is split into by `IsSplit`.

* `Meaning` — what a line asks for, and what it does to a stepper.
* `WordsMean`, `Means` — what is asked for by some words, and by a line.
* `Reads` — the lines that an input is read in.
* `respond_stepper`, `runLines_stepper` — one line and all lines.
* `run_performs_typed` — **a session does what was typed.**
-/

namespace SnippetLab.Console

open Text

/-! ## What a line asks for -/

/-- What a typed line asks for. -/
inductive Meaning where
  /-- Apply an operation of the stepper. -/
  | operate (command : Command)
  /-- Leave the stepper as it is. -/
  | nothing
  | quit
  deriving Repr, DecidableEq

/-- What it does to a stepper. -/
def Meaning.act (s : Stepper) : Meaning → Stepper
  | .operate command => (s.perform command).1
  | .nothing | .quit => s

/-- The words for operations that take no line number. -/
def plainWords : List (Text × Command) :=
  [("n", .stepOver), ("next", .stepOver), ("stepOver", .stepOver), ("s", .stepInto),
    ("stepInto", .stepInto), ("o", .stepOut), ("out", .stepOut), ("stepOut", .stepOut),
    ("c", .resume), ("continue", .resume), ("restart", .restart)]

/-- The words for operations with a line number. -/
def numberedWords : List (Text × (Nat → Command)) :=
  [("b", .toggleBreakpoint), ("break", .toggleBreakpoint), ("r", .runTo), ("run", .runTo)]

/-- The words that show something. -/
def showingWords : List Text := ["vars", "stack"]

/-- The words that end the session. -/
def quittingWords : List Text := ["q", "quit"]

/-- A word that stands in none of the tables. -/
structure Unlisted (word : Text) : Prop where
  plain : word ∉ plainWords.map Prod.fst
  numbered : word ∉ numberedWords.map Prod.fst
  showing : word ∉ showingWords
  quitting : word ∉ quittingWords

/-- **What is asked for by the words of a line**, which has none if it breaks off. -/
inductive WordsMean : Option (List Text) → Meaning → Prop where
  /-- A quote is not closed, or nothing follows a backslash. -/
  | unbalanced : WordsMean none .nothing
  /-- A blank line is a step. -/
  | blank : WordsMean (some []) (.operate .stepOver)
  | plain {word : Text} {command : Command} {arguments : List Text}
      (listed : (word, command) ∈ plainWords) :
      WordsMean (some (word :: arguments)) (.operate command)
  | numbered {word argument : Text} {operation : Nat → Command} {n : Nat} {more : List Text}
      (listed : (word, operation) ∈ numberedWords) (number : Decimal.word? argument = some n) :
      WordsMean (some (word :: argument :: more)) (.operate (operation n))
  | unnumbered {word : Text} {arguments : List Text} (listed : word ∈ numberedWords.map Prod.fst)
      (none : ∀ argument ∈ arguments.head?, Decimal.word? argument = none) :
      WordsMean (some (word :: arguments)) .nothing
  | showing {word : Text} {arguments : List Text} (listed : word ∈ showingWords) :
      WordsMean (some (word :: arguments)) .nothing
  | unknown {word : Text} {arguments : List Text} (unlisted : Unlisted word) :
      WordsMean (some (word :: arguments)) .nothing
  | quit {word : Text} {arguments : List Text} (listed : word ∈ quittingWords) :
      WordsMean (some (word :: arguments)) .quit

/-- **What a line asks for.**  Blanks around it do not matter. -/
def Means (line : Text) (m : Meaning) : Prop := ∃ words, IsSplit line.trim words ∧ WordsMean words m

/-! ## What the prompt takes it for -/

/-- What the stepper is told by what the prompt takes a line for. -/
def Entry.meaning : Entry → Meaning
  | .perform command => .operate command
  | .toggle line => .operate (.toggleBreakpoint line)
  | .quit => .quit
  | .showVariables | .showStack | .unbalanced | .invalidLine | .unknown _ => .nothing

/-- What the prompt takes some words for. -/
def Entry.ofWords : Option (List Text) → Entry
  | none => .unbalanced
  | some [] => .perform .stepOver
  | some (word :: arguments) => .ofWord word (arguments.head?.bind Decimal.word?)

lemma Entry.ofLine_eq (line : Text) : Entry.ofLine line = .ofWords (splitWords line.trim) := by
  rw [Entry.ofLine]
  split <;> simp [Entry.ofWords, *]

section Words

variable {word line : Text} {number : Option Nat} {words : Option (List Text)} {m : Meaning}

lemma Entry.ofWord_plain {command : Command} (listed : (word, command) ∈ plainWords) :
    Entry.ofWord word number = .perform command := by
  simp only [plainWords, List.mem_cons, Prod.mk.injEq, List.not_mem_nil, or_false] at listed
  rcases listed with ⟨rfl, rfl⟩ | ⟨rfl, rfl⟩ | ⟨rfl, rfl⟩ | ⟨rfl, rfl⟩ | ⟨rfl, rfl⟩ | ⟨rfl, rfl⟩ |
    ⟨rfl, rfl⟩ | ⟨rfl, rfl⟩ | ⟨rfl, rfl⟩ | ⟨rfl, rfl⟩ | ⟨rfl, rfl⟩
  all_goals rfl

lemma Entry.meaning_ofWord_numbered {operation : Nat → Command} {n : Nat}
    (listed : (word, operation) ∈ numberedWords) :
    (Entry.ofWord word (some n)).meaning = .operate (operation n) := by
  simp only [numberedWords, List.mem_cons, Prod.mk.injEq, List.not_mem_nil, or_false] at listed
  rcases listed with ⟨rfl, rfl⟩ | ⟨rfl, rfl⟩ | ⟨rfl, rfl⟩ | ⟨rfl, rfl⟩
  all_goals rfl

lemma Entry.ofWord_unnumbered (listed : word ∈ numberedWords.map Prod.fst) :
    Entry.ofWord word none = .invalidLine := by
  simp only [numberedWords, List.map_cons, List.map_nil, List.mem_cons, List.not_mem_nil,
    or_false] at listed
  rcases listed with rfl | rfl | rfl | rfl
  all_goals rfl

lemma Entry.meaning_ofWord_showing (listed : word ∈ showingWords) :
    (Entry.ofWord word number).meaning = .nothing := by
  simp only [showingWords, List.mem_cons, List.not_mem_nil, or_false] at listed
  rcases listed with rfl | rfl
  all_goals rfl

lemma Entry.ofWord_quitting (listed : word ∈ quittingWords) :
    Entry.ofWord word number = .quit := by
  simp only [quittingWords, List.mem_cons, List.not_mem_nil, or_false] at listed
  rcases listed with rfl | rfl
  all_goals rfl

lemma Entry.ofWord_unlisted (unlisted : Unlisted word) :
    Entry.ofWord word number = .unknown word := by
  obtain ⟨plain, numbered, showing, quitting⟩ := unlisted
  simp only [plainWords, numberedWords, showingWords, quittingWords, List.map_cons, List.map_nil,
    List.mem_cons, List.not_mem_nil, or_false, not_or] at plain numbered showing quitting
  simp only [Entry.ofWord, isOneOf, List.contains_eq_mem, List.mem_cons, List.not_mem_nil, or_false,
    decide_eq_true_eq, plain, numbered, showing, quitting, if_false]

/-- What words ask for is what the prompt takes them for. -/
lemma WordsMean.meaning_eq (h : WordsMean words m) : (Entry.ofWords words).meaning = m := by
  cases h with
  | unbalanced => rfl
  | blank => rfl
  | plain listed => rw [Entry.ofWords, Entry.ofWord_plain listed, Entry.meaning]
  | numbered listed number =>
      rw [Entry.ofWords, List.head?_cons, Option.bind_some, number,
        Entry.meaning_ofWord_numbered listed]
  | unnumbered listed none =>
      rw [Entry.ofWords, Option.bind_eq_none_iff.2 none, Entry.ofWord_unnumbered listed,
        Entry.meaning]
  | showing listed => rw [Entry.ofWords, Entry.meaning_ofWord_showing listed]
  | unknown unlisted => rw [Entry.ofWords, Entry.ofWord_unlisted unlisted, Entry.meaning]
  | quit listed => rw [Entry.ofWords, Entry.ofWord_quitting listed, Entry.meaning]

/-- **All words ask for something.** -/
lemma exists_wordsMean (words : Option (List Text)) : ∃ m, WordsMean words m := by
  rcases words with - | - | ⟨word, arguments⟩
  · exact ⟨_, .unbalanced⟩
  · exact ⟨_, .blank⟩
  by_cases plain : word ∈ plainWords.map Prod.fst
  · obtain ⟨⟨_, command⟩, listed, rfl⟩ := List.mem_map.1 plain
    exact ⟨_, .plain listed⟩
  by_cases numbered : word ∈ numberedWords.map Prod.fst
  · cases number : arguments.head?.bind Decimal.word? with
    | none => exact ⟨_, .unnumbered numbered (Option.bind_eq_none_iff.1 number)⟩
    | some n =>
        obtain ⟨argument, first, number⟩ := Option.bind_eq_some_iff.1 number
        obtain ⟨more, rfl⟩ := List.head?_eq_some_iff.1 first
        obtain ⟨⟨_, operation⟩, listed, rfl⟩ := List.mem_map.1 numbered
        exact ⟨_, .numbered listed number⟩
  by_cases showing : word ∈ showingWords
  · exact ⟨_, .showing showing⟩
  by_cases quitting : word ∈ quittingWords
  · exact ⟨_, .quit quitting⟩
  · exact ⟨_, .unknown ⟨plain, numbered, showing, quitting⟩⟩

lemma wordsMean_iff : WordsMean words m ↔ (Entry.ofWords words).meaning = m := by
  refine ⟨WordsMean.meaning_eq, ?_⟩
  rintro rfl
  obtain ⟨m, asked⟩ := exists_wordsMean words
  rwa [asked.meaning_eq]

/-- **A line asks for what the prompt takes it for**, and for nothing else. -/
theorem means_iff : Means line m ↔ (Entry.ofLine line).meaning = m := by
  rw [Entry.ofLine_eq, ← wordsMean_iff]
  constructor
  · rintro ⟨words, split, asked⟩
    rwa [splitWords_eq_iff.2 split]
  · exact fun asked => ⟨_, splitWords_eq_iff.1 rfl, asked⟩

end Words

/-! ## One line and all lines -/

section Lines

variable (s : Stepper)

/-- **A line does to the stepper what it asks for.** -/
lemma respond_stepper (entry : Entry) : (respond s entry).stepper = entry.meaning.act s := by
  cases entry with
  | _ => rfl

/-- Only quitting ends the session. -/
lemma respond_goesOn (entry : Entry) :
    (respond s entry).goesOn = decide (entry.meaning ≠ .quit) := by
  cases entry with
  | _ => rfl

/-- **All lines up to one that quits are carried out in order**, and the run is stopped. -/
lemma runLines_stepper (lines : List Text) :
    (runLines s lines).2 = (((lines.map fun line => (Entry.ofLine line).meaning).takeWhile
      (· ≠ .quit)).foldl Meaning.act s).stop := by
  induction lines generalizing s with
  | nil => rfl
  | cons line rest ih =>
      rw [List.map_cons, runLines]
      by_cases quits : (Entry.ofLine line).meaning = .quit
      · have ends : (respond s (.ofLine line)).goesOn = false := by simp [respond_goesOn, quits]
        rw [List.takeWhile_cons_of_neg (by simp [quits]), if_neg (by simp [ends]),
          respond_stepper, quits]
        rfl
      · have goesOn : (respond s (.ofLine line)).goesOn = true := by simp [respond_goesOn, quits]
        rw [List.takeWhile_cons_of_pos (by simp [quits]), if_pos goesOn, List.foldl_cons,
          ← respond_stepper]
        exact ih _

end Lines

/-! ## The lines of an input -/

/-- **The lines that an input is read in**, each with the line feed that ends it; only the last one
may have none. -/
inductive Reads : Text → List Text → Prop where
  | nil : Reads [] []
  | last {line : Text} (nonempty : line ≠ []) (open_ : '\n' ∉ line) : Reads line [line]
  | line {line rest : Text} {lines : List Text} (whole : '\n' ∉ line) (later : Reads rest lines) :
      Reads (line ++ '\n' :: rest) ((line ++ ['\n']) :: lines)

section Reading

variable {input line : Text} {lines : List Text}

/-- Every input is read in lines. -/
lemma exists_reads (input : Text) : ∃ lines, Reads input lines := by
  induction input with
  | nil => exact ⟨_, .nil⟩
  | cons c rest ih =>
      obtain ⟨lines, read⟩ := ih
      by_cases feed : c = '\n'
      · subst feed
        exact ⟨_, .line (List.not_mem_nil (a := '\n')) read⟩
      have longer {line : Text} (whole : '\n' ∉ line) : '\n' ∉ c :: line := by
        rw [List.mem_cons, not_or]
        exact ⟨Ne.symm feed, whole⟩
      cases read with
      | nil => exact ⟨_, .last (by simp) (longer List.not_mem_nil)⟩
      | last nonempty open_ => exact ⟨_, .last (by simp) (longer open_)⟩
      | line whole later => exact ⟨_, .line (longer whole) later⟩

/-- A line without a line feed is the only one. -/
lemma lines_of_open (nonempty : line ≠ []) (open_ : '\n' ∉ line) : line.lines = [line] := by
  induction line with
  | nil => exact absurd rfl nonempty
  | cons c r ih =>
      rw [List.mem_cons, not_or] at open_
      have single : ¬(c = '\r' ∧ r.head? = some '\n') :=
        fun ⟨_, next⟩ => open_.2 (List.mem_of_mem_head? next)
      rw [Source.lines_cons (Ne.symm open_.1) single]
      cases r with
      | nil => rfl
      | cons d r =>
          rw [ih (List.cons_ne_nil d r) open_.2]
          rfl

/-- The first line goes up to the line feed; a carriage return before it is left out. -/
lemma lines_append_feed (whole : '\n' ∉ line) (rest : Text) :
    ∃ kept, (line ++ '\n' :: rest).lines = kept :: rest.lines ∧
      (line = kept ∨ line = kept ++ ['\r']) := by
  induction line with
  | nil => exact ⟨[], rfl, .inl rfl⟩
  | cons c r ih =>
      rw [List.mem_cons, not_or] at whole
      by_cases crlf : c = '\r' ∧ r = []
      · obtain ⟨rfl, rfl⟩ := crlf
        exact ⟨[], rfl, .inr rfl⟩
      have single : ¬(c = '\r' ∧ (r ++ '\n' :: rest).head? = some '\n') := by
        rintro ⟨rfl, next⟩
        cases r with
        | nil => exact crlf ⟨rfl, rfl⟩
        | cons d r => exact whole.2 (List.mem_of_mem_head? next)
      obtain ⟨kept, first, same⟩ := ih whole.2
      refine ⟨c :: kept, ?_, ?_⟩
      · rw [List.cons_append, Source.lines_cons (Ne.symm whole.1) single, first]
        rfl
      · exact same.imp (congrArg (c :: ·)) (congrArg (c :: ·))

/-- **Reading lines with their ends and without them comes to the same** once they are trimmed. -/
lemma Reads.map_trim (h : Reads input lines) : lines.map trim = input.lines.map trim := by
  induction h with
  | nil => rfl
  | last nonempty open_ => rw [lines_of_open nonempty open_]
  | @line line rest lines whole _ ih =>
      obtain ⟨kept, first, same⟩ := lines_append_feed whole rest
      have trimmed : trim (line ++ ['\n']) = kept.trim := by
        rcases same with rfl | rfl
        · exact trim_append_blanks line rfl
        · rw [List.append_assoc]
          exact trim_append_blanks kept rfl
      rw [first, List.map_cons, List.map_cons, trimmed, ih]

end Reading

/-! ## A whole session -/

/-- **What is asked for by the lines of an input**, in order. -/
def Typed (input : Text) (meanings : List Meaning) : Prop :=
  ∃ lines, Reads input lines ∧ List.Forall₂ Means lines meanings

/-- Every input asks for something, and only the prompt's own reading of it is right. -/
lemma typed_iff {input : Text} {meanings : List Meaning} :
    Typed input meanings ↔
      (input.lines.map fun line => (Entry.ofLine line).meaning) = meanings := by
  have reading {lines : List Text} (read : Reads input lines) :
      (lines.map fun line => (Entry.ofLine line).meaning) =
        input.lines.map fun line => (Entry.ofLine line).meaning := by
    have same := congrArg (List.map fun t => (Entry.ofWords (splitWords t)).meaning) read.map_trim
    simpa only [List.map_map, Function.comp_def, ← Entry.ofLine_eq] using same
  have agree {lines : List Text} : List.Forall₂ Means lines meanings ↔
      (lines.map fun line => (Entry.ofLine line).meaning) = meanings := by
    have same : Means = fun line m => (Entry.ofLine line).meaning = m := by
      funext line m
      exact propext means_iff
    rw [same, ← List.forall₂_map_left_iff, List.forall₂_eq_eq_eq]
  constructor
  · rintro ⟨lines, read, asked⟩
    rw [← reading read, agree.1 asked]
  · rintro h
    obtain ⟨lines, read⟩ := exists_reads input
    exact ⟨lines, read, agree.2 ((reading read).trans h)⟩

/-- Whatever stands behind the number, a breakpoint is set; a quote that is left open does nothing. -/
example : Typed "b '+3' x # here\r\nvars\n\nb three\n'c\nq\nn"
    [.operate (.toggleBreakpoint 3), .nothing, .operate .stepOver, .nothing, .nothing, .quit,
      .operate .stepOver] := typed_iff.2 (by decide)

/-- **A session does what was typed.**  An input asks for one list of things; those before the first
line that quits are done, one after another, and the run is stopped. -/
theorem run_performs_typed (s : Stepper) (input : Text) :
    ∃ meanings, (∀ others, Typed input others ↔ others = meanings) ∧
      (run s input).2 = ((meanings.takeWhile (· ≠ .quit)).foldl Meaning.act s).stop := by
  refine ⟨_, fun others => typed_iff.trans eq_comm, ?_⟩
  rw [run]
  exact runLines_stepper s input.lines

end SnippetLab.Console
