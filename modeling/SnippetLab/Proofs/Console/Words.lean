import Mathlib.Data.Nat.Init
import Mathlib.Tactic.Lemma
import SnippetLab.Console.Words

/-!
# How words are written

A command is split into words by a machine that remembers the quote it is in.  What it computes can
be told without the machine: a word is written in pieces, each of which stands for itself, follows a
backslash or stands in quotes, and a text is words with separators and comments between them.
**Every text either is written so or breaks off**, in a quote that is not closed or behind a
backslash.

* `Spelled` — a text written piece by piece, and what it means.
* `QuotedPiece`, `WordPiece` — the pieces between double quotes, and those of a word.
* `LeftOpen` — the ends that complete no piece.
* `IsSplit` — what a text is split into, if it does not break off.
* `splitWords_eq_iff` — **that is what the machine computes.**
-/

namespace SnippetLab.Console

/-! ## How a word is written -/

/-- **A text written piece by piece**, and what it means. -/
inductive Spelled (Piece : Text → Text → Prop) : Text → Text → Prop where
  | nil : Spelled Piece [] []
  | cons {written meant r m : Text} (piece : Piece written meant) (rest : Spelled Piece r m) :
      Spelled Piece (written ++ r) (meant ++ m)

/-- **A piece between double quotes.**  A backslash takes the meaning from few characters, leaves a
line feed out, and stands for itself before all others. -/
inductive QuotedPiece : Text → Text → Prop where
  | plain {c : Char} (open_ : c ≠ '"') (bare : c ≠ '\\') : QuotedPiece [c] [c]
  | escaped {c : Char} (acts : isEscapable c = true) : QuotedPiece ['\\', c] [c]
  | joined : QuotedPiece ['\\', '\n'] []
  | kept {c : Char} (idle : isEscapable c = false) (inside : c ≠ '\n') :
      QuotedPiece ['\\', c] ['\\', c]

/-- A character that stands for itself outside quotes. -/
def standsForItself (c : Char) : Bool := !(isSeparator c || c == '"' || c == '\'' || c == '\\')

/-- **A piece of a word.** -/
inductive WordPiece : Text → Text → Prop where
  | plain {c : Char} (plain : standsForItself c = true) : WordPiece [c] [c]
  | escaped {c : Char} (inside : c ≠ '\n') : WordPiece ['\\', c] [c]
  | joined : WordPiece ['\\', '\n'] []
  | single {body : Text} (open_ : '\'' ∉ body) : WordPiece ('\'' :: (body ++ ['\''])) body
  | double {body meant : Text} (quoted : Spelled QuotedPiece body meant) :
      WordPiece ('"' :: (body ++ ['"'])) meant

/-- **An end that completes no piece**: a backslash with nothing behind it, or a quote that is not
closed. -/
inductive LeftOpen : Text → Prop where
  | backslash : LeftOpen ['\\']
  | single {body : Text} (open_ : '\'' ∉ body) : LeftOpen ('\'' :: body)
  | double {body meant rest : Text} (quoted : Spelled QuotedPiece body meant)
      (broken : rest = [] ∨ rest = ['\\']) : LeftOpen ('"' :: (body ++ rest))

/-- Where a word ends: at a separator or with the text. -/
def EndsWord (rest : Text) : Prop := ∀ c ∈ rest.head?, isSeparator c = true

/-- Where a comment ends: at a line feed or with the text. -/
def EndsComment (rest : Text) : Prop := ∀ c ∈ rest.head?, c = '\n'

/-- **The words that a text is split into**; none if it breaks off in a quote or behind a
backslash. -/
inductive IsSplit : Text → Option (List Text) → Prop where
  | nil : IsSplit [] (some [])
  | separator {c : Char} {r : Text} {words : Option (List Text)} (apart : isSeparator c = true)
      (rest : IsSplit r words) : IsSplit (c :: r) words
  | comment {remark r : Text} {words : Option (List Text)} (line : '\n' ∉ remark)
      (ends : EndsComment r) (rest : IsSplit r words) : IsSplit ('#' :: (remark ++ r)) words
  | word {written w r : Text} {words : Option (List Text)} (spelled : Spelled WordPiece written w)
      (nonempty : written ≠ []) (begins : written.head? ≠ some '#') (ends : EndsWord r)
      (rest : IsSplit r words) : IsSplit (written ++ r) (words.map (w :: ·))
  | breaksOff {written w r : Text} (spelled : Spelled WordPiece written w)
      (begins : written.head? ≠ some '#') (open_ : LeftOpen r) : IsSplit (written ++ r) none

/-! ## What the machine makes of it -/

section Machine

variable {body meant written w r t : Text} {c : Char}

/-- What the machine makes of every piece it makes of a text written in these pieces. -/
lemma Spelled.splitFrom_eq {Piece : Text → Text → Prop} {state : Text → Splitting}
    (each : ∀ {written meant : Text}, Piece written meant → ∀ begun r : Text,
      splitFrom (state begun) (written ++ r) = splitFrom (state (meant.reverse ++ begun)) r)
    (h : Spelled Piece written meant) (begun r : Text) :
    splitFrom (state begun) (written ++ r) = splitFrom (state (meant.reverse ++ begun)) r := by
  induction h generalizing begun with
  | nil => rfl
  | cons piece _ ih => rw [List.append_assoc, each piece, ih, List.reverse_append, List.append_assoc]

/-- A piece between double quotes joins what has been read of them. -/
lemma QuotedPiece.splitFrom_eq (h : QuotedPiece written meant) (begun r : Text) :
    splitFrom (.double begun) (written ++ r) = splitFrom (.double (meant.reverse ++ begun)) r := by
  have slash (r : Text) : splitFrom (.double begun) ('\\' :: r) = splitFrom (.doubleEscape begun) r := by
    rw [splitFrom, if_neg (by decide), if_pos rfl]
  cases h with
  | plain open_ bare =>
      rw [List.singleton_append, splitFrom, if_neg open_, if_neg bare]
      rfl
  | @escaped c acts =>
      have inside : c ≠ '\n' := by
        rintro rfl
        cases acts
      rw [List.cons_append, slash, List.singleton_append, splitFrom, if_neg inside, if_pos acts]
      rfl
  | joined =>
      rw [List.cons_append, slash, List.singleton_append, splitFrom, if_pos rfl]
      rfl
  | kept idle inside =>
      rw [List.cons_append, slash, List.singleton_append, splitFrom, if_neg inside,
        if_neg (by simp [idle])]
      rfl

lemma splitFrom_double (quoted : Spelled QuotedPiece body meant) (begun r : Text) :
    splitFrom (.double begun) (body ++ r) = splitFrom (.double (meant.reverse ++ begun)) r :=
  quoted.splitFrom_eq (fun piece => piece.splitFrom_eq) begun r

lemma splitFrom_single (open_ : '\'' ∉ body) (begun r : Text) :
    splitFrom (.single begun) (body ++ r) = splitFrom (.single (body.reverse ++ begun)) r := by
  induction body generalizing begun with
  | nil => rfl
  | cons c body ih =>
      rw [List.mem_cons, not_or] at open_
      rw [List.cons_append, splitFrom, if_neg (Ne.symm open_.1), ih open_.2]
      simp

/-- What is no separator goes on with the word. -/
lemma splitFrom_word_cons (inside : isSeparator c = false) (begun r : Text) :
    splitFrom (.word begun) (c :: r) = splitFrom (inWord begun c) r := by
  rw [splitFrom, if_neg (by simp [inside])]

/-- The three characters that change how a word is read. -/
lemma inWord_mark (begun : Text) : inWord begun '\\' = .escape begun ∧
    inWord begun '\'' = .single begun ∧ inWord begun '"' = .double begun := ⟨rfl, rfl, rfl⟩

/-- **A piece joins the word that is being read.** -/
lemma WordPiece.splitFrom_eq (h : WordPiece written w) (begun r : Text) :
    splitFrom (.word begun) (written ++ r) = splitFrom (.word (w.reverse ++ begun)) r := by
  obtain ⟨slash, single, double⟩ := inWord_mark begun
  cases h with
  | @plain c plain =>
      have kinds : isSeparator c = false ∧ c ≠ '"' ∧ c ≠ '\'' ∧ c ≠ '\\' := by
        simpa [standsForItself, and_assoc] using plain
      rw [List.singleton_append, splitFrom_word_cons kinds.1, inWord, if_neg kinds.2.1,
        if_neg kinds.2.2.1, if_neg kinds.2.2.2]
      rfl
  | escaped inside =>
      rw [List.cons_append, splitFrom_word_cons (by decide), slash, List.singleton_append, splitFrom,
        if_neg inside]
      rfl
  | joined =>
      rw [List.cons_append, splitFrom_word_cons (by decide), slash, List.singleton_append, splitFrom,
        if_pos rfl]
      rfl
  | single open_ =>
      rw [List.cons_append, List.append_assoc, splitFrom_word_cons (by decide), single,
        splitFrom_single open_, List.singleton_append, splitFrom, if_pos rfl]
  | double quoted =>
      rw [List.cons_append, List.append_assoc, splitFrom_word_cons (by decide), double,
        splitFrom_double quoted, List.singleton_append, splitFrom, if_pos rfl]

lemma splitFrom_word (spelled : Spelled WordPiece written w) (begun r : Text) :
    splitFrom (.word begun) (written ++ r) = splitFrom (.word (w.reverse ++ begun)) r :=
  spelled.splitFrom_eq (fun piece => piece.splitFrom_eq) begun r

/-- An end that completes no piece leaves nothing. -/
lemma LeftOpen.splitFrom_eq_none (h : LeftOpen t) (begun : Text) :
    splitFrom (.word begun) t = none := by
  obtain ⟨-, single, double⟩ := inWord_mark begun
  cases h with
  | backslash => rfl
  | @single body open_ =>
      rw [splitFrom_word_cons (by decide), single, ← List.append_nil body, splitFrom_single open_]
      rfl
  | double quoted broken =>
      rw [splitFrom_word_cons (by decide), double, splitFrom_double quoted]
      rcases broken with rfl | rfl
      · rfl
      · rfl

/-- A word that has ended is the first one. -/
lemma splitFrom_endsWord (ends : EndsWord r) (begun : Text) :
    splitFrom (.word begun) r = (splitFrom .between r).map (begun.reverse :: ·) := by
  cases r with
  | nil => rfl
  | cons c r =>
      have apart := ends c rfl
      rw [splitFrom, splitFrom, if_pos apart, if_pos apart]

/-- A comment is passed over. -/
lemma splitFrom_comment {remark : Text} (line : '\n' ∉ remark) (ends : EndsComment r) :
    splitFrom .comment (remark ++ r) = splitFrom .between r := by
  induction remark with
  | nil =>
      cases r with
      | nil => rfl
      | cons c r =>
          obtain rfl := ends c rfl
          have feed : isSeparator '\n' = true := by decide
          rw [List.nil_append, splitFrom, splitFrom, if_pos feed, if_pos rfl]
  | cons c remark ih =>
      rw [List.mem_cons, not_or] at line
      rw [List.cons_append, splitFrom, if_neg (Ne.symm line.1), ih line.2]

/-- A piece does not begin with a separator. -/
lemma WordPiece.exists_cons (h : WordPiece written w) :
    ∃ c r, written = c :: r ∧ isSeparator c = false := by
  cases h with
  | plain plain =>
      simp only [standsForItself, Bool.not_eq_true', Bool.or_eq_false_iff] at plain
      exact ⟨_, _, rfl, plain.1.1.1⟩
  | _ => exact ⟨_, _, rfl, rfl⟩

lemma LeftOpen.exists_cons (h : LeftOpen t) :
    ∃ c r, t = c :: r ∧ isSeparator c = false ∧ c ≠ '#' := by
  cases h with
  | _ => exact ⟨_, _, rfl, by decide, by decide⟩

/-- Between words a word begins with what is neither a separator nor a hash sign. -/
lemma splitFrom_between (spelled : Spelled WordPiece written w) (begins : written.head? ≠ some '#')
    (goesOn : written ≠ [] ∨ LeftOpen r) :
    splitFrom .between (written ++ r) = splitFrom (.word w.reverse) r := by
  have first : ∃ c t, written ++ r = c :: t ∧ isSeparator c = false ∧ c ≠ '#' := by
    cases spelled with
    | nil => exact (goesOn.resolve_left (absurd rfl)).exists_cons
    | cons piece rest =>
        obtain ⟨c, t, rfl, inside⟩ := piece.exists_cons
        exact ⟨c, _, rfl, inside, fun hash => begins (congrArg some hash)⟩
  have read := splitFrom_word spelled [] r
  obtain ⟨c, t, whole, inside, other⟩ := first
  rw [List.append_nil] at read
  rw [← read, whole, splitFrom_word_cons inside, splitFrom, if_neg (by simp [inside]), if_neg other]

/-- **The machine computes what a text is split into.** -/
lemma IsSplit.splitWords_eq {words : Option (List Text)} (h : IsSplit t words) :
    splitWords t = words := by
  induction h with
  | nil => rfl
  | separator apart _ ih => rwa [splitWords, splitFrom, if_pos apart]
  | comment line ends _ ih =>
      rwa [splitWords, splitFrom, if_neg (by decide), if_pos rfl, splitFrom_comment line ends]
  | word spelled nonempty begins ends _ ih =>
      rw [splitWords, splitFrom_between spelled begins (.inl nonempty), splitFrom_endsWord ends,
        ← splitWords, ih, List.reverse_reverse]
  | breaksOff spelled begins open_ =>
      rw [splitWords, splitFrom_between spelled begins (.inr open_), open_.splitFrom_eq_none]

end Machine

/-! ## Every text is split or breaks off -/

section Every

variable {Piece : Text → Text → Prop} {Ends : Text → Prop}

/-- **Pieces are taken off a text until it ends.** -/
lemma exists_spelled (next : ∀ t, Ends t ∨
      ∃ written meant r, Piece written meant ∧ written ≠ [] ∧ t = written ++ r) (t : Text) :
    ∃ written meant r, Spelled Piece written meant ∧ t = written ++ r ∧ Ends r := by
  induction length : t.length using Nat.strong_induction_on generalizing t with
  | _ n ih =>
      rcases next t with ends | ⟨piece, m, rest, first, nonempty, rfl⟩
      · exact ⟨[], [], t, .nil, rfl, ends⟩
      · have shorter : rest.length < n := by
          have long := List.length_pos_iff.2 nonempty
          rw [← length, List.length_append]
          omega
        obtain ⟨written, meant, r, spelled, rfl, ends⟩ := ih _ shorter rest rfl
        exact ⟨piece ++ written, m ++ meant, r, .cons first spelled, by simp, ends⟩

/-- What a double quote opens is closed, or it is left open. -/
lemma exists_closing_quote (t : Text) : LeftOpen ('"' :: t) ∨
    ∃ body meant r, Spelled QuotedPiece body meant ∧ t = body ++ '"' :: r := by
  have next (t : Text) : (t = [] ∨ t = ['\\'] ∨ ∃ r, t = '"' :: r) ∨
      ∃ written meant r, QuotedPiece written meant ∧ written ≠ [] ∧ t = written ++ r := by
    rcases t with - | ⟨c, r⟩
    · exact .inl (.inl rfl)
    by_cases closes : c = '"'
    · exact .inl (.inr (.inr ⟨r, by rw [closes]⟩))
    by_cases slash : c = '\\'
    · rcases r with - | ⟨d, r⟩
      · exact .inl (.inr (.inl (by rw [slash])))
      refine .inr ?_
      subst slash
      by_cases feed : d = '\n'
      · exact ⟨_, _, r, .joined, by simp, by rw [feed]; rfl⟩
      cases acts : isEscapable d with
      | true => exact ⟨_, _, r, .escaped acts, by simp, rfl⟩
      | false => exact ⟨_, _, r, .kept acts feed, by simp, rfl⟩
    · exact .inr ⟨_, _, r, .plain closes slash, by simp, rfl⟩
  obtain ⟨body, meant, r, quoted, rfl, none | slash | ⟨r, rfl⟩⟩ := exists_spelled next t
  · exact .inl (.double quoted (.inl none))
  · exact .inl (.double quoted (.inr slash))
  · exact .inr ⟨body, meant, r, quoted, rfl⟩

/-- **A text begins with a word that ends or is left open**; the word may be empty. -/
lemma exists_word (t : Text) : ∃ written w r, Spelled WordPiece written w ∧ t = written ++ r ∧
    (EndsWord r ∨ LeftOpen r) := by
  refine exists_spelled (fun t => ?_) t
  rcases t with - | ⟨c, r⟩
  · exact .inl (.inl nofun)
  by_cases plain : standsForItself c = true
  · exact .inr ⟨_, _, r, .plain plain, by simp, rfl⟩
  simp only [standsForItself, Bool.not_eq_true', Bool.not_eq_false, Bool.or_eq_true,
    beq_iff_eq] at plain
  rcases plain with ((apart | rfl) | rfl) | rfl
  · refine .inl (.inl ?_)
    rintro _ ⟨⟩
    exact apart
  · rcases exists_closing_quote r with open_ | ⟨body, meant, rest, quoted, rfl⟩
    · exact .inl (.inr open_)
    · exact .inr ⟨_, _, rest, .double quoted, by simp, by simp⟩
  · by_cases closes : '\'' ∈ r
    · obtain ⟨body, rest, rfl, open_⟩ := List.eq_append_cons_of_mem closes
      exact .inr ⟨_, _, rest, .single open_, by simp, by simp⟩
    · exact .inl (.inr (.single closes))
  · rcases r with - | ⟨d, r⟩
    · exact .inl (.inr .backslash)
    by_cases feed : d = '\n'
    · exact .inr ⟨_, _, r, .joined, by simp, by rw [feed]; rfl⟩
    · exact .inr ⟨_, _, r, .escaped feed, by simp, rfl⟩

/-- A comment goes up to the next line feed. -/
lemma exists_comment (t : Text) : ∃ remark r, t = remark ++ r ∧ '\n' ∉ remark ∧ EndsComment r := by
  by_cases feed : '\n' ∈ t
  · obtain ⟨remark, r, rfl, line⟩ := List.eq_append_cons_of_mem feed
    refine ⟨remark, '\n' :: r, rfl, line, ?_⟩
    rintro _ ⟨⟩
    rfl
  · exact ⟨t, [], by simp, feed, nofun⟩

/-- **Every text is split into words or breaks off.** -/
lemma exists_isSplit (t : Text) : ∃ words, IsSplit t words := by
  induction length : t.length using Nat.strong_induction_on generalizing t with
  | _ n ih =>
      rcases t with - | ⟨c, r⟩
      · exact ⟨_, .nil⟩
      have behind (rest : Text) (shorter : rest.length ≤ r.length) : ∃ words, IsSplit rest words :=
        ih rest.length (by rw [← length]; exact Nat.lt_succ_of_le shorter) rest rfl
      cases apart : isSeparator c with
      | true =>
          obtain ⟨words, rest⟩ := behind r (Nat.le_refl _)
          exact ⟨words, .separator apart rest⟩
      | false =>
          by_cases hash : c = '#'
          · obtain ⟨remark, rest, rfl, line, ends⟩ := exists_comment r
            obtain ⟨words, later⟩ := behind rest (by simp)
            exact ⟨words, hash ▸ .comment line ends later⟩
          · obtain ⟨written, w, rest, spelled, whole, last⟩ := exists_word (c :: r)
            have begins : written.head? ≠ some '#' := by
              rintro first
              obtain ⟨written, rfl⟩ := List.head?_eq_some_iff.1 first
              exact hash (List.cons.inj whole).1
            rw [whole]
            rcases last with ends | open_
            · have nonempty : written ≠ [] := by
                rintro rfl
                have first := ends c (by rw [← List.nil_append rest, ← whole]; rfl)
                rw [apart] at first
                cases first
              have shorter : rest.length ≤ r.length := by
                have long := List.length_pos_iff.2 nonempty
                have total := congrArg List.length whole
                rw [List.length_cons, List.length_append] at total
                omega
              obtain ⟨words, later⟩ := behind rest shorter
              exact ⟨_, .word spelled nonempty begins ends later⟩
            · exact ⟨none, .breaksOff spelled begins open_⟩

end Every

/-- **The words of a command are those that it is split into.** -/
theorem splitWords_eq_iff {t : Text} {words : Option (List Text)} :
    splitWords t = words ↔ IsSplit t words := by
  refine ⟨?_, IsSplit.splitWords_eq⟩
  rintro rfl
  obtain ⟨words, split⟩ := exists_isSplit t
  rwa [split.splitWords_eq]

/-- Quotes join, a backslash acts on few characters in them, and a comment begins a word. -/
example : splitWords "b'r e'ak \"\\$\\n\" a#b # c'" =
    some ["br eak".toList, "$\\n".toList, "a#b".toList] := by decide

end SnippetLab.Console
