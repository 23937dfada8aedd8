import SnippetLab.Proofs.Check.LoopUpdates

/-!
# The words of a text and their places

A loop is judged by the words of its condition and of its body, and by what stands around them.  The
words are read off a text in one pass, each with what has been passed before it.  They can be found
by their places too: the separators are listed with the byte at which each begins and the bytes it
takes, the end of the text counts as one more, and what stands between two of them is cut out of the
text.  A text can only be cut between two characters, so **the places have to fit the characters,
however many bytes these take**.

* `IsLongest` — the stretches of characters of words that cannot be made longer.
* `cutAt` — a text is cut at a byte, or cannot be.
* `placedWords`, `around?` — the words found by their places, and what stands around them.
* `words_are_longest_stretches` — **the words are the longest stretches, in order, and what is seen
  around them is the text around them.**
-/

namespace SnippetLab.Check

open Source Text

/-! ## Longest stretches -/

/-- **A stretch of characters of words**: those from one place up to another, and at least one. -/
def IsStretch (t : Text) (i j : Nat) : Prop :=
  i < j ∧ ∀ k, i ≤ k → k < j → ∃ c ∈ t[k]?, isWordChar c = true

/-- **A stretch that is part of no longer one.** -/
def IsLongest (t : Text) (i j : Nat) : Prop :=
  IsStretch t i j ∧ ∀ i' j', i' ≤ i → j ≤ j' → IsStretch t i' j' → i' = i ∧ j' = j

section Stretches

variable {t earlier word later : Text} {i j : Nat}

/-- A stretch can be made longer by a character of words before it. -/
lemma IsStretch.cons (h : IsStretch t (i + 1) j) {c : Char} (before : t[i]? = some c)
    (held : isWordChar c = true) : IsStretch t i j := by
  refine ⟨Nat.lt_of_succ_lt h.1, fun k from_ upTo => ?_⟩
  rcases Nat.eq_or_lt_of_le from_ with rfl | later
  · exact ⟨c, before, held⟩
  · exact h.2 k later upTo

/-- A stretch can be made longer by a character of words behind it. -/
lemma IsStretch.concat (h : IsStretch t i j) {c : Char} (behind : t[j]? = some c)
    (held : isWordChar c = true) : IsStretch t i (j + 1) := by
  refine ⟨Nat.lt_succ_of_lt h.1, fun k from_ upTo => ?_⟩
  rcases Nat.eq_or_lt_of_le (Nat.le_of_lt_succ upTo) with rfl | earlier
  · exact ⟨c, behind, held⟩
  · exact h.2 k from_ earlier

/-- What stands in a stretch are characters of words. -/
lemma isWordChar_of_mem_stretch (h : IsStretch t i j) {c : Char}
    (mem : c ∈ (t.drop i).take (j - i)) : isWordChar c = true := by
  obtain ⟨n, at_⟩ := List.mem_iff_getElem?.1 mem
  have short := (List.getElem?_eq_some_iff.1 at_).1
  rw [List.length_take] at short
  rw [List.getElem?_take_of_lt (by omega), List.getElem?_drop] at at_
  obtain ⟨d, there, held⟩ := h.2 (i + n) (Nat.le_add_right i n) (by omega)
  cases at_.symm.trans there
  exact held

/-- A stretch ends in the text. -/
lemma IsStretch.le_length (h : IsStretch t i j) : j ≤ t.length := by
  have order := h.1
  obtain ⟨c, last, -⟩ := h.2 (j - 1) (by omega) (by omega)
  have bound := (List.getElem?_eq_some_iff.1 last).1
  omega

/-- **A longest stretch is a word**: else the character next to it would make it longer. -/
lemma IsLongest.wordAt (h : IsLongest t i j) :
    WordAt t (t.take i) ((t.drop i).take (j - i)) (t.drop j) := by
  obtain ⟨stretch, longest⟩ := h
  have order := stretch.1
  have inside := stretch.le_length
  constructor
  · have rest : (t.drop i).drop (j - i) = t.drop j := by
      rw [List.drop_drop, Nat.add_sub_cancel' order.le]
    rw [← rest, List.take_append_drop, List.take_append_drop]
  · rw [Ne, ← List.length_eq_zero_iff, List.length_take, List.length_drop]
    omega
  · exact fun c mem => isWordChar_of_mem_stretch stretch mem
  · intro c last
    by_contra held
    cases i with
    | zero => cases last
    | succ i =>
        rw [Option.mem_def, List.getLast?_take] at last
        have within : i < t.length := by omega
        have before : t[i]? = some c := by simpa [within] using last
        exact absurd (longest i j i.le_succ le_rfl
          (stretch.cons before (by simpa using held))).1 (Nat.ne_of_lt i.lt_succ_self)
  · intro c first
    by_contra held
    have behind : t[j]? = some c := by simpa using first
    exact absurd (longest i (j + 1) le_rfl j.le_succ
      (stretch.concat behind (by simpa using held))).2 (Nat.succ_ne_self j)

/-- **A word is a longest stretch**: a longer one would hold a character that stands next to it. -/
lemma WordAt.isLongest (h : WordAt t earlier word later) :
    IsLongest t earlier.length (earlier.length + word.length) := by
  obtain ⟨rfl, nonempty, held, begins, ends⟩ := h
  have longer := List.length_pos_iff.2 nonempty
  refine ⟨⟨by omega, fun k from_ upTo => ?_⟩, fun i j before behind stretch => ⟨?_, ?_⟩⟩
  · have there : (earlier ++ (word ++ later))[k]? = word[k - earlier.length]? := by
      rw [List.getElem?_append_right from_, List.getElem?_append_left (by omega)]
    have inside : k - earlier.length < word.length := by omega
    exact ⟨_, there.trans (List.getElem?_eq_getElem inside), held _ (List.getElem_mem inside)⟩
  · by_contra other
    obtain ⟨c, there, held⟩ := stretch.2 (earlier.length - 1) (by omega) (by omega)
    rw [Option.mem_def, List.getElem?_append_left (by omega), ← List.getLast?_eq_getElem?] at there
    rw [begins c there] at held
    cases held
  · by_contra other
    obtain ⟨c, there, held⟩ := stretch.2 (earlier.length + word.length) (by omega) (by omega)
    rw [Option.mem_def, List.getElem?_append_right (by omega),
      List.getElem?_append_right (by omega)] at there
    have first : later.head? = some c := by
      rw [List.head?_eq_getElem?, ← there]
      congr 1
      omega
    rw [ends c first] at held
    cases held

/-- **The words of a text are its longest stretches.** -/
lemma isLongest_iff_mem_words : IsLongest t i j ↔
    ∃ s ∈ words t, s.offset = i ∧ s.offset + s.body.length = j := by
  constructor
  · intro longest
    have order := longest.1.1
    have inside := longest.1.le_length
    refine ⟨⟨(t.take i).reverse, (t.drop i).take (j - i), t.drop j⟩, mem_words_iff.2 ?_, ?_, ?_⟩
    · rw [List.reverse_reverse]
      exact longest.wordAt
    · simp only [Span.offset, List.length_reverse, List.length_take]
      omega
    · simp only [Span.offset, List.length_reverse, List.length_take, List.length_drop]
      omega
  · rintro ⟨⟨before, word, after⟩, found, rfl, rfl⟩
    have longest := (mem_words_iff.1 found).isLongest
    rwa [List.length_reverse] at longest

/-- **The runs of a text come in order**, with something between each and the next. -/
lemma pairwise_runsFrom (p : Char → Bool) (before run t : Text) :
    (runsFrom p before run t).Pairwise (fun s s' => s.offset + s.body.length < s'.offset) ∧
      ∀ s ∈ runsFrom p before run t, before.length ≤ s.offset := by
  induction t generalizing before run with
  | nil =>
      rw [runsFrom]
      split
      · exact ⟨.nil, by simp⟩
      · exact ⟨List.pairwise_singleton _ _, by simp [Span.offset]⟩
  | cons c r ih =>
      rw [runsFrom]
      split
      · exact ih before (c :: run)
      · split
        · obtain ⟨ordered, behind⟩ := ih (c :: before) []
          exact ⟨ordered, fun s found => Nat.le_of_succ_le (behind s found)⟩
        · obtain ⟨ordered, behind⟩ := ih (c :: (run ++ before)) []
          simp only [List.length_cons, List.length_append] at behind
          refine ⟨List.pairwise_cons.2 ⟨fun s found => ?_, ordered⟩, fun s found => ?_⟩
          · have further := behind s found
            simp only [Span.offset, List.length_reverse]
            exact Nat.lt_of_lt_of_le (by omega) further
          · rcases List.mem_cons.1 found with rfl | later
            · exact Nat.le_refl _
            · have further := behind s later
              omega

end Stretches

/-! ## Places -/

/-- How many bytes a text takes. -/
def byteLength (t : Text) : Nat := (t.map Char.utf8Size).sum

/-- **Cut a text at a byte**; nothing if the byte is inside a character or behind the end. -/
def cutAt : Nat → Text → Option (Text × Text)
  | 0, t => some ([], t)
  | _ + 1, [] => none
  | n + 1, c :: r =>
    if c.utf8Size ≤ n + 1 then
      (cutAt (n + 1 - c.utf8Size) r).map fun (left, right) => (c :: left, right)
    else none

/-- The part of a text from one byte up to another. -/
def slice? (t : Text) (start stop : Nat) : Option Text :=
  if start ≤ stop then
    (cutAt start t).bind fun (_, rest) => (cutAt (stop - start) rest).map Prod.fst
  else none

/-- The characters of a text, each with the byte it begins at. -/
def placesFrom (start : Nat) : Text → List (Nat × Char)
  | [] => []
  | c :: r => (start, c) :: placesFrom (start + c.utf8Size) r

/-- **The separators of a text**: where each begins, and how many bytes it takes.  The end of the
text is one that takes none. -/
def separatorsFrom (start : Nat) (t : Text) : List (Nat × Nat) :=
  ((placesFrom start t).filter fun (_, c) => !isWordChar c).map
    (fun (place, c) => (place, c.utf8Size)) ++ [(start + byteLength t, 0)]

/-- What stands between separators, each part with the byte it begins at. -/
def betweenSeparators (t : Text) (start : Nat) : List (Nat × Nat) → Option (List (Nat × Text))
  | [] => some []
  | (stop, width) :: rest =>
    (slice? t start stop).bind fun part =>
      (betweenSeparators t (stop + width) rest).map fun parts => (start, part) :: parts

/-- **The words of a text, found by their places.** -/
def placedWords (t : Text) : Option (List (Nat × Text)) :=
  (betweenSeparators t 0 (separatorsFrom 0 t)).map fun parts =>
    parts.filter fun part => !part.2.isEmpty

/-- What stands in a text before and behind a word with a place. -/
def around? (t : Text) (word : Nat × Text) : Option Span :=
  (cutAt word.1 t).bind fun (before, _) =>
    (cutAt (word.1 + byteLength word.2) t).map fun (_, after) => ⟨before.reverse, word.2, after⟩

section Places

variable {t left right passed run : Text} {n : Nat}

@[simp] lemma byteLength_nil : byteLength [] = 0 := rfl

@[simp] lemma byteLength_cons (c : Char) (t : Text) :
    byteLength (c :: t) = c.utf8Size + byteLength t := by simp [byteLength]

@[simp] lemma byteLength_append (t u : Text) :
    byteLength (t ++ u) = byteLength t + byteLength u := by simp [byteLength]

@[simp] lemma byteLength_reverse (t : Text) : byteLength t.reverse = byteLength t := by
  simp [byteLength, List.sum_reverse]

lemma cutAt_append (left right : Text) :
    cutAt (byteLength left) (left ++ right) = some (left, right) := by
  induction left with
  | nil => rw [byteLength_nil, List.nil_append, cutAt]
  | cons c left ih =>
      have width := c.utf8Size_pos
      obtain ⟨n, size⟩ : ∃ n, c.utf8Size + byteLength left = n + 1 :=
        Nat.exists_eq_succ_of_ne_zero (by omega)
      have behind : n + 1 - c.utf8Size = byteLength left := by omega
      rw [byteLength_cons, size, List.cons_append, cutAt, if_pos (by omega), behind, ih]
      rfl

lemma of_cutAt_eq_some (h : cutAt n t = some (left, right)) :
    t = left ++ right ∧ byteLength left = n := by
  fun_induction cutAt n t generalizing left with
  | case1 t =>
      cases h
      exact ⟨rfl, rfl⟩
  | case2 => cases h
  | case3 n c r fits ih =>
      obtain ⟨⟨l, rest⟩, found, ⟨⟩⟩ := Option.map_eq_some_iff.1 h
      obtain ⟨rfl, long⟩ := ih found
      refine ⟨rfl, ?_⟩
      rw [byteLength_cons, long]
      omega
  | case4 => cases h

/-- **A text can be cut where one of its beginnings ends**, and nowhere else. -/
lemma cutAt_eq_some_iff :
    cutAt n t = some (left, right) ↔ t = left ++ right ∧ byteLength left = n := by
  refine ⟨of_cutAt_eq_some, ?_⟩
  rintro ⟨rfl, rfl⟩
  exact cutAt_append left right

/-- A part is cut out by the bytes before it and its own. -/
lemma slice?_append (passed run rest : Text) :
    slice? (passed ++ (run ++ rest)) (byteLength passed) (byteLength passed + byteLength run) =
      some run := by
  simp only [slice?, Nat.le_add_right, if_true, cutAt_append, Option.bind_some,
    Nat.add_sub_cancel_left, Option.map_some]

lemma separatorsFrom_cons (start : Nat) (c : Char) (r : Text) :
    separatorsFrom start (c :: r) =
      if isWordChar c then separatorsFrom (start + c.utf8Size) r
      else (start, c.utf8Size) :: separatorsFrom (start + c.utf8Size) r := by
  unfold separatorsFrom
  rw [placesFrom, byteLength_cons, ← Nat.add_assoc]
  split
  · rename_i held
    rw [List.filter_cons_of_neg (by simp [held])]
  · rename_i other
    rw [List.filter_cons_of_pos (by simp [other])]
    rfl

/-- **What stands between the separators, but for empty parts, are the runs.** -/
lemma betweenSeparators_eq (passed run rest : Text) :
    (betweenSeparators (passed ++ (run ++ rest)) (byteLength passed)
        (separatorsFrom (byteLength passed + byteLength run) rest)).map
      (fun parts => parts.filter fun part => !part.2.isEmpty) =
    some ((runsFrom isWordChar passed.reverse run.reverse rest).map fun s =>
      (byteLength s.before, s.body)) := by
  induction rest generalizing passed run with
  | nil =>
      have cut := slice?_append passed run []
      simp only [separatorsFrom, placesFrom, List.filter_nil, List.map_nil, List.nil_append,
        byteLength_nil, Nat.add_zero, betweenSeparators, cut, Option.bind_some, Option.map_some,
        runsFrom, List.isEmpty_reverse]
      cases run <;> simp
  | cons c r ih =>
      rw [separatorsFrom_cons, runsFrom]
      split
      · -- the run goes on
        have longer := ih passed (run ++ [c])
        simpa [Nat.add_assoc] using longer
      · -- the run ends, and behind the separator another begins
        have further := ih (passed ++ (run ++ [c])) []
        simp only [byteLength_append, byteLength_cons, byteLength_nil, Nat.add_zero,
          List.append_assoc, List.nil_append, List.singleton_append, List.reverse_append,
          List.reverse_cons, List.reverse_nil, ← Nat.add_assoc] at further
        rw [betweenSeparators, slice?_append, Option.bind_some, Option.map_map, List.isEmpty_reverse]
        obtain ⟨parts, later, filtered⟩ := Option.map_eq_some_iff.1 further
        rw [later]
        cases run <;> simp [filtered]

/-- **The words found by their places are the words of the text.** -/
lemma placedWords_eq (t : Text) :
    placedWords t = some ((words t).map fun s => (byteLength s.before, s.body)) := by
  have found := betweenSeparators_eq [] [] t
  simpa [placedWords, words, runs] using found

/-- **What is cut off before and behind a word is what it was read with.** -/
lemma around?_of_mem_words {s : Span} (found : s ∈ words t) :
    around? t (byteLength s.before, s.body) = some s := by
  obtain ⟨before, word, after⟩ := s
  have whole := (mem_words_iff.1 found).whole
  have start : cutAt (byteLength before) t = some (before.reverse, word ++ after) :=
    cutAt_eq_some_iff.2 ⟨whole, byteLength_reverse before⟩
  have stop : cutAt (byteLength before + byteLength word) t =
      some (before.reverse ++ word, after) :=
    cutAt_eq_some_iff.2 ⟨by rw [whole, List.append_assoc], by simp⟩
  simp only [around?, start, stop, Option.bind_some, Option.map_some, List.reverse_reverse]

/-- **The words of a text are its longest stretches of characters of words, in order, each with the
text around it.**  They are found at the same places if they are cut out between separators, and no
cut fails; and what is judged by the words of a text is judged by what stands before and behind them
in it. -/
theorem words_are_longest_stretches (t : Text) :
    (∀ i j, IsLongest t i j ↔ ∃ s ∈ words t, s.offset = i ∧ s.offset + s.body.length = j) ∧
    (words t).Pairwise (fun s s' => s.offset + s.body.length < s'.offset) ∧
    (∃ found, placedWords t = some found ∧
      found = (words t).map (fun s => (byteLength s.before, s.body)) ∧
      found.map (around? t) = (words t).map some) ∧
    (∀ name, name ∈ conditionVariables t ↔ Tests t name) ∧
    (hasCall t = true ↔ Calls t) ∧
    ∀ name, isMutated t name = true ↔ Updates seenOperators t name ∨ UsesMember t name := by
  refine ⟨fun i j => isLongest_iff_mem_words, (pairwise_runsFrom isWordChar [] [] t).1,
    ⟨_, placedWords_eq t, rfl, ?_⟩, fun name => mem_conditionVariables_iff, hasCall_iff,
    fun name => isMutated_iff⟩
  rw [List.map_map]
  exact List.map_congr_left fun s found => around?_of_mem_words found

/-- Letters of several bytes, and words at both ends. -/
example : placedWords "é=größe(ñ_1" =
    some [(0, ['é']), (3, "größe".toList), (11, "ñ_1".toList)] := by
  decide +kernel

end Places

end SnippetLab.Check
