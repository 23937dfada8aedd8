import SnippetLab.Check.Bounds
import SnippetLab.Proofs.Statement.Names

/-!
# Arrays in a line

The search for accesses beyond the end of an array reads two things in a line: which array it gives
a length, and which accesses it holds.  Both are said here without the way they are found.

* `HasAccess` — an access with a number for an index stands in a text.
* `mem_accesses_iff` — **the accesses read are those that stand in the line.**
* `Assigns`, `GivesLength`, `Defines` — a line gives an array a length.
* `definition?_eq_some_iff` — **the definitions read are those lines.**
-/

namespace SnippetLab

open Text

/-! ## Searching for a character -/

namespace Text

variable {c : Char} {t left right : Text}

lemma dropStart?_singleton (c d : Char) (r : Text) :
    dropStart? (d :: r) [c] = if c = d then some r else none := by
  by_cases same : c = d <;> simp [dropStart?, List.isPrefixOf?, same]

/-- **A text is cut at the first place where the character stands.** -/
lemma cut_singleton_iff : cut [c] t = some (left, right) ↔ t = left ++ c :: right ∧ c ∉ left := by
  induction t generalizing left with
  | nil =>
      refine iff_of_false nofun ?_
      rintro ⟨whole, -⟩
      exact List.append_ne_nil_of_right_ne_nil left (List.cons_ne_nil c right) whole.symm
  | cons d r ih =>
      rw [cut, dropStart?_singleton]
      by_cases same : c = d
      · subst same
        rw [if_pos rfl]
        constructor
        · rintro ⟨⟩
          exact ⟨rfl, List.not_mem_nil⟩
        · rintro ⟨whole, first⟩
          cases left with
          | nil => exact congrArg (fun r => some ([], r)) (List.cons.inj whole).2
          | cons e left =>
              obtain ⟨rfl, -⟩ := List.cons.inj whole
              exact absurd (List.mem_cons_self ..) first
      · rw [if_neg same]
        simp only [Option.map_eq_some_iff]
        constructor
        · rintro ⟨⟨l, after⟩, found, ⟨⟩⟩
          obtain ⟨rfl, first⟩ := ih.1 found
          exact ⟨rfl, by simp [same, first]⟩
        · rintro ⟨whole, first⟩
          cases left with
          | nil => exact absurd (List.cons.inj whole).1.symm same
          | cons e left =>
              obtain ⟨rfl, rest⟩ := List.cons.inj whole
              exact ⟨(left, right), ih.2 ⟨rest, fun later => first (.tail _ later)⟩, rfl⟩

lemma mem_occurrencesFrom_singleton {before b a : Text} :
    ⟨b, [c], a⟩ ∈ occurrencesFrom [c] before 0 t ↔
      ∃ u, b = u.reverse ++ before ∧ t = u ++ c :: a := by
  induction t generalizing before with
  | nil =>
      refine iff_of_false nofun ?_
      rintro ⟨u, -, whole⟩
      exact List.append_ne_nil_of_right_ne_nil u (List.cons_ne_nil c a) whole.symm
  | cons d r ih =>
      have later : ⟨b, [c], a⟩ ∈ occurrencesFrom [c] (d :: before) 0 r ↔
          ∃ u, b = (d :: u).reverse ++ before ∧ d :: r = d :: u ++ c :: a := by
        rw [ih]
        simp
      have parts : (∃ u, b = u.reverse ++ before ∧ d :: r = u ++ c :: a) ↔
          (b = before ∧ c = d ∧ a = r) ∨
            ∃ u, b = (d :: u).reverse ++ before ∧ d :: r = d :: u ++ c :: a := by
        constructor
        · rintro ⟨u, near, whole⟩
          cases u with
          | nil => exact .inl ⟨near, (List.cons.inj whole).1.symm, (List.cons.inj whole).2.symm⟩
          | cons e u =>
              obtain ⟨rfl, -⟩ := List.cons.inj whole
              exact .inr ⟨u, near, whole⟩
        · rintro (⟨rfl, rfl, rfl⟩ | ⟨u, near, whole⟩)
          · exact ⟨[], rfl, rfl⟩
          · exact ⟨d :: u, near, whole⟩
      rw [parts, ← later, occurrencesFrom, dropStart?_singleton]
      by_cases same : c = d
      · simp [same]
      · simp [same]

/-- **A character occurs wherever it stands.** -/
lemma mem_occurrences_singleton {b a : Text} :
    ⟨b, [c], a⟩ ∈ occurrences [c] t ↔ t = b.reverse ++ c :: a := by
  rw [occurrences, mem_occurrencesFrom_singleton]
  constructor
  · rintro ⟨u, rfl, rfl⟩
    simp
  · rintro rfl
    exact ⟨b.reverse, by simp, rfl⟩

end Text

namespace Check

open Source

/-! ## Accesses -/

/-- **An access to an array at an index written as a number**: the array's name, which no word goes
on into, and the index in brackets behind it.  What stands in front does not end with `new`. -/
def HasAccess (t array : Text) (index : Nat) : Prop :=
  ∃ earlier digits rest : Text, t = earlier ++ (array ++ '[' :: (digits ++ ']' :: rest)) ∧
    isIdentifier array = true ∧ (∀ c ∈ earlier.getLast?, isWordChar c = false) ∧
    ¬['n', 'e', 'w'] <:+ earlier.trimEnd ∧ ']' ∉ digits ∧
    Decimal.digits? digits.trim = some index ∧ index < Decimal.wordBound

/-- The run of word characters in front of a place, and what is in front of the run. -/
lemma span_wordChars {earlier name : Text} (word : ∀ c ∈ name, isWordChar c = true)
    (apart : ∀ c ∈ earlier.getLast?, isWordChar c = false) :
    (name.reverse ++ earlier.reverse).takeWhile isWordChar = name.reverse ∧
      (name.reverse ++ earlier.reverse).dropWhile isWordChar = earlier.reverse := by
  have back : ∀ c ∈ name.reverse, isWordChar c = true := fun c mem =>
    word c (List.mem_reverse.1 mem)
  rw [List.takeWhile_append_of_pos back, List.dropWhile_append_of_pos back]
  rcases List.eq_nil_or_concat' earlier with rfl | ⟨r, c, rfl⟩
  · simp
  · have other := apart c (by simp)
    simp [other]

/-- What stands in front of a name, without the blanks, ends with a word if its characters from the
back on begin with the word from the back on. -/
lemma isSuffix_trimEnd_iff {u w : Text} :
    w <:+ u.trimEnd ↔ w.reverse <+: u.reverse.dropWhile isBlank := by
  rw [trimEnd, dropEndWhile, ← List.reverse_prefix, List.reverse_reverse]

/-- **An opening bracket belongs to an access** if a name stands in front of it and a number behind
it, up to a closing bracket. -/
lemma accessAt?_eq_some_iff {before after array : Text} {index : Nat} :
    accessAt? ⟨before, ['['], after⟩ = some (array, index) ↔
      ∃ earlier digits rest : Text,
        before = (earlier ++ array).reverse ∧ after = digits ++ ']' :: rest ∧
        isIdentifier array = true ∧ (∀ c ∈ earlier.getLast?, isWordChar c = false) ∧
        ¬['n', 'e', 'w'] <:+ earlier.trimEnd ∧ ']' ∉ digits ∧
        Decimal.digits? digits.trim = some index ∧ index < Decimal.wordBound := by
  constructor
  · intro found
    unfold accessAt? at found
    dsimp only at found
    split at found
    · cases found
    · rename_i named
      rw [Bool.or_eq_true, not_or, Bool.not_eq_true', Bool.not_eq_false, startsWith_iff] at named
      split at found
      · cases found
      · rename_i digits rest closes
        obtain ⟨n, number, ⟨⟩⟩ := Option.map_eq_some_iff.1 found
        obtain ⟨read, below⟩ := Option.filter_eq_some_iff.1 number
        have closes : cut [']'] after = some (digits, rest) := closes
        obtain ⟨whole, first⟩ := cut_singleton_iff.1 closes
        refine ⟨(before.dropWhile isWordChar).reverse, digits, rest, ?_, whole, named.1, ?_, ?_,
          first, read, by simpa using below⟩
        · rw [← List.reverse_append, List.takeWhile_append_dropWhile, List.reverse_reverse]
        · intro c last
          have stops := List.head?_dropWhile_not isWordChar before
          rw [List.getLast?_reverse] at last
          rw [last] at stops
          simpa using stops
        · rw [isSuffix_trimEnd_iff, List.reverse_reverse]
          exact named.2
  · rintro ⟨earlier, digits, rest, rfl, rfl, named, apart, new, first, read, below⟩
    obtain ⟨name, front⟩ := span_wordChars (isWordChar_of_isIdentifier named) apart
    have closes : cut "]" (digits ++ ']' :: rest) = some (digits, rest) :=
      cut_singleton_iff.2 ⟨rfl, first⟩
    rw [isSuffix_trimEnd_iff] at new
    have allowed : ¬(!isIdentifier array ||
        startsWith (earlier.reverse.dropWhile isBlank) "wen") = true := by
      rw [named, Bool.not_true, Bool.false_or, startsWith_iff]
      exact new
    unfold accessAt?
    dsimp only
    rw [List.reverse_append, name, front, List.reverse_reverse, if_neg allowed]
    rw [closes]
    simp [read, below]

/-- **The accesses read off a line are those that stand in it.** -/
theorem mem_accesses_iff {t array : Text} {index : Nat} :
    (array, index) ∈ accesses t ↔ HasAccess t array index := by
  unfold accesses
  rw [List.mem_filterMap]
  constructor
  · rintro ⟨⟨before, body, after⟩, found, read⟩
    obtain rfl : body = ['['] := body_of_mem_occurrences found
    obtain ⟨earlier, digits, rest, rfl, rfl, access⟩ := accessAt?_eq_some_iff.1 read
    have whole : t = _ := mem_occurrences_singleton.1 (show _ ∈ occurrences ['['] t from found)
    refine ⟨earlier, digits, rest, ?_, access⟩
    rw [whole, List.reverse_reverse, List.append_assoc]
  · rintro ⟨earlier, digits, rest, rfl, access⟩
    have whole : earlier ++ (array ++ '[' :: (digits ++ ']' :: rest)) =
        (earlier ++ array).reverse.reverse ++ '[' :: (digits ++ ']' :: rest) := by
      rw [List.reverse_reverse, List.append_assoc]
    exact ⟨⟨(earlier ++ array).reverse, ['['], digits ++ ']' :: rest⟩,
      mem_occurrences_singleton.2 whole,
      accessAt?_eq_some_iff.2 ⟨earlier, digits, rest, rfl, rfl, access⟩⟩

/-! ## Definitions -/

/-- A line without blanks around it and without the semicolons at its end. -/
def bodyOf (line : Text) : Text := trimEnd (line.trim.dropEndWhile (· == ';'))

/-- **A line assigns to a name**: the last piece in front of the assignment sign is the name,
perhaps with array brackets behind it. -/
def Assigns (line name right : Text) : Prop :=
  ∃ left declared, splitAssignment (bodyOf line) = some (left, right) ∧
    lastPiece? left = some declared ∧ withoutBrackets declared = name ∧ isIdentifier name = true

/-- The brackets around the items of an array. -/
def listBrackets : Language → Char × Char
  | .java => ('{', '}')
  | .python | .javaScript => ('[', ']')

/-- The items of a list that are not blank. -/
def itemsOf (items : Text) : List Text :=
  (splitTopLevel ',' (trim items)).filter fun item => !item.isAllBlank

/-- **A text says how long an array is**: after `new` the number in the first brackets, or all items
in the brackets of the language. -/
inductive GivesLength (language : Language) (length : Nat) : Text → Prop where
  | allocated {element size rest : Text} (first : '[' ∉ element) (closes : ']' ∉ size)
      (number : Decimal.word? (trim size) = some length) :
      GivesLength language length ("new " ++ (element ++ '[' :: (size ++ ']' :: rest)))
  | listed {items : Text} (count : (itemsOf items).length = length) :
      GivesLength language length
        ((listBrackets language).1 :: (items ++ [(listBrackets language).2]))

/-- **A line gives an array a length.** -/
def Defines (language : Language) (line array : Text) (length : Nat) : Prop :=
  ∃ right, Assigns line array right ∧ GivesLength language length (trim right)

section Definitions

variable {language : Language} {length : Nat}

/-- **The length in an allocation** is the number in the first brackets. -/
lemma allocatedLength?_eq_some_iff {afterNew : Text} :
    allocatedLength? afterNew = some length ↔ ∃ element size rest : Text,
      afterNew = element ++ '[' :: (size ++ ']' :: rest) ∧ '[' ∉ element ∧ ']' ∉ size ∧
        Decimal.word? (trim size) = some length := by
  constructor
  · intro found
    unfold allocatedLength? at found
    split at found
    · cases found
    · rename_i element behind opens
      obtain ⟨⟨size, rest⟩, closes, number⟩ := Option.bind_eq_some_iff.1 found
      have opens : cut ['['] afterNew = some (element, behind) := opens
      have closes : cut [']'] behind = some (size, rest) := closes
      obtain ⟨rfl, first⟩ := cut_singleton_iff.1 opens
      obtain ⟨rfl, last⟩ := cut_singleton_iff.1 closes
      exact ⟨element, size, rest, rfl, first, last, number⟩
  · rintro ⟨element, size, rest, rfl, first, last, number⟩
    have opens : cut "[" (element ++ '[' :: (size ++ ']' :: rest)) =
        some (element, size ++ ']' :: rest) := cut_singleton_iff.2 ⟨rfl, first⟩
    have closes : cut "]" (size ++ ']' :: rest) = some (size, rest) :=
      cut_singleton_iff.2 ⟨rfl, last⟩
    simp only [allocatedLength?, opens, closes, Option.bind_some, number]

/-- **The length of a list** is how many items it has. -/
lemma listedLength?_eq_some_iff {value : Text} :
    listedLength? language value = some length ↔ ∃ items : Text,
      value = (listBrackets language).1 :: (items ++ [(listBrackets language).2]) ∧
        (itemsOf items).length = length := by
  have found : listedLength? language value =
      ((value.dropStart? [(listBrackets language).1]).bind fun behind =>
        behind.dropEnd? [(listBrackets language).2]).map fun items => (itemsOf items).length := by
    have brackets : (if language = .java then (['{'], ['}']) else (['['], [']']) : Text × Text) =
        ([(listBrackets language).1], [(listBrackets language).2]) := by
      cases language <;> rfl
    unfold listedLength?
    simp only [brackets]
    cases (dropStart? value [(listBrackets language).1]).bind fun behind =>
      behind.dropEnd? [(listBrackets language).2] <;> rfl
  rw [found, Option.map_eq_some_iff]
  refine exists_congr fun items => and_congr_left fun _ => ?_
  rw [Option.bind_eq_some_iff]
  constructor
  · rintro ⟨behind, opens, closes⟩
    rw [← dropStart?_eq_some.1 opens, ← dropEnd?_eq_some.1 closes]
    rfl
  · rintro rfl
    exact ⟨items ++ [(listBrackets language).2], dropStart?_eq_some.2 rfl, dropEnd?_eq_some.2 rfl⟩

/-- The length on the right side of an assignment. -/
def givenLength? (language : Language) (value : Text) : Option Nat :=
  match value.dropStart? "new " with
  | some afterNew => allocatedLength? afterNew
  | none => listedLength? language value

/-- A list does not begin as an allocation does. -/
lemma dropStart?_list (items : Text) :
    dropStart? ((listBrackets language).1 :: items) "new " = none := by
  cases language <;> rfl

/-- **A text says how long an array is** exactly if a length is found in it. -/
lemma givenLength?_eq_some_iff {value : Text} :
    givenLength? language value = some length ↔ GivesLength language length value := by
  unfold givenLength?
  constructor
  · intro found
    split at found
    · rename_i afterNew begins
      obtain ⟨element, size, rest, rfl, first, last, number⟩ := allocatedLength?_eq_some_iff.1 found
      rw [← dropStart?_eq_some.1 begins]
      exact .allocated first last number
    · obtain ⟨items, rfl, count⟩ := listedLength?_eq_some_iff.1 found
      exact .listed count
  · rintro (⟨first, last, number⟩ | ⟨count⟩)
    · rw [dropStart?_eq_some.2 rfl]
      exact allocatedLength?_eq_some_iff.2 ⟨_, _, _, rfl, first, last, number⟩
    · rw [dropStart?_list]
      exact listedLength?_eq_some_iff.2 ⟨_, rfl, count⟩

lemma definition?_eq_bind (line : Text) :
    definition? language line = (splitAssignment (bodyOf line)).bind fun sides =>
      (lastPiece? sides.1).bind fun declared =>
        if isIdentifier (withoutBrackets declared) = true then
          (givenLength? language (trim sides.2)).map fun n => (withoutBrackets declared, n)
        else none := by
  have body : trimEnd (line.trim.dropEndWhile (· == ';')) = bodyOf line := rfl
  unfold definition?
  dsimp only
  rw [body]
  cases splitAssignment (bodyOf line) with
  | none => rfl
  | some sides =>
      cases last : lastPiece? sides.1 with
      | none => simp [last]
      | some declared =>
          simp only [last, Option.bind_some, givenLength?]
          cases isIdentifier (withoutBrackets declared) with
          | false => rfl
          | true => cases dropStart? (trim sides.2) "new " <;> rfl

/-- **The definitions read are the lines that give an array a length.** -/
theorem definition?_eq_some_iff {line array : Text} :
    definition? language line = some (array, length) ↔ Defines language line array length := by
  rw [definition?_eq_bind, Option.bind_eq_some_iff]
  constructor
  · rintro ⟨⟨left, right⟩, assigned, found⟩
    obtain ⟨declared, last, found⟩ := Option.bind_eq_some_iff.1 found
    split at found
    · rename_i named
      obtain ⟨n, given, ⟨⟩⟩ := Option.map_eq_some_iff.1 found
      exact ⟨right, ⟨left, declared, assigned, last, rfl, named⟩, givenLength?_eq_some_iff.1 given⟩
    · cases found
  · rintro ⟨right, ⟨left, declared, assigned, last, rfl, named⟩, gives⟩
    refine ⟨(left, right), assigned, Option.bind_eq_some_iff.2 ⟨declared, last, ?_⟩⟩
    rw [if_pos named, givenLength?_eq_some_iff.2 gives]
    rfl

end Definitions

end Check

end SnippetLab
