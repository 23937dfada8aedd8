import SnippetLab.Proofs.Check.Bounds
import SnippetLab.Proofs.Source.Splitting
import SnippetLab.Proofs.Text.Runs

/-!
# No access beyond the end is missed

An array that is given a length in so many words, by an allocation or by a list of its items, has
that length for the search, and an access beyond it is reported unless one above it is.  **The
definition is read off the line as it stands**: what is behind an allocation does not matter, but a
list has to be the last thing on its line, and a comment behind it hides it.

* `Declares`, `IsDefinition` — how the definition of an array is written.
* `IsDefinition.defines` — **such a line gives the array its length.**
* `overrun_reported` — **an access beyond that length is reported, or one above it.**
* `overrun_behind_remarked_list` — the comment that hides a list.
-/

namespace SnippetLab

open Text

namespace Check

open Source

/-! ## How a definition is written -/

/-- The brackets behind the name of an array. -/
def arrayBrackets (n : Nat) : Text := (List.replicate n ("[]" : Text)).flatten

/-- **A text declares an array**: its name stands last, perhaps with array brackets behind it, and
what stands in front of it ends with a blank. -/
structure Declares (left array : Text) : Prop where
  parts : ∃ (front : Text) (n : Nat) (blanks : Text),
    left = front ++ (array ++ (arrayBrackets n ++ blanks)) ∧
      (∀ c ∈ front.getLast?, isBlank c = true) ∧ blanks.isAllBlank = true
  plain : ∀ c ∈ left, isQuote c = false ∧ c ≠ '='

/-- **A line is written as the definition of an array**: an allocation, with anything behind it, or
a list of items, with blanks and semicolons behind it. -/
inductive IsDefinition (language : Language) (array : Text) (length : Nat) : Text → Prop where
  | allocation {left blanks element size rest : Text} (declares : Declares left array)
      (blank : blanks.isAllBlank = true) (first : '[' ∉ element) (closes : ']' ∉ size)
      (number : Decimal.word? size.trim = some length) :
      IsDefinition language array length
        (left ++ '=' :: (blanks ++ ("new " ++ (element ++ '[' :: (size ++ ']' :: rest)))))
  | list {left blanks near far : Text} {items : List Text} {semicolons : Nat}
      (declares : Declares left array) (blank : blanks.isAllBlank = true)
      (whole : ∀ item ∈ items, Whole ',' .outside 0 item)
      (count : (items.filter fun item => !item.isAllBlank).length = length)
      (blankNear : near.isAllBlank = true) (blankFar : far.isAllBlank = true) :
      IsDefinition language array length
        (left ++ '=' :: (blanks ++ (listBrackets language).1 :: (Text.join "," items ++
          (listBrackets language).2 :: (near ++ (List.replicate semicolons ';' ++ far)))))

section Declarations

variable {left array : Text}

lemma mem_arrayBrackets {n : Nat} {c : Char} (h : c ∈ arrayBrackets n) : c = '[' ∨ c = ']' := by
  obtain ⟨pair, listed, inside⟩ := List.mem_flatten.1 h
  rw [List.eq_of_mem_replicate listed] at inside
  simpa using inside

lemma withoutBrackets_append (named : isIdentifier array = true) (n : Nat) :
    withoutBrackets (array ++ arrayBrackets n) = array := by
  induction n with
  | zero =>
      rw [arrayBrackets, List.replicate_zero, List.flatten_nil, List.append_nil]
      exact withoutBrackets_of_isIdentifier named
  | succ n ih =>
      rw [arrayBrackets, List.replicate_succ', List.flatten_concat, ← List.append_assoc,
        withoutBrackets_array, ← arrayBrackets, ih]

/-- A declaration without the blanks in front of it is one, and begins with a solid character. -/
lemma Declares.exists_indent (h : Declares left array) (named : isIdentifier array = true) :
    ∃ indent declaration, left = indent ++ declaration ∧ indent.isAllBlank = true ∧
      Declares declaration array ∧ ∃ c r, declaration = c :: r ∧ isBlank c = false := by
  obtain ⟨⟨front, n, blanks, rfl, ends, blank⟩, plain⟩ := h
  obtain ⟨indent, indented, whole⟩ := exists_blanks_trimStart front
  refine ⟨indent, front.trimStart ++ (array ++ (arrayBrackets n ++ blanks)), ?_, indented,
    ⟨⟨_, n, blanks, rfl, ?_, blank⟩, ?_⟩, ?_⟩
  · rw [← List.append_assoc indent, ← whole]
  · intro c last
    refine ends c ?_
    rw [whole, List.getLast?_append, last]
    rfl
  · intro c inside
    refine plain c ?_
    rw [whole, List.append_assoc]
    exact List.mem_append_right indent inside
  · rcases trimStart_eq_nil_or_cons front with none | ⟨c, r, begun, solid⟩
    · obtain ⟨c, r, rfl, solid⟩ := (solid_of_isIdentifier named).first
      exact ⟨c, _, by rw [none]; rfl, solid⟩
    · exact ⟨c, _, by rw [begun]; rfl, solid⟩

/-- **The name of the array is the last piece of what declares it.** -/
lemma Declares.lastPiece? (h : Declares left array) (named : isIdentifier array = true) :
    ∃ declared, lastPiece? left = some declared ∧ withoutBrackets declared = array := by
  obtain ⟨⟨front, n, blanks, rfl, ends, blank⟩, -⟩ := h
  refine ⟨array ++ arrayBrackets n, ?_, withoutBrackets_append named n⟩
  have nonempty : array ++ arrayBrackets n ≠ [] :=
    List.append_ne_nil_of_left_ne_nil (ne_nil_of_isIdentifier named) _
  rw [← List.append_assoc array]
  refine getLast?_runs nonempty ?_ ?_ ?_
  · intro c inside
    rw [Bool.not_eq_true']
    rcases List.mem_append.1 inside with word | bracket
    · exact isBlank_of_isWordChar (isWordChar_of_isIdentifier named c word)
    · rcases mem_arrayBrackets bracket with rfl | rfl <;> decide
  · exact fun c last => by simp [ends c last]
  · exact fun c inside => by simp [List.all_eq_true.1 blank c inside]

/-- The sign behind a declaration is that of an assignment. -/
lemma Declares.splitAssignment (h : Declares left array) (named : isIdentifier array = true)
    {right : Text} (after : right.head? ≠ some '=') :
    splitAssignment (left ++ '=' :: right) = some (left, right) := by
  refine splitAssignment_plain h.plain ?_ after
  obtain ⟨⟨front, n, blanks, rfl, -, blank⟩, -⟩ := h
  -- the last character belongs to what stands from the name on
  have nonempty : array ++ (arrayBrackets n ++ blanks) ≠ [] :=
    List.append_ne_nil_of_left_ne_nil (ne_nil_of_isIdentifier named) _
  rw [List.getLast?_append_of_ne_nil front nonempty]
  intro c last
  rcases List.mem_append.1 (List.mem_of_getLast? last) with word | behind
  · exact isInert_of_isWordChar (isWordChar_of_isIdentifier named c word)
  · rcases List.mem_append.1 behind with bracket | empty
    · rcases mem_arrayBrackets bracket with rfl | rfl <;> decide
    · exact isInert_of_isBlank (List.all_eq_true.1 blank c empty)

end Declarations

section Definitions

variable {language : Language} {left array line : Text} {length : Nat}

/-- What the body of a line loses at its end: blanks, semicolons, and blanks in front of those. -/
lemma bodyOf_append {indent : Text} (indented : indent.isAllBlank = true) {c d : Char}
    (first : isBlank c = false) (last : isBlank d = false) (other : d ≠ ';') (middle rest : Text) :
    bodyOf (indent ++ c :: (middle ++ d :: rest)) =
      c :: (middle ++ d :: trimEnd (rest.trimEnd.dropEndWhile (· == ';'))) := by
  have dropped : dropEndWhile (c :: middle ++ d :: rest.trimEnd) (· == ';') =
      c :: middle ++ d :: dropEndWhile rest.trimEnd (· == ';') :=
    dropEndWhile_append_cons (p := (· == ';')) (beq_false_of_ne other) ..
  rw [bodyOf, trim_append_cons indented first last, ← List.cons_append, dropped]
  exact dropEndWhile_append_cons last ..

/-- Of blanks and semicolons nothing is left. -/
lemma trimEnd_semicolons {near far : Text} (blankNear : near.isAllBlank = true)
    (blankFar : far.isAllBlank = true) (n : Nat) :
    trimEnd ((trimEnd (near ++ (List.replicate n ';' ++ far))).dropEndWhile (· == ';')) = [] := by
  refine trimEnd_eq_nil ?_
  cases n with
  | zero =>
      have none : trimEnd (near ++ far) = [] :=
        trimEnd_eq_nil (by rw [isAllBlank, List.all_append, ← isAllBlank, blankNear]; exact blankFar)
      rw [List.replicate_zero, List.nil_append, none]
      rfl
  | succ n =>
      have trimmed : trimEnd (near ++ (List.replicate (n + 1) ';' ++ far)) =
          near ++ List.replicate (n + 1) ';' := by
        have last := dropEndWhile_append_cons (p := isBlank) (d := ';') (by decide)
          (near ++ List.replicate n ';') far
        rw [← trimEnd, ← trimEnd, trimEnd_eq_nil blankFar] at last
        simpa [List.replicate_succ'] using last
      have dropped : dropEndWhile (near ++ List.replicate (n + 1) ';') (· == ';') =
          dropEndWhile near (· == ';') := by
        rw [dropEndWhile, List.reverse_append, List.reverse_replicate,
          List.dropWhile_append_of_pos (by simp +contextual [List.mem_replicate])]
        rfl
      rw [trimmed, dropped, isAllBlank, List.all_eq_true]
      exact fun c inside =>
        List.all_eq_true.1 blankNear c ((dropEndWhile_isPrefix near _).subset inside)

/-- A blank in front of something else is no second sign. -/
lemma head?_ne_sign {blanks : Text} (blank : blanks.isAllBlank = true) {c : Char} (other : c ≠ '=')
    (rest : Text) : (blanks ++ c :: rest).head? ≠ some '=' := by
  cases blanks with
  | nil => simpa using other
  | cons b blanks =>
      rintro ⟨⟩
      exact absurd (List.all_eq_true.1 blank '=' List.mem_cons_self) (by decide)

lemma listBrackets_solid (language : Language) : isBlank (listBrackets language).1 = false ∧
    (listBrackets language).1 ≠ '=' ∧ isBlank (listBrackets language).2 = false ∧
      (listBrackets language).2 ≠ ';' := by
  cases language <;> decide

/-- **The items that are counted are those that were written**, without the blank ones. -/
lemma length_itemsOf_join {items : List Text} (whole : ∀ item ∈ items, Whole ',' .outside 0 item) :
    (itemsOf (Text.join "," items)).length = (items.filter fun item => !item.isAllBlank).length := by
  have counted (pieces : List Text) : (pieces.filter fun item => !item.isAllBlank).length =
      ((pieces.map isAllBlank).filter (!·)).length := by
    rw [List.filter_map, List.length_map]
    rfl
  rw [itemsOf, counted, map_isAllBlank_splitTopLevel_trim (by decide), ← counted]
  cases items with
  | nil => rfl
  | cons item items =>
      rw [show Text.join "," (item :: items) = Text.join [','] (item :: items) from rfl,
        splitTopLevel_join (by decide) (List.cons_ne_nil item items) whole]

/-- A line whose body assigns a length to what is declared defines it. -/
lemma Declares.defines (declares : Declares left array) (named : isIdentifier array = true)
    {blanks rest : Text} {c : Char}
    (body : bodyOf line = left ++ '=' :: (blanks ++ c :: rest)) (blank : blanks.isAllBlank = true)
    (other : c ≠ '=') (gives : GivesLength language length (trim (blanks ++ c :: rest))) :
    Defines language line array length := by
  obtain ⟨declared, last, name⟩ := declares.lastPiece? named
  refine ⟨_, ⟨left, declared, ?_, last, name, named⟩, gives⟩
  rw [body]
  exact declares.splitAssignment named (head?_ne_sign blank other rest)

/-- **A line that is written as a definition gives the array its length.** -/
theorem IsDefinition.defines (h : IsDefinition language array length line)
    (named : isIdentifier array = true) : Defines language line array length := by
  cases h with
  | allocation declares blank first closes number =>
      rename_i left blanks element size rest
      obtain ⟨indent, declaration, rfl, indented, declares, c, r, rfl, solid⟩ :=
        declares.exists_indent named
      have body := bodyOf_append indented solid (d := ']') (by decide) (by decide)
        (r ++ '=' :: (blanks ++ ("new " ++ (element ++ '[' :: size)))) rest
      simp only [List.append_assoc, List.cons_append] at body ⊢
      refine declares.defines named body blank (by decide) ?_
      have trimmed := trim_append_cons blank (c := 'n') (d := ']') (by decide) (by decide)
        ("ew " ++ (element ++ '[' :: size))
      simp only [List.append_assoc, List.cons_append] at trimmed
      exact (trimmed _).symm ▸ .allocated first closes number
  | list declares blank whole count blankNear blankFar =>
      rename_i left blanks near far items semicolons
      obtain ⟨indent, declaration, rfl, indented, declares, c, r, rfl, solid⟩ :=
        declares.exists_indent named
      obtain ⟨opens, sign, closes, other⟩ := listBrackets_solid language
      have body := bodyOf_append indented solid closes other
        (r ++ '=' :: (blanks ++ (listBrackets language).1 :: Text.join "," items))
        (near ++ (List.replicate semicolons ';' ++ far))
      rw [trimEnd_semicolons blankNear blankFar] at body
      simp only [List.append_assoc, List.cons_append] at body ⊢
      refine declares.defines named body blank sign ?_
      rw [trim_append_cons blank opens closes]
      exact .listed ((length_itemsOf_join whole).trans count)

end Definitions

/-! ## Reports -/

section Reports

variable {language : Language} {array : Text} {index length : Nat} {lengths : NameTable Nat}
  {row : Row} {rows : List Row} {k : Nat}

/-- An access beyond a known length makes its line one that is reported. -/
lemma exists_overrunAt? (known : lengths.get? array = some length)
    (access : HasAccess row.stripped array index) (beyond : length ≤ index) :
    ∃ o, overrunAt? lengths row = some o := by
  cases found : overrunAt? lengths row with
  | some o => exact ⟨o, rfl⟩
  | none =>
      have passed := List.findSome?_eq_none_iff.1 found _ (mem_accesses_iff.2 access)
      simp only [known, Option.bind_some, if_pos beyond] at passed
      cases passed

/-- A line to report is reported, unless one above it is. -/
lemma exists_overrunFrom?_le {o : Overrun} (at_ : rows[k]? = some row)
    (found : overrunAt? (learn language lengths ((rows.take k).map Row.text)) row = some o) :
    ∃ j ≤ k, ∃ other ∈ rows[j]?, ∃ o' : Overrun, o'.line = other.number ∧
      overrunFrom? language lengths rows = some o' := by
  induction rows generalizing k lengths with
  | nil => cases at_
  | cons first rest ih =>
      rw [overrunFrom?_cons]
      cases here : overrunAt? lengths first with
      | some o' => exact ⟨0, k.zero_le, first, rfl, o', (overrunAt?_eq_some here).1, rfl⟩
      | none =>
          cases k with
          | zero =>
              cases at_
              cases here.symm.trans found
          | succ k =>
              obtain ⟨j, above, other, there, o', line, reported⟩ := ih at_ found
              exact ⟨j + 1, Nat.succ_le_succ above, other, there, o', line, reported⟩

end Reports

/-- **No access beyond the end is missed.**  If a line is written as the definition of an array, a
line below it holds an access at an index not below the array's length, and no line between them
gives the array a length, then an access in that line or above it is reported. -/
theorem overrun_reported {language : Language} {code array : Text} {length index d l : Nat}
    {row : Row} (defined : ∃ line ∈ code.lines[d]?, IsDefinition language array length line)
    (below : d < l) (at_ : (Program.ofCode language code).rows[l]? = some row)
    (access : HasAccess row.stripped array index) (beyond : length ≤ index)
    (kept : ∀ j, d < j → j < l → ∀ line ∈ code.lines[j]?, ∀ n,
      ¬Defines language line array n) :
    ∃ o, overrun? (Program.ofCode language code) = some o ∧ o.line ≤ l + 1 := by
  have named : isIdentifier array = true := by
    obtain ⟨-, -, -, -, named, -⟩ := access
    exact named
  have last : LastDefines language (code.lines.take l) array length := by
    obtain ⟨line, there, written⟩ := defined
    refine ⟨d, ⟨line, ?_, written.defines named⟩, fun j after other there n => ?_⟩
    · rw [List.getElem?_take_of_lt below]
      exact there
    · have inside := (List.getElem?_eq_some_iff.1 there).1
      have before : j < l := by
        rw [List.length_take] at inside
        omega
      rw [List.getElem?_take_of_lt before] at there
      exact kept j after before other there n
  have known := get?_learn_eq_some_iff.2 last
  rw [← Program.map_text_ofCode language code, ← List.map_take] at known
  obtain ⟨_, found⟩ := exists_overrunAt? known access beyond
  obtain ⟨j, above, other, there, o, line, reported⟩ := exists_overrunFrom?_le at_ found
  refine ⟨o, reported, ?_⟩
  rw [line, number_of_getElem? there]
  exact Nat.succ_le_succ above

/-- A list in a list is one item, a comma in a literal parts nothing, and a blank is no item. -/
theorem overrun_reported_of_nested_list :
    let code : Text := "let xs = [[1, 2], 'a,b', ];\nf(xs[1]);\ng(xs[2]);"
    ∃ o, overrun? (Program.ofCode .javaScript code) = some o ∧ o.line ≤ 3 := by
  intro code
  obtain ⟨row, at_⟩ : ∃ row, (Program.ofCode .javaScript code).rows[2]? = some row := ⟨_, rfl⟩
  have declares : Declares "let xs " "xs" :=
    ⟨⟨"let ", 0, " ", by decide, by rintro _ ⟨⟩; decide, by decide⟩, by simp [isQuote]⟩
  have written : IsDefinition .javaScript "xs" 2 "let xs = [[1, 2], 'a,b', ];" :=
    @IsDefinition.list _ _ _ _ " " [] [] ["[1, 2]", " 'a,b'", " "] 1
      declares (by decide) (by decide) (by decide) rfl rfl
  have access : HasAccess row.stripped "xs" 2 := by
    cases at_
    exact mem_accesses_iff.1 (by decide +kernel)
  refine overrun_reported (d := 0) ⟨_, rfl, written⟩ (by decide) at_ access (by decide) ?_
  intro j after before line there n defines
  obtain rfl : j = 1 := by omega
  cases there
  have none : definition? .javaScript "f(xs[1]);" = none := by decide +kernel
  cases none.symm.trans (definition?_eq_some_iff.2 defines)

/-- **A comment behind a list hides it**: its length is not learnt, though without comments the line
is written as a definition, and an access beyond the end is missed. -/
theorem overrun_behind_remarked_list :
    ¬∀ (language : Language) (code array : Text) (length index d l : Nat) (row : Row),
      (∃ line ∈ (codeLines language code.lines)[d]?, IsDefinition language array length line) →
      d < l → (Program.ofCode language code).rows[l]? = some row →
      HasAccess row.stripped array index → length ≤ index →
      (∀ j, d < j → j < l → ∀ line ∈ code.lines[j]?, ∀ n, ¬Defines language line array n) →
      ∃ o, overrun? (Program.ofCode language code) = some o ∧ o.line ≤ l + 1 := by
  intro claimed
  let code : Text := "int[] a = \x7b1, 2\x7d; // two\na[5] = 1;"
  obtain ⟨row, at_⟩ : ∃ row, (Program.ofCode .java code).rows[1]? = some row := ⟨_, rfl⟩
  have declares : Declares "int[] a " "a" :=
    ⟨⟨"int[] ", 0, " ", by decide, by rintro _ ⟨⟩; decide, by decide⟩, by simp [isQuote]⟩
  have written : IsDefinition .java "a" 2 "int[] a = \x7b1, 2\x7d; " :=
    @IsDefinition.list _ _ _ _ " " [] " " ["1", " 2"] 1
      declares (by decide) (by decide) (by decide) rfl (by decide)
  have uncommented :
      (codeLines .java code.lines)[0]? = some ("int[] a = \x7b1, 2\x7d; " : Text) := by decide +kernel
  have access : HasAccess row.stripped "a" 5 := by
    cases at_
    exact mem_accesses_iff.1 (by decide +kernel)
  have missed : overrun? (Program.ofCode .java code) = none := by decide +kernel
  obtain ⟨o, reported, -⟩ := claimed .java code "a" 2 5 0 1 row ⟨_, uncommented, written⟩
    (by decide) at_ access (by decide) (fun j after before => by omega)
  cases missed.symm.trans reported

end Check

end SnippetLab
