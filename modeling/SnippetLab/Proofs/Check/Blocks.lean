import SnippetLab.Proofs.Check.LoopUpdates
import SnippetLab.Proofs.Source.Depths

/-!
# The block behind a loop's header

The body of a loop is cut out of the text that begins in the middle of the program, right behind
the header: it goes up to the brace that closes the first one.  Nothing in this text says that there
is such a brace.  **The check of the whole snippet does**: before the header no more braces are
closed than opened, and in the end all are closed, so that behind the brace the count has to drop.

* `balance_eq_zero_of_fine`, `not_dropsBelow_of_fine` — what the check finds out about the braces.
* `isClosedIn_behind` — every brace of a snippet that passes the check is closed behind it.
* `IsBlockOf` — a body stands in braces, said without the search for the closing one.
* `body_is_between_braces` — **the body of a loop is what stands between the braces**, but for the
  blanks at the end of the header's line; to the letter it need not be
  (`body_is_not_exactly_between_braces`).
-/

namespace SnippetLab.Check

open Source Text

/-! ## What the check finds out -/

section Fine

variable {language : Language} {code : Text}

lemma pairingError?_of_fine (braces : language.usesBraces = true)
    (fine : formError? language code = none) :
    pairingError? (stripLines language code.lines) = none := by
  rw [formError?_eq_of_braces braces] at fine
  split_ifs at fine
  exact fine

/-- In a snippet of the right form no brace is closed that is not open. -/
lemma not_dropsBelow_of_fine (braces : language.usesBraces = true)
    (fine : formError? language code = none) :
    ¬DropsBelow 0 (stripLines language code.lines).flatten := by
  intro drops
  have passed := pairingError?_of_fine braces fine
  rw [pairingError?_eq, if_pos drops] at passed
  cases passed

/-- In a snippet of the right form all braces are closed. -/
lemma balance_eq_zero_of_fine (braces : language.usesBraces = true)
    (fine : formError? language code = none) :
    balance '{' '}' (stripLines language code.lines).flatten = 0 := by
  by_contra open_
  have passed := pairingError?_of_fine braces fine
  rw [pairingError?_eq, if_neg (not_dropsBelow_of_fine braces fine), if_pos open_] at passed
  cases passed

end Fine

/-! ## The stripped text of a program -/

/-- **What is left of a program without literals and comments**, its lines divided by line feeds. -/
def strippedText (rows : List Row) : Text := join "\n" (rows.map Row.stripped)

section Rows

variable {front block : Text}

/-- The lines above a row, the row, and the lines below it. -/
lemma strippedText_append_cons (above : List Row) (row : Row) (rest : List Row) :
    strippedText (above ++ row :: rest) =
      above.flatMap (fun row => row.stripped ++ ['\n']) ++
        (row.stripped ++ rest.flatMap fun row => '\n' :: row.stripped) := by
  induction above with
  | nil =>
      rw [List.nil_append, strippedText, List.map_cons, join_cons, List.flatMap_map]
      rfl
  | cons first above ih =>
      have several : (above ++ row :: rest).map Row.stripped ≠ [] := by simp
      rw [strippedText, join] at ih ⊢
      rw [List.cons_append, List.map_cons, List.intercalate_cons_of_ne_nil several, ih,
        List.flatMap_cons, List.append_assoc (first.stripped ++ ['\n'])]
      rfl

/-- A row in the stripped text. -/
lemma strippedText_eq {rows : List Row} {k : Nat} {row : Row} (at_ : rows[k]? = some row) :
    strippedText rows = (rows.take k).flatMap (fun row => row.stripped ++ ['\n']) ++
      (row.stripped ++ (rows.drop (k + 1)).flatMap fun row => '\n' :: row.stripped) := by
  obtain ⟨inside, rfl⟩ := List.getElem?_eq_some_iff.1 at_
  rw [← strippedText_append_cons, List.getElem_cons_drop, List.take_append_drop]

@[simp] lemma bracesOf_append (t u : Text) : bracesOf (t ++ u) = bracesOf t ++ bracesOf u :=
  List.filter_append t u

/-- Blanks are not counted. -/
lemma bracesOf_of_isAllBlank {blanks : Text} (blank : blanks.isAllBlank = true) :
    bracesOf blanks = [] := by
  refine List.filter_eq_nil_iff.2 fun c listed brace => ?_
  simp only [isBrace, Bool.or_eq_true, beq_iff_eq] at brace
  rcases brace with rfl | rfl
  · exact not_mem_of_isAllBlank blank (by decide) listed
  · exact not_mem_of_isAllBlank blank (by decide) listed

/-- Line feeds are not counted. -/
lemma bracesOf_strippedText (rows : List Row) :
    bracesOf (strippedText rows) = bracesOf (rows.map Row.stripped).flatten := by
  have below (rest : List Row) : bracesOf (rest.flatMap fun row => '\n' :: row.stripped) =
      bracesOf (rest.map Row.stripped).flatten := by
    induction rest with
    | nil => rfl
    | cons row rest ih =>
        rw [List.flatMap_cons, List.map_cons, List.flatten_cons, bracesOf_append, bracesOf_append,
          ih]
        rfl
  cases rows with
  | nil => rfl
  | cons row rest =>
      have first := strippedText_append_cons [] row rest
      rw [List.nil_append, List.flatMap_nil, List.nil_append] at first
      rw [first, bracesOf_append, below, List.map_cons, List.flatten_cons, bracesOf_append]

/-- **Every brace of a snippet of the right form is closed** in what stands behind it. -/
lemma isClosedIn_behind {language : Language} (braces : language.usesBraces = true) {code : Text}
    (fine : formError? language code = none)
    (whole : bracesOf (strippedText (Program.ofCode language code).rows) =
      bracesOf (front ++ '{' :: block)) :
    IsClosedIn block := by
  rw [bracesOf_strippedText, Program.map_stripped_ofCode] at whole
  have ends : balance '{' '}' (front ++ '{' :: block) = 0 := by
    rw [← balance_bracesOf, ← whole, balance_bracesOf]
    exact balance_eq_zero_of_fine braces fine
  have never : ¬DropsBelow 0 (front ++ '{' :: block) := by
    rw [← dropsBelow_bracesOf le_rfl, ← whole, dropsBelow_bracesOf le_rfl]
    exact not_dropsBelow_of_fine braces fine
  have atLeast : 0 ≤ balance '{' '}' front :=
    balance_nonneg fun drops => never (dropsBelow_append.2 (.inl drops))
  rw [balance_append, balance_cons, balance_opening] at ends
  exact isClosedIn_iff.2 ⟨block, List.prefix_rfl, by omega⟩

end Rows

/-! ## Blocks -/

/-- **A body stands in braces at the beginning of a text**, behind blanks and line feeds: its braces
pair up, so that the brace behind it is the partner of the one before it. -/
def IsBlockOf (text body : Text) : Prop :=
  ∃ gap tail, text = gap ++ '{' :: (body ++ '}' :: tail) ∧ gap.isAllBlank = true ∧
    Dyck (bracesOf body)

section Block

variable {after more text body block blanks : Text}

/-- Braces pair up if their count settles. -/
lemma paired_iff_dyck : Paired '{' '}' body ↔ Dyck (bracesOf body) := by
  rw [dyck_bracesOf_iff, Paired, Settles, Int.zero_add]
  refine and_congr_right fun _ => ?_
  simp only [DropsBelow, not_exists, not_and, Int.not_lt]

/-- **What is cut out is the body that stands in braces**, and there is only one. -/
lemma isBlockOf_iff : IsBlockOf text body ↔
    ∃ block tail, trimStart text = '{' :: block ∧
      upToClosing '{' '}' 0 block = some (body, tail) := by
  simp only [upToClosing_eq_some_iff (show '{' ≠ '}' by decide)]
  constructor
  · rintro ⟨gap, tail, rfl, blank, dyck⟩
    exact ⟨_, tail, trimStart_append_cons blank (by decide) _, rfl, paired_iff_dyck.2 dyck⟩
  · rintro ⟨block, tail, braced, rfl, paired⟩
    obtain ⟨gap, blank, whole⟩ := exists_blanks_trimStart text
    exact ⟨gap, tail, by rw [← braced, ← whole], blank, paired_iff_dyck.1 paired⟩

/-- No other body stands in the braces at the beginning of a text. -/
lemma IsBlockOf.unique {other : Text} (h : IsBlockOf text body) (h' : IsBlockOf text other) :
    body = other := by
  obtain ⟨block, tail, braced, found⟩ := isBlockOf_iff.1 h
  obtain ⟨block', tail', braced', found'⟩ := isBlockOf_iff.1 h'
  obtain rfl := (List.cons.inj (braced.symm.trans braced')).2
  rw [found] at found'
  exact congrArg Prod.fst (Option.some.inj found')

lemma isAllBlank_append {t u : Text} :
    (t ++ u).isAllBlank = true ↔ t.isAllBlank = true ∧ u.isAllBlank = true := by
  rw [isAllBlank, List.all_append, Bool.and_eq_true]
  exact Iff.rfl

/-- **Blanks at the end of a line do not keep a block from standing there**: they stand outside the
braces, or the body has them too. -/
lemma IsBlockOf.put_in (h : IsBlockOf (after ++ more) body) (blank : blanks.isAllBlank = true) :
    ∃ between, IsBlockOf (after ++ (blanks ++ more)) between ∧
      (between = body ∨ ∃ gap first below, after = gap ++ '{' :: first ∧ gap.isAllBlank = true ∧
        body = first ++ below ∧ between = first ++ (blanks ++ below)) := by
  obtain ⟨gap, tail, whole, blankGap, dyck⟩ := h
  rcases List.append_eq_append_iff.1 whole with ⟨g, rfl, below⟩ | ⟨a, rfl, braced⟩
  · -- the brace stands on a later line
    obtain ⟨near, far⟩ := isAllBlank_append.1 blankGap
    refine ⟨body, ⟨after ++ (blanks ++ g), tail, by simp [below], ?_, dyck⟩, .inl rfl⟩
    exact isAllBlank_append.2 ⟨near, isAllBlank_append.2 ⟨blank, far⟩⟩
  · rcases List.cons_eq_append_iff.1 braced with ⟨rfl, rfl⟩ | ⟨first, rfl, block⟩
    · exact ⟨body, ⟨gap ++ blanks, tail, by simp, isAllBlank_append.2 ⟨blankGap, blank⟩, dyck⟩,
        .inl rfl⟩
    · rcases List.append_eq_append_iff.1 block with ⟨c, rfl, behind⟩ | ⟨below, rfl, rfl⟩
      · rcases List.cons_eq_append_iff.1 behind with ⟨rfl, rfl⟩ | ⟨later, rfl, rfl⟩
        · -- the line ends with the body
          refine ⟨body ++ blanks, ⟨gap, tail, by simp, blankGap, ?_⟩, .inr ⟨gap, body, [], ?_⟩⟩
          · simpa [bracesOf_of_isAllBlank blank] using dyck
          · simp [blankGap]
        · exact ⟨body, ⟨gap, later ++ (blanks ++ more), by simp, blankGap, dyck⟩, .inl rfl⟩
      · refine ⟨first ++ (blanks ++ below), ⟨gap, tail, by simp, blankGap, ?_⟩,
          .inr ⟨gap, first, below, rfl, blankGap, rfl, rfl⟩⟩
        simpa [bracesOf_of_isAllBlank blank] using dyck

end Block

/-! ## Loops -/

section Loop

variable {language : Language} {code : Text} {k : Nat} {row : Row} {head : LoopHead}

/-- What follows a header is the end of its line. -/
lemma exists_header (braces : language.usesBraces = true)
    (begins : LoopHead.ofLine? language row.stripped = some head) :
    ∃ header, row.stripped.trim = header ++ head.after := by
  rw [LoopHead.ofLine?, if_neg (ne_python braces)] at begins
  obtain ⟨keyword, gap, inner, line, -⟩ := ofBracedLine?_eq_some_iff.1 begins
  exact ⟨keyword.text ++ (gap ++ '(' :: (inner ++ [')'])), by rw [line]; simp⟩

/-- The body of a loop is the one that stands in braces behind its header. -/
lemma bracedBody_eq_of_isBlockOf {rest : List Row} {body : Text}
    (h : IsBlockOf (textAfter head rest) body) : bracedBody head rest = body := by
  obtain ⟨block, tail, braced, found⟩ := isBlockOf_iff.1 h
  unfold bracedBody
  rw [braced]
  simp only [found]

/-- **The brace behind a header is closed**, because the braces of the whole program pair up. -/
lemma isClosedIn_textAfter (braces : language.usesBraces = true)
    (fine : formError? language code = none) {above indent header blanks block : Text}
    {rest : List Row} (blankIndent : indent.isAllBlank = true) (blankEnd : blanks.isAllBlank = true)
    (divided : strippedText (Program.ofCode language code).rows =
      above ++ (indent ++ (header ++ (head.after ++
        (blanks ++ rest.flatMap fun row => '\n' :: row.stripped)))))
    (braced : '{' :: block = trimStart (textAfter head rest)) : IsClosedIn block := by
  obtain ⟨gap, -, behind⟩ := exists_blanks_trimStart (textAfter head rest)
  have parts := congrArg bracesOf behind
  rw [← braced, textAfter, bracesOf_append, bracesOf_append] at parts
  have whole : bracesOf (strippedText (Program.ofCode language code).rows) =
      bracesOf (above ++ (header ++ gap) ++ '{' :: block) := by
    rw [divided]
    simp only [bracesOf_append, bracesOf_of_isAllBlank blankIndent,
      bracesOf_of_isAllBlank blankEnd, List.nil_append, List.append_assoc, parts]
  exact isClosedIn_behind braces fine whole

/-- **The body of a loop is what stands between the braces behind its header.**  In a snippet of the
right form the brace there is closed: the body is the text up to its partner, and the case that there
is none does not occur.  The header's line is read without the blanks at its end; in the program as
it is, they may stand in the block too. -/
theorem body_is_between_braces (braces : language.usesBraces = true)
    (fine : formError? language code = none)
    (at_ : (Program.ofCode language code).rows[k]? = some row)
    (begins : LoopHead.ofLine? language row.stripped = some head)
    (opens : ['{'] <+: trimStart (textAfter head ((Program.ofCode language code).rows.drop (k + 1)))) :
    let rows := (Program.ofCode language code).rows
    let body := bracedBody head (rows.drop (k + 1))
    IsBlockOf (textAfter head (rows.drop (k + 1))) body ∧
    (∀ block, trimStart (textAfter head (rows.drop (k + 1))) = '{' :: block →
      upToClosing '{' '}' 0 block ≠ none) ∧
    ∃ indent header blanks behind between : Text,
      row.stripped = indent ++ (header ++ (head.after ++ blanks)) ∧
      indent.isAllBlank = true ∧ blanks.isAllBlank = true ∧
      strippedText rows = (rows.take k).flatMap (fun row => row.stripped ++ ['\n']) ++
        (indent ++ (header ++ behind)) ∧
      IsBlockOf behind between ∧
      (between = body ∨ ∃ gap first below, head.after = gap ++ '{' :: first ∧
        gap.isAllBlank = true ∧ body = first ++ below ∧ between = first ++ (blanks ++ below)) := by
  intro rows body
  obtain ⟨header, line⟩ := exists_header braces begins
  obtain ⟨indent, blanks, blankIndent, blankEnd, whole⟩ := exists_blanks_trim row.stripped
  rw [line, List.append_assoc] at whole
  have divided : strippedText rows = (rows.take k).flatMap (fun row => row.stripped ++ ['\n']) ++
      (indent ++ (header ++ (head.after ++
        (blanks ++ (rows.drop (k + 1)).flatMap fun row => '\n' :: row.stripped)))) := by
    have placed : rows[k]? = some row := at_
    rw [strippedText_eq placed, whole]
    simp only [List.append_assoc]
  obtain ⟨block, braced⟩ := opens
  rw [List.singleton_append] at braced
  have closed := isClosedIn_textAfter braces fine blankIndent blankEnd divided braced
  obtain ⟨inner, tail, rfl, dyck⟩ := closed
  have found : upToClosing '{' '}' 0 (inner ++ '}' :: tail) = some (inner, tail) :=
    (upToClosing_eq_some_iff (by decide)).2 ⟨rfl, paired_iff_dyck.2 dyck⟩
  have stands : IsBlockOf (textAfter head (rows.drop (k + 1))) body := by
    have there := isBlockOf_iff.2 ⟨_, tail, braced.symm, found⟩
    have cut : body = inner := bracedBody_eq_of_isBlockOf there
    rwa [cut]
  obtain ⟨between, there, same⟩ := stands.put_in blankEnd
  refine ⟨stands, fun block other => ?_, indent, header, blanks, _, between, whole, blankIndent,
    blankEnd, divided, there, same⟩
  obtain rfl := (List.cons.inj (braced.trans other)).2
  rw [found]
  exact Option.some_ne_none _

/-- A block on the line below, with a block in it and another one behind, and a brace in a literal. -/
theorem body_is_between_braces_below :
    let code : Text := "f();\nwhile (x < 3)  \n\x7b if (y) \x7b y--; \x7d\n x += \"\x7d\"; \x7d g(); \x7b \x7d"
    let rows := (Program.ofCode .java code).rows
    Language.java.usesBraces = true ∧ formError? .java code = none ∧ ∃ row ∈ rows[1]?, ∃ head,
      LoopHead.ofLine? .java row.stripped = some head ∧
      ['{'] <+: trimStart (textAfter head (rows.drop 2)) ∧
      IsBlockOf (textAfter head (rows.drop 2)) " if (y) \x7b y--; \x7d\n x += \"\"; " := by
  intro code rows
  have fine : formError? .java code = none := by decide +kernel
  obtain ⟨row, at_⟩ : ∃ row, rows[1]? = some row := ⟨_, rfl⟩
  have begins : LoopHead.ofLine? .java row.stripped = some ⟨some "x < 3", []⟩ := by
    cases at_
    decide +kernel
  have body : bracedBody ⟨some "x < 3", []⟩ (rows.drop 2) =
      " if (y) \x7b y--; \x7d\n x += \"\"; " := by decide +kernel
  have opens : ['{'] <+: trimStart (textAfter ⟨some "x < 3", []⟩ (rows.drop 2)) := by
    decide +kernel
  refine ⟨rfl, fine, row, at_, _, begins, opens, ?_⟩
  rw [← body]
  exact (body_is_between_braces rfl fine at_ begins opens).1

/-- **The body need not be to the letter what stands between the braces.**  Blanks at the end of the
header's line belong to the block of the stripped text, and the body lacks them.  And the braces are
those of the stripped text, in which a template literal stays as it is: a brace in one ends the body
before the statement that changes `x`, and the loop is flagged. -/
theorem body_is_not_exactly_between_braces :
    (let code : Text := "while (x < 3) \x7b  \n x++;\n\x7d"
      let rows := (Program.ofCode .java code).rows
      let head : LoopHead := ⟨some "x < 3", " \x7b"⟩
      let behind : Text := " \x7b  \n x++;\n\x7d"
      formError? .java code = none ∧
        (∃ row ∈ rows[0]?, LoopHead.ofLine? .java row.stripped = some head) ∧
        ['{'] <+: trimStart (textAfter head (rows.drop 1)) ∧
        strippedText rows = "while (x < 3)".toList ++ behind ∧
        IsBlockOf behind "  \n x++;\n" ∧ bracedBody head (rows.drop 1) = "\n x++;\n" ∧
        ¬IsBlockOf behind (bracedBody head (rows.drop 1))) ∧
    (let code : Text := "while (x < 3) \x7b s = `\x7d\x7b`; x++; \x7d"
      let rows := (Program.ofCode .javaScript code).rows
      let head : LoopHead := ⟨some "x < 3", " \x7b s = `\x7d\x7b`; x++; \x7d"⟩
      formError? .javaScript code = none ∧
        (∃ row ∈ rows[0]?, LoopHead.ofLine? .javaScript row.stripped = some head) ∧
        strippedText rows = code ∧ bracedBody head (rows.drop 1) = " s = `" ∧
        endlessLoop? (Program.ofCode .javaScript code) = some 1) := by
  constructor
  · intro code rows head behind
    have block : IsBlockOf behind "  \n x++;\n" := ⟨" ", [], by decide, by decide, .nil⟩
    have lacks : bracedBody head (rows.drop 1) = "\n x++;\n" := by decide +kernel
    refine ⟨by decide +kernel, ⟨_, rfl, by decide +kernel⟩, by decide +kernel, by decide +kernel,
      block, lacks, fun stands => ?_⟩
    rw [lacks] at stands
    exact absurd (block.unique stands) (by decide)
  · intro code rows head
    exact ⟨by decide +kernel, ⟨_, rfl, by decide +kernel⟩, by decide +kernel, by decide +kernel,
      by decide +kernel⟩

end Loop

end SnippetLab.Check
