import SnippetLab.Proofs.Statement.Remarked

/-!
# Comments behind statements

The scanner cuts a comment out wherever it stands, but a statement is read from the whole line, the
comment included.  **A comment behind a statement belongs to its text**: it hides the terminator,
stands at the end where a call has its parenthesis, or ends up in the value.

* `annotated` — a line with a comment behind it.
* `body?_annotated` — what is read of such a line.
* `Survives` — whether the comment leaves the statement alone.
* `classify_annotated_iff` — **exactly these are read as without the comment**.  If it is an ordinary
  one, these are only the lines without a statement and, where no terminator is demanded or written,
  the ones that leave a method.
-/

namespace SnippetLab.Statement

open Source Text

/-- **A line with a comment behind it** that ends with the line. -/
def annotated (language : Language) (line remark : Text) : Text :=
  line ++ ' ' :: (lineMark language ++ remark)

/-! ## The text of a line -/

section Body

variable {language : Language} {line u : Text}

/-- **What is read of a line** begins it, and behind it there are only blanks and terminators. -/
lemma body?_eq_some (h : body? language line = some u) :
    (u = [] ∨ Solid u) ∧ ∃ v, line.trimStart = u ++ v ∧ ∀ c ∈ v, isPause c = true := by
  obtain ⟨right, blank, whole⟩ := exists_blanks_trimEnd line.trimStart
  have pauses := isPause_of_isAllBlank blank
  unfold body? at h
  simp only at h
  split at h
  · rename_i b cut
    cases h
    have terminated := dropEnd?_eq_some.1 cut
    obtain ⟨gap, blankGap, text⟩ := exists_blanks_trimEnd b
    constructor
    · cases b with
      | nil => exact .inl rfl
      | cons c b =>
          have solid : Solid line.trim := (trim_eq_nil_or_solid line).resolve_left
            fun empty => absurd (terminated.trans empty) (List.cons_ne_nil c _)
          obtain ⟨d, r, begun, first⟩ := solid.first
          rw [← terminated] at begun
          obtain ⟨rfl, -⟩ := List.cons.inj begun
          exact .inr (solid_trimEnd_cons first b)
    · refine ⟨gap ++ ';' :: right, ?_, ?_⟩
      · rw [whole, ← trim, ← terminated]
        conv_lhs => rw [text]
        simp
      · intro c hc
        rcases List.mem_append.1 hc with inGap | hc
        · exact isPause_of_isAllBlank blankGap c inGap
        · rcases List.mem_cons.1 hc with rfl | atEnd
          · rfl
          · exact pauses c atEnd
  · split at h
    · cases h
    · cases h
      exact ⟨trim_eq_nil_or_solid line, right, whole, pauses⟩

lemma isPrefix_of_body? (h : body? language line = some u) : u <+: line.trimStart := by
  obtain ⟨-, v, whole, -⟩ := body?_eq_some h
  exact ⟨v, whole.symm⟩

/-- A comment that stands alone keeps its mark. -/
lemma lineMark_isPrefix_of_body? {remark r : Text}
    (h : body? language (lineMark language ++ remark) = some r) : lineMark language <+: r := by
  obtain ⟨-, v, whole, pauses⟩ := body?_eq_some h
  rw [trimStart_lineMark] at whole
  have begun : lineMark language <+: r ++ v := whole ▸ List.prefix_append _ remark
  cases v with
  | nil => rwa [List.append_nil] at begun
  | cons c v =>
      exact isPrefix_of_append_cons (not_mem_lineMark (pauses c List.mem_cons_self)) begun

lemma trim_annotated (busy : line.trimStart ≠ []) (remark : Text) :
    trim (annotated language line remark) =
      line.trimStart ++ ' ' :: trimEnd (lineMark language ++ remark) := by
  obtain ⟨d, x, mark, begins⟩ := lineMark_cons language
  obtain ⟨left, blank, whole⟩ := exists_blanks_trimStart line
  obtain ⟨c, r, start, solid⟩ := (trimStart_eq_nil_or_cons line).resolve_left busy
  have begun : trimStart (annotated language line remark) =
      (line.trimStart ++ " ") ++ (lineMark language ++ remark) := by
    rw [annotated]
    conv_lhs => rw [whole]
    rw [start, List.append_assoc]
    have dropped := trimStart_append_cons blank solid (r ++ ' ' :: (lineMark language ++ remark))
    simpa using dropped
  rw [trim, begun, mark, List.cons_append, trimEnd_append_cons _ (isBlank_of_begins begins)]
  simp

lemma ne_nil_of_body? {remark r : Text}
    (h : body? language (lineMark language ++ remark) = some r) : r ≠ [] := by
  rintro rfl
  obtain ⟨d, x, mark, -⟩ := lineMark_cons language
  have begun := List.eq_nil_of_prefix_nil (lineMark_isPrefix_of_body? h)
  rw [mark] at begun
  cases begun

/-- **What is read of a line with a comment behind it** is the line and what would be read of the
comment. -/
theorem body?_annotated (busy : line.trimStart ≠ []) (remark : Text) :
    body? language (annotated language line remark) =
      (body? language (lineMark language ++ remark)).map (line.trimStart ++ ' ' :: ·) := by
  obtain ⟨d, x, mark, begins⟩ := lineMark_cons language
  have solid := isBlank_of_begins begins
  have other : d ≠ ';' := by
    rintro rfl
    simp at begins
  have alone : trim (lineMark language ++ remark) = trimEnd (lineMark language ++ remark) := by
    rw [trim, trimStart_lineMark]
  have first : [] ++ [d] <+: trimEnd (lineMark language ++ remark) := by
    rw [isPrefix_trimEnd_iff solid, mark]
    exact ⟨x ++ remark, rfl⟩
  have full : trimEnd (lineMark language ++ remark) ≠ [] := by
    rintro empty
    rw [empty] at first
    exact absurd (List.eq_nil_of_prefix_nil first) (List.cons_ne_nil d [])
  have cut : dropEnd? (line.trimStart ++ [' '] ++ trimEnd (lineMark language ++ remark)) ";" =
      (dropEnd? (trimEnd (lineMark language ++ remark)) ";").map (line.trimStart ++ [' '] ++ ·) :=
    dropEnd?_append full _ ';'
  rw [body?, body?, trim_annotated busy, alone, List.append_cons, cut]
  cases found : dropEnd? (trimEnd (lineMark language ++ remark)) ";" with
  | none =>
      simp only [Option.map_none]
      split
      · rfl
      · simp
  | some b =>
      -- What the terminator leaves begins with the mark.
      have same : b ++ ";" = trimEnd (lineMark language ++ remark) := dropEnd?_eq_some.1 found
      rw [← same] at first
      have unmarked : ';' ∉ [] ++ [d] := by simpa using Ne.symm other
      obtain ⟨r, rfl⟩ := isPrefix_of_append_cons unmarked first
      have beyond := trimEnd_append_cons (line.trimStart ++ [' ']) solid r
      simpa using beyond

/-- **A line is a comment with a comment behind it exactly if it is one alone.** -/
lemma idle?_annotated (busy : line.trimStart ≠ []) (remark : Text) :
    idle? language (annotated language line remark) = idle? language line := by
  have begins {mark : Text} (solid : Solid mark) (whole : ' ' ∉ mark) :
      startsWith (trim (annotated language line remark)) mark = startsWith line.trim mark := by
    obtain ⟨r, c, rfl, last⟩ := solid.last
    rw [trim_annotated busy, Bool.eq_iff_iff, startsWith_iff, startsWith_iff, trim,
      isPrefix_trimEnd_iff last]
    exact ⟨isPrefix_of_append_cons whole, fun h => h.trans (List.prefix_append _ _)⟩
  have marks : (if language.usesBraces then ["//", "/*", "*"] else ["#"] : List Text).any
        (startsWith (trim (annotated language line remark)) ·) =
      (if language.usesBraces then ["//", "/*", "*"] else ["#"] : List Text).any
        (startsWith line.trim ·) := by
    have solid {c d : Char} (first : isBlank c = false) (last : isBlank d = false) :
        Solid [c, d] := ⟨⟨c, [d], rfl, first⟩, ⟨[c], d, rfl, last⟩⟩
    split
    · simp [begins (solid (c := '/') (d := '/') rfl rfl) (by decide),
        begins (solid (c := '/') (d := '*') rfl rfl) (by decide),
        begins (Solid.singleton (c := '*') rfl) (by decide)]
    · simp [begins (Solid.singleton (c := '#') rfl) (by decide)]
  have longer : (trim (annotated language line remark)).isEmpty = false := by
    rw [trim_annotated busy]
    simp
  have full : line.trim.isEmpty = false := by
    simpa [trim_eq_nil_iff] using busy
  simp only [idle?, marks, longer, full]

lemma remarked_of_body? {language : Language} {line remark u r : Text}
    (body : body? language line = some u)
    (behind : body? language (lineMark language ++ remark) = some r) :
    Remarked language u (line.trimStart ++ ' ' :: r) := by
  obtain ⟨-, v, whole, pauses⟩ := body?_eq_some body
  obtain ⟨rest, rfl⟩ := lineMark_isPrefix_of_body? behind
  refine ⟨v ++ " ", rest, by simp, ?_, by simp [whole]⟩
  intro c hc
  rcases List.mem_append.1 hc with inText | atEnd
  · exact pauses c inText
  · rw [List.mem_singleton.1 atEnd]
    rfl

end Body

/-! ## Lines that survive -/

/-- **What a comment does not change**, given the line's own reading and what would be read of the
comment.  The texts of declarations, assignments, steps and print calls all change. -/
def Survives (language : Language) (line remark : Text) : Prop :=
  let behind := body? language (lineMark language ++ remark)
  match classify language line with
  | .comment => True
  | .leave => behind.isSome = true ∧ leaveOpenings.any (startsWith (line.trimStart ++ " ") ·) = true
  | .call _ => behind.any (endsWith · ")") = true
  | .unrecognized => ∀ r, behind = some r → shape? language (line.trimStart ++ ' ' :: r) = none
  | .blank | .declare .. | .declareDefault .. | .assign .. | .step .. | .print .. => False

/-- **A comment that ends neither with a terminator nor with a closing parenthesis.** -/
def Ordinary (language : Language) (remark : Text) : Prop :=
  (trim (lineMark language ++ remark)).getLast? ≠ some ';' ∧
    (trim (lineMark language ++ remark)).getLast? ≠ some ')'

instance (language : Language) (remark : Text) : Decidable (Ordinary language remark) :=
  inferInstanceAs (Decidable (_ ∧ _))

section Lines

variable {language : Language} {line remark : Text}

/-- A line that is neither blank nor a comment is read by its text. -/
lemma classify_eq (h : idle? language line = none) :
    classify language line =
      ((body? language line).bind (shape? language)).getD .unrecognized := by
  rw [classify, h]
  cases body? language line with
  | none => rfl
  | some body => rfl

lemma idle?_eq_some {st : Statement} (h : idle? language line = some st) :
    st = .blank ∨ st = .comment := by
  unfold idle? at h
  grind

lemma trimStart_ne_nil (busy : classify language line ≠ .blank) : line.trimStart ≠ [] := by
  intro empty
  refine busy ?_
  rw [classify, idle?, trim_eq_nil_iff.2 empty]
  rfl

lemma solid_annotated (busy : line.trimStart ≠ []) {r : Text}
    (h : body? language (lineMark language ++ remark) = some r) :
    Solid (line.trimStart ++ ' ' :: r) := by
  obtain ⟨c, s, start, first⟩ := (trimStart_eq_nil_or_cons line).resolve_left busy
  have solid := (Solid.singleton first).append
    ((body?_eq_some h).1.resolve_left (ne_nil_of_body? h)) (s ++ " ")
  rw [start]
  simpa using solid

/-- What is read of a line as a statement is solid. -/
lemma solid_of_shape? {u : Text} {st : Statement} (body : body? language line = some u)
    (shaped : shape? language u = some st) : Solid u := by
  refine (body?_eq_some body).1.resolve_left ?_
  rintro rfl
  have nothing : shape? language [] = none := by
    cases language with
    | java => decide
    | python => decide
    | javaScript => decide
  rw [nothing] at shaped
  cases shaped

/-- **What is read of a line with a comment behind it**, if the line is no comment itself. -/
lemma classify_annotated (busy : line.trimStart ≠ []) (h : idle? language line = none)
    (remark : Text) :
    classify language (annotated language line remark) =
      ((body? language (lineMark language ++ remark)).bind fun r =>
        shape? language (line.trimStart ++ ' ' :: r)).getD .unrecognized := by
  rw [classify_eq ((idle?_annotated busy remark).trans h), body?_annotated busy, Option.bind_map]
  rfl

/-- A line that is no statement stays none exactly if no shape fits it together with the comment. -/
lemma unrecognized_annotated_iff (busy : line.trimStart ≠ []) (h : idle? language line = none) :
    classify language (annotated language line remark) = .unrecognized ↔
      ∀ r, body? language (lineMark language ++ remark) = some r →
        shape? language (line.trimStart ++ ' ' :: r) = none := by
  rw [classify_annotated busy h]
  cases found : body? language (lineMark language ++ remark) with
  | none => simp
  | some r =>
      simp only [Option.bind_some, Option.some.injEq, forall_eq']
      cases shaped : shape? language (line.trimStart ++ ' ' :: r) with
      | none => simp
      | some st => simp [(isIdle_of_shape? (solid_annotated busy found) shaped).2]

/-- **No statement with values survives a comment**: its mark is among the values, where it was
not. -/
lemma valued_annotated_ne (busy : line.trimStart ≠ []) (h : idle? language line = none)
    {u : Text} {st : Statement} {vs : List Text} (body : body? language line = some u)
    (shaped : shape? language u = some st) (values : st.values? = some vs) :
    classify language (annotated language line remark) ≠ st := by
  intro same
  rw [classify_annotated busy h] at same
  cases behind : body? language (lineMark language ++ remark) with
  | none =>
      rw [behind] at same
      subst same
      cases values
  | some r =>
      rw [behind, Option.bind_some] at same
      cases again : shape? language (line.trimStart ++ ' ' :: r) with
      | none =>
          rw [again] at same
          subst same
          cases values
      | some st' =>
          rw [again, Option.getD_some] at same
          subst same
          obtain ⟨d, mark, plain, others, more, -⟩ := (remarked_of_body? body behind).exists_mark
          have solid := solid_of_shape? body shaped
          have before := count_values solid shaped values mark plain others
          have after := count_values (solid_annotated busy behind) again values mark plain others
          omega

/-- **Leaving a method survives** if something is read of the comment and the text begins as one
that leaves with a value, which it does with a blank for the value. -/
lemma leave_annotated_iff (busy : line.trimStart ≠ []) (h : idle? language line = none)
    {u : Text} (body : body? language line = some u) (shaped : shape? language u = some .leave) :
    classify language (annotated language line remark) = .leave ↔
      (body? language (lineMark language ++ remark)).isSome = true ∧
        leaveOpenings.any (startsWith (line.trimStart ++ " ") ·) = true := by
  rw [classify_annotated busy h]
  cases behind : body? language (lineMark language ++ remark) with
  | none => simp
  | some r =>
      obtain ⟨leave, whole⟩ := (remarked_of_body? body behind).shape?_of_leave
        (solid_of_shape? body shaped) (solid_annotated busy behind) shaped
      have within : line.trimStart ++ [' '] <+: line.trimStart ++ ' ' :: r := ⟨r, by simp⟩
      have left : leave? (line.trimStart ++ ' ' :: r) = some .leave ↔
          leaveOpenings.any (startsWith (line.trimStart ++ " ") ·) = true := by
        simp only [leave?_eq_some_iff, true_and, List.any_eq_true, startsWith_iff]
        constructor
        · rintro (same | ⟨opening, listed, begun⟩)
          · have here : ' ' ∈ line.trimStart ++ ' ' :: r := by simp
            rw [same] at here
            exact absurd here (by decide)
          · refine ⟨opening, listed, List.prefix_of_prefix_length_le begun within ?_⟩
            -- The word itself stands before the blank.
            have word := ((isPrefix_of_leave? leave).trans (isPrefix_of_body? body)).length_le
            rw [length_of_mem_leaveOpenings listed, List.length_append]
            exact Nat.succ_le_succ word
        · rintro ⟨opening, listed, begun⟩
          exact .inr ⟨opening, listed, begun.trans within⟩
      simp only [Option.bind_some, whole, Option.isSome_some, true_and, ← left]
      cases found : leave? (line.trimStart ++ ' ' :: r) with
      | none =>
          cases called : call? language (line.trimStart ++ ' ' :: r) with
          | none => simp
          | some st =>
              obtain ⟨m, rfl⟩ := (call?_eq_some called).2
              simp
      | some st =>
          obtain ⟨rfl, -⟩ := leave?_eq_some_iff.1 found
          simp

/-- What is read of a line ends outside literals and block comments if the line does. -/
lemma endsOutside_of_body? (outside : EndsOutside language line) {u : Text}
    (body : body? language line = some u) : EndsOutside language u := by
  obtain ⟨left, blank, whole⟩ := exists_blanks_trimStart line
  obtain ⟨-, v, text, pauses⟩ := body?_eq_some body
  rw [whole, text] at outside
  exact outside.of_padded blank pauses

/-- **A call survives** if what is read of the comment ends with a parenthesis. -/
lemma call_annotated_iff (busy : line.trimStart ≠ []) (h : idle? language line = none)
    (outside : EndsOutside language line) {u m : Text} (body : body? language line = some u)
    (shaped : shape? language u = some (.call m)) :
    classify language (annotated language line remark) = .call m ↔
      (body? language (lineMark language ++ remark)).any (endsWith · ")") = true := by
  rw [classify_annotated busy h]
  cases behind : body? language (lineMark language ++ remark) with
  | none => simp
  | some r =>
      have whole := (remarked_of_body? body behind).shape?_of_call (solid_of_shape? body shaped)
        (solid_annotated busy behind) (endsOutside_of_body? outside body) shaped
      have last : (line.trimStart ++ ' ' :: r).endsWith ")" = r.endsWith ")" := by
        rw [List.append_cons]
        exact endsWith_append (ne_nil_of_body? behind) _ ')'
      simp only [Option.bind_some, whole, last, Option.any_some]
      cases r.endsWith ")" with
      | true => simp
      | false => simp

lemma body?_ordinary (ordinary : Ordinary language remark) :
    body? language (lineMark language ++ remark) =
      if language.needsSemicolon then none else some (trim (lineMark language ++ remark)) := by
  have unterminated : dropEnd? (trim (lineMark language ++ remark)) ";" = none := by
    cases found : dropEnd? (trim (lineMark language ++ remark)) ";" with
    | none => rfl
    | some b =>
        refine absurd ?_ ordinary.1
        rw [← dropEnd?_eq_some.1 found]
        exact List.getLast?_concat
  rw [body?, unterminated]

/-- What is read of an ordinary comment does not end with a parenthesis. -/
lemma endsWith_ordinary (ordinary : Ordinary language remark) {r : Text}
    (h : body? language (lineMark language ++ remark) = some r) : r.endsWith ")" = false := by
  obtain ⟨x, d, rfl⟩ := (List.eq_nil_or_concat' r).resolve_left (ne_nil_of_body? h)
  rw [body?_ordinary ordinary] at h
  split at h
  · cases h
  · have other := ordinary.2
    rw [Option.some.inj h, List.getLast?_concat] at other
    refine (endsWith_concat x ')' d).trans (beq_eq_false_iff_ne.2 fun same => other ?_)
    rw [same]

/-- **No ordinary comment makes a statement of a line that is none.** -/
lemma unrecognized_ordinary (busy : line.trimStart ≠ []) (h : idle? language line = none)
    (ordinary : Ordinary language remark) (nothing : classify language line = .unrecognized) :
    classify language (annotated language line remark) = .unrecognized := by
  rw [unrecognized_annotated_iff busy h]
  intro r behind
  have opened : (line.trimStart ++ ' ' :: r).endsWith ")" = false := by
    rw [List.append_cons, ← endsWith_ordinary ordinary behind]
    exact endsWith_append (ne_nil_of_body? behind) _ ')'
  -- A language that demands the terminator reads nothing of the comment.
  have free : ¬language.needsSemicolon = true := by
    intro needed
    rw [body?_ordinary ordinary, if_pos needed] at behind
    cases behind
  obtain ⟨u, body⟩ : ∃ u, body? language line = some u := by
    simp only [body?]
    split
    · exact ⟨_, rfl⟩
    · exact ⟨_, if_neg free⟩
  refine (remarked_of_body? body behind).shape?_eq_none (body?_eq_some body).1
    (solid_annotated busy behind) ?_ opened
  rw [classify_eq h, body, Option.bind_some] at nothing
  cases shaped : shape? language u with
  | none => rfl
  | some st =>
      rw [shaped, Option.getD_some] at nothing
      exact absurd nothing (isIdle_of_shape? (solid_of_shape? body shaped) shaped).2

lemma classify_of_idle? {st : Statement} (h : idle? language line = some st) :
    classify language line = st := by
  rw [classify, h]
  rfl

lemma exists_shape {st : Statement} (h : idle? language line = none)
    (reading : classify language line = st) (busy : st ≠ .unrecognized) :
    ∃ u, body? language line = some u ∧ shape? language u = some st := by
  rw [classify_eq h] at reading
  cases body : body? language line with
  | none =>
      rw [body] at reading
      exact absurd reading.symm busy
  | some u =>
      rw [body, Option.bind_some] at reading
      cases shaped : shape? language u with
      | none =>
          rw [shaped] at reading
          exact absurd reading.symm busy
      | some st' =>
          rw [shaped] at reading
          exact ⟨u, rfl, shaped.trans (congrArg some reading)⟩

/-- **Which statements a comment behind them does not change**, for lines that end outside literals
and block comments. -/
theorem classify_annotated_iff (outside : EndsOutside language line)
    (busy : classify language line ≠ .blank) (remark : Text) :
    (classify language (annotated language line remark) = classify language line ↔
      Survives language line remark) ∧
    (Ordinary language remark →
      (classify language (annotated language line remark) = classify language line ↔
        classify language line = .comment ∨ classify language line = .unrecognized ∨
        classify language line = .leave ∧ language.needsSemicolon = false ∧
          leaveOpenings.any (startsWith (line.trimStart ++ " ") ·) = true)) := by
  have start := trimStart_ne_nil busy
  cases idle : idle? language line with
  | some st =>
      have here := classify_of_idle? idle
      have there := classify_of_idle? ((idle?_annotated start remark).trans idle)
      rcases idle?_eq_some idle with rfl | rfl
      · exact absurd here busy
      · simp [Survives, here, there]
  | none =>
      have lost {st : Statement} {vs : List Text} (reading : classify language line = st)
          (values : st.values? = some vs) :
          classify language (annotated language line remark) ≠ st := by
        have busy : st ≠ .unrecognized := by
          rintro rfl
          cases values
        obtain ⟨u, body, shaped⟩ := exists_shape idle reading busy
        exact valued_annotated_ne start idle body shaped values
      cases reading : classify language line with
      | blank => exact absurd reading busy
      | comment =>
          obtain ⟨u, body, shaped⟩ := exists_shape idle reading nofun
          cases (isIdle_of_shape? (solid_of_shape? body shaped) shaped).1
      | declare tag name init => simp [Survives, reading, lost reading rfl]
      | declareDefault tag name => simp [Survives, reading, lost reading rfl]
      | assign name op expr => simp [Survives, reading, lost reading rfl]
      | step name direction => simp [Survives, reading, lost reading rfl]
      | print args newline => simp [Survives, reading, lost reading rfl]
      | leave =>
          obtain ⟨u, body, shaped⟩ := exists_shape idle reading nofun
          rw [leave_annotated_iff start idle body shaped, Survives, reading]
          refine ⟨Iff.rfl, fun ordinary => ?_⟩
          rw [body?_ordinary ordinary]
          cases language.needsSemicolon with
          | true => simp
          | false => simp
      | call m =>
          obtain ⟨u, body, shaped⟩ := exists_shape idle reading nofun
          rw [call_annotated_iff start idle outside body shaped, Survives, reading]
          refine ⟨Iff.rfl, fun ordinary => ?_⟩
          cases behind : body? language (lineMark language ++ remark) with
          | none => simp
          | some r => simp only [Option.any_some, endsWith_ordinary ordinary behind]; simp
      | unrecognized =>
          refine ⟨?_, fun ordinary => ?_⟩
          · rw [unrecognized_annotated_iff start idle, Survives, reading]
          · simp [unrecognized_ordinary start idle ordinary reading]

/-- A comment with a parenthesis at its end leaves a call alone, and an ordinary one the value that
a method returns; behind a call the ordinary one does not. -/
theorem classify_annotated_call :
    classify .python (annotated .python "f(1)" " (once)") = classify .python "f(1)" ∧
      classify .python (annotated .python "f(1)" " once") ≠ classify .python "f(1)" ∧
      classify .javaScript (annotated .javaScript "return x" " done") =
        classify .javaScript "return x" := by
  have call : classify .python "f(1)" = .call "f" := by decide
  have leave : classify .javaScript "return x" = .leave := by decide
  have atCall := @classify_annotated_iff .python "f(1)" (by decide) (by rw [call]; nofun)
  have atReturn := @classify_annotated_iff .javaScript "return x" (by decide)
    (by rw [leave]; nofun) " done"
  refine ⟨(atCall " (once)").1.2 ?_, fun same => ?_, (atReturn.2 (by decide)).2 ?_⟩
  · rw [Survives, call]
    decide
  · have survives := ((atCall " once").2 (by decide)).1 same
    rw [call] at survives
    simp at survives
  · exact .inr (.inr ⟨leave, rfl, by decide⟩)

/-- **A comment hides the terminator of a declaration and becomes part of the value of an
assignment**, though both lines end outside literals and block comments. -/
theorem remark_changes_statement :
    (EndsOutside .java "int x = 1;" ∧ classify .java "int x = 1;" = .declare "int" "x" "1" ∧
      classify .java (annotated .java "int x = 1;" " note") = .unrecognized) ∧
    EndsOutside .python "x = 5" ∧ classify .python "x = 5" = .assign "x" none "5" ∧
      classify .python (annotated .python "x = 5" " five") = .assign "x" none "5 # five" := by
  decide

end Lines

end SnippetLab.Statement
