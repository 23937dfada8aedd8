import Mathlib.Data.List.Destutter
import SnippetLab.Proofs.Session.Calls
import SnippetLab.Proofs.Statement.Annotated

/-!
# What is recorded of a variable

A variable keeps the values it has held and the line that gave it the last one.  Values come in by
declarations, assignments and steps, each with a line of its own, and a declaration of a name that
is bound already begins the record anew.

* `Input`, `feed` — the lines and resets that a session is made of.
* `Declares`, `BringsIn` — inputs that begin the record of a variable, or give it a value.
* `Treats`, `treats_apply` — all that a statement can do to one variable.
* `Recorded` — what the record of a variable says of the run.
* `records_are_faithful` — **every record of every run is faithful**.
-/

namespace SnippetLab

/-! ## Repetitions in a row -/

section Destutter

variable {α : Type} [DecidableEq α]

lemma destutter'_ne_concat (l : List α) (first a : α) :
    (l ++ [a]).destutter' (· ≠ ·) first =
      if (first :: l).getLast? = some a then l.destutter' (· ≠ ·) first
      else l.destutter' (· ≠ ·) first ++ [a] := by
  induction l generalizing first with
  | nil =>
      by_cases same : first = a
      · simp [same]
      · simp [same]
  | cons b rest ih =>
      rw [List.cons_append, List.destutter'_cons, List.destutter'_cons, List.getLast?_cons_cons]
      by_cases same : first = b
      · subst same
        rw [if_neg (not_not_intro rfl), if_neg (not_not_intro rfl), ih]
      · rw [if_pos same, if_pos same, ih, apply_ite (List.cons first)]
        rfl

/-- **One item more** is left out exactly if it repeats the last one. -/
lemma destutter_ne_concat (l : List α) (a : α) :
    (l ++ [a]).destutter (· ≠ ·) =
      if l.getLast? = some a then l.destutter (· ≠ ·) else l.destutter (· ≠ ·) ++ [a] := by
  cases l with
  | nil => rfl
  | cons first rest => exact destutter'_ne_concat rest first a

end Destutter

/-! ## Names -/

namespace Statement

/-- **A statement names its variable by an identifier**, if it is about one. -/
def WellNamed : Statement → Prop
  | .declare _ name _ | .declareDefault _ name | .assign name _ _ | .step name _ =>
    isIdentifier name = true
  | _ => True

variable {language : Language} {body : Text} {st : Statement}

lemma wellNamed_typed? (h : typed? language body = some st) : WellNamed st := by
  unfold typed? at h
  split at h
  · cases h
  · split at h
    · split at h
      · split at h
        · cases h
          assumption
        · cases h
      · split at h
        · cases h
          assumption
        · cases h
    · cases h

lemma wellNamed_assignment? (h : assignment? body = some st) : WellNamed st := by
  unfold assignment? at h
  split at h
  · cases h
  · split at h
    · cases h
    · split at h
      · rename_i named
        cases h
        exact (Bool.and_eq_true_iff.1 named).1
      · cases h

lemma wellNamed_step? (h : step? body = some st) : WellNamed st := by
  unfold step? at h
  split at h
  · split at h
    · cases h
      assumption
    · cases h
  · cases h

lemma wellNamed_shape? (h : shape? language body = some st) : WellNamed st := by
  rcases shape?_cases h with (declared | assigned | step | print) | ⟨-, -, leave | ⟨-, call⟩⟩
  · exact wellNamed_typed? declared
  · exact wellNamed_assignment? assigned
  · exact wellNamed_step? step
  · obtain ⟨_, _, _, -, -, -, rfl⟩ := print?_eq_some print
    trivial
  · rw [(leave?_eq_some_iff.1 leave).1]
    trivial
  · obtain ⟨-, m, rfl⟩ := call?_eq_some call
    trivial

/-- **Lines name variables by identifiers.** -/
theorem wellNamed_classify (language : Language) (text : Text) :
    WellNamed (classify language text) := by
  cases idle : idle? language text with
  | some st =>
      rw [classify_of_idle? idle]
      rcases idle?_eq_some idle with rfl | rfl
      · trivial
      · trivial
  | none =>
      by_cases nothing : classify language text = .unrecognized
      · rw [nothing]
        trivial
      · obtain ⟨body, -, shaped⟩ := exists_shape idle rfl nothing
        exact wellNamed_shape? shaped

end Statement

namespace Session

/-! ## Inputs -/

/-- What a session is given: lines, and the order to begin anew. -/
inductive Input where
  | line (text : Text) (number : Nat)
  | reset
  deriving Repr, DecidableEq

/-- The session after an input. -/
def feed (s : Session) : Input → Session
  | .line text number => s.perform (.line text number)
  | .reset => s.perform .reset

/-- The session after some inputs. -/
def feedAll (s : Session) (inputs : List Input) : Session := inputs.foldl feed s

/-- **A statement declares a variable**: with a value, without one, or in Python by the first
assignment. -/
def declares (s : Session) (name : Text) : Statement → Prop
  | .declare _ declared init => declared = name ∧ init ≠ []
  | .declareDefault _ declared => declared = name
  | .assign declared _ expr =>
    declared = name ∧ expr ≠ [] ∧ s.language = .python ∧ s.binding? name = none
  | _ => False

/-- An input declares a variable. -/
def Declares (name : Text) (s : Session) : Input → Prop
  | .line text _ => s.declares name (classify s.language text)
  | .reset => False

/-- **An input brings in the value of a variable**: it declares it, or it changes its value. -/
def BringsIn (name : Text) (s : Session) (input : Input) : Prop :=
  Declares name s input ∨ (s.feed input).environment name ≠ s.environment name

/-- **The last input of a kind** in a run. -/
structure LastOf (first : Session) (Kind : Session → Input → Prop) (inputs before : List Input)
    (input : Input) (since : List Input) : Prop where
  split : inputs = before ++ input :: since
  kind : Kind (first.feedAll before) input
  last : ∀ between other behind, since = between ++ other :: behind →
    ¬Kind (first.feedAll (before ++ input :: between)) other

/-- **The values of a name** in a session and after each of some inputs. -/
def valuesHeld (s : Session) (name : Text) (inputs : List Input) : List (Option Text) :=
  (inputs.scanl feed s).map fun s => s.environment name

/-- A variable with its next value. -/
def updated (b : Binding) (value : Text) (line : Nat) : Binding :=
  { b with value, lastModifiedLine := line, history := b.history ++ [value] }

@[simp] lemma updated_declaredLine (b : Binding) (value : Text) (line : Nat) :
    (updated b value line).declaredLine = b.declaredLine := rfl

variable {s s' first : Session} {name other value : Text} {b : Binding}

/-- Another value is taken over. -/
lemma assign?_of_ne (found : s.binding? name = some b) (other : value ≠ b.value) (line : Nat) :
    s.assign? name value line = some (s.setVariable (updated b value line)) := by
  simp [assign?, found, Binding.update?, other, updated]

/-- The value a variable has is not assigned once more. -/
lemma assign?_of_eq (found : s.binding? name = some b) (same : value = b.value) (line : Nat) :
    s.assign? name value line = none := by
  simp [assign?, found, Binding.update?, same]

/-! ## One variable and one input -/

lemma isIdentifier_of_declares {text : Text}
    (h : s.declares name (classify s.language text)) : isIdentifier name = true := by
  have named := Statement.wellNamed_classify s.language text
  cases reading : classify s.language text with
  | declare typeTag declared init =>
      rw [reading] at h named
      exact h.1 ▸ named
  | declareDefault typeTag declared =>
      rw [reading] at h named
      exact h ▸ named
  | assign declared op expr =>
      rw [reading] at h named
      exact h.1 ▸ named
  | _ =>
      rw [reading] at h
      exact h.elim

lemma binding?_setVariable_self (s : Session) (b : Binding) :
    (s.setVariable b).binding? b.name = some b :=
  NameTable.get?_set_self ..

lemma binding?_setVariable_of_ne (s : Session) {b : Binding} (h : name ≠ b.name) :
    (s.setVariable b).binding? name = s.binding? name :=
  NameTable.get?_set_of_ne h ..

/-- **What a line does to a variable**: it declares it, leaves it alone, or gives it another
value. -/
inductive Treats (s : Session) (name : Text) (line : Nat) (st : Statement) (s' : Session) :
    Prop where
  | declared (typeTag value : Text) (declares : s.declares name st)
      (now : s'.binding? name = some (.declare name typeTag value line))
  | kept (other : ¬s.declares name st) (now : s'.binding? name = s.binding? name)
  | changed (other : ¬s.declares name st) {b : Binding} {value : Text}
      (found : s.binding? name = some b) (different : value ≠ b.value)
      (now : s'.binding? name = some (updated b value line))

section

variable {line : Nat} {st : Statement}

lemma treats_declare {typeTag : Text} (name : Text)
    (h : s.declares name st ↔ other = name) :
    s.Treats name line st (s.setVariable (.declare other typeTag value line)) := by
  by_cases same : other = name
  · subst same
    exact .declared typeTag value (h.2 rfl) (binding?_setVariable_self ..)
  · exact .kept (mt h.1 same) (binding?_setVariable_of_ne _ (Ne.symm same))

lemma treats_assign? (line : Nat) (named : s.Named) (other value : Text)
    (no : ¬s.declares name st) : s.Treats name line st ((s.assign? other value line).getD s) := by
  cases found : s.binding? other with
  | none =>
      have none : s.assign? other value line = .none := by rw [assign?, found]
      rw [none]
      exact .kept no rfl
  | some b =>
      by_cases again : value = b.value
      · rw [assign?_of_eq found again]
        exact .kept no rfl
      · rw [assign?_of_ne found again, Option.getD_some]
        have own : b.name = other := named other b found
        by_cases same : name = b.name
        · rw [← own, ← same] at found
          subst same
          exact .changed no found again (binding?_setVariable_self s (updated b value line))
        · exact .kept no (binding?_setVariable_of_ne s same)

/-- An assignment declares a new name in Python, and gives a bound one its value. -/
lemma treats_applyAssign (named : s.Named) (name declared value : Text) {op : Option Sign}
    {expr : Text} (given : expr ≠ []) :
    s.Treats name line (.assign declared op expr) (s.applyAssign line declared value).2 := by
  unfold applyAssign
  cases found : s.binding? declared with
  | none =>
      by_cases python : s.language = .python
      · simp only [python, if_true]
        refine treats_declare name ⟨And.left, ?_⟩
        rintro rfl
        exact ⟨rfl, given, python, found⟩
      · simp only [python, if_false]
        exact .kept (fun declares => python declares.2.2.1) rfl
  | some b =>
      have no : ¬s.declares name (.assign declared op expr) := by
        rintro ⟨rfl, -, -, unbound⟩
        rw [found] at unbound
        cases unbound
      have treated := treats_assign? line named declared value no
      cases assigned : s.assign? declared value line with
      | none =>
          rw [assigned] at treated
          exact treated
      | some s' =>
          rw [assigned] at treated
          exact treated

/-- **All that a statement can do to one variable.** -/
theorem treats_apply (named : s.Named) (name : Text) (line : Nat) (st : Statement) :
    s.Treats name line st (s.act (.statement st line)) := by
  cases st with
  | declare typeTag declared init =>
      simp only [act, apply]
      by_cases missing : init = []
      · subst missing
        exact .kept (fun declares => declares.2 rfl) rfl
      · simp only [List.isEmpty_eq_false_iff.2 missing]
        exact treats_declare name (and_iff_left missing)
  | declareDefault typeTag declared => exact treats_declare name Iff.rfl
  | assign declared op expr =>
      simp only [act, apply]
      by_cases missing : expr = []
      · subst missing
        exact .kept (fun declares => declares.2.1 rfl) rfl
      · simp only [List.isEmpty_eq_false_iff.2 missing]
        exact treats_applyAssign named name declared _ missing
  | step declared direction =>
      simp only [act, apply, applyStep]
      cases (s.binding? declared).bind fun b => Decimal.signedWord? b.value with
      | none => exact .kept id rfl
      | some n =>
          by_cases within : Decimal.fits (n + direction.unit) = true
          · simp only [within, if_true]
            exact treats_assign? line named declared _ id
          · simp only [within]
            exact .kept id rfl
  | leave =>
      simp only [act, apply]
      cases left : s.popFrame? with
      | none => exact .kept id rfl
      | some popped =>
          obtain ⟨stack, same⟩ := popFrame?_eq_some left
          refine .kept id ?_
          simp only [same]
          rfl
  | blank | comment | unrecognized | print | call => exact .kept id rfl

end

/-! ## Runs -/

lemma feedAll_append (s : Session) (inputs later : List Input) :
    s.feedAll (inputs ++ later) = (s.feedAll inputs).feedAll later :=
  List.foldl_append

lemma feedAll_concat (s : Session) (inputs : List Input) (input : Input) :
    s.feedAll (inputs ++ [input]) = (s.feedAll inputs).feed input :=
  feedAll_append s inputs [input]

lemma named_feedAll (named : first.Named) (inputs : List Input) :
    (first.feedAll inputs).Named := by
  induction inputs using List.reverseRecOn with
  | nil => exact named
  | append_singleton inputs input ih =>
      rw [feedAll_concat]
      cases input with
      | line text number => exact ih.moves (moves_perform ih (.line text number))
      | reset => exact ih.moves (moves_perform ih .reset)

variable {Kind : Session → Input → Prop} {inputs before since : List Input} {input : Input}

/-- An input of the kind is the last one as long as it is the latest. -/
lemma LastOf.now (kind : Kind (first.feedAll inputs) input) :
    LastOf first Kind (inputs ++ [input]) inputs input [] where
  split := rfl
  kind := kind
  last := by
    intro between other behind split
    simp at split

/-- It stays the last one until another input of the kind comes. -/
lemma LastOf.concat {other : Input} (h : LastOf first Kind inputs before input since)
    (no : ¬Kind (first.feedAll inputs) other) :
    LastOf first Kind (inputs ++ [other]) before input (since ++ [other]) := by
  obtain ⟨rfl, kind, last⟩ := h
  refine ⟨by simp, kind, fun between op behind split => ?_⟩
  -- what comes later is the new input, or it came later before
  rcases List.eq_nil_or_concat behind with rfl | ⟨rest, latest, rfl⟩
  · obtain ⟨rfl, same⟩ := List.append_inj' split rfl
    cases same
    exact no
  · rw [List.concat_eq_append, ← List.cons_append, ← List.append_assoc] at split
    exact last between op rest (List.append_inj' split rfl).1

/-- What comes after the last input of a kind leads on to the end of the run. -/
lemma LastOf.feedAll_eq (h : LastOf first Kind inputs before input since) :
    (first.feedAll (before ++ [input])).feedAll since = first.feedAll inputs := by
  rw [← feedAll_append, List.append_assoc, List.singleton_append, ← h.split]

lemma valuesHeld_concat (s : Session) (name : Text) (inputs : List Input) (input : Input) :
    s.valuesHeld name (inputs ++ [input]) =
      s.valuesHeld name inputs ++ [((s.feedAll inputs).feed input).environment name] := by
  simp [valuesHeld, feedAll, List.scanl_append]

lemma getLast?_valuesHeld (s : Session) (name : Text) (inputs : List Input) :
    (s.valuesHeld name inputs).getLast? = some ((s.feedAll inputs).environment name) := by
  rw [valuesHeld, List.getLast?_map, List.getLast?_scanl]
  rfl

lemma environment_eq (found : s.binding? name = some b) : s.environment name = some b.value := by
  rw [environment, found]
  rfl

/-! ## Records -/

/-- **What the record of a variable says of a run**: the values it has held since it was declared
last, without repetitions in a row, up to the one it has, and the line of the input that brought
that one in. -/
structure Recorded (first : Session) (inputs : List Input) (name : Text) (b : Binding) :
    Prop where
  name_eq : b.name = name
  identifier : isIdentifier name = true
  held : ∃ text before since,
    LastOf first (Declares name) inputs before (.line text b.declaredLine) since ∧
    Input.reset ∉ since ∧
    b.history.map some =
      ((first.feedAll (before ++ [.line text b.declaredLine])).valuesHeld name since).destutter
        (· ≠ ·)
  ends : b.history.getLast? = some b.value
  latest : ∃ text early late,
    LastOf first (BringsIn name) inputs early (.line text b.lastModifiedLine) late

namespace Recorded

variable {text : Text} {number : Nat}

/-- A declaration begins the record. -/
lemma declared {typeTag : Text}
    (declares : Declares name (first.feedAll inputs) (.line text number))
    (now : (first.feedAll (inputs ++ [.line text number])).binding? name =
      some (.declare name typeTag value number)) :
    Recorded first (inputs ++ [.line text number]) name
      (.declare name typeTag value number) where
  name_eq := rfl
  identifier := isIdentifier_of_declares declares
  held := by
    refine ⟨text, inputs, [], .now declares, List.not_mem_nil, ?_⟩
    simp [valuesHeld, environment_eq now, Binding.declare]
  ends := rfl
  latest := ⟨text, inputs, [], .now (.inl declares)⟩

variable (h : Recorded first inputs name b) (found : (first.feedAll inputs).binding? name = some b)
  (no : ¬Declares name (first.feedAll inputs) (.line text number))
include h found no

/-- A line that leaves a variable alone leaves its record alone. -/
lemma kept (now : (first.feedAll (inputs ++ [.line text number])).binding? name = some b) :
    Recorded first (inputs ++ [.line text number]) name b where
  name_eq := h.name_eq
  identifier := h.identifier
  held := by
    obtain ⟨declaration, before, since, last, clear, held⟩ := h.held
    refine ⟨declaration, before, since ++ [.line text number], last.concat no, by simp [clear], ?_⟩
    rw [feedAll_concat] at now
    rw [valuesHeld_concat, last.feedAll_eq, environment_eq now, destutter_ne_concat,
      getLast?_valuesHeld, last.feedAll_eq, environment_eq found, if_pos rfl, held]
  ends := h.ends
  latest := by
    obtain ⟨modification, early, late, last⟩ := h.latest
    refine ⟨modification, early, late ++ [.line text number], last.concat ?_⟩
    rintro (declares | differs)
    · exact no declares
    · rw [feedAll_concat] at now
      exact differs ((environment_eq now).trans (environment_eq found).symm)

/-- **Another value is added to the record**, with the line that brings it in. -/
lemma changed (different : value ≠ b.value)
    (now : (first.feedAll (inputs ++ [.line text number])).binding? name =
      some (updated b value number)) :
    Recorded first (inputs ++ [.line text number]) name (updated b value number) where
  name_eq := h.name_eq
  identifier := h.identifier
  held := by
    rw [updated_declaredLine]
    obtain ⟨declaration, before, since, last, clear, held⟩ := h.held
    refine ⟨declaration, before, since ++ [.line text number], last.concat no, by simp [clear], ?_⟩
    have apart : some (some b.value) ≠ some (some value) := by simpa using different.symm
    rw [feedAll_concat] at now
    rw [updated, valuesHeld_concat, last.feedAll_eq, environment_eq now, destutter_ne_concat,
      getLast?_valuesHeld, last.feedAll_eq, environment_eq found, updated, if_neg apart,
      List.map_append, held]
    rfl
  ends := List.getLast?_concat
  latest := by
    refine ⟨text, inputs, [], .now (.inr fun same => different ?_)⟩
    rw [feedAll_concat] at now
    rw [environment_eq now, environment_eq found] at same
    exact Option.some.inj same

omit found no

/-- No value stands next to itself in the record. -/
lemma isChain_history : b.history.IsChain (· ≠ ·) := by
  obtain ⟨_, _, _, -, -, held⟩ := h.held
  have apart : (b.history.map some).IsChain (· ≠ ·) := by
    rw [held]
    exact List.isChain_destutter ..
  rw [List.isChain_map] at apart
  exact apart.imp fun _ _ differ same => differ (congrArg some same)

end Recorded

/-- **Every variable of every run has its record.** -/
theorem recorded_feedAll (language : Language) (settings : Settings) (inputs : List Input)
    (found : ((start language settings).feedAll inputs).binding? name = some b) :
    Recorded (start language settings) inputs name b := by
  induction inputs using List.reverseRecOn generalizing b with
  | nil => cases found
  | append_singleton inputs input ih =>
      cases input with
      | reset =>
          -- nothing is bound then
          rw [feedAll_concat] at found
          cases found
      | line text number =>
          have treated : Treats ((start language settings).feedAll inputs) name number
              (classify ((start language settings).feedAll inputs).language text)
              ((start language settings).feedAll (inputs ++ [.line text number])) := by
            rw [feedAll_concat]
            exact treats_apply (named_feedAll (named_start language settings) inputs) name number _
          cases treated with
          | declared typeTag value declares now =>
              rw [now] at found
              cases found
              exact .declared declares now
          | kept other now =>
              rw [now] at found
              exact (ih found).kept found other (now.trans found)
          | changed other before different now =>
              rw [now] at found
              cases found
              exact (ih before).changed before other different now

/-- **Records are faithful.**  After any lines and resets every variable stands under its own name,
which is an identifier.  Its history is the sequence of the values it has held since the last input
that declared it, without repetitions in a row; so it is not empty, ends with the value the variable
has, and no value in it stands next to itself.  And the line it was modified on last is that of the
last input that declared it or changed its value. -/
theorem records_are_faithful (language : Language) (settings : Settings) (inputs : List Input)
    {name : Text} {b : Binding}
    (found : ((start language settings).feedAll inputs).binding? name = some b) :
    let first := start language settings
    b.name = name ∧ isIdentifier name = true ∧
      (∃ text before since,
        LastOf first (Declares name) inputs before (.line text b.declaredLine) since ∧
        Input.reset ∉ since ∧
        b.history.map some =
          ((first.feedAll (before ++ [.line text b.declaredLine])).valuesHeld name
            since).destutter (· ≠ ·)) ∧
      b.history ≠ [] ∧ b.history.getLast? = some b.value ∧ b.history.IsChain (· ≠ ·) ∧
      ∃ text early late,
        LastOf first (BringsIn name) inputs early (.line text b.lastModifiedLine) late := by
  intro first
  have recorded := recorded_feedAll language settings inputs found
  refine ⟨recorded.name_eq, recorded.identifier, recorded.held, ?_, recorded.ends,
    recorded.isChain_history, recorded.latest⟩
  intro empty
  have ends := recorded.ends
  rw [empty] at ends
  cases ends

/-- A variable that is declared twice, given the value it has, stepped and changed back; and nothing
of it is left after a reset. -/
theorem records_are_faithful_redeclared :
    let inputs : List Input := [.line "int x = 1;" 1, .reset, .line "int x = 1;" 2,
      .line "x = 7;" 3, .line "int x = 5;" 4, .line "x = 5;" 5, .line "x++;" 6, .line "x -= 1;" 7,
      .line "x = 5;" 8]
    let b : Binding := ⟨"x", "int", "5", 4, 7, ["5", "6", "5"]⟩
    ((start .java .standard).feedAll inputs).binding? "x" = some b ∧
      ((start .java .standard).feedAll (inputs ++ [.reset])).binding? "x" = none ∧
      (∃ text before since,
        LastOf (start .java .standard) (Declares "x") inputs before (.line text 4) since) ∧
      ∃ text early late,
        LastOf (start .java .standard) (BringsIn "x") inputs early (.line text 7) late := by
  intro inputs b
  have found : ((start .java .standard).feedAll inputs).binding? "x" = some b := by decide +kernel
  obtain ⟨-, -, ⟨text, before, since, declared, -⟩, -, -, -, latest⟩ :=
    records_are_faithful .java .standard inputs found
  exact ⟨found, rfl, ⟨text, before, since, declared⟩, latest⟩

end Session

end SnippetLab
