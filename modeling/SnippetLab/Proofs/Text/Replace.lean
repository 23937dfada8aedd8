import Mathlib.Data.List.Induction
import SnippetLab.Proofs.Text.Parts

/-!
# Replacing pieces of a text

`replaceAll` replaces one piece, and several pieces are replaced in rounds, each on what the round
before has left.  What the rounds come to together is said by `Replaced`, which passes over the text
once, from the left: **where a piece begins it puts in what belongs to that piece, and everywhere
else it keeps the character**.

* `Replaced.replaceAll`, `replaced_replaceInTurn` — rounds are one pass, if no piece reaches into
  another and what is put in stands between marks that no piece holds.  A later round still finds
  its piece in what an earlier one has put in, so what belongs to a piece is its `filling`.
* `Replaced.count_le`, `Replaced.count_lt` — characters that the pieces do not hold only get more.
* `replaceInTurn_eq_self` — rounds leave a text alone exactly if no piece stands in it.
* `length_lines` — a text has as many lines as line feeds, and one more if the last line is open.
-/

namespace SnippetLab

namespace Text

/-! ## One round -/

lemma replaceFrom_eq (old new : Text) (skip : Nat) (t : Text) :
    replaceFrom old new skip t = replaceAll old new (t.drop skip) := by
  induction t generalizing skip with
  | nil => rw [List.drop_nil]; rfl
  | cons c r ih =>
      cases skip with
      | zero => rfl
      | succ n => exact ih n

lemma replaceAll_append {old : Text} (nonempty : old ≠ []) (new r : Text) :
    replaceAll old new (old ++ r) = new ++ replaceAll old new r := by
  obtain ⟨c, old', rfl⟩ := List.exists_cons_of_ne_nil nonempty
  have here : startsWith (c :: (old' ++ r)) (c :: old') = true :=
    startsWith_iff.2 (List.prefix_append (c :: old') r)
  rw [List.cons_append, replaceAll, replaceFrom]
  simp [here, replaceFrom_eq]

lemma replaceAll_cons {old r : Text} {c : Char} (h : ¬ old <+: c :: r) (new : Text) :
    replaceAll old new (c :: r) = c :: replaceAll old new r := by
  rw [replaceAll, replaceFrom]
  simp [startsWith_eq_false_iff.2 h, replaceAll]

/-- **A mark that the piece does not hold cuts a round in two.** -/
lemma replaceAll_append_cons {old : Text} {mark : Char} (nonempty : old ≠ []) (plain : mark ∉ old)
    (new a b : Text) : replaceAll old new (a ++ mark :: b) =
      replaceAll old new a ++ mark :: replaceAll old new b := by
  induction size : a.length using Nat.strong_induction_on generalizing a with
  | h n ih =>
      by_cases here : old <+: a ++ mark :: b
      · obtain ⟨a', rfl⟩ := isPrefix_of_append_cons plain here
        have shorter : a'.length < n := by
          have positive := List.length_pos_iff.2 nonempty
          rw [List.length_append] at size
          omega
        rw [List.append_assoc, replaceAll_append nonempty, replaceAll_append nonempty,
          ih a'.length shorter a' rfl, List.append_assoc]
      · cases a with
        | nil => exact replaceAll_cons here new
        | cons c r =>
            have absent : ¬ old <+: c :: r := fun found =>
              here (found.trans (List.prefix_append _ _))
            have later := ih r.length (by rw [← size]; exact Nat.lt_succ_self _) r rfl
            rw [replaceAll_cons absent, List.cons_append, List.cons_append, ← later]
            exact replaceAll_cons here new

/-! ## One pass -/

/-- **One pass over a text** that puts something else in place of some pieces: nothing is put in
anywhere else, and no piece is passed over. -/
inductive Replaced (olds : List Text) (new : Text → Text) : Text → Text → Prop where
  | nil : Replaced olds new [] []
  | piece {old : Text} (listed : old ∈ olds) {t out : Text} (rest : Replaced olds new t out) :
      Replaced olds new (old ++ t) (new old ++ out)
  | other {c : Char} {t out : Text} (absent : ∀ old ∈ olds, ¬ old <+: c :: t)
      (rest : Replaced olds new t out) : Replaced olds new (c :: t) (c :: out)

namespace Replaced

variable {olds : List Text} {new : Text → Text} {t out : Text}

/-- Without pieces nothing is replaced. -/
lemma refl (new : Text → Text) (t : Text) : Replaced [] new t t := by
  induction t with
  | nil => exact .nil
  | cons c r ih => exact .other (fun _ listed => absurd listed List.not_mem_nil) ih

/-- Only what is put in for the pieces matters. -/
lemma congr {new' : Text → Text} (h : Replaced olds new t out)
    (same : ∀ old ∈ olds, new old = new' old) : Replaced olds new' t out := by
  induction h with
  | nil => exact .nil
  | piece listed _ ih =>
      rw [same _ listed]
      exact .piece listed ih
  | other absent _ ih => exact .other absent ih

lemma eq_of_absent (h : Replaced olds new t out) (absent : ∀ old ∈ olds, ¬ old <:+: t) :
    out = t := by
  induction h with
  | nil => rfl
  | piece listed _ _ => exact absurd (List.prefix_append _ _).isInfix (absent _ listed)
  | @other c t out _ _ ih =>
      rw [ih fun old listed found => absent old listed (found.trans (List.suffix_cons c t).isInfix)]

/-- **What is not put in was there**: a text without the mark and without the beginning of any piece
begins the one side exactly if it begins the other, and the pass goes on behind it. -/
lemma exists_of_isPrefix {p : Text} (h : Replaced olds new t out)
    (begun : ∀ old ∈ olds, ∃ c r, old = c :: r ∧ c ∉ p)
    (marked : ∀ old ∈ olds, ∃ mark r, new old = mark :: r ∧ mark ∉ p)
    (found : p <+: t ∨ p <+: out) :
    ∃ t' out', t = p ++ t' ∧ out = p ++ out' ∧ Replaced olds new t' out' := by
  induction p generalizing t out with
  | nil => exact ⟨t, out, rfl, rfl, h⟩
  | cons y p ih =>
      cases h with
      | nil => rcases found with found | found <;> exact absurd (List.prefix_nil.1 found) (by simp)
      | piece listed rest =>
          obtain ⟨c, r, rfl, begins⟩ := begun _ listed
          obtain ⟨mark, r', put, marks⟩ := marked _ listed
          rw [put] at found
          rcases found with found | found
          · exact absurd (List.mem_cons.2 (.inl (List.cons_prefix_cons.1 found).1.symm)) begins
          · exact absurd (List.mem_cons.2 (.inl (List.cons_prefix_cons.1 found).1.symm)) marks
      | other absent rest =>
          rw [List.cons_prefix_cons, List.cons_prefix_cons, ← and_or_left] at found
          obtain ⟨rfl, found⟩ := found
          obtain ⟨t', out', rfl, rfl, behind⟩ := ih rest
            (fun old listed => by
              obtain ⟨c, r, same, begins⟩ := begun old listed
              exact ⟨c, r, same, fun inside => begins (List.mem_cons_of_mem y inside)⟩)
            (fun old listed => by
              obtain ⟨mark, r, put, marks⟩ := marked old listed
              exact ⟨mark, r, put, fun inside => marks (List.mem_cons_of_mem y inside)⟩) found
          exact ⟨t', out', rfl, rfl, behind⟩

/-- **One round more is one piece more.**  The round finds its piece where the text has it, since no
other piece begins inside it and what was put in is fenced off; and it goes over what was put in. -/
theorem replaceAll {old : Text} (h : Replaced olds new t out) (value : Text)
    (nonempty : old ≠ []) (other : old ∉ olds)
    (begun : ∀ o ∈ olds, ∃ c r, o = c :: r ∧ c ∉ old.tail)
    (fenced : ∀ o ∈ olds, ∃ mark body, new o = mark :: (body ++ [mark]) ∧ mark ∉ old) :
    Replaced (olds ++ [old])
      (fun o => if o = old then value else Text.replaceAll old value (new o)) t
      (Text.replaceAll old value out) := by
  have marked : ∀ o ∈ olds, ∃ mark r, new o = mark :: r ∧ mark ∉ old.tail := fun o listed => by
    obtain ⟨mark, body, put, plain⟩ := fenced o listed
    exact ⟨mark, _, put, fun inside => plain (List.mem_of_mem_tail inside)⟩
  -- on the length of the text: at the piece itself the pass goes on behind it
  induction size : t.length using Nat.strong_induction_on generalizing t out with
  | h n ih =>
      cases h with
      | nil => exact .nil
      | @piece o listed t out rest =>
          obtain ⟨mark, body, put, plain⟩ := fenced o listed
          have shorter : t.length < n := by
            obtain ⟨c, r, rfl, -⟩ := begun o listed
            rw [List.length_append, List.length_cons] at size
            omega
          have split : Text.replaceAll old value (new o ++ out) =
              Text.replaceAll old value (new o) ++ Text.replaceAll old value out := by
            rw [put, ← List.cons_append, List.append_assoc, List.singleton_append,
              replaceAll_append_cons nonempty plain, replaceAll_append_cons nonempty plain,
              List.append_assoc]
            rfl
          have different : o ≠ old := fun same => other (same ▸ listed)
          have passed := Replaced.piece (List.mem_append_left [old] listed)
            (ih t.length shorter rest rfl)
          rw [if_neg different] at passed
          rw [split]
          exact passed
      | @other c t out absent rest =>
          obtain ⟨d, body, rfl⟩ := List.exists_cons_of_ne_nil nonempty
          by_cases here : d :: body <+: c :: t
          · obtain ⟨rfl, found⟩ := List.cons_prefix_cons.1 here
            obtain ⟨t', out', rfl, rfl, behind⟩ := rest.exists_of_isPrefix begun marked (.inl found)
            have shorter : t'.length < n := by
              rw [List.length_cons, List.length_append] at size
              omega
            have passed := Replaced.piece (List.mem_append_right olds List.mem_cons_self)
              (ih t'.length shorter behind rfl)
            rw [if_pos rfl, ← replaceAll_append nonempty] at passed
            exact passed
          · have there : ¬ d :: body <+: c :: out := fun found => by
              obtain ⟨rfl, behind⟩ := List.cons_prefix_cons.1 found
              obtain ⟨t', out', rfl, -, -⟩ := rest.exists_of_isPrefix begun marked (.inr behind)
              exact here (List.prefix_append (d :: body) t')
            rw [replaceAll_cons there]
            refine .other ?_ (ih _ (by rw [← size]; exact Nat.lt_succ_self _) rest rfl)
            intro o listed
            rcases List.mem_append.1 listed with listed | listed
            · exact absent o listed
            · rw [List.mem_singleton.1 listed]
              exact here

/-! ### Counting -/

section Counting

variable {mark : Char} (plain : ∀ old ∈ olds, mark ∉ old)

include plain

lemma count_le (h : Replaced olds new t out) : t.count mark ≤ out.count mark := by
  induction h with
  | nil => exact Nat.le_refl _
  | piece listed _ ih =>
      rw [List.count_append, List.count_append, List.count_eq_zero.2 (plain _ listed)]
      omega
  | other _ _ ih =>
      rw [List.count_cons, List.count_cons]
      omega

/-- A mark that every piece brings in is there more often, if there is a piece. -/
lemma count_lt (h : Replaced olds new t out) (marked : ∀ old ∈ olds, mark ∈ new old)
    (occurs : ∃ old ∈ olds, old <:+: t) (nonempty : ∀ old ∈ olds, old ≠ []) :
    t.count mark < out.count mark := by
  induction h with
  | nil =>
      obtain ⟨old, listed, found⟩ := occurs
      exact absurd (List.eq_nil_of_infix_nil found) (nonempty old listed)
  | piece listed rest _ =>
      have more := rest.count_le plain
      have one := List.count_pos_iff.2 (marked _ listed)
      rw [List.count_append, List.count_append, List.count_eq_zero.2 (plain _ listed)]
      omega
  | other absent _ ih =>
      obtain ⟨old, listed, found⟩ := occurs
      have later := (List.infix_cons_iff.1 found).resolve_left (absent old listed)
      have more := ih ⟨old, listed, later⟩
      rw [List.count_cons, List.count_cons]
      omega

lemma count_eq (h : Replaced olds new t out) (unmarked : ∀ old ∈ olds, mark ∉ new old) :
    out.count mark = t.count mark := by
  induction h with
  | nil => rfl
  | piece listed _ ih =>
      rw [List.count_append, List.count_append, List.count_eq_zero.2 (plain _ listed),
        List.count_eq_zero.2 (unmarked _ listed), ih]
  | other _ _ ih => rw [List.count_cons, List.count_cons, ih]

end Counting

end Replaced

/-! ## Rounds -/

/-- A round is a pass for its own piece. -/
lemma replaced_replaceAll {old : Text} (nonempty : old ≠ []) (new t : Text) :
    Replaced [old] (fun _ => new) t (replaceAll old new t) := by
  have passed := (Replaced.refl (fun _ => new) t).replaceAll new nonempty
    List.not_mem_nil (fun _ listed => absurd listed List.not_mem_nil)
    (fun _ listed => absurd listed List.not_mem_nil)
  refine passed.congr fun o listed => ?_
  rw [List.mem_singleton.1 listed, if_pos rfl]

/-- The pieces of a list that come after one of them. -/
def piecesAfter (old : Text) : List Text → List Text
  | [] => []
  | o :: rest => if o = old then rest else piecesAfter old rest

lemma piecesAfter_append {old : Text} {olds : List Text} (listed : old ∈ olds)
    (more : List Text) : piecesAfter old (olds ++ more) = piecesAfter old olds ++ more := by
  induction olds with
  | nil => exact absurd listed List.not_mem_nil
  | cons o rest ih =>
      by_cases same : o = old
      · simp [piecesAfter, same]
      · have later := (List.mem_cons.1 listed).resolve_left fun h => same h.symm
        simp [piecesAfter, same, ih later]

lemma piecesAfter_last {old : Text} {olds : List Text} (other : old ∉ olds) :
    piecesAfter old (olds ++ [old]) = [] := by
  induction olds with
  | nil => simp [piecesAfter]
  | cons o rest ih =>
      rw [List.mem_cons, not_or] at other
      simp [piecesAfter, Ne.symm other.1, ih other.2]

lemma mem_of_mem_piecesAfter {old o : Text} {olds : List Text} (h : o ∈ piecesAfter old olds) :
    o ∈ olds := by
  induction olds with
  | nil => exact h
  | cons head rest ih =>
      unfold piecesAfter at h
      split at h
      · exact List.mem_cons_of_mem head h
      · exact List.mem_cons_of_mem head (ih h)

/-- Replace some pieces in rounds. -/
def replaceInTurn (olds : List Text) (new t : Text) : Text :=
  olds.foldl (fun t old => replaceAll old new t) t

/-- **What stands in place of a piece after all rounds**: the rounds after its own go over what it
has put in. -/
def filling (olds : List Text) (new old : Text) : Text :=
  replaceInTurn (piecesAfter old olds) new new

/-- Pieces that do not reach into one another, and do not hold a mark. -/
structure Apart (mark : Char) (olds : List Text) : Prop where
  solid : ∀ old ∈ olds, old ≠ [] ∧ mark ∉ old
  /-- No piece begins inside one that comes later. -/
  pairwise : olds.Pairwise fun old later => old ≠ later ∧ ∀ c ∈ old.head?, c ∉ later.tail

/-- Rounds keep a fence. -/
lemma exists_fenced_replaceInTurn {mark : Char} {olds : List Text}
    (solid : ∀ old ∈ olds, old ≠ [] ∧ mark ∉ old) (new body : Text) :
    ∃ body', replaceInTurn olds new (mark :: (body ++ [mark])) = mark :: (body' ++ [mark]) := by
  induction olds generalizing body with
  | nil => exact ⟨body, rfl⟩
  | cons old rest ih =>
      obtain ⟨⟨nonempty, plain⟩, later⟩ := List.forall_mem_cons.1 solid
      have split : replaceAll old new (mark :: (body ++ [mark])) =
          mark :: (replaceAll old new body ++ [mark]) := by
        have cut := replaceAll_append_cons nonempty plain new [] (body ++ [mark])
        rw [replaceAll_append_cons nonempty plain new body []] at cut
        exact cut
      obtain ⟨body', same⟩ := ih later (replaceAll old new body)
      refine ⟨body', ?_⟩
      rw [← same, ← split]
      rfl

/-- **Rounds are one pass**, which puts its filling in place of each piece. -/
theorem replaced_replaceInTurn {mark : Char} {olds : List Text} (apart : Apart mark olds)
    (body t : Text) : Replaced olds (filling olds (mark :: (body ++ [mark]))) t
      (replaceInTurn olds (mark :: (body ++ [mark])) t) := by
  induction olds using List.reverseRecOn with
  | nil => exact .refl _ t
  | append_singleton olds old ih =>
      have before : Apart mark olds :=
        ⟨fun o listed => apart.solid o (List.mem_append_left _ listed),
          (List.pairwise_append.1 apart.pairwise).1⟩
      have against : ∀ o ∈ olds, o ≠ old ∧ ∀ c ∈ o.head?, c ∉ old.tail := fun o listed =>
        (List.pairwise_append.1 apart.pairwise).2.2 o listed old List.mem_cons_self
      obtain ⟨nonempty, plain⟩ := apart.solid old (List.mem_append_right _ List.mem_cons_self)
      have other : old ∉ olds := fun listed => (against old listed).1 rfl
      have begun : ∀ o ∈ olds, ∃ c r, o = c :: r ∧ c ∉ old.tail := fun o listed => by
        obtain ⟨c, r, rfl⟩ := List.exists_cons_of_ne_nil (before.solid o listed).1
        exact ⟨c, r, rfl, (against _ listed).2 c rfl⟩
      have fenced : ∀ o ∈ olds, ∃ m body',
          filling olds (mark :: (body ++ [mark])) o = m :: (body' ++ [m]) ∧ m ∉ old :=
        fun o _ => by
          obtain ⟨body', same⟩ := exists_fenced_replaceInTurn
            (fun later found => before.solid later (mem_of_mem_piecesAfter found))
            (mark :: (body ++ [mark])) body
          exact ⟨mark, body', same, plain⟩
      have passed := (ih before).replaceAll (mark :: (body ++ [mark])) nonempty other
        begun fenced
      rw [replaceInTurn, List.foldl_concat]
      refine passed.congr fun o listed => ?_
      rcases List.mem_append.1 listed with listed | listed
      · rw [if_neg (against o listed).1, filling, filling, piecesAfter_append listed,
          replaceInTurn, replaceInTurn, List.foldl_concat]
      · rw [List.mem_singleton.1 listed, if_pos rfl, filling, piecesAfter_last other]
        rfl

section Marks

variable {mark : Char} {olds : List Text} (solid : ∀ old ∈ olds, old ≠ [] ∧ mark ∉ old) (new : Text)

include solid

/-- No round takes a mark away. -/
lemma count_le_replaceInTurn (t : Text) : t.count mark ≤ (replaceInTurn olds new t).count mark := by
  induction olds generalizing t with
  | nil => exact Nat.le_refl _
  | cons old rest ih =>
      obtain ⟨⟨nonempty, plain⟩, later⟩ := List.forall_mem_cons.1 solid
      have plain' : ∀ o ∈ [old], mark ∉ o := by simpa using plain
      have round := (replaced_replaceAll nonempty new t).count_le plain'
      exact round.trans (ih later (replaceAll old new t))

/-- Rounds bring in a mark, or none, as long as the text had one, or none. -/
lemma mem_replaceInTurn_iff {t : Text} (same : mark ∈ t ↔ mark ∈ new) :
    mark ∈ replaceInTurn olds new t ↔ mark ∈ new := by
  induction olds generalizing t with
  | nil => exact same
  | cons old rest ih =>
      obtain ⟨⟨nonempty, plain⟩, later⟩ := List.forall_mem_cons.1 solid
      have round := replaced_replaceAll nonempty new t
      have plain' : ∀ o ∈ [old], mark ∉ o := by simpa using plain
      refine ih later ?_
      by_cases marked : mark ∈ new
      · have more := round.count_le plain'
        have one := List.count_pos_iff.2 (same.2 marked)
        exact iff_of_true (List.count_pos_iff.1 (Nat.lt_of_lt_of_le one more)) marked
      · have none := round.count_eq plain' (by simpa using marked)
        rw [List.count_eq_zero.2 (mt same.1 marked)] at none
        exact iff_of_false (List.count_eq_zero.1 none) marked

/-- **Rounds leave a text alone exactly if no piece stands in it**: every piece that does brings in
a mark, and no round takes one away. -/
theorem replaceInTurn_eq_self (marked : mark ∈ new) (t : Text) :
    replaceInTurn olds new t = t ↔ ∀ old ∈ olds, ¬ old <:+: t := by
  induction olds with
  | nil => exact ⟨fun _ _ listed => absurd listed List.not_mem_nil, fun _ => rfl⟩
  | cons old rest ih =>
      obtain ⟨⟨nonempty, plain⟩, later⟩ := List.forall_mem_cons.1 solid
      have round := replaced_replaceAll nonempty new t
      by_cases found : old <:+: t
      · have plain' : ∀ o ∈ [old], mark ∉ o := by simpa using plain
        have more := round.count_lt plain' (by simpa using marked)
          ⟨old, List.mem_cons_self, found⟩ (by simpa using nonempty)
        have most := count_le_replaceInTurn later new (replaceAll old new t)
        constructor
        · intro same
          have counted : (replaceInTurn rest new (replaceAll old new t)).count mark =
              t.count mark := congrArg (List.count mark) same
          omega
        · exact fun absent => absurd found (absent old List.mem_cons_self)
      · have kept : replaceAll old new t = t := round.eq_of_absent (by simpa using found)
        have rounds : replaceInTurn (old :: rest) new t = replaceInTurn rest new t :=
          congrArg (replaceInTurn rest new) kept
        rw [List.forall_mem_cons, rounds]
        exact ⟨fun same => ⟨found, (ih later).1 same⟩, fun absent => (ih later).2 absent.2⟩

end Marks

/-! ## Lines -/

/-- Is there a last line that no line feed ends? -/
def endsOpen (t : Text) : Bool := t.getLast?.any (· != '\n')

lemma endsOpen_append (a : Text) {b : Text} (nonempty : b ≠ []) :
    endsOpen (a ++ b) = endsOpen b := by
  rw [endsOpen, endsOpen, List.getLast?_append_of_ne_nil a nonempty]

lemma lines_ne_nil {t : Text} (nonempty : t ≠ []) : t.lines ≠ [] := by
  unfold lines
  split
  · exact absurd rfl nonempty
  · simp
  · simp
  · unfold Text.consHead
    split <;> simp

/-- **A text has as many lines as line feeds, and one more if its last line is open.** -/
theorem length_lines (t : Text) : t.lines.length = t.count '\n' + (endsOpen t).toNat := by
  induction t using lines.induct with
  | case1 => rfl
  | case2 r ih =>
      have ends : endsOpen ('\n' :: r) = endsOpen r := by
        cases r with
        | nil => rfl
        | cons d r => exact endsOpen_append ['\n'] (List.cons_ne_nil d r)
      rw [lines, List.length_cons, ih, ends, List.count_cons_self]
      omega
  | case3 r ih =>
      have ends : endsOpen ('\r' :: '\n' :: r) = endsOpen r := by
        cases r with
        | nil => rfl
        | cons d r => exact endsOpen_append ['\r', '\n'] (List.cons_ne_nil d r)
      rw [lines, List.length_cons, ih, ends, List.count_cons_of_ne (by decide),
        List.count_cons_self]
      omega
  | case4 c r feed ending ih =>
      have other : c ≠ '\n' := fun same => feed same
      rw [lines, List.count_cons_of_ne other]
      · cases r with
        | nil =>
            have isOpen : endsOpen [c] = true := by simpa [endsOpen] using other
            rw [isOpen]
            rfl
        | cons d r =>
            obtain ⟨line, rest, same⟩ := List.exists_cons_of_ne_nil
              (lines_ne_nil (List.cons_ne_nil d r))
            have ends : endsOpen (c :: d :: r) = endsOpen (d :: r) :=
              endsOpen_append [c] (List.cons_ne_nil d r)
            rw [ends, ← ih, same]
            rfl
      · exact feed
      · exact ending

/-- A pass that puts in open ends for open ends leaves an open end open. -/
lemma Replaced.endsOpen_eq {olds : List Text} {new : Text → Text} {t out : Text}
    (h : Replaced olds new t out)
    (ends : ∀ old ∈ olds, endsOpen old = true ∧ endsOpen (new old) = true) :
    endsOpen out = endsOpen t ∧ (out = [] ↔ t = []) := by
  have nonempty : ∀ u : Text, endsOpen u = true → u ≠ [] := by
    rintro _ isOpen rfl
    cases isOpen
  induction h with
  | nil => exact ⟨rfl, Iff.rfl⟩
  | @piece old listed t out _ ih =>
      obtain ⟨ends, ends'⟩ := ends old listed
      refine ⟨?_, by simp [nonempty _ ends, nonempty _ ends']⟩
      by_cases last : t = []
      · rw [ih.2.2 last, last, List.append_nil, List.append_nil, ends, ends']
      · rw [endsOpen_append _ last, endsOpen_append _ fun h => last (ih.2.1 h), ih.1]
  | @other c t out _ _ ih =>
      refine ⟨?_, by simp⟩
      by_cases last : t = []
      · rw [ih.2.2 last, last]
      · rw [← List.singleton_append, ← List.singleton_append (l := t), endsOpen_append _ last,
          endsOpen_append _ fun h => last (ih.2.1 h), ih.1]

end Text

end SnippetLab
