import Mathlib.Tactic.Lemma
import SnippetLab.Json.Reader
import SnippetLab.Json.Writer
import SnippetLab.Proofs.Decimal.Numeral
import SnippetLab.Proofs.Text.Parts

/-!
# Written strings and numbers are read back

A string is read back character by character, whatever has to be escaped in it.  A number or a
constant is read up to the mark behind it, and **an integer of 64 bits is read as itself**; what a
double is read as is left open here, since doubles are read quickly rather than exactly.

* `tokensFrom?_quote` — a string.
* `tokensFrom?_number`, `tokensFrom?_constant` — a number or a constant, with a mark behind it.
* `number?_ofInt` — an integer of 64 bits.
* `isNumeral_doubleText` — a finite double is written as a number.
-/

namespace SnippetLab.Json

open Decimal

/-! ## Reading on -/

lemma tokensFrom?_of_next? {reading reading' : Reading} {c : Char} (r : Text)
    (h : reading.next? c = some (reading', [])) :
    tokensFrom? reading (c :: r) = tokensFrom? reading' r := by
  rw [tokensFrom?, h]
  exact Option.map_id'

/-- A mark is a token by itself. -/
lemma tokensFrom?_mark {c : Char} {token : Token} (r : Text)
    (h : begin? c = some (.between, [token])) :
    tokensFrom? .between (c :: r) = (tokensFrom? .between r).map (token :: ·) := by
  rw [tokensFrom?, Reading.next?, h]
  rfl

/-! ## Strings -/

lemma hexDigit?_hexDigit : ∀ n < 16, hexDigit? (hexDigit n) = some n := by decide

/-- A character that is escaped by a letter. -/
lemma tokensFrom?_letter (read : Text) {c letter : Char} (named : escaped? letter = some c)
    (rest : Text) (number : letter ≠ 'u') :
    tokensFrom? (.string read) ('\\' :: letter :: rest) =
      tokensFrom? (.string (c :: read)) rest := by
  have backslash : Reading.next? '\\' (.string read) = some (.escape read, []) := rfl
  have escape : Reading.next? letter (.escape read) = some (.string (c :: read), []) := by
    rw [Reading.next?, if_neg number, named]
    rfl
  rw [tokensFrom?_of_next? _ backslash, tokensFrom?_of_next? _ escape]

/-- A digit of a number that escapes a character. -/
lemma tokensFrom?_digit (read : Text) {n : Nat} (small : n < 16) (count code : Nat)
    (early : count < 3) (rest : Text) :
    tokensFrom? (.unicode read none count code) (hexDigit n :: rest) =
      tokensFrom? (.unicode read none (count + 1) (code * 16 + n)) rest := by
  refine tokensFrom?_of_next? _ ?_
  rw [Reading.next?, hexDigit?_hexDigit n small]
  exact if_pos early

/-- A control character is escaped by its number. -/
lemma tokensFrom?_control (read : Text) {c : Char} (control : c.toNat < 0x20) (rest : Text) :
    tokensFrom? (.string read)
        ('\\' :: 'u' :: '0' :: '0' :: hexDigit (c.toNat / 16) :: hexDigit (c.toNat % 16) :: rest) =
      tokensFrom? (.string (c :: read)) rest := by
  have backslash : Reading.next? '\\' (.string read) = some (.escape read, []) := rfl
  have number : Reading.next? 'u' (.escape read) = some (.unicode read none 0 0, []) := rfl
  have code : (c.toNat / 16) * 16 + c.toNat % 16 = c.toNat := Nat.div_add_mod' _ _
  have last : Reading.next? (hexDigit (c.toNat % 16)) (.unicode read none 3 (c.toNat / 16)) =
      some (.string (c :: read), []) := by
    have whole : unicodeDone read none c.toNat = some (.string (c :: read)) := by
      have high : isHighHalf c.toNat = false := by simp [isHighHalf]; omega
      have low : isLowHalf c.toNat = false := by simp [isLowHalf]; omega
      simp only [unicodeDone, high, low, Bool.false_eq_true, if_false, Char.ofNat_toNat]
    rw [Reading.next?, hexDigit?_hexDigit _ (by omega)]
    dsimp only
    rw [if_neg (Nat.lt_irrefl 3), code, whole]
    rfl
  have zero : hexDigit 0 = '0' := rfl
  rw [tokensFrom?_of_next? _ backslash, tokensFrom?_of_next? _ number, ← zero,
    tokensFrom?_digit read (by omega) 0 0 (by omega),
    tokensFrom?_digit read (by omega) 1 _ (by omega),
    tokensFrom?_digit read (by omega) 2 _ (by omega), Nat.zero_mul, Nat.zero_add]
  exact tokensFrom?_of_next? _ last

/-- **A character is read back from how it stands in a string.** -/
lemma tokensFrom?_escapeChar (read : Text) (c : Char) (rest : Text) :
    tokensFrom? (.string read) (escapeChar c ++ rest) = tokensFrom? (.string (c :: read)) rest := by
  unfold escapeChar
  split
  · exact tokensFrom?_letter read rfl rest (by decide)
  · exact tokensFrom?_letter read rfl rest (by decide)
  · exact tokensFrom?_letter read rfl rest (by decide)
  · exact tokensFrom?_letter read rfl rest (by decide)
  · exact tokensFrom?_letter read rfl rest (by decide)
  · exact tokensFrom?_letter read rfl rest (by decide)
  · exact tokensFrom?_letter read rfl rest (by decide)
  · rename_i quote backslash _ _ _ _ _
    split
    · rename_i control
      exact tokensFrom?_control read control rest
    · rename_i plain
      refine tokensFrom?_of_next? _ ?_
      rw [Reading.next?, if_neg quote, if_neg backslash, if_neg plain]

/-- **A string is read back**, and then what comes behind it. -/
theorem tokensFrom?_quote (t rest : Text) :
    tokensFrom? .between (quote t ++ rest) =
      (tokensFrom? .between rest).map (.string t :: ·) := by
  have inside (read : Text) : tokensFrom? (.string read) (t.flatMap escapeChar ++ '"' :: rest) =
      (tokensFrom? .between rest).map (.string (read.reverse ++ t) :: ·) := by
    induction t generalizing read with
    | nil =>
        rw [List.flatMap_nil, List.nil_append, tokensFrom?, List.append_nil]
        rfl
    | cons c r ih =>
        rw [List.flatMap_cons, List.append_assoc, tokensFrom?_escapeChar, ih, List.reverse_cons,
          List.append_assoc, List.singleton_append]
  have opened := inside []
  have quote : Reading.next? '"' .between = some (.string [], []) := rfl
  rw [← tokensFrom?_of_next? _ quote] at opened
  rw [Json.quote, List.cons_append, List.append_assoc]
  exact opened

/-! ## Numbers and constants -/

/-- **A text in which a number or a constant ends at once**: it is empty or begins with a mark that
ends a value. -/
def EndsValue (rest : Text) : Prop := ∀ c ∈ rest.head?, c = ',' ∨ c = ']' ∨ c = '\x7d'

lemma endsValue_nil : EndsValue [] := nofun

lemma endsValue_cons {c : Char} (mark : c = ',' ∨ c = ']' ∨ c = '\x7d') (r : Text) :
    EndsValue (c :: r) := by
  intro d same
  cases same
  exact mark

/-- What is owed when a number or a constant has ended. -/
def scalarThen (value : Option Json) (rest : Text) : Option (List Token) :=
  value.bind fun v => (tokensFrom? .between rest).map (.scalar v :: ·)

/-- A mark that ends a value is read again as the mark that it is. -/
lemma begin?_of_endsValue {c : Char} (mark : c = ',' ∨ c = ']' ∨ c = '\x7d') :
    ∃ token, begin? c = some (.between, [token]) := by
  rcases mark with rfl | rfl | rfl
  · exact ⟨.comma, rfl⟩
  · exact ⟨.closeArray, rfl⟩
  · exact ⟨.closeObject, rfl⟩

/-- **What is read as long as its characters go on ends at the mark behind it**, or with the text:
`reading` is what is being read after some characters, and `value` what they are read as. -/
lemma tokensFrom?_scalar (reading : Text → Reading) (value : Text → Option Json)
    (goesOn : Char → Bool)
    (next : ∀ read c, (reading read).next? c =
      if goesOn c then some (reading (c :: read), []) else beginAfter? (value read.reverse) c)
    (finish : ∀ read, (reading read).finish? = (value read.reverse).map fun v => [.scalar v])
    (stops : goesOn ',' = false ∧ goesOn ']' = false ∧ goesOn '\x7d' = false)
    {c : Char} (begun : begin? c = some (reading [c], [])) {r rest : Text}
    (all : ∀ d ∈ r, goesOn d = true) (ends : EndsValue rest) :
    tokensFrom? .between (c :: r ++ rest) = scalarThen (value (c :: r)) rest := by
  have inside (read : Text) :
      tokensFrom? (reading read) (r ++ rest) = scalarThen (value (read.reverse ++ r)) rest := by
    induction r generalizing read with
    | nil =>
        rw [List.append_nil, List.nil_append]
        cases rest with
        | nil =>
            rw [tokensFrom?, finish]
            cases value read.reverse with
            | none => rfl
            | some v => rfl
        | cons d later =>
            have mark := ends d rfl
            obtain ⟨token, marked⟩ := begin?_of_endsValue mark
            have stop : goesOn d = false := by
              rcases mark with rfl | rfl | rfl
              · exact stops.1
              · exact stops.2.1
              · exact stops.2.2
            rw [tokensFrom?, next, stop, scalarThen, tokensFrom?_mark later marked]
            cases value read.reverse with
            | none => rfl
            | some v =>
                have after : beginAfter? (some v) d = some (.between, [.scalar v, token]) := by
                  unfold beginAfter?
                  rw [marked]
                rw [if_neg Bool.false_ne_true, after, Option.bind_some, Option.map_map]
                rfl
    | cons d r ih =>
        obtain ⟨here, later⟩ := List.forall_mem_cons.1 all
        have step : (reading read).next? d = some (reading (d :: read), []) := by
          rw [next, if_pos here]
        rw [List.cons_append, tokensFrom?_of_next? _ step, ih later (d :: read), List.reverse_cons,
          List.append_assoc, List.singleton_append]
  have first : Reading.next? c .between = some (reading [c], []) := begun
  rw [List.cons_append, tokensFrom?_of_next? _ first]
  exact inside [c]

/-- The characters that are read by themselves: marks, quotes and white space. -/
def loneChars : Text :=
  ['\x7b', '\x7d', '[', ']', ',', ':', '"', ' ', '\t', '\n', '\r']

/-- Any other character begins a number or a constant, if it begins anything. -/
lemma begin?_of_not_lone {c : Char} (other : c ∉ loneChars) :
    begin? c = if c.isDigit || c == '-' then some (.number [c], [])
      else if c.isAlpha then some (.word [c], []) else none := by
  simp only [loneChars, List.mem_cons, List.not_mem_nil, or_false, not_or] at other
  obtain ⟨h1, h2, h3, h4, h5, h6, h7, space, tab, feed, carriage⟩ := other
  have solid : isSpace c = false := by simp [isSpace, space, tab, feed, carriage]
  unfold begin?
  split
  · exact absurd rfl h1
  · exact absurd rfl h2
  · exact absurd rfl h3
  · exact absurd rfl h4
  · exact absurd rfl h5
  · exact absurd rfl h6
  · exact absurd rfl h7
  · rw [solid]
    rfl

/-- Characters of a class that holds none of them. -/
lemma not_lone_of_class {p : Char → Bool} (apart : loneChars.all (fun c => !p c) = true) {c : Char}
    (h : p c = true) : c ∉ loneChars := by
  intro mem
  have out := List.all_eq_true.1 apart c mem
  rw [h] at out
  cases out

/-- Can a number begin with a character? -/
def isNumeralStart (c : Char) : Bool := c.isDigit || c == '-'

/-- **A text that is read as a number**: a digit or a minus sign, and then what numbers are made
of. -/
inductive IsNumeral : Text → Prop where
  | intro {c : Char} {r : Text} (first : isNumeralStart c = true)
      (rest : ∀ d ∈ r, isNumberChar d = true) : IsNumeral (c :: r)

/-- **A number is read up to the mark behind it.** -/
theorem tokensFrom?_number {t rest : Text} (numeral : IsNumeral t) (ends : EndsValue rest) :
    tokensFrom? .between (t ++ rest) = scalarThen (number? t) rest := by
  cases numeral with
  | @intro c r first all =>
      have begun : begin? c = some (.number [c], []) := by
        rw [begin?_of_not_lone (not_lone_of_class (by decide) first)]
        exact if_pos first
      exact tokensFrom?_scalar .number number? isNumberChar (fun _ _ => rfl) (fun _ => rfl)
        ⟨rfl, rfl, rfl⟩ begun all ends

/-- **A constant is read up to the mark behind it.** -/
theorem tokensFrom?_constant {c : Char} {r rest : Text}
    (begun : begin? c = some (.word [c], [])) (letters : ∀ d ∈ r, d.isAlpha = true)
    (ends : EndsValue rest) :
    tokensFrom? .between (c :: r ++ rest) = scalarThen (constant? (c :: r)) rest :=
  tokensFrom?_scalar .word constant? Char.isAlpha (fun _ _ => rfl) (fun _ => rfl)
    ⟨rfl, rfl, rfl⟩ begun letters ends

/-! ## Integers -/

/-- Digits that fit into 64 bits are read exactly. -/
lemma foldl_whole_ofNat {n : Nat} (fits : n < wordBound) :
    (ofNat n).foldl Significand.whole ⟨0, 0⟩ = ⟨n, 0⟩ := by
  have digit {d : Nat} (small : d < 10) : digitValue d.digitChar = d := by
    revert d
    decide
  induction n using Nat.strong_induction_on with
  | h n ih =>
    by_cases small : n < 10
    · have one : (0 : Nat) * 10 + n < wordBound := by omega
      rw [ofNat, Nat.toDigits_of_lt_base small, List.foldl_cons, List.foldl_nil, Significand.whole,
        digit small, if_pos ⟨rfl, one⟩, Nat.zero_mul, Nat.zero_add]
    · have last : n / 10 * 10 + n % 10 = n := Nat.div_add_mod' n 10
      have before := ih (n / 10) (by omega) (by omega)
      rw [ofNat] at before ⊢
      rw [Nat.toDigits_of_base_le (by decide) (by omega), List.foldl_append, before,
        List.foldl_cons, List.foldl_nil, Significand.whole, digit (by omega), last,
        if_pos ⟨rfl, fits⟩]

/-- A positive number does not begin with a zero. -/
lemma head?_ofNat {n : Nat} (positive : 0 < n) : (ofNat n).head? ≠ some '0' := by
  induction n using Nat.strong_induction_on with
  | h n ih =>
    by_cases small : n < 10
    · have first : ∀ d < 10, 0 < d → [Nat.digitChar d].head? ≠ some '0' := by decide
      rw [ofNat, Nat.toDigits_of_lt_base small]
      exact first n small positive
    · have before := ih (n / 10) (by omega) (by omega)
      rw [ofNat] at before ⊢
      rw [Nat.toDigits_of_base_le (by decide) (by omega),
        List.head?_append_of_ne_nil _ Nat.toDigits_ne_nil]
      exact before

lemma isWhole_ofNat (n : Nat) : isWhole (ofNat n) = true := by
  unfold isWhole
  rw [isDigits_ofNat, Bool.true_and]
  rcases Nat.eq_zero_or_pos n with rfl | positive
  · rfl
  · simp [head?_ofNat positive]

/-- A number of digits alone has no parts. -/
lemma splitFirst_ofNat {p : Char → Bool} (apart : ∀ c : Char, c.isDigit = true → p c = false)
    (n : Nat) : Text.splitFirst p (ofNat n) = none :=
  Text.splitFirst_eq_none fun c mem => apart c (isDigit_of_mem_ofNat mem)

/-- The digits of a number, behind a minus sign or not. -/
lemma number?_digits {n : Nat} (fits : n < wordBound) :
    number? (ofNat n) = integer? false ⟨n, 0⟩ ∧
      number? ('-' :: ofNat n) = integer? true ⟨n, 0⟩ := by
  have exponent : Text.splitFirst (fun c => c == 'e' || c == 'E') (ofNat n) = none := by
    refine splitFirst_ofNat (fun c digit => ?_) n
    rw [Bool.or_eq_false_iff, beq_eq_false_iff_ne, beq_eq_false_iff_ne]
    constructor
    · rintro rfl
      cases digit
    · rintro rfl
      cases digit
  have point : Text.splitFirst (· == '.') (ofNat n) = none := by
    refine splitFirst_ofNat (fun c digit => ?_) n
    rw [beq_eq_false_iff_ne]
    rintro rfl
    cases digit
  have unsigned : ∀ r, ofNat n ≠ '-' :: r := by
    intro r same
    have digit := isDigit_of_mem_ofNat (n := n) (c := '-') (by simp [same])
    cases digit
  constructor
  · unfold number?
    split
    rename_i negative t sign
    split at sign
    · rename_i r same
      exact absurd same (unsigned r)
    · cases sign
      simp only [exponent, point, isWhole_ofNat, Option.all_none, Bool.and_self, if_true,
        foldl_whole_ofNat fits]
  · simp only [number?, exponent, point, isWhole_ofNat, Option.all_none, Bool.and_self, if_true,
      foldl_whole_ofNat fits]

/-- **An integer of 64 bits is read as itself.** -/
theorem number?_ofInt {n : Int} (low : -(signedWordBound : Int) ≤ n) (high : n < wordBound) :
    number? (ofInt n) = some (.int n) := by
  cases n with
  | ofNat n =>
      have fits : n < wordBound := Int.ofNat_lt.1 high
      rw [ofInt, (number?_digits fits).1]
      rfl
  | negSucc n =>
      have small : n + 1 ≤ signedWordBound := by omega
      have fits : n + 1 < wordBound := Nat.lt_of_le_of_lt small (by decide)
      rw [ofInt, (number?_digits fits).2]
      show (if 0 < n + 1 ∧ n + 1 ≤ signedWordBound then _ else _) = _
      rw [if_pos ⟨Nat.succ_pos n, small⟩]
      rfl

/-! ## What numbers are written with -/

lemma isNumberChar_of_isDigit {c : Char} (h : c.isDigit = true) : isNumberChar c = true := by
  simp [isNumberChar, h]

/-- Nothing but what numbers are made of. -/
def IsNumberText (t : Text) : Prop := ∀ c ∈ t, isNumberChar c = true

namespace IsNumberText

lemma append {t r : Text} (ht : IsNumberText t) (hr : IsNumberText r) : IsNumberText (t ++ r) :=
  fun c mem => (List.mem_append.1 mem).elim (ht c) (hr c)

lemma of_subset {t r : Text} (sub : t ⊆ r) (hr : IsNumberText r) : IsNumberText t :=
  fun c mem => hr c (sub mem)

lemma cons {c : Char} {r : Text} (hc : isNumberChar c = true) (hr : IsNumberText r) :
    IsNumberText (c :: r) :=
  List.forall_mem_cons.2 ⟨hc, hr⟩

lemma ofNat (n : Nat) : IsNumberText (ofNat n) :=
  fun _ mem => isNumberChar_of_isDigit (isDigit_of_mem_ofNat mem)

lemma ofInt (n : Int) : IsNumberText (ofInt n) := by
  cases n with
  | ofNat n => exact .ofNat n
  | negSucc n => exact .cons rfl (.ofNat (n + 1))

lemma zeros (n : Nat) : IsNumberText (List.replicate n '0') := by
  intro c mem
  rw [List.eq_of_mem_replicate mem]
  rfl

lemma exponentText (n : Int) : IsNumberText (exponentText n) := by
  unfold Json.exponentText
  split
  · exact .cons rfl (.ofInt n)
  · exact .cons rfl (.cons rfl (.ofInt n))

end IsNumberText

namespace IsNumeral

lemma of_isDigit {c : Char} {r : Text} (first : c.isDigit = true) (rest : IsNumberText r) :
    IsNumeral (c :: r) :=
  .intro (by simp [isNumeralStart, first]) rest

/-- A number behind a minus sign. -/
lemma negative {t : Text} (h : IsNumeral t) : IsNumeral ('-' :: t) := by
  cases h with
  | @intro c r first rest =>
      refine .intro rfl (IsNumberText.cons ?_ rest)
      simp only [isNumeralStart, Bool.or_eq_true] at first
      simp only [isNumberChar, Bool.or_eq_true]
      tauto

/-- An integer is written as a number. -/
lemma ofInt (n : Int) : IsNumeral (ofInt n) := by
  have digits (n : Nat) : IsNumeral (ofNat n) := by
    obtain ⟨c, r, same⟩ := List.exists_cons_of_ne_nil (ofNat_ne_nil n)
    have all := IsNumberText.ofNat n
    have first : c.isDigit = true := isDigit_of_mem_ofNat (n := n) (by simp [same])
    rw [same] at all ⊢
    exact .of_isDigit first (List.forall_mem_cons.1 all).2
  cases n with
  | ofNat n => exact digits n
  | negSucc n => exact (digits (n + 1)).negative

end IsNumeral

/-- A positive magnitude is written as a number. -/
lemma isNumeral_magnitudeText (c : Coefficient) : IsNumeral (magnitudeText c) := by
  have all := IsNumberText.ofNat c.digits
  obtain ⟨d, r, same⟩ := List.exists_cons_of_ne_nil (ofNat_ne_nil c.digits)
  have first : d.isDigit = true := isDigit_of_mem_ofNat (n := c.digits) (by simp [same])
  unfold magnitudeText
  dsimp only
  rw [same] at all ⊢
  have rest : IsNumberText r := (List.forall_mem_cons.1 all).2
  split
  · exact .of_isDigit first ((rest.append (.zeros _)).append (List.all_eq_true.1 rfl))
  · split
    · rename_i inside
      obtain ⟨k, point⟩ := Nat.exists_eq_succ_of_ne_zero (n := (((d :: r).length : Int) +
        c.exponent).toNat) (by omega)
      rw [point, List.take_succ_cons, List.drop_succ_cons]
      exact .of_isDigit first ((rest.of_subset (List.take_subset k r)).append
        (.cons rfl (rest.of_subset (List.drop_subset k r))))
    · split
      · exact .of_isDigit rfl (.cons rfl ((IsNumberText.zeros _).append all))
      · cases r with
        | nil => exact .of_isDigit first (.exponentText _)
        | cons e r => exact .of_isDigit first (.cons rfl (rest.append (.exponentText _)))

/-- **A finite double is written as a number.** -/
theorem isNumeral_doubleText {bits : UInt64} {negative : Bool} {b : Binary}
    (finite : Decimal.Reading.ofBits bits = .finite negative b) : IsNumeral (doubleText bits) := by
  have magnitude : IsNumeral
      (if b.mantissa = 0 then ("0.0" : Text) else magnitudeText (shortest .even b)) := by
    split
    · exact .of_isDigit rfl (List.all_eq_true.1 rfl)
    · exact isNumeral_magnitudeText _
  unfold doubleText
  rw [finite]
  cases negative with
  | true => exact magnitude.negative
  | false => exact magnitude

end SnippetLab.Json
