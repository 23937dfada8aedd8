import Mathlib.Data.List.Infix
import SnippetLab.Proofs.Decimal.Numeral
import SnippetLab.Proofs.Host.Framing
import SnippetLab.Proofs.Text.Blanks
import SnippetLab.Proofs.Text.Parts

/-!
# Frames that are read back

A payload travels behind a header that tells its length in bytes, so what the payload looks like
does not matter: line ends, text that looks like a header, bytes that are no text.  Around the line
with the length a header may hold lines that say nothing: blank ones before it, and remarks before
and after it.

* `decodeText?_encodeText` — texts read back from their bytes, so a header line is what it spells.
* `Remark`, `Lead`, `Framed` — a payload in its frame, with the lines that say nothing.
* `Reader.Crosses` — input that completes no payload, with a property of every reader on the way.
* `readAll_frames` — **frames give their payloads, in order**, and a stream that is cut off gives
  the first of them and never anything that was not sent.
-/

namespace SnippetLab.Host

open Text

/-! ## Texts and their bytes -/

lemma encodeText_append (t u : Text) : encodeText (t ++ u) = encodeText t ++ encodeText u :=
  List.flatMap_append

/-- **Texts read back from their bytes.** -/
theorem decodeText?_encodeText (t : Text) : decodeText? (encodeText t) = some t := by
  have bytes : (⟨(encodeText t).toArray⟩ : ByteArray) = t.utf8Encode :=
    ByteArray.ext List.data_toByteArray.symm
  have valid : t.utf8Encode.IsValidUTF8 := ⟨t, rfl⟩
  have same : String.fromUTF8 t.utf8Encode valid = String.ofList t :=
    String.toByteArray_inj.1 String.toByteArray_ofList.symm
  rw [decodeText?, bytes, String.fromUTF8?, dif_pos valid, same, Option.map_some,
    String.toList_ofList]

/-- Only a line feed has its byte: the bytes of longer characters lie above ASCII. -/
lemma eq_of_mem_utf8EncodeChar {c : Char} (h : 10 ∈ String.utf8EncodeChar c) : c = '\n' := by
  have code : ∀ n : Nat, (10 : UInt8) = UInt8.ofNat n → n % 256 = 10 := by
    intro n same
    exact (congrArg UInt8.toNat same).symm
  unfold String.utf8EncodeChar at h
  dsimp only at h
  split at h
  · have ascii := code _ (List.mem_singleton.1 h)
    apply Char.ext
    apply UInt32.toNat_inj.1
    show c.val.toNat = 10
    omega
  · exfalso
    split at h
    · simp only [List.mem_cons, List.not_mem_nil, or_false] at h
      rcases h with h | h
      · have := code _ h
        omega
      · have := code _ h
        omega
    · split at h
      · simp only [List.mem_cons, List.not_mem_nil, or_false] at h
        rcases h with h | h | h
        · have := code _ h
          omega
        · have := code _ h
          omega
        · have := code _ h
          omega
      · simp only [List.mem_cons, List.not_mem_nil, or_false] at h
        rcases h with h | h | h | h
        · have := code _ h
          omega
        · have := code _ h
          omega
        · have := code _ h
          omega
        · have := code _ h
          omega

lemma feed_not_mem_encodeText {t : Text} (h : '\n' ∉ t) : 10 ∉ encodeText t := by
  intro found
  obtain ⟨c, hc, here⟩ := List.mem_flatMap.1 found
  exact h (eq_of_mem_utf8EncodeChar here ▸ hc)

/-! ## Header lines -/

/-- A line and the line feed that ends it. -/
def lineBytes (t : Text) : Bytes := encodeText t ++ [10]

/-- What is left of a line without its end. -/
def lineContent (t : Text) : Text := t.dropEndWhile isLineEnd

lemma lineContent_append {t ends : Text} (h : ∀ c ∈ ends, isLineEnd c = true) :
    lineContent (t ++ ends) = lineContent t := by
  rw [lineContent, dropEndWhile, List.reverse_append, List.dropWhile_append_of_pos]
  · rfl
  · intro c hc
    exact h c (List.mem_reverse.1 hc)

/-- A line whose last character is no line end is all content. -/
lemma lineContent_of_concat (t : Text) {c : Char} (h : isLineEnd c = false) :
    lineContent (t ++ [c]) = t ++ [c] := by
  rw [lineContent, dropEndWhile, List.reverse_concat, List.dropWhile_cons_of_neg (by simp [h]),
    List.reverse_cons, List.reverse_reverse]

lemma decodeText?_lineBytes (t : Text) :
    decodeText? (lineBytes t).reverse.reverse = some (t ++ ['\n']) := by
  have whole : lineBytes t = encodeText (t ++ ['\n']) := by
    rw [encodeText_append]
    rfl
  rw [List.reverse_reverse, whole, decodeText?_encodeText]

/-- The line feed is no content. -/
lemma lineContent_feed (t : Text) : Text.dropEndWhile (t ++ ['\n']) isLineEnd = lineContent t := by
  apply lineContent_append
  intro c hc
  rw [List.mem_singleton.1 hc]
  rfl

/-- Nothing but carriage returns is a blank line. -/
lemma read_blank (returns : Nat) :
    HeaderLine.read (lineBytes (List.replicate returns '\r')).reverse = .ok .blank := by
  have nothing : lineContent ([] ++ List.replicate returns '\r') = lineContent [] := by
    apply lineContent_append
    intro c hc
    rw [List.eq_of_mem_replicate hc]
    rfl
  rw [List.nil_append] at nothing
  simp only [HeaderLine.read, decodeText?_lineBytes, lineContent_feed, nothing]
  rfl

/-- **A line that a header may hold beside the length**: it is not blank and tells no length. -/
structure Remark where
  text : Text
  oneLine : '\n' ∉ text
  visible : ∃ c ∈ text, c ≠ '\r'
  other : text.startsWith lengthField = false

lemma read_remark (r : Remark) : HeaderLine.read (lineBytes r.text).reverse = .ok .other := by
  obtain ⟨c, hc, visible⟩ := r.visible
  have nonempty : (lineContent r.text).isEmpty = false := by
    rw [List.isEmpty_eq_false_iff, lineContent, dropEndWhile]
    intro nothing
    rw [List.reverse_eq_nil_iff, List.dropWhile_eq_nil_iff] at nothing
    have ends := nothing c (List.mem_reverse.2 hc)
    rw [isLineEnd, Bool.or_eq_true, beq_iff_eq, beq_iff_eq] at ends
    rcases ends with rfl | rfl
    · exact visible rfl
    · exact r.oneLine hc
  have other : Text.dropStart? (lineContent r.text) lengthField = none := by
    cases found : Text.dropStart? (lineContent r.text) lengthField with
    | none => rfl
    | some rest =>
        have begun : lengthField <+: r.text :=
          List.IsPrefix.trans ⟨rest, dropStart?_eq_some.1 found⟩
            (dropEndWhile_isPrefix r.text isLineEnd)
        have starts := r.other
        exact absurd begun (startsWith_eq_false_iff.1 starts)
  simp only [HeaderLine.read, decodeText?_lineBytes, lineContent_feed, nonempty, other]
  rfl

/-- The line that tells a length. -/
def lengthLine (n : Nat) : Text := lengthField ++ ' ' :: Decimal.ofNat n ++ ['\r']

/-- A number behind a space is all content, and reads back. -/
lemma read_lengthLine {n : Nat} (fits : n < Decimal.wordBound) :
    HeaderLine.read (lineBytes (lengthLine n)).reverse = .ok (.length n) := by
  have digit : ∀ c ∈ Decimal.ofNat n, isWordChar c = true := fun c hc =>
    isWordChar_of_isDigit (Decimal.isDigit_of_mem_ofNat hc)
  have ends : ∀ c ∈ ['\r'], isLineEnd c = true := by simp [isLineEnd]
  have content : lineContent (lengthLine n) = lengthField ++ ' ' :: Decimal.ofNat n := by
    obtain ⟨front, c, whole⟩ := (List.eq_nil_or_concat _).resolve_left (Decimal.ofNat_ne_nil n)
    have last : isLineEnd c = false := by
      have word : isWordChar c = true := digit c (by simp [whole])
      have other := not_mem_of_isWordChar word ['\r', '\n'] (by decide)
      simpa [isLineEnd] using other
    have split : lengthField ++ ' ' :: Decimal.ofNat n = (lengthField ++ ' ' :: front) ++ [c] := by
      rw [whole, List.concat_eq_append, List.append_assoc, List.cons_append]
    rw [lengthLine, lineContent_append ends, split, lineContent_of_concat _ last]
  have solid : Solid (Decimal.ofNat n) :=
    .of_forall (Decimal.ofNat_ne_nil n) fun c hc => isBlank_of_isWordChar (digit c hc)
  have trimmed : Text.trim (' ' :: Decimal.ofNat n) = Decimal.ofNat n :=
    solid.trim_append_left (show isAllBlank [' '] = true by decide)
  have value : Text.dropStart? (lengthField ++ ' ' :: Decimal.ofNat n) lengthField =
      some (' ' :: Decimal.ofNat n) := dropStart?_eq_some.2 rfl
  simp only [HeaderLine.read, decodeText?_lineBytes, lineContent_feed, content, value, trimmed,
    Decimal.word?_ofNat fits]
  rfl

lemma feed_not_mem_lengthLine (n : Nat) : '\n' ∉ lengthLine n := by
  intro feed
  rw [lengthLine, List.append_assoc, List.cons_append] at feed
  rcases List.mem_append.1 feed with named | feed
  · exact absurd named (by decide)
  · rcases List.mem_cons.1 feed with space | feed
    · exact absurd space (by decide)
    · rcases List.mem_append.1 feed with digit | return_
      · exact absurd (Decimal.isDigit_of_mem_ofNat digit) (by decide)
      · exact absurd (List.mem_singleton.1 return_) (by decide)

/-! ## Frames -/

/-- A line before the length: a blank one, which is nothing but carriage returns, or a remark. -/
inductive Lead where
  | blank (returns : Nat)
  | remark (r : Remark)

/-- What such a line holds. -/
def Lead.text : Lead → Text
  | .blank returns => List.replicate returns '\r'
  | .remark r => r.text

/-- **A payload in its frame**, with the lines its header holds before and after the length. -/
structure Framed where
  payload : Bytes
  /-- A length is a word. -/
  fits : payload.length < Decimal.wordBound
  before : List Lead
  after : List Remark

namespace Framed

/-- The lines of the header, up to the one that ends it. -/
def lines (f : Framed) : List Text :=
  f.before.map Lead.text ++ lengthLine f.payload.length :: f.after.map Remark.text

/-- The frame: its header, a blank line and the payload. -/
def bytes (f : Framed) : Bytes := f.lines.flatMap lineBytes ++ (lineBytes ['\r'] ++ f.payload)

/-- Without lines that say nothing, this is how a payload is sent. -/
lemma bytes_plain (f : Framed) (before : f.before = []) (after : f.after = []) :
    f.bytes = frame f.payload := by
  have written : header f.payload.length =
      (lengthLine f.payload.length ++ ['\n']) ++ (['\r'] ++ ['\n']) := by
    simp [header, lengthLine]
  have feed : encodeText ['\n'] = [10] := by decide
  rw [frame, written, encodeText_append, encodeText_append, encodeText_append, feed, bytes, lines,
    before, after]
  simp only [List.map_nil, List.nil_append, List.flatMap_singleton, lineBytes, List.append_assoc]

end Framed

/-! ## Input that completes nothing -/

namespace Reader

/-- **Input that completes no payload**, where every reader on the way has a property. -/
inductive Crosses (P : Reader → Prop) : Reader → Bytes → Reader → Prop where
  | nil {r : Reader} (here : P r) : Crosses P r [] r
  | cons {r m r' : Reader} {byte : UInt8} {rest : Bytes} (here : P r)
      (taken : r.next byte = .ok (m, none)) (later : Crosses P m rest r') :
      Crosses P r (byte :: rest) r'

namespace Crosses

variable {P : Reader → Prop} {r m r' : Reader} {first rest : Bytes}

lemma start (h : Crosses P r first r') : P r := by
  cases h with
  | nil here => exact here
  | cons here _ _ => exact here

lemma stop (h : Crosses P r first r') : P r' := by
  induction h with
  | nil here => exact here
  | cons _ _ _ ih => exact ih

lemma append (h : Crosses P r first m) (h' : Crosses P m rest r') :
    Crosses P r (first ++ rest) r' := by
  induction h with
  | nil _ => exact h'
  | cons here taken _ ih => exact .cons here taken (ih h')

/-- A cut stops at one of the readers on the way. -/
lemma of_isPrefix {cut : Bytes} (h : Crosses P r first r') (within : cut <+: first) :
    ∃ m, Crosses P r cut m := by
  induction h generalizing cut with
  | nil here =>
      rw [List.prefix_nil.1 within]
      exact ⟨_, .nil here⟩
  | cons here taken _ ih =>
      cases cut with
      | nil => exact ⟨_, .nil here⟩
      | cons byte cut =>
          obtain ⟨same, within'⟩ := List.cons_prefix_cons.1 within
          subst same
          obtain ⟨m, crossed⟩ := ih within'
          exact ⟨m, .cons here taken crossed⟩

lemma feed_eq (h : Crosses P r first r') : r.feed first = ([], .ok r') := by
  induction h with
  | nil _ => rfl
  | cons _ taken _ ih =>
      rw [feed_of_next taken, ih]
      rfl

end Crosses

/-- **A reader inside a frame whose payload has so many bytes**: the only length it can know is that
one, and in the payload something is missing. -/
def Awaits (length : Nat) : Reader → Prop
  | .header none _ => True
  | .header (some n) _ => n = length
  | .payload missing _ => 0 < missing

variable {length : Nat}

/-- A line is collected until its line feed. -/
lemma crosses_collect {known : Option Nat} (all : ∀ line, Awaits length (.header known line))
    {content : Bytes} (feed : 10 ∉ content) (line : Bytes) :
    Crosses (Awaits length) (.header known line) content
      (.header known (content.reverse ++ line)) := by
  induction content generalizing line with
  | nil => exact .nil (all line)
  | cons byte content ih =>
      rw [List.mem_cons, not_or] at feed
      rw [List.reverse_cons, List.append_assoc, List.singleton_append]
      refine .cons (all line) ?_ (ih feed.2 (byte :: line))
      rw [next, if_neg (Ne.symm feed.1)]

/-- A line is collected and then read. -/
lemma next_feed {t : Text} {said : HeaderLine} (known : Option Nat)
    (read : HeaderLine.read (lineBytes t).reverse = .ok said) :
    (header known (encodeText t).reverse).next 10 = .ok (afterLine known said) := by
  rw [next, if_pos rfl]
  rw [lineBytes, List.reverse_append, List.reverse_singleton, List.singleton_append] at read
  rw [read]
  rfl

/-- **A line that completes nothing is crossed.** -/
lemma crosses_line {known : Option Nat} (all : ∀ line, Awaits length (.header known line))
    {t : Text} (oneLine : '\n' ∉ t) {said : HeaderLine} {r : Reader}
    (read : HeaderLine.read (lineBytes t).reverse = .ok said)
    (after : afterLine known said = (r, none)) (stays : Awaits length r) :
    Crosses (Awaits length) (.header known []) (lineBytes t) r := by
  have collected := crosses_collect all (feed_not_mem_encodeText oneLine) []
  rw [List.append_nil] at collected
  refine collected.append (.cons (all _) ?_ (.nil stays))
  rw [next_feed known read, after]

/-- The lines before the length leave the reader without one. -/
lemma crosses_leads (leads : List Lead) :
    Crosses (Awaits length) .start ((leads.map Lead.text).flatMap lineBytes) .start := by
  have all : ∀ line, Awaits length (.header none line) := fun _ => trivial
  induction leads with
  | nil => exact .nil trivial
  | cons lead leads ih =>
      rw [List.map_cons, List.flatMap_cons]
      refine Crosses.append ?_ ih
      cases lead with
      | blank returns =>
          refine crosses_line all ?_ (read_blank returns) rfl trivial
          intro feed
          exact absurd (List.eq_of_mem_replicate feed) (by decide)
      | remark r => exact crosses_line all r.oneLine (read_remark r) rfl trivial

/-- The remarks after the length leave the reader with it. -/
lemma crosses_remarks (remarks : List Remark) :
    Crosses (Awaits length) (.header (some length) [])
      ((remarks.map Remark.text).flatMap lineBytes) (.header (some length) []) := by
  have all : ∀ line, Awaits length (.header (some length) line) := fun _ => rfl
  induction remarks with
  | nil => exact .nil rfl
  | cons r remarks ih =>
      rw [List.map_cons, List.flatMap_cons]
      exact (crosses_line all r.oneLine (read_remark r) rfl rfl).append ih

/-- Bytes of a payload are collected while one more is missing. -/
lemma crosses_payload (part : Bytes) (read : Bytes) (missing : Nat) :
    Crosses (Awaits length) (.payload (part.length + (missing + 1)) read) part
      (.payload (missing + 1) (part.reverse ++ read)) := by
  induction part generalizing read with
  | nil =>
      rw [List.length_nil, Nat.zero_add]
      exact .nil (Nat.succ_pos missing)
  | cons byte part ih =>
      rw [List.reverse_cons, List.append_assoc, List.singleton_append]
      refine .cons (by rw [Awaits, List.length_cons]; omega) ?_ (ih (byte :: read))
      rw [next, if_neg (by rw [List.length_cons]; omega), List.length_cons]
      congr 3
      omega

/-- **At the end of the input a reader inside a frame completes nothing**, but for a payload without
bytes whose blank line lacks its line feed. -/
lemma finish_of_awaits {r : Reader} (h : Awaits length r) :
    r.finish.1 = none ∨ r.finish.1 = some [] ∧ length = 0 := by
  cases r with
  | payload missing read => exact Or.inl rfl
  | header known line =>
      have complete : ∀ said, (afterLine known said).2 = none ∨
          (afterLine known said).2 = some [] ∧ length = 0 := by
        intro said
        rcases known with _ | _ | n
        · cases said with
          | blank => exact Or.inl rfl
          | length n => exact Or.inl rfl
          | other => exact Or.inl rfl
        · cases said with
          | blank => exact Or.inr ⟨rfl, h.symm⟩
          | length n => exact Or.inl rfl
          | other => exact Or.inl rfl
        · cases said with
          | blank => exact Or.inl rfl
          | length n => exact Or.inl rfl
          | other => exact Or.inl rfl
      unfold finish
      dsimp only
      split
      · exact Or.inl rfl
      · split
        · exact Or.inl rfl
        · rename_i said _
          have completed := complete said
          split
          · rename_i after
            rwa [after] at completed
          · rename_i after
            rwa [after] at completed

end Reader

/-! ## Frames are delivered -/

namespace Framed

open Reader

/-- The lines of the header tell the reader the length. -/
lemma crosses_lines (f : Framed) :
    Crosses (Awaits f.payload.length) .start (f.lines.flatMap lineBytes)
      (.header (some f.payload.length) []) := by
  have all : ∀ line, Awaits f.payload.length (.header none line) := fun _ => trivial
  rw [lines, List.flatMap_append, List.flatMap_cons]
  refine (crosses_leads f.before).append (.append ?_ (crosses_remarks f.after))
  exact crosses_line all (feed_not_mem_lengthLine _) (read_lengthLine f.fits) rfl rfl

/-- **A payload is complete with the last byte of its frame and not before.** -/
lemma exists_last (f : Framed) : ∃ most last r, f.bytes = most ++ [last] ∧
    Crosses (Awaits f.payload.length) .start most r ∧
      r.next last = .ok (.start, some f.payload) := by
  have all : ∀ line, Awaits f.payload.length (.header (some f.payload.length) line) := fun _ => rfl
  have oneLine : '\n' ∉ ['\r'] := by simp
  rcases List.eq_nil_or_concat f.payload with empty | ⟨part, last, whole⟩
  · -- the blank line completes the payload, so the last byte is its line feed
    have collected := crosses_collect all (feed_not_mem_encodeText oneLine) []
    rw [List.append_nil] at collected
    refine ⟨_, 10, _, ?_, f.crosses_lines.append collected, ?_⟩
    · rw [bytes, lineBytes, empty, List.append_nil, List.append_assoc]
    · rw [next_feed (t := ['\r']) _ (read_blank 1), empty]
      rfl
  · rw [List.concat_eq_append] at whole
    have count : f.payload.length = part.length + 1 := by rw [whole, List.length_append]; rfl
    have blank : Crosses (Awaits f.payload.length) (.header (some f.payload.length) [])
        (lineBytes ['\r']) (.payload (part.length + 1) []) := by
      refine crosses_line all oneLine (read_blank 1) ?_ (Nat.succ_pos _)
      rw [count]
      rfl
    refine ⟨_, last, _, ?_, f.crosses_lines.append (blank.append (crosses_payload part [] 0)), ?_⟩
    · rw [bytes, whole]
      simp only [List.append_assoc]
    · rw [next, if_pos (Nat.le_refl 1), List.append_nil, List.reverse_cons, List.reverse_reverse,
        whole]

/-- A frame is a delivery of its payload. -/
def delivery (f : Framed) : Delivery where
  bytes := f.bytes
  payload := f.payload
  delivers := by
    obtain ⟨most, last, r, whole, crossed, complete⟩ := f.exists_last
    rw [whole, feed_append crossed.feed_eq, feed_of_next complete]
    rfl

/-- A frame that is cut off gives nothing, or its payload if that has no bytes. -/
lemma readAll_of_isPrefix (f : Framed) {cut : Bytes} (within : cut <+: f.bytes)
    (proper : cut ≠ f.bytes) : (readAll cut).1 <+: [f.payload] := by
  obtain ⟨most, last, r, whole, crossed, -⟩ := f.exists_last
  rw [whole] at within proper
  obtain ⟨m, here⟩ := crossed.of_isPrefix ((List.prefix_concat_iff.1 within).resolve_left proper)
  have read := readFrom_append .start cut []
  rw [here.feed_eq, List.append_nil] at read
  rw [readAll, read]
  rcases finish_of_awaits here.stop with nothing | ⟨empty, none⟩
  · simp [readFrom, nothing]
  · rw [List.length_eq_zero_iff] at none
    simp [readFrom, empty, none]

end Framed

/-- What some frames make up is a stream of deliveries. -/
lemma stream_delivery (frames : List Framed) :
    stream (frames.map Framed.delivery) = frames.flatMap Framed.bytes := by
  rw [stream, List.flatMap_map]
  rfl

lemma map_payload_delivery (frames : List Framed) :
    (frames.map Framed.delivery).map Delivery.payload = frames.map Framed.payload := by
  rw [List.map_map]
  rfl

/-- **Frames, and what follows them.** -/
lemma readAll_frames_append (frames : List Framed) (tail : Bytes) :
    (readAll (frames.flatMap Framed.bytes ++ tail)).1 =
      frames.map Framed.payload ++ (readAll tail).1 := by
  rw [← stream_delivery, readAll_stream, map_payload_delivery]

/-- **A stream that is cut off gives the first of its payloads.** -/
lemma readAll_of_isPrefix (frames : List Framed) {cut : Bytes}
    (within : cut <+: frames.flatMap Framed.bytes) :
    (readAll cut).1 <+: frames.map Framed.payload := by
  induction frames generalizing cut with
  | nil =>
      rw [List.prefix_nil.1 within]
      exact List.nil_prefix
  | cons f frames ih =>
      have beyond : ∀ later, f.bytes ++ later <+: f.bytes ++ frames.flatMap Framed.bytes →
          (readAll (f.bytes ++ later)).1 <+: (f :: frames).map Framed.payload := by
        intro later within
        have read := readAll_frames_append [f] later
        rw [List.flatMap_singleton] at read
        rw [read]
        exact List.prefix_append_right_inj _ |>.2 (ih ((List.prefix_append_right_inj _).1 within))
      rw [List.flatMap_cons] at within
      by_cases whole : cut = f.bytes
      · have none := beyond []
        rw [List.append_nil] at none
        rw [whole]
        exact none (List.prefix_append f.bytes _)
      · rcases List.prefix_or_prefix_of_prefix within (List.prefix_append f.bytes _) with
          inside | ⟨later, rfl⟩
        · refine (f.readAll_of_isPrefix inside whole).trans ?_
          exact List.prefix_append [f.payload] (frames.map Framed.payload)
        · exact beyond later within

/-- **Frames are read back.**  A stream of frames, with whatever lines their headers hold beside the
lengths, gives exactly its payloads, in order, and ends without an error.  Cut off anywhere, it
gives the first of its payloads, at least those whose frames are whole; what comes after them is
the end of the input or an error, the second part of what `readAll` gives. -/
theorem readAll_frames (frames : List Framed) :
    (∀ f ∈ frames, f.before = [] → f.after = [] → f.bytes = frame f.payload) ∧
      readAll (frames.flatMap Framed.bytes) = (frames.map Framed.payload, none) ∧
      ∀ cut, cut <+: frames.flatMap Framed.bytes →
        (readAll cut).1 <+: frames.map Framed.payload ∧
          ∀ complete, complete <+: frames → complete.flatMap Framed.bytes <+: cut →
            complete.map Framed.payload <+: (readAll cut).1 := by
  refine ⟨fun f _ => f.bytes_plain, ?_, ?_⟩
  · have read := readFrom_append .start (stream (frames.map Framed.delivery)) []
    rw [feed_stream, List.append_nil, stream_delivery, map_payload_delivery] at read
    rw [readAll, read]
    simp [readFrom, Reader.finish, Reader.start]
  · intro cut within
    refine ⟨readAll_of_isPrefix frames within, ?_⟩
    rintro complete - ⟨tail, rfl⟩
    rw [readAll_frames_append]
    exact List.prefix_append _ _

/-- A payload that looks like a header, behind a blank line and before a remark, and a payload that
is no text, cut off after its first byte. -/
theorem readAll_frames_cut :
    let remark : Remark := ⟨"Später: 1\r", by decide, ⟨'S', by decide, by decide⟩, by decide⟩
    let first : Framed := ⟨encodeText "Content-Length: 9\r\n\r\n", by decide, [.blank 1], [remark]⟩
    let second : Framed := ⟨[0xff, 0x0a], by decide, [], []⟩
    let cut := first.bytes ++ second.bytes.dropLast
    cut <+: [first, second].flatMap Framed.bytes ∧ [first].flatMap Framed.bytes <+: cut ∧
      (readAll cut).1 <+: [first.payload, second.payload] ∧
      [first.payload] <+: (readAll cut).1 := by
  intro remark first second cut
  have within : cut <+: [first, second].flatMap Framed.bytes := by
    rw [List.flatMap_cons, List.flatMap_singleton]
    exact (List.prefix_append_right_inj _).2 (List.dropLast_prefix _)
  have whole : [first].flatMap Framed.bytes <+: cut := by
    rw [List.flatMap_singleton]
    exact List.prefix_append _ _
  have read := (readAll_frames [first, second]).2.2 cut within
  exact ⟨within, whole, read.1, read.2 [first] (List.prefix_append [first] [second]) whole⟩

end SnippetLab.Host
