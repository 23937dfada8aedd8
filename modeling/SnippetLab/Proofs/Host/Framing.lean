import Mathlib.Tactic.Lemma
import SnippetLab.Host.Framing

/-!
# Reading a stream piece by piece

A reader takes one byte at a time, so a stream may be cut anywhere: what is read of the pieces, one
after another, is what is read of the whole (`readFrom_append`).  The cuts that matter are those
between frames, where the reader stands as at the beginning.

* `Reader.feed` — the reader after some bytes, and the payloads they complete.
* `Delivery` — a stretch of input that delivers one payload, from its header on.
* `feed_stream`, `readAll_stream` — **deliveries give their payloads**, and what follows them is
  read as if it were alone.
* `exists_deliveries` — every input consists of deliveries and a rest that completes nothing.
-/

namespace SnippetLab.Host

namespace Reader

/-- **Take some bytes**: the payloads they complete, and the reader after them unless a header is
wrong. -/
def feed (reader : Reader) : Bytes → List Bytes × Except FrameError Reader
  | [] => ([], .ok reader)
  | byte :: rest =>
    match reader.next byte with
    | .error e => ([], .error e)
    | .ok (reader', complete) =>
      (complete.toList ++ (reader'.feed rest).1, (reader'.feed rest).2)

variable {reader reader' : Reader} {byte : UInt8}

lemma feed_of_next {complete : Option Bytes}
    (h : reader.next byte = .ok (reader', complete)) (rest : Bytes) :
    reader.feed (byte :: rest) =
      (complete.toList ++ (reader'.feed rest).1, (reader'.feed rest).2) := by
  rw [feed, h]

lemma feed_of_error {e : FrameError} (h : reader.next byte = .error e) (rest : Bytes) :
    reader.feed (byte :: rest) = ([], .error e) := by
  rw [feed, h]

/-- Bytes after those that a reader has taken without error. -/
lemma feed_append {read : Bytes} {payloads : List Bytes}
    (h : reader.feed read = (payloads, .ok reader')) (rest : Bytes) :
    reader.feed (read ++ rest) = (payloads ++ (reader'.feed rest).1, (reader'.feed rest).2) := by
  induction read generalizing reader payloads with
  | nil =>
      cases h
      rfl
  | cons byte read ih =>
      cases taken : reader.next byte with
      | error e =>
          rw [feed_of_error taken] at h
          cases h
      | ok result =>
          obtain ⟨middle, complete⟩ := result
          rw [feed_of_next taken, Prod.mk.injEq] at h
          obtain ⟨rfl, after⟩ := h
          rw [List.cons_append, feed_of_next taken, ih (Prod.ext rfl after), List.append_assoc]

/-- **A payload that is complete leaves the reader as at the beginning.** -/
lemma eq_start_of_complete {complete : Bytes}
    (h : reader.next byte = .ok (reader', some complete)) : reader' = .start := by
  cases reader with
  | header length line =>
      rw [next] at h
      split at h
      · cases said : HeaderLine.read (byte :: line) with
        | error e =>
            rw [said] at h
            cases h
        | ok said' =>
            rw [said] at h
            cases said' with
            | blank =>
                cases length with
                | none => cases h
                | some n =>
                    cases n with
                    | zero =>
                        cases h
                        rfl
                    | succ n => cases h
            | length n => cases h
            | other => cases h
      · cases h
  | payload missing read =>
      rw [next] at h
      split at h
      · cases h
        rfl
      · cases h

end Reader

/-! ## Streams -/

/-- **What is read of a stream is what is read of its pieces**, as far as no header is wrong. -/
theorem readFrom_append (reader : Reader) (first rest : Bytes) :
    readFrom reader (first ++ rest) =
      match (reader.feed first).2 with
      | .error e => ((reader.feed first).1, some e)
      | .ok reader' =>
        ((reader.feed first).1 ++ (readFrom reader' rest).1, (readFrom reader' rest).2) := by
  induction first generalizing reader with
  | nil => rfl
  | cons byte first ih =>
      rw [List.cons_append, readFrom]
      cases taken : reader.next byte with
      | error e =>
          rw [Reader.feed_of_error taken]
      | ok result =>
          obtain ⟨middle, complete⟩ := result
          rw [Reader.feed_of_next taken]
          dsimp only
          rw [ih middle]
          cases (middle.feed first).2 with
          | error e => rfl
          | ok reader' => simp only [List.append_assoc]

/-- The payloads that the first bytes of an input complete come first. -/
lemma exists_readAll_append (first rest : Bytes) :
    ∃ more, (readAll (first ++ rest)).1 = (Reader.start.feed first).1 ++ more := by
  rw [readAll, readFrom_append]
  cases (Reader.start.feed first).2 with
  | error e => exact ⟨[], by simp⟩
  | ok reader' => exact ⟨(readFrom reader' rest).1, rfl⟩

/-- A stretch of input that delivers one payload: a reader at its beginning is at the beginning
again after it. -/
structure Delivery where
  bytes : Bytes
  payload : Bytes
  delivers : Reader.start.feed bytes = ([payload], .ok .start)

/-- The input that some deliveries make up. -/
def stream (deliveries : List Delivery) : Bytes := deliveries.flatMap Delivery.bytes

lemma stream_cons_append (d : Delivery) (rest : List Delivery) (tail : Bytes) :
    stream (d :: rest) ++ tail = d.bytes ++ (stream rest ++ tail) := by
  rw [stream, List.flatMap_cons, List.append_assoc, stream]

/-- **Deliveries give their payloads.** -/
lemma feed_stream (deliveries : List Delivery) :
    Reader.start.feed (stream deliveries) = (deliveries.map Delivery.payload, .ok .start) := by
  induction deliveries with
  | nil => rfl
  | cons d rest ih =>
      have cut := stream_cons_append d rest []
      rw [List.append_nil, List.append_nil] at cut
      rw [cut, Reader.feed_append d.delivers, ih, List.map_cons, List.singleton_append]

/-- **What follows some deliveries is read as if it were alone.** -/
theorem readAll_stream (deliveries : List Delivery) (tail : Bytes) :
    (readAll (stream deliveries ++ tail)).1 =
      deliveries.map Delivery.payload ++ (readAll tail).1 := by
  rw [readAll, readFrom_append, feed_stream]
  rfl

/-- What follows bytes that complete no payload consists, with them, of deliveries and a rest. -/
lemma exists_deliveries_after {read : Bytes} {reader : Reader}
    (h : Reader.start.feed read = ([], .ok reader)) (rest : Bytes) :
    ∃ (deliveries : List Delivery) (tail : Bytes),
      read ++ rest = stream deliveries ++ tail ∧ (Reader.start.feed tail).1 = [] := by
  induction rest generalizing read reader with
  | nil => exact ⟨[], read, by simp [stream], by rw [h]⟩
  | cons byte rest ih =>
      cases taken : reader.next byte with
      | error e =>
          refine ⟨[], read ++ byte :: rest, rfl, ?_⟩
          rw [Reader.feed_append h, Reader.feed_of_error taken]
          rfl
      | ok result =>
          obtain ⟨reader', complete⟩ := result
          have fed : Reader.start.feed (read ++ [byte]) = (complete.toList, .ok reader') := by
            rw [Reader.feed_append h, Reader.feed_of_next taken]
            simp [Reader.feed]
          rw [List.append_cons]
          cases complete with
          | none => exact ih fed
          | some payload =>
              rw [Reader.eq_start_of_complete taken] at fed
              have begun : Reader.start.feed [] = ([], .ok .start) := rfl
              obtain ⟨deliveries, tail, same, nothing⟩ := ih begun
              refine ⟨⟨read ++ [byte], payload, fed⟩ :: deliveries, tail, ?_, nothing⟩
              rw [stream_cons_append, ← same]
              rfl

/-- **Every input consists of deliveries and a rest that completes no payload.** -/
theorem exists_deliveries (input : Bytes) : ∃ (deliveries : List Delivery) (tail : Bytes),
    input = stream deliveries ++ tail ∧ (Reader.start.feed tail).1 = [] := by
  have begun : Reader.start.feed [] = ([], .ok .start) := rfl
  exact exists_deliveries_after begun input

end SnippetLab.Host
