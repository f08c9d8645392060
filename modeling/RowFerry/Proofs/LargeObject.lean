import RowFerry.Engine.LargeObject
import RowFerry.Proofs.Text.Utf8

/-!
The text of a large object does not depend on its chunks. It is the reading of all bytes together,
after one read a chunk and one more that finds the end. A read that fails leaves no text, and
whatever happens the reader is closed once, after its last read.
-/

namespace RowFerry

/-- The message of the failure of a stream: its own, or the text of a failure of another kind. -/
def Failure.streamMessage : Failure → String
  | .stream m => m
  | other => other.message

theorem Failure.asStream_eq (f : Failure) : f.asStream = .stream f.streamMessage := by
  cases f <;> rfl

namespace LargeObject

variable {o : LargeObject}

theorem drain_eq (failure : Option Failure) (done chunks : List (List UInt8)) :
    drain failure done chunks =
      (match failure with
        | some f => .error (.stream f.streamMessage)
        | none => .ok (done.reverse ++ chunks).flatten,
        List.replicate (chunks.length + 1) .read) := by
  induction chunks generalizing done with
  | nil => cases failure <;> simp [drain, Failure.asStream_eq]
  | cons chunk chunks ih =>
    rw [drain, ih]
    simp [List.replicate_succ]

/-- An object without a failure is read to its end. -/
theorem read_ended (h : o.failure = none) :
    o.read = (.ok (Text.Utf8.read o.chunks.flatten),
      List.replicate (o.chunks.length + 1) .read ++ [.close]) := by
  rw [read, h, drain_eq]
  rfl

/-- An object with a failure is read up to it. -/
theorem read_failed {f : Failure} (h : o.failure = some f) :
    o.read = (.error (.stream f.streamMessage),
      List.replicate (o.chunks.length + 1) .read ++ [.close]) := by
  rw [read, h, drain_eq]
  rfl

/-- **The text of a large object does not depend on how it is cut.** An object that is read to its
end is the one text that its bytes are read as, whatever their chunks are, and bytes of a text are
that text; there is one read more than there are chunks. When a read fails after `n` chunks, the
failure is all that is left, after `n + 1` reads. The reader is closed once, after the last read. -/
theorem read_independent_of_chunks (chunks : List (List UInt8)) :
    (∃ text, read ⟨chunks, none⟩ =
      (.ok text, List.replicate (chunks.length + 1) .read ++ [.close]) ∧
        ∀ t : String, Text.Utf8.Lossy chunks.flatten t.toList ↔ t = text) ∧
      (∀ others : List (List UInt8), others.flatten = chunks.flatten →
        (read ⟨others, none⟩).1 = (read ⟨chunks, none⟩).1) ∧
      (∀ text : String, chunks.flatten.toByteArray = text.toByteArray →
        (read ⟨chunks, none⟩).1 = .ok text) ∧
      ∀ n ≤ chunks.length, ∀ f : Failure, read ⟨chunks.take n, some f⟩ =
        (.error (.stream f.streamMessage), List.replicate (n + 1) .read ++ [.close]) := by
  have hread (cs : List (List UInt8)) : read ⟨cs, none⟩ =
      (.ok (Text.Utf8.read cs.flatten), List.replicate (cs.length + 1) .read ++ [.close]) :=
      read_ended rfl
  refine ⟨⟨_, hread chunks, fun t => ?_⟩, fun others hothers => ?_, fun text htext =>
    ?_, fun n hn f => ?_⟩
  · rw [← Text.Utf8.read_eq_iff]
    exact eq_comm
  · rw [hread, hread, hothers]
  · rw [hread, Text.Utf8.read_toByteArray htext]
  · rw [read_failed (f := f) rfl, List.length_take_of_le hn]

/-- A character that two chunks share, with an empty chunk between them, and a
byte that begins none. -/
example : (read ⟨[[0xC3], [], [0xA9, 0xFF]], none⟩).1 = .ok "é\ufffd" := by decide +kernel

end LargeObject

end RowFerry
