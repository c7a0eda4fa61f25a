import Mathlib.Data.List.Basic
import Mathlib.Tactic.SplitIfs

/-!
# Streams of frames in chunks

A framer looks for one frame at the front of its buffer.  It is called until it
finds none, after every chunk of a stream.  If it recognises every frame of a
stream and waits for the end of each, then the chunks do not matter: every value
comes out as soon as the last byte of its frame has arrived.
-/

/-- What a framer finds at the front of its buffer. -/
inductive NextFrame (Byte Value Failure : Type) where
  | frame (value : Value) (rest : List Byte)
  | incomplete
  | failed (failure : Failure)
  deriving DecidableEq

/-- A framer removes at least one byte with every frame. -/
structure Framer (Byte Value Failure : Type) where
  next : List Byte → NextFrame Byte Value Failure
  shrinks : ∀ {input value rest}, next input = .frame value rest → rest.length < input.length

/-- The bytes that stand for a value. -/
structure Frame (Byte Value : Type) where
  bytes : List Byte
  value : Value

namespace Framer

variable {Byte Value Failure : Type} (framer : Framer Byte Value Failure)

/-- Call the framer until it finds no frame: the values found, and the buffer left or
the failure met. -/
def drain (buffer : List Byte) : List Value × Except Failure (List Byte) :=
  match _found : framer.next buffer with
  | .frame value rest =>
      let (values, outcome) := drain rest
      (value :: values, outcome)
  | .incomplete => ([], .ok buffer)
  | .failed failure => ([], .error failure)
termination_by buffer.length
decreasing_by exact framer.shrinks _found

/-- Append the chunks to the buffer one after the other and drain it each time: the
values found after each chunk, and the buffer left or the failure met. -/
def feed (buffer : List Byte) : List (List Byte) →
    List (List Value) × Except Failure (List Byte)
  | [] => ([], .ok buffer)
  | chunk :: chunks =>
      match framer.drain (buffer ++ chunk) with
      | (values, .ok buffer) =>
          let (batches, outcome) := feed buffer chunks
          (values :: batches, outcome)
      | (values, .error failure) => ([values], .error failure)

/-- The framer finds the frame before anything else and waits for its last byte. -/
structure Recognises (frame : Frame Byte Value) : Prop where
  whole : ∀ rest, framer.next (frame.bytes ++ rest) = .frame frame.value rest
  waits : ∀ input, input <+: frame.bytes → input ≠ frame.bytes →
    framer.next input = .incomplete

end Framer

/-- The concatenation of all frames. -/
def frameBytes {Byte Value : Type} (frames : List (Frame Byte Value)) : List Byte :=
  frames.flatMap (·.bytes)

/-- The values of the frames that end within the first `count` bytes. -/
def arrived {Byte Value : Type} : List (Frame Byte Value) → Nat → List Value
  | [], _ => []
  | frame :: frames, count =>
      if frame.bytes.length ≤ count then
        frame.value :: arrived frames (count - frame.bytes.length)
      else []

/-- The frames that do not end within the first `count` bytes. -/
def pending {Byte Value : Type} : List (Frame Byte Value) → Nat → List (Frame Byte Value)
  | [], _ => []
  | frame :: frames, count =>
      if frame.bytes.length ≤ count then pending frames (count - frame.bytes.length)
      else frame :: frames

theorem length_le_frameBytes {Byte Value : Type} {frames : List (Frame Byte Value)}
    {frame : Frame Byte Value} (member : frame ∈ frames) :
    frame.bytes.length ≤ (frameBytes frames).length := by
  induction member with
  | head frames =>
      rw [frameBytes, List.flatMap_cons, List.length_append]
      exact Nat.le_add_right _ _
  | tail first member ih =>
      rw [frameBytes, List.flatMap_cons, List.length_append]
      exact Nat.le_add_left_of_le ih

theorem arrived_append_pending {Byte Value : Type} (frames : List (Frame Byte Value))
    (count : Nat) :
    arrived frames count ++ (pending frames count).map (·.value) = frames.map (·.value) := by
  induction frames generalizing count with
  | nil => rfl
  | cons frame frames ih =>
      by_cases complete : frame.bytes.length ≤ count <;>
        simp [arrived, pending, complete, ih]

theorem pending_subset {Byte Value : Type} {frames : List (Frame Byte Value)} {count : Nat}
    {frame : Frame Byte Value} (member : frame ∈ pending frames count) : frame ∈ frames := by
  induction frames generalizing count with
  | nil => exact member
  | cons first frames ih =>
      unfold pending at member
      split_ifs at member with complete
      · exact List.mem_cons_of_mem _ (ih member)
      · exact member

theorem pending_all {Byte Value : Type} (frames : List (Frame Byte Value)) :
    pending frames (frameBytes frames).length = [] := by
  induction frames with
  | nil => rfl
  | cons frame frames ih =>
      rw [frameBytes, List.flatMap_cons, List.length_append, pending,
        if_pos (Nat.le_add_right _ _), Nat.add_sub_cancel_left]
      exact ih

namespace Framer

variable {Byte Value Failure : Type} {framer : Framer Byte Value Failure}

theorem drain_frame {buffer rest : List Byte} {value : Value}
    (found : framer.next buffer = .frame value rest) :
    framer.drain buffer = (value :: (framer.drain rest).1, (framer.drain rest).2) := by
  rw [drain]
  split
  · rename_i value' rest' found'
    rw [found] at found'
    cases found'
    rfl
  · rename_i found'
    rw [found] at found'
    cases found'
  · rename_i failure found'
    rw [found] at found'
    cases found'

theorem drain_incomplete {buffer : List Byte} (found : framer.next buffer = .incomplete) :
    framer.drain buffer = ([], .ok buffer) := by
  rw [drain]
  split
  · rename_i value' rest' found'
    rw [found] at found'
    cases found'
  · rfl
  · rename_i failure found'
    rw [found] at found'
    cases found'

/-- A buffer that holds the beginning of a stream of frames yields the frames that are
complete in it. -/
theorem drain_frames {frames : List (Frame Byte Value)}
    (recognised : ∀ frame ∈ frames, framer.Recognises frame)
    (emptyWaits : framer.next [] = .incomplete) {buffer following : List Byte}
    (together : buffer ++ following = frameBytes frames) :
    ∃ rest, framer.drain buffer = (arrived frames buffer.length, .ok rest) ∧
      rest ++ following = frameBytes (pending frames buffer.length) ∧
        ∀ count, arrived frames (buffer.length + count) =
          arrived frames buffer.length ++
            arrived (pending frames buffer.length) (rest.length + count) := by
  induction frames generalizing buffer with
  | nil =>
      obtain ⟨rfl, rfl⟩ := List.append_eq_nil_iff.mp together
      exact ⟨[], drain_incomplete emptyWaits, rfl, fun _ => rfl⟩
  | cons frame frames ih =>
      have isFrame := recognised frame List.mem_cons_self
      rw [frameBytes, List.flatMap_cons] at together
      by_cases complete : frame.bytes.length ≤ buffer.length
      · obtain ⟨tail, rfl⟩ : frame.bytes <+: buffer :=
          List.prefix_of_prefix_length_le ⟨_, rfl⟩ (together ▸ List.prefix_append _ _) complete
        rw [List.append_assoc] at together
        obtain ⟨rest, drained, remaining, later⟩ :=
          ih (fun other member => recognised other (List.mem_cons_of_mem _ member))
            (List.append_cancel_left together)
        refine ⟨rest, ?_, ?_, fun count => ?_⟩
        · rw [drain_frame (isFrame.whole tail), drained]
          simp [arrived]
        · simpa [pending] using remaining
        · have more := later count
          simp only [arrived, pending, List.length_append]
          rw [if_pos (by omega), if_pos (by omega), if_pos (by omega)]
          have counted : frame.bytes.length + tail.length + count - frame.bytes.length =
              tail.length + count := by omega
          rw [counted, Nat.add_sub_cancel_left, more, List.cons_append]
      · -- the buffer ends within the first frame
        have isPrefix : buffer <+: frame.bytes :=
          List.prefix_of_prefix_length_le (together ▸ List.prefix_append _ _) ⟨_, rfl⟩
            (by omega)
        have unfinished : buffer ≠ frame.bytes := by
          rintro rfl
          exact complete (Nat.le_refl _)
        refine ⟨buffer, ?_, ?_, fun count => ?_⟩
        · rw [drain_incomplete (isFrame.waits buffer isPrefix unfinished)]
          simp [arrived, complete]
        · rw [pending, if_neg complete]
          exact together
        · simp [arrived, pending, complete]

/-- The same from a buffer in which no frame is complete yet. -/
theorem feed_frames_from {frames : List (Frame Byte Value)}
    (recognised : ∀ frame ∈ frames, framer.Recognises frame)
    (emptyWaits : framer.next [] = .incomplete) {buffer : List Byte}
    {chunks : List (List Byte)} (waiting : arrived frames buffer.length = [])
    (together : buffer ++ chunks.flatten = frameBytes frames) :
    ∃ batches, framer.feed buffer chunks = (batches, .ok []) ∧
      batches.flatten = frames.map (·.value) ∧
        ∀ count, (batches.take count).flatten =
          arrived frames (buffer.length + (chunks.take count).flatten.length) := by
  induction chunks generalizing frames buffer with
  | nil =>
      rw [List.flatten_nil, List.append_nil] at together
      have allValues := arrived_append_pending frames (frameBytes frames).length
      rw [pending_all, ← together, waiting] at allValues
      obtain rfl : frames = [] := List.map_eq_nil_iff.mp allValues.symm
      obtain rfl : buffer = [] := together
      exact ⟨[], rfl, rfl, by simp [arrived]⟩
  | cons chunk chunks ih =>
      rw [List.flatten_cons, ← List.append_assoc] at together
      obtain ⟨rest, drained, remaining, later⟩ := drain_frames recognised emptyWaits together
      have pendingRecognised : ∀ frame ∈ pending frames (buffer ++ chunk).length,
          framer.Recognises frame := fun frame member =>
        recognised frame (pending_subset member)
      have restWaits : arrived (pending frames (buffer ++ chunk).length) rest.length = [] := by
        simpa using later 0
      obtain ⟨batches, fed, values, sofar⟩ := ih pendingRecognised restWaits remaining
      refine ⟨arrived frames (buffer ++ chunk).length :: batches, ?_, ?_, ?_⟩
      · rw [feed, drained]
        simp only [fed]
      · rw [List.flatten_cons, values, arrived_append_pending]
      · rintro (_ | count)
        · simpa using waiting.symm
        · rw [List.take_succ_cons, List.flatten_cons, sofar, ← later, List.take_succ_cons,
            List.flatten_cons, List.length_append, List.length_append, Nat.add_assoc]

/-- However a stream of frames is cut into chunks, the values of its frames come out in
order, each with the chunk in which its frame ends, and the buffer is empty at the end. -/
theorem feed_frames {frames : List (Frame Byte Value)}
    (recognised : ∀ frame ∈ frames, framer.Recognises frame)
    (emptyWaits : framer.next [] = .incomplete) {chunks : List (List Byte)}
    (together : chunks.flatten = frameBytes frames) :
    ∃ batches, framer.feed [] chunks = (batches, .ok []) ∧
      batches.flatten = frames.map (·.value) ∧
        ∀ count, (batches.take count).flatten =
          arrived frames (chunks.take count).flatten.length := by
  have waiting : arrived frames ([] : List Byte).length = [] := by
    cases frames with
    | nil => rfl
    | cons frame frames =>
        have someByte : frame.bytes ≠ [] := by
          intro empty
          have found := (recognised frame List.mem_cons_self).whole []
          rw [empty, List.append_nil, emptyWaits] at found
          cases found
        rw [arrived, if_neg]
        rw [List.length_nil, Nat.le_zero, List.length_eq_zero_iff]
        exact someByte
  simpa using feed_frames_from recognised emptyWaits waiting together

end Framer
