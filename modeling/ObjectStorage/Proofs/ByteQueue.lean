import ObjectStorage.Action
import ObjectStorage.ByteQueue
import ObjectStorage.Proofs.Pieces

/-! A queue under any calls, failing ones among them: bytes leave it in the order in which they have
entered it, none is lost and none leaves twice (`ByteQueue.run_lossless`). Sizes are any integers. -/

namespace ObjectStorage

/-- What a caller does with a queue. -/
inductive ByteQueue.Call where
  | append (data : ByteArray)
  | peek (size : Int)
  | discard (size : Int)
  | take (size : Int)
  | clear

namespace ByteQueue

/-- A result of a queue, its shortage as an error of the storage layer. -/
def tell {α : Type} (result : Except Shortage α) : Action ByteQueue α :=
  .ofExcept (result.mapError fun e => .storage (.insufficientBuffer e.requested e.available))

/-- Performs a call; some calls answer with bytes. -/
def Call.perform : Call → Action ByteQueue (Option ByteArray)
  | append data => do
    .change (·.append data)
    pure none
  | peek size => do
    let q ← .read
    let front ← tell (q.peek size)
    pure (some front)
  | discard size => do
    let q ← .read
    let rest ← tell (q.discard size)
    .change fun _ => rest
    pure none
  | take size => do
    let q ← .read
    let (front, rest) ← tell (q.take size)
    .change fun _ => rest
    pure (some front)
  | clear => do
    .change fun _ => .empty
    pure none

/-- The calls that have to do with the front of a size. -/
def Call.ofSize (size : Int) : List Call := [peek size, discard size, take size]

/-- The bytes that a call answers with. -/
def Call.answer (call : Call) (q : ByteQueue) : ByteArray :=
  match (call.perform q).1 with
  | .ok (some data) => data
  | _ => .empty

/-- The bytes that leave a queue with a call: a front that is taken, or one that is discarded, which
is what a look at it would have shown. -/
def Call.removed (q : ByteQueue) : Call → ByteArray
  | take size => (take size).answer q
  | discard size => (peek size).answer q
  | _ => .empty

/-- A queue with what has entered it and what has left it since it was cleared last. -/
structure Flow where
  queue : ByteQueue := .empty
  entered : ByteArray := .empty
  left : ByteArray := .empty

namespace Flow

def step (flow : Flow) (call : Call) : Flow :=
  let queue := (call.perform flow.queue).2
  match call with
  | .append data => { flow with queue, entered := flow.entered ++ data }
  | .clear => { queue }
  | call => { flow with queue, left := flow.left ++ call.removed flow.queue }

/-- A queue that was empty at first, after calls. -/
def run (calls : List Call) : Flow := calls.foldl step {}

/-- What has left and what waits are together what has entered. -/
def IsBalanced (flow : Flow) : Prop := flow.left ++ flow.queue.bytes = flow.entered

end Flow

/-- What the calls of a size come to. -/
inductive Fronts (q : ByteQueue) (size : Int) : Prop where
  /-- All of them fail and leave the queue as it was. -/
  | short (beyond : q.size < size)
      (refused : ∀ call ∈ Call.ofSize size,
        call.perform q = (.error (.storage (.insufficientBuffer size q.size)), q))
  /-- They agree on the front and on what is behind it. -/
  | served {front : ByteArray} {rest : ByteQueue} (within : size ≤ q.size)
      (whole : front ++ rest.bytes = q.bytes)
      (length : (front.size : Int) = if size < 0 then max 0 (q.size + size) else size)
      (peek : (Call.peek size).perform q = (.ok (some front), q))
      (discard : (Call.discard size).perform q = (.ok none, rest))
      (take : (Call.take size).perform q = (.ok (some front), rest))

variable {q : ByteQueue} {size : Int} {n : Nat} {flow : Flow}

theorem measure_of_lt (beyond : q.size < size) : q.measure size = .error ⟨size, q.size⟩ :=
  if_pos beyond

theorem measure_of_within (within : size ≤ q.size) :
    q.measure size = .ok (frontSize size q.size) :=
  if_neg (Int.not_lt.mpr within)

/-- The size of a front, a negative one as the place before the end that it reaches to. -/
theorem frontSize_eq (within : size ≤ n) :
    (frontSize size n : Int) = if size < 0 then max 0 (n + size) else size := by
  unfold frontSize
  split <;> omega

theorem peek_of_lt (beyond : q.size < size) : q.peek size = .error ⟨size, q.size⟩ := by
  rw [peek, measure_of_lt beyond]
  rfl

theorem discard_of_lt (beyond : q.size < size) : q.discard size = .error ⟨size, q.size⟩ := by
  rw [discard, measure_of_lt beyond]
  rfl

theorem peek_of_within (within : size ≤ q.size) :
    q.peek size = .ok (q.bytes.extract 0 (frontSize size q.size)) := by
  rw [peek, measure_of_within within]
  rfl

theorem discard_of_within (within : size ≤ q.size) :
    q.discard size = .ok ⟨q.bytes.extract (frontSize size q.size) q.bytes.size⟩ := by
  rw [discard, measure_of_within within]
  rfl

/-- To take is to peek and then to discard. -/
theorem perform_take (size : Int) : (Call.take size).perform = (do
    let front ← (Call.peek size).perform
    let _ ← (Call.discard size).perform
    pure front) := by
  funext q
  simp only [Call.perform, Action.bind_apply, Action.read, take]
  cases q.peek size with
  | error e => rfl
  | ok front =>
    simp only [tell, Action.ofExcept, Except.mapError, Action.pure_apply]
    cases q.discard size <;> rfl

/-- Without bytes enough, the calls of a size fail with the same shortage. -/
theorem fronts_of_lt (beyond : q.size < size) : Fronts q size := by
  have peek : (Call.peek size).perform q =
      (.error (.storage (.insufficientBuffer size q.size)), q) := by
    simp only [Call.perform, Action.bind_apply, Action.read, peek_of_lt beyond]
    rfl
  have discard : (Call.discard size).perform q =
      (.error (.storage (.insufficientBuffer size q.size)), q) := by
    simp only [Call.perform, Action.bind_apply, Action.read, discard_of_lt beyond]
    rfl
  have take : (Call.take size).perform q =
      (.error (.storage (.insufficientBuffer size q.size)), q) := by
    rw [perform_take, Action.bind_apply, peek]
  apply Fronts.short beyond
  simp only [Call.ofSize, List.forall_mem_cons]
  exact ⟨peek, discard, take, by simp⟩

theorem fronts_of_within (within : size ≤ q.size) : Fronts q size := by
  have enough := frontSize_le size q.size
  have peek : (Call.peek size).perform q =
      (.ok (some (q.bytes.extract 0 (frontSize size q.size))), q) := by
    simp only [Call.perform, Action.bind_apply, Action.read, peek_of_within within]
    rfl
  have discard : (Call.discard size).perform q =
      (.ok none, ⟨q.bytes.extract (frontSize size q.size) q.bytes.size⟩) := by
    simp only [Call.perform, Action.bind_apply, Action.read, discard_of_within within]
    rfl
  refine .served within (extract_append_rest enough) ?_ peek discard ?_
  · have length : (q.bytes.extract 0 (frontSize size q.size)).size = frontSize size q.size := by
      rw [ByteArray.size_extract, Nat.sub_zero]
      exact Nat.min_eq_left enough
    rw [length, frontSize_eq within]
  · rw [perform_take, Action.bind_apply, peek]
    simp only [Action.bind_apply, discard]
    rfl

theorem fronts (q : ByteQueue) (size : Int) : Fronts q size := by
  by_cases within : size ≤ q.size
  · exact fronts_of_within within
  · exact fronts_of_lt (Int.not_le.mp within)

theorem mem_ofSize_iff {call : Call} :
    call ∈ Call.ofSize size ↔ call = .peek size ∨ call = .discard size ∨ call = .take size := by
  simp [Call.ofSize]

/-- The calls of a size fail exactly where the size is beyond the queue's own. -/
theorem fails_iff {call : Call} (member : call ∈ Call.ofSize size) :
    (∃ e, (call.perform q).1 = .error e) ↔ q.size < size := by
  cases fronts q size with
  | short beyond refused => exact iff_of_true ⟨_, by rw [refused call member]⟩ beyond
  | served within whole length peek discard take =>
    refine iff_of_false ?_ (Int.not_lt.mpr within)
    rintro ⟨e, failed⟩
    rcases mem_ofSize_iff.mp member with rfl | rfl | rfl
    · rw [peek] at failed
      cases failed
    · rw [discard] at failed
      cases failed
    · rw [take] at failed
      cases failed

/-- What a call of a size removes from a queue and what it leaves are what was there. -/
theorem removed_append_rest {call : Call} (member : call ∈ Call.ofSize size) :
    call.removed q ++ (call.perform q).2.bytes = q.bytes := by
  cases fronts q size with
  | short beyond refused =>
    have nothing : ∀ other ∈ Call.ofSize size, other.answer q = .empty := by
      intro other present
      rw [Call.answer, refused other present]
    have removed : call.removed q = .empty := by
      rcases mem_ofSize_iff.mp member with rfl | rfl | rfl
      · rfl
      · exact nothing (.peek size) (by simp [Call.ofSize])
      · exact nothing (.take size) member
    rw [removed, refused call member, ByteArray.empty_append]
  | served within whole length peek discard take =>
    rcases mem_ofSize_iff.mp member with rfl | rfl | rfl
    · rw [peek]
      exact ByteArray.empty_append
    · rw [Call.removed, Call.answer, peek, discard, whole]
    · rw [Call.removed, Call.answer, take, whole]

namespace Flow

theorem IsBalanced.removed (balanced : flow.IsBalanced) {call : Call}
    (member : call ∈ Call.ofSize size) :
    flow.left ++ call.removed flow.queue ++ (call.perform flow.queue).2.bytes = flow.entered := by
  rw [ByteArray.append_assoc, removed_append_rest member, balanced]

theorem IsBalanced.step (balanced : flow.IsBalanced) (call : Call) : (flow.step call).IsBalanced := by
  cases call with
  | append data =>
    change flow.left ++ (flow.queue.bytes ++ data) = flow.entered ++ data
    rw [← ByteArray.append_assoc, balanced]
  | clear => exact ByteArray.empty_append
  | peek size => exact balanced.removed (mem_ofSize_iff.mpr (.inl rfl))
  | discard size => exact balanced.removed (mem_ofSize_iff.mpr (.inr (.inl rfl)))
  | take size => exact balanced.removed (mem_ofSize_iff.mpr (.inr (.inr rfl)))

theorem run_balanced (calls : List Call) : (run calls).IsBalanced := by
  induction calls using List.reverseRecOn with
  | nil => exact ByteArray.empty_append
  | append_singleton calls call ih =>
    rw [run, List.foldl_append]
    exact ih.step call

end Flow

/-- Whatever is called, the bytes that have left a queue since it was cleared last, and then those
that wait in it, are the bytes that have entered it since, in the same order. At every time the calls
of a size fail exactly where the size is beyond the queue's, and agree on the front. -/
theorem run_lossless (calls : List Call) :
    (Flow.run calls).left ++ (Flow.run calls).queue.bytes = (Flow.run calls).entered ∧
      ∀ size, Fronts (Flow.run calls).queue size ∧ ∀ call ∈ Call.ofSize size,
        (∃ e, (call.perform (Flow.run calls).queue).1 = .error e) ↔
          (Flow.run calls).queue.size < size := by
  refine ⟨Flow.run_balanced calls, ?_⟩
  intro size
  constructor
  · exact fronts _ size
  · intro call member
    exact fails_iff member

/-- Four bytes are too many of three; all but the last one are taken, and two are too many again. -/
theorem run_lossless_short : Call.peek 2 ∈ Call.ofSize 2 ∧
    (Flow.run [.append ⟨#[1, 2, 3]⟩, .take 4, .take (-1)]).left = ⟨#[1, 2]⟩ ∧
    (Flow.run [.append ⟨#[1, 2, 3]⟩, .take 4, .take (-1)]).left ++
      (Flow.run [.append ⟨#[1, 2, 3]⟩, .take 4, .take (-1)]).queue.bytes = ⟨#[1, 2, 3]⟩ ∧
    ∃ e, ((Call.peek 2).perform
      (Flow.run [.append ⟨#[1, 2, 3]⟩, .take 4, .take (-1)]).queue).1 = .error e := by
  have member : Call.peek 2 ∈ Call.ofSize 2 := mem_ofSize_iff.mpr (.inl rfl)
  obtain ⟨balanced, sizes⟩ := run_lossless [.append ⟨#[1, 2, 3]⟩, .take 4, .take (-1)]
  refine ⟨member, by decide, balanced, ?_⟩
  exact ((sizes 2).2 (.peek 2) member).mpr (by decide)

end ByteQueue

end ObjectStorage
