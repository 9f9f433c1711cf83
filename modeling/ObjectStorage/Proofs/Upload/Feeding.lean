import ObjectStorage.Proofs.Pieces
import ObjectStorage.Proofs.Upload.Agreement

/-! Data that is written to an upload in pieces. Where the pieces are cut does not matter: writing
them one after another comes to the same as one write of all of them (`Fed.single`), although the
part that fails, if one does, may fall to another write. -/

namespace ObjectStorage.Upload

variable {σ : Type}

/-- Pieces of data that are written one after another, up to the first write that fails. -/
inductive Fed (gateway : Gateway σ) :
    List ByteArray → Upload × σ → Except Fault Unit → Upload × σ → Prop where
  | done : Fed gateway [] a (.ok ()) a
  | more (written : Step gateway (.write offset data) a (.ok none) b)
      (rest : Fed gateway pieces b result c) : Fed gateway (data :: pieces) a result c
  | stopped (failed : Step gateway (.write offset data) a (.error e) b) :
      Fed gateway (data :: pieces) a (.error e) b

variable {gateway : Gateway σ} {u v w : Upload} {s t r : σ} {a b c : Upload × σ}
  {data more : ByteArray} {pieces : List ByteArray} {e : Fault} {offset offset' : Int}

/-- What the store can know of an upload: not what waits, how much was taken or what size is
expected. -/
def outline (u : Upload) : Upload :=
  { u with queue := .empty, acceptedBytes := 0, expectedSize? := none }

/-- The upload with so many bytes counted as taken. -/
def counting (u : Upload) (acceptedBytes : Nat) : Upload := { u with acceptedBytes }

theorem outline_failedBy (u : Upload) (e : Fault) :
    (u.failedBy e).outline = u.outline.failedBy e := by
  unfold failedBy
  split <;> rfl

/-- Alike uploads are alike after the same fault. -/
theorem outline_failedBy_congr (same : u.outline = v.outline) (e : Fault) :
    (u.failedBy e).outline = (v.failedBy e).outline := by
  rw [outline_failedBy, outline_failedBy, same]

/-- Data that joins the queue is not seen at its front. -/
theorem partRequest_fed {size : Nat} (enough : size ≤ u.queue.size) (more : ByteArray) :
    (u.fed more).partRequest size = u.partRequest size := by
  have front : (u.queue.bytes ++ more).extract 0 size = u.queue.bytes.extract 0 size := by
    change size ≤ u.queue.bytes.size at enough
    rw [ByteArray.extract_append, Nat.zero_sub, Nat.sub_eq_zero_of_le enough,
      ByteArray.extract_same, ByteArray.append_empty]
  simp [partRequest, fed, ByteQueue.append, front]

theorem sent_fed {size : Nat} (enough : size ≤ u.queue.size) (more : ByteArray) (tag : Value) :
    (u.fed more).sent size tag = (u.sent size tag).fed more := by
  have rest : (u.queue.bytes ++ more).extract size (u.queue.bytes ++ more).size =
      u.queue.bytes.extract size u.queue.bytes.size ++ more := by
    change size ≤ u.queue.bytes.size at enough
    rw [ByteArray.extract_append, Nat.sub_eq_zero_of_le enough, ByteArray.size_append,
      Nat.add_sub_cancel_left, ByteArray.extract_zero_size,
      extract_of_size_le (Nat.le_add_right _ _)]
  simp only [sent, fed, ByteQueue.append, rest]

/-- The parts that are sent stay the same when more data joins the queue behind them. -/
theorem FullParts.fed {count : Nat} (parts : FullParts gateway count a b) (more : ByteArray) :
    FullParts gateway count (a.1.fed more, a.2) (b.1.fed more, b.2) := by
  induction parts with
  | none => exact .none
  | @more s t tag count b u full answer rest ih =>
    have stillFull : partSize ≤ (u.fed more).queue.size := by
      rw [fed_size]
      omega
    rw [← partRequest_fed full more] at answer
    rw [← sent_fed full more tag] at ih
    exact .more stillFull answer ih

theorem FullParts.counting {count : Nat} (parts : FullParts gateway count a b) (taken : Nat) :
    FullParts gateway count (a.1.counting taken, a.2) (b.1.counting taken, b.2) := by
  induction parts with
  | none => exact .none
  | more full answer rest ih => exact .more full answer ih

theorem FullParts.trans {count others : Nat} (first : FullParts gateway count a b)
    (second : FullParts gateway others b c) : FullParts gateway (count + others) a c := by
  induction first with
  | none =>
    rw [Nat.zero_add]
    exact second
  | more full answer rest ih =>
    rw [Nat.add_right_comm]
    exact .more full answer (ih second)

/-- The parts of a write and those of the next one are parts of one write of both. -/
theorem FullParts.append {count others : Nat}
    (first : FullParts gateway count (u.fed data, s) (v, t))
    (second : FullParts gateway others ((v.credited data).fed more, t) (w, r)) :
    FullParts gateway (count + others) (u.fed (data ++ more), s)
      (w.counting u.acceptedBytes, r) := by
  have front := first.fed more
  have back := second.counting u.acceptedBytes
  have between : ((v.credited data).fed more).counting u.acceptedBytes = v.fed more := by
    have kept : v.acceptedBytes = u.acceptedBytes := first.acceptedBytes_eq
    rw [← kept]
    rfl
  rw [fed_fed] at front
  rw [between] at back
  exact front.trans back

/-- Two writes that come to their ends are one write of the data of both. -/
theorem Step.written_append (isOpen : u.status = .inProgress)
    (first : Step gateway (.write offset data) (u, s) (.ok none) (v, t))
    (second : Step gateway (.write offset' more) (v, t) (.ok none) (w, r)) :
    Step gateway (.write 0 (data ++ more)) (u, s) (.ok none) (w, r) := by
  cases first with
  | @written _ v _ _ _ _ _ firstParts =>
    cases second with
    | @written _ w _ _ _ _ _ secondParts =>
      have parts := firstParts.append secondParts
      have firstSize : (u.fed data).queue.size =
          (u.fed data).queue.size / partSize * partSize + v.queue.size := firstParts.size_eq
      have count : (u.fed data).queue.size / partSize +
          ((v.credited data).fed more).queue.size / partSize =
            (u.fed (data ++ more)).queue.size / partSize := by
        have left : ((v.credited data).fed more).queue.size = v.queue.size + more.size :=
          fed_size _ more
        have both : (u.fed (data ++ more)).queue.size =
            ((v.credited data).fed more).queue.size +
              (u.fed data).queue.size / partSize * partSize := by
          rw [← fed_fed, fed_size, left]
          omega
        rw [both, Nat.add_mul_div_right _ _ partSize_pos, Nat.add_comm]
      have total : (w.counting u.acceptedBytes).credited (data ++ more) = w.credited more := by
        have kept : w.acceptedBytes = v.acceptedBytes + data.size := secondParts.acceptedBytes_eq
        have before : v.acceptedBytes = u.acceptedBytes := firstParts.acceptedBytes_eq
        simp [counting, credited, kept, before, Nat.add_assoc]
      rw [count] at parts
      rw [← total]
      exact .written isOpen parts

/-- A write that fails after another one is a write of the data of both that fails. -/
theorem Step.writeFailed_append (isOpen : u.status = .inProgress)
    (first : Step gateway (.write offset data) (u, s) (.ok none) (v, t))
    (second : Step gateway (.write offset' more) (v, t) (.error e) (w, r)) :
    ∃ w', Step gateway (.write 0 (data ++ more)) (u, s) (.error e) (w', r) ∧
      w'.outline = w.outline := by
  cases first with
  | written _ firstParts =>
    cases second with
    | writeShut shut => exact absurd (firstParts.status_eq.trans isOpen) shut
    | @writeFailed _ _ w _ _ _ _ _ _ _ secondParts full answer =>
      refine ⟨_, .writeFailed isOpen (firstParts.append secondParts) full answer, ?_⟩
      have same : (w.counting u.acceptedBytes).outline = w.outline := rfl
      exact outline_failedBy_congr same e

/-- A write that fails does so too when it has more data behind. -/
theorem Step.writeFailed_of_prefix (isOpen : u.status = .inProgress)
    (first : Step gateway (.write offset data) (u, s) (.error e) (v, t)) (more : ByteArray) :
    ∃ w, Step gateway (.write 0 (data ++ more)) (u, s) (.error e) (w, t) ∧
      w.outline = v.outline := by
  cases first with
  | writeShut shut => exact absurd isOpen shut
  | @writeFailed _ _ v _ _ _ _ _ _ _ parts full answer =>
    have longer := parts.fed more
    have stillFull : partSize ≤ (v.fed more).queue.size := by
      rw [fed_size]
      omega
    rw [fed_fed] at longer
    rw [← partRequest_fed full more] at answer
    refine ⟨_, .writeFailed isOpen longer stillFull answer, ?_⟩
    have same : (v.fed more).outline = v.outline := rfl
    exact outline_failedBy_congr same e

/-- Less than a part waits after a write that has come to its end. -/
theorem Step.few_of_written
    (step : Step gateway (.write offset data) (u, s) (.ok none) (v, t)) :
    v.status = .inProgress ∧ v.queue.size < partSize := by
  cases step with
  | @written _ v _ _ _ _ isOpen parts =>
    have size : (u.fed data).queue.size =
        (u.fed data).queue.size / partSize * partSize + v.queue.size := parts.size_eq
    have division := Nat.div_add_mod' (u.fed data).queue.size partSize
    have few := Nat.mod_lt (u.fed data).queue.size partSize_pos
    have left : (v.credited data).queue.size = v.queue.size := rfl
    exact ⟨parts.status_eq.trans isOpen, by omega⟩

/-- Pieces that are written one after another come to the same as one write of all of them. If they
fail, more of the data may wait after the one write. -/
theorem Fed.single {result : Except Fault Unit} (fed : Fed gateway pieces (u, s) result (v, t))
    (isOpen : u.status = .inProgress) (few : u.queue.size < partSize) :
    ∃ w, Step gateway (.write 0 (joined pieces)) (u, s) (result.map fun _ => none) (w, t) ∧
      w.outline = v.outline ∧ (result = .ok () → w = v) := by
  -- Less than a part waits between two writes, so the parts of the one write are those of the first
  -- write, and then those of the others.
  generalize start : (u, s) = a at fed
  generalize finish : (v, t) = b at fed
  induction fed generalizing u s with
  | done =>
    subst start
    cases finish
    have none : (v.fed .empty).queue.size / partSize = 0 := by
      rw [fed_empty]
      exact Nat.div_eq_of_lt few
    have parts : FullParts gateway ((v.fed .empty).queue.size / partSize) (v.fed .empty, t)
        (v, t) := by
      rw [none, fed_empty]
      exact .none
    exact ⟨_, .written isOpen parts, rfl, fun _ => rfl⟩
  | @more offset data a b pieces result c written rest ih =>
    subst start finish
    obtain ⟨b, s'⟩ := b
    obtain ⟨stillOpen, stillFew⟩ := written.few_of_written
    obtain ⟨w, step, alike, equal⟩ := ih stillOpen stillFew rfl rfl
    rw [joined_cons]
    cases result with
    | ok =>
      cases equal rfl
      exact ⟨_, written.written_append isOpen step, rfl, fun _ => rfl⟩
    | error e =>
      obtain ⟨w', step', alike'⟩ := written.writeFailed_append isOpen step
      exact ⟨w', step', alike'.trans alike, nofun⟩
  | @stopped offset data a e b pieces failed =>
    subst start finish
    obtain ⟨w, step, alike⟩ := failed.writeFailed_of_prefix isOpen (joined pieces)
    rw [joined_cons]
    exact ⟨w, step, alike, nofun⟩

end ObjectStorage.Upload
