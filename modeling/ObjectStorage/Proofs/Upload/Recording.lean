import ObjectStorage.Proofs.Upload.Agreement

/-! Uploads to a gateway that keeps its exchanges. Keeping them changes nothing (`run_recorded`),
and a move of the upload adds one exchange at most (`Move.exchange`). -/

namespace ObjectStorage

variable {σ : Type}

/-- An upload and a store, without the exchanges that were kept. -/
def unrecorded (a : Upload × σ × List Exchange) : Upload × σ := (a.1, a.2.1)

theorem answer_of_recorded {gateway : Gateway σ} {request : Request} {reply : Except Fault Value}
    {a b : σ × List Exchange} (answer : gateway.recorded.answer request a = (reply, b)) :
    gateway.answer request a.1 = (reply, b.1) :=
  (recorded_answer.mp answer).1

/-- A recorded gateway agrees with the gateway itself. -/
theorem agree_recorded (gateway : Gateway σ) :
    Agree gateway.recorded gateway fun kept s => kept.1 = s := by
  intro request reply kept next s _ same answer
  subst same
  exact ⟨next.1, answer_of_recorded answer, rfl⟩

namespace Upload

variable {gateway : Gateway σ} {u v : Upload} {s t : σ} {trace after : List Exchange}

/-- A step at a recorded gateway is a step at the gateway itself. -/
theorem Step.unrecorded {operation : Operation} {a b : Upload × σ × List Exchange}
    {result : Except Fault (Option String)} (step : Step gateway.recorded operation a result b) :
    Step gateway operation (unrecorded a) result (unrecorded b) := by
  obtain ⟨t, same, rfl⟩ := step.agree (agree_recorded gateway) rfl
  exact same

/-- A move of an upload adds the exchange of one request that it may send, or none at all. -/
theorem Move.exchange (move : Move gateway.recorded (u, s, trace) (v, t, after)) :
    after = trace ∨ ∃ request reply, Sendable u request ∧ gateway.answer request s = (reply, t) ∧
      after = trace ++ [⟨request, reply⟩] := by
  rcases move.request with idle | ⟨request, reply, sendable, answer⟩
  · exact .inl (congrArg Prod.snd idle)
  · obtain ⟨given, kept⟩ := recorded_answer.mp answer
    exact .inr ⟨request, reply, sendable, given, kept⟩

end Upload

namespace History

/-- The exchanges with a recorded gateway. -/
def trace (h : History (σ × List Exchange)) : List Exchange := h.store.2

/-- The history of a new upload, with the exchanges that it had. -/
def recorded (gateway : Gateway σ) (bucket key : String) (expectedSize? : Option Int) (store : σ)
    (operations : List Operation) : History (σ × List Exchange) :=
  run gateway.recorded (Upload.blank bucket key expectedSize?) (store, []) operations

/-- Keeping the exchanges changes neither the upload nor the store, and no operation ends
otherwise. -/
theorem run_recorded (gateway : Gateway σ) (u : Upload) (store : σ) (kept : List Exchange)
    (operations : List Operation) :
    (run gateway.recorded u (store, kept) operations).upload =
        (run gateway u store operations).upload ∧
      (run gateway.recorded u (store, kept) operations).store.1 =
        (run gateway u store operations).store ∧
      (run gateway.recorded u (store, kept) operations).events =
        (run gateway u store operations).events := by
  have related : (store, kept).1 = store := rfl
  obtain ⟨sameUpload, sameEvents, sameStore⟩ :=
    run_agree (agree_recorded gateway) related u operations
  exact ⟨sameUpload, sameStore, sameEvents⟩

/-- What taking data, counting it and every move keep holds of every recorded history. -/
theorem recorded_keeps {gateway : Gateway σ} {bucket key : String} {expectedSize? : Option Int}
    {P : Upload → List Exchange → Prop} (first : P (Upload.blank bucket key expectedSize?) [])
    (fed : ∀ {u trace data}, P u trace → P (u.fed data) trace)
    (credited : ∀ {u trace data}, P u trace → P (u.credited data) trace)
    (moved : ∀ {u s trace v t after}, P u trace →
      Upload.Move gateway.recorded (u, s, trace) (v, t, after) → P v after)
    (store : σ) (operations : List Operation) :
    P (recorded gateway bucket key expectedSize? store operations).upload
      (recorded gateway bucket key expectedSize? store operations).trace := by
  refine run_keeps (P := fun u (kept : σ × List Exchange) _ => P u kept.2) first ?_ operations
  intro u kept events operation result v reached before step
  exact step.keeps (P := fun u kept => P u kept.2) fed credited moved before

end History

end ObjectStorage
