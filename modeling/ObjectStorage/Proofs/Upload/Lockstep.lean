import ObjectStorage.Proofs.Lockstep
import ObjectStorage.Proofs.Upload.Step

/-! The operations of an upload tell related states of the store apart only if its gateway does
(`perform_respects`). -/

namespace ObjectStorage

open ObjectStorage.Action

variable {σ α : Type} {Same : σ → σ → Prop} {gateway : Gateway σ}

namespace Upload

theorem respects_ofQueue (result : Except Shortage α) :
    Respects (Session.Matches Same) (ofQueue result) :=
  respects_ofExcept _

theorem respects_requireInProgress :
    Respects (Session.Matches Same) (requireInProgress : Action (Session σ) Unit) := by
  refine (respects_get _).bind fun status => ?_
  split
  · exact respects_fail _
  · exact respects_pure ()

theorem start_respects (respects : gateway.Respects Same) :
    Respects (Session.Matches Same) (start gateway) := by
  refine (respects_get _).bind fun status => ?_
  split
  · exact respects_fail_bind _ _
  · refine (respects_get _).bind fun bucket => (respects_get _).bind fun key => ?_
    refine (respects_request respects _).failing.bind fun id => ?_
    refine (respects_update _).bind fun _ => (respects_get _).bind fun size? => ?_
    cases size? with
    | none => exact respects_pure ()
    | some size => exact respects_note _ _

theorem sendPart_respects (respects : gateway.Respects Same) (size : Nat) :
    Respects (Session.Matches Same) (sendPart gateway size) := by
  refine (respects_get _).bind fun number => (respects_get _).bind fun front => ?_
  refine (respects_ofQueue front).bind fun data => (respects_get _).bind fun request => ?_
  refine (respects_request respects request).bind fun tag => (respects_get _).bind fun rest => ?_
  refine (respects_ofQueue rest).bind fun left => (respects_update _).bind fun _ => ?_
  exact (respects_get _).bind fun key => respects_note _ _

theorem sendFullParts_respects (respects : gateway.Respects Same) (count : Nat) :
    Respects (Session.Matches Same) (sendFullParts gateway count) := by
  induction count with
  | zero => exact respects_pure ()
  | succ count ih => exact (sendPart_respects respects partSize).bind fun _ => ih

theorem write_respects (respects : gateway.Respects Same) (offset : Int) (data : ByteArray) :
    Respects (Session.Matches Same) (write gateway offset data) := by
  refine respects_requireInProgress.bind fun _ => (respects_get _).bind fun key => ?_
  refine (respects_note _ _).bind fun _ => (respects_update _).bind fun _ => ?_
  refine (respects_get _).bind fun full => ?_
  exact (sendFullParts_respects respects full).failing.bind fun _ => respects_update _

theorem withdraw_respects (respects : gateway.Respects Same) (u : Upload) :
    Respects (Session.Matches Same) (withdraw gateway u) := by
  refine ((respects_request respects _).bind fun _ => respects_note _ _).recover fun e => ?_
  split
  · exact respects_note _ _
  · exact respects_fail e

theorem abort_respects (respects : gateway.Respects Same) :
    Respects (Session.Matches Same) (abort gateway) := by
  refine (respects_get _).bind fun u => ?_
  split
  · split
    · exact (withdraw_respects respects u).bind fun _ => respects_update _
    · exact respects_update _
  · exact respects_pure ()

theorem sendRest_respects (respects : gateway.Respects Same) :
    Respects (Session.Matches Same) (sendRest gateway) := by
  refine (respects_get _).bind fun left => ?_
  split
  · exact (sendPart_respects respects left).failing
  · exact respects_pure ()

theorem assemble_respects (respects : gateway.Respects Same) :
    Respects (Session.Matches Same) (assemble gateway) := by
  refine (respects_get _).bind fun u => ?_
  split
  · exact (abort_respects respects).bind fun _ => respects_fail_bind _ _
  · refine (respects_request respects _).failing.bind fun _ => (respects_update _).bind fun _ => ?_
    exact (respects_note _ _).bind fun _ => respects_pure u.key

theorem complete_respects (respects : gateway.Respects Same) :
    Respects (Session.Matches Same) (complete gateway) := by
  refine respects_requireInProgress.bind fun _ => ?_
  exact (sendRest_respects respects).bind fun _ => assemble_respects respects

theorem release_respects (respects : gateway.Respects Same) :
    Respects (Session.Matches Same) (release gateway) := by
  refine (respects_get _).bind fun status => ?_
  split
  · exact abort_respects respects
  · exact respects_pure ()

theorem drop_respects (respects : gateway.Respects Same) :
    Respects (Session.Matches Same) (drop gateway) :=
  (release_respects respects).recover fun _ => respects_pure ()

end Upload

theorem Operation.perform_respects (respects : gateway.Respects Same) (operation : Operation) :
    Respects (Session.Matches Same) (operation.perform gateway) := by
  cases operation with
  | start => exact (Upload.start_respects respects).bind fun _ => respects_pure none
  | write offset data =>
    exact (Upload.write_respects respects offset data).bind fun _ => respects_pure none
  | complete => exact (Upload.complete_respects respects).bind fun key => respects_pure (some key)
  | abort => exact (Upload.abort_respects respects).bind fun _ => respects_pure none
  | release => exact (Upload.release_respects respects).bind fun _ => respects_pure none
  | drop => exact (Upload.drop_respects respects).bind fun _ => respects_pure none

end ObjectStorage
