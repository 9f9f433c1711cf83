import ObjectStorage.Memory.Store

/-! A store in memory that follows a script: it keeps a record of what it is asked, fails where an
outage is announced, and gives prepared replies in place of its own. -/

namespace ObjectStorage

/-- An announced failure of requests of a kind. -/
structure Outage where
  kind : RequestKind
  fault : Fault
  /-- Only the part of this number is concerned. -/
  part? : Option Int := none
  /-- How often the failure still happens; without a number it never ends. -/
  left? : Option Int := none

/-- Whether an outage concerns a request. -/
def Outage.concerns (o : Outage) (r : Request) : Bool :=
  o.kind == r.kind &&
    (match o.part? with
      | some n => r.partNumber? == some n
      | none => true) &&
    (match o.left? with
      | some n => 0 < n
      | none => true)

/-- The fault of the first outage that concerns a request, and the outages that are left after it. -/
def Outage.strike (r : Request) : List Outage → Option Fault × List Outage
  | [] => (none, [])
  | o :: rest =>
    if o.concerns r then (some o.fault, { o with left? := o.left?.map (· - 1) } :: rest)
    else
      let (fault, rest) := strike r rest
      (fault, o :: rest)

/-- A reply that is prepared for the next request of a kind. -/
structure PreparedReply where
  kind : RequestKind
  value : Value

/-- The first reply that is prepared for a kind of request, and the replies that are left. -/
def PreparedReply.next (kind : RequestKind) :
    List PreparedReply → Option Value × List PreparedReply
  | [] => (none, [])
  | p :: rest =>
    if p.kind = kind then (some p.value, rest)
    else
      let (value, rest) := next kind rest
      (value, p :: rest)

/-- A store with its script; `calls` records what it was asked, oldest first. -/
structure Script (ρ : Type) where
  memory : Memory := {}
  outages : List Outage := []
  replies : List PreparedReply := []
  calls : Array ρ := #[]

namespace Script

variable {ρ : Type}

/-- The kinds of request that a prepared reply to a gateway can answer. -/
def gatewayKinds : List RequestKind := [.createUpload, .uploadPart, .signUrl]

/-- The kinds of request that a prepared reply to a client can answer. -/
def clientKinds : List RequestKind := .headObject :: gatewayKinds

/-- Answers a request: outages come first, then what the store itself refuses, then the replies
that are prepared for these kinds of request. -/
def respond (own : Memory → Request → Except Fault Value) (kinds : List RequestKind)
    (r : Request) (s : Script ρ) : Except Fault Value × Script ρ :=
  match Outage.strike r s.outages with
  | (some fault, outages) => (.error fault, { s with outages })
  | (none, _) =>
    match own s.memory r with
    | .error e => (.error e, s)
    | .ok value =>
      let (prepared, replies) :=
        if r.kind ∈ kinds then PreparedReply.next r.kind s.replies else (none, s.replies)
      (.ok (prepared.getD value), { s with memory := s.memory.next r, replies })

/-- The scripted store as a gateway. -/
def gateway : Gateway (Script Request) where
  answer r s := respond Memory.gatewayReply gatewayKinds r { s with calls := s.calls.push r }

/-- The scripted store as a client. -/
def client : Client (Script ClientCall) where
  answer call s :=
    let s := { s with calls := s.calls.push call }
    match call with
    | .openSession | .connect _ => (.ok .null, s)
    | .request r => respond Memory.clientReply clientKinds r s

end Script

end ObjectStorage
