import ObjectStorage.Memory.Store
import ObjectStorage.Proofs.Exchange
import ObjectStorage.Proofs.Pieces

/-! Stores that keep parts under the name of their upload and put objects together from them. Any
request may fail instead, before it has an effect. -/

namespace ObjectStorage

variable {σ : Type}

/-- What a store holds. -/
structure Holdings where
  /-- The names that were given to uploads so far. -/
  issued : Value → Prop
  part : Value → Int → ByteArray
  object? : (bucket key : String) → Option ByteArray

/-- What a request and its answer make of what a store holds. A store need not tell buckets apart,
and may drop the parts of an upload that is taken back. -/
inductive Effect (before after : Holdings) : Request → Except Fault Value → Prop where
  | fault (unchanged : after = before) : Effect before after request (.error e)
  | created (fresh : ¬ before.issued name)
      (issued : ∀ other, after.issued other ↔ other = name ∨ before.issued other)
      (part : after.part = before.part) (object : after.object? = before.object?) :
      Effect before after (.createUpload bucket key contentType) (.ok name)
  | kept (issued : after.issued = before.issued) (here : after.part name number = data)
      (elsewhere : ∀ other n, other ≠ name ∨ n ≠ number → after.part other n = before.part other n)
      (object : after.object? = before.object?) :
      Effect before after (.uploadPart bucket key name number data) (.ok tag)
  | assembled (issued : after.issued = before.issued) (part : after.part = before.part)
      (here : after.object? bucket key =
        some (joined (parts.map fun p => before.part name p.number)))
      (elsewhere : ∀ place other, other ≠ key →
        after.object? place other = before.object? place other) :
      Effect before after (.completeUpload bucket key name parts) (.ok value)
  | withdrawn (issued : after.issued = before.issued)
      (elsewhere : ∀ other n, other ≠ name → after.part other n = before.part other n)
      (object : after.object? = before.object?) :
      Effect before after (.abortUpload bucket key name) (.ok value)

variable {h h' : Holdings} {request : Request} {reply : Except Fault Value} {name : Value}

theorem Effect.unchanged {e : Fault} (effect : Effect h h' request (.error e)) : h' = h := by
  cases effect with
  | fault unchanged => exact unchanged

theorem Effect.issued_of_issued (effect : Effect h h' request reply) (issued : h.issued name) :
    h'.issued name := by
  cases effect with
  | fault unchanged => rwa [unchanged]
  | created _ grown => exact (grown name).mpr (.inr issued)
  | kept same => rwa [same]
  | assembled same => rwa [same]
  | withdrawn same => rwa [same]

/-- A request leaves the parts of every other upload as they are. -/
theorem Effect.part_of_ne (effect : Effect h h' request reply)
    (foreign : request.uploadId? ≠ some name) : h'.part name = h.part name := by
  cases effect with
  | fault unchanged => rw [unchanged]
  | created _ _ same => rw [same]
  | kept _ _ elsewhere =>
    funext n
    exact elsewhere name n (.inl fun same => foreign (congrArg some same.symm))
  | assembled _ same => rw [same]
  | withdrawn _ elsewhere =>
    funext n
    exact elsewhere name n fun same => foreign (congrArg some same.symm)

/-- A store that keeps parts. Nothing is said of requests about names that it never gave. -/
structure PartStore (σ : Type) where
  gateway : Gateway σ
  holdings : σ → Holdings
  creation : ∀ {bucket key contentType reply s t},
    gateway.answer (.createUpload bucket key contentType) s = (reply, t) →
      Effect (holdings s) (holdings t) (.createUpload bucket key contentType) reply
  service : ∀ {request name reply s t}, request.uploadId? = some name → (holdings s).issued name →
    gateway.answer request s = (reply, t) → Effect (holdings s) (holdings t) request reply

/-- A gateway with outages to come: each request meets the next one, or none. -/
def Service.withOutages (gateway : Gateway σ) : Gateway (σ × List (Option Fault)) where
  answer request s :=
    match s.2 with
    | some e :: rest => (.error e, s.1, rest)
    | planned =>
      match gateway.answer request s.1 with
      | (reply, t) => (reply, t, planned.tail)

theorem withOutages_answer {gateway : Gateway σ} {request : Request} {reply : Except Fault Value}
    {s t : σ × List (Option Fault)} (answer : gateway.withOutages.answer request s = (reply, t)) :
    gateway.answer request s.1 = (reply, t.1) ∨ ∃ e, reply = .error e ∧ t.1 = s.1 := by
  simp only [Service.withOutages] at answer
  split at answer
  · cases answer
    exact .inr ⟨_, rfl, rfl⟩
  · cases answer
    exact .inl rfl

def PartStore.withOutages (store : PartStore σ) : PartStore (σ × List (Option Fault)) where
  gateway := store.gateway.withOutages
  holdings s := store.holdings s.1
  creation := by
    intro bucket key contentType reply s t answer
    rcases withOutages_answer answer with given | ⟨e, rfl, unchanged⟩
    · exact store.creation given
    · exact .fault (congrArg store.holdings unchanged)
  service := by
    intro request name reply s t named issued answer
    rcases withOutages_answer answer with given | ⟨e, rfl, unchanged⟩
    · exact store.service named issued given
    · exact .fault (congrArg store.holdings unchanged)

namespace Memory

theorem uploadName_injective {m n : Nat} (same : uploadName m = uploadName n) : m = n := by
  have digits : Nat.toDigits 10 m = Nat.toDigits 10 n := by
    simpa [uploadName, toString, ← String.toList_inj, Nat.toList_repr] using same
  rw [← Nat.ofDigitChars_toDigits (b := 10) (n := m) (by omega) (by omega), digits,
    Nat.ofDigitChars_toDigits (by omega) (by omega)]

theorem sameKey_text {v : Value} {s : String} : v.sameKey (.text s) = true ↔ v = .text s := by
  cases v with
  | float x => cases whole : Decimal.toInt? x <;> simp [Value.sameKey, Value.wholeKey?, whole]
  | _ => simp [Value.sameKey, Value.wholeKey?]

theorem text_sameKey {v : Value} {s : String} : (Value.text s).sameKey v = true ↔ v = .text s := by
  cases v with
  | float x => cases whole : Decimal.toInt? x <;> simp [Value.sameKey, Value.wholeKey?, whole]
  | text t =>
    simp only [Value.sameKey, Value.wholeKey?, beq_iff_eq, Value.text.injEq]
    exact eq_comm
  | _ => simp [Value.sameKey, Value.wholeKey?]

/-- The data kept last under a name and a number is found there. -/
theorem part_keep_here (m : Memory) (name : String) (number : Int) (data : ByteArray) :
    (m.keep (.text name) number data).part (.text name) number = data := by
  simp [part, keep, KeptPart.isAt, text_sameKey]

/-- Elsewhere everything is found as before. -/
theorem part_keep_elsewhere (m : Memory) {name : String} {number n : Int} {data : ByteArray}
    {other : Value} (apart : other ≠ .text name ∨ n ≠ number) :
    (m.keep (.text name) number data).part other n = m.part other n := by
  have missed : KeptPart.isAt ⟨.text name, number, data⟩ other n = false := by
    apply Bool.eq_false_iff.mpr
    intro found
    obtain ⟨sameName, sameNumber⟩ := Bool.and_eq_true_iff.mp found
    rcases apart with otherName | otherNumber
    · exact otherName (text_sameKey.mp sameName)
    · exact otherNumber (beq_iff_eq.mp sameNumber).symm
  have spared : ∀ p : KeptPart,
      (!KeptPart.isAt p (.text name) number) = true ∧ KeptPart.isAt p other n = true ↔
        KeptPart.isAt p other n = true := by
    intro p
    refine ⟨And.right, fun found => ⟨?_, found⟩⟩
    rw [Bool.not_eq_true']
    apply Bool.eq_false_iff.mpr
    intro removed
    obtain ⟨ofName, ofNumber⟩ := Bool.and_eq_true_iff.mp removed
    obtain ⟨sameName, sameNumber⟩ := Bool.and_eq_true_iff.mp found
    rw [sameKey_text.mp ofName] at sameName
    rcases apart with otherName | otherNumber
    · exact otherName (text_sameKey.mp sameName)
    · exact otherNumber ((beq_iff_eq.mp sameNumber).symm.trans (beq_iff_eq.mp ofNumber))
  simp only [part, keep, List.find?_cons, missed, List.find?_filter, spared, Bool.decide_eq_true]

private theorem lookup_erased {key other : String} (different : other ≠ key)
    (objects : List (String × ByteArray)) :
    (objects.filter (·.1 != key)).lookup other = objects.lookup other := by
  induction objects with
  | nil => rfl
  | cons entry objects ih =>
    obtain ⟨held, data⟩ := entry
    by_cases removed : held = key
    · subst removed
      have missed : (other == held) = false := by simpa using different
      simpa [List.lookup_cons, missed] using ih
    · simp [removed, List.lookup_cons, ih]

theorem object?_store (m : Memory) (key : String) (data : ByteArray) :
    (m.store key data).object? key = some data := by
  simp [object?, store]

theorem object?_store_of_ne (m : Memory) {key other : String} (data : ByteArray)
    (different : other ≠ key) : (m.store key data).object? other = m.object? other := by
  have missed : (other == key) = false := by simpa using different
  simp only [object?, store, List.lookup_cons, missed, erase]
  exact lookup_erased different m.objects

theorem assemble_eq_joined (m : Memory) (name : Value) (parts : List Part) :
    m.assemble name parts = joined (parts.map fun p => m.part name p.number) := by
  simp [assemble, joined, List.foldl_map]

theorem completionReply_text (name : String) (parts : List Part) :
    completionReply (.text name) parts = .ok .null := by
  unfold completionReply
  split <;> rfl

/-- What the store in memory holds. It does not tell buckets apart. -/
def holdings (m : Memory) : Holdings where
  issued name := ∃ n, n < m.created ∧ name = .text (uploadName (n + 1))
  part := m.part
  object? _ key := m.object? key

/-- The store in memory keeps parts. -/
def partStore : PartStore Memory where
  gateway := gateway
  holdings := holdings
  creation := by
    intro bucket key contentType reply m next answer
    cases answer
    refine .created ?_ ?_ rfl rfl
    · intro issued
      obtain ⟨n, earlier, same⟩ := issued
      have := uploadName_injective (Value.text.inj same)
      omega
    · intro other
      simp only [holdings, Memory.next]
      constructor
      · intro issued
        obtain ⟨n, earlier, rfl⟩ := issued
        by_cases last : n = m.created
        · subst last
          exact .inl rfl
        · exact .inr ⟨n, by omega, rfl⟩
      · intro issued
        rcases issued with rfl | ⟨n, earlier, rfl⟩
        · exact ⟨m.created, by omega, rfl⟩
        · exact ⟨n, by omega, rfl⟩
  service := by
    intro request name reply m next named issued answer
    obtain ⟨n, earlier, rfl⟩ := issued
    cases request with
    | uploadPart bucket key name number data =>
      cases named
      cases answer
      refine .kept rfl (part_keep_here m _ number data) ?_ rfl
      intro other n apart
      exact part_keep_elsewhere m apart
    | completeUpload bucket key name parts =>
      cases named
      simp only [gateway, gatewayReply, completionReply_text] at answer
      cases answer
      refine .assembled rfl rfl ?_ ?_
      · simp only [holdings, Memory.next, object?_store, assemble_eq_joined]
      · intro place other different
        exact object?_store_of_ne m _ different
    | abortUpload bucket key name =>
      cases answer
      exact .withdrawn rfl (fun _ _ _ => rfl) rfl
    | createUpload => cases named
    | putObject => cases named
    | headObject => cases named
    | deleteObject => cases named
    | signUrl => cases named

end Memory

end ObjectStorage
