import ObjectStorage.Proofs.Storage.Usage
import ObjectStorage.Proofs.Upload.Sharing

/-! What a storage keeps, as its callers see it: data under keys, without the prefix of the
settings. Every call that ends well is entered in a ledger, and the store holds the objects of the
ledger under their full keys (`Kept.turn`), and no others. -/

namespace ObjectStorage

variable {σ : Type}

/-- The data under each key, and the key and the data of each upload. -/
structure Ledger where
  objects : String → Option ByteArray := fun _ => none
  uploads : List (String × ByteArray) := []

namespace Ledger

/-- The ledger after a call. What ends with a fault is not entered. -/
def enter (files : FileReader) (ledger : Ledger) : Call → Except Fault Value → Ledger
  | _, .error _ => ledger
  | .putFile path key, .ok _ =>
    { ledger with objects := Function.update ledger.objects key (files path).toOption }
  | .delete key, .ok _ => { ledger with objects := Function.update ledger.objects key none }
  | .newUpload key _, .ok _ => { ledger with uploads := ledger.uploads ++ [(key, .empty)] }
  | .upload n (.write _ data), .ok _ =>
    { ledger with uploads := ledger.uploads.modify n fun entry => (entry.1, entry.2 ++ data) }
  | .upload n .complete, .ok _ =>
    match ledger.uploads[n]? with
    | some (key, data) =>
      { ledger with objects := Function.update ledger.objects key (some data) }
    | none => ledger
  | _, .ok _ => ledger

/-- The key that a call is about. -/
def key? (ledger : Ledger) : Call → Option String
  | .putFile _ key | .delete key | .probe key | .newUpload key _ | .signedUrl key | .fileUrl key
  | .publicUrl key | .filePath key => some key
  | .upload n _ => ledger.uploads[n]?.map (·.1)

end Ledger

/-- The ledger of all calls to a storage. -/
def Usage.ledger (files : FileReader) (usage : Usage σ) : Ledger :=
  usage.answers.foldl (fun ledger made => ledger.enter files made.1 made.2) {}

/-- The calls that tell the full key of what they have stored. -/
def Call.TellsKey : Call → Prop
  | .putFile .. | .upload _ .complete => True
  | _ => False

/-- In the bucket of the settings is what has been put under keys, and nothing else. -/
structure Settings.Holds (settings : Settings) (objects : String → Option ByteArray)
    (h : Holdings) : Prop where
  listed : ∀ key, h.object? settings.bucket (settings.fullKey key) = objects key
  nothingElse : ∀ place, (∀ key, place ≠ settings.fullKey key) →
    h.object? settings.bucket place = none

/-- What a call to a storage asks of the store, and what it answers. -/
structure Call.Outcome (settings : Settings) (ledger : Ledger) (call : Call)
    (reply : Except Fault Value) (exchanges : List Exchange) : Prop where
  requests : ∀ x ∈ exchanges, x.request.bucket = settings.bucket ∧
    ∃ key, ledger.key? call = some key ∧ x.request.key = settings.fullKey key
  told : call.TellsKey → ∀ key value, ledger.key? call = some key → reply = .ok value →
    value = .text (settings.fullKey key)
  path : ∀ key, call = .filePath key → reply = .ok (.text (settings.fullKey key))
  /-- A probe tells of the key, unless its request fails. -/
  probed : ∀ key, call = .probe key → ∃ answer found,
    exchanges = [⟨.headObject settings.bucket (settings.fullKey key), answer⟩] ∧
      reply = .ok (.bool found) ∧
      (found = true ↔ (ledger.objects key).isSome = true ∧ ∃ value, answer = .ok value)

/-- A store holds what is in the ledger, and is faithful to the uploads in it. -/
structure Kept (store : ObjectStore σ) (settings : Settings) (ledger : Ledger)
    (us : List (Upload × Gateway σ)) (s : σ) : Prop where
  holds : settings.Holds ledger.objects (store.holdings s)
  length_eq : us.length = ledger.uploads.length
  gateway_eq : ∀ entry ∈ us, entry.2 = store.gateway
  uploads : ∀ {n : Nat} {u : Upload} {own key data}, us[n]? = some (u, own) →
    ledger.uploads[n]? = some (key, data) →
    (u.bucket = settings.bucket ∧ u.key = settings.fullKey key) ∧
      u.Faithful (store.holdings s) data
  apart : ∀ {m n : Nat} {u v : Upload} {own other}, m ≠ n → us[m]? = some (u, own) →
    us[n]? = some (v, other) → u.Apart v

variable {store : ObjectStore σ} {settings : Settings} {ledger : Ledger} {files : FileReader}
  {us vs : List (Upload × Gateway σ)} {s t : σ} {n : Nat} {u v : Upload} {h h' : Holdings}
  {objects : String → Option ByteArray} {call : Call} {reply : Except Fault Value}
  {operation : Operation} {result : Except Fault (Option String)} {key : String}
  {held : Option ByteArray}

theorem Call.TellsKey.completes (tells : (Call.upload n operation).TellsKey) :
    operation = .complete := by
  cases operation <;> first | rfl | cases tells

theorem Settings.fullKey_injective (settings : Settings) :
    Function.Injective settings.fullKey := by
  intro key other same
  unfold fullKey at same
  split at same
  · exact same
  · have characters := congrArg String.toList same
    simp only [String.toList_append] at characters
    exact String.toList_inj.mp (List.append_cancel_left characters)

theorem Settings.Holds.update (holds : settings.Holds objects h)
    (here : h'.object? settings.bucket (settings.fullKey key) = held)
    (elsewhere : ∀ place other, other ≠ settings.fullKey key →
      h'.object? place other = h.object? place other) :
    settings.Holds (Function.update objects key held) h' where
  listed other := by
    by_cases same : other = key
    · subst same
      rw [here, Function.update_self]
    · have apart := settings.fullKey_injective.ne same
      rw [elsewhere _ _ apart, Function.update_of_ne same, holds.listed]
  nothingElse place foreign := by
    rw [elsewhere _ _ (foreign key)]
    exact holds.nothingElse place foreign

theorem Settings.Holds.congr (holds : settings.Holds objects h) (same : h'.object? = h.object?) :
    settings.Holds objects h' where
  listed key := by rw [same, holds.listed]
  nothingElse place foreign := by rw [same, holds.nothingElse place foreign]

namespace Ledger

/-- An operation of an upload enters the data that it has had accepted. -/
theorem enter_uploads (ledger : Ledger) (files : FileReader) (n : Nat) (operation : Operation)
    (found : UploadStatus) (result : Except Fault (Option String)) :
    (ledger.enter files (.upload n operation) (result.map Usage.told)).uploads =
      ledger.uploads.modify n fun entry =>
        (entry.1, entry.2 ++ Event.accepted ⟨operation, found, result⟩) := by
  have nothing : (fun entry : String × ByteArray => (entry.1, entry.2 ++ .empty)) = id := by
    funext entry
    simp
  have idle :
      ledger.uploads = ledger.uploads.modify n fun entry => (entry.1, entry.2 ++ .empty) := by
    rw [nothing, List.modify_id]
  cases result with
  | error e => cases operation <;> exact idle
  | ok value =>
    cases operation with
    | write offset data => rfl
    | complete =>
      simp only [Except.map, enter]
      split <;> exact idle
    | _ => exact idle

/-- Only a completion enters an object. -/
theorem enter_objects (ledger : Ledger) (files : FileReader) (n : Nat)
    (incomplete : operation = .complete → ∃ e, result = .error e) :
    (ledger.enter files (.upload n operation) (result.map Usage.told)).objects =
      ledger.objects := by
  cases result with
  | error e => rfl
  | ok value =>
    cases operation with
    | complete =>
      obtain ⟨e, failed⟩ := incomplete rfl
      cases failed
    | _ => rfl

theorem enter_nobody (files : FileReader) (operation : Operation) (value : Value)
    (unlisted : ledger.uploads.length ≤ n) :
    ledger.enter files (.upload n operation) (.ok value) = ledger := by
  have absent := List.getElem?_eq_none_iff.mpr unlisted
  cases operation with
  | write offset data => simp only [enter, List.modify_eq_self unlisted]
  | complete => simp only [enter, absent]
  | _ => rfl

theorem key?_upload {data : ByteArray} (listed : ledger.uploads[n]? = some (key, data))
    (operation : Operation) : ledger.key? (.upload n operation) = some key := by
  simp only [key?, listed, Option.map_some]

theorem enter_completed {data : ByteArray} (value : Option String)
    (listed : ledger.uploads[n]? = some (key, data)) :
    (ledger.enter files (.upload n .complete) (.ok (Usage.told value))).objects =
      Function.update ledger.objects key (some data) := by
  simp only [enter, listed]

end Ledger

namespace Kept

theorem entry {own : Gateway σ} (kept : Kept store settings ledger us s)
    (present : us[n]? = some (u, own)) :
    own = store.gateway ∧ ∃ key data, ledger.uploads[n]? = some (key, data) ∧
      (u.bucket = settings.bucket ∧ u.key = settings.fullKey key) ∧
        u.Faithful (store.holdings s) data := by
  obtain ⟨within, _⟩ := List.getElem?_eq_some_iff.mp present
  rw [kept.length_eq] at within
  have listed := List.getElem?_eq_getElem within
  exact ⟨kept.gateway_eq _ (List.mem_of_getElem? present), _, _, listed,
    kept.uploads present listed⟩

/-- What leaves the names and parts as they are does not touch the uploads. -/
theorem whole (kept : Kept store settings ledger us s)
    (issued : (store.holdings t).issued = (store.holdings s).issued)
    (part : (store.holdings t).part = (store.holdings s).part)
    (holds : settings.Holds objects (store.holdings t)) :
    Kept store settings { ledger with objects } us t where
  holds := holds
  length_eq := kept.length_eq
  gateway_eq := kept.gateway_eq
  uploads present listed := by
    obtain ⟨place, faithful⟩ := kept.uploads present listed
    exact ⟨place, faithful.frame (fun name known => issued ▸ known) fun _ => part ▸ rfl⟩
  apart := kept.apart

theorem unchanged (kept : Kept store settings ledger us s)
    (same : store.holdings t = store.holdings s) : Kept store settings ledger us t :=
  kept.whole (congrArg _ same) (congrArg _ same) (kept.holds.congr (congrArg _ same))

theorem newUpload (kept : Kept store settings ledger us s) (key : String)
    (expectedSize? : Option Int) :
    Kept store settings { ledger with uploads := ledger.uploads ++ [(key, .empty)] }
      (us ++ [(.blank settings.bucket (settings.fullKey key) expectedSize?, store.gateway)])
      s where
  holds := kept.holds
  length_eq := by simp [kept.length_eq]
  gateway_eq := by
    intro entry member
    rcases List.mem_append.mp member with old | new
    · exact kept.gateway_eq entry old
    · rw [List.mem_singleton.mp new]
  uploads := by
    intro n u own at' data present listed
    by_cases old : n < us.length
    · rw [List.getElem?_append_left old] at present
      rw [List.getElem?_append_left (kept.length_eq ▸ old)] at listed
      exact kept.uploads present listed
    · rw [List.getElem?_append_right (Nat.le_of_not_lt old)] at present
      rw [List.getElem?_append_right (kept.length_eq ▸ Nat.le_of_not_lt old),
        ← kept.length_eq] at listed
      rw [List.getElem?_singleton] at present listed
      split at present
      · cases present
        simp only [*] at listed
        cases listed
        exact ⟨⟨rfl, rfl⟩, Upload.faithful_blank _ _ _ _⟩
      · cases present
  apart := by
    have last : ∀ {n u own}, ¬ n < us.length →
        (us ++ [((Upload.blank settings.bucket (settings.fullKey key) expectedSize?),
          store.gateway)])[n]? = some (u, own) → n = us.length ∧ ¬ u.IsEngaged := by
      intro n u own new present
      rw [List.getElem?_append_right (Nat.le_of_not_lt new), List.getElem?_singleton] at present
      split at present
      · cases present
        exact ⟨by omega, Upload.not_engaged_blank _ _ _⟩
      · cases present
    intro m n u v own other different first second
    by_cases oldFirst : m < us.length
    · by_cases oldSecond : n < us.length
      · rw [List.getElem?_append_left oldFirst] at first
        rw [List.getElem?_append_left oldSecond] at second
        exact kept.apart different first second
      · exact fun _ engaged => absurd engaged (last oldSecond second).2
    · exact fun engaged => absurd engaged (last oldFirst first).2

/-- The objects are those of the ledger after the operation of an upload, too: a completion adds one,
and nothing else does. -/
theorem holds_worked (kept : Kept store settings ledger us s)
    (present : us[n]? = some (u, store.gateway))
    (step : Upload.Step store.gateway operation (u, s) result (v, t)) :
    settings.Holds
      (ledger.enter files (.upload n operation) (result.map Usage.told)).objects
      (store.holdings t) := by
  obtain ⟨_, key, data, listed, ⟨inBucket, atKey⟩, faithful⟩ := kept.entry present
  cases result with
  | error e =>
    rw [Ledger.enter_objects ledger files n fun _ => ⟨e, rfl⟩]
    exact kept.holds.congr (step.objects_eq faithful nofun)
  | ok value =>
    cases value with
    | none =>
      have incomplete : operation ≠ .complete := fun completes => by
        simpa using step.isSome_iff.mpr completes
      rw [Ledger.enter_objects ledger files n fun completes => absurd completes incomplete]
      exact kept.holds.congr (step.objects_eq faithful nofun)
    | some name =>
      cases step.isSome_iff.mp rfl
      obtain ⟨_, here, elsewhere⟩ := step.object_eq faithful
      rw [inBucket, atKey] at here
      rw [atKey] at elsewhere
      rw [Except.map, Ledger.enter_completed _ listed]
      exact kept.holds.update here elsewhere

/-- An upload that has worked is still apart from the others. -/
theorem apart_worked (kept : Kept store settings ledger us s)
    (present : us[n]? = some (u, store.gateway))
    (step : Upload.Step store.gateway operation (u, s) result (v, t)) {m k : Nat}
    {w x : Upload} {own other : Gateway σ} (different : m ≠ k)
    (first : (us.set n (v, store.gateway))[m]? = some (w, own))
    (second : (us.set n (v, store.gateway))[k]? = some (x, other)) : w.Apart x := by
  obtain ⟨_, _, _, _, _, faithful⟩ := kept.entry present
  have within := (List.getElem?_eq_some_iff.mp present).1
  have moved : ∀ {m w other}, m ≠ n → us[m]? = some (w, other) → v.Apart w := by
    intro m w other different found
    obtain ⟨_, _, _, _, _, theirs⟩ := kept.entry found
    exact (step.faithful_other faithful theirs (kept.apart different.symm present found)).2
  by_cases here : n = m
  · subst here
    rw [List.getElem?_set_self within] at first
    rw [List.getElem?_set_ne different] at second
    cases first
    exact moved different.symm second
  · rw [List.getElem?_set_ne here] at first
    by_cases there : n = k
    · subst there
      rw [List.getElem?_set_self within] at second
      cases second
      exact (moved different first).symm
    · rw [List.getElem?_set_ne there] at second
      exact kept.apart different first second

/-- The operation of an upload keeps the ledger. -/
theorem worked (kept : Kept store settings ledger us s)
    (present : us[n]? = some (u, store.gateway))
    (step : Upload.Step store.gateway operation (u, s) result (v, t)) :
    Kept store settings (ledger.enter files (.upload n operation) (result.map Usage.told))
      (us.set n (v, store.gateway)) t := by
  obtain ⟨_, key, data, listed, ⟨inBucket, atKey⟩, faithful⟩ := kept.entry present
  have within := (List.getElem?_eq_some_iff.mp present).1
  refine ⟨kept.holds_worked present step, ?_, ?_, ?_, kept.apart_worked present step⟩
  · rw [List.length_set, Ledger.enter_uploads ledger files n operation u.status result,
      List.length_modify]
    exact kept.length_eq
  · intro entry member
    rcases List.mem_or_eq_of_mem_set member with old | rfl
    · exact kept.gateway_eq entry old
    · rfl
  · intro m w own at' held found entered
    rw [Ledger.enter_uploads ledger files n operation u.status result, List.getElem?_modify]
      at entered
    by_cases same : n = m
    · subst same
      rw [List.getElem?_set_self within] at found
      simp only [listed, ↓reduceIte] at entered
      cases found
      cases entered
      exact ⟨⟨step.place_eq.1.trans inBucket, step.place_eq.2.trans atKey⟩,
        step.faithful_accepted faithful⟩
    · rw [List.getElem?_set_ne same] at found
      simp only [same, ↓reduceIte, id_map'] at entered
      obtain ⟨place, theirs⟩ := kept.uploads found entered
      exact ⟨place, (step.faithful_other faithful theirs (kept.apart same present found)).1⟩

/-- Every turn keeps the ledger. -/
theorem turn (kept : Kept store settings ledger us s)
    (turn : Usage.Turn settings files store.gateway call (us, s) reply (vs, t)) :
    Kept store settings (ledger.enter files call reply) vs t := by
  cases turn with
  | unread failed => exact kept
  | put read answer =>
    cases store.whole .put answer with
    | fault unchanged => exact kept.unchanged unchanged
    | stored issued part here elsewhere =>
      have holds := kept.holds.update here elsewhere
      simp only [Except.map, Ledger.enter, read]
      exact kept.whole issued part holds
  | deleted answer =>
    cases store.whole .delete answer with
    | fault unchanged => exact kept.unchanged unchanged
    | deleted issued part here elsewhere =>
      exact kept.whole issued part (kept.holds.update here elsewhere)
  | found answer =>
    cases store.whole .head answer with
    | found present unchanged => exact kept.unchanged unchanged
  | missed answer refusal =>
    cases store.whole .head answer with
    | fault unchanged => exact kept.unchanged unchanged
  | probeFailed answer other =>
    cases store.whole .head answer with
    | fault unchanged => exact kept.unchanged unchanged
  | begun => exact kept.newUpload _ _
  | nobody absent =>
    have unlisted := kept.length_eq ▸ List.getElem?_eq_none_iff.mp absent
    rw [Ledger.enter_nobody files _ _ unlisted]
    exact kept
  | worked present step =>
    obtain ⟨rfl, _⟩ := kept.entry present
    exact kept.worked present step
  | signed answer =>
    cases store.whole .url answer with
    | fault unchanged => exact kept.unchanged unchanged
    | signed unchanged => exact kept.unchanged unchanged
  | fileSigned signed answer =>
    cases store.whole .url answer with
    | fault unchanged => exact kept.unchanged unchanged
    | signed unchanged => exact kept.unchanged unchanged
  | filePlain plain => exact kept
  | plainUrl => exact kept
  | fullPath => exact kept

private theorem eq_of_map_const {α : Type} {told value : α} {reply : Except Fault α}
    (ended : (reply.map fun _ => told) = .ok value) : value = told := by
  cases reply <;> cases ended
  rfl

/-- A completion tells the key of its upload. -/
theorem told_key {value : Value} (completes : operation = .complete)
    (step : Upload.Step store.gateway operation (u, s) result (v, t)) {data : ByteArray}
    (faithful : u.Faithful (store.holdings s) data)
    (ended : result.map Usage.told = .ok value) : value = .text u.key := by
  cases result with
  | error e => cases ended
  | ok key? =>
    obtain ⟨name, rfl⟩ := Option.isSome_iff_exists.mp (step.isSome_iff.mpr completes)
    subst completes
    cases ended
    exact congrArg Value.text (step.object_eq faithful).1

/-- Whatever a call asks of the store is about the full key, and so is what it answers. -/
theorem outcome {us vs : List (Upload × Gateway (σ × List Exchange))}
    {trace after : List Exchange} (kept : Kept store.recorded settings ledger us (s, trace))
    (turn : Usage.Turn settings files store.recorded.gateway call (us, s, trace) reply
      (vs, t, after)) :
    ∃ exchanges, after = trace ++ exchanges ∧ call.Outcome settings ledger reply exchanges := by
  have quiet : trace = trace ++ [] := (List.append_nil trace).symm
  have own : ∀ {request answer key}, request.bucket = settings.bucket →
      request.key = settings.fullKey key → ledger.key? call = some key →
      ∀ x ∈ [(⟨request, answer⟩ : Exchange)], x.request.bucket = settings.bucket ∧
        ∃ key, ledger.key? call = some key ∧ x.request.key = settings.fullKey key :=
    fun inBucket atKey about => List.forall_mem_singleton.mpr ⟨inBucket, _, about, atKey⟩
  cases turn with
  | unread failed => exact ⟨[], quiet, by simp, nofun, nofun, nofun⟩
  | put read answer =>
    refine ⟨_, (recorded_answer.mp answer).2, own rfl rfl rfl, ?_, nofun, nofun⟩
    rintro _ key value ⟨⟩ ended
    exact eq_of_map_const ended
  | deleted answer =>
    exact ⟨_, (recorded_answer.mp answer).2, own rfl rfl rfl, nofun, nofun, nofun⟩
  | found answer =>
    refine ⟨_, (recorded_answer.mp answer).2, own rfl rfl rfl, nofun, nofun, ?_⟩
    rintro key ⟨⟩
    cases store.recorded.whole .head answer with
    | found present unchanged =>
      rw [kept.holds.listed] at present
      exact ⟨_, true, rfl, rfl, iff_of_true rfl ⟨present, _, rfl⟩⟩
  | missed answer refusal =>
    refine ⟨_, (recorded_answer.mp answer).2, own rfl rfl rfl, nofun, nofun, ?_⟩
    rintro key ⟨⟩
    exact ⟨_, false, rfl, rfl, iff_of_false nofun fun found => nomatch found.2⟩
  | probeFailed answer other =>
    have refusal := store.recorded.refuses (.whole .head) answer
    simp [other] at refusal
  | begun => exact ⟨[], quiet, by simp, nofun, nofun, nofun⟩
  | nobody absent =>
    have unlisted := kept.length_eq ▸ List.getElem?_eq_none_iff.mp absent
    refine ⟨[], quiet, by simp, fun _ key value about => ?_, nofun, nofun⟩
    simp [Ledger.key?, List.getElem?_eq_none_iff.mpr unlisted] at about
  | worked present step =>
    obtain ⟨rfl, key, data, listed, ⟨inBucket, atKey⟩, faithful⟩ := kept.entry present
    have about := fun operation => Ledger.key?_upload listed operation
    obtain ⟨exchanges, kept, requests⟩ := step.requests
    refine ⟨exchanges, kept, fun x member => ?_, ?_, nofun, nofun⟩
    · obtain ⟨same, at'⟩ := requests x member
      exact ⟨same.trans inBucket, key, about _, at'.trans atKey⟩
    · intro tells other value also ended
      cases (about _).symm.trans also
      rw [← atKey]
      exact told_key tells.completes step faithful ended
  | signed answer =>
    exact ⟨_, (recorded_answer.mp answer).2, own rfl rfl rfl, nofun, nofun, nofun⟩
  | fileSigned signed answer =>
    exact ⟨_, (recorded_answer.mp answer).2, own rfl rfl rfl, nofun, nofun, nofun⟩
  | filePlain plain => exact ⟨[], quiet, by simp, nofun, nofun, nofun⟩
  | plainUrl => exact ⟨[], quiet, by simp, nofun, nofun, nofun⟩
  | fullPath =>
    refine ⟨[], quiet, by simp, nofun, ?_, nofun⟩
    rintro key ⟨⟩
    rfl

end Kept

namespace Usage

/-- The exchanges with a recorded gateway. -/
def trace (usage : Usage (σ × List Exchange)) : List Exchange := usage.store.2

/-- A storage after calls, with the exchanges that it had with its gateway. -/
def recorded (settings : Settings) (gateway : Gateway σ) (files : FileReader) (store : σ)
    (calls : List Call) : Usage (σ × List Exchange) :=
  run (.ofGateway settings gateway.recorded) files (store, []) calls

theorem ledger_step (storage : Storage σ) (files : FileReader) (usage : Usage σ) (call : Call) :
    (step storage files usage call).ledger files =
      (usage.ledger files).enter files call (answer storage files call usage).1 := by
  simp [ledger, step]

theorem kept_run (store : ObjectStore σ) {settings : Settings} (enabled : settings.isEnabled = true)
    (files : FileReader) {s : σ}
    (empty : ∀ place, (store.holdings s).object? settings.bucket place = none)
    (calls : List Call) :
    Kept store settings ((run (.ofGateway settings store.gateway) files s calls).ledger files)
      (run (.ofGateway settings store.gateway) files s calls).uploads
      (run (.ofGateway settings store.gateway) files s calls).store := by
  induction calls using List.reverseRecOn with
  | nil =>
    exact {
      holds := ⟨fun _ => empty _, fun place _ => empty place⟩
      length_eq := rfl
      gateway_eq := nofun
      uploads := by simp [run]
      apart := by simp [run] }
  | append_singleton calls call ih =>
    rw [run_snoc, ledger_step]
    exact ih.turn (answer_turn enabled store.gateway files call _)

end Usage

/-- A storage is a map from keys to data. Enabled, on a store with an empty bucket, and whatever is
called for and refused: the store holds just what the ledger of the calls lists, under full keys
that tell all keys apart, and a call asks and tells of the full key of what it is about. Disabled, it
never asks its gateway for anything. -/
theorem Storage.keeps_ledger (store : ObjectStore σ) (settings : Settings) (files : FileReader)
    (s : σ) (calls : List Call) :
    (settings.isEnabled = true →
      (∀ place, (store.holdings s).object? settings.bucket place = none) →
      Function.Injective settings.fullKey ∧
        settings.Holds ((Usage.recorded settings store.gateway files s calls).ledger files).objects
          (store.holdings (Usage.recorded settings store.gateway files s calls).store.1) ∧
        ∀ call, ∃ reply exchanges,
          (Usage.recorded settings store.gateway files s (calls ++ [call])).answers =
              (Usage.recorded settings store.gateway files s calls).answers ++ [(call, reply)] ∧
            (Usage.recorded settings store.gateway files s (calls ++ [call])).trace =
              (Usage.recorded settings store.gateway files s calls).trace ++ exchanges ∧
            call.Outcome settings
              ((Usage.recorded settings store.gateway files s calls).ledger files) reply
              exchanges) ∧
      (settings.isEnabled = false → ∀ (τ : Type) (gateway : Gateway τ) (t : τ),
        (Usage.recorded settings gateway files t calls).trace = []) := by
  refine ⟨fun enabled empty => ?_, fun disabled τ gateway t => ?_⟩
  · have kept := Usage.kept_run store.recorded enabled files (s := (s, [])) empty calls
    refine ⟨settings.fullKey_injective, kept.holds, fun call => ?_⟩
    have turn := Usage.answer_turn enabled store.recorded.gateway files call
      (Usage.recorded settings store.gateway files s calls)
    obtain ⟨exchanges, after, outcome⟩ := kept.outcome turn
    refine ⟨_, exchanges, ?_, ?_, outcome⟩
    · rw [Usage.recorded, Usage.run_snoc]
      rfl
    · rw [Usage.recorded, Usage.run_snoc]
      exact after
  · have face := Usage.run_disabled disabled gateway.recorded files (t, []) calls
    exact congrArg (·.2.2) face

/-- Settings whose keys have a prefix. -/
def Settings.prefixed : Settings :=
  { Settings.ofBucket "media" "AK" "SK" with pathPrefix := "site" }

/-- The store in memory refuses the fifth request: the first try to delete a file. -/
def Memory.grudging : Memory × List (Option String) :=
  ({}, [none, none, none, none, some "reset"])

/-- A file is stored and deleted, and an upload is made in between. -/
def Call.samples : List Call :=
  [.putFile "notes" "a.txt", .newUpload "b.bin" none, .upload 0 .start,
    .upload 0 (.write 0 ⟨#[1, 2]⟩), .upload 0 .complete, .delete "a.txt", .delete "a.txt"]

theorem Storage.keeps_ledger_refused :
    Settings.prefixed.isEnabled = true ∧
      (∀ place, (Memory.objectStore.withRefusals.holdings Memory.grudging).object? "media" place =
        none) ∧
      ∃ m : Memory, (Usage.recorded .prefixed Memory.objectStore.withRefusals.gateway
          (fun _ => .ok ⟨#[7]⟩) Memory.grudging Call.samples).store.1.1 = m ∧
        m.object? "site/a.txt" = none ∧ m.object? "site/b.bin" = some ⟨#[1, 2]⟩ := by
  have enabled : Settings.prefixed.isEnabled = true := by decide
  have empty : ∀ place, (Memory.objectStore.withRefusals.holdings
      Memory.grudging).object? "media" place = none := fun _ => rfl
  obtain ⟨_, holds, _⟩ := (keeps_ledger Memory.objectStore.withRefusals .prefixed
    (fun _ => .ok ⟨#[7]⟩) Memory.grudging Call.samples).1 enabled empty
  have deleted : ((Usage.recorded .prefixed Memory.objectStore.withRefusals.gateway
      (fun _ => .ok ⟨#[7]⟩) Memory.grudging Call.samples).ledger
        fun _ => .ok ⟨#[7]⟩).objects "a.txt" = none := by decide +kernel
  have stored : ((Usage.recorded .prefixed Memory.objectStore.withRefusals.gateway
      (fun _ => .ok ⟨#[7]⟩) Memory.grudging Call.samples).ledger
        fun _ => .ok ⟨#[7]⟩).objects "b.bin" = some ⟨#[1, 2]⟩ := by decide +kernel
  exact ⟨enabled, empty, _, rfl, (holds.listed "a.txt").trans deleted,
    (holds.listed "b.bin").trans stored⟩

end ObjectStorage
