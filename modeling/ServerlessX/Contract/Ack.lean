import ServerlessX.Contract.Metadata

/-! Acknowledgements: building one from the metadata and checking a received
one. The check accepts exactly the acknowledgements the builder makes. -/
namespace ServerlessX.Contract
open ServerlessX.Py ServerlessX.Py.Json

inductive AckKind where
  | targetReady
  | transferSubmitted
  | transferCompleted
  | cacheVerified
  | decodeDone
  | released
  | sourceReleased
deriving DecidableEq

def AckKind.value : AckKind → String
  | .targetReady => "TARGET_READY"
  | .transferSubmitted => "TRANSFER_SUBMITTED"
  | .transferCompleted => "TRANSFER_COMPLETED"
  | .cacheVerified => "CACHE_VERIFIED"
  | .decodeDone => "DECODE_DONE"
  | .released => "RELEASED"
  | .sourceReleased => "SOURCE_RELEASED"

def ACK_SEQUENCE : List AckKind :=
  [.targetReady, .transferSubmitted, .transferCompleted, .cacheVerified, .decodeDone, .released,
    .sourceReleased]

def ackOwnerField : AckKind → String
  | .targetReady => "target_owner_id"
  | .transferSubmitted => "source_owner_id"
  | .transferCompleted => "source_owner_id"
  | .cacheVerified => "target_owner_id"
  | .decodeDone => "target_owner_id"
  | .released => "target_owner_id"
  | .sourceReleased => "source_owner_id"

def ACK_KEYS : List String :=
  ["schema", "schema_version", "event", "status", "ack", "request_id", "epoch", "attempt_id",
    "buffer_id", "owner_id", "payload_sha256", "token_digest_sha256"]

def hashKinds : List AckKind :=
  [.transferCompleted, .cacheVerified, .decodeDone, .released, .sourceReleased]

def tokenKinds : List AckKind := [.decodeDone, .released, .sourceReleased]

def protocolError (s : String) : Error := .text .protocolError s

/-- A member of the enumeration is passed as its string value. -/
def coerceAckKind (value : Json) : Except Error AckKind :=
  match ACK_SEQUENCE.find? (fun k => pyEq value (.str k.value)) with
  | some kind => .ok kind
  | none => .error ⟨.protocolError, [.text "unknown ACK kind ", .repr value]⟩

/-- The dict `make_ack` returns. -/
def ackObject (kind : AckKind) (bound : Metadata) (ownerId payloadSha256 tokenDigest : Json) :
    Fields :=
  [("schema", .str SCHEMA), ("schema_version", .int SCHEMA_VERSION), ("event", .str EVENT),
    ("status", .str STATUS), ("ack", .str kind.value),
    ("request_id", get bound.fields "request_id"), ("epoch", get bound.fields "epoch"),
    ("attempt_id", get bound.fields "attempt_id"), ("buffer_id", get bound.fields "buffer_id"),
    ("owner_id", ownerId), ("payload_sha256", payloadSha256), ("token_digest_sha256", tokenDigest)]

/-- Optional arguments left out are `null`. -/
def makeAck (kind metadata ownerId payloadSha256 tokenDigest : Json) : Except Error Json := do
  let value ← validated metadata
  let ackKind ← coerceAckKind kind
  let expectedOwner := get value.fields (ackOwnerField ackKind)
  let ownerId := if pyEq ownerId .null then expectedOwner else ownerId
  let payloadSha256 :=
    if pyEq payloadSha256 .null && hashKinds.contains ackKind then get value.fields "payload_sha256"
    else payloadSha256
  return .obj (ackObject ackKind value ownerId payloadSha256 tokenDigest)

def checkExpectedKind (kind : AckKind) : Option Json → Except Error Unit
  | none => .ok ()
  | some expectedKind => do
    let wanted ← coerceAckKind expectedKind
    require (decide (kind = wanted))
      (protocolError ("expected ACK " ++ wanted.value ++ ", got " ++ kind.value))

def checkBound (ack bound : Fields) (name : String) : Except Error Unit :=
  require (pyEq (get ack name) (get bound name) && sameType (get ack name) (get bound name))
    (protocolError ("ACK " ++ name ++ " does not match immutable metadata"))

def checkPayloadHash (kind : AckKind) (ack : Fields) (bound : Metadata) : Except Error Unit :=
  if hashKinds.contains kind then do
    let _ ← requireSha256 (get ack "payload_sha256") "ACK payload_sha256" .protocolError
    require (pyEq (get ack "payload_sha256") (get bound.fields "payload_sha256"))
      (protocolError "ACK payload SHA-256 differs from metadata")
  else
    require (pyEq (get ack "payload_sha256") .null)
      (protocolError ("ACK " ++ kind.value ++ " must not claim payload verification"))

def checkTokenDigest (kind : AckKind) (ack : Fields) : Except Error Unit :=
  if tokenKinds.contains kind then do
    let _ ← requireSha256 (get ack "token_digest_sha256") "ACK token_digest_sha256" .protocolError
    return ()
  else
    require (pyEq (get ack "token_digest_sha256") .null)
      (protocolError ("ACK " ++ kind.value ++ " must not claim decode completion"))

def validateAck (value metadata : Json) (expectedKind : Option Json) : Except Error Json := do
  let ack ← exactObject value ACK_KEYS "ACK" .protocolError
  let bound ← validated metadata
  require (pyEq (get ack "schema") (.str SCHEMA) && (isInt (get ack "schema_version") &&
      pyEq (get ack "schema_version") (.int SCHEMA_VERSION)))
    (protocolError "ACK schema identity mismatch")
  require (pyEq (get ack "event") (.str EVENT) && pyEq (get ack "status") (.str STATUS))
    (protocolError "ACK must be a passing ack event")
  let kind ← coerceAckKind (get ack "ack")
  checkExpectedKind kind expectedKind
  checkBound ack bound.fields "request_id"
  checkBound ack bound.fields "epoch"
  checkBound ack bound.fields "attempt_id"
  checkBound ack bound.fields "buffer_id"
  require (pyEq (get ack "owner_id") (get bound.fields (ackOwnerField kind)))
    (.text .ownershipError ("ACK " ++ kind.value ++ " owner must equal " ++ ackOwnerField kind))
  checkPayloadHash kind ack bound
  checkTokenDigest kind ack
  return .obj ack

theorem AckKind.value_injective {k j : AckKind} (h : k.value = j.value) : k = j := by
  cases k <;> cases j <;> first | rfl | (simp [AckKind.value] at h)

theorem coerceAckKind_eq_ok (v : Json) (k : AckKind) :
    coerceAckKind v = .ok k ↔ v = .str k.value := by
  unfold coerceAckKind
  constructor
  · intro h
    cases hf : ACK_SEQUENCE.find? (fun k => pyEq v (.str k.value)) with
    | none => simp [hf] at h
    | some j =>
      have hj := List.find?_some hf
      simp only [hf, Except.ok.injEq] at h
      rw [pyEq_str] at hj
      rw [hj, h]
  · rintro rfl
    cases k <;> rfl

theorem coerceAckKind_error {v : Json} {e : Error} (h : coerceAckKind v = .error e) :
    e.cls = .protocolError := by
  unfold coerceAckKind at h
  split at h
  · cases h
  · cases h
    rfl

/-- `make_ack` raises only over its kind and its metadata. -/
theorem makeAck_ok (k : AckKind) (m : Metadata) (ownerId payload token : Json) :
    ∃ a, makeAck (.str k.value) m.json ownerId payload token = .ok a := by
  have hv : validated m.json = .ok m := (validated_eq_ok _ _).mpr rfl
  have hk : coerceAckKind (.str k.value) = .ok k := (coerceAckKind_eq_ok _ _).mpr rfl
  simp only [makeAck, hv, hk, bind, Except.bind, pure, Except.pure, Except.ok.injEq,
    exists_eq']

/-- The owner who issues an acknowledgement of a kind. -/
def Metadata.ownerOf (m : Metadata) : AckKind → String
  | .targetReady => m.targetOwner
  | .transferSubmitted => m.sourceOwner
  | .transferCompleted => m.sourceOwner
  | .cacheVerified => m.targetOwner
  | .decodeDone => m.targetOwner
  | .released => m.targetOwner
  | .sourceReleased => m.sourceOwner

theorem Metadata.get_ownerOf (m : Metadata) (k : AckKind) :
    get m.fields (ackOwnerField k) = .str (m.ownerOf k) := by
  cases k <;> first | exact m.get_targetOwner | exact m.get_sourceOwner

/-- `null` for a missing digest. -/
def optStr : Option String → Json
  | none => .null
  | some s => .str s

/-- The acknowledgement of a kind with a token digest: `make_ack(k, m, token_digest_sha256=d)`. -/
def canonicalAck (k : AckKind) (m : Metadata) (d : Option String) : Json :=
  .obj (ackObject k m (.str (m.ownerOf k))
    (if hashKinds.contains k then .str m.payloadSha else .null) (optStr d))

/-- Which token digest an acknowledgement of a kind carries. -/
def DigestFor (k : AckKind) (d : Option String) : Prop :=
  if tokenKinds.contains k then ∃ s, d = some s ∧ isSha256 s = true else d = none

theorem makeAck_canonical (k : AckKind) (m : Metadata) (d : Option String) :
    makeAck (.str k.value) m.json .null .null (optStr d) = .ok (canonicalAck k m d) := by
  have hv : validated m.json = .ok m := (validated_eq_ok _ _).mpr rfl
  have hk : coerceAckKind (.str k.value) = .ok k := (coerceAckKind_eq_ok _ _).mpr rfl
  have hn : pyEq .null .null = true := (pyEq_null _).mpr rfl
  simp only [makeAck, hv, hk, bind, Except.bind, pure, Except.pure, hn, if_true, Bool.true_and,
    m.get_ownerOf, m.get_payloadSha, canonicalAck]

theorem checkExpectedKind_eq_ok (k : AckKind) (ek : Option Json) (u : Unit) :
    checkExpectedKind k ek = .ok u ↔ ∀ x ∈ ek, x = .str k.value := by
  cases ek with
  | none => simp [checkExpectedKind]
  | some x =>
    simp only [checkExpectedKind, bind_eq_ok, coerceAckKind_eq_ok, require_eq_ok,
      decide_eq_true_eq, Option.mem_some_iff, forall_eq']
    constructor
    · rintro ⟨j, hx, rfl⟩
      exact hx
    · intro hx
      exact ⟨k, hx, rfl⟩

theorem checkBound_str {ack bound : Fields} {name s : String} (h : get bound name = .str s)
    (u : Unit) : checkBound ack bound name = .ok u ↔ get ack name = .str s := by
  simp only [checkBound, require_eq_ok, h, Bool.and_eq_true, pyEq_str]
  constructor
  · exact And.left
  · intro hs
    exact ⟨hs, by rw [hs]; rfl⟩

theorem checkBound_int {ack bound : Fields} {name : String} {n : Int} (h : get bound name = .int n)
    (u : Unit) : checkBound ack bound name = .ok u ↔ get ack name = .int n := by
  have hi : ∀ v : Json, sameType v (.int n) = v.isInt := by
    intro v
    cases v <;> rfl
  simp only [checkBound, require_eq_ok, h, Bool.and_eq_true, hi]
  rw [and_comm, isInt_and_pyEq]

theorem checkPayloadHash_eq_ok (k : AckKind) (ack : Fields) (m : Metadata) (u : Unit) :
    checkPayloadHash k ack m = .ok u ↔
      get ack "payload_sha256" = if hashKinds.contains k then .str m.payloadSha else .null := by
  unfold checkPayloadHash
  split
  · simp only [bind_eq_ok, requireSha256, requireForm_eq_ok, require_eq_ok, m.get_payloadSha,
      pyEq_str]
    constructor
    · rintro ⟨_, -, h⟩
      exact h
    · intro h
      exact ⟨m.payloadSha, ⟨h, m.payloadSha_form⟩, h⟩
  · simp only [require_eq_ok, pyEq_null]

theorem checkTokenDigest_eq_ok (k : AckKind) (ack : Fields) (u : Unit) :
    checkTokenDigest k ack = .ok u ↔
      ∃ d, DigestFor k d ∧ get ack "token_digest_sha256" = optStr d := by
  unfold checkTokenDigest DigestFor
  split
  · simp only [bind_eq_ok, requireSha256, requireForm_eq_ok, pure, Except.pure, and_true]
    constructor
    · rintro ⟨s, hs, hf⟩
      exact ⟨some s, ⟨s, rfl, hf⟩, hs⟩
    · rintro ⟨_, ⟨s, rfl, hf⟩, hs⟩
      exact ⟨s, hs, hf⟩
  · simp [optStr]

theorem same_optStr (v : Json) (d : Option String) : Same v (optStr d) ↔ v = optStr d := by
  cases d <;> simp [optStr]

/-- A dict is a canonical acknowledgement when each of its twelve fields is. -/
theorem same_canonicalAck (f : Fields) (k : AckKind) (m : Metadata) (d : Option String) :
    Same (.obj f) (canonicalAck k m d) ↔ hasKeys f ACK_KEYS = true ∧
      get f "schema" = .str SCHEMA ∧ get f "schema_version" = .int SCHEMA_VERSION ∧
      get f "event" = .str EVENT ∧ get f "status" = .str STATUS ∧ get f "ack" = .str k.value ∧
      get f "request_id" = .str m.requestId ∧ get f "epoch" = .int m.epoch ∧
      get f "attempt_id" = .str m.attemptId ∧ get f "buffer_id" = .str m.bufferId ∧
      get f "owner_id" = .str (m.ownerOf k) ∧
      get f "payload_sha256" = (if hashKinds.contains k then .str m.payloadSha else .null) ∧
      get f "token_digest_sha256" = optStr d := by
  have hp : ∀ v, Same v (if hashKinds.contains k then .str m.payloadSha else .null) ↔
      v = if hashKinds.contains k then .str m.payloadSha else .null := by
    intro v
    split <;> simp
  rw [canonicalAck, same_obj_iff_fields _ _ (by simp [ackObject])]
  have hkeys : (ackObject k m (.str (m.ownerOf k))
      (if hashKinds.contains k then .str m.payloadSha else .null) (optStr d)).map Prod.fst =
      ACK_KEYS := rfl
  rw [hkeys]
  simp only [ackObject, List.mem_cons, List.not_mem_nil, or_false, forall_eq_or_imp, forall_eq,
    same_str, same_int, m.get_requestId, m.get_epoch, m.get_attemptId, m.get_bufferId, hp,
    same_optStr]

/-- `validate_ack` accepts exactly the canonical acknowledgements and returns
what it got. -/
theorem validateAck_eq_ok (v : Json) (m : Metadata) (ek : Option Json) (w : Json) :
    validateAck v m.json ek = .ok w ↔ w = v ∧ ∃ k d, (∀ x ∈ ek, x = .str k.value) ∧
      DigestFor k d ∧ Same v (canonicalAck k m d) := by
  have hv : ∀ b, validated m.json = .ok b ↔ m = b := by
    intro b
    rw [validated_eq_ok]
    exact ⟨json_injective, fun h => by rw [h]⟩
  simp only [validateAck, bind_eq_ok, exactObject_eq_ok, hv, require_eq_ok, Bool.and_eq_true,
    pyEq_str, isInt_and_pyEq, coerceAckKind_eq_ok, checkExpectedKind_eq_ok,
    checkPayloadHash_eq_ok, checkTokenDigest_eq_ok, pure, Except.pure, Except.ok.injEq]
  constructor
  · rintro ⟨f, ⟨rfl, hkeys⟩, _, rfl, -, ⟨hschema, hversion⟩, -, ⟨hevent, hstatus⟩, k, hkind, -,
      hexp, _, hrid, _, hepoch, _, hatt, _, hbuf, -, howner, -, hpay, -, ⟨d, hd, htok⟩, rfl⟩
    rw [checkBound_str m.get_requestId] at hrid
    rw [checkBound_int m.get_epoch] at hepoch
    rw [checkBound_str m.get_attemptId] at hatt
    rw [checkBound_str m.get_bufferId] at hbuf
    rw [m.get_ownerOf, pyEq_str] at howner
    exact ⟨rfl, k, d, hexp, hd, (same_canonicalAck f k m d).mpr ⟨hkeys, hschema, hversion, hevent,
      hstatus, hkind, hrid, hepoch, hatt, hbuf, howner, hpay, htok⟩⟩
  · rintro ⟨rfl, k, d, hexp, hd, hs⟩
    obtain ⟨f, rfl⟩ := same_obj_left hs
    obtain ⟨hkeys, hschema, hversion, hevent, hstatus, hkind, hrid, hepoch, hatt, hbuf, howner,
      hpay, htok⟩ := (same_canonicalAck f k m d).mp hs
    exact ⟨f, ⟨rfl, hkeys⟩, m, rfl, (), ⟨hschema, hversion⟩, (), ⟨hevent, hstatus⟩, k, hkind, (),
      hexp, (), (checkBound_str m.get_requestId _).mpr hrid, (),
      (checkBound_int m.get_epoch _).mpr hepoch, (), (checkBound_str m.get_attemptId _).mpr hatt,
      (), (checkBound_str m.get_bufferId _).mpr hbuf, (),
      by rw [m.get_ownerOf, pyEq_str]; exact howner, (), hpay, (), ⟨d, hd, htok⟩, rfl⟩

end ServerlessX.Contract
