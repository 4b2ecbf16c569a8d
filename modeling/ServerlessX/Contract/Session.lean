import ServerlessX.Py.Act
import ServerlessX.Contract.Ack

/-! `TransferSession`: the state machine of one transfer attempt. Every call is
inverted once here; all facts about runs go through that inversion. -/
namespace ServerlessX.Contract
open ServerlessX.Py ServerlessX.Py.Json

structure Session where
  value : Metadata
  index : Int
  abortedReason : Option String
  sourceOwned : Bool
  targetOwned : Bool
  tokenDigest : Json

namespace Session

/-- The session `TransferSession(m)` starts with; the source slab is already packed. -/
def init (m : Metadata) : Session := ⟨m, -1, none, true, false, .null⟩

def state (s : Session) : String :=
  if s.abortedReason.isSome then "ABORTED"
  else if s.index < 0 then "INIT"
  else ((ACK_SEQUENCE[s.index.toNat]?).map AckKind.value).getD ""

def owners (s : Session) : Fields :=
  [("source", .bool s.sourceOwned), ("target", .bool s.targetOwned)]

def closed (s : Session) : Bool :=
  if s.abortedReason.isSome then !s.sourceOwned && !s.targetOwned
  else s.index == ACK_SEQUENCE.length - 1 && !(s.sourceOwned || s.targetOwned)

def nextKind (s : Session) : Option AckKind :=
  if s.abortedReason.isSome || s.index + 1 ≥ ACK_SEQUENCE.length then none
  else ACK_SEQUENCE[(s.index + 1).toNat]?

/-- `checked["token_digest_sha256"]` -/
def digestOf (checked : Json) : Json :=
  match checked with
  | .obj f => get f "token_digest_sha256"
  | _ => .null

def advance (ack : Json) : Act Session Error Json := do
  let s ← Act.read
  Act.raiseIf s.abortedReason.isSome (protocolError "aborted session cannot accept ACKs")
  match s.nextKind with
  | none => Act.raise (protocolError "completed session cannot accept ACKs")
  | some expected =>
    let checked ← Act.call (validateAck ack s.value.json (some (.str expected.value)))
    match expected with
    | .targetReady => Act.modify fun s => { s with targetOwned := true }
    | .decodeDone => Act.modify fun s => { s with tokenDigest := digestOf checked }
    | .released =>
      Act.raiseIf (!pyEq (digestOf checked) s.tokenDigest)
        (protocolError "target release token digest differs from DECODE_DONE")
      Act.modify fun s => { s with targetOwned := false }
    | .sourceReleased =>
      Act.raiseIf (!pyEq (digestOf checked) s.tokenDigest)
        (protocolError "source release token digest differs from DECODE_DONE")
      Act.modify fun s => { s with sourceOwned := false }
    | _ => pure ()
    Act.modify fun s => { s with index := s.index + 1 }
    return checked

/-- Optional arguments left out are `null`. -/
def advanceKind (kind ownerId payloadSha256 tokenDigest : Json) : Act Session Error Json := do
  let ackKind ← Act.call (coerceAckKind kind)
  let s ← Act.read
  let token :=
    if pyEq tokenDigest .null && [AckKind.released, .sourceReleased].contains ackKind then
      s.tokenDigest
    else tokenDigest
  let ack ← Act.call (makeAck (.str ackKind.value) s.value.json ownerId payloadSha256 token)
  advance ack

/-- `isinstance(reason, str) and reason.strip() and len(reason) <= 512` -/
def isReason (s : String) : Bool := !(strip s.toList).isEmpty && s.toList.length ≤ 512

def abort (reason : Json) : Act Session Error Unit := do
  let s ← Act.read
  Act.raiseIf s.closed (protocolError "closed session cannot be aborted")
  Act.raiseIf s.abortedReason.isSome (protocolError "session is already aborted")
  let text ← Act.call (requireForm isReason reason
    (protocolError "abort reason must be non-empty and bounded"))
  Act.modify fun s => { s with abortedReason := some text }

def cleanupOwner (ownerId : Json) : Act Session Error Unit := do
  let s ← Act.read
  Act.raiseIf s.abortedReason.isNone
    (protocolError "owner cleanup shortcut is allowed only after abort")
  let _ ← Act.call (requireSafeId ownerId "owner_id" .ownershipError)
  if pyEq ownerId (get s.value.fields "source_owner_id") && s.sourceOwned then
    Act.modify fun s => { s with sourceOwned := false }
  else if pyEq ownerId (get s.value.fields "target_owner_id") && s.targetOwned then
    Act.modify fun s => { s with targetOwned := false }
  else Act.raise (.text .ownershipError "owner does not hold a live resource in this session")

/-- A call on a session with whatever arguments. -/
inductive Op where
  | advance (ack : Json)
  | advanceKind (kind ownerId payloadSha256 tokenDigest : Json)
  | abort (reason : Json)
  | cleanupOwner (ownerId : Json)

/-- One call; only the two advancing calls return a value. -/
def step : Op → Act Session Error (Option Json)
  | .advance ack => do return some (← advance ack)
  | .advanceKind kind ownerId payloadSha256 tokenDigest => do
    return some (← advanceKind kind ownerId payloadSha256 tokenDigest)
  | .abort reason => do abort reason; return none
  | .cleanupOwner ownerId => do cleanupOwner ownerId; return none

/-- The acknowledgements the session accepted over a run, in order. -/
def accepted (s : Session) (ops : List Op) : List Json := (returned step s ops).filterMap id

/-- The effect of an accepted acknowledgement. -/
def accept (s : Session) (k : AckKind) (d : Option String) : Session :=
  match k with
  | .targetReady => { s with index := s.index + 1, targetOwned := true }
  | .decodeDone => { s with index := s.index + 1, tokenDigest := optStr d }
  | .released => { s with index := s.index + 1, targetOwned := false }
  | .sourceReleased => { s with index := s.index + 1, sourceOwned := false }
  | _ => { s with index := s.index + 1 }

/-- A release repeats the digest that DECODE_DONE fixed. -/
def DigestKept (s : Session) (k : AckKind) (d : Option String) : Prop :=
  k = .released ∨ k = .sourceReleased → optStr d = s.tokenDigest

theorem digestOf_of_same {v : Json} {k : AckKind} {m : Metadata} {d : Option String}
    (h : Same v (canonicalAck k m d)) : digestOf v = optStr d := by
  obtain ⟨f, rfl⟩ := same_obj_left h
  obtain ⟨-, -, -, -, -, -, -, -, -, -, -, -, hd⟩ := (same_canonicalAck f k m d).mp h
  exact hd

theorem not_aborted_of_nextKind {s : Session} {k : AckKind} (h : s.nextKind = some k) :
    s.abortedReason = none := by
  unfold nextKind at h
  cases ha : s.abortedReason with
  | none => rfl
  | some r => simp [ha] at h

theorem pyEq_optStr (d : Option String) (v : Json) :
    pyEq (optStr d) v = true ↔ optStr d = v := by
  cases d <;> cases v <;> simp [optStr, pyEq, sameType]

/-- What `advance` does once the received value passed `validate_ack`. -/
theorem advance_valid {s : Session} {ack : Json} {k : AckKind} {d : Option String}
    (hk : s.nextKind = some k) (hd : DigestFor k d) (hs : Same ack (canonicalAck k s.value d)) :
    (s.DigestKept k d → advance ack s = (.ok ack, s.accept k d)) ∧
      (¬ s.DigestKept k d → ∃ e, advance ack s = (.error e, s)) := by
  have ha := not_aborted_of_nextKind hk
  have hv : validateAck ack s.value.json (some (.str k.value)) = .ok ack :=
    (validateAck_eq_ok _ _ _ _).mpr ⟨rfl, k, d, by simp, hd, hs⟩
  have hdig := digestOf_of_same hs
  refine ⟨fun hkept => ?_, fun hkept => ?_⟩
  · have ht : k = .released ∨ k = .sourceReleased → pyEq (optStr d) s.tokenDigest = true :=
      fun h => (pyEq_optStr d _).mpr (hkept h)
    cases k <;> simp_all [advance, Act.bind_run, Act.raiseIf_run, accept]
  · -- only the two releases compare digests
    obtain ⟨hr, hne⟩ : (k = .released ∨ k = .sourceReleased) ∧ optStr d ≠ s.tokenDigest := by
      simpa [DigestKept] using hkept
    have hf : pyEq (optStr d) s.tokenDigest = false := by
      simpa using fun h => hne ((pyEq_optStr d _).mp h)
    obtain rfl | rfl := hr <;>
      simp [advance, Act.bind_run, Act.raiseIf_run, ha, hk, hv, hdig, hf]

theorem advance_invalid {s : Session} {ack : Json}
    (h : ∀ k d, s.nextKind = some k → DigestFor k d → ¬ Same ack (canonicalAck k s.value d)) :
    ∃ e, advance ack s = (.error e, s) := by
  cases hk : s.nextKind with
  | none =>
    cases ha : s.abortedReason <;> simp [advance, Act.bind_run, Act.raiseIf_run, ha, hk]
  | some k =>
    have ha := not_aborted_of_nextKind hk
    cases hv : validateAck ack s.value.json (some (.str k.value)) with
    | error e => simp [advance, Act.bind_run, Act.raiseIf_run, ha, hk, hv]
    | ok c =>
      obtain ⟨-, j, d, hj, hd, hs⟩ := (validateAck_eq_ok _ _ _ _).mp hv
      have hjk : k = j := AckKind.value_injective (by simpa using hj)
      subst hjk
      exact absurd hs (h k d hk hd)

/-- Accepting an acknowledgement: what was checked and what changes. -/
def Accepts (s : Session) (ack : Json) (s' : Session) : Prop :=
  ∃ k d, s.nextKind = some k ∧ DigestFor k d ∧ Same ack (canonicalAck k s.value d) ∧
    s.DigestKept k d ∧ s' = s.accept k d

theorem advance_cases (s : Session) (ack : Json) :
    (∃ s', s.Accepts ack s' ∧ advance ack s = (.ok ack, s')) ∨
      ∃ e, advance ack s = (.error e, s) := by
  by_cases h : ∃ k d, s.nextKind = some k ∧ DigestFor k d ∧ Same ack (canonicalAck k s.value d)
  · obtain ⟨k, d, hk, hd, hs⟩ := h
    obtain ⟨hyes, hno⟩ := advance_valid hk hd hs
    by_cases hkept : s.DigestKept k d
    · exact .inl ⟨s.accept k d, ⟨k, d, hk, hd, hs, hkept, rfl⟩, hyes hkept⟩
    · exact .inr (hno hkept)
  · refine .inr (advance_invalid fun k d hk hd hs => ?_)
    exact h ⟨k, d, hk, hd, hs⟩

theorem advanceKind_cases (s : Session) (kind ownerId payload token : Json) :
    (∃ ack s', s.Accepts ack s' ∧ advanceKind kind ownerId payload token s = (.ok ack, s')) ∨
      ∃ e, advanceKind kind ownerId payload token s = (.error e, s) := by
  unfold advanceKind
  simp only [Act.bind_run, Act.call_run, Act.read_run]
  cases coerceAckKind kind with
  | error e => exact .inr ⟨e, rfl⟩
  | ok k =>
    simp only
    cases makeAck (.str k.value) s.value.json ownerId payload
        (if pyEq token .null && [AckKind.released, .sourceReleased].contains k then s.tokenDigest
          else token) with
    | error e => exact .inr ⟨e, rfl⟩
    | ok ack =>
      obtain ⟨s', ha, hs⟩ | ⟨e, he⟩ := advance_cases s ack
      · exact .inl ⟨ack, s', ha, hs⟩
      · exact .inr ⟨e, he⟩

theorem abort_cases (s : Session) (reason : Json) :
    (∃ text, reason = .str text ∧ isReason text = true ∧ s.closed = false ∧
      s.abortedReason = none ∧
      abort reason s = (.ok (), { s with abortedReason := some text })) ∨
      ∃ e, abort reason s = (.error e, s) := by
  cases hc : s.closed with
  | true => exact .inr (by simp [abort, Act.bind_run, Act.raiseIf_run, hc])
  | false =>
    cases ha : s.abortedReason with
    | some r => exact .inr (by simp [abort, Act.bind_run, Act.raiseIf_run, hc, ha])
    | none =>
      cases hr : requireForm isReason reason
          (protocolError "abort reason must be non-empty and bounded") with
      | error e => exact .inr (by simp [abort, Act.bind_run, Act.raiseIf_run, hc, ha, hr])
      | ok text =>
        obtain ⟨ht, hf⟩ := (requireForm_eq_ok _ _ _ _).mp hr
        exact .inl ⟨text, ht, hf, rfl, rfl,
          by simp [abort, Act.bind_run, Act.raiseIf_run, hc, ha, hr]⟩

theorem cleanupOwner_run {s : Session} {ownerId : Json} {r text : String}
    (ha : s.abortedReason = some r)
    (hr : requireSafeId ownerId "owner_id" .ownershipError = .ok text) :
    cleanupOwner ownerId s =
      if pyEq ownerId (.str s.value.sourceOwner) && s.sourceOwned then
        (.ok (), { s with sourceOwned := false })
      else if pyEq ownerId (.str s.value.targetOwner) && s.targetOwned then
        (.ok (), { s with targetOwned := false })
      else (.error (.text .ownershipError "owner does not hold a live resource in this session"),
        s) := by
  simp only [cleanupOwner, Act.bind_run, Act.read_run, Act.raiseIf_run, Act.call_run, ha, hr,
    s.value.get_sourceOwner, s.value.get_targetOwner]
  split_ifs <;> first | rfl | simp_all

theorem cleanupOwner_cases (s : Session) (ownerId : Json) :
    (s.abortedReason ≠ none ∧ ownerId = .str s.value.sourceOwner ∧ s.sourceOwned = true ∧
      cleanupOwner ownerId s = (.ok (), { s with sourceOwned := false })) ∨
    (s.abortedReason ≠ none ∧ ownerId = .str s.value.targetOwner ∧ s.targetOwned = true ∧
      cleanupOwner ownerId s = (.ok (), { s with targetOwned := false })) ∨
    ∃ e, cleanupOwner ownerId s = (.error e, s) := by
  cases ha : s.abortedReason with
  | none =>
    exact .inr (.inr (by simp [cleanupOwner, Act.bind_run, Act.raiseIf_run, ha]))
  | some r =>
    cases hr : requireSafeId ownerId "owner_id" .ownershipError with
    | error e =>
      exact .inr (.inr (by simp [cleanupOwner, Act.bind_run, Act.raiseIf_run, ha, hr]))
    | ok text =>
      rw [cleanupOwner_run ha hr]
      split
      · next h1 =>
        simp only [Bool.and_eq_true, pyEq_str] at h1
        exact .inl ⟨by simp, h1.1, h1.2, by simp [ha]⟩
      · split
        · next h2 =>
          simp only [Bool.and_eq_true, pyEq_str] at h2
          exact .inr (.inl ⟨by simp, h2.1, h2.2, by simp [ha]⟩)
        · exact .inr (.inr ⟨_, rfl⟩)

def Op.isAdvance : Op → Bool
  | .advance _ => true
  | .advanceKind _ _ _ _ => true
  | _ => false

/-- Everything a call that returns can do. -/
inductive Move (s : Session) : Op → Option Json → Session → Prop where
  | ack {op : Op} {a : Json} {s' : Session} (hop : op.isAdvance = true) (h : s.Accepts a s') :
      Move s op (some a) s'
  | abort {text : String} (hr : isReason text = true) (hc : s.closed = false)
      (ha : s.abortedReason = none) :
      Move s (.abort (.str text)) none { s with abortedReason := some text }
  | cleanupSource (ha : s.abortedReason ≠ none) (hown : s.sourceOwned = true) :
      Move s (.cleanupOwner (.str s.value.sourceOwner)) none { s with sourceOwned := false }
  | cleanupTarget (ha : s.abortedReason ≠ none) (hown : s.targetOwned = true) :
      Move s (.cleanupOwner (.str s.value.targetOwner)) none { s with targetOwned := false }

/-- A call either raises and changes nothing, or makes one of the moves. -/
theorem step_cases (op : Op) (s : Session) :
    (∃ e, step op s = (.error e, s)) ∨ ∃ r s', step op s = (.ok r, s') ∧ s.Move op r s' := by
  cases op with
  | advance ack =>
    obtain ⟨s', ha, hs⟩ | ⟨e, he⟩ := advance_cases s ack
    · exact .inr ⟨some ack, s', by simp [step, Act.bind_run, hs], .ack rfl ha⟩
    · exact .inl ⟨e, by simp [step, Act.bind_run, he]⟩
  | advanceKind kind owner payload token =>
    obtain ⟨ack, s', ha, hs⟩ | ⟨e, he⟩ := advanceKind_cases s kind owner payload token
    · exact .inr ⟨some ack, s', by simp [step, Act.bind_run, hs], .ack rfl ha⟩
    · exact .inl ⟨e, by simp [step, Act.bind_run, he]⟩
  | abort reason =>
    obtain ⟨text, rfl, hr, hc, ha, hs⟩ | ⟨e, he⟩ := abort_cases s reason
    · exact .inr ⟨none, _, by simp [step, Act.bind_run, hs], .abort hr hc ha⟩
    · exact .inl ⟨e, by simp [step, Act.bind_run, he]⟩
  | cleanupOwner ownerId =>
    obtain ⟨ha, rfl, hown, hs⟩ | ⟨ha, rfl, hown, hs⟩ | ⟨e, he⟩ := cleanupOwner_cases s ownerId
    · exact .inr ⟨none, _, by simp [step, Act.bind_run, hs], .cleanupSource ha hown⟩
    · exact .inr ⟨none, _, by simp [step, Act.bind_run, hs], .cleanupTarget ha hown⟩
    · exact .inl ⟨e, by simp [step, Act.bind_run, he]⟩

theorem step_ok {op : Op} {s s' : Session} {r : Option Json} (h : step op s = (.ok r, s')) :
    s.Move op r s' := by
  obtain ⟨e, he⟩ | ⟨r', t, hs, hm⟩ := step_cases op s
  · rw [he] at h
    cases h
  · rw [hs] at h
    cases h
    exact hm

theorem step_error {op : Op} {s s' : Session} {e : Error} (h : step op s = (.error e, s')) :
    s' = s := by
  obtain ⟨e', he⟩ | ⟨r, t, hs, -⟩ := step_cases op s
  · rw [he] at h
    cases h
    rfl
  · rw [hs] at h
    cases h

/-- A property of states kept by every move is kept by every call. -/
theorem step_invariant (inv : Session → Prop)
    (hmove : ∀ s op r s', inv s → s.Move op r s' → inv s') (op : Op) (s : Session) (h : inv s) :
    inv (step op s).2 := by
  obtain ⟨e, he⟩ | ⟨r, s', hs, hm⟩ := step_cases op s
  · rw [he]
    exact h
  · rw [hs]
    exact hmove s op r s' h hm

theorem nextKind_eq_some (s : Session) (k : AckKind) : s.nextKind = some k ↔
    s.abortedReason = none ∧ s.index + 1 < ACK_SEQUENCE.length ∧
      ACK_SEQUENCE[(s.index + 1).toNat]? = some k := by
  unfold nextKind
  cases s.abortedReason with
  | some r => simp
  | none =>
    by_cases h : s.index + 1 < ACK_SEQUENCE.length
    · simp [h, not_le.mpr h]
    · simp [h, not_lt.mp h]

/-- The position of a kind in the sequence. -/
def position : AckKind → Int
  | .targetReady => 0
  | .transferSubmitted => 1
  | .transferCompleted => 2
  | .cacheVerified => 3
  | .decodeDone => 4
  | .released => 5
  | .sourceReleased => 6

theorem position_of_nextKind {s : Session} {k : AckKind} (hlow : -1 ≤ s.index)
    (h : s.nextKind = some k) : s.index + 1 = position k := by
  obtain ⟨-, hlt, hk⟩ := (nextKind_eq_some s k).mp h
  obtain ⟨n, hn⟩ : ∃ n : Nat, s.index + 1 = n := ⟨(s.index + 1).toNat, by omega⟩
  rw [hn] at hlt hk ⊢
  simp only [ACK_SEQUENCE, List.length_cons, List.length_nil] at hlt
  have hn7 : n < 7 := by omega
  interval_cases n <;> cases k <;> simp_all [ACK_SEQUENCE, position]

/-- The coupling of the session's fields. -/
structure Inv (s : Session) : Prop where
  low : -1 ≤ s.index
  high : s.index ≤ 6
  undecided : s.index < 4 → s.tokenDigest = .null
  decided : 4 ≤ s.index → ∃ d, s.tokenDigest = .str d ∧ isSha256 d = true
  source : s.abortedReason = none → (s.sourceOwned = true ↔ s.index < 6)
  target : s.abortedReason = none → (s.targetOwned = true ↔ 0 ≤ s.index ∧ s.index ≤ 4)
  stopped : s.abortedReason ≠ none → s.index ≤ 5 ∧ (s.targetOwned = true → 0 ≤ s.index ∧ s.index ≤ 4)

theorem inv_init (m : Metadata) : (init m).Inv := by
  constructor <;> simp [init]

theorem inv_accept {s : Session} (h : s.Inv) {k : AckKind} {d : Option String}
    (hk : s.nextKind = some k) (hd : DigestFor k d) : (s.accept k d).Inv := by
  have hp := position_of_nextKind h.low hk
  have ha := not_aborted_of_nextKind hk
  obtain ⟨low, high, undecided, decided, source, target, -⟩ := h
  have hsource := source ha
  have htarget := target ha
  have hi : s.index = position k - 1 := by omega
  clear hp
  cases k with
  | decodeDone =>
    obtain ⟨t, rfl, ht⟩ : ∃ t, d = some t ∧ isSha256 t = true := by
      simpa [DigestFor, tokenKinds] using hd
    constructor <;> simp_all [accept, optStr, position]
  | _ => constructor <;> simp_all [accept, position]

theorem inv_move (s : Session) (op : Op) (r : Option Json) (s' : Session) (h : s.Inv)
    (hm : s.Move op r s') : s'.Inv := by
  cases hm with
  | ack hop ha =>
    obtain ⟨k, d, hk, hd, -, -, rfl⟩ := ha
    exact inv_accept h hk hd
  | abort hr hc ha =>
    -- an open session that is not aborted still owns its source
    have hi : s.index ≤ 5 := by
      by_contra hi
      have h6 : s.index = 6 := by have := h.high; omega
      have hs : s.sourceOwned = false := by simpa [h6] using h.source ha
      have ht : s.targetOwned = false := by simpa [h6] using h.target ha
      simp [closed, ha, h6, hs, ht, ACK_SEQUENCE] at hc
    exact ⟨h.low, h.high, h.undecided, h.decided, by simp, by simp,
      fun _ => ⟨hi, (h.target ha).mp⟩⟩
  | cleanupSource ha hown =>
    exact ⟨h.low, h.high, h.undecided, h.decided, fun hn => absurd hn ha,
      fun hn => absurd hn ha, h.stopped⟩
  | cleanupTarget ha hown =>
    exact ⟨h.low, h.high, h.undecided, h.decided, fun hn => absurd hn ha,
      fun hn => absurd hn ha, fun hn => ⟨(h.stopped hn).1, by simp⟩⟩

/-- The invariant holds in every reachable state. -/
theorem inv_after {s : Session} (h : s.Inv) (ops : List Op) : (after step s ops).Inv :=
  after_invariant step Inv (step_invariant Inv inv_move) h ops

end Session
end ServerlessX.Contract
