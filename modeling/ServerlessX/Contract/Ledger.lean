import ServerlessX.Contract.SessionRuns

/-! `EpochLedger`: the map of current attempts and the two sets of identifiers
that were ever used, over whole histories of reservations. -/
namespace ServerlessX.Contract
open ServerlessX.Py ServerlessX.Py.Json

structure EpochLedger where
  current : List (String × Int × String)
  seenAttempts : Finset String
  seenBuffers : Finset String

namespace EpochLedger

def empty : EpochLedger := ⟨[], ∅, ∅⟩

def checkEpoch (requestId : String) (proposed : Int × String) :
    Option (Int × String) → Act EpochLedger Error Unit
  | none => pure ()
  | some current =>
    let relation := if proposed = current then "replayed" else "stale or duplicate"
    Act.raiseIf (proposed.1 ≤ current.1)
      (protocolError (relation ++ " epoch for " ++ requestId ++ ": " ++ strInt proposed.1 ++
        " <= " ++ strInt current.1))

def reserve (metadata : Json) : Act EpochLedger Error Unit := do
  let value ← Act.call (validated metadata)
  let proposed := (value.epoch, value.attemptId)
  let ledger ← Act.read
  checkEpoch value.requestId proposed (ledger.current.lookup value.requestId)
  Act.raiseIf (value.attemptId ∈ ledger.seenAttempts)
    (protocolError "attempt_id has already been used")
  Act.raiseIf (value.bufferId ∈ ledger.seenBuffers)
    (protocolError "buffer_id has already been used")
  Act.modify fun l => { l with current := Dict.set l.current value.requestId proposed }
  Act.modify fun l => { l with seenAttempts := insert value.attemptId l.seenAttempts }
  Act.modify fun l => { l with seenBuffers := insert value.bufferId l.seenBuffers }

def assertCurrent (metadata : Json) : Act EpochLedger Error Unit := do
  let value ← Act.call (validated metadata)
  let wanted := (value.epoch, value.attemptId)
  let ledger ← Act.read
  Act.raiseIf (ledger.current.lookup value.requestId != some wanted)
    (protocolError "metadata does not identify the current epoch/attempt")

/-- The method `current`. -/
def currentOf (requestId : Json) : Act EpochLedger Error (Option (Int × String)) := do
  let r ← Act.call (requireSafeId requestId "request_id" .protocolError)
  let ledger ← Act.read
  return ledger.current.lookup r

end EpochLedger

/-- `TransferSession(metadata, ledger=ledger)`. -/
def Session.construct (metadata : Json) : Act EpochLedger Error Session := do
  let value ← Act.call (validated metadata)
  EpochLedger.reserve value.json
  return Session.init value

namespace EpochLedger

/-- What a reservation needs. -/
def Grants (l : EpochLedger) (m : Metadata) : Prop :=
  (∀ c, l.current.lookup m.requestId = some c → c.1 < m.epoch) ∧
    m.attemptId ∉ l.seenAttempts ∧ m.bufferId ∉ l.seenBuffers

/-- What a reservation does. -/
def grant (l : EpochLedger) (m : Metadata) : EpochLedger :=
  ⟨Dict.set l.current m.requestId (m.epoch, m.attemptId), insert m.attemptId l.seenAttempts,
    insert m.bufferId l.seenBuffers⟩

theorem validated_json (m : Metadata) : validated m.json = .ok m := (validated_eq_ok _ _).mpr rfl

theorem checkEpoch_run (r : String) (p : Int × String) (c : Option (Int × String))
    (l : EpochLedger) :
    ((∀ x, c = some x → x.1 < p.1) → checkEpoch r p c l = (.ok (), l)) ∧
      (¬ (∀ x, c = some x → x.1 < p.1) → ∃ e, checkEpoch r p c l = (.error e, l)) := by
  cases c with
  | none => simp [checkEpoch]
  | some x =>
    by_cases h : p.1 ≤ x.1
    · simp [checkEpoch, Act.raiseIf_run, h]
    · simp [checkEpoch, Act.raiseIf_run, h, not_le.mp h]

theorem reserve_grants {l : EpochLedger} {m : Metadata} (h : l.Grants m) :
    reserve m.json l = (.ok (), l.grant m) := by
  obtain ⟨hepoch, hatt, hbuf⟩ := h
  have hc := (checkEpoch_run m.requestId (m.epoch, m.attemptId) _ l).1 hepoch
  simp [reserve, Act.bind_run, validated_json, hc, Act.raiseIf_run, hatt, hbuf, grant]

theorem reserve_refuses {l : EpochLedger} {m : Metadata} (h : ¬ l.Grants m) :
    ∃ e, reserve m.json l = (.error e, l) := by
  have hrun := checkEpoch_run m.requestId (m.epoch, m.attemptId)
    (l.current.lookup m.requestId) l
  by_cases hepoch : ∀ c, l.current.lookup m.requestId = some c → c.1 < m.epoch
  · have hc := hrun.1 hepoch
    by_cases hatt : m.attemptId ∈ l.seenAttempts
    · simp [reserve, Act.bind_run, validated_json, hc, Act.raiseIf_run, hatt]
    · have hbuf : m.bufferId ∈ l.seenBuffers := by
        by_contra hbuf
        exact h ⟨hepoch, hatt, hbuf⟩
      simp [reserve, Act.bind_run, validated_json, hc, Act.raiseIf_run, hatt, hbuf]
  · obtain ⟨e, he⟩ := hrun.2 hepoch
    simp [reserve, Act.bind_run, validated_json, he]

/-- A reservation either goes through or raises and changes nothing. -/
theorem reserve_cases (v : Json) (l : EpochLedger) :
    (∃ m, v = m.json ∧ l.Grants m ∧ reserve v l = (.ok (), l.grant m)) ∨
      ∃ e, reserve v l = (.error e, l) := by
  cases hv : validated v with
  | error e => exact .inr ⟨e, by simp [reserve, Act.bind_run, hv]⟩
  | ok m =>
    have hm := (validated_eq_ok v m).mp hv
    subst hm
    by_cases h : l.Grants m
    · exact .inl ⟨m, rfl, h, reserve_grants h⟩
    · exact .inr (reserve_refuses h)

theorem construct_cases (v : Json) (l : EpochLedger) :
    (∃ m, v = m.json ∧ l.Grants m ∧
      Session.construct v l = (.ok (Session.init m), l.grant m)) ∨
      ∃ e, Session.construct v l = (.error e, l) := by
  cases hv : validated v with
  | error e => exact .inr ⟨e, by simp [Session.construct, Act.bind_run, hv]⟩
  | ok m =>
    have hm := (validated_eq_ok v m).mp hv
    by_cases h : l.Grants m
    · exact .inl ⟨m, hm, h, by simp [Session.construct, Act.bind_run, hv, reserve_grants h]⟩
    · obtain ⟨e, he⟩ := reserve_refuses h
      exact .inr ⟨e, by simp [Session.construct, Act.bind_run, hv, he]⟩

/-- A call that reaches the ledger. -/
inductive Op where
  | reserve (metadata : Json)
  | construct (metadata : Json)
  | assertCurrent (metadata : Json)
  | current (requestId : Json)

/-- One call; a reservation yields the metadata it reserved. -/
def step : Op → Act EpochLedger Error (Option Metadata)
  | .reserve metadata => do reserve metadata; return (validated metadata).toOption
  | .construct metadata => do return some (← Session.construct metadata).value
  | .assertCurrent metadata => do assertCurrent metadata; return none
  | .current requestId => do let _ ← currentOf requestId; return none

/-- The accepted reservations of a history, in order. -/
def reserved (l : EpochLedger) (ops : List Op) : List Metadata :=
  (returned step l ops).filterMap id

/-- Epoch and attempt of the last reservation for a request. -/
def lastReserved (r : String) (ms : List Metadata) : Option (Int × String) :=
  (ms.filter (·.requestId = r)).getLast?.map fun m => (m.epoch, m.attemptId)

theorem assertCurrent_state (v : Json) (l : EpochLedger) : (assertCurrent v l).2 = l := by
  cases hv : validated v with
  | error e => simp [assertCurrent, Act.bind_run, hv]
  | ok m =>
    simp only [assertCurrent, Act.bind_run, Act.call_run, hv, Act.read_run, Act.raiseIf_run]
    split <;> rfl

theorem currentOf_state (v : Json) (l : EpochLedger) : (currentOf v l).2 = l := by
  cases hv : requireSafeId v "request_id" .protocolError <;>
    simp [currentOf, Act.bind_run, hv]

/-- A call either leaves the ledger as it was, reserving nothing, or makes one reservation. -/
theorem step_cases (op : Op) (l : EpochLedger) :
    ((step op l).2 = l ∧ ∀ r, (step op l).1 = .ok r → r = none) ∨
      ∃ m, l.Grants m ∧ step op l = (.ok (some m), l.grant m) := by
  cases op with
  | reserve v =>
    obtain ⟨m, rfl, hg, hr⟩ | ⟨e, he⟩ := reserve_cases v l
    · exact .inr ⟨m, hg, by simp [step, Act.bind_run, hr, validated_json, Except.toOption]⟩
    · exact .inl (by simp [step, Act.bind_run, he])
  | construct v =>
    obtain ⟨m, rfl, hg, hr⟩ | ⟨e, he⟩ := construct_cases v l
    · exact .inr ⟨m, hg, by simp [step, Act.bind_run, hr, Session.init]⟩
    · exact .inl (by simp [step, Act.bind_run, he])
  | assertCurrent v =>
    have hs := assertCurrent_state v l
    cases h : assertCurrent v l with
    | mk r l' =>
      rw [h] at hs
      subst hs
      cases r <;> exact .inl (by simp [step, Act.bind_run, h])
  | current v =>
    have hs := currentOf_state v l
    cases h : currentOf v l with
    | mk r l' =>
      rw [h] at hs
      subst hs
      cases r <;> exact .inl (by simp [step, Act.bind_run, h])

/-- The ledger is the record of the reservations made so far. -/
structure Records (l : EpochLedger) (ms : List Metadata) : Prop where
  current : ∀ r, l.current.lookup r = lastReserved r ms
  attempts : ∀ a, a ∈ l.seenAttempts ↔ a ∈ ms.map (·.attemptId)
  buffers : ∀ b, b ∈ l.seenBuffers ↔ b ∈ ms.map (·.bufferId)
  attemptsDistinct : (ms.map (·.attemptId)).Nodup
  buffersDistinct : (ms.map (·.bufferId)).Nodup
  increasing : ms.Pairwise fun a b => a.requestId = b.requestId → a.epoch < b.epoch

theorem records_empty : Records empty [] := by
  constructor <;> simp [empty, lastReserved]

theorem lastReserved_snoc (r : String) (ms : List Metadata) (m : Metadata) :
    lastReserved r (ms ++ [m]) =
      if m.requestId = r then some (m.epoch, m.attemptId) else lastReserved r ms := by
  by_cases h : m.requestId = r <;> simp [lastReserved, h]

/-- The last reservation of a request has its highest epoch. -/
theorem epoch_le_last {ms : List Metadata}
    (h : ms.Pairwise fun a b => a.requestId = b.requestId → a.epoch < b.epoch)
    {m : Metadata} (hm : m ∈ ms) :
    ∃ c, lastReserved m.requestId ms = some c ∧ m.epoch ≤ c.1 := by
  induction ms using List.reverseRecOn with
  | nil => simp at hm
  | append_singleton ms n ih =>
    obtain ⟨hms, -, hlt⟩ := List.pairwise_append.mp h
    rw [lastReserved_snoc]
    by_cases hn : n.requestId = m.requestId
    · refine ⟨(n.epoch, n.attemptId), by simp [hn], ?_⟩
      obtain hm | hm := List.mem_append.mp hm
      · exact le_of_lt (hlt m hm n (by simp) hn.symm)
      · simp only [List.mem_singleton] at hm
        simp [hm]
    · obtain hm | hm := List.mem_append.mp hm
      · simpa [hn] using ih hms hm
      · simp only [List.mem_singleton] at hm
        exact absurd (by rw [hm]) hn

theorem records_grant {l : EpochLedger} {ms : List Metadata} (h : l.Records ms) {m : Metadata}
    (hg : l.Grants m) : (l.grant m).Records (ms ++ [m]) := by
  obtain ⟨hepoch, hatt, hbuf⟩ := hg
  rw [h.attempts] at hatt
  rw [h.buffers] at hbuf
  refine ⟨fun r => ?_, fun a => ?_, fun b => ?_, ?_, ?_, ?_⟩
  · rw [lastReserved_snoc]
    by_cases hr : m.requestId = r
    · subst hr
      simp [grant, Dict.lookup_set_self]
    · rw [if_neg hr, ← h.current r]
      exact Dict.lookup_set_ne _ _ (Ne.symm hr)
  · simp [grant, h.attempts, or_comm]
  · simp [grant, h.buffers, or_comm]
  · rw [List.map_append]
    exact List.nodup_append_comm.mp (List.nodup_cons.mpr ⟨hatt, h.attemptsDistinct⟩)
  · rw [List.map_append]
    exact List.nodup_append_comm.mp (List.nodup_cons.mpr ⟨hbuf, h.buffersDistinct⟩)
  · refine List.pairwise_append.mpr ⟨h.increasing, List.pairwise_singleton _ _, ?_⟩
    intro a ha b hb hab
    rw [List.mem_singleton] at hb
    subst hb
    obtain ⟨c, hc, hle⟩ := epoch_le_last h.increasing ha
    rw [hab, ← h.current] at hc
    exact lt_of_le_of_lt hle (hepoch c hc)

theorem records_after {l : EpochLedger} {ms : List Metadata} (h : l.Records ms)
    (ops : List Op) : (after step l ops).Records (ms ++ reserved l ops) := by
  let rel (t : EpochLedger) (rs : List (Option Metadata)) : Prop :=
    t.Records (ms ++ rs.filterMap id)
  have hok : ∀ op t t' r rs, rel t rs → step op t = (.ok r, t') → rel t' (rs ++ [r]) := by
    intro op t t' r rs hrel hs
    obtain ⟨hsame, hnone⟩ | ⟨m, hg, hm⟩ := step_cases op t
    · rw [hs] at hsame hnone
      obtain rfl := hnone r rfl
      subst hsame
      simpa [rel] using hrel
    · rw [hs] at hm
      cases hm
      simpa [rel] using records_grant hrel hg
  have herr : ∀ op t t' e rs, rel t rs → step op t = (.error e, t') → rel t' rs := by
    intro op t t' e rs hrel hs
    obtain ⟨hsame, -⟩ | ⟨m, hg, hm⟩ := step_cases op t
    · rw [hs] at hsame
      subst hsame
      exact hrel
    · rw [hs] at hm
      cases hm
  have hnil : rel l [] := by simpa [rel] using h
  simpa [rel, reserved] using returned_invariant step rel hok herr hnil ops

theorem assertCurrent_iff (m : Metadata) (l : EpochLedger) :
    (assertCurrent m.json l).1.isOk = true ↔
      l.current.lookup m.requestId = some (m.epoch, m.attemptId) := by
  simp only [assertCurrent, Act.bind_run, Act.call_run, validated_json, Act.read_run,
    Act.raiseIf_run]
  split
  · next h => simpa [Except.isOk, Except.toBool] using h
  · next h => simpa [Except.isOk, Except.toBool] using h

theorem currentOf_safe {r : String} (h : isSafeId r = true) (l : EpochLedger) :
    currentOf (.str r) l = (.ok (l.current.lookup r), l) := by
  have hr : requireSafeId (.str r) "request_id" .protocolError = .ok r :=
    (requireForm_eq_ok _ _ _ _).mpr ⟨rfl, h⟩
  simp [currentOf, Act.bind_run, hr]

/-- Over every history of calls on one ledger, accepted or not: attempts and
buffers are never reused, epochs of a request only grow, and the ledger names
the last reservation of each request as the current one. A call that raises
leaves all three structures alone. -/
theorem reservations_consistent (ops : List Op) :
    ((reserved empty ops).map (·.attemptId)).Nodup ∧
    ((reserved empty ops).map (·.bufferId)).Nodup ∧
    ((reserved empty ops).Pairwise fun a b => a.requestId = b.requestId → a.epoch < b.epoch) ∧
    (∀ r, (after step empty ops).current.lookup r = lastReserved r (reserved empty ops)) ∧
    (∀ r, isSafeId r = true → currentOf (.str r) (after step empty ops) =
      (.ok (lastReserved r (reserved empty ops)), after step empty ops)) ∧
    (∀ v e l', reserve v (after step empty ops) = (.error e, l') → l' = after step empty ops) ∧
    (∀ v e l', Session.construct v (after step empty ops) = (.error e, l') →
      l' = after step empty ops) ∧
    (∀ m : Metadata, (assertCurrent m.json (after step empty ops)).1.isOk = true ↔
      lastReserved m.requestId (reserved empty ops) = some (m.epoch, m.attemptId)) := by
  have h := records_after records_empty ops
  rw [List.nil_append] at h
  refine ⟨h.attemptsDistinct, h.buffersDistinct, h.increasing, h.current, ?_, ?_, ?_, ?_⟩
  · intro r hr
    rw [currentOf_safe hr, h.current]
  · intro v e l' he
    obtain ⟨m, -, -, hr⟩ | ⟨e', hr⟩ := reserve_cases v (after step empty ops)
    · rw [hr] at he
      cases he
    · rw [hr] at he
      cases he
      rfl
  · intro v e l' he
    obtain ⟨m, -, -, hr⟩ | ⟨e', hr⟩ := construct_cases v (after step empty ops)
    · rw [hr] at he
      cases he
    · rw [hr] at he
      cases he
      rfl
  · intro m
    rw [assertCurrent_iff, h.current]

end EpochLedger
end ServerlessX.Contract
