import ServerlessX.Contract.Ledger

/-! Many sessions over one ledger, their calls interleaved in any order. -/
namespace ServerlessX.Contract
open ServerlessX.Py ServerlessX.Py.Json

/-- One ledger and the sessions constructed with it, oldest first. -/
structure World where
  ledger : EpochLedger
  sessions : List Session

namespace World

def empty : World := ⟨EpochLedger.empty, []⟩

inductive Op where
  | construct (metadata : Json)
  | call (i : Nat) (op : Session.Op)

/-- One call. There is no session object to call beyond those constructed. -/
def step : Op → Act World Error (Option Json)
  | .construct metadata => fun w =>
    match Session.construct metadata w.ledger with
    | (.ok s, l) => (.ok none, ⟨l, w.sessions ++ [s]⟩)
    | (.error e, l) => (.error e, ⟨l, w.sessions⟩)
  | .call i op => fun w =>
    match w.sessions[i]? with
    | none => (.error (.text (.builtin .indexError) "no such session"), w)
    | some s => ((Session.step op s).1, { w with sessions := w.sessions.set i (Session.step op s).2 })

/-- The state of a program after a run. -/
abbrev reached (ops : List Op) : World := after step empty ops

/-- The metadata of the sessions. -/
def values (w : World) : List Metadata := w.sessions.map (·.value)

theorem step_call {w : World} {i : Nat} {s : Session} (h : w.sessions[i]? = some s)
    (op : Session.Op) : step (.call i op) w =
      ((Session.step op s).1, { w with sessions := w.sessions.set i (Session.step op s).2 }) := by
  simp [step, h]

theorem step_call_none {w : World} {i : Nat} (h : w.sessions[i]? = none) (op : Session.Op) :
    (step (.call i op) w).2 = w := by
  simp [step, h]

theorem construct_cases (v : Json) (w : World) :
    (∃ m, w.ledger.Grants m ∧
      step (.construct v) w = (.ok none, ⟨w.ledger.grant m, w.sessions ++ [Session.init m]⟩)) ∨
      ∃ e, step (.construct v) w = (.error e, w) := by
  obtain ⟨m, -, hg, hr⟩ | ⟨e, he⟩ := EpochLedger.construct_cases v w.ledger
  · exact .inl ⟨m, hg, by simp [step, hr]⟩
  · exact .inr ⟨e, by simp [step, he]⟩

/-- No call changes the metadata of a session. -/
theorem values_call (i : Nat) (op : Session.Op) (w : World) :
    (step (.call i op) w).2.values = w.values := by
  cases h : w.sessions[i]? with
  | none => rw [step_call_none h]
  | some s =>
    rw [step_call h]
    simp only [values, List.map_set, Session.step_value]
    obtain ⟨hi, hs⟩ := List.getElem?_eq_some_iff.mp h
    apply List.ext_getElem?
    intro j
    by_cases hj : i = j
    · subst hj
      simp [hi, hs]
    · rw [List.getElem?_set_ne hj]

theorem ledger_call (i : Nat) (op : Session.Op) (w : World) :
    (step (.call i op) w).2.ledger = w.ledger := by
  cases h : w.sessions[i]? with
  | none => rw [step_call_none h]
  | some s => rw [step_call h]

/-- The ledger has recorded exactly the sessions. -/
def Recorded (w : World) : Prop := w.ledger.Records w.values

theorem recorded_step (op : Op) (w : World) (h : w.Recorded) : (step op w).2.Recorded := by
  cases op with
  | construct v =>
    obtain ⟨m, hg, hs⟩ | ⟨e, he⟩ := construct_cases v w
    · rw [hs]
      have hrec := EpochLedger.records_grant h hg
      simpa [Recorded, values, Session.init] using hrec
    · rw [he]
      exact h
  | call i op =>
    rw [Recorded, ledger_call, values_call]
    exact h

theorem recorded_reached (ops : List Op) : (reached ops).Recorded :=
  after_invariant step Recorded recorded_step (s := empty) EpochLedger.records_empty ops

theorem values_step (op : Op) (w : World) : w.values <+: (step op w).2.values := by
  cases op with
  | construct v =>
    obtain ⟨m, -, hs⟩ | ⟨e, he⟩ := construct_cases v w
    · rw [hs]
      simp [values]
    · rw [he]
  | call i op => rw [values_call]

/-- Sessions are only ever added. -/
theorem values_after (w : World) (ops : List Op) : w.values <+: (after step w ops).values := by
  induction ops generalizing w with
  | nil => exact List.prefix_rfl
  | cons op ops ih => exact (values_step op w).trans (ih (step op w).2)

theorem getElem?_values_of_prefix {pre ops : List Op} (hp : pre <+: ops) {i : Nat} {s : Session}
    (h : (reached pre).sessions[i]? = some s) : (reached ops).values[i]? = some s.value := by
  obtain ⟨post, rfl⟩ := hp
  have hv : (reached pre).values[i]? = some s.value := by simp [values, h]
  obtain ⟨ms, hms⟩ := values_after (reached pre) post
  obtain ⟨hi, -⟩ := List.getElem?_eq_some_iff.mp hv
  rw [reached, after_append, ← hms, List.getElem?_append_left hi]
  exact hv

/-- An acknowledgement names the attempt it belongs to. -/
theorem attempt_of_same {a : Json} {k j : AckKind} {m n : Metadata} {d e : Option String}
    (h : Same a (canonicalAck k m d)) (h' : Same a (canonicalAck j n e)) :
    m.attemptId = n.attemptId := by
  obtain ⟨f, rfl⟩ := same_obj_left h
  obtain ⟨-, -, -, -, -, -, -, -, hm, -⟩ := (same_canonicalAck f k m d).mp h
  obtain ⟨-, -, -, -, -, -, -, -, hn, -⟩ := (same_canonicalAck f j n e).mp h'
  rw [hm] at hn
  simpa using hn

theorem same_of_call {w : World} {i : Nat} {op : Session.Op} {a : Json}
    (h : (step (.call i op) w).1 = .ok (some a)) :
    ∃ s k d, w.sessions[i]? = some s ∧ Same a (canonicalAck k s.value d) := by
  cases hs : w.sessions[i]? with
  | none => simp [step, hs] at h
  | some s =>
    rw [step_call hs] at h
    obtain ⟨e, he⟩ | ⟨r, s', hr, hm⟩ := Session.step_cases op s
    · simp [he] at h
    · rw [hr] at h
      cases h
      cases hm with
      | ack hop ha =>
        obtain ⟨k, d, -, -, hsame, -, -⟩ := ha
        exact ⟨s, k, d, rfl, hsame⟩

/-- Sessions over one ledger keep apart: what one of them accepts at some point
of a run every other one refuses at every point of it, and a call on one leaves
the others as they were. -/
theorem sessions_isolated (ops : List Op) :
    (∀ pre pre' i j op a s, pre <+: ops → pre' <+: ops → i ≠ j →
      (step (.call i op) (reached pre)).1 = .ok (some a) →
      (reached pre').sessions[j]? = some s → ∃ e, Session.advance a s = (.error e, s)) ∧
    (∀ i j op, i ≠ j →
      (step (.call i op) (reached ops)).2.sessions[j]? = (reached ops).sessions[j]?) ∧
    (∀ v (j : Nat) s, (reached ops).sessions[j]? = some s →
      (step (.construct v) (reached ops)).2.sessions[j]? = some s) := by
  refine ⟨?_, ?_, ?_⟩
  · intro pre pre' i j op a t hpre hpre' hij hacc ht
    obtain ⟨s, k, d, hs, hsame⟩ := same_of_call hacc
    obtain ⟨t', ⟨k', d', -, -, hsame', -⟩, -⟩ | he := Session.advance_cases t a
    · -- both bound to the attempt named in the acknowledgement
      have hatt := attempt_of_same hsame hsame'
      have hi := getElem?_values_of_prefix hpre hs
      have hj := getElem?_values_of_prefix hpre' ht
      have hnd := (recorded_reached ops).attemptsDistinct
      have hi' : ((reached ops).values.map (·.attemptId))[i]? = some s.value.attemptId := by
        simp [hi]
      have hj' : ((reached ops).values.map (·.attemptId))[j]? = some s.value.attemptId := by
        simp [hj, hatt]
      obtain ⟨hlt, -⟩ := List.getElem?_eq_some_iff.mp hi'
      exact absurd ((List.getElem?_inj hlt hnd).mp (hi'.trans hj'.symm)) hij
    · exact he
  · intro i j op hij
    cases hs : (reached ops).sessions[i]? with
    | none => rw [step_call_none hs]
    | some s =>
      rw [step_call hs]
      exact List.getElem?_set_ne hij
  · intro v j s hs
    obtain ⟨m, -, hr⟩ | ⟨e, he⟩ := construct_cases v (reached ops)
    · rw [hr]
      obtain ⟨hlt, -⟩ := List.getElem?_eq_some_iff.mp hs
      simpa [List.getElem?_append_left hlt] using hs
    · rw [he]
      exact hs

/-! ### Superseded sessions -/

/-- Once a session of a later epoch is open, an advancing call on an older
session of the same request raises `ProtocolError`. -/
def Fenced (ops : List Op) : Prop :=
  ∀ pre i op post s t, ops = pre ++ .call i op :: post → op.isAdvance = true →
    (reached pre).sessions[i]? = some s → t ∈ (reached pre).sessions →
    t.value.requestId = s.value.requestId → s.value.epoch < t.value.epoch →
    ∃ e, e.cls = .protocolError ∧ step (.call i op) (reached pre) = (.error e, reached pre)

/-- The older of two attempts is asked to go on after the newer one was opened. -/
def overtaken : List Op :=
  [.construct attempt7.json, .construct attempt8.json,
    .call 0 (.advanceKind (.str "TARGET_READY") .null .null .null)]

/-- The call does not advance, its session can accept nothing any more, or the
ledger still names its session's attempt as the current one. -/
def callsCurrent (op : Op) (w : World) : Bool :=
  match op with
  | .construct _ => true
  | .call i op => !op.isAdvance || (match w.sessions[i]? with
    | none => true
    | some s => s.nextKind.isNone ||
      w.ledger.current.lookup s.value.requestId == some (s.value.epoch, s.value.attemptId))

/-- A session that expects nothing more answers every advancing call with
`ProtocolError`. -/
theorem advancing_refused {s : Session} {op : Session.Op} (hop : op.isAdvance = true)
    (h : s.nextKind = none) :
    ∃ e, e.cls = .protocolError ∧ Session.step op s = (.error e, s) := by
  have hadv : ∀ a, ∃ e, e.cls = ErrorClass.protocolError ∧
      Session.advance a s = (.error e, s) := by
    intro a
    cases ha : s.abortedReason <;>
      simp [Session.advance, Act.bind_run, Act.raiseIf_run, ha, h, protocolError, Error.text]
  cases op with
  | advance a =>
    obtain ⟨e, hcls, he⟩ := hadv a
    exact ⟨e, hcls, by simp [Session.step, Act.bind_run, he]⟩
  | advanceKind kind owner payload token =>
    cases hk : coerceAckKind kind with
    | error e =>
      exact ⟨e, coerceAckKind_error hk,
        by simp [Session.step, Session.advanceKind, Act.bind_run, hk]⟩
    | ok k =>
      obtain ⟨a, ha⟩ := makeAck_ok k s.value owner payload
        (if pyEq token .null && [AckKind.released, .sourceReleased].contains k then s.tokenDigest
          else token)
      obtain ⟨e, hcls, he⟩ := hadv a
      refine ⟨e, hcls, ?_⟩
      simp only [Session.step, Session.advanceKind, Act.bind_run, Act.call_run, Act.read_run, hk,
        ha, he]
  | abort reason => cases hop
  | cleanupOwner owner => cases hop

/-- The ledger names as current the highest epoch among the sessions of a request. -/
theorem epoch_le_current {w : World} (h : w.Recorded) {t : Session} (ht : t ∈ w.sessions) :
    ∃ c, w.ledger.current.lookup t.value.requestId = some c ∧ t.value.epoch ≤ c.1 := by
  have hm : t.value ∈ w.values := List.mem_map_of_mem ht
  obtain ⟨c, hc, hle⟩ := EpochLedger.epoch_le_last h.increasing hm
  exact ⟨c, by rw [h.current, hc], hle⟩

/-- The newer attempt is opened when the older one has stopped. -/
def handedOver : List Op :=
  [.construct attempt7.json, .call 0 (.advanceKind (.str "TARGET_READY") .null .null .null),
    .call 0 (.abort (.str "lease lost")), .construct attempt8.json,
    .call 1 (.advanceKind (.str "TARGET_READY") .null .null .null),
    .call 0 (.advanceKind (.str "TRANSFER_SUBMITTED") .null .null .null)]

end World
end ServerlessX.Contract
