import ServerlessX.Py.JsonScan
import ServerlessX.Contract.Ledger

/-! The log of accepted acknowledgements, written out and read back, determines
the session: replaying it ends where the run stood before it was aborted. -/
namespace ServerlessX.Contract
open ServerlessX.Py ServerlessX.Py.Json

def canonicalJsonBytes (value : Json) : Except Error Bytes :=
  match value.dumps with
  | .ok b => .ok b
  | .error e => .error ⟨.contractError, .text "cannot canonicalize JSON: " :: e.message⟩

def noDuplicateObject (pairs : Fields) : Except Error Json :=
  noDuplicates (fun key => ⟨.metadataError, [.text "JSON contains duplicate key ", .repr (.str key)]⟩)
    [] pairs

def Constant.text : Constant → String
  | .nan => "NaN"
  | .infinity => "Infinity"
  | .negInfinity => "-Infinity"

def rejectConstant (value : Constant) : Except Error Json :=
  .error ⟨.metadataError,
    [.text "JSON contains non-finite constant ", .repr (.str (Constant.text value))]⟩

/-- The hooks of the contract's reader. -/
def strictHooks : Hooks Error := ⟨noDuplicateObject, rejectConstant⟩

def libraryError (e : Raised Builtin) : Error := ⟨.builtin e.cls, e.message⟩

theorem strictHooks_keepsDistinct : strictHooks.KeepsDistinct := by
  intro pairs h
  exact (noDuplicates_nil _ pairs _).mpr ⟨rfl, h⟩

namespace Session

/-- The session at the end of a run, or as it was just before it was aborted. -/
def beforeAbort (s : Session) : List Op → Session
  | [] => s
  | op :: ops =>
    if (step op s).2.abortedReason.isSome then s else beforeAbort (step op s).2 ops

/-- A value written to the log and read back from it. -/
def throughLog (scan : Scanner) (hooks : Hooks Error) (v : Json) : Except Error Json := do
  loads scan hooks libraryError (← canonicalJsonBytes v)

/-- Replaying what was accepted, up to key order, leads to the session. -/
def Replays (m : Metadata) (s : Session) (acks : List Json) : Prop :=
  ∀ vs, List.Forall₂ Same vs acks →
    allReturn step (init m) (vs.map .advance) ∧ after step (init m) (vs.map .advance) = s

theorem accepted_cons_ok {s s' : Session} {op : Op} {r : Option Json}
    (h : step op s = (.ok r, s')) (ops : List Op) :
    accepted s (op :: ops) = r.toList ++ accepted s' ops := by
  cases r <;> simp [accepted, returned, h]

theorem accepted_cons_error {s s' : Session} {op : Op} {e : Error}
    (h : step op s = (.error e, s')) (ops : List Op) :
    accepted s (op :: ops) = accepted s' ops := by
  simp [accepted, returned, h]

/-- An aborted session accepts nothing. -/
theorem accepted_aborted {s : Session} (h : s.abortedReason ≠ none) (ops : List Op) :
    accepted s ops = [] := by
  induction ops generalizing s with
  | nil => rfl
  | cons op ops ih =>
    obtain ⟨e, he⟩ | ⟨r, s', hs, hm⟩ := step_cases op s
    · rw [accepted_cons_error he, ih h]
    · rw [accepted_cons_ok hs]
      cases hm with
      | ack hop ha =>
        obtain ⟨k, d, hk, -⟩ := ha
        exact absurd (not_aborted_of_nextKind hk) h
      | abort hr hc ha => exact absurd ha h
      | cleanupSource ha hown => simpa using ih (s := { s with sourceOwned := false }) h
      | cleanupTarget ha hown => simpa using ih (s := { s with targetOwned := false }) h

theorem replays_init (m : Metadata) : Replays m (init m) [] := by
  intro vs hvs
  cases hvs
  exact ⟨trivial, rfl⟩

/-- The replay takes the step that accepting an acknowledgement took. -/
theorem replays_accept {m : Metadata} {s s' : Session} {acks : List Json} {a : Json}
    (h : Replays m s acks) (ha : s.Accepts a s') : Replays m s' (acks ++ [a]) := by
  intro vs hvs
  obtain ⟨us, ws, rfl, hus, hws⟩ : ∃ us ws, vs = us ++ ws ∧ List.Forall₂ Same us acks ∧
      List.Forall₂ Same ws [a] := by
    exact ⟨vs.take acks.length, vs.drop acks.length, (List.take_append_drop _ _).symm,
      by simpa using List.forall₂_take_append vs acks [a] hvs,
      by simpa using List.forall₂_drop_append vs acks [a] hvs⟩
  obtain ⟨w, rfl, hw⟩ : ∃ w, ws = [w] ∧ Same w a := by
    cases hws with
    | cons hw hnil =>
      cases hnil
      exact ⟨_, rfl, hw⟩
  obtain ⟨hret, hafter⟩ := h us hus
  obtain ⟨k, d, hk, hd, hs, hkept, rfl⟩ := ha
  have hadv := (advance_valid hk hd (hw.trans hs)).1 hkept
  have hstep : step (.advance w) s = (.ok (some w), s.accept k d) := by
    simp [step, Act.bind_run, hadv]
  rw [List.map_append, allReturn_append, after_append, hafter]
  refine ⟨⟨hret, ?_⟩, ?_⟩
  · simp [allReturn, hstep, Except.isOk, Except.toBool]
  · simp [after, hstep]

theorem replays_run {m : Metadata} {s : Session} {acks : List Json} (h : Replays m s acks)
    (ha : s.abortedReason = none) (ops : List Op) :
    Replays m (beforeAbort s ops) (acks ++ accepted s ops) := by
  induction ops generalizing s acks with
  | nil => simpa [beforeAbort, accepted, returned] using h
  | cons op ops ih =>
    obtain ⟨e, he⟩ | ⟨r, s', hs, hm⟩ := step_cases op s
    · rw [accepted_cons_error he]
      simpa [beforeAbort, he, ha] using ih h ha
    · rw [accepted_cons_ok hs]
      cases hm with
      | ack hop hacc =>
        have ha' : s'.abortedReason = none := by
          obtain ⟨k, d, -, -, -, -, rfl⟩ := hacc
          simpa using ha
        simpa [beforeAbort, hs, ha'] using ih (replays_accept h hacc) ha'
      | abort hr hc hn =>
        rw [accepted_aborted (by simp)]
        simpa [beforeAbort, hs] using h
      | cleanupSource hn hown => exact absurd ha hn
      | cleanupTarget hn hown => exact absurd ha hn

theorem canonicalAck_floatFree (k : AckKind) (m : Metadata) (d : Option String) :
    (canonicalAck k m d).floatFree = true := by
  have hd : (optStr d).floatFree = true := by cases d <;> rfl
  have hp : (if hashKinds.contains k then Json.str m.payloadSha else .null).floatFree = true := by
    split <;> rfl
  simp only [canonicalAck, ackObject, floatFree, floatFreeFields, m.get_requestId, m.get_epoch,
    m.get_attemptId, m.get_bufferId, hd, hp, Bool.and_self]

/-- Every acknowledgement survives the log up to key order. -/
theorem throughLog_ack {scan : Scanner} (hscan : RoundTrips scan) {hooks : Hooks Error}
    (hk : hooks.KeepsDistinct) {a : Json} {k : AckKind} {m : Metadata} {d : Option String}
    (h : Same a (canonicalAck k m d)) : throughLog scan hooks a = .ok a.norm := by
  have hfree : a.norm.floatFree = true := by
    rw [h]
    exact floatFree_norm (canonicalAck_floatFree k m d)
  simp only [throughLog, canonicalJsonBytes, dumps_floatFree hfree, bind, Except.bind,
    loads_dumps hscan hk libraryError hfree]

/-- What is logged is read back in full. -/
theorem throughLog_logged {scan : Scanner} (hscan : RoundTrips scan) {hooks : Hooks Error}
    (hk : hooks.KeepsDistinct) {s : Session} {acks : List Json}
    (h : List.Forall₂ Same acks s.logged) :
    acks.mapM (throughLog scan hooks) = .ok (acks.map Json.norm) := by
  rw [mapM_eq_ok, List.forall₂_map_right_iff, List.forall₂_same]
  intro a ha
  obtain ⟨c, hc, hsame⟩ := exists_of_forall₂ h ha
  obtain ⟨k, -, rfl⟩ := List.mem_map.mp hc
  exact throughLog_ack hscan hk hsame

theorem construct_empty (m : Metadata) :
    construct m.json EpochLedger.empty = (.ok (init m), EpochLedger.empty.grant m) := by
  have hg : EpochLedger.empty.Grants m := by simp [EpochLedger.Grants, EpochLedger.empty]
  simp [construct, Act.bind_run, EpochLedger.validated_json, EpochLedger.reserve_grants hg]

theorem after_aborted {s : Session} (h : s.abortedReason ≠ none) (ops : List Op) :
    (after step s ops).abortedReason ≠ none := by
  have hmove : ∀ (s : Session) op r (s' : Session), s.abortedReason ≠ none → s.Move op r s' →
      s'.abortedReason ≠ none := by
    intro s op r s' hs hm
    cases hm with
    | ack hop ha =>
      obtain ⟨k, d, -, -, -, -, rfl⟩ := ha
      simpa using hs
    | abort hr hc ha => simp
    | cleanupSource ha hown => exact hs
    | cleanupTarget ha hown => exact hs
  exact after_invariant step (fun s => s.abortedReason ≠ none) (step_invariant _ hmove) h ops

/-- Without an abort the whole run counts. -/
theorem beforeAbort_eq_after {s : Session} {ops : List Op}
    (h : (after step s ops).abortedReason = none) : beforeAbort s ops = after step s ops := by
  induction ops generalizing s with
  | nil => rfl
  | cons op ops ih =>
    have hn : (step op s).2.abortedReason = none := by
      by_contra hn
      exact after_aborted hn ops h
    simpa [beforeAbort, hn, after] using ih h

/-- A run with a refused acknowledgement that is aborted after DECODE_DONE. -/
def abortedRun : List Op :=
  [.advanceKind (.str "TARGET_READY") .null .null .null,
    .advanceKind (.str "TARGET_READY") .null .null .null,
    .advanceKind (.str "TRANSFER_SUBMITTED") .null .null .null,
    .advanceKind (.str "TRANSFER_COMPLETED") .null .null .null,
    .advanceKind (.str "CACHE_VERIFIED") .null .null .null,
    .advanceKind (.str "DECODE_DONE") .null .null (.str (String.ofList (List.replicate 64 'a'))),
    .abort (.str "peer lost")]

/-- The session after the first `n` acknowledgements of a run whose decoding ended
with `d`. -/
def standing (m : Metadata) (d : String) (n : Nat) : Session :=
  ⟨m, (n : Int) - 1, none, decide (n < 7), decide (1 ≤ n ∧ n ≤ 5), if n < 5 then .null else .str d⟩

theorem lt_of_kind {n : Nat} {k : AckKind} (hk : ACK_SEQUENCE[n]? = some k) : n < 7 := by
  obtain ⟨hn, -⟩ := List.getElem?_eq_some_iff.mp hk
  exact hn

theorem accepts_standing {m : Metadata} {d : String} (hd : isSha256 d = true) {n : Nat} {k : AckKind}
    (hk : ACK_SEQUENCE[n]? = some k) {a : Json}
    (ha : Same a (canonicalAck k m (digestAt (some d) k))) :
    (standing m d n).Accepts a (standing m d (n + 1)) := by
  have hnext : (standing m d n).nextKind = some k := by
    refine (nextKind_eq_some _ _).mpr ⟨rfl, ?_, ?_⟩
    · have hn := lt_of_kind hk
      simp only [standing, ACK_SEQUENCE, List.length_cons, List.length_nil]
      omega
    · simpa [standing] using hk
  have hfor : DigestFor k (digestAt (some d) k) := by
    unfold DigestFor digestAt
    split
    · exact ⟨d, rfl, hd⟩
    · rfl
  refine ⟨k, _, hnext, hfor, ha, ?_, ?_⟩
  · intro hrel
    have hn := lt_of_kind hk
    obtain rfl | rfl := hrel <;> interval_cases n <;> simp_all [ACK_SEQUENCE] <;> rfl
  · have hn := lt_of_kind hk
    interval_cases n <;> cases hk <;> rfl

theorem advance_standing {m : Metadata} {d : String} (hd : isSha256 d = true) {n : Nat}
    {k : AckKind} (hk : ACK_SEQUENCE[n]? = some k) {a : Json}
    (ha : Same a (canonicalAck k m (digestAt (some d) k))) :
    advance a (standing m d n) = (.ok a, standing m d (n + 1)) := by
  obtain ⟨j, e, hj, he, hs, hkept, hacc⟩ := accepts_standing hd hk ha
  rw [hacc]
  exact (advance_valid hj he hs).1 hkept

/-- The driver passes the digest with DECODE_DONE only; the releases repeat it. -/
theorem advanceKind_standing {m : Metadata} {d : String} (hd : isSha256 d = true) {n : Nat}
    {k : AckKind} (hk : ACK_SEQUENCE[n]? = some k) :
    advanceKind (.str k.value) .null .null (if k = .decodeDone then .str d else .null)
      (standing m d n) = (.ok (canonicalAck k m (digestAt (some d) k)), standing m d (n + 1)) := by
  have hcoerce : coerceAckKind (.str k.value) = .ok k := (coerceAckKind_eq_ok _ _).mpr rfl
  have htoken : (if pyEq (if k = .decodeDone then .str d else .null) .null &&
      [AckKind.released, .sourceReleased].contains k then (standing m d n).tokenDigest
      else if k = .decodeDone then .str d else .null) = optStr (digestAt (some d) k) := by
    have hn := lt_of_kind hk
    interval_cases n <;> cases hk <;> simp [standing, digestAt, tokenKinds, optStr, pyEq, sameType]
  have hmake := makeAck_canonical k m (digestAt (some d) k)
  have hadv := advance_standing hd hk (a := canonicalAck k m (digestAt (some d) k)) rfl
  have hvalue : (standing m d n).value = m := rfl
  simp only [advanceKind, Act.bind_run, Act.call_run, Act.read_run, hcoerce, htoken, hvalue, hmake,
    hadv]

/-- Seven accepted acknowledgements are the canonical sequence, and the session
stands at its end. -/
theorem standing_of_tracks {m : Metadata} {s : Session} {acks : List Json} (h : Tracks m s acks)
    (ha : s.abortedReason = none) (hlen : acks.length = ACK_SEQUENCE.length) :
    ∃ d, isSha256 d = true ∧ s = standing m d 7 ∧
      List.Forall₂ Same acks (ACK_SEQUENCE.map fun k => canonicalAck k m (digestAt (some d) k)) := by
  obtain ⟨rfl, hinv, hacks⟩ := h
  have hidx : s.index = 6 := by
    have hl := length_logged hinv
    rw [← hacks.length_eq, hlen] at hl
    simp only [ACK_SEQUENCE, List.length_cons, List.length_nil] at hl
    omega
  obtain ⟨d, hd, hsha⟩ := hinv.decided (by omega)
  have hsource : s.sourceOwned = false := by simpa [hidx] using hinv.source ha
  have htarget : s.targetOwned = false := by simpa [hidx] using hinv.target ha
  refine ⟨d, hsha, ?_, ?_⟩
  · obtain ⟨value, index, reason, source, target, digest⟩ := s
    simp only at hidx ha hsource htarget hd
    subst hidx ha hsource htarget hd
    rfl
  · have hdigest : s.digest = some d := by simp [digest, hd]
    simpa [logged, hidx, hdigest, ACK_SEQUENCE] using hacks

end Session
end ServerlessX.Contract
