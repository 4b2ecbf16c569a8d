import ServerlessX.Py.JsonScan
import ServerlessX.Py.Socket
import ServerlessX.Workload.Header

/-! The framed stream: a length-prefixed JSON header followed by a
length-prefixed payload. Reading does not depend on how the bytes arrive. -/
namespace ServerlessX.Workload
open ServerlessX.Py ServerlessX.Py.Json

def osError (text : String) : Error := builtinError .osError text

def jsonObjectNoDuplicates (pairs : Fields) : Except Error Json :=
  noDuplicates
    (fun key => ⟨.workloadError, [.text "KV header contains duplicate key ", .repr (.str key)]⟩)
    [] pairs

/-- `json.loads` keeps the constants NaN and Infinity as floats. -/
def headerHooks : Hooks Error := ⟨jsonObjectNoDuplicates, fun c => .ok c.float⟩

/-- The two exceptions of `json.loads` that `decode_header` translates. -/
def headerError (e : Raised Builtin) : Error :=
  if e.cls = .unicodeDecodeError ∨ e.cls = .jsonDecodeError then
    ⟨.workloadError, .text "KV header is not valid JSON: " :: e.message⟩
  else ⟨.builtin e.cls, e.message⟩

def decodeHeader (scan : Scanner) (raw : Bytes) : Except Error Fields := do
  match ← loads scan headerHooks headerError raw with
  | .obj f => return f
  | _ => .error (workloadError "KV header must decode to an object")

/-- The loop of `recv_exact`. Every piece has at least one byte, so `remaining`
rounds are enough. -/
def recvLoop (length : Nat) : Nat → Nat → List Bytes → Act Conn Error Bytes
  | 0, _, chunks => return chunks.flatten
  | fuel + 1, remaining, chunks =>
    if remaining = 0 then return chunks.flatten
    else do
      let chunk ← Conn.recv osError (min remaining (1 <<< 20))
      Act.raiseIf chunk.isEmpty (workloadError ("TCP stream ended after " ++
        strInt (length - remaining : Nat) ++ " of " ++ strInt length ++ " expected bytes"))
      recvLoop length fuel (remaining - chunk.length) (chunks ++ [chunk])

/-- `length` is never negative here, so `_require_int` passes. -/
def recvExact (length : Nat) : Act Conn Error Bytes := recvLoop length length length []

def sendFramed (header : Fields) (payload : Bytes) : Act Wire Error Unit := do
  let rawHeader ← Act.call (canonicalJsonBytes (.obj header))
  Act.raiseIf (rawHeader.isEmpty || decide (MAX_HEADER_BYTES < rawHeader.length))
    (workloadError "KV header length is outside the safety limit")
  Act.raiseIf (payload.isEmpty || decide (MAX_PAYLOAD_BYTES < payload.length))
    (workloadError "KV payload length is outside the safety limit")
  Wire.sendall osError (packQ rawHeader.length)
  Wire.sendall osError rawHeader
  Wire.sendall osError (packQ payload.length)
  Wire.sendall osError payload

def receiveFramedHeader (scan : Scanner) : Act Conn Error (Fields × Nat) := do
  let rawLength ← recvExact 8
  let headerLength := unpackQ rawLength
  Act.raiseIf (headerLength == 0 || decide (MAX_HEADER_BYTES < headerLength))
    (workloadError ("invalid KV header length " ++ strInt headerLength))
  let raw ← recvExact headerLength
  let header ← Act.call (decodeHeader scan raw)
  let rawPayloadLength ← recvExact 8
  let payloadLength := unpackQ rawPayloadLength
  Act.raiseIf (payloadLength == 0 || decide (MAX_PAYLOAD_BYTES < payloadLength))
    (workloadError ("invalid KV payload length " ++ strInt payloadLength))
  return (header, payloadLength)

/-! ### Reading exactly -/

theorem headerHooks_keepsDistinct : headerHooks.KeepsDistinct := by
  intro pairs h
  exact (noDuplicates_nil _ pairs _).mpr ⟨rfl, h⟩

/-- A header is a text that scans, repeats no key at any depth and denotes an object. -/
theorem decodeHeader_eq_ok (scan : Scanner) (raw : Bytes) (f : Fields) :
    decodeHeader scan raw = .ok f ↔
      ∃ t, scan raw = .ok t ∧ t.distinctKeys = true ∧ t.toJson = .obj f := by
  have hstrict : headerHooks = Tree.strictHooks fun key =>
      ⟨.workloadError, [.text "KV header contains duplicate key ", .repr (.str key)]⟩ := rfl
  have hobj : ∀ v : Json, (match v with
      | .obj f => (pure f : Except Error Fields)
      | _ => .error (workloadError "KV header must decode to an object")) = .ok f ↔
      v = .obj f := by
    intro v
    cases v <;> simp [pure, Except.pure]
  rw [decodeHeader, bind_eq_ok]
  simp only [hobj, exists_eq_right, loads]
  cases hs : scan raw with
  | error e => simp
  | ok t => simp [hstrict, Tree.build_strict]

/-- Canonical bytes are read back as the dict in key order. -/
theorem decodeHeader_canonical {scan : Scanner} (hscan : RoundTrips scan) {f : Fields}
    (hf : (Json.obj f).floatFree = true) :
    ∃ raw g, canonicalJsonBytes (.obj f) = .ok raw ∧ decodeHeader scan raw = .ok g ∧
      Json.obj g = (Json.obj f).norm := by
  have hnorm := floatFree_norm hf
  have hloads := loads_dumps hscan headerHooks_keepsDistinct headerError hnorm
  refine ⟨ascii (Json.obj f).norm.text, Dict.sortKeys (normFields f), ?_, ?_, rfl⟩
  · rw [canonicalJsonBytes, dumps_floatFree hnorm]
  · rw [decodeHeader, hloads]
    rfl

theorem recvLoop_ok {length fuel remaining : Nat} {chunks : List Bytes} {c c' : Conn} {b : Bytes}
    (hfuel : remaining ≤ fuel) (h : recvLoop length fuel remaining chunks c = (.ok b, c')) :
    ∃ read, b = chunks.flatten ++ read ∧ read.length = remaining ∧ Conn.Reads c read c' := by
  induction fuel generalizing remaining chunks c with
  | zero =>
    cases h
    exact ⟨[], by simp, by simp; omega, .refl _⟩
  | succ fuel ih =>
    rw [recvLoop] at h
    split at h
    · next hzero =>
      cases h
      exact ⟨[], by simp, by simp [hzero], .refl _⟩
    · simp only [Act.bind_run_ok, Act.raiseIf_run_ok] at h
      obtain ⟨chunk, c₁, hr, _, _, ⟨hne, rfl⟩, hloop⟩ := h
      obtain ⟨hreads, hlen, -⟩ := Conn.recv_ok hr
      have hpos : 0 < chunk.length := by
        rw [List.length_pos_iff]
        simpa using hne
      obtain ⟨read, rfl, hread, hrest⟩ := ih (by omega) hloop
      refine ⟨chunk ++ read, by simp, ?_, hreads.trans hrest⟩
      rw [List.length_append]
      omega

/-- What `recv_exact` returns is the next `length` bytes of the stream. -/
theorem recvExact_ok {length : Nat} {c c' : Conn} {b : Bytes}
    (h : recvExact length c = (.ok b, c')) : b.length = length ∧ Conn.Reads c b c' := by
  obtain ⟨read, rfl, hlen, hreads⟩ := recvLoop_ok (Nat.le_refl length) h
  exact ⟨hlen, hreads⟩

/-- With enough bytes and no fault, the loop does not raise. -/
theorem recvLoop_returns (length fuel : Nat) {remaining : Nat} (chunks : List Bytes) {c : Conn}
    (hopen : c.closed = false) (hfault : c.faultless = true)
    (henough : remaining ≤ c.stream.length) :
    ∃ b c', recvLoop length fuel remaining chunks c = (.ok b, c') := by
  induction fuel generalizing remaining chunks c with
  | zero => exact ⟨_, _, rfl⟩
  | succ fuel ih =>
    rw [recvLoop]
    split
    · exact ⟨_, _, rfl⟩
    · next hpos =>
      rw [Act.bind_run]
      cases hr : Conn.recv osError (min remaining (1 <<< 20)) c with
      | mk r c₁ =>
        cases r with
        | error e =>
          have hbad := (Conn.recv_error hr).2.2 hopen
          rw [hfault] at hbad
          cases hbad
        | ok chunk =>
          obtain ⟨hreads, hlen, hend⟩ := Conn.recv_ok hr
          have hstream := congrArg List.length hreads.stream
          rw [List.length_append] at hstream
          have hne : chunk.isEmpty = false := by
            cases chunk with
            | nil =>
              have hnil := hend rfl (by omega)
              rw [hnil] at henough
              simp at henough
              omega
            | cons x xs => rfl
          simp only [Act.bind_run, Act.raiseIf_run, hne, Bool.false_eq_true, if_false]
          exact ih _ (hreads.closed.trans hopen) (hreads.faultless hfault) (by omega)

/-- Whatever way they arrive, the bytes in front of the stream are read. -/
theorem recvExact_append {b rest : Bytes} {c : Conn} (hopen : c.closed = false)
    (hfault : c.faultless = true) (hstream : c.stream = b ++ rest) :
    ∃ c', recvExact b.length c = (.ok b, c') ∧ c'.stream = rest ∧ c'.closed = false ∧
      c'.faultless = true := by
  have henough : b.length ≤ c.stream.length := by
    rw [hstream, List.length_append]
    omega
  obtain ⟨b', c', hrun⟩ := recvLoop_returns b.length b.length [] hopen hfault henough
  obtain ⟨hlen, hreads⟩ := recvExact_ok hrun
  have hsplit : b' ++ c'.stream = b ++ rest := by rw [← hreads.stream, hstream]
  obtain ⟨rfl, hrest⟩ := List.append_inj hsplit hlen
  exact ⟨c', hrun, hrest, hreads.closed.trans hopen, hreads.faultless hfault⟩

/-- A wanted number of bytes is drained from a connection by `recv` calls, none
of which asks for more than is still missing: by a first piece and the rest, or
until the stream ends or the socket fails. -/
inductive Drains : Nat → Conn → Except Error Bytes → Conn → Prop
  | nothing (c : Conn) : Drains 0 c (.ok []) c
  | piece {wanted asked : Nat} {c c₁ c' : Conn} {chunk : Bytes} {r : Except Error Bytes}
      (hasked : 0 < asked ∧ asked ≤ wanted) (hrecv : Conn.recv osError asked c = (.ok chunk, c₁))
      (hne : chunk ≠ []) (hrest : Drains (wanted - chunk.length) c₁ r c') :
      Drains wanted c (r.map (chunk ++ ·)) c'
  | ended {wanted asked : Nat} {c c' : Conn} (hasked : 0 < asked ∧ asked ≤ wanted)
      (hrecv : Conn.recv osError asked c = (.ok [], c')) (text : String) :
      Drains wanted c (.error (workloadError text)) c'
  | failed {wanted asked : Nat} {c c' : Conn} {e : Error} (hasked : 0 < asked ∧ asked ≤ wanted)
      (hrecv : Conn.recv osError asked c = (.error e, c')) : Drains wanted c (.error e) c'

theorem recvLoop_drains {length fuel remaining : Nat} (chunks : List Bytes) (c : Conn)
    (hfuel : remaining ≤ fuel) :
    ∃ r, Drains remaining c r (recvLoop length fuel remaining chunks c).2 ∧
      (recvLoop length fuel remaining chunks c).1 = r.map (chunks.flatten ++ ·) := by
  induction fuel generalizing remaining chunks c with
  | zero =>
    obtain rfl : remaining = 0 := by omega
    exact ⟨.ok [], .nothing c, by simp [recvLoop, Except.map]⟩
  | succ fuel ih =>
    rw [recvLoop]
    split
    · next hzero =>
      subst hzero
      exact ⟨.ok [], .nothing c, by simp [Except.map]⟩
    · next hpos =>
      have hasked : 0 < min remaining (1 <<< 20) ∧ min remaining (1 <<< 20) ≤ remaining := by
        simp only [Nat.reduceShiftLeft]
        omega
      cases hrecv : Conn.recv osError (min remaining (1 <<< 20)) c with
      | mk got c₁ =>
        cases got with
        | error e =>
          simp only [Act.bind_run, hrecv]
          exact ⟨.error e, .failed hasked hrecv, rfl⟩
        | ok chunk =>
          cases chunk with
          | nil =>
            simp only [Act.bind_run, hrecv, Act.raiseIf_run, List.isEmpty_nil, if_true]
            exact ⟨_, .ended hasked hrecv _, rfl⟩
          | cons x xs =>
            obtain ⟨-, hlen, -⟩ := Conn.recv_ok hrecv
            obtain ⟨r, hdrains, hr⟩ := @ih (remaining - (x :: xs).length) (chunks ++ [x :: xs]) c₁
              (by simp; omega)
            simp only [Act.bind_run, hrecv, Act.raiseIf_run, List.isEmpty_cons, Bool.false_eq_true,
              if_false]
            refine ⟨_, .piece hasked hrecv (by simp) hdrains, hr.trans ?_⟩
            cases r <;> simp [Except.map]

theorem recvExact_drains {length : Nat} {c c' : Conn} {r : Except Error Bytes}
    (h : recvExact length c = (r, c')) : Drains length c r c' := by
  obtain ⟨r', hdrains, hr⟩ := @recvLoop_drains length length length [] c (Nat.le_refl length)
  rw [show recvLoop length length length [] c = (r, c') from h] at hdrains hr
  have hmap : r'.map (([] : List Bytes).flatten ++ ·) = r' := by cases r' <;> rfl
  rw [hmap] at hr
  rw [show r = r' from hr]
  exact hdrains

/-- On a stream that ends early nothing is returned. -/
theorem recvExact_short {length : Nat} {c c' : Conn} {r : Except Error Bytes}
    (h : recvExact length c = (r, c')) (hshort : c.stream.length < length) : ∃ e, r = .error e := by
  cases r with
  | error e => exact ⟨e, rfl⟩
  | ok b =>
    obtain ⟨hlen, hreads⟩ := recvExact_ok h
    have htotal := congrArg List.length hreads.stream
    rw [List.length_append] at htotal
    omega

/-! ### Frames -/

/-- The bytes of a frame up to its payload. -/
def frameHead (raw : Bytes) (payloadLength : Nat) : Bytes :=
  packQ raw.length ++ raw ++ packQ payloadLength

def frame (raw payload : Bytes) : Bytes := frameHead raw payload.length ++ payload

/-- What is read as a header and a payload length is the head of a frame. -/
theorem receiveFramedHeader_ok {scan : Scanner} {c c' : Conn} {f : Fields} {m : Nat}
    (h : receiveFramedHeader scan c = (.ok (f, m), c')) :
    ∃ raw, c.stream = frameHead raw m ++ c'.stream ∧ c'.closed = c.closed ∧
      1 ≤ raw.length ∧ raw.length ≤ MAX_HEADER_BYTES ∧ decodeHeader scan raw = .ok f := by
  simp only [receiveFramedHeader, Act.bind_run_ok, Act.raiseIf_run_ok, Act.call_run_ok,
    Act.pure_run_ok, Bool.or_eq_false_iff, beq_eq_false_iff_ne, decide_eq_false_iff_not,
    Prod.mk.injEq] at h
  obtain ⟨b₁, c₁, h₁, _, _, ⟨⟨hne, hmax⟩, rfl⟩, raw, c₂, h₂, f', _, ⟨hdec, rfl⟩, b₂, c₃, h₃,
    _, _, ⟨-, rfl⟩, ⟨rfl, rfl⟩, rfl⟩ := h
  obtain ⟨hb₁, hr₁⟩ := recvExact_ok h₁
  obtain ⟨hraw, hr₂⟩ := recvExact_ok h₂
  obtain ⟨hb₂, hr₃⟩ := recvExact_ok h₃
  have hall := (hr₁.trans hr₂).trans hr₃
  refine ⟨raw, ?_, hall.closed, by omega, by omega, hdec⟩
  rw [frameHead, hraw, packQ_unpackQ hb₁, packQ_unpackQ hb₂]
  exact hall.stream

/-- The head of a frame is read, however it arrives. -/
theorem receiveFramedHeader_frameHead {scan : Scanner} {c : Conn} {raw rest : Bytes} {f : Fields}
    {m : Nat} (hopen : c.closed = false) (hfault : c.faultless = true)
    (hstream : c.stream = frameHead raw m ++ rest) (hraw : 1 ≤ raw.length)
    (hrawMax : raw.length ≤ MAX_HEADER_BYTES) (hdec : decodeHeader scan raw = .ok f)
    (hm : 1 ≤ m) (hmMax : m ≤ MAX_PAYLOAD_BYTES) :
    ∃ c', receiveFramedHeader scan c = (.ok (f, m), c') ∧ c'.stream = rest ∧ c'.closed = false ∧
      c'.faultless = true := by
  have hq : unpackQ (packQ raw.length) = raw.length := unpackQ_packQ (by
    simp only [MAX_HEADER_BYTES] at hrawMax
    omega)
  have hqm : unpackQ (packQ m) = m := unpackQ_packQ (by
    simp only [MAX_PAYLOAD_BYTES] at hmMax
    omega)
  rw [frameHead, List.append_assoc, List.append_assoc] at hstream
  obtain ⟨c₁, h₁, hs₁, ho₁, hf₁⟩ := recvExact_append hopen hfault hstream
  obtain ⟨c₂, h₂, hs₂, ho₂, hf₂⟩ := recvExact_append ho₁ hf₁ hs₁
  obtain ⟨c₃, h₃, hs₃, ho₃, hf₃⟩ := recvExact_append ho₂ hf₂ hs₂
  rw [length_packQ] at h₁ h₃
  refine ⟨c₃, ?_, hs₃, ho₃, hf₃⟩
  simp only [receiveFramedHeader, Act.bind_run_ok, Act.raiseIf_run_ok, Act.call_run_ok,
    Act.pure_run_ok, Bool.or_eq_false_iff, beq_eq_false_iff_ne, decide_eq_false_iff_not]
  refine ⟨_, c₁, h₁, (), c₁, ⟨⟨?_, ?_⟩, rfl⟩, raw, c₂, ?_, f, c₂, ⟨hdec, rfl⟩, _, c₃, h₃, (), c₃,
    ⟨⟨?_, ?_⟩, rfl⟩, ?_, rfl⟩
  · omega
  · omega
  · rw [hq]
    exact h₂
  · omega
  · omega
  · rw [hqm]

/-- A wire without faults carries the whole frame. -/
theorem sendFramed_frame {header : Fields} {payload raw : Bytes} {w : Wire}
    (hfault : w.faultless = true) (hraw : canonicalJsonBytes (.obj header) = .ok raw)
    (hrawPos : 1 ≤ raw.length) (hrawMax : raw.length ≤ MAX_HEADER_BYTES)
    (hpay : 1 ≤ payload.length) (hpayMax : payload.length ≤ MAX_PAYLOAD_BYTES) :
    ∃ w', sendFramed header payload w = (.ok (), w') ∧ w'.sent = w.sent ++ frame raw payload := by
  obtain ⟨w₁, h₁, hs₁, hf₁⟩ := Wire.sendall_faultless osError (packQ raw.length) hfault
  obtain ⟨w₂, h₂, hs₂, hf₂⟩ := Wire.sendall_faultless osError raw hf₁
  obtain ⟨w₃, h₃, hs₃, hf₃⟩ := Wire.sendall_faultless osError (packQ payload.length) hf₂
  obtain ⟨w₄, h₄, hs₄, -⟩ := Wire.sendall_faultless osError payload hf₃
  have hr : raw.isEmpty = false := by simpa using List.length_pos_iff.mp hrawPos
  have hp : payload.isEmpty = false := by simpa using List.length_pos_iff.mp hpay
  refine ⟨w₄, ?_, ?_⟩
  · simp only [sendFramed, Act.bind_run_ok, Act.raiseIf_run_ok, Act.call_run_ok,
      Bool.or_eq_false_iff, decide_eq_false_iff_not]
    exact ⟨raw, w, ⟨hraw, rfl⟩, (), w, ⟨⟨hr, by omega⟩, rfl⟩, (), w, ⟨⟨hp, by omega⟩, rfl⟩, (), w₁,
      h₁, (), w₂, h₂, (), w₃, h₃, h₄⟩
  · rw [hs₄, hs₃, hs₂, hs₁, frame, frameHead]
    simp

/-- What `send_framed` accepted and wrote is one frame. -/
theorem sendFramed_ok {header : Fields} {payload : Bytes} {w w' : Wire}
    (h : sendFramed header payload w = (.ok (), w')) :
    ∃ raw, canonicalJsonBytes (.obj header) = .ok raw ∧ 1 ≤ raw.length ∧
      raw.length ≤ MAX_HEADER_BYTES ∧ 1 ≤ payload.length ∧ payload.length ≤ MAX_PAYLOAD_BYTES ∧
      w'.sent = w.sent ++ frame raw payload := by
  simp only [sendFramed, Act.bind_run_ok, Act.raiseIf_run_ok, Act.call_run_ok,
    Bool.or_eq_false_iff, decide_eq_false_iff_not, Nat.not_lt] at h
  obtain ⟨raw, _, ⟨hraw, rfl⟩, _, _, ⟨⟨hrawNe, hrawMax⟩, rfl⟩, _, _, ⟨⟨hpayNe, hpayMax⟩, rfl⟩, _, w₁,
    h₁, _, w₂, h₂, _, w₃, h₃, h₄⟩ := h
  have hrawPos : 1 ≤ raw.length := List.length_pos_iff.mpr (by simpa using hrawNe)
  have hpayPos : 1 ≤ payload.length := List.length_pos_iff.mpr (by simpa using hpayNe)
  refine ⟨raw, hraw, hrawPos, hrawMax, hpayPos, hpayMax, ?_⟩
  rw [Wire.sendall_ok h₄, Wire.sendall_ok h₃, Wire.sendall_ok h₂, Wire.sendall_ok h₁, frame,
    frameHead]
  simp only [List.append_assoc]

/-- A frame determines its parts, so no frame continues another one. -/
theorem frame_prefix_free {raw raw' payload payload' rest : Bytes} (hraw : raw.length < 2 ^ 64)
    (hraw' : raw'.length < 2 ^ 64) (hpay : payload.length < 2 ^ 64)
    (hpay' : payload'.length < 2 ^ 64) (hle : frame raw' payload' ++ rest <+: frame raw payload) :
    frame raw' payload' ++ rest = frame raw payload := by
  refine hle.eq_of_length_le ?_
  obtain ⟨tail, h⟩ := hle
  have htotal := congrArg List.length h
  simp only [frame, frameHead, List.append_assoc] at h
  obtain ⟨hlen, h⟩ := List.append_inj h (by simp)
  have hrawLen : raw'.length = raw.length := by
    rw [← unpackQ_packQ hraw', hlen, unpackQ_packQ hraw]
  obtain ⟨-, h⟩ := List.append_inj h hrawLen
  obtain ⟨hplen, h⟩ := List.append_inj h (by simp)
  have hpayLen : payload'.length = payload.length := by
    rw [← unpackQ_packQ hpay', hplen, unpackQ_packQ hpay]
  have htail := congrArg List.length h
  simp only [List.length_append] at htail
  rw [List.length_append] at htotal
  omega

/-- A frame is received as it was sent, however it is cut and whatever follows
it; reading an exact number of bytes never takes more and never returns less. -/
theorem framed_roundTrip {scan : Scanner} (hscan : RoundTrips scan) :
    (∀ header payload w w' arrivals trailing, (Json.obj header).floatFree = true →
      sendFramed header payload w = (.ok (), w') →
      arrivals.all (fun a => !a.isFault) = true →
      ∃ sent g c₁ c₂, w'.sent = w.sent ++ sent ∧
        receiveFramedHeader scan (.fresh (sent ++ trailing) arrivals) =
          (.ok (g, payload.length), c₁) ∧
        Same (.obj g) (.obj header) ∧
        recvExact payload.length c₁ = (.ok payload, c₂) ∧ c₂.stream = trailing) ∧
    (∀ length c r c', recvExact length c = (r, c') →
      Drains length c r c' ∧
      (∀ b, r = .ok b → b.length = length ∧ c.stream = b ++ c'.stream) ∧
      (c.stream.length < length → ∃ e, r = .error e)) := by
  refine ⟨?_, ?_⟩
  · intro header payload w w' arrivals trailing hfree hsend harrivals
    obtain ⟨raw, hraw, hrawPos, hrawMax, hpayPos, hpayMax, hsent⟩ := sendFramed_ok hsend
    obtain ⟨raw', g, hraw', hdec, hg⟩ := decodeHeader_canonical hscan hfree
    obtain rfl : raw' = raw := by
      rw [hraw] at hraw'
      exact (Except.ok.inj hraw').symm
    obtain ⟨c₁, hhead, hs₁, ho₁, hf₁⟩ := receiveFramedHeader_frameHead
      (c := .fresh (frame raw' payload ++ trailing) arrivals) rfl harrivals
      (List.append_assoc _ _ _) hrawPos hrawMax hdec hpayPos hpayMax
    obtain ⟨c₂, hpay, hs₂, -⟩ := recvExact_append ho₁ hf₁ hs₁
    exact ⟨_, g, c₁, c₂, hsent, hhead, by rw [Same, hg, norm_norm], hpay, hs₂⟩
  · intro length c r c' h
    refine ⟨recvExact_drains h, ?_, recvExact_short h⟩
    rintro b rfl
    obtain ⟨hlen, hreads⟩ := recvExact_ok h
    exact ⟨hlen, hreads.stream⟩

def nestedHeader : Fields :=
  [("schema", .str "kv"), ("shape", .list [.int 1, .int (-4)]),
    ("notes", .obj [("utf8", .str "\u00e9\u4e2d"), ("final", .bool true), ("next", .null)])]

/-- A frame cut inside its length fields, with the next message behind it. -/
theorem nestedHeader_received : ∃ sent g c₁ c₂,
    (sendFramed nestedHeader [7, 8, 9] ⟨[], []⟩).2.sent = [] ++ sent ∧
    receiveFramedHeader Scan.scan (.fresh (sent ++ [1, 2]) [.upTo 2, .upTo 0, .upTo 6, .upTo 30]) =
      (.ok (g, 3), c₁) ∧
    Same (.obj g) (.obj nestedHeader) ∧ recvExact 3 c₁ = (.ok [7, 8, 9], c₂) ∧
    c₂.stream = [1, 2] := by
  obtain ⟨⟨⟩, hsent⟩ := ok_of_isOk (x := (sendFramed nestedHeader [7, 8, 9] ⟨[], []⟩).1)
    (by decide +kernel)
  exact (framed_roundTrip Scan.scan_roundTrips).1 nestedHeader [7, 8, 9] ⟨[], []⟩ _
    [.upTo 2, .upTo 0, .upTo 6, .upTo 30] [1, 2] (by decide +kernel) (Prod.ext hsent rfl) rfl

end ServerlessX.Workload
