import ServerlessX.Workload.Roles

/-! The gate in front of the decoder: only a completely received and verified
frame reaches `runtime.unpack`, and no connection is left open. -/
namespace ServerlessX.Workload
open ServerlessX.Py ServerlessX.Py.Json

section Gate
variable {κ : Type} (sha256 : Bytes → String) (scan : Scanner)

/-- The header bytes and the payload of a frame that the expected identity lets
through, `h` being the header they decode to. -/
structure Verified (expected : ExpectedKv) (raw payload : Bytes) (h : Fields) : Prop where
  headerBytes : 1 ≤ raw.length ∧ raw.length ≤ 2 ^ 20
  decodes : ∃ t, scan raw = .ok t ∧ t.distinctKeys = true ∧ t.toJson = .obj h
  accepted : validateKvHeader (.obj h) expected = .ok h
  payloadBytes : get h "payload_bytes" = .int payload.length
  payloadSha : get h "payload_sha256" = .str (sha256 payload)

/-- The stream begins with a verified frame. -/
def GateOpen (expected : ExpectedKv) (stream payload : Bytes) (h : Fields) : Prop :=
  ∃ raw rest, stream = packQ raw.length ++ raw ++ packQ payload.length ++ payload ++ rest ∧
    Verified sha256 scan expected raw payload h

/-- What one run of the decode side on a stream does about `runtime.unpack` and
its connection. -/
structure Gated (expected : ExpectedKv) (stream : Bytes)
    (run : Except Error Fields × Receiver) : Prop where
  once : run.2.unpacked.length ≤ 1
  verified : ∀ payload tensors, (payload, tensors) ∈ run.2.unpacked →
    ∃ h, GateOpen sha256 scan expected stream payload h ∧ tensors = get h "tensors" ∧
      ∃ ts slices, tensors = .list ts ∧ List.Forall₂ Names ts slices ∧
        Tiles 0 slices payload.length
  refused : (¬ ∃ payload h, GateOpen sha256 scan expected stream payload h) →
    (∃ e, run.1 = .error e) ∧ run.2.unpacked = []
  truncated : ∀ raw payload h, Verified sha256 scan expected raw payload h →
    stream <+: frame raw payload → stream ≠ frame raw payload →
    (∃ e, run.1 = .error e) ∧ run.2.unpacked = []
  closed : ∃ c, run.2.connection = some c ∧ c.closed = true

variable {sha256 scan}

namespace Receiver
variable {clock : Nat → Int}

theorem receiveHeader_run (scan : Scanner) (clock : Nat → Int) (c : Conn) :
    receiveHeader scan clock (listening (.ok c)) = match receiveFramedHeader scan c with
      | (.ok a, c') => (.ok a, ⟨.ok c, some c', some (clock 0), []⟩)
      | (.error e, c') => (.error (transportError "TCP KV receive failed: " e),
          ⟨.ok c, some c'.close, some (clock 0), []⟩) := by
  cases hr : receiveFramedHeader scan c with
  | mk r c' =>
    cases r <;>
      simp [receiveHeader, Act.onRaise, Act.bind_run, accept, listening, onConnection, hr,
        closeConnection]

/-- A connection is there and nothing was unpacked yet. -/
def Holding (r : Receiver) : Prop := r.connection.isSome = true ∧ r.unpacked = []

theorem keeps_onConnection {α : Type} (x : Act Conn Error α) :
    Act.Keeps Holding (onConnection x) := by
  intro r hr
  unfold onConnection
  split
  · exact hr
  · exact ⟨rfl, hr.2⟩

theorem keeps_receivePayload (clock : Nat → Int) (n : Nat) :
    Act.Keeps Holding (receivePayload clock n) := by
  refine Act.keeps_bind Act.keeps_read fun r => ?_
  split
  · exact Act.keeps_raise _
  · refine Act.keeps_bind ?_ fun payload => ?_
    · exact Act.keeps_onRaise (keeps_onConnection _) fun e => Act.keeps_raise _
    · exact Act.keeps_bind (Act.keeps_call _) fun ms => Act.keeps_pure _

theorem receivePayload_run {r : Receiver} {c : Conn} {start : Int}
    (hc : r.connection = some c) (hs : r.receiveStartNs = some start) (clock : Nat → Int) (n : Nat) :
    receivePayload clock n r = match recvExact n c with
      | (.ok payload, c') => ((elapsedMs start (clock 1)).map fun ms => (payload, ms),
          { r with connection := some c' })
      | (.error e, c') => (.error (transportError "TCP KV receive failed: " e),
          { r with connection := some c' }) := by
  cases hx : recvExact n c with
  | mk res c' =>
    cases res with
    | error e => simp [receivePayload, Act.bind_run, hs, Act.onRaise, onConnection, hc, hx]
    | ok b =>
      cases hms : elapsedMs start (clock 1) <;>
        simp [receivePayload, Act.bind_run, hs, Act.onRaise, onConnection, hc, hx, hms, Except.map]

end Receiver

variable {clock : Nat → Int} {args : Args} {promptIds : List Int} {info : ModelInfo}

theorem expectedKv_ok (sha256 : Bytes → String) (args : Args) (promptIds : List Int)
    (info : ModelInfo) : expectedKv sha256 args promptIds info =
      .ok ⟨args.modelId, args.modelSha256, args.tokenizerSha256, args.requestId, args.epoch,
        promptIds.length, sha256 (tokenText promptIds), args.outputTokens, info⟩ := by
  simp only [expectedKv, tokenDigest_ints, bind, Except.bind, pure, Except.pure]

theorem keeps_verifyReceived (header : Fields) (framed : Nat) :
    Act.Keeps Receiver.Holding
      (verifyReceived sha256 clock args promptIds info header framed) := by
  refine Act.keeps_bind (Act.keeps_call _) fun expected => ?_
  refine Act.keeps_bind (Act.keeps_call _) fun _ => ?_
  refine Act.keeps_bind (Act.keeps_raiseIf _ _) fun _ => ?_
  refine Act.keeps_bind (Receiver.keeps_receivePayload clock framed) fun p => ?_
  exact Act.keeps_bind (Act.keeps_call _) fun _ => Act.keeps_pure _

/-- Whatever happens while receiving, the connection ends up closed and nothing
was unpacked. -/
theorem receiveVerified_closed (sha256 : Bytes → String) (scan : Scanner) (clock : Nat → Int)
    (args : Args) (promptIds : List Int) (info : ModelInfo) (c : Conn) :
    let r := (receiveVerified sha256 scan clock args promptIds info (.listening (.ok c))).2
    (∃ c', r.connection = some c' ∧ c'.closed = true) ∧ r.unpacked = [] := by
  simp only [receiveVerified, Act.bind_run, Receiver.receiveHeader_run]
  cases hr : receiveFramedHeader scan c with
  | mk res c' =>
    cases res with
    | error e => exact ⟨⟨c'.close, rfl, rfl⟩, rfl⟩
    | ok a =>
      obtain ⟨hsome, hnone⟩ : Receiver.Holding
          (verifyReceived sha256 clock args promptIds info a.1 a.2
            ⟨.ok c, some c', some (clock 0), []⟩).2 :=
        keeps_verifyReceived a.1 a.2 _ ⟨rfl, rfl⟩
      obtain ⟨c'', hc''⟩ := Option.isSome_iff_exists.mp hsome
      exact ⟨⟨c''.close, congrArg (Option.map Conn.close) hc'', rfl⟩, hnone⟩

/-- On a connection that delivered a header, success means that the header is
accepted and that the next bytes are the payload it announces. -/
theorem verifyReceived_ok {r r' : Receiver} {c : Conn} {start : Int} {header f : Fields} {m : Nat}
    {payload : Bytes} {ms : PyFloat} {expected : ExpectedKv} (hc : r.connection = some c)
    (hs : r.receiveStartNs = some start)
    (hexp : expectedKv sha256 args promptIds info = .ok expected)
    (h : verifyReceived sha256 clock args promptIds info header m r =
      (.ok (f, payload, ms), r')) :
    f = header ∧ HeaderOk expected header ∧ payload.length = m ∧
      get header "payload_bytes" = .int payload.length ∧
      get header "payload_sha256" = .str (sha256 payload) ∧
      ∃ rest, c.stream = payload ++ rest := by
  simp only [verifyReceived, Act.bind_run_ok, Act.call_run_ok, Act.raiseIf_run_ok, Act.pure_run_ok,
    hexp, Except.ok.injEq, validateKvHeader_eq_ok, Prod.mk.injEq] at h
  obtain ⟨_, _, ⟨rfl, rfl⟩, _, _, ⟨⟨hobj, hok⟩, rfl⟩, _, _, ⟨-, rfl⟩, ⟨p, t⟩, r₂, hpay, _, _,
    ⟨hvalid, rfl⟩, ⟨rfl, rfl, rfl⟩, rfl⟩ := h
  cases hobj
  have hgets := (hok.validatePayload _ _).mp hvalid
  rw [Receiver.receivePayload_run hc hs] at hpay
  cases hx : recvExact m c with
  | mk res c' =>
    cases res with
    | error e => simp [hx] at hpay
    | ok b =>
      cases hms : elapsedMs start (clock 1) with
      | error e => simp [hx, hms, Except.map] at hpay
      | ok x =>
        simp only [hx, hms, Except.map, Prod.mk.injEq, Except.ok.injEq] at hpay
        obtain ⟨⟨rfl, rfl⟩, -⟩ := hpay
        obtain ⟨hlen, hreads⟩ := recvExact_ok hx
        exact ⟨rfl, hok, hlen, hgets.1, hgets.2, c'.stream, hreads.stream⟩

/-- What is received and verified is a frame in front of the stream. -/
theorem receiveVerified_ok {c : Conn} {r : Receiver} {header : Fields} {payload : Bytes}
    {ms : PyFloat} {expected : ExpectedKv}
    (hexp : expectedKv sha256 args promptIds info = .ok expected)
    (h : receiveVerified sha256 scan clock args promptIds info (.listening (.ok c)) =
      (.ok (header, payload, ms), r)) :
    GateOpen sha256 scan expected c.stream payload header ∧ HeaderOk expected header := by
  simp only [receiveVerified, Act.bind_run_ok, Receiver.receiveHeader_run] at h
  obtain ⟨⟨f, m⟩, r₁, hheader, h⟩ := h
  cases hr : receiveFramedHeader scan c with
  | mk res c' =>
    cases res with
    | error e => simp [hr] at hheader
    | ok a =>
      simp only [hr, Prod.mk.injEq, Except.ok.injEq] at hheader
      obtain ⟨rfl, rfl⟩ := hheader
      obtain ⟨raw, hstream, -, hraw, hrawMax, hdec⟩ := receiveFramedHeader_ok hr
      simp only [Act.andFinally, Prod.mk.injEq] at h
      obtain ⟨rfl, hok, hlen, hbytes, hsha, rest, hrest⟩ :=
        verifyReceived_ok rfl rfl hexp (Prod.ext h.1 rfl)
      refine ⟨⟨raw, rest, ?_, ⟨hraw, hrawMax⟩, (decodeHeader_eq_ok _ _ _).mp hdec,
        (validateKvHeader_eq_ok _ _ _).mpr ⟨rfl, hok⟩, hbytes, hsha⟩, hok⟩
      rw [hstream, hrest, frameHead, hlen]
      simp only [List.append_assoc]

/-- A header that is accepted, followed by the payload it announces, passes. -/
theorem verifyReceived_returns {r : Receiver} {c : Conn} {start : Int} {header : Fields}
    {payload rest : Bytes} {ms : PyFloat} {expected : ExpectedKv} (hc : r.connection = some c)
    (hs : r.receiveStartNs = some start) (hopen : c.closed = false) (hfault : c.faultless = true)
    (hstream : c.stream = payload ++ rest)
    (hexp : expectedKv sha256 args promptIds info = .ok expected) (hok : HeaderOk expected header)
    (hbytes : get header "payload_bytes" = .int payload.length)
    (hsha : get header "payload_sha256" = .str (sha256 payload))
    (hms : elapsedMs start (clock 1) = .ok ms) :
    ∃ r', verifyReceived sha256 clock args promptIds info header payload.length r =
      (.ok (header, payload, ms), r') := by
  obtain ⟨c', hrecv, -⟩ := recvExact_append hopen hfault hstream
  refine ⟨{ r with connection := some c' }, ?_⟩
  have hvalid := (hok.validatePayload payload ()).mpr ⟨hbytes, hsha⟩
  simp only [verifyReceived, Act.bind_run_ok, Act.call_run_ok, Act.raiseIf_run_ok, Act.pure_run_ok]
  refine ⟨expected, r, ⟨hexp, rfl⟩, header, r, ⟨(validateKvHeader_eq_ok _ _ _).mpr ⟨rfl, hok⟩, rfl⟩,
    (), r, ⟨?_, rfl⟩, (payload, ms), _, ?_, (), _, ⟨hvalid, rfl⟩, rfl, rfl⟩
  · rw [hbytes]
    simp [pyEq, numEq, asInt]
  · rw [Receiver.receivePayload_run hc hs, hrecv, hms]
    rfl

/-- A verified frame is received, however its bytes arrive. -/
theorem receiveVerified_frame {c : Conn} {raw payload rest : Bytes} {header : Fields}
    {ms : PyFloat} {expected : ExpectedKv} (hopen : c.closed = false) (hfault : c.faultless = true)
    (hstream : c.stream = frame raw payload ++ rest) (hraw : 1 ≤ raw.length)
    (hrawMax : raw.length ≤ MAX_HEADER_BYTES) (hpay : 1 ≤ payload.length)
    (hpayMax : payload.length ≤ MAX_PAYLOAD_BYTES) (hdec : decodeHeader scan raw = .ok header)
    (hexp : expectedKv sha256 args promptIds info = .ok expected) (hok : HeaderOk expected header)
    (hbytes : get header "payload_bytes" = .int payload.length)
    (hsha : get header "payload_sha256" = .str (sha256 payload))
    (hms : elapsedMs (clock 0) (clock 1) = .ok ms) :
    ∃ r', receiveVerified sha256 scan clock args promptIds info (.listening (.ok c)) =
      (.ok (header, payload, ms), r') := by
  rw [frame, List.append_assoc] at hstream
  obtain ⟨c', hhead, hrest, hopen', hfault'⟩ := receiveFramedHeader_frameHead hopen hfault hstream
    hraw hrawMax hdec hpay hpayMax
  obtain ⟨r', hverify⟩ := verifyReceived_returns (r := ⟨.ok c, some c', some (clock 0), []⟩) rfl rfl
    hopen' hfault' hrest hexp hok hbytes hsha hms
  refine ⟨r'.closeConnection, ?_⟩
  simp only [receiveVerified, Act.bind_run, Receiver.receiveHeader_run, hhead, Act.andFinally,
    hverify]

/-- `run_decode` raises while receiving, or it calls `unpack` once and touches the
connection no more. -/
theorem runDecode_cases (sha256 : Bytes → String) (scan : Scanner) (clock : Nat → Int)
    (args : Args) (promptIds : List Int) (runtime : ModelRuntime κ) (r : Receiver) :
    (∃ e r', receiveVerified sha256 scan clock args promptIds runtime.info r = (.error e, r') ∧
      runDecode sha256 scan clock args promptIds runtime r = (.error e, r')) ∨
    ∃ header payload ms r',
      receiveVerified sha256 scan clock args promptIds runtime.info r =
        (.ok (header, payload, ms), r') ∧
      runDecode sha256 scan clock args promptIds runtime r =
        (runtime.unpack payload (get header "tensors") >>=
            decodeEvent sha256 args promptIds runtime header payload ms,
          { r' with unpacked := r'.unpacked ++ [(payload, get header "tensors")] }) := by
  cases hv : receiveVerified sha256 scan clock args promptIds runtime.info r with
  | mk res r' =>
    cases res with
    | error e => exact .inl ⟨e, r', rfl, by simp [runDecode, Act.bind_run, hv]⟩
    | ok a =>
      obtain ⟨header, payload, ms⟩ := a
      refine .inr ⟨header, payload, ms, r', rfl, ?_⟩
      simp only [runDecode, callUnpack, Act.bind_run, hv, Act.modify_run, Act.call_run]
      cases hu : runtime.unpack payload (get header "tensors") <;> rfl

theorem GateOpen.of_truncated {expected : ExpectedKv} {stream raw payload payload' : Bytes}
    {h h' : Fields} (hv : Verified sha256 scan expected raw payload h)
    (hle : stream <+: frame raw payload) (ho : GateOpen sha256 scan expected stream payload' h') :
    stream = frame raw payload := by
  have hbound : ∀ {raw payload : Bytes} {h : Fields}, Verified sha256 scan expected raw payload h →
      raw.length < 2 ^ 64 ∧ payload.length < 2 ^ 64 := by
    intro raw payload h hv
    obtain ⟨-, hok⟩ := (validateKvHeader_eq_ok _ _ _).mp hv.accepted
    obtain ⟨ts, -, -, -, n, hn, -, -, hmax⟩ := hok.table
    have hlen := hv.payloadBytes
    rw [hn] at hlen
    cases hlen
    have hraw := hv.headerBytes.2
    simp only [MAX_PAYLOAD_BYTES] at hmax
    omega
  obtain ⟨raw', rest, rfl, hv'⟩ := ho
  have hframe : packQ raw'.length ++ raw' ++ packQ payload'.length ++ payload' ++ rest =
      frame raw' payload' ++ rest := by simp [frame, frameHead]
  rw [hframe] at hle ⊢
  exact frame_prefix_free (hbound hv).1 (hbound hv').1 (hbound hv).2 (hbound hv').2 hle

/-- Nothing but a completely verified frame reaches `unpack`, and the accepted
connection is closed on every path. -/
theorem runDecode_gated (sha256 : Bytes → String) (scan : Scanner) (clock : Nat → Int)
    (args : Args) (promptIds : List Int) (runtime : ModelRuntime κ) (stream : Bytes)
    (arrivals : List Arrival) :
    ∃ expected, expectedKv sha256 args promptIds runtime.info = .ok expected ∧
      Gated sha256 scan expected stream (runDecode sha256 scan clock args promptIds runtime
        (.listening (.ok (.fresh stream arrivals)))) := by
  have hexp := expectedKv_ok sha256 args promptIds runtime.info
  refine ⟨_, hexp, ?_⟩
  obtain ⟨⟨c, hc, hcl⟩, hnone⟩ := receiveVerified_closed sha256 scan clock args promptIds
    runtime.info (.fresh stream arrivals)
  obtain ⟨e, r', hv, hrun⟩ | ⟨header, payload, ms, r', hv, hrun⟩ := runDecode_cases sha256 scan
    clock args promptIds runtime (.listening (.ok (.fresh stream arrivals)))
  · rw [hv] at hc hnone
    simp only at hc hnone
    rw [hrun]
    exact ⟨by simp [hnone], by simp [hnone], fun _ => ⟨⟨e, rfl⟩, hnone⟩,
      fun _ _ _ _ _ _ => ⟨⟨e, rfl⟩, hnone⟩, c, hc, hcl⟩
  · obtain ⟨hopen, hok⟩ := receiveVerified_ok hexp hv
    rw [hv] at hc hnone
    simp only at hc hnone
    rw [hrun]
    refine ⟨by simp [hnone], fun p t hmem => ?_, fun hno => absurd ⟨payload, header, hopen⟩ hno,
      fun raw p h hver hle hne => absurd (hopen.of_truncated hver hle) hne, c, hc, hcl⟩
    simp only [hnone, List.nil_append, List.mem_singleton, Prod.mk.injEq] at hmem
    obtain ⟨rfl, rfl⟩ := hmem
    obtain ⟨ts, n, slices, hts, hn, hnames, htiles⟩ := hok.tiles
    obtain ⟨raw, rest, hstream, hver⟩ := hopen
    have hlen := hver.payloadBytes
    rw [hn] at hlen
    cases hlen
    exact ⟨header, ⟨raw, rest, hstream, hver⟩, rfl, ts, slices, hts, hnames, htiles⟩

end Gate

end ServerlessX.Workload
