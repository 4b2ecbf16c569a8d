import ServerlessX.Workload.Event
import ServerlessX.Workload.Export

/-! The three roles: the reference run, the prefill side that sends its cache and
the decode side that receives it. -/
namespace ServerlessX.Workload
open ServerlessX.Py ServerlessX.Py.Json

structure PrefillOutput (κ : Type) where
  firstTokenId : Int
  cache : κ
  gpuMs : PyFloat

structure DecodeOutput where
  tokenIds : List Int
  gpuMs : PyFloat
  itlMs : List PyFloat

/-- A deterministic model runtime with caches in `κ`. -/
structure ModelRuntime (κ : Type) where
  info : ModelInfo
  modelLoadMs : PyFloat
  prefill : List Int → Except Error (PrefillOutput κ)
  pack : κ → Int → Except Error PackedKv
  unpack : Bytes → Json → Except Error (κ × PyFloat)
  decode : κ → Int → Int → Except Error DecodeOutput

/-- `except (OSError, TimeoutError) as exc: raise WorkloadError(...)`. -/
def transportError (label : String) (e : Error) : Error :=
  if e.cls = .builtin .osError then ⟨.workloadError, .text label :: e.message⟩ else e

/-- The connection a `TcpSender` makes. -/
structure Link where
  refused : Option String
  wire : Wire
  closed : Bool

def createConnection : Act Link Error Unit := fun l =>
  match l.refused with
  | some text => (.error (osError text), l)
  | none => (.ok (), l)

/-- `TcpSender.send`; `clock i` is its `i`-th reading of the clock. -/
def send (clock : Nat → Int) (header : Fields) (payload : Bytes) : Act Link Error PyFloat := do
  Act.onRaise (do
    createConnection
    Act.andFinally (Act.zoom (·.wire) (fun w l => { l with wire := w }) (sendFramed header payload))
      fun l => { l with closed := true })
    fun e => Act.raise (transportError "TCP KV send failed: " e)
  Act.call (elapsedMs (clock 0) (clock 1))

/-- The `TcpReceiver` of the decode side, with the calls of `runtime.unpack` made
so far. -/
structure Receiver where
  backlog : Except String Conn
  connection : Option Conn
  receiveStartNs : Option Int
  unpacked : List (Bytes × Json)

namespace Receiver

def listening (backlog : Except String Conn) : Receiver := ⟨backlog, none, none, []⟩

def accept : Act Receiver Error Unit := fun r =>
  match r.backlog with
  | .error text => (.error (osError text), r)
  | .ok c => (.ok (), { r with connection := some c })

def onConnection {α : Type} (x : Act Conn Error α) : Act Receiver Error α := fun r =>
  match r.connection with
  | none => (.error (osError "[Errno 107] Transport endpoint is not connected"), r)
  | some c => ((x c).1, { r with connection := some (x c).2 })

/-- `if connection is not None: connection.close()`. -/
def closeConnection (r : Receiver) : Receiver := { r with connection := r.connection.map Conn.close }

def receiveHeader (scan : Scanner) (clock : Nat → Int) : Act Receiver Error (Fields × Nat) :=
  Act.onRaise (do
    accept
    Act.modify fun r => { r with receiveStartNs := some (clock 0) }
    onConnection (receiveFramedHeader scan))
    fun e => do
      Act.modify closeConnection
      Act.raise (transportError "TCP KV receive failed: " e)

def receivePayload (clock : Nat → Int) (expectedBytes : Nat) :
    Act Receiver Error (Bytes × PyFloat) := do
  let r ← Act.read
  match r.receiveStartNs with
  | none => Act.raise (workloadError "receive_payload called before receive_header")
  | some start =>
    let payload ← Act.onRaise (onConnection (recvExact expectedBytes)) fun e =>
      Act.raise (transportError "TCP KV receive failed: " e)
    let ms ← Act.call (elapsedMs start (clock 1))
    return (payload, ms)

end Receiver

section Roles
variable {κ : Type} (sha256 : Bytes → String)

/-- `_expected`. -/
def expectedKv (args : Args) (promptIds : List Int) (info : ModelInfo) : Except Error ExpectedKv := do
  let promptDigest ← tokenDigest sha256 (promptIds.map .int)
  return ⟨args.modelId, args.modelSha256, args.tokenizerSha256, args.requestId, args.epoch,
    promptIds.length, promptDigest, args.outputTokens, info⟩

def requireFloats (values : List PyFloat) (field : String) : Except Error (List PyFloat) :=
  values.mapM fun value => requireFloat (.float value) field

/-- What `run_reference` fills in. -/
def referenceEntries (prefillMs decodeMs : PyFloat) (itlMs : List PyFloat) (firstTokenId : Int)
    (tokenIds : List Int) (tokenDigest : String) : Fields :=
  [("prefill_gpu_ms", .float prefillMs), ("decode_gpu_ms", .float decodeMs),
    ("decode_itl_ms", .list (itlMs.map .float)), ("first_token_id", .int firstTokenId),
    ("token_ids", .list (tokenIds.map .int)), ("token_digest_sha256", .str tokenDigest)]

def referenceResult (args : Args) (promptIds : List Int) (runtime : ModelRuntime κ)
    (prefill : PrefillOutput κ) (decode : DecodeOutput) : Except Error Fields := do
  let base ← baseResult sha256 args promptIds runtime.info runtime.modelLoadMs .reference
  let prefillMs ← requireFloat (.float prefill.gpuMs) "prefill_gpu_ms"
  let decodeMs ← requireFloat (.float decode.gpuMs) "decode_gpu_ms"
  let itlMs ← requireFloats decode.itlMs "decode_itl_ms"
  let tokenDigest ← tokenDigest sha256 (decode.tokenIds.map .int)
  return Dict.update base (referenceEntries prefillMs decodeMs itlMs prefill.firstTokenId
    decode.tokenIds tokenDigest)

def runReference (args : Args) (promptIds : List Int) (runtime : ModelRuntime κ) :
    Except Error Fields := do
  let prefill ← runtime.prefill promptIds
  let decode ← runtime.decode prefill.cache prefill.firstTokenId args.outputTokens
  let result ← referenceResult sha256 args promptIds runtime prefill decode
  validateResultEvent sha256 result args.outputTokens
  return result

/-- What the prefill side acts on. -/
structure Outside where
  fs : Fs
  link : Link

def exportRequested (paths : Paths) (args : Args) (header : Fields) (payload : Bytes) :
    Act Fs Error Unit :=
  match args.exportKv with
  | none => return
  | some path =>
    exportKv sha256 paths path (args.exportKvHeader.getD (path ++ ".json")) header payload

/-- What `run_prefill` fills in. -/
def prefillEntries (prefillMs packMs d2hMs tcpMs : PyFloat) (firstTokenId : Int)
    (tokenDigest headerSha256 : String) (payloadBytes : Nat) (payloadSha256 : Json) : Fields :=
  [("prefill_gpu_ms", .float prefillMs), ("pack_ms", .float packMs), ("d2h_ms", .float d2hMs),
    ("tcp_ms", .float tcpMs), ("first_token_id", .int firstTokenId),
    ("token_ids", .list ([firstTokenId].map .int)), ("token_digest_sha256", .str tokenDigest),
    ("kv_header_sha256", .str headerSha256), ("kv_payload_bytes", .int payloadBytes),
    ("kv_payload_sha256", payloadSha256)]

def prefillResult (args : Args) (promptIds : List Int) (runtime : ModelRuntime κ)
    (prefill : PrefillOutput κ) (packed : PackedKv) (header : Fields) (tcpMs : PyFloat) :
    Except Error Fields := do
  let base ← baseResult sha256 args promptIds runtime.info runtime.modelLoadMs .prefill
  let prefillMs ← requireFloat (.float prefill.gpuMs) "prefill_gpu_ms"
  let packMs ← requireFloat (.float packed.packMs) "pack_ms"
  let d2hMs ← requireFloat (.float packed.d2hMs) "d2h_ms"
  let tcpMs ← requireFloat (.float tcpMs) "tcp_ms"
  let tokenDigest ← tokenDigest sha256 ([prefill.firstTokenId].map .int)
  let rawHeader ← canonicalJsonBytes (.obj header)
  return Dict.update base (prefillEntries prefillMs packMs d2hMs tcpMs prefill.firstTokenId
    tokenDigest (sha256 rawHeader) packed.payload.length (get header "payload_sha256"))

/-- The rest of `run_prefill`, once the cache is sent. -/
def prefillEvent (args : Args) (promptIds : List Int) (runtime : ModelRuntime κ)
    (prefill : PrefillOutput κ) (packed : PackedKv) (header : Fields) (tcpMs : PyFloat) :
    Except Error Fields := do
  let result ← prefillResult sha256 args promptIds runtime prefill packed header tcpMs
  validateResultEvent sha256 result args.outputTokens
  return result

def runPrefill (paths : Paths) (clock : Nat → Int) (args : Args) (promptIds : List Int)
    (runtime : ModelRuntime κ) : Act Outside Error Fields := do
  let prefill ← Act.call (runtime.prefill promptIds)
  let packed ← Act.call (runtime.pack prefill.cache promptIds.length)
  let expected ← Act.call (expectedKv sha256 args promptIds runtime.info)
  let header ← Act.call (buildKvHeader sha256 expected packed prefill.firstTokenId)
  Act.zoom (·.fs) (fun fs o => { o with fs := fs })
    (exportRequested sha256 paths args header packed.payload)
  let tcpMs ← Act.zoom (·.link) (fun l o => { o with link := l }) (send clock header packed.payload)
  Act.call (prefillEvent sha256 args promptIds runtime prefill packed header tcpMs)

/-- `header["first_token_id"]`, an integer since the header was validated. -/
def firstTokenOf (header : Fields) : Except Error Int :=
  match get header "first_token_id" with
  | .int t => .ok t
  | _ => .error (builtinError .typeError "first_token_id is not an integer")

/-- What `run_decode` fills in. -/
def decodeEntries (tcpMs h2dMs decodeMs : PyFloat) (itlMs : List PyFloat) (firstTokenId : Json)
    (tokenIds : List Int) (tokenDigest headerSha256 : String) (payloadBytes : Nat)
    (payloadSha256 : Json) : Fields :=
  [("tcp_ms", .float tcpMs), ("h2d_ms", .float h2dMs), ("decode_gpu_ms", .float decodeMs),
    ("decode_itl_ms", .list (itlMs.map .float)), ("first_token_id", firstTokenId),
    ("token_ids", .list (tokenIds.map .int)), ("token_digest_sha256", .str tokenDigest),
    ("kv_header_sha256", .str headerSha256), ("kv_payload_bytes", .int payloadBytes),
    ("kv_payload_sha256", payloadSha256)]

def decodeResult (args : Args) (promptIds : List Int) (runtime : ModelRuntime κ) (header : Fields)
    (payload : Bytes) (tcpMs h2dMs : PyFloat) (decode : DecodeOutput) : Except Error Fields := do
  let base ← baseResult sha256 args promptIds runtime.info runtime.modelLoadMs .decode
  let tcpMs ← requireFloat (.float tcpMs) "tcp_ms"
  let h2dMs ← requireFloat (.float h2dMs) "h2d_ms"
  let decodeMs ← requireFloat (.float decode.gpuMs) "decode_gpu_ms"
  let itlMs ← requireFloats decode.itlMs "decode_itl_ms"
  let tokenDigest ← tokenDigest sha256 (decode.tokenIds.map .int)
  let rawHeader ← canonicalJsonBytes (.obj header)
  return Dict.update base (decodeEntries tcpMs h2dMs decodeMs itlMs (get header "first_token_id")
    decode.tokenIds tokenDigest (sha256 rawHeader) payload.length (get header "payload_sha256"))

/-- What `run_decode` does on a connection that delivered a header. -/
def verifyReceived (clock : Nat → Int) (args : Args) (promptIds : List Int) (info : ModelInfo)
    (header : Fields) (framedPayloadBytes : Nat) : Act Receiver Error (Fields × Bytes × PyFloat) := do
  let expected ← Act.call (expectedKv sha256 args promptIds info)
  let _ ← Act.call (validateKvHeader (.obj header) expected)
  Act.raiseIf (!pyEq (.int framedPayloadBytes) (get header "payload_bytes"))
    (workloadError "framed payload length does not match the validated KV header")
  let (payload, tcpMs) ← Receiver.receivePayload clock framedPayloadBytes
  Act.call (validatePayload sha256 header payload)
  return (header, payload, tcpMs)

/-- The guarded part of `run_decode`. Its `finally` closes the connection only
once `receive_header` has returned it. -/
def receiveVerified (scan : Scanner) (clock : Nat → Int) (args : Args) (promptIds : List Int)
    (info : ModelInfo) : Act Receiver Error (Fields × Bytes × PyFloat) := do
  let (header, framedPayloadBytes) ← Receiver.receiveHeader scan clock
  Act.andFinally (verifyReceived sha256 clock args promptIds info header framedPayloadBytes)
    Receiver.closeConnection

def callUnpack (runtime : ModelRuntime κ) (payload : Bytes) (tensors : Json) :
    Act Receiver Error (κ × PyFloat) := do
  Act.modify fun r => { r with unpacked := r.unpacked ++ [(payload, tensors)] }
  Act.call (runtime.unpack payload tensors)

/-- The rest of `run_decode`, once the cache is rebuilt. -/
def decodeEvent (args : Args) (promptIds : List Int) (runtime : ModelRuntime κ) (header : Fields)
    (payload : Bytes) (tcpMs : PyFloat) (unpacked : κ × PyFloat) : Except Error Fields := do
  let firstToken ← firstTokenOf header
  let decode ← runtime.decode unpacked.1 firstToken args.outputTokens
  let result ← decodeResult sha256 args promptIds runtime header payload tcpMs unpacked.2 decode
  validateResultEvent sha256 result args.outputTokens
  return result

def runDecode (scan : Scanner) (clock : Nat → Int) (args : Args) (promptIds : List Int)
    (runtime : ModelRuntime κ) : Act Receiver Error Fields := do
  let (header, payload, tcpMs) ← receiveVerified sha256 scan clock args promptIds runtime.info
  let unpacked ← callUnpack runtime payload (get header "tensors")
  Act.call (decodeEvent sha256 args promptIds runtime header payload tcpMs unpacked)

end Roles

/-! ### The events of the roles -/

theorem requireFloats_eq_ok (xs ys : List PyFloat) (field : String) :
    requireFloats xs field = .ok ys ↔ ys = xs ∧ ∀ x ∈ xs, isTiming x = true := by
  rw [requireFloats, mapM_eq_ok]
  simp only [requireFloat_float]
  refine ⟨fun h => ?_, fun ⟨h, hall⟩ => ?_⟩
  · induction h with
    | nil => simp
    | cons hx _ ih =>
      obtain ⟨rfl, hall⟩ := ih
      exact ⟨by rw [hx.1], List.forall_mem_cons.mpr ⟨hx.2, hall⟩⟩
  · subst h
    exact List.forall₂_same.mpr fun x hx => ⟨rfl, hall x hx⟩

section Events
variable {κ : Type} {sha256 : Bytes → String} {args : Args} {promptIds : List Int}
  {runtime : ModelRuntime κ}

/-- What a reference result says about the run behind it. -/
structure ReferenceRun (sha256 : Bytes → String) (args : Args) (promptIds : List Int)
    (runtime : ModelRuntime κ) (ref : Fields) (prefill : PrefillOutput κ) (d : DecodeOutput) :
    Prop where
  prefilled : runtime.prefill promptIds = .ok prefill
  decoded : runtime.decode prefill.cache prefill.firstTokenId args.outputTokens = .ok d
  modelSha : Contract.isSha256 args.modelSha256 = true
  tokenizerSha : Contract.isSha256 args.tokenizerSha256 = true
  promptSha : Contract.isSha256 (sha256 (tokenText promptIds)) = true
  count : (d.tokenIds.length : Int) = args.outputTokens
  nonneg : ∀ i ∈ d.tokenIds, 0 ≤ i
  head : d.tokenIds.head? = some prefill.firstTokenId
  itl : (d.itlMs.length : Int) = args.outputTokens - 1
  firstToken : get ref "first_token_id" = .int prefill.firstTokenId
  tokens : get ref "token_ids" = .list (d.tokenIds.map .int)
  digest : get ref "token_digest_sha256" = .str (sha256 (tokenText d.tokenIds))

theorem referenceEntries_keys (prefillMs decodeMs : PyFloat) (itlMs : List PyFloat)
    (firstTokenId : Int) (tokenIds : List Int) (digest : String) :
    let keys := (referenceEntries prefillMs decodeMs itlMs firstTokenId tokenIds digest).map Prod.fst
    keys.Nodup ∧ ∀ k ∈ keys, k ∈ FILLED_KEYS := by
  simp [referenceEntries, FILLED_KEYS]

theorem runReference_ok {ref : Fields}
    (h : runReference sha256 args promptIds runtime = .ok ref) :
    ∃ prefill d, ReferenceRun sha256 args promptIds runtime ref prefill d := by
  simp only [runReference, referenceResult, bind_eq_ok, baseResult_eq_ok, requireFloat_float,
    requireFloats_eq_ok, tokenDigest_ints, pure, Except.pure, Except.ok.injEq] at h
  obtain ⟨prefill, hprefill, d, hd, _, ⟨_, ⟨-, rfl⟩, _, ⟨rfl, -⟩, _, ⟨rfl, -⟩, _, ⟨rfl, -⟩, _, rfl,
    rfl⟩, _, hvalid, rfl⟩ := h
  obtain ⟨hn, hsub⟩ := referenceEntries_keys prefill.gpuMs d.gpuMs d.itlMs prefill.firstTokenId
    d.tokenIds (sha256 (tokenText d.tokenIds))
  obtain ⟨hmodel, htokenizer, hprompt, htokens, htimings, -⟩ :=
    (validateResultEvent_filled hn hsub _).mp hvalid
  set event := Dict.update (baseFields args promptIds.length (sha256 (tokenText promptIds))
    runtime.info runtime.modelLoadMs .reference) (referenceEntries prefill.gpuMs d.gpuMs d.itlMs
      prefill.firstTokenId d.tokenIds (sha256 (tokenText d.tokenIds)))
  have hfirst : get event "first_token_id" = .int prefill.firstTokenId :=
    get_update_of_mem _ hn (by simp [referenceEntries])
  have hids : get event "token_ids" = .list (d.tokenIds.map .int) :=
    get_update_of_mem _ hn (by simp [referenceEntries])
  have hdigest : get event "token_digest_sha256" = .str (sha256 (tokenText d.tokenIds)) :=
    get_update_of_mem _ hn (by simp [referenceEntries])
  have hitl : get event "decode_itl_ms" = .list (d.itlMs.map .float) :=
    get_update_of_mem _ hn (by simp [referenceEntries])
  obtain ⟨hcount, hnonneg, hhead⟩ := (validateTokens_ints hids hfirst hdigest _).mp htokens
  obtain ⟨itl, hitl', hlen⟩ := validateTimings_itl htimings
  rw [hitl] at hitl'
  cases hitl'
  exact ⟨prefill, d, hprefill, hd, hmodel, htokenizer, hprompt, by simpa using hcount, hnonneg, hhead,
    by simpa using hlen, hfirst, hids, hdigest⟩

theorem prefillEntries_transfer (sha256 : Bytes → String) (n : Int) (raw payload : Bytes)
    {prefillMs packMs d2hMs tcpMs : PyFloat} {t : Int} (hprefill : isTiming prefillMs = true)
    (hpack : isTiming packMs = true) (hd2h : isTiming d2hMs = true) (htcp : isTiming tcpMs = true)
    (ht : 0 ≤ t) :
    TransferEntries sha256 (prefillEntries prefillMs packMs d2hMs tcpMs t (sha256 (tokenText [t]))
      (sha256 raw) payload.length (.str (sha256 payload))) .prefill n [t] [] raw payload where
  nodup := by simp [prefillEntries]
  filled := by simp [prefillEntries, FILLED_KEYS]
  first := ⟨t, rfl, by simp [prefillEntries]⟩
  tokens := by simp [prefillEntries]
  digest := by simp [prefillEntries]
  count := rfl
  nonneg := by simpa using ht
  itlMs := by simp [prefillEntries, List.lookup_cons]
  itlCount := rfl
  itlTimings := by simp
  required := by simp [requiredTimings, prefillEntries, hprefill, hpack, hd2h, htcp]
  others := by simp [TIMING_KEYS, requiredTimings, prefillEntries]
  header := by simp [prefillEntries]
  bytes := by simp [prefillEntries]
  payloadSha := by simp [prefillEntries]

theorem decodeEntries_transfer (sha256 : Bytes → String) (raw payload : Bytes)
    {tcpMs h2dMs decodeMs : PyFloat} {itlMs : List PyFloat} {t n : Int} {ids : List Int}
    (htcp : isTiming tcpMs = true)
    (hh2d : isTiming h2dMs = true) (hdecode : isTiming decodeMs = true)
    (hitl : ∀ x ∈ itlMs, isTiming x = true) (hitlCount : (itlMs.length : Int) = n - 1)
    (hcount : (ids.length : Int) = n) (hnonneg : ∀ i ∈ ids, 0 ≤ i) (hhead : ids.head? = some t) :
    TransferEntries sha256 (decodeEntries tcpMs h2dMs decodeMs itlMs (.int t) ids
      (sha256 (tokenText ids)) (sha256 raw) payload.length (.str (sha256 payload))) .decode n ids
      itlMs raw payload where
  nodup := by simp [decodeEntries]
  filled := by simp [decodeEntries, FILLED_KEYS]
  first := ⟨t, hhead, by simp [decodeEntries]⟩
  tokens := by simp [decodeEntries]
  digest := by simp [decodeEntries]
  count := hcount
  nonneg := hnonneg
  itlMs := by simp [decodeEntries, List.lookup_cons]
  itlCount := hitlCount
  itlTimings := hitl
  required := by simp [requiredTimings, decodeEntries, htcp, hh2d, hdecode]
  others := by simp [TIMING_KEYS, requiredTimings, decodeEntries]
  header := by simp [decodeEntries]
  bytes := by simp [decodeEntries]
  payloadSha := by simp [decodeEntries]

/-- The transfer fields of a result. -/
structure TransferDigests (sha256 : Bytes → String) (event : Fields) (raw payload : Bytes) :
    Prop where
  header : get event "kv_header_sha256" = .str (sha256 raw)
  bytes : get event "kv_payload_bytes" = .int payload.length
  payload : get event "kv_payload_sha256" = .str (sha256 payload)

theorem TransferDigests.of_entries {base entries : Fields} {role : Role} {n : Int} {ids : List Int}
    {itl : List PyFloat} {raw payload : Bytes}
    (h : TransferEntries sha256 entries role n ids itl raw payload) :
    TransferDigests sha256 (Dict.update base entries) raw payload :=
  ⟨get_update_of_mem _ h.nodup h.header, get_update_of_mem _ h.nodup h.bytes,
    get_update_of_mem _ h.nodup h.payloadSha⟩

theorem prefillEvent_ok (promptIds : List Int) (runtime : ModelRuntime κ)
    (hsha : ∀ b, Contract.isSha256 (sha256 b) = true)
    {prefill : PrefillOutput κ} {packed : PackedKv} {header : Fields} {tcpMs : PyFloat}
    {raw : Bytes} (hmodel : Contract.isSha256 args.modelSha256 = true)
    (htokenizer : Contract.isSha256 args.tokenizerSha256 = true)
    (hload : isTiming runtime.modelLoadMs = true) (hprefillMs : isTiming prefill.gpuMs = true)
    (hpackMs : isTiming packed.packMs = true) (hd2hMs : isTiming packed.d2hMs = true)
    (htcpMs : isTiming tcpMs = true) (hfirst : 0 ≤ prefill.firstTokenId)
    (hraw : canonicalJsonBytes (.obj header) = .ok raw) (hpay : 1 ≤ packed.payload.length)
    (hdigest : get header "payload_sha256" = .str (sha256 packed.payload)) :
    ∃ event, prefillEvent sha256 args promptIds runtime prefill packed header tcpMs = .ok event ∧
      TransferDigests sha256 event raw packed.payload := by
  have hentries := prefillEntries_transfer sha256 args.outputTokens raw packed.payload hprefillMs
    hpackMs hd2hMs htcpMs hfirst
  refine ⟨Dict.update (baseFields args promptIds.length (sha256 (tokenText promptIds)) runtime.info
    runtime.modelLoadMs .prefill) _, ?_, .of_entries hentries⟩
  simp only [prefillEvent, prefillResult, bind_eq_ok, baseResult_eq_ok, requireFloat_float,
    tokenDigest_ints, hraw, hdigest, pure, Except.pure, Except.ok.injEq, exists_eq_left']
  exact ⟨_, ⟨_, ⟨hload, rfl⟩, _, ⟨rfl, hprefillMs⟩, _, ⟨rfl, hpackMs⟩, _, ⟨rfl, hd2hMs⟩, _,
    ⟨rfl, htcpMs⟩, rfl⟩, (), hentries.valid rfl hsha hmodel htokenizer (hsha _) hload hpay, rfl⟩

theorem decodeEvent_ok (promptIds : List Int) (runtime : ModelRuntime κ)
    (hsha : ∀ b, Contract.isSha256 (sha256 b) = true) {header : Fields}
    {payload raw : Bytes} {tcpMs : PyFloat} {unpacked : κ × PyFloat} {t : Int} {d : DecodeOutput}
    (hmodel : Contract.isSha256 args.modelSha256 = true)
    (htokenizer : Contract.isSha256 args.tokenizerSha256 = true)
    (hload : isTiming runtime.modelLoadMs = true) (htcpMs : isTiming tcpMs = true)
    (hh2dMs : isTiming unpacked.2 = true) (hdecodeMs : isTiming d.gpuMs = true)
    (hitl : ∀ x ∈ d.itlMs, isTiming x = true)
    (hitlCount : (d.itlMs.length : Int) = args.outputTokens - 1)
    (hcount : (d.tokenIds.length : Int) = args.outputTokens) (hnonneg : ∀ i ∈ d.tokenIds, 0 ≤ i)
    (hhead : d.tokenIds.head? = some t) (hfirst : get header "first_token_id" = .int t)
    (hd : runtime.decode unpacked.1 t args.outputTokens = .ok d)
    (hraw : canonicalJsonBytes (.obj header) = .ok raw) (hpay : 1 ≤ payload.length)
    (hdigest : get header "payload_sha256" = .str (sha256 payload)) :
    ∃ event, decodeEvent sha256 args promptIds runtime header payload tcpMs unpacked = .ok event ∧
      TransferDigests sha256 event raw payload ∧ get event "first_token_id" = .int t ∧
      get event "token_ids" = .list (d.tokenIds.map .int) ∧
      get event "token_digest_sha256" = .str (sha256 (tokenText d.tokenIds)) := by
  have hentries := decodeEntries_transfer sha256 raw payload htcpMs hh2dMs hdecodeMs hitl hitlCount
    hcount hnonneg hhead
  have hfirstOf : firstTokenOf header = .ok t := by simp [firstTokenOf, hfirst]
  refine ⟨Dict.update (baseFields args promptIds.length (sha256 (tokenText promptIds)) runtime.info
    runtime.modelLoadMs .decode) _, ?_, .of_entries hentries,
    get_update_of_mem _ hentries.nodup (by simp [decodeEntries]),
    get_update_of_mem _ hentries.nodup hentries.tokens,
    get_update_of_mem _ hentries.nodup hentries.digest⟩
  simp only [decodeEvent, decodeResult, bind_eq_ok, baseResult_eq_ok, requireFloat_float,
    requireFloats_eq_ok, tokenDigest_ints, hfirstOf, hfirst, hd, hraw, hdigest, pure, Except.pure,
    Except.ok.injEq, exists_eq_left']
  exact ⟨_, ⟨_, ⟨hload, rfl⟩, _, ⟨rfl, htcpMs⟩, _, ⟨rfl, hh2dMs⟩, _, ⟨rfl, hdecodeMs⟩, _,
    ⟨rfl, hitl⟩, rfl⟩, (), hentries.valid rfl hsha hmodel htokenizer (hsha _) hload hpay, rfl⟩

end Events

end ServerlessX.Workload
