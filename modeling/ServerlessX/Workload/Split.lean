import ServerlessX.Py.JsonScan
import ServerlessX.Py.Rounding
import ServerlessX.Py.Sha256
import ServerlessX.Workload.Gate

/-! Split execution: a prefill run and a decode run joined by the framed stream
give the tokens of the reference run. -/
namespace ServerlessX.Workload
open ServerlessX.Py ServerlessX.Py.Json

/-- A runtime that can be split: it packs with `pack_legacy_pkv`, reports finite
timings, reads the tensor table by key, and decodes a prefill cache as before
after it was packed and unpacked. The last field includes that such a cache has
the shapes the model declares, since `pack` checks them. -/
structure SplitRuntime (κ δ η : Type) extends ModelRuntime κ where
  legacy : κ → Cache δ
  toHost : Tensor δ → Except Error η
  toLeFp16Bytes : η → Except Error (Option Bytes)
  packClock : Nat → Int
  pack_eq : ∀ cache n,
    pack cache n = packLegacyPkv (legacy cache) n info toHost toLeFp16Bytes packClock
  load_timing : isTiming modelLoadMs = true
  prefill_timing : ∀ {ids out}, prefill ids = .ok out → isTiming out.gpuMs = true
  pack_timing : ∀ {cache n out}, pack cache n = .ok out →
    isTiming out.d2hMs = true ∧ isTiming out.packMs = true
  unpack_timing : ∀ {payload tensors out}, unpack payload tensors = .ok out → isTiming out.2 = true
  decode_timing : ∀ {cache t n out}, decode cache t n = .ok out →
    isTiming out.gpuMs = true ∧ ∀ x ∈ out.itlMs, isTiming x = true
  unpack_same : ∀ payload {tensors tensors'}, Same tensors tensors' →
    unpack payload tensors = unpack payload tensors'
  transparent : ∀ {ids out}, prefill ids = .ok out → ∀ {t n d}, decode out.cache t n = .ok d →
    ∃ packed rebuilt d', pack out.cache ids.length = .ok packed ∧
      unpack packed.payload (.list packed.tensors) = .ok rebuilt ∧
      decode rebuilt.1 t n = .ok d' ∧ d'.tokenIds = d.tokenIds ∧
      d'.itlMs.length = d.itlMs.length

/-- Two argument sets name the same transfer. -/
structure Args.Agrees (a b : Args) : Prop where
  modelId : a.modelId = b.modelId
  modelSha256 : a.modelSha256 = b.modelSha256
  tokenizerSha256 : a.tokenizerSha256 = b.tokenizerSha256
  requestId : a.requestId = b.requestId
  epoch : a.epoch = b.epoch
  outputTokens : a.outputTokens = b.outputTokens

/-- The limits of `send_framed`. -/
def Framable (header : Fields) (payload : Bytes) : Prop :=
  ∃ raw, canonicalJsonBytes (.obj header) = .ok raw ∧
    1 ≤ raw.length ∧ raw.length ≤ MAX_HEADER_BYTES ∧
    1 ≤ payload.length ∧ payload.length ≤ MAX_PAYLOAD_BYTES

instance (header : Fields) (payload : Bytes) : Decidable (Framable header payload) :=
  match h : canonicalJsonBytes (.obj header) with
  | .error _ => isFalse fun ⟨_, hraw, _⟩ => by
      rw [h] at hraw
      cases hraw
  | .ok raw => decidable_of_iff (1 ≤ raw.length ∧ raw.length ≤ MAX_HEADER_BYTES ∧
      1 ≤ payload.length ∧ payload.length ≤ MAX_PAYLOAD_BYTES)
      ⟨fun hlen => ⟨raw, h, hlen⟩, fun ⟨_, hraw, hlen⟩ => by
        rw [h] at hraw
        cases hraw
        exact hlen⟩

/-- The header and the payload the prefill side has to send. -/
def Offers {κ : Type} (sha256 : Bytes → String) (args : Args) (promptIds : List Int)
    (runtime : ModelRuntime κ) (header : Fields) (payload : Bytes) : Prop :=
  ∃ out packed expected, runtime.prefill promptIds = .ok out ∧
    runtime.pack out.cache promptIds.length = .ok packed ∧
    expectedKv sha256 args promptIds runtime.info = .ok expected ∧
    header = kvHeader sha256 expected packed out.firstTokenId ∧ payload = packed.payload

theorem expectedKv_agrees {sha256 : Bytes → String} {a b : Args} (h : a.Agrees b)
    (promptIds : List Int) (info : ModelInfo) :
    expectedKv sha256 a promptIds info = expectedKv sha256 b promptIds info := by
  rw [expectedKv_ok, expectedKv_ok, h.modelId, h.modelSha256, h.tokenizerSha256, h.requestId, h.epoch,
    h.outputTokens]

/-- A duration read from the clock is a finite number of milliseconds. -/
theorem elapsedMs_timing (clock : PerfCounter) :
    ∃ ms, elapsedMs (clock.read 0) (clock.read 1) = .ok ms ∧ isTiming ms = true := by
  have hle := clock.mono 0 1 (by omega)
  have h0 := clock.bounds 0
  have h1 := clock.bounds 1
  have hn0 : 0 ≤ clock.read 1 - clock.read 0 := by omega
  have hn : clock.read 1 - clock.read 0 < 2 ^ 64 := by omega
  obtain ⟨v, hv, hv0, hvle⟩ := PyFloat.ofInt_finite hn0 hn
  have hq0 : 0 ≤ v / 1000000 := by positivity
  have hq : v / 1000000 < 2 ^ 100 := by
    rw [div_lt_iff₀ (by norm_num)]
    linarith
  obtain ⟨w, hw, hw0, -⟩ := PyFloat.round_finite hq0 hq
  refine ⟨.finite w, ?_, ?_⟩
  · simp only [elapsedMs, hv, hw]
  · simp [isTiming, PyFloat.isFinite, PyFloat.toRat?, PyFloat.isNeg, hw0]

theorem send_frame {clock : Nat → Int} {header : Fields} {payload raw : Bytes} {l : Link}
    {ms : PyFloat} (hl : l.refused = none) (hfault : l.wire.faultless = true)
    (hraw : canonicalJsonBytes (.obj header) = .ok raw) (hrawPos : 1 ≤ raw.length)
    (hrawMax : raw.length ≤ MAX_HEADER_BYTES) (hpay : 1 ≤ payload.length)
    (hpayMax : payload.length ≤ MAX_PAYLOAD_BYTES) (hms : elapsedMs (clock 0) (clock 1) = .ok ms) :
    ∃ l', send clock header payload l = (.ok ms, l') ∧
      l'.wire.sent = l.wire.sent ++ frame raw payload := by
  obtain ⟨w, hw, hsent⟩ := sendFramed_frame hfault hraw hrawPos hrawMax hpay hpayMax
  refine ⟨{ l with wire := w, closed := true }, ?_, hsent⟩
  simp [send, Act.bind_run, Act.onRaise, createConnection, hl, Act.andFinally, Act.zoom, hw, hms]

section Split
variable {κ δ η : Type} {runtime : SplitRuntime κ δ η} {sha256 : Bytes → String} {scan : Scanner}

/-- A prefill run that has a header and a payload to send, both within limits. -/
structure Prepared (runtime : SplitRuntime κ δ η) (sha256 : Bytes → String) (args : Args)
    (promptIds : List Int) (out : PrefillOutput κ) (packed : PackedKv) (expected : ExpectedKv)
    (raw : Bytes) : Prop where
  prefilled : runtime.prefill promptIds = .ok out
  packs : runtime.pack out.cache promptIds.length = .ok packed
  expects : expectedKv sha256 args promptIds runtime.info = .ok expected
  accepted : ∀ f, Same (.obj f) (.obj (kvHeader sha256 expected packed out.firstTokenId)) →
    HeaderOk expected f
  firstToken : 0 ≤ out.firstTokenId ∧ out.firstTokenId < expected.modelInfo.vocabSize
  modelSha : Contract.isSha256 args.modelSha256 = true
  tokenizerSha : Contract.isSha256 args.tokenizerSha256 = true
  canonical : canonicalJsonBytes (.obj (kvHeader sha256 expected packed out.firstTokenId)) = .ok raw
  headerBytes : 1 ≤ raw.length ∧ raw.length ≤ MAX_HEADER_BYTES
  payloadBytes : 1 ≤ packed.payload.length ∧ packed.payload.length ≤ MAX_PAYLOAD_BYTES

/-- The prefill side sends the frame of its header and payload and reports them. -/
theorem runPrefill_ok (hsha : ∀ b, Contract.isSha256 (sha256 b) = true) {args : Args}
    {promptIds : List Int} {out : PrefillOutput κ} {packed : PackedKv} {expected : ExpectedKv}
    {raw : Bytes} (h : Prepared runtime sha256 args promptIds out packed expected raw)
    {paths : Paths} (clock : PerfCounter) (outside : Outside)
    (hexport : (exportRequested sha256 paths args
      (kvHeader sha256 expected packed out.firstTokenId) packed.payload outside.fs).1 = .ok ())
    (hl : outside.link.refused = none) (hfault : outside.link.wire.faultless = true) :
    ∃ event outside', runPrefill sha256 paths clock.read args promptIds runtime.toModelRuntime
        outside = (.ok event, outside') ∧
      outside'.link.wire.sent = outside.link.wire.sent ++ frame raw packed.payload ∧
      TransferDigests sha256 event raw packed.payload := by
  obtain ⟨ms, hms, hmsTiming⟩ := elapsedMs_timing clock
  obtain ⟨l, hsend, hsent⟩ := send_frame hl hfault h.canonical h.headerBytes.1 h.headerBytes.2
    h.payloadBytes.1 h.payloadBytes.2 hms
  have hpackMs := runtime.pack_timing h.packs
  obtain ⟨event, hevent, hdigests⟩ := prefillEvent_ok promptIds runtime.toModelRuntime hsha
    h.modelSha h.tokenizerSha runtime.load_timing (runtime.prefill_timing h.prefilled) hpackMs.2
    hpackMs.1 hmsTiming h.firstToken.1 h.canonical h.payloadBytes.1 rfl
  have hbuild := buildKvHeader_eq_ok h.firstToken (h.accepted _ rfl)
  cases hfs : exportRequested sha256 paths args (kvHeader sha256 expected packed out.firstTokenId)
      packed.payload outside.fs with
  | mk r fs =>
    rw [hfs] at hexport
    simp only at hexport
    subst hexport
    refine ⟨event, ⟨fs, l⟩, ?_, hsent, hdigests⟩
    simp only [runPrefill, Act.bind_run, Act.call_run, h.prefilled, h.packs, h.expects, hbuild,
      Act.zoom, hfs, hsend, hevent]

/-- The decode side, fed that frame, decodes the rebuilt cache and reports the
same header and payload. -/
theorem runDecode_ok (hsha : ∀ b, Contract.isSha256 (sha256 b) = true) (hscan : RoundTrips scan)
    {args decodeArgs : Args} {promptIds : List Int} {out : PrefillOutput κ} {packed : PackedKv}
    {expected : ExpectedKv} {raw : Bytes} {rebuilt : κ × PyFloat} {d : DecodeOutput}
    (h : Prepared runtime sha256 args promptIds out packed expected raw)
    (hagrees : decodeArgs.Agrees args) (clock : PerfCounter) (c : Conn) (hopen : c.closed = false)
    (hfault : c.faultless = true) (hstream : c.stream = frame raw packed.payload)
    (hunpack : runtime.unpack packed.payload (.list packed.tensors) = .ok rebuilt)
    (hd : runtime.decode rebuilt.1 out.firstTokenId args.outputTokens = .ok d)
    (hcount : (d.tokenIds.length : Int) = args.outputTokens) (hnonneg : ∀ i ∈ d.tokenIds, 0 ≤ i)
    (hhead : d.tokenIds.head? = some out.firstTokenId)
    (hitl : (d.itlMs.length : Int) = args.outputTokens - 1) :
    ∃ event r, runDecode sha256 scan clock.read decodeArgs promptIds runtime.toModelRuntime
        (.listening (.ok c)) = (.ok event, r) ∧
      TransferDigests sha256 event raw packed.payload ∧
      get event "first_token_id" = .int out.firstTokenId ∧
      get event "token_ids" = .list (d.tokenIds.map .int) ∧
      get event "token_digest_sha256" = .str (sha256 (tokenText d.tokenIds)) := by
  have hexp := h.expects
  rw [expectedKv_ok, Except.ok.injEq] at hexp
  have hpack : packLegacyPkv (runtime.legacy out.cache) expected.promptLength expected.modelInfo
      runtime.toHost runtime.toLeFp16Bytes runtime.packClock = .ok packed := by
    rw [← hexp, ← runtime.pack_eq]
    exact h.packs
  -- the header that arrives has the content of the one that was sent
  obtain ⟨raw', g, hraw', hdec, hg⟩ := decodeHeader_canonical hscan
    (kvHeader_floatFree sha256 out.firstTokenId hpack)
  obtain rfl : raw' = raw := by
    rw [h.canonical] at hraw'
    exact (Except.ok.inj hraw').symm
  have hsame : Same (.obj g) (.obj (kvHeader sha256 expected packed out.firstTokenId)) := by
    rw [Same, hg, norm_norm]
  obtain ⟨-, -, ⟨ts, hts, hentries⟩, hbytes, hdigest, hfirst⟩ := same_kvHeader hsame
  have hrebuilt : runtime.unpack packed.payload (get g "tensors") = .ok rebuilt := by
    rw [hts, runtime.unpack_same packed.payload ((same_list _ _).mpr ⟨ts, rfl, hentries⟩)]
    exact hunpack
  have hraw : canonicalJsonBytes (.obj g) = .ok raw' := by
    rw [canonicalJsonBytes_same hsame]
    exact h.canonical
  obtain ⟨ms, hms, hmsTiming⟩ := elapsedMs_timing clock
  obtain ⟨r, hreceived⟩ := receiveVerified_frame hopen hfault
    (hstream.trans (List.append_nil _).symm) h.headerBytes.1 h.headerBytes.2 h.payloadBytes.1
    h.payloadBytes.2 hdec ((expectedKv_agrees hagrees promptIds runtime.info).trans h.expects)
    (h.accepted g hsame) hbytes hdigest hms
  have hdecodeMs := runtime.decode_timing hd
  have hmodel := h.modelSha
  have htokenizer := h.tokenizerSha
  rw [← hagrees.modelSha256] at hmodel
  rw [← hagrees.tokenizerSha256] at htokenizer
  rw [← hagrees.outputTokens] at hitl hcount hd
  obtain ⟨event, hevent, hrest⟩ := decodeEvent_ok promptIds runtime.toModelRuntime hsha hmodel
    htokenizer runtime.load_timing hmsTiming (runtime.unpack_timing hunpack) hdecodeMs.1 hdecodeMs.2
    hitl hcount hnonneg hhead hfirst hd hraw h.payloadBytes.1 hdigest
  obtain ⟨e, r', hv, -⟩ | ⟨header, payload, ms', r', hv, hrun⟩ := runDecode_cases sha256 scan
    clock.read decodeArgs promptIds runtime.toModelRuntime (.listening (.ok c))
  · rw [hreceived] at hv
    cases hv
  · rw [hreceived] at hv
    cases hv
    rw [hrebuilt] at hrun
    exact ⟨event, _, hrun.trans (Prod.ext hevent rfl), hrest⟩

/-- After a reference run that fits the limits, the prefill side is prepared. -/
theorem Prepared.of_reference (hsha : ∀ b, Contract.isSha256 (sha256 b) = true)
    {refArgs args : Args} (hagrees : args.Agrees refArgs) {promptIds : List Int} {ref : Fields}
    {out : PrefillOutput κ} {d : DecodeOutput} {packed : PackedKv}
    (hrun : ReferenceRun sha256 refArgs promptIds runtime.toModelRuntime ref out d)
    (hpacks : runtime.pack out.cache promptIds.length = .ok packed)
    (hvocab : out.firstTokenId < runtime.info.vocabSize)
    (hsize : ∀ header payload, Offers sha256 args promptIds runtime.toModelRuntime header payload →
      Framable header payload) :
    ∃ expected raw, Prepared runtime sha256 args promptIds out packed expected raw ∧
      Offers sha256 args promptIds runtime.toModelRuntime
        (kvHeader sha256 expected packed out.firstTokenId) packed.payload := by
  have hexpects := expectedKv_ok sha256 args promptIds runtime.info
  have hoffers : Offers sha256 args promptIds runtime.toModelRuntime _ packed.payload :=
    ⟨out, packed, _, hrun.prefilled, hpacks, hexpects, rfl, rfl⟩
  obtain ⟨raw, hraw, hrawPos, hrawMax, hpay, hpayMax⟩ := hsize _ _ hoffers
  have hfirst : 0 ≤ out.firstTokenId := hrun.nonneg _ (List.mem_of_mem_head? hrun.head)
  have hmodel := hrun.modelSha
  have htokenizer := hrun.tokenizerSha
  rw [← hagrees.modelSha256] at hmodel
  rw [← hagrees.tokenizerSha256] at htokenizer
  have hpack := hpacks
  rw [runtime.pack_eq] at hpack
  exact ⟨_, raw, ⟨hrun.prefilled, hpacks, hexpects,
    fun f => HeaderOk.of_same hsha hpack hmodel htokenizer (hsha _) ⟨hfirst, hvocab⟩ hpay hpayMax,
    ⟨hfirst, hvocab⟩, hmodel, htokenizer, hraw, ⟨hrawPos, hrawMax⟩, ⟨hpay, hpayMax⟩⟩, hoffers⟩

/-- An export to one path for both files stops the prefill side before it sends. -/
theorem runPrefill_export_refused {args : Args} {promptIds : List Int} {out : PrefillOutput κ}
    {packed : PackedKv} {expected : ExpectedKv} {raw : Bytes}
    (h : Prepared runtime sha256 args promptIds out packed expected raw) {path : String}
    (hpath : args.exportKv = some path) (hheader : args.exportKvHeader = some path) (paths : Paths)
    (clock : Nat → Int) (outside : Outside) :
    runPrefill sha256 paths clock args promptIds runtime.toModelRuntime outside =
      (.error (workloadError "KV payload and header export paths must differ"), outside) := by
  have hbuild := buildKvHeader_eq_ok h.firstToken (h.accepted _ rfl)
  simp only [runPrefill, Act.bind_run, Act.call_run, h.prefilled, h.packs, h.expects, hbuild,
    Act.zoom, exportRequested, hpath, hheader, Option.getD_some, exportKv_same_path]

end Split

/-! ### A runtime with a two-layer cache -/

/-- A tensor rebuilt from an unpacked array. -/
def rebuiltTensor (a : HalfArray) : Tensor Bytes :=
  ⟨some (a.shape.map Int.toNat), "torch.float16", toBytes a.words⟩

def twoLayerUnpack (payload : Bytes) (tensors : Json) : Except Error (Cache Bytes × PyFloat) :=
  match tensors with
  | .list ts => do
    let (layers, ms) ← unpack twoLayerInfo payload ts 0 0
    return (.seq (layers.map fun p => .seq [rebuiltTensor p.1, rebuiltTensor p.2]), ms)
  | _ => .error (builtinError .typeError "tensors must be a list")

/-- Stands for what the model reads from its cache. -/
def cacheSum : Cache Bytes → Nat
  | .seq layers => (layers.map fun
    | .seq ts => (ts.map fun t => (t.data.map UInt8.toNat).sum).sum
    | .other => 0).sum
  | _ => 0

def twoLayerDecode (cache : Cache Bytes) (t n : Int) : Except Error DecodeOutput :=
  if n < 1 then .error (workloadError "output token count must be positive")
  else .ok ⟨(List.range n.toNat).map fun i => (t + i * cacheSum cache) % 8, .finite 0,
    List.replicate (n - 1).toNat (.finite 0)⟩

def twoLayerPrefill (ids : List Int) : Except Error (PrefillOutput (Cache Bytes)) :=
  if ids.length = 1 then .ok ⟨5, twoLayerCache, .finite 0⟩
  else .error (workloadError "one prompt token expected")

theorem twoLayerCache_unpacked :
    twoLayerUnpack twoLayerPacked.payload (.list twoLayerPacked.tensors) =
      .ok (twoLayerCache, .finite 0) := by
  simp only [twoLayerUnpack, unpack, elapsedMs_self]
  rfl

theorem twoLayerUnpack_same (payload : Bytes) {tensors tensors' : Json} (h : Same tensors tensors') :
    twoLayerUnpack payload tensors = twoLayerUnpack payload tensors' := by
  cases tensors' with
  | list ts' =>
    obtain ⟨ts, rfl, hts⟩ := (same_list _ _).mp h
    simp only [twoLayerUnpack, unpack, unpackLayers_same twoLayerInfo payload hts]
  | _ => cases tensors <;> simp_all [Same, Json.norm, twoLayerUnpack]

theorem twoLayerUnpack_timing {payload : Bytes} {tensors : Json} {out : Cache Bytes × PyFloat}
    (h : twoLayerUnpack payload tensors = .ok out) : out.2 = .finite 0 := by
  cases tensors with
  | list ts =>
    simp only [twoLayerUnpack, unpack, elapsedMs_self] at h
    cases hlayers : unpackLayers twoLayerInfo payload ts with
    | error e => 
      rw [hlayers] at h
      cases h
    | ok layers => 
      rw [hlayers] at h
      cases h
      rfl
  | _ => cases h

theorem twoLayerPack_timing {cache : Cache Bytes} {n : Int} {out : PackedKv}
    (h : packLegacyPkv cache n twoLayerInfo (fun t => .ok t.data) (fun b => .ok (some b))
      (fun _ => 0) = .ok out) : out.d2hMs = .finite 0 ∧ out.packMs = .finite 0 := by
  simp only [packLegacyPkv, bind_eq_ok, elapsedMs_self, pure, Except.pure, Except.ok.injEq] at h
  obtain ⟨_, -, _, -, _, -, _, -, _, -, _, hd2h, _, hpack, rfl⟩ := h
  exact ⟨hd2h.symm, hpack.symm⟩

theorem twoLayer_transparent {ids : List Int} {out : PrefillOutput (Cache Bytes)}
    (h : twoLayerPrefill ids = .ok out) :
    ∃ packed, packLegacyPkv out.cache ids.length twoLayerInfo (fun t => .ok t.data)
        (fun b => .ok (some b)) (fun _ => 0) = .ok packed ∧
      twoLayerUnpack packed.payload (.list packed.tensors) = .ok (out.cache, .finite 0) := by
  unfold twoLayerPrefill at h
  split at h
  · next hlen =>
    cases h
    rw [hlen]
    exact ⟨_, twoLayerCache_packed, twoLayerCache_unpacked⟩
  · cases h

/-- A model runtime over the two-layer cache. -/
def twoLayerRuntime : SplitRuntime (Cache Bytes) Bytes Bytes where
  info := twoLayerInfo
  modelLoadMs := .finite 0
  prefill := twoLayerPrefill
  pack cache n := packLegacyPkv cache n twoLayerInfo (fun t => .ok t.data) (fun b => .ok (some b))
    fun _ => 0
  unpack := twoLayerUnpack
  decode := twoLayerDecode
  legacy := id
  toHost t := .ok t.data
  toLeFp16Bytes b := .ok (some b)
  packClock _ := 0
  pack_eq _ _ := rfl
  load_timing := rfl
  prefill_timing h := by
    unfold twoLayerPrefill at h
    split at h <;> cases h
    rfl
  pack_timing h := by
    obtain ⟨hd2h, hpack⟩ := twoLayerPack_timing h
    rw [hd2h, hpack]
    exact ⟨rfl, rfl⟩
  unpack_timing h := by
    rw [twoLayerUnpack_timing h]
    rfl
  decode_timing h := by
    unfold twoLayerDecode at h
    split at h <;> cases h
    refine ⟨rfl, fun x hx => ?_⟩
    rw [List.eq_of_mem_replicate hx]
    rfl
  unpack_same := twoLayerUnpack_same
  transparent h t n d hd := by
    obtain ⟨packed, hpacked, hunpacked⟩ := twoLayer_transparent h
    exact ⟨packed, _, d, hpacked, hunpacked, hd, rfl, rfl⟩

/-- Arguments of either side, for the fixed output length of the workload. -/
def twoLayerArgs (exportKv exportKvHeader : Option String) : Args :=
  ⟨"tinyllama", Sha256.hexdigest [1], Sha256.hexdigest [2], "request-01", 1, 8, exportKv,
    exportKvHeader⟩

def plainPaths : Paths := ⟨id, fun path => "." ++ path ++ ".tmp.1"⟩

def stoppedClock : PerfCounter where
  read _ := 0
  mono _ _ _ := le_refl 0
  bounds _ := ⟨le_refl 0, by norm_num⟩

theorem twoLayerArgs_agrees (e h e' h' : Option String) :
    (twoLayerArgs e h).Agrees (twoLayerArgs e' h') :=
  ⟨rfl, rfl, rfl, rfl, rfl, rfl⟩

theorem twoLayerReference_ok : ∃ ref, runReference Sha256.hexdigest (twoLayerArgs none none) [7]
    twoLayerRuntime.toModelRuntime = .ok ref :=
  ok_of_isOk (by decide +kernel)

def twoLayerHeader : Fields :=
  kvHeader Sha256.hexdigest ⟨"tinyllama", Sha256.hexdigest [1], Sha256.hexdigest [2], "request-01", 1,
    1, Sha256.hexdigest (tokenText [7]), 8, twoLayerInfo⟩ twoLayerPacked 5

theorem twoLayer_offers {e h : Option String} {header : Fields} {payload : Bytes}
    (hoffers : Offers Sha256.hexdigest (twoLayerArgs e h) [7] twoLayerRuntime.toModelRuntime header
      payload) : header = twoLayerHeader ∧ payload = twoLayerPacked.payload := by
  obtain ⟨out, packed, expected, hprefill, hpack, hexpected, rfl, rfl⟩ := hoffers
  cases hprefill
  obtain rfl : twoLayerPacked = packed := Except.ok.inj (twoLayerCache_packed.symm.trans hpack)
  rw [expectedKv_ok] at hexpected
  cases hexpected
  exact ⟨rfl, rfl⟩

theorem twoLayer_framable {e h : Option String} (header : Fields) (payload : Bytes)
    (hoffers : Offers Sha256.hexdigest (twoLayerArgs e h) [7] twoLayerRuntime.toModelRuntime header
      payload) : Framable header payload := by
  obtain ⟨rfl, rfl⟩ := twoLayer_offers hoffers
  decide +kernel

theorem twoLayer_exported (header : Fields) (payload : Bytes)
    (hoffers : Offers Sha256.hexdigest (twoLayerArgs (some "kv.bin") none) [7]
      twoLayerRuntime.toModelRuntime header payload) :
    (exportRequested Sha256.hexdigest plainPaths (twoLayerArgs (some "kv.bin") none) header payload
      ⟨[], []⟩).1 = .ok () := by
  obtain ⟨rfl, rfl⟩ := twoLayer_offers hoffers
  obtain ⟨⟨⟩, h⟩ := ok_of_isOk (x := (exportRequested Sha256.hexdigest plainPaths
    (twoLayerArgs (some "kv.bin") none) twoLayerHeader twoLayerPacked.payload ⟨[], []⟩).1)
    (by decide +kernel)
  exact h

theorem twoLayer_vocab (out : PrefillOutput (Cache Bytes))
    (h : twoLayerRuntime.prefill [7] = .ok out) :
    out.firstTokenId < twoLayerRuntime.info.vocabSize := by
  cases h
  decide

end ServerlessX.Workload
