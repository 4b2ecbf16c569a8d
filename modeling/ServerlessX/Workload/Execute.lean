import ServerlessX.Workload.Gate

/-! The process around the roles: the checks before a role starts, the events it
prints and its exit code. -/
namespace ServerlessX.Workload
open ServerlessX.Py ServerlessX.Py.Json

def EXPECTED_LAYERS : Int := 22
def EXPECTED_KV_HEADS : Int := 4
def EXPECTED_HEAD_DIM : Int := 64
def EXPECTED_PROMPT_TOKENS : Nat := 128
def EXPECTED_OUTPUT_TOKENS : Int := 8

/-- The command line; its role is one of the three choices. -/
structure CommandLine extends Args where
  role : Role
  listenIp : Option String
  peerIp : Option String
  port : Option Int
  timeoutSec : PyFloat

/-- `[A-Za-z0-9][A-Za-z0-9._-]{0,127}` -/
def isRequestId (s : String) : Bool :=
  match s.toList with
  | [] => false
  | c :: cs => Contract.isAlnum c && cs.length ≤ 127 &&
    cs.all (fun x => Contract.isAlnum x || x == '.' || x == '_' || x == '-')

/-- `math.isfinite(x) and x > 0` -/
def isPositive (x : PyFloat) : Bool :=
  match x.toRat? with
  | some q => decide (0 < q)
  | none => false

/-- `not address` -/
def isMissing : Option String → Bool
  | some address => address.isEmpty
  | none => true

/-- `_is_int(port) and 1 <= port <= 65535` -/
def isPort : Option Int → Bool
  | some port => decide (1 ≤ port ∧ port ≤ 65535)
  | none => false

def validateAddresses (line : CommandLine) : Except Error Unit :=
  match line.role with
  | .decode => require (!isMissing line.listenIp && line.peerIp.isNone)
      (workloadError "decode requires --listen-ip and forbids --peer-ip")
  | .prefill => require (!isMissing line.peerIp && line.listenIp.isNone)
      (workloadError "prefill requires --peer-ip and forbids --listen-ip")
  | .reference => require (line.listenIp.isNone && line.peerIp.isNone)
      (workloadError "reference forbids network address arguments")

def validatePort (line : CommandLine) : Except Error Unit :=
  if line.role.transfers then
    require (isPort line.port) (workloadError "prefill/decode require a valid --port")
  else require line.port.isNone (workloadError "reference forbids --port")

def validateArgs (line : CommandLine) : Except Error Unit := do
  require (!(strip line.modelId.toList).isEmpty) (workloadError "model_id must be non-empty")
  let _ ← requireSha256 (.str line.modelSha256) "model_sha256"
  let _ ← requireSha256 (.str line.tokenizerSha256) "tokenizer_sha256"
  require (isRequestId line.requestId)
    (workloadError "request_id contains unsupported characters")
  let _ ← requireInt (.int line.epoch) "epoch" 0
  require (line.outputTokens == EXPECTED_OUTPUT_TOKENS)
    (workloadError ("this MVP requires exactly " ++ strInt EXPECTED_OUTPUT_TOKENS ++
      " output tokens"))
  require (isPositive line.timeoutSec) (workloadError "timeout_sec must be finite and positive")
  validateAddresses line
  validatePort line
  require (line.exportKvHeader.isNone || line.exportKv.isSome)
    (workloadError "--export-kv-header requires --export-kv")
  require (line.role = .prefill || line.exportKv.isNone)
    (workloadError "only the prefill role can export the raw KV cache")

/-! ### The prompt -/

def PROMPT_SCHEMA : String := "serverlesspd.prompt-token-ids.v1"
def PROMPT_KEYS : List String := ["schema", "text", "token_ids", "tokenizer_sha256"]

/-- `json.loads` without hooks: the last of repeated keys counts. -/
def plainHooks : Hooks Error :=
  ⟨fun pairs => .ok (.obj (Dict.update [] pairs)), fun c => .ok c.float⟩

def promptError (e : Raised Builtin) : Error :=
  if e.cls = .unicodeDecodeError ∨ e.cls = .jsonDecodeError then
    ⟨.workloadError, .text "prompt token ID file is not valid JSON: " :: e.message⟩
  else ⟨.builtin e.cls, e.message⟩

def isNonEmptyText : Json → Bool
  | .str s => !s.isEmpty
  | _ => false

/-- The integers of a list that holds nothing else. -/
def tokenIdsOf (xs : List Json) : List Int :=
  xs.filterMap fun
    | .int n => some n
    | _ => none

/-- `value["token_ids"]`, of the expected length and made of token ids. -/
def promptTokens (value : Json) (expectedLength : Nat) : Except Error (List Int) :=
  let length := workloadError
    ("prompt token ID file must contain exactly " ++ strInt expectedLength ++ " IDs")
  match value with
  | .list xs =>
    if xs.length ≠ expectedLength then .error length
    else if xs.all isTokenId then .ok (tokenIdsOf xs)
    else .error (workloadError "prompt token IDs must be non-negative integers")
  | _ => .error length

/-- `load_prompt_token_ids`; `file` is what reading the path gives. -/
def loadPromptTokenIds (scan : Scanner) (file : Except String Bytes) (expectedLength : Nat)
    (expectedTokenizerSha256 : String) : Except Error (List Int) := do
  let raw ← match file with
    | .ok raw => .ok raw
    | .error text => .error (workloadError ("cannot read prompt token IDs: " ++ text))
  require (decide (raw.length ≤ MAX_HEADER_BYTES))
    (workloadError "prompt token ID file is unreasonably large")
  match ← loads scan plainHooks promptError raw with
  | .obj f =>
    requireExactKeys f PROMPT_KEYS "prompt token ID document"
    require (pyEq (get f "schema") (.str PROMPT_SCHEMA))
      (workloadError "prompt token ID document schema mismatch")
    require (isNonEmptyText (get f "text"))
      (workloadError "prompt token ID document text must be non-empty")
    let tokenizer ← requireSha256 (get f "tokenizer_sha256") "prompt tokenizer_sha256"
    require (tokenizer == expectedTokenizerSha256)
      (workloadError "prompt token IDs were produced by a different tokenizer artifact")
    promptTokens (get f "token_ids") expectedLength
  | _ => .error (workloadError "prompt token ID document must be a JSON object")

def validateTinyllamaInfo (info : ModelInfo) : Except Error Unit := do
  require (info.modelType == "llama" && info.modelClass == "LlamaForCausalLM")
    (workloadError "model must be a Hugging Face LlamaForCausalLM")
  require (info.dtype == "float16") (workloadError "model runtime must use FP16 weights")
  require (info.layerCount == EXPECTED_LAYERS && info.kvHeadCount == EXPECTED_KV_HEADS &&
      info.headDim == EXPECTED_HEAD_DIM)
    (workloadError ("model is not the pinned TinyLlama architecture: expected layers/KV-heads/" ++
      "head-dim " ++ tupleText [EXPECTED_LAYERS, EXPECTED_KV_HEADS, EXPECTED_HEAD_DIM] ++ ", got " ++
      tupleText [info.layerCount, info.kvHeadCount, info.headDim]))
  require (decide (0 < info.vocabSize)) (workloadError "model vocabulary size must be positive")

/-! ### The process -/

/-- A bound `TcpReceiver`: its address, and what `accept` will give. -/
structure Listener where
  ip : String
  port : Int
  backlog : Except String Conn

/-- What the process meets: the prompt file, the runtime factory, the receiver factory,
the clock of the transfer and its own id. -/
structure Environment (κ : Type) where
  promptFile : Except String Bytes
  runtime : Except Error (ModelRuntime κ)
  listener : Except String Listener
  clock : Nat → Int
  pid : Int

/-- What the process acts on, and the lines it has printed. -/
structure Process where
  outside : Outside
  receiver : Option Receiver
  listening : Bool
  printed : List Bytes

def Process.start (outside : Outside) : Process := ⟨outside, none, false, []⟩

def emitEvent (event : Fields) : Act Process Error Unit := do
  let raw ← Act.call (canonicalJsonBytes (.obj event))
  Act.modify fun p => { p with printed := p.printed ++ [raw ++ [10]] }

def decodeReadyEvent (args : Args) (info : ModelInfo) (modelLoadMs : PyFloat) (listener : Listener)
    (pid : Int) : Except Error Fields := do
  let modelLoadMs ← requireFloat (.float modelLoadMs) "model_load_ms"
  return [("schema", .str EVENT_SCHEMA), ("schema_version", .int 1), ("event", .str "model_ready"),
    ("status", .str "pass"), ("role", .str "decode"), ("request_id", .str args.requestId),
    ("epoch", .int args.epoch), ("model_id", .str args.modelId),
    ("model_sha256", .str args.modelSha256), ("tokenizer_sha256", .str args.tokenizerSha256),
    ("model_class", .str info.modelClass), ("model_dtype", .str info.dtype),
    ("model_load_ms", .float modelLoadMs), ("listen_ip", .str listener.ip),
    ("port", .int listener.port), ("pid", .int pid)]

/-- `type(exc).__name__` -/
def ErrorClass.name : ErrorClass → String
  | .workloadError => "WorkloadError"
  | .builtin .valueError => "ValueError"
  | .builtin .typeError => "TypeError"
  | .builtin .indexError => "IndexError"
  | .builtin .keyError => "KeyError"
  | .builtin .overflowError => "OverflowError"
  | .builtin .recursionError => "RecursionError"
  | .builtin .unicodeDecodeError => "UnicodeDecodeError"
  | .builtin .unicodeEncodeError => "UnicodeEncodeError"
  | .builtin .jsonDecodeError => "JSONDecodeError"
  | .builtin .osError => "OSError"
  | .foreign name => name

section Main
variable {κ : Type} (sha256 : Bytes → String) (scan : Scanner) (paths : Paths)
  (line : CommandLine) (env : Environment κ)

/-- The checks of `execute` before a role starts. -/
def prepared : Except Error (List Int × ModelRuntime κ) := do
  validateArgs line
  let promptIds ← loadPromptTokenIds scan env.promptFile EXPECTED_PROMPT_TOKENS line.tokenizerSha256
  let runtime ← env.runtime
  validateTinyllamaInfo runtime.info
  require (promptIds.all fun token => decide (token < runtime.info.vocabSize))
    (workloadError "prompt contains a token outside the model vocabulary")
  return (promptIds, runtime)

/-- The decode side listens, says so, and closes its socket whatever happens. -/
def executeDecode (promptIds : List Int) (runtime : ModelRuntime κ) : Act Process Error Fields :=
  match env.listener with
  | .error text => Act.raise (osError text)
  | .ok listener => Act.andFinally (do
      Act.modify fun p => { p with receiver := some (.listening listener.backlog), listening := true }
      let ready ← Act.call
        (decodeReadyEvent line.toArgs runtime.info runtime.modelLoadMs listener env.pid)
      emitEvent ready
      Act.zoom (fun p => p.receiver.getD (.listening listener.backlog))
        (fun r p => { p with receiver := some r })
        (runDecode sha256 scan env.clock line.toArgs promptIds runtime))
      fun p => { p with listening := false }

/-- The role itself. -/
def executeRole (promptIds : List Int) (runtime : ModelRuntime κ) : Act Process Error Fields :=
  match line.role with
  | .reference => Act.call (runReference sha256 line.toArgs promptIds runtime)
  | .prefill => Act.zoom Process.outside (fun outside p => { p with outside := outside })
      (runPrefill sha256 paths env.clock line.toArgs promptIds runtime)
  | .decode => executeDecode sha256 scan line env promptIds runtime

/-- `execute`; every role returns one event. -/
def execute : Act Process Error Fields := do
  let (promptIds, runtime) ← Act.call (prepared scan line env)
  executeRole sha256 scan paths line env promptIds runtime

/-- `_failure_event`; `shown` is `str` of an exception. -/
def failureEvent (shown : Error → String) (stage : String) (e : Error) : Fields :=
  [("schema", .str EVENT_SCHEMA), ("schema_version", .int 1), ("event", .str "failure"),
    ("status", .str "fail"), ("role", .str line.role.value), ("request_id", .str line.requestId),
    ("epoch", .int line.epoch), ("stage", .str stage), ("error_type", .str e.cls.name),
    ("error", .str (shown e))]

/-- `main` behind the argument parser; `stage` is "execution" wherever something raises. -/
def main (shown : Error → String) : Act Process Error Nat :=
  Act.onRaise (do
    let event ← execute sha256 scan paths line env
    emitEvent event
    return 0)
    fun e => do
      emitEvent (failureEvent line shown "execution" e)
      return 1

end Main

/-! ### Printing -/

/-- An event without infinities and NaN has a canonical text. -/
theorem canonical_of_finite {f : Fields} (h : ∀ e ∈ f, allFinite e.2 = true) :
    ∃ raw, canonicalJsonBytes (.obj f) = .ok raw := by
  have hfinite : (Json.obj f).norm.allFinite = true :=
    allFinite_norm (by rw [allFinite, allFiniteFields_iff]; exact h)
  exact ⟨_, by rw [canonicalJsonBytes, dumps, if_pos hfinite]⟩

theorem isFinite_of_isTiming {x : PyFloat} (h : isTiming x = true) : x.isFinite = true := by
  rw [isTiming, Bool.and_eq_true] at h
  exact h.1

theorem finite_ints (ids : List Int) : allFiniteList (ids.map .int) = true := by
  rw [allFiniteList_iff]
  intro v hv
  obtain ⟨n, -, rfl⟩ := List.mem_map.mp hv
  rfl

theorem finite_floats {xs : List PyFloat} (h : ∀ x ∈ xs, isTiming x = true) :
    allFiniteList (xs.map .float) = true := by
  rw [allFiniteList_iff]
  intro v hv
  obtain ⟨x, hx, rfl⟩ := List.mem_map.mp hv
  exact isFinite_of_isTiming (h x hx)

/-! ### What a role reports -/

section Reports
variable {κ : Type} {sha256 : Bytes → String} {args : Args} {promptIds : List Int}
  {runtime : ModelRuntime κ}

/-- An event that passed the validator, names the request of the command line and the
prompt, and can be printed. -/
structure Reports (sha256 : Bytes → String) (args : Args) (promptIds : List Int) (role : Role)
    (event : Fields) : Prop where
  valid : validateResultEvent sha256 event args.outputTokens = .ok ()
  identity : ∃ info ms, ∀ k, k ∉ FILLED_KEYS → get event k =
    get (baseFields args promptIds.length (sha256 (tokenText promptIds)) info ms role) k
  printable : ∃ raw, canonicalJsonBytes (.obj event) = .ok raw

theorem Reports.of_filled {info : ModelInfo} {ms : PyFloat} {role : Role} {entries : Fields}
    (hn : (entries.map Prod.fst).Nodup) (hsub : ∀ k ∈ entries.map Prod.fst, k ∈ FILLED_KEYS)
    (hms : isTiming ms = true) (hfinite : ∀ e ∈ entries, allFinite e.2 = true)
    (hvalid : validateResultEvent sha256 (Dict.update
      (baseFields args promptIds.length (sha256 (tokenText promptIds)) info ms role) entries)
      args.outputTokens = .ok ()) :
    Reports sha256 args promptIds role (Dict.update
      (baseFields args promptIds.length (sha256 (tokenText promptIds)) info ms role) entries) := by
  refine ⟨hvalid, ⟨info, ms, fun k hk => get_update_of_not_mem _ hn fun hmem => hk (hsub k hmem)⟩,
    canonical_of_finite fun e he => ?_⟩
  obtain he | he := Dict.mem_update he
  · have hload := isFinite_of_isTiming hms
    have hbase : ∀ e ∈ baseFields args promptIds.length (sha256 (tokenText promptIds)) info ms role,
        allFinite e.2 = true := by
      cases role <;> simp [baseFields, allFinite, allFiniteList, Role.transfers, hload]
    exact hbase e he
  · exact hfinite e he

theorem runReference_reports {event : Fields}
    (h : runReference sha256 args promptIds runtime = .ok event) :
    Reports sha256 args promptIds .reference event := by
  simp only [runReference, referenceResult, bind_eq_ok, baseResult_eq_ok, requireFloat_float,
    requireFloats_eq_ok, tokenDigest_ints, pure, Except.pure, Except.ok.injEq] at h
  obtain ⟨prefill, -, d, -, _, ⟨_, ⟨hload, rfl⟩, _, ⟨rfl, hprefill⟩, _, ⟨rfl, hdecode⟩, _, ⟨rfl, hitl⟩,
    _, rfl, rfl⟩, _, hvalid, rfl⟩ := h
  obtain ⟨hn, hsub⟩ := referenceEntries_keys prefill.gpuMs d.gpuMs d.itlMs prefill.firstTokenId
    d.tokenIds (sha256 (tokenText d.tokenIds))
  refine .of_filled hn hsub hload ?_ hvalid
  simp [referenceEntries, allFinite, isFinite_of_isTiming hprefill, isFinite_of_isTiming hdecode,
    finite_floats hitl, finite_ints]

/-- A transfer event that passes carries a text as the digest of its payload. -/
theorem payloadSha_text {event : Fields} {role : Role} (hrole : role.transfers = true)
    (h : validateTransfer event role = .ok ()) : ∃ s, get event "kv_payload_sha256" = .str s := by
  rw [validateTransfer, if_pos hrole] at h
  simp only [bind_eq_ok, requireSha256_eq_ok] at h
  obtain ⟨-, -, s, ⟨hs, -⟩, -⟩ := h
  exact ⟨s, hs⟩

theorem prefillEntries_keys (prefillMs packMs d2hMs tcpMs : PyFloat) (t : Int)
    (digest headerSha256 : String) (n : Nat) (payloadSha256 : Json) :
    let keys := (prefillEntries prefillMs packMs d2hMs tcpMs t digest headerSha256 n
      payloadSha256).map Prod.fst
    keys.Nodup ∧ ∀ k ∈ keys, k ∈ FILLED_KEYS := by
  simp [prefillEntries, FILLED_KEYS]

theorem prefillEvent_reports {prefill : PrefillOutput κ} {packed : PackedKv} {header : Fields}
    {tcpMs : PyFloat} {event : Fields}
    (h : prefillEvent sha256 args promptIds runtime prefill packed header tcpMs = .ok event) :
    Reports sha256 args promptIds .prefill event := by
  simp only [prefillEvent, prefillResult, bind_eq_ok, baseResult_eq_ok, requireFloat_float,
    tokenDigest_ints, pure, Except.pure, Except.ok.injEq] at h
  obtain ⟨_, ⟨_, ⟨hload, rfl⟩, _, ⟨rfl, hprefill⟩, _, ⟨rfl, hpack⟩, _, ⟨rfl, hd2h⟩, ms, ⟨hms, htcp⟩,
    _, rfl, raw, -, rfl⟩, _, hvalid, rfl⟩ := h
  obtain ⟨hn, hsub⟩ := prefillEntries_keys prefill.gpuMs packed.packMs packed.d2hMs ms
    prefill.firstTokenId (sha256 (tokenText [prefill.firstTokenId])) (sha256 raw)
    packed.payload.length (get header "payload_sha256")
  obtain ⟨-, -, -, -, -, htransfer⟩ := (validateResultEvent_filled hn hsub ()).mp hvalid
  obtain ⟨s, hs⟩ := payloadSha_text rfl htransfer
  have hentry : get header "payload_sha256" = .str s := by
    rw [← hs]
    exact (get_update_of_mem _ hn (by simp [prefillEntries])).symm
  refine .of_filled hn hsub hload ?_ hvalid
  simp [prefillEntries, allFinite, allFiniteList, isFinite_of_isTiming hprefill,
    isFinite_of_isTiming hpack, isFinite_of_isTiming hd2h, isFinite_of_isTiming (hms ▸ htcp), hentry]

theorem firstTokenOf_eq_ok {header : Fields} {t : Int} (h : firstTokenOf header = .ok t) :
    get header "first_token_id" = .int t := by
  unfold firstTokenOf at h
  split at h
  · next n hn =>
    cases h
    exact hn
  · cases h

theorem decodeEntries_keys (tcpMs h2dMs decodeMs : PyFloat) (itlMs : List PyFloat)
    (firstTokenId : Json) (ids : List Int) (digest headerSha256 : String) (n : Nat)
    (payloadSha256 : Json) :
    let keys := (decodeEntries tcpMs h2dMs decodeMs itlMs firstTokenId ids digest headerSha256 n
      payloadSha256).map Prod.fst
    keys.Nodup ∧ ∀ k ∈ keys, k ∈ FILLED_KEYS := by
  simp [decodeEntries, FILLED_KEYS]

theorem decodeEvent_reports {header : Fields} {payload : Bytes} {tcpMs : PyFloat}
    {unpacked : κ × PyFloat} {event : Fields}
    (h : decodeEvent sha256 args promptIds runtime header payload tcpMs unpacked = .ok event) :
    Reports sha256 args promptIds .decode event := by
  simp only [decodeEvent, decodeResult, bind_eq_ok, baseResult_eq_ok, requireFloat_float,
    requireFloats_eq_ok, tokenDigest_ints, pure, Except.pure, Except.ok.injEq] at h
  obtain ⟨t, hfirst, d, -, _, ⟨_, ⟨hload, rfl⟩, ms, ⟨hms, htcp⟩, _, ⟨rfl, hh2d⟩, _, ⟨rfl, hdecode⟩, _,
    ⟨rfl, hitl⟩, _, rfl, raw, -, rfl⟩, _, hvalid, rfl⟩ := h
  obtain ⟨hn, hsub⟩ := decodeEntries_keys ms unpacked.2 d.gpuMs d.itlMs (get header "first_token_id")
    d.tokenIds (sha256 (tokenText d.tokenIds)) (sha256 raw) payload.length
    (get header "payload_sha256")
  obtain ⟨-, -, -, -, -, htransfer⟩ := (validateResultEvent_filled hn hsub ()).mp hvalid
  obtain ⟨s, hs⟩ := payloadSha_text rfl htransfer
  have hentry : get header "payload_sha256" = .str s := by
    rw [← hs]
    exact (get_update_of_mem _ hn (by simp [decodeEntries])).symm
  refine .of_filled hn hsub hload ?_ hvalid
  simp [decodeEntries, allFinite, isFinite_of_isTiming (hms ▸ htcp), isFinite_of_isTiming hh2d,
    isFinite_of_isTiming hdecode, finite_floats hitl, finite_ints, firstTokenOf_eq_ok hfirst, hentry]

end Reports

/-! ### The whole process -/

section Main
variable {κ : Type} {sha256 : Bytes → String} {scan : Scanner} {paths : Paths}
  {line : CommandLine} {env : Environment κ}

/-- The line an event is printed as. -/
def IsLine (event : Fields) (text : Bytes) : Prop :=
  ∃ raw, canonicalJsonBytes (.obj event) = .ok raw ∧ text = raw ++ [10]

/-- What the process has printed ahead of its last line: nothing, or, on the decode side, that the
model is ready. -/
def Announced (line : CommandLine) (env : Environment κ) (printed : List Bytes) : Prop :=
  printed = [] ∨ line.role = .decode ∧ ∃ listener runtime ready text, env.listener = .ok listener ∧
    env.runtime = .ok runtime ∧ decodeReadyEvent line.toArgs runtime.info runtime.modelLoadMs listener
      env.pid = .ok ready ∧ IsLine ready text ∧ printed = [text]

/-- What holds when a role is done: every socket is closed. -/
structure Quiet (line : CommandLine) (env : Environment κ) (p : Process) : Prop where
  listening : p.listening = false
  connection : ∀ r c, p.receiver = some r → r.connection = some c → c.closed = true
  announced : Announced line env p.printed

theorem quiet_start (outside : Outside) : Quiet line env (.start outside) := by
  refine ⟨rfl, fun r c hr => ?_, .inl rfl⟩
  cases hr

theorem emitEvent_line {event : Fields} {raw : Bytes}
    (h : canonicalJsonBytes (.obj event) = .ok raw) (p : Process) :
    emitEvent event p = (.ok (), { p with printed := p.printed ++ [raw ++ [10]] }) := by
  simp [emitEvent, Act.bind_run, h]

theorem failureEvent_printable (line : CommandLine) (shown : Error → String) (stage : String)
    (e : Error) : ∃ raw, canonicalJsonBytes (.obj (failureEvent line shown stage e)) = .ok raw := by
  refine canonical_of_finite ?_
  simp [failureEvent, allFinite]

/-- Without a connection nothing is received. -/
theorem receiveVerified_refused (args : Args) (promptIds : List Int) (info : ModelInfo)
    (clock : Nat → Int) (text : String) :
    ∃ e, receiveVerified sha256 scan clock args promptIds info (.listening (.error text)) =
      (.error e, .listening (.error text)) := by
  refine ⟨transportError "TCP KV receive failed: " (osError text), ?_⟩
  simp [receiveVerified, Receiver.receiveHeader, Act.bind_run, Act.onRaise, Receiver.accept,
    Receiver.listening, Receiver.closeConnection]

/-- Every accepted connection is closed when `run_decode` is over. -/
theorem runDecode_closed (args : Args) (promptIds : List Int) (runtime : ModelRuntime κ)
    (clock : Nat → Int) (backlog : Except String Conn) {c : Conn}
    (h : (runDecode sha256 scan clock args promptIds runtime (.listening backlog)).2.connection =
      some c) : c.closed = true := by
  have hclosed : ∀ r r' result, receiveVerified sha256 scan clock args promptIds runtime.info r =
      (result, r') → r = .listening backlog → r'.connection = some c → c.closed = true := by
    rintro r r' result hv rfl hc
    cases backlog with
    | error text =>
      obtain ⟨e, he⟩ := @receiveVerified_refused sha256 scan args promptIds runtime.info clock text
      rw [he] at hv
      cases hv
      cases hc
    | ok conn =>
      obtain ⟨⟨c', hc', hcl⟩, -⟩ := receiveVerified_closed sha256 scan clock args promptIds
        runtime.info conn
      rw [hv] at hc'
      obtain rfl := Option.some.inj (hc.symm.trans hc')
      exact hcl
  obtain ⟨e, r', hv, hrun⟩ | ⟨header, payload, ms, r', hv, hrun⟩ := runDecode_cases sha256 scan clock
    args promptIds runtime (.listening backlog)
  · rw [hrun] at h
    exact hclosed _ _ _ hv rfl h
  · rw [hrun] at h
    exact hclosed _ _ _ hv rfl h

theorem runDecode_reports {args : Args} {promptIds : List Int} {runtime : ModelRuntime κ}
    {clock : Nat → Int} {r r' : Receiver} {event : Fields}
    (h : runDecode sha256 scan clock args promptIds runtime r = (.ok event, r')) :
    Reports sha256 args promptIds .decode event := by
  obtain ⟨e, r₁, -, hrun⟩ | ⟨header, payload, ms, r₁, -, hrun⟩ := runDecode_cases sha256 scan clock
    args promptIds runtime r
  · rw [hrun] at h
    cases h
  · rw [hrun, Prod.mk.injEq, bind_eq_ok] at h
    obtain ⟨⟨unpacked, -, hevent⟩, -⟩ := h
    exact decodeEvent_reports hevent

theorem decodeReadyEvent_printable {args : Args} {info : ModelInfo} {ms : PyFloat}
    {listener : Listener} {pid : Int} {ready : Fields}
    (h : decodeReadyEvent args info ms listener pid = .ok ready) :
    ∃ raw, canonicalJsonBytes (.obj ready) = .ok raw := by
  simp only [decodeReadyEvent, bind_eq_ok, requireFloat_float, pure, Except.pure, Except.ok.injEq] at h
  obtain ⟨_, ⟨rfl, hms⟩, rfl⟩ := h
  refine canonical_of_finite ?_
  simp [allFinite, isFinite_of_isTiming hms]

/-- The decode side: the sockets are closed on every path, and what is returned was
announced and reports. -/
theorem executeDecode_quiet (hrole : line.role = .decode) {promptIds : List Int}
    {runtime : ModelRuntime κ} (hruntime : env.runtime = .ok runtime) (outside : Outside) :
    ∃ result p, executeDecode sha256 scan line env promptIds runtime (.start outside) = (result, p) ∧
      Quiet line env p ∧ ∀ event, result = .ok event →
        p.printed ≠ [] ∧ Reports sha256 line.toArgs promptIds .decode event := by
  cases hlistener : env.listener with
  | error text =>
    refine ⟨.error (osError text), .start outside, ?_, quiet_start outside, fun event he => ?_⟩
    · simp [executeDecode, hlistener]
    · cases he
  | ok listener =>
    cases hready : decodeReadyEvent line.toArgs runtime.info runtime.modelLoadMs listener env.pid with
    | error e =>
      refine ⟨.error e, ⟨outside, some (.listening listener.backlog), false, []⟩, ?_,
        ⟨rfl, fun r c hr hc => ?_, .inl rfl⟩, fun event he => by cases he⟩
      · simp [executeDecode, hlistener, Act.andFinally, Act.bind_run, hready, Process.start]
      · cases hr
        cases hc
    | ok ready =>
      obtain ⟨raw, hraw⟩ := decodeReadyEvent_printable hready
      cases hrun : runDecode sha256 scan env.clock line.toArgs promptIds runtime
          (.listening listener.backlog) with
      | mk result r =>
        refine ⟨result, ⟨outside, some r, false, [raw ++ [10]]⟩, ?_, ⟨rfl, fun r' c hr hc => ?_,
          .inr ⟨hrole, listener, runtime, ready, _, hlistener, hruntime, hready, ⟨raw, hraw, rfl⟩, rfl⟩⟩,
          fun event he => ⟨by simp, ?_⟩⟩
        · simp [executeDecode, hlistener, Act.andFinally, Act.bind_run, hready, emitEvent_line hraw,
            Act.zoom, hrun, Process.start]
        · cases hr
          exact runDecode_closed line.toArgs promptIds runtime env.clock listener.backlog
            (by rw [hrun]; exact hc)
        · subst he
          exact runDecode_reports hrun

/-- Either the checks stop the process before it touches anything, or its role runs. -/
theorem execute_quiet (outside : Outside) :
    ∃ result p, execute sha256 scan paths line env (.start outside) = (result, p) ∧ Quiet line env p ∧
      (∀ e, prepared scan line env = .error e → result = .error e ∧ p = .start outside) ∧
      ∀ event, result = .ok event → ∃ promptIds runtime, prepared scan line env = .ok (promptIds, runtime) ∧
        (line.role = .decode → p.printed ≠ []) ∧
        Reports sha256 line.toArgs promptIds line.role event := by
  have hstart : Quiet line env (.start outside) := quiet_start outside
  cases hprepared : prepared scan line env with
  | error e =>
    refine ⟨.error e, .start outside, by simp [execute, Act.bind_run, hprepared], hstart,
      fun e' he => ?_, fun event he => by cases he⟩
    cases he
    exact ⟨rfl, rfl⟩
  | ok ready =>
    obtain ⟨promptIds, runtime⟩ := ready
    have hruntime : env.runtime = .ok runtime := by
      simp only [prepared, bind_eq_ok, pure, Except.pure, Except.ok.injEq, Prod.mk.injEq] at hprepared
      obtain ⟨-, -, ids, -, rt, hrt, -, -, -, -, -, rfl⟩ := hprepared
      exact hrt
    have hexecute : execute sha256 scan paths line env (.start outside) =
        executeRole sha256 scan paths line env promptIds runtime (.start outside) := by
      simp [execute, Act.bind_run, hprepared]
    rw [hexecute]
    unfold executeRole
    cases hrole : line.role with
    | reference =>
      refine ⟨_, .start outside, rfl, hstart, fun e he => (by cases he), fun event he => ⟨promptIds, runtime,
        rfl, fun hd => (by cases hd), runReference_reports he⟩⟩
    | prefill =>
      cases hrun : runPrefill sha256 paths env.clock line.toArgs promptIds runtime outside with
      | mk result outside' =>
        refine ⟨result, { Process.start outside with outside := outside' }, ?_,
          ⟨rfl, fun r c hr => (by cases hr), .inl rfl⟩, fun e he => (by cases he), fun event he =>
          ⟨promptIds, runtime, rfl, fun hd => (by cases hd), ?_⟩⟩
        · simp [Act.zoom, Process.start, hrun]
        · subst he
          simp only [runPrefill, Act.bind_run_ok, Act.call_run_ok] at hrun
          obtain ⟨_, _, -, _, _, -, _, _, -, _, _, -, _, _, -, _, _, -, hevent, -⟩ := hrun
          exact prefillEvent_reports hevent
    | decode =>
      obtain ⟨result, p, hrun, hquiet, hok⟩ := @executeDecode_quiet κ sha256 scan line env hrole
        promptIds runtime hruntime outside
      refine ⟨result, p, hrun, hquiet, fun e he => (by cases he), fun event he => ?_⟩
      obtain ⟨hprinted, hreports⟩ := hok event he
      exact ⟨promptIds, runtime, rfl, fun _ => hprinted, hreports⟩

/-- What one process leaves behind: exit code 0 with the event of its role, behind the
announcement of a decode side, or exit code 1 with the failure in its place; nothing else is
printed, every socket is closed, and a process that its checks stop has touched nothing. -/
theorem main_transcript (sha256 : Bytes → String) (scan : Scanner) (paths : Paths)
    (line : CommandLine) (env : Environment κ) (shown : Error → String) (outside : Outside) :
    ∃ code p before text, main sha256 scan paths line env shown (.start outside) = (.ok code, p) ∧
      p.printed = before ++ [text] ∧ Announced line env before ∧ p.listening = false ∧
      (∀ r c, p.receiver = some r → r.connection = some c → c.closed = true) ∧
      (code = 0 ∧ (∃ promptIds runtime event, prepared scan line env = .ok (promptIds, runtime) ∧
          Reports sha256 line.toArgs promptIds line.role event ∧ IsLine event text) ∧
          (line.role = .decode → before ≠ []) ∨
        code = 1 ∧ ∃ e, IsLine (failureEvent line shown "execution" e) text ∧
          (∀ e', prepared scan line env = .error e' →
            e = e' ∧ before = [] ∧ p.outside = outside ∧ p.receiver = none)) := by
  obtain ⟨result, p, hrun, hquiet, hstopped, hok⟩ := @execute_quiet κ sha256 scan paths line env outside
  cases result with
  | ok event =>
    obtain ⟨promptIds, runtime, hprepared, hbefore, hreports⟩ := hok event rfl
    obtain ⟨raw, hraw⟩ := hreports.printable
    refine ⟨0, { p with printed := p.printed ++ [raw ++ [10]] }, p.printed, raw ++ [10], ?_, rfl,
      hquiet.announced, hquiet.listening, hquiet.connection,
      .inl ⟨rfl, ⟨promptIds, runtime, event, hprepared, hreports, raw, hraw, rfl⟩, hbefore⟩⟩
    simp [main, Act.onRaise, Act.bind_run, hrun, emitEvent_line hraw]
  | error e =>
    obtain ⟨raw, hraw⟩ := failureEvent_printable line shown "execution" e
    refine ⟨1, { p with printed := p.printed ++ [raw ++ [10]] }, p.printed, raw ++ [10], ?_, rfl,
      hquiet.announced, hquiet.listening, hquiet.connection,
      .inr ⟨rfl, e, ⟨raw, hraw, rfl⟩, fun e' he => ?_⟩⟩
    · simp [main, Act.onRaise, Act.bind_run, hrun, emitEvent_line hraw]
    · obtain ⟨hresult, rfl⟩ := hstopped e' he
      exact ⟨Except.error.inj hresult, rfl, rfl, rfl⟩

end Main

end ServerlessX.Workload
