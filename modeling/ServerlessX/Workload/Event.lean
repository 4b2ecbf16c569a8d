import ServerlessX.Workload.Header

/-! The result events of the three roles and the validator every event passes
before it leaves the program. -/
namespace ServerlessX.Workload
open ServerlessX.Py ServerlessX.Py.Json

def EVENT_SCHEMA : String := "serverlesspd.real-pd-event.v1"
def TRANSPORT : String := "tcp_host_staging"

/-- The command line, as far as the roles read it. -/
structure Args where
  modelId : String
  modelSha256 : String
  tokenizerSha256 : String
  requestId : String
  epoch : Int
  outputTokens : Int
  exportKv : Option String
  exportKvHeader : Option String

inductive Role where
  | reference
  | prefill
  | decode
deriving DecidableEq

def Role.value : Role → String
  | .reference => "reference"
  | .prefill => "prefill"
  | .decode => "decode"

/-- `role in {"prefill", "decode"}`. -/
def Role.transfers : Role → Bool
  | .reference => false
  | _ => true

def finiteFloat (field : String) (x : PyFloat) : Except Error PyFloat :=
  if x.isFinite && !x.isNeg then .ok x
  else .error (workloadError (field ++ " must be a finite number >= 0"))

def requireFloat (value : Json) (field : String) : Except Error PyFloat :=
  match value with
  | .int n => match PyFloat.ofInt n with
    | some x => finiteFloat field x
    | none => .error (builtinError .overflowError "int too large to convert to float")
  | .float x => finiteFloat field x
  | _ => .error (workloadError (field ++ " must be a finite number"))

def RESULT_KEYS : List String :=
  ["schema", "schema_version", "event", "status", "role", "request_id", "epoch", "model_id",
    "model_sha256", "tokenizer_sha256", "model_class", "model_dtype", "prompt_length",
    "prompt_digest_sha256", "output_tokens", "transport", "kv_layout", "model_load_ms",
    "prefill_gpu_ms", "pack_ms", "d2h_ms", "tcp_ms", "h2d_ms", "decode_gpu_ms", "decode_itl_ms",
    "first_token_id", "token_ids", "token_digest_sha256", "kv_header_sha256", "kv_payload_bytes",
    "kv_payload_sha256"]

def TIMING_KEYS : List String :=
  ["model_load_ms", "prefill_gpu_ms", "pack_ms", "d2h_ms", "tcp_ms", "h2d_ms", "decode_gpu_ms"]

def requiredTimings : Role → List String
  | .reference => ["model_load_ms", "prefill_gpu_ms", "decode_gpu_ms"]
  | .prefill => ["model_load_ms", "prefill_gpu_ms", "pack_ms", "d2h_ms", "tcp_ms"]
  | .decode => ["model_load_ms", "tcp_ms", "h2d_ms", "decode_gpu_ms"]

/-- What a reference result leaves at `None`. -/
def TRANSFER_KEYS : List String :=
  ["transport", "kv_layout", "kv_header_sha256", "kv_payload_bytes", "kv_payload_sha256"]

def isNone : Json → Bool
  | .null => true
  | _ => false

/-- `role not in {...}` hashes the role first. -/
def roleOf (role : Json) : Except Error Role :=
  let invalid : Error := ⟨.workloadError, [.text "invalid result role ", .repr role]⟩
  match role with
  | .str s =>
    if s = "reference" then .ok .reference
    else if s = "prefill" then .ok .prefill
    else if s = "decode" then .ok .decode
    else .error invalid
  | .list _ => .error (builtinError .typeError "unhashable type: 'list'")
  | .obj _ => .error (builtinError .typeError "unhashable type: 'dict'")
  | _ => .error invalid

/-- `_is_int(token) and token >= 0`. -/
def isTokenId : Json → Bool
  | .int n => decide (0 ≤ n)
  | _ => false

def resultList (value : Json) (count : Int) (ok : Json → Bool) (e : Error) :
    Except Error (List Json) :=
  match value with
  | .list xs => if (xs.length : Int) = count ∧ xs.all ok then .ok xs else .error e
  | _ => .error e

/-- `tokens[0]`. -/
def firstOf : List Json → Except Error Json
  | [] => .error (builtinError .indexError "list index out of range")
  | t :: _ => .ok t

section Digests
variable (sha256 : Bytes → String)

def tokenDigest (tokenIds : List Json) : Except Error String := do
  return sha256 (← canonicalJsonBytes (.list tokenIds))

def validateTokens (event : Fields) (role : Role) (outputTokens : Int) : Except Error Unit := do
  let count := if role = .prefill then 1 else outputTokens
  let tokens ← resultList (get event "token_ids") count isTokenId
    (workloadError (role.value ++ " result must contain exactly " ++ strInt count ++ " token IDs"))
  let first ← firstOf tokens
  require (pyEq (get event "first_token_id") first)
    (workloadError "result first_token_id does not match token_ids[0]")
  let digest ← tokenDigest sha256 tokens
  require (pyEq (get event "token_digest_sha256") (.str digest))
    (workloadError "result token digest does not match token IDs")

/-- The loops over sets of timings run in the order the source lists them. -/
def validateTimings (event : Fields) (role : Role) (outputTokens : Int) : Except Error Unit := do
  let count := if role = .prefill then 0 else outputTokens - 1
  let itl ← resultList (get event "decode_itl_ms") count (fun _ => true)
    (workloadError (role.value ++ " result must contain exactly " ++ strInt count ++ " decode ITLs"))
  itl.forM fun value => do
    let _ ← requireFloat value "decode_itl_ms"
  TIMING_KEYS.forM fun key => do
    if isNone (get event key) then return
    let _ ← requireFloat (get event key) key
  (requiredTimings role).forM fun key =>
    require (!isNone (get event key)) (workloadError (role.value ++ " result requires " ++ key))
  (TIMING_KEYS.filter fun key => !(requiredTimings role).contains key).forM fun key =>
    require (isNone (get event key)) (workloadError (role.value ++ " result forbids " ++ key))

def validateTransfer (event : Fields) (role : Role) : Except Error Unit :=
  if role.transfers then do
    let _ ← requireSha256 (get event "kv_header_sha256") "kv_header_sha256"
    let _ ← requireSha256 (get event "kv_payload_sha256") "kv_payload_sha256"
    let _ ← requireInt (get event "kv_payload_bytes") "kv_payload_bytes" 1
    require (pyEq (get event "transport") (.str TRANSPORT) &&
        pyEq (get event "kv_layout") (.str KV_LAYOUT))
      (workloadError (role.value ++ " result transport/layout mismatch"))
  else
    TRANSFER_KEYS.forM fun key =>
      require (isNone (get event key)) (workloadError ("reference result forbids " ++ key))

def validateResultEvent (event : Fields) (outputTokens : Int) : Except Error Unit := do
  requireExactKeys event RESULT_KEYS "result event"
  require (pyEq (get event "schema") (.str EVENT_SCHEMA) &&
      pyEq (get event "schema_version") (.int 1))
    (workloadError "result event schema mismatch")
  require (pyEq (get event "event") (.str "result") && pyEq (get event "status") (.str "pass"))
    (workloadError "result event status mismatch")
  let _ ← requireSha256 (get event "model_sha256") "result model_sha256"
  let _ ← requireSha256 (get event "tokenizer_sha256") "result tokenizer_sha256"
  let _ ← requireSha256 (get event "prompt_digest_sha256") "result prompt digest"
  let role ← roleOf (get event "role")
  validateTokens sha256 event role outputTokens
  validateTimings event role outputTokens
  validateTransfer event role

end Digests

/-- The dict display of `_base_result`. -/
def baseFields (args : Args) (promptLength : Nat) (promptDigest : String) (info : ModelInfo)
    (modelLoadMs : PyFloat) (role : Role) : Fields :=
  [("schema", .str EVENT_SCHEMA), ("schema_version", .int 1), ("event", .str "result"),
    ("status", .str "pass"), ("role", .str role.value), ("request_id", .str args.requestId),
    ("epoch", .int args.epoch), ("model_id", .str args.modelId),
    ("model_sha256", .str args.modelSha256), ("tokenizer_sha256", .str args.tokenizerSha256),
    ("model_class", .str info.modelClass), ("model_dtype", .str info.dtype),
    ("prompt_length", .int promptLength), ("prompt_digest_sha256", .str promptDigest),
    ("output_tokens", .int args.outputTokens),
    ("transport", if role.transfers then .str TRANSPORT else .null),
    ("kv_layout", if role.transfers then .str KV_LAYOUT else .null),
    ("model_load_ms", .float modelLoadMs), ("prefill_gpu_ms", .null), ("pack_ms", .null),
    ("d2h_ms", .null), ("tcp_ms", .null), ("h2d_ms", .null), ("decode_gpu_ms", .null),
    ("decode_itl_ms", .list []), ("first_token_id", .null), ("token_ids", .list []),
    ("token_digest_sha256", .null), ("kv_header_sha256", .null), ("kv_payload_bytes", .null),
    ("kv_payload_sha256", .null)]

/-- `_base_result`; the runtime is read for its model and load time only. -/
def baseResult (sha256 : Bytes → String) (args : Args) (promptIds : List Int) (info : ModelInfo)
    (modelLoadMs : PyFloat) (role : Role) : Except Error Fields := do
  let promptDigest ← tokenDigest sha256 (promptIds.map .int)
  let modelLoadMs ← requireFloat (.float modelLoadMs) "model_load_ms"
  return baseFields args promptIds.length promptDigest info modelLoadMs role

/-! ### What the validator accepts -/

/-- A finite number of milliseconds, not negative. -/
def isTiming (x : PyFloat) : Bool := x.isFinite && !x.isNeg

theorem requireFloat_float (x y : PyFloat) (field : String) :
    requireFloat (.float x) field = .ok y ↔ y = x ∧ isTiming x = true := by
  simp only [requireFloat, finiteFloat, isTiming]
  split
  · next h => simp [h, eq_comm]
  · next h => simp [h]

theorem roleOf_value (role : Role) : roleOf (.str role.value) = .ok role := by
  cases role <;> rfl

theorem resultList_eq_ok (v : Json) (count : Int) (ok : Json → Bool) (e : Error) (xs : List Json) :
    resultList v count ok e = .ok xs ↔
      v = .list xs ∧ (xs.length : Int) = count ∧ xs.all ok = true := by
  cases v with
  | list ys =>
    simp only [resultList, Json.list.injEq]
    exact checked_eq_ok (fun l : List Json => (l.length : Int) = count ∧ l.all ok = true) ys xs e
  | _ => simp [resultList]

theorem firstOf_ints (ids : List Int) (v : Json) :
    firstOf (ids.map .int) = .ok v ↔ ∃ t, ids.head? = some t ∧ v = .int t := by
  cases ids <;> simp [firstOf, eq_comm]

section Digests
variable {sha256 : Bytes → String}

/-- The bytes a list of token ids is hashed as. -/
def tokenText (ids : List Int) : Bytes := ascii (Json.list (ids.map .int)).text

theorem tokenDigest_ints (ids : List Int) :
    tokenDigest sha256 (ids.map .int) = .ok (sha256 (tokenText ids)) := by
  have hnorm : (Json.list (ids.map .int)).norm = .list (ids.map .int) := by
    rw [Json.norm, normList_eq_map, (map_norm_eq_ints _ _).mpr rfl]
  have hfree : (Json.list (ids.map .int)).norm.floatFree = true := by
    rw [hnorm, floatFree, floatFreeList_iff]
    intro x hx
    obtain ⟨n, -, rfl⟩ := List.mem_map.mp hx
    rfl
  have hdumps := dumps_floatFree hfree
  rw [hnorm] at hdumps
  simp only [tokenDigest, canonicalJsonBytes, hdumps, bind, Except.bind, pure, Except.pure, tokenText]

/-- The token checks, for an event that carries the ids `ids` and their digest. -/
theorem validateTokens_ints {event : Fields} {role : Role} {n : Int} {ids : List Int} {t : Int}
    (htokens : get event "token_ids" = .list (ids.map .int))
    (hfirst : get event "first_token_id" = .int t)
    (hdigest : get event "token_digest_sha256" = .str (sha256 (tokenText ids))) (u : Unit) :
    validateTokens sha256 event role n = .ok u ↔
      (ids.length : Int) = (if role = .prefill then 1 else n) ∧ (∀ i ∈ ids, 0 ≤ i) ∧
        ids.head? = some t := by
  have hall : (ids.map Json.int).all isTokenId = true ↔ ∀ i ∈ ids, 0 ≤ i := by
    simp [isTokenId]
  simp only [validateTokens, bind_eq_ok, resultList_eq_ok, htokens, Json.list.injEq, require_eq_ok,
    hfirst, hdigest]
  constructor
  · rintro ⟨ts, ⟨hts, hlen, hids⟩, first, hf, _, heq, _⟩
    subst hts
    obtain ⟨s, hs, rfl⟩ := (firstOf_ints ids first).mp hf
    have hts : t = s := by simpa [pyEq, numEq, asInt] using heq
    exact ⟨by simpa using hlen, hall.mp hids, hts ▸ hs⟩
  · rintro ⟨hlen, hids, hhead⟩
    exact ⟨ids.map .int, ⟨rfl, by simpa using hlen, hall.mpr hids⟩, .int t,
      (firstOf_ints ids _).mpr ⟨t, hhead, rfl⟩, (), by simp [pyEq, numEq, asInt], _,
      tokenDigest_ints ids, by simp⟩

end Digests

theorem validateTimings_itl {event : Fields} {role : Role} {n : Int} {u : Unit}
    (h : validateTimings event role n = .ok u) :
    ∃ itl, get event "decode_itl_ms" = .list itl ∧
      (itl.length : Int) = if role = .prefill then 0 else n - 1 := by
  simp only [validateTimings, bind_eq_ok, resultList_eq_ok] at h
  obtain ⟨itl, ⟨hget, hlen, -⟩, -⟩ := h
  exact ⟨itl, hget, hlen⟩

/-- Timings that are all there, finite and not negative, pass. -/
theorem validateTimings_ok {event : Fields} {role : Role} {n : Int} {itl : List PyFloat}
    (hget : get event "decode_itl_ms" = .list (itl.map .float))
    (hlen : (itl.length : Int) = if role = .prefill then 0 else n - 1)
    (hitl : ∀ x ∈ itl, isTiming x = true)
    (hreq : ∀ k ∈ requiredTimings role, ∃ x, get event k = .float x ∧ isTiming x = true)
    (hnone : ∀ k ∈ TIMING_KEYS, k ∉ requiredTimings role → get event k = .null) :
    validateTimings event role n = .ok () := by
  simp only [validateTimings, bind_eq_ok, resultList_eq_ok, List.forM_eq_forM, forM_eq_ok]
  refine ⟨itl.map .float, ⟨hget, by simpa using hlen, by simp⟩, (), ?_, (), ?_, (), ?_, ?_⟩
  · intro v hv
    obtain ⟨x, hx, rfl⟩ := List.mem_map.mp hv
    exact ⟨x, (requireFloat_float x x _).mpr ⟨rfl, hitl x hx⟩, rfl⟩
  · intro k hk
    by_cases hmem : k ∈ requiredTimings role
    · obtain ⟨x, hx, ht⟩ := hreq k hmem
      have hok := (requireFloat_float x x k).mpr ⟨rfl, ht⟩
      simp [hx, isNone, hok, bind, Except.bind, pure, Except.pure]
    · simp [hnone k hk hmem, isNone, pure, Except.pure]
  · intro k hk
    obtain ⟨x, hx, -⟩ := hreq k hk
    rw [hx]
    rfl
  · intro k hk
    rw [List.mem_filter, Bool.not_eq_true', List.contains_eq_mem, decide_eq_false_iff_not] at hk
    rw [hnone k hk.1 hk.2]
    rfl

/-- The keys the roles fill in on top of `_base_result`. -/
def FILLED_KEYS : List String :=
  ["prefill_gpu_ms", "pack_ms", "d2h_ms", "tcp_ms", "h2d_ms", "decode_gpu_ms", "decode_itl_ms",
    "first_token_id", "token_ids", "token_digest_sha256", "kv_header_sha256", "kv_payload_bytes",
    "kv_payload_sha256"]

theorem get_update_of_not_mem (f : Fields) {entries : Fields} {k : String}
    (hn : (entries.map Prod.fst).Nodup) (hk : k ∉ entries.map Prod.fst) :
    get (Dict.update f entries) k = get f k := by
  have hnone : entries.lookup k = none := by
    rw [List.lookup_eq_none_iff]
    intro e he
    refine bne_iff_ne.mpr fun hke => ?_
    exact hk (List.mem_map.mpr ⟨e, he, hke.symm⟩)
  rw [get_update f hn, hnone]
  rfl

theorem get_update_of_mem (f : Fields) {entries : Fields} {k : String} {v : Json}
    (hn : (entries.map Prod.fst).Nodup) (h : (k, v) ∈ entries) :
    get (Dict.update f entries) k = v := by
  rw [get_update f hn, (Dict.lookup_eq_some_iff entries hn k v).mpr h]
  rfl

/-- What is left to check of an event that fills in `_base_result`. -/
theorem validateResultEvent_filled {sha256 : Bytes → String} {args : Args} {promptLength : Nat}
    {promptDigest : String} {info : ModelInfo} {ms : PyFloat} {role : Role} {entries : Fields}
    {n : Int} (hn : (entries.map Prod.fst).Nodup)
    (hsub : ∀ k ∈ entries.map Prod.fst, k ∈ FILLED_KEYS) (u : Unit) :
    let event := Dict.update (baseFields args promptLength promptDigest info ms role) entries
    validateResultEvent sha256 event n = .ok u ↔
      Contract.isSha256 args.modelSha256 = true ∧ Contract.isSha256 args.tokenizerSha256 = true ∧
        Contract.isSha256 promptDigest = true ∧ validateTokens sha256 event role n = .ok () ∧
        validateTimings event role n = .ok () ∧ validateTransfer event role = .ok () := by
  intro event
  have hget : ∀ k, k ∉ FILLED_KEYS → get event k =
      get (baseFields args promptLength promptDigest info ms role) k := fun k hk =>
    get_update_of_not_mem _ hn fun hmem => hk (hsub k hmem)
  have hkeys : hasKeys event RESULT_KEYS = true := by
    refine hasKeys_update rfl hn fun e he => ?_
    have hfilled : ∀ k ∈ FILLED_KEYS, k ∈ RESULT_KEYS := by decide
    exact hfilled _ (hsub _ (List.mem_map.mpr ⟨e, he, rfl⟩))
  have hrole : roleOf (get event "role") = .ok role := by
    rw [hget "role" (by decide)]
    exact roleOf_value role
  have hschema : get event "schema" = .str EVENT_SCHEMA := hget "schema" (by decide)
  have hversion : get event "schema_version" = .int 1 := hget "schema_version" (by decide)
  have hevent : get event "event" = .str "result" := hget "event" (by decide)
  have hstatus : get event "status" = .str "pass" := hget "status" (by decide)
  have hmodel : get event "model_sha256" = .str args.modelSha256 := hget _ (by decide)
  have htokenizer : get event "tokenizer_sha256" = .str args.tokenizerSha256 := hget _ (by decide)
  have hprompt : get event "prompt_digest_sha256" = .str promptDigest := hget _ (by decide)
  have hone : pyEq (.int 1) (.int 1) = true := rfl
  simp only [validateResultEvent, requireExactKeys, bind_eq_ok, require_eq_ok, requireSha256_eq_ok,
    hkeys, hschema, hversion, hevent, hstatus, hmodel, htokenizer, hprompt, hrole, hone, pyEq_str,
    Json.str.injEq, Except.ok.injEq, exists_eq_left', Bool.and_eq_true]
  constructor
  · intro h
    obtain ⟨-, -, -, -, -, -, _, ⟨rfl, h₁⟩, _, ⟨rfl, h₂⟩, _, ⟨rfl, h₃⟩, _, htok, _, htime, htrans⟩ := h
    exact ⟨h₁, h₂, h₃, htok, htime, htrans⟩
  · rintro ⟨h₁, h₂, h₃, htok, htime, htrans⟩
    exact ⟨(), trivial, (), ⟨trivial, trivial⟩, (), ⟨trivial, trivial⟩, _, ⟨rfl, h₁⟩, _, ⟨rfl, h₂⟩, _,
      ⟨rfl, h₃⟩, (), htok, (), htime, htrans⟩

/-- The transfer checks, for an event that carries what they ask for. -/
theorem validateTransfer_ok {event : Fields} {role : Role} {headerSha payloadSha : String} {n : Int}
    (hrole : role.transfers = true) (hheader : get event "kv_header_sha256" = .str headerSha)
    (hheaderSha : Contract.isSha256 headerSha = true)
    (hpayload : get event "kv_payload_sha256" = .str payloadSha)
    (hpayloadSha : Contract.isSha256 payloadSha = true)
    (hbytes : get event "kv_payload_bytes" = .int n) (hn : 1 ≤ n)
    (htransport : get event "transport" = .str TRANSPORT)
    (hlayout : get event "kv_layout" = .str KV_LAYOUT) :
    validateTransfer event role = .ok () := by
  rw [validateTransfer, if_pos hrole]
  simp only [bind_eq_ok, requireSha256_eq_ok, requireInt_eq_ok, require_eq_ok, Bool.and_eq_true,
    pyEq_str]
  exact ⟨_, ⟨hheader, hheaderSha⟩, _, ⟨hpayload, hpayloadSha⟩, n, ⟨hbytes, hn⟩, htransport, hlayout⟩

/-- What a role with a transfer fills in, so that its event passes. -/
structure TransferEntries (sha256 : Bytes → String) (entries : Fields) (role : Role) (n : Int)
    (ids : List Int) (itl : List PyFloat) (raw payload : Bytes) : Prop where
  nodup : (entries.map Prod.fst).Nodup
  filled : ∀ k ∈ entries.map Prod.fst, k ∈ FILLED_KEYS
  first : ∃ t, ids.head? = some t ∧ ("first_token_id", .int t) ∈ entries
  tokens : ("token_ids", .list (ids.map .int)) ∈ entries
  digest : ("token_digest_sha256", .str (sha256 (tokenText ids))) ∈ entries
  count : (ids.length : Int) = if role = .prefill then 1 else n
  nonneg : ∀ i ∈ ids, 0 ≤ i
  itlMs : ((entries.lookup "decode_itl_ms").or (some (.list []))) = some (.list (itl.map .float))
  itlCount : (itl.length : Int) = if role = .prefill then 0 else n - 1
  itlTimings : ∀ x ∈ itl, isTiming x = true
  required : ∀ k ∈ requiredTimings role, k ≠ "model_load_ms" →
    ∃ x, (k, .float x) ∈ entries ∧ isTiming x = true
  others : ∀ k ∈ TIMING_KEYS, k ∉ requiredTimings role → k ∉ entries.map Prod.fst
  header : ("kv_header_sha256", .str (sha256 raw)) ∈ entries
  bytes : ("kv_payload_bytes", .int payload.length) ∈ entries
  payloadSha : ("kv_payload_sha256", .str (sha256 payload)) ∈ entries

theorem TransferEntries.valid {sha256 : Bytes → String} {entries : Fields} {role : Role} {n : Int}
    {ids : List Int} {itl : List PyFloat} {raw payload : Bytes} {args : Args} {promptLength : Nat}
    {promptDigest : String} {info : ModelInfo} {ms : PyFloat}
    (h : TransferEntries sha256 entries role n ids itl raw payload)
    (hrole : role.transfers = true) (hsha : ∀ b, Contract.isSha256 (sha256 b) = true)
    (hmodel : Contract.isSha256 args.modelSha256 = true)
    (htokenizer : Contract.isSha256 args.tokenizerSha256 = true)
    (hprompt : Contract.isSha256 promptDigest = true) (hms : isTiming ms = true)
    (hpay : 1 ≤ payload.length) :
    validateResultEvent sha256
      (Dict.update (baseFields args promptLength promptDigest info ms role) entries) n = .ok () := by
  obtain ⟨t, hhead, hfirst⟩ := h.first
  have hbase : ∀ k, k ∉ FILLED_KEYS → get (Dict.update (baseFields args promptLength promptDigest
      info ms role) entries) k = get (baseFields args promptLength promptDigest info ms role) k :=
    fun k hk => get_update_of_not_mem _ h.nodup fun hmem => hk (h.filled k hmem)
  have htransport : (if role.transfers then Json.str TRANSPORT else .null) = .str TRANSPORT := by
    rw [hrole]
    rfl
  have hlayout : (if role.transfers then Json.str KV_LAYOUT else .null) = .str KV_LAYOUT := by
    rw [hrole]
    rfl
  refine (validateResultEvent_filled h.nodup h.filled ()).mpr
    ⟨hmodel, htokenizer, hprompt, ?_, ?_, ?_⟩
  · exact (validateTokens_ints (get_update_of_mem _ h.nodup h.tokens)
      (get_update_of_mem _ h.nodup hfirst) (get_update_of_mem _ h.nodup h.digest) ()).mpr
      ⟨h.count, h.nonneg, hhead⟩
  · refine validateTimings_ok ?_ h.itlCount h.itlTimings (fun k hk => ?_) fun k hk hreq => ?_
    · rw [get_update _ h.nodup]
      exact congrArg (Option.getD · Json.null) h.itlMs
    · by_cases hload : k = "model_load_ms"
      · subst hload
        exact ⟨ms, hbase _ (by decide), hms⟩
      · obtain ⟨x, hx, htime⟩ := h.required k hk hload
        exact ⟨x, get_update_of_mem _ h.nodup hx, htime⟩
    · rw [get_update_of_not_mem _ h.nodup (h.others k hk hreq)]
      have hload : k ≠ "model_load_ms" := by
        intro hk'
        subst hk'
        exact hreq (by cases role <;> decide)
      simp only [TIMING_KEYS, List.mem_cons, List.not_mem_nil, or_false] at hk
      obtain rfl | rfl | rfl | rfl | rfl | rfl | rfl := hk
      · exact absurd rfl hload
      all_goals rfl
  · exact validateTransfer_ok hrole (get_update_of_mem _ h.nodup h.header) (hsha _)
      (get_update_of_mem _ h.nodup h.payloadSha) (hsha _) (get_update_of_mem _ h.nodup h.bytes)
      (by omega) ((hbase "transport" (by decide)).trans htransport)
      ((hbase "kv_layout" (by decide)).trans hlayout)

theorem baseResult_eq_ok {sha256 : Bytes → String} {args : Args} {promptIds : List Int}
    {info : ModelInfo} {ms : PyFloat} {role : Role} (base : Fields) :
    baseResult sha256 args promptIds info ms role = .ok base ↔
      isTiming ms = true ∧
        base = baseFields args promptIds.length (sha256 (tokenText promptIds)) info ms role := by
  simp only [baseResult, bind_eq_ok, tokenDigest_ints, Except.ok.injEq, exists_eq_left',
    requireFloat_float, pure, Except.pure]
  refine ⟨fun ⟨_, ⟨rfl, hms⟩, h⟩ => ⟨hms, h.symm⟩, fun ⟨hms, h⟩ => ⟨ms, ⟨rfl, hms⟩, h.symm⟩⟩

end ServerlessX.Workload
