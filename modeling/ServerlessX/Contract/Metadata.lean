import ServerlessX.Py.Values
import ServerlessX.Py.Strings
import ServerlessX.Py.Sha256

/-! The fixed experiment metadata of `contract.py` and its validator. -/
namespace ServerlessX.Contract
open ServerlessX.Py ServerlessX.Py.Json

def SCHEMA : String := "serverlesspd.real-pd-gdr-contract.v1"
def SCHEMA_VERSION : Int := 1
def EVENT : String := "ack"
def STATUS : String := "pass"
def KV_LAYOUT : String := "legacy-pkv-l0k-l0v-fp16-le-v1"
def KV_DTYPE : String := "float16"

def EXPECTED_LAYER_COUNT : Nat := 22
def EXPECTED_KV_HEAD_COUNT : Int := 4
def EXPECTED_HEAD_DIM : Int := 64
def EXPECTED_PROMPT_LENGTH : Int := 128
def EXPECTED_OUTPUT_TOKENS : Int := 8
def EXPECTED_VOCAB_SIZE : Int := 32000
def EXPECTED_TENSOR_SHAPE : List Int :=
  [1, EXPECTED_KV_HEAD_COUNT, EXPECTED_PROMPT_LENGTH, EXPECTED_HEAD_DIM]
def EXPECTED_TENSOR_BYTES : Int := EXPECTED_TENSOR_SHAPE.prod * 2
def EXPECTED_TENSOR_COUNT : Nat := EXPECTED_LAYER_COUNT * 2
def EXPECTED_KV_BYTES : Int := EXPECTED_TENSOR_BYTES * EXPECTED_TENSOR_COUNT
def MAX_JSON_BYTES : Nat := 1 <<< 20

def TENSOR_KEYS : List String := ["name", "layer", "kind", "shape", "offset_bytes", "nbytes"]

def METADATA_KEYS : List String :=
  ["schema", "schema_version", "request_id", "epoch", "attempt_id", "model_id", "model_sha256",
    "tokenizer_sha256", "prompt_digest_sha256", "first_token_id", "kv_layout", "dtype",
    "prompt_length", "output_tokens", "tensors", "payload_bytes", "payload_sha256",
    "source_owner_id", "target_owner_id", "buffer_id", "source_gpu_uuid", "target_gpu_uuid",
    "source_endpoint", "target_endpoint"]

/-- The exception classes of the module; all but the built-in ones derive from
`ContractError`. -/
inductive ErrorClass where
  | contractError
  | metadataError
  | protocolError
  | ownershipError
  | builtin (b : Builtin)
deriving DecidableEq

abbrev Error := Raised ErrorClass

def Error.text (cls : ErrorClass) (s : String) : Error := ⟨cls, [.text s]⟩

def metadataError (s : String) : Error := .text .metadataError s

def isLowerHex (c : Char) : Bool := isDigit c || (97 ≤ c.toNat && c.toNat ≤ 102)

def isAlnum (c : Char) : Bool :=
  isDigit c || (65 ≤ c.toNat && c.toNat ≤ 90) || (97 ≤ c.toNat && c.toNat ≤ 122)

/-- `[0-9a-f]{64}` -/
def isSha256 (s : String) : Bool := s.toList.length == 64 && s.toList.all isLowerHex

/-- `[A-Za-z0-9][A-Za-z0-9._:-]{0,127}` -/
def isSafeId (s : String) : Bool :=
  match s.toList with
  | [] => false
  | c :: cs => isAlnum c && cs.length ≤ 127 &&
    cs.all (fun x => isAlnum x || x == '.' || x == '_' || x == ':' || x == '-')

/-- `GPU-[A-Za-z0-9][A-Za-z0-9-]{7,79}` -/
def isGpuUuid (s : String) : Bool :=
  match s.toList with
  | 'G' :: 'P' :: 'U' :: '-' :: c :: cs => isAlnum c && 7 ≤ cs.length && cs.length ≤ 79 &&
    cs.all (fun x => isAlnum x || x == '-')
  | _ => false

def isModelId (s : String) : Bool :=
  let cs := s.toList
  !cs.isEmpty && cs.length ≤ 256 &&
    cs.all (fun c => c.toNat < 128 && !(c.toNat < 0x20 || c.toNat == 0x7f))

def sortedText (keys : List String) : Json := .list ((keys.insertionSort (· ≤ ·)).map .str)

def exactObject (value : Json) (keys : List String) (fieldName : String) (error : ErrorClass) :
    Except Error Fields :=
  match value with
  | .obj f =>
    if hasKeys f keys then .ok f
    else
      let actual := f.map Prod.fst
      .error ⟨error, [.text (fieldName ++ " keys differ: missing="),
        .shown (sortedText (keys.filter fun k => !actual.contains k)), .text ", unknown=",
        .shown (sortedText (actual.filter fun k => !keys.contains k))]⟩
  | _ => .error (.text error (fieldName ++ " must be an object"))

def requireInt (value : Json) (name : String) (minimum : Int) : Except Error Int :=
  match value with
  | .int n =>
    if minimum ≤ n then .ok n
    else .error (metadataError (name ++ " must be an integer >= " ++ strInt minimum))
  | _ => .error (metadataError (name ++ " must be an integer >= " ++ strInt minimum))

/-- The string checks share one shape: the value is a string of the given form. -/
def requireForm (form : String → Bool) (value : Json) (e : Error) : Except Error String :=
  match value with
  | .str s => if form s then .ok s else .error e
  | _ => .error e

def requireSha256 (value : Json) (name : String) (error : ErrorClass) : Except Error String :=
  requireForm isSha256 value (.text error (name ++ " must be a lowercase SHA-256"))

def requireSafeId (value : Json) (name : String) (error : ErrorClass) : Except Error String :=
  requireForm isSafeId value (.text error (name ++ " must be a safe non-empty ASCII identifier"))

def requireModelId (value : Json) : Except Error String :=
  requireForm isModelId value (metadataError "model_id must be non-empty printable ASCII")

def requireGpuUuid (value : Json) (name : String) : Except Error String :=
  requireForm isGpuUuid value (metadataError (name ++ " must be a CUDA GPU UUID"))

def requireEndpoint (value : Json) (name : String) : Except Error String :=
  match value with
  | .str s =>
    if s.toList.count ':' ≠ 1 then
      .error (metadataError (name ++ " must be an IPv4 address and port"))
    else
      let (host, portText) := rsplit ':' s.toList
      match ipAddress host, intOfText portText with
      | some address, some port =>
        -- text without a colon is never IPv6, so `address.version` is 4
        if addressText address ≠ host || !(1 ≤ port && port ≤ 65535) then
          .error (metadataError (name ++ " must be a canonical IPv4 address and valid port"))
        else if portText ≠ intChars port then
          .error (metadataError (name ++ " port must use canonical decimal notation"))
        else .ok s
      | _, _ => .error (metadataError (name ++ " must be an IPv4 address and port"))
  | _ => .error (metadataError (name ++ " must be an IPv4 address and port"))

def kindOf (index : Nat) : String := if index % 2 = 0 then "K" else "V"

def tensorName (index : Nat) : String := "L" ++ strInt (index / 2 : Nat) ++ kindOf index

/-- `not isinstance(shape, list) or any(not _is_int(item)) or shape != expected`, negated. -/
def isShape (shape : Json) (expected : List Int) : Bool :=
  match shape with
  | .list items => items.all isInt && pyEq (.list items) (.list (expected.map .int))
  | _ => false

def validateTensor (value : Json) (index : Nat) : Except Error Json := do
  let path := "tensors[" ++ strInt index ++ "]"
  let tensor ← exactObject value TENSOR_KEYS path .metadataError
  let layer : Int := (index / 2 : Nat)
  let expectedOffset : Int := index * EXPECTED_TENSOR_BYTES
  require (pyEq (get tensor "name") (.str (tensorName index)))
    (metadataError (path ++ ".name must equal " ++ tensorName index))
  require (isInt (get tensor "layer") && pyEq (get tensor "layer") (.int layer))
    (metadataError (path ++ ".layer must equal " ++ strInt layer))
  require (pyEq (get tensor "kind") (.str (kindOf index)))
    (metadataError (path ++ ".kind must equal " ++ kindOf index))
  require (isShape (get tensor "shape") EXPECTED_TENSOR_SHAPE)
    ⟨.metadataError, [.text (path ++ ".shape must equal "),
      .shown (.list (EXPECTED_TENSOR_SHAPE.map .int))]⟩
  require (isInt (get tensor "offset_bytes") &&
      pyEq (get tensor "offset_bytes") (.int expectedOffset))
    (metadataError (path ++ ".offset_bytes must equal " ++ strInt expectedOffset))
  require (isInt (get tensor "nbytes") && pyEq (get tensor "nbytes") (.int EXPECTED_TENSOR_BYTES))
    (metadataError (path ++ ".nbytes must equal " ++ strInt EXPECTED_TENSOR_BYTES))
  return .obj tensor

/-- `[_validate_tensor(tensor, index) for index, tensor in enumerate(tensors)]` -/
def validateTensors (index : Nat) : List Json → Except Error (List Json)
  | [] => .ok []
  | tensor :: tensors => do
    let head ← validateTensor tensor index
    let rest ← validateTensors (index + 1) tensors
    return head :: rest

def checkExpected (metadata : Fields) : Fields → Except Error Unit
  | [] => .ok ()
  | (name, wanted) :: rest => do
    require (pyEq (get metadata name) wanted && sameType (get metadata name) wanted)
      ⟨.metadataError, [.text ("metadata " ++ name ++ " mismatch: expected "), .repr wanted,
        .text ", got ", .repr (get metadata name)]⟩
    checkExpected metadata rest

/-- The `expected=` part of `validate_metadata`; `none` is the default. -/
def checkIdentity (metadata : Fields) : Option Json → Except Error Unit
  | none => .ok ()
  | some (.obj expected) => do
    let unknown := (expected.map Prod.fst).filter fun k => !METADATA_KEYS.contains k
    require unknown.isEmpty
      ⟨.metadataError, [.text "expected metadata contains unknown fields: ",
        .shown (sortedText unknown)]⟩
    checkExpected metadata expected
  | some _ => .error (metadataError "expected metadata identity must be an object")

def requireDistinct (metadata : Fields) (source target : String) : Except Error Unit :=
  require (!pyEq (get metadata source) (get metadata target))
    (metadataError (source ++ " and " ++ target ++ " must differ"))

def requireIntValue (metadata : Fields) (name : String) (wanted : Int) : Except Error Unit :=
  require (isInt (get metadata name) && pyEq (get metadata name) (.int wanted))
    (metadataError (name ++ " must equal " ++ strInt wanted))

def requireStrValue (metadata : Fields) (name wanted : String) : Except Error Unit :=
  require (pyEq (get metadata name) (.str wanted))
    (metadataError (name ++ " must equal " ++ wanted))

def tensorList (value : Json) : Except Error (List Json) :=
  match value with
  | .list tensors =>
    if tensors.length = EXPECTED_TENSOR_COUNT then .ok tensors
    else .error (metadataError ("tensors must contain exactly " ++
      strInt EXPECTED_TENSOR_COUNT ++ " entries"))
  | _ => .error (metadataError ("tensors must contain exactly " ++
      strInt EXPECTED_TENSOR_COUNT ++ " entries"))

def validateMetadata (value : Json) (expected : Option Json) : Except Error Json := do
  let metadata ← exactObject value METADATA_KEYS "metadata" .metadataError
  requireStrValue metadata "schema" SCHEMA
  requireIntValue metadata "schema_version" SCHEMA_VERSION
  let _ ← requireSafeId (get metadata "request_id") "request_id" .metadataError
  let _ ← requireInt (get metadata "epoch") "epoch" 0
  let _ ← requireSafeId (get metadata "attempt_id") "attempt_id" .metadataError
  let _ ← requireModelId (get metadata "model_id")
  let _ ← requireSha256 (get metadata "model_sha256") "model_sha256" .metadataError
  let _ ← requireSha256 (get metadata "tokenizer_sha256") "tokenizer_sha256" .metadataError
  let _ ← requireSha256 (get metadata "prompt_digest_sha256") "prompt_digest_sha256" .metadataError
  let _ ← requireSha256 (get metadata "payload_sha256") "payload_sha256" .metadataError
  let firstTokenId ← requireInt (get metadata "first_token_id") "first_token_id" 0
  require (firstTokenId < EXPECTED_VOCAB_SIZE)
    (metadataError ("first_token_id must be < " ++ strInt EXPECTED_VOCAB_SIZE))
  requireStrValue metadata "kv_layout" KV_LAYOUT
  requireStrValue metadata "dtype" KV_DTYPE
  requireIntValue metadata "prompt_length" EXPECTED_PROMPT_LENGTH
  requireIntValue metadata "output_tokens" EXPECTED_OUTPUT_TOKENS
  let tensors ← tensorList (get metadata "tensors")
  let normalizedTensors ← validateTensors 0 tensors
  requireIntValue metadata "payload_bytes" EXPECTED_KV_BYTES
  let _ ← requireSafeId (get metadata "source_owner_id") "source_owner_id" .metadataError
  let _ ← requireSafeId (get metadata "target_owner_id") "target_owner_id" .metadataError
  let _ ← requireSafeId (get metadata "buffer_id") "buffer_id" .metadataError
  requireDistinct metadata "source_owner_id" "target_owner_id"
  let _ ← requireGpuUuid (get metadata "source_gpu_uuid") "source_gpu_uuid"
  let _ ← requireGpuUuid (get metadata "target_gpu_uuid") "target_gpu_uuid"
  requireDistinct metadata "source_gpu_uuid" "target_gpu_uuid"
  let _ ← requireEndpoint (get metadata "source_endpoint") "source_endpoint"
  let _ ← requireEndpoint (get metadata "target_endpoint") "target_endpoint"
  requireDistinct metadata "source_endpoint" "target_endpoint"
  checkIdentity metadata expected
  return .obj (Dict.set metadata "tensors" (.list normalizedTensors))

/-- One entry of `build_fixed_tensors`. -/
def fixedTensor (index : Nat) : Json :=
  .obj [("name", .str (tensorName index)), ("layer", .int (index / 2 : Nat)),
    ("kind", .str (kindOf index)), ("shape", .list (EXPECTED_TENSOR_SHAPE.map .int)),
    ("offset_bytes", .int (index * EXPECTED_TENSOR_BYTES)), ("nbytes", .int EXPECTED_TENSOR_BYTES)]

def buildFixedTensors : List Json := (List.range EXPECTED_TENSOR_COUNT).map fixedTensor

theorem exactObject_eq_ok (v : Json) (keys : List String) (name : String) (e : ErrorClass)
    (f : Fields) : exactObject v keys name e = .ok f ↔ v = .obj f ∧ hasKeys f keys = true := by
  cases v with
  | obj g => simpa [exactObject] using checked_eq_ok (fun g => hasKeys g keys = true) g f _
  | _ => simp [exactObject]

theorem requireForm_eq_ok (form : String → Bool) (v : Json) (e : Error) (s : String) :
    requireForm form v e = .ok s ↔ v = .str s ∧ form s = true := by
  cases v with
  | str t => simpa [requireForm] using checked_eq_ok (fun t => form t = true) t s e
  | _ => simp [requireForm]

theorem requireInt_eq_ok (v : Json) (name : String) (minimum n : Int) :
    requireInt v name minimum = .ok n ↔ v = .int n ∧ minimum ≤ n := by
  cases v with
  | int m => simpa [requireInt] using checked_eq_ok (fun m => minimum ≤ m) m n _
  | _ => simp [requireInt]

theorem requireStrValue_eq_ok (f : Fields) (name wanted : String) (u : Unit) :
    requireStrValue f name wanted = .ok u ↔ get f name = .str wanted := by
  simp [requireStrValue]

theorem requireIntValue_eq_ok (f : Fields) (name : String) (wanted : Int) (u : Unit) :
    requireIntValue f name wanted = .ok u ↔ get f name = .int wanted := by
  simp only [requireIntValue, require_eq_ok, Bool.and_eq_true]
  exact isInt_and_pyEq _ _

theorem pyEq_int_list (xs : List Json) (ns : List Int) :
    (xs.all isInt && pyEqList xs (ns.map .int)) = true ↔ xs = ns.map .int := by
  induction xs generalizing ns with
  | nil => cases ns <;> simp [pyEqList]
  | cons x xs ih =>
    cases ns with
    | nil => simp [pyEqList]
    | cons n ns =>
      have hx := isInt_and_pyEq x n
      have hxs := ih ns
      simp only [Bool.and_eq_true] at hxs
      simp only [List.all_cons, List.map_cons, pyEqList, Bool.and_eq_true, List.cons.injEq,
        ← hx, ← hxs]
      tauto

theorem isShape_iff (v : Json) (ns : List Int) :
    isShape v ns = true ↔ v = .list (ns.map .int) := by
  cases v with
  | list xs => simpa only [isShape, pyEq, Json.list.injEq] using pyEq_int_list xs ns
  | _ => simp [isShape]

theorem validateTensor_eq_ok (v : Json) (index : Nat) (w : Json) :
    validateTensor v index = .ok w ↔ w = v ∧ Same v (fixedTensor index) := by
  simp only [validateTensor, bind_eq_ok, exactObject_eq_ok, require_eq_ok, Bool.and_eq_true,
    isInt_and_pyEq, isShape_iff, pyEq_str, pure, Except.pure, Except.ok.injEq]
  constructor
  · rintro ⟨f, ⟨rfl, hk⟩, -, hname, -, hlayer, -, hkind, -, hshape, -, hoffset, -, hbytes, rfl⟩
    refine ⟨rfl, (same_obj_iff_fields _ _ (by simp)).mpr ⟨hk, ?_⟩⟩
    simp [hname, hlayer, hkind, hshape, hoffset, hbytes]
  · rintro ⟨rfl, hs⟩
    obtain ⟨f, rfl⟩ := same_obj_left hs
    obtain ⟨hk, hv⟩ := (same_obj_iff_fields _ _ (by simp)).mp hs
    simp only [List.mem_cons, List.not_mem_nil, or_false, forall_eq_or_imp, forall_eq, same_str,
      same_int, same_int_list] at hv
    obtain ⟨hname, hlayer, hkind, hshape, hoffset, hbytes⟩ := hv
    exact ⟨f, ⟨rfl, hk⟩, (), hname, (), hlayer, (), hkind, (), hshape, (), hoffset, (), hbytes, rfl⟩

theorem validateTensors_eq_ok (index : Nat) (tensors ws : List Json) :
    validateTensors index tensors = .ok ws ↔ ws = tensors ∧
      List.Forall₂ Same tensors ((List.range' index tensors.length).map fixedTensor) := by
  induction tensors generalizing index ws with
  | nil => simp [validateTensors, eq_comm]
  | cons t ts ih =>
    simp only [validateTensors, bind_eq_ok, validateTensor_eq_ok, ih, pure, Except.pure,
      Except.ok.injEq, List.length_cons, List.range'_succ, List.map_cons, List.forall₂_cons]
    constructor
    · rintro ⟨_, ⟨rfl, ht⟩, _, ⟨rfl, hts⟩, rfl⟩
      exact ⟨rfl, ht, hts⟩
    · rintro ⟨rfl, ht, hts⟩
      exact ⟨t, ⟨rfl, ht⟩, ts, ⟨rfl, hts⟩, rfl⟩

theorem tensorList_eq_ok (v : Json) (ts : List Json) :
    tensorList v = .ok ts ↔ v = .list ts ∧ ts.length = EXPECTED_TENSOR_COUNT := by
  cases v with
  | list xs => simpa [tensorList] using
      checked_eq_ok (fun xs : List Json => xs.length = EXPECTED_TENSOR_COUNT) xs ts _
  | _ => simp [tensorList]

/-- The strings `_require_endpoint` accepts. -/
def isEndpoint (s : String) : Bool :=
  s.toList.count ':' == 1 &&
    (match ipAddress (rsplit ':' s.toList).1, intOfText (rsplit ':' s.toList).2 with
    | some address, some port => addressText address == (rsplit ':' s.toList).1 &&
      decide (1 ≤ port ∧ port ≤ 65535) && (rsplit ':' s.toList).2 == intChars port
    | _, _ => false)

theorem requireEndpoint_eq_ok (v : Json) (name s : String) :
    requireEndpoint v name = .ok s ↔ v = .str s ∧ isEndpoint s = true := by
  cases v with
  | str t =>
    have key : requireEndpoint (.str t) name = .ok s ↔ t = s ∧ isEndpoint t = true := by
      unfold requireEndpoint isEndpoint
      by_cases hc : t.toList.count ':' = 1
      · cases ha : ipAddress (rsplit ':' t.toList).1 with
        | none => simp [hc, ha]
        | some address =>
          cases hp : intOfText (rsplit ':' t.toList).2 with
          | none => simp [hc, ha, hp]
          | some port =>
            by_cases h1 : addressText address = (rsplit ':' t.toList).1
            · by_cases h2 : 1 ≤ port ∧ port ≤ 65535
              · by_cases h3 : (rsplit ':' t.toList).2 = intChars port
                · simp [hc, ha, hp, h1, h2, ← h3]
                · simp [hc, ha, hp, h1, h2, h3]
              · have h2' : (decide (1 ≤ port) && decide (port ≤ 65535)) = false := by
                  simpa using h2
                simp [hc, ha, hp, h1, h2, h2']
            · simp [hc, ha, hp, h1]
      · simp [hc]
    rw [key, Json.str.injEq]
    constructor <;> (rintro ⟨rfl, h⟩; exact ⟨rfl, h⟩)
  | _ => simp [requireEndpoint]

/-- What `validate_metadata` asks of a dict, field by field. -/
structure ValidMetadata (f : Fields) : Prop where
  keys : hasKeys f METADATA_KEYS = true
  schema : get f "schema" = .str SCHEMA
  schemaVersion : get f "schema_version" = .int SCHEMA_VERSION
  requestId : ∃ s, get f "request_id" = .str s ∧ isSafeId s = true
  epoch : ∃ n, get f "epoch" = .int n ∧ 0 ≤ n
  attemptId : ∃ s, get f "attempt_id" = .str s ∧ isSafeId s = true
  modelId : ∃ s, get f "model_id" = .str s ∧ isModelId s = true
  modelSha : ∃ s, get f "model_sha256" = .str s ∧ isSha256 s = true
  tokenizerSha : ∃ s, get f "tokenizer_sha256" = .str s ∧ isSha256 s = true
  promptDigest : ∃ s, get f "prompt_digest_sha256" = .str s ∧ isSha256 s = true
  payloadSha : ∃ s, get f "payload_sha256" = .str s ∧ isSha256 s = true
  firstToken : ∃ n, get f "first_token_id" = .int n ∧ 0 ≤ n ∧ n < EXPECTED_VOCAB_SIZE
  kvLayout : get f "kv_layout" = .str KV_LAYOUT
  dtype : get f "dtype" = .str KV_DTYPE
  promptLength : get f "prompt_length" = .int EXPECTED_PROMPT_LENGTH
  outputTokens : get f "output_tokens" = .int EXPECTED_OUTPUT_TOKENS
  tensors : ∃ ts, get f "tensors" = .list ts ∧ List.Forall₂ Same ts buildFixedTensors
  payloadBytes : get f "payload_bytes" = .int EXPECTED_KV_BYTES
  sourceOwner : ∃ s, get f "source_owner_id" = .str s ∧ isSafeId s = true
  targetOwner : ∃ s, get f "target_owner_id" = .str s ∧ isSafeId s = true
  bufferId : ∃ s, get f "buffer_id" = .str s ∧ isSafeId s = true
  owners : get f "source_owner_id" ≠ get f "target_owner_id"
  sourceGpu : ∃ s, get f "source_gpu_uuid" = .str s ∧ isGpuUuid s = true
  targetGpu : ∃ s, get f "target_gpu_uuid" = .str s ∧ isGpuUuid s = true
  gpus : get f "source_gpu_uuid" ≠ get f "target_gpu_uuid"
  sourceEndpoint : ∃ s, get f "source_endpoint" = .str s ∧ isEndpoint s = true
  targetEndpoint : ∃ s, get f "target_endpoint" = .str s ∧ isEndpoint s = true
  endpoints : get f "source_endpoint" ≠ get f "target_endpoint"

theorem requireDistinct_eq_ok {f : Fields} {source target t : String}
    (ht : get f target = .str t) (u : Unit) :
    requireDistinct f source target = .ok u ↔ get f source ≠ get f target := by
  simp only [requireDistinct, require_eq_ok, ht, Bool.not_eq_true', ne_eq, ← pyEq_str,
    Bool.not_eq_true]

theorem fixedTensors_of_length {tensors : List Json} (h : tensors.length = EXPECTED_TENSOR_COUNT) :
    (List.range' 0 tensors.length).map fixedTensor = buildFixedTensors := by
  rw [h, buildFixedTensors, List.range_eq_range']

/-- `validate_metadata` accepts exactly the valid dicts and returns what it got. -/
theorem validateMetadata_eq_ok (v w : Json) :
    validateMetadata v none = .ok w ↔ w = v ∧ ∃ f, v = .obj f ∧ ValidMetadata f := by
  simp only [validateMetadata, bind_eq_ok, exactObject_eq_ok, requireStrValue_eq_ok,
    requireIntValue_eq_ok, requireSafeId, requireSha256, requireModelId, requireGpuUuid,
    requireForm_eq_ok, requireInt_eq_ok, requireEndpoint_eq_ok, require_eq_ok, tensorList_eq_ok,
    validateTensors_eq_ok, checkIdentity, pure, Except.pure, Except.ok.injEq,
    decide_eq_true_eq]
  constructor
  · rintro ⟨f, ⟨hv, keys⟩, _, schema, _, schemaVersion, _, requestId, _, epoch, _, attemptId,
      _, modelId, _, modelSha, _, tokenizerSha, _, promptDigest, _, payloadSha, first,
      ⟨firstToken, firstNonneg⟩, _, firstBound, _, kvLayout, _, dtype, _, promptLength, _,
      outputTokens, _, ⟨tensors, count⟩, ts, ⟨hts, entries⟩, _, payloadBytes, _, sourceOwner, _,
      targetOwner, _, bufferId, _, owners, _, sourceGpu, _, targetGpu, _, gpus, _,
      sourceEndpoint, _, targetEndpoint, _, endpoints, _, _, hw⟩
    subst hv hts hw
    rw [requireDistinct_eq_ok targetOwner.1] at owners
    rw [requireDistinct_eq_ok targetGpu.1] at gpus
    rw [requireDistinct_eq_ok targetEndpoint.1] at endpoints
    rw [fixedTensors_of_length count] at entries
    have hlook : f.lookup "tensors" = some (.list ts) := by
      rw [lookup_of_hasKeys keys (by simp [METADATA_KEYS]), tensors]
    refine ⟨by rw [Dict.set_self hlook], f, rfl, ?_⟩
    exact ⟨keys, schema, schemaVersion, ⟨_, requestId⟩, ⟨_, epoch⟩, ⟨_, attemptId⟩, ⟨_, modelId⟩,
      ⟨_, modelSha⟩, ⟨_, tokenizerSha⟩, ⟨_, promptDigest⟩, ⟨_, payloadSha⟩,
      ⟨first, firstToken, firstNonneg, firstBound⟩, kvLayout, dtype, promptLength, outputTokens,
      ⟨ts, tensors, entries⟩, payloadBytes, ⟨_, sourceOwner⟩, ⟨_, targetOwner⟩, ⟨_, bufferId⟩,
      owners, ⟨_, sourceGpu⟩, ⟨_, targetGpu⟩, gpus, ⟨_, sourceEndpoint⟩, ⟨_, targetEndpoint⟩,
      endpoints⟩
  · rintro ⟨rfl, f, rfl, h⟩
    obtain ⟨rid, hrid⟩ := h.requestId
    obtain ⟨n, hn⟩ := h.epoch
    obtain ⟨att, hatt⟩ := h.attemptId
    obtain ⟨model, hmodel⟩ := h.modelId
    obtain ⟨msha, hmsha⟩ := h.modelSha
    obtain ⟨tsha, htsha⟩ := h.tokenizerSha
    obtain ⟨pdig, hpdig⟩ := h.promptDigest
    obtain ⟨psha, hpsha⟩ := h.payloadSha
    obtain ⟨first, hfirst, hnonneg, hbound⟩ := h.firstToken
    obtain ⟨ts, hts, hentries⟩ := h.tensors
    obtain ⟨src, hsrc⟩ := h.sourceOwner
    obtain ⟨tgt, htgt⟩ := h.targetOwner
    obtain ⟨buf, hbuf⟩ := h.bufferId
    obtain ⟨sgpu, hsgpu⟩ := h.sourceGpu
    obtain ⟨tgpu, htgpu⟩ := h.targetGpu
    obtain ⟨sep, hsep⟩ := h.sourceEndpoint
    obtain ⟨tep, htep⟩ := h.targetEndpoint
    have hcount : ts.length = EXPECTED_TENSOR_COUNT := by
      rw [hentries.length_eq, buildFixedTensors, List.length_map, List.length_range]
    have hlook : f.lookup "tensors" = some (.list ts) := by
      rw [lookup_of_hasKeys h.keys (by simp [METADATA_KEYS]), hts]
    exact ⟨f, ⟨rfl, h.keys⟩, (), h.schema, (), h.schemaVersion, rid, hrid, n, hn, att, hatt, model,
      hmodel, msha, hmsha, tsha, htsha, pdig, hpdig, psha, hpsha, first, ⟨hfirst, hnonneg⟩, (),
      hbound, (), h.kvLayout, (), h.dtype, (), h.promptLength, (), h.outputTokens, ts,
      ⟨hts, hcount⟩, ts, ⟨rfl, by rw [fixedTensors_of_length hcount]; exact hentries⟩, (),
      h.payloadBytes, src, hsrc, tgt, htgt, buf, hbuf, (),
      (requireDistinct_eq_ok htgt.1 _).mpr h.owners, sgpu, hsgpu, tgpu, htgpu, (),
      (requireDistinct_eq_ok htgpu.1 _).mpr h.gpus, sep, hsep, tep, htep, (),
      (requireDistinct_eq_ok htep.1 _).mpr h.endpoints, (), trivial, by rw [Dict.set_self hlook]⟩

/-- Metadata that passed validation. -/
structure Metadata where
  fields : Fields
  valid : ValidMetadata fields

namespace Metadata

def strAt (m : Metadata) (k : String) : String :=
  match get m.fields k with
  | .str s => s
  | _ => ""

def json (m : Metadata) : Json := .obj m.fields
def requestId (m : Metadata) : String := m.strAt "request_id"
def attemptId (m : Metadata) : String := m.strAt "attempt_id"
def bufferId (m : Metadata) : String := m.strAt "buffer_id"
def sourceOwner (m : Metadata) : String := m.strAt "source_owner_id"
def targetOwner (m : Metadata) : String := m.strAt "target_owner_id"
def payloadSha (m : Metadata) : String := m.strAt "payload_sha256"
def epoch (m : Metadata) : Int :=
  match get m.fields "epoch" with
  | .int n => n
  | _ => 0

theorem validate (m : Metadata) : validateMetadata m.json none = .ok m.json :=
  (validateMetadata_eq_ok _ _).mpr ⟨rfl, m.fields, rfl, m.valid⟩

theorem get_strAt (m : Metadata) {k : String} {form : String → Bool}
    (h : ∃ s, get m.fields k = .str s ∧ form s = true) :
    get m.fields k = .str (m.strAt k) ∧ form (m.strAt k) = true := by
  obtain ⟨s, hs, hf⟩ := h
  simp [strAt, hs, hf]

theorem get_requestId (m : Metadata) : get m.fields "request_id" = .str m.requestId :=
  (m.get_strAt m.valid.requestId).1

theorem get_attemptId (m : Metadata) : get m.fields "attempt_id" = .str m.attemptId :=
  (m.get_strAt m.valid.attemptId).1

theorem get_bufferId (m : Metadata) : get m.fields "buffer_id" = .str m.bufferId :=
  (m.get_strAt m.valid.bufferId).1

theorem get_sourceOwner (m : Metadata) : get m.fields "source_owner_id" = .str m.sourceOwner :=
  (m.get_strAt m.valid.sourceOwner).1

theorem get_targetOwner (m : Metadata) : get m.fields "target_owner_id" = .str m.targetOwner :=
  (m.get_strAt m.valid.targetOwner).1

theorem get_payloadSha (m : Metadata) : get m.fields "payload_sha256" = .str m.payloadSha :=
  (m.get_strAt m.valid.payloadSha).1

theorem get_epoch (m : Metadata) : get m.fields "epoch" = .int m.epoch := by
  obtain ⟨n, hn, -⟩ := m.valid.epoch
  simp [epoch, hn]

theorem owners_ne (m : Metadata) : m.sourceOwner ≠ m.targetOwner := by
  intro h
  apply m.valid.owners
  rw [m.get_sourceOwner, m.get_targetOwner, h]

theorem payloadSha_form (m : Metadata) : isSha256 m.payloadSha = true :=
  (m.get_strAt m.valid.payloadSha).2

theorem sourceOwner_form (m : Metadata) : isSafeId m.sourceOwner = true :=
  (m.get_strAt m.valid.sourceOwner).2

theorem targetOwner_form (m : Metadata) : isSafeId m.targetOwner = true :=
  (m.get_strAt m.valid.targetOwner).2

end Metadata

/-- The value `validate_metadata` returns, carried with its validity. -/
def validated (v : Json) : Except Error Metadata :=
  match h : validateMetadata v none with
  | .error e => .error e
  | .ok (.obj f) => .ok ⟨f, by
      obtain ⟨hw, g, hg, hv⟩ := (validateMetadata_eq_ok _ _).mp h
      rw [← hw] at hg
      cases hg
      exact hv⟩
  | .ok _ => .error (metadataError "metadata must be an object")

theorem validated_eq_ok (v : Json) (m : Metadata) : validated v = .ok m ↔ v = m.json := by
  constructor
  · intro h
    unfold validated at h
    split at h
    · cases h
    · next f hf =>
      cases h
      exact ((validateMetadata_eq_ok _ _).mp hf).1.symm
    · cases h
  · rintro rfl
    have hm := m.validate
    unfold validated
    split
    · next e he =>
      rw [hm] at he
      cases he
    · next f hf =>
      rw [hm] at hf
      cases hf
      rfl
    · next w hw hn =>
      rw [hm] at hn
      cases hn
      exact absurd rfl (hw m.fields)

theorem json_injective {m m' : Metadata} (h : m.json = m'.json) : m = m' := by
  cases m
  cases m'
  simpa [Metadata.json] using h

theorem isSha256_hexdigest (b : Bytes) : isSha256 (Sha256.hexdigest b) = true := by
  have hdigit : ∀ n < 16, isLowerHex (Sha256.hexDigit n) = true := by decide
  obtain ⟨hlen, hall⟩ := Sha256.hexdigest_form hdigit b
  simp [isSha256, hlen, hall]

/-- `make_metadata` of the contract's tests. -/
def makeMetadata (requestId : String) (epoch : Int) (attemptId : String) : Fields :=
  [("schema", .str SCHEMA), ("schema_version", .int SCHEMA_VERSION),
    ("request_id", .str requestId), ("epoch", .int epoch), ("attempt_id", .str attemptId),
    ("model_id", .str "TinyLlama/TinyLlama-1.1B-Chat-v1.0"),
    ("model_sha256", .str (String.ofList (List.replicate 64 '1'))),
    ("tokenizer_sha256", .str (String.ofList (List.replicate 64 '2'))),
    ("prompt_digest_sha256", .str (String.ofList (List.replicate 64 '3'))),
    ("first_token_id", .int 2008), ("kv_layout", .str KV_LAYOUT), ("dtype", .str "float16"),
    ("prompt_length", .int 128), ("output_tokens", .int 8), ("tensors", .list buildFixedTensors),
    ("payload_bytes", .int EXPECTED_KV_BYTES),
    ("payload_sha256", .str (String.ofList (List.replicate 64 '4'))),
    ("source_owner_id", .str "source-p.123.456"), ("target_owner_id", .str "target-d.789.012"),
    ("buffer_id", .str ("buffer-" ++ attemptId)),
    ("source_gpu_uuid", .str "GPU-11111111-1111-1111-1111-111111111111"),
    ("target_gpu_uuid", .str "GPU-22222222-2222-2222-2222-222222222222"),
    ("source_endpoint", .str "192.0.2.12:12855"), ("target_endpoint", .str "192.0.2.13:12856")]

/-- Metadata that `validate_metadata` accepts. -/
def Metadata.ofFields (f : Fields) (h : (validateMetadata (.obj f) none).isOk = true) :
    Metadata where
  fields := f
  valid := by
    obtain ⟨w, hv⟩ := ok_of_isOk h
    obtain ⟨-, g, hg, hg'⟩ := (validateMetadata_eq_ok _ _).mp hv
    cases hg
    exact hg'

/-- Two attempts of one request, as the contract's ledger tests open them. -/
def attempt7 : Metadata := .ofFields (makeMetadata "spd-request-01" 7 "a7") (by decide +kernel)
def attempt8 : Metadata := .ofFields (makeMetadata "spd-request-01" 8 "a8") (by decide +kernel)

end ServerlessX.Contract
