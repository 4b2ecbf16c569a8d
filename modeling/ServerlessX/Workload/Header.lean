import ServerlessX.Py.JsonText
import ServerlessX.Workload.Layout

/-! The KV header: what the prefill side builds and what the decode side accepts. -/
namespace ServerlessX.Workload
open ServerlessX.Py ServerlessX.Py.Json

def KV_SCHEMA : String := "serverlesspd.real-kv.v1"
def KV_LAYOUT : String := "legacy-pkv-l0k-l0v-fp16-le-v1"
def MAX_HEADER_BYTES : Nat := 1 <<< 20
def MAX_PAYLOAD_BYTES : Nat := 1 <<< 30

structure ExpectedKv where
  modelId : String
  modelSha256 : String
  tokenizerSha256 : String
  requestId : String
  epoch : Int
  promptLength : Int
  promptDigestSha256 : String
  outputTokens : Int
  modelInfo : ModelInfo

def requireInt (value : Json) (field : String) (minimum : Int) : Except Error Int :=
  match value with
  | .int n =>
    if minimum ≤ n then .ok n
    else .error (workloadError (field ++ " must be an integer >= " ++ strInt minimum))
  | _ => .error (workloadError (field ++ " must be an integer >= " ++ strInt minimum))

def requireSha256 (value : Json) (field : String) : Except Error String :=
  match value with
  | .str s =>
    if Contract.isSha256 s then .ok s
    else .error (workloadError (field ++ " must be a lowercase SHA-256"))
  | _ => .error (workloadError (field ++ " must be a lowercase SHA-256"))

/-- `sorted(keys)`, as a list of strings. -/
def sortedKeys (keys : List String) : Json :=
  .list ((keys.dedup.insertionSort (· ≤ ·)).map .str)

def requireExactKeys (value : Fields) (expected : List String) (field : String) :
    Except Error Unit :=
  require (hasKeys value expected)
    ⟨.workloadError, [.text (field ++ " keys differ from contract: expected "),
      .shown (sortedKeys expected), .text ", got ", .shown (sortedKeys (value.map Prod.fst))]⟩

def canonicalJsonBytes (value : Json) : Except Error Bytes :=
  match value.dumps with
  | .ok b => .ok b
  | .error e => .error ⟨.workloadError, .text "value is not canonical JSON: " :: e.message⟩

def HEADER_KEYS : List String :=
  ["schema", "schema_version", "layout", "dtype", "model_id", "model_sha256", "tokenizer_sha256",
    "request_id", "epoch", "prompt_length", "prompt_digest_sha256", "output_tokens", "layer_count",
    "kv_head_count", "head_dim", "tensors", "payload_bytes", "payload_sha256", "first_token_id"]

def TENSOR_KEYS : List String := ["name", "layer", "kind", "shape", "offset_bytes", "nbytes"]

/-- `not (v != wanted or (isinstance(wanted, int) and not _is_int(v)))`. -/
def agrees (v wanted : Json) : Bool := pyEq v wanted && (!wanted.isInt || v.isInt)

/-- The loop over `exact_values` and over a tensor's `wanted`; `label` is the
text before " mismatch". -/
def checkValues (label : String → String) (f : Fields) : Fields → Except Error Unit
  | [] => .ok ()
  | (key, wanted) :: rest => do
    require (agrees (get f key) wanted)
      ⟨.workloadError, [.text (label key ++ " mismatch: expected "), .repr wanted, .text ", got ",
        .repr (get f key)]⟩
    checkValues label f rest

/-- The fields of a header that the receiver knows beforehand. -/
def exactValues (expected : ExpectedKv) : Fields :=
  [("schema", .str KV_SCHEMA), ("schema_version", .int 1), ("layout", .str KV_LAYOUT),
    ("dtype", .str "float16"), ("model_id", .str expected.modelId),
    ("model_sha256", .str expected.modelSha256),
    ("tokenizer_sha256", .str expected.tokenizerSha256), ("request_id", .str expected.requestId),
    ("epoch", .int expected.epoch), ("prompt_length", .int expected.promptLength),
    ("prompt_digest_sha256", .str expected.promptDigestSha256),
    ("output_tokens", .int expected.outputTokens),
    ("layer_count", .int expected.modelInfo.layerCount),
    ("kv_head_count", .int expected.modelInfo.kvHeadCount),
    ("head_dim", .int expected.modelInfo.headDim)]

def wantedTensor (shape : List Int) (index : Nat) (offset : Int) : Fields :=
  [("name", .str (slotName (index / 2) (Contract.kindOf index))), ("layer", .int (index / 2 : Nat)),
    ("kind", .str (Contract.kindOf index)), ("shape", .list (shape.map .int)),
    ("offset_bytes", .int offset), ("nbytes", .int (shape.prod * 2))]

def checkTensorEntry (shape : List Int) (index : Nat) (offset : Int) (tensor : Json) :
    Except Error Unit :=
  let field := "KV header tensors[" ++ strInt index ++ "]"
  match tensor with
  | .obj f => do
    requireExactKeys f TENSOR_KEYS field
    checkValues (fun key => field ++ "." ++ key) f (wantedTensor shape index offset)
  | _ => .error (workloadError (field ++ " must be an object"))

/-- The loop over the tensors; it returns the final offset. -/
def checkTensors (shape : List Int) (index : Nat) (offset : Int) : List Json → Except Error Int
  | [] => .ok offset
  | tensor :: tensors => do
    checkTensorEntry shape index offset tensor
    checkTensors shape (index + 1) (offset + shape.prod * 2) tensors

def tensorList (tensors : Json) (expectedCount : Int) : Except Error (List Json) :=
  match tensors with
  | .list ts =>
    if (ts.length : Int) = expectedCount then .ok ts
    else .error (workloadError
      ("KV header must describe exactly " ++ strInt expectedCount ++ " tensors"))
  | _ => .error (workloadError
      ("KV header must describe exactly " ++ strInt expectedCount ++ " tensors"))

def validateKvHeader (header : Json) (expected : ExpectedKv) : Except Error Fields :=
  match header with
  | .obj f => do
    requireExactKeys f HEADER_KEYS "KV header"
    checkValues (fun key => "KV header " ++ key) f (exactValues expected)
    let _ ← requireSha256 (get f "model_sha256") "KV header model_sha256"
    let _ ← requireSha256 (get f "tokenizer_sha256") "KV header tokenizer_sha256"
    let _ ← requireSha256 (get f "prompt_digest_sha256") "KV header prompt digest"
    let _ ← requireSha256 (get f "payload_sha256") "KV header payload digest"
    let firstTokenId ← requireInt (get f "first_token_id") "first_token_id" 0
    require (decide (firstTokenId < expected.modelInfo.vocabSize))
      (workloadError "KV header first token ID is outside the vocabulary")
    let tensors ← tensorList (get f "tensors") (expected.modelInfo.layerCount * 2)
    let offset ← checkTensors (expectedShape expected.modelInfo expected.promptLength) 0 0 tensors
    let payloadBytes ← requireInt (get f "payload_bytes") "payload_bytes" 1
    require (payloadBytes == offset)
      (workloadError ("KV payload size " ++ strInt payloadBytes ++
        " does not match tensor layout " ++ strInt offset))
    require (decide (payloadBytes ≤ MAX_PAYLOAD_BYTES))
      (workloadError "KV payload exceeds the receiver safety limit")
    return f
  | _ => .error (workloadError "KV header must be a JSON object")

section Digests
variable (sha256 : Bytes → String)

def kvHeader (expected : ExpectedKv) (packed : PackedKv) (firstTokenId : Int) : Fields :=
  exactValues expected ++
    [("tensors", .list packed.tensors), ("payload_bytes", .int packed.payload.length),
      ("payload_sha256", .str (sha256 packed.payload)), ("first_token_id", .int firstTokenId)]

def buildKvHeader (expected : ExpectedKv) (packed : PackedKv) (firstTokenId : Int) :
    Except Error Fields := do
  require (decide (0 ≤ firstTokenId ∧ firstTokenId < expected.modelInfo.vocabSize))
    (workloadError "first token ID is outside the model vocabulary")
  let header := kvHeader sha256 expected packed firstTokenId
  let _ ← validateKvHeader (.obj header) expected
  return header

def validatePayload (header : Fields) (payload : Bytes) : Except Error Unit := do
  require (pyEq (.int payload.length) (get header "payload_bytes"))
    ⟨.workloadError, [.text "KV payload length mismatch: expected ",
      .shown (get header "payload_bytes"), .text (", got " ++ strInt payload.length)]⟩
  let actual := sha256 payload
  require (pyEq (.str actual) (get header "payload_sha256"))
    ⟨.workloadError, [.text "KV payload SHA-256 mismatch: expected ",
      .shown (get header "payload_sha256"), .text (", got " ++ actual)]⟩

end Digests

/-- The canonical bytes do not depend on the insertion order of keys. -/
theorem canonicalJsonBytes_same {v w : Json} (h : Same v w) :
    canonicalJsonBytes v = canonicalJsonBytes w := by
  have hnorm : v.norm = w.norm := h
  simp only [canonicalJsonBytes, Json.dumps, hnorm]

theorem agrees_str (v : Json) (s : String) : agrees v (.str s) = true ↔ v = .str s := by
  simp [agrees, isInt]

theorem agrees_int (v : Json) (n : Int) : agrees v (.int n) = true ↔ v = .int n := by
  have h := isInt_and_pyEq v n
  rw [and_comm] at h
  simp only [agrees, Bool.and_eq_true, isInt, Bool.not_true, Bool.false_or]
  exact h

theorem checkValues_eq_ok (label : String → String) (f wanted : Fields) (u : Unit) :
    checkValues label f wanted = .ok u ↔ ∀ e ∈ wanted, agrees (get f e.1) e.2 = true := by
  induction wanted with
  | nil => simp [checkValues]
  | cons e wanted ih =>
    obtain ⟨key, w⟩ := e
    simp only [checkValues, bind_eq_ok, require_eq_ok, ih, List.forall_mem_cons]
    constructor
    · rintro ⟨_, h⟩
      exact h
    · intro h
      exact ⟨(), h⟩

theorem requireInt_eq_ok (v : Json) (field : String) (minimum n : Int) :
    requireInt v field minimum = .ok n ↔ v = .int n ∧ minimum ≤ n := by
  cases v with
  | int m =>
    simp only [requireInt, Json.int.injEq]
    exact checked_eq_ok (fun k => minimum ≤ k) m n _
  | _ => simp [requireInt]

theorem requireSha256_eq_ok (v : Json) (field s : String) :
    requireSha256 v field = .ok s ↔ v = .str s ∧ Contract.isSha256 s = true := by
  cases v with
  | str t =>
    simp only [requireSha256, Json.str.injEq]
    exact checked_eq_ok (fun x => Contract.isSha256 x = true) t s _
  | _ => simp [requireSha256]

/-- Entry `i` of a table the receiver accepts. -/
def TensorOk (shape : List Int) (i : Nat) (t : Json) : Prop :=
  ∃ g, t = .obj g ∧ hasKeys g TENSOR_KEYS = true ∧
    ∀ e ∈ wantedTensor shape i (i * tensorBytes shape), agrees (get g e.1) e.2 = true

theorem checkTensorEntry_eq_ok (shape : List Int) (i : Nat) (t : Json) (u : Unit) :
    checkTensorEntry shape i (i * tensorBytes shape) t = .ok u ↔ TensorOk shape i t := by
  cases t with
  | obj f =>
    simp only [checkTensorEntry, requireExactKeys, bind_eq_ok, require_eq_ok, checkValues_eq_ok,
      TensorOk, Json.obj.injEq]
    constructor
    · rintro ⟨_, h⟩
      exact ⟨f, rfl, h⟩
    · rintro ⟨g, hg, h⟩
      refine ⟨(), ?_⟩
      rw [hg]
      exact h
  | _ => simp [checkTensorEntry, TensorOk]

theorem checkTensors_eq_ok (shape : List Int) (i : Nat) (ts : List Json) (final : Int) :
    checkTensors shape i (i * tensorBytes shape) ts = .ok final ↔
      final = (i + ts.length : Nat) * tensorBytes shape ∧
        ∀ j t, ts[j]? = some t → TensorOk shape (i + j) t := by
  induction ts generalizing i with
  | nil => simp [checkTensors, eq_comm]
  | cons t ts ih =>
    have hnext : (i : Int) * tensorBytes shape + shape.prod * 2 =
        (i + 1 : Nat) * tensorBytes shape := by
      push_cast
      rw [tensorBytes]
      ring
    have hlen : i + 1 + ts.length = i + (t :: ts).length := by
      simp only [List.length_cons]
      omega
    simp only [checkTensors, bind_eq_ok, checkTensorEntry_eq_ok, hnext, ih, hlen]
    constructor
    · rintro ⟨_, ht, hf, hts⟩
      refine ⟨hf, fun j s hj => ?_⟩
      cases j with
      | zero =>
        cases hj
        exact ht
      | succ j =>
        have := hts j s hj
        rwa [show i + 1 + j = i + (j + 1) by omega] at this
    · rintro ⟨hf, h⟩
      refine ⟨(), h 0 t rfl, hf, fun j s hj => ?_⟩
      have := h (j + 1) s hj
      rwa [show i + (j + 1) = i + 1 + j by omega] at this

theorem checkTensors_zero (shape : List Int) (ts : List Json) (final : Int) :
    checkTensors shape 0 0 ts = .ok final ↔
      final = ts.length * tensorBytes shape ∧ ∀ j t, ts[j]? = some t → TensorOk shape j t := by
  have h := checkTensors_eq_ok shape 0 ts final
  simp only [Nat.cast_zero, zero_mul, Nat.zero_add] at h
  exact h

theorem tensorList_eq_ok (v : Json) (count : Int) (ts : List Json) :
    tensorList v count = .ok ts ↔ v = .list ts ∧ (ts.length : Int) = count := by
  cases v with
  | list us =>
    simp only [tensorList, Json.list.injEq]
    exact checked_eq_ok (fun x : List Json => (x.length : Int) = count) us ts _
  | _ => simp [tensorList]

/-- What the receiver knows of a header it accepts. -/
structure HeaderOk (expected : ExpectedKv) (f : Fields) : Prop where
  keys : hasKeys f HEADER_KEYS = true
  values : ∀ e ∈ exactValues expected, agrees (get f e.1) e.2 = true
  modelSha : ∃ d, get f "model_sha256" = .str d ∧ Contract.isSha256 d = true
  tokenizerSha : ∃ d, get f "tokenizer_sha256" = .str d ∧ Contract.isSha256 d = true
  promptSha : ∃ d, get f "prompt_digest_sha256" = .str d ∧ Contract.isSha256 d = true
  payloadSha : ∃ d, get f "payload_sha256" = .str d ∧ Contract.isSha256 d = true
  firstToken : ∃ t, get f "first_token_id" = .int t ∧ 0 ≤ t ∧ t < expected.modelInfo.vocabSize
  table : ∃ ts, get f "tensors" = .list ts ∧
    (ts.length : Int) = expected.modelInfo.layerCount * 2 ∧
    (∀ j t, ts[j]? = some t →
      TensorOk (expectedShape expected.modelInfo expected.promptLength) j t) ∧
    ∃ n, get f "payload_bytes" = .int n ∧ 1 ≤ n ∧
      n = ts.length * tensorBytes (expectedShape expected.modelInfo expected.promptLength) ∧
      n ≤ MAX_PAYLOAD_BYTES

theorem validateKvHeader_eq_ok (header : Json) (expected : ExpectedKv) (f : Fields) :
    validateKvHeader header expected = .ok f ↔ header = .obj f ∧ HeaderOk expected f := by
  cases header with
  | obj g =>
    simp only [validateKvHeader, requireExactKeys, bind_eq_ok, require_eq_ok, checkValues_eq_ok,
      requireSha256_eq_ok, requireInt_eq_ok, tensorList_eq_ok, checkTensors_zero,
      decide_eq_true_eq, beq_iff_eq, pure, Except.pure, Except.ok.injEq, Json.obj.injEq]
    constructor
    · intro h
      obtain ⟨-, hk, -, hv, a, ha, b, hb, c, hc, d, hd, t, ht, -, htv, ts, ⟨hts, hcount⟩, final,
        ⟨hfinal, hall⟩, n, hn, -, hnf, -, hmax, rfl⟩ := h
      refine ⟨rfl, hk, hv, ⟨a, ha⟩, ⟨b, hb⟩, ⟨c, hc⟩, ⟨d, hd⟩, ⟨t, ht.1, ht.2, htv⟩,
        ts, hts, hcount, hall, n, hn.1, hn.2, ?_, hmax⟩
      rw [hnf, hfinal]
    · rintro ⟨hg, h⟩
      subst hg
      obtain ⟨hk, hv, ⟨a, ha⟩, ⟨b, hb⟩, ⟨c, hc⟩, ⟨d, hd⟩, ⟨t, ht, ht0, htv⟩, ts, hts, hcount,
        hall, n, hn, hn1, hnf, hmax⟩ := h
      exact ⟨(), hk, (), hv, a, ha, b, hb, c, hc, d, hd, t, ⟨ht, ht0⟩, (), htv, ts, ⟨hts, hcount⟩,
        n, ⟨hnf, hall⟩, n, ⟨hn, hn1⟩, (), rfl, (), hmax, rfl⟩
  | _ => simp [validateKvHeader]

/-! ### The accepted table -/

/-- Slices `(offset, nbytes)` that follow one another from `start` to `stop`, with
neither a gap nor an overlap. -/
def Tiles (start : Int) : List (Int × Int) → Int → Prop
  | [], stop => start = stop
  | (offset, nbytes) :: rest, stop =>
    offset = start ∧ 0 ≤ nbytes ∧ Tiles (start + nbytes) rest stop

/-- The slice a tensor entry names. -/
def Names (t : Json) (s : Int × Int) : Prop :=
  ∃ g, t = .obj g ∧ get g "offset_bytes" = .int s.1 ∧ get g "nbytes" = .int s.2

theorem TensorOk.names {shape : List Int} {i : Nat} {t : Json} (h : TensorOk shape i t) :
    Names t (i * tensorBytes shape, tensorBytes shape) := by
  obtain ⟨g, rfl, -, hg⟩ := h
  have hoffset := hg ("offset_bytes", .int (i * tensorBytes shape)) (by simp [wantedTensor])
  have hnbytes := hg ("nbytes", .int (shape.prod * 2)) (by simp [wantedTensor])
  rw [agrees_int] at hoffset hnbytes
  exact ⟨g, rfl, hoffset, hnbytes⟩

theorem tensors_tile {shape : List Int} {i : Nat} {ts : List Json}
    (hpos : 0 ≤ tensorBytes shape) (h : ∀ j t, ts[j]? = some t → TensorOk shape (i + j) t) :
    ∃ slices, List.Forall₂ Names ts slices ∧
      Tiles (i * tensorBytes shape) slices ((i + ts.length : Nat) * tensorBytes shape) := by
  induction ts generalizing i with
  | nil => exact ⟨[], .nil, by simp [Tiles]⟩
  | cons t ts ih =>
    have ht := (h 0 t rfl).names
    rw [Nat.add_zero] at ht
    obtain ⟨slices, hnames, htiles⟩ := ih (i := i + 1) fun j s hj => by
      have := h (j + 1) s hj
      rwa [show i + (j + 1) = i + 1 + j by omega] at this
    refine ⟨(i * tensorBytes shape, tensorBytes shape) :: slices, .cons ht hnames, rfl, hpos, ?_⟩
    have hstart : (i : Int) * tensorBytes shape + tensorBytes shape =
        (i + 1 : Nat) * tensorBytes shape := by
      push_cast
      ring
    have hstop : i + 1 + ts.length = i + (t :: ts).length := by
      simp only [List.length_cons]
      omega
    rw [hstart, ← hstop]
    exact htiles

/-- The table of an accepted header cuts its payload into consecutive slices. -/
theorem HeaderOk.tiles {expected : ExpectedKv} {f : Fields} (h : HeaderOk expected f) :
    ∃ ts n slices, get f "tensors" = .list ts ∧ get f "payload_bytes" = .int n ∧
      List.Forall₂ Names ts slices ∧ Tiles 0 slices n := by
  obtain ⟨ts, hts, -, hall, n, hn, hn1, hnf, -⟩ := h.table
  have hpos : 0 ≤ tensorBytes (expectedShape expected.modelInfo expected.promptLength) := by
    by_contra hneg
    have hnonpos := mul_nonpos_of_nonneg_of_nonpos (Int.natCast_nonneg ts.length)
      (le_of_not_ge hneg)
    omega
  obtain ⟨slices, hnames, htiles⟩ := tensors_tile (i := 0) hpos (fun j t hj => by
    rw [Nat.zero_add]
    exact hall j t hj)
  rw [Nat.zero_add, ← hnf, Nat.cast_zero, zero_mul] at htiles
  exact ⟨ts, n, slices, hts, hn, hnames, htiles⟩

/-! ### The built header -/

theorem pyEqList_ints (ns : List Int) : pyEqList (ns.map .int) (ns.map .int) = true := by
  induction ns with
  | nil => rfl
  | cons n ns ih => simp [pyEqList, pyEq, numEq, asInt, ih]

theorem agrees_ints (ns : List Int) : agrees (.list (ns.map .int)) (.list (ns.map .int)) = true := by
  simp [agrees, pyEq, isInt, pyEqList_ints]

/-- Agreement with a string or an integer is type-strict equality. -/
theorem agrees_of_same {v wanted : Json} (hw : wanted.isStr = true ∨ wanted.isInt = true)
    (h : Same v wanted) : agrees v wanted = true := by
  cases wanted with
  | str s => exact (agrees_str v s).mpr ((same_str v s).mp h)
  | int n => exact (agrees_int v n).mpr ((same_int v n).mp h)
  | _ => simp [isStr, isInt] at hw

/-- A table entry passes with its keys in any order. -/
theorem TensorOk.of_same {shape : List Int} {i : Nat} {t : Json}
    (h : Same t (tableEntry shape i)) : TensorOk shape i t := by
  obtain ⟨g, rfl⟩ := same_obj_left h
  obtain ⟨hkeys, hvals⟩ := (same_obj_iff_fields g _ (by simp)).mp h
  refine ⟨g, rfl, hkeys, ?_⟩
  simp only [List.forall_mem_cons, List.not_mem_nil, false_imp_iff, implies_true, and_true,
    same_int_list] at hvals
  obtain ⟨hname, hlayer, hkind, hshape, hoffset, hnbytes⟩ := hvals
  simp only [wantedTensor, List.forall_mem_cons, List.not_mem_nil, false_imp_iff, implies_true,
    and_true]
  refine ⟨agrees_of_same (.inl rfl) hname, agrees_of_same (.inr rfl) hlayer,
    agrees_of_same (.inl rfl) hkind, ?_, agrees_of_same (.inr rfl) hoffset,
    agrees_of_same (.inr rfl) hnbytes⟩
  rw [hshape]
  exact agrees_ints shape

section Built
variable {sha256 : Bytes → String}

theorem isScalar_exactValues (expected : ExpectedKv) :
    ∀ e ∈ exactValues expected, e.2.isStr = true ∨ e.2.isInt = true := by
  simp [exactValues, isStr, isInt]

/-- What a dict with the content of the built header holds. -/
theorem same_kvHeader {expected : ExpectedKv} {packed : PackedKv} {t : Int} {f : Fields}
    (h : Same (.obj f) (.obj (kvHeader sha256 expected packed t))) :
    hasKeys f HEADER_KEYS = true ∧
      (∀ e ∈ exactValues expected, Same (get f e.1) e.2) ∧
      (∃ ts, get f "tensors" = .list ts ∧ List.Forall₂ Same ts packed.tensors) ∧
      get f "payload_bytes" = .int packed.payload.length ∧
      get f "payload_sha256" = .str (sha256 packed.payload) ∧ get f "first_token_id" = .int t := by
  obtain ⟨hkeys, hvals⟩ := (same_obj_iff_fields f _ (by simp [kvHeader, exactValues])).mp h
  simp only [kvHeader, List.forall_mem_append, List.forall_mem_cons, List.not_mem_nil,
    false_imp_iff, implies_true, and_true, same_list, same_int, same_str] at hvals
  exact ⟨hkeys, hvals⟩

/-- The header built for a packed cache is accepted, with its keys in any order. -/
theorem HeaderOk.of_same {δ η : Type} (hsha : ∀ b, Contract.isSha256 (sha256 b) = true)
    {expected : ExpectedKv} {cache : Cache δ} {toHost : Tensor δ → Except Error η}
    {toLe : η → Except Error (Option Bytes)} {clock : Nat → Int} {packed : PackedKv} {t : Int}
    {f : Fields}
    (hpack : packLegacyPkv cache expected.promptLength expected.modelInfo toHost toLe clock =
      .ok packed)
    (hmodel : Contract.isSha256 expected.modelSha256 = true)
    (htokenizer : Contract.isSha256 expected.tokenizerSha256 = true)
    (hprompt : Contract.isSha256 expected.promptDigestSha256 = true)
    (ht : 0 ≤ t ∧ t < expected.modelInfo.vocabSize)
    (hpay : 1 ≤ packed.payload.length) (hmax : packed.payload.length ≤ MAX_PAYLOAD_BYTES)
    (h : Same (.obj f) (.obj (kvHeader sha256 expected packed t))) : HeaderOk expected f := by
  obtain ⟨hcount, hentry, hsize⟩ := packLegacyPkv_table hpack
  obtain ⟨hkeys, hvals, ⟨ts, hts, hsame⟩, hbytes, hdigest, hfirst⟩ := same_kvHeader h
  have hlen : ts.length = packed.tensors.length := hsame.length_eq
  have htable : ∀ j e, ts[j]? = some e →
      TensorOk (expectedShape expected.modelInfo expected.promptLength) j e := by
    intro j e hj
    obtain ⟨hjlt, rfl⟩ := List.getElem?_eq_some_iff.mp hj
    have hjlt' : j < packed.tensors.length := by omega
    have hat := hentry j hjlt'
    rw [List.getElem?_eq_getElem hjlt', Option.some.injEq] at hat
    have hs := hsame.get hjlt hjlt'
    simp only [List.get_eq_getElem, hat] at hs
    exact .of_same hs
  have hstr : ∀ k s, (k, .str s) ∈ exactValues expected → get f k = .str s := by
    intro k s hk
    exact (same_str _ s).mp (hvals _ hk)
  refine ⟨hkeys, fun e he => agrees_of_same (isScalar_exactValues expected e he) (hvals e he),
    ⟨_, hstr "model_sha256" _ (by simp [exactValues]), hmodel⟩,
    ⟨_, hstr "tokenizer_sha256" _ (by simp [exactValues]), htokenizer⟩,
    ⟨_, hstr "prompt_digest_sha256" _ (by simp [exactValues]), hprompt⟩,
    ⟨_, hdigest, hsha _⟩, ⟨t, hfirst, ht⟩, ts, hts, by rw [hlen]; exact hcount, htable,
    packed.payload.length, hbytes, by omega, by rw [hlen]; exact hsize, ?_⟩
  exact_mod_cast hmax

theorem tableEntry_floatFree (shape : List Int) (i : Nat) :
    (tableEntry shape i).floatFree = true := by
  have hshape : floatFreeList (shape.map .int) = true := by
    rw [floatFreeList_iff]
    intro x hx
    obtain ⟨n, -, rfl⟩ := List.mem_map.mp hx
    rfl
  simp [tableEntry, tensorEntry, floatFree, floatFreeFields, hshape]

theorem kvHeader_floatFree {δ η : Type} (sha256 : Bytes → String) {expected : ExpectedKv} {cache : Cache δ}
    {toHost : Tensor δ → Except Error η} {toLe : η → Except Error (Option Bytes)}
    {clock : Nat → Int} {packed : PackedKv} (t : Int)
    (hpack : packLegacyPkv cache expected.promptLength expected.modelInfo toHost toLe clock =
      .ok packed) :
    (Json.obj (kvHeader sha256 expected packed t)).floatFree = true := by
  obtain ⟨-, hentry, -⟩ := packLegacyPkv_table hpack
  have htensors : floatFreeList packed.tensors = true := by
    rw [floatFreeList_iff]
    intro x hx
    obtain ⟨j, hj, rfl⟩ := List.mem_iff_getElem.mp hx
    have hat := hentry j hj
    rw [List.getElem?_eq_getElem hj, Option.some.injEq] at hat
    rw [hat]
    exact tableEntry_floatFree _ j
  simp [kvHeader, exactValues, floatFree, floatFreeFields, htensors]

theorem buildKvHeader_eq_ok {expected : ExpectedKv} {packed : PackedKv} {t : Int}
    (ht : 0 ≤ t ∧ t < expected.modelInfo.vocabSize)
    (h : HeaderOk expected (kvHeader sha256 expected packed t)) :
    buildKvHeader sha256 expected packed t = .ok (kvHeader sha256 expected packed t) := by
  rw [buildKvHeader, bind_eq_ok]
  refine ⟨(), by simp [ht], ?_⟩
  have hvalid := (validateKvHeader_eq_ok (.obj (kvHeader sha256 expected packed t)) expected
    (kvHeader sha256 expected packed t)).mpr ⟨rfl, h⟩
  simp only [hvalid, bind, Except.bind, pure, Except.pure]

theorem validatePayload_eq_ok (f : Fields) (payload : Bytes) (u : Unit) :
    validatePayload sha256 f payload = .ok u ↔
      pyEq (.int payload.length) (get f "payload_bytes") = true ∧
        pyEq (.str (sha256 payload)) (get f "payload_sha256") = true := by
  simp [validatePayload, bind_eq_ok]

/-- With an accepted header the payload is compared byte for byte. -/
theorem HeaderOk.validatePayload {expected : ExpectedKv} {f : Fields} (h : HeaderOk expected f)
    (payload : Bytes) (u : Unit) :
    validatePayload sha256 f payload = .ok u ↔
      get f "payload_bytes" = .int payload.length ∧
        get f "payload_sha256" = .str (sha256 payload) := by
  obtain ⟨d, hd, -⟩ := h.payloadSha
  obtain ⟨ts, -, -, -, n, hn, -⟩ := h.table
  rw [validatePayload_eq_ok, hd, hn]
  simp only [pyEq, numEq, asInt, beq_iff_eq, Json.int.injEq, Json.str.injEq]
  rw [@eq_comm _ n, @eq_comm _ d]

end Built

end ServerlessX.Workload
