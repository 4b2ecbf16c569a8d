import ServerlessX.Py.Bytes
import ServerlessX.Contract.Metadata

/-! The KV payload: how `pack_legacy_pkv` lays the tensors of a cache out and how
`HfLlamaRuntime.unpack` reads them back. -/
namespace ServerlessX.Workload
open ServerlessX.Py ServerlessX.Py.Json

inductive ErrorClass where
  | workloadError
  | builtin (b : Builtin)
  | foreign (name : String)
deriving DecidableEq

abbrev Error := Raised ErrorClass

def workloadError (s : String) : Error := ⟨.workloadError, [.text s]⟩

def builtinError (b : Builtin) (s : String) : Error := ⟨.builtin b, [.text s]⟩

structure ModelInfo where
  modelType : String
  modelClass : String
  dtype : String
  layerCount : Int
  kvHeadCount : Int
  headDim : Int
  vocabSize : Int

structure PackedKv where
  payload : Bytes
  tensors : List Json
  d2hMs : PyFloat
  packMs : PyFloat

/-- `(end_ns - start_ns) / 1_000_000.0`. -/
def elapsedMs (startNs endNs : Int) : Except Error PyFloat :=
  match PyFloat.ofInt (endNs - startNs) with
  | none => .error (builtinError .overflowError "int too large to convert to float")
  | some (.finite q) => .ok (PyFloat.round (q / 1000000))
  | some x => .ok x

/-- What `pack_legacy_pkv` looks at in a tensor object; `shape` is missing when
it cannot be read as a tuple of integers. -/
structure Tensor (δ : Type) where
  shape : Option (List Nat)
  dtype : String
  data : δ

/-- A layer of a legacy cache: a tuple or list, or something else. -/
inductive Layer (δ : Type) where
  | seq (tensors : List (Tensor δ))
  | other

/-- A cache object: a tuple or list, an object with `to_legacy_cache`, or
something else. -/
inductive Cache (δ : Type) where
  | seq (layers : List (Layer δ))
  | dynamic (legacy : Cache δ)
  | other

variable {δ η : Type}

def legacyItems : Cache δ → Except Error (List (Layer δ))
  | .seq [] => .error (workloadError "model returned an empty KV cache")
  | .seq layers => .ok layers
  | _ => .error (workloadError "model did not return a legacy-compatible KV cache")

def legacyCache : Cache δ → Except Error (List (Layer δ))
  | .dynamic cache => legacyItems cache
  | cache => legacyItems cache

/-- `str` of a tuple of integers. -/
def tupleText (ns : List Int) : String :=
  "(" ++ ", ".intercalate (ns.map strInt) ++ (if ns.length = 1 then ",)" else ")")

def expectedShape (info : ModelInfo) (promptLength : Int) : List Int :=
  [1, info.kvHeadCount, promptLength, info.headDim]

def slotName (layer : Nat) (kind : String) : String := "L" ++ strInt layer ++ kind

structure Slot (δ : Type) where
  name : String
  layer : Nat
  kind : String
  tensor : Tensor δ

def checkTensor (shape : List Int) (layer : Nat) (kind : String) (tensor : Tensor δ) :
    Except Error (Slot δ) :=
  match tensor.shape with
  | none => .error (workloadError ("KV tensor " ++ slotName layer kind ++ " has no valid shape"))
  | some dims => do
    require (dims.map Int.ofNat == shape)
      (workloadError ("KV tensor " ++ slotName layer kind ++ " shape " ++
        tupleText (dims.map Int.ofNat) ++ " != " ++ tupleText shape))
    require (tensor.dtype == "torch.float16" || tensor.dtype == "float16")
      (workloadError ("KV tensor " ++ slotName layer kind ++ " must have FP16 dtype, got " ++
        tensor.dtype))
    return ⟨slotName layer kind, layer, kind, tensor⟩

def checkLayer (shape : List Int) (layer : Nat) : Layer δ → Except Error (List (Slot δ))
  | .seq [k, v] => do
    let slotK ← checkTensor shape layer "K" k
    let slotV ← checkTensor shape layer "V" v
    return [slotK, slotV]
  | _ => .error (workloadError ("KV layer " ++ strInt layer ++ " must contain exactly K and V"))

def checkLayers (shape : List Int) (layer : Nat) : List (Layer δ) → Except Error (List (Slot δ))
  | [] => .ok []
  | l :: ls => do
    let slots ← checkLayer shape layer l
    let rest ← checkLayers shape (layer + 1) ls
    return slots ++ rest

/-- `None` stands for a result that is not `bytes`. -/
def checkChunk (name : String) (expected : Int) (chunk : Option Bytes) : Except Error Bytes :=
  match chunk with
  | none => .error (workloadError ("KV tensor " ++ name ++ " encoded to non-bytes bytes; expected " ++
      strInt expected))
  | some b =>
    if (b.length : Int) = expected then .ok b
    else .error (workloadError ("KV tensor " ++ name ++ " encoded to " ++ strInt b.length ++
      " bytes; expected " ++ strInt expected))

def tensorEntry (name : String) (layer : Nat) (kind : String) (shape : List Int)
    (offset nbytes : Int) : Json :=
  .obj [("name", .str name), ("layer", .int layer), ("kind", .str kind),
    ("shape", .list (shape.map .int)), ("offset_bytes", .int offset), ("nbytes", .int nbytes)]

/-- The packing loop, from a byte offset on. -/
def packChunks (toLeFp16Bytes : η → Except Error (Option Bytes)) (shape : List Int)
    (offset : Nat) : List (Slot δ × η) → Except Error (List (Bytes × Json))
  | [] => .ok []
  | (slot, host) :: rest => do
    let chunk ← checkChunk slot.name (shape.prod * 2) (← toLeFp16Bytes host)
    let more ← packChunks toLeFp16Bytes shape (offset + chunk.length) rest
    return (chunk, tensorEntry slot.name slot.layer slot.kind shape offset chunk.length) :: more

/-- `clock i` is the `i`-th reading of `clock_ns`. -/
def packLegacyPkv (cache : Cache δ) (promptLength : Int) (info : ModelInfo)
    (toHost : Tensor δ → Except Error η) (toLeFp16Bytes : η → Except Error (Option Bytes))
    (clock : Nat → Int) : Except Error PackedKv := do
  let legacy ← legacyCache cache
  require ((legacy.length : Int) == info.layerCount)
    (workloadError ("KV cache has " ++ strInt legacy.length ++ " layers; expected " ++
      strInt info.layerCount))
  let shape := expectedShape info promptLength
  let ordered ← checkLayers shape 0 legacy
  let hostTensors ← ordered.mapM fun slot => toHost slot.tensor
  let chunks ← packChunks toLeFp16Bytes shape 0 (ordered.zip hostTensors)
  let d2hMs ← elapsedMs (clock 0) (clock 1)
  let packMs ← elapsedMs (clock 2) (clock 3)
  return ⟨(chunks.map Prod.fst).flatten, chunks.map Prod.snd, d2hMs, packMs⟩

/-! ### Reading it back -/

/-- An array of dtype `<f2` in C order. -/
structure HalfArray where
  shape : List Int
  words : List Half

/-- `tensor[key]`. -/
def item (tensor : Json) (key : String) : Except Error Json :=
  match tensor with
  | .obj f => match f.lookup key with
    | some v => .ok v
    | none => .error (builtinError .keyError key)
  | _ => .error (builtinError .typeError "tensor is not subscriptable by a string")

/-- `int(v)`. -/
def intOf : Json → Except Error Int
  | .int n => .ok n
  | .bool b => .ok (if b then 1 else 0)
  | .float x => match x.toRat? with
    | some q => .ok (if q < 0 then q.ceil else q.floor)
    | none => .error (if x = .nan then builtinError .valueError "cannot convert float NaN to integer"
      else builtinError .overflowError "cannot convert float infinity to integer")
  | .str s => match intOfText s.toList with
    | some n => .ok n
    | none => .error (builtinError .valueError "invalid literal for int() with base 10")
  | _ => .error (builtinError .typeError "int() argument must be a string or a number")

/-- `np.frombuffer(payload, dtype="<f2", count=count, offset=offset)`. -/
def frombuffer (payload : Bytes) (count offset : Int) : Except Error (List Half) :=
  if offset < 0 ∨ (payload.length : Int) < offset then
    .error (builtinError .valueError "offset must be non-negative and no greater than buffer length")
  else
    let rest := payload.drop offset.toNat
    if count < 0 then
      if rest.length % 2 = 0 then .ok (halves rest)
      else .error (builtinError .valueError "buffer size must be a multiple of element size")
    else if (rest.length : Int) < 2 * count then
      .error (builtinError .valueError "buffer is smaller than requested size")
    else .ok (halves (rest.take (2 * count.toNat)))

/-- `operator.index` of a dimension. -/
def indexOf : Json → Except Error Int
  | .int n => .ok n
  | .bool b => .ok (if b then 1 else 0)
  | _ => .error (builtinError .typeError "object cannot be interpreted as an integer")

/-- `tuple(shape)`, as dimensions. -/
def dimensions : Json → Except Error (List Int)
  | .list items => items.mapM indexOf
  | .str s => if s.isEmpty then .ok [] else .error (builtinError .typeError "str is no dimension")
  | .obj f => if f.isEmpty then .ok [] else .error (builtinError .typeError "str is no dimension")
  | _ => .error (builtinError .typeError "object is not iterable")

/-- `array.reshape(dims)`; one negative dimension is inferred. -/
def reshape (words : List Half) (dims : List Int) : Except Error HalfArray :=
  let known := (dims.filter (0 ≤ ·)).prod
  match dims.countP (· < 0) with
  | 0 =>
    if known = words.length then .ok ⟨dims, words⟩
    else .error (builtinError .valueError "cannot reshape array")
  | 1 =>
    if known ≠ 0 ∧ (words.length : Int) % known = 0 then
      .ok ⟨dims.map fun d => if d < 0 then words.length / known else d, words⟩
    else .error (builtinError .valueError "cannot reshape array")
  | _ => .error (builtinError .valueError "can only specify one unknown dimension")

def unpackTensor (payload : Bytes) (tensor : Json) : Except Error HalfArray := do
  let offset ← intOf (← item tensor "offset_bytes")
  let nbytes ← intOf (← item tensor "nbytes")
  let words ← frombuffer payload (nbytes / 2) offset
  reshape words (← dimensions (← item tensor "shape"))

def unpackLayer (payload : Bytes) (tensors : List Json) (layer : Nat) :
    Except Error (HalfArray × HalfArray) := do
  match ← (slice tensors (layer * 2) 2).mapM (unpackTensor payload) with
  | k :: v :: _ => return (k, v)
  | _ => .error (builtinError .indexError "list index out of range")

def unpackLayers (info : ModelInfo) (payload : Bytes) (tensors : List Json) :
    Except Error (List (HalfArray × HalfArray)) :=
  (List.range info.layerCount.toNat).mapM (unpackLayer payload tensors)

/-- `HfLlamaRuntime.unpack`; copying to the device keeps shape and contents. -/
def unpack (info : ModelInfo) (payload : Bytes) (tensors : List Json) (h2dStart h2dEnd : Int) :
    Except Error (List (HalfArray × HalfArray) × PyFloat) := do
  let layers ← unpackLayers info payload tensors
  return (layers, ← elapsedMs h2dStart h2dEnd)

/-! ### Reading by key -/

theorem item_same {t t' : Json} (h : Same t t') (key : String) :
    (∃ e, item t key = .error e ∧ item t' key = .error e) ∨
      ∃ v v', item t key = .ok v ∧ item t' key = .ok v' ∧ Same v v' := by
  cases t with
  | obj f =>
    obtain ⟨g, rfl⟩ := same_obj_left h.symm
    have hkey := (same_obj_iff f g).mp h key
    cases hf : f.lookup key with
    | none =>
      have hg : g.lookup key = none := by
        rw [hf] at hkey
        simpa using hkey.symm
      exact .inl ⟨builtinError .keyError key, by simp only [item, hf], by simp only [item, hg]⟩
    | some v =>
      cases hg : g.lookup key with
      | none => simp [hf, hg] at hkey
      | some v' =>
        simp only [hf, hg, Option.map_some, Option.some.injEq] at hkey
        exact .inr ⟨v, v', by simp only [item, hf], by simp only [item, hg], hkey⟩
  | _ =>
    cases t' with
    | obj g => simp [Same, Json.norm] at h
    | _ => exact .inl ⟨_, rfl, rfl⟩

theorem intOf_same {v v' : Json} (h : Same v v') : intOf v = intOf v' := by
  cases v <;> cases v' <;> simp_all [Same, Json.norm, intOf]

theorem indexOf_same {v v' : Json} (h : Same v v') : indexOf v = indexOf v' := by
  cases v <;> cases v' <;> simp_all [Same, Json.norm, indexOf]

theorem dimensions_same {v v' : Json} (h : Same v v') : dimensions v = dimensions v' := by
  cases v' with
  | list ys =>
    obtain ⟨xs, rfl, hxs⟩ := (same_list v ys).mp h
    exact mapM_congr_forall₂ (hxs.imp fun _ _ => indexOf_same)
  | obj g =>
    obtain ⟨f, rfl⟩ := same_obj_left h
    simp only [dimensions, isEmpty_of_same h]
  | _ => cases v <;> simp_all [Same, Json.norm, dimensions]

/-- What a tensor entry selects does not depend on the order of its keys. -/
theorem unpackTensor_same (payload : Bytes) {t t' : Json} (h : Same t t') :
    unpackTensor payload t = unpackTensor payload t' := by
  unfold unpackTensor
  obtain ⟨e, he, he'⟩ | ⟨o, o', ho, ho', hos⟩ := item_same h "offset_bytes"
  · rw [he, he']
    rfl
  · obtain ⟨e, he, he'⟩ | ⟨n, n', hn, hn', hns⟩ := item_same h "nbytes"
    · simp only [ho, ho', he, he', intOf_same hos, bind, Except.bind]
    · obtain ⟨e, he, he'⟩ | ⟨s, s', hs, hs', hss⟩ := item_same h "shape"
      · simp only [ho, ho', hn, hn', he, he', intOf_same hos, intOf_same hns, bind, Except.bind]
      · simp only [ho, ho', hn, hn', hs, hs', intOf_same hos, intOf_same hns, dimensions_same hss,
          bind, Except.bind]

theorem unpackLayers_same (info : ModelInfo) (payload : Bytes) {ts ts' : List Json}
    (h : List.Forall₂ Same ts ts') : unpackLayers info payload ts = unpackLayers info payload ts' := by
  have hlayer : ∀ l, unpackLayer payload ts l = unpackLayer payload ts' l := by
    intro l
    have hslice : List.Forall₂ Same (slice ts (l * 2) 2) (slice ts' (l * 2) 2) :=
      List.forall₂_take 2 (List.forall₂_drop (l * 2) h)
    rw [unpackLayer, unpackLayer,
      mapM_congr_forall₂ (hslice.imp fun _ _ => unpackTensor_same payload)]
  rw [unpackLayers, unpackLayers, funext hlayer]

/-! ### The layout -/

/-- The tensors of (K, V) pairs in packing order. -/
def tensorsOf : List (Tensor δ × Tensor δ) → List (Tensor δ)
  | [] => []
  | p :: ps => p.1 :: p.2 :: tensorsOf ps

/-- The slots of tensors numbered from `i` on. -/
def slotsFrom (i : Nat) : List (Tensor δ) → List (Slot δ)
  | [] => []
  | t :: ts => ⟨slotName (i / 2) (Contract.kindOf i), i / 2, Contract.kindOf i, t⟩ ::
      slotsFrom (i + 1) ts

/-- Bytes of one tensor. -/
def tensorBytes (shape : List Int) : Int := shape.prod * 2

/-- Entry `i` of the tensor table. -/
def tableEntry (shape : List Int) (i : Nat) : Json :=
  tensorEntry (slotName (i / 2) (Contract.kindOf i)) (i / 2) (Contract.kindOf i) shape
    (i * tensorBytes shape) (tensorBytes shape)

/-- What the bytes of a tensor are. -/
def encode (toHost : Tensor δ → Except Error η) (toLeFp16Bytes : η → Except Error (Option Bytes))
    (t : Tensor δ) : Except Error (Option Bytes) := do
  toLeFp16Bytes (← toHost t)

theorem checkTensor_ok {shape : List Int} {layer : Nat} {kind : String} {t : Tensor δ}
    {s : Slot δ} (h : checkTensor shape layer kind t = .ok s) :
    s = ⟨slotName layer kind, layer, kind, t⟩ ∧ ∀ d ∈ shape, 0 ≤ d := by
  unfold checkTensor at h
  cases hs : t.shape with
  | none => simp [hs] at h
  | some dims =>
    simp only [hs, bind_eq_ok, require_eq_ok, beq_iff_eq, pure, Except.pure, Except.ok.injEq] at h
    obtain ⟨-, hdims, -, -, rfl⟩ := h
    refine ⟨rfl, ?_⟩
    rw [← hdims]
    simp

theorem checkLayer_ok {shape : List Int} {layer : Nat} {l : Layer δ} {slots : List (Slot δ)}
    (h : checkLayer shape layer l = .ok slots) :
    ∃ k v, l = .seq [k, v] ∧ slots = slotsFrom (2 * layer) [k, v] ∧ ∀ d ∈ shape, 0 ≤ d := by
  unfold checkLayer at h
  split at h
  · next k v =>
    simp only [bind_eq_ok, pure, Except.pure, Except.ok.injEq] at h
    obtain ⟨a, ha, b, hb, rfl⟩ := h
    obtain ⟨rfl, hpos⟩ := checkTensor_ok ha
    obtain ⟨rfl, -⟩ := checkTensor_ok hb
    have hk : 2 * layer / 2 = layer := by omega
    have hv : (2 * layer + 1) / 2 = layer := by omega
    have hk2 : 2 * layer % 2 = 0 := by omega
    exact ⟨k, v, rfl, by simp [slotsFrom, Contract.kindOf, hk, hv, hk2], hpos⟩
  · cases h

theorem slotsFrom_append (i : Nat) (ts us : List (Tensor δ)) :
    slotsFrom i (ts ++ us) = slotsFrom i ts ++ slotsFrom (i + ts.length) us := by
  induction ts generalizing i with
  | nil => rfl
  | cons t ts ih =>
    have hi : i + (ts.length + 1) = i + 1 + ts.length := by omega
    simp [slotsFrom, ih, hi]

theorem checkLayers_ok {shape : List Int} {layer : Nat} {ls : List (Layer δ)}
    {slots : List (Slot δ)} (h : checkLayers shape layer ls = .ok slots) :
    ∃ pairs : List (Tensor δ × Tensor δ), ls = pairs.map (fun p => .seq [p.1, p.2]) ∧
      slots = slotsFrom (2 * layer) (tensorsOf pairs) ∧ (pairs ≠ [] → ∀ d ∈ shape, 0 ≤ d) := by
  induction ls generalizing layer slots with
  | nil =>
    simp only [checkLayers, Except.ok.injEq] at h
    exact ⟨[], rfl, h.symm, by simp⟩
  | cons l ls ih =>
    simp only [checkLayers, bind_eq_ok, pure, Except.pure, Except.ok.injEq] at h
    obtain ⟨a, ha, b, hb, rfl⟩ := h
    obtain ⟨k, v, rfl, rfl, hpos⟩ := checkLayer_ok ha
    obtain ⟨pairs, rfl, rfl, -⟩ := ih hb
    refine ⟨(k, v) :: pairs, rfl, ?_, fun _ => hpos⟩
    have hcat : tensorsOf ((k, v) :: pairs) = [k, v] ++ tensorsOf pairs := rfl
    rw [hcat, slotsFrom_append]
    rfl

@[simp] theorem length_tensorsOf (pairs : List (Tensor δ × Tensor δ)) :
    (tensorsOf pairs).length = 2 * pairs.length := by
  induction pairs with
  | nil => rfl
  | cons p ps ih =>
    simp only [tensorsOf, List.length_cons, ih]
    omega

theorem checkChunk_ok {name : String} {expected : Int} {c : Option Bytes} {b : Bytes}
    (h : checkChunk name expected c = .ok b) : c = some b ∧ (b.length : Int) = expected := by
  unfold checkChunk at h
  split at h
  · cases h
  · split at h
    · next hlen =>
      cases h
      exact ⟨rfl, hlen⟩
    · cases h

/-- The loop keeps its running offset at a multiple of the tensor size. -/
theorem packChunks_ok {toLe : η → Except Error (Option Bytes)} {shape : List Int}
    {offset i : Nat} {ts : List (Tensor δ)} {hosts : List η} {cs : List (Bytes × Json)}
    (hoff : (offset : Int) = i * tensorBytes shape) (hlen : hosts.length = ts.length)
    (h : packChunks toLe shape offset ((slotsFrom i ts).zip hosts) = .ok cs) :
    cs.map Prod.snd = (List.range' i ts.length).map (tableEntry shape) ∧
      List.Forall₂ (fun x c => toLe x = .ok (some c) ∧ (c.length : Int) = tensorBytes shape) hosts
        (cs.map Prod.fst) := by
  induction ts generalizing i offset hosts cs with
  | nil =>
    cases hosts with
    | nil =>
      simp only [slotsFrom, List.zip_nil_left, packChunks, Except.ok.injEq] at h
      subst h
      simp
    | cons x xs => simp at hlen
  | cons t ts ih =>
    cases hosts with
    | nil => simp at hlen
    | cons x xs =>
      simp only [slotsFrom, List.zip_cons_cons, packChunks, bind_eq_ok, pure, Except.pure,
        Except.ok.injEq] at h
      obtain ⟨c, hc, b, hb, more, hmore, rfl⟩ := h
      obtain ⟨rfl, hblen⟩ := checkChunk_ok hb
      have hnext : ((offset + b.length : Nat) : Int) = ((i + 1 : Nat) : Int) * tensorBytes shape := by
        push_cast
        rw [hoff, hblen, tensorBytes]
        ring
      obtain ⟨htab, hall⟩ := ih hnext (by simpa using hlen) hmore
      refine ⟨?_, ?_⟩
      · simp only [List.map_cons, List.length_cons, List.range'_succ, htab, tableEntry, hoff, hblen,
          tensorBytes]
      · exact .cons ⟨hc, hblen⟩ hall

/-- The arrays of consecutive chunks, two per layer. -/
def arrayPairs (shape : List Int) : List Bytes → List (HalfArray × HalfArray)
  | k :: v :: rest => (⟨shape, halves k⟩, ⟨shape, halves v⟩) :: arrayPairs shape rest
  | _ => []

theorem reshape_exact {words : List Half} {dims : List Int} (hpos : ∀ d ∈ dims, 0 ≤ d)
    (hprod : dims.prod = words.length) : reshape words dims = .ok ⟨dims, words⟩ := by
  have hcount : dims.countP (· < 0) = 0 := by
    rw [List.countP_eq_zero]
    intro d hd
    have := hpos d hd
    simpa using this
  have hfilter : dims.filter (0 ≤ ·) = dims := by
    rw [List.filter_eq_self]
    intro d hd
    simpa using hpos d hd
  simp [reshape, hcount, hfilter, hprod]

theorem dimensions_ints (dims : List Int) : dimensions (.list (dims.map .int)) = .ok dims := by
  rw [dimensions, mapM_eq_ok]
  induction dims with
  | nil => exact .nil
  | cons d ds ih => exact .cons rfl ih

/-- A table entry selects the bytes of its own chunk. -/
theorem unpackTensor_entry {chunks : List Bytes} {shape : List Int} {n i : Nat} {c : Bytes}
    (hpos : ∀ d ∈ shape, 0 ≤ d) (hn : tensorBytes shape = n) (hlen : ∀ c ∈ chunks, c.length = n)
    (hc : chunks[i]? = some c) :
    unpackTensor chunks.flatten (tableEntry shape i) = .ok ⟨shape, halves c⟩ := by
  have hprod : shape.prod * 2 = n := hn
  have hhalf : (n : Int) / 2 = (n / 2 : Nat) := by omega
  have hcount : 2 * (n / 2) = n := by omega
  have hi : i < chunks.length := (List.getElem?_eq_some_iff.mp hc).1
  have htotal := length_flatten_uniform hlen
  have hroom : i * n + n ≤ chunks.flatten.length := by
    rw [htotal]
    have := Nat.mul_le_mul_right n hi
    rw [Nat.succ_mul] at this
    exact this
  have hslice := slice_flatten hlen hc
  have hcn : c.length = n := hlen c (List.mem_of_getElem? hc)
  have hoffset : (i : Int) * n = (i * n : Nat) := by push_cast; rfl
  have hwords : frombuffer chunks.flatten ((n : Int) / 2) (i * n) = .ok (halves c) := by
    rw [frombuffer, hoffset, if_neg (by omega), hhalf]
    simp only [Int.toNat_natCast, List.length_drop]
    rw [if_neg (by omega), if_neg (by omega), hcount]
    rw [slice] at hslice
    rw [hslice]
  have hsize : shape.prod = (halves c).length := by
    rw [length_halves, hcn]
    omega
  have hshape := reshape_exact hpos hsize
  simp only [unpackTensor, tableEntry, tensorEntry, item, List.lookup_cons, String.reduceBEq,
    intOf, bind, Except.bind, hn, hwords, dimensions_ints, hshape]

theorem slice_range' (f : Nat → Json) {n i : Nat} (h : i + 1 < n) :
    slice ((List.range' 0 n).map f) i 2 = [f i, f (i + 1)] := by
  rw [slice, ← List.map_drop, ← List.map_take, List.drop_range',
    List.take_range'_of_length_ge (by omega)]
  simp [List.range'_succ]

theorem unpackLayer_entry {payload : Bytes} {f : Nat → Json} {n l : Nat} {k v : HalfArray}
    (h : 2 * l + 1 < n) (hk : unpackTensor payload (f (2 * l)) = .ok k)
    (hv : unpackTensor payload (f (2 * l + 1)) = .ok v) :
    unpackLayer payload ((List.range' 0 n).map f) l = .ok (k, v) := by
  have hs : slice ((List.range' 0 n).map f) (l * 2) 2 = [f (2 * l), f (2 * l + 1)] := by
    rw [Nat.mul_comm l 2]
    exact slice_range' f h
  simp only [unpackLayer, hs, List.mapM_cons, List.mapM_nil, hk, hv, bind, Except.bind, pure,
    Except.pure]

/-- The layer loop over a table reads two consecutive chunks per layer. -/
theorem unpackLayers_entries {payload : Bytes} {f : Nat → Json} {shape : List Int} {n l : Nat}
    {chunks : List Bytes} (hn : 2 * l + chunks.length ≤ n)
    (h : ∀ j c, chunks[j]? = some c →
      unpackTensor payload (f (2 * l + j)) = .ok ⟨shape, halves c⟩) :
    List.Forall₂ (fun i y => unpackLayer payload ((List.range' 0 n).map f) i = .ok y)
      (List.range' l (chunks.length / 2)) (arrayPairs shape chunks) := by
  induction chunks using arrayPairs.induct generalizing l with
  | case1 k v rest ih =>
    simp only [List.length_cons] at hn
    have hhalf : (rest.length + 1 + 1) / 2 = rest.length / 2 + 1 := by omega
    simp only [List.length_cons, hhalf, List.range'_succ, arrayPairs]
    have hk := h 0 k rfl
    have hv := h 1 v rfl
    refine .cons (unpackLayer_entry (by omega) hk hv) (ih (by omega) ?_)
    intro j c hj
    have hnext := h (j + 2) c hj
    have hidx : 2 * l + (j + 2) = 2 * (l + 1) + j := by omega
    rw [hidx] at hnext
    exact hnext
  | case2 chunks hne =>
    have hshort : chunks.length / 2 = 0 := by
      match chunks with
      | [] => rfl
      | [_] => simp
      | a :: b :: cs => exact absurd rfl (hne a b cs)
    rw [hshort]
    match chunks with
    | [] => exact .nil
    | [_] => exact .nil
    | a :: b :: cs => exact absurd rfl (hne a b cs)

theorem unpackLayers_table {info : ModelInfo} {shape : List Int} {chunks : List Bytes} {n k : Nat}
    (hpos : ∀ d ∈ shape, 0 ≤ d) (hn : tensorBytes shape = n) (hlen : ∀ c ∈ chunks, c.length = n)
    (hk : info.layerCount = k) (hc : chunks.length = 2 * k) :
    unpackLayers info chunks.flatten ((List.range' 0 (2 * k)).map (tableEntry shape)) =
      .ok (arrayPairs shape chunks) := by
  have htensor : ∀ j c, chunks[j]? = some c → unpackTensor chunks.flatten
      (tableEntry shape (2 * 0 + j)) = .ok ⟨shape, halves c⟩ := by
    intro j c hj
    rw [Nat.mul_zero, Nat.zero_add]
    exact unpackTensor_entry hpos hn hlen hj
  have hloop := unpackLayers_entries (n := 2 * k) (l := 0) (by omega) htensor
  have hhalf : chunks.length / 2 = k := by omega
  rw [hhalf] at hloop
  rw [unpackLayers, mapM_eq_ok, hk, Int.toNat_natCast, List.range_eq_range']
  exact hloop

theorem arrayPairs_encode {toHost : Tensor δ → Except Error η}
    {toLe : η → Except Error (Option Bytes)} {shape : List Int}
    {pairs : List (Tensor δ × Tensor δ)} {chunks : List Bytes}
    (heven : ∀ c ∈ chunks, c.length % 2 = 0)
    (h : List.Forall₂ (fun t c => encode toHost toLe t = .ok (some c)) (tensorsOf pairs) chunks) :
    List.Forall₂ (fun p a => encode toHost toLe p.1 = .ok (some (toBytes a.1.words)) ∧
      encode toHost toLe p.2 = .ok (some (toBytes a.2.words)) ∧
      a.1.shape = shape ∧ a.2.shape = shape) pairs (arrayPairs shape chunks) := by
  induction pairs generalizing chunks with
  | nil =>
    cases h
    exact .nil
  | cons p ps ih =>
    simp only [tensorsOf] at h
    cases h with
    | cons hk h =>
      cases h with
      | cons hv h =>
        refine .cons ⟨?_, ?_, rfl, rfl⟩ (ih (fun c hc => heven c (by simp [hc])) h)
        · rw [toBytes_halves _ (heven _ (by simp))]
          exact hk
        · rw [toBytes_halves _ (heven _ (by simp))]
          exact hv

/-- The layout of a packed cache: its tensor table, its payload and what reading
the payload by the table gives back. -/
structure KvLayout (pairs : List (Tensor δ × Tensor δ)) (chunks : List Bytes)
    (promptLength : Int) (info : ModelInfo) (toHost : Tensor δ → Except Error η)
    (toLeFp16Bytes : η → Except Error (Option Bytes)) (packed : PackedKv) : Prop where
  layers : (pairs.length : Int) = info.layerCount
  encoded : List.Forall₂ (fun t c => encode toHost toLeFp16Bytes t = .ok (some c))
    (tensorsOf pairs) chunks
  count : (packed.tensors.length : Int) = 2 * info.layerCount
  entry : ∀ i < packed.tensors.length, packed.tensors[i]? = some (.obj
    [("name", .str ("L" ++ strInt (i / 2 : Nat) ++ if i % 2 = 0 then "K" else "V")),
      ("layer", .int (i / 2 : Nat)), ("kind", .str (if i % 2 = 0 then "K" else "V")),
      ("shape", .list [.int 1, .int info.kvHeadCount, .int promptLength, .int info.headDim]),
      ("offset_bytes", .int (i * (2 * info.kvHeadCount * promptLength * info.headDim))),
      ("nbytes", .int (2 * info.kvHeadCount * promptLength * info.headDim))])
  payload : packed.payload = chunks.flatten
  chunkBytes : ∀ c ∈ chunks, (c.length : Int) = 2 * info.kvHeadCount * promptLength * info.headDim
  payloadBytes : (packed.payload.length : Int) =
    packed.tensors.length * (2 * info.kvHeadCount * promptLength * info.headDim)
  unpacked : ∃ arrays, unpackLayers info packed.payload packed.tensors = .ok arrays ∧
    List.Forall₂ (fun p a => encode toHost toLeFp16Bytes p.1 = .ok (some (toBytes a.1.words)) ∧
      encode toHost toLeFp16Bytes p.2 = .ok (some (toBytes a.2.words)) ∧
      a.1.shape = expectedShape info promptLength ∧
      a.2.shape = expectedShape info promptLength) pairs arrays
  fixed : info.layerCount = 22 → info.kvHeadCount = 4 → info.headDim = 64 → promptLength = 128 →
    packed.tensors = Contract.buildFixedTensors ∧
      (packed.payload.length : Int) = Contract.EXPECTED_KV_BYTES

theorem tensorBytes_expectedShape (info : ModelInfo) (promptLength : Int) :
    tensorBytes (expectedShape info promptLength) =
      2 * info.kvHeadCount * promptLength * info.headDim := by
  simp only [tensorBytes, expectedShape, List.prod_cons, List.prod_nil]
  ring

theorem legacyCache_ne_nil {cache : Cache δ} {ls : List (Layer δ)}
    (h : legacyCache cache = .ok ls) : ls ≠ [] := by
  have hitems : ∀ c : Cache δ, legacyItems c = .ok ls → ls ≠ [] := by
    intro c hc
    unfold legacyItems at hc
    split at hc
    · cases hc
    · next layers hne =>
      cases hc
      intro hnil
      exact hne (by rw [hnil])
    · cases hc
  unfold legacyCache at h
  split at h
  · exact hitems _ h
  · exact hitems _ h

theorem map_tensor_slotsFrom (i : Nat) (ts : List (Tensor δ)) :
    (slotsFrom i ts).map (·.tensor) = ts := by
  induction ts generalizing i with
  | nil => rfl
  | cons t ts ih => simp [slotsFrom, ih]

theorem forall₂_encode {toHost : Tensor δ → Except Error η}
    {toLe : η → Except Error (Option Bytes)} {P : Bytes → Prop} {ts : List (Tensor δ)}
    {hosts : List η} {chunks : List Bytes}
    (hh : List.Forall₂ (fun t x => toHost t = .ok x) ts hosts)
    (hc : List.Forall₂ (fun x c => toLe x = .ok (some c) ∧ P c) hosts chunks) :
    List.Forall₂ (fun t c => encode toHost toLe t = .ok (some c)) ts chunks ∧
      ∀ c ∈ chunks, P c := by
  induction hh generalizing chunks with
  | nil =>
    cases hc
    exact ⟨.nil, by simp⟩
  | cons ht hrest ih =>
    cases hc with
    | cons hx hxs =>
      obtain ⟨henc, hall⟩ := ih hxs
      refine ⟨.cons ?_ henc, List.forall_mem_cons.mpr ⟨hx.2, hall⟩⟩
      simp only [encode, ht, bind, Except.bind]
      exact hx.1

theorem packLegacyPkv_ok {cache : Cache δ} {promptLength : Int} {info : ModelInfo}
    {toHost : Tensor δ → Except Error η} {toLe : η → Except Error (Option Bytes)}
    {clock : Nat → Int} {packed : PackedKv}
    (h : packLegacyPkv cache promptLength info toHost toLe clock = .ok packed) :
    ∃ pairs chunks, legacyCache cache = .ok (pairs.map fun p => .seq [p.1, p.2]) ∧
      pairs ≠ [] ∧ (pairs.length : Int) = info.layerCount ∧
      (∀ d ∈ expectedShape info promptLength, 0 ≤ d) ∧
      packed.tensors = (List.range' 0 (2 * pairs.length)).map
        (tableEntry (expectedShape info promptLength)) ∧
      packed.payload = chunks.flatten ∧
      List.Forall₂ (fun t c => encode toHost toLe t = .ok (some c)) (tensorsOf pairs) chunks ∧
      ∀ c ∈ chunks, (c.length : Int) = tensorBytes (expectedShape info promptLength) := by
  simp only [packLegacyPkv, bind_eq_ok, require_eq_ok, beq_iff_eq, pure, Except.pure,
    Except.ok.injEq] at h
  obtain ⟨ls, hls, -, hcount, slots, hslots, hosts, hhosts, cs, hcs, -, -, -, -, rfl⟩ := h
  obtain ⟨pairs, rfl, rfl, hpos⟩ := checkLayers_ok hslots
  have hne : pairs ≠ [] := by
    intro hnil
    exact legacyCache_ne_nil hls (by rw [hnil]; rfl)
  have hhost : List.Forall₂ (fun t x => toHost t = .ok x) (tensorsOf pairs) hosts := by
    rw [mapM_eq_ok] at hhosts
    rw [← map_tensor_slotsFrom (2 * 0) (tensorsOf pairs), List.forall₂_map_left_iff]
    exact hhosts
  obtain ⟨htab, hchunks⟩ := packChunks_ok (i := 0) (by simp) hhost.length_eq.symm hcs
  rw [length_tensorsOf] at htab
  exact ⟨pairs, cs.map Prod.fst, hls, hne, by simpa using hcount, hpos hne, htab, rfl,
    forall₂_encode hhost hchunks⟩

/-- Chunks of the size the shape asks for have it as a natural number. -/
theorem chunk_length {shape : List Int} {chunks : List Bytes} (hne : chunks ≠ [])
    (h : ∀ c ∈ chunks, (c.length : Int) = tensorBytes shape) :
    ∃ n : Nat, tensorBytes shape = n ∧ ∀ c ∈ chunks, c.length = n := by
  obtain ⟨c, hc⟩ := List.exists_mem_of_ne_nil chunks hne
  refine ⟨c.length, (h c hc).symm, fun d hd => ?_⟩
  have hcn := h c hc
  have hdn := h d hd
  omega

theorem packLegacyPkv_table {cache : Cache δ} {promptLength : Int} {info : ModelInfo}
    {toHost : Tensor δ → Except Error η} {toLe : η → Except Error (Option Bytes)}
    {clock : Nat → Int} {packed : PackedKv}
    (h : packLegacyPkv cache promptLength info toHost toLe clock = .ok packed) :
    (packed.tensors.length : Int) = info.layerCount * 2 ∧
      (∀ i < packed.tensors.length,
        packed.tensors[i]? = some (tableEntry (expectedShape info promptLength) i)) ∧
      (packed.payload.length : Int) =
        packed.tensors.length * tensorBytes (expectedShape info promptLength) := by
  obtain ⟨pairs, chunks, -, hne, hlayers, -, htab, hpay, henc, hlen⟩ := packLegacyPkv_ok h
  have hcount : packed.tensors.length = 2 * pairs.length := by simp [htab]
  have hchunks : chunks.length = 2 * pairs.length := by
    rw [← henc.length_eq, length_tensorsOf]
  have hpairs := List.length_pos_iff.mpr hne
  obtain ⟨n, hn, hlenN⟩ := chunk_length (List.ne_nil_of_length_pos (by omega)) hlen
  refine ⟨by omega, fun i hi => ?_, ?_⟩
  · rw [hcount] at hi
    simp [htab, hi]
  · rw [hpay, length_flatten_uniform hlenN, hcount, hchunks, hn]
    push_cast
    ring

theorem elapsedMs_self (t : Int) : elapsedMs t t = .ok (.finite 0) := by
  simp [elapsedMs, PyFloat.ofInt, PyFloat.round]

/-- The two-layer cache of the workload's packing test. -/
def twoLayerInfo : ModelInfo := ⟨"llama", "LlamaForCausalLM", "float16", 2, 1, 2, 8⟩

def twoLayerTensor (x : UInt8) : Tensor Bytes := ⟨some [1, 1, 1, 2], "torch.float16", [x, 0, x, 0]⟩

def twoLayerCache : Cache Bytes :=
  .seq [.seq [twoLayerTensor 1, twoLayerTensor 2], .seq [twoLayerTensor 3, twoLayerTensor 4]]

def twoLayerPacked : PackedKv :=
  ⟨[1, 0, 1, 0, 2, 0, 2, 0, 3, 0, 3, 0, 4, 0, 4, 0],
    (List.range 4).map (tableEntry [1, 1, 1, 2]), .finite 0, .finite 0⟩

theorem twoLayerCache_packed :
    packLegacyPkv twoLayerCache 1 twoLayerInfo (fun t => .ok t.data) (fun b => .ok (some b))
      (fun _ => 0) = .ok twoLayerPacked := by
  rw [packLegacyPkv, elapsedMs_self]
  rfl

end ServerlessX.Workload
