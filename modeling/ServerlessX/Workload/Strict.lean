import ServerlessX.Workload.Gate

/-! Which headers the decode side accepts, compared with the ones the prefill side
builds: type-strictly, and between two requests. -/
namespace ServerlessX.Workload
open ServerlessX.Py ServerlessX.Py.Json

/-- The header `build_kv_header` makes over a tensor table, a payload size, a
payload digest and a first token. -/
def headerOf (expected : ExpectedKv) (tensors : List Json) (payloadBytes : Int) (digest : String)
    (firstTokenId : Int) : Fields :=
  exactValues expected ++
    [("tensors", .list tensors), ("payload_bytes", .int payloadBytes),
      ("payload_sha256", .str digest), ("first_token_id", .int firstTokenId)]

/-- The number of tensors the dimensions ask for. -/
def tensorCount (expected : ExpectedKv) : Nat := (expected.modelInfo.layerCount * 2).toNat

def shapeOf (expected : ExpectedKv) : List Int :=
  expectedShape expected.modelInfo expected.promptLength

/-- The tensor table `pack_legacy_pkv` makes for the dimensions. -/
def layoutTable (expected : ExpectedKv) : List Json :=
  (List.range (tensorCount expected)).map (tableEntry (shapeOf expected))

def layoutBytes (expected : ExpectedKv) : Int :=
  tensorCount expected * tensorBytes (shapeOf expected)

/-- Entry `i` of the table with other items in its shape list. -/
def entryWith (shape : List Int) (items : List Json) (i : Nat) : Json :=
  .obj [("name", .str (slotName (i / 2) (Contract.kindOf i))), ("layer", .int (i / 2 : Nat)),
    ("kind", .str (Contract.kindOf i)), ("shape", .list items),
    ("offset_bytes", .int (i * tensorBytes shape)), ("nbytes", .int (tensorBytes shape))]

def tableWith (expected : ExpectedKv) (items : Nat → List Json) : List Json :=
  (List.range (tensorCount expected)).map fun i => entryWith (shapeOf expected) (items i) i

/-- A digest, a first token and a payload size that a header may carry. -/
def Carries (expected : ExpectedKv) (digest : String) (firstTokenId : Int) : Prop :=
  Contract.isSha256 digest = true ∧
    (0 ≤ firstTokenId ∧ firstTokenId < expected.modelInfo.vocabSize) ∧
    1 ≤ layoutBytes expected ∧ layoutBytes expected ≤ MAX_PAYLOAD_BYTES

/-- The header is type-strictly one that the prefill side builds. -/
def StrictHeader (expected : ExpectedKv) (header : Json) : Prop :=
  ∃ digest firstTokenId, Carries expected digest firstTokenId ∧
    Same header (.obj (headerOf expected (layoutTable expected) (layoutBytes expected) digest
      firstTokenId))

/-- The header departs from a built one only in its shape lists, and there by
booleans or floats equal to the integers they stand for. -/
def LooseShapes (expected : ExpectedKv) (header : Json) : Prop :=
  ∃ digest firstTokenId items, Carries expected digest firstTokenId ∧
    (∀ i < tensorCount expected, pyEqList (items i) ((shapeOf expected).map .int) = true) ∧
    (∃ i < tensorCount expected, ∃ x ∈ items i, isInt x = false) ∧
    Same header (.obj (headerOf expected (tableWith expected items) (layoutBytes expected) digest
      firstTokenId))

theorem tableEntry_eq_entryWith (shape : List Int) (i : Nat) :
    tableEntry shape i = entryWith shape (shape.map .int) i := by
  simp [tableEntry, tensorEntry, entryWith]

theorem agrees_list (v : Json) (ns : List Int) : agrees v (.list (ns.map .int)) = true ↔
    ∃ items, v = .list items ∧ pyEqList items (ns.map .int) = true := by
  cases v <;> simp [agrees, pyEq, isInt, numEq, asInt, sameType]

theorem same_of_pyEq_int {x : Json} {n : Int} (h : pyEq x (.int n) = true) (v : Json) :
    Same v x ↔ v = x := by
  cases x with
  | bool b => cases v <;> simp [Same, Json.norm]
  | int m => simp
  | float y => cases v <;> simp [Same, Json.norm]
  | _ => simp [pyEq, sameType] at h

theorem forall₂_same_of_pyEqList {items : List Json} {ns : List Int}
    (h : pyEqList items (ns.map .int) = true) (xs : List Json) :
    List.Forall₂ Same xs items ↔ xs = items := by
  induction items generalizing ns xs with
  | nil => simp
  | cons item items ih =>
    cases ns with
    | nil => simp [pyEqList] at h
    | cons n ns =>
      simp only [List.map_cons, pyEqList, Bool.and_eq_true] at h
      cases xs with
      | nil => simp
      | cons x xs => simp [same_of_pyEq_int h.1, ih h.2]

theorem same_list_of_pyEqList {items : List Json} {ns : List Int}
    (h : pyEqList items (ns.map .int) = true) (v : Json) :
    Same v (.list items) ↔ v = .list items := by
  simp only [same_list, forall₂_same_of_pyEqList h]
  exact ⟨fun ⟨xs, hv, hxs⟩ => by rw [hv, hxs], fun hv => ⟨items, hv, rfl⟩⟩

/-- An accepted entry is the table's, up to what Python takes for its shape. -/
theorem tensorOk_iff (shape : List Int) (i : Nat) (t : Json) : TensorOk shape i t ↔
    ∃ items, pyEqList items (shape.map .int) = true ∧ Same t (entryWith shape items i) := by
  have hentry : ∀ (g : Fields) (items : List Json), pyEqList items (shape.map .int) = true →
      (Same (.obj g) (entryWith shape items i) ↔ hasKeys g TENSOR_KEYS = true ∧
        get g "name" = .str (slotName (i / 2) (Contract.kindOf i)) ∧
        get g "layer" = .int (i / 2 : Nat) ∧ get g "kind" = .str (Contract.kindOf i) ∧
        get g "shape" = .list items ∧ get g "offset_bytes" = .int (i * tensorBytes shape) ∧
        get g "nbytes" = .int (tensorBytes shape)) := by
    intro g items hitems
    rw [entryWith, same_obj_iff_fields _ _ (by simp)]
    simp only [List.forall_mem_cons, List.not_mem_nil, false_imp_iff, implies_true, and_true,
      same_str, same_int, same_list_of_pyEqList hitems]
    rfl
  constructor
  · rintro ⟨g, rfl, hkeys, hvals⟩
    simp only [wantedTensor, List.forall_mem_cons, List.not_mem_nil, false_imp_iff, implies_true,
      and_true, agrees_str, agrees_int, agrees_list] at hvals
    obtain ⟨hname, hlayer, hkind, ⟨items, hshape, hitems⟩, hoffset, hnbytes⟩ := hvals
    exact ⟨items, hitems, (hentry g items hitems).mpr
      ⟨hkeys, hname, hlayer, hkind, hshape, hoffset, hnbytes⟩⟩
  · rintro ⟨items, hitems, hs⟩
    obtain ⟨g, rfl⟩ := same_obj_left hs
    obtain ⟨hkeys, hname, hlayer, hkind, hshape, hoffset, hnbytes⟩ := (hentry g items hitems).mp hs
    refine ⟨g, rfl, hkeys, ?_⟩
    simp only [wantedTensor, List.forall_mem_cons, List.not_mem_nil, false_imp_iff, implies_true,
      and_true, agrees_str, agrees_int, agrees_list]
    exact ⟨hname, hlayer, hkind, ⟨items, hshape, hitems⟩, hoffset, hnbytes⟩

theorem eq_of_agrees {v wanted : Json} (hw : wanted.isStr = true ∨ wanted.isInt = true)
    (h : agrees v wanted = true) : v = wanted := by
  cases wanted with
  | str s => exact (agrees_str v s).mp h
  | int n => exact (agrees_int v n).mp h
  | _ => simp [isStr, isInt] at hw

/-- A dict is a header over a table when each of its fields is. -/
theorem same_headerOf (expected : ExpectedKv) (tensors : List Json) (n : Int) (digest : String)
    (t : Int) (f : Fields) :
    Same (.obj f) (.obj (headerOf expected tensors n digest t)) ↔
      hasKeys f HEADER_KEYS = true ∧ (∀ e ∈ exactValues expected, agrees (get f e.1) e.2 = true) ∧
        (∃ ts, get f "tensors" = .list ts ∧ List.Forall₂ Same ts tensors) ∧
        get f "payload_bytes" = .int n ∧ get f "payload_sha256" = .str digest ∧
        get f "first_token_id" = .int t := by
  have hvalues : (∀ e ∈ exactValues expected, Same (get f e.1) e.2) ↔
      ∀ e ∈ exactValues expected, agrees (get f e.1) e.2 = true := by
    refine forall₂_congr fun e he => ⟨agrees_of_same (isScalar_exactValues expected e he), ?_⟩
    intro hv
    rw [eq_of_agrees (isScalar_exactValues expected e he) hv]
    rfl
  rw [same_obj_iff_fields _ _ (by simp [headerOf, exactValues])]
  simp only [headerOf, List.forall_mem_append, List.forall_mem_cons, List.not_mem_nil,
    false_imp_iff, implies_true, and_true, same_list, same_int, same_str, hvalues]
  rfl

theorem forall₂_table (n : Nat) (f : Nat → Json) (ts : List Json) :
    List.Forall₂ Same ts ((List.range n).map f) ↔
      ts.length = n ∧ ∀ j t, ts[j]? = some t → Same t (f j) := by
  rw [List.forall₂_iff_get]
  have hrange : ((List.range n).map f).length = n := by simp
  refine ⟨fun ⟨hlen, h⟩ => ⟨hlen.trans hrange, fun j t hj => ?_⟩,
    fun ⟨hlen, h⟩ => ⟨hlen.trans hrange.symm, fun j hj hj' => ?_⟩⟩
  · obtain ⟨hlt, rfl⟩ := List.getElem?_eq_some_iff.mp hj
    have hs := h j hlt (hlen ▸ hlt)
    simpa using hs
  · have hs := h j ts[j] (List.getElem?_eq_getElem hj)
    simpa using hs

theorem ints_of_pyEqList {items : List Json} {ns : List Int}
    (h : pyEqList items (ns.map .int) = true) (hint : ∀ x ∈ items, isInt x = true) :
    items = ns.map .int := by
  refine (Contract.pyEq_int_list items ns).mp ?_
  rw [h, Bool.and_true, List.all_eq_true]
  exact hint

/-- The table with the integers of the shape is the built one. -/
theorem tableWith_ints {expected : ExpectedKv} {items : Nat → List Json}
    (h : ∀ i < tensorCount expected, items i = (shapeOf expected).map .int) :
    tableWith expected items = layoutTable expected := by
  refine List.map_congr_left fun i hi => ?_
  rw [h i (List.mem_range.mp hi), tableEntry_eq_entryWith]

theorem get_tensors_headerOf (expected : ExpectedKv) (tensors : List Json) (n : Int)
    (digest : String) (t : Int) :
    get (headerOf expected tensors n digest t) "tensors" = .list tensors := by
  rfl

/-- A boolean or a float is no integer: a header is not of both kinds. -/
theorem not_loose_of_strict {expected : ExpectedKv} {header : Json}
    (h : StrictHeader expected header) : ¬ LooseShapes expected header := by
  rintro ⟨d', t', items, -, hitems, ⟨i, hi, x, hx, hint⟩, hs'⟩
  obtain ⟨d, t, -, hs⟩ := h
  have htables : Same (.list (layoutTable expected)) (.list (tableWith expected items)) := by
    have hsame := get_same (hs.symm.trans hs') "tensors"
    rwa [get_tensors_headerOf, get_tensors_headerOf] at hsame
  obtain ⟨ts, hts, hall⟩ := (same_list _ _).mp htables
  obtain ⟨-, hall⟩ := (forall₂_table _ _ _).mp hall
  rw [← Json.list.inj hts] at hall
  have hentry := hall i (tableEntry (shapeOf expected) i) (by simp [layoutTable, hi])
  have hshape : Same (.list ((shapeOf expected).map .int)) (.list (items i)) := by
    rw [tableEntry_eq_entryWith] at hentry
    exact get_same hentry "shape"
  rw [same_list_of_pyEqList (hitems i hi), Json.list.injEq] at hshape
  rw [← hshape] at hx
  obtain ⟨n, -, rfl⟩ := List.mem_map.mp hx
  cases hint

section Accepted
variable {expected : ExpectedKv} (hmodel : Contract.isSha256 expected.modelSha256 = true)
  (htokenizer : Contract.isSha256 expected.tokenizerSha256 = true)
  (hprompt : Contract.isSha256 expected.promptDigestSha256 = true)
include hmodel htokenizer hprompt

/-- The decode side compares shapes as Python does, and everything else strictly. -/
theorem headerOk_iff (f : Fields) : HeaderOk expected f ↔
    ∃ digest firstTokenId items, Carries expected digest firstTokenId ∧
      (∀ i < tensorCount expected, pyEqList (items i) ((shapeOf expected).map .int) = true) ∧
      Same (.obj f) (.obj (headerOf expected (tableWith expected items) (layoutBytes expected) digest
        firstTokenId)) := by
  simp only [same_headerOf, tableWith, forall₂_table]
  constructor
  · intro h
    obtain ⟨d, hd⟩ := h.payloadSha
    obtain ⟨t, ht, hrange⟩ := h.firstToken
    obtain ⟨ts, hts, hcount, hall, n, hn, hpos, hbytes, hmax⟩ := h.table
    have hlen : ts.length = tensorCount expected := by
      rw [tensorCount, ← hcount]
      rfl
    have hsize : n = layoutBytes expected := by rw [hbytes, hlen, layoutBytes, shapeOf]
    have hitems : ∀ i, ∃ items, i < tensorCount expected →
        pyEqList items ((shapeOf expected).map .int) = true ∧
          ∀ t, ts[i]? = some t → Same t (entryWith (shapeOf expected) items i) := by
      intro i
      by_cases hi : i < ts.length
      · obtain ⟨items, heq, hs⟩ := (tensorOk_iff _ _ _).mp
          (hall i ts[i] (List.getElem?_eq_getElem hi))
        refine ⟨items, fun _ => ⟨heq, fun t ht => ?_⟩⟩
        rw [List.getElem?_eq_getElem hi, Option.some.injEq] at ht
        rw [← ht]
        exact hs
      · exact ⟨[], fun hlt => absurd (hlen ▸ hlt) hi⟩
    choose items hitems using hitems
    refine ⟨d, t, items, ⟨hd.2, hrange, hsize ▸ hpos, hsize ▸ hmax⟩, fun i hi => (hitems i hi).1,
      h.keys, h.values, ⟨ts, hts, hlen, fun j e hj => ?_⟩, by rw [hn, hsize], hd.1, ht⟩
    obtain ⟨hlt, -⟩ := List.getElem?_eq_some_iff.mp hj
    exact (hitems j (hlen ▸ hlt)).2 e hj
  · rintro ⟨d, t, items, ⟨hd, hrange, hpos, hmax⟩, hitems, hkeys, hvals, ⟨ts, hts, hlen, hall⟩,
      hbytes, hdigest, hfirst⟩
    have hstr : ∀ k s, (k, .str s) ∈ exactValues expected → get f k = .str s := by
      intro k s hk
      exact (agrees_str _ s).mp (hvals _ hk)
    have hcount : (ts.length : Int) = expected.modelInfo.layerCount * 2 := by
      have hne : tensorCount expected ≠ 0 := by
        intro h0
        simp [layoutBytes, h0] at hpos
      rw [hlen]
      rw [tensorCount] at hne ⊢
      omega
    refine ⟨hkeys, hvals, ⟨_, hstr "model_sha256" _ (by simp [exactValues]), hmodel⟩,
      ⟨_, hstr "tokenizer_sha256" _ (by simp [exactValues]), htokenizer⟩,
      ⟨_, hstr "prompt_digest_sha256" _ (by simp [exactValues]), hprompt⟩, ⟨d, hdigest, hd⟩,
      ⟨t, hfirst, hrange⟩, ts, hts, hcount, fun j e hj => ?_, layoutBytes expected, hbytes, hpos,
      by rw [hlen]; rfl, hmax⟩
    obtain ⟨hlt, -⟩ := List.getElem?_eq_some_iff.mp hj
    exact (tensorOk_iff _ _ _).mpr ⟨items j, hitems j (hlen ▸ hlt), hall j e hj⟩

theorem accepted_iff (header : Json) : (∃ f, validateKvHeader header expected = .ok f) ↔
    StrictHeader expected header ∨ LooseShapes expected header := by
  simp only [validateKvHeader_eq_ok, headerOk_iff hmodel htokenizer hprompt]
  constructor
  · rintro ⟨f, rfl, d, t, items, hc, hitems, hs⟩
    by_cases hint : ∃ i < tensorCount expected, ∃ x ∈ items i, isInt x = false
    · exact .inr ⟨d, t, items, hc, hitems, hint, hs⟩
    · refine .inl ⟨d, t, hc, ?_⟩
      rwa [← tableWith_ints fun i hi => ?_]
      refine ints_of_pyEqList (hitems i hi) fun x hx => ?_
      cases hx' : isInt x with
      | true => rfl
      | false => exact absurd ⟨i, hi, x, hx, hx'⟩ hint
  · intro h
    obtain ⟨d, t, items, hc, hitems, hs⟩ : ∃ d t items, Carries expected d t ∧
        (∀ i < tensorCount expected, pyEqList (items i) ((shapeOf expected).map .int) = true) ∧
        Same header (.obj (headerOf expected (tableWith expected items) (layoutBytes expected) d
          t)) := by
      obtain ⟨d, t, hc, hs⟩ | ⟨d, t, items, hc, hitems, -, hs⟩ := h
      · refine ⟨d, t, fun _ => (shapeOf expected).map .int, hc,
          fun i _ => pyEqList_ints (shapeOf expected), ?_⟩
        rwa [tableWith_ints fun i _ => rfl]
      · exact ⟨d, t, items, hc, hitems, hs⟩
    obtain ⟨f, rfl⟩ := same_obj_left hs
    exact ⟨f, rfl, d, t, items, hc, hitems, hs⟩

end Accepted

/-- Packing makes the table and the payload size of the dimensions. -/
theorem packLegacyPkv_layout {δ η : Type} {expected : ExpectedKv} {cache : Cache δ}
    {toHost : Tensor δ → Except Error η} {toLe : η → Except Error (Option Bytes)}
    {clock : Nat → Int} {packed : PackedKv}
    (h : packLegacyPkv cache expected.promptLength expected.modelInfo toHost toLe clock =
      .ok packed) :
    packed.tensors = layoutTable expected ∧
      (packed.payload.length : Int) = layoutBytes expected := by
  obtain ⟨hcount, hentry, hsize⟩ := packLegacyPkv_table h
  have hlen : packed.tensors.length = tensorCount expected := by
    rw [tensorCount, ← hcount]
    rfl
  refine ⟨List.ext_getElem? fun i => ?_, by rw [hsize, hlen, layoutBytes, shapeOf]⟩
  by_cases hi : i < packed.tensors.length
  · rw [hentry i hi, layoutTable, List.getElem?_map, List.getElem?_range (hlen ▸ hi)]
    rfl
  · rw [List.getElem?_eq_none (by omega), List.getElem?_eq_none]
    simp only [layoutTable, List.length_map, List.length_range]
    omega

theorem shape_of_same {shape : List Int} {i : Nat} {t : Json} (h : Same t (tableEntry shape i)) :
    ∃ v, item t "shape" = .ok v ∧ dimensions v = .ok shape := by
  have hitem : item (tableEntry shape i) "shape" = .ok (.list (shape.map .int)) := rfl
  obtain ⟨e, -, he⟩ | ⟨v, v', hv, hv', hs⟩ := item_same h "shape"
  · rw [hitem] at he
    cases he
  · rw [hitem, Except.ok.injEq] at hv'
    rw [← hv'] at hs
    exact ⟨v, hv, by rw [dimensions_same hs, dimensions_ints]⟩

/-- `validate_kv_header` is type-strict except inside the shape lists, which it
compares as Python does; where it is, the accepted header has the canonical bytes
of a built one and its shapes can be unpacked. -/
theorem validateKvHeader_strict {expected : ExpectedKv}
    (hmodel : Contract.isSha256 expected.modelSha256 = true)
    (htokenizer : Contract.isSha256 expected.tokenizerSha256 = true)
    (hprompt : Contract.isSha256 expected.promptDigestSha256 = true) (header : Json) :
    (((∃ f, validateKvHeader header expected = .ok f) ↔ StrictHeader expected header) ↔
      ¬ LooseShapes expected header) ∧
    (StrictHeader expected header → ∃ f ts digest firstTokenId, header = .obj f ∧
      canonicalJsonBytes header = canonicalJsonBytes (.obj (headerOf expected (layoutTable expected)
        (layoutBytes expected) digest firstTokenId)) ∧
      get f "tensors" = .list ts ∧ ∀ t ∈ ts, ∃ shape, item t "shape" = .ok shape ∧
        dimensions shape = .ok (shapeOf expected)) ∧
    (∀ (δ η : Type) (cache : Cache δ) (toHost : Tensor δ → Except Error η)
      (toLe : η → Except Error (Option Bytes)) clock packed sha256 firstTokenId,
      packLegacyPkv cache expected.promptLength expected.modelInfo toHost toLe clock = .ok packed →
      kvHeader sha256 expected packed firstTokenId = headerOf expected (layoutTable expected)
        (layoutBytes expected) (sha256 packed.payload) firstTokenId) := by
  refine ⟨?_, ?_, ?_⟩
  · rw [accepted_iff hmodel htokenizer hprompt]
    refine ⟨fun h hloose => ?_, fun h => or_iff_left h⟩
    exact not_loose_of_strict (h.mp (.inr hloose)) hloose
  · rintro ⟨d, t, -, hs⟩
    obtain ⟨f, rfl⟩ := same_obj_left hs
    obtain ⟨-, -, ⟨ts, hts, hall⟩, -⟩ := (same_headerOf _ _ _ _ _ f).mp hs
    refine ⟨f, ts, d, t, rfl, canonicalJsonBytes_same hs, hts, fun e he => ?_⟩
    obtain ⟨j, hj, rfl⟩ := List.mem_iff_getElem.mp he
    exact shape_of_same (((forall₂_table _ _ _).mp hall).2 j ts[j] (List.getElem?_eq_getElem hj))
  · intro δ η cache toHost toLe clock packed sha256 t h
    obtain ⟨htable, hbytes⟩ := packLegacyPkv_layout h
    rw [kvHeader, headerOf, htable, hbytes]

/-- What the decode side of the two-layer cache expects. -/
def twoLayerExpected : ExpectedKv :=
  ⟨"TinyLlama/TinyLlama-1.1B-Chat-v1.0", String.ofList (List.replicate 64 '1'),
    String.ofList (List.replicate 64 '2'), "request-01", 7, 1,
    String.ofList (List.replicate 64 '3'), 2, twoLayerInfo⟩

/-- The shape `[1, 1, 1, 2]` as Python may also write it. -/
def looseShape : List Json := [.bool true, .int 1, .int 1, .float (.finite 2)]

def looseHeader : Json :=
  .obj (headerOf twoLayerExpected (tableWith twoLayerExpected fun _ => looseShape) 16
    (String.ofList (List.replicate 64 '4')) 5)

theorem looseHeader_loose : LooseShapes twoLayerExpected looseHeader := by
  refine ⟨String.ofList (List.replicate 64 '4'), 5, fun _ => looseShape, ?_, fun i _ => ?_,
    ⟨0, by decide, .bool true, by simp [looseShape], rfl⟩, rfl⟩
  · exact ⟨by decide +kernel, by decide +kernel, by decide +kernel, by decide +kernel⟩
  · show pyEqList looseShape ((shapeOf twoLayerExpected).map .int) = true
    decide +kernel

/-- A header with `True` and `2.0` in its shapes is accepted, and it is no built one. -/
theorem looseHeader_accepted :
    (∃ f, validateKvHeader looseHeader twoLayerExpected = .ok f) ∧
      ¬ StrictHeader twoLayerExpected looseHeader := by
  refine ⟨?_, fun h => not_loose_of_strict h looseHeader_loose⟩
  rw [accepted_iff (by decide +kernel) (by decide +kernel) (by decide +kernel)]
  exact .inr looseHeader_loose

theorem twoLayerExpected_not_strict :
    ¬ ((∃ f, validateKvHeader looseHeader twoLayerExpected = .ok f) ↔
      StrictHeader twoLayerExpected looseHeader) := by
  obtain ⟨hiff, -⟩ := @validateKvHeader_strict twoLayerExpected (by decide +kernel)
    (by decide +kernel) (by decide +kernel) looseHeader
  rw [hiff, not_not]
  exact looseHeader_loose

/-! ### Two requests -/

theorem tokenText_injective {ids ids' : List Int} (h : tokenText ids = tokenText ids') :
    ids = ids' := by
  have hread : ∀ ns : List Int, Scan.scan (tokenText ns) = .ok (.list (ns.map .int)) := by
    intro ns
    have hfree : (Json.list (ns.map .int)).floatFree = true := by
      rw [floatFree, floatFreeList_iff]
      intro x hx
      obtain ⟨n, -, rfl⟩ := List.mem_map.mp hx
      rfl
    rw [tokenText, Scan.scan_roundTrips _ hfree, Tree.ofJson, Tree.ofJsonList_eq_map, List.map_map]
    rfl
  have hlists := hread ids
  rw [h, hread ids', Except.ok.injEq, Tree.list.injEq] at hlists
  refine (List.map_injective_iff.mpr fun m n hmn => ?_) hlists.symm
  exact Tree.int.inj hmn

/-- The expected values are what an accepted header holds under their keys. -/
theorem HeaderOk.exactValues_eq {expected : ExpectedKv} {f : Fields} (h : HeaderOk expected f) :
    exactValues expected = ((exactValues expected).map Prod.fst).map fun k => (k, get f k) := by
  rw [List.map_map]
  refine (List.map_id' (exactValues expected)).symm.trans (List.map_congr_left fun e he => ?_)
  rw [Function.comp_apply, eq_of_agrees (isScalar_exactValues expected e he) (h.values e he)]

/-- A header accepted for one request is accepted for another exactly if all the
expected values are the same and the vocabulary holds its first token. -/
theorem HeaderOk.accepted_for {expected other : ExpectedKv} {f : Fields} {t : Int}
    (h : HeaderOk expected f) (ht : get f "first_token_id" = .int t) :
    HeaderOk other f ↔ exactValues expected = exactValues other ∧ t < other.modelInfo.vocabSize := by
  constructor
  · intro h'
    refine ⟨h.exactValues_eq.trans h'.exactValues_eq.symm, ?_⟩
    obtain ⟨t', ht', -, hlt⟩ := h'.firstToken
    rw [ht, Json.int.injEq] at ht'
    rwa [ht']
  · rintro ⟨hvalues, hlt⟩
    obtain ⟨t', ht', hnonneg, -⟩ := h.firstToken
    rw [ht, Json.int.injEq] at ht'
    have htable := h.table
    have hfields := hvalues
    simp only [exactValues, List.cons.injEq, Prod.mk.injEq, Json.str.injEq, Json.int.injEq,
      true_and, and_true] at hfields
    obtain ⟨-, -, -, -, -, hlength, -, -, hlayers, hheads, hdim⟩ := hfields
    rw [expectedShape, hlayers, hheads, hdim, hlength] at htable
    exact ⟨h.keys, hvalues ▸ h.values, h.modelSha, h.tokenizerSha, h.promptSha, h.payloadSha,
      ⟨t, ht, ht' ▸ hnonneg, hlt⟩, htable⟩

/-- `build_kv_header` checks its own header. -/
theorem buildKvHeader_ok {sha256 : Bytes → String} {expected : ExpectedKv} {packed : PackedKv}
    {t : Int} {f : Fields} (h : buildKvHeader sha256 expected packed t = .ok f) :
    f = kvHeader sha256 expected packed t ∧ (0 ≤ t ∧ t < expected.modelInfo.vocabSize) ∧
      HeaderOk expected f := by
  simp only [buildKvHeader, bind_eq_ok, require_eq_ok, decide_eq_true_eq, validateKvHeader_eq_ok,
    pure, Except.pure, Except.ok.injEq, Json.obj.injEq] at h
  obtain ⟨-, ht, g, ⟨hg, hok⟩, rfl⟩ := h
  exact ⟨rfl, ht, hg ▸ hok⟩

section Requests
variable {sha256 : Bytes → String} (hsha : ∀ b, Contract.isSha256 (sha256 b) = true)
include hsha

/-- When a header is built over a packed cache, and which one. -/
theorem buildKvHeader_iff {δ η : Type} {expected : ExpectedKv} {cache : Cache δ}
    {toHost : Tensor δ → Except Error η} {toLe : η → Except Error (Option Bytes)}
    {clock : Nat → Int} {packed : PackedKv} {t : Int} {f : Fields}
    (hpack : packLegacyPkv cache expected.promptLength expected.modelInfo toHost toLe clock =
      .ok packed)
    (hmodel : Contract.isSha256 expected.modelSha256 = true)
    (htokenizer : Contract.isSha256 expected.tokenizerSha256 = true)
    (hprompt : Contract.isSha256 expected.promptDigestSha256 = true) :
    buildKvHeader sha256 expected packed t = .ok f ↔
      f = kvHeader sha256 expected packed t ∧ (0 ≤ t ∧ t < expected.modelInfo.vocabSize) ∧
        1 ≤ packed.payload.length ∧ packed.payload.length ≤ MAX_PAYLOAD_BYTES := by
  constructor
  · intro h
    obtain ⟨rfl, ht, hok⟩ := buildKvHeader_ok h
    obtain ⟨ts, -, -, -, n, hn, hpos, -, hmax⟩ := hok.table
    have hbytes : get (kvHeader sha256 expected packed t) "payload_bytes" =
        .int packed.payload.length := rfl
    rw [hbytes, Json.int.injEq] at hn
    rw [← hn] at hpos hmax
    exact ⟨rfl, ht, by exact_mod_cast hpos, by exact_mod_cast hmax⟩
  · rintro ⟨rfl, ht, hpos, hmax⟩
    exact buildKvHeader_eq_ok ht
      (.of_same hsha hpack hmodel htokenizer hprompt ht hpos hmax rfl)

/-- A header built for one request is accepted for another exactly if the two
requests agree on everything but the vocabulary, prompt included. -/
theorem header_binds_request {args args' : Args} {ids ids' : List Int} {info info' : ModelInfo}
    {expected expected' : ExpectedKv}
    (hexpected : expectedKv sha256 args ids info = .ok expected)
    (hexpected' : expectedKv sha256 args' ids' info' = .ok expected')
    (hnoCollision : sha256 (tokenText ids) = sha256 (tokenText ids') →
      tokenText ids = tokenText ids')
    (hmodel : Contract.isSha256 args.modelSha256 = true)
    (htokenizer : Contract.isSha256 args.tokenizerSha256 = true)
    {δ η : Type} {cache : Cache δ} {toHost : Tensor δ → Except Error η}
    {toLe : η → Except Error (Option Bytes)} {clock : Nat → Int} {packed : PackedKv}
    (hpack : packLegacyPkv cache expected.promptLength expected.modelInfo toHost toLe clock =
      .ok packed) (t : Int) :
    ((∃ f, buildKvHeader sha256 expected packed t = .ok f) ↔
      (0 ≤ t ∧ t < expected.modelInfo.vocabSize) ∧
        1 ≤ packed.payload.length ∧ packed.payload.length ≤ MAX_PAYLOAD_BYTES) ∧
    (∀ f, buildKvHeader sha256 expected packed t = .ok f →
      ((∃ g, validateKvHeader (.obj f) expected' = .ok g) ↔
        (expected.modelId = expected'.modelId ∧ expected.modelSha256 = expected'.modelSha256 ∧
          expected.tokenizerSha256 = expected'.tokenizerSha256 ∧
          expected.requestId = expected'.requestId ∧ expected.epoch = expected'.epoch ∧
          expected.outputTokens = expected'.outputTokens ∧
          expected.modelInfo.layerCount = expected'.modelInfo.layerCount ∧
          expected.modelInfo.kvHeadCount = expected'.modelInfo.kvHeadCount ∧
          expected.modelInfo.headDim = expected'.modelInfo.headDim) ∧
        ids = ids' ∧ t < expected'.modelInfo.vocabSize)) := by
  rw [expectedKv_ok, Except.ok.injEq] at hexpected hexpected'
  have hprompt : Contract.isSha256 expected.promptDigestSha256 = true := by
    rw [← hexpected]
    exact hsha _
  have hbuild := fun f => buildKvHeader_iff hsha (t := t) (f := f) hpack
    (by rw [← hexpected]; exact hmodel) (by rw [← hexpected]; exact htokenizer) hprompt
  refine ⟨by simp only [hbuild, exists_eq_left], fun f hf => ?_⟩
  obtain ⟨rfl, -, hok⟩ := buildKvHeader_ok hf
  have haccept : (∃ g, validateKvHeader (.obj (kvHeader sha256 expected packed t)) expected' =
      .ok g) ↔ HeaderOk expected' (kvHeader sha256 expected packed t) := by
    simp only [validateKvHeader_eq_ok, Json.obj.injEq]
    exact ⟨fun ⟨g, hg, h⟩ => hg ▸ h, fun h => ⟨_, rfl, h⟩⟩
  have hdigest : sha256 (tokenText ids) = sha256 (tokenText ids') ↔ ids = ids' :=
    ⟨fun h => tokenText_injective (hnoCollision h), fun h => by rw [h]⟩
  rw [haccept, hok.accepted_for rfl, ← hexpected, ← hexpected']
  simp only [exactValues, List.cons.injEq, Prod.mk.injEq, Json.str.injEq, Json.int.injEq,
    true_and, and_true, hdigest, Nat.cast_inj]
  constructor
  · rintro ⟨⟨h1, h2, h3, h4, h5, -, h7, h8, h9, h10, h11⟩, hlt⟩
    exact ⟨⟨h1, h2, h3, h4, h5, h8, h9, h10, h11⟩, h7, hlt⟩
  · rintro ⟨⟨h1, h2, h3, h4, h5, h8, h9, h10, h11⟩, rfl, hlt⟩
    exact ⟨⟨h1, h2, h3, h4, h5, rfl, rfl, h8, h9, h10, h11⟩, hlt⟩

end Requests

def twoLayerRequest : Args :=
  ⟨twoLayerExpected.modelId, twoLayerExpected.modelSha256, twoLayerExpected.tokenizerSha256,
    twoLayerExpected.requestId, 7, 2, none, none⟩

/-- The header of the prompt `[3]` is built, and refused for the prompt `[4]`. -/
theorem otherPrompt_refused : ∃ expected expected' f,
    expectedKv Sha256.hexdigest twoLayerRequest [3] twoLayerInfo = .ok expected ∧
    expectedKv Sha256.hexdigest twoLayerRequest [4] twoLayerInfo = .ok expected' ∧
    buildKvHeader Sha256.hexdigest expected twoLayerPacked 5 = .ok f ∧
    ¬ ∃ g, validateKvHeader (.obj f) expected' = .ok g := by
  have hcollision : Sha256.hexdigest (tokenText [3]) = Sha256.hexdigest (tokenText [4]) →
      tokenText [3] = tokenText [4] := fun h => absurd h (by decide +kernel)
  obtain ⟨hbuild, haccept⟩ := header_binds_request Contract.isSha256_hexdigest
    (expectedKv_ok Sha256.hexdigest twoLayerRequest [3] twoLayerInfo)
    (expectedKv_ok Sha256.hexdigest twoLayerRequest [4] twoLayerInfo) hcollision (by decide +kernel)
    (by decide +kernel) twoLayerCache_packed 5
  obtain ⟨f, hf⟩ := hbuild.mpr ⟨by decide, by decide, by decide⟩
  refine ⟨_, _, f, expectedKv_ok _ _ _ _, expectedKv_ok _ _ _ _, hf, fun h => ?_⟩
  obtain ⟨-, hids, -⟩ := (haccept f hf).mp h
  simp at hids

end ServerlessX.Workload
