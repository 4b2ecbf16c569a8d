import ServerlessX.Contract.Replay

/-! Metadata as untrusted JSON: what `parse_metadata_json` accepts, and that the
canonical text of accepted metadata is read back and identifies it. -/
namespace ServerlessX.Contract
open ServerlessX.Py ServerlessX.Py.Json

/-- The two exceptions of `json.loads` that `parse_metadata_json` translates. -/
def metadataJsonError (e : Raised Builtin) : Error :=
  if e.cls = .unicodeDecodeError ∨ e.cls = .jsonDecodeError then
    ⟨.metadataError, .text "metadata is not valid JSON: " :: e.message⟩
  else libraryError e

/-- `len(payload)` in bytes; a text with a lone surrogate has no UTF-8 form. -/
def payloadSize : JsonPayload → Except Error Nat
  | .bytes b => .ok b.length
  | .text cs => match encodeUtf8 cs with
    | .ok b => .ok b.length
    | .error e => .error (libraryError e)
  | .other => .error (metadataError "metadata JSON must be bytes or text")

def parseMetadataJson (scan : PayloadScanner) (payload : JsonPayload) (expected : Option Json) :
    Except Error Json := do
  let size ← payloadSize payload
  require (decide (1 ≤ size ∧ size ≤ MAX_JSON_BYTES))
    (metadataError ("metadata JSON size must be in [1, " ++ strInt MAX_JSON_BYTES ++ "]"))
  let value ← loads scan strictHooks metadataJsonError payload
  validateMetadata value expected

/-- The contract's reader accepts the texts without repeated keys and constants. -/
theorem build_contract (t : Tree) (v : Json) :
    t.build strictHooks = .ok v ↔ t.distinctKeys = true ∧ t.constantFree = true ∧ t.toJson = v := by
  have hobject : ∀ pairs w, strictHooks.object pairs = .ok w ↔
      .obj pairs = w ∧ (pairs.map Prod.fst).Nodup := fun pairs w => noDuplicates_nil _ pairs w
  have hconstant : ∀ c w, strictHooks.constant c = .ok w ↔ false = true ∧ c.float = w := by
    simp [strictHooks, rejectConstant]
  simpa using Tree.build_eq_ok hobject hconstant t v

theorem loads_eq_ok {ι : Type} (scan : ι → Except (Raised Builtin) Tree) (p : ι) (v : Json) :
    loads scan strictHooks metadataJsonError p = .ok v ↔
      ∃ t, scan p = .ok t ∧ t.distinctKeys = true ∧ t.constantFree = true ∧ t.toJson = v := by
  unfold loads
  cases scan p with
  | error e => simp
  | ok t => simp [build_contract]

theorem parseMetadataJson_eq_ok {scan : PayloadScanner} {p : JsonPayload} {n : Nat}
    (hsize : payloadSize p = .ok n) (hpos : 1 ≤ n) (hmax : n ≤ MAX_JSON_BYTES) (v : Json) :
    parseMetadataJson scan p none = .ok v ↔
      ∃ t, scan p = .ok t ∧ t.distinctKeys = true ∧ t.constantFree = true ∧ t.toJson = v ∧
        validateMetadata v none = .ok v := by
  have hin : decide (1 ≤ n ∧ n ≤ MAX_JSON_BYTES) = true := by simp [hpos, hmax]
  simp only [parseMetadataJson, hsize, bind_eq_ok, Except.ok.injEq, exists_eq_left', require_eq_ok,
    hin, true_and, exists_const, loads_eq_ok]
  constructor
  · rintro ⟨w, ⟨t, hscan, hkeys, hconst, hw⟩, hv⟩
    obtain ⟨rfl, -⟩ := (validateMetadata_eq_ok _ _).mp hv
    exact ⟨t, hscan, hkeys, hconst, hw, hv⟩
  · rintro ⟨t, hscan, hkeys, hconst, hw, hv⟩
    exact ⟨v, ⟨t, hscan, hkeys, hconst, hw⟩, hv⟩

/-! ### The canonical text -/

/-- The entries of metadata in the order of `METADATA_KEYS`, with the fixed
tensor table. -/
def Metadata.entries (m : Metadata) : Fields :=
  METADATA_KEYS.map fun k =>
    (k, if k = "tensors" then .list buildFixedTensors else get m.fields k)

theorem Metadata.same_entries (m : Metadata) : Same m.json (.obj m.entries) := by
  have hkeys : m.entries.map Prod.fst = METADATA_KEYS := by simp [entries, Function.comp_def]
  refine (same_obj_iff_fields _ _ (by rw [hkeys]; decide)).mpr ⟨?_, ?_⟩
  · rw [hkeys]
    exact m.valid.keys
  · intro e he
    obtain ⟨k, -, rfl⟩ := List.mem_map.mp he
    by_cases hk : k = "tensors"
    · obtain ⟨ts, hts, hsame⟩ := m.valid.tensors
      rw [if_pos hk, hk, hts, same_list]
      exact ⟨ts, rfl, hsame⟩
    · rw [if_neg hk]
      exact rfl

theorem buildFixedTensors_floatFree : (Json.list buildFixedTensors).floatFree = true := by
  rw [floatFree, floatFreeList_iff]
  intro t ht
  obtain ⟨i, -, rfl⟩ := List.mem_map.mp ht
  rfl

theorem Metadata.entries_floatFree (m : Metadata) : (Json.obj m.entries).floatFree = true := by
  obtain ⟨-, schema, version, ⟨_, request, -⟩, ⟨_, epoch, -⟩, ⟨_, attempt, -⟩, ⟨_, model, -⟩,
    ⟨_, modelSha, -⟩, ⟨_, tokenizer, -⟩, ⟨_, prompt, -⟩, ⟨_, payload, -⟩, ⟨_, first, -⟩, layout, dtype,
    length, outputs, -, bytes, ⟨_, source, -⟩, ⟨_, target, -⟩, ⟨_, buffer, -⟩, -, ⟨_, sourceGpu, -⟩,
    ⟨_, targetGpu, -⟩, -, ⟨_, sourceEnd, -⟩, ⟨_, targetEnd, -⟩, -⟩ := m.valid
  rw [floatFree, floatFreeFields_iff]
  intro e he
  obtain ⟨k, hk, rfl⟩ := List.mem_map.mp he
  by_cases ht : k = "tensors"
  · rw [if_pos ht]
    exact buildFixedTensors_floatFree
  · rw [if_neg ht]
    simp only [METADATA_KEYS, List.mem_cons, List.not_mem_nil, or_false] at hk
    rcases hk with rfl | rfl | rfl | rfl | rfl | rfl | rfl | rfl | rfl | rfl | rfl | rfl | rfl | rfl |
      rfl | rfl | rfl | rfl | rfl | rfl | rfl | rfl | rfl | rfl <;>
      first | exact absurd rfl ht | simp only [*, floatFree]

/-- Accepted metadata has a canonical text, the one of its entries in key order. -/
theorem Metadata.canonical (m : Metadata) :
    m.json.norm.floatFree = true ∧ canonicalJsonBytes m.json = .ok (ascii m.json.norm.text) := by
  have hfree : m.json.norm.floatFree = true := by
    rw [m.same_entries]
    exact floatFree_norm m.entries_floatFree
  refine ⟨hfree, ?_⟩
  rw [canonicalJsonBytes, dumps_floatFree hfree]

/-- Validity does not depend on the order of keys. -/
theorem ValidMetadata.of_same {f g : Fields} (h : Same (.obj f) (.obj g)) (hg : ValidMetadata g) :
    ValidMetadata f := by
  have hget : ∀ k, Same (get f k) (get g k) := get_same h
  have hstr : ∀ {k s}, get g k = .str s → get f k = .str s := by
    intro k s hs
    have hk := hget k
    rwa [hs, same_str] at hk
  have hint : ∀ {k n}, get g k = .int n → get f k = .int n := by
    intro k n hn
    have hk := hget k
    rwa [hn, same_int] at hk
  have hform : ∀ {k} {form : String → Bool}, (∃ s, get g k = .str s ∧ form s = true) →
      ∃ s, get f k = .str s ∧ form s = true := fun ⟨s, hs, hf⟩ => ⟨s, hstr hs, hf⟩
  have hdistinct : ∀ {k j} {form form' : String → Bool}, (∃ s, get g k = .str s ∧ form s = true) →
      (∃ s, get g j = .str s ∧ form' s = true) → get g k ≠ get g j → get f k ≠ get f j := by
    rintro k j form form' ⟨s, hs, -⟩ ⟨s', hs', -⟩ hne
    rwa [hstr hs, hstr hs', ← hs, ← hs']
  obtain ⟨n, hn, hn0⟩ := hg.epoch
  obtain ⟨t, ht, ht0⟩ := hg.firstToken
  obtain ⟨ts, hts, htable⟩ := hg.tensors
  have htensors : Same (get f "tensors") (.list buildFixedTensors) := by
    have hfixed : Same (.list ts) (.list buildFixedTensors) := (same_list _ _).mpr ⟨ts, rfl, htable⟩
    rw [← hts] at hfixed
    exact (hget "tensors").trans hfixed
  exact ⟨hasKeys_same h hg.keys, hstr hg.schema, hint hg.schemaVersion, hform hg.requestId,
    ⟨n, hint hn, hn0⟩, hform hg.attemptId, hform hg.modelId, hform hg.modelSha,
    hform hg.tokenizerSha, hform hg.promptDigest, hform hg.payloadSha, ⟨t, hint ht, ht0⟩,
    hstr hg.kvLayout, hstr hg.dtype, hint hg.promptLength, hint hg.outputTokens, (same_list _ _).mp htensors,
    hint hg.payloadBytes, hform hg.sourceOwner, hform hg.targetOwner, hform hg.bufferId,
    hdistinct hg.sourceOwner hg.targetOwner hg.owners, hform hg.sourceGpu, hform hg.targetGpu,
    hdistinct hg.sourceGpu hg.targetGpu hg.gpus, hform hg.sourceEndpoint, hform hg.targetEndpoint,
    hdistinct hg.sourceEndpoint hg.targetEndpoint hg.endpoints⟩

/-- Acknowledgements do not depend on the order of the metadata's keys. -/
theorem canonicalAck_of_same {m m' : Metadata} (h : Same m.json m'.json) (k : AckKind)
    (d : Option String) : canonicalAck k m d = canonicalAck k m' d := by
  have hstr : ∀ {j : String} {s s' : String}, get m.fields j = .str s → get m'.fields j = .str s' →
      s = s' := by
    intro j s s' hs hs'
    have hj := get_same h j
    rw [hs, hs', same_str] at hj
    exact Json.str.inj hj
  have hepoch : m.epoch = m'.epoch := by
    have hj := get_same h "epoch"
    rw [m.get_epoch, m'.get_epoch, same_int] at hj
    exact Json.int.inj hj
  simp only [canonicalAck, ackObject, m.get_requestId, m'.get_requestId, m.get_epoch, m'.get_epoch,
    m.get_attemptId, m'.get_attemptId, m.get_bufferId, m'.get_bufferId, hepoch,
    hstr m.get_requestId m'.get_requestId, hstr m.get_attemptId m'.get_attemptId,
    hstr m.get_bufferId m'.get_bufferId, hstr m.get_payloadSha m'.get_payloadSha,
    hstr (m.get_ownerOf k) (m'.get_ownerOf k)]

/-- The metadata with its keys in order. -/
def Metadata.sorted (m : Metadata) : Metadata where
  fields := Dict.sortKeys (normFields m.fields)
  valid := .of_same (same_norm m.json) m.valid

/-- `parse_metadata_json` accepts exactly the strict JSON texts of valid metadata,
reads canonical texts back, and canonical texts tell metadata apart. -/
theorem parseMetadataJson_exact {scan : PayloadScanner}
    (hscan : RoundTrips fun b => scan (.bytes b)) :
    (∀ p n v, payloadSize p = .ok n → 1 ≤ n → n ≤ MAX_JSON_BYTES →
      (parseMetadataJson scan p none = .ok v ↔
        ∃ t, scan p = .ok t ∧ t.distinctKeys = true ∧ t.constantFree = true ∧ t.toJson = v ∧
          validateMetadata v none = .ok v)) ∧
    (∀ m : Metadata, ∃ b, canonicalJsonBytes m.json = .ok b ∧ (b.length ≤ MAX_JSON_BYTES →
      ∃ v, parseMetadataJson scan (.bytes b) none = .ok v ∧ Same v m.json ∧
        canonicalJsonBytes v = .ok b)) ∧
    (∀ m m' : Metadata, canonicalJsonBytes m.json = canonicalJsonBytes m'.json ↔
      Same m.json m'.json) := by
  refine ⟨fun p n v hsize hpos hmax => parseMetadataJson_eq_ok hsize hpos hmax v, ?_, ?_⟩
  · intro m
    obtain ⟨hfree, hcanon⟩ := m.canonical
    refine ⟨_, hcanon, fun hmax => ⟨m.sorted.json, ?_, same_norm m.json, ?_⟩⟩
    · have hpos : 1 ≤ (ascii m.json.norm.text).length := by simp [Metadata.json, Json.norm, text, ascii]
      have hread := loads_dumps hscan strictHooks_keepsDistinct metadataJsonError hfree
      obtain ⟨t, ht, hkeys, hconst, hv⟩ := (loads_eq_ok _ _ _).mp hread
      rw [parseMetadataJson_eq_ok rfl hpos hmax]
      exact ⟨t, ht, hkeys, hconst, hv, m.sorted.validate⟩
    · obtain ⟨-, hsorted⟩ := m.sorted.canonical
      rw [hsorted, show m.sorted.json.norm = m.json.norm from norm_norm m.json]
  · intro m m'
    obtain ⟨hfree, hcanon⟩ := m.canonical
    obtain ⟨hfree', hcanon'⟩ := m'.canonical
    rw [hcanon, hcanon', Except.ok.injEq]
    constructor
    · intro h
      have hread := loads_dumps hscan strictHooks_keepsDistinct metadataJsonError hfree
      rw [h, loads_dumps hscan strictHooks_keepsDistinct metadataJsonError hfree'] at hread
      exact (Except.ok.inj hread).symm
    · intro h
      rw [h]

/-- The scanner on bytes; no text is read. -/
def bytesScanner : PayloadScanner
  | .bytes b => Scan.scan b
  | _ => .error ⟨.jsonDecodeError, [.text "Expecting value"]⟩

/-- The two attempts differ in their epochs, and so in their canonical bytes. -/
theorem attempts_told_apart : ∃ b b', canonicalJsonBytes attempt7.json = .ok b ∧
    canonicalJsonBytes attempt8.json = .ok b' ∧ b ≠ b' := by
  obtain ⟨-, hread, htold⟩ := parseMetadataJson_exact
    (show RoundTrips fun b => bytesScanner (.bytes b) from Scan.scan_roundTrips)
  obtain ⟨b, hb, -⟩ := hread attempt7
  obtain ⟨b', hb', -⟩ := hread attempt8
  refine ⟨b, b', hb, hb', fun heq => ?_⟩
  have hsame : Same attempt7.json attempt8.json := by
    rw [← htold, hb, hb', heq]
  have hepoch : Same (.int 7) (.int 8) := get_same hsame "epoch"
  simp at hepoch

end ServerlessX.Contract
