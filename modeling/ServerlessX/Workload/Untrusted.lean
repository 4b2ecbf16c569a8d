import ServerlessX.Contract.Exact
import ServerlessX.Workload.Framing

/-! Untrusted JSON: which exceptions leave `parse_metadata_json` and `decode_header`.
The scanner stands for `json.loads`; what it raises is raised before any hook does. -/
namespace ServerlessX.Workload
open ServerlessX.Py ServerlessX.Py.Json
open ServerlessX.Contract (parseMetadataJson payloadSize metadataJsonError MAX_JSON_BYTES
  ValidMetadata)

/-- The payload has a UTF-8 form. -/
def encodable : JsonPayload → Bool
  | .text cs => !cs.any isSurrogate
  | _ => true

/-- `json.loads` fails, if at all, with one of the two exceptions the readers
translate; an over-long integer or too deep nesting is neither. -/
def Translated (x : Except (Raised Builtin) Tree) : Prop :=
  RaisesOnly (fun e => e.cls = .unicodeDecodeError ∨ e.cls = .jsonDecodeError) x

theorem metadataJsonError_isContract (e : Raised Builtin) :
    Contract.Error.IsContract (metadataJsonError e) ↔
      e.cls = .unicodeDecodeError ∨ e.cls = .jsonDecodeError := by
  unfold metadataJsonError
  split
  · next h => simp [h, Contract.Error.IsContract, Contract.ErrorClass.isContractError]
  · next h =>
    simp [h, Contract.Error.IsContract, Contract.libraryError, Contract.ErrorClass.isContractError]

theorem headerError_cls (e : Raised Builtin) : (headerError e).cls = .workloadError ↔
    e.cls = .unicodeDecodeError ∨ e.cls = .jsonDecodeError := by
  unfold headerError
  split
  · next h => simp [h]
  · next h => simp [h]

theorem payloadSize_raises (p : JsonPayload) :
    RaisesOnly Contract.Error.IsContract (payloadSize p) ↔ encodable p = true := by
  cases p with
  | bytes b => simp [payloadSize, encodable]
  | text cs =>
    cases hs : cs.any isSurrogate with
    | true =>
      simp [payloadSize, encodable, encodeUtf8, hs, Contract.Error.IsContract,
        Contract.libraryError, Contract.ErrorClass.isContractError]
    | false => simp [payloadSize, encodable, encodeUtf8, hs]
  | other => simp [payloadSize, encodable]

theorem strictHooks_raises :
    (∀ pairs, RaisesOnly Contract.Error.IsContract (Contract.strictHooks.object pairs)) ∧
      ∀ c, RaisesOnly Contract.Error.IsContract (Contract.strictHooks.constant c) := by
  refine ⟨fun pairs => noDuplicates_raises (fun k => ?_) [] pairs, fun c => ?_⟩
  · exact Contract.isContract_mk rfl _
  · exact (raisesOnly_error _).mpr rfl

theorem headerHooks_raises :
    (∀ pairs, RaisesOnly (fun e : Error => e.cls = .workloadError) (headerHooks.object pairs)) ∧
      ∀ c, RaisesOnly (fun e : Error => e.cls = .workloadError) (headerHooks.constant c) := by
  refine ⟨fun pairs => noDuplicates_raises (p := fun e : Error => e.cls = .workloadError)
    (fun _ => rfl) [] pairs, fun c => ?_⟩
  exact raisesOnly_ok c.float

theorem parseMetadataJson_raises (scan : PayloadScanner) (p : JsonPayload) (expected : Option Json) :
    RaisesOnly Contract.Error.IsContract (parseMetadataJson scan p expected) ↔
      encodable p = true ∧
        ∀ n, payloadSize p = .ok n → 1 ≤ n ∧ n ≤ MAX_JSON_BYTES → Translated (scan p) := by
  have hloads : RaisesOnly Contract.Error.IsContract
      (loads scan Contract.strictHooks metadataJsonError p) ↔ Translated (scan p) := by
    rw [loads_raises strictHooks_raises.1 strictHooks_raises.2]
    simp only [metadataJsonError_isContract, Translated]
  simp only [parseMetadataJson, raisesOnly_bind, payloadSize_raises, hloads,
    Contract.validateMetadata_raises, implies_true, and_true, require_eq_ok, decide_eq_true_eq]
  simp

theorem decodeHeader_raises (scan : Scanner) (raw : Bytes) :
    RaisesOnly (fun e : Error => e.cls = .workloadError) (decodeHeader scan raw) ↔
      Translated (scan raw) := by
  have hloads : RaisesOnly (fun e : Error => e.cls = .workloadError)
      (loads scan headerHooks headerError raw) ↔ Translated (scan raw) := by
    rw [loads_raises headerHooks_raises.1 headerHooks_raises.2]
    simp only [headerError_cls, Translated]
  simp only [decodeHeader, raisesOnly_bind, hloads]
  refine and_iff_left fun v _ => ?_
  cases v <;> simp [workloadError]

/-- The readers of untrusted JSON fail closed exactly where the text has a UTF-8
form and `json.loads` raises nothing but the two exceptions they translate. -/
theorem untrusted_json_closed (scan : PayloadScanner) :
    (∀ p expected, ((∀ w, parseMetadataJson scan p expected = .ok w →
          ∃ f, w = .obj f ∧ ValidMetadata f) ∧
        RaisesOnly Contract.Error.IsContract (parseMetadataJson scan p expected)) ↔
      encodable p = true ∧
        ∀ n, payloadSize p = .ok n → 1 ≤ n ∧ n ≤ MAX_JSON_BYTES → Translated (scan p)) ∧
    (∀ raw, RaisesOnly (fun e : Error => e.cls = .workloadError)
        (decodeHeader (fun b => scan (.bytes b)) raw) ↔ Translated (scan (.bytes raw))) := by
  refine ⟨fun p expected => ?_, fun raw => decodeHeader_raises _ raw⟩
  rw [← parseMetadataJson_raises scan p expected]
  refine and_iff_right fun w hw => ?_
  simp only [parseMetadataJson, bind_eq_ok] at hw
  obtain ⟨_, -, _, -, v, -, hv⟩ := hw
  obtain ⟨rfl, hvalid⟩ := (Contract.validateMetadata_eq_ok v w).mp
    (Contract.validateMetadata_of_expected hv)
  exact hvalid

/-- A text that is one integer literal with more digits than `int` converts. -/
def isLongInteger (b : Bytes) : Bool :=
  4300 < b.length && b.all (fun x => 0x30 ≤ x && x ≤ 0x39) && b.head? != some 0x30

/-- The scanner with the limit on integer literals, where it is the whole text. -/
def limitedScanner : PayloadScanner
  | .bytes b =>
    if isLongInteger b then .error ⟨.valueError, [.text "Exceeds the limit (4300 digits)"]⟩
    else Scan.scan b
  | _ => .error ⟨.jsonDecodeError, [.text "Expecting value"]⟩

theorem longInteger_escapes {b : Bytes} (hlong : isLongInteger b = true)
    (hmax : b.length ≤ MAX_JSON_BYTES) :
    parseMetadataJson limitedScanner (.bytes b) none =
        .error ⟨.builtin .valueError, [.text "Exceeds the limit (4300 digits)"]⟩ ∧
      decodeHeader (fun b => limitedScanner (.bytes b)) b =
        .error ⟨.builtin .valueError, [.text "Exceeds the limit (4300 digits)"]⟩ := by
  have hlen : 4300 < b.length := by
    simp only [isLongInteger, Bool.and_eq_true, decide_eq_true_eq] at hlong
    exact hlong.1.1
  have hsize : decide (1 ≤ b.length ∧ b.length ≤ MAX_JSON_BYTES) = true := by
    simp only [decide_eq_true_eq]
    omega
  constructor
  · simp only [parseMetadataJson, payloadSize, ok_bind, hsize, require, if_true, loads,
      limitedScanner, hlong, error_bind]
    rfl
  · simp only [decodeHeader, loads, limitedScanner, hlong, if_true, error_bind]
    rfl

/-- A lone surrogate and an integer of 4301 digits leave the readers as built-in
exceptions. -/
theorem builtin_errors_escape :
    parseMetadataJson limitedScanner (.text [0xd800]) none =
      .error ⟨.builtin .unicodeEncodeError,
        [.text "'utf-8' codec can't encode: surrogates not allowed"]⟩ ∧
    parseMetadataJson limitedScanner (.bytes (List.replicate 4301 0x31)) none =
      .error ⟨.builtin .valueError, [.text "Exceeds the limit (4300 digits)"]⟩ ∧
    decodeHeader (fun b => limitedScanner (.bytes b)) (List.replicate 4301 0x31) =
      .error ⟨.builtin .valueError, [.text "Exceeds the limit (4300 digits)"]⟩ := by
  have hlong : ∀ n, isLongInteger (List.replicate (n + 4301) 0x31) = true := by
    intro n
    simp [isLongInteger, List.all_replicate, List.head?_replicate]
  have hlen : (List.replicate 4301 (0x31 : UInt8)).length ≤ MAX_JSON_BYTES := by
    rw [List.length_replicate]
    decide
  exact ⟨rfl, longInteger_escapes (hlong 0) hlen⟩

end ServerlessX.Workload
