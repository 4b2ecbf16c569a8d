import ServerlessX.Contract.Parse

/-! What the contract's validators accept, said without the code: the grammar of
endpoints, metadata with an expected identity, and acknowledgements. -/
namespace ServerlessX.Contract
open ServerlessX.Py ServerlessX.Py.Json ServerlessX.Py.Scan

/-! ### Endpoints -/

/-- `a.b.c.d:port` with every number in canonical decimal. -/
def EndpointForm (s : String) : Prop :=
  ∃ a b c d port : Nat, a ≤ 255 ∧ b ≤ 255 ∧ c ≤ 255 ∧ d ≤ 255 ∧ 1 ≤ port ∧ port ≤ 65535 ∧
    s.toList = ['.'].intercalate [decimal a, decimal b, decimal c, decimal d] ++ ':' :: decimal port

theorem rsplit_append {sep : Char} {pre post : List Char} (h : sep ∉ post) :
    rsplit sep (pre ++ sep :: post) = (pre, post) := by
  have hall : ∀ c ∈ post.reverse, decide (c ≠ sep) = true := by
    intro c hc
    have hne : c ≠ sep := fun heq => h (heq ▸ List.mem_reverse.mp hc)
    simpa using hne
  simp only [rsplit, List.reverse_append, List.reverse_cons, List.append_assoc,
    List.singleton_append, List.dropWhile_append_of_pos hall, List.takeWhile_append_of_pos hall]
  simp

theorem append_rsplit {sep : Char} {cs : List Char} (h : sep ∈ cs) :
    (rsplit sep cs).1 ++ sep :: (rsplit sep cs).2 = cs := by
  obtain ⟨pre, post, hcs, hpost⟩ : ∃ pre post, cs = pre ++ sep :: post ∧ sep ∉ post := by
    obtain ⟨front, back, hrev, hfront⟩ := List.eq_append_cons_of_mem (List.mem_reverse.mpr h)
    refine ⟨back.reverse, front.reverse, ?_, by simpa using hfront⟩
    have hcs := congrArg List.reverse hrev
    simpa using hcs
  rw [hcs, rsplit_append hpost]

theorem digitValue_of_isDigit {c : Char} (h : isDigit c = true) :
    digitValue c = some (c.toNat - 48) := by
  simp only [isDigit, Bool.and_eq_true, decide_eq_true_eq] at h
  have hfirst : (48 ≤ c.toNat && c.toNat < 48 + 10) = true := by
    simp only [Bool.and_eq_true, decide_eq_true_eq]
    omega
  simp [digitValue, digitZeros, hfirst]

theorem digitRun_of_isDigit {cs : List Char} (h : ∀ c ∈ cs, isDigit c = true) (acc : Nat) :
    digitRun acc cs = some (cs.foldl (fun acc c => 10 * acc + (c.toNat - 48)) acc) := by
  induction cs generalizing acc with
  | nil => rfl
  | cons c cs ih =>
    have hc := h c (by simp)
    have hne : c ≠ '_' := by
      rintro rfl
      exact absurd hc (by decide)
    rw [digitRun, digitValue_of_isDigit hc]
    · exact ih (fun d hd => h d (by simp [hd])) _
    · intro d ds heq
      exact absurd heq hne

theorem dropWhile_isIntSpace {cs : List Char} (h : ∀ c ∈ cs, isDigit c = true) :
    cs.dropWhile isIntSpace = cs := by
  cases cs with
  | nil => rfl
  | cons c cs =>
    have hc : isDigit c = true := h c (by simp)
    simp only [isDigit, Bool.and_eq_true, decide_eq_true_eq] at hc
    have hspace : isIntSpace c = false := by
      simp only [isIntSpace, isSpace]
      grind
    rw [List.dropWhile_cons, hspace]
    rfl

theorem length_decimal_le {n k : Nat} (hk : 1 ≤ k) (h : n < 10 ^ k) : (decimal n).length ≤ k := by
  by_cases hn : n = 0
  · simpa [decimal, hn] using hk
  · rw [decimal, if_neg hn, List.length_reverse, List.length_map]
    exact (Nat.digits_length_le_iff (by omega) n).mpr h

theorem unsignedOfText_decimal {n : Nat} (h : (decimal n).length ≤ 4300) :
    unsignedOfText (decimal n) = some n := by
  have hdigits : ∀ c ∈ decimal n, isDigit c = true := fun c hc => mem_decimal hc
  have hcount : (decimal n).countP (· ≠ '_') ≤ 4300 := le_trans List.countP_le_length h
  have hrun := digitRun_of_isDigit hdigits 0
  rw [show (decimal n).foldl (fun acc c => 10 * acc + (c.toNat - 48)) 0 = n from
    digitsValue_decimal n] at hrun
  rw [unsignedOfText, if_neg (by omega)]
  · exact hrun
  · exact decimal_ne_nil n
  · intro cs heq
    have hunder := hdigits '_' (by simp [heq])
    simp [isDigit] at hunder

theorem intOfText_decimal {n : Nat} (h : (decimal n).length ≤ 4300) :
    intOfText (decimal n) = some (n : Int) := by
  have hdigits : ∀ c ∈ decimal n, isDigit c = true := fun c hc => mem_decimal hc
  have hbody : ((decimal n).dropWhile isIntSpace).reverse.dropWhile isIntSpace = (decimal n).reverse := by
    rw [dropWhile_isIntSpace hdigits, dropWhile_isIntSpace]
    intro c hc
    exact hdigits c (List.mem_reverse.mp hc)
  simp only [intOfText, hbody, List.reverse_reverse]
  split
  · next ds heq =>
    have hsign := hdigits '-' (by simp [heq])
    simp [isDigit] at hsign
  · next ds heq =>
    have hsign := hdigits '+' (by simp [heq])
    simp [isDigit] at hsign
  · rw [unsignedOfText_decimal h]
    rfl

theorem octetOfText_decimal : ∀ n < 256, octetOfText (decimal n) = some n := by decide +kernel

theorem octetOfText_le {cs : List Char} {n : Nat} (h : octetOfText cs = some n) : n ≤ 255 := by
  simp only [octetOfText] at h
  split at h
  · cases h
  · split at h
    · cases h
    · cases h
      omega

theorem not_mem_decimal {c : Char} (h : isDigit c = false) (n : Nat) : c ∉ decimal n := by
  intro hc
  rw [mem_decimal hc] at h
  cases h

theorem ipAddress_eq_some {cs : List Char} {octets : List Nat} (h : ipAddress cs = some octets) :
    ∃ a b c d, octets = [a, b, c, d] ∧ a ≤ 255 ∧ b ≤ 255 ∧ c ≤ 255 ∧ d ≤ 255 := by
  simp only [ipAddress] at h
  split at h
  · next hlen =>
    rcases hparts : cs.splitOn '.' with _ | ⟨p, _ | ⟨q, _ | ⟨r, _ | ⟨t, _ | ⟨u, rest⟩⟩⟩⟩⟩ <;>
      simp [hparts, Option.bind_eq_some_iff] at hlen h
    obtain ⟨a, ha, b, c, d, ⟨hb, hc, hd⟩, rfl⟩ := h
    exact ⟨a, b, c, d, rfl, octetOfText_le ha, octetOfText_le hb, octetOfText_le hc,
      octetOfText_le hd⟩
  · cases h

theorem ipAddress_text {a b c d : Nat} (ha : a ≤ 255) (hb : b ≤ 255) (hc : c ≤ 255) (hd : d ≤ 255) :
    ipAddress (addressText [a, b, c, d]) = some [a, b, c, d] := by
  have hparts : (addressText [a, b, c, d]).splitOn '.' = [a, b, c, d].map decimal := by
    rw [addressText]
    refine List.splitOn_intercalate '.' (fun l hl => ?_) (by simp)
    obtain ⟨n, -, rfl⟩ := List.mem_map.mp hl
    exact not_mem_decimal (by decide) n
  have hoctet : ∀ n ≤ 255, octetOfText (decimal n) = some n := fun n hn =>
    octetOfText_decimal n (by omega)
  simp [ipAddress, hparts, hoctet a ha, hoctet b hb, hoctet c hc, hoctet d hd]

theorem colon_not_mem_addressText (a b c d : Nat) : ':' ∉ addressText [a, b, c, d] := by
  simp [addressText, List.intercalate, not_mem_decimal (show isDigit ':' = false by decide)]

theorem intChars_natCast (n : Nat) : intChars n = decimal n := by
  simp [intChars]

theorem isEndpoint_iff (s : String) : isEndpoint s = true ↔ EndpointForm s := by
  constructor
  · intro h
    simp only [isEndpoint, Bool.and_eq_true, beq_iff_eq] at h
    obtain ⟨hcount, h⟩ := h
    have hmem : ':' ∈ s.toList := List.count_pos_iff.mp (by omega)
    cases ha : ipAddress (rsplit ':' s.toList).1 with
    | none => simp [ha] at h
    | some octets =>
      cases hp : intOfText (rsplit ':' s.toList).2 with
      | none => simp [ha, hp] at h
      | some port =>
        simp only [ha, hp, Bool.and_eq_true, beq_iff_eq, decide_eq_true_eq] at h
        obtain ⟨⟨hhost, hpos, hmax⟩, hport⟩ := h
        obtain ⟨a, b, c, d, rfl, hbounds⟩ := ipAddress_eq_some ha
        obtain ⟨n, rfl⟩ := Int.eq_ofNat_of_zero_le (show 0 ≤ port by omega)
        rw [intChars_natCast] at hport
        refine ⟨a, b, c, d, n, hbounds.1, hbounds.2.1, hbounds.2.2.1, hbounds.2.2.2, by omega,
          by omega, ?_⟩
        calc s.toList = (rsplit ':' s.toList).1 ++ ':' :: (rsplit ':' s.toList).2 :=
              (append_rsplit hmem).symm
          _ = addressText [a, b, c, d] ++ ':' :: decimal n := by rw [hhost, ← hport]
  · rintro ⟨a, b, c, d, port, ha, hb, hc, hd, hpos, hmax, hs⟩
    have htext : s.toList = addressText [a, b, c, d] ++ ':' :: decimal port := hs
    have hcolon : ':' ∉ decimal port := not_mem_decimal (by decide) port
    have hsplit : rsplit ':' s.toList = (addressText [a, b, c, d], decimal port) := by
      rw [htext, rsplit_append hcolon]
    have hcount : s.toList.count ':' = 1 := by
      rw [htext, List.count_append, List.count_cons_self,
        List.count_eq_zero.mpr (colon_not_mem_addressText a b c d), List.count_eq_zero.mpr hcolon]
    have hport : intOfText (decimal port) = some (port : Int) :=
      intOfText_decimal (le_trans (length_decimal_le (k := 5) (by omega) (by omega)) (by omega))
    simp only [isEndpoint, hcount, hsplit, ipAddress_text ha hb hc hd, hport, intChars_natCast,
      Bool.and_eq_true, decide_eq_true_eq, beq_self_eq_true, true_and, and_true]
    omega

/-! ### Metadata -/

theorem checkExpected_eq_ok (f e : Fields) (u : Unit) : checkExpected f e = .ok u ↔
    ∀ x ∈ e, pyEq (get f x.1) x.2 = true ∧ sameType (get f x.1) x.2 = true := by
  induction e with
  | nil => simp [checkExpected]
  | cons x e ih =>
    obtain ⟨name, wanted⟩ := x
    simp only [checkExpected, bind_eq_ok, require_eq_ok, Bool.and_eq_true, ih, List.forall_mem_cons]
    constructor
    · rintro ⟨_, h⟩
      exact h
    · intro h
      exact ⟨(), h⟩

theorem checkIdentity_eq_ok (f e : Fields) (u : Unit) (h : ∀ x ∈ e, x.1 ∈ METADATA_KEYS) :
    checkIdentity f (some (.obj e)) = .ok u ↔
      ∀ x ∈ e, pyEq (get f x.1) x.2 = true ∧ sameType (get f x.1) x.2 = true := by
  have hunknown : (e.map Prod.fst).filter (fun k => !METADATA_KEYS.contains k) = [] := by
    rw [List.filter_eq_nil_iff]
    intro k hk
    obtain ⟨x, hx, rfl⟩ := List.mem_map.mp hk
    simpa using h x hx
  have hrequire : ∀ er : Error, require ([] : List String).isEmpty er = .ok () := fun _ => rfl
  simp only [checkIdentity, hunknown, hrequire, ok_bind]
  exact checkExpected_eq_ok f e u

/-- The expected identity is looked at last. -/
theorem validateMetadata_expected (f : Fields) (expected : Option Json) :
    validateMetadata (.obj f) expected = (do
      let w ← validateMetadata (.obj f) none
      checkIdentity f expected
      return w) := by
  by_cases hk : hasKeys f METADATA_KEYS = true
  · have hexact : exactObject (.obj f) METADATA_KEYS "metadata" .metadataError = .ok f := by
      simp [exactObject, hk]
    have hnone : checkIdentity f none = .ok () := rfl
    simp only [validateMetadata, hexact, ok_bind, bind_assoc, pure_bind, hnone]
  · simp [validateMetadata, exactObject, hk, error_bind]

theorem validateMetadata_of_expected {v w : Json} {expected : Option Json}
    (h : validateMetadata v expected = .ok w) : validateMetadata v none = .ok w := by
  cases v with
  | obj f =>
    simp only [validateMetadata_expected f expected, bind_eq_ok, pure, Except.pure,
      Except.ok.injEq] at h
    obtain ⟨_, hw, _, -, rfl⟩ := h
    exact hw
  | _ => simp [validateMetadata, exactObject, error_bind] at h

theorem validateMetadata_expected_eq_ok (v w : Json) (e : Fields)
    (h : ∀ x ∈ e, x.1 ∈ METADATA_KEYS) :
    validateMetadata v (some (.obj e)) = .ok w ↔ validateMetadata v none = .ok w ∧
      ∃ f, v = .obj f ∧ ∀ x ∈ e, pyEq (get f x.1) x.2 = true ∧ sameType (get f x.1) x.2 = true := by
  cases v with
  | obj f =>
    rw [validateMetadata_expected f (some (.obj e))]
    simp only [bind_eq_ok, checkIdentity_eq_ok f e _ h, pure, Except.pure, Except.ok.injEq,
      Json.obj.injEq, exists_eq_left']
    constructor
    · rintro ⟨_, hw, _, he, rfl⟩
      exact ⟨hw, he⟩
    · rintro ⟨hw, he⟩
      exact ⟨w, hw, (), he, rfl⟩
  | _ => simp [validateMetadata, exactObject, error_bind]

/-- `validate_metadata` accepts exactly the values of the fixed form, gives them
back as they are, and compares an expected identity key by key. -/
theorem validateMetadata_exact :
    (∀ v w, validateMetadata v none = .ok w ↔ w = v ∧ ∃ f, v = .obj f ∧ ValidMetadata f) ∧
    (∀ s, isEndpoint s = true ↔ EndpointForm s) ∧
    (∀ v w, validateMetadata v none = .ok w → validateMetadata w none = .ok w) ∧
    (∀ v w e, (∀ x ∈ e, x.1 ∈ METADATA_KEYS) →
      (validateMetadata v (some (.obj e)) = .ok w ↔ validateMetadata v none = .ok w ∧
        ∃ f, v = .obj f ∧
          ∀ x ∈ e, pyEq (get f x.1) x.2 = true ∧ sameType (get f x.1) x.2 = true)) := by
  refine ⟨validateMetadata_eq_ok, isEndpoint_iff, fun v w h => ?_, validateMetadata_expected_eq_ok⟩
  obtain ⟨rfl, -⟩ := (validateMetadata_eq_ok v w).mp h
  exact h

/-! ### What a refusal raises -/

/-- `issubclass(cls, ContractError)` -/
def ErrorClass.isContractError : ErrorClass → Bool
  | .builtin _ => false
  | _ => true

def Error.IsContract (e : Error) : Prop := e.cls.isContractError = true

@[simp] theorem isContract_metadataError (s : String) : Error.IsContract (metadataError s) := rfl

@[simp] theorem isContract_protocolError (s : String) : Error.IsContract (protocolError s) := rfl

theorem isContract_mk {cls : ErrorClass} (h : cls.isContractError = true) (message : List Piece) :
    Error.IsContract ⟨cls, message⟩ := h

@[simp] theorem require_raises {e : Error} (h : e.IsContract) (c : Bool) :
    RaisesOnly Error.IsContract (require c e) := raisesOnly_require h c

theorem exactObject_raises {cls : ErrorClass} (h : cls.isContractError = true) (v : Json)
    (keys : List String) (name : String) :
    RaisesOnly Error.IsContract (exactObject v keys name cls) := by
  cases v with
  | obj f =>
    simp only [exactObject]
    split
    · exact raisesOnly_ok f
    · exact (raisesOnly_error _).mpr h
  | _ => exact (raisesOnly_error _).mpr h

@[simp] theorem requireForm_raises {e : Error} (h : e.IsContract) (form : String → Bool) (v : Json) :
    RaisesOnly Error.IsContract (requireForm form v e) := by
  cases v with
  | str s =>
    simp only [requireForm]
    split
    · exact raisesOnly_ok s
    · exact (raisesOnly_error e).mpr h
  | _ => exact (raisesOnly_error e).mpr h

@[simp] theorem requireInt_raises (v : Json) (name : String) (minimum : Int) :
    RaisesOnly Error.IsContract (requireInt v name minimum) := by
  cases v with
  | int n =>
    simp only [requireInt]
    split <;> simp
  | _ => simp [requireInt]

@[simp] theorem requireEndpoint_raises (v : Json) (name : String) :
    RaisesOnly Error.IsContract (requireEndpoint v name) := by
  cases v with
  | str s =>
    simp only [requireEndpoint]
    split
    · simp
    · split
      · split
        · simp
        · split <;> simp
      · simp
  | _ => simp [requireEndpoint]

@[simp] theorem tensorList_raises (v : Json) : RaisesOnly Error.IsContract (tensorList v) := by
  cases v with
  | list tensors =>
    simp only [tensorList]
    split <;> simp
  | _ => simp [tensorList]

@[simp] theorem validateTensors_raises (index : Nat) (tensors : List Json) :
    RaisesOnly Error.IsContract (validateTensors index tensors) := by
  induction tensors generalizing index with
  | nil => simp [validateTensors]
  | cons tensor tensors ih =>
    simp [validateTensors, validateTensor, ih, @exactObject_raises .metadataError rfl,
      @isContract_mk .metadataError rfl]

theorem checkExpected_raises (f e : Fields) :
    RaisesOnly Error.IsContract (checkExpected f e) := by
  induction e with
  | nil => simp [checkExpected]
  | cons x e ih => simp [checkExpected, ih, @isContract_mk .metadataError rfl]

@[simp] theorem checkIdentity_raises (f : Fields) (expected : Option Json) :
    RaisesOnly Error.IsContract (checkIdentity f expected) := by
  rcases expected with _ | v
  · simp [checkIdentity]
  · cases v with
    | obj e => simp [checkIdentity, checkExpected_raises, @isContract_mk .metadataError rfl]
    | _ => simp [checkIdentity]

theorem validateMetadata_raises (v : Json) (expected : Option Json) :
    RaisesOnly Error.IsContract (validateMetadata v expected) := by
  have htext : ∀ s, Error.IsContract (.text .metadataError s) := fun _ => rfl
  simp [validateMetadata, requireStrValue, requireIntValue, requireSafeId, requireSha256,
    requireModelId, requireGpuUuid, requireDistinct, @exactObject_raises .metadataError rfl, htext]

/-! ### Acknowledgements -/

@[simp] theorem coerceAckKind_raises (v : Json) :
    RaisesOnly Error.IsContract (coerceAckKind v) := by
  intro e he
  rw [Error.IsContract, coerceAckKind_error he]
  rfl

@[simp] theorem checkExpectedKind_raises (kind : AckKind) (expectedKind : Option Json) :
    RaisesOnly Error.IsContract (checkExpectedKind kind expectedKind) := by
  cases expectedKind <;> simp [checkExpectedKind]

@[simp] theorem checkPayloadHash_raises (kind : AckKind) (ack : Fields) (m : Metadata) :
    RaisesOnly Error.IsContract (checkPayloadHash kind ack m) := by
  have htext : ∀ s, Error.IsContract (.text .protocolError s) := fun _ => rfl
  unfold checkPayloadHash
  split <;> simp [requireSha256, htext]

@[simp] theorem checkTokenDigest_raises (kind : AckKind) (ack : Fields) :
    RaisesOnly Error.IsContract (checkTokenDigest kind ack) := by
  have htext : ∀ s, Error.IsContract (.text .protocolError s) := fun _ => rfl
  unfold checkTokenDigest
  split <;> simp [requireSha256, htext]

theorem validateAck_raises (v : Json) (m : Metadata) (expectedKind : Option Json) :
    RaisesOnly Error.IsContract (validateAck v m.json expectedKind) := by
  have hbound : validated m.json = .ok m := (validated_eq_ok _ _).mpr rfl
  have howner : ∀ s, Error.IsContract (.text .ownershipError s) := fun _ => rfl
  simp [validateAck, hbound, checkBound, @exactObject_raises .protocolError rfl, howner]

end ServerlessX.Contract
