import ServerlessX.Contract.Exact
import ServerlessX.Gdr.EndpointGrammar

/-! The endpoints the contract accepts, read by the native parser. -/
namespace ServerlessX.Gdr
open ServerlessX.Py ServerlessX.Py.Json ServerlessX.Contract

/-- The address and the port that `_require_endpoint` reads before it compares their
spelling. -/
def endpointValue (s : String) : Option (List Nat × Int) :=
  match ipAddress (rsplit ':' s.toList).1, intOfText (rsplit ':' s.toList).2 with
  | some address, some port => some (address, port)
  | _, _ => none

/-- `s.encode()` -/
def encode (cs : List Char) : Bytes := cs.flatMap String.utf8EncodeChar

theorem encode_cons_of_ascii {c : Char} (h : c.toNat < 128) (cs : List Char) :
    encode (c :: cs) = UInt8.ofNat c.toNat :: encode cs := by
  have hone : String.utf8EncodeChar c = [UInt8.ofNat c.toNat] := by
    unfold String.utf8EncodeChar
    exact if_pos (show c.toNat ≤ 127 by omega)
  rw [encode, List.flatMap_cons, hone]
  rfl

theorem encode_append (cs ds : List Char) : encode (cs ++ ds) = encode cs ++ encode ds :=
  List.flatMap_append

theorem encode_digits {cs : List Char} (h : ∀ c ∈ cs, Py.isDigit c = true) :
    (∀ b ∈ encode cs, isDigit b = true) ∧
      ∀ n, (encode cs).foldl (fun n b => 10 * n + (b.toNat - 48)) n =
        cs.foldl (fun n c => 10 * n + (c.toNat - 48)) n := by
  induction cs with
  | nil => exact ⟨by simp [encode], fun _ => rfl⟩
  | cons c cs ih =>
    obtain ⟨hdigits, hvalue⟩ := ih fun d hd => h d (by simp [hd])
    have hc := h c (by simp)
    simp only [Py.isDigit, Bool.and_eq_true, decide_eq_true_eq] at hc
    have hbyte : (UInt8.ofNat c.toNat).toNat = c.toNat := by
      rw [UInt8.toNat_ofNat']
      omega
    rw [encode_cons_of_ascii (by omega)]
    constructor
    · intro b hb
      rcases List.mem_cons.mp hb with rfl | hb
      · simpa [isDigit, UInt8.le_iff_toNat_le, hbyte] using hc
      · exact hdigits b hb
    · intro n
      rw [List.foldl_cons, List.foldl_cons, hbyte, hvalue]

theorem decimal_encode (n : Nat) : decimal (encode (Py.decimal n)) = n :=
  ((encode_digits fun _ hc => Scan.mem_decimal hc).2 0).trans (Scan.digitsValue_decimal n)

theorem octet_encode : ∀ n < 256, octet (encode (Py.decimal n)) = some (UInt8.ofNat n) := by
  decide +kernel

theorem splitOn_of_not_mem {sep : UInt8} {part : Bytes} (h : sep ∉ part) :
    splitOn sep part = [part] := by
  induction part with
  | nil => rfl
  | cons b part ih =>
    simp only [List.mem_cons, not_or] at h
    rw [splitOn, if_neg (Ne.symm h.1), ih h.2]

theorem splitOn_append {sep : UInt8} {part : Bytes} (h : sep ∉ part) (rest : Bytes) :
    splitOn sep (part ++ sep :: rest) = part :: splitOn sep rest := by
  induction part with
  | nil => rw [List.nil_append, splitOn, if_pos rfl]
  | cons b part ih =>
    simp only [List.mem_cons, not_or] at h
    rw [List.cons_append, splitOn, if_neg (Ne.symm h.1), ih h.2]

theorem encode_decimal_digits (n : Nat) : ∀ b ∈ encode (Py.decimal n), isDigit b = true :=
  (encode_digits fun _ hc => Scan.mem_decimal hc).1

/-- The bytes of a dotted quad. -/
def addressBytes (a b c d : Nat) : Bytes :=
  encode (Py.decimal a) ++ 46 :: (encode (Py.decimal b) ++ 46 :: (encode (Py.decimal c) ++ 46 ::
    encode (Py.decimal d)))

theorem encode_address (a b c d port : Nat) :
    encode (addressText [a, b, c, d] ++ ':' :: Py.decimal port) =
      addressBytes a b c d ++ 58 :: encode (Py.decimal port) := by
  have hdot : ∀ cs, encode ('.' :: cs) = 46 :: encode cs := encode_cons_of_ascii (by decide)
  have hcolon : ∀ cs, encode (':' :: cs) = 58 :: encode cs := encode_cons_of_ascii (by decide)
  simp [addressText, List.intercalate, addressBytes, encode_append, hdot, hcolon]

theorem inetPton_addressBytes {a b c d : Nat} (ha : a ≤ 255) (hb : b ≤ 255) (hc : c ≤ 255)
    (hd : d ≤ 255) :
    inetPton (addressBytes a b c d) = some ([a, b, c, d].map UInt8.ofNat) := by
  have hdot : ∀ n, 46 ∉ encode (Py.decimal n) := fun n hmem =>
    absurd (encode_decimal_digits n 46 hmem) (by decide)
  simp only [inetPton, addressBytes, splitOn_append (hdot _), splitOn_of_not_mem (hdot _),
    octet_encode a (by omega), octet_encode b (by omega), octet_encode c (by omega),
    octet_encode d (by omega), List.map_cons, List.map_nil]

theorem colon_not_mem_addressBytes (a b c d : Nat) : 58 ∉ addressBytes a b c d := by
  have hcolon : ∀ n, 58 ∉ encode (Py.decimal n) := fun n =>
    colon_not_mem_digits (encode_decimal_digits n)
  simp [addressBytes, hcolon]

theorem endpointValue_of_text {s : String} {a b c d port : Nat} (ha : a ≤ 255) (hb : b ≤ 255)
    (hc : c ≤ 255) (hd : d ≤ 255) (hmax : port ≤ 65535)
    (hs : s.toList = addressText [a, b, c, d] ++ ':' :: Py.decimal port) :
    endpointValue s = some ([a, b, c, d], (port : Int)) := by
  have hcolon : ':' ∉ Py.decimal port := not_mem_decimal (by decide) port
  have hport : intOfText (Py.decimal port) = some (port : Int) :=
    intOfText_decimal (le_trans (length_decimal_le (k := 5) (by omega) (by omega)) (by omega))
  rw [endpointValue, hs, rsplit_append hcolon, ipAddress_text ha hb hc hd, hport]

/-- What the contract accepts is spelled in one way only. -/
theorem eq_of_endpointValue {s t : String} (hs : EndpointForm s) (ht : EndpointForm t)
    (h : endpointValue s = endpointValue t) : s = t := by
  obtain ⟨a, b, c, d, port, ha, hb, hc, hd, -, hmax, hs⟩ := hs
  obtain ⟨a', b', c', d', port', ha', hb', hc', hd', -, hmax', ht⟩ := ht
  rw [endpointValue_of_text ha hb hc hd hmax hs, endpointValue_of_text ha' hb' hc' hd' hmax' ht] at h
  simp only [Option.some.injEq, Prod.mk.injEq, List.cons.injEq, and_true, Nat.cast_inj] at h
  obtain ⟨⟨rfl, rfl, rfl, rfl⟩, rfl⟩ := h
  exact String.toList_inj.mp (hs.trans ht.symm)

/-- The native parser reads the same address and port from the bytes of an accepted text. -/
theorem parse_of_endpointForm {s : String} (h : EndpointForm s) :
    ∃ (e : CString) (a : SockaddrIn), e.bytes = encode s.toList ∧
      (∀ name, parseIpv4Endpoint (some e) name = .ok a) ∧
      endpointValue s = some (a.address.map UInt8.toNat, ((ntohs a.port).toNat : Int)) := by
  obtain ⟨a, b, c, d, port, ha, hb, hc, hd, hpos, hmax, hs⟩ := h
  have hbytes : encode s.toList = addressBytes a b c d ++ 58 :: encode (Py.decimal port) := by
    rw [hs]
    exact encode_address a b c d port
  have hclean : (0 : UInt8) ∉ encode s.toList := by
    have hzero : ∀ n, (0 : UInt8) ∉ encode (Py.decimal n) := fun n hmem =>
      absurd (encode_decimal_digits n 0 hmem) (by decide)
    simp [hbytes, addressBytes, hzero]
  have hport : (ntohs (htons (UInt16.ofNat port))).toNat = port := by
    rw [ntohs_htons, UInt16.toNat_ofNat']
    omega
  have hvalue := decimal_encode port
  have hne : encode (Py.decimal port) ≠ [] := by
    intro hnil
    rw [hnil] at hvalue
    simp only [decimal, List.foldl_nil] at hvalue
    omega
  have htext : EndpointText ⟨encode s.toList, hclean⟩
      ⟨htons (UInt16.ofNat port), [a, b, c, d].map UInt8.ofNat⟩ :=
    ⟨_, _, hbytes, colon_not_mem_addressBytes a b c d, inetPton_addressBytes ha hb hc hd,
      hne, encode_decimal_digits port, by omega, by omega, by rw [hport, hvalue]⟩
  refine ⟨_, _, rfl, parse_of_endpointText htext, ?_⟩
  have hoctet : ∀ n ≤ 255, (UInt8.ofNat n).toNat = n := by
    intro n hn
    rw [UInt8.toNat_ofNat']
    omega
  rw [endpointValue_of_text ha hb hc hd hmax hs, hport]
  simp [hoctet a ha, hoctet b hb, hoctet c hc, hoctet d hd]

/-- The two grammars: the contract takes canonical texts only, so equal endpoints are equal
strings, and the native parser takes them all with the same meaning. -/
theorem endpoint_grammars_agree :
    (∀ v name s, requireEndpoint v name = .ok s ↔ v = .str s ∧ EndpointForm s) ∧
    (∀ s t, EndpointForm s → EndpointForm t → (s = t ↔ endpointValue s = endpointValue t)) ∧
    (∀ s, EndpointForm s → ∃ (e : CString) (a : SockaddrIn), e.bytes = encode s.toList ∧
      (∀ name, parseIpv4Endpoint (some e) name = .ok a) ∧
      endpointValue s = some (a.address.map UInt8.toNat, ((ntohs a.port).toNat : Int))) := by
  refine ⟨fun v name s => ?_, fun s t hs ht => ?_, fun s => parse_of_endpointForm⟩
  · rw [requireEndpoint_eq_ok, isEndpoint_iff]
  · exact ⟨fun heq => heq ▸ rfl, eq_of_endpointValue hs ht⟩

/-- So the check that the two endpoints differ compares what they mean. -/
theorem validMetadata_endpoints_differ {f : Fields} (h : ValidMetadata f) :
    ∃ source target, get f "source_endpoint" = .str source ∧ get f "target_endpoint" = .str target ∧
      endpointValue source ≠ endpointValue target := by
  obtain ⟨source, hsource, hsourceForm⟩ := h.sourceEndpoint
  obtain ⟨target, htarget, htargetForm⟩ := h.targetEndpoint
  refine ⟨source, target, hsource, htarget, fun heq => h.endpoints ?_⟩
  rw [hsource, htarget, eq_of_endpointValue ((isEndpoint_iff source).mp hsourceForm)
    ((isEndpoint_iff target).mp htargetForm) heq]

end ServerlessX.Gdr
