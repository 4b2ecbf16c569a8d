import Mathlib
import ServerlessX.Gdr.Endpoint

/-! Which endpoint texts `parse_ipv4_endpoint` takes: the port is read by `strtoul`, which
skips white space and a sign. -/
namespace ServerlessX.Gdr
open ServerlessX.Py

/-! ### What `strtoul` reads to the end -/

inductive Sign where
  | none
  | plus
  | minus
deriving DecidableEq

def Sign.text : Sign → Bytes
  | .none => []
  | .plus => [43]
  | .minus => [45]

/-- White space, perhaps a sign, and digits. -/
structure Numeral where
  blank : Bytes
  sign : Sign
  digits : Bytes
  blankOnly : ∀ b ∈ blank, isSpace b = true
  digitsOnly : ∀ b ∈ digits, isDigit b = true
  nonempty : digits ≠ []

namespace Numeral

def text (n : Numeral) : Bytes := n.blank ++ (n.sign.text ++ n.digits)

/-- A minus negates modulo `2 ^ 64`. -/
def value (n : Numeral) : Nat :=
  match n.sign with
  | .minus => (2 ^ 64 - decimal n.digits) % 2 ^ 64
  | _ => decimal n.digits

/-- Nothing but digits. -/
def Bare (n : Numeral) : Prop := n.blank = [] ∧ n.sign = .none

theorem text_bare {n : Numeral} (h : n.Bare) : n.text = n.digits := by
  rw [text, h.1, h.2]
  rfl

theorem value_bare {n : Numeral} (h : n.Bare) : n.value = decimal n.digits := by
  rw [value, h.2]

theorem length_text (n : Numeral) :
    n.text.length = n.blank.length + n.sign.text.length + n.digits.length := by
  rw [text, List.length_append, List.length_append, Nat.add_assoc]

theorem text_ne_nil (n : Numeral) : n.text ≠ [] := by
  simp [text, n.nonempty]

end Numeral

theorem isDigit_bounds {b : UInt8} (h : isDigit b = true) : 48 ≤ b.toNat ∧ b.toNat ≤ 57 := by
  simpa [isDigit, UInt8.le_iff_toNat_le] using h

theorem not_isSpace_of_isDigit {b : UInt8} (h : isDigit b = true) : isSpace b = false := by
  obtain ⟨hlow, hhigh⟩ := isDigit_bounds h
  simp only [isSpace, Bool.or_eq_false_iff, Bool.and_eq_false_imp, decide_eq_true_eq,
    decide_eq_false_iff_not, UInt8.le_iff_toNat_le]
  refine ⟨?_, fun _ => by simp only [UInt8.reduceToNat]; omega⟩
  rintro rfl
  simp at hlow

theorem takeWhile_append_of_head {p : UInt8 → Bool} {front back : Bytes}
    (hfront : ∀ b ∈ front, p b = true) (hback : ∀ b ∈ back.head?, p b = false) :
    (front ++ back).takeWhile p = front := by
  rw [List.takeWhile_append_of_pos hfront]
  cases back with
  | nil => simp
  | cons b back => simp [hback b (by simp)]

theorem strtoul_text (n : Numeral) : strtoul n.text =
    if decimal n.digits ≥ 2 ^ 64 then ⟨2 ^ 64 - 1, true, n.text.length⟩
    else ⟨n.value, false, n.text.length⟩ := by
  obtain ⟨d, ds, hd⟩ := List.exists_cons_of_ne_nil n.nonempty
  have hdigit : isDigit d = true := n.digitsOnly d (by simp [hd])
  have hblank : n.text.takeWhile isSpace = n.blank := by
    refine takeWhile_append_of_head n.blankOnly ?_
    cases hs : n.sign
    · simpa [Sign.text, hd] using not_isSpace_of_isDigit hdigit
    · simp [Sign.text, isSpace]
    · simp [Sign.text, isSpace]
  have hrest : n.text.drop n.blank.length = n.sign.text ++ n.digits := List.drop_left
  have hsign : (if (n.sign.text ++ n.digits).head? = some 43 ∨
      (n.sign.text ++ n.digits).head? = some 45 then 1 else 0) = n.sign.text.length := by
    cases hs : n.sign
    · obtain ⟨hlow, -⟩ := isDigit_bounds hdigit
      have hplus : d ≠ 43 := by
        rintro rfl
        simp at hlow
      have hminus : d ≠ 45 := by
        rintro rfl
        simp at hlow
      simp [Sign.text, hd, hplus, hminus]
    · simp [Sign.text]
    · simp [Sign.text]
  have hdigits : n.digits.takeWhile isDigit = n.digits :=
    List.takeWhile_eq_self_iff.mpr n.digitsOnly
  have hminus : (n.sign.text ++ n.digits).head? = some 45 ↔ n.sign = .minus := by
    cases hs : n.sign
    · have hne : d ≠ 45 := by
        rintro rfl
        simp [isDigit] at hdigit
      simp [Sign.text, hd, hne]
    · simp [Sign.text]
    · simp [Sign.text]
  unfold strtoul
  dsimp only
  rw [hblank, hrest, hsign, List.drop_left, hdigits, if_neg n.nonempty, n.length_text, Numeral.value]
  simp only [hminus]
  cases n.sign <;> rfl

theorem drop_takeWhile_length (p : UInt8 → Bool) (text : Bytes) :
    text.drop (text.takeWhile p).length = text.dropWhile p := by
  have hsplit := List.takeWhile_append_dropWhile (p := p) (l := text)
  exact (congrArg (List.drop _) hsplit).symm.trans List.drop_left

/-- The optional sign `strtoul` skips. -/
theorem sign_of_head {rest : Bytes} {start : Nat}
    (h : (if rest.head? = some 43 ∨ rest.head? = some 45 then 1 else 0) = start) :
    ∃ sign : Sign, sign.text.length = start ∧ rest = sign.text ++ rest.drop start := by
  subst h
  cases rest with
  | nil => exact ⟨.none, rfl, rfl⟩
  | cons b rest =>
    by_cases hplus : b = 43
    · exact ⟨.plus, by simp [hplus, Sign.text]⟩
    · by_cases hminus : b = 45
      · exact ⟨.minus, by simp [hminus, Sign.text]⟩
      · exact ⟨.none, by simp [hplus, hminus, Sign.text]⟩

/-- What `strtoul` uses to the end is such a numeral. -/
theorem numeral_of_strtoul {text : Bytes} (hused : (strtoul text).used = text.length)
    (hne : text ≠ []) : ∃ n : Numeral, n.text = text := by
  have hpositive : text.length ≠ 0 := by simpa using hne
  unfold strtoul at hused
  dsimp only at hused
  rw [drop_takeWhile_length] at hused
  generalize hstart : (if (text.dropWhile isSpace).head? = some 43 ∨
    (text.dropWhile isSpace).head? = some 45 then 1 else 0) = start at hused
  obtain ⟨sign, hlen, hsign⟩ := sign_of_head hstart
  generalize (text.dropWhile isSpace).drop start = rest at hused hsign
  have htext : text.takeWhile isSpace ++ (sign.text ++ rest) = text := by
    rw [← hsign]
    exact List.takeWhile_append_dropWhile
  have hdigits : rest.takeWhile isDigit ≠ [] := by
    intro hnone
    rw [if_pos hnone] at hused
    exact hpositive hused.symm
  have hall : rest.takeWhile isDigit = rest := by
    refine (List.takeWhile_prefix isDigit).eq_of_length ?_
    have htotal := congrArg List.length htext
    simp only [List.length_append, hlen] at htotal
    rw [if_neg hdigits] at hused
    split at hused
    · simp only at hused
      omega
    · simp only at hused
      omega
  refine ⟨⟨text.takeWhile isSpace, sign, rest, fun b hb => List.mem_takeWhile_imp hb,
    fun b hb => ?_, hall ▸ hdigits⟩, htext⟩
  rw [← hall] at hb
  exact List.mem_takeWhile_imp hb

/-! ### The native parser -/

theorem find_append {ip port : Bytes} (h : 58 ∉ ip) : find (ip ++ 58 :: port) = some ip.length := by
  have hnone : ip.findIdx? (· = 58) = none := by
    rw [List.findIdx?_eq_none_iff]
    intro b hb
    exact decide_eq_false fun heq => h (heq ▸ hb)
  simp [find, List.findIdx?_append, List.findIdx?_cons, hnone]

theorem rfind_append {ip port : Bytes} (h : 58 ∉ port) :
    rfind (ip ++ 58 :: port) = some ip.length := by
  have hrev : (ip ++ 58 :: port).reverse = port.reverse ++ 58 :: ip.reverse := by simp
  have hfirst : (port.reverse ++ 58 :: ip.reverse).findIdx? (· = 58) = some port.length := by
    have hlen : port.reverse.length = port.length := List.length_reverse
    rw [← hlen]
    exact find_append (by simpa using h)
  rw [rfind, hrev, hfirst, Option.map_some, List.length_append, List.length_cons]
  congr 1
  omega

/-- The first colon is the last one. -/
theorem split_of_find {bytes : Bytes} {i : Nat} (hlast : rfind bytes = some i)
    (hfirst : find bytes = some i) : ∃ ip port, bytes = ip ++ 58 :: port ∧ ip.length = i ∧
      58 ∉ ip ∧ 58 ∉ port := by
  have hmem : 58 ∈ bytes := by
    by_contra hnone
    have : bytes.findIdx? (· = 58) = none := by
      rw [List.findIdx?_eq_none_iff]
      intro b hb
      exact decide_eq_false fun heq => hnone (heq ▸ hb)
    rw [find, this] at hfirst
    cases hfirst
  obtain ⟨ip, port, hbytes, hip⟩ := List.eq_append_cons_of_mem hmem
  obtain ⟨back, front, hrev, hback⟩ := List.eq_append_cons_of_mem (List.mem_reverse.mpr hmem)
  have hsplit : bytes = front.reverse ++ 58 :: back.reverse := by
    simpa using congrArg List.reverse hrev
  have hip' : ip.length = i := by
    rw [hbytes, find_append hip] at hfirst
    exact Option.some.inj hfirst
  have hfront : front.reverse.length = i := by
    rw [hsplit, rfind_append (by simpa using hback)] at hlast
    exact Option.some.inj hlast
  obtain ⟨-, htail⟩ := List.append_inj (hbytes.symm.trans hsplit) (by rw [hip', hfront])
  obtain rfl : port = back.reverse := by simpa using htail
  exact ⟨ip, back.reverse, hbytes, hip', hip, by simpa using hback⟩

/-- A port text the range checks pass. -/
def AcceptedPort (n : Numeral) : Prop :=
  decimal n.digits < 2 ^ 64 ∧ 1 ≤ n.value ∧ n.value ≤ 65535

theorem checkPort_iff {port : Bytes} {value : Nat} (hport : port ≠ []) :
    (¬ ((strtoul port).outOfRange = true ∨ (strtoul port).used = 0 ∨
      (strtoul port).used ≠ port.length ∨ (strtoul port).value = 0 ∨ (strtoul port).value > 65535) ∧
      (strtoul port).value = value) ↔
    ∃ n : Numeral, n.text = port ∧ AcceptedPort n ∧ n.value = value := by
  constructor
  · rintro ⟨hchecks, rfl⟩
    simp only [not_or, Bool.not_eq_true, ne_eq, not_not, not_lt] at hchecks
    obtain ⟨hrange, -, hused, hzero, hmax⟩ := hchecks
    obtain ⟨n, rfl⟩ := numeral_of_strtoul hused hport
    rw [strtoul_text] at hrange hzero hmax ⊢
    split at hrange
    · cases hrange
    · next hbound =>
      rw [if_neg hbound] at hzero hmax ⊢
      exact ⟨n, rfl, ⟨by omega, by simp only at hzero; omega, hmax⟩, rfl⟩
  · rintro ⟨n, rfl, ⟨hbound, hpos, hmax⟩, rfl⟩
    have hlen : n.text.length ≠ 0 := by simpa using n.text_ne_nil
    rw [strtoul_text, if_neg (by omega)]
    simp only [Bool.false_eq_true, false_or, ne_eq, not_true_eq_false, and_true]
    omega

theorem colon_not_mem_digits {digits : Bytes} (h : ∀ b ∈ digits, isDigit b = true) : 58 ∉ digits :=
  fun hmem => absurd (h 58 hmem) (by decide)

theorem colon_not_mem_text (n : Numeral) : 58 ∉ n.text := by
  have hblank : 58 ∉ n.blank := fun hmem => absurd (n.blankOnly 58 hmem) (by decide)
  have hsign : 58 ∉ n.sign.text := by cases n.sign <;> decide
  simp [Numeral.text, hblank, hsign, colon_not_mem_digits n.digitsOnly]

theorem parse_append {ip port : Bytes} (hip : 58 ∉ ip) (hport : 58 ∉ port) {e : CString}
    (he : e.bytes = ip ++ 58 :: port) (name : String) (a : SockaddrIn) :
    parseIpv4Endpoint (some e) name = .ok a ↔
      (∃ n : Numeral, n.text = port ∧ AcceptedPort n ∧ a.port = htons (UInt16.ofNat n.value)) ∧
        inetPton ip = some a.address := by
  have hempty : e.bytes ≠ [] := by simp [he]
  have hfirst : find e.bytes = some ip.length := by rw [he, find_append hip]
  have hlast : rfind e.bytes = some ip.length := by rw [he, rfind_append hport]
  have htake : e.bytes.take ip.length = ip := by rw [he, List.take_left]
  have hdrop : e.bytes.drop (ip.length + 1) = port := by
    rw [he, ← List.drop_drop, List.drop_left]
    rfl
  have hlen : e.bytes.length = ip.length + (port.length + 1) := by
    rw [he, List.length_append, List.length_cons]
  unfold parseIpv4Endpoint
  dsimp only
  rw [if_neg hempty, hlast]
  dsimp only
  rw [htake, hdrop, hfirst, hlen]
  split
  · next hshape =>
    refine iff_of_false (by simp) ?_
    rintro ⟨⟨n, htext, -⟩, haddress⟩
    rcases hshape with hzero | hend | hother
    · rw [List.length_eq_zero_iff.mp hzero] at haddress
      cases haddress
    · exact n.text_ne_nil (by rw [htext]; exact List.length_eq_zero_iff.mp (by omega))
    · exact hother rfl
  · next hshape =>
    have hne : port ≠ [] := by
      rintro rfl
      exact hshape (.inr (.inl rfl))
    split
    · next hchecks =>
      refine iff_of_false (by simp) ?_
      rintro ⟨⟨n, htext, haccepted, -⟩, -⟩
      exact ((checkPort_iff hne).mpr ⟨n, htext, haccepted, rfl⟩).1 hchecks
    · next hchecks =>
      obtain ⟨n, htext, haccepted, hvalue⟩ := (checkPort_iff hne).mp ⟨hchecks, rfl⟩
      have hothers : ∀ m : Numeral, m.text = port → AcceptedPort m → m.value = n.value := by
        intro m hm hm'
        rw [((checkPort_iff hne).mpr ⟨m, hm, hm', rfl⟩).2.symm, hvalue]
      rw [← hvalue]
      cases hpton : inetPton ip with
      | none => simp
      | some address =>
        simp only [Except.ok.injEq, Option.some.injEq]
        constructor
        · rintro rfl
          exact ⟨⟨n, htext, haccepted, rfl⟩, rfl⟩
        · rintro ⟨⟨m, hm, hm', hsin⟩, haddress⟩
          rw [hothers m hm hm'] at hsin
          rw [← hsin, haddress]

theorem split_of_parse {e : CString} {name : String} {a : SockaddrIn}
    (h : parseIpv4Endpoint (some e) name = .ok a) :
    ∃ i, rfind e.bytes = some i ∧ find e.bytes = some i := by
  unfold parseIpv4Endpoint at h
  dsimp only at h
  split at h
  · cases h
  · split at h
    · cases h
    · next separator hlast =>
      split at h
      · cases h
      · next hshape =>
        simp only [not_or, ne_eq, not_not] at hshape
        exact ⟨separator, hlast, hshape.2.2⟩

/-- The texts the parser takes, and what it makes of them. -/
theorem parse_eq_ok (e : CString) (name : String) (a : SockaddrIn) :
    parseIpv4Endpoint (some e) name = .ok a ↔
      ∃ (ip : Bytes) (n : Numeral), e.bytes = ip ++ 58 :: n.text ∧ 58 ∉ ip ∧ AcceptedPort n ∧
        a.port = htons (UInt16.ofNat n.value) ∧ inetPton ip = some a.address := by
  constructor
  · intro h
    obtain ⟨i, hlast, hfirst⟩ := split_of_parse h
    obtain ⟨ip, port, hbytes, -, hip, hport⟩ := split_of_find hlast hfirst
    obtain ⟨⟨n, rfl, haccepted, hsin⟩, haddress⟩ := (parse_append hip hport hbytes name a).mp h
    exact ⟨ip, n, hbytes, hip, haccepted, hsin, haddress⟩
  · rintro ⟨ip, n, hbytes, hip, haccepted, hsin, haddress⟩
    exact (parse_append hip (colon_not_mem_text n) hbytes name a).mpr
      ⟨⟨n, rfl, haccepted, hsin⟩, haddress⟩

/-- `IPV4:PORT`: a dotted quad, one colon, and digits whose value is a port. -/
def EndpointText (e : CString) (a : SockaddrIn) : Prop :=
  ∃ ip digits : Bytes, e.bytes = ip ++ 58 :: digits ∧ 58 ∉ ip ∧ inetPton ip = some a.address ∧
    digits ≠ [] ∧ (∀ b ∈ digits, isDigit b = true) ∧ 1 ≤ decimal digits ∧ decimal digits ≤ 65535 ∧
    (ntohs a.port).toNat = decimal digits

/-- A dotted quad, one colon, and digits after white space or a sign that `strtoul` makes a
port number of. -/
def LooseEndpoint (e : CString) : Prop :=
  ∃ (ip : Bytes) (n : Numeral), e.bytes = ip ++ 58 :: n.text ∧ 58 ∉ ip ∧ (inetPton ip).isSome ∧
    AcceptedPort n ∧ ¬ n.Bare

theorem EndpointText.port_digits {e : CString} {a : SockaddrIn} (h : EndpointText e a)
    {ip port : Bytes} (he : e.bytes = ip ++ 58 :: port) : ∀ b ∈ port, isDigit b = true := by
  obtain ⟨ip', digits, hbytes, hip, -, -, hdigits, -⟩ := h
  obtain ⟨-, -, rfl⟩ := (List.append_cons_inj_of_notMem hip (colon_not_mem_digits hdigits)).mp
    (hbytes.symm.trans he)
  exact hdigits

theorem Numeral.bare_of_digits {n : Numeral} (h : ∀ b ∈ n.text, isDigit b = true) : n.Bare := by
  constructor
  · rw [List.eq_nil_iff_forall_not_mem]
    intro b hb
    have hspace := n.blankOnly b hb
    rw [not_isSpace_of_isDigit (h b (by simp [Numeral.text, hb]))] at hspace
    cases hspace
  · cases hs : n.sign with
    | none => rfl
    | plus => exact absurd (h 43 (by simp [Numeral.text, hs, Sign.text])) (by decide)
    | minus => exact absurd (h 45 (by simp [Numeral.text, hs, Sign.text])) (by decide)

theorem endpointText_of_bare {e : CString} {a : SockaddrIn} {ip : Bytes} {n : Numeral}
    (he : e.bytes = ip ++ 58 :: n.text) (hip : 58 ∉ ip) (haddress : inetPton ip = some a.address)
    (haccepted : AcceptedPort n) (hsin : a.port = htons (UInt16.ofNat n.value)) (hbare : n.Bare) :
    EndpointText e a := by
  obtain ⟨-, hpos, hmax⟩ := haccepted
  rw [Numeral.value_bare hbare] at hpos hmax hsin
  rw [Numeral.text_bare hbare] at he
  refine ⟨ip, n.digits, he, hip, haddress, n.nonempty, n.digitsOnly, hpos, hmax, ?_⟩
  rw [hsin, ntohs_htons, UInt16.toNat_ofNat']
  omega

theorem parse_of_endpointText {e : CString} {a : SockaddrIn} (h : EndpointText e a)
    (name : String) : parseIpv4Endpoint (some e) name = .ok a := by
  obtain ⟨ip, digits, he, hip, haddress, hne, hdigits, hpos, hmax, hport⟩ := h
  refine (parse_eq_ok e name a).mpr
    ⟨ip, ⟨[], .none, digits, by simp, hdigits, hne⟩, he, hip, ⟨?_, hpos, hmax⟩, ?_, haddress⟩
  · simp only
    omega
  · have hback : UInt16.ofNat (decimal digits) = ntohs a.port := by
      rw [← hport, UInt16.ofNat_toNat]
    change a.port = htons (UInt16.ofNat (decimal digits))
    rw [hback]
    exact (ntohs_htons a.port).symm

/-- The parser takes the texts of the form `IPV4:PORT` and no others, unless `strtoul` skips
something before the digits. -/
theorem parse_ipv4_endpoint_strict (e : CString) (name : String) :
    (∀ a, parseIpv4Endpoint (some e) name = .ok a ↔ EndpointText e a) ↔ ¬ LooseEndpoint e := by
  constructor
  · rintro h ⟨ip, n, he, hip, haddress, haccepted, hbare⟩
    obtain ⟨address, haddress⟩ := Option.isSome_iff_exists.mp haddress
    have hparse := (parse_eq_ok e name ⟨htons (UInt16.ofNat n.value), address⟩).mpr
      ⟨ip, n, he, hip, haccepted, rfl, haddress⟩
    exact hbare (Numeral.bare_of_digits (((h _).mp hparse).port_digits he))
  · intro h a
    constructor
    · intro hparse
      obtain ⟨ip, n, he, hip, haccepted, hsin, haddress⟩ := (parse_eq_ok e name a).mp hparse
      have hbare : n.Bare := by
        by_contra hbare
        exact h ⟨ip, n, he, hip, by rw [haddress]; rfl, haccepted, hbare⟩
      exact endpointText_of_bare he hip haddress haccepted hsin hbare
    · exact fun htext => parse_of_endpointText htext name

/-- "192.0.2.12: -18446744073709528476" is taken for port 23140. -/
theorem parse_takes_a_sign : ¬ ∀ (e : CString) (name : String) (a : SockaddrIn),
    parseIpv4Endpoint (some e) name = .ok a ↔ EndpointText e a := by
  intro h
  let ip : Bytes := [49, 57, 50, 46, 48, 46, 50, 46, 49, 50]
  let port : Bytes := [32, 45, 49, 56, 52, 52, 54, 55, 52, 52, 48, 55, 51, 55, 48, 57, 53, 50, 56,
    52, 55, 54]
  have hparse : parseIpv4Endpoint (some ⟨ip ++ 58 :: port, by decide⟩) "local_endpoint" =
      .ok ⟨htons 23140, [192, 0, 2, 12]⟩ := by decide +kernel
  have hdigits := ((h _ _ _).mp hparse).port_digits rfl
  exact absurd (hdigits 32 (by simp [port])) (by decide)

end ServerlessX.Gdr
