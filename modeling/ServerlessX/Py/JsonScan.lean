import ServerlessX.Py.JsonText

/-! A scanner for ASCII texts, to have one at hand that provably reads back what
`json.dumps` writes. -/
namespace ServerlessX.Py.Scan
open ServerlessX.Py.Json

def isWs (c : Char) : Bool := c == ' ' || c == '\t' || c == '\n' || c == '\r'

def skip (cs : List Char) : List Char := cs.dropWhile isWs

def hexValue (c : Char) : Option Nat :=
  let n := c.toNat
  if 48 ≤ n ∧ n ≤ 57 then some (n - 48)
  else if 97 ≤ n ∧ n ≤ 102 then some (n - 87)
  else if 65 ≤ n ∧ n ≤ 70 then some (n - 55)
  else none

def hex4 : List Char → Option (Nat × List Char)
  | a :: b :: c :: d :: cs => do
    let a ← hexValue a
    let b ← hexValue b
    let c ← hexValue c
    let d ← hexValue d
    return (4096 * a + 256 * b + 16 * c + d, cs)
  | _ => none

/-- What follows `\u`. A surrogate without its partner is no character. -/
def unicode (cs : List Char) : Option (Char × List Char) :=
  match hex4 cs with
  | none => none
  | some (n, cs) =>
    if n < 0xd800 ∨ 0xe000 ≤ n then some (Char.ofNat n, cs)
    else if 0xdc00 ≤ n then none
    else match cs with
      | '\\' :: 'u' :: cs => match hex4 cs with
        | none => none
        | some (low, cs) =>
          if 0xdc00 ≤ low ∧ low < 0xe000 then
            some (Char.ofNat (0x10000 + (n - 0xd800) * 1024 + (low - 0xdc00)), cs)
          else none
      | _ => none

def simpleEscape (c : Char) : Option Char :=
  if c = '"' ∨ c = '\\' ∨ c = '/' then some c
  else if c = 'b' then some (Char.ofNat 8)
  else if c = 'f' then some (Char.ofNat 12)
  else if c = 'n' then some '\n'
  else if c = 'r' then some '\r'
  else if c = 't' then some '\t'
  else none

/-- The rest of a string after its opening quote. -/
def string : Nat → List Char → Option (List Char × List Char)
  | 0, _ => none
  | _ + 1, [] => none
  | n + 1, c :: cs =>
    if c = '"' then some ([], cs)
    else if c = '\\' then
      match cs with
      | [] => none
      | e :: cs =>
        if e = 'u' then do
          let (c, cs) ← unicode cs
          let (s, cs) ← string n cs
          return (c :: s, cs)
        else do
          let c ← simpleEscape e
          let (s, cs) ← string n cs
          return (c :: s, cs)
    else if c.toNat < 32 then none
    else do
      let (s, cs) ← string n cs
      return (c :: s, cs)

def digitsValue (ds : List Char) : Nat := ds.foldl (fun acc c => 10 * acc + (c.toNat - 48)) 0

def sign : List Char → Bool × List Char
  | '-' :: cs => (true, cs)
  | cs => (false, cs)

/-- `0` or a run of digits that does not start with `0`. -/
def intDigits (cs : List Char) : List Char :=
  match cs with
  | '0' :: _ => ['0']
  | _ => cs.takeWhile isDigit

def fraction (cs : List Char) : List Char × List Char :=
  match cs with
  | '.' :: r => match r.takeWhile isDigit with
    | [] => ([], cs)
    | ds => (ds, r.dropWhile isDigit)
  | _ => ([], cs)

def exponent (cs : List Char) : Option (Int × List Char) :=
  match cs with
  | [] => none
  | e :: r =>
    if e = 'e' ∨ e = 'E' then
      let (neg, r) := match r with
        | '+' :: r => (false, r)
        | r => sign r
      match r.takeWhile isDigit with
      | [] => none
      | ds => some (if neg then -(digitsValue ds : Int) else digitsValue ds, r.dropWhile isDigit)
    else none

/-- The binary64 of a decimal literal. -/
def floatValue (neg : Bool) (mantissa : Nat) (power : Int) : PyFloat :=
  if mantissa = 0 then (if neg then .negZero else .finite 0)
  else PyFloat.round ((if neg then -1 else 1) * mantissa * (10 : ℚ) ^ power)

def number (cs : List Char) : Option (Tree × List Char) :=
  let (neg, cs) := sign cs
  let ds := intDigits cs
  if ds.isEmpty then none
  else
    let (frac, rest) := fraction (cs.drop ds.length)
    match frac, exponent rest with
    | [], none => some (.int (if neg then -(digitsValue ds : Int) else digitsValue ds), rest)
    | frac, none =>
      some (.float (floatValue neg (digitsValue (ds ++ frac)) (-(frac.length : Int))), rest)
    | frac, some (e, rest) =>
      some (.float (floatValue neg (digitsValue (ds ++ frac)) (e - frac.length)), rest)

def literal (cs : List Char) : Option (Tree × List Char) :=
  match cs with
  | 'n' :: 'u' :: 'l' :: 'l' :: cs => some (.null, cs)
  | 't' :: 'r' :: 'u' :: 'e' :: cs => some (.bool true, cs)
  | 'f' :: 'a' :: 'l' :: 's' :: 'e' :: cs => some (.bool false, cs)
  | 'N' :: 'a' :: 'N' :: cs => some (.constant .nan, cs)
  | 'I' :: 'n' :: 'f' :: 'i' :: 'n' :: 'i' :: 't' :: 'y' :: cs => some (.constant .infinity, cs)
  | '-' :: 'I' :: 'n' :: 'f' :: 'i' :: 'n' :: 'i' :: 't' :: 'y' :: cs =>
    some (.constant .negInfinity, cs)
  | _ => none

mutual
def value : Nat → List Char → Option (Tree × List Char)
  | 0, _ => none
  | _ + 1, [] => none
  | n + 1, c :: cs =>
    if c = '"' then do
      let (s, cs) ← string cs.length cs
      return (.str (String.ofList s), cs)
    else if c = '[' then
      match skip cs with
      | ']' :: cs => some (.list [], cs)
      | cs => do
        let (xs, cs) ← elements n cs
        return (.list xs, cs)
    else if c = '{' then
      match skip cs with
      | '}' :: cs => some (.obj [], cs)
      | cs => do
        let (pairs, cs) ← members n cs
        return (.obj pairs, cs)
    else match literal (c :: cs) with
      | some r => some r
      | none => number (c :: cs)
/-- The elements of a list up to its closing bracket. -/
def elements : Nat → List Char → Option (List Tree × List Char)
  | 0, _ => none
  | n + 1, cs => do
    let (x, cs) ← value n cs
    match skip cs with
    | ',' :: cs => do
      let (xs, cs) ← elements n (skip cs)
      return (x :: xs, cs)
    | ']' :: cs => return ([x], cs)
    | _ => none
/-- The members of an object up to its closing brace. -/
def members : Nat → List Char → Option (List (String × Tree) × List Char)
  | 0, _ => none
  | n + 1, cs =>
    match cs with
    | '"' :: cs => do
      let (k, cs) ← string cs.length cs
      match skip cs with
      | ':' :: cs => do
        let (x, cs) ← value n (skip cs)
        match skip cs with
        | ',' :: cs => do
          let (pairs, cs) ← members n (skip cs)
          return ((String.ofList k, x) :: pairs, cs)
        | '}' :: cs => return ([(String.ofList k, x)], cs)
        | _ => none
      | _ => none
    | _ => none
end

def decodeError (s : String) : Raised Builtin := ⟨.jsonDecodeError, [.text s]⟩

def scan : Scanner := fun b =>
  let cs := b.map fun x => Char.ofNat x.toNat
  if b.any (128 ≤ ·) then .error (decodeError "Expecting value")
  else match value (cs.length + 1) (skip cs) with
    | none => .error (decodeError "Expecting value")
    | some (t, rest) => if (skip rest).isEmpty then .ok t else .error (decodeError "Extra data")

/-! ### Reading back strings -/

theorem hexValue_hexDigit : ∀ d < 16, hexValue (hexDigit d) = some d := by decide

theorem hex4_escape {n : Nat} (h : n < 65536) (cs : List Char) :
    hex4 (hexDigit (n / 4096 % 16) :: hexDigit (n / 256 % 16) :: hexDigit (n / 16 % 16) ::
      hexDigit (n % 16) :: cs) = some (n, cs) := by
  have ha := hexValue_hexDigit (n / 4096 % 16) (by omega)
  have hb := hexValue_hexDigit (n / 256 % 16) (by omega)
  have hc := hexValue_hexDigit (n / 16 % 16) (by omega)
  have hd := hexValue_hexDigit (n % 16) (by omega)
  have hn : 4096 * (n / 4096 % 16) + 256 * (n / 256 % 16) + 16 * (n / 16 % 16) + n % 16 = n := by
    omega
  simp [hex4, ha, hb, hc, hd, hn]

/-- The code points of characters leave out the surrogates. -/
theorem char_range (c : Char) : c.toNat < 0xd800 ∨ 0xe000 ≤ c.toNat ∧ c.toNat < 0x110000 := by
  have h := c.valid
  simp only [UInt32.isValidChar, Nat.isValidChar] at h
  change c.val.toNat < 0xd800 ∨ 0xe000 ≤ c.val.toNat ∧ c.val.toNat < 0x110000
  omega

theorem unicode_basic {c : Char} (h : c.toNat < 0x10000) (cs : List Char) :
    unicode ((unicodeEscape c.toNat).drop 2 ++ cs) = some (c, cs) := by
  have hr : c.toNat < 0xd800 ∨ 0xe000 ≤ c.toNat := by
    have := char_range c
    omega
  simp only [unicodeEscape, List.drop_succ_cons, List.drop_zero, List.cons_append, List.nil_append,
    unicode, hex4_escape h, if_pos hr, Char.ofNat_toNat]

theorem unicode_surrogates {high low : Nat} (hh : 0xd800 ≤ high) (hh' : high < 0xdc00)
    (hl : 0xdc00 ≤ low) (hl' : low < 0xe000) (cs : List Char) :
    unicode ((unicodeEscape high).drop 2 ++ unicodeEscape low ++ cs) =
      some (Char.ofNat (0x10000 + (high - 0xd800) * 1024 + (low - 0xdc00)), cs) := by
  have hhigh := hex4_escape (n := high) (by omega)
  have hlow := hex4_escape (n := low) (by omega)
  have hn : ¬ (high < 0xd800 ∨ 0xe000 ≤ high) := by omega
  have hn' : ¬ 0xdc00 ≤ high := by omega
  simp only [unicodeEscape, List.drop_succ_cons, List.drop_zero, List.cons_append, List.nil_append,
    unicode, hhigh, hlow, if_neg hn, if_neg hn', if_pos (And.intro hl hl')]

theorem unicode_pair {c : Char} (h : 0x10000 ≤ c.toNat) (cs : List Char) :
    unicode ((unicodeEscape (0xd800 + (c.toNat - 0x10000) / 1024)).drop 2 ++
      unicodeEscape (0xdc00 + (c.toNat - 0x10000) % 1024) ++ cs) = some (c, cs) := by
  have hr := char_range c
  generalize hhigh : 0xd800 + (c.toNat - 0x10000) / 1024 = high
  generalize hlow : 0xdc00 + (c.toNat - 0x10000) % 1024 = low
  have hsum : 0x10000 + (high - 0xd800) * 1024 + (low - 0xdc00) = c.toNat := by omega
  rw [unicode_surrogates (by omega) (by omega) (by omega) (by omega), hsum, Char.ofNat_toNat]

/-- One character of a string is read back from its escape. -/
theorem string_escapeChar (n : Nat) (c : Char) (cs : List Char) :
    string (n + 1) (escapeChar c ++ cs) =
      (string n cs).map fun r => (c :: r.1, r.2) := by
  have hbind : ∀ (d : Char) (o : Option (List Char × List Char)),
      (o.bind fun r => some (d :: r.1, r.2)) = o.map fun r => (d :: r.1, r.2) := by
    intro d o
    cases o <;> rfl
  unfold escapeChar
  split_ifs with h1 h2 h3 h4 h5 h6 h7 h8 h9
  · subst h1
    simp [string, simpleEscape, bind, hbind]
  · subst h2
    simp [string, simpleEscape, bind, hbind]
  · subst h3
    simp [string, simpleEscape, bind, hbind]
  · subst h4
    simp [string, simpleEscape, bind, hbind]
  · subst h5
    simp [string, simpleEscape, bind, hbind]
  · have hc : c = Char.ofNat 8 := by rw [← h6, Char.ofNat_toNat]
    simp [string, simpleEscape, bind, hbind, hc]
  · have hc : c = Char.ofNat 12 := by rw [← h7, Char.ofNat_toNat]
    simp [string, simpleEscape, bind, hbind, hc]
  · have hc : ¬ c.toNat < 32 := by omega
    simp [string, h1, h2, hc, bind, hbind]
  · have hu := unicode_basic h9 cs
    simp only [unicodeEscape, List.drop_succ_cons, List.drop_zero, List.cons_append,
      List.nil_append] at hu
    simp [string, unicodeEscape, hu, bind, hbind]
  · have hu := unicode_pair (by omega : 0x10000 ≤ c.toNat) cs
    simp only [unicodeEscape, List.drop_succ_cons, List.drop_zero, List.cons_append,
      List.nil_append] at hu
    simp [string, unicodeEscape, hu, bind, hbind]

theorem string_escaped (s : List Char) (n : Nat) (h : s.length < n) (rest : List Char) :
    string n (s.flatMap escapeChar ++ '"' :: rest) = some (s, rest) := by
  induction s generalizing n with
  | nil =>
    obtain ⟨n, rfl⟩ : ∃ m, n = m + 1 := ⟨n - 1, by simp at h; omega⟩
    simp [string]
  | cons c s ih =>
    simp only [List.length_cons] at h
    obtain ⟨n, rfl⟩ : ∃ m, n = m + 1 := ⟨n - 1, by omega⟩
    rw [List.flatMap_cons, List.append_assoc, string_escapeChar, ih n (by omega)]
    rfl

/-! ### Reading back integers -/

theorem digitChar_facts : ∀ d < 10, (digitChar d).toNat - 48 = d ∧ isDigit (digitChar d) = true ∧
    (digitChar d = '0' → d = 0) := by decide

theorem mem_decimal {n : Nat} {c : Char} (h : c ∈ decimal n) : isDigit c = true := by
  unfold decimal at h
  split at h
  · simp only [List.mem_singleton] at h
    rw [h]
    rfl
  · rw [List.mem_reverse, List.mem_map] at h
    obtain ⟨d, hd, rfl⟩ := h
    exact (digitChar_facts d (Nat.digits_lt_base (by omega) hd)).2.1

theorem digitsValue_decimal (n : Nat) : digitsValue (decimal n) = n := by
  unfold decimal
  split
  · next h => simp [digitsValue, h]
  · have hmap : ∀ l : List Nat, (∀ d ∈ l, d < 10) →
        (l.map digitChar).foldr (fun c acc => 10 * acc + (c.toNat - 48)) 0 = Nat.ofDigits 10 l := by
      intro l hl
      induction l with
      | nil => rfl
      | cons d l ih =>
        have hd := (digitChar_facts d (hl d (by simp))).1
        have hrest := ih fun e he => hl e (by simp [he])
        simp only [List.map_cons, List.foldr_cons, hrest, hd, Nat.ofDigits_cons]
        omega
    rw [digitsValue, List.foldl_reverse, hmap _ fun d hd => Nat.digits_lt_base (by omega) hd,
      Nat.ofDigits_digits]

/-- The decimal of a positive number does not start with `0`. -/
theorem decimal_head {n : Nat} (h : n ≠ 0) : ∃ c cs, decimal n = c :: cs ∧ c ≠ '0' := by
  have hne : Nat.digits 10 n ≠ [] := Nat.digits_ne_nil_iff_ne_zero.mpr h
  have hlast := Nat.getLast_digit_ne_zero 10 h
  have hlt : (Nat.digits 10 n).getLast hne < 10 :=
    Nat.digits_lt_base (by omega) (List.getLast_mem hne)
  refine ⟨digitChar ((Nat.digits 10 n).getLast hne),
    ((Nat.digits 10 n).dropLast.map digitChar).reverse, ?_, fun h0 => ?_⟩
  · rw [decimal, if_neg h]
    conv_lhs => rw [← List.dropLast_append_getLast hne]
    simp
  · exact hlast ((digitChar_facts _ hlt).2.2 h0)

/-- What follows an integer does not continue it. -/
def EndsNumber (rest : List Char) : Prop :=
  ∀ c cs, rest = c :: cs → isDigit c = false ∧ c ≠ '.' ∧ c ≠ 'e' ∧ c ≠ 'E'

theorem fraction_ends {rest : List Char} (h : EndsNumber rest) : fraction rest = ([], rest) := by
  unfold fraction
  split
  · next r => exact absurd rfl (h '.' r rfl).2.1
  · rfl

theorem exponent_ends {rest : List Char} (h : EndsNumber rest) : exponent rest = none := by
  cases rest with
  | nil => rfl
  | cons c cs =>
    obtain ⟨-, -, he, hE⟩ := h c cs rfl
    simp [exponent, he, hE]

theorem intDigits_decimal (n : Nat) {rest : List Char} (h : EndsNumber rest) :
    intDigits (decimal n ++ rest) = decimal n := by
  by_cases hn : n = 0
  · subst hn
    rfl
  · obtain ⟨c, cs, hc, hc0⟩ := decimal_head hn
    have htake : (decimal n ++ rest).takeWhile isDigit = decimal n := by
      rw [List.takeWhile_append_of_pos fun d hd => mem_decimal hd]
      cases rest with
      | nil => simp
      | cons d ds => simp [(h d ds rfl).1]
    unfold intDigits
    split
    · next cs' heq =>
      rw [hc, List.cons_append] at heq
      exact absurd (List.cons.inj heq).1 hc0
    · exact htake

theorem decimal_ne_nil (n : Nat) : decimal n ≠ [] := by
  by_cases hn : n = 0
  · simp [decimal, hn]
  · obtain ⟨c, cs, hc, -⟩ := decimal_head hn
    simp [hc]

theorem sign_decimal (n : Nat) (rest : List Char) :
    sign (decimal n ++ rest) = (false, decimal n ++ rest) := by
  unfold sign
  split
  · next cs heq =>
    have hmem : '-' ∈ decimal n := by
      cases hd : decimal n with
      | nil => exact absurd hd (decimal_ne_nil n)
      | cons c cs' =>
        rw [hd, List.cons_append] at heq
        simp [(List.cons.inj heq).1]
    have := mem_decimal hmem
    simp [isDigit] at this
  · rfl

theorem number_intChars (n : Int) {rest : List Char} (h : EndsNumber rest) :
    number (intChars n ++ rest) = some (.int n, rest) := by
  have hsign : sign (intChars n ++ rest) = (decide (n < 0), decimal n.natAbs ++ rest) := by
    by_cases hn : n < 0
    · simp [intChars, hn, sign]
    · simp [intChars, hn, sign_decimal]
  have hne : (decimal n.natAbs).isEmpty = false := by simp [decimal_ne_nil]
  have hval : (if n < 0 then -|n| else |n|) = n := by
    split_ifs with hn
    · rw [abs_of_neg hn, neg_neg]
    · rw [abs_of_nonneg (by omega)]
  simp [number, hsign, intDigits_decimal _ h, hne, fraction_ends h, exponent_ends h,
    digitsValue_decimal, hval]

theorem intChars_head (n : Int) : ∃ c cs, intChars n = c :: cs ∧ (isDigit c = true ∨
    c = '-' ∧ ∃ d ds, cs = d :: ds ∧ isDigit d = true) := by
  cases hd : decimal n.natAbs with
  | nil => exact absurd hd (decimal_ne_nil _)
  | cons d ds =>
    have hdig : isDigit d = true := mem_decimal (n := n.natAbs) (by simp [hd])
    by_cases hn : n < 0
    · exact ⟨'-', d :: ds, by simp [intChars, hn, hd], .inr ⟨rfl, d, ds, rfl, hdig⟩⟩
    · exact ⟨d, ds, by simp [intChars, hn, hd], .inl hdig⟩

theorem literal_digit {c : Char} (h : isDigit c = true) (cs : List Char) :
    literal (c :: cs) = none := by
  unfold literal
  split <;> first | rfl | (next heq => cases heq; simp [isDigit] at h)

theorem literal_minus {d : Char} (h : isDigit d = true) (ds : List Char) :
    literal ('-' :: d :: ds) = none := by
  unfold literal
  split <;> first | rfl | (next heq => simp at heq) | (next heq => cases heq; simp [isDigit] at h)

theorem value_int (n : Nat) (m : Int) {rest : List Char} (h : EndsNumber rest) :
    value (n + 1) (intChars m ++ rest) = some (.int m, rest) := by
  have hnum := number_intChars m h
  obtain ⟨c, cs, hc, hhead⟩ := intChars_head m
  rw [hc] at hnum ⊢
  have hlit : literal (c :: (cs ++ rest)) = none := by
    obtain hd | ⟨rfl, d, ds, rfl, hd⟩ := hhead
    · exact literal_digit hd _
    · exact literal_minus hd _
  have hq : c ≠ '"' ∧ c ≠ '[' ∧ c ≠ '{' := by
    obtain hd | ⟨rfl, -⟩ := hhead
    · refine ⟨?_, ?_, ?_⟩ <;> (intro h; rw [h] at hd; cases hd)
    · decide
  simp only [List.cons_append] at hnum ⊢
  simp [value, hq, hlit, hnum]

/-! ### Reading back values -/

theorem text_head {v : Json} (h : v.floatFree = true) :
    ∃ c cs, text v = c :: cs ∧ isWs c = false ∧ c ≠ ']' ∧ c ≠ '}' := by
  cases v with
  | null => exact ⟨'n', _, rfl, by decide⟩
  | bool b => cases b <;> exact ⟨_, _, rfl, by decide⟩
  | int n =>
    obtain ⟨c, cs, hc, hhead⟩ := intChars_head n
    refine ⟨c, cs, hc, ?_⟩
    obtain hd | ⟨rfl, -⟩ := hhead
    · have hne : ∀ d, isDigit d = false → c ≠ d := by
        intro d hd' h
        rw [h, hd'] at hd
        cases hd
      refine ⟨?_, hne _ rfl, hne _ rfl⟩
      simp [isWs, hne ' ' rfl, hne '\t' rfl, hne '\n' rfl, hne '\r' rfl]
    · decide
  | float x => simp [floatFree] at h
  | str s => exact ⟨'"', _, rfl, by decide⟩
  | list xs => exact ⟨'[', _, rfl, by decide⟩
  | obj f => exact ⟨'{', _, rfl, by decide⟩

theorem skip_text {v : Json} (h : v.floatFree = true) (rest : List Char) :
    skip (text v ++ rest) = text v ++ rest := by
  obtain ⟨c, cs, hc, hws, -⟩ := text_head h
  simp [hc, skip, hws]

@[simp] theorem skip_comma (cs : List Char) : skip (',' :: cs) = ',' :: cs := rfl

@[simp] theorem skip_colon (cs : List Char) : skip (':' :: cs) = ':' :: cs := rfl

@[simp] theorem skip_quote (cs : List Char) : skip ('"' :: cs) = '"' :: cs := rfl

@[simp] theorem skip_bracket (cs : List Char) : skip (']' :: cs) = ']' :: cs := rfl

@[simp] theorem skip_brace (cs : List Char) : skip ('}' :: cs) = '}' :: cs := rfl

/-- The value is read back from its text, whatever text follows. -/
def Readable (v : Json) : Prop :=
  ∀ n rest, EndsNumber rest → (text v).length ≤ n →
    value n (text v ++ rest) = some (Tree.ofJson v, rest)

theorem ends_of_head {c : Char} (cs : List Char) (h : c = ',' ∨ c = ']' ∨ c = '}') :
    EndsNumber (c :: cs) := by
  intro d ds hd
  cases hd
  obtain rfl | rfl | rfl := h <;> decide

theorem elements_text {x : Json} {xs : List Json} (hx : Readable x) (hf : x.floatFree = true)
    (hxs : ∀ y ∈ xs, Readable y) (hfs : ∀ y ∈ xs, y.floatFree = true) {n : Nat}
    (hn : (text x ++ textTail xs).length ≤ n) (rest : List Char) :
    elements n (text x ++ textTail xs ++ rest) =
      some (Tree.ofJson x :: Tree.ofJsonList xs, rest) := by
  induction xs generalizing x n with
  | nil =>
    simp only [textTail, List.length_append, List.length_singleton] at hn
    obtain ⟨n, rfl⟩ : ∃ m, n = m + 1 := ⟨n - 1, by omega⟩
    have hval := hx n (']' :: rest) (ends_of_head rest (by simp)) (by omega)
    simp [textTail, elements, hval, Tree.ofJsonList]
  | cons y ys ih =>
    simp only [textTail, List.cons_append, List.length_append, List.length_cons] at hn
    obtain ⟨n, rfl⟩ : ∃ m, n = m + 1 := ⟨n - 1, by omega⟩
    have hval := hx n (',' :: (text y ++ textTail ys ++ rest)) (ends_of_head _ (by simp))
      (by omega)
    have hmore := ih (hxs y (by simp)) (hfs y (by simp)) (fun z hz => hxs z (by simp [hz]))
      (fun z hz => hfs z (by simp [hz])) (n := n) (by simp only [List.length_append]; omega)
    have hskip := skip_text (hfs y (by simp)) (textTail ys ++ rest)
    simp only [List.append_assoc] at hval hmore
    simp only [textTail, List.cons_append, List.append_assoc, elements, hval, bind, Option.bind,
      skip_comma, hskip, hmore, pure, Tree.ofJsonList]

theorem length_le_escaped (s : List Char) : s.length ≤ (s.flatMap escapeChar).length := by
  induction s with
  | nil => simp
  | cons c s ih =>
    have hc : 1 ≤ (escapeChar c).length := by
      unfold escapeChar
      split_ifs <;> simp [unicodeEscape]
    simp only [List.flatMap_cons, List.length_append, List.length_cons]
    omega

theorem string_quoted (s : String) (rest : List Char) :
    string (s.toList.flatMap escapeChar ++ '"' :: rest).length
      (s.toList.flatMap escapeChar ++ '"' :: rest) = some (s.toList, rest) := by
  apply string_escaped
  have := length_le_escaped s.toList
  simp only [List.length_append, List.length_cons]
  omega

theorem members_text {k : String} {x : Json} {f : Fields} (hx : Readable x)
    (hf : x.floatFree = true) (hxs : ∀ e ∈ f, Readable e.2)
    (hfs : ∀ e ∈ f, e.2.floatFree = true) {n : Nat}
    (hn : (quoted k ++ ':' :: text x ++ textFieldsTail f).length ≤ n) (rest : List Char) :
    members n (quoted k ++ ':' :: text x ++ textFieldsTail f ++ rest) =
      some ((k, Tree.ofJson x) :: Tree.ofJsonFields f, rest) := by
  induction f generalizing k x n with
  | nil =>
    simp only [textFieldsTail, List.length_append, List.length_cons, List.length_nil, quoted] at hn
    obtain ⟨n, rfl⟩ : ∃ m, n = m + 1 := ⟨n - 1, by omega⟩
    have hval := hx n ('}' :: rest) (ends_of_head rest (by simp)) (by omega)
    have hkey := string_quoted k (':' :: (text x ++ '}' :: rest))
    have hskip := skip_text hf ('}' :: rest)
    simp only [textFieldsTail, quoted, List.cons_append, List.append_assoc, List.nil_append,
      members, hkey, bind, Option.bind, skip_colon, hskip, hval, skip_brace, pure,
      Tree.ofJsonFields, String.ofList_toList]
  | cons e f ih =>
    obtain ⟨j, y⟩ := e
    simp only [textFieldsTail, List.length_append, List.length_cons, List.length_nil, quoted] at hn
    obtain ⟨n, rfl⟩ : ∃ m, n = m + 1 := ⟨n - 1, by omega⟩
    have hval := hx n (',' :: (quoted j ++ ':' :: text y ++ textFieldsTail f ++ rest))
      (ends_of_head _ (by simp)) (by omega)
    have hmore := ih (k := j) (hxs (j, y) (by simp)) (hfs (j, y) (by simp))
      (fun e he => hxs e (by simp [he])) (fun e he => hfs e (by simp [he])) (n := n)
      (by simp only [List.length_append, List.length_cons, quoted, List.length_nil]; omega)
    have hkey := string_quoted k
      (':' :: (text x ++ ',' :: (quoted j ++ ':' :: text y ++ textFieldsTail f ++ rest)))
    have hskip := skip_text hf (',' :: (quoted j ++ ':' :: text y ++ textFieldsTail f ++ rest))
    simp only [quoted, List.cons_append, List.append_assoc, List.nil_append] at hval hmore hkey hskip
    simp only [textFieldsTail, quoted, List.cons_append, List.append_assoc, List.nil_append,
      members, hkey, bind, Option.bind, skip_colon, hskip, hval, skip_comma, skip_quote, hmore,
      pure, Tree.ofJsonFields, String.ofList_toList]

theorem readable_str (s : String) : Readable (.str s) := by
  intro n rest _ hn
  simp only [text, quoted, List.cons_append, List.length_cons] at hn
  obtain ⟨n, rfl⟩ : ∃ m, n = m + 1 := ⟨n - 1, by omega⟩
  have hs := string_quoted s rest
  simp only [text, quoted, List.cons_append, List.append_assoc, List.nil_append, value, if_true,
    hs, bind, Option.bind, pure, String.ofList_toList, Tree.ofJson]

theorem readable_list {xs : List Json} (h : ∀ x ∈ xs, Readable x)
    (hf : ∀ x ∈ xs, x.floatFree = true) : Readable (.list xs) := by
  intro n rest _ hn
  simp only [text, List.length_cons] at hn
  obtain ⟨n, rfl⟩ : ∃ m, n = m + 1 := ⟨n - 1, by omega⟩
  cases xs with
  | nil => simp [text, textList, value, Tree.ofJson, Tree.ofJsonList]
  | cons x xs =>
    simp only [textList] at hn
    obtain ⟨hx, hxs⟩ := List.forall_mem_cons.mp h
    obtain ⟨hfx, hfxs⟩ := List.forall_mem_cons.mp hf
    have hel := elements_text hx hfx hxs hfxs (n := n) (by omega) rest
    have hskip := skip_text hfx (textTail xs ++ rest)
    obtain ⟨c, cs, hc, -, hb, -⟩ := text_head hfx
    simp only [hc, List.cons_append, List.append_assoc] at hel hskip
    simp [text, textList, hc, value, hskip, hb, hel, Tree.ofJson, Tree.ofJsonList]

theorem readable_obj {f : Fields} (h : ∀ e ∈ f, Readable e.2)
    (hf : ∀ e ∈ f, e.2.floatFree = true) : Readable (.obj f) := by
  intro n rest _ hn
  simp only [text, List.length_cons] at hn
  obtain ⟨n, rfl⟩ : ∃ m, n = m + 1 := ⟨n - 1, by omega⟩
  cases f with
  | nil => simp [text, textFields, value, Tree.ofJson, Tree.ofJsonFields]
  | cons e f =>
    obtain ⟨k, x⟩ := e
    simp only [textFields] at hn
    obtain ⟨hx, hxs⟩ := List.forall_mem_cons.mp h
    obtain ⟨hfx, hfxs⟩ := List.forall_mem_cons.mp hf
    have hmem := members_text (k := k) (x := x) hx hfx hxs hfxs (n := n) (by omega) rest
    simp only [quoted, List.cons_append, List.append_assoc, List.nil_append] at hmem
    simp [text, textFields, quoted, value, hmem, Tree.ofJson, Tree.ofJsonFields]

theorem readable {v : Json} (h : v.floatFree = true) : Readable v := by
  induction v using Json.induct with
  | null =>
    intro n rest _ hn
    obtain ⟨n, rfl⟩ : ∃ m, n = m + 1 := ⟨n - 1, by simp [text] at hn; omega⟩
    rfl
  | bool b =>
    intro n rest _ hn
    obtain ⟨n, rfl⟩ : ∃ m, n = m + 1 := ⟨n - 1, by cases b <;> simp [text] at hn <;> omega⟩
    cases b <;> rfl
  | int m =>
    intro n rest hr hn
    obtain ⟨c, cs, hc, -⟩ := intChars_head m
    obtain ⟨n, rfl⟩ : ∃ m, n = m + 1 := ⟨n - 1, by simp [text, hc] at hn; omega⟩
    exact value_int n m hr
  | float x => simp [floatFree] at h
  | str s => exact readable_str s
  | list xs ih =>
    rw [floatFree, floatFreeList_iff] at h
    exact readable_list (fun x hx => ih x hx (h x hx)) h
  | obj f ih =>
    rw [floatFree, floatFreeFields_iff] at h
    exact readable_obj (fun e he => ih e he (h e he)) h

/-! ### The texts are ASCII -/

def AsciiText (cs : List Char) : Prop := ∀ c ∈ cs, c.toNat < 128

theorem ascii_hexDigit : ∀ d < 16, (hexDigit d).toNat < 128 := by decide

theorem ascii_unicodeEscape (n : Nat) : AsciiText (unicodeEscape n) := by
  intro c hc
  simp only [unicodeEscape, List.mem_cons, List.not_mem_nil, or_false] at hc
  obtain rfl | rfl | rfl | rfl | rfl | rfl := hc
  · decide
  · decide
  · exact ascii_hexDigit _ (by omega)
  · exact ascii_hexDigit _ (by omega)
  · exact ascii_hexDigit _ (by omega)
  · exact ascii_hexDigit _ (by omega)

theorem ascii_append {cs ds : List Char} (hc : AsciiText cs) (hd : AsciiText ds) :
    AsciiText (cs ++ ds) := by
  intro c h
  obtain h | h := List.mem_append.mp h
  · exact hc c h
  · exact hd c h

theorem ascii_cons {c : Char} {cs : List Char} (hc : c.toNat < 128) (h : AsciiText cs) :
    AsciiText (c :: cs) :=
  List.forall_mem_cons.mpr ⟨hc, h⟩

theorem ascii_escapeChar (c : Char) : AsciiText (escapeChar c) := by
  unfold escapeChar
  split_ifs with h1 h2 h3 h4 h5 h6 h7 h8 h9
  · simp [AsciiText]
  · simp [AsciiText]
  · simp [AsciiText]
  · simp [AsciiText]
  · simp [AsciiText]
  · simp [AsciiText]
  · simp [AsciiText]
  · simp only [AsciiText, List.mem_singleton, forall_eq]
    omega
  · exact ascii_unicodeEscape _
  · exact ascii_append (ascii_unicodeEscape _) (ascii_unicodeEscape _)

theorem ascii_quoted (s : String) : AsciiText (quoted s) := by
  have hbody : AsciiText (s.toList.flatMap escapeChar) := by
    intro c hc
    obtain ⟨d, -, hd⟩ := List.mem_flatMap.mp hc
    exact ascii_escapeChar d c hd
  exact ascii_cons (by decide) (ascii_append hbody (by simp [AsciiText]))

theorem ascii_intChars (n : Int) : AsciiText (intChars n) := by
  have hdec : AsciiText (decimal n.natAbs) := by
    intro c hc
    have := mem_decimal hc
    simp only [isDigit, Bool.and_eq_true, decide_eq_true_eq] at this
    omega
  unfold intChars
  split
  · exact ascii_cons (by decide) hdec
  · exact hdec

theorem ascii_textTail {xs : List Json} (h : ∀ x ∈ xs, AsciiText (text x)) :
    AsciiText (textTail xs) := by
  induction xs with
  | nil => simp [textTail, AsciiText]
  | cons x xs ih =>
    obtain ⟨hx, hxs⟩ := List.forall_mem_cons.mp h
    exact ascii_cons (by decide) (ascii_append hx (ih hxs))

theorem ascii_textFieldsTail {f : Fields} (h : ∀ e ∈ f, AsciiText (text e.2)) :
    AsciiText (textFieldsTail f) := by
  induction f with
  | nil => simp [textFieldsTail, AsciiText]
  | cons e f ih =>
    obtain ⟨he, hf⟩ := List.forall_mem_cons.mp h
    exact ascii_cons (by decide) (ascii_append (ascii_append (ascii_quoted _)
      (ascii_cons (by decide) he)) (ih hf))

theorem ascii_text {v : Json} (h : v.floatFree = true) : AsciiText (text v) := by
  induction v using Json.induct with
  | null => simp [text, AsciiText]
  | bool b => cases b <;> simp [text, AsciiText]
  | int n => exact ascii_intChars n
  | float x => simp [floatFree] at h
  | str s => exact ascii_quoted s
  | list xs ih =>
    rw [floatFree, floatFreeList_iff] at h
    have hxs : ∀ x ∈ xs, AsciiText (text x) := fun x hx => ih x hx (h x hx)
    refine ascii_cons (by decide) ?_
    cases xs with
    | nil => simp [textList, AsciiText]
    | cons x xs =>
      obtain ⟨hx, hxs⟩ := List.forall_mem_cons.mp hxs
      exact ascii_append hx (ascii_textTail hxs)
  | obj f ih =>
    rw [floatFree, floatFreeFields_iff] at h
    have hf : ∀ e ∈ f, AsciiText (text e.2) := fun e he => ih e he (h e he)
    refine ascii_cons (by decide) ?_
    cases f with
    | nil => simp [textFields, AsciiText]
    | cons e f =>
      obtain ⟨he, hf⟩ := List.forall_mem_cons.mp hf
      exact ascii_append (ascii_append (ascii_quoted _) (ascii_cons (by decide) he))
        (ascii_textFieldsTail hf)

theorem map_ascii {cs : List Char} (h : AsciiText cs) :
    (ascii cs).map (fun x => Char.ofNat x.toNat) = cs := by
  rw [ascii, List.map_map]
  refine (List.map_congr_left fun c hc => ?_).trans (List.map_id cs)
  have hlt := h c hc
  have hmod : c.toNat % 2 ^ 8 = c.toNat := Nat.mod_eq_of_lt (by omega)
  simp only [Function.comp_apply, UInt8.toNat_ofNat', hmod, Char.ofNat_toNat, id]

theorem ascii_any {cs : List Char} (h : AsciiText cs) : (ascii cs).any (128 ≤ ·) = false := by
  rw [List.any_eq_false]
  intro x hx
  obtain ⟨c, hc, rfl⟩ := List.mem_map.mp hx
  have hlt := h c hc
  simp only [decide_eq_true_eq, UInt8.le_iff_toNat_le, UInt8.toNat_ofNat']
  simp only [UInt8.reduceToNat]
  omega

theorem scan_roundTrips : RoundTrips scan := by
  intro v hv
  have htext := ascii_text hv
  have hval := readable hv ((text v).length + 1) [] (by simp [EndsNumber]) (by omega)
  have hskip := skip_text hv []
  rw [List.append_nil] at hval hskip
  have hnil : skip [] = [] := rfl
  simp [scan, map_ascii htext, ascii_any htext, hskip, hval, hnil]

end ServerlessX.Py.Scan
