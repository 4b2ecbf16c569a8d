import Mathlib

/-! Python's `str` methods, `str(n)` and `int(t, 10)`, on lists of characters. -/
namespace ServerlessX.Py

/-- The characters `str.strip` removes. -/
def isSpace (c : Char) : Bool :=
  let n := c.toNat
  (9 ≤ n && n ≤ 13) || (0x1c ≤ n && n ≤ 0x20) || n == 0x85 || n == 0xa0 || n == 0x1680 ||
    (0x2000 ≤ n && n ≤ 0x200a) || n == 0x2028 || n == 0x2029 || n == 0x202f || n == 0x205f ||
    n == 0x3000

def strip (cs : List Char) : List Char :=
  ((cs.dropWhile isSpace).reverse.dropWhile isSpace).reverse

/-- `s.rsplit(sep, 1)` when the separator occurs. -/
def rsplit (sep : Char) (cs : List Char) : List Char × List Char :=
  let rev := cs.reverse
  ((rev.dropWhile (· ≠ sep)).tail.reverse, (rev.takeWhile (· ≠ sep)).reverse)

def digitChar (d : Nat) : Char := Char.ofNat (48 + d)

def isDigit (c : Char) : Bool := 48 ≤ c.toNat && c.toNat ≤ 57

def decimal (n : Nat) : List Char :=
  if n = 0 then ['0'] else ((Nat.digits 10 n).map digitChar).reverse

/-- The characters of `str(n)`. -/
def intChars (n : Int) : List Char :=
  if n < 0 then '-' :: decimal n.natAbs else decimal n.natAbs

/-- `str(n)`. -/
def strInt (n : Int) : String := String.ofList (intChars n)

/-- The zeros of the Unicode decimal digit ranges (category Nd). -/
def digitZeros : List Nat :=
  [0x30, 0x660, 0x6f0, 0x7c0, 0x966, 0x9e6, 0xa66, 0xae6, 0xb66, 0xbe6, 0xc66, 0xce6, 0xd66,
    0xde6, 0xe50, 0xed0, 0xf20, 0x1040, 0x1090, 0x17e0, 0x1810, 0x1946, 0x19d0, 0x1a80, 0x1a90,
    0x1b50, 0x1bb0, 0x1c40, 0x1c50, 0xa620, 0xa8d0, 0xa900, 0xa9d0, 0xa9f0, 0xaa50, 0xabf0,
    0xff10, 0x104a0, 0x10d30, 0x11066, 0x110f0, 0x11136, 0x111d0, 0x112f0, 0x11450, 0x114d0,
    0x11650, 0x116c0, 0x11730, 0x118e0, 0x11950, 0x11c50, 0x11d50, 0x11da0, 0x16a60, 0x16ac0,
    0x16b50, 0x1d7ce, 0x1d7d8, 0x1d7e2, 0x1d7ec, 0x1d7f6, 0x1e140, 0x1e2f0, 0x1e950, 0x1fbf0]

def digitValue (c : Char) : Option Nat :=
  (digitZeros.find? fun z => z ≤ c.toNat && c.toNat < z + 10).map (c.toNat - ·)

/-- The whitespace `int` skips at both ends: unlike `strip`, not the ASCII
separators 0x1c to 0x1f. -/
def isIntSpace (c : Char) : Bool := isSpace c && !(0x1c ≤ c.toNat && c.toNat ≤ 0x1f)

/-- Digits with single underscores between them, most significant first. -/
def digitRun (acc : Nat) : List Char → Option Nat
  | [] => some acc
  | '_' :: c :: cs => match digitValue c with
    | some d => digitRun (10 * acc + d) cs
    | none => none
  | c :: cs => match digitValue c with
    | some d => digitRun (10 * acc + d) cs
    | none => none

def unsignedOfText (cs : List Char) : Option Nat :=
  if 4300 < cs.countP (· ≠ '_') then none
  else match cs with
    | [] => none
    | '_' :: _ => none
    | cs => digitRun 0 cs

/-- `int(t, 10)`, `none` where it raises ValueError. -/
def intOfText (cs : List Char) : Option Int :=
  let body := ((cs.dropWhile isIntSpace).reverse.dropWhile isIntSpace).reverse
  match body with
  | '-' :: ds => (unsignedOfText ds).map fun n => -(n : Int)
  | '+' :: ds => (unsignedOfText ds).map fun n => (n : Int)
  | ds => (unsignedOfText ds).map fun n => (n : Int)

/-- One octet of `ipaddress.IPv4Address`: at most three ASCII digits, no
leading zero, at most 255. -/
def octetOfText (cs : List Char) : Option Nat :=
  if cs.isEmpty || !cs.all isDigit || 3 < cs.length || (cs != ['0'] && cs.head? == some '0') then
    none
  else
    let n := cs.foldl (fun acc c => 10 * acc + (c.toNat - 48)) 0
    if 255 < n then none else some n

/-- `ipaddress.ip_address` on text without a colon, where only an IPv4 address
can be read. -/
def ipAddress (cs : List Char) : Option (List Nat) :=
  let parts := cs.splitOn '.'
  if parts.length = 4 then parts.mapM octetOfText else none

/-- `str(address)`. -/
def addressText (octets : List Nat) : List Char := ['.'].intercalate (octets.map decimal)

end ServerlessX.Py
