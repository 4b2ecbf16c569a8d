import ServerlessX.Gdr.Wire

/-! `parse_ipv4_endpoint` and the C functions it reads numbers and addresses with. -/
namespace ServerlessX.Gdr
open ServerlessX.Py

/-- A non-null `const char *`: the bytes before the terminating NUL. -/
structure CString where
  bytes : Bytes
  clean : (0 : UInt8) ∉ bytes
deriving DecidableEq

def isSpace (b : UInt8) : Bool := b = 32 || (9 ≤ b && b ≤ 13)

def isDigit (b : UInt8) : Bool := 48 ≤ b && b ≤ 57

def decimal (digits : Bytes) : Nat := digits.foldl (fun n b => 10 * n + (b.toNat - 48)) 0

/-- What `strtoul` and `strtoull` leave: the value, whether `errno` is set, and how much of
the text they used. -/
structure Strtoul where
  value : Nat
  outOfRange : Bool
  used : Nat
deriving DecidableEq

/-- `strtoul(text, &end, 10)` on 64 bits: white space and a sign are skipped, a minus negates
modulo `2 ^ 64`, and without a digit nothing is used. -/
def strtoul (text : Bytes) : Strtoul :=
  let blank := (text.takeWhile isSpace).length
  let rest := text.drop blank
  let sign := if rest.head? = some 43 ∨ rest.head? = some 45 then 1 else 0
  let digits := (rest.drop sign).takeWhile isDigit
  if digits = [] then ⟨0, false, 0⟩
  else if decimal digits ≥ 2 ^ 64 then ⟨2 ^ 64 - 1, true, blank + sign + digits.length⟩
  else
    let value := if rest.head? = some 45 then (2 ^ 64 - decimal digits) % 2 ^ 64 else decimal digits
    ⟨value, false, blank + sign + digits.length⟩

/-- The parts of a text between occurrences of a byte. -/
def splitOn (separator : UInt8) : Bytes → List Bytes
  | [] => [[]]
  | b :: rest =>
    if b = separator then [] :: splitOn separator rest
    else match splitOn separator rest with
      | [] => [[b]]
      | part :: parts => (b :: part) :: parts

/-- One octet of a dotted quad: up to 255, without a leading zero. -/
def octet (part : Bytes) : Option UInt8 :=
  if part ≠ [] ∧ part.all isDigit = true ∧ (part.head? = some 48 → part.length = 1) ∧
      decimal part ≤ 255 then
    some (UInt8.ofNat (decimal part))
  else none

/-- `inet_pton(AF_INET, text, &address)`: the four bytes of the address. -/
def inetPton (text : Bytes) : Option Bytes :=
  match splitOn 46 text with
  | [a, b, c, d] =>
    match octet a, octet b, octet c, octet d with
    | some a, some b, some c, some d => some [a, b, c, d]
    | _, _, _, _ => none
  | _ => none

/-- `sockaddr_in` -/
structure SockaddrIn where
  port : UInt16
  address : Bytes
deriving DecidableEq

def find (value : Bytes) : Option Nat := value.findIdx? (· = 58)

/-- `value.rfind(':')` -/
def rfind (value : Bytes) : Option Nat :=
  (value.reverse.findIdx? (· = 58)).map fun i => value.length - 1 - i

def parseIpv4Endpoint (endpoint : Option CString) (name : String) : Except String SockaddrIn :=
  match endpoint with
  | none => .error (name ++ " is empty")
  | some endpoint =>
    if endpoint.bytes = [] then .error (name ++ " is empty")
    else match rfind endpoint.bytes with
      | none => .error (name ++ " must be IPV4:PORT")
      | some separator =>
        if separator = 0 ∨ separator + 1 = endpoint.bytes.length ∨
            find endpoint.bytes ≠ some separator then
          .error (name ++ " must be IPV4:PORT")
        else
          let ip := endpoint.bytes.take separator
          let port := endpoint.bytes.drop (separator + 1)
          let parsed := strtoul port
          if parsed.outOfRange = true ∨ parsed.used = 0 ∨ parsed.used ≠ port.length ∨
              parsed.value = 0 ∨ parsed.value > 65535 then
            .error (name ++ " has an invalid TCP port")
          else match inetPton ip with
            | none => .error (name ++ " has an invalid IPv4 address")
            | some address => .ok ⟨htons (UInt16.ofNat parsed.value), address⟩

end ServerlessX.Gdr
