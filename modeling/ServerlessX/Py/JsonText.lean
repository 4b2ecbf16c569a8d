import ServerlessX.Py.Bytes
import ServerlessX.Py.Strings
import ServerlessX.Py.Values

/-! JSON texts: what `json.dumps` writes for the canonical form, and how
`json.loads` turns the scanner's findings into a value through its hooks. The
scanner itself is a parameter of everything that reads texts. -/
namespace ServerlessX.Py

/-- The ASCII encoding of a text. -/
def ascii (cs : List Char) : Bytes := cs.map fun c => UInt8.ofNat c.toNat

def hexDigit (d : Nat) : Char := Char.ofNat (if d < 10 then 48 + d else 87 + d)

/-- `\uXXXX` -/
def unicodeEscape (n : Nat) : List Char :=
  ['\\', 'u', hexDigit (n / 4096 % 16), hexDigit (n / 256 % 16), hexDigit (n / 16 % 16),
    hexDigit (n % 16)]

/-- One character under `ensure_ascii`; beyond the basic plane it is written as
a surrogate pair. -/
def escapeChar (c : Char) : List Char :=
  if c = '"' then ['\\', '"']
  else if c = '\\' then ['\\', '\\']
  else if c = '\n' then ['\\', 'n']
  else if c = '\r' then ['\\', 'r']
  else if c = '\t' then ['\\', 't']
  else if c.toNat = 8 then ['\\', 'b']
  else if c.toNat = 12 then ['\\', 'f']
  else if 32 ≤ c.toNat ∧ c.toNat ≤ 126 then [c]
  else if c.toNat < 0x10000 then unicodeEscape c.toNat
  else unicodeEscape (0xd800 + (c.toNat - 0x10000) / 1024) ++
    unicodeEscape (0xdc00 + (c.toNat - 0x10000) % 1024)

def quoted (s : String) : List Char := '"' :: s.toList.flatMap escapeChar ++ ['"']

namespace PyFloat

/-- The exponent `k` with `10 ^ k ≤ q < 10 ^ (k + 1)`, for positive `q`. -/
def log10 (q : ℚ) : Int :=
  if 1 ≤ q then Nat.log 10 q.floor.toNat else -(Nat.log 10 ((1 / q).ceil.toNat - 1) : Int) - 1

/-- The decimal of `digits` digits nearest to `q` among those that read back as
`q`, as mantissa and exponent. -/
def shortest? (q : ℚ) (digits : Nat) : Option (Nat × Int) :=
  let e : Int := log10 q - digits + 1
  let unit : ℚ := (10 : ℚ) ^ e
  let low := (q / unit).floor.toNat
  let good (m : Nat) : Bool := PyFloat.round (m * unit) == .finite q
  match good low, good (low + 1) with
  | true, true =>
    if 2 * (q - low * unit) ≤ unit then some (low, e) else some (low + 1, e)
  | true, false => some (low, e)
  | false, true => some (low + 1, e)
  | false, false => none

/-- `repr(q)` of a positive finite float. -/
def reprPos (q : ℚ) : List Char :=
  match (List.range 17).findSome? (fun i => shortest? q (i + 1)) with
  | none => []
  | some (m, e) =>
    let all := decimal m
    let point : Int := all.length + e
    let ds := (all.reverse.dropWhile (· = '0')).reverse
    if -4 < point ∧ point ≤ 16 then
      if point ≤ 0 then "0.".toList ++ List.replicate (-point).toNat '0' ++ ds
      else if ds.length ≤ point then
        ds ++ List.replicate (point - ds.length).toNat '0' ++ ".0".toList
      else ds.take point.toNat ++ '.' :: ds.drop point.toNat
    else
      let power := point - 1
      let shown := decimal power.natAbs
      ds.take 1 ++ (if ds.length = 1 then [] else '.' :: ds.drop 1) ++
        ['e', if power < 0 then '-' else '+'] ++ (if shown.length < 2 then '0' :: shown else shown)

def repr : PyFloat → List Char
  | .finite q => if q = 0 then "0.0".toList else if 0 < q then reprPos q else '-' :: reprPos (-q)
  | .negZero => "-0.0".toList
  | .inf neg => if neg then "-Infinity".toList else "Infinity".toList
  | .nan => "NaN".toList

end PyFloat

namespace Json

mutual
/-- The text of a value with separators `,` and `:`, dict entries as they stand. -/
def text : Json → List Char
  | .null => "null".toList
  | .bool b => if b then "true".toList else "false".toList
  | .int n => intChars n
  | .float x => x.repr
  | .str s => quoted s
  | .list xs => '[' :: textList xs
  | .obj f => '{' :: textFields f
/-- The rest of a list after its opening bracket. -/
def textList : List Json → List Char
  | [] => [']']
  | x :: xs => text x ++ textTail xs
def textTail : List Json → List Char
  | [] => [']']
  | x :: xs => ',' :: text x ++ textTail xs
def textFields : List (String × Json) → List Char
  | [] => ['}']
  | (k, x) :: f => quoted k ++ ':' :: text x ++ textFieldsTail f
def textFieldsTail : List (String × Json) → List Char
  | [] => ['}']
  | (k, x) :: f => ',' :: quoted k ++ ':' :: text x ++ textFieldsTail f
end

mutual
def allFinite : Json → Bool
  | .float x => x.isFinite
  | .list xs => allFiniteList xs
  | .obj f => allFiniteFields f
  | _ => true
def allFiniteList : List Json → Bool
  | [] => true
  | x :: xs => allFinite x && allFiniteList xs
def allFiniteFields : List (String × Json) → Bool
  | [] => true
  | (_, x) :: f => allFinite x && allFiniteFields f
end

/-- `json.dumps(v, allow_nan=False, ensure_ascii=True, separators=(",", ":"),
sort_keys=True).encode("ascii")`. -/
def dumps (v : Json) : Except (Raised Builtin) Bytes :=
  if v.norm.allFinite then .ok (ascii v.norm.text)
  else .error ⟨.valueError, [.text "Out of range float values are not JSON compliant"]⟩

end Json

/-- The constants beyond JSON that the scanner hands to `parse_constant`. -/
inductive Constant where
  | nan
  | infinity
  | negInfinity

/-- What the scanner reads, before the hooks: the pairs of an object are in text
order, repeated keys included. -/
inductive Tree where
  | null
  | bool (b : Bool)
  | int (n : Int)
  | float (x : PyFloat)
  | constant (c : Constant)
  | str (s : String)
  | list (xs : List Tree)
  | obj (pairs : List (String × Tree))

structure Hooks (ε : Type) where
  object : Fields → Except ε Json
  constant : Constant → Except ε Json

/-- `object_pairs_hook` of the strict readers. -/
def noDuplicates {ε : Type} (error : String → ε) : Fields → Fields → Except ε Json
  | seen, [] => .ok (.obj seen.reverse)
  | seen, (k, v) :: pairs =>
    if (seen.lookup k).isSome then .error (error k) else noDuplicates error ((k, v) :: seen) pairs

/-- The reading of a constant without `parse_constant`. -/
def Constant.float : Constant → Json
  | .nan => .float .nan
  | .infinity => .float (.inf false)
  | .negInfinity => .float (.inf true)

namespace Tree
variable {ε : Type} (hooks : Hooks ε)

mutual
/-- The hooks run bottom-up, in text order. -/
def build : Tree → Except ε Json
  | .null => .ok .null
  | .bool b => .ok (.bool b)
  | .int n => .ok (.int n)
  | .float x => .ok (.float x)
  | .constant c => hooks.constant c
  | .str s => .ok (.str s)
  | .list xs => do return .list (← buildList xs)
  | .obj pairs => do hooks.object (← buildPairs pairs)
def buildList : List Tree → Except ε (List Json)
  | [] => .ok []
  | x :: xs => do
    let v ← build x
    return v :: (← buildList xs)
def buildPairs : List (String × Tree) → Except ε Fields
  | [] => .ok []
  | (k, x) :: pairs => do
    let v ← build x
    return (k, v) :: (← buildPairs pairs)
end

mutual
def ofJson : Json → Tree
  | .null => .null
  | .bool b => .bool b
  | .int n => .int n
  | .float x => .float x
  | .str s => .str s
  | .list xs => .list (ofJsonList xs)
  | .obj f => .obj (ofJsonFields f)
def ofJsonList : List Json → List Tree
  | [] => []
  | x :: xs => ofJson x :: ofJsonList xs
def ofJsonFields : List (String × Json) → List (String × Tree)
  | [] => []
  | (k, x) :: f => (k, ofJson x) :: ofJsonFields f
end

mutual
/-- The value a text denotes when its objects repeat no key. -/
def toJson : Tree → Json
  | .null => .null
  | .bool b => .bool b
  | .int n => .int n
  | .float x => .float x
  | .constant c => c.float
  | .str s => .str s
  | .list xs => .list (toJsonList xs)
  | .obj pairs => .obj (toJsonPairs pairs)
def toJsonList : List Tree → List Json
  | [] => []
  | x :: xs => toJson x :: toJsonList xs
def toJsonPairs : List (String × Tree) → Fields
  | [] => []
  | (k, x) :: pairs => (k, toJson x) :: toJsonPairs pairs
end

mutual
/-- No object, at any depth, repeats a key. -/
def distinctKeys : Tree → Bool
  | .list xs => distinctKeysList xs
  | .obj pairs => decide (pairs.map Prod.fst).Nodup && distinctKeysPairs pairs
  | _ => true
def distinctKeysList : List Tree → Bool
  | [] => true
  | x :: xs => distinctKeys x && distinctKeysList xs
def distinctKeysPairs : List (String × Tree) → Bool
  | [] => true
  | (_, x) :: pairs => distinctKeys x && distinctKeysPairs pairs
end

mutual
/-- No NaN or Infinity, at any depth. -/
def constantFree : Tree → Bool
  | .constant _ => false
  | .list xs => constantFreeList xs
  | .obj pairs => constantFreePairs pairs
  | _ => true
def constantFreeList : List Tree → Bool
  | [] => true
  | x :: xs => constantFree x && constantFreeList xs
def constantFreePairs : List (String × Tree) → Bool
  | [] => true
  | (_, x) :: pairs => constantFree x && constantFreePairs pairs
end

end Tree

/-- The hook passes pairs with distinct keys on as a dict. -/
def Hooks.KeepsDistinct {ε : Type} (hooks : Hooks ε) : Prop :=
  ∀ pairs : Fields, (pairs.map Prod.fst).Nodup → hooks.object pairs = .ok (.obj pairs)

theorem noDuplicates_eq_ok {ε : Type} (error : String → ε) (seen pairs : Fields) (v : Json) :
    noDuplicates error seen pairs = .ok v ↔
      .obj (seen.reverse ++ pairs) = v ∧ (pairs.map Prod.fst).Nodup ∧
        ∀ e ∈ pairs, seen.lookup e.1 = none := by
  induction pairs generalizing seen with
  | nil => simp [noDuplicates]
  | cons e pairs ih =>
    obtain ⟨k, x⟩ := e
    rw [noDuplicates, List.forall_mem_cons]
    cases hk : seen.lookup k with
    | some y => simp
    | none =>
      have hstep : (∀ e ∈ pairs, ((k, x) :: seen).lookup e.1 = none) ↔
          k ∉ pairs.map Prod.fst ∧ ∀ e ∈ pairs, seen.lookup e.1 = none := by
        refine ⟨fun h => ⟨fun hmem => ?_, fun d hd => ?_⟩, fun h d hd => ?_⟩
        · obtain ⟨d, hd, hdk⟩ := List.mem_map.mp hmem
          have hd' := h d hd
          simp [hdk] at hd'
        · have hd' := h d hd
          cases hdk : d.1 == k with
          | true => simp [List.lookup_cons, hdk] at hd'
          | false => simpa [List.lookup_cons, hdk] using hd'
        · have hdk : (d.1 == k) = false := by
            simpa using fun he : d.1 = k => h.1 (List.mem_map.mpr ⟨d, hd, he⟩)
          simpa [List.lookup_cons, hdk] using h.2 d hd
      simp only [Option.isSome_none, Bool.false_eq_true, if_false, ih, List.reverse_cons,
        List.append_assoc, List.singleton_append, List.map_cons, List.nodup_cons, hstep, true_and]
      tauto

theorem noDuplicates_nil {ε : Type} (error : String → ε) (pairs : Fields) (v : Json) :
    noDuplicates error [] pairs = .ok v ↔ .obj pairs = v ∧ (pairs.map Prod.fst).Nodup := by
  simp [noDuplicates_eq_ok]

theorem noDuplicates_raises {ε : Type} {p : ε → Prop} {error : String → ε} (h : ∀ k, p (error k))
    (seen pairs : Fields) : RaisesOnly p (noDuplicates error seen pairs) := by
  induction pairs generalizing seen with
  | nil => simp [noDuplicates]
  | cons e pairs ih =>
    simp only [noDuplicates]
    split
    · exact (raisesOnly_error _).mpr (h e.1)
    · exact ih _

namespace Tree
variable {ε : Type}

theorem map_fst_toJsonPairs (pairs : List (String × Tree)) :
    (toJsonPairs pairs).map Prod.fst = pairs.map Prod.fst := by
  induction pairs with
  | nil => rfl
  | cons e pairs ih => simp [toJsonPairs, ih]

/-- The hooks of a strict reader that keeps the constants. -/
def strictHooks (error : String → ε) : Hooks ε := ⟨noDuplicates error [], fun c => .ok c.float⟩

theorem strictHooks_object (error : String → ε) (pairs : Fields) (v : Json) :
    (strictHooks error).object pairs = .ok v ↔ .obj pairs = v ∧ (pairs.map Prod.fst).Nodup :=
  noDuplicates_nil error pairs v

/-- What a reader with strict objects accepts: no repeated key, and no constant
unless it keeps them. -/
theorem build_eq_ok {hooks : Hooks ε} {keeps : Bool}
    (hobject : ∀ pairs v, hooks.object pairs = .ok v ↔ .obj pairs = v ∧ (pairs.map Prod.fst).Nodup)
    (hconstant : ∀ c v, hooks.constant c = .ok v ↔ keeps = true ∧ c.float = v) (t : Tree)
    (v : Json) :
    build hooks t = .ok v ↔ t.distinctKeys = true ∧ (keeps || t.constantFree) = true ∧
      t.toJson = v := by
  refine @Tree.rec
    (fun t => ∀ v, build hooks t = .ok v ↔ t.distinctKeys = true ∧
      (keeps || t.constantFree) = true ∧ t.toJson = v)
    (fun xs => ∀ vs, buildList hooks xs = .ok vs ↔ distinctKeysList xs = true ∧
      (keeps || constantFreeList xs) = true ∧ toJsonList xs = vs)
    (fun ps => ∀ vs, buildPairs hooks ps = .ok vs ↔ distinctKeysPairs ps = true ∧
      (keeps || constantFreePairs ps) = true ∧ toJsonPairs ps = vs)
    (fun e => ∀ v, build hooks e.2 = .ok v ↔ e.2.distinctKeys = true ∧
      (keeps || e.2.constantFree) = true ∧ e.2.toJson = v)
    ?_ ?_ ?_ ?_ ?_ ?_ ?_ ?_ ?_ ?_ ?_ ?_ ?_ t v
  · simp [build, distinctKeys, constantFree, toJson]
  · simp [build, distinctKeys, constantFree, toJson]
  · simp [build, distinctKeys, constantFree, toJson]
  · simp [build, distinctKeys, constantFree, toJson]
  · simp [build, distinctKeys, constantFree, toJson, hconstant]
  · simp [build, distinctKeys, constantFree, toJson]
  · intro xs ih v
    simp [build, distinctKeys, constantFree, toJson, bind_eq_ok, ih, pure, Except.pure, and_assoc]
  · intro pairs ih v
    simp only [build, distinctKeys, constantFree, toJson, bind_eq_ok, ih, hobject,
      Bool.and_eq_true, decide_eq_true_eq]
    refine ⟨fun ⟨a, ⟨hd, hc, ha⟩, hv, hn⟩ => ?_, fun ⟨⟨hn, hd⟩, hc, hv⟩ => ?_⟩
    · rw [← ha, map_fst_toJsonPairs] at hn
      exact ⟨⟨hn, hd⟩, hc, by rw [← hv, ha]⟩
    · exact ⟨_, ⟨hd, hc, rfl⟩, hv, by rwa [map_fst_toJsonPairs]⟩
  · simp [buildList, distinctKeysList, constantFreeList, toJsonList]
  · intro x xs hx hxs vs
    cases keeps <;> simp [buildList, distinctKeysList, constantFreeList, toJsonList, bind_eq_ok, hx,
      hxs, pure, Except.pure, and_assoc, and_left_comm]
  · simp [buildPairs, distinctKeysPairs, constantFreePairs, toJsonPairs]
  · intro e ps he hps vs
    obtain ⟨k, x⟩ := e
    simp only at he
    cases keeps <;> simp [buildPairs, distinctKeysPairs, constantFreePairs, toJsonPairs, bind_eq_ok,
      he, hps, pure, Except.pure, and_assoc, and_left_comm]
  · intro k x hx
    exact hx

/-- The hooks are all that can fail in a build. -/
theorem build_raises {p : ε → Prop} {hooks : Hooks ε}
    (hobject : ∀ pairs, RaisesOnly p (hooks.object pairs))
    (hconstant : ∀ c, RaisesOnly p (hooks.constant c)) (t : Tree) :
    RaisesOnly p (build hooks t) := by
  refine @Tree.rec
    (fun t => RaisesOnly p (build hooks t))
    (fun xs => RaisesOnly p (buildList hooks xs))
    (fun ps => RaisesOnly p (buildPairs hooks ps))
    (fun e => RaisesOnly p (build hooks e.2))
    ?_ ?_ ?_ ?_ ?_ ?_ ?_ ?_ ?_ ?_ ?_ ?_ ?_ t
  · simp [build]
  · simp [build]
  · simp [build]
  · simp [build]
  · intro c
    exact hconstant c
  · simp [build]
  · intro xs ih
    simpa [build] using ih
  · intro pairs ih
    simpa [build, hobject] using ih
  · simp [buildList]
  · intro x xs hx hxs
    simp [buildList, hx, hxs]
  · simp [buildPairs]
  · intro e ps he hps
    simpa [buildPairs, hps] using he
  · intro k x hx
    exact hx

/-- A strict reader accepts exactly the texts without repeated keys. -/
theorem build_strict (error : String → ε) (t : Tree) (v : Json) :
    build (strictHooks error) t = .ok v ↔ t.distinctKeys = true ∧ t.toJson = v := by
  have hconstant : ∀ c w, (strictHooks error).constant c = .ok w ↔ true = true ∧ c.float = w := by
    simp [strictHooks]
  simpa using build_eq_ok (strictHooks_object error) hconstant t v

theorem ofJsonList_eq_map (xs : List Json) : ofJsonList xs = xs.map ofJson := by
  induction xs with
  | nil => rfl
  | cons x xs ih => simp [ofJsonList, ih]

theorem ofJsonFields_eq_map (f : Fields) : ofJsonFields f = f.map fun e => (e.1, ofJson e.2) := by
  induction f with
  | nil => rfl
  | cons e f ih => simp [ofJsonFields, ih]

theorem buildList_map (hooks : Hooks ε) (xs : List Json)
    (h : ∀ x ∈ xs, build hooks (ofJson x) = .ok x) :
    buildList hooks (xs.map ofJson) = .ok xs := by
  induction xs with
  | nil => rfl
  | cons x xs ih =>
    have hx := h x (by simp)
    have hxs := ih fun y hy => h y (by simp [hy])
    simp [buildList, hx, hxs, bind, Except.bind, pure, Except.pure]

theorem buildPairs_map (hooks : Hooks ε) (f : Fields)
    (h : ∀ e ∈ f, build hooks (ofJson e.2) = .ok e.2) :
    buildPairs hooks (f.map fun e => (e.1, ofJson e.2)) = .ok f := by
  induction f with
  | nil => rfl
  | cons e f ih =>
    have he := h e (by simp)
    have hf := ih fun d hd => h d (by simp [hd])
    simp [buildPairs, he, hf, bind, Except.bind, pure, Except.pure]

/-- Reading back what was written gives the value in key order. -/
theorem build_ofJson_norm {hooks : Hooks ε} (hk : hooks.KeepsDistinct) (v : Json) :
    build hooks (ofJson v.norm) = .ok v.norm := by
  induction v using Json.induct with
  | null => rfl
  | bool b => rfl
  | int n => rfl
  | float x => rfl
  | str s => rfl
  | list xs ih =>
    have hxs : buildList hooks ((xs.map Json.norm).map ofJson) = .ok (xs.map Json.norm) := by
      apply buildList_map
      intro y hy
      obtain ⟨x, hx, rfl⟩ := List.mem_map.mp hy
      exact ih x hx
    simp only [Json.norm, Json.normList_eq_map, ofJson, ofJsonList_eq_map, build, hxs, bind,
      Except.bind, pure, Except.pure]
  | obj f ih =>
    have hf : buildPairs hooks ((Dict.sortKeys (Json.normFields f)).map
        fun e => (e.1, ofJson e.2)) = .ok (Dict.sortKeys (Json.normFields f)) := by
      apply buildPairs_map
      intro e he
      have hmem : e ∈ Json.normFields f := Dict.mem_of_mem_sortKeys he
      rw [Json.normFields_eq_map] at hmem
      obtain ⟨d, hd, rfl⟩ := List.mem_map.mp hmem
      exact ih d hd
    have hnd := Dict.nodup_sortKeys (Json.normFields f)
    simp only [Json.norm, ofJson, ofJsonFields_eq_map, build, hf, bind, Except.bind]
    exact hk _ hnd

end Tree

namespace Json

mutual
/-- The value holds no float. -/
def floatFree : Json → Bool
  | .float _ => false
  | .list xs => floatFreeList xs
  | .obj f => floatFreeFields f
  | _ => true
def floatFreeList : List Json → Bool
  | [] => true
  | x :: xs => floatFree x && floatFreeList xs
def floatFreeFields : List (String × Json) → Bool
  | [] => true
  | (_, x) :: f => floatFree x && floatFreeFields f
end

theorem floatFreeList_iff (xs : List Json) :
    floatFreeList xs = true ↔ ∀ x ∈ xs, floatFree x = true := by
  induction xs with
  | nil => simp [floatFreeList]
  | cons x xs ih => simp [floatFreeList, ih]

theorem floatFreeFields_iff (f : Fields) :
    floatFreeFields f = true ↔ ∀ e ∈ f, floatFree e.2 = true := by
  induction f with
  | nil => simp [floatFreeFields]
  | cons e f ih => simp [floatFreeFields, ih]

theorem floatFree_norm {v : Json} (h : v.floatFree = true) : v.norm.floatFree = true := by
  induction v using Json.induct with
  | float x => simp [floatFree] at h
  | list xs ih =>
    rw [floatFree, floatFreeList_iff] at h
    rw [norm, floatFree, floatFreeList_iff, normList_eq_map]
    intro y hy
    obtain ⟨x, hx, rfl⟩ := List.mem_map.mp hy
    exact ih x hx (h x hx)
  | obj f ih =>
    rw [floatFree, floatFreeFields_iff] at h
    rw [norm, floatFree, floatFreeFields_iff]
    intro e he
    have hmem := Dict.mem_of_mem_sortKeys he
    rw [normFields_eq_map] at hmem
    obtain ⟨d, hd, rfl⟩ := List.mem_map.mp hmem
    exact ih d hd (h d hd)
  | _ => rfl

theorem allFiniteList_iff (xs : List Json) :
    allFiniteList xs = true ↔ ∀ x ∈ xs, allFinite x = true := by
  induction xs with
  | nil => simp [allFiniteList]
  | cons x xs ih => simp [allFiniteList, ih]

theorem allFiniteFields_iff (f : Fields) :
    allFiniteFields f = true ↔ ∀ e ∈ f, allFinite e.2 = true := by
  induction f with
  | nil => simp [allFiniteFields]
  | cons e f ih => simp [allFiniteFields, ih]

theorem allFinite_norm {v : Json} (h : v.allFinite = true) : v.norm.allFinite = true := by
  induction v using Json.induct with
  | list xs ih =>
    rw [allFinite, allFiniteList_iff] at h
    rw [Json.norm, allFinite, allFiniteList_iff, normList_eq_map]
    intro y hy
    obtain ⟨x, hx, rfl⟩ := List.mem_map.mp hy
    exact ih x hx (h x hx)
  | obj f ih =>
    rw [allFinite, allFiniteFields_iff] at h
    rw [Json.norm, allFinite, allFiniteFields_iff]
    intro e he
    have hmem := Dict.mem_of_mem_sortKeys he
    rw [normFields_eq_map] at hmem
    obtain ⟨d, hd, rfl⟩ := List.mem_map.mp hmem
    exact ih d hd (h d hd)
  | _ => exact h

theorem allFinite_of_floatFree {v : Json} (h : v.floatFree = true) : v.allFinite = true := by
  induction v using Json.induct with
  | float x => simp [floatFree] at h
  | list xs ih =>
    rw [floatFree, floatFreeList_iff] at h
    rw [allFinite, allFiniteList_iff]
    exact fun x hx => ih x hx (h x hx)
  | obj f ih =>
    rw [floatFree, floatFreeFields_iff] at h
    rw [allFinite, allFiniteFields_iff]
    exact fun e he => ih e he (h e he)
  | _ => rfl

end Json

namespace Json

mutual
/-- Every dict inside the value has distinct keys. -/
def distinct : Json → Bool
  | .list xs => distinctList xs
  | .obj f => decide (f.map Prod.fst).Nodup && distinctFields f
  | _ => true
def distinctList : List Json → Bool
  | [] => true
  | x :: xs => distinct x && distinctList xs
def distinctFields : List (String × Json) → Bool
  | [] => true
  | (_, x) :: f => distinct x && distinctFields f
end

theorem distinct_obj {f : Fields} (h : (Json.obj f).distinct = true) :
    (f.map Prod.fst).Nodup ∧ ∀ k, (get f k).distinct = true := by
  simp only [distinct, Bool.and_eq_true, decide_eq_true_eq] at h
  refine ⟨h.1, fun k => ?_⟩
  obtain ⟨-, h⟩ := h
  induction f with
  | nil => rfl
  | cons e f ih =>
    obtain ⟨j, x⟩ := e
    simp only [distinctFields, Bool.and_eq_true] at h
    by_cases hk : k = j
    · simpa [get, hk] using h.1
    · have hb : (k == j) = false := by simpa using hk
      simpa [get, List.lookup_cons, hb] using ih h.2

end Json

/-- A tree without repeated keys denotes a value with distinct keys. -/
theorem Tree.distinct_toJson {t : Tree} (h : t.distinctKeys = true) : t.toJson.distinct = true := by
  refine @Tree.rec
    (fun t => t.distinctKeys = true → t.toJson.distinct = true)
    (fun xs => distinctKeysList xs = true → Json.distinctList (toJsonList xs) = true)
    (fun ps => distinctKeysPairs ps = true → Json.distinctFields (toJsonPairs ps) = true)
    (fun e => e.2.distinctKeys = true → e.2.toJson.distinct = true)
    ?_ ?_ ?_ ?_ ?_ ?_ ?_ ?_ ?_ ?_ ?_ ?_ ?_ t h
  · exact fun _ => rfl
  · exact fun _ _ => rfl
  · exact fun _ _ => rfl
  · exact fun _ _ => rfl
  · intro c _
    cases c <;> rfl
  · exact fun _ _ => rfl
  · intro xs ih h
    exact ih h
  · intro pairs ih h
    simp only [distinctKeys, Bool.and_eq_true, decide_eq_true_eq] at h
    simp only [toJson, Json.distinct, map_fst_toJsonPairs, Bool.and_eq_true, decide_eq_true_eq]
    exact ⟨h.1, ih h.2⟩
  · exact fun _ => rfl
  · intro x xs hx hxs h
    simp only [distinctKeysList, Bool.and_eq_true] at h
    simp only [toJsonList, Json.distinctList, Bool.and_eq_true]
    exact ⟨hx h.1, hxs h.2⟩
  · exact fun _ => rfl
  · intro e ps he hps h
    obtain ⟨k, x⟩ := e
    simp only [distinctKeysPairs, Bool.and_eq_true] at h
    simp only [toJsonPairs, Json.distinctFields, Bool.and_eq_true]
    exact ⟨he h.1, hps h.2⟩
  · intro k x hx
    exact hx

/-- The scanner of `json.loads`, from bytes to a parse tree. -/
abbrev Scanner := Bytes → Except (Raised Builtin) Tree

/-- The scanner reads back every text written for strings, integers, constants
and their lists and dicts. -/
def RoundTrips (scan : Scanner) : Prop :=
  ∀ v : Json, v.floatFree = true → scan (ascii v.text) = .ok (Tree.ofJson v)

/-- A code point of a Python string, surrogates included. -/
abbrev CodePoint := Fin 0x110000

def isSurrogate (c : CodePoint) : Bool := 0xd800 ≤ c.val && c.val ≤ 0xdfff

def utf8Bytes (c : CodePoint) : Bytes :=
  let n := c.val
  if n < 0x80 then [UInt8.ofNat n]
  else if n < 0x800 then [UInt8.ofNat (0xc0 + n / 64), UInt8.ofNat (0x80 + n % 64)]
  else if n < 0x10000 then
    [UInt8.ofNat (0xe0 + n / 4096), UInt8.ofNat (0x80 + n / 64 % 64), UInt8.ofNat (0x80 + n % 64)]
  else
    [UInt8.ofNat (0xf0 + n / 262144), UInt8.ofNat (0x80 + n / 4096 % 64),
      UInt8.ofNat (0x80 + n / 64 % 64), UInt8.ofNat (0x80 + n % 64)]

/-- `s.encode("utf-8")`. -/
def encodeUtf8 (cs : List CodePoint) : Except (Raised Builtin) Bytes :=
  if cs.any isSurrogate then
    .error ⟨.unicodeEncodeError, [.text "'utf-8' codec can't encode: surrogates not allowed"]⟩
  else .ok (cs.flatMap utf8Bytes)

/-- What is passed as a JSON text. -/
inductive JsonPayload where
  | bytes (b : Bytes)
  | text (cs : List CodePoint)
  | other

abbrev PayloadScanner := JsonPayload → Except (Raised Builtin) Tree

/-- `json.loads` with hooks, on whatever the scanner reads; `lift` embeds the
scanner's exceptions. -/
def loads {ι ε : Type} (scan : ι → Except (Raised Builtin) Tree) (hooks : Hooks ε)
    (lift : Raised Builtin → ε) (b : ι) : Except ε Json :=
  match scan b with
  | .error e => .error (lift e)
  | .ok t => t.build hooks

/-- With hooks that raise as they should, what a reader raises is up to the scanner. -/
theorem loads_raises {ι ε : Type} {p : ε → Prop} {hooks : Hooks ε}
    (hobject : ∀ pairs, RaisesOnly p (hooks.object pairs))
    (hconstant : ∀ c, RaisesOnly p (hooks.constant c))
    (scan : ι → Except (Raised Builtin) Tree) (lift : Raised Builtin → ε) (b : ι) :
    RaisesOnly p (loads scan hooks lift b) ↔ RaisesOnly (fun e => p (lift e)) (scan b) := by
  unfold loads
  cases scan b with
  | error e => simp
  | ok t => simp [Tree.build_raises hobject hconstant t]

theorem dumps_floatFree {v : Json} (hv : v.norm.floatFree = true) :
    v.dumps = .ok (ascii v.norm.text) := by
  rw [Json.dumps, Json.allFinite_of_floatFree hv]
  rfl

/-- Writing and reading a value gives the value back in key order. -/
theorem loads_dumps {scan : Scanner} (h : RoundTrips scan) {ε : Type} {hooks : Hooks ε}
    (hk : hooks.KeepsDistinct) (lift : Raised Builtin → ε) {v : Json}
    (hv : v.norm.floatFree = true) :
    loads scan hooks lift (ascii v.norm.text) = .ok v.norm := by
  simp only [loads, h v.norm hv]
  exact Tree.build_ofJson_norm hk v

end ServerlessX.Py
