import Mathlib
import ServerlessX.Py.Dict

/-! Python values as the `json` module hands them over, with Python equality
(`True == 1 == 1.0`) beside type-strict equality up to dict insertion order.
Strings are sequences of Unicode scalar values. -/
namespace ServerlessX.Py

/-- A binary64 value. Finite values are kept as exact rationals. -/
inductive PyFloat where
  | finite (q : ℚ)
  | negZero
  | inf (neg : Bool)
  | nan
deriving DecidableEq

def PyFloat.toRat? : PyFloat → Option ℚ
  | .finite q => some q
  | .negZero => some 0
  | .inf _ => none
  | .nan => none

def PyFloat.isFinite (x : PyFloat) : Bool := x.toRat?.isSome

/-- `x < 0`. -/
def PyFloat.isNeg : PyFloat → Bool
  | .finite q => decide (q < 0)
  | .inf neg => neg
  | _ => false

/-- `x == n`: Python compares floats and integers by exact value. -/
def PyFloat.eqInt (x : PyFloat) (n : Int) : Bool := x.toRat? == some (n : ℚ)

def PyFloat.eq : PyFloat → PyFloat → Bool
  | .inf a, .inf b => a == b
  | x, y => x.isFinite && x.toRat? == y.toRat?

/-- The nearest binary64 to `num / den`, ties to even, gradual underflow and
overflow to infinity included; `den` is positive. -/
def PyFloat.roundPos (num den : Nat) : PyFloat :=
  -- 2 ^ guess is within a factor of two of the quotient
  let guess : Int := Nat.log2 num - Nat.log2 den
  let small := num * 2 ^ (-guess).toNat < den * 2 ^ guess.toNat
  let top : Int := if small then guess - 1 else guess
  let exponent : Int := max (top - 52) (-1074)
  let n := num * 2 ^ (-exponent).toNat
  let d := den * 2 ^ exponent.toNat
  let mantissa := n / d
  let rest := 2 * (n % d)
  let rounded :=
    if rest < d then mantissa
    else if rest = d ∧ mantissa % 2 = 0 then mantissa
    else mantissa + 1
  let value : ℚ := rounded * (2 : ℚ) ^ exponent
  if (2 : ℚ) ^ 1024 ≤ value then .inf false else .finite value

/-- The binary64 nearest to a rational; a negative value that underflows keeps
its sign. -/
def PyFloat.round (q : ℚ) : PyFloat :=
  if q = 0 then .finite 0
  else if 0 < q then roundPos q.num.toNat q.den
  else match roundPos (-q.num).toNat q.den with
    | .finite r => if r = 0 then .negZero else .finite (-r)
    | .inf _ => .inf true
    | x => x

/-- `float(n)`: the nearest binary64, `none` where Python raises OverflowError. -/
def PyFloat.ofInt (n : Int) : Option PyFloat :=
  match PyFloat.round n with
  | .inf _ => none
  | x => some x

inductive Json where
  | null
  | bool (b : Bool)
  | int (n : Int)
  | float (x : PyFloat)
  | str (s : String)
  | list (xs : List Json)
  | obj (fields : List (String × Json))

/-- The entries of a dict in insertion order; of a repeated key the first
entry counts. -/
abbrev Fields := List (String × Json)

/-- Built-in exception classes that can leave the modelled code. -/
inductive Builtin where
  | valueError
  | typeError
  | indexError
  | keyError
  | overflowError
  | recursionError
  | unicodeDecodeError
  | unicodeEncodeError
  | jsonDecodeError
  | osError
deriving DecidableEq

/-- One piece of an f-string: literal text, `{v}` or `{v!r}`. -/
inductive Piece where
  | text (s : String)
  | shown (v : Json)
  | repr (v : Json)

/-- A raised exception of a program with exception classes `ε`. -/
structure Raised (ε : Type) where
  cls : ε
  message : List Piece

/-- Continue when the condition holds, else raise. -/
def require {ε : Type} (c : Bool) (e : ε) : Except ε Unit :=
  if c then .ok () else .error e

@[simp] theorem require_eq_ok {ε : Type} (c : Bool) (e : ε) (u : Unit) :
    require c e = .ok u ↔ c = true := by
  cases c <;> simp [require]

/-- A check that returns what it checked. -/
theorem checked_eq_ok {ε α : Type} (p : α → Prop) [DecidablePred p] (a b : α) (e : ε) :
    (if p a then Except.ok a else .error e) = .ok b ↔ a = b ∧ p b := by
  by_cases h : p a
  · simp only [h, if_true, Except.ok.injEq]
    constructor
    · rintro rfl
      exact ⟨rfl, h⟩
    · exact And.left
  · simp only [h, if_false, reduceCtorEq, false_iff]
    rintro ⟨rfl, hp⟩
    exact h hp

theorem bind_eq_ok {ε α β : Type} (x : Except ε α) (f : α → Except ε β) (b : β) :
    x >>= f = .ok b ↔ ∃ a, x = .ok a ∧ f a = .ok b := by
  cases x <;> simp [bind, Except.bind]

theorem ok_bind {ε α β : Type} (a : α) (f : α → Except ε β) : Except.ok a >>= f = f a := rfl

theorem error_bind {ε α β : Type} (e : ε) (f : α → Except ε β) :
    Except.error e >>= f = .error e := rfl

/-- Every exception of a computation has a property. -/
def RaisesOnly {ε α : Type} (p : ε → Prop) (x : Except ε α) : Prop := ∀ e, x = .error e → p e

section RaisesOnly
variable {ε α β : Type} {p : ε → Prop}

@[simp] theorem raisesOnly_ok (a : α) : RaisesOnly p (.ok a : Except ε α) := by
  intro e he
  cases he

@[simp] theorem raisesOnly_pure (a : α) : RaisesOnly p (pure a : Except ε α) := raisesOnly_ok a

@[simp] theorem raisesOnly_error (e : ε) : RaisesOnly p (.error e : Except ε α) ↔ p e := by
  simp [RaisesOnly]

@[simp] theorem raisesOnly_bind (x : Except ε α) (f : α → Except ε β) :
    RaisesOnly p (x >>= f) ↔ RaisesOnly p x ∧ ∀ a, x = .ok a → RaisesOnly p (f a) := by
  cases x <;> simp [RaisesOnly, bind, Except.bind]

@[simp] theorem raisesOnly_map (f : α → β) (x : Except ε α) :
    RaisesOnly p (f <$> x) ↔ RaisesOnly p x := by
  cases x <;> simp [RaisesOnly, Functor.map, Except.map]

theorem raisesOnly_require {e : ε} (h : p e) (c : Bool) : RaisesOnly p (require c e) := by
  cases c <;> simp [require, h]

end RaisesOnly

theorem ok_of_isOk {ε α : Type} {x : Except ε α} (h : x.isOk = true) : ∃ a, x = .ok a := by
  cases x with
  | error e => cases h
  | ok a => exact ⟨a, rfl⟩

theorem exists_of_forall₂ {α β : Type} {r : α → β → Prop} {xs : List α} {ys : List β}
    (h : List.Forall₂ r xs ys) {a : α} (ha : a ∈ xs) : ∃ b ∈ ys, r a b := by
  induction h with
  | nil => simp at ha
  | cons hxy hrest ih =>
    obtain rfl | ha := List.mem_cons.mp ha
    · exact ⟨_, List.mem_cons_self, hxy⟩
    · obtain ⟨b, hb, hr⟩ := ih ha
      exact ⟨b, List.mem_cons_of_mem _ hb, hr⟩

/-- A list comprehension whose element may raise. -/
theorem mapM_eq_ok {ε α β : Type} (f : α → Except ε β) (xs : List α) (ys : List β) :
    xs.mapM f = .ok ys ↔ List.Forall₂ (fun x y => f x = .ok y) xs ys := by
  induction xs generalizing ys with
  | nil => cases ys <;> simp [pure, Except.pure]
  | cons x xs ih =>
    simp only [List.mapM_cons, bind_eq_ok, ih, pure, Except.pure, Except.ok.injEq]
    cases ys with
    | nil => simp
    | cons y ys =>
      rw [List.forall₂_cons]
      refine ⟨fun ⟨a, ha, bs, hbs, h⟩ => ?_, fun ⟨hy, hys⟩ => ⟨y, hy, ys, hys, rfl⟩⟩
      simp only [List.cons.injEq] at h
      rw [← h.1, ← h.2]
      exact ⟨ha, hbs⟩

/-- Elements that a call cannot tell apart give the same comprehension. -/
theorem mapM_congr_forall₂ {ε α β : Type} {f : α → Except ε β} {xs ys : List α}
    (h : List.Forall₂ (fun x y => f x = f y) xs ys) : xs.mapM f = ys.mapM f := by
  induction h with
  | nil => rfl
  | cons hxy _ ih => rw [List.mapM_cons, List.mapM_cons, hxy, ih]

/-- A loop that only checks. -/
theorem forM_eq_ok {ε α : Type} (f : α → Except ε Unit) (xs : List α) (u : Unit) :
    forM xs f = .ok u ↔ ∀ x ∈ xs, f x = .ok () := by
  induction xs with
  | nil => simp [pure, Except.pure]
  | cons x xs ih =>
    rw [List.forM_cons, bind_eq_ok, List.forall_mem_cons, ← ih]
    exact ⟨fun ⟨_, h⟩ => h, fun h => ⟨(), h⟩⟩

namespace Json

/-- `isinstance(v, int) and not isinstance(v, bool)`. -/
def isInt : Json → Bool
  | .int _ => true
  | _ => false

def isStr : Json → Bool
  | .str _ => true
  | _ => false

/-- The integer a value of type `int` or `bool` stands for. -/
def asInt : Json → Option Int
  | .int n => some n
  | .bool b => some (if b then 1 else 0)
  | _ => none

/-- `type(a) is type(b)`. -/
def sameType : Json → Json → Bool
  | .null, .null => true
  | .bool _, .bool _ => true
  | .int _, .int _ => true
  | .float _, .float _ => true
  | .str _, .str _ => true
  | .list _, .list _ => true
  | .obj _, .obj _ => true
  | _, _ => false

def numEq (a b : Json) : Bool :=
  match a.asInt, b.asInt, a, b with
  | some m, some n, _, _ => m == n
  | some m, _, _, .float y => y.eqInt m
  | _, some n, .float x, _ => x.eqInt n
  | _, _, .float x, .float y => x.eq y
  | _, _, _, _ => false

mutual
/-- `a == b`. -/
def pyEq : Json → Json → Bool
  | .null, b => sameType .null b
  | .str s, b => match b with
    | .str t => s == t
    | _ => false
  | .list xs, b => match b with
    | .list ys => pyEqList xs ys
    | _ => false
  | .obj f, b => match b with
    | .obj g => f.length == g.length && pyEqFields f g
    | _ => false
  | .bool x, b => numEq (.bool x) b
  | .int m, b => numEq (.int m) b
  | .float x, b => numEq (.float x) b
def pyEqList : List Json → List Json → Bool
  | [], ys => ys.isEmpty
  | x :: xs, ys => match ys with
    | y :: ys => pyEq x y && pyEqList xs ys
    | [] => false
def pyEqFields : List (String × Json) → Fields → Bool
  | [], _ => true
  | (k, x) :: f, g => (match g.lookup k with
    | some y => pyEq x y
    | none => false) && pyEqFields f g
end

mutual
/-- The value with every dict in key order. -/
def norm : Json → Json
  | .null => .null
  | .bool b => .bool b
  | .int n => .int n
  | .float x => .float x
  | .str s => .str s
  | .list xs => .list (normList xs)
  | .obj f => .obj (Dict.sortKeys (normFields f))
def normList : List Json → List Json
  | [] => []
  | x :: xs => norm x :: normList xs
def normFields : List (String × Json) → Fields
  | [] => []
  | (k, x) :: f => (k, norm x) :: normFields f
end

/-- Type-strict equality; the insertion order of dict keys is not looked at. -/
def Same (a b : Json) : Prop := a.norm = b.norm

/-- `d[k]`. Callers compare the key set first, so the key is present. -/
def get (f : Fields) (k : String) : Json := (f.lookup k).getD .null

/-- `set(d) == keys`. -/
def hasKeys (f : Fields) (keys : List String) : Bool :=
  f.all (fun e => keys.contains e.1) && keys.all (fun k => (f.lookup k).isSome)

/-- Induction over a value through the lists and dicts inside it. -/
@[elab_as_elim]
theorem induct {motive : Json → Prop} (null : motive .null) (bool : ∀ b, motive (.bool b))
    (int : ∀ n, motive (.int n)) (float : ∀ x, motive (.float x)) (str : ∀ s, motive (.str s))
    (list : ∀ xs, (∀ x ∈ xs, motive x) → motive (.list xs))
    (obj : ∀ f : Fields, (∀ e ∈ f, motive e.2) → motive (.obj f)) (v : Json) : motive v := by
  refine @Json.rec motive (fun xs => ∀ x ∈ xs, motive x) (fun f => ∀ e ∈ f, motive e.2)
    (fun e => motive e.2) null bool int float str list obj ?_ ?_ ?_ ?_ ?_ v
  · simp
  · intro x xs hx hxs y hy
    obtain rfl | hy := List.mem_cons.mp hy
    · exact hx
    · exact hxs y hy
  · simp
  · intro e f he hf y hy
    obtain rfl | hy := List.mem_cons.mp hy
    · exact he
    · exact hf y hy
  · intro k x hx
    exact hx

theorem normList_eq_map (xs : List Json) : normList xs = xs.map norm := by
  induction xs with
  | nil => rfl
  | cons x xs ih => simp [normList, ih]

theorem normFields_eq_map (f : Fields) : normFields f = f.map fun e => (e.1, norm e.2) := by
  induction f with
  | nil => rfl
  | cons e f ih => simp [normFields, ih]

theorem lookup_normFields (f : Fields) (k : String) :
    (normFields f).lookup k = (f.lookup k).map norm := by
  rw [normFields_eq_map, Dict.lookup_map]

theorem mem_of_lookup {f : Fields} {k : String} {v : Json} (h : f.lookup k = some v) :
    (k, v) ∈ f := by
  induction f with
  | nil => simp at h
  | cons e f ih =>
    obtain ⟨j, w⟩ := e
    by_cases hk : k = j
    · subst hk
      simp at h
      simp [h]
    · have hb : (k == j) = false := by simpa using hk
      simp only [List.lookup_cons, hb] at h
      exact List.mem_cons_of_mem _ (ih h)

theorem norm_norm (v : Json) : v.norm.norm = v.norm := by
  induction v using Json.induct with
  | null => rfl
  | bool b => rfl
  | int n => rfl
  | float x => rfl
  | str s => rfl
  | list xs ih =>
    simp only [norm, normList_eq_map, List.map_map, Json.list.injEq]
    exact List.map_congr_left fun x hx => ih x hx
  | obj f ih =>
    simp only [norm, Json.obj.injEq]
    apply Dict.sortKeys_ext
    intro k
    rw [lookup_normFields, Dict.lookup_sortKeys, lookup_normFields]
    cases h : f.lookup k with
    | none => rfl
    | some x => simp [ih _ (mem_of_lookup h)]

theorem same_norm (v : Json) : Same v.norm v := norm_norm v

/-- Two dicts are the same when each key is bound to the same value. -/
theorem same_obj_iff (f g : Fields) :
    Same (.obj f) (.obj g) ↔ ∀ k, (f.lookup k).map norm = (g.lookup k).map norm := by
  constructor
  · intro h k
    simp only [Same, norm, Json.obj.injEq] at h
    rw [← lookup_normFields, ← lookup_normFields, ← Dict.lookup_sortKeys (normFields f), h,
      Dict.lookup_sortKeys]
  · intro h
    simp only [Same, norm, Json.obj.injEq]
    apply Dict.sortKeys_ext
    intro k
    rw [lookup_normFields, lookup_normFields, h k]

theorem isEmpty_of_same {f g : Fields} (h : Same (.obj f) (.obj g)) : f.isEmpty = g.isEmpty := by
  have hlook := (same_obj_iff f g).mp h
  cases f with
  | nil =>
    cases g with
    | nil => rfl
    | cons e g =>
      have he := hlook e.1
      simp at he
  | cons d f =>
    cases g with
    | nil =>
      have hd := hlook d.1
      simp at hd
    | cons e g => rfl

@[simp] theorem norm_eq_null (v : Json) : v.norm = .null ↔ v = .null := by
  cases v <;> simp [norm]

@[simp] theorem norm_eq_int (v : Json) (n : Int) : v.norm = .int n ↔ v = .int n := by
  cases v <;> simp [norm]

@[simp] theorem norm_eq_str (v : Json) (s : String) : v.norm = .str s ↔ v = .str s := by
  cases v <;> simp [norm]

theorem same_obj_left {v : Json} {g : Fields} (h : Same v (.obj g)) : ∃ f, v = .obj f := by
  cases v <;> simp [Same, norm] at h ⊢

@[simp] theorem pyEq_str (v : Json) (s : String) : pyEq v (.str s) = true ↔ v = .str s := by
  cases v <;> simp [pyEq, sameType, numEq, asInt]

@[simp] theorem pyEq_null (v : Json) : pyEq v .null = true ↔ v = .null := by
  cases v <;> simp [pyEq, sameType, numEq, asInt]

/-- Equality with an integer, once the type is checked too, is exact. -/
theorem isInt_and_pyEq (v : Json) (n : Int) :
    v.isInt = true ∧ pyEq v (.int n) = true ↔ v = .int n := by
  cases v <;> simp [isInt, pyEq, numEq, asInt]

theorem hasKeys_iff (f : Fields) (keys : List String) :
    hasKeys f keys = true ↔ ∀ k, (f.lookup k).isSome = true ↔ k ∈ keys := by
  simp only [hasKeys, Bool.and_eq_true, List.all_eq_true, List.contains_iff_mem]
  constructor
  · rintro ⟨hsub, hall⟩ k
    refine ⟨fun h => ?_, hall k⟩
    obtain ⟨v, hv⟩ := Option.isSome_iff_exists.mp h
    exact hsub _ (mem_of_lookup hv)
  · intro h
    refine ⟨fun e he => ?_, fun k hk => (h k).mpr hk⟩
    rw [← h e.1]
    simp only [List.lookup_isSome_iff]
    exact ⟨e, he, by simp⟩

/-- A key of the checked key set is bound to what `d[k]` reads. -/
theorem lookup_of_hasKeys {f : Fields} {keys : List String} (h : hasKeys f keys = true)
    {k : String} (hk : k ∈ keys) : f.lookup k = some (get f k) := by
  obtain ⟨v, hv⟩ := Option.isSome_iff_exists.mp (((hasKeys_iff f keys).mp h k).mpr hk)
  simp [get, hv]

theorem lookup_eq_none_of_hasKeys {f : Fields} {keys : List String} (h : hasKeys f keys = true)
    {k : String} (hk : k ∉ keys) : f.lookup k = none := by
  rw [← (hasKeys_iff f keys).mp h k] at hk
  exact Option.not_isSome_iff_eq_none.mp hk

/-- What is read from a dict after an update. -/
theorem get_update (f : Fields) {entries : Fields} (h : (entries.map Prod.fst).Nodup)
    (k : String) :
    get (Dict.update f entries) k = ((entries.lookup k).or (f.lookup k)).getD .null := by
  rw [get, Dict.lookup_update f h]

/-- An update of known keys keeps the key set. -/
theorem hasKeys_update {f entries : Fields} {keys : List String} (hf : hasKeys f keys = true)
    (h : (entries.map Prod.fst).Nodup) (hsub : ∀ e ∈ entries, e.1 ∈ keys) :
    hasKeys (Dict.update f entries) keys = true := by
  rw [hasKeys_iff] at hf ⊢
  intro k
  rw [Dict.lookup_update f h, Option.isSome_or, Bool.or_eq_true, hf k]
  refine ⟨fun hk => ?_, Or.inr⟩
  obtain hk | hk := hk
  · obtain ⟨v, hv⟩ := Option.isSome_iff_exists.mp hk
    exact hsub _ (mem_of_lookup hv)
  · exact hk

/-- A dict is the same as a dict display when it has the display's keys and
the same value under each. -/
theorem same_obj_iff_fields (f g : Fields) (hg : (g.map Prod.fst).Nodup) :
    Same (.obj f) (.obj g) ↔
      hasKeys f (g.map Prod.fst) = true ∧ ∀ e ∈ g, Same (get f e.1) e.2 := by
  have hlook : ∀ e ∈ g, g.lookup e.1 = some e.2 := fun e he =>
    (Dict.lookup_eq_some_iff g hg e.1 e.2).mpr he
  rw [same_obj_iff, hasKeys_iff]
  constructor
  · intro h
    refine ⟨fun k => ?_, fun e he => ?_⟩
    · have hk := congrArg Option.isSome (h k)
      simp only [Option.isSome_map] at hk
      rw [hk, List.lookup_isSome_iff, List.mem_map]
      simp only [beq_iff_eq, @eq_comm _ k]
    · have he' := h e.1
      rw [hlook e he] at he'
      cases hf : f.lookup e.1 with
      | none => simp [hf] at he'
      | some x => simpa [hf, get, Same] using he'
  · rintro ⟨hk, hv⟩ k
    by_cases hm : k ∈ g.map Prod.fst
    · obtain ⟨e, he, rfl⟩ := List.mem_map.mp hm
      rw [lookup_of_hasKeys ((hasKeys_iff _ _).mpr hk) hm, hlook e he]
      simpa [Same] using hv e he
    · rw [lookup_eq_none_of_hasKeys ((hasKeys_iff _ _).mpr hk) hm]
      have hn : g.lookup k = none := by
        rw [List.lookup_eq_none_iff]
        intro e he
        refine bne_iff_ne.mpr fun hke => ?_
        exact hm (List.mem_map.mpr ⟨e, he, hke.symm⟩)
      rw [hn]

@[simp] theorem same_null (v : Json) : Same v .null ↔ v = .null := by simp [Same, norm]

@[simp] theorem same_int (v : Json) (n : Int) : Same v (.int n) ↔ v = .int n := by
  simp [Same, norm]

@[simp] theorem same_str (v : Json) (s : String) : Same v (.str s) ↔ v = .str s := by
  simp [Same, norm]

theorem same_list (v : Json) (ys : List Json) :
    Same v (.list ys) ↔ ∃ xs, v = .list xs ∧ List.Forall₂ Same xs ys := by
  have hlist : ∀ xs : List Json, xs.map norm = ys.map norm ↔ List.Forall₂ Same xs ys := by
    intro xs
    rw [← List.forall₂_eq_eq_eq, List.forall₂_map_left_iff, List.forall₂_map_right_iff]
    rfl
  cases v <;> simp [Same, norm, normList_eq_map, hlist]

theorem pyEqFields_iff (f g : Fields) :
    pyEqFields f g = true ↔ ∀ e ∈ f, ∃ y, g.lookup e.1 = some y ∧ pyEq e.2 y = true := by
  induction f with
  | nil => simp [pyEqFields]
  | cons e f ih =>
    obtain ⟨k, x⟩ := e
    simp only [pyEqFields, Bool.and_eq_true, ih, List.forall_mem_cons]
    cases g.lookup k <;> simp

theorem mem_keys_of_hasKeys {f : Fields} {keys : List String} (h : hasKeys f keys = true)
    (k : String) : k ∈ f.map Prod.fst ↔ k ∈ keys := by
  rw [← (hasKeys_iff f _).mp h k, List.lookup_isSome_iff, List.mem_map]
  simp only [beq_iff_eq, @eq_comm _ k]

theorem length_of_hasKeys {f : Fields} {keys : List String} (hf : (f.map Prod.fst).Nodup)
    (hkeys : keys.Nodup) (h : hasKeys f keys = true) : f.length = keys.length := by
  have hperm := (List.perm_ext_iff_of_nodup hf hkeys).mpr (mem_keys_of_hasKeys h)
  simpa using hperm.length_eq

/-- Equality with a dict display whose key set was checked before. -/
theorem pyEq_obj_iff {f g : Fields} (hf : (f.map Prod.fst).Nodup) (hg : (g.map Prod.fst).Nodup)
    (hk : hasKeys f (g.map Prod.fst) = true) :
    pyEq (.obj f) (.obj g) = true ↔ ∀ e ∈ g, pyEq (get f e.1) e.2 = true := by
  have hmem := mem_keys_of_hasKeys hk
  have hlen : f.length = g.length := by simpa using length_of_hasKeys hf hg hk
  simp only [pyEq, hlen, beq_self_eq_true, Bool.true_and, pyEqFields_iff]
  constructor
  · intro h e he
    have hlook := lookup_of_hasKeys hk (List.mem_map.mpr ⟨e, he, rfl⟩)
    obtain ⟨y, hy, heq⟩ := h _ (mem_of_lookup hlook)
    rw [(Dict.lookup_eq_some_iff g hg e.1 e.2).mpr he] at hy
    cases hy
    exact heq
  · intro h e he
    obtain ⟨d, hd, hde⟩ := List.mem_map.mp ((hmem e.1).mp (List.mem_map.mpr ⟨e, he, rfl⟩))
    refine ⟨d.2, ?_, ?_⟩
    · rw [← hde]
      exact (Dict.lookup_eq_some_iff g hg d.1 d.2).mpr hd
    · have hget : get f d.1 = e.2 := by
        rw [get, hde, (Dict.lookup_eq_some_iff f hf e.1 e.2).mpr he]
        rfl
      rw [← hget]
      exact h d hd

theorem pyEqList_strs (xs : List Json) (ss : List String) :
    pyEqList xs (ss.map .str) = true ↔ xs = ss.map .str := by
  induction xs generalizing ss with
  | nil => cases ss <;> simp [pyEqList]
  | cons x xs ih => cases ss <;> simp [pyEqList, ih]

@[simp] theorem same_bool (v : Json) (b : Bool) : Same v (.bool b) ↔ v = .bool b := by
  cases v <;> simp [Same, norm]

/-- The same dicts are read the same under every key. -/
theorem get_same {f g : Fields} (h : Same (.obj f) (.obj g)) (k : String) :
    Same (get f k) (get g k) := by
  have hk := (same_obj_iff f g).mp h k
  cases hf : f.lookup k with
  | none =>
    have hg : g.lookup k = none := by simpa [hf] using hk.symm
    simp [get, hf, hg, Same]
  | some x =>
    cases hg : g.lookup k with
    | none => simp [hf, hg] at hk
    | some y => simpa [get, hf, hg, Same] using hk

theorem hasKeys_same {f g : Fields} (h : Same (.obj f) (.obj g)) {keys : List String}
    (hg : hasKeys g keys = true) : hasKeys f keys = true := by
  rw [hasKeys_iff] at hg ⊢
  intro k
  have hk := congrArg Option.isSome ((same_obj_iff f g).mp h k)
  simp only [Option.isSome_map] at hk
  rw [hk, hg k]

theorem map_norm_eq_ints (xs : List Json) (ns : List Int) :
    xs.map norm = ns.map .int ↔ xs = ns.map .int := by
  induction xs generalizing ns with
  | nil => cases ns <;> simp
  | cons x xs ih => cases ns <;> simp [ih]

@[simp] theorem same_int_list (v : Json) (ns : List Int) :
    Same v (.list (ns.map .int)) ↔ v = .list (ns.map .int) := by
  have hn : (ns.map Json.int).map norm = ns.map .int := (map_norm_eq_ints _ _).mpr rfl
  cases v <;> simp [Same, norm, normList_eq_map, hn, map_norm_eq_ints]

end Json
end ServerlessX.Py
