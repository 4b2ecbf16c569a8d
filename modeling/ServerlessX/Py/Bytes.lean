import Mathlib

/-! Byte strings: slices of concatenated chunks, `struct` with format `!Q`, and
arrays of numpy dtype `<f2`. -/
namespace ServerlessX.Py

abbrev Bytes := List UInt8

section Slices
variable {α : Type}

/-- `xs[offset : offset + n]`. -/
def slice (xs : List α) (offset n : Nat) : List α := (xs.drop offset).take n

theorem length_flatten_uniform {chunks : List (List α)} {n : Nat}
    (h : ∀ c ∈ chunks, c.length = n) : chunks.flatten.length = chunks.length * n := by
  induction chunks with
  | nil => simp
  | cons c cs ih =>
    have hc := h c (by simp)
    have hcs := ih fun d hd => h d (by simp [hd])
    rw [List.flatten_cons, List.length_append, hcs, hc, List.length_cons, Nat.add_mul, Nat.one_mul,
      Nat.add_comm]

/-- Chunks of equal size are found again at the multiples of that size. -/
theorem slice_flatten {chunks : List (List α)} {n : Nat} (h : ∀ c ∈ chunks, c.length = n)
    {i : Nat} {c : List α} (hi : chunks[i]? = some c) : slice chunks.flatten (i * n) n = c := by
  induction chunks generalizing i with
  | nil => simp at hi
  | cons d ds ih =>
    have hd := h d (by simp)
    cases i with
    | zero =>
      simp only [List.getElem?_cons_zero, Option.some.injEq] at hi
      subst hi
      simp [slice, ← hd]
    | succ i =>
      rw [List.getElem?_cons_succ] at hi
      have hrest := ih (fun c hc => h c (by simp [hc])) hi
      have hoff : (i + 1) * n = d.length + i * n := by
        rw [hd, Nat.add_mul, Nat.one_mul, Nat.add_comm]
      rw [List.flatten_cons, slice, hoff, ← List.drop_drop, List.drop_left]
      exact hrest

end Slices

/-- `n` in big-endian order on `k` bytes. -/
def packBE : Nat → Nat → Bytes
  | 0, _ => []
  | k + 1, n => packBE k (n / 256) ++ [UInt8.ofNat (n % 256)]

/-- `struct.Struct("!Q").pack(n)` for `n` below `2 ^ 64`. -/
def packQ (n : Nat) : Bytes := packBE 8 n

/-- `struct.Struct("!Q").unpack(b)` for `b` of length 8. -/
def unpackQ (b : Bytes) : Nat := b.foldl (fun acc x => 256 * acc + x.toNat) 0

theorem length_packBE (k n : Nat) : (packBE k n).length = k := by
  induction k generalizing n with
  | zero => rfl
  | succ k ih => simp [packBE, ih]

@[simp] theorem length_packQ (n : Nat) : (packQ n).length = 8 := length_packBE 8 n

theorem unpackQ_packBE (k n : Nat) : unpackQ (packBE k n) = n % 256 ^ k := by
  induction k generalizing n with
  | zero => simp [packBE, unpackQ, Nat.mod_one]
  | succ k ih =>
    have hx : (UInt8.ofNat (n % 256)).toNat = n % 256 := by
      rw [UInt8.toNat_ofNat']
      omega
    calc unpackQ (packBE (k + 1) n) = 256 * unpackQ (packBE k (n / 256)) + n % 256 := by
          simp [packBE, unpackQ, hx]
      _ = n % 256 ^ (k + 1) := by
          rw [ih, pow_succ', Nat.mod_mul, Nat.add_comm]

theorem unpackQ_packQ {n : Nat} (h : n < 2 ^ 64) : unpackQ (packQ n) = n := by
  have h8 : n < 256 ^ 8 := by omega
  rw [packQ, unpackQ_packBE, Nat.mod_eq_of_lt h8]

theorem packBE_unpackQ (b : Bytes) : packBE b.length (unpackQ b) = b := by
  induction b using List.reverseRecOn with
  | nil => rfl
  | append_singleton b x ih =>
    have hx := x.toNat_lt
    have hval : unpackQ (b ++ [x]) = 256 * unpackQ b + x.toNat := by simp [unpackQ]
    have hdiv : (256 * unpackQ b + x.toNat) / 256 = unpackQ b := by omega
    have hmod : (256 * unpackQ b + x.toNat) % 256 = x.toNat := by omega
    rw [List.length_append, List.length_singleton, packBE, hval, hdiv, hmod, ih,
      UInt8.ofNat_toNat]

theorem packQ_unpackQ {b : Bytes} (h : b.length = 8) : packQ (unpackQ b) = b := by
  rw [packQ, ← h]
  exact packBE_unpackQ b

/-- A binary16 value, kept as its two bytes in little-endian order. -/
structure Half where
  lo : UInt8
  hi : UInt8
deriving DecidableEq

/-- The values of a buffer of dtype `<f2`. -/
def halves : Bytes → List Half
  | lo :: hi :: rest => ⟨lo, hi⟩ :: halves rest
  | _ => []

/-- `array.tobytes(order="C")` of an array of dtype `<f2`. -/
def toBytes : List Half → Bytes
  | [] => []
  | x :: xs => x.lo :: x.hi :: toBytes xs

theorem toBytes_halves (b : Bytes) (h : b.length % 2 = 0) : toBytes (halves b) = b := by
  induction b using halves.induct with
  | case1 lo hi rest ih =>
    simp only [List.length_cons] at h
    simp [halves, toBytes, ih (by omega)]
  | case2 b hb =>
    cases b with
    | nil => rfl
    | cons x xs =>
      cases xs with
      | nil => simp at h
      | cons y ys => exact absurd rfl (hb x y ys)

theorem length_halves (b : Bytes) : (halves b).length = b.length / 2 := by
  induction b using halves.induct with
  | case1 lo hi rest ih =>
    simp only [halves, List.length_cons, ih]
    omega
  | case2 b hb =>
    cases b with
    | nil => rfl
    | cons x xs =>
      cases xs with
      | nil => simp [halves]
      | cons y ys => exact absurd rfl (hb x y ys)

end ServerlessX.Py
