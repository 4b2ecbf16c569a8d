import ServerlessX.Py.Values

/-! Rounding to binary64 keeps the sign and stays near the value, so a duration
read from a clock is a finite float. -/
namespace ServerlessX.Py
namespace PyFloat

theorem scaled_mul_zpow (num den : Nat) (e : Int) :
    ((num * 2 ^ (-e).toNat : Nat) : ℚ) / ((den * 2 ^ e.toNat : Nat) : ℚ) * (2 : ℚ) ^ e =
      num / den := by
  obtain ⟨k, rfl | rfl⟩ := e.eq_nat_or_neg
  · have hpow : (2 : ℚ) ^ k ≠ 0 := by positivity
    have htoNat : (-(k : Int)).toNat = 0 := by omega
    rw [htoNat, Int.toNat_natCast, zpow_natCast]
    push_cast
    field_simp
  · have hpow : (2 : ℚ) ^ k ≠ 0 := by positivity
    have htoNat : (-(k : Int)).toNat = 0 := by omega
    rw [htoNat, neg_neg, Int.toNat_natCast, zpow_neg, zpow_natCast]
    push_cast
    field_simp

/-- The exponent the rounding starts from overshoots by a factor of two at most. -/
theorem two_zpow_log_sub {num den : Nat} (hnum : num ≠ 0) (hden : den ≠ 0) :
    (2 : ℚ) ^ ((num.log2 : Int) - den.log2) ≤ 2 * (num / den) := by
  have hn : (2 : ℚ) ^ num.log2 ≤ num := by exact_mod_cast Nat.log2_self_le hnum
  have hd : (den : ℚ) ≤ 2 ^ (den.log2 + 1) := by exact_mod_cast (Nat.lt_log2_self).le
  have hdpos : (0 : ℚ) < den := by exact_mod_cast Nat.pos_of_ne_zero hden
  have hpow : (0 : ℚ) < 2 ^ den.log2 := by positivity
  rw [zpow_sub₀ two_ne_zero, zpow_natCast, zpow_natCast, ← mul_div_assoc, div_le_div_iff₀ hpow hdpos]
  calc (2 : ℚ) ^ num.log2 * den ≤ num * 2 ^ (den.log2 + 1) := by gcongr
    _ = 2 * num * 2 ^ den.log2 := by ring

/-- A significand is rounded up by one at most. -/
theorem rounded_le {num den : Nat} (e : Int) {m : Nat}
    (hm : m ≤ num * 2 ^ (-e).toNat / (den * 2 ^ e.toNat) + 1) :
    (m : ℚ) * 2 ^ e ≤ num / den + 2 ^ e := by
  have hpow : (0 : ℚ) < 2 ^ e := by positivity
  have hdiv : ((num * 2 ^ (-e).toNat / (den * 2 ^ e.toNat) : Nat) : ℚ) ≤
      ((num * 2 ^ (-e).toNat : Nat) : ℚ) / ((den * 2 ^ e.toNat : Nat) : ℚ) := Nat.cast_div_le
  have hmq : (m : ℚ) ≤
      ((num * 2 ^ (-e).toNat / (den * 2 ^ e.toNat) : Nat) : ℚ) + 1 := by exact_mod_cast hm
  calc (m : ℚ) * 2 ^ e
      ≤ (((num * 2 ^ (-e).toNat : Nat) : ℚ) / ((den * 2 ^ e.toNat : Nat) : ℚ) + 1) * 2 ^ e := by
        gcongr
        exact hmq.trans (by gcongr)
    _ = num / den + 2 ^ e := by rw [add_mul, scaled_mul_zpow, one_mul]

theorem roundPos_finite {num den : Nat} (hnum : num ≠ 0) (hden : den ≠ 0)
    (h : (num : ℚ) / den < 2 ^ 100) :
    ∃ v, roundPos num den = .finite v ∧ 0 ≤ v ∧ v ≤ 3 * (num / den) + 1 := by
  unfold roundPos
  extract_lets guess small top exponent n d mantissa rest rounded value
  have hrounded : rounded ≤ mantissa + 1 := by
    simp only [rounded]
    split
    · omega
    · split <;> omega
  have htop : top ≤ guess := by
    simp only [top]
    split <;> omega
  have hexp : (2 : ℚ) ^ exponent ≤ 2 * (num / den) + 1 := by
    have hq : (0 : ℚ) ≤ num / den := by positivity
    obtain he | he : exponent ≤ guess ∨ exponent ≤ 0 := by
      simp only [exponent]
      omega
    · have hle : (2 : ℚ) ^ exponent ≤ 2 ^ guess := zpow_le_zpow_right₀ one_le_two he
      have := two_zpow_log_sub hnum hden
      linarith
    · have hle : (2 : ℚ) ^ exponent ≤ 2 ^ (0 : Int) := zpow_le_zpow_right₀ one_le_two he
      rw [zpow_zero] at hle
      linarith
  have hvalue : value ≤ 3 * (num / den) + 1 := by
    have := rounded_le exponent hrounded
    simp only [value]
    linarith
  have hsmall : value < 2 ^ 1024 := by
    have hbound : (3 : ℚ) * (num / den) + 1 < 2 ^ 102 := by linarith
    have hpow : (2 : ℚ) ^ 102 ≤ 2 ^ 1024 := pow_le_pow_right₀ one_le_two (by omega)
    exact lt_of_le_of_lt hvalue (lt_of_lt_of_le hbound hpow)
  rw [if_neg (not_le.mpr hsmall)]
  exact ⟨value, rfl, mul_nonneg (Nat.cast_nonneg _) (zpow_nonneg two_pos.le _), hvalue⟩

theorem round_finite {q : ℚ} (h0 : 0 ≤ q) (h : q < 2 ^ 100) :
    ∃ v, round q = .finite v ∧ 0 ≤ v ∧ v ≤ 3 * q + 1 := by
  unfold round
  split
  · next hzero => exact ⟨0, rfl, le_refl 0, by linarith⟩
  · next hne =>
    have hpos : 0 < q := lt_of_le_of_ne h0 (Ne.symm hne)
    have hnum : 0 < q.num := Rat.num_pos.mpr hpos
    have hcast : ((q.num.toNat : Nat) : ℚ) = q.num := by
      exact_mod_cast Int.toNat_of_nonneg hnum.le
    have hq : (q.num.toNat : ℚ) / q.den = q := by rw [hcast, Rat.num_div_den]
    rw [if_pos hpos]
    have hnat : q.num.toNat ≠ 0 := by omega
    have hfin := roundPos_finite hnat q.den_ne_zero (by rw [hq]; exact h)
    rw [hq] at hfin
    exact hfin

theorem ofInt_finite {n : Int} (h0 : 0 ≤ n) (h : n < 2 ^ 64) :
    ∃ v, ofInt n = some (.finite v) ∧ 0 ≤ v ∧ v ≤ 2 ^ 66 := by
  have hq0 : (0 : ℚ) ≤ n := by exact_mod_cast h0
  have hq : (n : ℚ) ≤ 2 ^ 64 - 1 := by
    have : n ≤ 2 ^ 64 - 1 := by omega
    exact_mod_cast this
  obtain ⟨v, hv, hv0, hle⟩ := round_finite hq0 (by linarith)
  exact ⟨v, by simp [ofInt, hv], hv0, by linarith⟩

end PyFloat

/-- `time.perf_counter_ns`: its readings never go back and fit in 63 bits. -/
structure PerfCounter where
  read : Nat → Int
  mono : ∀ i j, i ≤ j → read i ≤ read j
  bounds : ∀ i, 0 ≤ read i ∧ read i < 2 ^ 63

end ServerlessX.Py
