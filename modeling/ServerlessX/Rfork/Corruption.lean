import ServerlessX.Machine.Fold
import ServerlessX.Rfork.Token

/-! A role token with one byte changed is not a role token. -/
namespace ServerlessX.Rfork
open ServerlessX.Machine ServerlessX.Py

/-- The FNV prime is odd, so multiplying by it can be undone modulo `2 ^ 32`. -/
theorem mul_prime_injective : Function.Injective fun hash : UInt32 => hash * 16777619 := by
  intro a b h
  have hundo : ∀ hash : UInt32, hash * 16777619 * 899433627 = hash := by
    intro hash
    have hone : (16777619 : UInt32) * 899433627 = 1 := by decide
    rw [UInt32.mul_assoc, hone, UInt32.mul_one]
  rw [← hundo a, ← hundo b]
  exact congrArg (· * 899433627) h

theorem fnv1a32_ne_of_differOnce {a b : Bytes} (h : DifferOnce a b) : fnv1a32 a ≠ fnv1a32 b := by
  refine foldl_ne_of_differOnce ?_ ?_ h 2166136261
  · intro x hash hash' heq
    exact (UInt32.xor_left_inj x.toUInt32).mp (mul_prime_injective heq)
  · intro hash x y heq
    exact UInt8.toUInt32_inj.mp ((UInt32.xor_right_inj hash).mp (mul_prime_injective heq))

theorem storeLE_toNat_inj {m n : UInt32} (h : storeLE 4 m.toNat = storeLE 4 n.toNat) : m = n := by
  have hm := m.toNat_lt
  have hn := n.toNat_lt
  apply UInt32.toNat_inj.mp
  rw [← loadLE_storeLE (k := 4) (n := m.toNat) (by omega), h, loadLE_storeLE (by omega)]

/-- Two tokens do not differ in one byte only: the checksum follows the body. -/
theorem not_differOnce_tokenWire (role role' : Role) (handlerId handlerId' machineId machineId' : UInt32)
    (cookie cookie' : Cookie) : ¬ DifferOnce (tokenWire role handlerId machineId cookie)
      (tokenWire role' handlerId' machineId' cookie') := by
  intro h
  have hlen : (tokenBody role handlerId machineId cookie).length =
      (tokenBody role' handlerId' machineId' cookie').length := by
    rw [length_tokenBody, length_tokenBody]
  obtain ⟨hbody, htail⟩ | ⟨hbody, htail⟩ := h.of_append hlen
  · rw [hbody] at htail
    exact htail.ne rfl
  · have hsum := (List.append_inj htail (by simp)).1
    exact fnv1a32_ne_of_differOnce hbody (storeLE_toNat_inj hsum)

theorem tokenWire_of_encode {output token : Bytes} {role : Role} {handlerId : UInt64}
    {machineId : UInt32} {cookie : Option Cookie}
    (h : roleTokenEncode output role handlerId machineId cookie = (.ok, token)) :
    ∃ c, cookie = some c ∧ token = tokenWire role handlerId.toUInt32 machineId c := by
  cases cookie with
  | none => simp [roleTokenEncode] at h
  | some c =>
    refine ⟨c, rfl, ?_⟩
    simp only [roleTokenEncode] at h
    split_ifs at h
    · simp at h
    · simp at h
    · simp at h
    · simp only [Prod.mk.injEq, true_and] at h
      exact h.symm

/-- One changed byte changes the hash, and the decoder does not take a token back in
which one byte is not the encoder's. -/
theorem one_changed_byte_is_detected :
    (∀ a b : Bytes, a.length = b.length → (∃! i : Nat, a[i]? ≠ b[i]?) → fnv1a32 a ≠ fnv1a32 b) ∧
      ∀ (output : Bytes) (role : Role) (handlerId : UInt64) (machineId : UInt32)
        (cookie : Option Cookie) (token changed : Bytes),
        roleTokenEncode output role handlerId machineId cookie = (.ok, token) →
        changed.length = SPD_RFORK_ROLE_TOKEN_SIZE → (∃! i : Nat, token[i]? ≠ changed[i]?) →
        decodeRoleToken changed = .error .errRoleToken := by
  constructor
  · rintro a b hlen ⟨i, hi, hother⟩
    exact fnv1a32_ne_of_differOnce (differOnce_of_index hlen hi hother)
  · rintro output role handlerId machineId cookie token changed henc hlen ⟨i, hi, hother⟩
    obtain ⟨c, rfl, rfl⟩ := tokenWire_of_encode henc
    have hdiffer : DifferOnce (tokenWire role handlerId.toUInt32 machineId c) changed :=
      differOnce_of_index (by rw [hlen, length_tokenWire]) hi hother
    cases hdec : decodeRoleToken changed with
    | error status => rw [decodeRoleToken_error hdec]
    | ok t =>
      obtain ⟨-, hwire, -⟩ := tokenWire_of_decode hdec
      rw [hwire] at hdiffer
      exact absurd hdiffer (not_differOnce_tokenWire _ _ _ _ _ _ _ _)

end ServerlessX.Rfork
