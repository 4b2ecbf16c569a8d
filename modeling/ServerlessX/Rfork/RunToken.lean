import ServerlessX.Rfork.Specification

/-! The tokens of a run: of all byte strings, the ones that decoding and the role check
accept are those that `spd_rfork_role_token_encode` makes. -/
namespace ServerlessX.Rfork
open ServerlessX.Py

theorem cookieIsNonzero_iff (cookie : Cookie) :
    cookieIsNonzero cookie = true ↔ cookie.bytes ≠ List.replicate SPD_RFORK_RUN_COOKIE_SIZE 0 := by
  have hzero : cookie.bytes = List.replicate SPD_RFORK_RUN_COOKIE_SIZE 0 ↔
      ∀ b ∈ cookie.bytes, b = 0 := by
    rw [List.eq_replicate_iff]
    exact and_iff_right cookie.size
  rw [ne_eq, hzero, cookieIsNonzero]
  simp

theorem roleTokenEncode_ok {role : Role} (hrole : roleIsSupported role = true) {handlerId : UInt64}
    (hsmall : handlerId.toNat ≤ 2 ^ 32 - 1) {cookie : Cookie} (hcookie : cookieIsNonzero cookie = true)
    (output : Bytes) (machineId : UInt32) :
    roleTokenEncode output role handlerId machineId (some cookie) =
      (.ok, tokenWire role handlerId.toUInt32 machineId cookie) := by
  have hfits : ¬ handlerId.toNat > 2 ^ 32 - 1 := not_lt.mpr hsmall
  simp only [roleTokenEncode, hrole, hcookie, hfits, Bool.not_true, Bool.false_eq_true, if_false]

/-- A supported role with a handler too large or without a cookie zeroes the output. -/
theorem roleTokenEncode_refused {role : Role} (hrole : roleIsSupported role = true)
    {handlerId : UInt64} {cookie : Cookie}
    (h : handlerId.toNat > 2 ^ 32 - 1 ∨ cookieIsNonzero cookie = false) (output : Bytes)
    (machineId : UInt32) :
    ∃ status, status ≠ .ok ∧ roleTokenEncode output role handlerId machineId (some cookie) =
      (status, List.replicate SPD_RFORK_ROLE_TOKEN_SIZE 0) := by
  by_cases hbig : handlerId.toNat > 2 ^ 32 - 1
  · exact ⟨.errHandlerOverflow, by decide, by simp only [roleTokenEncode, hrole, hbig]; rfl⟩
  · have hcookie : cookieIsNonzero cookie = false := h.resolve_left hbig
    exact ⟨.errCookieInvalid, by decide, by simp only [roleTokenEncode, hrole, hbig, hcookie]; rfl⟩

/-- What the encoder makes is a token of its arguments. -/
theorem encoded_token {output wire : Bytes} {role : Role} {handlerId : UInt64} {machineId : UInt32}
    {cookie : Cookie} (h : roleTokenEncode output role handlerId machineId (some cookie) = (.ok, wire)) :
    roleIsSupported role = true ∧ handlerId.toNat ≤ 2 ^ 32 - 1 ∧
      wire = tokenWire role handlerId.toUInt32 machineId cookie := by
  unfold roleTokenEncode at h
  dsimp only at h
  split at h
  · cases h
  · next hrole =>
    split at h
    · cases h
    · next hsmall =>
      split at h
      · cases h
      · cases h
        exact ⟨by simpa using hrole, not_lt.mp hsmall, rfl⟩

/-- Decoding returns what was encoded. -/
theorem decode_encoded {output wire : Bytes} {role : Role} {handlerId : UInt64} {machineId : UInt32}
    {cookie : Cookie} (h : roleTokenEncode output role handlerId machineId (some cookie) = (.ok, wire)) :
    wire.length = SPD_RFORK_ROLE_TOKEN_SIZE ∧ ∃ token, decodeRoleToken wire = .ok token ∧
      token.role = role ∧ token.handlerId.toNat = handlerId.toNat ∧ token.machineId = machineId ∧
      token.runCookie = cookie := by
  obtain ⟨hrole, hsmall, rfl⟩ := encoded_token h
  refine ⟨length_tokenWire _ _ _ _, _, decode_of_tokenWire hrole
    (t := ⟨role, handlerId.toUInt32, machineId, cookie,
      fnv1a32 (tokenBody role handlerId.toUInt32 machineId cookie)⟩) ?_ ?_, rfl, ?_, rfl, rfl⟩
  · simp only
  · simp only
  · rw [UInt64.toNat_toUInt32, Nat.mod_eq_of_lt (by omega)]

/-- `spd_decode_role_token` and then `spd_validate_observed_role`. -/
def Observed (context : Context) (wire : Bytes) (requiredRole : Role) (allowParentOrChild : Bool) :
    Prop :=
  ∃ token, decodeRoleToken wire = .ok token ∧
    validateObservedRole context token requiredRole allowParentOrChild = .ok

theorem observed_required {context : Context} {role : Role} (hrole : roleIsSupported role = true)
    (wire : Bytes) : Observed context wire role false ↔ wire = tokenFor context role := by
  have hiff := observed_iff context wire role false
  constructor
  · rintro ⟨token, hdec, hval⟩
    obtain ⟨hp, hwire⟩ := (hiff token.role).mp ⟨token, hdec, hval, rfl⟩
    rw [hwire, hp.2 rfl]
  · intro hwire
    obtain ⟨token, hdec, hval, -⟩ := (hiff role).mpr ⟨⟨hrole, fun _ => rfl⟩, hwire⟩
    exact ⟨token, hdec, hval⟩

theorem observed_either (context : Context) (wire : Bytes) (requiredRole : Role) :
    Observed context wire requiredRole true ↔
      wire = tokenFor context .parent ∨ wire = tokenFor context .remoteChild := by
  have hiff := observed_iff context wire requiredRole true
  have hpass : ∀ role, roleIsSupported role = true → Passes requiredRole true role :=
    fun role h => ⟨h, fun h => by cases h⟩
  constructor
  · rintro ⟨token, hdec, hval⟩
    obtain ⟨hp, hwire⟩ := (hiff token.role).mp ⟨token, hdec, hval, rfl⟩
    obtain hr | hr := (supported_iff token.role).mp hp.1
    · exact .inl (by rw [hwire, hr])
    · exact .inr (by rw [hwire, hr])
  · rintro (hwire | hwire)
    · obtain ⟨token, hdec, hval, -⟩ := (hiff .parent).mpr ⟨hpass .parent rfl, hwire⟩
      exact ⟨token, hdec, hval⟩
    · obtain ⟨token, hdec, hval, -⟩ := (hiff .remoteChild).mpr ⟨hpass .remoteChild rfl, hwire⟩
      exact ⟨token, hdec, hval⟩

/-- Of all strings of the token's size the checks accept the encoded token of the required
role, or of either role, and no other; decoding returns the encoded fields; what the
encoder refuses it leaves zeroed, and zeros are no token. -/
theorem role_token_exact :
    (∀ context : Context, validateContext (some context) = .ok → ∀ wire output : Bytes,
      wire.length = SPD_RFORK_ROLE_TOKEN_SIZE →
      (Observed context wire .parent false ↔
        roleTokenEncode output .parent context.handlerId.toUInt64 context.sourceMachineId
          (some context.runCookie) = (.ok, wire)) ∧
      (Observed context wire .remoteChild false ↔
        roleTokenEncode output .remoteChild context.handlerId.toUInt64 context.targetMachineId
          (some context.runCookie) = (.ok, wire)) ∧
      ∀ requiredRole, Observed context wire requiredRole true ↔
        roleTokenEncode output .parent context.handlerId.toUInt64 context.sourceMachineId
            (some context.runCookie) = (.ok, wire) ∨
          roleTokenEncode output .remoteChild context.handlerId.toUInt64 context.targetMachineId
            (some context.runCookie) = (.ok, wire)) ∧
    (∀ (role : Role) (handlerId : UInt64) (machineId : UInt32) (cookie : Cookie) (output : Bytes),
      roleIsSupported role = true → handlerId.toNat ≤ 2 ^ 32 - 1 →
      cookie.bytes ≠ List.replicate SPD_RFORK_RUN_COOKIE_SIZE 0 →
      ∃ wire token, roleTokenEncode output role handlerId machineId (some cookie) = (.ok, wire) ∧
        wire.length = SPD_RFORK_ROLE_TOKEN_SIZE ∧ decodeRoleToken wire = .ok token ∧
        token.role = role ∧ token.handlerId.toNat = handlerId.toNat ∧
        token.machineId = machineId ∧ token.runCookie = cookie) ∧
    (∀ (role : Role) (handlerId : UInt64) (machineId : UInt32) (cookie : Cookie) (output : Bytes),
      roleIsSupported role = true →
      (handlerId.toNat > 2 ^ 32 - 1 ∨
        cookie.bytes = List.replicate SPD_RFORK_RUN_COOKIE_SIZE 0) →
      ∃ status, status ≠ .ok ∧ roleTokenEncode output role handlerId machineId (some cookie) =
          (status, List.replicate SPD_RFORK_ROLE_TOKEN_SIZE 0) ∧
        decodeRoleToken (List.replicate SPD_RFORK_ROLE_TOKEN_SIZE 0) = .error .errRoleToken) := by
  refine ⟨?_, ?_, ?_⟩
  · intro context hvalid wire output _
    have hparent := @tokenFor_encoded context hvalid .parent rfl output
    have hchild := @tokenFor_encoded context hvalid .remoteChild rfl output
    have hout : ∀ token, ((Status.ok, token) = (Status.ok, wire)) ↔ wire = token := by
      intro token
      rw [Prod.mk.injEq, eq_comm (a := token)]
      exact and_iff_right rfl
    refine ⟨?_, ?_, fun requiredRole => ?_⟩
    · rw [observed_required rfl, ← hout, ← hparent, machineOf]
    · rw [observed_required rfl, ← hout, ← hchild, machineOf]
      simp
    · rw [observed_either, ← hout, ← hout, ← hparent, ← hchild]
      rfl
  · intro role handlerId machineId cookie output hrole hsmall hcookie
    have henc := roleTokenEncode_ok hrole hsmall ((cookieIsNonzero_iff cookie).mpr hcookie) output
      machineId
    obtain ⟨hsize, token, hdec, hfields⟩ := decode_encoded henc
    exact ⟨_, token, henc, hsize, hdec, hfields⟩
  · intro role handlerId machineId cookie output hrole hbad
    have hbad' : handlerId.toNat > 2 ^ 32 - 1 ∨ cookieIsNonzero cookie = false := by
      refine hbad.imp_right fun hzero => ?_
      rw [← Bool.not_eq_true, cookieIsNonzero_iff, not_not]
      exact hzero
    obtain ⟨status, hs, hrun⟩ := roleTokenEncode_refused hrole hbad' output machineId
    exact ⟨status, hs, hrun, by decide +kernel⟩

end ServerlessX.Rfork
