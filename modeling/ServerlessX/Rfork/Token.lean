import ServerlessX.Py.Bytes

/-! The role token that a launcher installs at the fixed descriptor: a 48-byte
little-endian record with a checksum. Decoding accepts exactly what encoding
makes. -/
namespace ServerlessX.Rfork
open ServerlessX.Py

def SPD_RFORK_ABI_VERSION : UInt32 := 1
def SPD_RFORK_ROLE_TOKEN_SIZE : Nat := 48
def SPD_RFORK_RUN_COOKIE_SIZE : Nat := 16

inductive Role where
  | invalid
  | parent
  | remoteChild
deriving DecidableEq

def Role.code : Role → Nat
  | .invalid => 0
  | .parent => 1
  | .remoteChild => 2

inductive Status where
  | ok
  | errInvalidArgument
  | errHandlerOverflow
  | errCookieInvalid
  | errIoOpsInvalid
  | errRoleRead
  | errRoleShortRead
  | errRoleWrite
  | errRoleShortWrite
  | errRoleToken
  | errRoleMismatch
  | errPid
  | errDeviceOpen
  | errIoctl
  | errDeviceClose
  | errResumeReturned
  | errDeviceOwnership
deriving DecidableEq

/-- `uint8_t run_cookie[SPD_RFORK_RUN_COOKIE_SIZE]` -/
@[ext]
structure Cookie where
  bytes : Bytes
  size : bytes.length = SPD_RFORK_RUN_COOKIE_SIZE
deriving DecidableEq

def cookieIsNonzero (cookie : Cookie) : Bool := cookie.bytes.any (· ≠ 0)

/-- `spd_store_u16_le` and `spd_store_u32_le`: `n` on `k` bytes. -/
def storeLE : Nat → Nat → Bytes
  | 0, _ => []
  | k + 1, n => UInt8.ofNat n :: storeLE k (n / 256)

/-- `spd_load_u16_le` and `spd_load_u32_le` -/
def loadLE : Bytes → Nat
  | [] => 0
  | b :: bs => b.toNat + 256 * loadLE bs

def fnv1a32 (bytes : Bytes) : UInt32 :=
  bytes.foldl (fun hash b => (hash ^^^ b.toUInt32) * 16777619) 2166136261

/-- "SPDRFORK" -/
def magic : Bytes := [83, 80, 68, 82, 70, 79, 82, 75]

/-- The checked part of a token: magic at 0, ABI at 8, size at 10, role at 12,
handler at 16, machine at 20 and cookie at 24. -/
def tokenBody (role : Role) (handlerId machineId : UInt32) (cookie : Cookie) : Bytes :=
  magic ++ (storeLE 2 SPD_RFORK_ABI_VERSION.toNat ++ (storeLE 2 SPD_RFORK_ROLE_TOKEN_SIZE ++
    (storeLE 4 role.code ++ (storeLE 4 handlerId.toNat ++ (storeLE 4 machineId.toNat ++ cookie.bytes)))))

/-- The token: checksum at 40, four reserved bytes at 44. -/
def tokenWire (role : Role) (handlerId machineId : UInt32) (cookie : Cookie) : Bytes :=
  let body := tokenBody role handlerId machineId cookie
  body ++ (storeLE 4 (fnv1a32 body).toNat ++ storeLE 4 0)

def roleIsSupported (role : Role) : Bool := role = .parent || role = .remoteChild

/-- `spd_rfork_role_token_encode`: the status and the bytes of `output`, which are
zeroed once the arguments are accepted. -/
def roleTokenEncode (output : Bytes) (role : Role) (handlerId : UInt64) (machineId : UInt32)
    (cookie : Option Cookie) : Status × Bytes :=
  match cookie with
  | none => (.errInvalidArgument, output)
  | some cookie =>
    if !roleIsSupported role then (.errInvalidArgument, output)
    else if handlerId.toNat > 2 ^ 32 - 1 then
      (.errHandlerOverflow, List.replicate SPD_RFORK_ROLE_TOKEN_SIZE 0)
    else if !cookieIsNonzero cookie then
      (.errCookieInvalid, List.replicate SPD_RFORK_ROLE_TOKEN_SIZE 0)
    else (.ok, tokenWire role handlerId.toUInt32 machineId cookie)

structure DecodedToken where
  role : Role
  handlerId : UInt32
  machineId : UInt32
  runCookie : Cookie
  checksum : UInt32
deriving DecidableEq

def roleOfCode (code : Nat) : Option Role :=
  if code = Role.parent.code then some .parent
  else if code = Role.remoteChild.code then some .remoteChild
  else none

/-- The cookie of a token of full length. -/
def cookieAt (input : Bytes) (h : input.length = SPD_RFORK_ROLE_TOKEN_SIZE) : Cookie :=
  ⟨slice input 24 16, by simp [slice, h, SPD_RFORK_ROLE_TOKEN_SIZE, SPD_RFORK_RUN_COOKIE_SIZE]⟩

def decodeRoleToken (input : Bytes) : Except Status DecodedToken :=
  if h : input.length = SPD_RFORK_ROLE_TOKEN_SIZE then
    if slice input 0 8 ≠ magic ∨ loadLE (slice input 8 2) ≠ SPD_RFORK_ABI_VERSION.toNat ∨
        loadLE (slice input 10 2) ≠ SPD_RFORK_ROLE_TOKEN_SIZE ∨ loadLE (slice input 44 4) ≠ 0 then
      .error .errRoleToken
    else
      let checksum := UInt32.ofNat (loadLE (slice input 40 4))
      if checksum ≠ fnv1a32 (input.take 40) then .error .errRoleToken
      else match roleOfCode (loadLE (slice input 12 4)) with
        | none => .error .errRoleToken
        | some role => .ok ⟨role, UInt32.ofNat (loadLE (slice input 16 4)),
            UInt32.ofNat (loadLE (slice input 20 4)), cookieAt input h, checksum⟩
  -- the buffer is an array of this size
  else .error .errRoleToken

/-! ### Little-endian numbers -/

@[simp] theorem length_storeLE (k n : Nat) : (storeLE k n).length = k := by
  induction k generalizing n with
  | zero => rfl
  | succ k ih => simp [storeLE, ih]

theorem loadLE_storeLE {k n : Nat} (h : n < 256 ^ k) : loadLE (storeLE k n) = n := by
  induction k generalizing n with
  | zero =>
    obtain rfl : n = 0 := by simpa using h
    rfl
  | succ k ih =>
    have hdiv : n / 256 < 256 ^ k := by
      rw [Nat.pow_succ] at h
      exact Nat.div_lt_of_lt_mul (by omega)
    have hbyte : (UInt8.ofNat n).toNat = n % 256 := UInt8.toNat_ofNat'
    rw [storeLE, loadLE, ih hdiv, hbyte]
    omega

theorem storeLE_loadLE (b : Bytes) : storeLE b.length (loadLE b) = b := by
  induction b with
  | nil => rfl
  | cons x b ih =>
    have hx := x.toNat_lt
    have hdiv : (x.toNat + 256 * loadLE b) / 256 = loadLE b := by omega
    have hbyte : UInt8.ofNat (x.toNat + 256 * loadLE b) = x := by
      apply UInt8.toNat_inj.mp
      rw [UInt8.toNat_ofNat']
      omega
    rw [List.length_cons, loadLE, storeLE, hdiv, hbyte, ih]

theorem loadLE_lt (b : Bytes) : loadLE b < 256 ^ b.length := by
  induction b with
  | nil => simp [loadLE]
  | cons x b ih =>
    have hx := x.toNat_lt
    rw [List.length_cons, Nat.pow_succ, loadLE]
    omega

/-- A slice of four bytes is the number read from it. -/
theorem storeLE_ofNat_loadLE {b : Bytes} (h : b.length = 4) :
    storeLE 4 (UInt32.ofNat (loadLE b)).toNat = b := by
  have hlt := loadLE_lt b
  rw [h] at hlt
  have hn : (UInt32.ofNat (loadLE b)).toNat = loadLE b := by
    rw [UInt32.toNat_ofNat']
    omega
  rw [hn, ← h, storeLE_loadLE]

theorem storeLE_of_loadLE {b : Bytes} {k n : Nat} (hk : b.length = k) (h : loadLE b = n) :
    b = storeLE k n := by
  rw [← hk, ← h, storeLE_loadLE]

/-! ### Exactness -/

theorem slice_append_drop (w : Bytes) (offset n : Nat) :
    slice w offset n ++ w.drop (offset + n) = w.drop offset := by
  rw [slice, ← List.drop_drop, List.take_append_drop]

theorem length_slice {w : Bytes} {offset n : Nat} (h : offset + n ≤ w.length) :
    (slice w offset n).length = n := by
  rw [slice, List.length_take, List.length_drop]
  omega

theorem append_eq_iff {a b x y : Bytes} (h : a.length = b.length) :
    a ++ x = b ++ y ↔ a = b ∧ x = y := by
  constructor
  · intro heq
    exact List.append_inj heq h
  · rintro ⟨rfl, rfl⟩
    rfl

theorem take_body {w : Bytes} (hw : w.length = SPD_RFORK_ROLE_TOKEN_SIZE) :
    w.take 40 = slice w 0 8 ++ (slice w 8 2 ++ (slice w 10 2 ++ (slice w 12 4 ++ (slice w 16 4 ++
      (slice w 20 4 ++ slice w 24 16))))) := by
  have hdrop : w = slice w 0 8 ++ (slice w 8 2 ++ (slice w 10 2 ++ (slice w 12 4 ++ (slice w 16 4 ++
      (slice w 20 4 ++ (slice w 24 16 ++ w.drop 40)))))) := by
    rw [slice_append_drop, slice_append_drop, slice_append_drop, slice_append_drop, slice_append_drop,
      slice_append_drop, slice_append_drop, List.drop_zero]
  have hlen : ∀ {offset n}, offset + n ≤ 48 → (slice w offset n).length = n := by
    intro offset n h
    exact length_slice (by rw [hw]; exact h)
  conv_lhs => rw [hdrop]
  simp only [← List.append_assoc]
  apply List.take_left'
  simp [hlen]

theorem length_tokenBody (role : Role) (handlerId machineId : UInt32) (cookie : Cookie) :
    (tokenBody role handlerId machineId cookie).length = 40 := by
  simp [tokenBody, magic, cookie.size, SPD_RFORK_RUN_COOKIE_SIZE]

theorem length_tokenWire (role : Role) (handlerId machineId : UInt32) (cookie : Cookie) :
    (tokenWire role handlerId machineId cookie).length = SPD_RFORK_ROLE_TOKEN_SIZE := by
  simp [tokenWire, length_tokenBody, SPD_RFORK_ROLE_TOKEN_SIZE]

/-- A string of full length is a token when each of its fields is. -/
theorem eq_tokenWire_iff {w : Bytes} (hw : w.length = SPD_RFORK_ROLE_TOKEN_SIZE) (role : Role)
    (handlerId machineId : UInt32) (cookie : Cookie) :
    w = tokenWire role handlerId machineId cookie ↔
      (slice w 0 8 = magic ∧ slice w 8 2 = storeLE 2 SPD_RFORK_ABI_VERSION.toNat ∧
        slice w 10 2 = storeLE 2 SPD_RFORK_ROLE_TOKEN_SIZE ∧ slice w 12 4 = storeLE 4 role.code ∧
        slice w 16 4 = storeLE 4 handlerId.toNat ∧ slice w 20 4 = storeLE 4 machineId.toNat ∧
        slice w 24 16 = cookie.bytes) ∧
      slice w 40 4 = storeLE 4 (fnv1a32 (w.take 40)).toNat ∧ slice w 44 4 = storeLE 4 0 := by
  have hlen : ∀ {offset n}, offset + n ≤ 48 → (slice w offset n).length = n := by
    intro offset n h
    exact length_slice (by rw [hw]; exact h)
  have htail : w.drop 40 = slice w 40 4 ++ slice w 44 4 := by
    have hrest : slice w 44 4 = w.drop 44 := by
      rw [slice, List.take_of_length_le (by simp [hw, SPD_RFORK_ROLE_TOKEN_SIZE])]
    rw [hrest, slice_append_drop]
  have hbody : w.take 40 = tokenBody role handlerId machineId cookie ↔
      slice w 0 8 = magic ∧ slice w 8 2 = storeLE 2 SPD_RFORK_ABI_VERSION.toNat ∧
        slice w 10 2 = storeLE 2 SPD_RFORK_ROLE_TOKEN_SIZE ∧ slice w 12 4 = storeLE 4 role.code ∧
        slice w 16 4 = storeLE 4 handlerId.toNat ∧ slice w 20 4 = storeLE 4 machineId.toNat ∧
        slice w 24 16 = cookie.bytes := by
    rw [take_body hw, tokenBody, append_eq_iff (by simp [hlen, magic]), append_eq_iff (by simp [hlen]),
      append_eq_iff (by simp [hlen]), append_eq_iff (by simp [hlen]), append_eq_iff (by simp [hlen]),
      append_eq_iff (by simp [hlen])]
  have hsplit : w = tokenWire role handlerId machineId cookie ↔
      w.take 40 = tokenBody role handlerId machineId cookie ∧
        w.drop 40 = storeLE 4 (fnv1a32 (tokenBody role handlerId machineId cookie)).toNat ++
          storeLE 4 0 := by
    conv_lhs => lhs; rw [← List.take_append_drop 40 w]
    rw [tokenWire, append_eq_iff]
    simp [hw, length_tokenBody, SPD_RFORK_ROLE_TOKEN_SIZE]
  rw [hsplit, htail, append_eq_iff (by simp [hlen]), ← hbody]
  constructor
  · rintro ⟨hb, hc, hr⟩
    exact ⟨hb, by rw [hb]; exact hc, hr⟩
  · rintro ⟨hb, hc, hr⟩
    exact ⟨hb, by rw [← hb]; exact hc, hr⟩

theorem roleOfCode_eq_some (n : Nat) (role : Role) :
    roleOfCode n = some role ↔ n = role.code ∧ roleIsSupported role = true := by
  by_cases h1 : n = 1
  · cases role <;> simp [roleOfCode, Role.code, roleIsSupported, h1]
  · by_cases h2 : n = 2
    · cases role <;> simp [roleOfCode, Role.code, roleIsSupported, h2]
    · cases role <;> simp [roleOfCode, Role.code, roleIsSupported, h1, h2]

theorem decodeRoleToken_error {w : Bytes} {status : Status} (h : decodeRoleToken w = .error status) :
    status = .errRoleToken := by
  unfold decodeRoleToken at h
  split at h
  · dsimp only at h
    split at h
    · cases h
      rfl
    · split at h
      · cases h
        rfl
      · split at h
        · cases h
          rfl
        · cases h
  · cases h
    rfl

/-- What is decoded was encoded. -/
theorem tokenWire_of_decode {w : Bytes} {t : DecodedToken} (h : decodeRoleToken w = .ok t) :
    roleIsSupported t.role = true ∧ w = tokenWire t.role t.handlerId t.machineId t.runCookie ∧
      t.checksum = fnv1a32 (tokenBody t.role t.handlerId t.machineId t.runCookie) := by
  unfold decodeRoleToken at h
  split at h
  · next hw =>
    have hlen : ∀ {offset n}, offset + n ≤ 48 → (slice w offset n).length = n := by
      intro offset n hle
      exact length_slice (by rw [hw]; exact hle)
    split at h
    · cases h
    · next hfields =>
      simp only [not_or, ne_eq, not_not] at hfields
      obtain ⟨hmagic, habi, hsize, hreserved⟩ := hfields
      dsimp only at h
      split at h
      · cases h
      · next hsum =>
        rw [ne_eq, not_not] at hsum
        split at h
        · cases h
        · next role hrole =>
          cases h
          obtain ⟨hcode, hsupported⟩ := (roleOfCode_eq_some _ _).mp hrole
          have hwire : w = tokenWire role (UInt32.ofNat (loadLE (slice w 16 4)))
              (UInt32.ofNat (loadLE (slice w 20 4))) (cookieAt w hw) := by
            refine (eq_tokenWire_iff hw _ _ _ _).mpr ⟨⟨hmagic, storeLE_of_loadLE (hlen (by omega)) habi,
              storeLE_of_loadLE (hlen (by omega)) hsize, storeLE_of_loadLE (hlen (by omega)) hcode,
              (storeLE_ofNat_loadLE (hlen (by omega))).symm,
              (storeLE_ofNat_loadLE (hlen (by omega))).symm, rfl⟩, ?_,
              storeLE_of_loadLE (hlen (by omega)) hreserved⟩
            rw [← hsum, storeLE_ofNat_loadLE (hlen (by omega))]
          refine ⟨hsupported, hwire, ?_⟩
          simp only
          rw [hsum]
          conv_lhs => rw [hwire]
          exact congrArg fnv1a32 (List.take_left' (length_tokenBody _ _ _ _))
  · cases h

theorem decode_of_tokenWire {w : Bytes} {t : DecodedToken} (hsupported : roleIsSupported t.role = true)
    (hwire : w = tokenWire t.role t.handlerId t.machineId t.runCookie)
    (hsum : t.checksum = fnv1a32 (tokenBody t.role t.handlerId t.machineId t.runCookie)) :
    decodeRoleToken w = .ok t := by
  have hw : w.length = SPD_RFORK_ROLE_TOKEN_SIZE := by rw [hwire, length_tokenWire]
  obtain ⟨⟨hmagic, habi, hsize, hrole, hhandler, hmachine, hcookie⟩, hcheck, hreserved⟩ :=
    (eq_tokenWire_iff hw _ _ _ _).mp hwire
  have hbody : w.take 40 = tokenBody t.role t.handlerId t.machineId t.runCookie := by
    rw [hwire]
    exact List.take_left' (length_tokenBody _ _ _ _)
  have hword : ∀ n : UInt32, UInt32.ofNat (loadLE (storeLE 4 n.toNat)) = n := by
    intro n
    have hn := n.toNat_lt
    rw [loadLE_storeLE (by omega), UInt32.ofNat_toNat]
  have hcode : loadLE (storeLE 4 t.role.code) = t.role.code := by
    apply loadLE_storeLE
    cases t.role <;> decide
  have hfound := (roleOfCode_eq_some _ t.role).mpr ⟨rfl, hsupported⟩
  have hthe : cookieAt w hw = t.runCookie := Cookie.ext hcookie
  have habi' : loadLE (storeLE 2 SPD_RFORK_ABI_VERSION.toNat) = SPD_RFORK_ABI_VERSION.toNat := rfl
  have hsize' : loadLE (storeLE 2 SPD_RFORK_ROLE_TOKEN_SIZE) = SPD_RFORK_ROLE_TOKEN_SIZE := rfl
  have hzero : loadLE (storeLE 4 0) = 0 := rfl
  simp only [decodeRoleToken, hw, dite_true, hmagic, habi, habi', hsize, hsize', hreserved, hzero,
    hcheck, hword, hrole, hcode, hfound, hhandler, hmachine, hthe, hbody, ne_eq, not_true_eq_false,
    or_self, if_false, ← hsum]

end ServerlessX.Rfork
