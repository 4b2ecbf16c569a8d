import ServerlessX.Gdr.Wire

/-! The native wire format in both directions: what is encoded decodes to the same values,
and an accepted message is the encoding of what it decodes to. -/
namespace ServerlessX.Gdr
open ServerlessX.Py ServerlessX.Rfork

/-! ### Big-endian numbers in memory -/

theorem loadLE_append (a b : Bytes) : loadLE (a ++ b) = loadLE a + 256 ^ a.length * loadLE b := by
  induction a with
  | nil => simp [loadLE]
  | cons x a ih =>
    rw [List.cons_append, loadLE, loadLE, ih, List.length_cons, pow_succ]
    ring

theorem storeLE_append {j k n m : Nat} (hn : n < 256 ^ j) (hm : m < 256 ^ k) :
    storeLE (j + k) (n + 256 ^ j * m) = storeLE j n ++ storeLE k m := by
  refine (storeLE_of_loadLE (by simp) ?_).symm
  rw [loadLE_append, loadLE_storeLE hn, loadLE_storeLE hm, length_storeLE]

/-- Two words in memory, the lower one first. -/
theorem storeLE_words (low high : UInt32) :
    storeLE 8 (low.toNat + 256 ^ 4 * high.toNat) = storeLE 4 low.toNat ++ storeLE 4 high.toNat := by
  have hlow : low.toNat < 256 ^ 4 := low.toNat_lt
  have hhigh : high.toNat < 256 ^ 4 := high.toNat_lt
  exact storeLE_append hlow hhigh

theorem reverse_storeLE (k n : Nat) : (storeLE k n).reverse = packBE k n := by
  induction k generalizing n with
  | zero => rfl
  | succ k ih =>
    have hbyte : UInt8.ofNat (n % 256) = UInt8.ofNat n := by
      apply UInt8.toNat_inj.mp
      rw [UInt8.toNat_ofNat', UInt8.toNat_ofNat']
      omega
    rw [storeLE, packBE, List.reverse_cons, ih, hbyte]

/-- `htonl` in memory: the bytes of its argument from the highest to the lowest. -/
theorem storeLE_htonl (value : UInt32) : storeLE 4 (htonl value).toNat = packBE 4 value.toNat := by
  have hlt := swapBytes_lt 4 value.toNat
  have hnat : (htonl value).toNat = swapBytes 4 value.toNat := by
    rw [htonl, UInt32.toNat_ofNat']
    omega
  rw [hnat, ← reverse_storeLE]
  exact (storeLE_of_loadLE (by simp) rfl).symm

/-- The two halves, each swapped and put in the other's place. -/
theorem storeLE_htonll (value : UInt64) : storeLE 8 (htonll value).toNat = packBE 8 value.toNat := by
  have hlow : value.toUInt32.toNat = value.toNat % 2 ^ 32 := UInt64.toNat_toUInt32 value
  have hhigh : (value >>> 32).toUInt32.toNat = value.toNat / 2 ^ 32 := by
    have hlt := value.toNat_lt
    rw [UInt64.toNat_toUInt32, UInt64.toNat_shiftRight, shift_32, Nat.shiftRight_eq_div_pow]
    omega
  have hsplit : value.toNat = value.toUInt32.toNat + 256 ^ 4 * (value >>> 32).toUInt32.toNat := by
    omega
  have hnat : (htonll value).toNat =
      (htonl (value >>> 32).toUInt32).toNat + 256 ^ 4 * (htonl value.toUInt32).toNat := by
    rw [htonll, toNat_join]
    omega
  calc storeLE 8 (htonll value).toNat
      = storeLE 4 (htonl (value >>> 32).toUInt32).toNat ++
          storeLE 4 (htonl value.toUInt32).toNat := by
        rw [hnat, storeLE_words]
    _ = (storeLE 4 value.toUInt32.toNat ++
          storeLE 4 (value >>> 32).toUInt32.toNat).reverse := by
        rw [storeLE_htonl, storeLE_htonl, List.reverse_append, reverse_storeLE, reverse_storeLE]
    _ = packBE 8 value.toNat := by
        rw [← storeLE_words, ← hsplit, reverse_storeLE]

theorem htons_of_ntohs {x y : UInt16} (h : ntohs x = y) : x = htons y := by
  rw [← h]
  exact (ntohs_htons x).symm

theorem htonl_of_ntohl {x y : UInt32} (h : ntohl x = y) : x = htonl y := by
  rw [← h]
  exact (ntohl_htonl x).symm

theorem htonll_of_ntohll {x y : UInt64} (h : ntohll x = y) : x = htonll y := by
  rw [← h]
  exact (ntohll_htonll x).symm

/-! ### The image of a structure -/

theorem store_load_16 {b : Bytes} (h : b.length = 2) :
    storeLE 2 (UInt16.ofNat (loadLE b)).toNat = b := by
  have hlt := loadLE_lt b
  rw [h] at hlt
  refine (storeLE_of_loadLE h ?_).symm
  rw [UInt16.toNat_ofNat']
  omega

theorem store_load_64 {b : Bytes} (h : b.length = 8) :
    storeLE 8 (UInt64.ofNat (loadLE b)).toNat = b := by
  have hlt := loadLE_lt b
  rw [h] at hlt
  refine (storeLE_of_loadLE h ?_).symm
  rw [UInt64.toNat_ofNat']
  omega

/-- What was read from memory is what is stored again. -/
theorem image_ofImage {b : Bytes} (h : b.length = wireSize) : (NativeWireInfo.ofImage b h).image = b := by
  have hlen : ∀ {offset n}, offset + n ≤ 56 → (slice b offset n).length = n := by
    intro offset n hle
    exact length_slice (by rw [h]; exact hle)
  have hgid : slice b 40 16 = b.drop 40 := by
    rw [slice, List.take_of_length_le (by simp [h, wireSize])]
  simp only [NativeWireInfo.image, NativeWireInfo.ofImage, store_load_16 (hlen _),
    storeLE_ofNat_loadLE (hlen _), store_load_64 (hlen _), Nat.reduceAdd, Nat.reduceLeDiff]
  rw [hgid, slice_append_drop, slice_append_drop, slice_append_drop, slice_append_drop,
    slice_append_drop, slice_append_drop, slice_append_drop, slice_append_drop, slice_append_drop,
    List.drop_zero]

/-! ### Both directions -/

/-- A message that is accepted is the encoded context of the peer it decodes to. -/
theorem encode_decode {wire : NativeWireInfo} {role : DmabufRole} {bytes : UInt64} {peer : NativePeer}
    (h : decodeNativeWire wire role bytes = .ok peer) :
    ∃ context : NativeContext, context.role = role ∧ context.bytes = bytes ∧ context.peer = peer ∧
      encodeNativeWire context = wire := by
  unfold decodeNativeWire at h
  split at h
  · cases h
  · next hheader =>
    dsimp only at h
    split at h
    · cases h
    · next hfields =>
      cases h
      simp only [not_or, ne_eq, not_not] at hheader hfields
      obtain ⟨hmagic, hversion, hreserved⟩ := hheader
      obtain ⟨hrole, -, -, hbytes, -⟩ := hfields
      refine ⟨⟨role, ntohl wire.qpn, ntohl wire.psn, ntohl wire.rkey, ntohll wire.address, bytes,
        wire.gid⟩, rfl, rfl, ?_, ?_⟩
      · rw [NativeContext.peer, ← hrole, ← hbytes]
      · rw [encodeNativeWire, ← htonl_of_ntohl hmagic, ← htons_of_ntohs hversion, ← hreserved,
          ← htons_of_ntohs hrole, ← htonll_of_ntohll hbytes, ← htonl_of_ntohl rfl,
          ← htonl_of_ntohl rfl, ← htonl_of_ntohl rfl, ← htonll_of_ntohll rfl]

theorem decode_encoded_ok {context : NativeContext} (hqpn : context.qpNum ≠ 0)
    (hrkey : context.rkey ≠ 0) (hbuffer : context.buffer ≠ 0) :
    decodeNativeWire (encodeNativeWire context) context.role context.bytes = .ok context.peer := by
  simp [decodeNativeWire, encodeNativeWire, NativeContext.peer, hqpn, hrkey, hbuffer]

/-- A peer is described by one context. -/
theorem peer_injective {c c' : NativeContext} (h : c.peer = c'.peer) : c = c' := by
  obtain ⟨role, qpNum, psn, rkey, buffer, bytes, gid⟩ := c
  obtain ⟨role', qpNum', psn', rkey', buffer', bytes', gid'⟩ := c'
  simp only [NativeContext.peer, NativePeer.mk.injEq] at h
  obtain ⟨hrole, rfl, rfl, rfl, rfl, rfl, rfl⟩ := h
  have hsame : role = role' := by
    cases role with
    | source =>
      cases role' with
      | source => rfl
      | target => cases hrole
    | target =>
      cases role' with
      | source => cases hrole
      | target => rfl
  rw [hsame]

/-- The native wire format on a little-endian host: a context with its numbers set decodes
to its own values from the bytes it is sent as; an accepted message is, byte for byte, the
encoding of the peer it decodes to, so that a peer has one message; and `htonll` is the
conversion to eight big-endian bytes. -/
theorem native_wire_round_trip :
    (∀ (context : NativeContext) (h : (encodeNativeWire context).image.length = wireSize),
      context.qpNum ≠ 0 → context.rkey ≠ 0 → context.buffer ≠ 0 →
      decodeNativeWire (.ofImage (encodeNativeWire context).image h) context.role context.bytes =
        .ok context.peer) ∧
    (∀ (b : Bytes) (h : b.length = wireSize) (role : DmabufRole) (bytes : UInt64) (peer : NativePeer),
      decodeNativeWire (.ofImage b h) role bytes = .ok peer →
      ∃ context : NativeContext, context.role = role ∧ context.bytes = bytes ∧ context.peer = peer ∧
        (encodeNativeWire context).image = b) ∧
    (∀ (b b' : Bytes) (h : b.length = wireSize) (h' : b'.length = wireSize) (role role' : DmabufRole)
      (bytes bytes' : UInt64) (peer : NativePeer),
      decodeNativeWire (.ofImage b h) role bytes = .ok peer →
      decodeNativeWire (.ofImage b' h') role' bytes' = .ok peer → b = b') ∧
    ∀ value : UInt64, htonll (htonll value) = value ∧
      storeLE 8 (htonll value).toNat = packBE 8 value.toNat := by
  have hback : ∀ (b : Bytes) (h : b.length = wireSize) (role : DmabufRole) (bytes : UInt64)
      (peer : NativePeer), decodeNativeWire (.ofImage b h) role bytes = .ok peer →
      ∃ context : NativeContext, context.role = role ∧ context.bytes = bytes ∧ context.peer = peer ∧
        (encodeNativeWire context).image = b := by
    intro b h role bytes peer hdec
    obtain ⟨context, hrole, hbytes, hpeer, hwire⟩ := encode_decode hdec
    exact ⟨context, hrole, hbytes, hpeer, by rw [hwire, image_ofImage]⟩
  refine ⟨?_, hback, ?_, fun value => ⟨ntohll_htonll value, storeLE_htonll value⟩⟩
  · intro context h hqpn hrkey hbuffer
    rw [ofImage_image]
    exact decode_encoded_ok hqpn hrkey hbuffer
  · intro b b' h h' role role' bytes bytes' peer hdec hdec'
    obtain ⟨context, -, -, hpeer, himage⟩ := hback b h role bytes peer hdec
    obtain ⟨context', -, -, hpeer', himage'⟩ := hback b' h' role' bytes' peer hdec'
    obtain rfl := peer_injective (hpeer.trans hpeer'.symm)
    rw [← himage, himage']

end ServerlessX.Gdr
