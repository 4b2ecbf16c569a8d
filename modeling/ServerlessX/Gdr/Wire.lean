import ServerlessX.Rfork.Token

/-! `spd_gdr.cpp`: the 56 bytes in which the two ends of a direct DMA-BUF transfer
describe their queue pair and memory region to each other. -/
namespace ServerlessX.Gdr
open ServerlessX.Py ServerlessX.Rfork

def kNativeWireMagic : UInt32 := 0x53504444
def kNativeDoneMagic : UInt32 := 0x5350444f
def kNativeWireVersion : UInt16 := 1

/-- `enum spd_gdr_dmabuf_role_v1` -/
inductive DmabufRole where
  | source
  | target
deriving DecidableEq

def DmabufRole.code : DmabufRole → UInt16
  | .source => 1
  | .target => 2

/-! ### Byte order

The host is little-endian: the code includes x86 intrinsics. -/

/-- The number whose `k` bytes in memory are those of `n` in reverse. -/
def swapBytes (k n : Nat) : Nat := loadLE (storeLE k n).reverse

def htons (value : UInt16) : UInt16 := UInt16.ofNat (swapBytes 2 value.toNat)
def ntohs (value : UInt16) : UInt16 := htons value
def htonl (value : UInt32) : UInt32 := UInt32.ofNat (swapBytes 4 value.toNat)
def ntohl (value : UInt32) : UInt32 := htonl value

def htonll (value : UInt64) : UInt64 :=
  ((htonl value.toUInt32).toUInt64 <<< 32) ||| (htonl (value >>> 32).toUInt32).toUInt64

def ntohll (value : UInt64) : UInt64 := htonll value

theorem swapBytes_lt (k n : Nat) : swapBytes k n < 256 ^ k := by
  have h := loadLE_lt (storeLE k n).reverse
  rwa [List.length_reverse, length_storeLE] at h

theorem swapBytes_swapBytes {k n : Nat} (h : n < 256 ^ k) : swapBytes k (swapBytes k n) = n := by
  have hback : storeLE k (loadLE (storeLE k n).reverse) = (storeLE k n).reverse := by
    have hstore := storeLE_loadLE (storeLE k n).reverse
    rwa [List.length_reverse, length_storeLE] at hstore
  rw [swapBytes, swapBytes, hback, List.reverse_reverse, loadLE_storeLE h]

@[simp] theorem ntohs_htons (value : UInt16) : ntohs (htons value) = value := by
  have hlt := swapBytes_lt 2 value.toNat
  have hnat : (htons value).toNat = swapBytes 2 value.toNat := by
    rw [htons, UInt16.toNat_ofNat']
    omega
  rw [ntohs, htons, hnat, swapBytes_swapBytes value.toNat_lt]
  exact UInt16.ofNat_toNat

@[simp] theorem ntohl_htonl (value : UInt32) : ntohl (htonl value) = value := by
  have hlt := swapBytes_lt 4 value.toNat
  have hnat : (htonl value).toNat = swapBytes 4 value.toNat := by
    rw [htonl, UInt32.toNat_ofNat']
    omega
  rw [ntohl, htonl, hnat, swapBytes_swapBytes value.toNat_lt]
  exact UInt32.ofNat_toNat

theorem shift_32 : UInt64.toNat 32 % 64 = 32 := rfl

theorem toNat_join (high low : UInt32) :
    ((high.toUInt64 <<< 32) ||| low.toUInt64).toNat = high.toNat * 2 ^ 32 + low.toNat := by
  have hh := high.toNat_lt
  have hl := low.toNat_lt
  have hshift : high.toNat <<< 32 % 2 ^ 64 = high.toNat <<< 32 := by
    rw [Nat.shiftLeft_eq]
    exact Nat.mod_eq_of_lt (by omega)
  rw [UInt64.toNat_or, UInt64.toNat_shiftLeft, UInt32.toNat_toUInt64, UInt32.toNat_toUInt64, shift_32,
    hshift, ← Nat.shiftLeft_add_eq_or_of_lt hl, Nat.shiftLeft_eq]

@[simp] theorem ntohll_htonll (value : UInt64) : ntohll (htonll value) = value := by
  have hlow : ∀ high low : UInt32, ((high.toUInt64 <<< 32) ||| low.toUInt64).toUInt32 = low := by
    intro high low
    apply UInt32.toNat_inj.mp
    rw [UInt64.toNat_toUInt32, toNat_join]
    have := low.toNat_lt
    omega
  have hhigh : ∀ high low : UInt32,
      (((high.toUInt64 <<< 32) ||| low.toUInt64) >>> 32).toUInt32 = high := by
    intro high low
    apply UInt32.toNat_inj.mp
    have h1 := high.toNat_lt
    have h2 := low.toNat_lt
    rw [UInt64.toNat_toUInt32, UInt64.toNat_shiftRight, toNat_join, shift_32,
      Nat.shiftRight_eq_div_pow]
    omega
  have hinv : ∀ w : UInt32, htonl (htonl w) = w := ntohl_htonl
  rw [ntohll, htonll, htonll, hlow, hhigh, hinv, hinv]
  apply UInt64.toNat_inj.mp
  rw [toNat_join, UInt64.toNat_toUInt32, UInt64.toNat_toUInt32, UInt64.toNat_shiftRight, shift_32,
    Nat.shiftRight_eq_div_pow]
  have := value.toNat_lt
  omega

/-! ### The message -/

/-- `ibv_gid`, sixteen raw bytes. -/
@[ext]
structure Gid where
  raw : Bytes
  size : raw.length = 16
deriving DecidableEq

structure NativeWireInfo where
  magic : UInt32
  version : UInt16
  role : UInt16
  qpn : UInt32
  psn : UInt32
  rkey : UInt32
  reserved : UInt32
  address : UInt64
  bytes : UInt64
  gid : Gid
deriving DecidableEq

def wireSize : Nat := 56

structure NativePeer where
  role : UInt16
  qpn : UInt32
  psn : UInt32
  rkey : UInt32
  address : UInt64
  bytes : UInt64
  gid : Gid
deriving DecidableEq

/-- What `encode_native_wire` reads of a context: the role, the number of its queue pair,
the first packet number, the key of its memory region, the buffer, its size and the
gid of the port. -/
structure NativeContext where
  role : DmabufRole
  qpNum : UInt32
  psn : UInt32
  rkey : UInt32
  buffer : UInt64
  bytes : UInt64
  gid : Gid
deriving DecidableEq

def encodeNativeWire (context : NativeContext) : NativeWireInfo where
  magic := htonl kNativeWireMagic
  version := htons kNativeWireVersion
  role := htons context.role.code
  qpn := htonl context.qpNum
  psn := htonl context.psn
  rkey := htonl context.rkey
  reserved := 0
  address := htonll context.buffer
  bytes := htonll context.bytes
  gid := context.gid

def decodeNativeWire (wire : NativeWireInfo) (expectedRole : DmabufRole) (expectedBytes : UInt64) :
    Except String NativePeer :=
  if ntohl wire.magic ≠ kNativeWireMagic ∨ ntohs wire.version ≠ kNativeWireVersion ∨
      wire.reserved ≠ 0 then
    .error "native peer metadata has an invalid header"
  else
    let peer : NativePeer :=
      { role := ntohs wire.role, qpn := ntohl wire.qpn, psn := ntohl wire.psn,
        rkey := ntohl wire.rkey, address := ntohll wire.address, bytes := ntohll wire.bytes,
        gid := wire.gid }
    if peer.role ≠ expectedRole.code ∨ peer.qpn = 0 ∨ peer.rkey = 0 ∨ peer.bytes ≠ expectedBytes ∨
        peer.address = 0 then
      .error "native peer metadata does not describe the expected DMA-BUF"
    else .ok peer

/-- The structure in memory; `sizeof(NativeWireInfo)` leaves no padding. -/
def NativeWireInfo.image (wire : NativeWireInfo) : Bytes :=
  storeLE 4 wire.magic.toNat ++ (storeLE 2 wire.version.toNat ++ (storeLE 2 wire.role.toNat ++
    (storeLE 4 wire.qpn.toNat ++ (storeLE 4 wire.psn.toNat ++ (storeLE 4 wire.rkey.toNat ++
      (storeLE 4 wire.reserved.toNat ++ (storeLE 8 wire.address.toNat ++
        (storeLE 8 wire.bytes.toNat ++ wire.gid.raw))))))))

def NativeWireInfo.ofImage (b : Bytes) (h : b.length = wireSize) : NativeWireInfo where
  magic := UInt32.ofNat (loadLE (slice b 0 4))
  version := UInt16.ofNat (loadLE (slice b 4 2))
  role := UInt16.ofNat (loadLE (slice b 6 2))
  qpn := UInt32.ofNat (loadLE (slice b 8 4))
  psn := UInt32.ofNat (loadLE (slice b 12 4))
  rkey := UInt32.ofNat (loadLE (slice b 16 4))
  reserved := UInt32.ofNat (loadLE (slice b 20 4))
  address := UInt64.ofNat (loadLE (slice b 24 8))
  bytes := UInt64.ofNat (loadLE (slice b 32 8))
  gid := ⟨slice b 40 16, length_slice (by rw [h]; decide)⟩

/-- The done word in memory. -/
def doneImage : Bytes := storeLE 4 (htonl kNativeDoneMagic).toNat

/-- `ntohl(raw_done) == kNativeDoneMagic` -/
def isDone (raw : Bytes) : Bool := ntohl (UInt32.ofNat (loadLE raw)) = kNativeDoneMagic

@[simp] theorem length_image (wire : NativeWireInfo) : wire.image.length = wireSize := by
  simp [NativeWireInfo.image, wire.gid.size, wireSize]

theorem slice_append_left {a b : Bytes} {n : Nat} (h : a.length = n) : slice (a ++ b) 0 n = a := by
  rw [slice, List.drop_zero, ← h, List.take_left]

theorem slice_append_right {a b : Bytes} {offset n : Nat} (h : a.length ≤ offset) :
    slice (a ++ b) offset n = slice b (offset - a.length) n := by
  rw [slice, slice, List.drop_append, List.drop_of_length_le h, List.nil_append]

theorem load_store_16 (value : UInt16) : UInt16.ofNat (loadLE (storeLE 2 value.toNat)) = value := by
  rw [loadLE_storeLE value.toNat_lt]
  exact UInt16.ofNat_toNat

theorem load_store_32 (value : UInt32) : UInt32.ofNat (loadLE (storeLE 4 value.toNat)) = value := by
  rw [loadLE_storeLE value.toNat_lt]
  exact UInt32.ofNat_toNat

theorem load_store_64 (value : UInt64) : UInt64.ofNat (loadLE (storeLE 8 value.toNat)) = value := by
  rw [loadLE_storeLE value.toNat_lt]
  exact UInt64.ofNat_toNat

/-- What is read back from memory is what was stored. -/
theorem ofImage_image (wire : NativeWireInfo) (h : wire.image.length = wireSize) :
    NativeWireInfo.ofImage wire.image h = wire := by
  have hgid : slice wire.gid.raw 0 16 = wire.gid.raw := by
    rw [slice, List.drop_zero, ← wire.gid.size, List.take_length]
  simp only [NativeWireInfo.ofImage, NativeWireInfo.image, slice_append_left, slice_append_right,
    length_storeLE, Nat.reduceLeDiff, Nat.reduceSub, load_store_16, load_store_32, load_store_64, hgid]

/-- The peer that a context describes. -/
def NativeContext.peer (context : NativeContext) : NativePeer where
  role := context.role.code
  qpn := context.qpNum
  psn := context.psn
  rkey := context.rkey
  address := context.buffer
  bytes := context.bytes
  gid := context.gid

/-- An encoded context decodes to itself or is refused; accepted, its size is the one
expected. -/
theorem decode_encode {context : NativeContext} {role : DmabufRole} {bytes : UInt64}
    {peer : NativePeer} (h : decodeNativeWire (encodeNativeWire context) role bytes = .ok peer) :
    peer = context.peer ∧ context.bytes = bytes := by
  simp only [decodeNativeWire, encodeNativeWire, ntohl_htonl, ntohs_htons, ntohll_htonll] at h
  split at h
  · cases h
  · split at h
    · cases h
    · next hfields =>
      cases h
      simp only [not_or, ne_eq, not_not] at hfields
      exact ⟨rfl, hfields.2.2.2.1⟩

end ServerlessX.Gdr
