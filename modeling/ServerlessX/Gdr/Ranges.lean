import ServerlessX.Gdr.Handles

/-! The unsigned arithmetic of `validate_pointer`, and the length of the one SGE of a READ. -/
namespace ServerlessX.Gdr
open ServerlessX.Py

/-! ### 64-bit arithmetic with a record of what was computed -/

inductive WordOp where
  | add (a b : UInt64)
  | sub (a b : UInt64)
deriving DecidableEq

/-- The result is that on natural numbers: no wrap and no underflow. -/
def WordOp.Exact : WordOp → Prop
  | .add a b => a.toNat + b.toNat < 2 ^ 64
  | .sub a b => b.toNat ≤ a.toNat

/-- A result with the operations that led to it, in order. -/
structure Counted (α : Type) where
  value : α
  ops : List WordOp

def Counted.done {α : Type} (value : α) : Counted α := ⟨value, []⟩

section
variable {α : Type} (a b : UInt64) (next : UInt64 → Counted α)

def addWord : Counted α := ⟨(next (a + b)).value, .add a b :: (next (a + b)).ops⟩

def subWord : Counted α := ⟨(next (a - b)).value, .sub a b :: (next (a - b)).ops⟩

end

/-! ### The range checks -/

def rangeExceeds : Except String Unit × List HandleEvent :=
  (.error "requested CUDA range exceeds the driver allocation", [])

/-- The VMM branch once both ends of the range were asked for. -/
def oneAllocation (first last : Option UInt64) : Except String Unit × List HandleEvent :=
  let handles := first.toList ++ last.toList
  let events := handles.map .retained ++ handles.map .released
  if first.isSome && last.isSome && first = last then (.ok (), events)
  else (.error "CUDA pointer is neither one legacy nor one VMM allocation", events)

/-- The checks one operation at a time, in C's order of evaluation; `max` is
`std::numeric_limits<uintptr_t>::max()`. -/
def rangeArithmetic (max : UInt64) (cuda : PointerAnswers) (pointer bytes : UInt64) :
    Counted (Except String Unit × List HandleEvent) :=
  subWord bytes 1 fun span =>
  subWord max span fun limit =>
  if pointer > limit then .done (.error "requested CUDA range overflows the address space", [])
  else match cuda.addressRange with
    | some (base, size) =>
      if pointer < base then .done rangeExceeds
      else subWord pointer base fun offset =>
        if offset > size then .done rangeExceeds
        else subWord pointer base fun offset => subWord size offset fun room =>
          if bytes > room then .done rangeExceeds else .done (.ok (), [])
    | none =>
      addWord pointer bytes fun past => subWord past 1 fun lastByte =>
        .done (oneAllocation (cuda.retainFirst pointer) (cuda.retainLast lastByte))

section
variable {max : UInt64} {cuda : PointerAnswers} {pointer bytes base size : UInt64}

theorem rangeArithmetic_past (h : pointer > max - (bytes - 1)) :
    rangeArithmetic max cuda pointer bytes =
      ⟨(.error "requested CUDA range overflows the address space", []),
        [.sub bytes 1, .sub max (bytes - 1)]⟩ := by
  simp only [rangeArithmetic, subWord, if_pos h, Counted.done]

theorem rangeArithmetic_vmm (h : ¬ pointer > max - (bytes - 1)) (hrange : cuda.addressRange = none) :
    rangeArithmetic max cuda pointer bytes =
      ⟨oneAllocation (cuda.retainFirst pointer) (cuda.retainLast (pointer + bytes - 1)),
        [.sub bytes 1, .sub max (bytes - 1), .add pointer bytes, .sub (pointer + bytes) 1]⟩ := by
  simp only [rangeArithmetic, subWord, addWord, if_neg h, hrange, Counted.done]

/-- Below the base, too far behind it, too long, or inside: where C stops, it has computed
that much. -/
theorem rangeArithmetic_legacy (h : ¬ pointer > max - (bytes - 1))
    (hrange : cuda.addressRange = some (base, size)) :
    (rangeArithmetic max cuda pointer bytes).value =
        (if pointer < base ∨ pointer - base > size ∨ bytes > size - (pointer - base) then rangeExceeds
          else (.ok (), [])) ∧
      (rangeArithmetic max cuda pointer bytes).ops = [.sub bytes 1, .sub max (bytes - 1)] ++
        (if pointer < base then []
          else if pointer - base > size then [.sub pointer base]
          else [.sub pointer base, .sub pointer base, .sub size (pointer - base)]) := by
  simp only [rangeArithmetic, subWord, if_neg h, hrange]
  by_cases hlow : pointer < base
  · simp only [hlow, if_true, true_or, Counted.done, List.append_nil, and_self]
  by_cases hfar : pointer - base > size
  · simp only [hlow, hfar, if_true, if_false, true_or, or_true, Counted.done, List.cons_append,
      List.nil_append, and_self]
  by_cases hlong : bytes > size - (pointer - base)
  · simp only [hlow, hfar, hlong, if_true, if_false, or_true, Counted.done, List.cons_append,
      List.nil_append, and_self]
  · simp only [hlow, hfar, hlong, if_false, or_self, Counted.done, List.cons_append,
      List.nil_append, and_self]

theorem rangeArithmetic_value (max : UInt64) (cuda : PointerAnswers) (pointer bytes : UInt64) :
    (rangeArithmetic max cuda pointer bytes).value =
      if pointer > max - (bytes - 1) then
        (.error "requested CUDA range overflows the address space", [])
      else match cuda.addressRange with
        | some (base, size) =>
          if pointer < base ∨ pointer - base > size ∨ bytes > size - (pointer - base) then rangeExceeds
          else (.ok (), [])
        | none =>
          oneAllocation (cuda.retainFirst pointer) (cuda.retainLast (pointer + bytes - 1)) := by
  by_cases h : pointer > max - (bytes - 1)
  · rw [rangeArithmetic_past h, if_pos h]
  · rw [if_neg h]
    cases hrange : cuda.addressRange with
    | none => rw [rangeArithmetic_vmm h hrange]
    | some range => exact (rangeArithmetic_legacy h hrange).1

end

/-- `std::numeric_limits<uintptr_t>::max()` -/
def uintptrMax : UInt64 := 0xffffffffffffffff

theorem toNat_uintptrMax : uintptrMax.toNat = 2 ^ 64 - 1 := rfl

/-- The arithmetic comes to the result of `validate_pointer`'s range checks. -/
theorem checkRange_eq (cuda : PointerAnswers) (pointer bytes : UInt64) :
    checkRange cuda pointer bytes = (rangeArithmetic uintptrMax cuda pointer bytes).value := by
  rw [rangeArithmetic_value]
  rfl

/-- The operations of `validate_pointer`: none before the device checks have passed. -/
def pointerArithmetic (cuda : PointerAnswers) (pointer bytes : UInt64) (gpuId : Int) : List WordOp :=
  match checkDevice cuda pointer bytes gpuId with
  | .error _ => []
  | .ok _ => (rangeArithmetic uintptrMax cuda pointer bytes).ops

/-! ### On natural numbers -/

/-- The range ends with the address space. -/
def EndsAddressSpace (pointer bytes : UInt64) : Prop := pointer.toNat + bytes.toNat = 2 ^ 64

/-- The address of the last byte is computed past the end and back: the sum wraps to zero, and
taking one off it wraps again. -/
def PastEnd (cuda : PointerAnswers) (pointer bytes : UInt64) (op : WordOp) : Prop :=
  cuda.addressRange = none ∧ EndsAddressSpace pointer bytes ∧ (op = .add pointer bytes ∨ op = .sub 0 1)

/-- The driver's allocation holds the range. -/
def InAllocation (pointer bytes base size : UInt64) : Prop :=
  Set.Ico pointer.toNat (pointer.toNat + bytes.toNat) ⊆ Set.Ico base.toNat (base.toNat + size.toNat)

theorem toNat_sub_of_not_lt {a b : UInt64} (h : ¬ a < b) : (a - b).toNat = a.toNat - b.toNat :=
  UInt64.toNat_sub_of_le _ _ (UInt64.not_lt.mp h)

theorem exact_sub_of_not_lt {a b : UInt64} (h : ¬ a < b) : (WordOp.sub a b).Exact :=
  UInt64.le_iff_toNat_le.mp (UInt64.not_lt.mp h)

theorem toNat_add_of_lt {a b : UInt64} (h : a.toNat + b.toNat < 2 ^ 64) :
    (a + b).toNat = a.toNat + b.toNat := by
  rw [UInt64.toNat_add]
  exact Nat.mod_eq_of_lt h

theorem add_eq_zero_of_end {pointer bytes : UInt64} (h : EndsAddressSpace pointer bytes) :
    pointer + bytes = 0 := by
  unfold EndsAddressSpace at h
  apply UInt64.toNat_inj.mp
  rw [UInt64.toNat_add, UInt64.toNat_zero]
  omega

section
variable {max : UInt64} {cuda : PointerAnswers} {pointer bytes base size : UInt64}

theorem one_toNat : (1 : UInt64).toNat = 1 := rfl

theorem toNat_span (h : 1 ≤ bytes.toNat) : (bytes - 1).toNat = bytes.toNat - 1 := by
  have hle : (1 : UInt64) ≤ bytes := UInt64.le_iff_toNat_le.mpr (by rwa [one_toNat])
  rw [UInt64.toNat_sub_of_le _ _ hle, one_toNat]

theorem toNat_limit (hmax : max.toNat = 2 ^ 64 - 1) (span : UInt64) :
    span.toNat ≤ max.toNat ∧ (max - span).toNat = 2 ^ 64 - 1 - span.toNat := by
  have hlt := span.toNat_lt
  have hle : span.toNat ≤ max.toNat := by omega
  rw [UInt64.toNat_sub_of_le _ _ (UInt64.le_iff_toNat_le.mpr hle), hmax]
  omega

/-- The overflow guard. -/
theorem inAddressSpace_iff (hmax : max.toNat = 2 ^ 64 - 1) (h : 1 ≤ bytes.toNat) :
    ¬ pointer > max - (bytes - 1) ↔ pointer.toNat + bytes.toNat ≤ 2 ^ 64 := by
  have hlt := bytes.toNat_lt
  rw [gt_iff_lt, UInt64.not_lt, UInt64.le_iff_toNat_le, (toNat_limit hmax _).2, toNat_span h]
  omega

/-- The address that is asked for is the last byte of the range, wrap or not. -/
theorem toNat_lastByte (h : 1 ≤ bytes.toNat) (hend : pointer.toNat + bytes.toNat ≤ 2 ^ 64) :
    (pointer + bytes - 1).toNat = pointer.toNat + (bytes.toNat - 1) := by
  have hassoc : pointer + bytes - 1 = pointer + (bytes - 1) := by
    rw [UInt64.sub_eq_add_neg, UInt64.sub_eq_add_neg, UInt64.add_assoc]
  rw [hassoc, toNat_add_of_lt (by rw [toNat_span h]; omega), toNat_span h]

/-- The three comparisons with the driver's allocation. -/
theorem inAllocation_iff (h : 1 ≤ bytes.toNat) : InAllocation pointer bytes base size ↔
    ¬ (pointer < base ∨ pointer - base > size ∨ bytes > size - (pointer - base)) := by
  rw [InAllocation, Set.Ico_subset_Ico_iff (by omega)]
  by_cases hlow : pointer < base
  · have hlt := UInt64.lt_iff_toNat_lt.mp hlow
    exact iff_of_false (by omega) fun hnot => hnot (.inl hlow)
  have hge := exact_sub_of_not_lt hlow
  have hoffset := toNat_sub_of_not_lt hlow
  rw [WordOp.Exact] at hge
  by_cases hfar : pointer - base > size
  · have hlt := UInt64.lt_iff_toNat_lt.mp hfar
    exact iff_of_false (by omega) fun hnot => hnot (.inr (.inl hfar))
  have hnear := exact_sub_of_not_lt hfar
  have hroom := toNat_sub_of_not_lt hfar
  rw [WordOp.Exact] at hnear
  have hlong : bytes > size - (pointer - base) ↔ size.toNat - (pointer.toNat - base.toNat) < bytes.toNat := by
    rw [gt_iff_lt, UInt64.lt_iff_toNat_lt, hroom, hoffset]
  rw [hlong]
  simp only [hlow, hfar, false_or]
  omega

/-- Nothing wraps but the two operations at the end of the address space. -/
theorem rangeArithmetic_ops (hmax : max.toNat = 2 ^ 64 - 1) (h : 1 ≤ bytes.toNat) :
    ∀ op ∈ (rangeArithmetic max cuda pointer bytes).ops,
      op.Exact ∨ PastEnd cuda pointer bytes op := by
  have hspan : (WordOp.sub bytes 1).Exact := h
  have hlimit : (WordOp.sub max (bytes - 1)).Exact := (toNat_limit hmax _).1
  by_cases hpast : pointer > max - (bytes - 1)
  · rw [rangeArithmetic_past hpast]
    simp [hspan, hlimit]
  have hend := (inAddressSpace_iff hmax h).mp hpast
  cases hrange : cuda.addressRange with
  | none =>
    rw [rangeArithmetic_vmm hpast hrange]
    simp only [List.forall_mem_cons, List.not_mem_nil, false_implies, implies_true, and_true]
    refine ⟨.inl hspan, .inl hlimit, ?_⟩
    by_cases hwrap : EndsAddressSpace pointer bytes
    · rw [add_eq_zero_of_end hwrap]
      exact ⟨.inr ⟨hrange, hwrap, .inl rfl⟩, .inr ⟨hrange, hwrap, .inr rfl⟩⟩
    · rw [EndsAddressSpace] at hwrap
      have hlt : pointer.toNat + bytes.toNat < 2 ^ 64 := by omega
      refine ⟨.inl hlt, .inl ?_⟩
      rw [WordOp.Exact, toNat_add_of_lt hlt, one_toNat]
      omega
  | some range =>
    rw [(rangeArithmetic_legacy hpast hrange).2]
    split
    · simp [hspan, hlimit]
    · next hlow =>
      have hoff := exact_sub_of_not_lt hlow
      split
      · simp [hspan, hlimit, hoff]
      · next hfar => simp [hspan, hlimit, hoff, exact_sub_of_not_lt hfar]

end

/-! ### `validate_pointer` -/

/-- The pointer is not null and the device and attribute checks pass. -/
def DeviceChecks (cuda : PointerAnswers) (pointer : UInt64) (gpuId : Int) : Prop :=
  pointer ≠ 0 ∧ gpuId = 0 ∧ cuda.getDevice = .ok 0 ∧ cuda.pointerAttributes = .ok (true, 0)

/-- A size in [1, 4 GiB]. -/
def SizeInRange (bytes : UInt64) : Prop := 1 ≤ bytes.toNat ∧ bytes.toNat ≤ 2 ^ 32

theorem sizeInRange_iff (bytes : UInt64) :
    SizeInRange bytes ↔ ¬ (bytes = 0 ∨ bytes > kMaximumBytes) := by
  have hzero : bytes = 0 ↔ bytes.toNat = 0 := by
    rw [← UInt64.toNat_inj, UInt64.toNat_zero]
  have hmax : kMaximumBytes.toNat = 2 ^ 32 := rfl
  rw [SizeInRange, hzero, gt_iff_lt, UInt64.lt_iff_toNat_lt, hmax]
  omega

theorem checkDevice_eq_ok (cuda : PointerAnswers) (pointer bytes : UInt64) (gpuId : Int) :
    checkDevice cuda pointer bytes gpuId = .ok () ↔
      DeviceChecks cuda pointer gpuId ∧ SizeInRange bytes := by
  rw [sizeInRange_iff, DeviceChecks]
  unfold checkDevice
  by_cases hnull : pointer = 0
  · rw [if_pos hnull]
    exact iff_of_false (by simp) fun h => h.1.1 hnull
  rw [if_neg hnull]
  by_cases hsize : bytes = 0 ∨ bytes > kMaximumBytes
  · rw [if_pos hsize]
    exact iff_of_false (by simp) fun h => h.2 hsize
  rw [if_neg hsize]
  by_cases hgpu : gpuId = 0
  · subst hgpu
    rw [if_neg (by simp)]
    cases hdevice : cuda.getDevice with
    | error description => simp
    | ok current =>
      dsimp only
      by_cases hcurrent : current = 0
      · subst hcurrent
        rw [if_neg (by simp)]
        cases hattributes : cuda.pointerAttributes with
        | error description => simp
        | ok attributes =>
          obtain ⟨deviceMemory, device⟩ := attributes
          dsimp only
          by_cases hcaller : deviceMemory = false ∨ device ≠ 0
          · rw [if_pos hcaller]
            refine iff_of_false (by simp) ?_
            rintro ⟨⟨-, -, -, heq⟩, -⟩
            simp only [Except.ok.injEq, Prod.mk.injEq] at heq
            rcases hcaller with hm | hd
            · rw [heq.1] at hm
              cases hm
            · exact hd heq.2
          · rw [if_neg hcaller]
            rw [not_or, Bool.not_eq_false, ne_eq, not_not] at hcaller
            refine iff_of_true rfl ⟨⟨hnull, rfl, rfl, ?_⟩, hsize⟩
            rw [hcaller.1, hcaller.2]
      · rw [if_pos hcurrent]
        refine iff_of_false (by simp) ?_
        rintro ⟨⟨-, -, heq, -⟩, -⟩
        exact hcurrent (Except.ok.inj heq)
  · rw [if_pos hgpu]
    exact iff_of_false (by simp) fun h => hgpu h.1.2.1

/-- What `validate_pointer` comes to behind the device checks. -/
theorem validatePointer_of_checks {cuda : PointerAnswers} {pointer bytes : UInt64} {gpuId : Int}
    (h : DeviceChecks cuda pointer gpuId) (hsize : SizeInRange bytes) (sync : Bool) :
    (validatePointer cuda pointer bytes gpuId sync).2 = (checkRange cuda pointer bytes).2 ∧
      ((validatePointer cuda pointer bytes gpuId sync).1 = .ok () ↔
        (checkRange cuda pointer bytes).1 = .ok () ∧ (sync = true → checkSyncMemops cuda = .ok ())) := by
  unfold validatePointer
  rw [(checkDevice_eq_ok cuda pointer bytes gpuId).mpr ⟨h, hsize⟩]
  generalize checkRange cuda pointer bytes = checked
  obtain ⟨message | done, events⟩ := checked
  · simp
  · cases sync <;> simp

theorem checkRange_legacy_iff {cuda : PointerAnswers} {pointer bytes base size : UInt64}
    (h : 1 ≤ bytes.toNat) (hrange : cuda.addressRange = some (base, size)) :
    (checkRange cuda pointer bytes).1 = .ok () ↔
      pointer.toNat + bytes.toNat ≤ 2 ^ 64 ∧ InAllocation pointer bytes base size := by
  rw [checkRange_eq, inAllocation_iff h, ← inAddressSpace_iff toNat_uintptrMax h]
  by_cases hpast : pointer > uintptrMax - (bytes - 1)
  · rw [rangeArithmetic_past hpast]
    exact iff_of_false (by simp) fun hin => hin.1 hpast
  · rw [(rangeArithmetic_legacy hpast hrange).1]
    split
    · next hout => exact iff_of_false (by simp [rangeExceeds]) fun hin => hin.2 hout
    · next hin => exact iff_of_true rfl ⟨hpast, hin⟩

/-- The handles that `cuMemRetainAllocationHandle` gave out for the two ends. -/
def retainedHandles (cuda : PointerAnswers) (pointer bytes : UInt64) : List UInt64 :=
  (cuda.retainFirst pointer).toList ++ (cuda.retainLast (pointer + bytes - 1)).toList

theorem oneAllocation_events (first last : Option UInt64) : (oneAllocation first last).2 =
    (first.toList ++ last.toList).map .retained ++ (first.toList ++ last.toList).map .released := by
  unfold oneAllocation
  dsimp only
  split <;> rfl

theorem checkRange_events (cuda : PointerAnswers) (pointer bytes : UInt64) :
    (checkRange cuda pointer bytes).2 =
      if pointer > uintptrMax - (bytes - 1) ∨ cuda.addressRange.isSome = true then []
      else (retainedHandles cuda pointer bytes).map .retained ++
        (retainedHandles cuda pointer bytes).map .released := by
  rw [checkRange_eq]
  by_cases hpast : pointer > uintptrMax - (bytes - 1)
  · rw [rangeArithmetic_past hpast, if_pos (.inl hpast)]
  · cases hrange : cuda.addressRange with
    | none =>
      rw [rangeArithmetic_vmm hpast hrange, if_neg (by simp [hpast]), oneAllocation_events,
        retainedHandles]
    | some range =>
      have hknown : pointer > uintptrMax - (bytes - 1) ∨ (some range).isSome = true := .inr rfl
      rw [(rangeArithmetic_legacy hpast hrange).1, if_pos hknown]
      split <;> rfl

theorem count_map_retained (handles : List UInt64) (handle : UInt64) :
    (handles.map HandleEvent.retained ++ handles.map HandleEvent.released).count (.retained handle) =
        handles.count handle ∧
      (handles.map HandleEvent.retained ++ handles.map HandleEvent.released).count (.released handle) =
        handles.count handle := by
  have hretained : Function.Injective HandleEvent.retained := fun _ _ h => HandleEvent.retained.inj h
  have hreleased : Function.Injective HandleEvent.released := fun _ _ h => HandleEvent.released.inj h
  have hno : (handles.map HandleEvent.released).count (.retained handle) = 0 :=
    List.count_eq_zero.mpr (by simp)
  have hno' : (handles.map HandleEvent.retained).count (.released handle) = 0 :=
    List.count_eq_zero.mpr (by simp)
  rw [List.count_append, List.count_append, hno, hno', List.count_map_of_injective _ _ hretained,
    List.count_map_of_injective _ _ hreleased]
  omega

/-- Every handle retained on the way is released as often, whatever the outcome. -/
theorem validatePointer_events (cuda : PointerAnswers) (pointer bytes : UInt64) (gpuId : Int)
    (sync : Bool) : ∃ handles : List UInt64,
      (validatePointer cuda pointer bytes gpuId sync).2 =
        handles.map .retained ++ handles.map .released ∧
      (DeviceChecks cuda pointer gpuId → SizeInRange bytes → cuda.addressRange = none →
        pointer.toNat + bytes.toNat ≤ 2 ^ 64 → handles = retainedHandles cuda pointer bytes) := by
  by_cases hchecks : DeviceChecks cuda pointer gpuId ∧ SizeInRange bytes
  · obtain ⟨hdevice, hsize⟩ := hchecks
    rw [(validatePointer_of_checks hdevice hsize sync).1, checkRange_events]
    split
    · next hnot =>
      refine ⟨[], rfl, fun _ _ hrange hend => ?_⟩
      rw [hrange] at hnot
      rcases hnot with hpast | hsome
      · exact absurd hpast ((inAddressSpace_iff toNat_uintptrMax hsize.1).mpr hend)
      · cases hsome
    · exact ⟨_, rfl, fun _ _ _ _ => rfl⟩
  · refine ⟨[], ?_, fun hdevice hsize => absurd ⟨hdevice, hsize⟩ hchecks⟩
    unfold validatePointer
    cases hdevice : checkDevice cuda pointer bytes gpuId with
    | error message => rfl
    | ok done => exact absurd ((checkDevice_eq_ok cuda pointer bytes gpuId).mp hdevice) hchecks

/-! ### The length of the SGE -/

/-- `ibv_sge` -/
structure Sge where
  addr : UInt64
  length : UInt32
  lkey : UInt32
deriving DecidableEq

/-- The scatter entry of `direct_read`, cast to 32 bits. -/
def readSge (c : Context) (lkey : UInt32) : Sge := ⟨c.buffer, c.bytes.toUInt32, lkey⟩

theorem readSge_length {c : Context} (h : c.bytes.toNat < 2 ^ 32) (lkey : UInt32) :
    (readSge c lkey).length.toNat = c.bytes.toNat := by
  rw [readSge, UInt64.toNat_toUInt32]
  exact Nat.mod_eq_of_lt h

theorem openContext_bytes {args : OpenArgs} {env : OpenAnswers} {c : Context}
    (h : openContext args env = .ok c) : c.bytes = args.bytes ∧ c.bytes.toNat < 2 ^ 32 := by
  unfold openContext at h
  split at h
  · cases h
  split at h
  · cases h
  next hsize =>
  split at h
  · cases h
  split at h
  · cases h
  split at h
  · cases h
  split at h
  · cases h
  · cases h
    have hmax : (0xffffffff : UInt64).toNat = 2 ^ 32 - 1 := rfl
    rw [gt_iff_lt, UInt64.not_lt, UInt64.le_iff_toNat_le, hmax] at hsize
    exact ⟨rfl, by simp only; omega⟩

theorem directRead_bytes {c c' : Context} {args : ReadArgs} {env : ReadAnswers} {code : Int}
    (h : directRead c args env = some (code, c')) : c'.bytes = c.bytes := by
  unfold directRead at h
  split at h
  · cases h
    rfl
  · dsimp only at h
    split at h
    · cases h
      rfl
    · split at h
      · cases h
        rfl
      · cases h
        rfl
      · cases h

theorem directClose_bytes (c : Context) (env : CloseAnswers) :
    (directClose c env).2.1.bytes = c.bytes := by
  unfold directClose
  split
  · rfl
  · split
    · rfl
    · split
      · rfl
      · dsimp only
        split <;> rfl

/-- Every context in the table fits one SGE. -/
def System.Fits (s : System) : Prop := ∀ h c, s.contexts h = some c → c.bytes.toNat < 2 ^ 32

theorem System.Fits.set {s : System} (h : s.Fits) {handle : UInt64} {c : Option Context}
    (hc : ∀ c', c = some c' → c'.bytes.toNat < 2 ^ 32) : (s.set handle c).Fits := by
  intro h' c' heq
  rw [contexts_set] at heq
  split at heq
  · exact hc c' heq
  · exact h h' c' heq

theorem contexts_of_checked {s : System} {handle : UInt64} {c : Context}
    (h : checkedContext s handle = some c) : s.contexts handle = some c := by
  unfold checkedContext at h
  split at h
  · cases h
  · exact h

theorem call_fits {s : System} (hfits : s.Fits) {op : Call} {r : Returned}
    (hcall : call s op = some r) : r.system.Fits := by
  cases op with
  | openDmabuf args env =>
    simp only [call, Option.some.injEq] at hcall
    subst hcall
    unfold openDmabuf
    split
    · exact hfits
    · next c hc =>
      dsimp only
      split
      · exact hfits
      · have hnext : System.Fits { s with nextHandleId := s.nextHandleId + 1 } := hfits
        refine hnext.set fun c' hc' => ?_
        cases hc'
        exact (openContext_bytes hc).2
  | read handle args env =>
    simp only [call, Gdr.read] at hcall
    split at hcall
    · cases hcall
      exact hfits
    · next c hc =>
      obtain ⟨⟨code, c'⟩, hrun, rfl⟩ := Option.map_eq_some_iff.mp hcall
      refine hfits.set fun c'' hc'' => ?_
      cases hc''
      rw [directRead_bytes hrun]
      exact hfits handle c (contexts_of_checked hc)
  | close handle env =>
    simp only [call, Option.some.injEq] at hcall
    subst hcall
    unfold close
    split
    · exact hfits
    · split
      · exact hfits
      · next c hc =>
        have hbytes := directClose_bytes c env
        split
        · exact hfits.set fun _ hnone => by cases hnone
        · next code c' hrun =>
          rw [hrun] at hbytes
          refine hfits.set fun c'' hc'' => ?_
          cases hc''
          rw [hbytes]
          exact hfits handle c (contexts_of_checked hc)

theorem after_fits (calls : List Call) : (after .init calls).Fits := by
  refine Machine.runFrom_invariant (fun s op s' hs hstep => ?_) calls fun _ _ h => by cases h
  obtain ⟨r, hr, rfl⟩ := Option.map_eq_some_iff.mp hstep
  exact call_fits hs hr

theorem size_of_accepted {cuda : PointerAnswers} {pointer bytes : UInt64} {gpuId : Int} {sync : Bool}
    (h : (validatePointer cuda pointer bytes gpuId sync).1 = .ok ()) : SizeInRange bytes := by
  cases hdevice : checkDevice cuda pointer bytes gpuId with
  | error message =>
    rw [validatePointer, hdevice] at h
    cases h
  | ok done => exact ((checkDevice_eq_ok cuda pointer bytes gpuId).mp hdevice).2

theorem accepted_iff {cuda : PointerAnswers} {pointer bytes base size : UInt64} {gpuId : Int}
    {sync : Bool} (hdevice : DeviceChecks cuda pointer gpuId)
    (hrange : cuda.addressRange = some (base, size)) :
    (validatePointer cuda pointer bytes gpuId sync).1 = .ok () ↔
      (1 ≤ bytes.toNat ∧ bytes.toNat ≤ 2 ^ 32 ∧ pointer.toNat + bytes.toNat - 1 < 2 ^ 64 ∧
        InAllocation pointer bytes base size) ∧ (sync = true → checkSyncMemops cuda = .ok ()) := by
  by_cases hsize : SizeInRange bytes
  · rw [(validatePointer_of_checks hdevice hsize sync).2, checkRange_legacy_iff hsize.1 hrange]
    obtain ⟨hpos, hmax⟩ := hsize
    have hlast : pointer.toNat + bytes.toNat ≤ 2 ^ 64 ↔ pointer.toNat + bytes.toNat - 1 < 2 ^ 64 := by
      omega
    constructor
    · rintro ⟨⟨hend, hin⟩, hsync⟩
      exact ⟨⟨hpos, hmax, hlast.mp hend, hin⟩, hsync⟩
    · rintro ⟨⟨-, -, hend, hin⟩, hsync⟩
      exact ⟨⟨hlast.mpr hend, hin⟩, hsync⟩
  · exact iff_of_false (fun h => hsize (size_of_accepted h)) fun h => hsize ⟨h.1.1, h.1.2.1⟩

theorem pointerArithmetic_exact {cuda : PointerAnswers} {pointer bytes : UInt64} {gpuId : Int} :
    ∀ op ∈ pointerArithmetic cuda pointer bytes gpuId, op.Exact ∨ PastEnd cuda pointer bytes op := by
  unfold pointerArithmetic
  cases hdevice : checkDevice cuda pointer bytes gpuId with
  | error message => simp
  | ok done =>
    have hsize := ((checkDevice_eq_ok cuda pointer bytes gpuId).mp hdevice).2
    exact rangeArithmetic_ops toNat_uintptrMax hsize.1

theorem handles_released (cuda : PointerAnswers) (pointer bytes : UInt64) (gpuId : Int) (sync : Bool)
    (handle : UInt64) :
    (validatePointer cuda pointer bytes gpuId sync).2.count (.released handle) =
        (validatePointer cuda pointer bytes gpuId sync).2.count (.retained handle) ∧
      (DeviceChecks cuda pointer gpuId → SizeInRange bytes → cuda.addressRange = none →
        pointer.toNat + bytes.toNat ≤ 2 ^ 64 →
        (validatePointer cuda pointer bytes gpuId sync).2.count (.retained handle) =
          (retainedHandles cuda pointer bytes).count handle) := by
  obtain ⟨handles, hevents, hwhich⟩ := validatePointer_events cuda pointer bytes gpuId sync
  obtain ⟨hretained, hreleased⟩ := count_map_retained handles handle
  rw [hevents, hretained, hreleased]
  refine ⟨rfl, fun hdevice hsize hrange hend => ?_⟩
  rw [hwhich hdevice hsize hrange hend]

/-- Registered ranges: the accepted ranges are those the driver's allocation holds, and no
operation wraps on the way but the two that compute the last byte of a VMM range at the end
of the address space, whose value is right all the same. -/
theorem registered_ranges :
    (∀ cuda pointer bytes gpuId sync base size, DeviceChecks cuda pointer gpuId →
      cuda.addressRange = some (base, size) →
      ((validatePointer cuda pointer bytes gpuId sync).1 = .ok () ↔
        (1 ≤ bytes.toNat ∧ bytes.toNat ≤ 2 ^ 32 ∧ pointer.toNat + bytes.toNat - 1 < 2 ^ 64 ∧
          InAllocation pointer bytes base size) ∧ (sync = true → checkSyncMemops cuda = .ok ()))) ∧
    (∀ cuda pointer bytes gpuId, ∀ op ∈ pointerArithmetic cuda pointer bytes gpuId,
      op.Exact ∨ PastEnd cuda pointer bytes op) ∧
    (∀ pointer bytes : UInt64, 1 ≤ bytes.toNat → pointer.toNat + bytes.toNat - 1 < 2 ^ 64 →
      (pointer + bytes - 1).toNat = pointer.toNat + bytes.toNat - 1) ∧
    (∀ cuda pointer bytes gpuId sync handle,
      (validatePointer cuda pointer bytes gpuId sync).2.count (.released handle) =
        (validatePointer cuda pointer bytes gpuId sync).2.count (.retained handle) ∧
      (DeviceChecks cuda pointer gpuId → SizeInRange bytes → cuda.addressRange = none →
        pointer.toNat + bytes.toNat ≤ 2 ^ 64 →
        (validatePointer cuda pointer bytes gpuId sync).2.count (.retained handle) =
          (retainedHandles cuda pointer bytes).count handle)) ∧
    (∀ args env c lkey, openContext args env = .ok c →
      (readSge c lkey).length.toNat = args.bytes.toNat) ∧
    ∀ calls h c lkey, (after .init calls).contexts h = some c →
      (readSge c lkey).length.toNat = c.bytes.toNat := by
  refine ⟨fun _ _ _ _ _ _ _ => accepted_iff, fun _ _ _ _ => pointerArithmetic_exact, ?_,
    handles_released, ?_, ?_⟩
  · intro pointer bytes hpos hend
    rw [toNat_lastByte hpos (by omega)]
    omega
  · intro args env c lkey hopen
    obtain ⟨hbytes, hfits⟩ := openContext_bytes hopen
    rw [readSge_length hfits, hbytes]
  · intro calls h c lkey hc
    exact readSge_length (after_fits calls h c hc) lkey

/-- One byte at the last address, in a VMM allocation: the sum wraps to zero and the
subtraction underflows. -/
theorem last_byte_wraps : ¬ ∀ cuda pointer bytes gpuId,
    ∀ op ∈ pointerArithmetic cuda pointer bytes gpuId, op.Exact := by
  intro h
  let cuda : PointerAnswers :=
    ⟨.ok 0, .ok (true, 0), none, fun _ => some 7, fun _ => some 7, true, some 1⟩
  have hsize : SizeInRange 1 := by
    rw [SizeInRange, one_toNat]
    omega
  have hdevice : checkDevice cuda uintptrMax 1 0 = .ok () :=
    (checkDevice_eq_ok _ _ _ _).mpr ⟨⟨by decide, rfl, rfl, rfl⟩, hsize⟩
  have hinside : ¬ uintptrMax > uintptrMax - (1 - 1) := by
    rw [inAddressSpace_iff toNat_uintptrMax hsize.1, toNat_uintptrMax, one_toNat]
    omega
  have hops : WordOp.add uintptrMax 1 ∈ pointerArithmetic cuda uintptrMax 1 0 := by
    rw [pointerArithmetic, hdevice]
    dsimp only
    rw [rangeArithmetic_vmm hinside rfl]
    simp
  have hexact := h cuda uintptrMax 1 0 _ hops
  rw [WordOp.Exact, toNat_uintptrMax, one_toNat] at hexact
  omega

end ServerlessX.Gdr
