import ServerlessX.Gdr.Endpoint

/-! The resources of a direct DMA-BUF context: how they are made and torn down. What CUDA,
the verbs library and the dynamic linker answer is given with each call; every resource
that is acquired or released is recorded. -/
namespace ServerlessX.Gdr
open ServerlessX.Py

def kMaximumBytes : UInt64 := 4294967296
def kDefaultControlTimeoutMs : Nat := 300000
def kMaximumControlTimeoutMs : Nat := 600000
def kRequiredDevice : String := "mlx5_0"

/-! ### The caller's pointer -/

/-- What CUDA answers to `validate_pointer`; a failed call gives its description. -/
structure PointerAnswers where
  getDevice : Except String Int
  /-- Whether the pointer is device memory, and of which device. -/
  pointerAttributes : Except String (Bool × Int)
  addressRange : Option (UInt64 × UInt64)
  retainFirst : UInt64 → Option UInt64
  retainLast : UInt64 → Option UInt64
  setSyncMemops : Bool
  getSyncMemops : Option UInt32

inductive HandleEvent where
  | retained (handle : UInt64)
  | released (handle : UInt64)
deriving DecidableEq

def checkDevice (cuda : PointerAnswers) (pointer bytes : UInt64) (gpuId : Int) : Except String Unit :=
  if pointer = 0 then .error "CUDA buffer pointer is null"
  else if bytes = 0 ∨ bytes > kMaximumBytes then
    .error "CUDA buffer size must be in [1, 4 GiB]"
  else if gpuId ≠ 0 then .error "this artifact requires CUDA device 0"
  else match cuda.getDevice with
    | .error description => .error ("cudaGetDevice: " ++ description)
    | .ok current =>
      if current ≠ gpuId then .error "current CUDA context belongs to another device"
      else match cuda.pointerAttributes with
        | .error description => .error ("cudaPointerGetAttributes: " ++ description)
        | .ok (deviceMemory, device) =>
          if deviceMemory = false ∨ device ≠ gpuId then
            .error "caller pointer is not a device-0 CUDA allocation"
          else .ok ()

/-- The checks of the range, with the allocation handles retained and released on the way. -/
def checkRange (cuda : PointerAnswers) (pointer bytes : UInt64) :
    Except String Unit × List HandleEvent :=
  if pointer > 0xffffffffffffffff - (bytes - 1) then
    (.error "requested CUDA range overflows the address space", [])
  else match cuda.addressRange with
    | some (base, size) =>
      if pointer < base ∨ pointer - base > size ∨ bytes > size - (pointer - base) then
        (.error "requested CUDA range exceeds the driver allocation", [])
      else (.ok (), [])
    | none =>
      let first := cuda.retainFirst pointer
      let last := cuda.retainLast (pointer + bytes - 1)
      let oneAllocation := first.isSome && last.isSome && first = last
      let handles := first.toList ++ last.toList
      let events := handles.map .retained ++ handles.map .released
      if oneAllocation then (.ok (), events)
      else (.error "CUDA pointer is neither one legacy nor one VMM allocation", events)

def checkSyncMemops (cuda : PointerAnswers) : Except String Unit :=
  if cuda.setSyncMemops = false then .error "cuPointerSetAttribute(SYNC_MEMOPS) failed"
  else if cuda.getSyncMemops ≠ some 1 then .error "CUDA allocation does not enforce SYNC_MEMOPS"
  else .ok ()

def validatePointer (cuda : PointerAnswers) (pointer bytes : UInt64) (gpuId : Int)
    (requireSyncMemops : Bool) : Except String Unit × List HandleEvent :=
  match checkDevice cuda pointer bytes gpuId with
  | .error message => (.error message, [])
  | .ok _ =>
    match checkRange cuda pointer bytes with
    | (.error message, events) => (.error message, events)
    | (.ok _, events) => (if requireSyncMemops then checkSyncMemops cuda else .ok (), events)

/-! ### Native resources -/

inductive Resource where
  | deviceList
  | verbs
  | pd
  | cq
  | qp
  | mr
  | dmabufFd
  | listenerFd
  | controlFd
  | controlThread
deriving DecidableEq

/-- What happened to a resource; `refused` is a destroy call that failed. -/
inductive NativeEvent where
  | acquired (resource : Resource)
  | released (resource : Resource)
  | refused (resource : Resource)
deriving DecidableEq

/-- `held` are the pointers that are not null, the descriptors that are not -1 and the thread
that can be joined. -/
structure NativeResources where
  held : Resource → Bool
  endpoint : SockaddrIn
  gid : Gid
  psn : UInt32
  qpNum : UInt32
  rkey : UInt32
  role : DmabufRole
  controlTimeoutMs : Nat
  threadError : String
  targetUsed : Bool

/-- The resources of a context with their history. -/
structure Tracked where
  native : NativeResources
  log : List NativeEvent

namespace Tracked

def set (t : Tracked) (resource : Resource) (value : Bool) (event : NativeEvent) : Tracked where
  native := { t.native with held := fun r => if r = resource then value else t.native.held r }
  log := t.log ++ [event]

def acquire (t : Tracked) (resource : Resource) : Tracked := t.set resource true (.acquired resource)

def release (t : Tracked) (resource : Resource) : Tracked := t.set resource false (.released resource)

end Tracked

/-- `control_timeout_ms`, given the environment variable. -/
def controlTimeoutMs (raw : Option CString) : Except String Nat :=
  match raw with
  | none => .ok kDefaultControlTimeoutMs
  | some raw =>
    if raw.bytes = [] then .ok kDefaultControlTimeoutMs
    else
      let parsed := strtoul raw.bytes
      if parsed.outOfRange = true ∨ parsed.used = 0 ∨ parsed.used ≠ raw.bytes.length ∨
          parsed.value = 0 ∨ parsed.value > kMaximumControlTimeoutMs then
        .error "SPD_GDR_DIRECT_CONTROL_TIMEOUT_MS must be in [1, 600000]"
      else .ok parsed.value

/-- What the libraries answer to `make_native_resources`. -/
structure NativeAnswers where
  timeoutVariable : Option CString
  deviceGet : Except String Unit
  vmmGdrSupported : Except String Int
  dmabufSupported : Except String Int
  /-- The names of the devices. -/
  deviceList : Option (List String)
  openDevice : Bool
  /-- Whether the port is active, and whether its MTU is at least 4096. -/
  queryPort : Except String (Bool × Bool)
  queryGid : Except String Gid
  allocPd : Bool
  createCq : Bool
  /-- The number of the queue pair. -/
  createQp : Option UInt32
  getHandleSymbol : Bool
  getHandle : Except String Unit
  registerSymbol : Bool
  /-- The key of the memory region. -/
  registerMr : Except String UInt32
  clock : UInt64
  serial : UInt32

/-- A call of `make_native_resources` or a check of its own: what it acquires and how it
ends. -/
structure MakeStep where
  acquires : Option Resource
  outcome : Except String Unit

def check (condition : Bool) (message : String) : MakeStep :=
  ⟨none, if condition then .ok () else .error message⟩

def attempt {α : Type} (answer : Except String α) (operation : String) : MakeStep :=
  ⟨none, match answer with
    | .ok _ => .ok ()
    | .error description => .error (operation ++ ": " ++ description)⟩

def acquiring (resource : Resource) (condition : Bool) (message : String) : MakeStep :=
  ⟨some resource, if condition then .ok () else .error message⟩

def valueOr {α : Type} (answer : Except String α) (default : α) : α :=
  match answer with
  | .ok a => a
  | .error _ => default

/-- `make_native_resources` in the order of the source. A check reads only what the calls
before it, which have then succeeded, returned. -/
def makeSteps (answers : NativeAnswers) : List MakeStep :=
  [ attempt answers.deviceGet "cuDeviceGet",
    attempt answers.vmmGdrSupported "cuDeviceGetAttribute(GPU_DIRECT_RDMA_WITH_CUDA_VMM)",
    attempt answers.dmabufSupported "cuDeviceGetAttribute(DMA_BUF_SUPPORTED)",
    check (valueOr answers.vmmGdrSupported 0 = 1 && valueOr answers.dmabufSupported 0 = 1)
      "CUDA VMM DMA-BUF GDR capabilities are incomplete",
    acquiring .deviceList answers.deviceList.isSome "ibv_get_device_list failed",
    check ((answers.deviceList.getD []).contains kRequiredDevice) "mlx5_0 was not found",
    acquiring .verbs answers.openDevice "ibv_open_device(mlx5_0) failed",
    attempt answers.queryPort "ibv_query_port(mlx5_0,1)",
    check (valueOr answers.queryPort (false, false) = (true, true))
      "mlx5_0 port 1 is not ACTIVE at MTU 4096",
    attempt answers.queryGid "ibv_query_gid(mlx5_0,1,3)",
    acquiring .pd answers.allocPd "ibv_alloc_pd failed",
    acquiring .cq answers.createCq "ibv_create_cq failed",
    acquiring .qp answers.createQp.isSome "ibv_create_qp failed",
    check answers.getHandleSymbol "cuMemGetHandleForAddressRange is absent",
    ⟨some .dmabufFd, (attempt answers.getHandle "cuMemGetHandleForAddressRange(DMA_BUF_FD)").outcome⟩,
    check answers.registerSymbol "ibv_reg_dmabuf_mr is absent",
    ⟨some .mr, (attempt answers.registerMr "ibv_reg_dmabuf_mr").outcome⟩ ]

/-- The steps up to the first that fails. -/
def runSteps : List MakeStep → Tracked → Except String Unit × Tracked
  | [], t => (.ok (), t)
  | step :: rest, t =>
    match step.outcome with
    | .error message => (.error message, t)
    | .ok _ =>
      runSteps rest (match step.acquires with
        | some resource => t.acquire resource
        | none => t)

/-- The packet number to start with: 24 bits, not zero. -/
def startPsn (answers : NativeAnswers) : UInt32 :=
  let mixed := (answers.clock ^^^ (answers.createQp.getD 0).toUInt64 ^^^ answers.serial.toUInt64) &&&
    0x00ffffff
  if mixed = 0 then 1 else mixed.toUInt32

def noGid : Gid := ⟨List.replicate 16 0, rfl⟩

def makeNativeResources (answers : NativeAnswers) (endpoint : SockaddrIn) (role : DmabufRole) :
    Except String Unit × Tracked :=
  let fresh : NativeResources :=
    { held := fun _ => false, endpoint := endpoint, gid := noGid, psn := 0, qpNum := 0, rkey := 0,
      role := role, controlTimeoutMs := kDefaultControlTimeoutMs, threadError := "", targetUsed := false }
  match controlTimeoutMs answers.timeoutVariable with
  | .error message => (.error message, ⟨fresh, []⟩)
  | .ok timeout =>
    match runSteps (makeSteps answers) ⟨{ fresh with controlTimeoutMs := timeout }, []⟩ with
    | (.error message, t) => (.error message, t)
    | (.ok _, t) =>
      (.ok (), { t with native := { t.native with
        gid := valueOr answers.queryGid noGid, psn := startPsn answers
        qpNum := answers.createQp.getD 0, rkey := valueOr answers.registerMr 0 } })

/-! ### Teardown -/

/-- What the control thread did until it was joined. -/
structure ThreadRun where
  accepted : Bool
  closedListener : Bool
  error : String

def closeNativeSocket (resource : Resource) (t : Tracked) : Tracked :=
  if t.native.held resource then t.release resource else t

/-- `stop_native_thread`: the thread is told to stop and joined. It closes the connection it
accepted on each of its ways out. -/
def stopNativeThread (thread : ThreadRun) (t : Tracked) : Tracked :=
  if t.native.held .controlThread then
    let t := if thread.accepted then (t.acquire .controlFd).release .controlFd else t
    let t := if thread.closedListener then closeNativeSocket .listenerFd t else t
    let t := t.release .controlThread
    { t with native := { t.native with threadError := thread.error } }
  else t

/-- The order in which the verbs and DMA-BUF resources are given back. -/
def teardownOrder : List Resource := [.qp, .cq, .mr, .dmabufFd, .pd, .verbs, .deviceList]

def destroyFailure : Resource → String
  | .qp => "ibv_destroy_qp failed"
  | .cq => "ibv_destroy_cq failed"
  | .mr => "ibv_dereg_mr failed"
  | .dmabufFd => "close(DMA-BUF) failed"
  | .pd => "ibv_dealloc_pd failed"
  | .verbs => "ibv_close_device failed"
  | _ => ""

/-- Whether a destroy call succeeds; `ibv_free_device_list` returns nothing. -/
def destroyed (destroys : Resource → Bool) (resource : Resource) : Bool :=
  resource = .deviceList || destroys resource

/-- The part of `cleanup_native_strict` behind the sockets: it stops at the first failure. -/
def destroyStrict (destroys : Resource → Bool) : List Resource → Tracked → Option String × Tracked
  | [], t => (none, t)
  | resource :: rest, t =>
    if t.native.held resource then
      if destroyed destroys resource then destroyStrict destroys rest (t.release resource)
      else (some (destroyFailure resource), { t with log := t.log ++ [.refused resource] })
    else destroyStrict destroys rest t

/-- The part of `cleanup_native_best_effort` behind the sockets: failures are ignored and
the pointers cleared. -/
def destroyBestEffort (destroys : Resource → Bool) : List Resource → Tracked → Tracked
  | [], t => t
  | resource :: rest, t =>
    destroyBestEffort destroys rest
      (if t.native.held resource then
        t.set resource false (if destroyed destroys resource then .released resource else .refused resource)
      else t)

def closeSockets (t : Tracked) : Tracked := closeNativeSocket .listenerFd (closeNativeSocket .controlFd t)

def cleanupNativeStrict (thread : ThreadRun) (destroys : Resource → Bool) (t : Tracked) :
    Option String × Tracked :=
  destroyStrict destroys teardownOrder (closeSockets (stopNativeThread thread t))

def cleanupNativeBestEffort (thread : ThreadRun) (destroys : Resource → Bool) (t : Tracked) : Tracked :=
  destroyBestEffort destroys teardownOrder (closeSockets (stopNativeThread thread t))

/-! ### What is held -/

namespace Tracked

/-- Every resource ever acquired is held or has been released. -/
def Coherent (t : Tracked) : Prop :=
  ∀ r, .acquired r ∈ t.log → .released r ∈ t.log ∨ t.native.held r = true

theorem Coherent.acquire {t : Tracked} (h : t.Coherent) (resource : Resource) :
    (t.acquire resource).Coherent := by
  intro r hr
  simp only [Tracked.acquire, set, List.mem_append, List.mem_singleton, NativeEvent.acquired.injEq,
    reduceCtorEq, or_false] at hr ⊢
  by_cases heq : r = resource
  · simp [heq]
  · simpa [heq] using h r (by simpa [heq] using hr)

theorem Coherent.release {t : Tracked} (h : t.Coherent) (resource : Resource) :
    (t.release resource).Coherent := by
  intro r hr
  simp only [Tracked.release, set, List.mem_append, List.mem_singleton, NativeEvent.released.injEq,
    reduceCtorEq, or_false] at hr ⊢
  by_cases heq : r = resource
  · simp [heq]
  · simpa [heq] using h r hr

theorem held_release (t : Tracked) (resource r : Resource) :
    (t.release resource).native.held r = if r = resource then false else t.native.held r := rfl

end Tracked

theorem runSteps_coherent {steps : List MakeStep} {t : Tracked} (h : t.Coherent) :
    (runSteps steps t).2.Coherent := by
  induction steps generalizing t with
  | nil => exact h
  | cons step rest ih =>
    unfold runSteps
    split
    · exact h
    · apply ih
      split
      · exact h.acquire _
      · exact h

theorem makeNativeResources_coherent {answers : NativeAnswers} {endpoint : SockaddrIn}
    {role : DmabufRole} {t : Tracked}
    (h : makeNativeResources answers endpoint role = (.ok (), t)) : t.Coherent := by
  unfold makeNativeResources at h
  dsimp only at h
  split at h
  · cases h
  · next timeout _ =>
    split at h
    · cases h
    · next u hrun =>
      cases h
      have hu := @runSteps_coherent (makeSteps answers)
        ⟨⟨fun _ => false, endpoint, noGid, 0, 0, 0, role, timeout, "", false⟩, []⟩
        (fun r hr => by simp at hr)
      rw [hrun] at hu
      exact hu

theorem closeNativeSocket_coherent {t : Tracked} (h : t.Coherent) (resource : Resource) :
    (closeNativeSocket resource t).Coherent := by
  unfold closeNativeSocket
  split
  · exact h.release resource
  · exact h

theorem held_closeNativeSocket (t : Tracked) (resource r : Resource) :
    (closeNativeSocket resource t).native.held r = if r = resource then false else t.native.held r := by
  unfold closeNativeSocket
  split
  · rfl
  · next hfree =>
    by_cases heq : r = resource
    · simpa [heq] using hfree
    · simp [heq]

theorem stopNativeThread_coherent {t : Tracked} (h : t.Coherent) (thread : ThreadRun) :
    (stopNativeThread thread t).Coherent := by
  unfold stopNativeThread
  split
  · dsimp only
    have hfd : (if thread.accepted then (t.acquire .controlFd).release .controlFd else t).Coherent := by
      split
      · exact (h.acquire _).release _
      · exact h
    generalize (if thread.accepted then (t.acquire .controlFd).release .controlFd else t) = u at hfd ⊢
    have hlisten : (if thread.closedListener then closeNativeSocket .listenerFd u else u).Coherent := by
      split
      · exact closeNativeSocket_coherent hfd _
      · exact hfd
    exact hlisten.release .controlThread
  · exact h

theorem held_stopNativeThread (thread : ThreadRun) (t : Tracked) :
    (stopNativeThread thread t).native.held .controlThread = false := by
  unfold stopNativeThread
  split
  · rfl
  · next hfree => simpa using hfree

/-! The teardown does not touch `target_used`. -/

theorem closeNativeSocket_used (resource : Resource) (t : Tracked) :
    (closeNativeSocket resource t).native.targetUsed = t.native.targetUsed := by
  unfold closeNativeSocket
  split <;> rfl

theorem stopNativeThread_used (thread : ThreadRun) (t : Tracked) :
    (stopNativeThread thread t).native.targetUsed = t.native.targetUsed := by
  have hfd : (if thread.accepted then (t.acquire .controlFd).release .controlFd else t).native.targetUsed =
      t.native.targetUsed := by split <;> rfl
  unfold stopNativeThread
  split
  · dsimp only [Tracked.release, Tracked.set]
    split
    · rw [closeNativeSocket_used]
      exact hfd
    · exact hfd
  · rfl

/-- A strict teardown keeps account, also when it fails. -/
theorem destroyStrict_coherent {destroys : Resource → Bool} {order : List Resource} {t : Tracked}
    (h : t.Coherent) : (destroyStrict destroys order t).2.Coherent ∧
      (destroyStrict destroys order t).2.native.targetUsed = t.native.targetUsed := by
  induction order generalizing t with
  | nil => exact ⟨h, rfl⟩
  | cons resource rest ih =>
    unfold destroyStrict
    split
    · split
      · exact ih (h.release resource)
      · refine ⟨fun r hr => ?_, rfl⟩
        simpa using h r (by simpa using hr)
    · exact ih h

theorem cleanupNativeStrict_coherent {thread : ThreadRun} {destroys : Resource → Bool} {t : Tracked}
    (h : t.Coherent) : (cleanupNativeStrict thread destroys t).2.Coherent ∧
      (cleanupNativeStrict thread destroys t).2.native.targetUsed = t.native.targetUsed := by
  have hsockets : (closeSockets (stopNativeThread thread t)).Coherent :=
    closeNativeSocket_coherent (closeNativeSocket_coherent (stopNativeThread_coherent h thread) _) _
  obtain ⟨hc, hu⟩ := @destroyStrict_coherent destroys teardownOrder _ hsockets
  refine ⟨hc, hu.trans ?_⟩
  rw [closeSockets, closeNativeSocket_used, closeNativeSocket_used, stopNativeThread_used]

/-- A strict teardown that goes through releases all it goes over and nothing else. -/
theorem destroyStrict_ok {destroys : Resource → Bool} {order : List Resource} {t t' : Tracked}
    (hcoherent : t.Coherent) (h : destroyStrict destroys order t = (none, t')) :
    t'.Coherent ∧ ∀ r, t'.native.held r = if r ∈ order then false else t.native.held r := by
  induction order generalizing t with
  | nil =>
    cases h
    exact ⟨hcoherent, by simp⟩
  | cons resource rest ih =>
    unfold destroyStrict at h
    split at h
    · split at h
      · obtain ⟨hc, hheld⟩ := ih (hcoherent.release resource) h
        refine ⟨hc, fun r => ?_⟩
        rw [hheld r, Tracked.held_release]
        by_cases heq : r = resource <;> by_cases hmem : r ∈ rest <;> simp [heq, hmem]
      · cases h
    · next hfree =>
      obtain ⟨hc, hheld⟩ := ih hcoherent h
      refine ⟨hc, fun r => ?_⟩
      rw [hheld r]
      by_cases heq : r = resource
      · have hfree' : t.native.held r = false := by simpa [heq] using hfree
        simp [hfree']
      · simp [heq]

/-- A strict teardown that goes through leaves nothing held: all that was acquired has been
released. -/
theorem cleanupNativeStrict_ok {thread : ThreadRun} {destroys : Resource → Bool} {t t' : Tracked}
    (hcoherent : t.Coherent) (h : cleanupNativeStrict thread destroys t = (none, t')) (r : Resource) :
    t'.native.held r = false ∧ (.acquired r ∈ t'.log → .released r ∈ t'.log) := by
  have hsockets : (closeSockets (stopNativeThread thread t)).Coherent :=
    closeNativeSocket_coherent (closeNativeSocket_coherent (stopNativeThread_coherent hcoherent thread) _) _
  obtain ⟨hc, hheld⟩ := destroyStrict_ok hsockets h
  have hfree : t'.native.held r = false := by
    rw [hheld r, closeSockets, held_closeNativeSocket, held_closeNativeSocket]
    cases r <;> simp [teardownOrder, held_stopNativeThread]
  refine ⟨hfree, fun hr => ?_⟩
  have hor := hc r hr
  rw [hfree] at hor
  simpa using hor

end ServerlessX.Gdr
