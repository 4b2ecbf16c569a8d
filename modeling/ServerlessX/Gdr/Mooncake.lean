import ServerlessX.Machine.Loop
import ServerlessX.Gdr.Ranges

/-! The staging backend: `transfer_one` over whatever the Mooncake engine answers. The calls
that matter to a batch are recorded in order. Clock reads succeed. -/
namespace ServerlessX.Gdr
open ServerlessX.Py

def kProtocol : String := "rdma"
def kMemoryLocation : String := "cuda:0"

/-! ### The engine -/

/-- `mooncake::TransferStatusEnum`; `transfer_one` tells three of its values apart. -/
inductive TransferStatusEnum where
  | waiting
  | pending
  | completed
  | other
deriving DecidableEq

structure TransferStatus where
  s : TransferStatusEnum
  transferredBytes : UInt64
deriving DecidableEq

structure BufferDesc where
  name : String
  addr : UInt64
  length : UInt64
  rkey : List UInt32
deriving DecidableEq

structure SegmentDesc where
  protocol : String
  /-- The names of the devices. -/
  devices : List String
  buffers : List BufferDesc
deriving DecidableEq

inductive OpCode where
  | read
  | write
deriving DecidableEq

structure TransferRequest where
  opcode : OpCode
  source : UInt64
  targetId : UInt64
  targetOffset : UInt64
  length : UInt64
deriving DecidableEq

inductive EngineEvent where
  | allocated (batch : UInt64)
  | submitted (batch : UInt64) (request : TransferRequest)
  | queried (batch : UInt64) (status : TransferStatus)
  | freed (batch : UInt64) (ok : Bool)
deriving DecidableEq

/-- What the engine and the clock answer; a status that is not ok gives its text. -/
structure EngineAnswers where
  openSegment : UInt64
  /-- `none` is the null pointer. -/
  segmentDesc : Option SegmentDesc
  /-- `none` is `INVALID_BATCH_ID`. -/
  allocateBatch : Option UInt64
  submit : Except String Unit
  /-- The queries in turn. -/
  queries : Nat → Except String TransferStatus
  /-- The answers to `freeBatchID` in turn. -/
  frees : Nat → Except String Unit
  metadataStart : UInt64
  metadataEnd : UInt64
  transferStart : UInt64
  /-- The clock after each query. -/
  clock : Nat → UInt64
  transferEnd : UInt64

/-! ### A transfer -/

/-- A context of the Mooncake backend; `engine` says whether the pointer is not null. -/
structure StagingContext where
  magic : UInt64
  engine : Bool
  buffer : UInt64
  bytes : UInt64
  gpuId : Int
  registered : Bool
  transferActive : Bool
  poisoned : Bool
deriving DecidableEq

structure TransferArgs where
  targetServerName : Option CString
  localOffset : UInt64
  remoteOffset : UInt64
  transferBytes : UInt64
  timeoutMs : UInt64
  /-- Whether the three output pointers are not null. -/
  outputs : Bool × Bool × Bool
  opcode : OpCode
  operationName : String

/-- What was written through the output pointers. -/
structure Outputs where
  metadataExchangeNs : Option UInt64
  submitToCompletionNs : Option UInt64
  transferredBytes : Option UInt64
deriving DecidableEq

/-- The context and the calls made so far. -/
structure Transfer where
  context : StagingContext
  outputs : Outputs
  log : List EngineEvent

/-- The length asked for: zero means the whole slab. -/
def effectiveLength (c : StagingContext) (args : TransferArgs) : UInt64 :=
  if args.transferBytes = 0 then c.bytes else args.transferBytes

/-- The range checks against the registered slab. -/
def rangeExceedsSlab (c : StagingContext) (args : TransferArgs) : Bool :=
  let transferBytes := effectiveLength c args
  transferBytes = 0 || args.localOffset > c.bytes || transferBytes > c.bytes - args.localOffset ||
    args.remoteOffset > c.bytes || transferBytes > c.bytes - args.remoteOffset

def transferChecks (c : StagingContext) (args : TransferArgs) : Except String Unit :=
  if c.magic ≠ kContextMagic ∨ c.engine = false ∨ c.registered = false then
    .error "GDR context is invalid or closed"
  else if c.poisoned then .error "GDR context is poisoned"
  else if c.transferActive then .error "GDR transfer is already active"
  else if (args.targetServerName.map (·.bytes)).getD [] = [] then
    .error "target server name is empty"
  else if args.timeoutMs = 0 ∨ args.timeoutMs > 600000 then
    .error "completion timeout must be in [1, 600000] ms"
  else if args.outputs ≠ (true, true, true) then .error "transfer output pointer is null"
  else if rangeExceedsSlab c args then
    .error "transfer range exceeds the registered staging slab"
  else .ok ()

/-- The one buffer of a descriptor that is an exact CUDA RDMA buffer of our size. -/
def targetBuffer (c : StagingContext) (descriptor : Option SegmentDesc) : Option BufferDesc :=
  match descriptor with
  | some ⟨protocol, devices, [buffer]⟩ =>
    if protocol = kProtocol ∧ kRequiredDevice ∈ devices ∧ buffer.name = kMemoryLocation ∧
        buffer.length = c.bytes ∧ buffer.rkey ≠ [] then
      some buffer
    else none
  | _ => none

/-- `Status::ok` -/
def succeeded : Except String Unit → Bool
  | .ok _ => true
  | .error _ => false

def isFreed : EngineEvent → Bool
  | .freed _ _ => true
  | _ => false

/-- The sequence that stands on every way out behind the submission: free the batch, take
the flag down, and poison the context when the batch could not be freed. -/
def freeBatch (engine : EngineAnswers) (batch : UInt64) (t : Transfer) : Except String Unit × Transfer :=
  let freed := engine.frees (t.log.countP isFreed)
  (freed, { t with
    context := { t.context with
      transferActive := false, poisoned := t.context.poisoned || !succeeded freed }
    log := t.log ++ [.freed batch (succeeded freed)] })

/-- One turn of the completion loop: it breaks with the status, fails, or goes on. -/
def pollTurn (engine : EngineAnswers) (args : TransferArgs) (batch transferBytes : UInt64) (turn : Nat)
    (t : Transfer) : (Except String TransferStatus ⊕ Nat) × Transfer :=
  let failing := fun message => (.inl (.error message), (freeBatch engine batch t).2)
  match engine.queries turn with
  | .error text => failing ("getTransferStatus failed: " ++ text)
  | .ok status =>
    let t := { t with log := t.log ++ [.queried batch status] }
    let failing := fun message => (.inl (.error message), (freeBatch engine batch t).2)
    if status.s = .completed ∧ status.transferredBytes = transferBytes then (.inl (.ok status), t)
    -- the count of a completed transfer can be one slice behind, but not ahead
    else if status.s = .completed ∧ status.transferredBytes > transferBytes then
      failing ("RDMA " ++ args.operationName ++ " completion byte count exceeds the requested range")
    else if status.s ≠ .waiting ∧ status.s ≠ .pending ∧ status.s ≠ .completed then
      failing ("RDMA " ++ args.operationName ++ " entered a non-completable status")
    else if engine.clock turn - engine.transferStart ≥ args.timeoutMs * 1000000 then
      failing ("RDMA " ++ args.operationName ++ " completion or byte accounting timed out")
    else (.inr (turn + 1), t)

/-- `transfer_one` from the submission on. -/
def completeTransfer (engine : EngineAnswers) (args : TransferArgs) (batch transferBytes : UInt64)
    (turns : Nat) (t : Transfer) : Option (Except String Unit) × Transfer :=
  match Machine.loop (pollTurn engine args batch transferBytes) turns 0 t with
  | (none, t) => (none, t)
  | (some (.error message), t) => (some (.error message), t)
  | (some (.ok status), t) =>
    let t := { t with outputs := { t.outputs with
      submitToCompletionNs := some (engine.transferEnd - engine.transferStart)
      transferredBytes := some status.transferredBytes } }
    match freeBatch engine batch t with
    | (.error text, t) => (some (.error ("freeBatchID failed: " ++ text)), t)
    | (.ok _, t) =>
      if status.transferredBytes ≠ transferBytes then
        (some (.error "completion byte count differs from source buffer size"), t)
      else (some (.ok ()), t)

/-- `transfer_one` once it has a batch. -/
def submitBatch (engine : EngineAnswers) (args : TransferArgs) (buffer : BufferDesc) (batch : UInt64)
    (turns : Nat) (t : Transfer) : Option (Except String Unit) × Transfer :=
  if buffer.addr > 0xffffffffffffffff - args.remoteOffset then
    (some (.error "remote staging offset overflows the address space"), t)
  else
    let transferBytes := effectiveLength t.context args
    let request : TransferRequest :=
      { opcode := args.opcode, source := t.context.buffer + args.localOffset
        targetId := engine.openSegment, targetOffset := buffer.addr + args.remoteOffset
        length := transferBytes }
    let t := { t with
      context := { t.context with transferActive := true }
      log := t.log ++ [.submitted batch request] }
    match engine.submit with
    | .error text =>
      (some (.error ("submitTransfer failed: " ++ text)), (freeBatch engine batch t).2)
    | .ok _ => completeTransfer engine args batch transferBytes turns t

/-- The body of `transfer_one` under the context's mutex; `none` while it has not returned. -/
def transferBody (c : StagingContext) (args : TransferArgs) (engine : EngineAnswers) (turns : Nat) :
    Option (Except String Unit) × Transfer :=
  let t : Transfer := ⟨c, ⟨none, none, none⟩, []⟩
  match transferChecks c args with
  | .error message => (some (.error message), t)
  | .ok _ =>
    let t := { t with outputs := { t.outputs with
      metadataExchangeNs := some (engine.metadataEnd - engine.metadataStart) } }
    match targetBuffer c engine.segmentDesc with
    | none => (some (.error "target is not one exact CUDA RDMA buffer on mlx5_0"), t)
    | some buffer =>
      match engine.allocateBatch with
      | none => (some (.error "allocateBatchID failed"), t)
      | some batch =>
        submitBatch engine args buffer batch turns { t with log := t.log ++ [.allocated batch] }

/-- What a transfer returned and left. -/
structure Transferred where
  result : Except String Unit
  transfer : Transfer

/-- The `catch` of `transfer_one`. -/
def Transferred.code (r : Transferred) : Int :=
  match r.result with
  | .ok _ => 0
  | .error _ => if r.transfer.context.poisoned then -2 else -1

/-- `transfer_one` on a context of the table. -/
def transferOne (c : StagingContext) (args : TransferArgs) (engine : EngineAnswers) (turns : Nat) :
    Option Transferred :=
  match transferBody c args engine turns with
  | (some result, t) => some ⟨result, t⟩
  | (none, _) => none

/-! ### The batch -/

/-- The batch was freed, once and no other, and the flags say how that went. -/
structure Settled (batch : UInt64) (t : Transfer) : Prop where
  freed : ∃ ok, t.log.filter isFreed = [.freed batch ok] ∧ t.context.poisoned = !ok
  idle : t.context.transferActive = false

/-- Between the submission and the end. -/
structure InFlight (t : Transfer) : Prop where
  none_freed : t.log.filter isFreed = []
  active : t.context.transferActive = true
  clean : t.context.poisoned = false

theorem InFlight.log {t : Transfer} (h : InFlight t) {event : EngineEvent} (hevent : isFreed event = false) :
    InFlight { t with log := t.log ++ [event] } := by
  refine ⟨?_, h.active, h.clean⟩
  rw [List.filter_append, h.none_freed, List.filter_singleton, hevent]
  rfl

/-- The sequence on every way out settles the batch. -/
theorem InFlight.freeBatch {t : Transfer} (h : InFlight t) (engine : EngineAnswers) (batch : UInt64) :
    Settled batch (freeBatch engine batch t).2 := by
  refine ⟨⟨succeeded (engine.frees (t.log.countP isFreed)), ?_, ?_⟩, rfl⟩
  · simp only [Gdr.freeBatch]
    rw [List.filter_append, h.none_freed]
    rfl
  · simp only [Gdr.freeBatch, h.clean, Bool.false_or]

theorem freeBatch_ok {engine : EngineAnswers} {batch : UInt64} {t u : Transfer} {value : Unit}
    (h : freeBatch engine batch t = (.ok value, u)) :
    u.log = t.log ++ [.freed batch true] ∧ u.context.poisoned = t.context.poisoned := by
  simp only [freeBatch, Prod.mk.injEq] at h
  obtain ⟨hok, rfl⟩ := h
  simp only [hok, succeeded, Bool.not_true, Bool.or_false, and_self]

/-- How the completion loop ends: with the completed status it saw last, or settled. -/
def LoopEnd (batch transferBytes : UInt64) (result : Except String TransferStatus) (t : Transfer) : Prop :=
  match result with
  | .ok status => InFlight t ∧ status = ⟨.completed, transferBytes⟩ ∧
      ∃ before, t.log = before ++ [.queried batch status]
  | .error _ => Settled batch t

/-- What one turn of the loop comes to. -/
def TurnEnd (batch transferBytes : UInt64) :
    (Except String TransferStatus ⊕ Nat) × Transfer → Prop
  | (.inl result, t) => LoopEnd batch transferBytes result t
  | (.inr _, t) => InFlight t

theorem InFlight.pollTurn {t : Transfer} (h : InFlight t) (engine : EngineAnswers) (args : TransferArgs)
    (batch transferBytes : UInt64) (turn : Nat) :
    TurnEnd batch transferBytes (pollTurn engine args batch transferBytes turn t) := by
  unfold Gdr.pollTurn
  cases engine.queries turn with
  | error text => exact h.freeBatch engine batch
  | ok status =>
    have hlogged : InFlight { t with log := t.log ++ [.queried batch status] } := h.log rfl
    have hsettled := hlogged.freeBatch engine batch
    dsimp only
    split_ifs with hdone
    · exact ⟨hlogged, by rw [← hdone.1, ← hdone.2], t.log, rfl⟩
    · exact hsettled
    · exact hsettled
    · exact hsettled
    · exact hlogged

theorem InFlight.loop {t u : Transfer} (h : InFlight t) {engine : EngineAnswers} {args : TransferArgs}
    {batch transferBytes : UInt64} {turns : Nat} {result : Except String TransferStatus}
    (hrun : Machine.loop (Gdr.pollTurn engine args batch transferBytes) turns 0 t = (some result, u)) :
    LoopEnd batch transferBytes result u := by
  refine Machine.loop_result (I := fun _ t => InFlight t) ?_ ?_ h hrun
  · intro turn t next v hin hturn
    have hend := hin.pollTurn engine args batch transferBytes turn
    rwa [hturn] at hend
  · intro turn t result v hin hturn
    have hend := hin.pollTurn engine args batch transferBytes turn
    rwa [hturn] at hend

/-- The result of a completed transfer: freed behind the status that completed it. -/
def CompletedBatch (batch transferBytes : UInt64) (t : Transfer) : Prop :=
  ∃ before, t.log = before ++ [.queried batch ⟨.completed, transferBytes⟩, .freed batch true]

/-- Every way out behind the submission. -/
def WayOut (batch transferBytes : UInt64) (result : Except String Unit) (t : Transfer) : Prop :=
  Settled batch t ∧ (result = .ok () → CompletedBatch batch transferBytes t ∧ t.context.poisoned = false)

theorem completeTransfer_wayOut {engine : EngineAnswers} {args : TransferArgs}
    {batch transferBytes : UInt64} {turns : Nat} {t u : Transfer} {result : Except String Unit}
    (h : InFlight t) (hrun : completeTransfer engine args batch transferBytes turns t = (some result, u)) :
    WayOut batch transferBytes result u := by
  unfold completeTransfer at hrun
  split at hrun
  · cases hrun
  · next message v hend =>
    cases hrun
    exact ⟨h.loop hend, fun heq => by cases heq⟩
  · next status v hend =>
    obtain ⟨hin, hstatus, before, hlog⟩ := h.loop hend
    dsimp only at hrun
    have hin' : InFlight { v with outputs := { v.outputs with
        submitToCompletionNs := some (engine.transferEnd - engine.transferStart)
        transferredBytes := some status.transferredBytes } } := ⟨hin.none_freed, hin.active, hin.clean⟩
    have hsettled := hin'.freeBatch engine batch
    split at hrun
    · next text w hfree =>
      rw [hfree] at hsettled
      cases hrun
      exact ⟨hsettled, fun heq => by cases heq⟩
    · next value w hfree =>
      rw [hfree] at hsettled
      obtain ⟨hfreed, hpoisoned⟩ := freeBatch_ok hfree
      rw [hstatus, if_neg (by simp)] at hrun
      cases hrun
      refine ⟨hsettled, fun _ => ⟨⟨before, ?_⟩, ?_⟩⟩
      · rw [hfreed, hlog, hstatus, List.append_assoc]
        rfl
      · rw [hpoisoned]
        exact hin.clean

/-! ### What is recorded -/

/-- Neither an allocation nor a submission. -/
def isFollowUp : EngineEvent → Bool
  | .queried _ _ => true
  | .freed _ _ => true
  | _ => false

/-- The same log with follow-ups behind it. -/
def Follows (log log' : List EngineEvent) : Prop :=
  ∃ more, log' = log ++ more ∧ ∀ event ∈ more, isFollowUp event = true

theorem Follows.refl (log : List EngineEvent) : Follows log log := ⟨[], by simp, by simp⟩

theorem Follows.snoc {log log' : List EngineEvent} (h : Follows log log') {event : EngineEvent}
    (hevent : isFollowUp event = true) : Follows log (log' ++ [event]) := by
  obtain ⟨more, rfl, hmore⟩ := h
  refine ⟨more ++ [event], by rw [List.append_assoc], ?_⟩
  intro e he
  rcases List.mem_append.mp he with he | he
  · exact hmore e he
  · rwa [List.mem_singleton.mp he]

theorem Follows.freeBatch {log : List EngineEvent} {t : Transfer} (h : Follows log t.log)
    (engine : EngineAnswers) (batch : UInt64) : Follows log (freeBatch engine batch t).2.log :=
  h.snoc rfl

theorem Follows.pollTurn {log : List EngineEvent} {t : Transfer} (h : Follows log t.log)
    (engine : EngineAnswers) (args : TransferArgs) (batch transferBytes : UInt64) (turn : Nat) :
    Follows log (pollTurn engine args batch transferBytes turn t).2.log := by
  unfold Gdr.pollTurn
  cases engine.queries turn with
  | error text => exact h.freeBatch engine batch
  | ok status =>
    have hqueried : Follows log (t.log ++ [.queried batch status]) := h.snoc rfl
    dsimp only
    split_ifs
    · exact hqueried
    · exact hqueried.snoc rfl
    · exact hqueried.snoc rfl
    · exact hqueried.snoc rfl
    · exact hqueried

theorem completeTransfer_follows (engine : EngineAnswers) (args : TransferArgs)
    (batch transferBytes : UInt64) (turns : Nat) (t : Transfer) :
    Follows t.log (completeTransfer engine args batch transferBytes turns t).2.log := by
  have hloop : Follows t.log
      (Machine.loop (Gdr.pollTurn engine args batch transferBytes) turns 0 t).2.log :=
    Machine.loop_keeps (J := fun u : Transfer => Follows t.log u.log)
      (fun turn u hu => hu.pollTurn engine args batch transferBytes turn) turns 0 (.refl t.log)
  unfold completeTransfer
  generalize Machine.loop (Gdr.pollTurn engine args batch transferBytes) turns 0 t = ended at hloop
  obtain ⟨result, u⟩ := ended
  rcases result with _ | message | status
  · exact hloop
  · exact hloop
  · dsimp only
    split
    · next text v hfree =>
      have hlog := congrArg (fun x => x.2.log) hfree
      exact hlog ▸ hloop.snoc rfl
    · next value v hfree =>
      have hlog := congrArg (fun x => x.2.log) hfree
      have hv : Follows t.log v.log := hlog ▸ hloop.snoc rfl
      split
      · exact hv
      · exact hv

/-! ### The submission -/

/-- The target address does not wrap. -/
def AddressFits (buffer : BufferDesc) (args : TransferArgs) : Prop :=
  buffer.addr.toNat + args.remoteOffset.toNat < 2 ^ 64

theorem addressFits_iff (buffer : BufferDesc) (args : TransferArgs) :
    AddressFits buffer args ↔ ¬ buffer.addr > 0xffffffffffffffff - args.remoteOffset := by
  have hlimit := (toNat_limit toNat_uintptrMax args.remoteOffset).2
  have hoffset := args.remoteOffset.toNat_lt
  change AddressFits buffer args ↔ ¬ buffer.addr > uintptrMax - args.remoteOffset
  rw [AddressFits, gt_iff_lt, UInt64.not_lt, UInt64.le_iff_toNat_le, hlimit]
  omega

/-- The request that is submitted. -/
def requestOf (engine : EngineAnswers) (args : TransferArgs) (buffer : BufferDesc)
    (c : StagingContext) : TransferRequest :=
  ⟨args.opcode, c.buffer + args.localOffset, engine.openSegment, buffer.addr + args.remoteOffset,
    effectiveLength c args⟩

/-- The transfer with the request on its way. -/
def submittedOf (engine : EngineAnswers) (args : TransferArgs) (buffer : BufferDesc) (batch : UInt64)
    (t : Transfer) : Transfer :=
  { t with
    context := { t.context with transferActive := true }
    log := t.log ++ [.submitted batch (requestOf engine args buffer t.context)] }

theorem submitBatch_overflow {engine : EngineAnswers} {args : TransferArgs} {buffer : BufferDesc}
    (h : ¬ AddressFits buffer args) (batch : UInt64) (turns : Nat) (t : Transfer) :
    submitBatch engine args buffer batch turns t =
      (some (.error "remote staging offset overflows the address space"), t) := by
  rw [addressFits_iff, not_not] at h
  exact if_pos h

theorem submitBatch_fits {engine : EngineAnswers} {args : TransferArgs} {buffer : BufferDesc}
    (h : AddressFits buffer args) (batch : UInt64) (turns : Nat) (t : Transfer) :
    submitBatch engine args buffer batch turns t =
      match engine.submit with
      | .error text => (some (.error ("submitTransfer failed: " ++ text)),
          (freeBatch engine batch (submittedOf engine args buffer batch t)).2)
      | .ok _ => completeTransfer engine args batch (effectiveLength t.context args) turns
          (submittedOf engine args buffer batch t) := by
  rw [addressFits_iff] at h
  exact if_neg h

theorem submitBatch_follows {engine : EngineAnswers} {args : TransferArgs} {buffer : BufferDesc}
    (h : AddressFits buffer args) (batch : UInt64) (turns : Nat) (t : Transfer) :
    Follows (t.log ++ [.submitted batch (requestOf engine args buffer t.context)])
      (submitBatch engine args buffer batch turns t).2.log := by
  rw [submitBatch_fits h]
  cases engine.submit with
  | error text => exact (Follows.refl _).snoc rfl
  | ok value => exact completeTransfer_follows _ _ _ _ _ _

theorem submittedOf_inFlight {engine : EngineAnswers} {args : TransferArgs} {buffer : BufferDesc}
    {batch : UInt64} {t : Transfer} (hlog : t.log.filter isFreed = [])
    (hclean : t.context.poisoned = false) : InFlight (submittedOf engine args buffer batch t) := by
  refine ⟨?_, rfl, hclean⟩
  rw [submittedOf, List.filter_append, hlog]
  rfl

theorem submitBatch_wayOut {engine : EngineAnswers} {args : TransferArgs} {buffer : BufferDesc}
    {batch : UInt64} {turns : Nat} {t u : Transfer} {result : Except String Unit}
    (hfits : AddressFits buffer args) (hlog : t.log.filter isFreed = [])
    (hclean : t.context.poisoned = false)
    (hrun : submitBatch engine args buffer batch turns t = (some result, u)) :
    WayOut batch (effectiveLength t.context args) result u := by
  have hin : InFlight (submittedOf engine args buffer batch t) := submittedOf_inFlight hlog hclean
  rw [submitBatch_fits hfits] at hrun
  cases hsubmit : engine.submit with
  | error text =>
    rw [hsubmit] at hrun
    cases hrun
    exact ⟨hin.freeBatch engine batch, fun heq => by cases heq⟩
  | ok value =>
    rw [hsubmit] at hrun
    exact completeTransfer_wayOut hin hrun

/-! ### One call -/

/-- The checks pass on an open context without a transfer, for a range inside the slab. -/
theorem transferChecks_ok {c : StagingContext} {args : TransferArgs} {value : Unit}
    (h : transferChecks c args = .ok value) :
    c.poisoned = false ∧ c.transferActive = false ∧ rangeExceedsSlab c args = false := by
  unfold transferChecks at h
  split_ifs at h with _ hpoisoned hactive _ _ _ hrange
  exact ⟨by simpa using hpoisoned, by simpa using hactive, by simpa using hrange⟩

/-- A call that gets a batch goes on to submit it; every other one has failed. -/
theorem transferBody_cases (c : StagingContext) (args : TransferArgs) (engine : EngineAnswers)
    (turns : Nat) :
    (∃ message outputs, transferBody c args engine turns = (some (.error message), ⟨c, outputs, []⟩)) ∨
      ∃ outputs buffer batch, transferChecks c args = .ok () ∧
        targetBuffer c engine.segmentDesc = some buffer ∧ engine.allocateBatch = some batch ∧
        transferBody c args engine turns =
          submitBatch engine args buffer batch turns ⟨c, outputs, [.allocated batch]⟩ := by
  unfold transferBody
  cases hchecks : transferChecks c args with
  | error message => exact .inl ⟨_, _, rfl⟩
  | ok value =>
    cases htarget : targetBuffer c engine.segmentDesc with
    | none => exact .inl ⟨_, _, rfl⟩
    | some buffer =>
      cases hbatch : engine.allocateBatch with
      | none => exact .inl ⟨_, _, rfl⟩
      | some batch => exact .inr ⟨_, buffer, batch, rfl, rfl, rfl, rfl⟩

/-- The batch of a call is balanced: freed once, the flags and the returned value say how that
went, and success means that the transfer had completed with its length. -/
structure Balanced (c : StagingContext) (args : TransferArgs) (batch : UInt64) (r : Transferred) : Prop where
  freedOnce : ∃ ok, r.transfer.log.filter isFreed = [.freed batch ok]
  idle : r.transfer.context.transferActive = false
  poisoned : r.transfer.context.poisoned = true ↔ .freed batch false ∈ r.transfer.log
  code : r.code = -2 ↔ r.transfer.context.poisoned = true
  success : r.code = 0 → CompletedBatch batch (effectiveLength c args) r.transfer

theorem code_eq_zero {r : Transferred} (h : r.code = 0) : r.result = .ok () := by
  unfold Transferred.code at h
  cases hresult : r.result with
  | ok value => rfl
  | error message =>
    rw [hresult] at h
    cases hpoisoned : r.transfer.context.poisoned <;> simp [hpoisoned] at h

theorem balanced_of_wayOut {c : StagingContext} {args : TransferArgs} {batch : UInt64} {r : Transferred}
    (h : WayOut batch (effectiveLength c args) r.result r.transfer) : Balanced c args batch r := by
  obtain ⟨⟨⟨ok, hfilter, hpoisoned⟩, hidle⟩, hsuccess⟩ := h
  refine ⟨⟨ok, hfilter⟩, hidle, ?_, ?_, fun hcode => (hsuccess (code_eq_zero hcode)).1⟩
  · have hmem : EngineEvent.freed batch false ∈ r.transfer.log ↔
        .freed batch false ∈ r.transfer.log.filter isFreed := by
      simp [isFreed]
    rw [hmem, hfilter, hpoisoned]
    cases ok <;> simp
  · unfold Transferred.code
    cases hresult : r.result with
    | ok value => simp [(hsuccess hresult).2]
    | error message => cases hp : r.transfer.context.poisoned <;> simp

/-- The remote address is one the offset can be added to. -/
def TargetAddressFits (c : StagingContext) (args : TransferArgs) (engine : EngineAnswers) : Prop :=
  ∀ buffer, targetBuffer c engine.segmentDesc = some buffer → AddressFits buffer args

theorem allocated_of_follows {batch batch' : UInt64} {request : TransferRequest}
    {log : List EngineEvent} (h : Follows ([.allocated batch'] ++ [.submitted batch' request]) log)
    (hmem : .allocated batch ∈ log) : batch = batch' := by
  obtain ⟨more, rfl, hmore⟩ := h
  simp only [List.cons_append, List.nil_append, List.mem_cons, EngineEvent.allocated.injEq,
    reduceCtorEq, false_or] at hmem
  rcases hmem with heq | hlater
  · exact heq
  · cases hmore _ hlater

/-- Once a batch is allocated, every exit leaves it balanced, if and only if the target
address does not wrap: the refusal of an address that does stands between the allocation and
the submission and keeps the batch. -/
theorem transfer_balance {c : StagingContext} {args : TransferArgs} {engine : EngineAnswers}
    {turns : Nat} {r : Transferred} (hrun : transferOne c args engine turns = some r) {batch : UInt64}
    (hbatch : .allocated batch ∈ r.transfer.log) :
    Balanced c args batch r ↔ TargetAddressFits c args engine := by
  unfold transferOne at hrun
  obtain ⟨message, outputs, hbody⟩ | ⟨outputs, buffer, batch', hchecks, htarget, -, hbody⟩ :=
    transferBody_cases c args engine turns
  · rw [hbody] at hrun
    cases hrun
    cases hbatch
  · rw [hbody] at hrun
    by_cases hfits : AddressFits buffer args
    · have hfollows := @submitBatch_follows engine args buffer hfits batch' turns
        ⟨c, outputs, [.allocated batch']⟩
      cases hsubmit : submitBatch engine args buffer batch' turns ⟨c, outputs, [.allocated batch']⟩ with
      | mk result u =>
        rw [hsubmit] at hrun hfollows
        cases result with
        | none => cases hrun
        | some result =>
          cases hrun
          obtain rfl := allocated_of_follows hfollows hbatch
          refine iff_of_true (balanced_of_wayOut ?_) ?_
          · exact submitBatch_wayOut hfits rfl (transferChecks_ok hchecks).1 hsubmit
          · intro buffer' htarget'
            rw [htarget, Option.some.injEq] at htarget'
            rwa [← htarget']
    · rw [submitBatch_overflow hfits] at hrun
      cases hrun
      refine iff_of_false ?_ fun hall => hfits (hall buffer htarget)
      intro hbalanced
      obtain ⟨ok, hfreed⟩ := hbalanced.freedOnce
      cases hfreed

section Slab

def slabContext : StagingContext := ⟨kContextMagic, true, 4096, 8, 0, true, false, false⟩

/-- One byte, the second of each slab. -/
def slabArgs : TransferArgs :=
  ⟨some ⟨[97], by decide⟩, 1, 1, 1, 1000, (true, true, true), .read, "READ"⟩

/-- The target announces its buffer at that address; everything succeeds. -/
def slabEngine (addr : UInt64) : EngineAnswers where
  openSegment := 3
  segmentDesc := some ⟨kProtocol, [kRequiredDevice], [⟨kMemoryLocation, addr, 8, [1]⟩]⟩
  allocateBatch := some 5
  submit := .ok ()
  queries := fun _ => .ok ⟨.completed, 1⟩
  frees := fun _ => .ok ()
  metadataStart := 10
  metadataEnd := 20
  transferStart := 30
  clock := fun _ => 40
  transferEnd := 50

/-- The context of a call that kept its batch: the result is -1 and nothing was freed. -/
def keptBatch : Transferred :=
  ⟨.error "remote staging offset overflows the address space",
    ⟨slabContext, ⟨some 10, none, none⟩, [.allocated 5]⟩⟩

theorem transferOne_kept : transferOne slabContext slabArgs (slabEngine uintptrMax) 1 = some keptBatch := by
  rfl

/-- A descriptor at the last address keeps the batch. -/
theorem transfer_keeps_batch : ¬ ∀ (c : StagingContext) (args : TransferArgs) (engine : EngineAnswers)
    (turns : Nat) (r : Transferred) (batch : UInt64), transferOne c args engine turns = some r →
      .allocated batch ∈ r.transfer.log → Balanced c args batch r := by
  intro h
  obtain ⟨ok, hfreed⟩ := (h _ _ _ _ _ 5 transferOne_kept (List.mem_singleton.mpr rfl)).freedOnce
  cases hfreed

/-- A descriptor anywhere else does not. -/
theorem transfer_balance_sent : ∃ r, transferOne slabContext slabArgs (slabEngine 65536) 1 = some r ∧
    (Balanced slabContext slabArgs 5 r ↔ TargetAddressFits slabContext slabArgs (slabEngine 65536)) :=
  ⟨_, rfl, @transfer_balance slabContext slabArgs (slabEngine 65536) 1 _ rfl 5 (.head _)⟩

end Slab


end ServerlessX.Gdr
