import ServerlessX.Rfork.Token

/-! `rfork_runtime.c`: preparing a fork, releasing the parent's device and resuming
on the remote machine, over an injected table of system calls. A callback may
answer anything and change its environment; every call made is recorded. -/
namespace ServerlessX.Rfork
open ServerlessX.Py

def SPD_RFORK_ROLE_FD : Int := 198
def SPD_RFORK_DEVICE_PATH : String := "/dev/mitosis-syscalls"
def SPD_RFORK_IOCTL_PREPARE : Nat := 4
def SPD_RFORK_IOCTL_RESUME_REMOTE : Nat := 6
def SPD_MAX_EINTR_RETRIES : Nat := 8
def EINTR : Int := 4
def EPROTO : Int := 71

inductive Operation where
  | none
  | prepare
  | resumeRemote
deriving DecidableEq

inductive Stage where
  | none
  | config
  | roleBefore
  | pidBefore
  | deviceOpen
  | ioctl
  | roleAfter
  | pidAfter
  | deviceClose
  | complete
deriving DecidableEq

structure Context where
  abiVersion : UInt32
  handlerId : UInt32
  sourceMachineId : UInt32
  targetMachineId : UInt32
  runCookie : Cookie
deriving DecidableEq

/-- What the third argument of an ioctl is or points to. -/
inductive Argument where
  | value (n : UInt32)
  | resumeRemoteRequest (machineId handlerId : UInt32)
deriving DecidableEq

/-- What a callback returns, what it leaves in `errno_out`, and its next state. -/
structure Reply (σ : Type) where
  result : Int
  errno : Int
  next : σ

/-- A table of callbacks with no null pointer. `pread` is given the rest of the
buffer and also returns what it stored at its start. -/
structure IoTable (σ : Type) where
  openDevice : String → σ → Reply σ
  ioctlCall : Int → Nat → Argument → σ → Reply σ
  preadCall : Int → Bytes → Nat → σ → Reply σ × Bytes
  pwriteCall : Int → Bytes → Nat → σ → Reply σ
  closeFd : Int → σ → Reply σ
  getProcessId : σ → Reply σ

/-- `struct spd_rfork_io_ops`, whose function pointers may be null. -/
structure IoOps (σ : Type) where
  openDevice : Option (String → σ → Reply σ)
  ioctlCall : Option (Int → Nat → Argument → σ → Reply σ)
  preadCall : Option (Int → Bytes → Nat → σ → Reply σ × Bytes)
  pwriteCall : Option (Int → Bytes → Nat → σ → Reply σ)
  closeFd : Option (Int → σ → Reply σ)
  getProcessId : Option (σ → Reply σ)

/-- A call with its answer; `validated` marks that a token just read passed its
check as that role. -/
inductive Call where
  | pread (fd : Int) (length offset : Nat) (result errno : Int)
  | getpid (result errno : Int)
  | openDevice (path : String) (result errno : Int)
  | ioctl (fd : Int) (request : Nat) (argument : Argument) (result errno : Int)
  | close (fd result errno : Int)
  | validated (role : Role)
deriving DecidableEq

/-- The state of the callbacks and the calls made so far. -/
structure World (σ : Type) where
  env : σ
  calls : List Call

structure Audit where
  abiVersion : UInt32
  operation : Operation
  stage : Stage
  status : Status
  roleBefore : Role
  roleAfter : Role
  handlerId : UInt32
  sourceMachineId : UInt32
  targetMachineId : UInt32
  observedTokenMachineId : UInt32
  observedTokenChecksum : UInt32
  runCookie : Bytes
  roleFd : Int
  deviceFd : Int
  pidBefore : Int
  pidAfter : Int
  pidErrno : Int
  ioctlResult : Int
  roleReadErrno : Int
  openErrno : Int
  ioctlErrno : Int
  closeResult : Int
  closeErrno : Int
  closeAttempted : Bool
  closeSucceeded : Bool
  deviceFdSafeToClose : Bool
  ioctlReturned : Bool
deriving DecidableEq

structure Outcome where
  status : Status
  role : Role
  audit : Audit
deriving DecidableEq

section Calls
variable {σ : Type}

/-- `spd_ops_are_valid`, with the table it makes safe to use. -/
def opsAreValid (ops : IoOps σ) : Option (IoTable σ) :=
  match ops with
  | ⟨some openDevice, some ioctlCall, some preadCall, some pwriteCall, some closeFd,
      some getProcessId⟩ =>
    some ⟨openDevice, ioctlCall, preadCall, pwriteCall, closeFd, getProcessId⟩
  | _ => none

/-- A null table stands for the default one. -/
def requestedOps (default : IoOps σ) (requested : Option (IoOps σ)) : Option (IoTable σ) :=
  opsAreValid (requested.getD default)

def World.push (w : World σ) (env : σ) (call : Call) : World σ := ⟨env, w.calls ++ [call]⟩

def World.mark (w : World σ) (role : Role) : World σ := w.push w.env (.validated role)

namespace IoTable
variable (ops : IoTable σ)

/-- The buffer after `pread`: it writes from the start and within the bounds. -/
def stored (buffer data : Bytes) : Bytes := data.take buffer.length ++ buffer.drop data.length

def callPread (buffer : Bytes) (offset : Nat) (w : World σ) : Reply σ × Bytes × World σ :=
  let (r, data) := ops.preadCall SPD_RFORK_ROLE_FD buffer offset w.env
  (r, stored buffer data,
    w.push r.next (.pread SPD_RFORK_ROLE_FD buffer.length offset r.result r.errno))

def callGetpid (w : World σ) : Reply σ × World σ :=
  let r := ops.getProcessId w.env
  (r, w.push r.next (.getpid r.result r.errno))

def callOpen (w : World σ) : Reply σ × World σ :=
  let r := ops.openDevice SPD_RFORK_DEVICE_PATH w.env
  (r, w.push r.next (.openDevice SPD_RFORK_DEVICE_PATH r.result r.errno))

def callIoctl (fd : Int) (request : Nat) (argument : Argument) (w : World σ) : Reply σ × World σ :=
  let r := ops.ioctlCall fd request argument w.env
  (r, w.push r.next (.ioctl fd request argument r.result r.errno))

def callClose (fd : Int) (w : World σ) : Reply σ × World σ :=
  let r := ops.closeFd fd w.env
  (r, w.push r.next (.close fd r.result r.errno))

end IoTable

/-- `errno > 0 ? errno : EPROTO` -/
def positiveErrno (errno : Int) : Int := if errno > 0 then errno else EPROTO

def auditInit (context : Option Context) (operation : Operation) : Outcome where
  status := .errInvalidArgument
  role := .invalid
  audit :=
    { abiVersion := SPD_RFORK_ABI_VERSION, operation := operation, stage := .config,
      status := .errInvalidArgument, roleBefore := .invalid, roleAfter := .invalid,
      handlerId := (context.map (·.handlerId)).getD 0,
      sourceMachineId := (context.map (·.sourceMachineId)).getD 0,
      targetMachineId := (context.map (·.targetMachineId)).getD 0,
      observedTokenMachineId := 0, observedTokenChecksum := 0,
      runCookie := (context.map (·.runCookie.bytes)).getD (List.replicate SPD_RFORK_RUN_COOKIE_SIZE 0),
      roleFd := SPD_RFORK_ROLE_FD, deviceFd := -1, pidBefore := -1, pidAfter := -1, pidErrno := 0,
      ioctlResult := -1, roleReadErrno := 0, openErrno := 0, ioctlErrno := 0, closeResult := -1,
      closeErrno := 0, closeAttempted := false, closeSucceeded := false,
      deviceFdSafeToClose := false, ioctlReturned := false }

def finish (outcome : Outcome) (status : Status) (stage : Stage) : Outcome where
  status := status
  role := if status ≠ .ok then .invalid else outcome.role
  audit := { outcome.audit with status := status, stage := stage }

def validateContext (context : Option Context) : Status :=
  match context with
  | none => .errInvalidArgument
  | some context =>
    if context.abiVersion ≠ SPD_RFORK_ABI_VERSION then .errInvalidArgument
    else if !cookieIsNonzero context.runCookie then .errCookieInvalid
    else .ok

/-- The state of the read loop: the buffer, how much of it is in, and the
interruptions so far. -/
structure ReadState where
  wire : Bytes
  completed : Nat
  interrupted : Nat

/-- One turn of the read loop: how it ends, with the status and errno of a failed read
or the full buffer, or the state it continues in. -/
def readTurn (ops : IoTable σ) (s : ReadState) (w : World σ) :
    (Except (Status × Int) Bytes ⊕ ReadState) × World σ :=
  if s.completed < SPD_RFORK_ROLE_TOKEN_SIZE then
    let (r, rest, w) := ops.callPread (s.wire.drop s.completed) s.completed w
    let wire := s.wire.take s.completed ++ rest
    if r.result < 0 then
      if r.errno = EINTR ∧ s.interrupted < SPD_MAX_EINTR_RETRIES then
        (.inr ⟨wire, s.completed, s.interrupted + 1⟩, w)
      else (.inl (.error (.errRoleRead, positiveErrno r.errno)), w)
    else if r.errno ≠ 0 ∨ r.result = 0 ∨ r.result > SPD_RFORK_ROLE_TOKEN_SIZE - s.completed then
      (.inl (.error (.errRoleShortRead, if r.errno ≠ 0 then r.errno else EPROTO)), w)
    else (.inr ⟨wire, s.completed + r.result.toNat, s.interrupted⟩, w)
  else (.inl (.ok s.wire), w)

def readLoop (ops : IoTable σ) : Nat → ReadState → World σ → Except (Status × Int) Bytes × World σ
  | 0, _, w => (.error (.errRoleRead, EPROTO), w)
  | fuel + 1, s, w =>
    match readTurn ops s w with
    | (.inl result, w) => (result, w)
    | (.inr s, w) => readLoop ops fuel s w

/-- Every turn stores a byte or uses up a retry, so this many turns are enough. -/
def readWire (ops : IoTable σ) (w : World σ) : Except (Status × Int) Bytes × World σ :=
  readLoop ops (SPD_RFORK_ROLE_TOKEN_SIZE + SPD_MAX_EINTR_RETRIES + 1)
    ⟨List.replicate SPD_RFORK_ROLE_TOKEN_SIZE 0, 0, 0⟩ w

def readRoleToken (ops : IoTable σ) (audit : Audit) (stage : Stage) (w : World σ) :
    Except Status DecodedToken × Audit × World σ :=
  match readWire ops w with
  | (.error (status, errno), w) =>
    (.error status, { audit with roleReadErrno := errno, stage := stage }, w)
  | (.ok wire, w) => (decodeRoleToken wire, { audit with roleReadErrno := 0 }, w)

def validateObservedRole (context : Context) (token : DecodedToken) (requiredRole : Role)
    (allowParentOrChild : Bool) : Status :=
  if token.handlerId ≠ context.handlerId ∨ token.runCookie ≠ context.runCookie then .errRoleMismatch
  else
    let requiredMachine : Option UInt32 :=
      if allowParentOrChild then
        match token.role with
        | .parent => some context.sourceMachineId
        | .remoteChild => some context.targetMachineId
        | .invalid => none
      else if token.role ≠ requiredRole then none
      else some (if requiredRole = .parent then context.sourceMachineId else context.targetMachineId)
    match requiredMachine with
    | some machine => if token.machineId = machine then .ok else .errRoleMismatch
    | none => .errRoleMismatch

/-- The process id, or the errno to record. -/
def capturePid (ops : IoTable σ) (w : World σ) : Except Int Int × World σ :=
  let (r, w) := ops.callGetpid w
  if r.result ≤ 0 ∨ r.errno ≠ 0 then (.error (positiveErrno r.errno), w) else (.ok r.result, w)

def closeOwnedDevice (ops : IoTable σ) (audit : Audit) (w : World σ) : Status × Audit × World σ :=
  let (r, w) := ops.callClose audit.deviceFd w
  let errno := if r.result < 0 then positiveErrno r.errno else r.errno
  if r.result ≠ 0 ∨ r.errno ≠ 0 then
    (.errDeviceClose,
      { audit with
        closeAttempted := true, closeResult := r.result, closeSucceeded := false
        closeErrno := if errno = 0 then EPROTO else errno }, w)
  else
    (.ok,
      { audit with
        closeAttempted := true, closeResult := r.result, closeErrno := errno, closeSucceeded := true },
      w)

namespace Outcome

/-- Gives up the claim on the descriptor. -/
def disown (o : Outcome) : Outcome :=
  { o with audit := { o.audit with deviceFdSafeToClose := false } }

def withAudit (o : Outcome) (audit : Audit) : Outcome := { o with audit := audit }

def withPidErrno (o : Outcome) (errno : Int) : Outcome :=
  { o with audit := { o.audit with pidErrno := errno } }

def withOpened (o : Outcome) (pid : Int) (r : Reply σ) : Outcome :=
  { o with audit := { o.audit with
    pidBefore := pid, deviceFd := r.result
    openErrno := if r.result < 0 then positiveErrno r.errno else r.errno } }

def claim (o : Outcome) : Outcome :=
  { o with audit := { o.audit with deviceFdSafeToClose := true } }

/-- The two operations differ in the results they call a failure. -/
def withIoctl (o : Outcome) (r : Reply σ) (failed : Bool) : Outcome :=
  { o with audit := { o.audit with
    ioctlReturned := true, ioctlResult := r.result
    ioctlErrno := if failed then positiveErrno r.errno else r.errno } }

def withRole (o : Outcome) (role : Role) (pid : Int) : Outcome :=
  { o with role := role, audit := { o.audit with
    pidAfter := pid, deviceFdSafeToClose := decide (role = .parent) } }

end Outcome

/-- Reads the role token, records it and checks it: before the ioctl against the
required role, after it against both. -/
def checkRole (context : Context) (ops : IoTable σ) (requiredRole : Role) (afterIoctl : Bool)
    (outcome : Outcome) (w : World σ) : Except Status Role × Outcome × World σ :=
  match readRoleToken ops outcome.audit (if afterIoctl then .roleAfter else .roleBefore) w with
  | (.error status, audit, w) => (.error status, outcome.withAudit audit, w)
  | (.ok token, audit, w) =>
    let outcome := outcome.withAudit { audit with
      roleBefore := if afterIoctl then audit.roleBefore else token.role
      roleAfter := if afterIoctl then token.role else audit.roleAfter
      observedTokenMachineId := token.machineId, observedTokenChecksum := token.checksum }
    let status := validateObservedRole context token requiredRole afterIoctl
    if status = .ok then (.ok token.role, outcome, w.mark token.role)
    else (.error status, outcome, w)

/-- What `spd_rfork_prepare` and `spd_rfork_resume_remote_or_error` do before their
ioctl: check the arguments, the role and the process id, and open the device. -/
def enter (default : IoOps σ) (operation : Operation) (requiredRole : Role)
    (context : Option Context) (requested : Option (IoOps σ)) (w : World σ) :
    Except Outcome (Context × IoTable σ × Outcome) × World σ :=
  let outcome := auditInit context operation
  match context, validateContext context with
  | some context, .ok =>
    match requestedOps default requested with
    | none => (.error (finish outcome .errIoOpsInvalid .config), w)
    | some ops =>
      match checkRole context ops requiredRole false outcome w with
      | (.error status, outcome, w) => (.error (finish outcome status .roleBefore), w)
      | (.ok _, outcome, w) =>
        match capturePid ops w with
        | (.error errno, w) => (.error (finish (outcome.withPidErrno errno) .errPid .pidBefore), w)
        | (.ok pid, w) =>
          let (r, w) := ops.callOpen w
          let outcome := outcome.withOpened pid r
          if r.result < 0 ∨ r.errno ≠ 0 then (.error (finish outcome .errDeviceOpen .deviceOpen), w)
          else (.ok (context, ops, outcome.claim), w)
  | _, status => (.error (finish outcome status .config), w)

/-- The part of `spd_rfork_prepare` behind an ioctl that returned zero. -/
def prepareContinue (context : Context) (ops : IoTable σ) (outcome : Outcome) (w : World σ) :
    Outcome × World σ :=
  match checkRole context ops .invalid true outcome w with
  | (.error status, outcome, w) => (finish outcome.disown status .roleAfter, w)
  | (.ok role, outcome, w) =>
    match capturePid ops w with
    | (.error errno, w) =>
      let outcome := outcome.withPidErrno errno
      if role = .parent then
        let (_, audit, w) := closeOwnedDevice ops outcome.audit w
        (finish (outcome.withAudit audit) .errPid .pidAfter, w)
      else (finish outcome.disown .errPid .pidAfter, w)
    | (.ok pid, w) => (finish (outcome.withRole role pid) .ok .complete, w)

/-- The part of `spd_rfork_prepare` from the ioctl on. -/
def prepareOpened (context : Context) (ops : IoTable σ) (outcome : Outcome) (w : World σ) :
    Outcome × World σ :=
  let (r, w) := ops.callIoctl outcome.audit.deviceFd SPD_RFORK_IOCTL_PREPARE
    (.value context.handlerId) w
  let outcome := outcome.withIoctl r (decide (r.result ≠ 0))
  if r.result ≠ 0 ∨ r.errno ≠ 0 then
    let (_, audit, w) := closeOwnedDevice ops outcome.audit w
    (finish (outcome.withAudit audit) .errIoctl .ioctl, w)
  else prepareContinue context ops outcome w

/-- `spd_rfork_prepare` on a non-null `outcome`, whose status it returns. -/
def prepare (default : IoOps σ) (context : Option Context) (requested : Option (IoOps σ))
    (w : World σ) : Outcome × World σ :=
  match enter default .prepare .parent context requested w with
  | (.error outcome, w) => (outcome, w)
  | (.ok (context, ops, outcome), w) => prepareOpened context ops outcome w

/-- `spd_rfork_parent_release` on a non-null outcome. -/
def parentRelease (default : IoOps σ) (requested : Option (IoOps σ)) (outcome : Outcome)
    (w : World σ) : Status × Outcome × World σ :=
  match requestedOps default requested with
  | none => (.errIoOpsInvalid, outcome, w)
  | some ops =>
    if outcome.status ≠ .ok ∨ outcome.role ≠ .parent ∨ outcome.audit.deviceFd < 0 ∨
        outcome.audit.deviceFdSafeToClose ≠ true ∨ outcome.audit.closeAttempted ≠ false then
      (.errDeviceOwnership, outcome, w)
    else
      let (status, audit, w) := closeOwnedDevice ops outcome.audit w
      let audit := { audit with deviceFdSafeToClose := false }
      if status ≠ .ok then
        (status, { outcome with
          status := status, audit := { audit with status := status, stage := .deviceClose } }, w)
      else (.ok, { outcome with audit := audit }, w)

/-- The part of `spd_rfork_resume_remote_or_error` from the ioctl on. -/
def resumeOpened (context : Context) (ops : IoTable σ) (outcome : Outcome) (w : World σ) :
    Outcome × World σ :=
  let (r, w) := ops.callIoctl outcome.audit.deviceFd SPD_RFORK_IOCTL_RESUME_REMOTE
    (.resumeRemoteRequest context.sourceMachineId context.handlerId) w
  let outcome := outcome.withIoctl r (decide (r.result < 0))
  let status : Status := if r.result < 0 ∨ r.errno ≠ 0 then .errIoctl else .errResumeReturned
  let (closeStatus, audit, w) := closeOwnedDevice ops outcome.audit w
  let outcome := outcome.withAudit audit
  if closeStatus ≠ .ok then (finish outcome .errDeviceClose .deviceClose, w)
  else (finish outcome status .ioctl, w)

/-- `spd_rfork_resume_remote_or_error` on a non-null `outcome`. -/
def resumeRemoteOrError (default : IoOps σ) (context : Option Context)
    (requested : Option (IoOps σ)) (w : World σ) : Outcome × World σ :=
  match enter default .resumeRemote .remoteChild context requested w with
  | (.error outcome, w) => (outcome, w)
  | (.ok (context, ops, outcome), w) => resumeOpened context ops outcome w

end Calls
end ServerlessX.Rfork
