import ServerlessX.Rfork.RoleFile

/-! The outcome that `spd_rfork_prepare` and `spd_rfork_resume_remote_or_error` leave as
evidence: the status they return is the one they record, no failure names a role, and
every failed call has its errno. -/
namespace ServerlessX.Rfork
open ServerlessX.Py

section Evidence
variable {σ : Type}

/-! ### What is returned -/

/-- `spd_finish` with its return value. -/
def finishReturned (outcome : Outcome) (status : Status) (stage : Stage) : Status × Outcome :=
  (status, finish outcome status stage)

def enterReturned (default : IoOps σ) (operation : Operation) (requiredRole : Role)
    (context : Option Context) (requested : Option (IoOps σ)) (w : World σ) :
    Except (Status × Outcome) (Context × IoTable σ × Outcome) × World σ :=
  let outcome := auditInit context operation
  match context, validateContext context with
  | some context, .ok =>
    match requestedOps default requested with
    | none => (.error (finishReturned outcome .errIoOpsInvalid .config), w)
    | some ops =>
      match checkRole context ops requiredRole false outcome w with
      | (.error status, outcome, w) => (.error (finishReturned outcome status .roleBefore), w)
      | (.ok _, outcome, w) =>
        match capturePid ops w with
        | (.error errno, w) =>
          (.error (finishReturned (outcome.withPidErrno errno) .errPid .pidBefore), w)
        | (.ok pid, w) =>
          let (r, w) := ops.callOpen w
          let outcome := outcome.withOpened pid r
          if r.result < 0 ∨ r.errno ≠ 0 then
            (.error (finishReturned outcome .errDeviceOpen .deviceOpen), w)
          else (.ok (context, ops, outcome.claim), w)
  | _, status => (.error (finishReturned outcome status .config), w)

def prepareContinueReturned (context : Context) (ops : IoTable σ) (outcome : Outcome) (w : World σ) :
    (Status × Outcome) × World σ :=
  match checkRole context ops .invalid true outcome w with
  | (.error status, outcome, w) => (finishReturned outcome.disown status .roleAfter, w)
  | (.ok role, outcome, w) =>
    match capturePid ops w with
    | (.error errno, w) =>
      let outcome := outcome.withPidErrno errno
      if role = .parent then
        let (_, audit, w) := closeOwnedDevice ops outcome.audit w
        (finishReturned (outcome.withAudit audit) .errPid .pidAfter, w)
      else (finishReturned outcome.disown .errPid .pidAfter, w)
    | (.ok pid, w) => (finishReturned (outcome.withRole role pid) .ok .complete, w)

def prepareOpenedReturned (context : Context) (ops : IoTable σ) (outcome : Outcome) (w : World σ) :
    (Status × Outcome) × World σ :=
  let (r, w) := ops.callIoctl outcome.audit.deviceFd SPD_RFORK_IOCTL_PREPARE
    (.value context.handlerId) w
  let outcome := outcome.withIoctl r (decide (r.result ≠ 0))
  if r.result ≠ 0 ∨ r.errno ≠ 0 then
    let (_, audit, w) := closeOwnedDevice ops outcome.audit w
    (finishReturned (outcome.withAudit audit) .errIoctl .ioctl, w)
  else prepareContinueReturned context ops outcome w

/-- `spd_rfork_prepare` with its return value. -/
def prepareReturned (default : IoOps σ) (context : Option Context) (requested : Option (IoOps σ))
    (w : World σ) : (Status × Outcome) × World σ :=
  match enterReturned default .prepare .parent context requested w with
  | (.error returned, w) => (returned, w)
  | (.ok (context, ops, outcome), w) => prepareOpenedReturned context ops outcome w

def resumeOpenedReturned (context : Context) (ops : IoTable σ) (outcome : Outcome) (w : World σ) :
    (Status × Outcome) × World σ :=
  let (r, w) := ops.callIoctl outcome.audit.deviceFd SPD_RFORK_IOCTL_RESUME_REMOTE
    (.resumeRemoteRequest context.sourceMachineId context.handlerId) w
  let outcome := outcome.withIoctl r (decide (r.result < 0))
  let status : Status := if r.result < 0 ∨ r.errno ≠ 0 then .errIoctl else .errResumeReturned
  let (closeStatus, audit, w) := closeOwnedDevice ops outcome.audit w
  let outcome := outcome.withAudit audit
  if closeStatus ≠ .ok then (finishReturned outcome .errDeviceClose .deviceClose, w)
  else (finishReturned outcome status .ioctl, w)

/-- `spd_rfork_resume_remote_or_error` with its return value. -/
def resumeReturned (default : IoOps σ) (context : Option Context) (requested : Option (IoOps σ))
    (w : World σ) : (Status × Outcome) × World σ :=
  match enterReturned default .resumeRemote .remoteChild context requested w with
  | (.error returned, w) => (returned, w)
  | (.ok (context, ops, outcome), w) => resumeOpenedReturned context ops outcome w

/-- An outcome with the status recorded in it. -/
def Outcome.returned (o : Outcome) : Status × Outcome := (o.status, o)

theorem finishReturned_eq (o : Outcome) (status : Status) (stage : Stage) :
    finishReturned o status stage = (finish o status stage).returned := rfl

theorem enterReturned_eq (default : IoOps σ) (operation : Operation) (requiredRole : Role)
    (context : Option Context) (requested : Option (IoOps σ)) (w : World σ) :
    enterReturned default operation requiredRole context requested w =
      ((enter default operation requiredRole context requested w).1.mapError Outcome.returned,
        (enter default operation requiredRole context requested w).2) := by
  cases context with
  | none => rfl
  | some ctx =>
    cases hvalid : validateContext (some ctx) with
    | ok =>
      cases hops : requestedOps default requested with
      | none => simp only [enterReturned, enter, hvalid, hops, Except.mapError, finishReturned_eq]
      | some ops =>
        rcases hcheck : checkRole ctx ops requiredRole false (auditInit (some ctx) operation) w with
          ⟨status | role, o, w₁⟩
        · simp only [enterReturned, enter, hvalid, hops, hcheck, Except.mapError, finishReturned_eq]
        · rcases hpid : capturePid ops w₁ with ⟨errno | pid, w₂⟩
          · simp only [enterReturned, enter, hvalid, hops, hcheck, hpid, Except.mapError,
              finishReturned_eq]
          · simp only [enterReturned, enter, hvalid, hops, hcheck, hpid, finishReturned_eq]
            split_ifs
            · rfl
            · rfl
    | _ => simp only [enterReturned, enter, hvalid, Except.mapError, finishReturned_eq]

theorem prepareContinueReturned_eq (context : Context) (ops : IoTable σ) (o : Outcome) (w : World σ) :
    prepareContinueReturned context ops o w =
      ((prepareContinue context ops o w).1.returned, (prepareContinue context ops o w).2) := by
  rcases hcheck : checkRole context ops .invalid true o w with ⟨status | role, o₁, w₁⟩
  · simp only [prepareContinueReturned, prepareContinue, hcheck, finishReturned_eq]
  · rcases hpid : capturePid ops w₁ with ⟨errno | pid, w₂⟩
    · simp only [prepareContinueReturned, prepareContinue, hcheck, hpid, finishReturned_eq]
      split_ifs
      · rfl
      · rfl
    · simp only [prepareContinueReturned, prepareContinue, hcheck, hpid, finishReturned_eq]

theorem prepareReturned_eq (default : IoOps σ) (context : Option Context)
    (requested : Option (IoOps σ)) (w : World σ) :
    prepareReturned default context requested w =
      ((prepare default context requested w).1.returned, (prepare default context requested w).2) := by
  unfold prepareReturned prepare
  rw [enterReturned_eq]
  cases enter default .prepare .parent context requested w with
  | mk result w' =>
    cases result with
    | error o => rfl
    | ok opened =>
      simp only [Except.mapError, prepareOpenedReturned, prepareOpened, prepareContinueReturned_eq]
      split_ifs <;> rfl

theorem resumeReturned_eq (default : IoOps σ) (context : Option Context)
    (requested : Option (IoOps σ)) (w : World σ) :
    resumeReturned default context requested w =
      ((resumeRemoteOrError default context requested w).1.returned,
        (resumeRemoteOrError default context requested w).2) := by
  unfold resumeReturned resumeRemoteOrError
  rw [enterReturned_eq]
  cases enter default .resumeRemote .remoteChild context requested w with
  | mk result w' =>
    cases result with
    | error o => rfl
    | ok opened =>
      simp only [Except.mapError, resumeOpenedReturned, resumeOpened]
      split_ifs <;> rfl

/-! ### What is recorded -/

/-- The record that goes with the status of a failed call. -/
def ErrnoRecorded (status : Status) (audit : Audit) : Prop :=
  match status with
  | .errRoleRead => audit.roleReadErrno ≠ 0
  | .errRoleShortRead => audit.roleReadErrno ≠ 0
  | .errPid => audit.pidErrno ≠ 0
  | .errDeviceOpen => audit.openErrno ≠ 0
  | .errIoctl => audit.ioctlErrno ≠ 0
  | .errDeviceClose =>
    audit.closeErrno ≠ 0 ∧ audit.closeAttempted = true ∧ audit.closeSucceeded = false
  | _ => True

/-- What an outcome of success has been through. -/
structure Completed (o : Outcome) : Prop where
  stage : o.audit.stage = .complete
  role : o.role = o.audit.roleAfter
  after : o.audit.roleAfter = .parent ∨ o.audit.roleAfter = .remoteChild
  before : o.audit.roleBefore = .parent
  pidBefore : 0 < o.audit.pidBefore
  pidAfter : 0 < o.audit.pidAfter
  device : 0 ≤ o.audit.deviceFd
  ioctl : o.audit.ioctlResult = 0

/-- An outcome that can be relied on. -/
structure FailClosed (o : Outcome) : Prop where
  recorded : o.audit.status = o.status
  role : o.status ≠ .ok → o.role = .invalid
  errno : ErrnoRecorded o.status o.audit
  complete : o.status = .ok → Completed o

theorem failClosed_finish {o : Outcome} {status : Status} (hs : status ≠ .ok)
    (h : ErrnoRecorded status o.audit) (stage : Stage) : FailClosed (finish o status stage) where
  recorded := rfl
  role := fun _ => if_pos hs
  errno := by cases status <;> exact h
  complete := fun hok => absurd hok hs

theorem finish_error {o : Outcome} {status : Status} (hs : status ≠ .ok)
    (h : ErrnoRecorded status o.audit) (stage : Stage) :
    FailClosed (finish o status stage) ∧ (finish o status stage).status ≠ .ok :=
  ⟨failClosed_finish hs h stage, hs⟩

theorem readWire_error {ops : IoTable σ} {w w' : World σ} {status : Status} {errno : Int}
    (h : readWire ops w = (.error (status, errno), w')) :
    (status = .errRoleRead ∨ status = .errRoleShortRead) ∧ errno ≠ 0 := by
  obtain ⟨result, u, -, hread, hpost⟩ := readWire_ends ops (fun _ => []) w
  rw [h] at hread
  cases hread
  exact hpost.failed _ rfl

theorem validateObservedRole_or (context : Context) (token : DecodedToken) (requiredRole : Role)
    (allowParentOrChild : Bool) :
    validateObservedRole context token requiredRole allowParentOrChild = .ok ∨
      validateObservedRole context token requiredRole allowParentOrChild = .errRoleMismatch := by
  unfold validateObservedRole
  dsimp only
  split
  · exact .inr rfl
  · split
    · split
      · exact .inl rfl
      · exact .inr rfl
    · exact .inr rfl

theorem checkRole_error {context : Context} {ops : IoTable σ} {requiredRole : Role}
    {afterIoctl : Bool} {o o' : Outcome} {w w' : World σ} {status : Status}
    (h : checkRole context ops requiredRole afterIoctl o w = (.error status, o', w')) :
    status ≠ .ok ∧ ErrnoRecorded status o'.audit := by
  have hexit := checkRole_exit context ops requiredRole afterIoctl o w
  rw [h] at hexit
  cases hexit with
  | unread hread =>
    obtain ⟨rfl | rfl, hne⟩ := readWire_error hread
    · exact ⟨by decide, hne⟩
    · exact ⟨by decide, hne⟩
  | undecoded hread hdec =>
    rw [decodeRoleToken_error hdec]
    exact ⟨by decide, trivial⟩
  | refused hread hdec hval hs =>
    have hmismatch := (validateObservedRole_or _ _ _ _).resolve_left (fun hok => hs (hval.symm.trans hok))
    rw [← hval, hmismatch]
    exact ⟨by decide, trivial⟩

theorem checkRole_passed {context : Context} {ops : IoTable σ} {requiredRole : Role}
    {afterIoctl : Bool} {o o' : Outcome} {w w' : World σ} {role : Role}
    (h : checkRole context ops requiredRole afterIoctl o w = (.ok role, o', w')) :
    Passes requiredRole afterIoctl role ∧
      ∃ token, token.role = role ∧ o' = o.observed token afterIoctl := by
  have hexit := checkRole_exit context ops requiredRole afterIoctl o w
  rw [h] at hexit
  cases hexit with
  | @passed wire token w' hread hdec hval =>
    obtain ⟨hpass, -⟩ := (observed_iff context wire requiredRole afterIoctl token.role).mp
      ⟨token, hdec, hval, rfl⟩
    exact ⟨hpass, token, rfl, rfl⟩

theorem capturePid_error {ops : IoTable σ} {w w' : World σ} {errno : Int}
    (h : capturePid ops w = (.error errno, w')) : errno ≠ 0 := by
  simp only [capturePid] at h
  split at h
  · cases h
    exact (positiveErrno_pos _).ne'
  · cases h

theorem capturePid_ok {ops : IoTable σ} {w w' : World σ} {pid : Int}
    (h : capturePid ops w = (.ok pid, w')) : 0 < pid := by
  simp only [capturePid] at h
  split at h
  · cases h
  · next hgood =>
    cases h
    simp only [not_or, not_le] at hgood
    exact hgood.1

theorem eproto_or_ne (errno : Int) : (if errno = 0 then EPROTO else errno) ≠ 0 := by
  split
  · decide
  · assumption

/-- Closing leaves the other errnos alone, and says why it failed. -/
theorem closeOwnedDevice_recorded {ops : IoTable σ} {audit audit' : Audit} {w w' : World σ}
    {status : Status} (h : closeOwnedDevice ops audit w = (status, audit', w')) :
    audit'.pidErrno = audit.pidErrno ∧ audit'.ioctlErrno = audit.ioctlErrno ∧
      (status ≠ .ok → ErrnoRecorded .errDeviceClose audit') := by
  rcases hcall : ops.callClose audit.deviceFd w with ⟨r, w₁⟩
  simp only [closeOwnedDevice, hcall] at h
  split at h
  · cases h
    exact ⟨rfl, rfl, fun _ => ⟨eproto_or_ne _, rfl, rfl⟩⟩
  · cases h
    exact ⟨rfl, rfl, fun h => absurd rfl h⟩

/-- What has been recorded once the device is open. -/
structure Opened (requiredRole : Role) (o : Outcome) : Prop where
  before : o.audit.roleBefore = requiredRole
  pid : 0 < o.audit.pidBefore
  device : 0 ≤ o.audit.deviceFd

/-- What has been recorded when the shared part is over. -/
def Entered (requiredRole : Role) : Except Outcome (Context × IoTable σ × Outcome) → Prop
  | .error o => FailClosed o ∧ o.status ≠ .ok
  | .ok (_, _, o) => Opened requiredRole o

theorem enter_recorded (default : IoOps σ) (operation : Operation) (requiredRole : Role)
    (context : Option Context) (requested : Option (IoOps σ)) (w : World σ) :
    Entered requiredRole (enter default operation requiredRole context requested w).1 := by
  have hexit := enter_exit default operation requiredRole context requested w
  generalize enter default operation requiredRole context requested w = result at hexit
  cases hexit with
  | argument hbad =>
    refine finish_error hbad ?_ _
    cases context with
    | none => trivial
    | some ctx =>
      simp only [validateContext]
      split_ifs <;> trivial
  | table hops => exact @finish_error _ .errIoOpsInvalid (by decide) trivial _
  | role hctx hops hcheck =>
    obtain ⟨hs, hrec⟩ := checkRole_error hcheck
    exact finish_error hs hrec _
  | pid hctx hops hcheck hpid =>
    exact @finish_error _ .errPid (by decide) (capturePid_error hpid) _
  | device hctx hvalid hops hcheck hpid hfail =>
    refine @finish_error _ .errDeviceOpen (by decide) ?_ _
    simp only [ErrnoRecorded, Outcome.withOpened]
    split
    · exact (positiveErrno_pos _).ne'
    · next hpos => exact hfail.resolve_left hpos
  | opened hctx hvalid hops hcheck hpid hgood =>
    obtain ⟨hpass, token, hrole, rfl⟩ := checkRole_passed hcheck
    exact ⟨hrole.trans (hpass.2 rfl), capturePid_ok hpid,
      not_lt.mp fun hneg => hgood (.inl hneg)⟩

theorem ioctlErrno_ne (o : Outcome) {r : Reply σ} {failed : Bool} (h : failed = false → r.errno ≠ 0) :
    (o.withIoctl r failed).audit.ioctlErrno ≠ 0 := by
  cases failed with
  | true => exact (positiveErrno_pos _).ne'
  | false => exact h rfl

/-- The part of `spd_rfork_prepare` behind an ioctl that returned zero. -/
theorem prepareContinue_recorded {context : Context} {ops : IoTable σ} {o : Outcome}
    (h : Opened .parent o) (hioctl : o.audit.ioctlResult = 0) (w : World σ) :
    FailClosed (prepareContinue context ops o w).1 := by
  rcases hcheck : checkRole context ops .invalid true o w with ⟨status | role, o₁, w₁⟩
  · obtain ⟨hs, hrec⟩ := checkRole_error hcheck
    simp only [prepareContinue, hcheck]
    refine failClosed_finish hs ?_ _
    cases status <;> exact hrec
  · obtain ⟨hpass, token, rfl, ho⟩ := checkRole_passed hcheck
    rcases hpid : capturePid ops w₁ with ⟨errno | pid, w₂⟩
    · have hne := capturePid_error hpid
      simp only [prepareContinue, hcheck, hpid]
      split
      · rcases hclose : closeOwnedDevice ops (o₁.withPidErrno errno).audit w₂ with ⟨status, audit, w₃⟩
        obtain ⟨hkept, -, -⟩ := closeOwnedDevice_recorded hclose
        refine @failClosed_finish _ .errPid (by decide) ?_ _
        exact hkept.trans_ne hne
      · refine @failClosed_finish _ .errPid (by decide) ?_ _
        exact hne
    · simp only [prepareContinue, hcheck, hpid]
      rw [ho]
      refine ⟨rfl, fun hno => absurd rfl hno, trivial, fun _ => ?_⟩
      exact ⟨rfl, rfl, (supported_iff token.role).mp hpass.1, h.before, h.pid, capturePid_ok hpid, h.device,
        hioctl⟩

theorem prepare_recorded (default : IoOps σ) (context : Option Context)
    (requested : Option (IoOps σ)) (w : World σ) :
    FailClosed (prepare default context requested w).1 := by
  have hent := enter_recorded default .prepare .parent context requested w
  rcases henter : enter default .prepare .parent context requested w with ⟨o | ⟨ctx, ops, o⟩, w₁⟩
  · rw [henter] at hent
    simp only [prepare, henter]
    exact hent.1
  · rw [henter] at hent
    rcases hio : ops.callIoctl o.audit.deviceFd SPD_RFORK_IOCTL_PREPARE (.value ctx.handlerId) w₁ with
      ⟨r, w₂⟩
    simp only [prepare, henter, prepareOpened, hio]
    split
    · next hfail =>
      rcases hclose : closeOwnedDevice ops (o.withIoctl r (decide (r.result ≠ 0))).audit w₂ with
        ⟨status, audit, w₃⟩
      obtain ⟨-, hkept, -⟩ := closeOwnedDevice_recorded hclose
      refine @failClosed_finish _ .errIoctl (by decide) ?_ _
      exact hkept.trans_ne (ioctlErrno_ne _ fun hsuccess => hfail.resolve_left (by simpa using hsuccess))
    · next hgood =>
      simp only [not_or, not_not] at hgood
      have hopened : Opened .parent (o.withIoctl r (decide (r.result ≠ 0))) :=
        ⟨hent.before, hent.pid, hent.device⟩
      exact prepareContinue_recorded hopened hgood.1 w₂

theorem resume_recorded (default : IoOps σ) (context : Option Context)
    (requested : Option (IoOps σ)) (w : World σ) :
    FailClosed (resumeRemoteOrError default context requested w).1 ∧
      (resumeRemoteOrError default context requested w).1.status ≠ .ok := by
  have hent := enter_recorded default .resumeRemote .remoteChild context requested w
  rcases henter : enter default .resumeRemote .remoteChild context requested w with
    ⟨o | ⟨ctx, ops, o⟩, w₁⟩
  · rw [henter] at hent
    simp only [resumeRemoteOrError, henter]
    exact hent
  · rcases hio : ops.callIoctl o.audit.deviceFd SPD_RFORK_IOCTL_RESUME_REMOTE
      (.resumeRemoteRequest ctx.sourceMachineId ctx.handlerId) w₁ with ⟨r, w₂⟩
    rcases hclose : closeOwnedDevice ops (o.withIoctl r (decide (r.result < 0))).audit w₂ with
      ⟨status, audit, w₃⟩
    obtain ⟨-, hkept, hfailed⟩ := closeOwnedDevice_recorded hclose
    simp only [resumeRemoteOrError, henter, resumeOpened, hio, hclose]
    split
    · next hno => exact @finish_error _ .errDeviceClose (by decide) (hfailed hno) _
    · split
      · next hfail =>
        refine @finish_error _ .errIoctl (by decide) ?_ _
        exact hkept.trans_ne (ioctlErrno_ne _ fun hsuccess =>
          hfail.resolve_left (by simpa using hsuccess))
      · exact @finish_error _ .errResumeReturned (by decide) trivial _

/-- Both entry points, for every context and every table of callbacks: the status returned
is the one in the outcome and in its audit; a failure names no role and has its errno; and
only `spd_rfork_prepare` succeeds, having been through every stage. -/
theorem audit_fail_closed (default : IoOps σ) (context : Option Context)
    (requested : Option (IoOps σ)) (w : World σ) :
    ((prepareReturned default context requested w).1.1 =
        (prepareReturned default context requested w).1.2.status ∧
      FailClosed (prepareReturned default context requested w).1.2) ∧
    (resumeReturned default context requested w).1.1 =
        (resumeReturned default context requested w).1.2.status ∧
      FailClosed (resumeReturned default context requested w).1.2 ∧
      (resumeReturned default context requested w).1.1 ≠ .ok := by
  rw [prepareReturned_eq, resumeReturned_eq]
  obtain ⟨hresume, hfailed⟩ := resume_recorded default context requested w
  exact ⟨⟨rfl, prepare_recorded default context requested w⟩, rfl, hresume, hfailed⟩

end Evidence
end ServerlessX.Rfork
