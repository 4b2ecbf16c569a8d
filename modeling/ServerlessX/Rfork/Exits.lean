import ServerlessX.Rfork.Transfer

/-! How the calls of the runtime end: every exit with the calls it has made and what
it leaves in the outcome. All facts about runs go through these cases. -/
namespace ServerlessX.Rfork
open ServerlessX.Py

section Exits
variable {σ : Type}

/-! ### Reading the token -/

/-- What the calls of a run did to the device. The process is `known` to be the owner
of the descriptor when it opened it and, since the last PREPARE ioctl, which may
return in another process, a token read again was the parent's. `blind` are the
descriptors closed without that knowledge. -/
structure Ledger where
  opens : List (Int × Int)
  ioctls : List (Int × Nat × Argument)
  closes : List Int
  blind : List Int
  known : Bool
deriving DecidableEq

namespace Ledger

def empty : Ledger := ⟨[], [], [], [], false⟩

def observe (l : Ledger) : Call → Ledger
  | .pread .. => l
  | .getpid .. => l
  | .openDevice _ fd errno =>
    { l with opens := l.opens ++ [(fd, errno)], known := l.known || decide (0 ≤ fd ∧ errno = 0) }
  | .ioctl fd request argument _ _ =>
    { l with
      ioctls := l.ioctls ++ [(fd, request, argument)]
      known := l.known && decide (request ≠ SPD_RFORK_IOCTL_PREPARE) }
  | .close fd _ _ =>
    { l with closes := l.closes ++ [fd], blind := if l.known then l.blind else l.blind ++ [fd] }
  | .validated role => { l with known := decide (role = .parent) }

/-- Equal up to what is known. -/
def Idle (l l' : Ledger) : Prop := l' = { l with known := l'.known }

end Ledger

def World.ledger (w : World σ) : Ledger := w.calls.foldl Ledger.observe .empty

@[simp] theorem ledger_push (w : World σ) (env : σ) (c : Call) :
    (w.push env c).ledger = w.ledger.observe c := by
  simp [World.ledger, World.push]

@[simp] theorem ledger_fresh (env : σ) : (⟨env, []⟩ : World σ).ledger = .empty := rfl

@[simp] theorem ledger_mark (w : World σ) (role : Role) :
    (w.mark role).ledger = { w.ledger with known := decide (role = .parent) } := ledger_push ..

@[simp] theorem length_stored (buffer data : Bytes) :
    (IoTable.stored buffer data).length = buffer.length := by
  simp only [IoTable.stored, List.length_append, List.length_take, List.length_drop]
  omega

/-- What a turn does: it ends, or it stores at least one byte or counts one more
interruption. -/
theorem readTurn_cases (ops : IoTable σ) (s : ReadState) (w : World σ) :
    (s.completed ≥ SPD_RFORK_ROLE_TOKEN_SIZE ∧ readTurn ops s w = (.inl (.ok s.wire), w)) ∨
    (s.completed < SPD_RFORK_ROLE_TOKEN_SIZE ∧ ∃ w', w'.ledger = w.ledger ∧
      ((∃ status errno, status ≠ .ok ∧ readTurn ops s w = (.inl (.error (status, errno)), w')) ∨
        ∃ data completed interrupted, readTurn ops s w =
          (.inr ⟨s.wire.take s.completed ++ IoTable.stored (s.wire.drop s.completed) data, completed,
            interrupted⟩, w') ∧
          ((completed = s.completed ∧ interrupted = s.interrupted + 1 ∧
              s.interrupted < SPD_MAX_EINTR_RETRIES) ∨
            (s.completed < completed ∧ interrupted = s.interrupted)))) := by
  by_cases hlt : s.completed < SPD_RFORK_ROLE_TOKEN_SIZE
  · rcases hr : ops.preadCall SPD_RFORK_ROLE_FD (s.wire.drop s.completed) s.completed w.env with ⟨r, data⟩
    obtain ⟨next, hans, hrun⟩ := readTurn_call ops hlt w hr
    refine .inr ⟨hlt, w.push r.next (.pread SPD_RFORK_ROLE_FD (s.wire.drop s.completed).length
      s.completed r.result r.errno), ledger_push .., ?_⟩
    cases next with
    | inl stop =>
      exact .inl ⟨stop.1, stop.2, stop_ne_ok hans.stop.1 (by decide) (by decide), hrun⟩
    | inr next =>
      refine .inr ⟨data, next.1, next.2, hrun, ?_⟩
      cases hans with
      | retry hneg hintr hleft => exact .inl ⟨rfl, rfl, hleft⟩
      | progress hpos hclean hfits => exact .inr ⟨by simp only; omega, rfl⟩
  · exact .inl ⟨not_lt.mp hlt, by simp [readTurn, hlt]⟩

theorem readLoop_ledger (ops : IoTable σ) (fuel : Nat) (s : ReadState) (w : World σ) :
    (readLoop ops fuel s w).2.ledger = w.ledger := by
  induction fuel generalizing s w with
  | zero => rfl
  | succ fuel ih =>
    obtain ⟨-, h⟩ | ⟨-, w', hw, ⟨status, errno, -, h⟩ | ⟨data, completed, interrupted, h, -⟩⟩ :=
      readTurn_cases ops s w
    · simp [readLoop, h]
    · simp [readLoop, h, hw]
    · simp [readLoop, h, ih, hw]

/-- The buffer keeps its size, so a token that was read has the length `decodeRoleToken` asks
for. -/
theorem readLoop_length {ops : IoTable σ} {fuel : Nat} {s : ReadState} {out : Bytes} {w : World σ}
    (hs : s.wire.length = SPD_RFORK_ROLE_TOKEN_SIZE) (h : (readLoop ops fuel s w).1 = .ok out) :
    out.length = SPD_RFORK_ROLE_TOKEN_SIZE := by
  induction fuel generalizing s w with
  | zero => cases h
  | succ fuel ih =>
    obtain ⟨-, ht⟩ | ⟨hlt, w', -, ⟨status, errno, -, ht⟩ | ⟨data, completed, interrupted, ht, -⟩⟩ :=
      readTurn_cases ops s w
    · simp only [readLoop, ht, Except.ok.injEq] at h
      rw [← h, hs]
    · simp [readLoop, ht] at h
    · simp only [readLoop, ht] at h
      refine ih ?_ h
      simp only [List.length_append, List.length_take, length_stored, List.length_drop]
      omega

theorem readLoop_error {ops : IoTable σ} {fuel : Nat} {s : ReadState} {w : World σ} {status : Status}
    {errno : Int} (h : (readLoop ops fuel s w).1 = .error (status, errno)) : status ≠ .ok := by
  induction fuel generalizing s w with
  | zero =>
    cases h
    decide
  | succ fuel ih =>
    obtain ⟨-, ht⟩ | ⟨hlt, w', -, ⟨status', errno', hne, ht⟩ |
        ⟨data, completed, interrupted, ht, -⟩⟩ := readTurn_cases ops s w
    · simp [readLoop, ht] at h
    · simp only [readLoop, ht, Except.error.injEq, Prod.mk.injEq] at h
      rw [← h.1]
      exact hne
    · simp only [readLoop, ht] at h
      exact ih h

@[simp] theorem readWire_ledger (ops : IoTable σ) (w : World σ) :
    (readWire ops w).2.ledger = w.ledger := readLoop_ledger ops _ _ w

/-! ### The role check -/

def machineOf (context : Context) : Role → UInt32
  | .parent => context.sourceMachineId
  | _ => context.targetMachineId

/-- The token that a launcher installs for a role of this run. -/
def tokenFor (context : Context) (role : Role) : Bytes :=
  tokenWire role context.handlerId (machineOf context role) context.runCookie

/-- The roles that pass a check. -/
def Passes (requiredRole : Role) (afterIoctl : Bool) (role : Role) : Prop :=
  roleIsSupported role = true ∧ (afterIoctl = false → role = requiredRole)

theorem validateObservedRole_eq_ok {context : Context} {token : DecodedToken}
    (h : roleIsSupported token.role = true) (requiredRole : Role) (afterIoctl : Bool) :
    validateObservedRole context token requiredRole afterIoctl = .ok ↔
      token.handlerId = context.handlerId ∧ token.runCookie = context.runCookie ∧
        token.machineId = machineOf context token.role ∧
        (afterIoctl = false → token.role = requiredRole) := by
  unfold validateObservedRole
  by_cases hid : token.handlerId = context.handlerId ∧ token.runCookie = context.runCookie
  · obtain ⟨hh, hc⟩ := hid
    cases afterIoctl with
    | true =>
      cases hr : token.role with
      | invalid => simp [hr, roleIsSupported] at h
      | parent => simp [hh, hc, machineOf]
      | remoteChild => simp [hh, hc, machineOf]
    | false =>
      by_cases hr : token.role = requiredRole
      · cases ht : token.role with
        | invalid => simp [ht, roleIsSupported] at h
        | parent =>
          rw [ht] at hr
          simp [hr.symm, hh, hc, machineOf]
        | remoteChild =>
          rw [ht] at hr
          simp [hr.symm, hh, hc, machineOf]
      · simp [hh, hc, hr]
  · have hor : token.handlerId ≠ context.handlerId ∨ token.runCookie ≠ context.runCookie := by
      by_contra hn
      simp only [not_or, not_not] at hn
      exact hid hn
    simp only [hor, if_true]
    tauto

/-- Decoding and checking accept exactly the tokens of this run. -/
theorem observed_iff (context : Context) (wire : Bytes) (requiredRole : Role) (afterIoctl : Bool)
    (role : Role) :
    (∃ token, decodeRoleToken wire = .ok token ∧
      validateObservedRole context token requiredRole afterIoctl = .ok ∧ token.role = role) ↔
      Passes requiredRole afterIoctl role ∧ wire = tokenFor context role := by
  constructor
  · rintro ⟨token, hdec, hval, rfl⟩
    obtain ⟨hsup, hwire, -⟩ := tokenWire_of_decode hdec
    obtain ⟨hh, hc, hm, hr⟩ := (validateObservedRole_eq_ok hsup _ _).mp hval
    exact ⟨⟨hsup, hr⟩, by rw [hwire, hh, hc, hm]; rfl⟩
  · rintro ⟨⟨hsup, hr⟩, rfl⟩
    refine ⟨⟨role, context.handlerId, machineOf context role, context.runCookie,
      fnv1a32 (tokenBody role context.handlerId (machineOf context role) context.runCookie)⟩,
      decode_of_tokenWire hsup ?_ ?_, ?_, ?_⟩
    · simp only [tokenFor]
    · simp only
    · exact (validateObservedRole_eq_ok hsup _ _).mpr ⟨rfl, rfl, rfl, hr⟩
    · simp only

/-- What the release of a device depends on, besides status and role. -/
def Outcome.device (o : Outcome) : Int × Bool × Bool :=
  (o.audit.deviceFd, o.audit.deviceFdSafeToClose, o.audit.closeAttempted)

/-- The outcome with a token read and recorded. -/
def Outcome.observed (o : Outcome) (token : DecodedToken) (afterIoctl : Bool) : Outcome :=
  o.withAudit { o.audit with
    roleReadErrno := 0
    roleBefore := if afterIoctl then o.audit.roleBefore else token.role
    roleAfter := if afterIoctl then token.role else o.audit.roleAfter
    observedTokenMachineId := token.machineId, observedTokenChecksum := token.checksum }

/-- How the role check ends, and what it has recorded. -/
inductive CheckExit (context : Context) (ops : IoTable σ) (requiredRole : Role) (afterIoctl : Bool)
    (o : Outcome) (w : World σ) : Except Status Role × Outcome × World σ → Prop where
  | unread {status : Status} {errno : Int} {w' : World σ}
      (hread : readWire ops w = (.error (status, errno), w')) :
      CheckExit context ops requiredRole afterIoctl o w (.error status, o.withAudit { o.audit with
        roleReadErrno := errno, stage := if afterIoctl then .roleAfter else .roleBefore }, w')
  | undecoded {wire : Bytes} {status : Status} {w' : World σ}
      (hread : readWire ops w = (.ok wire, w')) (hdec : decodeRoleToken wire = .error status) :
      CheckExit context ops requiredRole afterIoctl o w
        (.error status, o.withAudit { o.audit with roleReadErrno := 0 }, w')
  | refused {wire : Bytes} {token : DecodedToken} {status : Status} {w' : World σ}
      (hread : readWire ops w = (.ok wire, w')) (hdec : decodeRoleToken wire = .ok token)
      (hval : validateObservedRole context token requiredRole afterIoctl = status)
      (hs : status ≠ .ok) :
      CheckExit context ops requiredRole afterIoctl o w
        (.error status, o.observed token afterIoctl, w')
  | passed {wire : Bytes} {token : DecodedToken} {w' : World σ}
      (hread : readWire ops w = (.ok wire, w')) (hdec : decodeRoleToken wire = .ok token)
      (hval : validateObservedRole context token requiredRole afterIoctl = .ok) :
      CheckExit context ops requiredRole afterIoctl o w
        (.ok token.role, o.observed token afterIoctl, w'.mark token.role)

theorem checkRole_exit (context : Context) (ops : IoTable σ) (requiredRole : Role)
    (afterIoctl : Bool) (o : Outcome) (w : World σ) :
    CheckExit context ops requiredRole afterIoctl o w
      (checkRole context ops requiredRole afterIoctl o w) := by
  rcases hread : readWire ops w with ⟨⟨status, errno⟩ | wire, w'⟩
  · simp only [checkRole, readRoleToken, hread]
    exact .unread hread
  · rcases hdec : decodeRoleToken wire with status | token
    · simp only [checkRole, readRoleToken, hread, hdec]
      exact .undecoded hread hdec
    · simp only [checkRole, readRoleToken, hread, hdec]
      split
      · next hval => exact .passed hread hdec hval
      · next hval => exact .refused hread hdec rfl hval

/-- The check passes when the wire read is a token of this run, and makes no other
call than reads. -/
theorem checkRole_cases (context : Context) (ops : IoTable σ) (requiredRole : Role)
    (afterIoctl : Bool) (o : Outcome) (w : World σ) :
    ∃ o', o'.device = o.device ∧ o'.role = o.role ∧
      ((∃ role w', Passes requiredRole afterIoctl role ∧
          readWire ops w = (.ok (tokenFor context role), w') ∧
          checkRole context ops requiredRole afterIoctl o w = (.ok role, o', w'.mark role)) ∨
        ∃ status, status ≠ .ok ∧
          (∀ role, Passes requiredRole afterIoctl role →
            (readWire ops w).1 ≠ .ok (tokenFor context role)) ∧
          checkRole context ops requiredRole afterIoctl o w =
            (.error status, o', (readWire ops w).2)) := by
  have hiff := fun wire role => observed_iff context wire requiredRole afterIoctl role
  have hexit := checkRole_exit context ops requiredRole afterIoctl o w
  generalize checkRole context ops requiredRole afterIoctl o w = result at hexit
  cases hexit with
  | unread hread =>
    rw [hread]
    refine ⟨_, ?_, ?_, .inr ⟨_, readLoop_error (congrArg Prod.fst hread), by simp, rfl⟩⟩
    · rfl
    · rfl
  | @undecoded wire status w' hread hdec =>
    rw [hread]
    refine ⟨_, ?_, ?_, .inr ⟨_, ?_, fun role hp heq => ?_, rfl⟩⟩
    · rfl
    · rfl
    · rw [decodeRoleToken_error hdec]
      decide
    · rw [Except.ok.injEq] at heq
      obtain ⟨token, htok, -⟩ := (hiff wire role).mpr ⟨hp, heq⟩
      rw [hdec] at htok
      cases htok
  | @refused wire token status w' hread hdec hval hs =>
    rw [hread]
    refine ⟨o.observed token afterIoctl, rfl, rfl, .inr ⟨_, hs, fun role hp heq => ?_, rfl⟩⟩
    rw [Except.ok.injEq] at heq
    obtain ⟨token', htok, hval', -⟩ := (hiff wire role).mpr ⟨hp, heq⟩
    rw [hdec, Except.ok.injEq] at htok
    rw [htok, hval'] at hval
    exact hs hval.symm
  | @passed wire token w' hread hdec hval =>
    obtain ⟨hp, hwire⟩ := (hiff wire token.role).mp ⟨token, hdec, hval, rfl⟩
    exact ⟨o.observed token afterIoctl, rfl, rfl, .inl ⟨token.role, w', hp, by rw [hread, hwire], rfl⟩⟩

/-! ### Up to the opened device -/

/-- The checks before the device is opened have passed: `w'` is the world then. -/
structure Checked (default : IoOps σ) (requiredRole : Role) (context : Option Context)
    (requested : Option (IoOps σ)) (w : World σ) (ctx : Context) (ops : IoTable σ) (w' : World σ) :
    Prop where
  context : context = some ctx
  valid : validateContext (some ctx) = .ok
  table : requestedOps default requested = some ops
  reads : ∃ w₁ pid, readWire ops w = (.ok (tokenFor ctx requiredRole), w₁) ∧
    capturePid ops (w₁.mark requiredRole) = (.ok pid, w')

@[simp] theorem capturePid_ledger (ops : IoTable σ) (w : World σ) :
    (capturePid ops w).2.ledger = w.ledger := by
  have hcall : (ops.callGetpid w).2.ledger = w.ledger := ledger_push ..
  unfold capturePid
  cases h : ops.callGetpid w with
  | mk r w' =>
    rw [h] at hcall
    dsimp only
    split <;> exact hcall

theorem Checked.ledger {default : IoOps σ} {requiredRole : Role} {context : Option Context}
    {requested : Option (IoOps σ)} {w w' : World σ} {ctx : Context} {ops : IoTable σ}
    (h : Checked default requiredRole context requested w ctx ops w') :
    w'.ledger = { w.ledger with known := decide (requiredRole = .parent) } := by
  obtain ⟨w₁, pid, hread, hpid⟩ := h.reads
  have h₁ := readWire_ledger ops w
  have h₂ := capturePid_ledger ops (w₁.mark requiredRole)
  rw [hread] at h₁
  rw [hpid] at h₂
  simpa [h₁] using h₂

/-- An outcome that names no device of the caller's. -/
structure Refused (o : Outcome) : Prop where
  status : o.status ≠ .ok
  role : o.role = .invalid
  safe : o.audit.deviceFdSafeToClose = false
  attempted : o.audit.closeAttempted = false

theorem refused_finish {o : Outcome} (h : o.device.2 = (false, false)) {status : Status}
    (hs : status ≠ .ok) (stage : Stage) : Refused (finish o status stage) := by
  obtain ⟨hsafe, hatt⟩ := Prod.mk.inj h
  exact ⟨hs, by simp [finish, hs], hsafe, hatt⟩

/-- How the shared part ends: what has passed by then, and the outcome. -/
inductive EnterExit (default : IoOps σ) (operation : Operation) (requiredRole : Role)
    (context : Option Context) (requested : Option (IoOps σ)) (w : World σ) :
    Except Outcome (Context × IoTable σ × Outcome) × World σ → Prop where
  | argument (hbad : validateContext context ≠ .ok) :
      EnterExit default operation requiredRole context requested w
        (.error (finish (auditInit context operation) (validateContext context) .config), w)
  | table (hops : requestedOps default requested = none) :
      EnterExit default operation requiredRole context requested w
        (.error (finish (auditInit context operation) .errIoOpsInvalid .config), w)
  | role {ctx : Context} {ops : IoTable σ} {status : Status} {o : Outcome} {w₁ : World σ}
      (hctx : context = some ctx) (hops : requestedOps default requested = some ops)
      (hcheck : checkRole ctx ops requiredRole false (auditInit context operation) w =
        (.error status, o, w₁)) :
      EnterExit default operation requiredRole context requested w
        (.error (finish o status .roleBefore), w₁)
  | pid {ctx : Context} {ops : IoTable σ} {role : Role} {o : Outcome} {w₁ : World σ} {errno : Int}
      {w₂ : World σ} (hctx : context = some ctx) (hops : requestedOps default requested = some ops)
      (hcheck : checkRole ctx ops requiredRole false (auditInit context operation) w =
        (.ok role, o, w₁)) (hpid : capturePid ops w₁ = (.error errno, w₂)) :
      EnterExit default operation requiredRole context requested w
        (.error (finish (o.withPidErrno errno) .errPid .pidBefore), w₂)
  | device {ctx : Context} {ops : IoTable σ} {role : Role} {o : Outcome} {w₁ : World σ} {pid : Int}
      {w₂ : World σ} (hctx : context = some ctx) (hvalid : validateContext (some ctx) = .ok)
      (hops : requestedOps default requested = some ops)
      (hcheck : checkRole ctx ops requiredRole false (auditInit context operation) w =
        (.ok role, o, w₁)) (hpid : capturePid ops w₁ = (.ok pid, w₂))
      (hfail : (ops.callOpen w₂).1.result < 0 ∨ (ops.callOpen w₂).1.errno ≠ 0) :
      EnterExit default operation requiredRole context requested w
        (.error (finish (o.withOpened pid (ops.callOpen w₂).1) .errDeviceOpen .deviceOpen),
          (ops.callOpen w₂).2)
  | opened {ctx : Context} {ops : IoTable σ} {role : Role} {o : Outcome} {w₁ : World σ} {pid : Int}
      {w₂ : World σ} (hctx : context = some ctx) (hvalid : validateContext (some ctx) = .ok)
      (hops : requestedOps default requested = some ops)
      (hcheck : checkRole ctx ops requiredRole false (auditInit context operation) w =
        (.ok role, o, w₁)) (hpid : capturePid ops w₁ = (.ok pid, w₂))
      (hgood : ¬ ((ops.callOpen w₂).1.result < 0 ∨ (ops.callOpen w₂).1.errno ≠ 0)) :
      EnterExit default operation requiredRole context requested w
        (.ok (ctx, ops, (o.withOpened pid (ops.callOpen w₂).1).claim), (ops.callOpen w₂).2)

theorem enter_exit (default : IoOps σ) (operation : Operation) (requiredRole : Role)
    (context : Option Context) (requested : Option (IoOps σ)) (w : World σ) :
    EnterExit default operation requiredRole context requested w
      (enter default operation requiredRole context requested w) := by
  by_cases hvalid : validateContext context = .ok
  · obtain ⟨ctx, hctx⟩ : ∃ ctx, context = some ctx := by
      cases context with
      | none => cases hvalid
      | some ctx => exact ⟨ctx, rfl⟩
    subst hctx
    cases hops : requestedOps default requested with
    | none =>
      simp only [enter, hvalid, hops]
      exact .table hops
    | some ops =>
      rcases hcheck : checkRole ctx ops requiredRole false (auditInit (some ctx) operation) w with
        ⟨status | role, o, w₁⟩
      · simp only [enter, hvalid, hops, hcheck]
        exact .role rfl hops hcheck
      · rcases hpid : capturePid ops w₁ with ⟨errno | pid, w₂⟩
        · simp only [enter, hvalid, hops, hcheck, hpid]
          exact .pid rfl hops hcheck hpid
        · simp only [enter, hvalid, hops, hcheck, hpid]
          split
          · next hfail => exact .device rfl hvalid hops hcheck hpid hfail
          · next hgood => exact .opened rfl hvalid hops hcheck hpid hgood
  · have hrun : enter default operation requiredRole context requested w =
        (.error (finish (auditInit context operation) (validateContext context) .config), w) := by
      unfold enter
      dsimp only
      split
      · next heq => exact absurd heq hvalid
      · rfl
    rw [hrun]
    exact .argument hvalid

/-- The role check in front of the device, which has passed. -/
theorem checkRole_before {ctx : Context} {ops : IoTable σ} {requiredRole role : Role} {o o' : Outcome}
    {w w' : World σ} (h : checkRole ctx ops requiredRole false o w = (.ok role, o', w')) :
    o'.device = o.device ∧ o'.role = o.role ∧
      ∃ w₁, readWire ops w = (.ok (tokenFor ctx requiredRole), w₁) ∧ w' = w₁.mark requiredRole := by
  obtain ⟨o₁, hdev, hrole, ⟨role₁, w₁, hp, hread, hcheck⟩ | ⟨status, -, -, hcheck⟩⟩ :=
    checkRole_cases ctx ops requiredRole false o w
  · obtain rfl : role₁ = requiredRole := hp.2 rfl
    rw [h] at hcheck
    cases hcheck
    exact ⟨hdev, hrole, w₁, hread, rfl⟩
  · rw [h] at hcheck
    cases hcheck

/-- The three ways through the shared part. -/
theorem enter_cases (default : IoOps σ) (operation : Operation) {requiredRole : Role}
    (hrole : roleIsSupported requiredRole = true) (context : Option Context)
    (requested : Option (IoOps σ)) (w : World σ) :
    (∃ o w', enter default operation requiredRole context requested w = (.error o, w') ∧
      Refused o ∧ w.ledger.Idle w'.ledger ∧
      ∀ ctx ops u, ¬ Checked default requiredRole context requested w ctx ops u) ∨
    ∃ ctx ops w', Checked default requiredRole context requested w ctx ops w' ∧
      (((ops.callOpen w').1.result < 0 ∨ (ops.callOpen w').1.errno ≠ 0) ∧
          (∃ o, enter default operation requiredRole context requested w =
            (.error o, (ops.callOpen w').2) ∧ Refused o) ∨
        (0 ≤ (ops.callOpen w').1.result ∧ (ops.callOpen w').1.errno = 0) ∧
          ∃ o, enter default operation requiredRole context requested w =
            (.ok (ctx, ops, o), (ops.callOpen w').2) ∧ o.role = .invalid ∧
            o.device = ((ops.callOpen w').1.result, true, false)) := by
  have hexit := enter_exit default operation requiredRole context requested w
  generalize enter default operation requiredRole context requested w = result at hexit
  cases hexit with
  | argument hbad =>
    refine .inl ⟨_, w, rfl, refused_finish rfl hbad _, rfl, fun ctx ops u h => hbad ?_⟩
    rw [h.context]
    exact h.valid
  | table hops =>
    refine .inl ⟨_, w, rfl, refused_finish rfl (by decide) _, rfl, fun ctx ops u h => ?_⟩
    rw [h.table] at hops
    cases hops
  | @role ctx ops status o w₁ hctx hops hcheck =>
    obtain ⟨o₁, hdev, -, ⟨role, w', -, -, hpass⟩ | ⟨status', hs, hno, hfail⟩⟩ :=
      checkRole_cases ctx ops requiredRole false (auditInit context operation) w
    · rw [hcheck] at hpass
      cases hpass
    · rw [hcheck] at hfail
      cases hfail
      refine .inl ⟨_, _, rfl, refused_finish (congrArg Prod.snd hdev) hs _, by simp [Ledger.Idle],
        fun ctx' ops' u h => ?_⟩
      obtain rfl : ctx = ctx' := Option.some.inj (hctx.symm.trans h.context)
      obtain rfl : ops = ops' := Option.some.inj (hops.symm.trans h.table)
      obtain ⟨w₁', pid, hread', -⟩ := h.reads
      exact hno requiredRole ⟨hrole, fun _ => rfl⟩ (by rw [hread'])
  | @pid ctx ops role o w₁ errno w₂ hctx hops hcheck hpid =>
    obtain ⟨hdev, -, v, hread, rfl⟩ := checkRole_before hcheck
    have hfree : (o.withPidErrno errno).device.2 = (false, false) := congrArg Prod.snd hdev
    refine .inl ⟨_, _, rfl, refused_finish hfree (by decide) _, ?_, fun ctx' ops' u h => ?_⟩
    · have h₁ := readWire_ledger ops w
      have h₂ := capturePid_ledger ops (v.mark requiredRole)
      rw [hread] at h₁
      rw [hpid] at h₂
      simp [Ledger.Idle, h₂, h₁]
    · obtain rfl : ctx = ctx' := Option.some.inj (hctx.symm.trans h.context)
      obtain rfl : ops = ops' := Option.some.inj (hops.symm.trans h.table)
      obtain ⟨v', pid, hread', hpid'⟩ := h.reads
      obtain rfl : v = v' := congrArg Prod.snd (hread.symm.trans hread')
      rw [hpid] at hpid'
      cases hpid'
  | @device ctx ops role o w₁ pid w₂ hctx hvalid hops hcheck hpid hfail =>
    obtain ⟨hdev, -, v, hread, rfl⟩ := checkRole_before hcheck
    have hfree : (o.withOpened pid (ops.callOpen w₂).1).device.2 = (false, false) :=
      congrArg Prod.snd hdev
    exact .inr ⟨ctx, ops, w₂, ⟨hctx, hvalid, hops, v, pid, hread, hpid⟩,
      .inl ⟨hfail, _, rfl, refused_finish hfree (by decide) _⟩⟩
  | @opened ctx ops role o w₁ pid w₂ hctx hvalid hops hcheck hpid hgood =>
    obtain ⟨hdev, hinv, v, hread, rfl⟩ := checkRole_before hcheck
    have hatt : o.audit.closeAttempted = false := congrArg (fun d => d.2.2) hdev
    simp only [not_or, not_lt, ne_eq, not_not] at hgood
    exact .inr ⟨ctx, ops, w₂, ⟨hctx, hvalid, hops, v, pid, hread, hpid⟩,
      .inr ⟨hgood, _, rfl, hinv, Prod.ext rfl (Prod.ext rfl hatt)⟩⟩

/-! ### From the ioctl on -/

/-- The point where PREPARE has returned: its answer and the world then. -/
structure AfterIoctl (σ : Type) where
  context : Context
  ops : IoTable σ
  fd : Int
  reply : Reply σ
  world : World σ

/-- The point behind the ioctl, when `spd_rfork_prepare` gets there. -/
def afterIoctl (default : IoOps σ) (context : Option Context) (requested : Option (IoOps σ))
    (w : World σ) : Option (AfterIoctl σ) :=
  match enter default .prepare .parent context requested w with
  | (.error _, _) => none
  | (.ok (context, ops, outcome), w) =>
    let (r, w) := ops.callIoctl outcome.audit.deviceFd SPD_RFORK_IOCTL_PREPARE
      (.value context.handlerId) w
    some ⟨context, ops, outcome.audit.deviceFd, r, w⟩

/-- What `spd_rfork_prepare` calls a failed ioctl. -/
def AfterIoctl.Failed (a : AfterIoctl σ) : Prop := a.reply.result ≠ 0 ∨ a.reply.errno ≠ 0

instance (a : AfterIoctl σ) : Decidable a.Failed := inferInstanceAs (Decidable (_ ∨ _))

/-- The role of the token readable at the role descriptor, if it is one of this run. -/
def observedRole (context : Context) (ops : IoTable σ) (w : World σ) : Option Role :=
  match readWire ops w with
  | (.ok wire, _) => match decodeRoleToken wire with
    | .ok token =>
      if validateObservedRole context token .invalid true = .ok then some token.role else none
    | .error _ => none
  | (.error _, _) => none

def AfterIoctl.role (a : AfterIoctl σ) : Option Role := observedRole a.context a.ops a.world

/-- The world once the token has been read again and passed as that role. -/
def AfterIoctl.reread (a : AfterIoctl σ) (role : Role) : World σ := (readWire a.ops a.world).2.mark role

theorem observedRole_eq_some (context : Context) (ops : IoTable σ) (w : World σ) (role : Role) :
    observedRole context ops w = some role ↔
      roleIsSupported role = true ∧ (readWire ops w).1 = .ok (tokenFor context role) := by
  have hiff : ∀ wire, _ := fun wire => observed_iff context wire .invalid true role
  simp only [Passes, Bool.true_eq_false, false_implies, and_true] at hiff
  unfold observedRole
  cases readWire ops w with
  | mk result w' =>
    cases result with
    | error e => simp
    | ok wire =>
      simp only [Except.ok.injEq]
      rw [← hiff wire]
      cases hdec : decodeRoleToken wire with
      | error status => simp
      | ok token => simp

theorem closeOwnedDevice_cases (ops : IoTable σ) (audit : Audit) (w : World σ) :
    ∃ status audit', closeOwnedDevice ops audit w = (status, audit', (ops.callClose audit.deviceFd w).2) ∧
      audit'.deviceFd = audit.deviceFd ∧ audit'.deviceFdSafeToClose = audit.deviceFdSafeToClose ∧
      audit'.closeAttempted = true := by
  unfold closeOwnedDevice
  cases ops.callClose audit.deviceFd w with
  | mk r w' =>
    dsimp only
    split
    · exact ⟨_, _, rfl, rfl, rfl, rfl⟩
    · exact ⟨_, _, rfl, rfl, rfl, rfl⟩

/-- Every exit of `spd_rfork_prepare`, with the device it leaves and the calls it made. -/
inductive PrepareExit (default : IoOps σ) (context : Option Context) (requested : Option (IoOps σ))
    (w : World σ) : Outcome → World σ → Prop where
  | early {o : Outcome} {w' : World σ} (hnone : afterIoctl default context requested w = none)
      (h : Refused o)
      (hcalls : w.ledger.Idle w'.ledger ∨ ∃ ctx ops u, Checked default .parent context requested w ctx ops u ∧
        ((ops.callOpen u).1.result < 0 ∨ (ops.callOpen u).1.errno ≠ 0) ∧ w' = (ops.callOpen u).2) :
      PrepareExit default context requested w o w'
  | ioctlFailed {a : AfterIoctl σ} {o : Outcome}
      (ha : afterIoctl default context requested w = some a) (hfail : a.Failed)
      (hs : o.status = .errIoctl) (hr : o.role = .invalid) (hd : o.device = (a.fd, true, true)) :
      PrepareExit default context requested w o (a.ops.callClose a.fd a.world).2
  | roleAfter {a : AfterIoctl σ} {o : Outcome}
      (ha : afterIoctl default context requested w = some a) (hfail : ¬ a.Failed)
      (hrole : a.role = none) (hs : o.status ≠ .ok) (hr : o.role = .invalid)
      (hd : o.device = (a.fd, false, false)) :
      PrepareExit default context requested w o (readWire a.ops a.world).2
  | pidAfter {a : AfterIoctl σ} {role : Role} {errno : Int} {u : World σ} {o : Outcome}
      (ha : afterIoctl default context requested w = some a) (hfail : ¬ a.Failed)
      (hrole : a.role = some role) (hpid : capturePid a.ops (a.reread role) = (.error errno, u))
      (hs : o.status = .errPid) (hr : o.role = .invalid)
      (hd : o.device = (a.fd, decide (role = .parent), decide (role = .parent))) :
      PrepareExit default context requested w o
        (if role = .parent then (a.ops.callClose a.fd u).2 else u)
  | complete {a : AfterIoctl σ} {role : Role} {pid : Int} {u : World σ} {o : Outcome}
      (ha : afterIoctl default context requested w = some a) (hfail : ¬ a.Failed)
      (hrole : a.role = some role) (hpid : capturePid a.ops (a.reread role) = (.ok pid, u))
      (hs : o.status = .ok) (hr : o.role = role)
      (hd : o.device = (a.fd, decide (role = .parent), false)) :
      PrepareExit default context requested w o u

theorem role_eq_none {a : AfterIoctl σ} (h : ∀ role, Passes .invalid true role →
    (readWire a.ops a.world).1 ≠ .ok (tokenFor a.context role)) : a.role = none := by
  cases hr : a.role with
  | none => rfl
  | some role =>
    obtain ⟨hsup, hread⟩ := (observedRole_eq_some _ _ _ _).mp hr
    exact absurd hread (h role ⟨hsup, by simp⟩)

/-- Behind an ioctl that returned zero. -/
theorem prepare_exit_continue {default : IoOps σ} {context : Option Context}
    {requested : Option (IoOps σ)} {w : World σ} {a : AfterIoctl σ}
    (ha : afterIoctl default context requested w = some a) (hfail : ¬ a.Failed) {o : Outcome}
    (hdev : o.device = (a.fd, true, false)) :
    PrepareExit default context requested w (prepareContinue a.context a.ops o a.world).1
      (prepareContinue a.context a.ops o a.world).2 := by
  obtain ⟨o₂, hdev₂, hrole₂, ⟨role, v, hp, hread, hcheck⟩ | ⟨status, hs, hno, hcheck⟩⟩ :=
    checkRole_cases a.context a.ops .invalid true o a.world
  · rw [hdev] at hdev₂
    have hfd : o₂.audit.deviceFd = a.fd := congrArg Prod.fst hdev₂
    have hsafe : o₂.audit.deviceFdSafeToClose = true := congrArg (fun d => d.2.1) hdev₂
    have hatt : o₂.audit.closeAttempted = false := congrArg (fun d => d.2.2) hdev₂
    have har : a.role = some role :=
      (observedRole_eq_some _ _ _ _).mpr ⟨hp.1, congrArg Prod.fst hread⟩
    have hre : a.reread role = v.mark role := congrArg (fun x => x.2.mark role) hread
    cases hpid : capturePid a.ops (v.mark role) with
    | mk result x =>
      cases result with
      | error errno =>
        by_cases hpar : role = .parent
        · obtain ⟨status, audit, hclose, hfd', hs', hatt'⟩ :=
            closeOwnedDevice_cases a.ops (o₂.withPidErrno errno).audit x
          have hcont : prepareContinue a.context a.ops o a.world =
              (finish ((o₂.withPidErrno errno).withAudit audit) .errPid .pidAfter,
                if role = .parent then (a.ops.callClose a.fd x).2 else x) := by
            simp only [prepareContinue, hcheck, hpid, if_pos hpar, hclose]
            rw [← hfd]
            rfl
          rw [hcont]
          refine .pidAfter ha hfail har (by rw [hre, hpid]) rfl rfl ?_
          simp only [hpar, decide_true]
          exact Prod.ext (hfd'.trans hfd) (Prod.ext (hs'.trans hsafe) hatt')
        · have hcont : prepareContinue a.context a.ops o a.world =
              (finish (o₂.withPidErrno errno).disown .errPid .pidAfter,
                if role = .parent then (a.ops.callClose a.fd x).2 else x) := by
            simp only [prepareContinue, hcheck, hpid, if_neg hpar]
          rw [hcont]
          refine .pidAfter ha hfail har (by rw [hre, hpid]) rfl rfl ?_
          simp only [hpar, decide_false]
          exact Prod.ext hfd (Prod.ext rfl hatt)
      | ok pid =>
        have hcont : prepareContinue a.context a.ops o a.world =
            (finish (o₂.withRole role pid) .ok .complete, x) := by
          simp only [prepareContinue, hcheck, hpid]
        rw [hcont]
        exact .complete ha hfail har (by rw [hre, hpid]) rfl rfl (Prod.ext hfd (Prod.ext rfl hatt))
  · rw [hdev] at hdev₂
    have hfd : o₂.audit.deviceFd = a.fd := congrArg Prod.fst hdev₂
    have hatt : o₂.audit.closeAttempted = false := congrArg (fun d => d.2.2) hdev₂
    have hcont : prepareContinue a.context a.ops o a.world =
        (finish o₂.disown status .roleAfter, (readWire a.ops a.world).2) := by
      simp only [prepareContinue, hcheck]
    rw [hcont]
    exact .roleAfter ha hfail (role_eq_none hno) hs (by simp [finish, hs])
      (Prod.ext hfd (Prod.ext rfl hatt))

theorem prepare_exit_opened {default : IoOps σ} {context : Option Context}
    {requested : Option (IoOps σ)} {w w' : World σ} {ctx : Context} {ops : IoTable σ} {o : Outcome}
    (h : enter default .prepare .parent context requested w = (.ok (ctx, ops, o), w'))
    (hdev : o.device.2 = (true, false)) :
    PrepareExit default context requested w (prepareOpened ctx ops o w').1
      (prepareOpened ctx ops o w').2 := by
  cases hio : ops.callIoctl o.audit.deviceFd SPD_RFORK_IOCTL_PREPARE (.value ctx.handlerId) w' with
  | mk r u =>
    let a : AfterIoctl σ := ⟨ctx, ops, o.audit.deviceFd, r, u⟩
    have ha : afterIoctl default context requested w = some a := by simp only [afterIoctl, h, hio, a]
    let o₁ := o.withIoctl r (decide (r.result ≠ 0))
    by_cases hfail : r.result ≠ 0 ∨ r.errno ≠ 0
    · obtain ⟨status, audit, hclose, hfd, hs, hatt'⟩ := closeOwnedDevice_cases ops o₁.audit u
      have hrun : prepareOpened ctx ops o w' =
          (finish (o₁.withAudit audit) .errIoctl .ioctl, (a.ops.callClose a.fd a.world).2) := by
        unfold prepareOpened
        rw [hio]
        dsimp only
        rw [if_pos hfail, hclose]
        rfl
      rw [hrun]
      refine .ioctlFailed ha hfail rfl rfl ?_
      exact Prod.ext hfd (Prod.ext (hs.trans (congrArg Prod.fst hdev)) hatt')
    · have hrun : prepareOpened ctx ops o w' = prepareContinue a.context a.ops o₁ a.world := by
        unfold prepareOpened
        rw [hio]
        dsimp only
        rw [if_neg hfail]
      rw [hrun]
      exact prepare_exit_continue ha hfail (Prod.ext rfl hdev)

theorem prepare_exit (default : IoOps σ) (context : Option Context) (requested : Option (IoOps σ))
    (w : World σ) : PrepareExit default context requested w
      (prepare default context requested w).1 (prepare default context requested w).2 := by
  obtain ⟨o, w', hent, href, hq, -⟩ | ⟨ctx, ops, w', hchk, ⟨hfail, o, hent, href⟩ |
      ⟨hok, o, hent, -, hdev⟩⟩ := @enter_cases σ default .prepare .parent rfl context requested w
  · have hnone : afterIoctl default context requested w = none := by simp only [afterIoctl, hent]
    simp only [prepare, hent]
    exact .early hnone href (.inl hq)
  · have hnone : afterIoctl default context requested w = none := by simp only [afterIoctl, hent]
    simp only [prepare, hent]
    exact .early hnone href (.inr ⟨ctx, ops, w', hchk, hfail, rfl⟩)
  · simp only [prepare, hent]
    exact prepare_exit_opened hent (congrArg Prod.snd hdev)

/-- The way to the ioctl: the checks passed, the device was opened, and PREPARE was
called on it. -/
structure Reached (default : IoOps σ) (context : Option Context) (requested : Option (IoOps σ))
    (w : World σ) (a : AfterIoctl σ) (w' : World σ) : Prop where
  checked : Checked default .parent context requested w a.context a.ops w'
  fd : (a.ops.callOpen w').1.result = a.fd
  opened : 0 ≤ a.fd ∧ (a.ops.callOpen w').1.errno = 0
  ioctl : a.ops.callIoctl a.fd SPD_RFORK_IOCTL_PREPARE (.value a.context.handlerId)
    (a.ops.callOpen w').2 = (a.reply, a.world)

theorem afterIoctl_reached {default : IoOps σ} {context : Option Context}
    {requested : Option (IoOps σ)} {w : World σ} {a : AfterIoctl σ}
    (h : afterIoctl default context requested w = some a) :
    ∃ w', Reached default context requested w a w' := by
  obtain ⟨o, w', hent, -, -, -⟩ | ⟨ctx, ops, w', hchk, ⟨hfail, o, hent, -⟩ |
      ⟨hok, o, hent, -, hdev⟩⟩ := @enter_cases σ default .prepare .parent rfl context requested w
  · simp [afterIoctl, hent] at h
  · simp [afterIoctl, hent] at h
  · have hfd : o.audit.deviceFd = (ops.callOpen w').1.result := congrArg Prod.fst hdev
    simp only [afterIoctl, hent, Option.some.injEq] at h
    subst h
    exact ⟨w', hchk, hfd.symm, ⟨by rw [hfd]; exact hok.1, hok.2⟩, rfl⟩

theorem Checked.unique {default : IoOps σ} {requiredRole : Role} {context : Option Context}
    {requested : Option (IoOps σ)} {w u u' : World σ} {ctx ctx' : Context} {ops ops' : IoTable σ}
    (h : Checked default requiredRole context requested w ctx ops u)
    (h' : Checked default requiredRole context requested w ctx' ops' u') :
    ctx = ctx' ∧ ops = ops' ∧ u = u' := by
  obtain rfl : ctx = ctx' := Option.some.inj (h.context.symm.trans h'.context)
  obtain rfl : ops = ops' := Option.some.inj (h.table.symm.trans h'.table)
  obtain ⟨w₁, pid, hread, hpid⟩ := h.reads
  obtain ⟨w₁', pid', hread', hpid'⟩ := h'.reads
  obtain rfl : w₁ = w₁' := congrArg Prod.snd (hread.symm.trans hread')
  exact ⟨rfl, rfl, congrArg Prod.snd (hpid.symm.trans hpid')⟩

theorem afterIoctl_of_reached {default : IoOps σ} {context : Option Context}
    {requested : Option (IoOps σ)} {w w' : World σ} {a : AfterIoctl σ}
    (h : Reached default context requested w a w') :
    afterIoctl default context requested w = some a := by
  obtain ⟨o, v, hent, -, -, hno⟩ | ⟨ctx, ops, v, hchk, hopen⟩ :=
    @enter_cases σ default .prepare .parent rfl context requested w
  · exact absurd h.checked (hno _ _ _)
  · obtain ⟨rfl, rfl, rfl⟩ := hchk.unique h.checked
    obtain ⟨hfail, o, hent, -⟩ | ⟨hok, o, hent, -, hdev⟩ := hopen
    · have hlow := h.opened.1
      rw [h.fd, h.opened.2] at hfail
      omega
    · have hfd : o.audit.deviceFd = a.fd := (congrArg Prod.fst hdev).trans h.fd
      simp only [afterIoctl, hent, hfd, h.ioctl]

@[simp] theorem callClose_ledger (ops : IoTable σ) (fd : Int) (w : World σ) :
    (ops.callClose fd w).2.ledger =
      { w.ledger with
        closes := w.ledger.closes ++ [fd]
        blind := if w.ledger.known then w.ledger.blind else w.ledger.blind ++ [fd] } := ledger_push ..

@[simp] theorem callIoctl_ledger (ops : IoTable σ) (fd : Int) (request : Nat) (argument : Argument)
    (w : World σ) : (ops.callIoctl fd request argument w).2.ledger =
      { w.ledger with
        ioctls := w.ledger.ioctls ++ [(fd, request, argument)]
        known := w.ledger.known && decide (request ≠ SPD_RFORK_IOCTL_PREPARE) } := ledger_push ..

@[simp] theorem callOpen_ledger (ops : IoTable σ) (w : World σ) :
    (ops.callOpen w).2.ledger =
      { w.ledger with
        opens := w.ledger.opens ++ [((ops.callOpen w).1.result, (ops.callOpen w).1.errno)]
        known := w.ledger.known ||
          decide (0 ≤ (ops.callOpen w).1.result ∧ (ops.callOpen w).1.errno = 0) } := ledger_push ..

theorem Reached.ledger {default : IoOps σ} {context : Option Context} {requested : Option (IoOps σ)}
    {w w' : World σ} {a : AfterIoctl σ} (h : Reached default context requested w a w') :
    a.world.ledger = ⟨w.ledger.opens ++ [(a.fd, 0)],
      w.ledger.ioctls ++ [(a.fd, SPD_RFORK_IOCTL_PREPARE, .value a.context.handlerId)],
      w.ledger.closes, w.ledger.blind, false⟩ := by
  have hworld : a.world = (a.ops.callIoctl a.fd SPD_RFORK_IOCTL_PREPARE (.value a.context.handlerId)
      (a.ops.callOpen w').2).2 := by rw [h.ioctl]
  rw [hworld, callIoctl_ledger, callOpen_ledger, h.checked.ledger, h.fd, h.opened.2]
  simp

/-! ### Resuming -/

theorem resumeOpened_exit (context : Context) (ops : IoTable σ) (o : Outcome) (w : World σ) :
    ∃ o', resumeOpened context ops o w =
        (o', (ops.callClose o.audit.deviceFd (ops.callIoctl o.audit.deviceFd
          SPD_RFORK_IOCTL_RESUME_REMOTE
          (.resumeRemoteRequest context.sourceMachineId context.handlerId) w).2).2) ∧
      o'.status ≠ .ok ∧ o'.role = .invalid ∧
      o'.device = (o.audit.deviceFd, o.audit.deviceFdSafeToClose, true) := by
  cases hio : ops.callIoctl o.audit.deviceFd SPD_RFORK_IOCTL_RESUME_REMOTE
      (.resumeRemoteRequest context.sourceMachineId context.handlerId) w with
  | mk r u =>
    let o₁ := o.withIoctl r (decide (r.result < 0))
    let status : Status := if r.result < 0 ∨ r.errno ≠ 0 then .errIoctl else .errResumeReturned
    have hstatus : status ≠ .ok := by
      simp only [status]
      split <;> decide
    obtain ⟨closeStatus, audit, hclose, hfd, hsafe, hatt⟩ := closeOwnedDevice_cases ops o₁.audit u
    by_cases hok : closeStatus = .ok
    · refine ⟨finish (o₁.withAudit audit) status .ioctl, ?_, hstatus, by simp [finish, hstatus],
        Prod.ext hfd (Prod.ext hsafe hatt)⟩
      unfold resumeOpened
      rw [hio]
      dsimp only
      rw [hclose]
      simp only [hok]
      rfl
    · refine ⟨finish (o₁.withAudit audit) .errDeviceClose .deviceClose, ?_, by simp [finish], rfl,
        Prod.ext hfd (Prod.ext hsafe hatt)⟩
      unfold resumeOpened
      rw [hio]
      dsimp only
      rw [hclose]
      simp only [ne_eq, hok, not_false_eq_true, if_true]
      rfl

/-- Both exits of `spd_rfork_resume_remote_or_error`: the device is not opened, or it is
closed again once. -/
theorem resume_exit (default : IoOps σ) (context : Option Context) (requested : Option (IoOps σ))
    (w : World σ) :
    (∃ o w', resumeRemoteOrError default context requested w = (o, w') ∧ Refused o ∧
      (w.ledger.Idle w'.ledger ∧
          (∀ ctx ops u, ¬ Checked default .remoteChild context requested w ctx ops u) ∨
        ∃ ctx ops u,
        Checked default .remoteChild context requested w ctx ops u ∧
        ((ops.callOpen u).1.result < 0 ∨ (ops.callOpen u).1.errno ≠ 0) ∧ w' = (ops.callOpen u).2)) ∨
    ∃ ctx ops u o, Checked default .remoteChild context requested w ctx ops u ∧
      (0 ≤ (ops.callOpen u).1.result ∧ (ops.callOpen u).1.errno = 0) ∧
      o.status ≠ .ok ∧ o.role = .invalid ∧ o.device = ((ops.callOpen u).1.result, true, true) ∧
      resumeRemoteOrError default context requested w =
        (o, (ops.callClose (ops.callOpen u).1.result
          (ops.callIoctl (ops.callOpen u).1.result SPD_RFORK_IOCTL_RESUME_REMOTE
            (.resumeRemoteRequest ctx.sourceMachineId ctx.handlerId) (ops.callOpen u).2).2).2) := by
  obtain ⟨o, w', hent, href, hidle, hno⟩ | ⟨ctx, ops, u, hchk, ⟨hfail, o, hent, href⟩ |
      ⟨hok, o, hent, hrole, hdev⟩⟩ :=
    @enter_cases σ default .resumeRemote .remoteChild rfl context requested w
  · exact .inl ⟨o, w', by simp only [resumeRemoteOrError, hent], href, .inl ⟨hidle, hno⟩⟩
  · exact .inl ⟨o, _, by simp only [resumeRemoteOrError, hent], href, .inr ⟨ctx, ops, u, hchk, hfail, rfl⟩⟩
  · have hfd : o.audit.deviceFd = (ops.callOpen u).1.result := congrArg Prod.fst hdev
    have hsafe : o.audit.deviceFdSafeToClose = true := congrArg (fun d => d.2.1) hdev
    obtain ⟨o', hrun, hs, hr, hd⟩ := resumeOpened_exit ctx ops o (ops.callOpen u).2
    rw [hfd] at hrun hd
    rw [hsafe] at hd
    exact .inr ⟨ctx, ops, u, o', hchk, hok, hs, hr, hd, by simp only [resumeRemoteOrError, hent, hrun]⟩

/-! ### Releasing -/

/-- What `spd_rfork_parent_release` asks of an outcome. -/
def Releasable (o : Outcome) : Prop :=
  o.status = .ok ∧ o.role = .parent ∧ 0 ≤ o.audit.deviceFd ∧ o.audit.deviceFdSafeToClose = true ∧
    o.audit.closeAttempted = false

theorem not_releasable_iff (o : Outcome) : ¬ Releasable o ↔
    o.status ≠ .ok ∨ o.role ≠ .parent ∨ o.audit.deviceFd < 0 ∨
      o.audit.deviceFdSafeToClose ≠ true ∨ o.audit.closeAttempted ≠ false := by
  simp only [Releasable, not_and_or, not_le]

theorem parentRelease_refused {o : Outcome} (h : ¬ Releasable o) (default : IoOps σ)
    (requested : Option (IoOps σ)) (w : World σ) :
    (parentRelease default requested o w).2 = (o, w) ∧
      ∀ ops, requestedOps default requested = some ops →
        parentRelease default requested o w = (.errDeviceOwnership, o, w) := by
  rw [not_releasable_iff] at h
  cases hops : requestedOps default requested with
  | none => simp [parentRelease, hops]
  | some ops => simp only [parentRelease, hops, if_pos h, implies_true, and_self]

theorem parentRelease_closes {o : Outcome} (h : Releasable o) {default : IoOps σ}
    {requested : Option (IoOps σ)} {ops : IoTable σ}
    (hops : requestedOps default requested = some ops) (w : World σ) :
    ∃ status o', parentRelease default requested o w =
        (status, o', (ops.callClose o.audit.deviceFd w).2) ∧
      o'.device = (o.audit.deviceFd, false, true) := by
  have hn : ¬ (o.status ≠ .ok ∨ o.role ≠ .parent ∨ o.audit.deviceFd < 0 ∨
      o.audit.deviceFdSafeToClose ≠ true ∨ o.audit.closeAttempted ≠ false) := by
    rw [← not_releasable_iff, not_not]
    exact h
  obtain ⟨status, audit, hclose, hfd, -, hatt⟩ := closeOwnedDevice_cases ops o.audit w
  simp only [parentRelease, hops, if_neg hn, hclose]
  split
  · exact ⟨_, _, rfl, Prod.ext hfd (Prod.ext rfl hatt)⟩
  · exact ⟨_, _, rfl, Prod.ext hfd (Prod.ext rfl hatt)⟩

/-- A sequence of release calls on one outcome, each with a table of its own. -/
def releaseAll (default : IoOps σ) : List (Option (IoOps σ)) → Outcome → World σ → Outcome × World σ
  | [], o, w => (o, w)
  | requested :: rest, o, w =>
    let (_, o, w) := parentRelease default requested o w
    releaseAll default rest o w

theorem releaseAll_refused {o : Outcome} (h : ¬ Releasable o) (default : IoOps σ)
    (releases : List (Option (IoOps σ))) (w : World σ) :
    releaseAll default releases o w = (o, w) := by
  induction releases with
  | nil => rfl
  | cons requested rest ih =>
    have hkeep := (parentRelease_refused h default requested w).1
    simp only [releaseAll, hkeep, ih]

theorem not_releasable_of_attempted {o : Outcome} {fd : Int} {safe : Bool}
    (h : o.device = (fd, safe, true)) : ¬ Releasable o := by
  rintro ⟨-, -, -, -, hatt⟩
  have hd : o.audit.closeAttempted = true := congrArg (fun d => d.2.2) h
  simp [hd] at hatt

/-- Releases either do nothing or close the descriptor once. -/
theorem releaseAll_cases {o : Outcome} (h : Releasable o) (default : IoOps σ)
    (releases : List (Option (IoOps σ))) (w : World σ) :
    (releaseAll default releases o w = (o, w) ∧
      ∀ r ∈ releases, requestedOps default r = none) ∨
    ∃ (ops : IoTable σ) (o' : Outcome), releaseAll default releases o w = (o', (ops.callClose o.audit.deviceFd w).2) ∧
      o'.device = (o.audit.deviceFd, false, true) := by
  induction releases with
  | nil => exact .inl ⟨rfl, by simp⟩
  | cons requested rest ih =>
    cases hops : requestedOps default requested with
    | none =>
      have hkeep : parentRelease default requested o w = (.errIoOpsInvalid, o, w) := by
        simp only [parentRelease, hops]
      obtain ⟨hrun, hnone⟩ | ⟨ops, o', hrun, hd⟩ := ih
      · refine .inl ⟨by simp only [releaseAll, hkeep, hrun], ?_⟩
        simpa [hops] using hnone
      · exact .inr ⟨ops, o', by simp only [releaseAll, hkeep, hrun], hd⟩
    | some ops =>
      obtain ⟨status, o', hrel, hd⟩ := parentRelease_closes h hops w
      have hrest := releaseAll_refused (not_releasable_of_attempted hd) default rest
        (ops.callClose o.audit.deviceFd w).2
      exact .inr ⟨ops, o', by simp only [releaseAll, hrel, hrest], hd⟩

end Exits
end ServerlessX.Rfork
