import ServerlessX.Rfork.Ownership

/-! When the two entry points of the runtime open the device, what they ask of it, and
when they succeed. -/
namespace ServerlessX.Rfork
open ServerlessX.Py

section Specification
variable {σ : Type}

/-- The calls on the device of a run from a fresh start: none, or one open once the
checks have passed, and then at most one ioctl, on the descriptor it returned. -/
def CallsAsChecked (default : IoOps σ) (requiredRole : Role) (request : Nat)
    (argument : Context → Argument) (context : Option Context) (requested : Option (IoOps σ)) (s : σ)
    (l : Ledger) : Prop :=
  l.opens = [] ∧ l.ioctls = [] ∨
  ∃ ctx ops u, Checked default requiredRole context requested ⟨s, []⟩ ctx ops u ∧
    l.opens = [((ops.callOpen u).1.result, (ops.callOpen u).1.errno)] ∧
    (l.ioctls = [] ∨ 0 ≤ (ops.callOpen u).1.result ∧ (ops.callOpen u).1.errno = 0 ∧
      l.ioctls = [((ops.callOpen u).1.result, request, argument ctx)])

variable {default : IoOps σ} {context : Option Context} {requested : Option (IoOps σ)} {s : σ}

theorem callsAsChecked_idle {requiredRole : Role} {request : Nat} {argument : Context → Argument}
    {l : Ledger} (h : (World.ledger ⟨s, []⟩).Idle l) :
    CallsAsChecked default requiredRole request argument context requested s l := by
  rw [Ledger.Idle] at h
  rw [h]
  exact .inl ⟨rfl, rfl⟩

theorem callsAsChecked_open {requiredRole : Role} {request : Nat} {argument : Context → Argument}
    {ctx : Context} {ops : IoTable σ} {u : World σ}
    (h : Checked default requiredRole context requested ⟨s, []⟩ ctx ops u) :
    CallsAsChecked default requiredRole request argument context requested s
      (ops.callOpen u).2.ledger := by
  refine .inr ⟨ctx, ops, u, h, ?_, .inl ?_⟩
  · rw [callOpen_ledger, h.ledger]
    rfl
  · rw [callOpen_ledger, h.ledger]
    rfl

/-- Behind the ioctl `spd_rfork_prepare` opens nothing and calls no ioctl. -/
theorem prepared_device {a : AfterIoctl σ} (ha : ioctlReturned default context requested s = some a) :
    (prepared default context requested s).2.ledger.opens = a.world.ledger.opens ∧
      (prepared default context requested s).2.ledger.ioctls = a.world.ledger.ioctls := by
  have hleft := @prepared_left σ default context requested s
  generalize (prepared default context requested s).2.ledger = l at hleft ⊢
  generalize (prepared default context requested s).1 = o at hleft
  cases hleft with
  | early hnone href hopens hcloses hblind =>
    rw [hnone] at ha
    cases ha
  | ioctlFailed hb hfail hs hd => simp [ioctlReturned_unique hb ha]
  | disowned hb hfail hrole hs hd => simp [ioctlReturned_unique hb ha]
  | pidFailed hb hfail hpid hs hd => simp [ioctlReturned_unique hb ha]
  | kept hb hfail hrole hpid hs hr hd => simp [ioctlReturned_unique hb ha]

theorem prepared_calls :
    CallsAsChecked default .parent SPD_RFORK_IOCTL_PREPARE (fun ctx => .value ctx.handlerId)
      context requested s (prepared default context requested s).2.ledger := by
  cases ha : ioctlReturned default context requested s with
  | none =>
    have hexit := prepare_exit default context requested ⟨s, []⟩
    change PrepareExit default context requested ⟨s, []⟩ (prepared default context requested s).1
      (prepared default context requested s).2 at hexit
    generalize (prepared default context requested s).1 = o at hexit
    generalize (prepared default context requested s).2 = w at hexit ⊢
    cases hexit with
    | early hnone href hcalls =>
      obtain hidle | ⟨ctx, ops, u, hchk, -, rfl⟩ := hcalls
      · exact callsAsChecked_idle hidle
      · exact callsAsChecked_open hchk
    | ioctlFailed hb => simp [ha] at hb
    | roleAfter hb => simp [ha] at hb
    | pidAfter hb => simp [ha] at hb
    | complete hb => simp [ha] at hb
  | some a =>
    obtain ⟨hopens, hioctls⟩ := prepared_device ha
    obtain ⟨u, hr⟩ := afterIoctl_reached ha
    obtain ⟨hlow, hl⟩ := ledger_afterIoctl ha
    refine .inr ⟨a.context, a.ops, u, hr.checked, ?_, .inr ⟨?_, hr.opened.2, ?_⟩⟩
    · rw [hopens, hl, hr.fd, hr.opened.2]
    · rw [hr.fd]
      exact hlow
    · rw [hioctls, hl, hr.fd]

theorem resumed_calls :
    CallsAsChecked default .remoteChild SPD_RFORK_IOCTL_RESUME_REMOTE
      (fun ctx => .resumeRemoteRequest ctx.sourceMachineId ctx.handlerId)
      context requested s (resumed default context requested s).2.ledger := by
  obtain ⟨o, w, hrun, href, ⟨hidle, -⟩ | ⟨ctx, ops, u, hchk, hfail, rfl⟩⟩ |
      ⟨ctx, ops, u, o, hchk, ⟨hlow, herr⟩, -, -, hd, hrun⟩ :=
    resume_exit default context requested ⟨s, []⟩
  · rw [resumed, hrun]
    exact callsAsChecked_idle hidle
  · rw [resumed, hrun]
    exact callsAsChecked_open hchk
  · rw [resumed, hrun]
    refine .inr ⟨ctx, ops, u, hchk, ?_, .inr ⟨hlow, herr, ?_⟩⟩
    · simp [hchk.ledger, Ledger.empty]
    · simp [hchk.ledger, Ledger.empty]

/-- What `spd_rfork_prepare` needs to return `SPD_RFORK_OK` with a role. -/
def Succeeds (default : IoOps σ) (context : Option Context) (requested : Option (IoOps σ)) (s : σ)
    (role : Role) : Prop :=
  (role = .parent ∨ role = .remoteChild) ∧
  ∃ a u, Reached default context requested ⟨s, []⟩ a u ∧
    (a.reply.result = 0 ∧ a.reply.errno = 0) ∧
    (readWire a.ops a.world).1 = .ok (tokenFor a.context role) ∧
    ∃ pid v, capturePid a.ops (a.reread role) = (.ok pid, v)

theorem not_failed_iff (a : AfterIoctl σ) : ¬ a.Failed ↔ a.reply.result = 0 ∧ a.reply.errno = 0 := by
  simp [AfterIoctl.Failed, not_or]

theorem supported_iff (role : Role) :
    roleIsSupported role = true ↔ role = .parent ∨ role = .remoteChild := by
  simp [roleIsSupported]

theorem prepared_ok (role : Role) :
    ((prepared default context requested s).1.status = .ok ∧
      (prepared default context requested s).1.role = role) ↔
      Succeeds default context requested s role := by
  have hexit := prepare_exit default context requested ⟨s, []⟩
  change PrepareExit default context requested ⟨s, []⟩ (prepared default context requested s).1
    (prepared default context requested s).2 at hexit
  generalize (prepared default context requested s).1 = o at hexit ⊢
  generalize (prepared default context requested s).2 = w at hexit
  cases hexit with
  | early hnone href hcalls =>
    refine iff_of_false (fun h => href.status h.1) ?_
    rintro ⟨-, a, u, hr, -⟩
    rw [afterIoctl_of_reached hr] at hnone
    cases hnone
  | @ioctlFailed a o ha hfail hs hr hd =>
    refine iff_of_false (fun h => by simp [hs] at h) ?_
    rintro ⟨-, b, u, hb, hok, -⟩
    obtain rfl := ioctlReturned_unique ha (afterIoctl_of_reached hb)
    exact (not_failed_iff a).mpr hok hfail
  | @roleAfter a o ha hfail hrole hs hr hd =>
    refine iff_of_false (fun h => hs h.1) ?_
    rintro ⟨hsup, b, u, hb, -, hread, -⟩
    obtain rfl := ioctlReturned_unique ha (afterIoctl_of_reached hb)
    have har := (observedRole_eq_some _ _ _ role).mpr ⟨(supported_iff role).mpr hsup, hread⟩
    rw [AfterIoctl.role, har] at hrole
    cases hrole
  | @pidAfter a role' errno u o ha hfail hrole hpid hs hr hd =>
    refine iff_of_false (fun h => by simp [hs] at h) ?_
    rintro ⟨hsup, b, v, hb, -, hread, pid, x, hpid'⟩
    obtain rfl := ioctlReturned_unique ha (afterIoctl_of_reached hb)
    have har := (observedRole_eq_some _ _ _ role).mpr ⟨(supported_iff role).mpr hsup, hread⟩
    obtain rfl : role' = role := Option.some.inj (hrole.symm.trans har)
    rw [hpid] at hpid'
    cases hpid'
  | @complete a role' pid u o ha hfail hrole hpid hs hr hd =>
    obtain ⟨hsup, hread⟩ := (observedRole_eq_some _ _ _ role').mp hrole
    constructor
    · rintro ⟨-, hrole'⟩
      obtain rfl : role' = role := hr.symm.trans hrole'
      obtain ⟨v, hv⟩ := afterIoctl_reached ha
      exact ⟨(supported_iff role').mp hsup, a, v, hv, (not_failed_iff a).mp hfail, hread, pid, _, hpid⟩
    · rintro ⟨hsup', b, v, hb, -, hread', -⟩
      obtain rfl := ioctlReturned_unique ha (afterIoctl_of_reached hb)
      have har := (observedRole_eq_some _ _ _ role).mpr ⟨(supported_iff role).mpr hsup', hread'⟩
      exact ⟨hs, hr.trans (Option.some.inj (hrole.symm.trans har))⟩

/-- The tokens the checks ask for are the ones `spd_rfork_role_token_encode` makes. -/
theorem tokenFor_encoded {ctx : Context} (h : validateContext (some ctx) = .ok) {role : Role}
    (hrole : roleIsSupported role = true) (output : Bytes) :
    roleTokenEncode output role ctx.handlerId.toUInt64 (machineOf ctx role) (some ctx.runCookie) =
      (.ok, tokenFor ctx role) := by
  have hcookie : cookieIsNonzero ctx.runCookie = true := by
    simp only [validateContext] at h
    split at h
    · cases h
    · split at h
      · cases h
      · next hc => simpa using hc
  have hsmall : ctx.handlerId.toNat ≤ 4294967295 := Nat.le_of_lt_succ ctx.handlerId.toNat_lt
  simp [roleTokenEncode, hrole, hcookie, hsmall, tokenFor]

/-- A token names one role. -/
theorem role_of_tokenFor {ctx ctx' : Context} {role role' : Role}
    (hrole : roleIsSupported role = true) (hrole' : roleIsSupported role' = true)
    (h : tokenFor ctx role = tokenFor ctx' role') : role = role' := by
  obtain ⟨t, hdec, -, rfl⟩ := (observed_iff ctx (tokenFor ctx role) .invalid true role).mpr
    ⟨⟨hrole, by simp⟩, rfl⟩
  obtain ⟨t', hdec', -, rfl⟩ := (observed_iff ctx' (tokenFor ctx' role') .invalid true role').mpr
    ⟨⟨hrole', by simp⟩, rfl⟩
  rw [h, hdec'] at hdec
  cases hdec
  rfl

/-- Both entry points, over every environment: the device is opened only for a valid
context, the encoded token of the required role and a process id; at most one ioctl is
called, on the opened descriptor; `spd_rfork_prepare` succeeds with a role exactly when
that ioctl returned zero, the token read again is the encoded one of that role and the
process id could be read again, so that the role is a matter of that token alone;
`spd_rfork_resume_remote_or_error` never succeeds. -/
theorem prepare_resume_exact (default : IoOps σ) (context : Option Context)
    (requested : Option (IoOps σ)) (s : σ) :
    CallsAsChecked default .parent SPD_RFORK_IOCTL_PREPARE (fun ctx => .value ctx.handlerId)
      context requested s (prepared default context requested s).2.ledger ∧
    CallsAsChecked default .remoteChild SPD_RFORK_IOCTL_RESUME_REMOTE
      (fun ctx => .resumeRemoteRequest ctx.sourceMachineId ctx.handlerId)
      context requested s (resumed default context requested s).2.ledger ∧
    (∀ ctx, validateContext (some ctx) = .ok → ∀ output,
      roleTokenEncode output .parent ctx.handlerId.toUInt64 ctx.sourceMachineId
        (some ctx.runCookie) = (.ok, tokenFor ctx .parent) ∧
      roleTokenEncode output .remoteChild ctx.handlerId.toUInt64 ctx.targetMachineId
        (some ctx.runCookie) = (.ok, tokenFor ctx .remoteChild)) ∧
    (∀ role, ((prepared default context requested s).1.status = .ok ∧
      (prepared default context requested s).1.role = role) ↔
      Succeeds default context requested s role) ∧
    (∀ {τ : Type} (default' : IoOps τ) (context' : Option Context) (requested' : Option (IoOps τ))
      (t : τ) (a : AfterIoctl σ) (b : AfterIoctl τ),
      ioctlReturned default context requested s = some a →
      ioctlReturned default' context' requested' t = some b →
      (prepared default context requested s).1.status = .ok →
      (prepared default' context' requested' t).1.status = .ok →
      (readWire a.ops a.world).1 = (readWire b.ops b.world).1 →
      (prepared default context requested s).1.role =
        (prepared default' context' requested' t).1.role) ∧
    (resumed default context requested s).1.status ≠ .ok := by
  refine ⟨prepared_calls, resumed_calls, fun ctx hvalid output => ?_, prepared_ok, ?_,
    resumed_cases.1⟩
  · exact ⟨tokenFor_encoded hvalid rfl output, tokenFor_encoded hvalid rfl output⟩
  · intro τ default' context' requested' t a b ha hb hs hs' hread
    obtain ⟨hrole, a', u, hr, -, hwire, -⟩ := (prepared_ok _).mp ⟨hs, rfl⟩
    obtain ⟨hrole', b', u', hr', -, hwire', -⟩ := (prepared_ok _).mp ⟨hs', rfl⟩
    obtain rfl := ioctlReturned_unique (afterIoctl_of_reached hr) ha
    obtain rfl := ioctlReturned_unique (afterIoctl_of_reached hr') hb
    rw [hwire, hwire'] at hread
    exact role_of_tokenFor ((supported_iff _).mpr hrole) ((supported_iff _).mpr hrole')
      (Except.ok.inj hread)

end Specification
end ServerlessX.Rfork
