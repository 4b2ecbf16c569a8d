import ServerlessX.Rfork.Exits

/-! Who closes the device, and how often: over one `spd_rfork_prepare` with any
releases behind it, and over one `spd_rfork_resume_remote_or_error`. -/
namespace ServerlessX.Rfork
open ServerlessX.Py

section Ownership
variable {σ : Type} (default : IoOps σ) (context : Option Context) (requested : Option (IoOps σ))
  (s : σ)

/-- A prepare from a fresh start. -/
abbrev prepared : Outcome × World σ := prepare default context requested ⟨s, []⟩

/-- A prepare with releases behind it. -/
abbrev released (releases : List (Option (IoOps σ))) : Outcome × World σ :=
  releaseAll default releases (prepared default context requested s).1
    (prepared default context requested s).2

abbrev resumed : Outcome × World σ := resumeRemoteOrError default context requested ⟨s, []⟩

abbrev ioctlReturned : Option (AfterIoctl σ) := afterIoctl default context requested ⟨s, []⟩

variable {default context requested s}

/-- The second `getpid` fails after the token was read again as the parent's. -/
def AfterIoctl.PidFails (a : AfterIoctl σ) : Prop :=
  a.role = some .parent ∧ ∃ errno u, capturePid a.ops (a.reread .parent) = (.error errno, u)

/-- A prepare gets behind its ioctl in one way. -/
theorem ioctlReturned_unique {a b : AfterIoctl σ} (ha : ioctlReturned default context requested s = some a)
    (hb : ioctlReturned default context requested s = some b) : a = b :=
  Option.some.inj (ha.symm.trans hb)

theorem ledger_afterIoctl {a : AfterIoctl σ} (h : ioctlReturned default context requested s = some a) :
    0 ≤ a.fd ∧ a.world.ledger = ⟨[(a.fd, 0)],
      [(a.fd, SPD_RFORK_IOCTL_PREPARE, .value a.context.handlerId)], [], [], false⟩ := by
  obtain ⟨w', hr⟩ := afterIoctl_reached h
  exact ⟨hr.opened.1, hr.ledger⟩

theorem ledger_reread {a : AfterIoctl σ} {role : Role} {result : Except Int Int} {u : World σ}
    (h : capturePid a.ops (a.reread role) = (result, u)) :
    u.ledger = { a.world.ledger with known := decide (role = .parent) } := by
  have hu := capturePid_ledger a.ops (a.reread role)
  rw [h] at hu
  simpa [AfterIoctl.reread] using hu

/-- What an exit leaves behind: the outcome and the ledger of its calls. -/
inductive Left (default : IoOps σ) (context : Option Context) (requested : Option (IoOps σ)) (s : σ) :
    Outcome → Ledger → Prop where
  /-- The device was not opened. -/
  | early {o : Outcome} {l : Ledger} (hnone : ioctlReturned default context requested s = none)
      (h : Refused o) (hopens : ∀ fd, 0 ≤ fd → (fd, 0) ∉ l.opens) (hcloses : l.closes = [])
      (hblind : l.blind = []) : Left default context requested s o l
  /-- The ioctl failed; the device was closed without a look at the token. -/
  | ioctlFailed {a : AfterIoctl σ} {o : Outcome}
      (ha : ioctlReturned default context requested s = some a) (hfail : a.Failed)
      (hs : o.status ≠ .ok) (hd : o.device = (a.fd, true, true)) :
      Left default context requested s o
        { a.world.ledger with closes := [a.fd], blind := [a.fd], known := false }
  /-- The process is not the parent, or not known to be. -/
  | disowned {a : AfterIoctl σ} {o : Outcome}
      (ha : ioctlReturned default context requested s = some a) (hfail : ¬ a.Failed)
      (hrole : a.role ≠ some .parent) (hs : o.role ≠ .parent)
      (hd : o.device = (a.fd, false, false)) :
      Left default context requested s o { a.world.ledger with known := false }
  /-- The parent closed it because its process id could not be read. -/
  | pidFailed {a : AfterIoctl σ} {o : Outcome}
      (ha : ioctlReturned default context requested s = some a) (hfail : ¬ a.Failed)
      (hpid : a.PidFails) (hs : o.status ≠ .ok) (hd : o.device = (a.fd, true, true)) :
      Left default context requested s o { a.world.ledger with closes := [a.fd], known := true }
  /-- The parent keeps it. -/
  | kept {a : AfterIoctl σ} {o : Outcome}
      (ha : ioctlReturned default context requested s = some a) (hfail : ¬ a.Failed)
      (hrole : a.role = some .parent) (hpid : ¬ a.PidFails) (hs : o.status = .ok)
      (hr : o.role = .parent) (hd : o.device = (a.fd, true, false)) :
      Left default context requested s o { a.world.ledger with known := true }

/-- Opening that does not succeed leaves nothing open. -/
theorem opens_failed {ops : IoTable σ} {u : World σ} (hu : u.ledger.opens = [])
    (h : (ops.callOpen u).1.result < 0 ∨ (ops.callOpen u).1.errno ≠ 0) :
    (∀ fd, 0 ≤ fd → (fd, 0) ∉ (ops.callOpen u).2.ledger.opens) ∧
      (ops.callOpen u).2.ledger.closes = u.ledger.closes ∧
      (ops.callOpen u).2.ledger.blind = u.ledger.blind := by
  rw [callOpen_ledger]
  refine ⟨fun fd hfd hmem => ?_, rfl, rfl⟩
  simp only [hu, List.nil_append, List.mem_singleton, Prod.mk.injEq] at hmem
  omega

theorem prepared_left : Left default context requested s (prepared default context requested s).1
    (prepared default context requested s).2.ledger := by
  have hexit := prepare_exit default context requested ⟨s, []⟩
  generalize (prepare default context requested ⟨s, []⟩).1 = o at hexit ⊢
  generalize (prepare default context requested ⟨s, []⟩).2 = w at hexit ⊢
  cases hexit with
  | early hnone href hcalls =>
    obtain hidle | ⟨ctx, ops, u, hchk, hfail, rfl⟩ := hcalls
    · rw [Ledger.Idle] at hidle
      rw [hidle]
      exact .early hnone href (by simp [World.ledger, Ledger.empty]) rfl rfl
    · have hu := hchk.ledger
      obtain ⟨hopens, hcloses, hblind⟩ := opens_failed (by rw [hu]; rfl) hfail
      rw [hu] at hcloses hblind
      exact .early hnone href hopens hcloses hblind
  | @ioctlFailed a o ha hfail hs hr hd =>
    obtain ⟨-, hl⟩ := ledger_afterIoctl ha
    have hled : (a.ops.callClose a.fd a.world).2.ledger =
        { a.world.ledger with closes := [a.fd], blind := [a.fd], known := false } := by
      rw [callClose_ledger, hl]
      rfl
    rw [hled]
    exact .ioctlFailed ha hfail (by rw [hs]; decide) hd
  | @roleAfter a o ha hfail hrole hs hr hd =>
    obtain ⟨-, hl⟩ := ledger_afterIoctl ha
    have hled : (readWire a.ops a.world).2.ledger = { a.world.ledger with known := false } := by
      rw [readWire_ledger, hl]
    rw [hled]
    exact .disowned ha hfail (by simp [hrole]) (by simp [hr]) hd
  | @pidAfter a role errno u o ha hfail hrole hpid hs hr hd =>
    have hu := ledger_reread hpid
    obtain ⟨-, hl⟩ := ledger_afterIoctl ha
    by_cases hpar : role = .parent
    · subst hpar
      have hled : (if Role.parent = .parent then (a.ops.callClose a.fd u).2 else u).ledger =
          { a.world.ledger with closes := [a.fd], known := true } := by
        rw [if_pos rfl, callClose_ledger, hu, hl]
        rfl
      rw [hled]
      exact .pidFailed ha hfail ⟨hrole, errno, u, hpid⟩ (by rw [hs]; decide) hd
    · have hled : (if role = .parent then (a.ops.callClose a.fd u).2 else u).ledger =
          { a.world.ledger with known := false } := by
        rw [if_neg hpar, hu]
        simp [hpar]
      rw [hled]
      refine .disowned ha hfail (by simpa [hrole] using hpar) (by simp [hr]) ?_
      simpa [hpar] using hd
  | @complete a role pid u o ha hfail hrole hpid hs hr hd =>
    have hu := ledger_reread hpid
    by_cases hpar : role = .parent
    · subst hpar
      have hpid' : ¬ a.PidFails := by
        rintro ⟨-, errno, v, hv⟩
        rw [hpid] at hv
        cases hv
      rw [hu]
      exact .kept ha hfail hrole hpid' hs hr hd
    · rw [hu]
      simp only [hpar, decide_false] at hd ⊢
      exact .disowned ha hfail (by simpa [hrole] using hpar) (by rw [hr]; exact hpar) hd

/-- Only a parent that completed keeps a device to release. -/
theorem Left.kept_of_ok {o : Outcome} {l : Ledger} (h : Left default context requested s o l)
    (hs : o.status = .ok) (hr : o.role = .parent) :
    Releasable o ∧ ∃ a, ioctlReturned default context requested s = some a ∧ ¬ a.Failed ∧
      a.role = some .parent ∧ ¬ a.PidFails ∧ o.device = (a.fd, true, false) ∧
      l = { a.world.ledger with known := true } := by
  cases h with
  | early hnone href hopens hcloses hblind => exact absurd hs href.status
  | ioctlFailed ha hfail hs' hd => exact absurd hs hs'
  | disowned ha hfail hrole hs' hd => exact absurd hr hs'
  | pidFailed ha hfail hpid hs' hd => exact absurd hs hs'
  | @kept a o ha hfail hrole hpid hs' hr' hd =>
    have hfd : o.audit.deviceFd = a.fd := congrArg Prod.fst hd
    refine ⟨⟨hs, hr, ?_, congrArg (fun d => d.2.1) hd, congrArg (fun d => d.2.2) hd⟩,
      a, ha, hfail, hrole, hpid, hd, rfl⟩
    rw [hfd]
    exact (ledger_afterIoctl ha).1

/-- Releases change nothing, or the parent's device is closed once. -/
theorem released_cases (releases : List (Option (IoOps σ))) :
    released default context requested s releases = prepared default context requested s ∨
    ∃ a, ioctlReturned default context requested s = some a ∧ ¬ a.Failed ∧
      a.role = some .parent ∧ ¬ a.PidFails ∧
      (released default context requested s releases).1.device = (a.fd, false, true) ∧
      (released default context requested s releases).2.ledger =
        { a.world.ledger with closes := [a.fd], known := true } := by
  by_cases hrel : Releasable (prepared default context requested s).1
  · obtain ⟨hrun, -⟩ | ⟨ops, o', hrun, hd⟩ := releaseAll_cases hrel default releases
      (prepared default context requested s).2
    · exact .inl hrun
    · obtain ⟨-, a, ha, hfail, hrole, hpid, hd', hl⟩ := prepared_left.kept_of_ok hrel.1 hrel.2.1
      have hfd : (prepared default context requested s).1.audit.deviceFd = a.fd :=
        congrArg Prod.fst hd'
      refine .inr ⟨a, ha, hfail, hrole, hpid, ?_, ?_⟩
      · rw [released, hrun, hd, hfd]
      · rw [released, hrun, callClose_ledger, hl, hfd, (ledger_afterIoctl ha).2]
        rfl
  · exact .inl (releaseAll_refused hrel default releases _)

/-- How often an exit has closed the device. -/
theorem Left.closes {o : Outcome} {l : Ledger} (h : Left default context requested s o l) :
    (l.closes = [] ∨ ∃ fd, 0 ≤ fd ∧ (fd, 0) ∈ l.opens ∧ l.closes = [fd]) ∧
    ∀ a, ioctlReturned default context requested s = some a →
      (a.Failed ∨ a.PidFails → l.closes = [a.fd]) ∧ (¬ a.Failed → ¬ a.PidFails → l.closes = []) := by
  cases h with
  | early hnone href hopens hcloses hblind =>
    refine ⟨.inl hcloses, fun a ha => ?_⟩
    rw [hnone] at ha
    cases ha
  | @ioctlFailed a o ha hfail hs hd =>
    obtain ⟨hlow, hl⟩ := ledger_afterIoctl ha
    refine ⟨.inr ⟨a.fd, hlow, by simp [hl], rfl⟩, fun b hb => ?_⟩
    obtain rfl := ioctlReturned_unique ha hb
    exact ⟨fun _ => rfl, fun hn => absurd hfail hn⟩
  | @disowned a o ha hfail hrole hs hd =>
    obtain ⟨hlow, hl⟩ := ledger_afterIoctl ha
    refine ⟨.inl (by simp [hl]), fun b hb => ?_⟩
    obtain rfl := ioctlReturned_unique ha hb
    refine ⟨fun hor => ?_, fun _ _ => by simp [hl]⟩
    obtain hf | hp := hor
    · exact absurd hf hfail
    · exact absurd hp.1 hrole
  | @pidFailed a o ha hfail hpid hs hd =>
    obtain ⟨hlow, hl⟩ := ledger_afterIoctl ha
    refine ⟨.inr ⟨a.fd, hlow, by simp [hl], rfl⟩, fun b hb => ?_⟩
    obtain rfl := ioctlReturned_unique ha hb
    exact ⟨fun _ => rfl, fun _ hn => absurd hpid hn⟩
  | @kept a o ha hfail hrole hpid hs hr hd =>
    obtain ⟨hlow, hl⟩ := ledger_afterIoctl ha
    refine ⟨.inl (by simp [hl]), fun b hb => ?_⟩
    obtain rfl := ioctlReturned_unique ha hb
    refine ⟨fun hor => ?_, fun _ _ => by simp [hl]⟩
    obtain hf | hp := hor
    · exact absurd hf hfail
    · exact absurd hp hpid

/-- Resuming closes what it opened. -/
theorem resumed_cases :
    (resumed default context requested s).1.status ≠ .ok ∧
    ((Refused (resumed default context requested s).1 ∧
        (∀ fd, 0 ≤ fd → (fd, 0) ∉ (resumed default context requested s).2.ledger.opens) ∧
        (resumed default context requested s).2.ledger.closes = []) ∨
      ∃ fd, 0 ≤ fd ∧ (resumed default context requested s).1.device = (fd, true, true) ∧
        (resumed default context requested s).2.ledger.opens = [(fd, 0)] ∧
        (resumed default context requested s).2.ledger.closes = [fd]) := by
  obtain ⟨o, w, hrun, href, ⟨hidle, -⟩ | ⟨ctx, ops, u, hchk, hfail, rfl⟩⟩ |
      ⟨ctx, ops, u, o, hchk, ⟨hlow, herr⟩, hs, hr, hd, hrun⟩ :=
    resume_exit default context requested ⟨s, []⟩
  · rw [resumed, hrun]
    rw [Ledger.Idle] at hidle
    refine ⟨href.status, .inl ⟨href, ?_, ?_⟩⟩
    · simp only
      rw [hidle]
      simp [World.ledger, Ledger.empty]
    · simp only
      rw [hidle]
      rfl
  · rw [resumed, hrun]
    have hu := hchk.ledger
    obtain ⟨hopens, hcloses, -⟩ := opens_failed (by rw [hu]; rfl) hfail
    rw [hu] at hcloses
    exact ⟨href.status, .inl ⟨href, hopens, hcloses⟩⟩
  · rw [resumed, hrun]
    refine ⟨hs, .inr ⟨(ops.callOpen u).1.result, hlow, hd, ?_, ?_⟩⟩
    · simp [hchk.ledger, herr, Ledger.empty]
    · simp [hchk.ledger, Ledger.empty]

/-- The device over a prepare and any releases: closed at most once and only as it was
opened; not at all once the ioctl returned zero and the role is not known to be the
parent's; once inside the prepare when the ioctl or the parent's second `getpid`
fails; by the first release of a parent that completed, after which, as in every
other case, a release is refused without a call. Resuming closes what it opened. -/
theorem device_ownership (default : IoOps σ) (context : Option Context)
    (requested : Option (IoOps σ)) (s : σ) :
    (∀ releases, (released default context requested s releases).2.ledger.closes = [] ∨
      ∃ fd, 0 ≤ fd ∧ (fd, 0) ∈ (released default context requested s releases).2.ledger.opens ∧
        (released default context requested s releases).2.ledger.closes = [fd]) ∧
    (∀ a, ioctlReturned default context requested s = some a →
      (¬ a.Failed → a.role ≠ some .parent → ∀ releases,
        (released default context requested s releases).2.ledger.closes = []) ∧
      (a.Failed ∨ a.PidFails →
        (prepared default context requested s).2.ledger.closes = [a.fd])) ∧
    ((prepared default context requested s).1.status = .ok →
      (prepared default context requested s).1.role = .parent →
      (prepared default context requested s).2.ledger.closes = [] ∧
      ∀ release, (requestedOps default release).isSome = true →
        (released default context requested s [release]).2.ledger.closes =
          [(prepared default context requested s).1.audit.deviceFd]) ∧
    (∀ releases release, (∀ r ∈ releases, (requestedOps default r).isSome = true) →
      (requestedOps default release).isSome = true →
      ¬ ((prepared default context requested s).1.status = .ok ∧
        (prepared default context requested s).1.role = .parent ∧ releases = []) →
      parentRelease default release (released default context requested s releases).1
        (released default context requested s releases).2 =
        (.errDeviceOwnership, released default context requested s releases)) ∧
    ((∃ fd, 0 ≤ fd ∧ (resumed default context requested s).2.ledger.opens = [(fd, 0)] ∧
        (resumed default context requested s).2.ledger.closes = [fd]) ∨
      (∀ fd, 0 ≤ fd → (fd, 0) ∉ (resumed default context requested s).2.ledger.opens) ∧
        (resumed default context requested s).2.ledger.closes = []) := by
  have hleft := @prepared_left σ default context requested s
  obtain ⟨hcloses, hioctl⟩ := hleft.closes
  refine ⟨fun releases => ?_, fun a ha => ⟨fun hfail hrole releases => ?_, (hioctl a ha).1⟩, ?_, ?_, ?_⟩
  · obtain heq | ⟨a, ha, -, -, -, -, hl⟩ := released_cases releases
    · rw [heq]
      exact hcloses
    · obtain ⟨hlow, hw⟩ := ledger_afterIoctl ha
      rw [hl]
      exact .inr ⟨a.fd, hlow, by simp [hw], rfl⟩
  · obtain heq | ⟨b, hb, -, hpar, -⟩ := released_cases releases
    · rw [heq]
      exact (hioctl a ha).2 hfail fun hp => hrole hp.1
    · obtain rfl := ioctlReturned_unique ha hb
      exact absurd hpar hrole
  · intro hs hr
    obtain ⟨hrel, a, ha, -, -, -, -, hl⟩ := hleft.kept_of_ok hs hr
    have hzero : (prepared default context requested s).2.ledger.closes = [] := by
      rw [hl, (ledger_afterIoctl ha).2]
    refine ⟨hzero, fun release hvalid => ?_⟩
    obtain ⟨-, hnone⟩ | ⟨ops, o', hrun, -⟩ := releaseAll_cases hrel default [release]
      (prepared default context requested s).2
    · simp [hnone release (by simp)] at hvalid
    · rw [released, hrun, callClose_ledger, hzero]
      rfl
  · intro releases release hall hvalid hnot
    obtain ⟨ops, hops⟩ := Option.isSome_iff_exists.mp hvalid
    have hrefused : ¬ Releasable (released default context requested s releases).1 := by
      by_cases hrel : Releasable (prepared default context requested s).1
      · obtain ⟨-, hnone⟩ | ⟨ops, o', hrun, hd⟩ := releaseAll_cases hrel default releases
          (prepared default context requested s).2
        · -- no release with a valid table: there was no release at all
          have hnil : releases = [] := by
            rw [List.eq_nil_iff_forall_not_mem]
            intro r hr
            simpa [hnone r hr] using hall r hr
          exact absurd ⟨hrel.1, hrel.2.1, hnil⟩ hnot
        · rw [released, hrun]
          exact not_releasable_of_attempted hd
      · rwa [released, releaseAll_refused hrel]
    exact (parentRelease_refused hrefused default release _).2 ops hops
  · obtain ⟨-, ⟨-, hopens, hc⟩ | ⟨fd, hlow, -, hopens, hc⟩⟩ := @resumed_cases σ default context requested s
    · exact .inr ⟨hopens, hc⟩
    · exact .inl ⟨fd, hlow, hopens, hc⟩

end Ownership

section Token
variable {σ : Type} (default : IoOps σ) (context : Option Context) (requested : Option (IoOps σ))
  (s : σ)

/-- A process whose token behind the ioctl is not the parent's closes nothing. -/
def ChildNeverCloses : Prop :=
  ∀ a, ioctlReturned default context requested s = some a → a.role ≠ some .parent →
    ∀ releases, (released default context requested s releases).2.ledger.closes = []

/-- Behind the ioctl the device is closed only once a token read again was the parent's. -/
def ClosesOnlyAsParent : Prop :=
  ∀ releases, (released default context requested s releases).2.ledger.blind = []

variable {default context requested s}

/-- Only the exit of a failed ioctl closes without having read the token again. -/
theorem Left.blind {o : Outcome} {l : Ledger} (h : Left default context requested s o l) :
    l.blind = [] ↔ ∀ a, ioctlReturned default context requested s = some a → ¬ a.Failed := by
  cases h with
  | early hnone href hopens hcloses hblind => simp [hnone, hblind]
  | ioctlFailed ha hfail hs hd => simp [ha, hfail]
  | disowned ha hfail hrole hs hd => simp [ha, hfail, (ledger_afterIoctl ha).2]
  | pidFailed ha hfail hpid hs hd => simp [ha, hfail, (ledger_afterIoctl ha).2]
  | kept ha hfail hrole hpid hs hr hd => simp [ha, hfail, (ledger_afterIoctl ha).2]

/-- The descriptor is touched by the token's leave exactly as far as the ioctl does not
fail: that exit of `spd_rfork_prepare` closes whatever the role descriptor holds. -/
theorem closes_by_token (default : IoOps σ) (context : Option Context)
    (requested : Option (IoOps σ)) (s : σ) :
    (ChildNeverCloses default context requested s ↔
      ∀ a, ioctlReturned default context requested s = some a → a.Failed → a.role = some .parent) ∧
    (ClosesOnlyAsParent default context requested s ↔
      ∀ a, ioctlReturned default context requested s = some a → ¬ a.Failed) := by
  have hleft := @prepared_left σ default context requested s
  refine ⟨⟨fun h a ha hfail => ?_, fun h a ha hrole releases => ?_⟩, ⟨fun h => ?_, fun h releases => ?_⟩⟩
  · by_contra hrole
    have hnone : (prepared default context requested s).2.ledger.closes = [] := h a ha hrole []
    rw [(hleft.closes.2 a ha).1 (.inl hfail)] at hnone
    cases hnone
  · have hfail : ¬ a.Failed := fun hf => hrole (h a ha hf)
    obtain heq | ⟨b, hb, -, hpar, -⟩ := released_cases releases
    · rw [heq]
      exact (hleft.closes.2 a ha).2 hfail fun hp => hrole hp.1
    · obtain rfl := ioctlReturned_unique ha hb
      exact absurd hpar hrole
  · exact hleft.blind.mp (h [])
  · obtain heq | ⟨a, ha, -, -, -, -, hl⟩ := released_cases releases
    · rw [heq]
      exact hleft.blind.mpr h
    · rw [hl, (ledger_afterIoctl ha).2]

end Token

section Mock

/-- `struct mock_io` of the tests, as far as it is read here. -/
structure MockIo where
  roleToken : Bytes
  childToken : Bytes
  switchToChildOnPrepare : Bool
  openResult : Int
  ioctlResult : Int
  ioctlErrno : Int
  pid : Int
  childPid : Int

def mockIoctl (request : Nat) (m : MockIo) : Reply MockIo :=
  let m := if request = SPD_RFORK_IOCTL_PREPARE ∧ m.switchToChildOnPrepare = true then
    { m with roleToken := m.childToken, pid := m.childPid } else m
  ⟨m.ioctlResult, m.ioctlErrno, m⟩

def mockPread (length offset : Nat) (m : MockIo) : Reply MockIo × Bytes :=
  let data := slice m.roleToken offset length
  (⟨data.length, 0, m⟩, data)

def mockOps : IoOps MockIo where
  openDevice := some fun _ m => ⟨m.openResult, 0, m⟩
  ioctlCall := some fun _ request _ m => mockIoctl request m
  preadCall := some fun _ buffer offset m => mockPread buffer.length offset m
  pwriteCall := some fun _ data _ m => ⟨data.length, 0, m⟩
  closeFd := some fun _ m => ⟨0, 0, m⟩
  getProcessId := some fun m => ⟨m.pid, 0, m⟩

def mockContext : Context :=
  ⟨SPD_RFORK_ABI_VERSION, 4294967295, 2, 3, ⟨[0x10, 0x11, 0x12, 0x13, 0x20, 0x21, 0x22, 0x23, 0x30, 0x31, 0x32,
    0x33, 0x40, 0x41, 0x42, 0x43], rfl⟩⟩

/-- The tests' mock with the tokens of `mockContext`. -/
def mockInit (role : Role) (switchToChild : Bool) (ioctlResult ioctlErrno : Int) : MockIo where
  roleToken := tokenFor mockContext role
  childToken := tokenFor mockContext .remoteChild
  switchToChildOnPrepare := switchToChild
  openResult := 7
  ioctlResult := ioctlResult
  ioctlErrno := ioctlErrno
  pid := 1001
  childPid := 2002

end Mock

/-- The ioctl switches to the child's descriptors and returns -1: the copied integer
is closed. -/
theorem switchedChild_closes :
    ¬ ChildNeverCloses mockOps (some mockContext) none (mockInit .parent true (-1) 5) ∧
    ¬ ClosesOnlyAsParent mockOps (some mockContext) none (mockInit .parent true (-1) 5) := by
  have hrun : (released mockOps (some mockContext) none (mockInit .parent true (-1) 5) []).2.ledger.closes = [7] ∧
      (released mockOps (some mockContext) none (mockInit .parent true (-1) 5) []).2.ledger.blind = [7] := by
    decide +kernel
  have hrole : (ioctlReturned mockOps (some mockContext) none (mockInit .parent true (-1) 5)).map
      (·.role) = some (some .remoteChild) := by decide +kernel
  obtain ⟨a, ha, har⟩ := Option.map_eq_some_iff.mp hrole
  refine ⟨fun h => ?_, fun h => ?_⟩
  · have hnone := h a ha (by simp [har]) []
    rw [hrun.1] at hnone
    cases hnone
  · have hnone := h []
    rw [hrun.2] at hnone
    cases hnone

section Flag
variable {σ : Type} (default : IoOps σ) (context : Option Context) (requested : Option (IoOps σ))
  (s : σ)

/-- `device_fd_safe_to_close` is set exactly while a device is open, the process is known
to own it and it has not been closed; and never once a close was attempted. -/
def FlagExact (r : Outcome × World σ) : Prop :=
  (r.1.audit.deviceFdSafeToClose = true ↔ ∃ fd, 0 ≤ fd ∧ (fd, 0) ∈ r.2.ledger.opens ∧
    r.2.ledger.known = true ∧ fd ∉ r.2.ledger.closes) ∧
  (r.1.audit.deviceFdSafeToClose = true → r.1.audit.closeAttempted = false)

/-- A resume gets as far as a device that is open. -/
def ResumeOpens : Prop :=
  ∃ ctx ops u, Checked default .remoteChild context requested ⟨s, []⟩ ctx ops u ∧
    0 ≤ (ops.callOpen u).1.result ∧ (ops.callOpen u).1.errno = 0

/-- A resume with releases behind it. -/
abbrev resumedReleased (releases : List (Option (IoOps σ))) : Outcome × World σ :=
  releaseAll default releases (resumed default context requested s).1
    (resumed default context requested s).2

variable {default context requested s}

theorem flagExact_of_unset {r : Outcome × World σ} (hsafe : r.1.audit.deviceFdSafeToClose = false)
    (h : ∀ fd, 0 ≤ fd → (fd, 0) ∈ r.2.ledger.opens → r.2.ledger.known = true →
      fd ∈ r.2.ledger.closes) : FlagExact r := by
  refine ⟨⟨fun hs => ?_, ?_⟩, fun hs => ?_⟩
  · rw [hsafe] at hs
    cases hs
  · rintro ⟨fd, hlow, hopen, hknown, hclosed⟩
    exact absurd (h fd hlow hopen hknown) hclosed
  · rw [hsafe] at hs
    cases hs

/-- The exits that close without `spd_rfork_parent_release` leave the flag set. -/
theorem not_flagExact_of_attempted {r : Outcome × World σ} {fd : Int}
    (h : r.1.device = (fd, true, true)) : ¬ FlagExact r := by
  rintro ⟨-, hno⟩
  have hatt : r.1.audit.closeAttempted = true := congrArg (fun d => d.2.2) h
  rw [hno (congrArg (fun d => d.2.1) h)] at hatt
  cases hatt

theorem Left.flagExact {r : Outcome × World σ} (h : Left default context requested s r.1 r.2.ledger) :
    FlagExact r ↔ ∀ a, ioctlReturned default context requested s = some a →
      ¬ a.Failed ∧ ¬ a.PidFails := by
  obtain ⟨o, w⟩ := r
  simp only at h
  generalize hl : w.ledger = l at h
  cases h with
  | early hnone href hopens hcloses hblind =>
    simp only [hnone, reduceCtorEq, false_implies, implies_true, iff_true]
    refine flagExact_of_unset href.safe fun fd hlow hopen => ?_
    exact absurd (hl ▸ hopen) (hopens fd hlow)
  | ioctlFailed ha hfail hs hd =>
    simp only [ha, Option.some.injEq, forall_eq', hfail, not_true, false_and, iff_false]
    exact not_flagExact_of_attempted hd
  | disowned ha hfail hrole hs hd =>
    have hpid : ¬ AfterIoctl.PidFails _ := fun hp => hrole hp.1
    simp only [ha, Option.some.injEq, forall_eq', hfail, hpid, not_false_eq_true, and_self, iff_true]
    refine flagExact_of_unset (congrArg (fun d => d.2.1) hd) fun fd _ _ hknown => ?_
    simp [hl] at hknown
  | pidFailed ha hfail hpid hs hd =>
    simp only [ha, Option.some.injEq, forall_eq', hpid, not_true, and_false, iff_false]
    exact not_flagExact_of_attempted hd
  | @kept a o ha hfail hrole hpid hs hr hd =>
    simp only [ha, Option.some.injEq, forall_eq', hfail, hpid, not_false_eq_true, and_self, iff_true]
    obtain ⟨hlow, hw⟩ := ledger_afterIoctl ha
    refine ⟨⟨fun _ => ⟨a.fd, hlow, ?_⟩, fun _ => congrArg (fun d => d.2.1) hd⟩,
      fun _ => congrArg (fun d => d.2.2) hd⟩
    simp [hl, hw]

theorem resumedReleased_eq (releases : List (Option (IoOps σ))) :
    resumedReleased default context requested s releases = resumed default context requested s :=
  releaseAll_refused (fun h => resumed_cases.1 h.1) default releases _

theorem resumed_flagExact : FlagExact (resumed default context requested s) ↔
    ¬ ResumeOpens default context requested s := by
  obtain ⟨o, w, hrun, href, ⟨hidle, hno⟩ | ⟨ctx, ops, u, hchk, hfail, rfl⟩⟩ |
      ⟨ctx, ops, u, o, hchk, hopen, -, -, hd, hrun⟩ :=
    resume_exit default context requested ⟨s, []⟩
  · rw [resumed, hrun]
    rw [Ledger.Idle] at hidle
    refine iff_of_true (flagExact_of_unset href.safe fun fd _ hmem => ?_) ?_
    · simp only at hmem
      rw [hidle] at hmem
      simp [World.ledger, Ledger.empty] at hmem
    · rintro ⟨ctx, ops, u, hchk, -⟩
      exact hno ctx ops u hchk
  · rw [resumed, hrun]
    obtain ⟨hopens, -, -⟩ := opens_failed (by rw [hchk.ledger]; rfl) hfail
    refine iff_of_true (flagExact_of_unset href.safe fun fd hlow hmem => ?_) ?_
    · exact absurd hmem (hopens fd hlow)
    · rintro ⟨ctx', ops', u', hchk', hlow, herr⟩
      obtain ⟨rfl, rfl, rfl⟩ := hchk.unique hchk'
      omega
  · rw [resumed, hrun]
    exact iff_of_false (not_flagExact_of_attempted hd) (not_not_intro ⟨ctx, ops, u, hchk, hopen⟩)

/-- The flag is exact over whole runs as long as no exit of `spd_rfork_prepare` closes the
device itself and `spd_rfork_resume_remote_or_error` does not open one:
`spd_close_owned_device` leaves the flag, and only a release clears it behind it. -/
theorem safe_flag_exact (default : IoOps σ) (context : Option Context)
    (requested : Option (IoOps σ)) (s : σ) :
    ((∀ releases, FlagExact (released default context requested s releases)) ↔
      ∀ a, ioctlReturned default context requested s = some a → ¬ a.Failed ∧ ¬ a.PidFails) ∧
    ((∀ releases, FlagExact (resumedReleased default context requested s releases)) ↔
      ¬ ResumeOpens default context requested s) := by
  have hleft := @prepared_left σ default context requested s
  refine ⟨⟨fun h => hleft.flagExact.mp (h []), fun h releases => ?_⟩, ?_⟩
  · obtain heq | ⟨a, ha, -, -, -, hd, hl⟩ := released_cases releases
    · rw [heq]
      exact hleft.flagExact.mpr h
    · refine flagExact_of_unset (congrArg (fun d => d.2.1) hd) fun fd _ hmem _ => ?_
      simp only [hl, (ledger_afterIoctl ha).2, List.mem_singleton, Prod.mk.injEq] at hmem ⊢
      exact hmem.1
  · simp only [resumedReleased_eq, forall_const]
    exact resumed_flagExact

end Flag

/-- A failed ioctl, and a resume that returned, leave the flag on a closed descriptor. -/
theorem closedDevice_flagged :
    ¬ FlagExact (released mockOps (some mockContext) none (mockInit .parent false (-1) 5) []) ∧
    ¬ FlagExact (resumedReleased mockOps (some mockContext) none (mockInit .remoteChild false 0 0) []) := by
  have hrun : (released mockOps (some mockContext) none (mockInit .parent false (-1) 5) []).1.device =
        (7, true, true) ∧
      (resumedReleased mockOps (some mockContext) none (mockInit .remoteChild false 0 0) []).1.device =
        (7, true, true) := by decide +kernel
  exact ⟨not_flagExact_of_attempted hrun.1, not_flagExact_of_attempted hrun.2⟩

end ServerlessX.Rfork
