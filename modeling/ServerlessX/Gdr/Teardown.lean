import ServerlessX.Gdr.Handles

/-! What becomes of the resources of a direct context: a failed open gives every one
of them back once, and no sequence of teardowns gives one back twice or out of order. -/
namespace ServerlessX.Gdr
open ServerlessX.Py

/-- `~Context` after the handler of `spd_gdr_open_dmabuf_v1`: what is left of an open that
failed, if it got as far as to own resources. The identifier is taken and looked up last. -/
def failedOpen (s : System) (args : OpenArgs) (env : OpenAnswers) (destructor : CloseAnswers) :
    Option Tracked :=
  match openContext args env with
  | .error (_, none) => none
  | .error (_, some t) => some (cleanupNativeBestEffort destructor.threadRun destructor.destroys t)
  | .ok c =>
    if s.nextHandleId = 0 ∨ (s.contexts s.nextHandleId).isSome = true then
      c.native.map fun native =>
        cleanupNativeBestEffort destructor.threadRun destructor.destroys
          (cleanupNativeBestEffort env.threadRun env.destroys ⟨native, c.log⟩)
    else none

/-- The teardown of `spd_gdr_close`: the thread is joined, then all is given back strictly. -/
def closeAttempt (t : Tracked) (env : CloseAnswers) : Tracked :=
  (cleanupNativeStrict env.threadRun env.destroys (stopNativeThread env.threadRun t)).2

/-- Any number of closes that get to the teardown, whatever fails in them, and the destructor. -/
def lifeEnd (t : Tracked) (attempts : List CloseAnswers) (destructor : CloseAnswers) : Tracked :=
  cleanupNativeBestEffort destructor.threadRun destructor.destroys (attempts.foldl closeAttempt t)

/-- The verbs and DMA-BUF resources a log gives back, in its order. -/
def givenBack (log : List NativeEvent) : List Resource :=
  log.filterMap fun event => match event with
    | .released r => if r ∈ teardownOrder then some r else none
    | _ => none

/-- What was given back and what is still to be given back, in the order of the teardown. -/
def line (t : Tracked) : List Resource := givenBack t.log ++ teardownOrder.filter t.native.held

/-- Where a verbs or DMA-BUF resource is given back, a control thread that was started has
been joined. -/
def JoinedFirst (log : List NativeEvent) : Prop :=
  ∀ pre r post, log = pre ++ .released r :: post → r ∈ teardownOrder →
    .acquired .controlThread ∈ log → .released .controlThread ∈ pre

/-- The state of a context at any time of its end. -/
structure Settling (t : Tracked) : Prop where
  once : ∀ r, t.log.count (.acquired r) ≤ 1
  owed : ∀ r, t.log.count (.released r) + (t.native.held r).toNat ≤ t.log.count (.acquired r)
  ordered : (line t).Sublist teardownOrder
  joined : JoinedFirst t.log
  thread : .acquired .controlThread ∈ t.log →
    t.native.held .controlThread = true ∨ .released .controlThread ∈ t.log

/-! ### One event -/

theorem joinedFirst_append {log : List NativeEvent} (h : JoinedFirst log) {event : NativeEvent}
    (hthread : event ≠ .acquired .controlThread)
    (hevent : ∀ r, event = .released r → r ∈ teardownOrder → .acquired .controlThread ∈ log →
      .released .controlThread ∈ log) : JoinedFirst (log ++ [event]) := by
  intro pre r post hlog hr hacquired
  have hmem : .acquired .controlThread ∈ log := by
    obtain hold | hnew := List.mem_append.mp hacquired
    · exact hold
    · exact absurd (List.mem_singleton.mp hnew).symm hthread
  rcases List.eq_nil_or_concat post with rfl | ⟨post', last, rfl⟩
  · obtain ⟨rfl, heq⟩ := List.append_inj' hlog rfl
    exact hevent r (List.singleton_inj.mp heq) hr hmem
  · have hlog' : log ++ [event] = (pre ++ .released r :: post') ++ [last] := by simpa using hlog
    obtain ⟨hlog, -⟩ := List.append_inj' hlog' rfl
    exact h pre r post' hlog hr hmem

theorem filter_without (held : Resource → Bool) (r : Resource) (order : List Resource) :
    order.filter (fun x => if x = r then false else held x) =
      (order.filter held).filter (· ≠ r) := by
  rw [List.filter_filter]
  refine List.filter_congr fun x _ => ?_
  by_cases h : x = r <;> simp [h]

theorem givenBack_append (log : List NativeEvent) (event : NativeEvent) :
    givenBack (log ++ [event]) = givenBack log ++ givenBack [event] := List.filterMap_append

theorem givenBack_released (r : Resource) :
    givenBack [.released r] = if r ∈ teardownOrder then [r] else [] := by
  by_cases h : r ∈ teardownOrder <;> simp [givenBack, h]

theorem filter_ne_self {r : Resource} {order : List Resource} (h : r ∉ order) :
    order.filter (· ≠ r) = order := by
  refine List.filter_eq_self.mpr fun x hx => ?_
  have hne : x ≠ r := fun he => h (he ▸ hx)
  simpa using hne

theorem filter_head {r : Resource} {rest : List Resource} (h : (r :: rest).Nodup) :
    (r :: rest).filter (· ≠ r) = rest := by
  rw [List.filter_cons_of_neg (by simp), filter_ne_self (List.nodup_cons.mp h).1]

section Events
variable {t : Tracked}

theorem count_append_one (log : List NativeEvent) (event other : NativeEvent) :
    (log ++ [event]).count other = log.count other + if event = other then 1 else 0 := by
  rw [List.count_append, List.count_singleton]
  simp only [beq_iff_eq]

/-- A resource is given back: outside the order at any time, inside it when the thread has
been joined and nothing before it is held. -/
theorem Settling.release (h : Settling t) {r : Resource} (hheld : t.native.held r = true)
    (hr : r ∈ teardownOrder → t.native.held .controlThread = false ∧
      ∃ rest, teardownOrder.filter t.native.held = r :: rest) : Settling (t.release r) := by
  refine ⟨fun x => ?_, fun x => ?_, ?_, joinedFirst_append h.joined (by simp) ?_, fun hx => ?_⟩
  · have honce := h.once x
    simpa [Tracked.release, Tracked.set, count_append_one] using honce
  · have howed := h.owed x
    simp only [Tracked.release, Tracked.set, count_append_one, NativeEvent.released.injEq,
      reduceCtorEq, if_false, add_zero]
    by_cases hx : x = r
    · subst hx
      simpa [hheld] using howed
    · simpa [hx, Ne.symm hx] using howed
  · have hordered := h.ordered
    simp only [line, Tracked.release, Tracked.set, givenBack_append, givenBack_released,
      filter_without] at hordered ⊢
    by_cases hmem : r ∈ teardownOrder
    · obtain ⟨-, rest, hrest⟩ := hr hmem
      have hnodup : (r :: rest).Nodup := hrest ▸ (by decide : teardownOrder.Nodup).filter _
      rw [hrest] at hordered ⊢
      rw [if_pos hmem, filter_head hnodup, List.append_assoc]
      exact hordered
    · rw [if_neg hmem, List.append_nil, filter_ne_self fun hx => hmem (List.mem_filter.mp hx).1]
      exact hordered
  · rintro x hx hmem hacquired
    obtain rfl := NativeEvent.released.inj hx
    exact (h.thread hacquired).resolve_left (by simp [(hr hmem).1])
  · have hold : .acquired .controlThread ∈ t.log := by
      simpa [Tracked.release, Tracked.set] using hx
    simp only [Tracked.release, Tracked.set, List.mem_append, List.mem_singleton]
    by_cases heq : r = .controlThread
    · exact .inr (.inr (by rw [heq]))
    · rw [if_neg (Ne.symm heq)]
      exact (h.thread hold).imp id .inl

/-- A destroy call is refused; the pointer is cleared or kept. -/
theorem Settling.refuse (h : Settling t) (r : Resource) {held : Resource → Bool} (hheld : ∀ x, held x = true → t.native.held x = true)
    (hthread : held .controlThread = t.native.held .controlThread) :
    Settling ⟨{ t.native with held := held }, t.log ++ [.refused r]⟩ := by
  refine ⟨fun x => ?_, fun x => ?_, ?_, joinedFirst_append h.joined (by simp) (by simp), fun hx => ?_⟩
  · simpa [count_append_one] using h.once x
  · have howed := h.owed x
    simp only [count_append_one, reduceCtorEq, if_false, add_zero]
    have hle : (held x).toNat ≤ (t.native.held x).toNat := by
      cases hx : held x with
      | false => simp
      | true => simp [hheld x hx]
    omega
  · have hnone : givenBack [.refused r] = [] := rfl
    have hsub : (teardownOrder.filter held).Sublist (teardownOrder.filter t.native.held) :=
      List.monotone_filter_right _ hheld
    rw [line, givenBack_append, hnone, List.append_nil]
    exact ((List.Sublist.refl _).append hsub).trans h.ordered
  · have hold : .acquired .controlThread ∈ t.log := by simpa using hx
    simpa [hthread] using h.thread hold

/-- The control thread accepts a connection. -/
theorem Settling.accept (h : Settling t) (hfresh : t.log.count (.acquired .controlFd) = 0) :
    Settling (t.acquire .controlFd) := by
  have hfree : t.native.held .controlFd = false := by
    have howed := h.owed .controlFd
    rw [hfresh] at howed
    simp only [nonpos_iff_eq_zero, Nat.add_eq_zero_iff, Bool.toNat_eq_zero] at howed
    exact howed.2
  refine ⟨fun x => ?_, fun x => ?_, ?_, joinedFirst_append h.joined (by simp) (by simp), fun hx => ?_⟩
  · have honce := h.once x
    simp only [Tracked.acquire, Tracked.set, count_append_one, NativeEvent.acquired.injEq]
    by_cases hx : x = .controlFd
    · subst hx
      simp [hfresh]
    · simpa [Ne.symm hx] using honce
  · have howed := h.owed x
    simp only [Tracked.acquire, Tracked.set, count_append_one, NativeEvent.acquired.injEq,
      reduceCtorEq, if_false, add_zero]
    by_cases hx : x = .controlFd
    · subst hx
      simp only [hfree, Bool.toNat_false, add_zero] at howed
      simpa using howed
    · simpa [hx, Ne.symm hx] using howed
  · have hnone : givenBack [.acquired .controlFd] = [] := rfl
    have hsame : teardownOrder.filter (t.acquire .controlFd).native.held =
        teardownOrder.filter t.native.held := by
      refine List.filter_congr fun x hx => ?_
      have hne : x ≠ .controlFd := by
        rintro rfl
        exact absurd hx (by decide)
      simp [Tracked.acquire, Tracked.set, hne]
    have hordered := h.ordered
    rw [line] at hordered ⊢
    rw [hsame]
    simpa only [Tracked.acquire, Tracked.set, givenBack_append, hnone, List.append_nil] using hordered
  · have hold : .acquired .controlThread ∈ t.log := by
      simpa [Tracked.acquire, Tracked.set] using hx
    simpa [Tracked.acquire, Tracked.set] using h.thread hold

end Events

/-! ### The cleanups -/

section Cleanups
variable {t : Tracked}

theorem Settling.closeSocket (h : Settling t) {resource : Resource} (hr : resource ∉ teardownOrder) :
    Settling (closeNativeSocket resource t) := by
  unfold closeNativeSocket
  split
  · next hheld => exact h.release hheld fun hmem => absurd hmem hr
  · exact h

/-- Joining the thread; `served` says that it has not run before. -/
theorem Settling.stopThread (h : Settling t) (thread : ThreadRun)
    (hserved : t.native.held .controlThread = true → t.log.count (.acquired .controlFd) = 0) :
    Settling (stopNativeThread thread t) := by
  unfold stopNativeThread
  split
  · next hheld =>
    dsimp only
    have haccepted : Settling (if thread.accepted then (t.acquire .controlFd).release .controlFd else t) ∧
        (if thread.accepted then (t.acquire .controlFd).release .controlFd else t).native.held
          .controlThread = true := by
      split
      · refine ⟨(h.accept (hserved hheld)).release ?_ fun hmem => absurd hmem (by decide), ?_⟩
        · simp [Tracked.acquire, Tracked.set]
        · simpa [Tracked.acquire, Tracked.release, Tracked.set] using hheld
      · exact ⟨h, hheld⟩
    generalize (if thread.accepted then (t.acquire .controlFd).release .controlFd else t) = u at haccepted ⊢
    obtain ⟨hu, hthread⟩ := haccepted
    have hlistener : Settling (if thread.closedListener then closeNativeSocket .listenerFd u else u) ∧
        (if thread.closedListener then closeNativeSocket .listenerFd u else u).native.held
          .controlThread = true := by
      split
      · refine ⟨hu.closeSocket (by decide), ?_⟩
        rw [held_closeNativeSocket, if_neg (by decide), hthread]
      · exact ⟨hu, hthread⟩
    obtain ⟨hv, hthread⟩ := hlistener
    have hjoined := hv.release hthread fun hmem => absurd hmem (by decide)
    exact ⟨hjoined.once, hjoined.owed, hjoined.ordered, hjoined.joined, hjoined.thread⟩
  · exact h

/-- What is left to give back, once the thread and the sockets are gone. -/
structure Stopped (order : List Resource) (t : Tracked) : Prop where
  settling : Settling t
  thread : t.native.held .controlThread = false
  left : teardownOrder.filter t.native.held = order.filter t.native.held

theorem Stopped.skip {resource : Resource} {rest : List Resource} (h : Stopped (resource :: rest) t)
    (hfree : t.native.held resource = false) : Stopped rest t :=
  ⟨h.settling, h.thread, by rw [h.left, List.filter_cons_of_neg (by simp [hfree])]⟩

theorem Stopped.give {resource : Resource} {rest : List Resource} (hnodup : (resource :: rest).Nodup)
    (h : Stopped (resource :: rest) t) (hheld : t.native.held resource = true)
    {event : NativeEvent} (hevent : event = .released resource ∨ event = .refused resource) :
    Stopped rest (t.set resource false event) := by
  have hleft : teardownOrder.filter t.native.held = resource :: rest.filter t.native.held := by
    rw [h.left, List.filter_cons_of_pos hheld]
  have hmem : resource ∈ teardownOrder :=
    (List.mem_filter.mp (hleft ▸ List.mem_cons_self : resource ∈ teardownOrder.filter _)).1
  have hthread : resource ≠ .controlThread := by
    rintro rfl
    exact absurd hmem (by decide)
  have hsettling : Settling (t.set resource false event) := by
    obtain rfl | rfl := hevent
    · exact h.settling.release hheld fun _ => ⟨h.thread, _, hleft⟩
    · refine h.settling.refuse resource (fun x hx => ?_) (by simp [hthread.symm])
      by_cases heq : x = resource
      · simp [heq] at hx
      · simpa [heq] using hx
  refine ⟨hsettling, by simpa [Tracked.set, hthread.symm] using h.thread, ?_⟩
  have hrest : resource ∉ rest := (List.nodup_cons.mp hnodup).1
  have hfiltered : resource ∉ rest.filter t.native.held := fun hx => hrest (List.mem_filter.mp hx).1
  simp only [Tracked.set, filter_without, hleft]
  rw [filter_head (List.nodup_cons.mpr ⟨hfiltered, (List.nodup_cons.mp hnodup).2.filter _⟩),
    filter_ne_self hfiltered]

theorem Stopped.strict {destroys : Resource → Bool} {order : List Resource} (hnodup : order.Nodup)
    (h : Stopped order t) : Settling (destroyStrict destroys order t).2 ∧
      (destroyStrict destroys order t).2.native.held .controlThread = false := by
  induction order generalizing t with
  | nil => exact ⟨h.settling, h.thread⟩
  | cons resource rest ih =>
    have hrest := (List.nodup_cons.mp hnodup).2
    unfold destroyStrict
    split
    · next hheld =>
      split
      · exact ih hrest (h.give hnodup hheld (.inl rfl))
      · exact ⟨h.settling.refuse resource (fun _ => id) rfl, h.thread⟩
    · next hfree => exact ih hrest (h.skip (by simpa using hfree))

theorem Stopped.bestEffort {destroys : Resource → Bool} {order : List Resource} (hnodup : order.Nodup)
    (h : Stopped order t) : Stopped [] (destroyBestEffort destroys order t) := by
  induction order generalizing t with
  | nil => exact h
  | cons resource rest ih =>
    have hrest := (List.nodup_cons.mp hnodup).2
    unfold destroyBestEffort
    split
    · next hheld =>
      refine ih hrest (h.give hnodup hheld ?_)
      split
      · exact .inl rfl
      · exact .inr rfl
    · next hfree => exact ih hrest (h.skip (by simpa using hfree))

theorem Settling.sockets (h : Settling t) (hthread : t.native.held .controlThread = false) :
    Stopped teardownOrder (closeSockets t) := by
  refine ⟨(h.closeSocket (by decide)).closeSocket (by decide), ?_, rfl⟩
  rw [closeSockets, held_closeNativeSocket, held_closeNativeSocket, hthread]
  rfl

/-- A context between teardowns: while the thread is there it has accepted nothing that
was not given back. -/
structure Standing (t : Tracked) : Prop where
  settling : Settling t
  served : t.native.held .controlThread = true → t.log.count (.acquired .controlFd) = 0

theorem Standing.stopped (h : Standing t) (thread : ThreadRun) :
    Stopped teardownOrder (Gdr.closeSockets (stopNativeThread thread t)) :=
  (h.settling.stopThread thread h.served).sockets (held_stopNativeThread thread t)

theorem nodup_teardownOrder : teardownOrder.Nodup := by decide

theorem Standing.strict (h : Standing t) (thread : ThreadRun) (destroys : Resource → Bool) :
    Standing (cleanupNativeStrict thread destroys t).2 := by
  obtain ⟨hsettling, hthread⟩ := @Stopped.strict _ destroys _ nodup_teardownOrder (h.stopped thread)
  exact ⟨hsettling, fun hheld => absurd hheld (by simp [cleanupNativeStrict, hthread])⟩

theorem Standing.stopThread (h : Standing t) (thread : ThreadRun) :
    Standing (stopNativeThread thread t) :=
  ⟨h.settling.stopThread thread h.served,
    fun hheld => absurd hheld (by simp [held_stopNativeThread])⟩

theorem Standing.bestEffort (h : Standing t) (thread : ThreadRun) (destroys : Resource → Bool) :
    Standing (cleanupNativeBestEffort thread destroys t) := by
  have hdone := @Stopped.bestEffort _ destroys _ nodup_teardownOrder (h.stopped thread)
  exact ⟨hdone.settling, fun hheld => absurd hheld (by simp [cleanupNativeBestEffort, hdone.thread])⟩

theorem Standing.lifeEnd (h : Standing t) (attempts : List CloseAnswers) (destructor : CloseAnswers) :
    Standing (lifeEnd t attempts destructor) := by
  have hattempts : Standing (attempts.foldl closeAttempt t) := by
    induction attempts generalizing t with
    | nil => exact h
    | cons env attempts ih => exact ih ((h.stopThread env.threadRun).strict env.threadRun env.destroys)
  exact hattempts.bestEffort destructor.threadRun destructor.destroys

/-- When the destroy calls succeed, the best effort gives back all that is held. -/
theorem destroyBestEffort_ok {destroys : Resource → Bool} (hok : ∀ r, destroys r = true)
    {order : List Resource} (h : t.Coherent) : (destroyBestEffort destroys order t).Coherent ∧
      ∀ r, (destroyBestEffort destroys order t).native.held r =
        if r ∈ order then false else t.native.held r := by
  induction order generalizing t with
  | nil => exact ⟨h, by simp [destroyBestEffort]⟩
  | cons resource rest ih =>
    have hdestroyed : destroyed destroys resource = true := by simp [destroyed, hok]
    rw [destroyBestEffort, hdestroyed, if_pos rfl]
    split
    · obtain ⟨hc, hheld⟩ := ih (h.release resource)
      refine ⟨hc, fun r => ?_⟩
      rw [Tracked.release] at hheld
      rw [hheld r]
      by_cases heq : r = resource <;> by_cases hmem : r ∈ rest <;> simp [Tracked.set, heq, hmem]
    · next hfree =>
      obtain ⟨hc, hheld⟩ := ih h
      refine ⟨hc, fun r => ?_⟩
      rw [hheld r]
      by_cases heq : r = resource
      · have hfree' : t.native.held r = false := by simpa [heq] using hfree
        simp [hfree']
      · simp [heq]

theorem cleanupNativeBestEffort_ok {thread : ThreadRun} {destroys : Resource → Bool}
    (hok : ∀ r, destroys r = true) (h : t.Coherent) :
    (cleanupNativeBestEffort thread destroys t).Coherent ∧
      ∀ r, (cleanupNativeBestEffort thread destroys t).native.held r = false := by
  have hsockets : (Gdr.closeSockets (stopNativeThread thread t)).Coherent :=
    closeNativeSocket_coherent (closeNativeSocket_coherent (stopNativeThread_coherent h thread) _) _
  obtain ⟨hc, hheld⟩ := @destroyBestEffort_ok _ _ hok teardownOrder hsockets
  refine ⟨hc, fun r => (hheld r).trans ?_⟩
  rw [Gdr.closeSockets, held_closeNativeSocket, held_closeNativeSocket]
  cases r <;> simp [teardownOrder, held_stopNativeThread]

/-- With nothing held, all that was acquired was released once. -/
theorem released_once (h : Settling t) (hc : t.Coherent) (hfree : ∀ r, t.native.held r = false)
    (r : Resource) : t.log.count (.released r) = t.log.count (.acquired r) := by
  have honce := h.once r
  have howed := h.owed r
  rw [hfree r] at howed
  simp only [Bool.toNat_false, add_zero] at howed
  by_cases hmem : .acquired r ∈ t.log
  · have hreleased : .released r ∈ t.log := (hc r hmem).resolve_right (by simp [hfree r])
    have hpos := List.count_pos_iff.mpr hreleased
    omega
  · have hzero := List.count_eq_zero.mpr hmem
    omega

end Cleanups

/-! ### Opening -/

/-- While a context is made, nothing is given back and what is held was acquired once. -/
structure Making (t : Tracked) : Prop where
  acquired : ∀ r, t.log.count (.acquired r) = (t.native.held r).toNat
  released : ∀ r, .released r ∉ t.log

section Making
variable {t : Tracked}

theorem Making.acquire (h : Making t) {r : Resource} (hfree : t.native.held r = false) :
    Making (t.acquire r) := by
  refine ⟨fun x => ?_, fun x => ?_⟩
  · have hx := h.acquired x
    simp only [Tracked.acquire, Tracked.set, count_append_one, NativeEvent.acquired.injEq]
    by_cases heq : x = r
    · subst heq
      simp [hx, hfree]
    · simp [heq, Ne.symm heq, hx]
  · simpa [Tracked.acquire, Tracked.set] using h.released x

theorem Making.standing (h : Making t) (hcontrol : t.native.held .controlFd = false) : Standing t := by
  have hnone : ∀ r, t.log.count (.released r) = 0 := fun r => List.count_eq_zero.mpr (h.released r)
  have hgiven : givenBack t.log = [] := by
    rw [givenBack, List.filterMap_eq_nil_iff]
    intro event hevent
    cases event with
    | released r => exact absurd hevent (h.released r)
    | _ => rfl
  refine ⟨⟨fun r => ?_, fun r => ?_, ?_, ?_, fun hmem => .inl ?_⟩, fun _ => ?_⟩
  · rw [h.acquired r]
    exact Bool.toNat_le _
  · rw [hnone r, h.acquired r, zero_add]
  · rw [line, hgiven, List.nil_append]
    exact List.filter_sublist
  · intro pre r post hlog
    exact absurd (hlog ▸ by simp : .released r ∈ t.log) (h.released r)
  · have hpos := List.count_pos_iff.mpr hmem
    rw [h.acquired] at hpos
    cases hheld : t.native.held .controlThread with
    | true => rfl
    | false => simp [hheld] at hpos
  · rw [h.acquired, hcontrol]
    rfl

/-- The steps acquire each resource they are for at most once, whichever of them fails. -/
theorem runSteps_making {steps : List MakeStep} (hnodup : (steps.filterMap (·.acquires)).Nodup)
    (hfree : ∀ r ∈ steps.filterMap (·.acquires), t.native.held r = false) (h : Making t) :
    Making (runSteps steps t).2 ∧ ∀ r ∉ steps.filterMap (·.acquires),
      (runSteps steps t).2.native.held r = t.native.held r := by
  induction steps generalizing t with
  | nil => exact ⟨h, fun _ _ => rfl⟩
  | cons step rest ih =>
    unfold runSteps
    split
    · exact ⟨h, fun _ _ => rfl⟩
    · cases hacquires : step.acquires with
      | none =>
        simp only [List.filterMap_cons, hacquires] at hnodup hfree ⊢
        exact ih hnodup hfree h
      | some resource =>
        simp only [List.filterMap_cons, hacquires, List.nodup_cons, List.mem_cons, not_or,
          forall_eq_or_imp] at hnodup hfree ⊢
        have hrest : ∀ r ∈ rest.filterMap (·.acquires), (t.acquire resource).native.held r = false := by
          intro r hr
          have hne : r ≠ resource := fun he => hnodup.1 (he ▸ hr)
          simpa [Tracked.acquire, Tracked.set, hne] using hfree.2 r hr
        obtain ⟨hmaking, hheld⟩ := ih hnodup.2 hrest (h.acquire hfree.1)
        refine ⟨hmaking, fun r hr => ?_⟩
        rw [hheld r hr.2]
        simp [Tracked.acquire, Tracked.set, hr.1]

theorem makeSteps_acquires (answers : NativeAnswers) :
    (makeSteps answers).filterMap (·.acquires) =
      [.deviceList, .verbs, .pd, .cq, .qp, .dmabufFd, .mr] := rfl

/-- `make_native_resources`, wherever it ends. -/
theorem makeNativeResources_making (answers : NativeAnswers) (endpoint : SockaddrIn)
    (role : DmabufRole) : Making (makeNativeResources answers endpoint role).2 ∧
      (makeNativeResources answers endpoint role).2.Coherent ∧
      ∀ r ∈ [Resource.listenerFd, .controlFd, .controlThread],
        (makeNativeResources answers endpoint role).2.native.held r = false := by
  have hfresh : ∀ native : NativeResources, (∀ r, native.held r = false) → Making ⟨native, []⟩ :=
    fun native hheld => ⟨fun r => by simp [hheld r], fun r => by simp⟩
  unfold makeNativeResources
  dsimp only
  split
  · exact ⟨hfresh _ fun _ => rfl, fun r hr => by simp at hr, fun _ _ => rfl⟩
  · next timeout _ =>
    have hsteps := @runSteps_making
      ⟨⟨fun _ => false, endpoint, noGid, 0, 0, 0, role, timeout, "", false⟩, []⟩ (makeSteps answers)
      (by rw [makeSteps_acquires]; decide) (fun _ _ => rfl) (hfresh _ fun _ => rfl)
    have hcoherent := @runSteps_coherent (makeSteps answers)
      ⟨⟨fun _ => false, endpoint, noGid, 0, 0, 0, role, timeout, "", false⟩, []⟩
      (fun r hr => by simp at hr)
    rw [makeSteps_acquires] at hsteps
    have hside : ∀ r ∈ [Resource.listenerFd, .controlFd, .controlThread],
        r ∉ [Resource.deviceList, .verbs, .pd, .cq, .qp, .dmabufFd, .mr] := by decide
    split
    · next t hrun =>
      rw [hrun] at hsteps hcoherent
      exact ⟨hsteps.1, hcoherent, fun r hr => hsteps.2 r (hside r hr)⟩
    · next t hrun =>
      rw [hrun] at hsteps hcoherent
      exact ⟨⟨hsteps.1.acquired, hsteps.1.released⟩, hcoherent,
        fun r hr => hsteps.2 r (hside r hr)⟩

/-- The resources at the point where an open fails or succeeds. -/
theorem startSource_standing (h : Making t) (hc : t.Coherent)
    (hfree : ∀ r ∈ [Resource.listenerFd, .controlFd, .controlThread], t.native.held r = false)
    (env : OpenAnswers) (role : DmabufRole) :
    Standing (startSource env role t).2 ∧ (startSource env role t).2.Coherent := by
  refine ⟨?_, startSource_coherent hc env role⟩
  have hlistener : Making (t.acquire .listenerFd) := h.acquire (hfree _ (by simp))
  have hkept : ∀ r : Resource, r ≠ .listenerFd →
      (t.acquire .listenerFd).native.held r = t.native.held r := by
    intro r hr
    simp [Tracked.acquire, Tracked.set, hr]
  have hcontrol : t.native.held .controlFd = false := hfree _ (by simp)
  unfold startSource
  split
  · exact h.standing hcontrol
  · split
    · exact h.standing hcontrol
    · dsimp only
      split
      · exact hlistener.standing (by rw [hkept _ (by decide), hcontrol])
      · refine (hlistener.acquire ?_).standing ?_
        · rw [hkept _ (by decide)]
          exact hfree _ (by simp)
        · simpa [Tracked.acquire, Tracked.set] using hcontrol

end Making

theorem openContext_standing (args : OpenArgs) (env : OpenAnswers) :
    match openContext args env with
    | .error (_, none) => True
    | .error (_, some t) => ∃ u, Standing u ∧ u.Coherent ∧
        t = cleanupNativeBestEffort env.threadRun env.destroys u
    | .ok c => ∃ native, c.native = some native ∧ Standing ⟨native, c.log⟩ ∧
        Tracked.Coherent ⟨native, c.log⟩ := by
  cases hrole : dmabufRole args.role with
  | none => simp [openContext, hrole]
  | some role =>
    by_cases hbytes : args.bytes > 0xffffffff
    · simp [openContext, hrole, hbytes]
    cases hendpoint : parseIpv4Endpoint args.localEndpoint "local endpoint" with
    | error message => simp [openContext, hrole, hbytes, hendpoint]
    | ok endpoint =>
      cases hpointer :
          (validatePointer env.pointer args.devicePointer args.bytes args.gpuId false).1 with
      | error message => simp [openContext, hrole, hbytes, hendpoint, hpointer]
      | ok u =>
        obtain ⟨hmaking, hcoherent, hfree⟩ := makeNativeResources_making env.native endpoint role
        simp only [openContext, hrole, hbytes, if_false, hendpoint, hpointer]
        rcases hmake : makeNativeResources env.native endpoint role with ⟨outcome, t⟩
        rw [hmake] at hmaking hcoherent hfree
        cases outcome with
        | error message => exact ⟨t, hmaking.standing (hfree _ (by simp)), hcoherent, rfl⟩
        | ok v =>
          have hstart := startSource_standing hmaking hcoherent hfree env role
          rcases hsource : startSource env role t with ⟨outcome, t'⟩
          rw [hsource] at hstart
          cases outcome with
          | error message => simpa [hsource] using ⟨t', hstart.1, hstart.2, rfl⟩
          | ok w => simpa [hsource] using hstart

/-- With nothing held there is nothing to clean up. -/
theorem cleanupNativeBestEffort_idle {t : Tracked} (h : ∀ r, t.native.held r = false)
    (thread : ThreadRun) (destroys : Resource → Bool) :
    cleanupNativeBestEffort thread destroys t = t := by
  have hdestroy : ∀ order, destroyBestEffort destroys order t = t := by
    intro order
    induction order with
    | nil => rfl
    | cons resource rest ih => rw [destroyBestEffort, h resource]; exact ih
  have hstop : stopNativeThread thread t = t := by simp [stopNativeThread, h]
  have hsockets : Gdr.closeSockets t = t := by simp [Gdr.closeSockets, closeNativeSocket, h]
  rw [cleanupNativeBestEffort, hstop, hsockets, hdestroy]

/-- The handler and the destructor together, on what an open owned when it failed. -/
theorem abandoned_settling {t : Tracked} (h : Standing t) (hc : t.Coherent) (thread : ThreadRun)
    (destroys : Resource → Bool) (destructor : CloseAnswers) :
    Settling (cleanupNativeBestEffort destructor.threadRun destructor.destroys
        (cleanupNativeBestEffort thread destroys t)) ∧
      ((∀ r, destroys r = true) → ∀ r,
        (cleanupNativeBestEffort destructor.threadRun destructor.destroys
          (cleanupNativeBestEffort thread destroys t)).log.count (.released r) =
        (cleanupNativeBestEffort destructor.threadRun destructor.destroys
          (cleanupNativeBestEffort thread destroys t)).log.count (.acquired r)) := by
  have hhandler := h.bestEffort thread destroys
  refine ⟨(hhandler.bestEffort destructor.threadRun destructor.destroys).settling, fun hok => ?_⟩
  obtain ⟨hclean, hfree⟩ := @cleanupNativeBestEffort_ok _ thread _ hok hc
  rw [cleanupNativeBestEffort_idle hfree]
  exact released_once hhandler.settling hclean hfree

theorem failedOpen_settling {s : System} {args : OpenArgs} {env : OpenAnswers}
    {destructor : CloseAnswers} {t : Tracked} (h : failedOpen s args env destructor = some t) :
    Settling t ∧ ((∀ r, env.destroys r = true) →
      ∀ r, t.log.count (.released r) = t.log.count (.acquired r)) := by
  have hopen := openContext_standing args env
  unfold failedOpen at h
  split at h
  · cases h
  · next message u hresult =>
    rw [hresult] at hopen
    obtain ⟨v, hstanding, hcoherent, rfl⟩ := hopen
    obtain rfl := Option.some.inj h
    exact abandoned_settling hstanding hcoherent _ _ destructor
  · next c hresult =>
    rw [hresult] at hopen
    obtain ⟨native, hnative, hstanding, hcoherent⟩ := hopen
    split at h
    · rw [hnative] at h
      obtain rfl := Option.some.inj h
      exact abandoned_settling hstanding hcoherent _ _ destructor
    · cases h

theorem openDmabuf_null {s : System} {args : OpenArgs} {env : OpenAnswers}
    (h : (openDmabuf s args env).reply = .handle 0) :
    (openDmabuf s args env).system.contexts = s.contexts := by
  rcases openDmabuf_cases s args env with ⟨-, hcontexts, -⟩ | ⟨c, -, hid, -, hopen⟩
  · exact hcontexts
  · rw [hopen] at h
    exact absurd (Reply.handle.inj h) hid

/-- At every point where `spd_gdr_open_dmabuf_v1` can fail, in either role, it answers
null and leaves the handle table alone, and the handler and the destructor together give
back what was acquired, once each when the destroy calls succeed. After an open that
succeeded, over any closes with any failures and the destructor, nothing is given back
twice, and the verbs and DMA-BUF resources in their order once the thread is joined. -/
theorem native_resource_lifetime :
    (∀ s args env, (openDmabuf s args env).reply = .handle 0 →
      (openDmabuf s args env).system.contexts = s.contexts ∧
      ∀ destructor t, failedOpen s args env destructor = some t →
        (∀ r, t.log.count (.acquired r) ≤ 1 ∧ t.log.count (.released r) ≤ 1) ∧
        (givenBack t.log).Sublist teardownOrder ∧ JoinedFirst t.log ∧
        ((∀ r, env.destroys r = true) →
          ∀ r, t.log.count (.released r) = t.log.count (.acquired r))) ∧
    (∀ args env c native, openContext args env = .ok c → c.native = some native →
      ∀ attempts destructor,
        (∀ r, (lifeEnd ⟨native, c.log⟩ attempts destructor).log.count (.released r) ≤ 1) ∧
        (givenBack (lifeEnd ⟨native, c.log⟩ attempts destructor).log).Sublist teardownOrder ∧
        JoinedFirst (lifeEnd ⟨native, c.log⟩ attempts destructor).log) := by
  have hbounds : ∀ t : Tracked, Settling t → (∀ r, t.log.count (.released r) ≤ 1) ∧
      (givenBack t.log).Sublist teardownOrder := by
    intro t h
    refine ⟨fun r => ?_, (List.sublist_append_left _ _).trans h.ordered⟩
    have honce := h.once r
    have howed := h.owed r
    omega
  constructor
  · intro s args env hnull
    refine ⟨openDmabuf_null hnull, fun destructor t ht => ?_⟩
    obtain ⟨hsettling, hexact⟩ := failedOpen_settling ht
    obtain ⟨hreleased, hordered⟩ := hbounds t hsettling
    exact ⟨fun r => ⟨hsettling.once r, hreleased r⟩, hordered, hsettling.joined, hexact⟩
  · intro args env c native hopen hnative attempts destructor
    have hstanding := openContext_standing args env
    rw [hopen] at hstanding
    obtain ⟨native', hnative', hstanding, -⟩ := hstanding
    obtain rfl := Option.some.inj (hnative.symm.trans hnative')
    have hend := (hstanding.lifeEnd attempts destructor).settling
    obtain ⟨hreleased, hordered⟩ := hbounds _ hend
    exact ⟨hreleased, hordered, hend.joined⟩

end ServerlessX.Gdr
