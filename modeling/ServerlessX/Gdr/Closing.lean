import ServerlessX.Gdr.Teardown

/-! Any number of threads that call `spd_gdr_close` and `spd_gdr_read` on one direct handle.
A call moves at every acquisition and release of the two mutexes, and at the join of the
control thread, which stands between a release and an acquisition. -/
namespace ServerlessX.Gdr
open ServerlessX.Py

/-- What a thread calls on the handle. -/
inductive ThreadCall where
  | close (env : CloseAnswers)
  | read (args : ReadArgs) (env : ReadAnswers)

/-- Where a call stands. -/
inductive Pc where
  | start
  /-- Holds `contexts_mutex`; what `contexts.find` said. -/
  | looking (found : Bool)
  /-- `direct_read` looks the handle up once more. -/
  | again
  | lookingAgain (found : Bool)
  /-- Wants `context->mutex`. -/
  | waiting
  | entered
  /-- The guards have thrown and the mutex is free. -/
  | rejected
  /-- The guards have passed, `closing` is set and the mutex is free. -/
  | stopping
  /-- The thread was found joinable. -/
  | joining
  | relocking
  /-- Holds the mutex again; the thread's error. -/
  | tearing (controlError : String)
  /-- All is torn down; wants `contexts_mutex` to erase the handle. -/
  | erasing (code : Int)
  | erased (code : Int)
  | leaving (code : Int)
  /-- `late` when the call found the context gone or being closed. -/
  | returned (code : Int) (late : Bool)
  /-- `context->native` was followed when it was null. -/
  | faulted
deriving DecidableEq

/-- The context of the handle, the two mutexes and the calls of the threads. `joins` and
`usedReset` record what the calls did. -/
structure Threads (ι : Type) where
  context : Context
  inTable : Bool
  mutex : Option ι
  contextsMutex : Option ι
  pc : ι → Pc
  joins : Nat
  usedReset : Bool

/-- `control_thread.joinable()` -/
def joinable (c : Context) : Bool :=
  match c.native with
  | some native => native.held .controlThread
  | none => false

section Step
variable {ι : Type} [DecidableEq ι]

def Threads.goto (s : Threads ι) (i : ι) (p : Pc) : Threads ι :=
  { s with pc := Function.update s.pc i p }

/-- The guards of `spd_gdr_close`, under the mutex, which they leave free. -/
def closeGuard (s : Threads ι) (i : ι) : Threads ι :=
  let s' := { s with mutex := none }
  if s.context.magic ≠ kContextMagic ∨ s.context.native.isNone = true ∨ s.context.registered = false then
    s'.goto i .rejected
  else if s.context.poisoned ∨ s.context.transferActive then
    s'.goto i (.returned (-2) s.context.closing)
  else { s' with context := { s.context with closing := true } }.goto i .stopping

/-- `control_thread.join()` -/
def join (s : Threads ι) (i : ι) (env : CloseAnswers) : Threads ι :=
  match s.context.native with
  | none => { s with joins := s.joins + 1, usedReset := true }.goto i .faulted
  | some native =>
    let t := stopNativeThread env.threadRun ⟨native, s.context.log⟩
    { s with
      context := { s.context with native := some t.native, log := t.log }
      joins := s.joins + 1 }.goto i .relocking

/-- `cleanup_native_strict` and what follows it up to the erasure, under the mutex. The
cleanup joins a thread that is still joinable. -/
def tear (s : Threads ι) (i : ι) (env : CloseAnswers) (controlError : String) : Threads ι :=
  match s.context.native with
  | none => { s with usedReset := true }.goto i .faulted
  | some native =>
    let s := { s with joins := if native.held .controlThread then s.joins + 1 else s.joins }
    match cleanupNativeStrict env.threadRun env.destroys ⟨native, s.context.log⟩ with
    | (some _, t) =>
      { s with
        context := { s.context with poisoned := true, native := some t.native, log := t.log }
        mutex := none }.goto i (.returned (-2) false)
    | (none, t) =>
      { s with
        context := { s.context with registered := false, native := none, magic := 0, log := t.log } }.goto
          i (.erasing (if controlError ≠ "" then -1 else 0))

/-- One step of thread `i`, if it can move. -/
def threadStep (calls : ι → ThreadCall) (s : Threads ι) (i : ι) : Option (Threads ι) :=
  match s.pc i with
  | .start =>
    if s.contextsMutex = none then
      some ({ s with contextsMutex := some i }.goto i (.looking s.inTable))
    else none
  | .looking found =>
    some ({ s with contextsMutex := none }.goto i (
      if found then
        match calls i with
        | .close _ => .waiting
        | .read _ _ => .again
      else .returned (-1) true))
  | .again =>
    if s.contextsMutex = none then
      some ({ s with contextsMutex := some i }.goto i (.lookingAgain s.inTable))
    else none
  | .lookingAgain found =>
    some ({ s with contextsMutex := none }.goto i (if found then .waiting else .returned (-1) true))
  | .waiting =>
    if s.mutex = none then some ({ s with mutex := some i }.goto i .entered) else none
  | .entered =>
    match calls i with
    | .close _ => some (closeGuard s i)
    | .read args env =>
      (directRead s.context args env).map fun r =>
        { s with context := r.2, mutex := none }.goto i
          (.returned r.1 (s.context.closing || s.context.native.isNone))
  | .rejected =>
    some ({ s with context := { s.context with poisoned := true } }.goto i (.returned (-2) true))
  | .stopping => some (s.goto i (if joinable s.context then .joining else .relocking))
  | .joining =>
    match calls i with
    | .close env => some (join s i env)
    | .read _ _ => none
  | .relocking =>
    if s.mutex = none then
      match s.context.native with
      | none => some ({ s with mutex := some i, usedReset := true }.goto i .faulted)
      | some native => some ({ s with mutex := some i }.goto i (.tearing native.threadError))
    else none
  | .tearing controlError =>
    match calls i with
    | .close env => some (tear s i env controlError)
    | .read _ _ => none
  | .erasing code =>
    if s.contextsMutex = none then
      some ({ s with contextsMutex := some i, inTable := false }.goto i (.erased code))
    else none
  | .erased code => some ({ s with contextsMutex := none }.goto i (.leaving code))
  | .leaving code => some ({ s with mutex := none }.goto i (.returned code false))
  | .returned _ _ => none
  | .faulted => none

/-- The handle has just been handed out and no call has begun. -/
def Threads.init (ι : Type) (c : Context) : Threads ι := ⟨c, true, none, none, fun _ => .start, 0, false⟩

/-- A close that passes its guards finds `closing` not set. -/
def notClosing (calls : ι → ThreadCall) (s : Threads ι) (i : ι) : Bool :=
  match s.pc i, calls i with
  | .entered, .close _ => (closeGuard s i).pc i != .stopping || !s.context.closing
  | _, _ => true

/-- One teardown: one join, each resource given back once, nothing followed after the
reset, an error code for every call that came too late, and one successful close. -/
structure Safe (calls : ι → ThreadCall) (s : Threads ι) : Prop where
  joins : s.joins ≤ 1
  released : ∀ r, s.context.log.count (.released r) ≤ 1
  notReset : s.usedReset = false
  late : ∀ i code, s.pc i = .returned code true → code ≠ 0
  winner : ∀ i j env env' late late', calls i = .close env → calls j = .close env' →
    s.pc i = .returned 0 late → s.pc j = .returned 0 late' → i = j

end Step

/-! ### What holds while no close passes its guards behind another -/

namespace Pc

/-- Holds `context->mutex`. -/
def holds : Pc → Bool
  | .entered | .tearing _ | .erasing _ | .erased _ | .leaving _ => true
  | _ => false

/-- A close between its guards and its return. -/
def inFlight : Pc → Bool
  | .stopping | .joining | .relocking | .tearing _ | .erasing _ | .erased _ | .leaving _ => true
  | _ => false

/-- Has torn down with success, or is back with 0. -/
def won : Pc → Bool
  | .erasing code | .erased code | .leaving code | .returned code _ => code = 0
  | _ => false

/-- What a call relies on where it stands. -/
def Relies (c : Context) : Pc → Prop
  | .stopping | .relocking | .tearing _ => c.closing = true ∧ c.native.isSome = true
  | .joining => c.closing = true ∧ joinable c = true
  | .erasing _ | .erased _ | .leaving _ => c.closing = true ∧ c.native = none
  | .returned code late => late = true → code ≠ 0
  | .faulted => False
  | _ => True

theorem Relies.closing {c : Context} {p : Pc} (h : p.Relies c) (hp : p.inFlight = true) :
    c.closing = true := by
  cases p <;> simp_all [Relies, inFlight]

/-- Only a close in flight relies on the context. -/
theorem Relies.frame {c c' : Context} {p : Pc} (h : p.Relies c) (hp : p.inFlight = false) :
    p.Relies c' := by
  cases p <;> simp_all [Relies, inFlight]

end Pc

/-- The resources: in order while they are there, settled once they are gone. -/
def Kept (c : Context) : Prop :=
  match c.native with
  | some native => Standing ⟨native, c.log⟩
  | none => ∀ r, c.log.count (.released r) ≤ 1

/-! ### Reads -/

/-- What a read leaves of the context; of one that is being closed, or is closed, all. -/
theorem directRead_leaves {c c' : Context} {args : ReadArgs} {env : ReadAnswers} {code : Int}
    (hrun : directRead c args env = some (code, c')) :
    c'.closing = c.closing ∧ c'.log = c.log ∧
    c'.native.map (·.held) = c.native.map (·.held) ∧
    (c.closing = true ∨ c.native = none → code ≠ 0 ∧ c' = c) := by
  have hfail : ∀ c : Context, failCode c ≠ 0 := by
    intro c
    unfold failCode
    split <;> decide
  unfold directRead at hrun
  split at hrun
  · cases hrun
    exact ⟨rfl, rfl, rfl, fun _ => ⟨hfail c, rfl⟩⟩
  · next native hok =>
    have hnative := (readChecks_ok hok).1
    have hopen : c.closing = false := by
      cases hclosing : c.closing with
      | false => rfl
      | true =>
        rw [readChecks, hnative] at hok
        simp [hclosing] at hok
    have hnot : ¬ (c.closing = true ∨ c.native = none) := by simp [hopen, hnative]
    dsimp only at hrun
    split at hrun
    · cases hrun
      exact ⟨rfl, rfl, by simp [hnative], fun h => absurd h hnot⟩
    · split at hrun
      · cases hrun
        exact ⟨rfl, rfl, by simp [hnative], fun h => absurd h hnot⟩
      · cases hrun
        exact ⟨rfl, rfl, by simp [hnative], fun h => absurd h hnot⟩
      · cases hrun

/-- Only the slots and the log count. -/
theorem Standing.congr {native native' : NativeResources} {log : List NativeEvent}
    (h : Standing ⟨native, log⟩) (hheld : native'.held = native.held) : Standing ⟨native', log⟩ := by
  obtain ⟨⟨once, owed, ordered, joined, thread⟩, served⟩ := h
  rw [← hheld] at owed thread served
  refine ⟨⟨once, owed, ?_, joined, thread⟩, served⟩
  rw [line] at ordered ⊢
  rwa [hheld]

theorem Kept.congr {c c' : Context} (h : Kept c) (hlog : c'.log = c.log)
    (hheld : c'.native.map (·.held) = c.native.map (·.held)) :
    Kept c' ∧ joinable c' = joinable c ∧ (c.native = none → c'.native = none) := by
  unfold Kept joinable at *
  rw [hlog]
  cases hn : c.native with
  | none =>
    have hn' : c'.native = none := by simpa [hn] using hheld
    simp only [hn] at h
    simp only [hn']
    exact ⟨h, trivial, fun _ => trivial⟩
  | some native =>
    obtain ⟨native', hn', hsame⟩ : ∃ native', c'.native = some native' ∧ native'.held = native.held := by
      simpa [hn] using hheld
    simp only [hn] at h
    simp only [hn', hsame]
    exact ⟨h.congr hsame, trivial, fun hnone => by cases hnone⟩

section Invariant
variable {ι : Type} {calls : ι → ThreadCall} {s : Threads ι}

/-- At most one close is past its guards, and it owns the resources. -/
structure Sole (calls : ι → ThreadCall) (s : Threads ι) : Prop where
  relies : ∀ i, (s.pc i).Relies s.context
  holder : ∀ i, (s.pc i).holds = true → s.mutex = some i
  alone : ∀ i j, (s.pc i).inFlight = true → (s.pc j).inFlight = true → i = j
  kept : Kept s.context
  unjoined : joinable s.context = true → s.joins = 0
  joins : s.joins ≤ 1
  notReset : s.usedReset = false
  won : ∀ i env, calls i = .close env → (s.pc i).won = true → s.context.native = none
  winner : ∀ i j env env', calls i = .close env → calls j = .close env' →
    (s.pc i).won = true → (s.pc j).won = true → i = j

theorem Sole.others (h : Sole calls s) {i : ι} (hi : (s.pc i).inFlight = true) {j : ι} (hj : j ≠ i) :
    (s.pc j).inFlight = false := by
  by_contra hflight
  exact hj (h.alone j i (by simpa using hflight) hi)

/-- Nobody holds a mutex that is free. -/
theorem Sole.free (h : Sole calls s) (hfree : s.mutex = none) (j : ι) : (s.pc j).holds = false := by
  by_contra hholds
  have hj := h.holder j (by simpa using hholds)
  rw [hfree] at hj
  cases hj

theorem Sole.mine (h : Sole calls s) {i : ι} (hi : (s.pc i).holds = true) {j : ι} (hj : j ≠ i) :
    (s.pc j).holds = false := by
  by_contra hholds
  have hsome := h.holder j (by simpa using hholds)
  rw [h.holder i hi] at hsome
  exact hj (Option.some.inj hsome).symm

section Moves
variable [DecidableEq ι]

/-- A step of `i`, by what it does to the context and where it goes. -/
theorem Sole.move (h : Sole calls s) {i : ι} {p : Pc} {c : Context} {joins : Nat}
    {mutex contextsMutex : Option ι} {inTable : Bool}
    (hrelies : p.Relies c) (hframe : ∀ j ≠ i, (s.pc j).Relies c)
    (hholder : p.holds = true → mutex = some i)
    (hothers : ∀ j ≠ i, (s.pc j).holds = true → mutex = some j)
    (halone : p.inFlight = true → ∀ j ≠ i, (s.pc j).inFlight = false)
    (hkept : Kept c) (hunjoined : joinable c = true → joins = 0) (hjoins : joins ≤ 1)
    (hwonFrame : s.context.native = none → c.native = none)
    (hwon : ∀ env, calls i = .close env → p.won = true → c.native = none ∧
      ∀ j ≠ i, ∀ env', calls j = .close env' → (s.pc j).won = false) :
    Sole calls (Threads.goto ⟨c, inTable, mutex, contextsMutex, s.pc, joins, s.usedReset⟩ i p) := by
  refine ⟨fun j => ?_, fun j => ?_, fun j k => ?_, hkept, hunjoined, hjoins, h.notReset,
    fun j env => ?_, fun j k env env' => ?_⟩
  · by_cases hj : j = i
    · simpa [Threads.goto, hj] using hrelies
    · simpa [Threads.goto, hj] using hframe j hj
  · by_cases hj : j = i
    · simpa [Threads.goto, hj] using hholder
    · simpa [Threads.goto, hj] using hothers j hj
  · by_cases hj : j = i <;> by_cases hk : k = i
    · exact fun _ _ => hj.trans hk.symm
    · intro hp hflight
      have hfree := halone (by simpa [Threads.goto, hj] using hp) k hk
      simp [Threads.goto, hk, hfree] at hflight
    · intro hflight hp
      have hfree := halone (by simpa [Threads.goto, hk] using hp) j hj
      simp [Threads.goto, hj, hfree] at hflight
    · simpa [Threads.goto, hj, hk] using h.alone j k
  · by_cases hj : j = i
    · subst hj
      intro hcall hp
      exact (hwon env hcall (by simpa [Threads.goto] using hp)).1
    · intro hcall hp
      exact hwonFrame (h.won j env hcall (by simpa [Threads.goto, hj] using hp))
  · by_cases hj : j = i <;> by_cases hk : k = i
    · exact fun _ _ _ _ => hj.trans hk.symm
    · subst hj
      intro hcall hcall' hp hq
      have hlost := (hwon env hcall (by simpa [Threads.goto] using hp)).2 k hk env' hcall'
      simp [Threads.goto, hk, hlost] at hq
    · subst hk
      intro hcall hcall' hp hq
      have hlost := (hwon env' hcall' (by simpa [Threads.goto] using hq)).2 j hj env hcall
      simp [Threads.goto, hj, hlost] at hp
    · simpa [Threads.goto, hj, hk] using h.winner j k env env'

/-- A step that leaves the context alone. -/
theorem Sole.walk (h : Sole calls s) {i : ι} {p : Pc} {mutex contextsMutex : Option ι} {inTable : Bool}
    (hrelies : p.Relies s.context) (hholder : p.holds = true → mutex = some i)
    (hothers : ∀ j ≠ i, (s.pc j).holds = true → mutex = some j)
    (hflight : p.inFlight = true → (s.pc i).inFlight = true)
    (hwon : ∀ env, calls i = .close env → p.won = true → (s.pc i).won = true) :
    Sole calls (Threads.goto ⟨s.context, inTable, mutex, contextsMutex, s.pc, s.joins, s.usedReset⟩ i p) := by
  refine h.move hrelies (fun j _ => h.relies j) hholder hothers (fun hp j hj => h.others (hflight hp) hj)
    h.kept h.unjoined h.joins id fun env hcall hp => ?_
  have hi := hwon env hcall hp
  refine ⟨h.won i env hcall hi, fun j hj env' hcall' => ?_⟩
  by_contra hwins
  exact hj (h.winner j i env' env hcall' hcall (by simpa using hwins) hi)

/-! ### One step -/

theorem Sole.guard (h : Sole calls s) {i : ι} (hpc : s.pc i = .entered) {env : CloseAnswers}
    (hcall : calls i = .close env) (htest : notClosing calls s i = true) :
    Sole calls (closeGuard s i) := by
  have hothers : ∀ j ≠ i, (s.pc j).holds = true → (none : Option ι) = some j := by
    intro j hj hholds
    rw [h.mine (by rw [hpc]; rfl) hj] at hholds
    cases hholds
  unfold closeGuard
  dsimp only
  split
  · exact h.walk trivial (by simp [Pc.holds]) hothers (by simp [Pc.inFlight]) (by simp [Pc.won])
  · next hgood =>
    split
    · refine h.walk ?_ (by simp [Pc.holds]) hothers (by simp [Pc.inFlight]) (by simp [Pc.won])
      simp [Pc.Relies]
    · next hclean =>
      have hopen : s.context.closing = false := by
        simp only [notClosing, hpc, hcall, closeGuard, if_neg hgood, if_neg hclean, Threads.goto,
          Function.update_self] at htest
        simpa using htest
      have hfree : ∀ j, (s.pc j).inFlight = false := by
        intro j
        by_contra hflight
        have hclosing := (h.relies j).closing (by simpa using hflight)
        rw [hopen] at hclosing
        cases hclosing
      have hsome : s.context.native.isSome = true := by
        simp only [not_or, Option.isNone_iff_eq_none] at hgood
        exact Option.isSome_iff_ne_none.mpr hgood.2.1
      exact h.move ⟨rfl, hsome⟩ (fun j _ => (h.relies j).frame (hfree j)) (by simp [Pc.holds]) hothers
        (fun _ j _ => hfree j) h.kept h.unjoined h.joins id (by simp [Pc.won])

theorem Sole.read (h : Sole calls s) {i : ι} (hpc : s.pc i = .entered) {args : ReadArgs}
    {env : ReadAnswers} (hcall : calls i = .read args env) {r : Int × Context}
    (hrun : directRead s.context args env = some r) :
    Sole calls ({ s with context := r.2, mutex := none }.goto i
      (.returned r.1 (s.context.closing || s.context.native.isNone))) := by
  obtain ⟨hclosing, hlog, hheld, hlate⟩ := directRead_leaves hrun
  obtain ⟨hkept, hjoinable, hnone⟩ := h.kept.congr hlog hheld
  refine h.move ?_ (fun j hj => ?_) (by simp [Pc.holds]) (fun j hj hholds => ?_) (by simp [Pc.inFlight])
    hkept (fun hj => h.unjoined (hjoinable ▸ hj)) h.joins hnone fun env' hclose => ?_
  · intro hl
    exact (hlate (by simpa using hl)).1
  · cases hflight : (s.pc j).inFlight with
    | false => exact (h.relies j).frame hflight
    | true =>
      rw [(hlate (.inl ((h.relies j).closing hflight))).2]
      exact h.relies j
  · rw [h.mine (by rw [hpc]; rfl) hj] at hholds
    cases hholds
  · rw [hcall] at hclose
    cases hclose

theorem Sole.join (h : Sole calls s) {i : ι} (hpc : s.pc i = .joining) (env : CloseAnswers) :
    Sole calls (Gdr.join s i env) := by
  have hrelies := h.relies i
  rw [hpc] at hrelies
  obtain ⟨hclosing, hjoinable⟩ := hrelies
  have hzero := h.unjoined hjoinable
  have hfree : ∀ j ≠ i, (s.pc j).inFlight = false := fun j hj => h.others (by rw [hpc]; rfl) hj
  have hkept := h.kept
  unfold Gdr.join
  unfold Kept at hkept
  cases hnative : s.context.native with
  | none => simp [joinable, hnative] at hjoinable
  | some native =>
    simp only [hnative] at hkept ⊢
    refine h.move ⟨hclosing, rfl⟩ (fun j hj => (h.relies j).frame (hfree j hj)) (by simp [Pc.holds])
      (fun j _ => h.holder j) (fun _ => hfree) (hkept.stopThread env.threadRun) (fun hj => ?_) (by omega)
      (fun hnone => ?_) (by simp [Pc.won])
    · simp [joinable, held_stopNativeThread] at hj
    · rw [hnative] at hnone
      cases hnone

theorem Sole.tear (h : Sole calls s) {i : ι} {controlError : String} (hpc : s.pc i = .tearing controlError)
    (env : CloseAnswers) : Sole calls (Gdr.tear s i env controlError) := by
  have hrelies := h.relies i
  rw [hpc] at hrelies
  obtain ⟨hclosing, hsome⟩ := hrelies
  have hfree : ∀ j ≠ i, (s.pc j).inFlight = false := fun j hj => h.others (by rw [hpc]; rfl) hj
  have hframe : ∀ c, ∀ j ≠ i, (s.pc j).Relies c := fun c j hj => (h.relies j).frame (hfree j hj)
  have hmine : ∀ j ≠ i, ∀ {P : Prop}, (s.pc j).holds = true → P := by
    intro j hj P hholds
    rw [h.mine (by rw [hpc]; rfl) hj] at hholds
    cases hholds
  obtain ⟨native, hnative⟩ := Option.isSome_iff_exists.mp hsome
  have hkept := h.kept
  have hunjoined := h.unjoined
  have hjoins := h.joins
  unfold Kept at hkept
  unfold joinable at hunjoined
  unfold Gdr.tear
  simp only [hnative] at hkept hunjoined ⊢
  have hone : (if native.held .controlThread = true then s.joins + 1 else s.joins) ≤ 1 := by
    split
    · next hheld => rw [hunjoined hheld]
    · exact hjoins
  have hstrict := hkept.strict env.threadRun env.destroys
  have hleft : (cleanupNativeStrict env.threadRun env.destroys
      ⟨native, s.context.log⟩).2.native.held .controlThread = false :=
    (@Stopped.strict _ env.destroys _ nodup_teardownOrder (hkept.stopped env.threadRun)).2
  have hstays : s.context.native = none → ∀ {P : Prop}, P := by
    intro hnone
    rw [hnative] at hnone
    cases hnone
  rcases hcleanup : cleanupNativeStrict env.threadRun env.destroys ⟨native, s.context.log⟩ with ⟨failure, t⟩
  rw [hcleanup] at hstrict hleft
  cases failure with
  | some message =>
    refine h.move (by simp [Pc.Relies]) (hframe _) (by simp [Pc.holds]) (fun j hj => hmine j hj)
      (by simp [Pc.inFlight]) hstrict (fun hj => ?_) hone (fun hnone => hstays hnone) (by simp [Pc.won])
    exact absurd (hleft.symm.trans hj) Bool.false_ne_true
  | none =>
    refine h.move ⟨hclosing, rfl⟩ (hframe _) (fun _ => h.holder i (by rw [hpc]; rfl)) (fun j hj => hmine j hj)
      (fun _ => hfree) (fun r => ?_) (by simp [joinable]) hone (fun _ => rfl) fun env' hclose _ => ?_
    · have honce := hstrict.settling.once r
      have howed := hstrict.settling.owed r
      dsimp only at honce howed ⊢
      omega
    · refine ⟨rfl, fun j hj env'' hclose' => ?_⟩
      by_contra hwins
      exact hstays (h.won j env'' hclose' (by simpa using hwins))

/-- A step that takes no part in a teardown and does not hold the mutex afterwards. -/
theorem Sole.pass (h : Sole calls s) {i : ι} {p : Pc} {contextsMutex : Option ι} {inTable : Bool}
    (hrelies : p.Relies s.context) (hholds : p.holds = false) (hflight : p.inFlight = false)
    (hwon : p.won = false) :
    Sole calls (Threads.goto ⟨s.context, inTable, s.mutex, contextsMutex, s.pc, s.joins, s.usedReset⟩ i p) :=
  h.walk hrelies (by simp [hholds]) (fun j _ => h.holder j) (by simp [hflight]) (by simp [hwon])

/-- A step of a close that has torn down, up to its return. -/
theorem Sole.finish (h : Sole calls s) {i : ι} {p : Pc} {contextsMutex : Option ι} {inTable : Bool}
    (hrelies : p.Relies s.context) (hholds : (s.pc i).holds = true) (hflight : (s.pc i).inFlight = true)
    (hwon : p.won = (s.pc i).won) :
    Sole calls (Threads.goto ⟨s.context, inTable, s.mutex, contextsMutex, s.pc, s.joins, s.usedReset⟩ i p) :=
  h.walk hrelies (fun _ => h.holder i hholds) (fun j _ => h.holder j) (fun _ => hflight)
    (fun _ _ hp => by rw [← hwon, hp])

theorem threadStep_sole {s' : Threads ι} {i : ι} (h : Sole calls s) (htest : notClosing calls s i = true)
    (hstep : threadStep calls s i = some s') : Sole calls s' := by
  have hrelies := h.relies i
  unfold threadStep at hstep
  cases hpc : s.pc i with
  | start | again =>
    simp only [hpc, Option.ite_none_right_eq_some, Option.some.injEq] at hstep
    obtain ⟨-, rfl⟩ := hstep
    exact h.pass trivial rfl rfl rfl
  | looking found =>
    simp only [hpc, Option.some.injEq] at hstep
    subst hstep
    cases found with
    | false => exact h.pass (fun _ => by decide) rfl rfl rfl
    | true => cases hcall : calls i <;> exact h.pass trivial rfl rfl rfl
  | lookingAgain found =>
    simp only [hpc, Option.some.injEq] at hstep
    subst hstep
    cases found with
    | false => exact h.pass (fun _ => by decide) rfl rfl rfl
    | true => exact h.pass trivial rfl rfl rfl
  | waiting =>
    simp only [hpc, Option.ite_none_right_eq_some, Option.some.injEq] at hstep
    obtain ⟨hfree, rfl⟩ := hstep
    refine h.walk trivial (fun _ => rfl) (fun j _ hholds => ?_) (by simp [Pc.inFlight]) (by simp [Pc.won])
    rw [h.free hfree j] at hholds
    cases hholds
  | entered =>
    cases hcall : calls i with
    | close env =>
      simp only [hpc, hcall, Option.some.injEq] at hstep
      exact hstep ▸ h.guard hpc hcall htest
    | read args env =>
      simp only [hpc, hcall] at hstep
      obtain ⟨r, hrun, rfl⟩ := Option.map_eq_some_iff.mp hstep
      exact h.read hpc hcall hrun
  | rejected =>
    simp only [hpc, Option.some.injEq] at hstep
    subst hstep
    -- poisoning is all it does, outside the mutex, while a close may be in flight
    exact h.move (fun _ => by decide) (fun j _ => h.relies j) (by simp [Pc.holds]) (fun j _ => h.holder j)
      (by simp [Pc.inFlight]) h.kept h.unjoined h.joins id (by simp [Pc.won])
  | stopping =>
    rw [hpc] at hrelies
    simp only [hpc, Option.some.injEq] at hstep
    subst hstep
    refine h.walk ?_ ?_ (fun j _ => h.holder j) (fun _ => by rw [hpc]; rfl) ?_
    · split
      · next hjoinable => exact ⟨hrelies.1, hjoinable⟩
      · exact hrelies
    all_goals split <;> simp [Pc.holds, Pc.won]
  | joining =>
    cases hcall : calls i with
    | close env =>
      simp only [hpc, hcall, Option.some.injEq] at hstep
      exact hstep ▸ h.join hpc env
    | read args env => simp [hpc, hcall] at hstep
  | relocking =>
    rw [hpc] at hrelies
    obtain ⟨native, hnative⟩ := Option.isSome_iff_exists.mp hrelies.2
    simp only [hpc, hnative, Option.ite_none_right_eq_some, Option.some.injEq] at hstep
    obtain ⟨hfree, rfl⟩ := hstep
    refine h.walk hrelies (fun _ => rfl) (fun j _ hholds => ?_) (fun _ => by rw [hpc]; rfl) (by simp [Pc.won])
    rw [h.free hfree j] at hholds
    cases hholds
  | tearing controlError =>
    cases hcall : calls i with
    | close env =>
      simp only [hpc, hcall, Option.some.injEq] at hstep
      exact hstep ▸ h.tear hpc env
    | read args env => simp [hpc, hcall] at hstep
  | erasing code =>
    rw [hpc] at hrelies
    simp only [hpc, Option.ite_none_right_eq_some, Option.some.injEq] at hstep
    obtain ⟨-, rfl⟩ := hstep
    exact h.finish hrelies (by rw [hpc]; rfl) (by rw [hpc]; rfl) (by rw [hpc]; rfl)
  | erased code =>
    rw [hpc] at hrelies
    simp only [hpc, Option.some.injEq] at hstep
    subst hstep
    exact h.finish hrelies (by rw [hpc]; rfl) (by rw [hpc]; rfl) (by rw [hpc]; rfl)
  | leaving code =>
    simp only [hpc, Option.some.injEq] at hstep
    subst hstep
    refine h.walk (fun hl => by cases hl) (by simp [Pc.holds]) (fun j hj hholds => ?_) (by simp [Pc.inFlight])
      (fun _ _ hp => by rw [hpc]; exact hp)
    rw [h.mine (by rw [hpc]; rfl) hj] at hholds
    cases hholds
  | returned code late => simp [hpc] at hstep
  | faulted => simp [hpc] at hstep

end Moves

/-! ### Runs -/

theorem init_sole {args : OpenArgs} {env : OpenAnswers} {c : Context}
    (hopen : openContext args env = .ok c) : Sole calls (Threads.init ι c) := by
  have hstanding := openContext_standing args env
  rw [hopen] at hstanding
  obtain ⟨native, hnative, hstanding, -⟩ := hstanding
  refine ⟨fun _ => trivial, fun _ => ?_, fun _ _ => ?_, ?_, fun _ => rfl, Nat.zero_le 1, rfl,
    fun _ _ _ => ?_, fun _ _ _ _ _ _ => ?_⟩
  · simp [Threads.init, Pc.holds]
  · simp [Threads.init, Pc.inFlight]
  · simpa only [Threads.init, Kept, hnative] using hstanding
  · simp [Threads.init, Pc.won]
  · simp [Threads.init, Pc.won]

theorem Sole.safe (h : Sole calls s) : Safe calls s := by
  refine ⟨h.joins, fun r => ?_, h.notReset, fun i code hpc => ?_, fun i j env env' late late' hcall hcall' hi hj => ?_⟩
  · have hkept := h.kept
    unfold Kept at hkept
    split at hkept
    · have honce := hkept.settling.once r
      have howed := hkept.settling.owed r
      dsimp only at honce howed
      omega
    · exact hkept r
  · have hrelies := h.relies i
    rw [hpc] at hrelies
    exact hrelies rfl
  · exact h.winner i j env env' hcall hcall' (by rw [hi]; rfl) (by rw [hj]; rfl)

end Invariant

section Race

/-- A source, with its control thread. -/
def sourceArgs : OpenArgs := { targetArgs with role := 1 }

/-- A close gets past its guards, a read comes too late, the close tears down. -/
def closeAndRead : Bool → ThreadCall
  | false => .close cleanClose
  | true => .read ⟨some targetEndpoint, 1000, (true, true, true)⟩ ⟨[], []⟩

def lateRead : List Bool :=
  [false, false, false, false, true, true, false, true, true, true, false, true, false, false, false,
    false, false]

/-- Both closes pass their guards and join; the second finds the resources gone. -/
def twoCloses : List Bool :=
  [false, false, false, false, true, true, true, true, false, true, false, true, false, false, false,
    false, false, true]

/-- The run of two closes: how often the thread was joined, and whether null was followed. -/
def raced : Option (ℕ × Bool) :=
  match openContext sourceArgs targetAnswers with
  | .ok c =>
    let s := Machine.runFrom (threadStep fun _ => .close cleanClose) (Threads.init Bool c) twoCloses
    some (s.joins, s.usedReset)
  | .error _ => none

end Race


end ServerlessX.Gdr
