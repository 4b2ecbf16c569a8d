import ServerlessX.Gdr.Lifecycle
import ServerlessX.Gdr.Moves

/-! What holds of every handle between calls, and from one call to all later ones. -/
namespace ServerlessX.Gdr
open ServerlessX.Py

/-! ### The flags of an exchange -/

/-- The READ is posted once, `transfer_active` stands while it is not retired, and an exchange
that ends with an unretired READ has poisoned the context. -/
def FlagsAt (t : Target) : Prop :=
  match t.pc with
  | .polling => t.posted = 1 ∧ t.transferActive = true ∧ t.poisoned = false
  | .flushing | .synchronizing | .writingDone _ =>
    t.posted = 1 ∧ t.transferActive = false ∧ t.poisoned = false
  | .ended ending => t.posted ≤ 1 ∧ (t.transferActive = true → t.poisoned = true) ∧
      (ending = .returned → t.poisoned = false)
  | _ => t.posted = 0 ∧ t.transferActive = false ∧ t.poisoned = false

/-- The flags in the loops of the exchange. -/
theorem FlagsAt.idle {t : Target} (h : FlagsAt t) (hidle : t.pc.idle = true) :
    t.posted ≤ 1 ∧ t.transferActive = false ∧ t.poisoned = false := by
  unfold FlagsAt at h
  cases hpc : t.pc with
  | writing rest =>
    simp only [hpc] at h
    exact ⟨by omega, h.2⟩
  | reading raw =>
    simp only [hpc] at h
    exact ⟨by omega, h.2⟩
  | writingDone rest =>
    simp only [hpc] at h
    exact ⟨by omega, h.2⟩
  | _ => simp [hpc, TargetPc.idle] at hidle

/-- The flags wherever the exchange can raise while the clock does not fail. -/
theorem FlagsAt.raising {t : Target} (h : FlagsAt t) (hlive : ∀ ending, t.pc ≠ .ended ending)
    (hclock : t.pc ≠ .polling) :
    t.posted ≤ 1 ∧ t.transferActive = false ∧ t.poisoned = false := by
  unfold FlagsAt at h
  split at h
  · next hpc => exact absurd hpc hclock
  · exact ⟨by omega, h.2⟩
  · exact ⟨by omega, h.2⟩
  · exact ⟨by omega, h.2⟩
  · next ending hpc => exact absurd hpc (hlive ending)
  · exact ⟨by omega, h.2⟩

theorem flagsAt_ended {t : Target} (h : t.posted ≤ 1 ∧ t.transferActive = false ∧ t.poisoned = false)
    (ending : Ending) : FlagsAt { t with pc := .ended ending } := by
  obtain ⟨h1, h2, h3⟩ := h
  refine ⟨h1, ?_, fun _ => h3⟩
  simp [h2]

theorem TargetMove.flags {context : NativeContext} {t t' : Target} {inp inp' out out' : Stream}
    {event : Event} (hmove : TargetMove context t inp out event t' inp' out')
    (hclock : ¬ (t.pc = .polling ∧ event = .raise)) (h : FlagsAt t) : FlagsAt t' := by
  have hpc := h
  unfold FlagsAt at hpc
  cases hmove with
  | raised hlive => exact flagsAt_ended (h.raising hlive fun hp => hclock ⟨hp, rfl⟩) .raised
  | left ending hidle => exact flagsAt_ended (h.idle hidle) ending
  | modified heq =>
    rename_i state peer
    simp only [heq] at hpc
    cases state <;> exact hpc
  | posted heq =>
    simp only [heq] at hpc
    exact ⟨by simp only [hpc.1], rfl, hpc.2.2⟩
  | poisoned heq =>
    simp only [heq] at hpc
    refine ⟨hpc.1.le, fun _ => rfl, fun hr => ?_⟩
    cases hr
  | pending => exact h
  | retired heq =>
    simp only [heq] at hpc
    refine ⟨hpc.1.le, fun ha => ?_, fun hr => ?_⟩
    · cases ha
    · cases hr
  | completed heq hok =>
    simp only [heq] at hpc
    exact ⟨hpc.1, rfl, hpc.2.2⟩
  | connected heq | sent heq | written heq | received heq | decoded heq | flushed heq
  | synchronized heq | sentDone heq =>
    simp only [heq] at hpc
    exact hpc

theorem exchangeStep_flags {context : NativeContext} {x y : Target × Stream × Stream} {event : Event}
    (h : FlagsAt x.1 ∧ x.2.1.read ≤ x.2.1.sent.length)
    (hstep : exchangeStep context x event = some y) :
    FlagsAt y.1 ∧ y.2.1.read ≤ y.2.1.sent.length := by
  unfold exchangeStep at hstep
  split at hstep
  · cases hstep
  · next hclock =>
    have hmove := targetStep_move h.2 hstep
    exact ⟨hmove.flags hclock h.1, (hmove.streams h.2).1.frame.2⟩

theorem exchange_flags (context : NativeContext) (env : ReadAnswers) : FlagsAt (exchange context env) := by
  have hinit : FlagsAt State.init.target := ⟨rfl, rfl, rfl⟩
  exact (Machine.runFrom_invariant
    (I := fun x : Target × Stream × Stream => FlagsAt x.1 ∧ x.2.1.read ≤ x.2.1.sent.length)
    (fun _ _ _ => exchangeStep_flags) env.events ⟨hinit, Nat.zero_le _⟩).1

/-! ### One call on a live context -/

/-- A context in the handle table. -/
structure Live (c : Context) : Prop where
  magic : c.magic = kContextMagic
  registered : c.registered = true
  active : c.transferActive = true → c.poisoned = true
  native : ∃ native, c.native = some native ∧ Tracked.Coherent ⟨native, c.log⟩ ∧
    c.posts ≤ 1 ∧ (c.posts = 1 → native.targetUsed = true)

theorem failCode_eq (c : Context) : failCode c = -2 ↔ c.poisoned = true := by
  unfold failCode
  cases c.poisoned <;> simp

/-- The checks pass only for a target that was not used and has no READ under way. -/
theorem readChecks_ok {c : Context} {args : ReadArgs} {native : NativeResources}
    (h : readChecks c args = .ok native) :
    c.native = some native ∧ c.poisoned = false ∧ native.targetUsed = false := by
  unfold readChecks at h
  split at h
  · cases h
  · next n hn =>
    split at h
    · cases h
    split at h
    · cases h
    · next hp =>
      split at h
      · cases h
      split at h
      · cases h
      split at h
      · cases h
      · next hu =>
        split at h
        · cases h
        split at h
        · cases h
        split at h
        · cases h
        cases h
        exact ⟨hn, by simpa using hp, by simpa using hu⟩

/-- A read keeps the context live and returns -2 exactly when it leaves it poisoned; a
poisoned one it does not touch. -/
theorem directRead_spec {c c' : Context} {args : ReadArgs} {env : ReadAnswers} {code : Int}
    (h : Live c) (hrun : directRead c args env = some (code, c')) :
    Live c' ∧ (code = -2 ↔ c'.poisoned = true) ∧ (c.poisoned = true → c' = c) := by
  unfold directRead at hrun
  split at hrun
  · cases hrun
    exact ⟨h, failCode_eq c, fun _ => rfl⟩
  · next native hok =>
    obtain ⟨hnative, hpoisoned, hfresh⟩ := readChecks_ok hok
    obtain ⟨native', hnative', hcoherent, hposts, hused⟩ := h.native
    obtain rfl : native = native' := Option.some.inj (hnative.symm.trans hnative')
    have hzero : c.posts = 0 := by
      by_contra hne
      have hone : c.posts = 1 := by omega
      rw [hused hone] at hfresh
      cases hfresh
    have hclean : c.poisoned = true → c' = c := by
      intro hp
      rw [hpoisoned] at hp
      cases hp
    dsimp only at hrun
    split at hrun
    · cases hrun
      refine ⟨⟨h.magic, h.registered, h.active, _, rfl, hcoherent, hposts, fun _ => rfl⟩, ?_, hclean⟩
      exact failCode_eq _
    · have hflags := exchange_flags
        ({ c with native := some { native with targetUsed := true } }.wire native) env
      generalize exchange
        ({ c with native := some { native with targetUsed := true } }.wire native) env = t at hflags hrun
      split at hrun
      · next hpc =>
        cases hrun
        simp only [FlagsAt, hpc] at hflags
        obtain ⟨hp1, hact, hret⟩ := hflags
        refine ⟨⟨h.magic, h.registered, hact, _, rfl, hcoherent, ?_, fun _ => rfl⟩, ?_, hclean⟩
        · simp only [hzero]
          omega
        · simp [hret]
      · next hpc =>
        cases hrun
        simp only [FlagsAt, hpc] at hflags
        obtain ⟨hp1, hact, -⟩ := hflags
        refine ⟨⟨h.magic, h.registered, hact, _, rfl, hcoherent, ?_, fun _ => rfl⟩, failCode_eq _, hclean⟩
        simp only [hzero]
        omega
      · cases hrun

/-- A close either erases the handle with every resource released, or returns -2 and leaves
a live context poisoned; a poisoned one it does not touch. -/
theorem directClose_spec {c c' : Context} {env : CloseAnswers} {code : Int} {erased : Bool}
    (h : Live c) (hrun : directClose c env = (code, c', erased)) :
    (code = -2 ↔ c'.poisoned = true) ∧ (c.poisoned = true → c' = c ∧ erased = false) ∧
    (erased = false → code = -2 ∧ Live c') ∧
    (erased = true → (code = 0 ∨ code = -1) ∧ c'.native = none ∧
      ∀ r, .acquired r ∈ c'.log → .released r ∈ c'.log) := by
  obtain ⟨native, hnative, hcoherent, hposts, hused⟩ := h.native
  unfold directClose at hrun
  simp only [hnative] at hrun
  split at hrun
  · next hbad =>
    rw [h.magic, h.registered] at hbad
    simp at hbad
  · split at hrun
    · next hpoisoned =>
      cases hrun
      have hp : c.poisoned = true := hpoisoned.elim id h.active
      exact ⟨by simp [hp], fun _ => ⟨rfl, rfl⟩, fun _ => ⟨rfl, h⟩, fun he => by cases he⟩
    · next hclean =>
      rw [not_or] at hclean
      have hkept : c.poisoned = true → c' = c ∧ erased = false := fun hp => absurd hp hclean.1
      have hstop := stopNativeThread_coherent hcoherent env.threadRun
      have hfalse : c.poisoned = false := by simpa using hclean.1
      split at hrun
      · next message t hcleanup =>
        cases hrun
        obtain ⟨hc, hu⟩ := @cleanupNativeStrict_coherent env.threadRun env.destroys _ hstop
        rw [hcleanup, stopNativeThread_used] at hu
        rw [hcleanup] at hc
        refine ⟨by simp, hkept, fun _ => ⟨rfl, ⟨h.magic, h.registered, fun _ => rfl, t.native, rfl, hc,
          hposts, fun hone => ?_⟩⟩, fun he => by cases he⟩
        rw [hu]
        exact hused hone
      · next t hcleanup =>
        cases hrun
        refine ⟨?_, hkept, ?_, fun _ => ⟨?_, rfl, ?_⟩⟩
        · simp only [hfalse]
          split <;> simp
        · intro he
          cases he
        · split
          · exact .inr rfl
          · exact .inl rfl
        · intro r
          exact (cleanupNativeStrict_ok hstop hcleanup r).2

/-! ### One call on the handle table -/

theorem startSource_coherent {t : Tracked} (h : t.Coherent) (env : OpenAnswers) (role : DmabufRole) :
    (startSource env role t).2.Coherent := by
  unfold startSource
  split
  · exact h
  · split
    · exact h
    · dsimp only
      split
      · exact h.acquire _
      · exact (h.acquire _).acquire _

theorem openContext_live {args : OpenArgs} {env : OpenAnswers} {c : Context}
    (h : openContext args env = .ok c) : Live c := by
  unfold openContext at h
  split at h
  · cases h
  next role _ =>
  split at h
  · cases h
  split at h
  · cases h
  split at h
  · cases h
  split at h
  · cases h
  · next t hmake =>
    have hstart := startSource_coherent (makeNativeResources_coherent hmake) env role
    split at h
    · cases h
    · next u hrun =>
      cases h
      rw [hrun] at hstart
      exact ⟨rfl, rfl, id, _, rfl, hstart, Nat.zero_le 1, fun hone => by cases hone⟩

/-- The handle table holds live contexts, and none under null. -/
def System.Ok (s : System) : Prop := ∀ h c, s.contexts h = some c → h ≠ 0 ∧ Live c

theorem contexts_set (s : System) (handle h : UInt64) (c : Option Context) :
    (s.set handle c).contexts h = if h = handle then c else s.contexts h := rfl

theorem System.Ok.set {s : System} (h : s.Ok) {handle : UInt64} {c : Option Context}
    (hc : ∀ c', c = some c' → handle ≠ 0 ∧ Live c') : (s.set handle c).Ok := by
  intro h' c' heq
  rw [contexts_set] at heq
  split at heq
  · next he =>
    subst he
    exact hc c' heq
  · exact h h' c' heq

/-- An open fails without a trace in the table, or issues the next identifier, which was
not in use, to a live context. -/
theorem openDmabuf_cases (s : System) (args : OpenArgs) (env : OpenAnswers) :
    ((openDmabuf s args env).reply = .handle 0 ∧
      (openDmabuf s args env).system.contexts = s.contexts ∧
      ((openDmabuf s args env).system.nextHandleId = s.nextHandleId ∨
        (openDmabuf s args env).system.nextHandleId = s.nextHandleId + 1)) ∨
    ∃ c, Live c ∧ s.nextHandleId ≠ 0 ∧ s.contexts s.nextHandleId = none ∧
      openDmabuf s args env = ⟨.handle s.nextHandleId, some c,
        { s with nextHandleId := s.nextHandleId + 1 }.set s.nextHandleId (some c)⟩ := by
  unfold openDmabuf
  split
  · exact .inl ⟨rfl, rfl, .inl rfl⟩
  · next c hc =>
    dsimp only
    split
    · exact .inl ⟨rfl, rfl, .inr rfl⟩
    · next hfree =>
      rw [not_or] at hfree
      refine .inr ⟨c, openContext_live hc, hfree.1, ?_, rfl⟩
      simpa using hfree.2

/-- A read or close of a handle that is not live changes nothing; of a live one it leaves the
context live in the table, or it is a close that erased it. -/
theorem call_cases {s : System} (hok : s.Ok) {op : Call} {h : UInt64} (hon : op.on = some h)
    {r : Returned} (hcall : call s op = some r) :
    (s.contexts h = none ∧ r.system = s ∧ r.object = none ∧
      ∃ code, r.reply = .code code ∧ code ≠ -2 ∧ (h ≠ 0 → code = -1)) ∨
    ∃ c c' code, s.contexts h = some c ∧ r.reply = .code code ∧ r.object = some c' ∧
      (code = -2 ↔ c'.poisoned = true) ∧ (c.poisoned = true → c' = c) ∧
      (r.system = s.set h (some c') ∧ Live c' ∧ (∀ env, op = .close h env → code = -2) ∨
        r.system = s.set h none ∧ (code = 0 ∨ code = -1) ∧ c'.native = none ∧
          ∀ res, .acquired res ∈ c'.log → .released res ∈ c'.log) := by
  have hnull : s.contexts 0 = none := by
    cases hz : s.contexts 0 with
    | none => rfl
    | some c => exact absurd rfl (hok 0 c hz).1
  have hchecked : checkedContext s h = s.contexts h := by
    unfold checkedContext
    split
    · next hz => rw [hz, hnull]
    · rfl
  cases op with
  | openDmabuf args env => cases hon
  | read handle args env =>
    cases hon
    simp only [call, Gdr.read, hchecked] at hcall
    split at hcall
    · next hnone =>
      cases hcall
      exact .inl ⟨hnone, rfl, rfl, _, rfl, by decide, fun _ => rfl⟩
    · next c hc =>
      obtain ⟨⟨code, c'⟩, hrun, rfl⟩ := Option.map_eq_some_iff.mp hcall
      obtain ⟨hlive, hcode, hkept⟩ := directRead_spec (hok h c hc).2 hrun
      exact .inr ⟨c, c', code, hc, rfl, rfl, hcode, hkept, .inl ⟨rfl, hlive, fun env he => by cases he⟩⟩
  | close handle env =>
    cases hon
    simp only [call, Option.some.injEq] at hcall
    subst hcall
    unfold close
    split
    · next hz => exact .inl ⟨by rw [hz, hnull], rfl, rfl, _, rfl, by decide, fun hne => absurd hz hne⟩
    · rw [hchecked]
      cases hc : s.contexts h with
      | none => exact .inl ⟨rfl, rfl, rfl, _, rfl, by decide, fun _ => rfl⟩
      | some c =>
        dsimp only
        cases hrun : directClose c env with
        | mk code rest =>
          obtain ⟨c', erased⟩ := rest
          obtain ⟨hcode, hkept, hstays, hgone⟩ := directClose_spec (hok h c hc).2 hrun
          cases erased with
          | true =>
            exact .inr ⟨c, c', code, rfl, rfl, rfl, hcode, fun hp => (hkept hp).1, .inr ⟨rfl, hgone rfl⟩⟩
          | false =>
            obtain ⟨hminus, hlive⟩ := hstays rfl
            exact .inr ⟨c, c', code, rfl, rfl, rfl, hcode, fun hp => (hkept hp).1,
              .inl ⟨rfl, hlive, fun _ _ => hminus⟩⟩

theorem call_ok {s : System} (hok : s.Ok) {op : Call} {r : Returned} (hcall : call s op = some r) :
    r.system.Ok := by
  cases hon : op.on with
  | none =>
    cases op with
    | read handle args env => cases hon
    | close handle env => cases hon
    | openDmabuf args env =>
      simp only [call, Option.some.injEq] at hcall
      subst hcall
      obtain ⟨-, hsame, -⟩ | ⟨c, hlive, hne, -, hrun⟩ := openDmabuf_cases s args env
      · intro h c hc
        rw [hsame] at hc
        exact hok h c hc
      · rw [hrun]
        have hnext : System.Ok { s with nextHandleId := s.nextHandleId + 1 } := hok
        refine hnext.set fun c' hc' => ?_
        cases hc'
        exact ⟨hne, hlive⟩
  | some h =>
    obtain ⟨-, hsame, -⟩ | ⟨c, c', code, hc, -, -, -, -, ⟨hsys, hlive, -⟩ | ⟨hsys, -⟩⟩ :=
      call_cases hok hon hcall
    · rw [hsame]
      exact hok
    · rw [hsys]
      refine hok.set fun c'' hc'' => ?_
      cases hc''
      exact ⟨(hok h c hc).1, hlive⟩
    · rw [hsys]
      refine hok.set fun c'' hc'' => ?_
      cases hc''

/-! ### Sequences of calls -/

theorem after_ok {s : System} (hok : s.Ok) (calls : List Call) : (after s calls).Ok := by
  refine Machine.runFrom_invariant (fun s op s' hs hstep => ?_) calls hok
  obtain ⟨r, hr, rfl⟩ := Option.map_eq_some_iff.mp hstep
  exact call_ok hs hr

theorem init_ok : System.init.Ok := fun _ _ h => by cases h

/-- The table under one handle after a call: as before, unless the call was on it or opened it. -/
theorem contexts_call {s : System} (hok : s.Ok) {op : Call} {r : Returned}
    (hcall : call s op = some r) (h : UInt64) :
    r.system.contexts h = s.contexts h ∨ op.on = some h ∨ s.contexts h = none ∧ r.reply = .handle h := by
  cases hon : op.on with
  | none =>
    cases op with
    | read handle args env => cases hon
    | close handle env => cases hon
    | openDmabuf args env =>
      simp only [call, Option.some.injEq] at hcall
      subst hcall
      obtain ⟨-, hsame, -⟩ | ⟨c, -, -, hfree, hrun⟩ := openDmabuf_cases s args env
      · exact .inl (by rw [hsame])
      · rw [hrun, contexts_set]
        by_cases heq : h = s.nextHandleId
        · exact .inr (.inr ⟨by rw [heq, hfree], by rw [heq]⟩)
        · exact .inl (by rw [if_neg heq])
  | some h' =>
    by_cases heq : h = h'
    · exact .inr (.inl (by rw [heq]))
    · obtain ⟨-, hsame, -⟩ | ⟨c, c', code, hc, -, -, -, -, ⟨hsys, -⟩ | ⟨hsys, -⟩⟩ :=
        call_cases hok hon hcall
      · exact .inl (by rw [hsame])
      · exact .inl (by rw [hsys, contexts_set, if_neg heq])
      · exact .inl (by rw [hsys, contexts_set, if_neg heq])

/-- A context that is poisoned stays under its handle as it is. -/
theorem after_poisoned {s : System} (hok : s.Ok) {h : UInt64} {c : Context}
    (hc : s.contexts h = some c) (hp : c.poisoned = true) (calls : List Call) :
    (after s calls).contexts h = some c := by
  have hinv : (after s calls).Ok ∧ (after s calls).contexts h = some c := by
    refine Machine.runFrom_invariant (I := fun s : System => s.Ok ∧ s.contexts h = some c)
      (fun s op s' hs hstep => ?_) calls ⟨hok, hc⟩
    obtain ⟨r, hr, rfl⟩ := Option.map_eq_some_iff.mp hstep
    refine ⟨call_ok hs.1 hr, ?_⟩
    obtain hsame | hon | ⟨hnone, -⟩ := contexts_call hs.1 hr h
    · rw [hsame]
      exact hs.2
    · obtain ⟨hnone, -⟩ | ⟨d, c', code, hd, -, -, hcode, hkept, hrest⟩ := call_cases hs.1 hon hr
      · rw [hs.2] at hnone
        cases hnone
      · obtain rfl : c = d := Option.some.inj (hs.2.symm.trans hd)
        obtain rfl := hkept hp
        obtain ⟨hsys, -⟩ | ⟨-, hzero, -⟩ := hrest
        · rw [hsys, contexts_set, if_pos rfl]
        · have := hcode.mpr hp
          omega
    · rw [hs.2] at hnone
      cases hnone
  exact hinv.2

/-- A handle that is not in the table stays out of it until an open returns it. -/
theorem after_absent {s : System} (hok : s.Ok) {h : UInt64} (hc : s.contexts h = none)
    {calls : List Call} (hnew : .handle h ∉ replies s calls) : (after s calls).contexts h = none := by
  induction calls generalizing s with
  | nil => exact hc
  | cons op rest ih =>
    rw [after, Machine.runFrom_cons]
    unfold replies at hnew
    cases hop : call s op with
    | none =>
      simp only [hop, Option.map_none, Option.getD_none] at hnew ⊢
      exact ih hok hc hnew
    | some r =>
      simp only [hop, List.mem_cons, not_or] at hnew
      simp only [Option.map_some, Option.getD_some]
      refine ih (call_ok hok hop) ?_ hnew.2
      obtain hsame | hon | ⟨-, hissued⟩ := contexts_call hok hop h
      · rw [hsame]
        exact hc
      · obtain ⟨hnone, hsys, -⟩ | ⟨d, c', code, hd, -⟩ := call_cases hok hon hop
        · rw [hsys]
          exact hnone
        · rw [hc] at hd
          cases hd
      · exact absurd hissued.symm hnew.1

theorem nextHandleId_on {s : System} (hok : s.Ok) {op : Call} {h : UInt64} (hon : op.on = some h)
    {r : Returned} (hcall : call s op = some r) : r.system.nextHandleId = s.nextHandleId := by
  obtain ⟨-, hsame, -⟩ | ⟨c, c', code, -, -, -, -, -, ⟨hsys, -⟩ | ⟨hsys, -⟩⟩ := call_cases hok hon hcall
  · rw [hsame]
  · rw [hsys]
    rfl
  · rw [hsys]
    rfl

/-- A call uses up at most one identifier, and issues none but that one. -/
theorem nextHandleId_call {s : System} (hok : s.Ok) {op : Call} {r : Returned}
    (hcall : call s op = some r) :
    (r.system.nextHandleId = s.nextHandleId ∨ r.system.nextHandleId = s.nextHandleId + 1) ∧
    ∀ id, id ≠ 0 → r.reply = .handle id →
      id = s.nextHandleId ∧ r.system.nextHandleId = s.nextHandleId + 1 := by
  cases hon : op.on with
  | none =>
    cases op with
    | read handle args env => cases hon
    | close handle env => cases hon
    | openDmabuf args env =>
      simp only [call, Option.some.injEq] at hcall
      subst hcall
      obtain ⟨hreply, -, hnext⟩ | ⟨c, -, -, -, hrun⟩ := openDmabuf_cases s args env
      · refine ⟨hnext, fun id hid heq => ?_⟩
        rw [hreply] at heq
        exact absurd (Reply.handle.inj heq).symm hid
      · rw [hrun]
        exact ⟨.inr rfl, fun id _ heq => ⟨(Reply.handle.inj heq).symm, rfl⟩⟩
  | some h =>
    have hnohandle : ∀ id, id ≠ 0 → r.reply ≠ .handle id := by
      intro id hid heq
      obtain ⟨-, -, -, code, hreply, -⟩ | ⟨c, c', code, -, hreply, -⟩ := call_cases hok hon hcall
      · rw [hreply] at heq
        cases heq
      · rw [hreply] at heq
        cases heq
    exact ⟨.inl (nextHandleId_on hok hon hcall), fun id hid heq => absurd heq (hnohandle id hid)⟩

/-- While the identifiers last, those issued lie between the first and the next one. -/
theorem issued_between {s : System} (hok : s.Ok) {calls : List Call}
    (hbound : s.nextHandleId.toNat + calls.length < 2 ^ 64) :
    s.nextHandleId.toNat ≤ (after s calls).nextHandleId.toNat ∧
    (after s calls).nextHandleId.toNat ≤ s.nextHandleId.toNat + calls.length ∧
    ∀ id, id ≠ 0 → .handle id ∈ replies s calls →
      s.nextHandleId.toNat ≤ id.toNat ∧ id.toNat < (after s calls).nextHandleId.toNat := by
  induction calls generalizing s with
  | nil => exact ⟨le_refl _, le_refl _, fun id _ h => by cases h⟩
  | cons op rest ih =>
    rw [List.length_cons] at hbound
    rw [after, Machine.runFrom_cons]
    unfold replies
    cases hop : call s op with
    | none =>
      obtain ⟨h1, h2, h3⟩ := ih hok (by omega)
      simp only [Option.map_none, Option.getD_none, List.length_cons]
      exact ⟨h1, by rw [after] at h2; omega, h3⟩
    | some r =>
      simp only [Option.map_some, Option.getD_some, List.length_cons]
      obtain ⟨hnext, hissued⟩ := nextHandleId_call hok hop
      have hsucc : (s.nextHandleId + 1).toNat = s.nextHandleId.toNat + 1 := by
        rw [UInt64.toNat_add]
        exact Nat.mod_eq_of_lt (by simp only [UInt64.toNat_one]; omega)
      have hstep : s.nextHandleId.toNat ≤ r.system.nextHandleId.toNat ∧
          r.system.nextHandleId.toNat ≤ s.nextHandleId.toNat + 1 := by
        obtain heq | heq := hnext
        · rw [heq]
          omega
        · rw [heq, hsucc]
          omega
      obtain ⟨h1, h2, h3⟩ := ih (call_ok hok hop) (by omega)
      rw [after] at h1 h2 h3
      refine ⟨by omega, by omega, fun id hid hmem => ?_⟩
      obtain hhead | htail := List.mem_cons.mp hmem
      · obtain ⟨rfl, heq⟩ := hissued id hid hhead.symm
        rw [heq, hsucc] at h1
        exact ⟨le_refl _, by omega⟩
      · obtain ⟨hlow, hhigh⟩ := h3 id hid htail
        exact ⟨by omega, hhigh⟩

/-- A call that returned -2 left the context poisoned under its handle. -/
theorem poisoned_of_reply {s : System} (hok : s.Ok) {op : Call} {h : UInt64} (hon : op.on = some h)
    {r : Returned} (hcall : call s op = some r) (hreply : r.reply = .code (-2)) :
    ∃ c, r.system.contexts h = some c ∧ c.poisoned = true ∧ r.object = some c := by
  obtain ⟨-, -, -, code, hcode, hne, -⟩ |
    ⟨d, c', code, -, hcode, hobject, hiff, -, ⟨hsys, -⟩ | ⟨-, hzero, -⟩⟩ := call_cases hok hon hcall
  · rw [hreply] at hcode
    cases hcode
    exact absurd rfl hne
  · rw [hreply] at hcode
    cases hcode
    exact ⟨c', by rw [hsys, contexts_set, if_pos rfl], hiff.mp rfl, hobject⟩
  · rw [hreply] at hcode
    cases hcode
    omega

/-- A poisoned context is refused as it is. -/
theorem reply_of_poisoned {s : System} (hok : s.Ok) {h : UInt64} {c : Context}
    (hc : s.contexts h = some c) (hp : c.poisoned = true) {op : Call} (hon : op.on = some h)
    {r : Returned} (hcall : call s op = some r) : r.reply = .code (-2) ∧ r.object = some c := by
  obtain ⟨hnone, -⟩ | ⟨d, c', code, hd, hcode, hobject, hiff, hkept, -⟩ := call_cases hok hon hcall
  · rw [hc] at hnone
    cases hnone
  · obtain rfl : c = d := Option.some.inj (hc.symm.trans hd)
    obtain rfl := hkept hp
    obtain rfl := hiff.mpr hp
    exact ⟨hcode, hobject⟩

/-- A close that does not return -2 leaves no handle and no resource behind. -/
theorem close_released {s : System} (hok : s.Ok) {h : UInt64} {env : CloseAnswers} {r : Returned}
    (hcall : call s (.close h env) = some r) (hreply : r.reply = .code 0 ∨ r.reply = .code (-1)) :
    r.system.contexts h = none ∧ ∀ c, r.object = some c →
      c.native = none ∧ ∀ res, .acquired res ∈ c.log → .released res ∈ c.log := by
  obtain ⟨hnone, hsame, hobject, -⟩ |
    ⟨d, c', code, -, hcode, hobject, -, -, ⟨-, -, hminus⟩ | ⟨hsys, -, hgone⟩⟩ :=
    call_cases hok rfl hcall
  · refine ⟨by rw [hsame]; exact hnone, fun c hc => ?_⟩
    rw [hobject] at hc
    cases hc
  · rw [hcode, hminus env rfl] at hreply
    simp at hreply
  · refine ⟨by rw [hsys, contexts_set, if_pos rfl], fun c hc => ?_⟩
    rw [hobject] at hc
    cases hc
    exact hgone

/-- Behind a read or close, a value issued before is not issued again while the identifiers
last. -/
theorem not_reissued {calls more : List Call} {op : Call} {h h' : UInt64} (hon : op.on = some h')
    {r : Returned} (hcall : call (after .init calls) op = some r) (hne : h ≠ 0)
    (hissued : .handle h ∈ replies .init calls) (hbound : calls.length + more.length + 1 < 2 ^ 64) :
    .handle h ∉ replies r.system more := by
  have hok := after_ok init_ok calls
  have hfirst : System.init.nextHandleId.toNat = 1 := rfl
  intro hagain
  obtain ⟨-, hle, hold⟩ := @issued_between .init init_ok calls (by omega)
  rw [← nextHandleId_on hok hon hcall] at hle hold
  obtain ⟨-, -, hlater⟩ := @issued_between _ (call_ok hok hcall) more (by omega)
  have hbelow := (hold h hne hissued).2
  have habove := (hlater h hne hagain).1
  omega

/-- The handles over every sequence of calls. Between calls an unretired READ has poisoned its
context, and no context has posted more than one. A read or close of a live handle returns -2
exactly when it leaves the context poisoned; from then on every read and close of the handle
returns -2 and leaves the context as it is. A close that returns 0 or -1 leaves the handle out
of the table with every resource released, and a later read or close of it returns -1 until an
open returns the same value again, which for a value once issued takes `2 ^ 64` calls. -/
theorem direct_lifecycle (calls : List Call) :
    (∀ h c, (after .init calls).contexts h = some c →
      (c.transferActive = true → c.poisoned = true) ∧ c.posts ≤ 1) ∧
    (∀ op h c r, op.on = some h → (after .init calls).contexts h = some c →
      call (after .init calls) op = some r →
      ∃ code c', r.reply = .code code ∧ r.object = some c' ∧ (code = -2 ↔ c'.poisoned = true)) ∧
    (∀ op h r, op.on = some h → call (after .init calls) op = some r → r.reply = .code (-2) →
      ∀ more op' r', op'.on = some h → call (after r.system more) op' = some r' →
        r'.reply = .code (-2) ∧ ∃ c, r.object = some c ∧ r'.object = some c) ∧
    (∀ h env r, close (after .init calls) h env = r → r.reply = .code 0 ∨ r.reply = .code (-1) →
      r.system.contexts h = none ∧
      (∀ c, r.object = some c →
        c.native = none ∧ ∀ res, .acquired res ∈ c.log → .released res ∈ c.log) ∧
      (h ≠ 0 → ∀ more,
        (.handle h ∉ replies r.system more ∨
          .handle h ∈ replies .init calls ∧ calls.length + more.length + 1 < 2 ^ 64) →
        ∀ op r', op.on = some h → call (after r.system more) op = some r' →
          r'.reply = .code (-1))) := by
  have hok := after_ok init_ok calls
  refine ⟨fun h c hc => ?_, fun op h c r hon hc hcall => ?_, fun op h r hon hcall hreply => ?_,
    fun h env r hrun hreply => ?_⟩
  · obtain ⟨-, hlive⟩ := hok h c hc
    obtain ⟨-, -, -, hposts, -⟩ := hlive.native
    exact ⟨hlive.active, hposts⟩
  · obtain ⟨hnone, -⟩ | ⟨d, c', code, -, hcode, hobject, hiff, -⟩ := call_cases hok hon hcall
    · rw [hc] at hnone
      cases hnone
    · exact ⟨code, c', hcode, hobject, hiff⟩
  · obtain ⟨c, hc, hp, hobject⟩ := poisoned_of_reply hok hon hcall hreply
    intro more op' r' hon' hcall'
    have hsys := call_ok hok hcall
    have hstays := after_poisoned hsys hc hp more
    obtain ⟨hreply', hobject'⟩ := reply_of_poisoned (after_ok hsys more) hstays hp hon' hcall'
    exact ⟨hreply', c, hobject, hobject'⟩
  · have hcall : call (after .init calls) (.close h env) = some r := congrArg some hrun
    have hsys := call_ok hok hcall
    obtain ⟨habsent, hreleased⟩ := close_released hok hcall hreply
    refine ⟨habsent, hreleased, fun hne more hfresh op r' hon hcall' => ?_⟩
    have hnew : .handle h ∉ replies r.system more :=
      hfresh.elim id fun hold => not_reissued rfl hcall hne hold.1 hold.2
    obtain ⟨-, -, -, code, hcode, -, hminus⟩ | ⟨c, c', code, hc, -⟩ :=
      call_cases (after_ok hsys more) hon hcall'
    · rw [hcode, hminus hne]
    · rw [after_absent hsys habsent hnew] at hc
      cases hc

/-- Whether a close that returned 0 or -1 is the last word on its handle. -/
def ClosedForGood (calls : List Call) : Prop :=
  ∀ h env r, close (after .init calls) h env = r → r.reply = .code 0 ∨ r.reply = .code (-1) →
    h ≠ 0 → ∀ more op r', op.on = some h → call (after r.system more) op = some r' →
      r'.reply = .code (-1)

section Target

/-- "192.0.2.12:23140" -/
def targetEndpoint : CString :=
  ⟨[49, 57, 50, 46, 48, 46, 50, 46, 49, 50, 58, 50, 51, 49, 52, 48], by decide⟩

def targetArgs : OpenArgs := ⟨some targetEndpoint, 4096, 64, 0, 2⟩

/-- Everything succeeds. -/
def targetAnswers : OpenAnswers where
  pointer := ⟨.ok 0, .ok (true, 0), some (4096, 64), fun _ => none, fun _ => none, true, some 1⟩
  native := ⟨none, .ok (), .ok 1, .ok 1, some [kRequiredDevice], true, .ok (true, true), .ok noGid, true,
    true, some 17, true, .ok (), true, .ok 257, 1000, 1⟩
  listener := .ok ()
  thread := .ok ()
  threadRun := ⟨false, false, ""⟩
  destroys := fun _ => true

def cleanClose : CloseAnswers := ⟨⟨false, false, ""⟩, fun _ => true⟩

/-- The first handle is closed before it is issued, and again, with success, once it is. -/
theorem reissued_handle_closes : ¬ ClosedForGood [] := by
  intro h
  have hfirst : (close (after .init []) 1 cleanClose).reply = .code (-1) := by decide +kernel
  have hsecond : (close (after (close (after .init []) 1 cleanClose).system
      [.openDmabuf targetArgs targetAnswers]) 1 cleanClose).reply = .code 0 := by decide +kernel
  have hclosed := h 1 cleanClose _ rfl (.inr hfirst) (by decide) [.openDmabuf targetArgs targetAnswers]
    (.close 1 cleanClose) _ rfl rfl
  rw [hsecond] at hclosed
  cases hclosed

end Target

end ServerlessX.Gdr
