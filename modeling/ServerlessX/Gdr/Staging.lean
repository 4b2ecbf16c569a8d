import ServerlessX.Gdr.Mooncake

/-! The handles of the staging backend over any sequence of `spd_gdr_open`, the three
transfers and `spd_gdr_close`, made one at a time. -/
namespace ServerlessX.Gdr.Staging
open ServerlessX.Py ServerlessX.Gdr

/-! ### The calls -/

structure OpenArgs where
  localServerName : Option CString
  devicePointer : UInt64
  bytes : UInt64
  gpuId : Int

structure OpenAnswers where
  validatePlatform : Except String Unit
  pointer : PointerAnswers
  /-- Whether `TransferEngine::init` and `installTransport` succeed. -/
  engineInit : Bool
  installTransport : Bool
  registerLocalMemory : Bool

/-- `make_engine` -/
def makeEngine (name : CString) (env : OpenAnswers) : Except String Unit :=
  if name.bytes = [] then .error "local server name is empty"
  else if env.engineInit = false then .error "TransferEngine::init failed"
  else if env.installTransport = false then .error "installTransport(rdma) failed"
  else .ok ()

/-- `spd_gdr_open` up to the handle. A 64-bit size always fits `size_t`. -/
def openContext (args : OpenArgs) (env : OpenAnswers) : Except String StagingContext :=
  match args.localServerName with
  | none => .error "local server name is null"
  | some name =>
    match env.validatePlatform with
    | .error message => .error message
    | .ok _ =>
      match (validatePointer env.pointer args.devicePointer args.bytes args.gpuId true).1 with
      | .error message => .error message
      | .ok _ =>
        match makeEngine name env with
        | .error message => .error message
        | .ok _ =>
          if env.registerLocalMemory = false then .error "registerLocalMemory failed"
          else .ok { magic := kContextMagic, engine := true, buffer := args.devicePointer,
                     bytes := args.bytes, gpuId := args.gpuId, registered := true,
                     transferActive := false, poisoned := false }

/-- `contexts` and `next_handle_id` -/
structure System where
  contexts : UInt64 → Option StagingContext
  nextHandleId : UInt64

def System.init : System := ⟨fun _ => none, 1⟩

def System.set (s : System) (handle : UInt64) (c : Option StagingContext) : System :=
  { s with contexts := fun h => if h = handle then c else s.contexts h }

/-- `spd_gdr_open`; the handle 0 is null. -/
def openHandle (s : System) (args : OpenArgs) (env : OpenAnswers) : Reply × System :=
  match openContext args env with
  | .error _ => (.handle 0, s)
  | .ok c =>
    let id := s.nextHandleId
    let s := { s with nextHandleId := id + 1 }
    if id = 0 ∨ (s.contexts id).isSome = true then (.handle 0, s)
    else (.handle id, s.set id (some c))

/-- `checked_context` -/
def checkedContext (s : System) (handle : UInt64) : Option StagingContext :=
  if handle = 0 then none else s.contexts handle

/-- `transfer_one` on a handle, or `none` while it has not returned. -/
def transferHandle (s : System) (handle : UInt64) (args : TransferArgs) (engine : EngineAnswers)
    (turns : Nat) : Option (Reply × System) :=
  match checkedContext s handle with
  | none => some (.code (-1), s)
  | some c => (transferOne c args engine turns).map fun r =>
      (.code r.code, s.set handle (some r.transfer.context))

/-- What the three entry points pass on. -/
structure PeerArgs where
  serverName : Option CString
  timeoutMs : UInt64
  outputs : Bool × Bool × Bool

/-- `spd_gdr_transfer`: the whole slab is written. -/
def transferArgs (args : PeerArgs) : TransferArgs :=
  ⟨args.serverName, 0, 0, 0, args.timeoutMs, args.outputs, .write, "WRITE"⟩

/-- `spd_gdr_read`: the whole slab is read. -/
def readArgs (args : PeerArgs) : TransferArgs :=
  ⟨args.serverName, 0, 0, 0, args.timeoutMs, args.outputs, .read, "READ"⟩

/-- `spd_gdr_read_at_v1` -/
def readAtArgs (args : PeerArgs) (localOffset remoteOffset bytes : UInt64) : TransferArgs :=
  ⟨args.serverName, localOffset, remoteOffset, bytes, args.timeoutMs, args.outputs, .read, "READ"⟩

/-- `spd_gdr_close` on a context; `unregistered` is what `unregisterLocalMemory` answers. The
last component says whether the handle is erased. -/
def closeContext (c : StagingContext) (unregistered : Bool) : Int × StagingContext × Bool :=
  if c.magic ≠ kContextMagic ∨ c.engine = false ∨ c.registered = false then
    (-2, { c with poisoned := true }, false)
  else if c.poisoned ∨ c.transferActive then (-2, c, false)
  else if unregistered = false then (-2, { c with poisoned := true }, false)
  else (0, { c with registered := false, engine := false, magic := 0 }, true)

/-- `spd_gdr_close` -/
def closeHandle (s : System) (handle : UInt64) (unregistered : Bool) : Reply × System :=
  if handle = 0 then (.code 0, s)
  else match checkedContext s handle with
    | none => (.code (-1), s)
    | some c =>
      match closeContext c unregistered with
      | (code, _, true) => (.code code, s.set handle none)
      | (code, c, false) => (.code code, s.set handle (some c))

inductive Call where
  | openHandle (args : OpenArgs) (env : OpenAnswers)
  | transfer (handle : UInt64) (args : PeerArgs) (engine : EngineAnswers) (turns : Nat)
  | read (handle : UInt64) (args : PeerArgs) (engine : EngineAnswers) (turns : Nat)
  | readAt (handle : UInt64) (args : PeerArgs) (localOffset remoteOffset bytes : UInt64)
      (engine : EngineAnswers) (turns : Nat)
  | close (handle : UInt64) (unregistered : Bool)

/-- What a call returns and the table it leaves; `none` while it has not returned. -/
def call (s : System) : Call → Option (Reply × System)
  | .openHandle args env => some (openHandle s args env)
  | .transfer handle args engine turns => transferHandle s handle (transferArgs args) engine turns
  | .read handle args engine turns => transferHandle s handle (readArgs args) engine turns
  | .readAt handle args localOffset remoteOffset bytes engine turns =>
    transferHandle s handle (readAtArgs args localOffset remoteOffset bytes) engine turns
  | .close handle unregistered => some (closeHandle s handle unregistered)

/-- The table after a sequence of calls, those that do not return left out. -/
def after (s : System) (calls : List Call) : System :=
  Machine.runFrom (fun s c => (call s c).map (·.2)) s calls

/-! ### The slab of a handle -/

/-- A context in the table: open, idle, and with a slab inside the address space. -/
structure Registered (c : StagingContext) : Prop where
  magic : c.magic = kContextMagic
  engine : c.engine = true
  registered : c.registered = true
  idle : c.transferActive = false
  size : SizeInRange c.bytes
  space : c.buffer.toNat + c.bytes.toNat ≤ 2 ^ 64

/-- An accepted range stays inside the address space, whichever branch accepted it. -/
theorem space_of_accepted {cuda : PointerAnswers} {pointer bytes : UInt64} {gpuId : Int} {sync : Bool}
    (h : (validatePointer cuda pointer bytes gpuId sync).1 = .ok ()) :
    pointer.toNat + bytes.toNat ≤ 2 ^ 64 := by
  have hsize := size_of_accepted h
  rw [← inAddressSpace_iff toNat_uintptrMax hsize.1]
  intro hpast
  cases hdevice : checkDevice cuda pointer bytes gpuId with
  | error message =>
    rw [validatePointer, hdevice] at h
    cases h
  | ok done =>
    have hchecks := ((checkDevice_eq_ok cuda pointer bytes gpuId).mp hdevice).1
    have hrange := ((validatePointer_of_checks hchecks hsize sync).2.mp h).1
    rw [checkRange_eq, rangeArithmetic_past hpast] at hrange
    cases hrange

theorem openContext_registered {args : OpenArgs} {env : OpenAnswers} {c : StagingContext}
    (h : openContext args env = .ok c) : Registered c := by
  unfold openContext at h
  split at h
  · cases h
  split at h
  · cases h
  split at h
  · cases h
  next value hpointer =>
  split at h
  · cases h
  split at h
  · cases h
  · cases h
    exact ⟨rfl, rfl, rfl, rfl, size_of_accepted hpointer, space_of_accepted hpointer⟩

/-- What the calls on a context do not touch. -/
structure SameSlab (c c' : StagingContext) : Prop where
  magic : c'.magic = c.magic
  engine : c'.engine = c.engine
  buffer : c'.buffer = c.buffer
  bytes : c'.bytes = c.bytes
  registered : c'.registered = c.registered

namespace SameSlab
variable {c : StagingContext} {t : Transfer}

theorem refl (c : StagingContext) : SameSlab c c := ⟨rfl, rfl, rfl, rfl, rfl⟩

theorem freeBatch (h : SameSlab c t.context) (engine : EngineAnswers) (batch : UInt64) :
    SameSlab c (freeBatch engine batch t).2.context :=
  ⟨h.magic, h.engine, h.buffer, h.bytes, h.registered⟩

theorem pollTurn (h : SameSlab c t.context) (engine : EngineAnswers) (args : TransferArgs)
    (batch transferBytes : UInt64) (turn : Nat) :
    SameSlab c (pollTurn engine args batch transferBytes turn t).2.context := by
  unfold Gdr.pollTurn
  cases engine.queries turn with
  | error text => exact h.freeBatch engine batch
  | ok status =>
    have hqueried : SameSlab c { t with log := t.log ++ [EngineEvent.queried batch status] }.context := h
    dsimp only
    split_ifs
    · exact hqueried
    · exact hqueried.freeBatch engine batch
    · exact hqueried.freeBatch engine batch
    · exact hqueried.freeBatch engine batch
    · exact hqueried

theorem completeTransfer (h : SameSlab c t.context) (engine : EngineAnswers) (args : TransferArgs)
    (batch transferBytes : UInt64) (turns : Nat) :
    SameSlab c (completeTransfer engine args batch transferBytes turns t).2.context := by
  have hloop : SameSlab c
      (Machine.loop (Gdr.pollTurn engine args batch transferBytes) turns 0 t).2.context :=
    Machine.loop_keeps (J := fun u : Transfer => SameSlab c u.context)
      (fun turn _ hu => hu.pollTurn engine args batch transferBytes turn) turns 0 h
  unfold Gdr.completeTransfer
  generalize Machine.loop (Gdr.pollTurn engine args batch transferBytes) turns 0 t = ended at hloop
  obtain ⟨result, u⟩ := ended
  rcases result with _ | message | status
  · exact hloop
  · exact hloop
  · dsimp only
    split
    · next text v hfree =>
      have hcontext := congrArg (fun x => x.2.context) hfree
      exact hcontext ▸ hloop.freeBatch engine batch
    · next value v hfree =>
      have hcontext := congrArg (fun x => x.2.context) hfree
      have hv : SameSlab c v.context := hcontext ▸ hloop.freeBatch engine batch
      split
      · exact hv
      · exact hv

theorem submitBatch (h : SameSlab c t.context) (engine : EngineAnswers) (args : TransferArgs)
    (buffer : BufferDesc) (batch : UInt64) (turns : Nat) :
    SameSlab c (submitBatch engine args buffer batch turns t).2.context := by
  by_cases hfits : AddressFits buffer args
  · have hsubmitted : SameSlab c (submittedOf engine args buffer batch t).context :=
      ⟨h.magic, h.engine, h.buffer, h.bytes, h.registered⟩
    rw [submitBatch_fits hfits]
    cases engine.submit with
    | error text => exact hsubmitted.freeBatch engine batch
    | ok value => exact hsubmitted.completeTransfer engine args batch _ turns
  · rw [submitBatch_overflow hfits]
    exact h

end SameSlab

theorem Registered.of_sameSlab {c c' : StagingContext} (h : Registered c) (hsame : SameSlab c c')
    (hidle : c'.transferActive = false) : Registered c' := by
  refine ⟨hsame.magic.trans h.magic, hsame.engine.trans h.engine, hsame.registered.trans h.registered,
    hidle, ?_, ?_⟩
  · rw [hsame.bytes]
    exact h.size
  · rw [hsame.buffer, hsame.bytes]
    exact h.space

/-- A transfer keeps the slab and takes its flag down; it returns -2 exactly when it leaves
the context poisoned, and a poisoned one it does not touch. -/
theorem transferOne_spec {c : StagingContext} {args : TransferArgs} {engine : EngineAnswers}
    {turns : Nat} {r : Transferred} (h : Registered c) (hrun : transferOne c args engine turns = some r) :
    Registered r.transfer.context ∧ SameSlab c r.transfer.context ∧
      (r.code = -2 ↔ r.transfer.context.poisoned = true) ∧
      (c.poisoned = true → r.transfer.context = c) := by
  have hfailed : ∀ message (t : Transfer), (Transferred.code ⟨.error message, t⟩ = -2 ↔
      t.context.poisoned = true) := by
    intro message t
    cases hp : t.context.poisoned <;> simp [Transferred.code, hp]
  unfold transferOne at hrun
  obtain ⟨message, outputs, hbody⟩ | ⟨outputs, buffer, batch, hchecks, -, -, hbody⟩ :=
    transferBody_cases c args engine turns
  · rw [hbody] at hrun
    cases hrun
    exact ⟨h, .refl c, hfailed _ _, fun _ => rfl⟩
  · have hclean := (transferChecks_ok hchecks).1
    have hpoisoned : c.poisoned = true → r.transfer.context = c := by
      intro hp
      rw [hclean] at hp
      cases hp
    have hslab : SameSlab c (Gdr.submitBatch engine args buffer batch turns
        ⟨c, outputs, [.allocated batch]⟩).2.context :=
      SameSlab.submitBatch (.refl c) engine args buffer batch turns
    rw [hbody] at hrun
    by_cases hfits : AddressFits buffer args
    · cases hsubmit : Gdr.submitBatch engine args buffer batch turns ⟨c, outputs, [.allocated batch]⟩ with
      | mk result u =>
        rw [hsubmit] at hrun hslab
        cases result with
        | none => cases hrun
        | some result =>
          cases hrun
          have hway := submitBatch_wayOut hfits rfl hclean hsubmit
          have hbalanced : Balanced c args batch ⟨result, u⟩ := balanced_of_wayOut hway
          exact ⟨h.of_sameSlab hslab hbalanced.idle, hslab, hbalanced.code, hpoisoned⟩
    · rw [submitBatch_overflow hfits] at hrun
      cases hrun
      exact ⟨h, .refl c, hfailed _ _, fun _ => rfl⟩

/-- A close erases the handle, or returns -2 and leaves the context poisoned; a poisoned one
it does not touch. -/
theorem closeContext_cases {c : StagingContext} (h : Registered c) (unregistered : Bool) :
    (∃ c', closeContext c unregistered = (0, c', true) ∧ c.poisoned = false) ∨
      ∃ c', closeContext c unregistered = (-2, c', false) ∧ Registered c' ∧ c'.poisoned = true ∧
        (c.poisoned = true → c' = c) := by
  have hguard : ¬ (c.magic ≠ kContextMagic ∨ c.engine = false ∨ c.registered = false) := by
    simp [h.magic, h.engine, h.registered]
  unfold closeContext
  rw [if_neg hguard]
  cases hp : c.poisoned with
  | true => exact .inr ⟨c, if_pos (.inl rfl), h, hp, fun _ => rfl⟩
  | false =>
    rw [if_neg (by simp [h.idle])]
    cases unregistered with
    | true => exact .inl ⟨_, rfl, rfl⟩
    | false =>
      exact .inr ⟨_, rfl, ⟨h.magic, h.engine, h.registered, h.idle, h.size, h.space⟩, rfl,
        fun heq => by cases heq⟩

/-! ### Sequences of calls -/

/-- The handle table holds registered contexts, and none under null. -/
def System.Ok (s : System) : Prop := ∀ h c, s.contexts h = some c → h ≠ 0 ∧ Registered c

theorem contexts_set (s : System) (handle h : UInt64) (c : Option StagingContext) :
    (s.set handle c).contexts h = if h = handle then c else s.contexts h := rfl

theorem System.Ok.set {s : System} (h : s.Ok) {handle : UInt64} {c : Option StagingContext}
    (hc : ∀ c', c = some c' → handle ≠ 0 ∧ Registered c') : (s.set handle c).Ok := by
  intro h' c' heq
  rw [contexts_set] at heq
  split at heq
  · next he =>
    subst he
    exact hc c' heq
  · exact h h' c' heq

theorem contexts_of_checked {s : System} {handle : UInt64} {c : StagingContext}
    (h : checkedContext s handle = some c) : s.contexts handle = some c := by
  unfold checkedContext at h
  split at h
  · cases h
  · exact h

theorem openHandle_ok {s : System} (hok : s.Ok) (args : OpenArgs) (env : OpenAnswers) :
    (openHandle s args env).2.Ok := by
  unfold openHandle
  split
  · exact hok
  · next c hc =>
    have hnext : System.Ok { s with nextHandleId := s.nextHandleId + 1 } := hok
    dsimp only
    split
    · exact hnext
    · next hfree =>
      rw [not_or] at hfree
      refine hnext.set fun c' hc' => ?_
      cases hc'
      exact ⟨hfree.1, openContext_registered hc⟩

theorem transferHandle_ok {s : System} (hok : s.Ok) {handle : UInt64} {args : TransferArgs}
    {engine : EngineAnswers} {turns : Nat} {x : Reply × System}
    (hcall : transferHandle s handle args engine turns = some x) : x.2.Ok := by
  unfold transferHandle at hcall
  split at hcall
  · cases hcall
    exact hok
  · next c hc =>
    obtain ⟨r, hrun, rfl⟩ := Option.map_eq_some_iff.mp hcall
    obtain ⟨hne, hregistered⟩ := hok handle c (contexts_of_checked hc)
    refine hok.set fun c' hc' => ?_
    cases hc'
    exact ⟨hne, (transferOne_spec hregistered hrun).1⟩

theorem closeHandle_ok {s : System} (hok : s.Ok) (handle : UInt64) (unregistered : Bool) :
    (closeHandle s handle unregistered).2.Ok := by
  unfold closeHandle
  split
  · exact hok
  · split
    · exact hok
    · next c hc =>
      obtain ⟨hne, hregistered⟩ := hok handle c (contexts_of_checked hc)
      obtain ⟨c', hclose, -⟩ | ⟨c', hclose, hregistered', -⟩ := closeContext_cases hregistered unregistered
      · rw [hclose]
        exact hok.set fun _ hnone => by cases hnone
      · rw [hclose]
        refine hok.set fun c'' hc'' => ?_
        cases hc''
        exact ⟨hne, hregistered'⟩

theorem call_ok {s : System} (hok : s.Ok) {op : Call} {x : Reply × System}
    (hcall : call s op = some x) : x.2.Ok := by
  cases op with
  | openHandle args env =>
    simp only [call, Option.some.injEq] at hcall
    rw [← hcall]
    exact openHandle_ok hok args env
  | close handle unregistered =>
    simp only [call, Option.some.injEq] at hcall
    rw [← hcall]
    exact closeHandle_ok hok handle unregistered
  | transfer | read | readAt => exact transferHandle_ok hok hcall

theorem after_ok {s : System} (hok : s.Ok) (calls : List Call) : (after s calls).Ok := by
  refine Machine.runFrom_invariant (fun s op s' hs hstep => ?_) calls hok
  obtain ⟨x, hx, rfl⟩ := Option.map_eq_some_iff.mp hstep
  exact call_ok hs hx

theorem init_ok : System.init.Ok := fun _ _ h => by cases h

/-! ### The ranges of a transfer -/

/-- The effective length fits both slabs at its offsets, as natural numbers. -/
def InSlabs (c : StagingContext) (args : TransferArgs) : Prop :=
  1 ≤ (effectiveLength c args).toNat ∧
    args.localOffset.toNat + (effectiveLength c args).toNat ≤ c.bytes.toNat ∧
    args.remoteOffset.toNat + (effectiveLength c args).toNat ≤ c.bytes.toNat

/-- One pair of comparisons, with a subtraction that the first one keeps from wrapping. -/
theorem fits_iff (offset length bytes : UInt64) :
    ¬ (offset > bytes ∨ length > bytes - offset) ↔ offset.toNat + length.toNat ≤ bytes.toNat := by
  by_cases hfar : bytes < offset
  · have hlt := UInt64.lt_iff_toNat_lt.mp hfar
    exact iff_of_false (fun h => h (.inl hfar)) (by omega)
  · have hroom := toNat_sub_of_not_lt hfar
    have hle := exact_sub_of_not_lt hfar
    rw [WordOp.Exact] at hle
    rw [not_or, gt_iff_lt, gt_iff_lt, UInt64.not_lt, UInt64.not_lt, UInt64.le_iff_toNat_le,
      UInt64.le_iff_toNat_le, hroom]
    omega

theorem rangeExceedsSlab_iff (c : StagingContext) (args : TransferArgs) :
    rangeExceedsSlab c args = false ↔ InSlabs c args := by
  have hzero : effectiveLength c args = 0 ↔ (effectiveLength c args).toNat = 0 := by
    rw [← UInt64.toNat_inj, UInt64.toNat_zero]
  have hlocal := fits_iff args.localOffset (effectiveLength c args) c.bytes
  have hremote := fits_iff args.remoteOffset (effectiveLength c args) c.bytes
  rw [InSlabs, ← hlocal, ← hremote, Nat.one_le_iff_ne_zero, ne_eq, ← hzero]
  simp only [rangeExceedsSlab, Bool.or_eq_false_iff, decide_eq_false_iff_not, not_or]
  tauto

/-- A submission in the log is that of the request, behind the checks. -/
theorem submitted_cases {c : StagingContext} {args : TransferArgs} {engine : EngineAnswers}
    {turns : Nat} {batch : UInt64} {request : TransferRequest}
    (h : .submitted batch request ∈ (transferBody c args engine turns).2.log) :
    ∃ buffer, transferChecks c args = .ok () ∧ targetBuffer c engine.segmentDesc = some buffer ∧
      AddressFits buffer args ∧ request = requestOf engine args buffer c := by
  obtain ⟨message, outputs, hbody⟩ | ⟨outputs, buffer, batch', hchecks, htarget, -, hbody⟩ :=
    transferBody_cases c args engine turns
  · rw [hbody] at h
    cases h
  · rw [hbody] at h
    by_cases hfits : AddressFits buffer args
    · obtain ⟨more, hlog, hmore⟩ := @submitBatch_follows engine args buffer hfits batch' turns
        ⟨c, outputs, [.allocated batch']⟩
      rw [hlog] at h
      simp only [List.cons_append, List.nil_append, List.mem_cons, reduceCtorEq, false_or,
        EngineEvent.submitted.injEq] at h
      rcases h with ⟨-, hrequest⟩ | hlater
      · exact ⟨buffer, hchecks, htarget, hfits, hrequest⟩
      · cases hmore _ hlater
    · rw [submitBatch_overflow hfits] at h
      simp at h

theorem targetBuffer_eq_some {c : StagingContext} {descriptor : Option SegmentDesc}
    {buffer : BufferDesc} (h : targetBuffer c descriptor = some buffer) :
    ∃ d, descriptor = some d ∧ d.buffers = [buffer] ∧ buffer.length = c.bytes := by
  unfold targetBuffer at h
  split at h
  · next protocol devices b =>
    split at h
    · next hall =>
      cases h
      exact ⟨_, rfl, rfl, hall.2.2.2.1⟩
    · cases h
  · cases h

theorem toNat_source {c : StagingContext} {args : TransferArgs} (h : Registered c)
    (hin : InSlabs c args) :
    (c.buffer + args.localOffset).toNat = c.buffer.toNat + args.localOffset.toNat := by
  obtain ⟨hpos, hlocal, -⟩ := hin
  have hspace := h.space
  exact toNat_add_of_lt (by omega)

/-! ### What the refusals say -/

/-- The messages of the two range checks. -/
def RangeMessage (message : String) : Prop :=
  message = "transfer range exceeds the registered staging slab" ∨
    message = "remote staging offset overflows the address space"

/-- No refusal by a range check. -/
def Unrefused {α : Type} (result : Except String α) : Prop :=
  ∀ message, result = .error message → ¬ RangeMessage message

theorem unrefused_ok {α : Type} (a : α) : Unrefused (.ok a : Except String α) :=
  fun _ h => by cases h

theorem unrefused_error {α : Type} {message : String} (h : ¬ RangeMessage message) :
    Unrefused (.error message : Except String α) := by
  intro m heq
  cases heq
  exact h

theorem not_rangeMessage_append {start : String} {c : Char} {cs : List Char} (h : start.toList = c :: cs)
    (ht : c ≠ 't') (hr : c ≠ 'r') (text : String) : ¬ RangeMessage (start ++ text) := by
  have hchars : (start ++ text).toList = c :: (cs ++ text.toList) := by
    rw [String.toList_append, h, List.cons_append]
  rintro (heq | heq)
  · rw [heq] at hchars
    exact ht (List.cons.inj hchars).1.symm
  · rw [heq] at hchars
    exact hr (List.cons.inj hchars).1.symm

theorem pollTurn_unrefused {engine : EngineAnswers} {args : TransferArgs} {batch transferBytes : UInt64}
    {turn : Nat} {t u : Transfer} {result : Except String TransferStatus}
    (h : pollTurn engine args batch transferBytes turn t = (.inl result, u)) : Unrefused result := by
  have hrdma : ∀ text, ¬ RangeMessage ("RDMA " ++ args.operationName ++ text) := by
    intro text
    rw [String.append_assoc]
    exact not_rangeMessage_append rfl (by decide) (by decide) _
  unfold pollTurn at h
  cases hquery : engine.queries turn with
  | error text =>
    rw [hquery] at h
    cases h
    exact unrefused_error (not_rangeMessage_append rfl (by decide) (by decide) text)
  | ok status =>
    rw [hquery] at h
    dsimp only at h
    split_ifs at h
    · cases h
      exact unrefused_ok status
    · cases h
      exact unrefused_error (hrdma _)
    · cases h
      exact unrefused_error (hrdma _)
    · cases h
      exact unrefused_error (hrdma _)
    · cases h

theorem completeTransfer_unrefused {engine : EngineAnswers} {args : TransferArgs}
    {batch transferBytes : UInt64} {turns : Nat} {t u : Transfer} {result : Except String Unit}
    (h : completeTransfer engine args batch transferBytes turns t = (some result, u)) :
    Unrefused result := by
  unfold completeTransfer at h
  split at h
  · cases h
  · next message v hend =>
    cases h
    have hloop : Unrefused (.error message : Except String TransferStatus) :=
      Machine.loop_result (I := fun _ _ => True) (Q := fun r _ => Unrefused r)
        (fun _ _ _ _ _ _ => trivial) (fun _ _ _ _ _ hturn => pollTurn_unrefused hturn) trivial hend
    exact unrefused_error (hloop message rfl)
  · dsimp only at h
    split at h
    · cases h
      exact unrefused_error (not_rangeMessage_append rfl (by decide) (by decide) _)
    · split at h
      · cases h
        exact unrefused_error (by simp [RangeMessage])
      · cases h
        exact unrefused_ok ()

theorem transferBody_unrefused {c : StagingContext} {args : TransferArgs} {engine : EngineAnswers}
    {turns : Nat} (hin : InSlabs c args) (hfits : TargetAddressFits c args engine)
    {result : Except String Unit} (h : (transferBody c args engine turns).1 = some result) :
    Unrefused result := by
  have hrange := (rangeExceedsSlab_iff c args).mpr hin
  unfold transferBody at h
  cases hchecks : transferChecks c args with
  | error message =>
    rw [hchecks] at h
    cases h
    refine unrefused_error ?_
    unfold transferChecks at hchecks
    simp only [hrange, Bool.false_eq_true, if_false] at hchecks
    split_ifs at hchecks <;> (cases hchecks; simp [RangeMessage])
  | ok value =>
    rw [hchecks] at h
    dsimp only at h
    cases htarget : targetBuffer c engine.segmentDesc with
    | none =>
      rw [htarget] at h
      cases h
      exact unrefused_error (by simp [RangeMessage])
    | some buffer =>
      rw [htarget] at h
      dsimp only at h
      cases hbatch : engine.allocateBatch with
      | none =>
        rw [hbatch] at h
        cases h
        exact unrefused_error (by simp [RangeMessage])
      | some batch =>
        rw [hbatch] at h
        dsimp only at h
        rw [submitBatch_fits (hfits buffer htarget)] at h
        cases hsubmit : engine.submit with
        | error text =>
          rw [hsubmit] at h
          cases h
          exact unrefused_error (not_rangeMessage_append rfl (by decide) (by decide) text)
        | ok value =>
          rw [hsubmit] at h
          exact completeTransfer_unrefused (Prod.ext h rfl)

/-- Transfer ranges: what is submitted lies inside both slabs, at addresses that do not wrap,
and what lies inside is not refused for its range. -/
theorem transfer_ranges :
    (∀ calls h c, (after .init calls).contexts h = some c →
      ∀ args engine turns batch request,
        .submitted batch request ∈ (transferBody c args engine turns).2.log →
        InSlabs c args ∧ request.length = effectiveLength c args ∧
        ∃ descriptor buffer, engine.segmentDesc = some descriptor ∧ descriptor.buffers = [buffer] ∧
          buffer.length = c.bytes ∧
          request.source.toNat = c.buffer.toNat + args.localOffset.toNat ∧
          request.targetOffset.toNat = buffer.addr.toNat + args.remoteOffset.toNat) ∧
    ∀ c args engine turns, InSlabs c args → TargetAddressFits c args engine →
      ∀ result, (transferBody c args engine turns).1 = some result → Unrefused result := by
  constructor
  · intro calls h c hc args engine turns batch request hmem
    obtain ⟨buffer, hchecks, htarget, hfits, rfl⟩ := submitted_cases hmem
    have hin := (rangeExceedsSlab_iff c args).mp (transferChecks_ok hchecks).2.2
    obtain ⟨descriptor, hdescriptor, hbuffers, hlength⟩ := targetBuffer_eq_some htarget
    have hregistered := (after_ok init_ok calls h c hc).2
    exact ⟨hin, rfl, descriptor, buffer, hdescriptor, hbuffers, hlength, toNat_source hregistered hin,
      toNat_add_of_lt hfits⟩
  · intro c args engine turns hin hfits result
    exact transferBody_unrefused hin hfits

end ServerlessX.Gdr.Staging
