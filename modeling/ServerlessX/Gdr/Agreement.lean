import ServerlessX.Gdr.Moves

/-! What both ends of the exchange know of each other, in every run: what each has sent
and received so far fixes where the other one stands. -/
namespace ServerlessX.Gdr
open ServerlessX.Py ServerlessX.Rfork

theorem eq_of_prefixes {a b l : Bytes} (ha : a <+: l) (hb : b <+: l) (h : a.length = b.length) :
    a = b := (List.prefix_of_prefix_length_le ha hb h.le).eq_of_length h

/-! ### Queue pairs -/

namespace Qp

/-- Moved to RTS on the way to that peer. -/
structure Ready (qp : Qp) (peer : NativePeer) : Prop where
  state : qp.state = .rts
  path : qp.path = some peer.path

/-- Before the call that moves it to `state`. -/
def Before (qp : Qp) (state : QpState) (peer : NativePeer) : Prop :=
  match state with
  | .reset => False
  | .init => True
  | .rtr => qp.state = .init
  | .rts => qp.state = .rtr ∧ qp.path = some peer.path

/-- The calls of `transition_native_qp` one after the other. -/
theorem Before.next {qp : Qp} {state : QpState} {peer : NativePeer} (h : qp.Before state peer)
    (psn : UInt32) {π : Type} (modifying : QpState → π) (after : π) :
    (∃ state', state.next modifying after = modifying state' ∧
      (qp.modify state peer psn).Before state' peer) ∨
    state.next modifying after = after ∧ (qp.modify state peer psn).Ready peer := by
  cases state with
  | reset => exact h.elim
  | init => exact .inl ⟨.rtr, rfl, rfl⟩
  | rtr => exact .inl ⟨.rts, rfl, rfl, rfl⟩
  | rts => exact .inr ⟨rfl, rfl, h.2⟩

/-- The path is not set but by the call for RTR. -/
theorem path_modify {qp : Qp} {state : QpState} {peer : NativePeer} {psn : UInt32} {path : Path}
    (h : (qp.modify state peer psn).path = some path) : qp.path = some path ∨ path = peer.path := by
  cases state with
  | reset => exact .inl h
  | init => exact .inl h
  | rtr => exact .inr (Option.some.inj h).symm
  | rts => exact .inl h

end Qp

/-! ### What each end knows -/

section Ends
variable (config : Config)

def Config.sourceImage : Bytes := (encodeNativeWire config.source).image
def Config.targetImage : Bytes := (encodeNativeWire config.target).image

/-- All that the target ever sends. -/
def Config.targetScript : Bytes := config.targetImage ++ doneImage

/-- The position of the source, by what it has sent and received. -/
def SourceAt (s : Source) (sent received : Bytes) : Prop :=
  match s.pc with
  | .accepting => sent = [] ∧ received = []
  | .writing rest => sent ++ rest = config.sourceImage ∧ received = []
  | .reading raw => sent = config.sourceImage ∧ received = raw
  | .modifying state peer => sent = config.sourceImage ∧ received = config.targetImage ∧
      s.peer = some peer ∧ s.qp.Before state peer
  | .readingDone raw => sent = config.sourceImage ∧ received = config.targetImage ++ raw ∧
      ∃ peer, s.peer = some peer ∧ s.qp.Ready peer
  | .ended _ => True

structure SourceInv (s : Source) (sent received : Bytes) : Prop where
  script : sent <+: config.sourceImage
  peer : ∀ peer, s.peer = some peer →
    peer = config.target.peer ∧ config.target.bytes = config.source.bytes
  path : ∀ path, s.qp.path = some path → path = config.target.peer.path
  served : s.oneTargetServed = true →
    wireSize < received.length ∧ ∃ peer, s.peer = some peer ∧ s.qp.Ready peer
  pc : SourceAt config s sent received

/-- The READ has succeeded. -/
def Succeeded (t : Target) : Prop :=
  ∃ c, t.completion = some c ∧ c.status = IBV_WC_SUCCESS ∧ c.opcode = IBV_WC_RDMA_READ

/-- The READ has succeeded and its data is in the buffer of the source's peer. -/
structure Completed (t : Target) : Prop where
  succeeded : Succeeded t
  flushed : t.flushed = true
  synchronized : t.synchronized = true
  peer : t.peer = some config.source.peer

/-- The position of the target. -/
def TargetAt (t : Target) (sent received : Bytes) : Prop :=
  match t.pc with
  | .connecting => sent = [] ∧ received = []
  | .writing rest => sent ++ rest = config.targetImage ∧ received = []
  | .reading raw => sent = config.targetImage ∧ received = raw
  | .modifying state peer => sent = config.targetImage ∧ received = config.sourceImage ∧
      t.peer = some peer ∧ t.qp.Before state peer
  | .posting => sent = config.targetImage ∧ received = config.sourceImage ∧
      ∃ peer, t.peer = some peer ∧ t.qp.Ready peer
  | .polling => sent = config.targetImage ∧ ∃ peer, t.peer = some peer
  | .flushing => sent = config.targetImage ∧ (∃ peer, t.peer = some peer) ∧ Succeeded t
  | .synchronizing => sent = config.targetImage ∧ (∃ peer, t.peer = some peer) ∧ Succeeded t ∧
      t.flushed = true
  | .writingDone rest => sent ++ rest = config.targetScript ∧ Completed config t
  | .ended _ => True

structure TargetInv (t : Target) (sent received : Bytes) : Prop where
  script : sent <+: config.targetScript
  peer : ∀ peer, t.peer = some peer →
    peer = config.source.peer ∧ config.source.bytes = config.target.bytes
  done : wireSize < sent.length → Completed config t
  pc : TargetAt config t sent received

end Ends

section Steps
variable {config : Config}

/-- A message received in full is the one sent. -/
theorem decoded_peer {context : NativeContext} {rest raw : Bytes}
    (hpre : raw <+: (encodeNativeWire context).image ++ rest) (h : raw.length = wireSize)
    {role : DmabufRole} {bytes : UInt64} {peer : NativePeer}
    (hdec : decodeNativeWire (.ofImage raw h) role bytes = .ok peer) :
    raw = (encodeNativeWire context).image ∧ peer = context.peer ∧ context.bytes = bytes := by
  obtain rfl : raw = (encodeNativeWire context).image :=
    eq_of_prefixes hpre (List.prefix_append _ _) (by rw [h, length_image])
  rw [ofImage_image] at hdec
  exact ⟨rfl, decode_encode hdec⟩

/-- A step of the source that ends it and sends and receives nothing. -/
theorem SourceInv.ended {s : Source} {sent received : Bytes} (h : SourceInv config s sent received)
    (ending : Ending) : SourceInv config { s with pc := .ended ending } sent received :=
  ⟨h.script, h.peer, h.path, h.served, trivial⟩

/-- Once the second message is awaited, nothing has been served. -/
theorem SourceInv.notServed {s : Source} {sent received : Bytes}
    (h : SourceInv config s sent received) (hlen : received.length ≤ wireSize) :
    s.oneTargetServed ≠ true := by
  intro hserved
  have hlong := (h.served hserved).1
  omega

theorem SourceMove.inv {s s' : Source} {inp inp' out out' : Stream}
    (hmove : SourceMove config.source s inp out s' inp' out')
    (h : SourceInv config s out.sent inp.received) (hscript : inp.sent <+: config.targetScript) :
    SourceInv config s' out'.sent inp'.received := by
  have hpc := h.pc
  unfold SourceAt at hpc
  cases hmove with
  | ended ending => exact h.ended ending
  | accepted heq =>
    simp only [heq] at hpc
    refine ⟨h.script, h.peer, h.path, h.served, ?_⟩
    simp only [SourceAt]
    refine ⟨?_, hpc.2⟩
    rw [hpc.1, List.nil_append, Config.sourceImage]
  | sent heq hfed hsplit =>
    simp only [heq] at hpc
    rw [hpc.1] at hsplit
    refine ⟨⟨_, hsplit⟩, h.peer, h.path, h.served, ?_⟩
    simp only [SourceAt]
    exact ⟨hsplit, hpc.2⟩
  | written heq =>
    simp only [heq, List.append_nil] at hpc
    refine ⟨h.script, h.peer, h.path, h.served, ?_⟩
    simp only [SourceAt]
    exact hpc
  | received heq hdrain hrec =>
    simp only [heq] at hpc
    refine ⟨h.script, h.peer, h.path, fun hserved => ?_, ?_⟩
    · obtain ⟨hlong, hready⟩ := h.served hserved
      refine ⟨?_, hready⟩
      rw [hrec, List.length_append]
      omega
    · simp only [SourceAt]
      exact ⟨hpc.1, by rw [hrec, hpc.2]⟩
  | @decoded raw peer heq hlen hdec =>
    simp only [heq] at hpc
    have hpre : raw <+: config.targetScript := by
      rw [← hpc.2]
      exact inp.received_prefix.trans hscript
    obtain ⟨himage, hpeer, hbytes⟩ := decoded_peer hpre hlen hdec
    have hnot := h.notServed (by rw [hpc.2, hlen])
    refine ⟨h.script, ?_, h.path, fun hserved => absurd hserved hnot, ?_⟩
    · intro peer' hpeer'
      cases hpeer'
      exact ⟨hpeer, hbytes⟩
    · simp only [SourceAt]
      exact ⟨hpc.1, hpc.2.trans himage, trivial, trivial⟩
  | @modified state peer heq =>
    simp only [heq] at hpc
    obtain ⟨hsent, hrec, hpeer, hbefore⟩ := hpc
    obtain ⟨rfl, -⟩ := h.peer peer hpeer
    have hnot := h.notServed (by rw [hrec, Config.targetImage, length_image])
    refine ⟨h.script, h.peer, ?_, fun hserved => absurd hserved hnot, ?_⟩
    · intro path hpath
      obtain hold | rfl := Qp.path_modify hpath
      · exact h.path path hold
      · rfl
    · obtain ⟨state', hnext, hb⟩ | ⟨hnext, hready⟩ :=
        hbefore.next config.source.psn (SourcePc.modifying · config.target.peer) (.readingDone [])
      · simp only [SourceAt, hnext]
        exact ⟨hsent, hrec, hpeer, hb⟩
      · simp only [SourceAt, hnext]
        exact ⟨hsent, by simpa using hrec, _, hpeer, hready⟩
  | receivedDone heq hdrain hrec =>
    simp only [heq] at hpc
    refine ⟨h.script, h.peer, h.path, fun hserved => ?_, ?_⟩
    · obtain ⟨hlong, hready⟩ := h.served hserved
      refine ⟨?_, hready⟩
      rw [hrec, List.length_append]
      omega
    · simp only [SourceAt]
      exact ⟨hpc.1, by rw [hrec, hpc.2.1, List.append_assoc], hpc.2.2⟩
  | served heq hlen =>
    simp only [heq] at hpc
    refine ⟨h.script, h.peer, h.path, fun _ => ⟨?_, hpc.2.2⟩, trivial⟩
    rw [hpc.2.1, List.length_append, hlen, Config.targetImage, length_image]
    omega

theorem TargetInv.ended {t : Target} {sent received : Bytes} (h : TargetInv config t sent received)
    (ending : Ending) : TargetInv config { t with pc := .ended ending } sent received :=
  ⟨h.script, h.peer, fun hlong => ⟨(h.done hlong).1, (h.done hlong).2, (h.done hlong).3, (h.done hlong).4⟩,
    trivial⟩

/-- As long as only the first message is out, nothing is promised. -/
theorem not_done {sent : Bytes} (h : sent = config.targetImage) {P : Prop} :
    wireSize < sent.length → P := by
  intro hlong
  rw [h, Config.targetImage, length_image] at hlong
  exact absurd hlong (lt_irrefl _)

theorem targetImage_script : config.targetImage <+: config.targetScript := List.prefix_append _ _

theorem TargetMove.inv {t t' : Target} {inp inp' out out' : Stream} {event : Event}
    (hmove : TargetMove config.target t inp out event t' inp' out')
    (h : TargetInv config t out.sent inp.received) (hscript : inp.sent <+: config.sourceImage) :
    TargetInv config t' out'.sent inp'.received := by
  have hpc := h.pc
  unfold TargetAt at hpc
  cases hmove with
  | raised hlive => exact h.ended .raised
  | left ending hidle => exact h.ended ending
  | connected heq =>
    simp only [heq] at hpc
    refine ⟨h.script, h.peer, fun hlong => ?_, ?_⟩
    · rw [hpc.1] at hlong
      exact absurd hlong (by simp [wireSize])
    · simp only [TargetAt]
      refine ⟨?_, hpc.2⟩
      rw [hpc.1, List.nil_append, Config.targetImage]
  | sent heq hfed hsplit =>
    simp only [heq] at hpc
    rw [hpc.1] at hsplit
    have hpre : out'.sent <+: config.targetImage := ⟨_, hsplit⟩
    refine ⟨hpre.trans targetImage_script, h.peer, fun hlong => ?_, ?_⟩
    · have hshort := hpre.length_le
      rw [Config.targetImage, length_image] at hshort
      exact absurd hlong (not_lt.mpr hshort)
    · simp only [TargetAt]
      exact ⟨hsplit, hpc.2⟩
  | written heq =>
    simp only [heq, List.append_nil] at hpc
    refine ⟨h.script, h.peer, not_done hpc.1, ?_⟩
    simp only [TargetAt]
    exact hpc
  | received heq hdrain hrec =>
    simp only [heq] at hpc
    refine ⟨h.script, h.peer, not_done hpc.1, ?_⟩
    simp only [TargetAt]
    exact ⟨hpc.1, by rw [hrec, hpc.2]⟩
  | @decoded _ raw peer heq hlen hdec =>
    simp only [heq] at hpc
    have hpre : raw <+: (encodeNativeWire config.source).image ++ [] := by
      rw [← hpc.2, List.append_nil]
      exact inp.received_prefix.trans hscript
    obtain ⟨himage, hpeer, hbytes⟩ := decoded_peer hpre hlen hdec
    refine ⟨h.script, ?_, not_done hpc.1, ?_⟩
    · intro peer' hpeer'
      cases hpeer'
      exact ⟨hpeer, hbytes⟩
    · simp only [TargetAt]
      exact ⟨hpc.1, hpc.2.trans himage, trivial, trivial⟩
  | @modified _ state peer heq =>
    simp only [heq] at hpc
    obtain ⟨hsent, hrec, hpeer, hbefore⟩ := hpc
    refine ⟨h.script, h.peer, not_done hsent, ?_⟩
    obtain ⟨state', hnext, hb⟩ | ⟨hnext, hready⟩ :=
      hbefore.next config.target.psn (TargetPc.modifying · peer) .posting
    · simp only [TargetAt, hnext]
      exact ⟨hsent, hrec, hpeer, hb⟩
    · simp only [TargetAt, hnext]
      exact ⟨hsent, hrec, peer, hpeer, hready⟩
  | posted heq =>
    simp only [heq] at hpc
    obtain ⟨hsent, -, peer, hpeer, -⟩ := hpc
    refine ⟨h.script, h.peer, not_done hsent, ?_⟩
    simp only [TargetAt]
    exact ⟨hsent, peer, hpeer⟩
  | poisoned heq =>
    simp only [heq] at hpc
    exact ⟨h.script, h.peer, not_done hpc.1, trivial⟩
  | pending => exact h
  | retired heq =>
    simp only [heq] at hpc
    exact ⟨h.script, h.peer, not_done hpc.1, trivial⟩
  | @completed _ completion heq hok =>
    simp only [heq] at hpc
    refine ⟨h.script, h.peer, not_done hpc.1, ?_⟩
    simp only [TargetAt]
    exact ⟨hpc.1, hpc.2, completion, rfl, hok⟩
  | flushed heq =>
    simp only [heq] at hpc
    refine ⟨h.script, h.peer, not_done hpc.1, ?_⟩
    simp only [TargetAt]
    exact ⟨hpc.1, hpc.2.1, hpc.2.2, trivial⟩
  | synchronized heq =>
    simp only [heq] at hpc
    obtain ⟨hsent, ⟨peer, hpeer⟩, hok, hflushed⟩ := hpc
    obtain ⟨rfl, -⟩ := h.peer peer hpeer
    refine ⟨h.script, h.peer, not_done hsent, ?_⟩
    simp only [TargetAt]
    exact ⟨by rw [hsent, Config.targetScript], hok, hflushed, rfl, hpeer⟩
  | @sentDone _ rest rest' _ heq hfed hsplit =>
    simp only [heq] at hpc
    obtain ⟨hsent, hcomp⟩ := hpc
    rw [hsent] at hsplit
    have hcomp' : Completed config { t with pc := .writingDone rest' } :=
      ⟨hcomp.1, hcomp.2, hcomp.3, hcomp.4⟩
    refine ⟨⟨_, hsplit⟩, h.peer, fun _ => hcomp', ?_⟩
    simp only [TargetAt]
    exact ⟨hsplit, hcomp'⟩

end Steps

/-! ### Whole runs -/

section Runs
variable (config : Config)

/-- Both ends with the streams between them. -/
structure Inv (s : State) : Prop where
  source : SourceInv config s.source s.toTarget.sent s.toSource.received
  target : TargetInv config s.target s.toSource.sent s.toTarget.received
  toTarget : s.toTarget.read ≤ s.toTarget.sent.length
  toSource : s.toSource.read ≤ s.toSource.sent.length

variable {config}

theorem inv_init : Inv config .init := by
  refine ⟨⟨List.nil_prefix, ?_, ?_, ?_, rfl, rfl⟩, ⟨List.nil_prefix, ?_, ?_, rfl, rfl⟩, le_refl 0, le_refl 0⟩
  · intro peer h
    cases h
  · intro path h
    cases h
  · intro h
    cases h
  · intro peer h
    cases h
  · intro h
    cases h

theorem step_inv {s s' : State} {a : Action} (h : Inv config s) (hstep : step config s a = some s') :
    Inv config s' := by
  cases a with
  | source event =>
    obtain ⟨⟨source, inp, out⟩, hs, rfl⟩ := Option.map_eq_some_iff.mp hstep
    have hmove := sourceStep_move h.toSource hs
    have hinv := hmove.inv h.source h.target.script
    obtain ⟨hdrain, hfed⟩ := hmove.streams h.toSource
    obtain ⟨hsent, hread⟩ := hdrain.frame
    obtain ⟨hrec, hread'⟩ := hfed.frame h.toTarget
    refine ⟨hinv, ?_, hread', hread⟩
    simp only [hsent, hrec]
    exact h.target
  | target event =>
    obtain ⟨⟨target, inp, out⟩, ht, rfl⟩ := Option.map_eq_some_iff.mp hstep
    have hmove := targetStep_move h.toTarget ht
    have hinv := hmove.inv h.target h.source.script
    obtain ⟨hdrain, hfed⟩ := hmove.streams h.toTarget
    obtain ⟨hsent, hread⟩ := hdrain.frame
    obtain ⟨hrec, hread'⟩ := hfed.frame h.toSource
    refine ⟨?_, hinv, hread, hread'⟩
    simp only [hsent, hrec]
    exact h.source

theorem run_inv (config : Config) (actions : List Action) : Inv config (run config actions) :=
  Machine.runFrom_invariant (fun _ _ _ => step_inv) actions inv_init

/-- A source that was served has had the done word. -/
theorem Inv.completed {s : State} (h : Inv config s) (hserved : s.source.oneTargetServed = true) :
    Completed config s.target := by
  apply h.target.done
  have hlong := (h.source.served hserved).1
  have hle := s.toSource.received_prefix.length_le
  omega

/-- Over every run of both ends, with whatever interleaving, fragments, failures and stops:
when the source has served its target, the READ succeeded, was flushed and synchronized, both
ends registered the same number of bytes, and each has decoded what the other encoded. What
the target ever sends is its message and one done word, of which no byte leaves before the
READ succeeded and was flushed and synchronized. -/
theorem completion_agreement (config : Config) (actions : List Action) :
    ((run config actions).source.oneTargetServed = true →
      Succeeded (run config actions).target ∧
      (run config actions).target.flushed = true ∧
      (run config actions).target.synchronized = true ∧
      config.source.bytes = config.target.bytes ∧
      (run config actions).source.peer = some config.target.peer ∧
      (run config actions).target.peer = some config.source.peer) ∧
    (run config actions).toSource.sent <+: (encodeNativeWire config.target).image ++ doneImage ∧
    ((encodeNativeWire config.target).image.length < (run config actions).toSource.sent.length →
      Succeeded (run config actions).target ∧
      (run config actions).target.flushed = true ∧
      (run config actions).target.synchronized = true) := by
  have h := run_inv config actions
  refine ⟨fun hserved => ?_, h.target.script, fun hlong => ?_⟩
  · have hdone := h.completed hserved
    obtain ⟨-, peer, hpeer, -⟩ := h.source.served hserved
    obtain ⟨rfl, hbytes⟩ := h.source.peer peer hpeer
    exact ⟨hdone.succeeded, hdone.flushed, hdone.synchronized, hbytes.symm, hpeer, hdone.peer⟩
  · rw [length_image] at hlong
    have hdone := h.target.done hlong
    exact ⟨hdone.succeeded, hdone.flushed, hdone.synchronized⟩

theorem length_zeroGid : (List.replicate 16 (0 : UInt8)).length = 16 := rfl

def zeroGid : Gid := ⟨List.replicate 16 0, length_zeroGid⟩

def smallTransfer : Config :=
  ⟨⟨.source, 17, 100, 257, 4096, 64, zeroGid⟩, ⟨.target, 18, 200, 258, 8192, 64, zeroGid⟩⟩

example : (run smallTransfer
    [.source .go, .target .go, .target (.io (.moved 56)), .source (.io (.moved 30)),
      .source (.io (.moved 26)), .source .go, .source (.io (.moved 56)), .source .go, .source .go,
      .source .go, .source .go, .target .go, .target (.io (.moved 40)), .target (.io (.moved 16)),
      .target .go, .target .go, .target .go, .target .go, .target .go, .target (.poll .pending),
      .target (.poll (.one ⟨IBV_WC_SUCCESS, IBV_WC_RDMA_READ⟩)), .target .go, .target .go,
      .target (.io (.moved 4)), .source (.io (.moved 4)), .source .go]).source.oneTargetServed =
    true := by decide +kernel

/-- Where the target stands as it posts the READ: its own queue pair is ready for the source,
both messages are out in full, and the source's queue pair is not yet connected or is so to
the target; it is ready by the time the source has served. -/
theorem target_ready_at_post (config : Config) (actions : List Action) :
    ((run config actions).target.pc = .posting →
      (run config actions).target.qp.Ready config.source.peer ∧
      (run config actions).toTarget.received = (encodeNativeWire config.source).image ∧
      (run config actions).toTarget.sent = (encodeNativeWire config.source).image ∧
      (run config actions).toSource.sent = (encodeNativeWire config.target).image ∧
      ((run config actions).source.qp.path = none ∨
        (run config actions).source.qp.path = some config.target.peer.path)) ∧
    ((run config actions).source.oneTargetServed = true →
      (run config actions).source.qp.Ready config.target.peer) := by
  have h := run_inv config actions
  refine ⟨fun hpost => ?_, fun hserved => ?_⟩
  · have hpc := h.target.pc
    simp only [TargetAt, hpost] at hpc
    obtain ⟨hsent, hrec, peer, hpeer, hready⟩ := hpc
    obtain ⟨rfl, -⟩ := h.target.peer peer hpeer
    refine ⟨hready, hrec, ?_, hsent, ?_⟩
    · refine h.source.script.eq_of_length_le ?_
      have hle := (run config actions).toTarget.received_prefix.length_le
      rwa [hrec] at hle
    · cases hpath : (run config actions).source.qp.path with
      | none => exact .inl rfl
      | some path => exact .inr (by rw [h.source.path path hpath])
  · obtain ⟨-, peer, hpeer, hready⟩ := h.source.served hserved
    obtain ⟨rfl, -⟩ := h.source.peer peer hpeer
    exact hready

/-- Whether the source's queue pair is connected to the target by then. -/
def SourceReadyAtPost (config : Config) (actions : List Action) : Prop :=
  (run config actions).target.pc = .posting →
    ((run config actions).source.qp.state = .rtr ∨ (run config actions).source.qp.state = .rts) ∧
      (run config actions).source.qp.path = some config.target.peer.path

/-- The source has sent its message and does nothing more; the target goes on to the post. -/
def targetFirst : List Action :=
  [.source .go, .source (.io (.moved 56)), .target .go, .target (.io (.moved 56)), .target .go,
    .target (.io (.moved 56)), .target .go, .target .go, .target .go, .target .go]

theorem targetFirst_posts_early : ¬ SourceReadyAtPost smallTransfer targetFirst := by
  have hpost : (run smallTransfer targetFirst).target.pc = .posting := by decide +kernel
  have hfresh : (run smallTransfer targetFirst).source.qp = .fresh := by decide +kernel
  intro h
  have hpath := (h hpost).2
  rw [hfresh] at hpath
  cases hpath

end Runs

end ServerlessX.Gdr
