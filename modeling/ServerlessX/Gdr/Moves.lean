import ServerlessX.Gdr.Handshake

/-! What a step of either end can do, with what it sends and receives. All facts about runs
of the exchange go through these cases. -/
namespace ServerlessX.Gdr
open ServerlessX.Py

/-! ### Streams -/

namespace Stream

theorem received_prefix (s : Stream) : s.received <+: s.sent := List.take_prefix _ _

theorem received_send {s : Stream} (h : s.read ≤ s.sent.length) (b : Bytes) :
    (s.send b).received = s.received := by
  rw [received, received, send, List.take_append_of_le_length h]

theorem received_advance (s : Stream) (count : Nat) :
    ({ s with read := s.read + count } : Stream).received = s.received ++ slice s.sent s.read count := by
  rw [received, received, slice, List.take_add]

/-- Something may have been sent. -/
def Fed (s s' : Stream) : Prop := ∃ b, s' = s.send b

/-- Some of what is in flight may have been received. -/
def Drained (s s' : Stream) : Prop :=
  ∃ count, s.read + count ≤ s.sent.length ∧ s' = { s with read := s.read + count }

theorem Fed.refl (s : Stream) : s.Fed s := ⟨[], by simp [send]⟩

theorem Drained.refl {s : Stream} (h : s.read ≤ s.sent.length) : s.Drained s := ⟨0, h, rfl⟩

end Stream

theorem idleTurn_cases {stoppable : Bool} {buffer : Bytes} {event : IoEvent} {t : Turn}
    (h : idleTurn stoppable buffer event = some t) :
    t = .again buffer ∨ ∃ ending, t = .left ending := by
  unfold idleTurn at h
  split at h
  · cases h
  · exact .inr ⟨_, (Option.some.inj h).symm⟩
  · exact .inl (Option.some.inj h).symm
  · exact .inl (Option.some.inj h).symm
  · split at h
    · exact .inr ⟨_, (Option.some.inj h).symm⟩
    · cases h
  · exact .inr ⟨_, (Option.some.inj h).symm⟩
  · exact .inr ⟨_, (Option.some.inj h).symm⟩
  · exact .inr ⟨_, (Option.some.inj h).symm⟩

/-- A turn of `write_all` sends a part from the front, or it ends the function. -/
theorem writeTurn_cases {stoppable : Bool} {rest : Bytes} {out out' : Stream} {event : IoEvent}
    {t : Turn} (h : writeTurn stoppable rest out event = some (t, out')) :
    out.Fed out' ∧
      ((∃ rest', t = .again rest' ∧ out'.sent ++ rest' = out.sent ++ rest) ∨
        ∃ ending, t = .left ending ∧ out' = out) := by
  unfold writeTurn at h
  split at h
  · cases h
  · split at h
    · split at h
      · next count _ =>
        cases h
        refine ⟨⟨_, rfl⟩, .inl ⟨rest.drop count, rfl, ?_⟩⟩
        rw [Stream.send, List.append_assoc, List.take_append_drop]
      · cases h
    · obtain ⟨t', ht, heq⟩ := Option.map_eq_some_iff.mp h
      cases heq
      refine ⟨.refl out, ?_⟩
      obtain rfl | ⟨ending, rfl⟩ := idleTurn_cases ht
      · exact .inl ⟨rest, rfl, rfl⟩
      · exact .inr ⟨ending, rfl, rfl⟩

/-- A turn of `read_all` appends the next bytes in flight, or it ends the function. -/
theorem readTurn_again {stoppable : Bool} {size : Nat} {raw : Bytes} {inp inp' : Stream}
    {event : IoEvent} {t : Turn} (hread : inp.read ≤ inp.sent.length)
    (h : readTurn stoppable size raw inp event = some (t, inp')) :
    inp.Drained inp' ∧
      ((∃ more, t = .again (raw ++ more) ∧ inp'.received = inp.received ++ more) ∨
        ∃ ending, t = .left ending ∧ inp' = inp) := by
  unfold readTurn at h
  split at h
  · cases h
  · split at h
    · split at h
      · next count hcount =>
        cases h
        exact ⟨⟨count, hcount.2.2, rfl⟩, .inl ⟨_, rfl, Stream.received_advance inp count⟩⟩
      · cases h
    · obtain ⟨t', ht, heq⟩ := Option.map_eq_some_iff.mp h
      cases heq
      refine ⟨Stream.Drained.refl hread, ?_⟩
      obtain rfl | ⟨ending, rfl⟩ := idleTurn_cases ht
      · exact .inl ⟨[], by simp, by simp⟩
      · exact .inr ⟨ending, rfl, rfl⟩

theorem Stream.Drained.frame {s s' : Stream} (h : s.Drained s') :
    s'.sent = s.sent ∧ s'.read ≤ s'.sent.length := by
  obtain ⟨count, hcount, rfl⟩ := h
  exact ⟨rfl, hcount⟩

theorem Stream.Fed.frame {s s' : Stream} (hread : s.read ≤ s.sent.length) (h : s.Fed s') :
    s'.received = s.received ∧ s'.read ≤ s'.sent.length := by
  obtain ⟨b, rfl⟩ := h
  refine ⟨Stream.received_send hread b, ?_⟩
  simp only [Stream.send, List.length_append]
  omega

/-! ### The source -/

/-- A step of `serve_native_source`. -/
inductive SourceMove (context : NativeContext) (s : Source) (inp out : Stream) :
    Source → Stream → Stream → Prop where
  | ended (ending : Ending) :
      SourceMove context s inp out { s with pc := .ended ending } inp out
  | accepted (hpc : s.pc = .accepting) :
      SourceMove context s inp out
        { s with pc := .writing (encodeNativeWire context).image } inp out
  | sent {rest rest' : Bytes} {out' : Stream} (hpc : s.pc = .writing rest) (hfed : out.Fed out')
      (hsplit : out'.sent ++ rest' = out.sent ++ rest) :
      SourceMove context s inp out { s with pc := .writing rest' } inp out'
  | written (hpc : s.pc = .writing []) :
      SourceMove context s inp out { s with pc := .reading [] } inp out
  | received {raw more : Bytes} {inp' : Stream} (hpc : s.pc = .reading raw) (hdrain : inp.Drained inp')
      (hrec : inp'.received = inp.received ++ more) :
      SourceMove context s inp out { s with pc := .reading (raw ++ more) } inp' out
  | decoded {raw : Bytes} {peer : NativePeer} (hpc : s.pc = .reading raw) (hlen : raw.length = wireSize)
      (hdec : decodeNativeWire (.ofImage raw hlen) .target context.bytes = .ok peer) :
      SourceMove context s inp out { s with pc := .modifying .init peer, peer := some peer } inp out
  | modified {state : QpState} {peer : NativePeer} (hpc : s.pc = .modifying state peer) :
      SourceMove context s inp out
        { s with
          qp := s.qp.modify state peer context.psn
          pc := state.next (.modifying · peer) (.readingDone []) } inp out
  | receivedDone {raw more : Bytes} {inp' : Stream} (hpc : s.pc = .readingDone raw)
      (hdrain : inp.Drained inp') (hrec : inp'.received = inp.received ++ more) :
      SourceMove context s inp out { s with pc := .readingDone (raw ++ more) } inp' out
  | served {raw : Bytes} (hpc : s.pc = .readingDone raw) (hlen : raw.length = 4) :
      SourceMove context s inp out
        { s with oneTargetServed := true, pc := .ended .returned } inp out

theorem sourceStep_move {context : NativeContext} {s s' : Source} {inp inp' out out' : Stream}
    {event : Event} (hread : inp.read ≤ inp.sent.length)
    (hstep : sourceStep context s inp out event = some (s', inp', out')) :
    SourceMove context s inp out s' inp' out' := by
  unfold sourceStep at hstep
  split at hstep
  · cases hstep
  · cases hstep
    exact .ended .raised
  · cases hstep
    exact .ended .returned
  · next hpc =>
    cases hstep
    exact .accepted hpc
  · next rest event hpc =>
    obtain ⟨⟨turn, o⟩, hturn, hs⟩ := Option.map_eq_some_iff.mp hstep
    cases hs
    obtain ⟨hfed, ⟨rest', rfl, hsplit⟩ | ⟨ending, rfl, rfl⟩⟩ := writeTurn_cases hturn
    · exact .sent hpc hfed hsplit
    · exact .ended ending
  · next rest hpc =>
    split at hstep
    · next hrest =>
      cases hstep
      exact .written (by rw [hpc, hrest])
    · cases hstep
  · next raw event hpc =>
    obtain ⟨⟨turn, i⟩, hturn, hs⟩ := Option.map_eq_some_iff.mp hstep
    cases hs
    obtain ⟨hdrain, ⟨more, rfl, hrec⟩ | ⟨ending, rfl, rfl⟩⟩ := readTurn_again hread hturn
    · exact .received hpc hdrain hrec
    · exact .ended ending
  · next raw hpc =>
    split at hstep
    · next hlen =>
      split at hstep
      · next peer hdec =>
        cases hstep
        exact .decoded hpc hlen hdec
      · cases hstep
        exact .ended .raised
    · cases hstep
  · next state peer hpc =>
    cases hstep
    exact .modified hpc
  · next raw event hpc =>
    obtain ⟨⟨turn, i⟩, hturn, hs⟩ := Option.map_eq_some_iff.mp hstep
    cases hs
    obtain ⟨hdrain, ⟨more, rfl, hrec⟩ | ⟨ending, rfl, rfl⟩⟩ := readTurn_again hread hturn
    · exact .receivedDone hpc hdrain hrec
    · exact .ended ending
  · next raw hpc =>
    split at hstep
    · next hlen =>
      split at hstep
      · cases hstep
        exact .served hpc hlen
      · cases hstep
        exact .ended .raised
    · cases hstep
  · cases hstep

theorem SourceMove.streams {context : NativeContext} {s s' : Source} {inp inp' out out' : Stream}
    (hread : inp.read ≤ inp.sent.length) (h : SourceMove context s inp out s' inp' out') :
    inp.Drained inp' ∧ out.Fed out' := by
  cases h with
  | sent hpc hfed hsplit => exact ⟨.refl hread, hfed⟩
  | received hpc hdrain hrec => exact ⟨hdrain, .refl out⟩
  | receivedDone hpc hdrain hrec => exact ⟨hdrain, .refl out⟩
  | _ => exact ⟨.refl hread, .refl out⟩

/-! ### The target -/

/-- The loops and checks that an exception leaves with no READ under way. -/
def TargetPc.idle : TargetPc → Bool
  | .writing _ => true
  | .reading _ => true
  | .writingDone _ => true
  | _ => false

/-- A step of `direct_read` on an event. -/
inductive TargetMove (context : NativeContext) (t : Target) (inp out : Stream) :
    Event → Target → Stream → Stream → Prop where
  | raised (hlive : ∀ ending, t.pc ≠ .ended ending) :
      TargetMove context t inp out .raise { t with pc := .ended .raised } inp out
  | left {event : Event} (ending : Ending) (hidle : t.pc.idle = true) :
      TargetMove context t inp out event { t with pc := .ended ending } inp out
  | connected {event : Event} (hpc : t.pc = .connecting) :
      TargetMove context t inp out event
        { t with pc := .writing (encodeNativeWire context).image } inp out
  | sent {event : Event} {rest rest' : Bytes} {out' : Stream} (hpc : t.pc = .writing rest)
      (hfed : out.Fed out') (hsplit : out'.sent ++ rest' = out.sent ++ rest) :
      TargetMove context t inp out event { t with pc := .writing rest' } inp out'
  | written {event : Event} (hpc : t.pc = .writing []) :
      TargetMove context t inp out event { t with pc := .reading [] } inp out
  | received {event : Event} {raw more : Bytes} {inp' : Stream} (hpc : t.pc = .reading raw)
      (hdrain : inp.Drained inp') (hrec : inp'.received = inp.received ++ more) :
      TargetMove context t inp out event { t with pc := .reading (raw ++ more) } inp' out
  | decoded {event : Event} {raw : Bytes} {peer : NativePeer} (hpc : t.pc = .reading raw)
      (hlen : raw.length = wireSize)
      (hdec : decodeNativeWire (.ofImage raw hlen) .source context.bytes = .ok peer) :
      TargetMove context t inp out event
        { t with pc := .modifying .init peer, peer := some peer } inp out
  | modified {event : Event} {state : QpState} {peer : NativePeer} (hpc : t.pc = .modifying state peer) :
      TargetMove context t inp out event
        { t with
          qp := t.qp.modify state peer context.psn
          pc := state.next (.modifying · peer) .posting } inp out
  | posted {event : Event} (hpc : t.pc = .posting) :
      TargetMove context t inp out event
        { t with pc := .polling, posted := t.posted + 1, transferActive := true } inp out
  | poisoned {event : Event} (hpc : t.pc = .polling) :
      TargetMove context t inp out event { t with pc := .ended .raised, poisoned := true } inp out
  | pending {event : Event} : TargetMove context t inp out event t inp out
  | retired {event : Event} {completion : Completion} (hpc : t.pc = .polling) :
      TargetMove context t inp out event
        { t with transferActive := false, completion := some completion, pc := .ended .raised } inp out
  | completed {event : Event} {completion : Completion} (hpc : t.pc = .polling)
      (hok : completion.status = IBV_WC_SUCCESS ∧ completion.opcode = IBV_WC_RDMA_READ) :
      TargetMove context t inp out event
        { t with transferActive := false, completion := some completion, pc := .flushing } inp out
  | flushed {event : Event} (hpc : t.pc = .flushing) :
      TargetMove context t inp out event { t with pc := .synchronizing, flushed := true } inp out
  | synchronized {event : Event} (hpc : t.pc = .synchronizing) :
      TargetMove context t inp out event
        { t with pc := .writingDone doneImage, synchronized := true } inp out
  | sentDone {event : Event} {rest rest' : Bytes} {out' : Stream} (hpc : t.pc = .writingDone rest)
      (hfed : out.Fed out') (hsplit : out'.sent ++ rest' = out.sent ++ rest) :
      TargetMove context t inp out event { t with pc := .writingDone rest' } inp out'

theorem targetStep_move {context : NativeContext} {t t' : Target} {inp inp' out out' : Stream}
    {event : Event} (hread : inp.read ≤ inp.sent.length)
    (hstep : targetStep context t inp out event = some (t', inp', out')) :
    TargetMove context t inp out event t' inp' out' := by
  unfold targetStep at hstep
  split at hstep
  · cases hstep
  · next hlive =>
    cases hstep
    exact .raised hlive
  · next hpc =>
    cases hstep
    exact .connected hpc
  · next rest event hpc =>
    obtain ⟨⟨turn, o⟩, hturn, hs⟩ := Option.map_eq_some_iff.mp hstep
    cases hs
    obtain ⟨hfed, ⟨rest', rfl, hsplit⟩ | ⟨ending, rfl, rfl⟩⟩ := writeTurn_cases hturn
    · exact .sent hpc hfed hsplit
    · exact .left ending (by rw [hpc]; rfl)
  · next rest hpc =>
    split at hstep
    · next hrest =>
      cases hstep
      exact .written (by rw [hpc, hrest])
    · cases hstep
  · next raw event hpc =>
    obtain ⟨⟨turn, i⟩, hturn, hs⟩ := Option.map_eq_some_iff.mp hstep
    cases hs
    obtain ⟨hdrain, ⟨more, rfl, hrec⟩ | ⟨ending, rfl, rfl⟩⟩ := readTurn_again hread hturn
    · exact .received hpc hdrain hrec
    · exact .left ending (by rw [hpc]; rfl)
  · next raw hpc =>
    split at hstep
    · next hlen =>
      split at hstep
      · next peer hdec =>
        cases hstep
        exact .decoded hpc hlen hdec
      · cases hstep
        exact .left .raised (by rw [hpc]; rfl)
    · cases hstep
  · next state peer hpc =>
    cases hstep
    exact .modified hpc
  · next hpc =>
    cases hstep
    exact .posted hpc
  · next hpc =>
    cases hstep
    exact .poisoned hpc
  · cases hstep
    exact .pending
  · next hpc =>
    cases hstep
    exact .poisoned hpc
  · next completion hpc =>
    dsimp only at hstep
    split at hstep
    · cases hstep
      exact .retired hpc
    · next hok =>
      cases hstep
      simp only [not_or, ne_eq, not_not] at hok
      exact .completed hpc hok
  · next hpc =>
    cases hstep
    exact .flushed hpc
  · next hpc =>
    cases hstep
    exact .synchronized hpc
  · next rest event hpc =>
    obtain ⟨⟨turn, o⟩, hturn, hs⟩ := Option.map_eq_some_iff.mp hstep
    cases hs
    obtain ⟨hfed, ⟨rest', rfl, hsplit⟩ | ⟨ending, rfl, rfl⟩⟩ := writeTurn_cases hturn
    · exact .sentDone hpc hfed hsplit
    · exact .left ending (by rw [hpc]; rfl)
  · next rest hpc =>
    split at hstep
    · cases hstep
      exact .left .returned (by rw [hpc]; rfl)
    · cases hstep
  · cases hstep

theorem TargetMove.streams {context : NativeContext} {t t' : Target} {inp inp' out out' : Stream}
    {event : Event} (hread : inp.read ≤ inp.sent.length)
    (h : TargetMove context t inp out event t' inp' out') : inp.Drained inp' ∧ out.Fed out' := by
  cases h with
  | sent hpc hfed hsplit => exact ⟨.refl hread, hfed⟩
  | sentDone hpc hfed hsplit => exact ⟨.refl hread, hfed⟩
  | received hpc hdrain hrec => exact ⟨hdrain, .refl out⟩
  | _ => exact ⟨.refl hread, .refl out⟩

end ServerlessX.Gdr
