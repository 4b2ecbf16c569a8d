import ServerlessX.Gdr.Wire
import ServerlessX.Machine.Run

/-! The exchange between `serve_native_source` and `direct_read`: two processes over
two byte streams. A step is one system or library call of one of them, with any
result it may have; what is sent arrives in order, in pieces and with any delay. -/
namespace ServerlessX.Gdr
open ServerlessX.Py ServerlessX.Rfork

/-! ### Streams and the loops over them -/

/-- A FIFO of bytes: all that was sent, and how much of it was received. -/
structure Stream where
  sent : Bytes
  read : Nat
deriving DecidableEq

namespace Stream

def empty : Stream := ⟨[], 0⟩

def received (s : Stream) : Bytes := s.sent.take s.read

def send (s : Stream) (b : Bytes) : Stream := { s with sent := s.sent ++ b }

end Stream

/-- How `wait_socket` ends. -/
inductive Wait where
  | ready
  | stopped
  | timedOut
  | failed
deriving DecidableEq

/-- What a turn of `write_all` or `read_all` meets: a call that moves bytes or returns
zero, `EINTR`, `EAGAIN` with the wait behind it, or another error. -/
inductive IoEvent where
  | moved (count : Nat)
  | zero
  | interrupted
  | blocked (wait : Wait)
  | error
deriving DecidableEq

/-- How a function was left: by `return`, or by an exception that its handler caught. -/
inductive Ending where
  | returned
  | raised
deriving DecidableEq

/-- What a turn leads to. -/
inductive Turn where
  | again (buffer : Bytes)
  | left (ending : Ending)
deriving DecidableEq

/-- A turn that moves no bytes. `stop` is null on the target, where a wait is not stopped. -/
def idleTurn (stoppable : Bool) (buffer : Bytes) : IoEvent → Option Turn
  | .moved _ => none
  | .zero => some (.left .raised)
  | .interrupted => some (.again buffer)
  | .blocked .ready => some (.again buffer)
  | .blocked .stopped => if stoppable then some (.left .returned) else none
  | .blocked .timedOut => some (.left .raised)
  | .blocked .failed => some (.left .raised)
  | .error => some (.left .raised)

/-- A turn of `write_all` with `rest` still to be sent; `none` when the loop is over or the
call cannot end so. -/
def writeTurn (stoppable : Bool) (rest : Bytes) (out : Stream) (event : IoEvent) :
    Option (Turn × Stream) :=
  if rest = [] then none
  else match event with
    | .moved count =>
      if 0 < count ∧ count ≤ rest.length then
        some (.again (rest.drop count), out.send (rest.take count))
      else none
    | event => (idleTurn stoppable rest event).map fun t => (t, out)

/-- A turn of `read_all` for `size` bytes with `raw` already there. -/
def readTurn (stoppable : Bool) (size : Nat) (raw : Bytes) (inp : Stream) (event : IoEvent) :
    Option (Turn × Stream) :=
  if raw.length = size then none
  else match event with
    | .moved count =>
      if 0 < count ∧ raw.length + count ≤ size ∧ inp.read + count ≤ inp.sent.length then
        some (.again (raw ++ slice inp.sent inp.read count), { inp with read := inp.read + count })
      else none
    | event => (idleTurn stoppable raw event).map fun t => (t, inp)

/-! ### Queue pairs -/

inductive QpState where
  | reset
  | init
  | rtr
  | rts
deriving DecidableEq

/-- The attributes of RTR that come from the peer. -/
structure Path where
  destQpNum : UInt32
  rqPsn : UInt32
  dgid : Gid
deriving DecidableEq

def NativePeer.path (peer : NativePeer) : Path := ⟨peer.qpn, peer.psn, peer.gid⟩

structure Qp where
  state : QpState
  path : Option Path
  sqPsn : Option UInt32
deriving DecidableEq

/-- The queue pair as `ibv_create_qp` makes it. -/
def Qp.fresh : Qp := ⟨.reset, none, none⟩

/-- The three calls of `ibv_modify_qp` in `transition_native_qp`. -/
def Qp.modify (qp : Qp) (state : QpState) (peer : NativePeer) (psn : UInt32) : Qp :=
  match state with
  | .reset => qp
  | .init => { qp with state := .init }
  | .rtr => { qp with state := .rtr, path := some peer.path }
  | .rts => { qp with state := .rts, sqPsn := some psn }

/-! ### The processes -/

def IBV_WC_SUCCESS : Nat := 0
def IBV_WC_RDMA_READ : Nat := 2

structure Completion where
  status : Nat
  opcode : Nat
deriving DecidableEq

/-- What a turn of the loop around `ibv_poll_cq` finds. -/
inductive Poll where
  | failed
  | pending
  | timedOut
  | one (completion : Completion)
deriving DecidableEq

/-- What happens to a process: a turn of an I/O loop, a call that succeeds, the check behind
a loop, an exception, a stop while it accepts, or a poll. -/
inductive Event where
  | io (event : IoEvent)
  | go
  | raise
  | stop
  | poll (poll : Poll)
deriving DecidableEq

/-- Where `serve_native_source` stands. -/
inductive SourcePc where
  | accepting
  | writing (rest : Bytes)
  | reading (raw : Bytes)
  | modifying (state : QpState) (peer : NativePeer)
  | readingDone (raw : Bytes)
  | ended (ending : Ending)
deriving DecidableEq

structure Source where
  pc : SourcePc
  qp : Qp
  peer : Option NativePeer
  oneTargetServed : Bool
deriving DecidableEq

/-- Where `direct_read` stands, from the connection on. -/
inductive TargetPc where
  | connecting
  | writing (rest : Bytes)
  | reading (raw : Bytes)
  | modifying (state : QpState) (peer : NativePeer)
  | posting
  | polling
  | flushing
  | synchronizing
  | writingDone (rest : Bytes)
  | ended (ending : Ending)
deriving DecidableEq

/-- The target with what it has done so far. -/
structure Target where
  pc : TargetPc
  qp : Qp
  peer : Option NativePeer
  posted : Nat
  transferActive : Bool
  poisoned : Bool
  completion : Option Completion
  flushed : Bool
  synchronized : Bool
deriving DecidableEq

def Turn.next {π : Type} (t : Turn) (again : Bytes → π) (ended : Ending → π) : π :=
  match t with
  | .again buffer => again buffer
  | .left ending => ended ending

/-- The call behind one of `ibv_modify_qp`. -/
def QpState.next {π : Type} (state : QpState) (modifying : QpState → π) (after : π) : π :=
  match state with
  | .reset => modifying .init
  | .init => modifying .rtr
  | .rtr => modifying .rts
  | .rts => after

/-- A step of `serve_native_source`; `none` when the event cannot happen there. -/
def sourceStep (context : NativeContext) (s : Source) (inp out : Stream) (event : Event) :
    Option (Source × Stream × Stream) :=
  match s.pc, event with
  | .ended _, _ => none
  | _, .raise => some ({ s with pc := .ended .raised }, inp, out)
  | .accepting, .stop => some ({ s with pc := .ended .returned }, inp, out)
  | .accepting, .go =>
    some ({ s with pc := .writing (encodeNativeWire context).image }, inp, out)
  | .writing rest, .io event =>
    (writeTurn true rest out event).map fun r =>
      ({ s with pc := r.1.next .writing .ended }, inp, r.2)
  | .writing rest, .go => if rest = [] then some ({ s with pc := .reading [] }, inp, out) else none
  | .reading raw, .io event =>
    (readTurn true wireSize raw inp event).map fun r =>
      ({ s with pc := r.1.next .reading .ended }, r.2, out)
  | .reading raw, .go =>
    if h : raw.length = wireSize then
      match decodeNativeWire (.ofImage raw h) .target context.bytes with
      | .ok peer => some ({ s with pc := .modifying .init peer, peer := some peer }, inp, out)
      | .error _ => some ({ s with pc := .ended .raised }, inp, out)
    else none
  | .modifying state peer, .go =>
    some ({ s with
      qp := s.qp.modify state peer context.psn
      pc := state.next (.modifying · peer) (.readingDone []) }, inp, out)
  | .readingDone raw, .io event =>
    (readTurn true 4 raw inp event).map fun r =>
      ({ s with pc := r.1.next .readingDone .ended }, r.2, out)
  | .readingDone raw, .go =>
    if raw.length = 4 then
      if isDone raw then
        some ({ s with oneTargetServed := true, pc := .ended .returned }, inp, out)
      else some ({ s with pc := .ended .raised }, inp, out)
    else none
  | _, _ => none

/-- A step of `direct_read`. -/
def targetStep (context : NativeContext) (t : Target) (inp out : Stream) (event : Event) :
    Option (Target × Stream × Stream) :=
  match t.pc, event with
  | .ended _, _ => none
  | _, .raise => some ({ t with pc := .ended .raised }, inp, out)
  | .connecting, .go =>
    some ({ t with pc := .writing (encodeNativeWire context).image }, inp, out)
  | .writing rest, .io event =>
    (writeTurn false rest out event).map fun r =>
      ({ t with pc := r.1.next .writing .ended }, inp, r.2)
  | .writing rest, .go => if rest = [] then some ({ t with pc := .reading [] }, inp, out) else none
  | .reading raw, .io event =>
    (readTurn false wireSize raw inp event).map fun r =>
      ({ t with pc := r.1.next .reading .ended }, r.2, out)
  | .reading raw, .go =>
    if h : raw.length = wireSize then
      match decodeNativeWire (.ofImage raw h) .source context.bytes with
      | .ok peer => some ({ t with pc := .modifying .init peer, peer := some peer }, inp, out)
      | .error _ => some ({ t with pc := .ended .raised }, inp, out)
    else none
  | .modifying state peer, .go =>
    some ({ t with
      qp := t.qp.modify state peer context.psn
      pc := state.next (.modifying · peer) .posting }, inp, out)
  | .posting, .go =>
    some ({ t with pc := .polling, posted := t.posted + 1, transferActive := true }, inp, out)
  | .polling, .poll .failed =>
    some ({ t with pc := .ended .raised, poisoned := true }, inp, out)
  | .polling, .poll .pending => some (t, inp, out)
  | .polling, .poll .timedOut =>
    some ({ t with pc := .ended .raised, poisoned := true }, inp, out)
  | .polling, .poll (.one completion) =>
    let t := { t with transferActive := false, completion := some completion }
    if completion.status ≠ IBV_WC_SUCCESS ∨ completion.opcode ≠ IBV_WC_RDMA_READ then
      some ({ t with pc := .ended .raised }, inp, out)
    else some ({ t with pc := .flushing }, inp, out)
  | .flushing, .go => some ({ t with pc := .synchronizing, flushed := true }, inp, out)
  | .synchronizing, .go =>
    some ({ t with pc := .writingDone doneImage, synchronized := true }, inp, out)
  | .writingDone rest, .io event =>
    (writeTurn false rest out event).map fun r =>
      ({ t with pc := r.1.next .writingDone .ended }, inp, r.2)
  | .writingDone rest, .go =>
    if rest = [] then some ({ t with pc := .ended .returned }, inp, out) else none
  | _, _ => none

/-- The two ends of a connection. -/
structure Config where
  source : NativeContext
  target : NativeContext
deriving DecidableEq

structure State where
  source : Source
  target : Target
  toTarget : Stream
  toSource : Stream
deriving DecidableEq

def State.init : State where
  source := ⟨.accepting, .fresh, none, false⟩
  target := ⟨.connecting, .fresh, none, 0, false, false, none, false, false⟩
  toTarget := .empty
  toSource := .empty

inductive Action where
  | source (event : Event)
  | target (event : Event)
deriving DecidableEq

def step (config : Config) (s : State) : Action → Option State
  | .source event =>
    (sourceStep config.source s.source s.toSource s.toTarget event).map fun r =>
      { s with source := r.1, toSource := r.2.1, toTarget := r.2.2 }
  | .target event =>
    (targetStep config.target s.target s.toTarget s.toSource event).map fun r =>
      { s with target := r.1, toTarget := r.2.1, toSource := r.2.2 }

/-- A run of both processes in the order of the actions. -/
def run (config : Config) (actions : List Action) : State :=
  Machine.runFrom (step config) .init actions

end ServerlessX.Gdr
