import ServerlessX.Gdr.Handshake
import ServerlessX.Gdr.Resources

/-! The handles of the direct-only build over any sequence of `spd_gdr_open_dmabuf_v1`,
`spd_gdr_read` and `spd_gdr_close`, made one at a time. Every call comes with what the
libraries, the connection and the control thread answer to it; clock reads succeed. -/
namespace ServerlessX.Gdr
open ServerlessX.Py

def kContextMagic : UInt64 := 0x5350444744523031

/-- A direct context. `posts` counts the RDMA READs it has posted, `log` what happened to its
resources; the code has neither. -/
structure Context where
  magic : UInt64
  native : Option NativeResources
  buffer : UInt64
  bytes : UInt64
  gpuId : Int
  registered : Bool
  transferActive : Bool
  poisoned : Bool
  closing : Bool
  posts : Nat
  log : List NativeEvent

/-- What `encode_native_wire` sends of it. -/
def Context.wire (c : Context) (native : NativeResources) : NativeContext :=
  ⟨native.role, native.qpNum, native.psn, native.rkey, c.buffer, c.bytes, native.gid⟩

/-- `contexts` and `next_handle_id` -/
structure System where
  contexts : UInt64 → Option Context
  nextHandleId : UInt64

def System.init : System := ⟨fun _ => none, 1⟩

def System.set (s : System) (handle : UInt64) (c : Option Context) : System :=
  { s with contexts := fun h => if h = handle then c else s.contexts h }

inductive Reply where
  | handle (id : UInt64)
  | code (n : Int)
deriving DecidableEq

/-- What a call returns, the context it worked on as the call leaves it, and the system. -/
structure Returned where
  reply : Reply
  object : Option Context
  system : System

/-! ### Opening -/

structure OpenArgs where
  localEndpoint : Option CString
  devicePointer : UInt64
  bytes : UInt64
  gpuId : Int
  role : Int

structure OpenAnswers where
  pointer : PointerAnswers
  native : NativeAnswers
  listener : Except String Unit
  thread : Except String Unit
  threadRun : ThreadRun
  destroys : Resource → Bool

def dmabufRole (role : Int) : Option DmabufRole :=
  if role = 1 then some .source else if role = 2 then some .target else none

/-- A source listens and starts its control thread. -/
def startSource (env : OpenAnswers) (role : DmabufRole) (t : Tracked) : Except String Unit × Tracked :=
  match role with
  | .target => (.ok (), t)
  | .source =>
    match env.listener with
    | .error message => (.error message, t)
    | .ok _ =>
      let t := t.acquire .listenerFd
      match env.thread with
      | .error message => (.error message, t)
      | .ok _ => (.ok (), t.acquire .controlThread)

/-- `spd_gdr_open_dmabuf_v1` up to the handle: the context, or the message and what is left of
the resources once they were cleaned up. -/
def openContext (args : OpenArgs) (env : OpenAnswers) : Except (String × Option Tracked) Context :=
  match dmabufRole args.role with
  | none => .error ("direct DMA-BUF role must be source=1 or target=2", none)
  | some role =>
    if args.bytes > 0xffffffff then .error ("direct DMA-BUF size must fit one RDMA SGE", none)
    else match parseIpv4Endpoint args.localEndpoint "local endpoint" with
      | .error message => .error (message, none)
      | .ok endpoint =>
        match (validatePointer env.pointer args.devicePointer args.bytes args.gpuId false).1 with
        | .error message => .error (message, none)
        | .ok _ =>
          match makeNativeResources env.native endpoint role with
          | (.error message, t) =>
            .error (message, some (cleanupNativeBestEffort env.threadRun env.destroys t))
          | (.ok _, t) =>
            match startSource env role t with
            | (.error message, t) =>
              .error (message, some (cleanupNativeBestEffort env.threadRun env.destroys t))
            | (.ok _, t) =>
              .ok { magic := kContextMagic, native := some t.native, buffer := args.devicePointer,
                    bytes := args.bytes, gpuId := args.gpuId, registered := true,
                    transferActive := false, poisoned := false, closing := false, posts := 0,
                    log := t.log }

/-- `spd_gdr_open_dmabuf_v1`; the handle 0 is null. -/
def openDmabuf (s : System) (args : OpenArgs) (env : OpenAnswers) : Returned :=
  match openContext args env with
  | .error _ => ⟨.handle 0, none, s⟩
  | .ok c =>
    let id := s.nextHandleId
    let s := { s with nextHandleId := id + 1 }
    -- the identifiers are used up, or this one is still in use
    if id = 0 ∨ (s.contexts id).isSome = true then ⟨.handle 0, none, s⟩
    else ⟨.handle id, some c, s.set id (some c)⟩

/-! ### Reading -/

structure ReadArgs where
  sourceServerName : Option CString
  timeoutMs : UInt64
  /-- Whether the three output pointers are not null. -/
  outputs : Bool × Bool × Bool

/-- The bytes the connection delivers and what happens in the exchange. -/
structure ReadAnswers where
  incoming : Bytes
  events : List Event

/-- The handler's `poisoned ? -2 : -1` -/
def failCode (c : Context) : Int := if c.poisoned then -2 else -1

def readChecks (c : Context) (args : ReadArgs) : Except String NativeResources :=
  match c.native with
  | none => .error "direct DMA-BUF context is invalid or closed"
  | some native =>
    if c.magic ≠ kContextMagic ∨ c.registered = false ∨ c.closing = true then
      .error "direct DMA-BUF context is invalid or closed"
    else if c.poisoned then .error "GDR context is poisoned"
    else if c.transferActive then .error "GDR transfer is already active"
    else if native.role ≠ .target then
      .error "only a direct DMA-BUF target may initiate RDMA READ"
    else if native.targetUsed then .error "direct DMA-BUF target is one-shot"
    else if args.timeoutMs = 0 ∨ args.timeoutMs.toNat > kMaximumControlTimeoutMs then
      .error "completion timeout must be in [1, 600000] ms"
    else if args.outputs ≠ (true, true, true) then .error "transfer output pointer is null"
    else if (args.sourceServerName.map (·.bytes)).getD [] = [] then
      .error "source server name is empty"
    else .ok native

/-- A step of `direct_read` when the clock does not fail: nothing else raises between the post
and the completion. -/
def exchangeStep (context : NativeContext) (x : Target × Stream × Stream) (event : Event) :
    Option (Target × Stream × Stream) :=
  if x.1.pc = .polling ∧ event = .raise then none
  else targetStep context x.1 x.2.1 x.2.2 event

/-- `direct_read` from the connection on. -/
def exchange (context : NativeContext) (env : ReadAnswers) : Target :=
  (Machine.runFrom (exchangeStep context) (State.init.target, ⟨env.incoming, 0⟩, .empty) env.events).1

/-- `direct_read`: its result and the context, or `none` while it has not returned. -/
def directRead (c : Context) (args : ReadArgs) (env : ReadAnswers) : Option (Int × Context) :=
  match readChecks c args with
  | .error _ => some (failCode c, c)
  | .ok native =>
    let c := { c with native := some { native with targetUsed := true } }
    match parseIpv4Endpoint args.sourceServerName "source server name" with
    | .error _ => some (failCode c, c)
    | .ok _ =>
      let t := exchange (c.wire native) env
      let c := { c with
        transferActive := t.transferActive, poisoned := t.poisoned, posts := c.posts + t.posted }
      match t.pc with
      | .ended .returned => some (0, c)
      | .ended .raised => some (failCode c, c)
      | _ => none

/-- `checked_context` -/
def checkedContext (s : System) (handle : UInt64) : Option Context :=
  if handle = 0 then none else s.contexts handle

/-- `spd_gdr_read` -/
def read (s : System) (handle : UInt64) (args : ReadArgs) (env : ReadAnswers) : Option Returned :=
  match checkedContext s handle with
  | none => some ⟨.code (-1), none, s⟩
  | some c => (directRead c args env).map fun r => ⟨.code r.1, some r.2, s.set handle (some r.2)⟩

/-! ### Closing -/

structure CloseAnswers where
  threadRun : ThreadRun
  destroys : Resource → Bool

/-- `spd_gdr_close` on a context: the result, the context, and whether the handle is erased. -/
def directClose (c : Context) (env : CloseAnswers) : Int × Context × Bool :=
  match c.native with
  | none => (-2, { c with poisoned := true }, false)
  | some native =>
    if c.magic ≠ kContextMagic ∨ c.registered = false then (-2, { c with poisoned := true }, false)
    else if c.poisoned ∨ c.transferActive then (-2, c, false)
    else
      let t := stopNativeThread env.threadRun ⟨native, c.log⟩
      let controlError := t.native.threadError
      match cleanupNativeStrict env.threadRun env.destroys t with
      | (some _, t) =>
        (-2, { c with closing := true, poisoned := true, native := some t.native, log := t.log }, false)
      | (none, t) =>
        (if controlError ≠ "" then -1 else 0,
          { c with closing := true, registered := false, native := none, magic := 0, log := t.log }, true)

/-- `spd_gdr_close` -/
def close (s : System) (handle : UInt64) (env : CloseAnswers) : Returned :=
  if handle = 0 then ⟨.code 0, none, s⟩
  else match checkedContext s handle with
    | none => ⟨.code (-1), none, s⟩
    | some c =>
      match directClose c env with
      | (code, c, true) => ⟨.code code, some c, s.set handle none⟩
      | (code, c, false) => ⟨.code code, some c, s.set handle (some c)⟩

/-! ### Sequences of calls -/

inductive Call where
  | openDmabuf (args : OpenArgs) (env : OpenAnswers)
  | read (handle : UInt64) (args : ReadArgs) (env : ReadAnswers)
  | close (handle : UInt64) (env : CloseAnswers)

/-- The handle a read or a close is about. -/
def Call.on : Call → Option UInt64
  | .openDmabuf _ _ => none
  | .read handle _ _ => some handle
  | .close handle _ => some handle

def call (s : System) : Call → Option Returned
  | .openDmabuf args env => some (openDmabuf s args env)
  | .read handle args env => read s handle args env
  | .close handle env => some (close s handle env)

/-- The system after a sequence of calls, those that do not return left out. -/
def after (s : System) (calls : List Call) : System :=
  Machine.runFrom (fun s c => (call s c).map (·.system)) s calls

/-- What the calls return. -/
def replies (s : System) : List Call → List Reply
  | [] => []
  | c :: rest =>
    match call s c with
    | none => replies s rest
    | some r => r.reply :: replies r.system rest

end ServerlessX.Gdr
