import ServerlessX.Rfork.RunToken
import ServerlessX.Rfork.Transfer
import ServerlessX.Machine.Loop

/-! The role file: how a launcher installs a token with `spd_rfork_role_token_install`, and
what `spd_read_role_token` makes of the file. -/
namespace ServerlessX.Rfork
open ServerlessX.Py ServerlessX.Machine

/-! ### Installing -/

/-- A call of `pwrite` with its answer. -/
structure Pwrite where
  fd : Int
  buffer : Bytes
  offset : Nat
  result : Int
  errno : Int
deriving DecidableEq

/-- The state of the callbacks and the calls of the install loop so far. -/
structure WriteWorld (σ : Type) where
  env : σ
  calls : List Pwrite

structure WriteState where
  completed : Nat
  interrupted : Nat

section RoleFile
variable {σ : Type}

def IoTable.callPwrite (ops : IoTable σ) (buffer : Bytes) (offset : Nat) (w : WriteWorld σ) :
    Reply σ × WriteWorld σ :=
  let r := ops.pwriteCall SPD_RFORK_ROLE_FD buffer offset w.env
  (r, ⟨r.next, w.calls ++ [⟨SPD_RFORK_ROLE_FD, buffer, offset, r.result, r.errno⟩]⟩)

/-- One turn of the install loop: the status and errno it ends with, or the state it
continues in. -/
def writeTurn (ops : IoTable σ) (wire : Bytes) (s : WriteState) (w : WriteWorld σ) :
    (Status × Int ⊕ WriteState) × WriteWorld σ :=
  if s.completed < SPD_RFORK_ROLE_TOKEN_SIZE then
    let (r, w) := ops.callPwrite (wire.drop s.completed) s.completed w
    if r.result < 0 then
      if r.errno = EINTR ∧ s.interrupted < SPD_MAX_EINTR_RETRIES then
        (.inr ⟨s.completed, s.interrupted + 1⟩, w)
      else (.inl (.errRoleWrite, positiveErrno r.errno), w)
    else if r.errno ≠ 0 ∨ r.result = 0 ∨ r.result > SPD_RFORK_ROLE_TOKEN_SIZE - s.completed then
      (.inl (.errRoleShortWrite, if r.errno ≠ 0 then r.errno else EPROTO), w)
    else (.inr ⟨s.completed + r.result.toNat, s.interrupted⟩, w)
  else (.inl (.ok, 0), w)

/-- The turns that are enough for either loop: each stores a byte or uses up a retry. -/
def enoughTurns : Nat := SPD_RFORK_ROLE_TOKEN_SIZE + SPD_MAX_EINTR_RETRIES + 1

def writeWire (ops : IoTable σ) (wire : Bytes) (w : WriteWorld σ) : Status × Int × WriteWorld σ :=
  match loop (writeTurn ops wire) enoughTurns ⟨0, 0⟩ w with
  | (some (status, errno), w) => (status, errno, w)
  | (none, w) => (.errRoleWrite, EPROTO, w)

/-- `spd_rfork_role_token_install` on a non-null `errno_out`: the status, what it leaves in
`errno_out`, and the calls. -/
def roleTokenInstall (default : IoOps σ) (requested : Option (IoOps σ)) (role : Role)
    (handlerId : UInt64) (machineId : UInt32) (cookie : Option Cookie) (w : WriteWorld σ) :
    Status × Int × WriteWorld σ :=
  match requestedOps default requested with
  | none => (.errIoOpsInvalid, 0, w)
  | some ops =>
    -- the array is not initialised, and only used once the encoder has filled it
    match roleTokenEncode (List.replicate SPD_RFORK_ROLE_TOKEN_SIZE 0) role handlerId machineId
      cookie with
    | (.ok, wire) => writeWire ops wire w
    | (status, _) => (status, 0, w)

def Pwrite.transfer (c : Pwrite) : Transfer := ⟨c.fd, c.buffer.length, c.offset, c.result, c.errno⟩

/-! ### What the file holds -/

/-- A file once `data` is written at that offset; a gap before it is filled with zeros. -/
def writeAt (file : Bytes) (offset : Nat) (data : Bytes) : Bytes :=
  file.take offset ++ (List.replicate (offset - file.length) 0 ++ (data ++
    file.drop (offset + data.length)))

/-- `pwrite` on the role file: a positive count without an errno has been written, and an
interrupted call has no effect. Any other answer may come with anything in the file. -/
structure Writes (ops : IoTable σ) (file : σ → Bytes) : Prop where
  written : ∀ data offset s, ∀ r, ops.pwriteCall SPD_RFORK_ROLE_FD data offset s = r →
    0 < r.result → r.result.toNat ≤ data.length → r.errno = 0 →
    file r.next = writeAt (file s) offset (data.take r.result.toNat)
  interrupted : ∀ data offset s, ∀ r, ops.pwriteCall SPD_RFORK_ROLE_FD data offset s = r →
    r.result < 0 → r.errno = EINTR → file r.next = file s

/-- `pread` on the role file: it leaves the file as it is, and a positive count without an
errno says how many bytes of it were stored. -/
structure Reads (ops : IoTable σ) (file : σ → Bytes) : Prop where
  kept : ∀ buffer offset s, file (ops.preadCall SPD_RFORK_ROLE_FD buffer offset s).1.next = file s
  stored : ∀ buffer offset s, ∀ r data, ops.preadCall SPD_RFORK_ROLE_FD buffer offset s = (r, data) →
    0 < r.result → r.result.toNat ≤ buffer.length → r.errno = 0 →
    offset + r.result.toNat ≤ (file s).length ∧
      data.take r.result.toNat = slice (file s) offset r.result.toNat

/-- Writing on behind the part that agrees with the token. -/
theorem take_writeAt {file wire : Bytes} {c n : Nat} (h : file.take c = wire.take c)
    (hn : c + n ≤ wire.length) :
    (writeAt file c ((wire.drop c).take n)).take (c + n) = wire.take (c + n) := by
  have hlen := congrArg List.length h
  rw [List.length_take, List.length_take] at hlen
  have hgap : c - file.length = 0 := by omega
  have hdata : ((wire.drop c).take n).length = n := by
    rw [List.length_take, List.length_drop]
    omega
  have hhead : (file.take c ++ (wire.drop c).take n).length = c + n := by
    rw [List.length_append, hdata, List.length_take]
    omega
  rw [writeAt, hgap, List.replicate_zero, List.nil_append, ← List.append_assoc,
    List.take_left' hhead, h, ← List.take_add]

/-- Storing on behind the part that agrees with the file. -/
theorem take_stored {wire file data : Bytes} {c n : Nat} (hc : c + n ≤ wire.length)
    (h : wire.take c = file.take c) (hn : c + n ≤ file.length) (hdata : data.take n = slice file c n) :
    (wire.take c ++ IoTable.stored (wire.drop c) data).take (c + n) = file.take (c + n) := by
  have hlen : (wire.take c).length = c := by
    rw [List.length_take]
    omega
  have hslice : (slice file c n).length = n := length_slice hn
  have hmin := congrArg List.length hdata
  rw [List.length_take, hslice] at hmin
  have hhead : (IoTable.stored (wire.drop c) data).take n = data.take n := by
    rw [IoTable.stored, List.take_append_of_le_length, List.take_take, List.length_drop]
    · congr 1
      omega
    · rw [List.length_take, List.length_drop]
      omega
  calc (wire.take c ++ IoTable.stored (wire.drop c) data).take (c + n)
      = wire.take c ++ (IoTable.stored (wire.drop c) data).take n := by
        rw [List.take_append, hlen, Nat.add_sub_cancel_left, List.take_take,
          Nat.min_eq_right (Nat.le_add_right c n)]
    _ = file.take c ++ slice file c n := by rw [hhead, hdata, h]
    _ = file.take (c + n) := by rw [slice, ← List.take_add]

/-! ### The install loop -/

/-- Inside the install loop. -/
structure Writing (ops : IoTable σ) (file : σ → Bytes) (wire : Bytes) (s : WriteState)
    (w : WriteWorld σ) : Prop where
  progress : Progress (w.calls.map Pwrite.transfer) s.completed s.interrupted
  buffers : ∀ c ∈ w.calls, c.buffer = wire.drop c.offset
  content : Writes ops file → (file w.env).take s.completed = wire.take s.completed

/-- Behind it. -/
structure Written (ops : IoTable σ) (file : σ → Bytes) (wire : Bytes) (stop : Status × Int)
    (w : WriteWorld σ) : Prop where
  finished : Finished .errRoleWrite (w.calls.map Pwrite.transfer) stop.1 stop.2
  buffers : ∀ c ∈ w.calls, c.buffer = wire.drop c.offset
  clean : stop.1 = .ok → stop.2 = 0
  content : Writes ops file → stop.1 = .ok → (file w.env).take SPD_RFORK_ROLE_TOKEN_SIZE = wire

theorem writeTurn_call (ops : IoTable σ) (wire : Bytes) {s : WriteState}
    (hlt : s.completed < SPD_RFORK_ROLE_TOKEN_SIZE) (w : WriteWorld σ) {r : Reply σ}
    (hr : ops.pwriteCall SPD_RFORK_ROLE_FD (wire.drop s.completed) s.completed w.env = r) :
    ∃ next, Answered .errRoleWrite .errRoleShortWrite s.completed s.interrupted r.result r.errno next ∧
      writeTurn ops wire s w = (next.map id fun p => ⟨p.1, p.2⟩, ⟨r.next, w.calls ++
        [⟨SPD_RFORK_ROLE_FD, wire.drop s.completed, s.completed, r.result, r.errno⟩]⟩) := by
  refine ⟨_, answered_of_reply _ _ _ _ _ _, ?_⟩
  simp only [writeTurn, hlt, if_true, IoTable.callPwrite, hr]
  split_ifs <;> rfl

theorem Writing.goes {ops : IoTable σ} {file : σ → Bytes} {wire : Bytes}
    (hwire : wire.length = SPD_RFORK_ROLE_TOKEN_SIZE) {s s' : WriteState} {w w' : WriteWorld σ}
    (h : Writing ops file wire s w) (ht : writeTurn ops wire s w = (.inr s', w')) :
    Writing ops file wire s' w' ∧
      (SPD_RFORK_ROLE_TOKEN_SIZE - s'.completed) + (SPD_MAX_EINTR_RETRIES - s'.interrupted) <
        (SPD_RFORK_ROLE_TOKEN_SIZE - s.completed) + (SPD_MAX_EINTR_RETRIES - s.interrupted) := by
  by_cases hlt : s.completed < SPD_RFORK_ROLE_TOKEN_SIZE
  · obtain ⟨r, hr⟩ : ∃ r, ops.pwriteCall SPD_RFORK_ROLE_FD (wire.drop s.completed) s.completed w.env = r :=
      ⟨_, rfl⟩
    obtain ⟨next, hans, hrun⟩ := writeTurn_call ops wire hlt w hr
    rw [hrun] at ht
    cases next with
    | inl stop => cases ht
    | inr next =>
      cases ht
      obtain ⟨hprogress, hless⟩ := h.progress.goes hlt hans
      refine ⟨⟨?_, ?_, fun hfile => ?_⟩, hless⟩
      · simpa [Pwrite.transfer, asking, hwire] using hprogress
      · intro c hc
        obtain hold | rfl := by simpa using hc
        · exact h.buffers c hold
        · rfl
      · cases hans with
        | retry hneg hintr hleft =>
          simp only
          rw [hfile.interrupted _ _ _ r hr hneg hintr]
          exact h.content hfile
        | progress hpos hclean hfits =>
          have hroom : r.result.toNat ≤ (wire.drop s.completed).length := by
            rw [List.length_drop, hwire]
            omega
          simp only
          rw [hfile.written _ _ _ r hr hpos hroom hclean]
          exact take_writeAt (h.content hfile) (by rw [hwire]; exact hfits)
  · simp [writeTurn, hlt] at ht

theorem Writing.stops {ops : IoTable σ} {file : σ → Bytes} {wire : Bytes}
    (hwire : wire.length = SPD_RFORK_ROLE_TOKEN_SIZE) {s : WriteState} {w w' : WriteWorld σ}
    {stop : Status × Int} (h : Writing ops file wire s w)
    (ht : writeTurn ops wire s w = (.inl stop, w')) : Written ops file wire stop w' := by
  by_cases hlt : s.completed < SPD_RFORK_ROLE_TOKEN_SIZE
  · obtain ⟨r, hr⟩ : ∃ r, ops.pwriteCall SPD_RFORK_ROLE_FD (wire.drop s.completed) s.completed w.env = r :=
      ⟨_, rfl⟩
    obtain ⟨next, hans, hrun⟩ := writeTurn_call ops wire hlt w hr
    rw [hrun] at ht
    cases next with
    | inr next => cases ht
    | inl stop =>
      cases ht
      have hfailed : stop.1 ≠ .ok := stop_ne_ok hans.stop.1 (by decide) (by decide)
      have hfinished := h.progress.stops (by decide) hlt hans
      refine ⟨?_, ?_, fun hok => absurd hok hfailed, fun _ hok => absurd hok hfailed⟩
      · simpa [Pwrite.transfer, asking, hwire] using hfinished
      · intro c hc
        obtain hold | rfl := by simpa using hc
        · exact h.buffers c hold
        · rfl
  · simp only [writeTurn, hlt, if_false] at ht
    cases ht
    have hall : s.completed = SPD_RFORK_ROLE_TOKEN_SIZE :=
      le_antisymm h.progress.within (not_lt.mp hlt)
    refine ⟨h.progress.done (by decide) hlt, h.buffers, fun _ => rfl, fun hfile _ => ?_⟩
    rw [← hall, h.content hfile, hall, ← hwire, List.take_length]

/-- The install loop ends, whatever the callbacks answer. -/
theorem writeLoop_ends {wire : Bytes} (hwire : wire.length = SPD_RFORK_ROLE_TOKEN_SIZE)
    (ops : IoTable σ) (file : σ → Bytes) (s : σ) :
    ∃ stop w, (∀ more, loop (writeTurn ops wire) (enoughTurns + more) ⟨0, 0⟩ ⟨s, []⟩ = (some stop, w)) ∧
      writeWire ops wire ⟨s, []⟩ = (stop.1, stop.2, w) ∧ Written ops file wire stop w := by
  have hstart : Writing ops file wire ⟨0, 0⟩ ⟨s, []⟩ :=
    ⟨progress_start, by simp, fun _ => by simp⟩
  obtain ⟨stop, w, hrun, hpost⟩ := loop_ends
    (fun _ _ _ _ h ht => h.goes hwire ht) (fun _ _ _ _ h ht => h.stops hwire ht) hstart
    (show _ < enoughTurns by decide)
  exact ⟨stop, w, loop_more hrun, by simp only [writeWire, hrun], hpost⟩

/-! ### The read loop -/

/-- `readLoop` is the loop of `readTurn`, with an error for the turns it does not have. -/
theorem readLoop_eq_loop (ops : IoTable σ) (turns : Nat) (s : ReadState) (w : World σ) :
    readLoop ops turns s w = ((loop (readTurn ops) turns s w).1.getD (.error (.errRoleRead, EPROTO)),
      (loop (readTurn ops) turns s w).2) := by
  induction turns generalizing s w with
  | zero => rfl
  | succ turns ih =>
    cases ht : readTurn ops s w with
    | mk next w' =>
      cases next with
      | inl result => simp only [readLoop, loop, ht, Option.getD_some]
      | inr s' => simp only [readLoop, loop, ht, ih]

/-- Inside the read loop that starts with the file `image` and the calls `before`. -/
structure Reading (ops : IoTable σ) (file : σ → Bytes) (image : Bytes) (before : List Call)
    (s : ReadState) (w : World σ) : Prop where
  progress : ∃ ts, w.calls = before ++ ts.map Transfer.pread ∧ Progress ts s.completed s.interrupted
  size : s.wire.length = SPD_RFORK_ROLE_TOKEN_SIZE
  content : Reads ops file → file w.env = image ∧ s.wire.take s.completed = image.take s.completed

/-- The status and errno of a read that is over. -/
def readStop : Except (Status × Int) Bytes → Status × Int
  | .error stop => stop
  | .ok _ => (.ok, 0)

/-- Behind it. -/
structure Read (ops : IoTable σ) (file : σ → Bytes) (image : Bytes) (before : List Call)
    (result : Except (Status × Int) Bytes) (w : World σ) : Prop where
  finished : ∃ ts, w.calls = before ++ ts.map Transfer.pread ∧
    Finished .errRoleRead ts (readStop result).1 (readStop result).2
  failed : ∀ stop, result = .error stop →
    (stop.1 = .errRoleRead ∨ stop.1 = .errRoleShortRead) ∧ stop.2 ≠ 0
  content : ∀ wire, Reads ops file → result = .ok wire → wire = image.take SPD_RFORK_ROLE_TOKEN_SIZE

theorem reading_calls {before : List Call} {ts : List Transfer} {w : World σ} {s : ReadState}
    (hsize : s.wire.length = SPD_RFORK_ROLE_TOKEN_SIZE)
    (h : w.calls = before ++ ts.map Transfer.pread) (env : σ) (result errno : Int) :
    (w.push env (.pread SPD_RFORK_ROLE_FD (s.wire.drop s.completed).length s.completed result
      errno)).calls = before ++ (ts ++ [asking s.completed result errno]).map Transfer.pread := by
  simp [World.push, h, hsize, Transfer.pread, asking]

theorem Reading.goes {ops : IoTable σ} {file : σ → Bytes} {image : Bytes} {before : List Call}
    {s s' : ReadState} {w w' : World σ} (h : Reading ops file image before s w)
    (ht : readTurn ops s w = (.inr s', w')) :
    Reading ops file image before s' w' ∧
      (SPD_RFORK_ROLE_TOKEN_SIZE - s'.completed) + (SPD_MAX_EINTR_RETRIES - s'.interrupted) <
        (SPD_RFORK_ROLE_TOKEN_SIZE - s.completed) + (SPD_MAX_EINTR_RETRIES - s.interrupted) := by
  by_cases hlt : s.completed < SPD_RFORK_ROLE_TOKEN_SIZE
  · obtain ⟨⟨r, data⟩, hr⟩ : ∃ x, ops.preadCall SPD_RFORK_ROLE_FD (s.wire.drop s.completed) s.completed
        w.env = x := ⟨_, rfl⟩
    obtain ⟨next, hans, hrun⟩ := readTurn_call ops hlt w hr
    rw [hrun] at ht
    cases next with
    | inl stop => cases ht
    | inr next =>
      cases ht
      obtain ⟨ts, hcalls, hp⟩ := h.progress
      obtain ⟨hprogress, hless⟩ := hp.goes hlt hans
      refine ⟨⟨⟨_, reading_calls h.size hcalls _ _ _, hprogress⟩, ?_, fun hfile => ?_⟩, hless⟩
      · simp only [List.length_append, List.length_take, length_stored, List.length_drop, h.size]
        omega
      · obtain ⟨himage, hprefix⟩ := h.content hfile
        have hkept := hfile.kept (s.wire.drop s.completed) s.completed w.env
        rw [hr, himage] at hkept
        refine ⟨hkept, ?_⟩
        cases hans with
        | retry hneg hintr hleft =>
          have hlen : (s.wire.take s.completed).length = s.completed := by
            rw [List.length_take, h.size]
            omega
          simp only
          rw [List.take_left' hlen, hprefix]
        | progress hpos hclean hfits =>
          have hroom : r.result.toNat ≤ (s.wire.drop s.completed).length := by
            rw [List.length_drop, h.size]
            omega
          obtain ⟨hin, hdata⟩ := hfile.stored _ _ _ r data hr hpos hroom hclean
          rw [himage] at hin hdata
          exact take_stored (by rw [h.size]; exact hfits) hprefix hin hdata
  · simp [readTurn, hlt] at ht

theorem Reading.stops {ops : IoTable σ} {file : σ → Bytes} {image : Bytes} {before : List Call}
    {s : ReadState} {w w' : World σ} {result : Except (Status × Int) Bytes}
    (h : Reading ops file image before s w) (ht : readTurn ops s w = (.inl result, w')) :
    Read ops file image before result w' := by
  obtain ⟨ts, hcalls, hp⟩ := h.progress
  by_cases hlt : s.completed < SPD_RFORK_ROLE_TOKEN_SIZE
  · obtain ⟨⟨r, data⟩, hr⟩ : ∃ x, ops.preadCall SPD_RFORK_ROLE_FD (s.wire.drop s.completed) s.completed
        w.env = x := ⟨_, rfl⟩
    obtain ⟨next, hans, hrun⟩ := readTurn_call ops hlt w hr
    rw [hrun] at ht
    cases next with
    | inr next => cases ht
    | inl stop =>
      cases ht
      refine ⟨⟨_, reading_calls h.size hcalls _ _ _, hp.stops (by decide) hlt hans⟩, ?_, ?_⟩
      · rintro stop' ⟨⟩
        exact hans.stop
      · rintro wire - ⟨⟩
  · simp only [readTurn, hlt, if_false] at ht
    cases ht
    have hall : s.completed = SPD_RFORK_ROLE_TOKEN_SIZE := le_antisymm hp.within (not_lt.mp hlt)
    refine ⟨⟨ts, hcalls, hp.done (by decide) hlt⟩, ?_, ?_⟩
    · rintro stop ⟨⟩
    · rintro wire hfile ⟨⟩
      rw [← hall, ← (h.content hfile).2, hall, ← h.size, List.take_length]

/-- The read loop ends, whatever the callbacks answer. -/
theorem readWire_ends (ops : IoTable σ) (file : σ → Bytes) (w : World σ) :
    ∃ result w', (∀ more, loop (readTurn ops) (enoughTurns + more)
        ⟨List.replicate SPD_RFORK_ROLE_TOKEN_SIZE 0, 0, 0⟩ w = (some result, w')) ∧
      readWire ops w = (result, w') ∧ Read ops file (file w.env) w.calls result w' := by
  have hstart : Reading ops file (file w.env) w.calls
      ⟨List.replicate SPD_RFORK_ROLE_TOKEN_SIZE 0, 0, 0⟩ w :=
    ⟨⟨[], by simp, progress_start⟩, List.length_replicate, fun _ => by simp⟩
  obtain ⟨result, w', hrun, hpost⟩ := loop_ends (fun _ _ _ _ h ht => h.goes ht)
    (fun _ _ _ _ h ht => h.stops ht) hstart (show _ < enoughTurns by decide)
  refine ⟨result, w', loop_more hrun, ?_, hpost⟩
  have hread : readWire ops w = readLoop ops enoughTurns
      ⟨List.replicate SPD_RFORK_ROLE_TOKEN_SIZE 0, 0, 0⟩ w := rfl
  rw [hread, readLoop_eq_loop, hrun]
  rfl

/-- No matter how many more turns are allowed, `readWire` is what the loop does. -/
theorem readWire_fuel (ops : IoTable σ) (w : World σ) (more : Nat) :
    readLoop ops (enoughTurns + more) ⟨List.replicate SPD_RFORK_ROLE_TOKEN_SIZE 0, 0, 0⟩ w =
      readWire ops w := by
  obtain ⟨result, w', hrun, hread, -⟩ := readWire_ends ops (fun _ => []) w
  rw [readLoop_eq_loop, hrun, hread]
  rfl

/-! ### A file with a schedule -/

/-- A role file and the answers its next calls give. -/
structure Schedule where
  bytes : Bytes
  answers : List (Int × Int)

/-- The callbacks of such a file, which write and read what they say. -/
def scheduledTable : IoTable Schedule where
  openDevice _ s := ⟨-1, EPROTO, s⟩
  ioctlCall _ _ _ s := ⟨-1, EPROTO, s⟩
  pwriteCall _ data offset s :=
    match s.answers with
    | [] => ⟨-1, EPROTO, s⟩
    | (result, errno) :: rest =>
      ⟨result, errno, if 0 < result ∧ errno = 0 then
        ⟨writeAt s.bytes offset (data.take result.toNat), rest⟩ else ⟨s.bytes, rest⟩⟩
  preadCall _ _ offset s :=
    match s.answers with
    | [] => (⟨-1, EPROTO, s⟩, [])
    | (result, errno) :: rest =>
      -- no more than there is behind the offset
      let data := slice s.bytes offset result.toNat
      (⟨if 0 < result then data.length else result, errno, ⟨s.bytes, rest⟩⟩, data)
  closeFd _ s := ⟨-1, EPROTO, s⟩
  getProcessId s := ⟨-1, EPROTO, s⟩

theorem scheduled_writes : Writes scheduledTable Schedule.bytes where
  written := by
    rintro data offset ⟨bytes, answers⟩ r rfl hpos hroom hclean
    cases answers with
    | nil => simp [scheduledTable] at hpos
    | cons answer rest =>
      have hdone : 0 < answer.1 ∧ answer.2 = 0 := ⟨hpos, hclean⟩
      simp only [scheduledTable, hdone.1, hdone.2, and_self, if_true]
  interrupted := by
    rintro data offset ⟨bytes, answers⟩ r rfl hneg hintr
    cases answers with
    | nil => rfl
    | cons answer rest =>
      have hnot : ¬ (0 < answer.1 ∧ answer.2 = 0) := fun h => absurd h.1 (not_lt.mpr hneg.le)
      simp only [scheduledTable, hnot, if_false]

theorem scheduled_reads : Reads scheduledTable Schedule.bytes where
  kept := by
    rintro buffer offset ⟨bytes, answers⟩
    cases answers with
    | nil => rfl
    | cons answer rest => rfl
  stored := by
    rintro buffer offset ⟨bytes, answers⟩ r data hcall hpos hroom hclean
    cases answers with
    | nil =>
      cases hcall
      simp at hpos
    | cons answer rest =>
      cases hcall
      simp only at hpos hroom ⊢
      by_cases hread : 0 < answer.1
      · rw [if_pos hread] at hpos hroom ⊢
        have hlen : (slice bytes offset answer.1.toNat).length =
            min answer.1.toNat (bytes.length - offset) := by
          rw [slice, List.length_take, List.length_drop]
        rw [Int.toNat_natCast]
        refine ⟨by omega, ?_⟩
        rw [List.take_length, slice, slice, List.length_take, List.take_eq_take_iff]
        omega
      · rw [if_neg hread] at hpos
        exact absurd hpos hread

/-- The role file, over every schedule of answers: the install loop ends, asks for the rest
of the token each time, and when it returns `SPD_RFORK_OK` the file begins with the token;
the read loop ends, and behind it the buffer is the beginning of the file, so that an
installed token is read back. Either gives up at the ninth interruption. -/
theorem role_file_exact (file : σ → Bytes) :
    (∀ (default : IoOps σ) (requested : Option (IoOps σ)) (ops : IoTable σ) (role : Role)
      (handlerId : UInt64) (machineId : UInt32) (cookie : Cookie) (s : σ),
      requestedOps default requested = some ops →
      (∀ status wire, status ≠ .ok →
        roleTokenEncode (List.replicate SPD_RFORK_ROLE_TOKEN_SIZE 0) role handlerId machineId
          (some cookie) = (status, wire) →
        roleTokenInstall default requested role handlerId machineId (some cookie) ⟨s, []⟩ =
          (status, 0, ⟨s, []⟩)) ∧
      ∀ wire, roleTokenEncode (List.replicate SPD_RFORK_ROLE_TOKEN_SIZE 0) role handlerId machineId
          (some cookie) = (.ok, wire) →
        ∃ status errno w,
          (∀ more, loop (writeTurn ops wire) (enoughTurns + more) ⟨0, 0⟩ ⟨s, []⟩ =
            (some (status, errno), w)) ∧
          roleTokenInstall default requested role handlerId machineId (some cookie) ⟨s, []⟩ =
            (status, errno, w) ∧
          Finished .errRoleWrite (w.calls.map Pwrite.transfer) status errno ∧
          (∀ c ∈ w.calls, c.buffer = wire.drop c.offset) ∧
          (status = .ok → errno = 0) ∧
          (Writes ops file → status = .ok →
            (file w.env).take SPD_RFORK_ROLE_TOKEN_SIZE = wire)) ∧
    (∀ (ops : IoTable σ) (audit : Audit) (stage : Stage) (w : World σ),
      ∃ result w' ts,
        (∀ more, loop (readTurn ops) (enoughTurns + more)
          ⟨List.replicate SPD_RFORK_ROLE_TOKEN_SIZE 0, 0, 0⟩ w = (some result, w')) ∧
        w'.calls = w.calls ++ ts.map Transfer.pread ∧
        (∀ status errno, result = .error (status, errno) →
          Finished .errRoleRead ts status errno ∧ status ≠ .ok ∧
          readRoleToken ops audit stage w =
            (.error status, { audit with roleReadErrno := errno, stage := stage }, w')) ∧
        (∀ wire, result = .ok wire →
          Finished .errRoleRead ts .ok 0 ∧
          readRoleToken ops audit stage w =
            (decodeRoleToken wire, { audit with roleReadErrno := 0 }, w') ∧
          (Reads ops file → wire = (file w.env).take SPD_RFORK_ROLE_TOKEN_SIZE) ∧
          ∀ output role handlerId machineId cookie, Reads ops file →
            roleTokenEncode output role handlerId machineId (some cookie) =
              (.ok, (file w.env).take SPD_RFORK_ROLE_TOKEN_SIZE) →
            ∃ token, (readRoleToken ops audit stage w).1 = .ok token ∧ token.role = role ∧
              token.handlerId.toNat = handlerId.toNat ∧ token.machineId = machineId ∧
              token.runCookie = cookie)) := by
  constructor
  · intro default requested ops role handlerId machineId cookie s hops
    constructor
    · intro status wire hne henc
      simp only [roleTokenInstall, hops, henc]
    · intro wire henc
      obtain ⟨⟨status, errno⟩, w, hrun, hwire, hpost⟩ :=
        writeLoop_ends (decode_encoded henc).1 ops file s
      refine ⟨status, errno, w, hrun, ?_, hpost.finished, hpost.buffers, hpost.clean, hpost.content⟩
      simp only [roleTokenInstall, hops, henc, hwire]
  · intro ops audit stage w
    obtain ⟨result, w', hrun, hread, hpost⟩ := readWire_ends ops file w
    obtain ⟨ts, hcalls, hfinished⟩ := hpost.finished
    refine ⟨result, w', ts, hrun, hcalls, ?_, ?_⟩
    · rintro status errno rfl
      have hfailed : status ≠ .ok := stop_ne_ok (hpost.failed _ rfl).1 (by decide) (by decide)
      exact ⟨hfinished, hfailed, by simp only [readRoleToken, hread]⟩
    · rintro wire rfl
      have htoken : readRoleToken ops audit stage w =
          (decodeRoleToken wire, { audit with roleReadErrno := 0 }, w') := by
        simp only [readRoleToken, hread]
      refine ⟨hfinished, htoken, fun hfile => hpost.content wire hfile rfl, ?_⟩
      intro output role handlerId machineId cookie hfile henc
      rw [← hpost.content wire hfile rfl] at henc
      rw [htoken]
      exact (decode_encoded henc).2

def scheduledOps : IoOps Schedule :=
  ⟨some scheduledTable.openDevice, some scheduledTable.ioctlCall, some scheduledTable.preadCall,
    some scheduledTable.pwriteCall, some scheduledTable.closeFd, some scheduledTable.getProcessId⟩

/-- Nine bytes, an interruption and the rest: the token is installed over what was there,
and read back in three parts. -/
theorem interrupted_role_file :
    (∃ w : WriteWorld Schedule,
      roleTokenInstall scheduledOps none .parent 7 3 (some ⟨List.replicate 16 1, rfl⟩)
        ⟨⟨[9, 9], [(9, 0), (-1, EINTR), (39, 0)]⟩, []⟩ = (.ok, 0, w) ∧
      w.env.bytes.take 48 = tokenWire .parent 7 3 ⟨List.replicate 16 1, rfl⟩) ∧
    ∃ token, (readRoleToken scheduledTable (auditInit none .prepare).audit .roleBefore
        ⟨⟨tokenWire .parent 7 3 ⟨List.replicate 16 1, rfl⟩,
          [(20, 0), (-1, EINTR), (20, 0), (9, 0)]⟩, []⟩).1 = .ok token ∧
      token.role = .parent ∧ token.handlerId.toNat = 7 ∧ token.machineId = 3 := by
  have henc : roleTokenEncode (List.replicate 48 0) .parent 7 3 (some ⟨List.replicate 16 1, rfl⟩) =
      (.ok, tokenWire .parent 7 3 ⟨List.replicate 16 1, rfl⟩) := by decide +kernel
  constructor
  · have hok : (roleTokenInstall scheduledOps none .parent 7 3 (some ⟨List.replicate 16 1, rfl⟩)
        ⟨⟨[9, 9], [(9, 0), (-1, EINTR), (39, 0)]⟩, []⟩).1 = .ok := by decide +kernel
    obtain ⟨status, errno, w, -, hrun, -, -, hclean, hcontent⟩ :=
      ((role_file_exact Schedule.bytes).1 scheduledOps none scheduledTable .parent 7 3
        ⟨List.replicate 16 1, rfl⟩ ⟨[9, 9], [(9, 0), (-1, EINTR), (39, 0)]⟩ rfl).2 _ henc
    rw [hrun] at hok ⊢
    obtain rfl : status = .ok := hok
    exact ⟨w, by rw [hclean rfl], hcontent scheduled_writes rfl⟩
  · have hok : (readRoleToken scheduledTable (auditInit none .prepare).audit .roleBefore
        ⟨⟨tokenWire .parent 7 3 ⟨List.replicate 16 1, rfl⟩,
          [(20, 0), (-1, EINTR), (20, 0), (9, 0)]⟩, []⟩).1.toOption.isSome = true := by decide +kernel
    obtain ⟨result, w', ts, -, -, hfailed, hread⟩ := (role_file_exact Schedule.bytes).2 scheduledTable
      (auditInit none .prepare).audit .roleBefore
      ⟨⟨tokenWire .parent 7 3 ⟨List.replicate 16 1, rfl⟩,
        [(20, 0), (-1, EINTR), (20, 0), (9, 0)]⟩, []⟩
    cases result with
    | error stop =>
      rw [(hfailed stop.1 stop.2 rfl).2.2] at hok
      cases hok
    | ok wire =>
      obtain ⟨token, hdec, hrole, hhandler, hmachine, -⟩ := (hread wire rfl).2.2.2 (List.replicate 48 0)
        .parent 7 3 ⟨List.replicate 16 1, rfl⟩ scheduled_reads (by decide +kernel)
      exact ⟨token, hdec, hrole, hhandler, hmachine⟩

end RoleFile
end ServerlessX.Rfork
