import ServerlessX.Workload.Framing

/-! Exporting the raw KV pair to two files, each replaced atomically. -/
namespace ServerlessX.Workload
open ServerlessX.Py ServerlessX.Py.Json

/-- File contents by path, and what each coming file-system step fails with, if
it fails. -/
structure Fs where
  files : List (String × Bytes)
  faults : List (Option String)

namespace Fs

def step : Act Fs Error Unit := fun fs =>
  match fs.faults with
  | [] => (.ok (), fs)
  | none :: rest => (.ok (), { fs with faults := rest })
  | some text :: rest => (.error (osError text), { fs with faults := rest })

def write (path : String) (data : Bytes) (fs : Fs) : Fs :=
  { fs with files := Dict.set fs.files path data }

/-- `path.unlink()`, a missing file being no error. -/
def unlink (path : String) (fs : Fs) : Fs :=
  { fs with files := fs.files.filter fun e => e.1 ≠ path }

/-- What a path holds, nothing when there is no file. -/
def held (fs : Fs) (path : String) : Option Bytes := fs.files.lookup path

theorem held_write (path : String) (data : Bytes) (fs : Fs) :
    (fs.write path data).held path = some data :=
  Dict.lookup_set_self fs.files path data

theorem held_write_ne {path q : String} (h : q ≠ path) (data : Bytes) (fs : Fs) :
    (fs.write path data).held q = fs.held q :=
  Dict.lookup_set_ne fs.files data h

theorem held_unlink_ne {path q : String} (h : q ≠ path) (fs : Fs) :
    (fs.unlink path).held q = fs.held q :=
  Dict.lookup_filter_ne fs.files path q h

theorem held_unlink (path : String) (fs : Fs) : (fs.unlink path).held path = none := by
  rw [held, unlink, List.lookup_eq_none_iff]
  intro e he
  have hne : e.1 ≠ path := by simpa using (List.mem_filter.mp he).2
  simpa using fun h : path = e.1 => hne h.symm

theorem held_step (fs : Fs) (q : String) : (Fs.step fs).2.held q = fs.held q := by
  rcases hf : fs.faults with _ | ⟨_ | text, rest⟩ <;> simp [step, held, hf]

end Fs

/-- `Path.resolve` and the temporary name next to a path. -/
structure Paths where
  resolve : String → String
  temporary : String → String

def atomicWrite (paths : Paths) (path : String) (data : Bytes) : Act Fs Error Unit := do
  Fs.step -- mkdir
  let temporary := paths.temporary path
  Act.andFinally (do
    Fs.step -- open with mode "xb"
    let fs ← Act.read
    Act.raiseIf (fs.files.lookup temporary).isSome (osError "[Errno 17] File exists")
    Act.modify (Fs.write temporary [])
    Fs.step -- chmod
    Fs.step -- write
    Act.modify (Fs.write temporary data)
    Fs.step -- flush
    Fs.step -- fsync
    Fs.step -- replace
    Act.modify fun fs => (fs.write path data).unlink temporary)
    (Fs.unlink temporary)

/-- `path.with_name(f".{path.name}.tmp.{os.getpid()}")`. -/
def temporaryName (pid : Nat) (path : String) : String :=
  let parent := (path.toList.reverse.dropWhile (· ≠ '/')).reverse
  let name := (path.toList.reverse.takeWhile (· ≠ '/')).reverse
  String.ofList (parent ++ ('.' :: name ++ (".tmp." ++ toString pid).toList))

theorem temporaryName_ne (pid : Nat) (path : String) : temporaryName pid path ≠ path := by
  intro h
  have hlen := congrArg (fun s => s.toList.length) h
  have hparts := congrArg List.length
    (List.takeWhile_append_dropWhile (p := fun c => decide (c ≠ '/')) (l := path.toList.reverse))
  simp only [temporaryName, String.toList_ofList, List.length_append, List.length_cons,
    List.length_reverse] at hlen hparts
  omega

section AtomicWrite
variable {paths : Paths} {path : String} {data : Bytes}

/-- Every path but one holds what it held before. -/
def OnlyAt (path : String) (fs₀ fs : Fs) : Prop := ∀ q, q ≠ path → fs.held q = fs₀.held q

theorem onlyAt_write {fs₀ fs : Fs} (h : OnlyAt path fs₀ fs) : OnlyAt path fs₀ (fs.write path data) :=
  fun q hq => (Fs.held_write_ne hq data fs).trans (h q hq)

theorem onlyAt_unlink {fs₀ fs : Fs} (h : OnlyAt path fs₀ fs) : OnlyAt path fs₀ (fs.unlink path) :=
  fun q hq => (Fs.held_unlink_ne hq fs).trans (h q hq)

theorem step_ends_onlyAt (path : String) (fs₀ : Fs) :
    Act.Ends (OnlyAt path fs₀) (OnlyAt path fs₀) (OnlyAt path fs₀) Fs.step := by
  have hkeeps : Act.Keeps (OnlyAt path fs₀) Fs.step :=
    fun fs h q hq => (Fs.held_step fs q).trans (h q hq)
  exact hkeeps.ends

/-- What one atomic write may leave: the path holds the new bytes when it
returned and the old ones when it raised, the temporary is gone unless the call
never got that far, and no other path changed. -/
structure Written (paths : Paths) (path : String) (now : Option Bytes) (fs₀ fs : Fs) : Prop where
  there : fs.held path = now
  gone : fs.held (paths.temporary path) = none ∨
    fs.held (paths.temporary path) = fs₀.held (paths.temporary path)
  others : ∀ q, q ≠ path → q ≠ paths.temporary path → fs.held q = fs₀.held q

/-- The bytes are at their path, the temporary may still be there. -/
def Replaced (paths : Paths) (path : String) (data : Bytes) (fs₀ fs : Fs) : Prop :=
  fs.held path = some data ∧
    ∀ q, q ≠ path → q ≠ paths.temporary path → fs.held q = fs₀.held q

theorem mkdir_ends (fs₀ : Fs) :
    Act.Ends (fun fs => fs = fs₀) (OnlyAt (paths.temporary path) fs₀)
      (Written paths path (fs₀.held path) fs₀) Fs.step := by
  rintro fs rfl
  have hsame := Fs.held_step fs
  cases h : Fs.step fs with
  | mk r fs' =>
    rw [h] at hsame
    cases r with
    | ok a => exact fun q _ => hsame q
    | error e => exact ⟨hsame path, .inr (hsame _), fun q _ _ => hsame q⟩

theorem replace_ends (ht : paths.temporary path ≠ path) (fs₀ : Fs) :
    Act.Ends (OnlyAt (paths.temporary path) fs₀) (Replaced paths path data fs₀)
      (OnlyAt (paths.temporary path) fs₀)
      (Act.modify fun fs => (fs.write path data).unlink (paths.temporary path) :
        Act Fs Error Unit) := by
  refine Act.ends_modify fun fs hfs => ⟨?_, fun q hq hqt => ?_⟩
  · rw [Fs.held_unlink_ne ht.symm, Fs.held_write]
  · rw [Fs.held_unlink_ne hqt, Fs.held_write_ne hq]
    exact hfs q hqt

theorem atomicWrite_ends (ht : paths.temporary path ≠ path) (data : Bytes) (fs₀ : Fs) :
    Act.Ends (fun fs => fs = fs₀) (Written paths path (some data) fs₀)
      (Written paths path (fs₀.held path) fs₀) (atomicWrite paths path data) := by
  have hstep := step_ends_onlyAt (paths.temporary path) fs₀
  -- a failed mkdir is outside the try: not even the temporary is unlinked then
  refine Act.ends_bind (mkdir_ends fs₀) fun _ => ?_
  refine Act.ends_andFinally (?_ : Act.Ends _ (Replaced paths path data fs₀)
    (OnlyAt (paths.temporary path) fs₀) _) ?_ ?_
  · refine Act.ends_bind hstep fun _ => Act.ends_bind Act.keeps_read.ends fun fs => ?_
    refine Act.ends_bind (Act.keeps_raiseIf _ _).ends fun _ => ?_
    refine Act.ends_bind (Act.keeps_modify fun _ => onlyAt_write).ends fun _ => ?_
    refine Act.ends_bind hstep fun _ => Act.ends_bind hstep fun _ => ?_
    refine Act.ends_bind (Act.keeps_modify fun _ => onlyAt_write).ends fun _ => ?_
    exact Act.ends_bind hstep fun _ => Act.ends_bind hstep fun _ =>
      Act.ends_bind hstep fun _ => replace_ends ht fs₀
  · rintro fs ⟨hthere, hothers⟩
    refine ⟨?_, .inl (Fs.held_unlink _ fs), fun q hq hqt => ?_⟩
    · rw [Fs.held_unlink_ne ht.symm, hthere]
    · rw [Fs.held_unlink_ne hqt, hothers q hq hqt]
  · intro fs hfs
    refine ⟨?_, .inl (Fs.held_unlink _ fs), fun q _ hqt => onlyAt_unlink hfs q hqt⟩
    exact onlyAt_unlink hfs path ht.symm

end AtomicWrite

def exportKv (sha256 : Bytes → String) (paths : Paths) (payloadPath headerPath : String)
    (header : Fields) (payload : Bytes) : Act Fs Error Unit := do
  Act.raiseIf (paths.resolve payloadPath == paths.resolve headerPath)
    (workloadError "KV payload and header export paths must differ")
  Act.call (validatePayload sha256 header payload)
  atomicWrite paths payloadPath payload
  Act.onRaise (do
    let raw ← Act.call (canonicalJsonBytes (.obj header))
    atomicWrite paths headerPath (raw ++ [10]))
    fun e => do
      Act.modify (Fs.unlink payloadPath)
      Act.raise e

/-- What an export leaves at every path but the two it was given: the file that
was there before, or none. -/
def NothingNew (payloadPath headerPath : String) (fs₀ fs : Fs) : Prop :=
  ∀ q, q ≠ payloadPath → q ≠ headerPath → fs.held q = none ∨ fs.held q = fs₀.held q

/-- Both files are there and the header is not one of the payload. -/
def Torn (Describes : Bytes → Bytes → Prop) (payloadPath headerPath : String) (fs : Fs) : Prop :=
  ∃ h p, fs.held headerPath = some h ∧ fs.held payloadPath = some p ∧ ¬ Describes h p

section Export
variable {paths : Paths} {payloadPath headerPath : String} {payload : Bytes} {post : Fs → Prop}

theorem nothingNew_of_written {now : Option Bytes} {fs₀ fs : Fs}
    (h : Written paths payloadPath now fs₀ fs) : NothingNew payloadPath headerPath fs₀ fs := by
  intro q hq _
  by_cases hqt : q = paths.temporary payloadPath
  · exact hqt ▸ h.gone
  · exact .inr (h.others q hq hqt)

theorem nothingNew_written {now : Option Bytes} {fs₀ fs₁ fs : Fs}
    (h₁ : NothingNew payloadPath headerPath fs₀ fs₁) (h : Written paths headerPath now fs₁ fs) :
    NothingNew payloadPath headerPath fs₀ fs := by
  intro q hq hq'
  have hsame : fs.held q = none ∨ fs.held q = fs₁.held q := by
    by_cases hqt : q = paths.temporary headerPath
    · exact hqt ▸ h.gone
    · exact .inr (h.others q hq' hqt)
  rcases hsame with hnone | hsame
  · exact .inl hnone
  · exact hsame ▸ h₁ q hq hq'

/-- Only the payload may have gone since a state that was not torn. -/
theorem not_torn {Describes : Bytes → Bytes → Prop} {fs₀ fs : Fs}
    (hp : fs.held payloadPath = none ∨ fs.held payloadPath = fs₀.held payloadPath)
    (hh : fs.held headerPath = fs₀.held headerPath)
    (h : ¬ Torn Describes payloadPath headerPath fs₀) :
    ¬ Torn Describes payloadPath headerPath fs := by
  rintro ⟨b, p, hb, hpay, hnot⟩
  rcases hp with hp | hp
  · rw [hp] at hpay
    contradiction
  · exact h ⟨b, p, hh ▸ hb, hp ▸ hpay, hnot⟩

/-- How an export that returned leaves the two paths. -/
structure Exported (payloadPath headerPath : String) (header : Fields) (payload : Bytes)
    (fs₀ fs : Fs) : Prop where
  payload : fs.held payloadPath = some payload
  header : ∃ raw, canonicalJsonBytes (.obj header) = .ok raw ∧
    fs.held headerPath = some (raw ++ [10])
  nothingNew : NothingNew payloadPath headerPath fs₀ fs

/-- How an export that raised leaves the two paths. -/
structure Withdrawn (payloadPath headerPath : String) (fs₀ fs : Fs) : Prop where
  payload : fs.held payloadPath = none ∨ fs.held payloadPath = fs₀.held payloadPath
  header : fs.held headerPath = fs₀.held headerPath
  nothingNew : NothingNew payloadPath headerPath fs₀ fs

/-- The payload of a failed export goes; the header was not replaced. -/
theorem withdraw_ends {fs₀ fs₁ : Fs} (hne : payloadPath ≠ headerPath)
    (hp : paths.temporary payloadPath ≠ headerPath)
    (h₁ : Written paths payloadPath (some payload) fs₀ fs₁) (e : Error) :
    Act.Ends (Written paths headerPath (fs₁.held headerPath) fs₁) post
      (Withdrawn payloadPath headerPath fs₀)
      (do Act.modify (Fs.unlink payloadPath); Act.raise e : Act Fs Error Unit) := by
  intro fs h
  refine ⟨.inl (Fs.held_unlink payloadPath fs), ?_, fun q hq hq' => ?_⟩
  · rw [Fs.held_unlink_ne hne.symm, h.there, h₁.others headerPath hne.symm hp.symm]
  · rw [Fs.held_unlink_ne hq]
    exact nothingNew_written (nothingNew_of_written h₁) h q hq hq'

/-- The header is written once the payload is in place. -/
theorem exportHeader_ends (hne : payloadPath ≠ headerPath)
    (hp : paths.temporary payloadPath ≠ headerPath)
    (hh : paths.temporary headerPath ≠ headerPath) (hhp : paths.temporary headerPath ≠ payloadPath)
    (header : Fields) {fs₀ fs₁ : Fs} (h₁ : Written paths payloadPath (some payload) fs₀ fs₁) :
    Act.Ends (fun fs => fs = fs₁) (Exported payloadPath headerPath header payload fs₀)
      (Withdrawn payloadPath headerPath fs₀)
      (Act.onRaise (do
        let raw ← Act.call (canonicalJsonBytes (.obj header))
        atomicWrite paths headerPath (raw ++ [10]))
        fun e => do
          Act.modify (Fs.unlink payloadPath)
          Act.raise e) := by
  refine Act.ends_onRaise ?_ fun e => withdraw_ends hne hp h₁ e
  cases hraw : canonicalJsonBytes (.obj header) with
  | error e =>
    rintro fs rfl
    exact ⟨rfl, .inr rfl, fun q _ _ => rfl⟩
  | ok raw =>
    refine Act.ends_call_ok ((atomicWrite_ends hh (raw ++ [10]) fs₁).imp (fun fs h => ?_) fun _ => id)
    refine ⟨?_, ⟨raw, hraw, h.there⟩, nothingNew_written (nothingNew_of_written h₁) h⟩
    exact (h.others payloadPath hne hhp.symm).trans h₁.there

theorem withdrawn_refl (fs : Fs) : Withdrawn payloadPath headerPath fs fs :=
  ⟨.inr rfl, rfl, fun _ _ _ => .inr rfl⟩

theorem exportKv_ends (sha256 : Bytes → String) (hne : payloadPath ≠ headerPath)
    (hpp : paths.temporary payloadPath ≠ payloadPath)
    (hp : paths.temporary payloadPath ≠ headerPath)
    (hh : paths.temporary headerPath ≠ headerPath) (hhp : paths.temporary headerPath ≠ payloadPath)
    (header : Fields) (payload : Bytes) (fs₀ : Fs) :
    Act.Ends (fun fs => fs = fs₀) (Exported payloadPath headerPath header payload fs₀)
      (Withdrawn payloadPath headerPath fs₀)
      (exportKv sha256 paths payloadPath headerPath header payload) := by
  have hsame : ∀ fs, fs = fs₀ → Withdrawn payloadPath headerPath fs₀ fs := by
    rintro fs rfl
    exact withdrawn_refl fs
  refine Act.ends_bind ((Act.keeps_raiseIf _ _).ends.imp (fun _ => id) hsame) fun _ => ?_
  refine Act.ends_bind ((Act.keeps_call _).ends.imp (fun _ => id) hsame) fun _ => ?_
  refine Act.ends_bind ((atomicWrite_ends hpp payload fs₀).imp (fun _ => id) fun fs h => ?_)
    fun _ fs₁ h₁ => exportHeader_ends hne hp hh hhp header h₁ fs₁ rfl
  exact ⟨.inr h.there, h.others headerPath hne.symm hp.symm, nothingNew_of_written h⟩

/-- Whatever steps of the two writes fail: an export that returned left exactly
the pair, one that raised did not leave the payload in place and left the header
alone, so a pair that was there and matched is never left mismatched; either way
no new file is left besides the two. -/
theorem exportKv_leaves_no_torn_pair (sha256 : Bytes → String) (paths : Paths)
    (payloadPath headerPath : String) (header : Fields) (payload : Bytes) (fs : Fs)
    (hne : payloadPath ≠ headerPath) (htemporary : ∀ path, paths.temporary path ≠ path)
    (hp : paths.temporary payloadPath ≠ headerPath)
    (hh : paths.temporary headerPath ≠ payloadPath) :
    (∀ fs', exportKv sha256 paths payloadPath headerPath header payload fs = (.ok (), fs') →
      fs'.held payloadPath = some payload ∧
      (∃ raw, canonicalJsonBytes (.obj header) = .ok raw ∧
        fs'.held headerPath = some (raw ++ [10])) ∧
      NothingNew payloadPath headerPath fs fs') ∧
    (∀ e fs', exportKv sha256 paths payloadPath headerPath header payload fs = (.error e, fs') →
      (fs'.held payloadPath = some payload → fs.held payloadPath = some payload) ∧
      fs'.held headerPath = fs.held headerPath ∧
      (∀ Describes, ¬ Torn Describes payloadPath headerPath fs →
        ¬ Torn Describes payloadPath headerPath fs') ∧
      NothingNew payloadPath headerPath fs fs') := by
  have hends := exportKv_ends sha256 hne (htemporary payloadPath) hp (htemporary headerPath) hh
    header payload fs fs rfl
  constructor
  · intro fs' h
    rw [h] at hends
    exact ⟨hends.payload, hends.header, hends.nothingNew⟩
  · intro e fs' h
    rw [h] at hends
    refine ⟨fun hpay => ?_, hends.header, fun Describes => not_torn hends.payload hends.header,
      hends.nothingNew⟩
    rcases hends.payload with hnone | hsame
    · simp [hnone] at hpay
    · exact hsame ▸ hpay

/-- A pair is there, the new payload has replaced the old one, and the header's
`os.replace` fails. -/
def overwrite : Fs :=
  ⟨[("kv.bin", [1]), ("kv.json", [2])], List.replicate 13 none ++ [some "[Errno 5]"]⟩

theorem exportKv_leaves_no_torn_pair_overwrite :
    ∃ e fs', exportKv (fun _ => "ab") ⟨id, temporaryName 7⟩ "kv.bin" "kv.json"
        [("payload_bytes", .int 1), ("payload_sha256", .str "ab")] [3] overwrite = (.error e, fs') ∧
      fs'.held "kv.json" = some [2] ∧ fs'.held ".kv.bin.tmp.7" = none := by
  have hrun : exportKv (fun _ => "ab") ⟨id, temporaryName 7⟩ "kv.bin" "kv.json"
        [("payload_bytes", .int 1), ("payload_sha256", .str "ab")] [3] overwrite =
      (.error (osError "[Errno 5]"), ⟨[("kv.json", [2])], []⟩) := by rfl
  have h := (exportKv_leaves_no_torn_pair (fun _ => "ab") ⟨id, temporaryName 7⟩ "kv.bin" "kv.json"
    _ [3] overwrite (by decide) (temporaryName_ne 7) (by decide) (by decide)).2 _ _ hrun
  refine ⟨_, _, hrun, h.2.1, ?_⟩
  rcases h.2.2.2 ".kv.bin.tmp.7" (by decide) (by decide) with hnone | hsame
  · exact hnone
  · exact hsame

end Export

theorem exportKv_same_path (sha256 : Bytes → String) (paths : Paths) (path : String)
    (header : Fields) (payload : Bytes) (fs : Fs) :
    exportKv sha256 paths path path header payload fs =
      (.error (workloadError "KV payload and header export paths must differ"), fs) := by
  simp [exportKv, Act.bind_run, Act.raiseIf_run]

end ServerlessX.Workload

