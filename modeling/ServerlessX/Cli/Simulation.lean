import ServerlessX.Cli.Verify

/-! `run_cpu_simulation`: a complete session over synthetic metadata and the result
it records. Every recorded result passes `verify_result`. -/
namespace ServerlessX.Cli
open ServerlessX.Py ServerlessX.Py.Json ServerlessX.Contract

/-- A reading of the system clock; its year has four digits. -/
structure ClockTime extends UtcTime where
  fourDigits : 1000 ≤ year

/-- `uuid4().hex` of the identifier as a number. -/
def uuidHex (uuid : Nat) : List Char :=
  (List.range 32).map fun i => Sha256.hexDigit (uuid / 16 ^ (31 - i) % 16)

def newRunId (now : ClockTime) (uuid : Nat) : String :=
  String.ofList (now.stampText ++ '-' :: (uuidHex uuid).take 12)

/-- `_digest`: the labels are ASCII. -/
def digest (sha256 : Bytes → String) (label : String) : String := sha256 (ascii label.toList)

def simulationMetadata (sha256 : Bytes → String) (runId : String) : Fields :=
  [("schema", .str SCHEMA), ("schema_version", .int SCHEMA_VERSION),
    ("request_id", .str "serverlessx-cpu-demo"), ("epoch", .int 1),
    ("attempt_id", .str ("attempt-" ++ runId)),
    ("model_id", .str "TinyLlama/TinyLlama-1.1B-Chat-v1.0"),
    ("model_sha256", .str (digest sha256 "serverlessx-cpu-demo-model")),
    ("tokenizer_sha256", .str (digest sha256 "serverlessx-cpu-demo-tokenizer")),
    ("prompt_digest_sha256", .str (digest sha256 "serverlessx-cpu-demo-prompt-128")),
    ("first_token_id", .int 2008), ("kv_layout", .str KV_LAYOUT), ("dtype", .str KV_DTYPE),
    ("prompt_length", .int EXPECTED_PROMPT_LENGTH), ("output_tokens", .int EXPECTED_OUTPUT_TOKENS),
    ("tensors", .list buildFixedTensors), ("payload_bytes", .int EXPECTED_KV_BYTES),
    ("payload_sha256", .str (digest sha256 "serverlessx-cpu-demo-synthetic-kv-payload")),
    ("source_owner_id", .str "source.simulated.1"), ("target_owner_id", .str "target.simulated.1"),
    ("buffer_id", .str ("buffer-" ++ runId)),
    ("source_gpu_uuid", .str "GPU-11111111-1111-1111-1111-111111111111"),
    ("target_gpu_uuid", .str "GPU-22222222-2222-2222-2222-222222222222"),
    ("source_endpoint", .str "192.0.2.10:12855"), ("target_endpoint", .str "192.0.2.11:12856")]

/-- `session.advance_kind(kind)` over a tuple of kinds; the token digest is passed
with DECODE_DONE. -/
def advanceKinds (tokenDigest : Json) : List AckKind → Act Session Contract.Error (List Json)
  | [] => return []
  | kind :: kinds => do
    let event ← Session.advanceKind (.str kind.value) .null .null
      (if kind = .decodeDone then tokenDigest else .null)
    return event :: (← advanceKinds tokenDigest kinds)

/-- A contract error that no handler of the driver catches. -/
def uncaught (e : Contract.Error) : Error := ⟨.contractError e.cls, e.message⟩

/-- The `result` dict. -/
def simulationResult (runId : String) (startedAt finishedAt : ClockTime) (metadata : Json)
    (events : List Json) (session : Session) (rejected : Bool) : Fields :=
  [("schema", .str RESULT_SCHEMA), ("schema_version", .int RESULT_SCHEMA_VERSION),
    ("run_id", .str runId), ("status", .str "pass"), ("system", .str "spd"), ("profile", .str "cpu"),
    ("mode", .str "contract-simulation"), ("started_at", .str startedAt.isoText),
    ("finished_at", .str finishedAt.isoText), ("metadata", metadata), ("events", .list events),
    ("outcome", .obj [("state", .str session.state), ("closed", .bool session.closed),
      ("owners", .obj session.owners)]),
    ("checks", .obj [("completed_ack_sequence", expectedSequence),
      ("replay_rejected", .bool rejected)]),
    ("claims", .obj simulationClaims)]

/-- The result `run_cpu_simulation` writes; the clock is read three times. -/
def runCpuSimulation (sha256 : Bytes → String) (startedAt issuedAt finishedAt : ClockTime)
    (uuid : Nat) : Except Error Fields := do
  let runId := newRunId issuedAt uuid
  let metadata : Json := .obj (simulationMetadata sha256 runId)
  let session ← (Session.construct metadata EpochLedger.empty).1.mapError uncaught
  let tokenDigest : Json := .str (digest sha256 "serverlessx-cpu-demo-eight-token-ids")
  match advanceKinds tokenDigest
      [.targetReady, .transferSubmitted, .transferCompleted, .cacheVerified, .decodeDone, .released,
        .sourceReleased] session with
  | (.error e, _) => .error (uncaught e)
  | (.ok events, session) => do
    let rejected ← replayRejected events session
    require (session.closed && rejected)
      ⟨.cliError EXIT_RUN_FAILED, [.text "CPU contract simulation did not close safely"]⟩
    return simulationResult runId startedAt finishedAt metadata events session rejected

/-! ### Run identifiers -/

theorem fullmatch_append {p q : List (Char → Bool)} {a b : List Char} (ha : fullmatch p a = true)
    (hb : fullmatch q b = true) : fullmatch (p ++ q) (a ++ b) = true := by
  simp only [fullmatch, Bool.and_eq_true, beq_iff_eq] at ha hb ⊢
  refine ⟨by simp [ha.1, hb.1], ?_⟩
  rw [List.zip_append ha.1, List.all_append, ha.2, hb.2]
  rfl

theorem fullmatch_replicate (p : Char → Bool) (cs : List Char) (h : cs.all p = true) :
    fullmatch (List.replicate cs.length p) cs = true := by
  induction cs with
  | nil => rfl
  | cons c cs ih =>
    simp only [List.all_cons, Bool.and_eq_true] at h
    have hrest := ih h.2
    simp only [fullmatch, Bool.and_eq_true, beq_iff_eq] at hrest ⊢
    exact ⟨by simp, by simp [List.replicate_succ, h.1, hrest.2]⟩

theorem fullmatch_pad (width n : Nat) :
    fullmatch (List.replicate width isDigit) (pad width n) = true := by
  have h := fullmatch_replicate isDigit (pad width n) (pad_all width n)
  rwa [length_pad] at h

theorem fullmatch_uuid (uuid : Nat) :
    fullmatch (List.replicate 12 isLowerHex) ((uuidHex uuid).take 12) = true := by
  have hdigit : ∀ n < 16, isLowerHex (Sha256.hexDigit n) = true := by decide
  have hall : ((uuidHex uuid).take 12).all isLowerHex = true := by
    rw [List.all_eq_true]
    intro c hc
    obtain ⟨i, -, rfl⟩ := List.mem_map.mp (List.mem_of_mem_take hc)
    exact hdigit _ (Nat.mod_lt _ (by omega))
  exact fullmatch_replicate isLowerHex _ hall

theorem isRunId_newRunId (now : ClockTime) (uuid : Nat) : isRunId (newRunId now uuid) = true := by
  have hlit : ∀ c : Char, fullmatch [(· == c)] [c] = true := by
    intro c
    simp [fullmatch]
  have hdate := fullmatch_append (fullmatch_append (fullmatch_pad 4 now.year)
    (fullmatch_pad 2 now.month)) (fullmatch_pad 2 now.day)
  have htime := fullmatch_append (fullmatch_append (fullmatch_pad 2 now.hour)
    (fullmatch_pad 2 now.minute)) (fullmatch_pad 2 now.second)
  have hstamp := fullmatch_append (fullmatch_append (fullmatch_append (fullmatch_append
    (fullmatch_append hdate (hlit 'T')) htime) (hlit '.')) (fullmatch_pad 6 now.microsecond))
    (fullmatch_append (hlit 'Z') (hlit '-'))
  have hall := fullmatch_append hstamp (fullmatch_uuid uuid)
  rw [isRunId, newRunId, String.toList_ofList]
  simpa [SAFE_RUN_ID, UtcTime.stampText] using hall

theorem fullmatch_all {pattern : List (Char → Bool)} {q : Char → Bool}
    (h : ∀ p ∈ pattern, ∀ c, p c = true → q c = true) {cs : List Char}
    (hm : fullmatch pattern cs = true) : cs.length = pattern.length ∧ cs.all q = true := by
  simp only [fullmatch, Bool.and_eq_true, beq_iff_eq] at hm
  refine ⟨hm.1.symm, ?_⟩
  rw [List.all_eq_true] at hm ⊢
  intro c hc
  obtain ⟨i, hi, rfl⟩ := List.getElem_of_mem hc
  have hp : i < pattern.length := by omega
  have hz : (pattern[i], cs[i]) ∈ pattern.zip cs := by
    rw [List.mem_iff_getElem]
    exact ⟨i, by simp [hi, hp], by simp⟩
  exact h _ (List.getElem_mem hp) _ (hm.2 _ hz)

/-- A run identifier behind a short prefix is an identifier of the contract. -/
theorem isSafeId_append {c : Char} {cs : List Char} {runId : String} (hc : isAlnum c = true)
    (hlen : cs.length ≤ 91)
    (hcs : cs.all (fun x => isAlnum x || x == '.' || x == '_' || x == ':' || x == '-') = true)
    (h : isRunId runId = true) :
    isSafeId (String.ofList (c :: cs) ++ runId) = true := by
  have hhex : ∀ x, isLowerHex x = true → isAlnum x = true := by
    intro x hx
    simp only [isLowerHex, isAlnum, Bool.or_eq_true, Bool.and_eq_true, decide_eq_true_eq] at hx ⊢
    obtain hd | ⟨hlow, hhigh⟩ := hx
    · exact .inl (.inl hd)
    · exact .inr ⟨hlow, by omega⟩
  have hclass : ∀ p ∈ SAFE_RUN_ID, ∀ x, p x = true →
      (isAlnum x || x == '.' || x == '_' || x == ':' || x == '-') = true := by
    intro p hp x hx
    simp only [SAFE_RUN_ID, List.mem_append, List.mem_cons, List.not_mem_nil, or_false,
      List.mem_replicate] at hp
    obtain ((((((⟨-, rfl⟩ | rfl) | ⟨-, rfl⟩) | rfl) | ⟨-, rfl⟩) | rfl | rfl) | ⟨-, rfl⟩) := hp
    · simp [isAlnum, hx]
    · rw [beq_iff_eq.mp hx]
      rfl
    · simp [isAlnum, hx]
    · simp [hx]
    · simp [isAlnum, hx]
    · rw [beq_iff_eq.mp hx]
      rfl
    · simp [hx]
    · simp [hhex x hx]
  obtain ⟨hl, hall⟩ := fullmatch_all hclass h
  have htext : (String.ofList (c :: cs) ++ runId).toList = c :: (cs ++ runId.toList) := by
    simp
  unfold isSafeId
  rw [htext]
  simp only [hc, Bool.true_and, Bool.and_eq_true, decide_eq_true_eq, List.length_append, hl,
    List.all_append, hcs, hall, and_true]
  change cs.length + 36 ≤ 127
  omega

/-- The synthetic metadata passes the contract's validator for every run. -/
theorem validMetadata_simulation {sha256 : Bytes → String} (hsha : ∀ b, isSha256 (sha256 b) = true)
    {runId : String} (h : isRunId runId = true) :
    ValidMetadata (simulationMetadata sha256 runId) := by
  have hattempt : isSafeId ("attempt-" ++ runId) = true := isSafeId_append rfl (by decide) rfl h
  have hbuffer : isSafeId ("buffer-" ++ runId) = true := isSafeId_append rfl (by decide) rfl h
  have hne : ∀ {s t : String}, s ≠ t → Json.str s ≠ .str t := fun hst heq => hst (Json.str.inj heq)
  refine ⟨rfl, rfl, rfl, ⟨_, rfl, by decide⟩, ⟨_, rfl, by decide⟩, ⟨_, rfl, hattempt⟩,
    ⟨_, rfl, by decide⟩, ⟨_, rfl, hsha _⟩, ⟨_, rfl, hsha _⟩, ⟨_, rfl, hsha _⟩, ⟨_, rfl, hsha _⟩,
    ⟨_, rfl, by decide, by decide⟩, rfl, rfl, rfl, rfl, ⟨_, rfl, ?_⟩, rfl, ⟨_, rfl, by decide⟩,
    ⟨_, rfl, by decide⟩, ⟨_, rfl, hbuffer⟩, ?_, ⟨_, rfl, by decide⟩, ⟨_, rfl, by decide⟩, ?_,
    ⟨_, rfl, by decide +kernel⟩, ⟨_, rfl, by decide +kernel⟩, ?_⟩
  · rw [List.forall₂_same]
    exact fun _ _ => rfl
  · exact hne (by decide)
  · exact hne (by decide)
  · exact hne (by decide)

theorem Evidence.of_same {metadata events metadata' events' : Json} {m : Metadata} {d : String}
    {es : List Json} (h : Evidence metadata events m d es) (hm : Same metadata' metadata)
    (he : Same events' events) : ∃ m' es', Evidence metadata' events' m' d es' := by
  obtain ⟨hv, hd, rfl, acks, hacks, hall⟩ := h
  obtain rfl := (validateMetadata_none _ _).mp hv
  obtain ⟨f, rfl⟩ := same_obj_left hm
  let m' : Metadata := ⟨f, .of_same hm m.valid⟩
  have hsame : Same events' (.list acks) := he.trans ((same_list _ _).mpr ⟨es, rfl, hall⟩)
  obtain ⟨es', rfl, hes⟩ := (same_list _ _).mp hsame
  have hseq : Session.canonicalSequence m' d = .ok acks := by
    rw [Session.canonicalSequence_eq] at hacks ⊢
    cases hacks
    exact congrArg _ (List.map_congr_left fun k _ => @canonicalAck_of_same m' m hm k _)
  exact ⟨m', es', m'.validate, hd, rfl, acks, hseq, hes⟩

theorem ResultOk.of_same {strptime : TimeParser} {f g : Fields} {n : String}
    (h : Same (.obj g) (.obj f)) (hf : ResultOk strptime f n) : ResultOk strptime g n := by
  have hget : ∀ k, Same (get g k) (get f k) := get_same h
  have hstr : ∀ {k s}, get f k = .str s → get g k = .str s := by
    intro k s hs
    have hk := hget k
    rwa [hs, same_str] at hk
  have hint : ∀ {k n}, get f k = .int n → get g k = .int n := by
    intro k n hn
    have hk := hget k
    rwa [hn, same_int] at hk
  obtain ⟨s, t, started, finished, hs, ht, htimes⟩ := hf.times
  obtain ⟨m, d, es, hev⟩ := hf.evidence
  obtain ⟨m', es', hev'⟩ := hev.of_same (hget "metadata") (hget "events")
  exact ⟨hasKeys_same h hf.keys, hstr hf.schema, hint hf.schemaVersion, ⟨hstr hf.runId.1, hf.runId.2⟩,
    hstr hf.status, hstr hf.system, hstr hf.profile, hstr hf.mode,
    ⟨s, t, started, finished, hstr hs, hstr ht, htimes⟩, ⟨m', d, es', hev'⟩,
    (hget "outcome").trans hf.outcome, (hget "checks").trans hf.checks,
    (hget "claims").trans hf.claims⟩

theorem advanceKinds_standing {m : Metadata} {d : String} (hd : isSha256 d = true) {n : Nat}
    {kinds : List AckKind} (h : kinds = ACK_SEQUENCE.drop n) (hn : n ≤ 7) :
    advanceKinds (.str d) kinds (.standing m d n) =
      (.ok (kinds.map fun k => canonicalAck k m (Session.digestAt (some d) k)), .standing m d 7) := by
  induction kinds generalizing n with
  | nil =>
    have hlen : 7 ≤ n := List.drop_eq_nil_iff.mp h.symm
    obtain rfl : n = 7 := by omega
    rfl
  | cons k kinds ih =>
    have hlt : n < ACK_SEQUENCE.length := by
      by_contra hge
      rw [List.drop_eq_nil_of_le (by omega)] at h
      cases h
    rw [List.drop_eq_getElem_cons hlt, List.cons.injEq] at h
    have hadv := @Session.advanceKind_standing m d hd n k (by rw [List.getElem?_eq_getElem hlt, h.1])
    simp only [advanceKinds, Act.bind_run, hadv, ih h.2 hlt, Act.pure_run, List.map_cons]

/-- The simulation completes, and what it writes passes in whatever key order it is
read back. -/
theorem simulation_resultOk {sha256 : Bytes → String} (hsha : ∀ b, isSha256 (sha256 b) = true)
    {strptime : TimeParser} (htime : ∀ t : ClockTime, strptime t.isoText = .ok t.toUtcTime)
    (startedAt issuedAt finishedAt : ClockTime) (uuid : Nat)
    (horder : startedAt.order ≤ finishedAt.order) :
    ∃ f, runCpuSimulation sha256 startedAt issuedAt finishedAt uuid = .ok f ∧
      ∀ g, Same (.obj g) (.obj f) → ResultOk strptime g (newRunId issuedAt uuid) := by
  have hrun := isRunId_newRunId issuedAt uuid
  let m : Metadata := ⟨_, validMetadata_simulation hsha hrun⟩
  let d := digest sha256 "serverlessx-cpu-demo-eight-token-ids"
  have hd : isSha256 d = true := hsha _
  have hinit := Session.construct_empty m
  have hkinds := @advanceKinds_standing m d hd 0 ACK_SEQUENCE rfl (by omega)
  have hrej := @replayRejected_standing
    (ACK_SEQUENCE.map fun k => canonicalAck k m (Session.digestAt (some d) k)) _ rfl m d
  refine ⟨simulationResult (newRunId issuedAt uuid) startedAt finishedAt m.json
    (ACK_SEQUENCE.map fun k => canonicalAck k m (Session.digestAt (some d) k)) (.standing m d 7) true,
    ?_, fun g hg => .of_same hg ?_⟩
  · have hstart : (Session.construct (.obj (simulationMetadata sha256 (newRunId issuedAt uuid)))
        EpochLedger.empty).1.mapError uncaught = .ok (.standing m d 0) :=
      congrArg (fun r => r.1.mapError uncaught) hinit
    have hclosed : (Session.standing m d 7).closed = true := rfl
    change advanceKinds (.str (digest sha256 _)) [_, _, _, _, _, _, _] _ = _ at hkinds
    simp only [runCpuSimulation, hstart, bind, Except.bind, hkinds, hrej, hclosed, require, Bool.and_self,
      if_true, pure, Except.pure]
    rfl
  · have hev : Evidence m.json
        (.list (ACK_SEQUENCE.map fun k => canonicalAck k m (Session.digestAt (some d) k))) m d _ :=
      ⟨m.validate, hd, rfl, _, Session.canonicalSequence_eq m d, List.forall₂_same.mpr fun _ _ => rfl⟩
    exact ⟨rfl, rfl, rfl, ⟨rfl, hrun⟩, rfl, rfl, rfl, rfl,
      ⟨_, _, _, _, rfl, rfl, htime startedAt, htime finishedAt, horder⟩, ⟨m, d, _, hev⟩, rfl, rfl, rfl⟩

/-- `verify_result` is exact: it passes a run exactly when its file holds a result of
the required form, whether the run is named or found as the latest one, and every
result of the simulation passes unless the clock ran backwards. -/
theorem verifyResult_exact {sha256 : Bytes → String} (hsha : ∀ b, isSha256 (sha256 b) = true)
    {strptime : TimeParser} (htime : ∀ t : ClockTime, strptime t.isoText = .ok t.toUtcTime)
    (scan : Scanner) (display : String → String) :
    (∀ runs n file, Located runs n file →
      ((verifyResult scan strptime display runs (some n)).isOk = true ↔
        ∃ f, Holds scan file (.obj f) ∧ ResultOk strptime f n)) ∧
    (∀ runs entries entry file, runs.entries = some entries →
      latest (candidates entries) = some (entry, file) →
      ((verifyResult scan strptime display runs none).isOk = true ↔
        ∃ f, Holds scan file (.obj f) ∧ ResultOk strptime f entry.name)) ∧
    ∀ (startedAt issuedAt finishedAt : ClockTime) uuid, startedAt.order ≤ finishedAt.order →
      ∃ f, runCpuSimulation sha256 startedAt issuedAt finishedAt uuid = .ok f ∧
        ∀ runs file g, Located runs (newRunId issuedAt uuid) file → Holds scan file (.obj g) →
          Same (.obj g) (.obj f) →
          (verifyResult scan strptime display runs (some (newRunId issuedAt uuid))).isOk = true := by
  refine ⟨fun runs n file h => verifyResult_named h, ?_, ?_⟩
  · intro runs entries entry file hentries hlatest
    exact verifyResult_isOk (by simp [resultPath, hentries, hlatest])
  · intro startedAt issuedAt finishedAt uuid horder
    obtain ⟨f, hrun, hok⟩ := simulation_resultOk hsha htime startedAt issuedAt finishedAt uuid horder
    refine ⟨f, hrun, fun runs file g hfile hg hsame => ?_⟩
    exact (verifyResult_named hfile).mpr ⟨g, hg, hok g hsame⟩

def newYear : ClockTime := ⟨⟨2026, 1, 1, 0, 0, 0, 0, by decide⟩, by decide⟩

/-- A run directory whose `result.json` is an empty object. -/
def emptyResult : Runs :=
  ⟨"/runs", some [⟨newRunId newYear 0, false, true, some ⟨false, true, [0x7b, 0x7d], 0⟩⟩]⟩

theorem emptyResult_rejected :
    (∃ f, runCpuSimulation Sha256.hexdigest newYear newYear newYear 0 = .ok f) ∧
    (verifyResult Scan.scan UtcTime.ofIsoText id emptyResult (some (newRunId newYear 0))).isOk =
      false := by
  obtain ⟨hnamed, -, hsimulation⟩ := verifyResult_exact isSha256_hexdigest
    (fun t : ClockTime => UtcTime.ofIsoText_isoText t.toUtcTime) Scan.scan id
  obtain ⟨f, hf, -⟩ := hsimulation newYear newYear newYear 0 le_rfl
  have hlocated : Located emptyResult (newRunId newYear 0) ⟨false, true, [0x7b, 0x7d], 0⟩ :=
    ⟨_, by simp [emptyResult]; rfl, rfl, rfl, rfl⟩
  refine ⟨⟨f, hf⟩, Bool.eq_false_iff.mpr fun hok => ?_⟩
  obtain ⟨g, hg, hresult⟩ := (hnamed _ _ _ hlocated).mp hok
  obtain ⟨t, ht, -, -, hv⟩ := hg.text
  have hscan : Scan.scan [0x7b, 0x7d] = .ok (.obj []) := rfl
  obtain rfl : Tree.obj [] = t := by simpa [hscan] using ht
  obtain rfl : [] = g := by simpa [Tree.toJson, Tree.toJsonPairs] using hv
  exact absurd hresult.keys (by decide)

end ServerlessX.Cli
