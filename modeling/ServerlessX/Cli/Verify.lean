import ServerlessX.Contract.Parse
import ServerlessX.Py.Time

/-! `verify_result`: reading a recorded run back and checking it against a replay
of its acknowledgements. -/
namespace ServerlessX.Cli
open ServerlessX.Py ServerlessX.Py.Json ServerlessX.Contract

def RESULT_SCHEMA : String := "serverlessx.run-result.v1"
def VERIFICATION_SCHEMA : String := "serverlessx.verification.v1"
def RESULT_SCHEMA_VERSION : Int := 1
def EXIT_RUN_FAILED : Nat := 4
def EXIT_VERIFY_FAILED : Nat := 5

def RESULT_KEYS : List String :=
  ["schema", "schema_version", "run_id", "status", "system", "profile", "mode", "started_at",
    "finished_at", "metadata", "events", "outcome", "checks", "claims"]
def OUTCOME_KEYS : List String := ["state", "closed", "owners"]
def CHECK_KEYS : List String := ["completed_ack_sequence", "replay_rejected"]
def CLAIM_KEYS : List String :=
  ["contract_simulation", "kv_payload_transferred", "model_inference_performed",
    "gpu_execution_performed"]

/-- `CliError` carries its exit code; `contractError` is what the contract module
raises past the handlers. -/
inductive ErrorClass where
  | cliError (exitCode : Nat)
  | contractError (cls : Contract.ErrorClass)
  | builtin (b : Builtin)
deriving DecidableEq

abbrev Error := Raised ErrorClass

def cliError (s : String) : Error := ⟨.cliError EXIT_VERIFY_FAILED, [.text s]⟩

/-- A fixed-length pattern, one class for each character. -/
def fullmatch (pattern : List (Char → Bool)) (cs : List Char) : Bool :=
  pattern.length == cs.length && (pattern.zip cs).all fun p => p.1 p.2

/-- `[0-9]{8}T[0-9]{6}\.[0-9]{6}Z-[0-9a-f]{12}` -/
def SAFE_RUN_ID : List (Char → Bool) :=
  List.replicate 8 isDigit ++ [(· == 'T')] ++ List.replicate 6 isDigit ++ [(· == '.')] ++
    List.replicate 6 isDigit ++ [(· == 'Z'), (· == '-')] ++ List.replicate 12 isLowerHex

def isRunId (s : String) : Bool := fullmatch SAFE_RUN_ID s.toList

/-- A file as `lstat`, `is_symlink` and `is_file` see it, with its contents. -/
structure ResultFile where
  symlink : Bool
  regular : Bool
  content : Bytes
  mtimeNs : Int

/-- An entry of the runs directory with its `result.json`, if there is one. -/
structure RunDir where
  name : String
  symlink : Bool
  directory : Bool
  result : Option ResultFile

/-- The runs directory; `entries` is `none` where it is no directory. -/
structure Runs where
  root : String
  entries : Option (List RunDir)

def resultPathText (runs : Runs) (name : String) : String := runs.root ++ "/" ++ name ++ "/result.json"

def noDuplicatesHook (pairs : Fields) : Except (Raised Builtin) Json :=
  noDuplicates (fun key => ⟨.valueError, [.text "duplicate JSON key ", .repr (.str key)]⟩) [] pairs

def loadHooks : Hooks (Raised Builtin) :=
  ⟨noDuplicatesHook, fun c =>
    .error ⟨.valueError, [.text "non-finite JSON constant ", .repr (.str (Constant.text c))]⟩⟩

/-- What `_load_json` translates; a `RecursionError` passes. -/
def loadError (path : String) (e : Raised Builtin) : Error :=
  if e.cls = .recursionError then ⟨.builtin .recursionError, e.message⟩
  else ⟨.cliError EXIT_VERIFY_FAILED, .text ("cannot parse " ++ path ++ ": ") :: e.message⟩

def loadJson (scan : Scanner) (path : String) (file : Option ResultFile) : Except Error Json :=
  match file with
  | none => .error (cliError ("cannot inspect " ++ path))
  | some file => do
    require (!file.symlink && file.regular) (cliError ("refusing non-regular JSON file " ++ path))
    require (decide (1 ≤ file.content.length ∧ file.content.length ≤ 4 <<< 20))
      (cliError ("JSON file " ++ path ++ " must be between 1 and " ++ strInt (4 <<< 20) ++ " bytes"))
    match loads scan loadHooks id file.content with
    | .ok v => .ok v
    | .error e => .error (loadError path e)

def exactMapping (value : Json) (keys : List String) (name : String) : Except Error Fields :=
  match value with
  | .obj f =>
    if hasKeys f keys then .ok f
    else
      let actual := f.map Prod.fst
      .error ⟨.cliError EXIT_VERIFY_FAILED, [.text (name ++ " keys differ: missing="),
        .shown (sortedText (keys.filter fun k => !actual.contains k)), .text ", unknown=",
        .shown (sortedText (actual.filter fun k => !keys.contains k))]⟩
  | _ => .error (cliError (name ++ " must be an object"))

/-- The directories an unnamed run is looked for in. -/
def candidates (entries : List RunDir) : List (RunDir × ResultFile) :=
  entries.filterMap fun entry =>
    if entry.symlink || !entry.directory || !isRunId entry.name then none
    else match entry.result with
      | some file => if !file.symlink && file.regular then some (entry, file) else none
      | none => none

/-- `max(candidates, key=lambda path: (path.stat().st_mtime_ns, path.parent.name))` -/
def latest (runs : List (RunDir × ResultFile)) : Option (RunDir × ResultFile) :=
  runs.foldl (fun best c => match best with
    | none => some c
    | some b =>
      if b.2.mtimeNs < c.2.mtimeNs ∨ (b.2.mtimeNs = c.2.mtimeNs ∧ b.1.name < c.1.name) then some c
      else some b) none

/-- `_result_path`: the name of the run directory and its file. -/
def resultPath (runs : Runs) (runId : Option String) : Except Error (String × Option ResultFile) :=
  match runId with
  | some name => do
    require (isRunId name) (cliError "run id has an invalid format")
    match (runs.entries.getD []).find? (fun entry => entry.name == name) with
    | some entry => do
      require (!entry.symlink) (cliError "refusing a symlinked run directory")
      return (name, if entry.directory then entry.result else none)
    | none => return (name, none)
  | none =>
    match runs.entries with
    | none => .error (cliError ("no runs directory found at " ++ runs.root))
    | some entries => match latest (candidates entries) with
      | some (entry, file) => .ok (entry.name, some file)
      | none => .error (cliError "no run result is available")

/-- `strptime(text, "%Y-%m-%dT%H:%M:%S.%fZ")`, a given partial function. -/
abbrev TimeParser := String → Except (Raised Builtin) UtcTime

def parseTime (strptime : TimeParser) (value : Json) (name : String) : Except Error UtcTime :=
  match value with
  | .str s => match strptime s with
    | .ok t => .ok t
    | .error e => .error ⟨.cliError EXIT_VERIFY_FAILED,
        .text (name ++ " must be a UTC timestamp: ") :: e.message⟩
  | _ => .error (cliError (name ++ " must be a UTC timestamp"))

/-- `except contract.ContractError`; built-in exceptions pass. -/
def replayError (e : Contract.Error) : Error :=
  match e.cls with
  | .builtin b => ⟨.builtin b, e.message⟩
  | _ => ⟨.cliError EXIT_VERIFY_FAILED, .text "contract evidence failed replay: " :: e.message⟩

/-- `for event in events: session.advance(event)` -/
def replay : List Json → Act Session Contract.Error Unit
  | [] => return
  | event :: events => do
    let _ ← Session.advance event
    replay events

def eventList (value : Json) : Except Error (List Json) :=
  match value with
  | .list events =>
    if events.length = ACK_SEQUENCE.length then .ok events
    else .error (cliError "result must contain the complete ACK sequence")
  | _ => .error (cliError "result must contain the complete ACK sequence")

/-- The session that the recorded events lead to. -/
def replayed (metadata events : Json) : Except Error (List Json × Session) := do
  let metadata ← (validateMetadata metadata none).mapError replayError
  let session ← (Session.construct metadata EpochLedger.empty).1.mapError replayError
  let events ← eventList events
  match replay events session with
  | (.ok _, session) => return (events, session)
  | (.error e, _) => .error (replayError e)

def isBool : Json → Bool
  | .bool _ => true
  | _ => false

def closedOutcome : Fields :=
  [("state", .str AckKind.sourceReleased.value), ("closed", .bool true),
    ("owners", .obj [("source", .bool false), ("target", .bool false)])]

def expectedSequence : Json := .list (ACK_SEQUENCE.map fun kind => .str kind.value)

def simulationClaims : Fields :=
  [("contract_simulation", .bool true), ("kv_payload_transferred", .bool false),
    ("model_inference_performed", .bool false), ("gpu_execution_performed", .bool false)]

def ownersStrict (owners : Json) : Bool :=
  match owners with
  | .obj f => hasKeys f ["source", "target"] && isBool (get f "source") && isBool (get f "target")
  | _ => false

def checkOutcome (value : Json) (session : Session) : Except Error Unit := do
  let outcome ← exactMapping value OUTCOME_KEYS "outcome"
  require (isBool (get outcome "closed") && ownersStrict (get outcome "owners"))
    (cliError "outcome ownership fields must be strict booleans")
  require (pyEq (.obj outcome) (.obj closedOutcome))
    (cliError "recorded outcome is not the closed ownership state")
  require (session.closed && pyEq (.str session.state) (get outcome "state") &&
      pyEq (.obj session.owners) (get outcome "owners"))
    (cliError "replayed state differs from the recorded outcome")

/-- `events[-1]` is offered once more and has to be refused. -/
def replayRejected (events : List Json) (session : Session) : Except Error Bool :=
  match events.getLast? with
  | none => .error ⟨.builtin .indexError, [.text "list index out of range"]⟩
  | some last => match (Session.advance last session).1 with
    | .ok _ => .ok false
    | .error e =>
      if e.cls = .protocolError then .ok true else .error ⟨.contractError e.cls, e.message⟩

def checkChecks (value : Json) (events : List Json) (session : Session) : Except Error Unit := do
  let checks ← exactMapping value CHECK_KEYS "checks"
  require (pyEq (get checks "completed_ack_sequence") expectedSequence)
    (cliError "recorded ACK sequence is incomplete")
  let rejected ← replayRejected events session
  require ((match get checks "replay_rejected" with | .bool b => b | _ => false) && rejected)
    (cliError "replay rejection evidence is missing")

def checkClaims (value : Json) : Except Error Unit := do
  let claims ← exactMapping value CLAIM_KEYS "claims"
  require (CLAIM_KEYS.all fun name => isBool (get claims name))
    (cliError "claim fields must be strict booleans")
  require (pyEq (.obj claims) (.obj simulationClaims))
    (cliError "result makes unsupported CPU simulation claims")

/-- `result["run_id"]` when it is a string. -/
def runIdOf (value : Json) : Except Error String :=
  match value with
  | .str s => if isRunId s then .ok s else .error (cliError "result run_id is invalid")
  | _ => .error (cliError "result run_id is invalid")

/-- What `verify_result` checks of a document found in the directory `name`. -/
def verifyDocument (strptime : TimeParser) (value : Json) (name : String) :
    Except Error String := do
  let result ← exactMapping value RESULT_KEYS "result"
  require (pyEq (get result "schema") (.str RESULT_SCHEMA) && (isInt (get result "schema_version") &&
      pyEq (get result "schema_version") (.int RESULT_SCHEMA_VERSION)))
    (cliError "result schema identity mismatch")
  let runId ← runIdOf (get result "run_id")
  require (runId == name) (cliError "result run_id does not match its directory")
  require (pyEq (get result "status") (.str "pass")) (cliError "result does not report pass")
  require (pyEq (get result "system") (.str "spd") && pyEq (get result "profile") (.str "cpu"))
    (cliError "result is not an SPD CPU profile run")
  require (pyEq (get result "mode") (.str "contract-simulation"))
    (cliError "result mode is not contract-simulation")
  let started ← parseTime strptime (get result "started_at") "started_at"
  let finished ← parseTime strptime (get result "finished_at") "finished_at"
  require (decide (started.order ≤ finished.order)) (cliError "finished_at precedes started_at")
  let (events, session) ← replayed (get result "metadata") (get result "events")
  checkOutcome (get result "outcome") session
  checkChecks (get result "checks") events session
  checkClaims (get result "claims")
  return runId

def verifyResult (scan : Scanner) (strptime : TimeParser) (display : String → String)
    (runs : Runs) (runId : Option String) : Except Error Json := do
  let (name, file) ← resultPath runs runId
  let path := resultPathText runs name
  let runId ← verifyDocument strptime (← loadJson scan path file) name
  return .obj [("schema", .str VERIFICATION_SCHEMA), ("status", .str "pass"), ("run_id", .str runId),
    ("result_path", .str (display path)),
    ("checks", .list (["schema", "timestamps", "metadata", "ack-replay", "ownership-closure",
      "claim-boundary"].map .str))]

/-! ### What passes -/

theorem exactMapping_eq_ok (v : Json) (keys : List String) (name : String) (f : Fields) :
    exactMapping v keys name = .ok f ↔ v = .obj f ∧ hasKeys f keys = true := by
  cases v with
  | obj g => simpa [exactMapping] using checked_eq_ok (fun g => hasKeys g keys = true) g f _
  | _ => simp [exactMapping]

theorem runIdOf_eq_ok (v : Json) (s : String) :
    runIdOf v = .ok s ↔ v = .str s ∧ isRunId s = true := by
  cases v with
  | str t => simpa [runIdOf] using checked_eq_ok (fun t => isRunId t = true) t s _
  | _ => simp [runIdOf]

theorem parseTime_eq_ok (strptime : TimeParser) (v : Json) (name : String) (t : UtcTime) :
    parseTime strptime v name = .ok t ↔ ∃ s, v = .str s ∧ strptime s = .ok t := by
  cases v with
  | str s => cases hs : strptime s <;> simp [parseTime, hs]
  | _ => simp [parseTime]

theorem eventList_eq_ok (v : Json) (es : List Json) :
    eventList v = .ok es ↔ v = .list es ∧ es.length = ACK_SEQUENCE.length := by
  cases v with
  | list xs =>
    simpa [eventList] using checked_eq_ok (fun xs : List Json => xs.length = ACK_SEQUENCE.length)
      xs es _
  | _ => simp [eventList]

theorem isBool_and_pyEq (v : Json) (b : Bool) :
    isBool v = true ∧ pyEq v (.bool b) = true ↔ v = .bool b := by
  cases v with
  | bool c => cases c <;> cases b <;> simp [isBool, pyEq, numEq, asInt]
  | _ => simp [isBool]

/-- Every event of a replay that goes through is an acknowledgement the session
accepts. -/
theorem replay_tracks {m : Metadata} {s s' : Session} {events acks : List Json} {u : Unit}
    (h : replay events s = (.ok u, s')) (htracks : Session.Tracks m s acks)
    (ha : s.abortedReason = none) :
    Session.Tracks m s' (acks ++ events) ∧ s'.abortedReason = none := by
  induction events generalizing s acks with
  | nil =>
    obtain ⟨-, rfl⟩ := (Act.pure_run_ok _ _ _ _).mp h
    exact ⟨by simpa using htracks, ha⟩
  | cons event events ih =>
    obtain ⟨a, t, hstep, hrest⟩ := (Act.bind_run_ok _ _ _ _ _).mp h
    obtain ⟨t', hacc, hadv⟩ | ⟨e, he⟩ := Session.advance_cases s event
    · obtain ⟨rfl, rfl⟩ : event = a ∧ t' = t := by simpa [hadv] using hstep
      have hmove : s.Move (.advance event) (some event) t' := .ack rfl hacc
      have hnext := Session.tracks_move htracks hmove
      have ha' : t'.abortedReason = none := by
        obtain ⟨k, d, -, -, -, -, rfl⟩ := hacc
        simpa using ha
      simpa using ih hrest hnext ha'
    · simp [he] at hstep

/-- From any point of the canonical sequence the rest of it is accepted. -/
theorem replay_standing {m : Metadata} {d : String} (hd : isSha256 d = true) {n : Nat} (hn : n ≤ 7)
    {events : List Json} (h : List.Forall₂ Same events
      ((ACK_SEQUENCE.drop n).map fun k => canonicalAck k m (Session.digestAt (some d) k))) :
    replay events (.standing m d n) = (.ok (), .standing m d 7) := by
  induction events generalizing n with
  | nil =>
    have hlen := h.length_eq
    simp only [List.length_nil, List.length_map, List.length_drop] at hlen
    obtain rfl : n = 7 := by
      change 0 = 7 - n at hlen
      omega
    rfl
  | cons event events ih =>
    have hlt : n < ACK_SEQUENCE.length := by
      have hlen := h.length_eq
      simp only [List.length_cons, List.length_map, List.length_drop] at hlen
      omega
    rw [List.drop_eq_getElem_cons hlt, List.map_cons, List.forall₂_cons] at h
    have hadv := Session.advance_standing hd (List.getElem?_eq_getElem hlt) h.1
    refine (Act.bind_run_ok _ _ _ _ _).mpr ⟨event, _, hadv, ?_⟩
    exact ih hlt h.2

theorem mapError_eq_ok {ε ε' α : Type} (x : Except ε α) (f : ε → ε') (a : α) :
    x.mapError f = .ok a ↔ x = .ok a := by
  cases x <;> simp [Except.mapError]

/-- The evidence of a run: valid metadata, and the canonical sequence over it. -/
structure Evidence (metadata events : Json) (m : Metadata) (d : String) (es : List Json) : Prop where
  metadata : validateMetadata metadata none = .ok m.json
  digest : isSha256 d = true
  list : events = .list es
  events : ∃ acks, Session.canonicalSequence m d = .ok acks ∧ List.Forall₂ Same es acks

theorem validateMetadata_none (v : Json) (m : Metadata) :
    validateMetadata v none = .ok m.json ↔ v = m.json := by
  constructor
  · intro h
    exact ((validateMetadata_eq_ok _ _).mp h).1.symm
  · rintro rfl
    exact m.validate

/-- The replay succeeds exactly on evidence of a complete run. -/
theorem replayed_eq_ok (metadata events : Json) (es : List Json) (s : Session) :
    replayed metadata events = .ok (es, s) ↔
      ∃ m d, Evidence metadata events m d es ∧ s = .standing m d 7 := by
  constructor
  · intro h
    simp only [replayed, bind_eq_ok, mapError_eq_ok, eventList_eq_ok] at h
    obtain ⟨w, hw, s₀, hs₀, xs, ⟨rfl, hlen⟩, hrun⟩ := h
    obtain ⟨rfl, f, rfl, hf⟩ := (validateMetadata_eq_ok _ _).mp hw
    let m : Metadata := ⟨f, hf⟩
    have hinit : Session.init m = s₀ := by
      have hc := Session.construct_empty m
      simpa [hs₀, m, Metadata.json] using congrArg Prod.fst hc.symm
    subst hinit
    cases hr : replay xs (.init m) with
    | mk r t =>
      cases r with
      | error e => simp [hr] at hrun
      | ok u =>
        obtain ⟨rfl, rfl⟩ : xs = es ∧ t = s := by simpa [hr, pure, Except.pure] using hrun
        obtain ⟨htracks, ha⟩ := replay_tracks hr (Session.tracks_init m) rfl
        rw [List.nil_append] at htracks
        obtain ⟨d, hd, hs, hall⟩ := Session.standing_of_tracks htracks ha hlen
        exact ⟨m, d, ⟨hw, hd, rfl, _, Session.canonicalSequence_eq m d, hall⟩, hs⟩
  · rintro ⟨m, d, ⟨hm, hd, rfl, acks, hacks, hall⟩, rfl⟩
    rw [Session.canonicalSequence_eq] at hacks
    cases hacks
    obtain rfl := (validateMetadata_none _ _).mp hm
    have hlen : es.length = ACK_SEQUENCE.length := by simpa using hall.length_eq
    have hrun : replay es (.init m) = (.ok (), .standing m d 7) :=
      replay_standing hd (Nat.zero_le 7) hall
    simp [replayed, hm, Except.mapError, bind, Except.bind, Session.construct_empty, eventList, hlen,
      hrun, pure, Except.pure]

def releasedOwners : Fields := [("source", .bool false), ("target", .bool false)]

theorem ownersStrict_and_pyEq {v : Json} (hv : v.distinct = true) :
    ownersStrict v = true ∧ pyEq v (.obj releasedOwners) = true ↔ Same v (.obj releasedOwners) := by
  cases v with
  | obj f =>
    obtain ⟨hf, -⟩ := distinct_obj hv
    rw [same_obj_iff_fields _ _ (by decide)]
    have hpy := @pyEq_obj_iff f releasedOwners hf (by decide)
    simp only [releasedOwners, List.map_cons, List.map_nil, List.mem_cons, List.not_mem_nil, or_false,
      forall_eq_or_imp, forall_eq, same_bool, ownersStrict, Bool.and_eq_true] at hpy ⊢
    constructor
    · rintro ⟨⟨⟨hk, hsource⟩, htarget⟩, heq⟩
      obtain ⟨hs, ht⟩ := (hpy hk).mp heq
      exact ⟨hk, (isBool_and_pyEq _ _).mp ⟨hsource, hs⟩, (isBool_and_pyEq _ _).mp ⟨htarget, ht⟩⟩
    · rintro ⟨hk, hs, ht⟩
      obtain ⟨hsource, hs⟩ := (isBool_and_pyEq _ _).mpr hs
      obtain ⟨htarget, ht⟩ := (isBool_and_pyEq _ _).mpr ht
      exact ⟨⟨⟨hk, hsource⟩, htarget⟩, (hpy hk).mpr ⟨hs, ht⟩⟩
  | _ => simp [ownersStrict, Same, Json.norm]

/-- The released owners also compare equal from the other side. -/
theorem pyEq_releasedOwners {v : Json} (hv : v.distinct = true) (h : Same v (.obj releasedOwners)) :
    pyEq (.obj releasedOwners) v = true := by
  obtain ⟨f, rfl⟩ := same_obj_left h
  obtain ⟨hf, -⟩ := distinct_obj hv
  obtain ⟨hk, hvals⟩ := (same_obj_iff_fields _ _ (by decide)).mp h
  have hlen : f.length = 2 := length_of_hasKeys hf (by decide) hk
  simp only [releasedOwners, List.mem_cons, List.not_mem_nil, or_false, forall_eq_or_imp, forall_eq,
    same_bool] at hvals
  have hsource := lookup_of_hasKeys hk (show "source" ∈ _ by decide)
  have htarget := lookup_of_hasKeys hk (show "target" ∈ _ by decide)
  simp [pyEq, pyEqFields, releasedOwners, hlen, hsource, htarget, hvals.1, hvals.2, numEq, asInt]

theorem checkOutcome_eq_ok {v : Json} (hv : v.distinct = true) (m : Metadata) (d : String) (u : Unit) :
    checkOutcome v (.standing m d 7) = .ok u ↔ Same v (.obj closedOutcome) := by
  have hsession : (Session.standing m d 7).closed = true ∧
      (Session.standing m d 7).state = "SOURCE_RELEASED" ∧
      (Session.standing m d 7).owners = releasedOwners := ⟨rfl, rfl, rfl⟩
  simp only [checkOutcome, bind_eq_ok, exactMapping_eq_ok, require_eq_ok, hsession, Bool.true_and,
    Bool.and_eq_true]
  constructor
  · rintro ⟨f, ⟨rfl, hk⟩, -, ⟨hclosed, howners⟩, -, heq, -⟩
    obtain ⟨hf, hsub⟩ := distinct_obj hv
    have hvals := (@pyEq_obj_iff f closedOutcome hf (by decide) hk).mp heq
    simp only [closedOutcome, List.mem_cons, List.not_mem_nil, or_false, forall_eq_or_imp,
      forall_eq, pyEq_str] at hvals
    obtain ⟨hstate, hc, ho⟩ := hvals
    rw [same_obj_iff_fields _ _ (by decide)]
    refine ⟨hk, ?_⟩
    simp only [closedOutcome, List.mem_cons, List.not_mem_nil, or_false, forall_eq_or_imp, forall_eq,
      same_str, same_bool]
    exact ⟨hstate, (isBool_and_pyEq _ _).mp ⟨hclosed, hc⟩,
      (ownersStrict_and_pyEq (hsub "owners")).mp ⟨howners, ho⟩⟩
  · intro hs
    obtain ⟨f, rfl⟩ := same_obj_left hs
    obtain ⟨hf, hsub⟩ := distinct_obj hv
    obtain ⟨hk, hvals⟩ := (same_obj_iff_fields _ _ (by decide)).mp hs
    simp only [closedOutcome, List.mem_cons, List.not_mem_nil, or_false, forall_eq_or_imp, forall_eq,
      same_str, same_bool] at hvals
    obtain ⟨hstate, hc, ho⟩ := hvals
    obtain ⟨hclosed, hc⟩ := (isBool_and_pyEq _ _).mpr hc
    obtain ⟨howners, ho'⟩ := (ownersStrict_and_pyEq (hsub "owners")).mpr ho
    refine ⟨f, ⟨rfl, hk⟩, (), ⟨hclosed, howners⟩, (), ?_, ?_, ?_⟩
    · rw [@pyEq_obj_iff f closedOutcome hf (by decide) hk]
      simp only [closedOutcome, List.mem_cons, List.not_mem_nil, or_false, forall_eq_or_imp,
        forall_eq, pyEq_str]
      exact ⟨hstate, hc, ho'⟩
    · rw [hstate, pyEq_str]
      rfl
    · exact pyEq_releasedOwners (hsub "owners") ho

def closedChecks : Fields :=
  [("completed_ack_sequence", expectedSequence), ("replay_rejected", .bool true)]

theorem pyEq_expectedSequence (v : Json) :
    pyEq v expectedSequence = true ↔ Same v expectedSequence := by
  have hstrs : expectedSequence = .list ((ACK_SEQUENCE.map AckKind.value).map .str) := rfl
  have hsame : ∀ xs : List Json, Same (.list xs) expectedSequence ↔
      xs = (ACK_SEQUENCE.map AckKind.value).map .str := by
    intro xs
    rw [hstrs, same_list]
    simp only [Json.list.injEq, exists_eq_left', List.forall₂_map_right_iff, same_str]
    rw [← List.forall₂_eq_eq_eq, List.forall₂_map_right_iff, List.forall₂_map_right_iff]
  cases v with
  | list xs => rw [hsame, ← pyEqList_strs, hstrs, pyEq]
  | _ => simp [hstrs, pyEq, numEq, asInt, sameType, Same, Json.norm]

theorem replayRejected_standing {events : List Json} {a : Json} (h : events.getLast? = some a)
    (m : Metadata) (d : String) : replayRejected events (.standing m d 7) = .ok true := by
  have hadv : (Session.advance a (.standing m d 7)).1 =
      .error (protocolError "completed session cannot accept ACKs") := rfl
  simp [replayRejected, h, hadv, protocolError, Contract.Error.text]

theorem checkChecks_eq_ok (v : Json) {events : List Json} (hne : events ≠ []) (m : Metadata)
    (d : String) (u : Unit) :
    checkChecks v events (.standing m d 7) = .ok u ↔ Same v (.obj closedChecks) := by
  have hrejected := replayRejected_standing (List.getLast?_eq_some_getLast hne) m d
  have htrue : ∀ w : Json, (match w with | .bool b => b | _ => false) = true ↔ w = .bool true := by
    intro w
    cases w <;> simp
  simp only [checkChecks, bind_eq_ok, exactMapping_eq_ok, require_eq_ok, hrejected, Except.ok.injEq,
    exists_eq_left', Bool.and_true, pyEq_expectedSequence, htrue]
  constructor
  · rintro ⟨f, ⟨rfl, hk⟩, -, hseq, hrej⟩
    refine (same_obj_iff_fields _ _ (by decide)).mpr ⟨hk, ?_⟩
    simp only [closedChecks, List.mem_cons, List.not_mem_nil, or_false, forall_eq_or_imp, forall_eq,
      same_bool]
    exact ⟨hseq, hrej⟩
  · intro hs
    obtain ⟨f, rfl⟩ := same_obj_left hs
    obtain ⟨hk, hvals⟩ := (same_obj_iff_fields _ _ (by decide)).mp hs
    simp only [closedChecks, List.mem_cons, List.not_mem_nil, or_false, forall_eq_or_imp, forall_eq,
      same_bool] at hvals
    exact ⟨f, ⟨rfl, hk⟩, (), hvals⟩

theorem checkClaims_eq_ok {v : Json} (hv : v.distinct = true) (u : Unit) :
    checkClaims v = .ok u ↔ Same v (.obj simulationClaims) := by
  simp only [checkClaims, bind_eq_ok, exactMapping_eq_ok, require_eq_ok, List.all_eq_true]
  -- a claim is strict and equal exactly when it is the constant
  have hfield : ∀ f : Fields, (∀ e ∈ simulationClaims, Same (get f e.1) e.2) ↔
      (∀ k ∈ CLAIM_KEYS, isBool (get f k) = true) ∧
        ∀ e ∈ simulationClaims, pyEq (get f e.1) e.2 = true := by
    intro f
    simp only [simulationClaims, CLAIM_KEYS, List.mem_cons, List.not_mem_nil, or_false,
      forall_eq_or_imp, forall_eq, same_bool, ← isBool_and_pyEq]
    tauto
  constructor
  · rintro ⟨f, ⟨rfl, hk⟩, -, hbool, heq⟩
    obtain ⟨hf, -⟩ := distinct_obj hv
    have hvals := (@pyEq_obj_iff f simulationClaims hf (by decide) hk).mp heq
    exact (same_obj_iff_fields _ _ (by decide)).mpr ⟨hk, (hfield f).mpr ⟨hbool, hvals⟩⟩
  · intro hs
    obtain ⟨f, rfl⟩ := same_obj_left hs
    obtain ⟨hf, -⟩ := distinct_obj hv
    obtain ⟨hk, hvals⟩ := (same_obj_iff_fields _ _ (by decide)).mp hs
    obtain ⟨hbool, heq⟩ := (hfield f).mp hvals
    exact ⟨f, ⟨rfl, hk⟩, (), hbool, (@pyEq_obj_iff f simulationClaims hf (by decide) hk).mpr heq⟩

/-- What a result has to be: every fixed field has its value, the times are in
order, the evidence is the canonical sequence, and the last three members are the
constants of a closed session, bool for bool. -/
structure ResultOk (strptime : TimeParser) (f : Fields) (n : String) : Prop where
  keys : hasKeys f RESULT_KEYS = true
  schema : get f "schema" = .str RESULT_SCHEMA
  schemaVersion : get f "schema_version" = .int RESULT_SCHEMA_VERSION
  runId : get f "run_id" = .str n ∧ isRunId n = true
  status : get f "status" = .str "pass"
  system : get f "system" = .str "spd"
  profile : get f "profile" = .str "cpu"
  mode : get f "mode" = .str "contract-simulation"
  times : ∃ s t started finished, get f "started_at" = .str s ∧ get f "finished_at" = .str t ∧
    strptime s = .ok started ∧ strptime t = .ok finished ∧ started.order ≤ finished.order
  evidence : ∃ m d es, Evidence (get f "metadata") (get f "events") m d es
  outcome : Same (get f "outcome") (.obj closedOutcome)
  checks : Same (get f "checks") (.obj closedChecks)
  claims : Same (get f "claims") (.obj simulationClaims)

theorem Evidence.ne_nil {metadata events : Json} {m : Metadata} {d : String} {es : List Json}
    (h : Evidence metadata events m d es) : es ≠ [] := by
  obtain ⟨acks, hacks, hall⟩ := h.events
  rw [Session.canonicalSequence_eq] at hacks
  cases hacks
  rintro rfl
  cases hall

theorem verifyDocument_eq_ok {strptime : TimeParser} {v : Json} (hv : v.distinct = true)
    (n r : String) :
    verifyDocument strptime v n = .ok r ↔ r = n ∧ ∃ f, v = .obj f ∧ ResultOk strptime f n := by
  constructor
  · intro h
    simp only [verifyDocument, bind_eq_ok, exactMapping_eq_ok, require_eq_ok, Bool.and_eq_true, pyEq_str,
      isInt_and_pyEq, runIdOf_eq_ok, beq_iff_eq, parseTime_eq_ok, decide_eq_true_eq, Prod.exists] at h
    obtain ⟨f, ⟨rfl, hkeys⟩, -, ⟨hschema, hversion⟩, q, hrun, -, rfl, -, hstatus, -,
      ⟨hsystem, hprofile⟩, -, hmode, started, ⟨s, hs, hstarted⟩, finished, ⟨t, ht, hfinished⟩, -,
      horder, es, session, hreplay, _, houtcome, _, hchecks, _, hclaims, hret⟩ := h
    obtain ⟨-, hsub⟩ := distinct_obj hv
    obtain ⟨m, d, hev, rfl⟩ := (replayed_eq_ok _ _ _ _).mp hreplay
    cases hret
    exact ⟨rfl, f, rfl, hkeys, hschema, hversion, hrun, hstatus, hsystem, hprofile, hmode,
      ⟨s, t, started, finished, hs, ht, hstarted, hfinished, horder⟩, ⟨m, d, es, hev⟩,
      (checkOutcome_eq_ok (hsub _) m d _).mp houtcome,
      (checkChecks_eq_ok _ hev.ne_nil m d _).mp hchecks, (checkClaims_eq_ok (hsub _) _).mp hclaims⟩
  · rintro ⟨rfl, f, rfl, hkeys, hschema, hversion, hrun, hstatus, hsystem, hprofile, hmode,
      ⟨s, t, started, finished, hs, ht, hstarted, hfinished, horder⟩, ⟨m, d, es, hev⟩, houtcome,
      hchecks, hclaims⟩
    obtain ⟨-, hsub⟩ := distinct_obj hv
    simp only [verifyDocument, bind_eq_ok, exactMapping_eq_ok, require_eq_ok, Bool.and_eq_true, pyEq_str,
      isInt_and_pyEq, runIdOf_eq_ok, beq_iff_eq, parseTime_eq_ok, decide_eq_true_eq, Prod.exists]
    exact ⟨f, ⟨rfl, hkeys⟩, (), ⟨hschema, hversion⟩, r, hrun, (), rfl, (), hstatus, (),
      ⟨hsystem, hprofile⟩, (), hmode, started, ⟨s, hs, hstarted⟩, finished, ⟨t, ht, hfinished⟩, (),
      horder, es, .standing m d 7, (replayed_eq_ok _ _ _ _).mpr ⟨m, d, hev, rfl⟩, (),
      (checkOutcome_eq_ok (hsub _) m d _).mpr houtcome, (),
      (checkChecks_eq_ok _ hev.ne_nil m d _).mpr hchecks, (),
      (checkClaims_eq_ok (hsub _) _).mpr hclaims, rfl⟩

/-! ### The stored file -/

/-- The document that a readable `result.json` holds. -/
structure Holds (scan : Scanner) (file : ResultFile) (v : Json) : Prop where
  plain : file.symlink = false
  regular : file.regular = true
  size : 1 ≤ file.content.length ∧ file.content.length ≤ 4 <<< 20
  text : ∃ t, scan file.content = .ok t ∧ t.distinctKeys = true ∧ t.constantFree = true ∧ t.toJson = v

theorem Holds.distinct {scan : Scanner} {file : ResultFile} {v : Json} (h : Holds scan file v) :
    v.distinct = true := by
  obtain ⟨t, -, hkeys, -, rfl⟩ := h.text
  exact Tree.distinct_toJson hkeys

theorem build_loadHooks (t : Tree) (v : Json) :
    t.build loadHooks = .ok v ↔ t.distinctKeys = true ∧ t.constantFree = true ∧ t.toJson = v := by
  have hobject : ∀ pairs w, loadHooks.object pairs = .ok w ↔
      .obj pairs = w ∧ (pairs.map Prod.fst).Nodup := fun pairs w => noDuplicates_nil _ pairs w
  have hconstant : ∀ c w, loadHooks.constant c = .ok w ↔ false = true ∧ c.float = w := by
    simp [loadHooks]
  simpa using Tree.build_eq_ok hobject hconstant t v

theorem loadJson_eq_ok (scan : Scanner) (path : String) (file : ResultFile) (v : Json) :
    loadJson scan path (some file) = .ok v ↔ Holds scan file v := by
  have hloads : loads scan loadHooks id file.content = .ok v ↔ ∃ t, scan file.content = .ok t ∧
      t.distinctKeys = true ∧ t.constantFree = true ∧ t.toJson = v := by
    unfold loads
    cases scan file.content with
    | error e => simp
    | ok t => simp [build_loadHooks]
  have htail : (match loads scan loadHooks id file.content with
      | .ok v => Except.ok v
      | .error e => .error (loadError path e)) = .ok v ↔
      loads scan loadHooks id file.content = .ok v := by
    cases loads scan loadHooks id file.content <;> simp
  simp only [loadJson, bind_eq_ok, require_eq_ok, Bool.and_eq_true, Bool.not_eq_true', decide_eq_true_eq,
    exists_const, htail, hloads]
  constructor
  · rintro ⟨⟨hplain, hregular⟩, hsize, htext⟩
    exact ⟨hplain, hregular, hsize, htext⟩
  · rintro ⟨hplain, hregular, hsize, htext⟩
    exact ⟨⟨hplain, hregular⟩, hsize, htext⟩

theorem verifyResult_isOk {scan : Scanner} {strptime : TimeParser} {display : String → String}
    {runs : Runs} {runId : Option String} {n : String} {file : ResultFile}
    (h : resultPath runs runId = .ok (n, some file)) :
    (verifyResult scan strptime display runs runId).isOk = true ↔
      ∃ f, Holds scan file (.obj f) ∧ ResultOk strptime f n := by
  constructor
  · intro hok
    obtain ⟨r, hr⟩ := ok_of_isOk hok
    simp only [verifyResult, h, bind_eq_ok, Except.ok.injEq, exists_eq_left', loadJson_eq_ok] at hr
    obtain ⟨v, hv, q, hq, -⟩ := hr
    obtain ⟨-, f, rfl, hf⟩ := (verifyDocument_eq_ok hv.distinct _ _).mp hq
    exact ⟨f, hv, hf⟩
  · rintro ⟨f, hf, hok⟩
    have hload := (loadJson_eq_ok scan (resultPathText runs n) file (.obj f)).mpr hf
    have hdoc := (verifyDocument_eq_ok hf.distinct n n).mpr ⟨rfl, f, rfl, hok⟩
    simp [verifyResult, h, bind, Except.bind, hload, hdoc, pure, Except.pure, Except.isOk, Except.toBool]

/-- The run directory `n` with its `result.json`, both no links. -/
def Located (runs : Runs) (n : String) (file : ResultFile) : Prop :=
  ∃ entry, (runs.entries.getD []).find? (fun e => e.name == n) = some entry ∧
    entry.symlink = false ∧ entry.directory = true ∧ entry.result = some file

/-- A run named on the command line is looked up in its directory. -/
theorem verifyResult_named {scan : Scanner} {strptime : TimeParser} {display : String → String}
    {runs : Runs} {n : String} {file : ResultFile} (h : Located runs n file) :
    (verifyResult scan strptime display runs (some n)).isOk = true ↔
      ∃ f, Holds scan file (.obj f) ∧ ResultOk strptime f n := by
  obtain ⟨entry, hfind, hlink, hdir, hfile⟩ := h
  by_cases hn : isRunId n = true
  · have hpath : resultPath runs (some n) = .ok (n, some file) := by
      simp [resultPath, hn, hfind, hlink, hdir, hfile, require, bind, Except.bind, pure, Except.pure]
    exact verifyResult_isOk hpath
  · have hpath : resultPath runs (some n) = .error (cliError "run id has an invalid format") := by
      simp [resultPath, hn, require, bind, Except.bind]
    constructor
    · intro hok
      simp [verifyResult, hpath, bind, Except.bind, Except.isOk, Except.toBool] at hok
    · rintro ⟨f, -, hf⟩
      exact absurd hf.runId.2 hn

end ServerlessX.Cli
