import ServerlessX.Cli.Profiles
import ServerlessX.Py.JsonScan

/-! `build_plan`: which profile a request selects on a host, and what the run
command does with the plan. -/
namespace ServerlessX.Cli
open ServerlessX.Py ServerlessX.Py.Json ServerlessX.Contract

def EXIT_OK : Nat := 0
def EXIT_UNAVAILABLE : Nat := 3

/-- What a profile is checked against: `sys.version_info[:2]`, the commands
`shutil.which` finds and the paths that exist. -/
structure Host where
  version : Nat × Nat
  which : String → Bool
  pathExists : String → Bool

/-- `int` refuses a text for its length alone. -/
def tooLong : Error :=
  ⟨.builtin .valueError, [.text "Exceeds the limit (4300 digits) for integer string conversion"]⟩

/-- `int(text)` on ASCII digits; the interpreter refuses more than 4300. -/
def intOfDigits (cs : List Char) : Except Error Int :=
  match intOfText cs with
  | some n => .ok n
  | none => .error tooLong

def minimumPython (text : String) : Except Error (Int × Int) := do
  let major ← intOfDigits (splitMinor text).1
  let minor ← intOfDigits (splitMinor text).2
  return (major, minor)

/-- Tuples compare from the left. -/
def versionBelow (version : Nat × Nat) (minimum : Int × Int) : Bool :=
  (version.1 : Int) < minimum.1 || (version.1 : Int) == minimum.1 && (version.2 : Int) < minimum.2

structure Assessment where
  id : String
  available : Bool
  compatible : Bool
  runnable : Bool
  unmetRequirements : List String

def unmet (host : Host) (r : Requirements) (minimum : Int × Int) : List String :=
  (if versionBelow host.version minimum then ["python>=" ++ r.pythonMin] else []) ++
    (r.commands.filter fun c => !host.which c).map ("command:" ++ ·) ++
    (r.paths.filter fun p => !host.pathExists p).map ("path:" ++ ·)

def assessProfile (host : Host) (p : Profile) : Except Error Assessment := do
  let minimum ← minimumPython p.requirements.pythonMin
  let unmet := unmet host p.requirements minimum
  let compatible := unmet.isEmpty
  return ⟨p.id, p.available, compatible, p.available && compatible, unmet⟩

inductive PlanStatus where
  | ready | blocked
deriving DecidableEq

structure Plan where
  status : PlanStatus
  system : String
  requestedProfile : String
  selectedProfile : Option String
  reason : Option (List Piece)
  requirements : Option Requirements
  capabilities : List String
  steps : List String
  claims : List String
  privilegedOperations : List String

/-- `(-item["priority"], item["id"])` -/
def rank (p : Profile) : Int ×ₗ String := toLex (-p.priority, p.id)

/-- `[profile for profile in candidates if assess_profile(profile)["runnable"]]` -/
def runnable (host : Host) (candidates : List Profile) : Except Error (List Profile) := do
  let assessed ← candidates.mapM fun p => do return (p, ← assessProfile host p)
  return (assessed.filter fun a => a.2.runnable).map Prod.fst

/-- The profile a request names, or the reason why there is none. -/
def select (host : Host) (profiles : List Profile) (requestedProfile system : String) :
    Except Error (Option Profile × Option (List Piece)) :=
  if requestedProfile = "auto" then do
    let runnable ← runnable host (profiles.filter fun p => p.system == system)
    match Dict.sortBy rank runnable with
    | p :: _ => return (some p, none)
    | [] => return (none, some [.text "no declared-available profile is compatible with this host"])
  else
    match profiles.find? fun p => p.id == requestedProfile with
    | some p =>
      if p.system = system then .ok (some p, none)
      else .ok (none, some [.text ("unknown " ++ system ++ " profile "), .repr (.str requestedProfile)])
    | none =>
      .ok (none, some [.text ("unknown " ++ system ++ " profile "), .repr (.str requestedProfile)])

/-- The plan of a selected profile. -/
def planOf (system requestedProfile : String) (p : Profile) (assessment : Assessment) : Plan :=
  let reason : Option (List Piece) :=
    if !p.available then p.unavailableReason.map fun text => [.text text.1]
    else if !assessment.compatible then
      some [.text ("unmet requirements: " ++ ", ".intercalate assessment.unmetRequirements)]
    else none
  ⟨if assessment.runnable then .ready else .blocked, system, requestedProfile, some p.id,
    if assessment.runnable then none else reason, some p.requirements, p.capabilities, p.workflow,
    p.claims, p.privilegedOperations⟩

/-- The plan when nothing was selected. -/
def noPlan (system requestedProfile : String) (reason : Option (List Piece)) : Plan :=
  ⟨.blocked, system, requestedProfile, none, reason, none, [], [], [], []⟩

def planFor (host : Host) (profiles : List Profile) (requestedProfile system : String) :
    Except Error Plan := do
  match ← select host profiles requestedProfile system with
  | (some p, _) => do
    let assessment ← assessProfile host p
    return planOf system requestedProfile p assessment
  | (none, reason) => return noPlan system requestedProfile reason

def buildPlan (scan : Scanner) (dir : ProfilesDir) (host : Host) (requestedProfile system : String) :
    Except Error Plan := do
  planFor host (← loadProfiles scan dir) requestedProfile system

/-- What `main` does on `run`, up to the simulation. -/
inductive RunGate where
  | unavailable (plan : Plan)
  | simulate

def runGate (scan : Scanner) (dir : ProfilesDir) (host : Host) (requestedProfile system : String) :
    Except Error RunGate := do
  let plan ← buildPlan scan dir host requestedProfile system
  if plan.status ≠ .ready then return .unavailable plan
  else do
    require (plan.selectedProfile == some "cpu") ⟨.cliError EXIT_UNAVAILABLE,
      [.text "only the CPU profile is executable in this bootstrap"]⟩
    return .simulate

/-! ### The minimum Python version -/

theorem intOfText_digits {cs : List Char} (h : isNumber cs = true) :
    intOfText cs = if 4300 < cs.length then none else some (Scan.digitsValue cs : Int) := by
  simp only [isNumber, Bool.and_eq_true, Bool.not_eq_true', List.isEmpty_eq_false_iff] at h
  obtain ⟨hne, hall⟩ := h
  have hdigits : ∀ c ∈ cs, isDigit c = true := List.all_eq_true.mp hall
  have hbody : (cs.dropWhile isIntSpace).reverse.dropWhile isIntSpace = cs.reverse := by
    rw [dropWhile_isIntSpace hdigits, dropWhile_isIntSpace]
    intro c hc
    exact hdigits c (List.mem_reverse.mp hc)
  have hcount : cs.countP (· ≠ '_') = cs.length := by
    rw [List.countP_eq_length]
    rintro c hc
    have hne : c ≠ '_' := by
      rintro rfl
      exact absurd (hdigits '_' hc) (by decide)
    simpa using hne
  have hunsigned : unsignedOfText cs =
      if 4300 < cs.length then none else some (Scan.digitsValue cs) := by
    rw [unsignedOfText, hcount]
    · rw [digitRun_of_isDigit hdigits 0]
      rfl
    · exact hne
    · rintro ds rfl
      exact absurd (hdigits '_' (by simp)) (by decide)
  simp only [intOfText, hbody, List.reverse_reverse]
  split
  · exact absurd (hdigits '-' (by simp)) (by decide)
  · exact absurd (hdigits '+' (by simp)) (by decide)
  · rw [hunsigned]
    split <;> rfl

/-- Both numbers of the version are short enough for `int`. -/
def Short (p : Profile) : Prop :=
  (splitMinor p.requirements.pythonMin).1.length ≤ 4300 ∧
    (splitMinor p.requirements.pythonMin).2.length ≤ 4300

/-- The numbers of `MAJOR.MINOR`. -/
def minimumVersion (p : Profile) : Nat × Nat :=
  (Scan.digitsValue (splitMinor p.requirements.pythonMin).1,
    Scan.digitsValue (splitMinor p.requirements.pythonMin).2)

instance (p : Profile) : Decidable (Short p) := inferInstanceAs (Decidable (_ ∧ _))

theorem minimumPython_eq (p : Profile) : minimumPython p.requirements.pythonMin =
    if Short p then .ok ((minimumVersion p).1, (minimumVersion p).2) else .error tooLong := by
  have hnumbers := p.requirements.majorMinor
  simp only [isMajorMinor, Bool.and_eq_true] at hnumbers
  obtain ⟨⟨-, hmajor⟩, hminor⟩ := hnumbers
  rw [minimumPython, intOfDigits, intOfDigits, intOfText_digits hmajor, intOfText_digits hminor]
  by_cases h₁ : 4300 < (splitMinor p.requirements.pythonMin).1.length
  · have hlong : ¬ Short p := fun h => absurd h.1 (by omega)
    rw [if_pos h₁, if_neg hlong]
    rfl
  · by_cases h₂ : 4300 < (splitMinor p.requirements.pythonMin).2.length
    · have hlong : ¬ Short p := fun h => absurd h.2 (by omega)
      rw [if_neg h₁, if_pos h₂, if_neg hlong]
      rfl
    · rw [if_neg h₁, if_neg h₂, if_pos ⟨by omega, by omega⟩]
      rfl

/-- The assessment of a profile whose version can be read. -/
def assessment (host : Host) (p : Profile) : Assessment :=
  let unmet := unmet host p.requirements ((minimumVersion p).1, (minimumVersion p).2)
  ⟨p.id, p.available, unmet.isEmpty, p.available && unmet.isEmpty, unmet⟩

theorem assessProfile_eq (host : Host) (p : Profile) :
    assessProfile host p = if Short p then .ok (assessment host p) else .error tooLong := by
  rw [assessProfile, minimumPython_eq]
  split <;> rfl

/-- What a host must offer for a profile to run there. -/
structure Runnable (host : Host) (p : Profile) : Prop where
  available : p.available = true
  version : (minimumVersion p).1 < host.version.1 ∨
    (minimumVersion p).1 = host.version.1 ∧ (minimumVersion p).2 ≤ host.version.2
  commands : ∀ c ∈ p.requirements.commands, host.which c = true
  paths : ∀ f ∈ p.requirements.paths, host.pathExists f = true

theorem compatible_iff (host : Host) (p : Profile) : (assessment host p).compatible = true ↔
    ((minimumVersion p).1 < host.version.1 ∨
      (minimumVersion p).1 = host.version.1 ∧ (minimumVersion p).2 ≤ host.version.2) ∧
    (∀ c ∈ p.requirements.commands, host.which c = true) ∧
    (∀ f ∈ p.requirements.paths, host.pathExists f = true) := by
  have hbelow : versionBelow host.version ((minimumVersion p).1, (minimumVersion p).2) = false ↔
      (minimumVersion p).1 < host.version.1 ∨
        (minimumVersion p).1 = host.version.1 ∧ (minimumVersion p).2 ≤ host.version.2 := by
    simp only [versionBelow, Bool.or_eq_false_iff, decide_eq_false_iff_not, Bool.and_eq_false_iff,
      beq_eq_false_iff_ne]
    omega
  rw [← hbelow]
  simp [assessment, unmet]

theorem assessment_runnable (host : Host) (p : Profile) :
    (assessment host p).runnable = true ↔ Runnable host p := by
  have hcompatible := compatible_iff host p
  change (p.available && (assessment host p).compatible) = true ↔ _
  rw [Bool.and_eq_true, hcompatible]
  exact ⟨fun ⟨ha, hv, hc, hp⟩ => ⟨ha, hv, hc, hp⟩,
    fun h => ⟨h.available, h.version, h.commands, h.paths⟩⟩

/-! ### Selection -/

theorem runnable_ok {host : Host} {candidates : List Profile} (h : ∀ p ∈ candidates, Short p) :
    runnable host candidates =
      .ok (candidates.filter fun p => (assessment host p).runnable) := by
  have hassessed : (candidates.mapM fun p => do return (p, ← assessProfile host p)) =
      (.ok (candidates.map fun p => (p, assessment host p)) : Except Error _) := by
    rw [mapM_eq_ok, List.forall₂_map_right_iff, List.forall₂_same]
    intro p hp
    rw [assessProfile_eq, if_pos (h p hp)]
    rfl
  rw [runnable, hassessed, ok_bind, List.filter_map, List.map_map]
  simp [Function.comp_def, pure, Except.pure]

theorem runnable_error {host : Host} {candidates : List Profile} {p : Profile}
    (hp : p ∈ candidates) (hlong : ¬ Short p) (ps : List Profile) :
    runnable host candidates ≠ .ok ps := by
  intro h
  simp only [runnable, bind_eq_ok, mapM_eq_ok] at h
  obtain ⟨assessed, hall, -⟩ := h
  obtain ⟨a, -, x, hx, -⟩ := exists_of_forall₂ hall hp
  rw [assessProfile_eq, if_neg hlong] at hx
  cases hx

/-- The profile that wins an automatic request: least rank among the runnable
ones of the system. -/
structure Best (host : Host) (profiles : List Profile) (system : String) (p : Profile) : Prop where
  known : p ∈ profiles
  ours : p.system = system
  runs : Runnable host p
  least : ∀ q ∈ profiles, q.system = system → Runnable host q → q ≠ p → rank p < rank q

theorem Best.unique {host : Host} {profiles : List Profile} {system : String} {p q : Profile}
    (hp : Best host profiles system p) (hq : Best host profiles system q) : p = q := by
  by_contra hne
  exact lt_asymm (hp.least q hq.known hq.ours hq.runs (Ne.symm hne))
    (hq.least p hp.known hp.ours hp.runs hne)

section Select
variable {host : Host} {profiles : List Profile} {requestedProfile system : String}

theorem best_of_sortBy (hids : (profiles.map Profile.id).Nodup) {p : Profile} {rest : List Profile}
    (h : Dict.sortBy rank ((profiles.filter fun p => p.system == system).filter
      fun p => (assessment host p).runnable) = p :: rest) : Best host profiles system p := by
  obtain ⟨hmem, hleast⟩ := Dict.sortBy_head rank h
  simp only [List.mem_filter, beq_iff_eq, assessment_runnable] at hmem hleast
  refine ⟨hmem.1.1, hmem.1.2, hmem.2, fun q hq hsystem hrun hne => ?_⟩
  refine lt_of_le_of_ne (hleast q ⟨⟨hq, hsystem⟩, hrun⟩) fun hrank => hne ?_
  have hid : p.id = q.id := congrArg (fun r => (ofLex r).2) hrank
  exact (List.inj_on_of_nodup_map hids hmem.1.1 hq hid).symm

/-- What an automatic request selects. -/
theorem select_auto (hids : (profiles.map Profile.id).Nodup) (host : Host)
    (hshort : ∀ p ∈ profiles, p.system = system → Short p) :
    (∃ p, Best host profiles system p ∧
      select host profiles "auto" system = .ok (some p, none)) ∨
    ((∀ p ∈ profiles, p.system = system → ¬ Runnable host p) ∧
      select host profiles "auto" system = .ok (none,
        some [.text "no declared-available profile is compatible with this host"])) := by
  have hcandidates : ∀ p ∈ profiles.filter (fun p => p.system == system), Short p := by
    intro p hp
    simp only [List.mem_filter, beq_iff_eq] at hp
    exact hshort p hp.1 hp.2
  rw [select, if_pos rfl, runnable_ok hcandidates, ok_bind]
  cases hsort : Dict.sortBy rank ((profiles.filter fun p => p.system == system).filter
      fun p => (assessment host p).runnable) with
  | nil =>
    refine .inr ⟨fun p hp hsystem hrun => ?_, rfl⟩
    rw [Dict.sortBy_eq_nil, List.filter_eq_nil_iff] at hsort
    exact hsort p (List.mem_filter.mpr ⟨hp, by simpa using hsystem⟩)
      ((assessment_runnable host p).mpr hrun)
  | cons p rest => exact .inl ⟨p, best_of_sortBy hids hsort, rfl⟩

/-- What an explicit request selects: the profile it names, if that is one of
the system, and no other. -/
theorem select_explicit (host : Host) (system : String) (hids : (profiles.map Profile.id).Nodup)
    (hexplicit : requestedProfile ≠ "auto") :
    (∃ p ∈ profiles, p.id = requestedProfile ∧ p.system = system ∧
      select host profiles requestedProfile system = .ok (some p, none)) ∨
    ((∀ p ∈ profiles, p.id = requestedProfile → p.system ≠ system) ∧
      select host profiles requestedProfile system = .ok (none,
        some [.text ("unknown " ++ system ++ " profile "), .repr (.str requestedProfile)])) := by
  rw [select, if_neg hexplicit]
  cases hfind : profiles.find? fun p => p.id == requestedProfile with
  | none =>
    refine .inr ⟨fun p hp hid => ?_, rfl⟩
    exact absurd hid (by simpa using List.find?_eq_none.mp hfind p hp)
  | some p =>
    have hp : p ∈ profiles := List.mem_of_find?_eq_some hfind
    have hid : p.id = requestedProfile := by simpa using List.find?_some hfind
    by_cases hsystem : p.system = system
    · exact .inl ⟨p, hp, hid, hsystem, if_pos hsystem⟩
    · refine .inr ⟨fun q hq hqid => ?_, if_neg hsystem⟩
      rwa [List.inj_on_of_nodup_map hids hq hp (hqid.trans hid.symm)]

end Select

/-! ### Plans -/

/-- A message that is not empty once rendered. -/
def Speaks (message : List Piece) : Prop := ∃ s, s ≠ "" ∧ Piece.text s ∈ message

/-- What a plan answers: a selected profile of the system that may run, or a reason. -/
structure Selection (host : Host) (profiles : List Profile) (requestedProfile system : String)
    (plan : Plan) : Prop where
  known : ∀ id, plan.selectedProfile = some id → ∃ p ∈ profiles, p.id = id
  ready : plan.status = .ready ↔
    ∃ p ∈ profiles, plan.selectedProfile = some p.id ∧ p.system = system ∧ Runnable host p
  auto : requestedProfile = "auto" →
    (∀ p ∈ profiles, plan.selectedProfile = some p.id ↔ Best host profiles system p) ∧
    (plan.selectedProfile = none ↔ ∀ p ∈ profiles, p.system = system → ¬ Runnable host p)
  explicit : requestedProfile ≠ "auto" →
    plan.selectedProfile = none ∨ plan.selectedProfile = some requestedProfile ∧
      ∃ p ∈ profiles, p.id = requestedProfile ∧ p.system = system
  blockedReason : plan.status = .blocked → ∃ message, plan.reason = some message ∧ Speaks message
  readyReason : plan.status = .ready → plan.reason = none

section Plans
variable {host : Host} {profiles : List Profile} {requestedProfile system : String}

theorem planOf_status (p : Profile) :
    (planOf system requestedProfile p (assessment host p)).status = .ready ↔ Runnable host p := by
  rw [← assessment_runnable]
  simp only [planOf]
  cases (assessment host p).runnable <;> simp

theorem planOf_reason (p : Profile) (h : ¬ Runnable host p) :
    ∃ message, (planOf system requestedProfile p (assessment host p)).reason = some message ∧
      Speaks message := by
  rw [← assessment_runnable, Bool.not_eq_true] at h
  simp only [planOf, h, Bool.false_eq_true, if_false]
  cases ha : p.available with
  | false =>
    have hreasoned := p.reasoned
    rw [ha] at hreasoned
    cases hr : p.unavailableReason with
    | none => simp [hr] at hreasoned
    | some text => exact ⟨[.text text.1], rfl, text.1, text.2, List.mem_singleton_self _⟩
  | true =>
    have hcompatible : (assessment host p).compatible = false := by
      have hrunnable : (p.available && (assessment host p).compatible) = false := h
      simpa [ha] using hrunnable
    simp only [hcompatible, Bool.not_true, Bool.not_false, Bool.false_eq_true, if_false, if_true]
    refine ⟨_, rfl, _, ?_, List.mem_singleton_self _⟩
    intro hempty
    have hlength := congrArg (fun s => s.toList.length) hempty
    simp at hlength

theorem selection_of_some (hids : (profiles.map Profile.id).Nodup) {p : Profile} (hp : p ∈ profiles)
    (hsystem : p.system = system)
    (hauto : requestedProfile = "auto" → Best host profiles system p)
    (hexplicit : requestedProfile ≠ "auto" → p.id = requestedProfile) :
    Selection host profiles requestedProfile system
      (planOf system requestedProfile p (assessment host p)) := by
  have hsame : ∀ q ∈ profiles, some p.id = some q.id → q = p := fun q hq hid =>
    List.inj_on_of_nodup_map hids hq hp (Option.some.inj hid).symm
  refine ⟨fun id hid => ⟨p, hp, Option.some.inj hid⟩, ?_, fun h => ⟨fun q hq => ?_, ?_⟩,
    fun h => ?_, fun hblocked => planOf_reason p fun hrun => ?_, fun hready => ?_⟩
  · rw [planOf_status]
    constructor
    · exact fun hrun => ⟨p, hp, rfl, hsystem, hrun⟩
    · rintro ⟨q, hq, hid, -, hrun⟩
      exact hsame q hq hid ▸ hrun
  · constructor
    · intro hid
      exact hsame q hq hid ▸ hauto h
    · intro hbest
      rw [hbest.unique (hauto h)]
      rfl
  · constructor
    · intro hnone
      cases hnone
    · intro hno
      exact absurd (hauto h).runs (hno p hp hsystem)
  · exact .inr ⟨congrArg some (hexplicit h), p, hp, hexplicit h, hsystem⟩
  · rw [(planOf_status p).mpr hrun] at hblocked
    cases hblocked
  · have hrun := (assessment_runnable host p).mpr ((planOf_status p).mp hready)
    simp [planOf, hrun]

theorem selection_of_none {message : List Piece} (hspeaks : Speaks message)
    (hauto : requestedProfile = "auto" → ∀ p ∈ profiles, p.system = system → ¬ Runnable host p) :
    Selection host profiles requestedProfile system (noPlan system requestedProfile (some message)) := by
  have hready : (noPlan system requestedProfile (some message)).status ≠ .ready := by
    intro h
    cases h
  refine ⟨fun id hid => ?_, ⟨fun h => absurd h hready, ?_⟩, fun h => ⟨fun p hp => ?_, ?_⟩,
    fun _ => .inl rfl, fun _ => ⟨message, rfl, hspeaks⟩, fun h => absurd h hready⟩
  · cases hid
  · rintro ⟨p, -, hid, -⟩
    cases hid
  · constructor
    · intro hid
      cases hid
    · intro hbest
      exact absurd hbest.runs (hauto h p hp hbest.ours)
  · exact ⟨fun _ => hauto h, fun _ => rfl⟩

/-- The profiles whose version a request has to read. -/
def assessed (profiles : List Profile) (requestedProfile system : String) : List Profile :=
  profiles.filter fun p =>
    p.system == system && (requestedProfile == "auto" || p.id == requestedProfile)

theorem mem_assessed (p : Profile) : p ∈ assessed profiles requestedProfile system ↔
    p ∈ profiles ∧ p.system = system ∧ (requestedProfile = "auto" ∨ p.id = requestedProfile) := by
  simp [assessed]

theorem planFor_some {p : Profile} {reason : Option (List Piece)}
    (h : select host profiles requestedProfile system = .ok (some p, reason)) (hshort : Short p) :
    planFor host profiles requestedProfile system =
      .ok (planOf system requestedProfile p (assessment host p)) := by
  have hassess := assessProfile_eq host p
  rw [if_pos hshort] at hassess
  rw [planFor, h, ok_bind]
  change (assessProfile host p >>= fun a => .ok (planOf system requestedProfile p a)) = _
  rw [hassess, ok_bind]

theorem planFor_none {reason : Option (List Piece)}
    (h : select host profiles requestedProfile system = .ok (none, reason)) :
    planFor host profiles requestedProfile system =
      .ok (noPlan system requestedProfile reason) := by
  rw [planFor, h, ok_bind]
  rfl

/-- Where every version can be read, a plan is made, and it is right. -/
theorem planFor_selection (host : Host) (hids : (profiles.map Profile.id).Nodup)
    (hshort : ∀ p ∈ assessed profiles requestedProfile system, Short p) :
    ∃ plan, planFor host profiles requestedProfile system = .ok plan ∧
      Selection host profiles requestedProfile system plan := by
  simp only [mem_assessed] at hshort
  by_cases hauto : requestedProfile = "auto"
  · subst hauto
    have hauto := select_auto hids host fun p hp hsystem => hshort p ⟨hp, hsystem, .inl rfl⟩
    rcases hauto with ⟨p, hbest, hselect⟩ | ⟨hnone, hselect⟩
    · exact ⟨_, planFor_some hselect (hshort p ⟨hbest.known, hbest.ours, .inl rfl⟩),
        selection_of_some hids hbest.known hbest.ours (fun _ => hbest) fun h => absurd rfl h⟩
    · refine ⟨_, planFor_none hselect, selection_of_none ⟨_, ?_, List.mem_singleton_self _⟩
        fun _ => hnone⟩
      decide
  · rcases select_explicit host system hids hauto with ⟨p, hp, hid, hsystem, hselect⟩ | ⟨-, hselect⟩
    · exact ⟨_, planFor_some hselect (hshort p ⟨hp, hsystem, .inr hid⟩),
        selection_of_some hids hp hsystem (fun h => absurd h hauto) fun _ => hid⟩
    · refine ⟨_, planFor_none hselect, selection_of_none ⟨_, ?_, List.mem_cons_self⟩
        fun h => absurd h hauto⟩
      intro hempty
      have hlength := congrArg (fun s => s.toList.length) hempty
      simp at hlength

/-- A version that cannot be read stops the plan, whatever else is declared. -/
theorem planFor_error {host : Host} {p : Profile} (hids : (profiles.map Profile.id).Nodup)
    (hp : p ∈ assessed profiles requestedProfile system) (hlong : ¬ Short p) (plan : Plan) :
    planFor host profiles requestedProfile system ≠ .ok plan := by
  rw [mem_assessed] at hp
  obtain ⟨hmem, hsystem, hrequest⟩ := hp
  intro h
  simp only [planFor, bind_eq_ok] at h
  obtain ⟨selected, hselect, h⟩ := h
  by_cases hauto : requestedProfile = "auto"
  · rw [select, if_pos hauto, bind_eq_ok] at hselect
    obtain ⟨ps, hps, -⟩ := hselect
    have hcandidate : p ∈ profiles.filter fun p => p.system == system :=
      List.mem_filter.mpr ⟨hmem, by simpa using hsystem⟩
    exact runnable_error hcandidate hlong ps hps
  · have hid : p.id = requestedProfile := hrequest.resolve_left hauto
    rcases select_explicit host system hids hauto with
      ⟨q, hq, hqid, -, hq'⟩ | ⟨hnone, -⟩
    · rw [hq'] at hselect
      obtain rfl := Except.ok.inj hselect
      obtain rfl := List.inj_on_of_nodup_map hids hmem hq (hid.trans hqid.symm)
      simp only [bind_eq_ok, assessProfile_eq, if_neg hlong, reduceCtorEq, false_and,
        exists_false] at h
    · exact hnone p hmem hid hsystem

/-- A plan is made and is right, the order of the files does not matter, and the
run command simulates only behind a ready plan for the cpu profile. -/
structure PlanRight (scan : Scanner) (dir : ProfilesDir) (host : Host)
    (requestedProfile system : String) : Prop where
  plan : ∀ profiles, loadProfiles scan dir = .ok profiles →
    ∃ plan, buildPlan scan dir host requestedProfile system = .ok plan ∧
      Selection host profiles requestedProfile system plan
  order : ∀ dir' : ProfilesDir, dir'.path = dir.path → dir'.isDir = dir.isDir →
    dir'.found.Perm dir.found →
    buildPlan scan dir' host requestedProfile system = buildPlan scan dir host requestedProfile system
  gate : runGate scan dir host requestedProfile system = .ok .simulate →
    ∃ plan, buildPlan scan dir host requestedProfile system = .ok plan ∧ plan.status = .ready ∧
      plan.selectedProfile = some "cpu"

theorem runGate_simulate {scan : Scanner} {dir : ProfilesDir}
    (h : runGate scan dir host requestedProfile system = .ok .simulate) :
    ∃ plan, buildPlan scan dir host requestedProfile system = .ok plan ∧ plan.status = .ready ∧
      plan.selectedProfile = some "cpu" := by
  simp only [runGate, bind_eq_ok] at h
  obtain ⟨plan, hplan, h⟩ := h
  by_cases hready : plan.status = .ready
  · rw [if_neg (not_not.mpr hready)] at h
    simp only [bind_eq_ok, require_eq_ok, beq_iff_eq] at h
    exact ⟨plan, hplan, hready, h.choose_spec.1⟩
  · rw [if_pos hready] at h
    cases h

end Plans

/-! ### A version that is too long -/

/-- Some digits and `.0`. -/
def wideVersion (n : Nat) : String := String.ofList (List.replicate n '1' ++ ['.', '0'])

theorem splitMinor_append {major minor : List Char} (h : '.' ∉ major) :
    splitMinor (String.ofList (major ++ '.' :: minor)) = (major, minor) := by
  have hall : ∀ c ∈ major, decide (c ≠ '.') = true := by
    intro c hc
    simpa using fun hdot : c = '.' => h (hdot ▸ hc)
  rw [splitMinor, String.toList_ofList, List.takeWhile_append_of_pos hall,
    List.dropWhile_append_of_pos hall]
  simp

theorem splitMinor_wideVersion (n : Nat) : splitMinor (wideVersion n) = (List.replicate n '1', ['0']) :=
  splitMinor_append (by simp)

theorem wideVersion_majorMinor (n : Nat) : isMajorMinor (wideVersion (n + 1)) = true := by
  have hdot : (wideVersion (n + 1)).toList.contains '.' = true := by simp [wideVersion]
  have hone : isDigit '1' = true := by decide
  have hzero : isNumber ['0'] = true := by decide
  rw [isMajorMinor, splitMinor_wideVersion, hdot, hzero]
  simp [isNumber, hone]

theorem length_quoted_plain {s : String} (h : s.toList.all (fun c => escapeChar c == [c]) = true) :
    (quoted s).length = s.toList.length + 2 := by
  have hflat : ∀ cs : List Char, cs.all (fun c => escapeChar c == [c]) = true →
      cs.flatMap escapeChar = cs := by
    intro cs
    induction cs with
    | nil => simp
    | cons c cs ih =>
      intro hcs
      simp only [List.all_cons, Bool.and_eq_true, beq_iff_eq] at hcs
      rw [List.flatMap_cons, hcs.1, ih hcs.2]
      rfl
  simp [quoted, hflat _ h]

/-- A runnable profile, and a planned one that asks for a Python of `n + 1` digits. -/
def portable (id pythonMin : String) (reason : Option Text) (hid : isSafeName id = true)
    (h : isMajorMinor pythonMin = true) : Profile :=
  ⟨id, ⟨"Portable", by decide⟩, "spd", "portable", "planned", 10, reason.isNone, reason,
    ⟨"Portable.", by decide⟩, ⟨pythonMin, [], [], h, rfl, rfl⟩, [], [], [], [], hid, by decide,
    by decide, by decide, rfl⟩

def cpu : Profile := portable "cpu" "3.9" none (by decide) (by decide)

def wide (n : Nat) : Profile :=
  portable "wide" (wideVersion (n + 1)) (some ⟨"planned", by decide⟩) (by decide)
    (wideVersion_majorMinor n)

theorem length_wide (n : Nat) : (documentFile (wide n)).content.length ≤ 400 + n := by
  have hwide : (quoted (wideVersion (n + 1))).length = n + 5 := by
    have hone : escapeChar '1' = ['1'] := by decide
    have hdot : escapeChar '.' = ['.'] := by decide
    have hzero : escapeChar '0' = ['0'] := by decide
    rw [length_quoted_plain]
    · simp [wideVersion]
    · simp [wideVersion, hone, hdot, hzero]
  have hten : (intChars 10).length = 2 := by decide
  simp [wide, portable, documentFile, Profile.document, Requirements.document, reasonValue,
    Json.norm, normFields, normList, Dict.sortKeys, Dict.dedupKeys, Json.text, textFields,
    textFieldsTail, textList, PROFILE_SCHEMA, hwide, hten, ascii]
  simp (disch := decide) only [length_quoted_plain]
  simp
  omega

/-- Two profile files, of which the second has a version of 4302 digits. -/
def wideDir : ProfilesDir :=
  ⟨"profiles", true, [⟨"portable", "cpu", some (documentFile cpu)⟩,
    ⟨"portable", "wide", some (documentFile (wide 4300))⟩], by decide⟩

theorem loadProfiles_wideDir : loadProfiles Scan.scan wideDir = .ok [cpu, wide 4300] := by
  have hsize : (4300 : Nat) + 400 ≤ 4 <<< 20 := by decide
  have hcpu : (documentFile cpu).content.length ≤ 4 <<< 20 := by decide +kernel
  have hsort : Dict.sortBy ProfileFile.key wideDir.found = wideDir.found := by
    refine List.Pairwise.insertionSort_eq (List.pairwise_pair.mpr ?_)
    decide
  rw [loadProfiles_eq_ok, hsort]
  refine ⟨rfl, by simp, by decide, .cons (declares_documentFile _ _ hcpu) (.cons ?_ .nil)⟩
  exact declares_documentFile _ _ ((length_wide 4300).trans (by omega))

theorem not_short_wide : ¬ Short (wide 4300) := by
  intro h
  have hmajor : (splitMinor (wideVersion 4301)).1.length ≤ 4300 := h.1
  rw [splitMinor_wideVersion, List.length_replicate] at hmajor
  omega

/-- A host with Python 3.12. -/
def host312 : Host := ⟨(3, 12), fun _ => false, fun _ => false⟩

end ServerlessX.Cli
