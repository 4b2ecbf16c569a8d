import ServerlessX.Cli.Verify
import ServerlessX.Contract.Exact
import ServerlessX.Py.JsonScan

/-! Deployment profiles: what `load_profiles` accepts, and the files it finds. -/
namespace ServerlessX.Cli
open ServerlessX.Py ServerlessX.Py.Json ServerlessX.Contract

def PROFILE_SCHEMA : String := "serverlessx.profile.v1"
def EXIT_CONFIGURATION : Nat := 6

def PROFILE_KEYS : List String :=
  ["schema", "id", "title", "system", "tier", "maturity", "priority", "available",
    "unavailable_reason", "description", "requirements", "capabilities", "workflow", "claims",
    "privileged_operations"]
def REQUIREMENT_KEYS : List String := ["python_min", "commands", "paths"]
def PROFILE_TIERS : List String := ["portable", "lab"]
def PROFILE_MATURITIES : List String := ["executable", "source-preview", "planned", "reference-only"]

def profileError (s : String) : Error := ⟨.cliError EXIT_CONFIGURATION, [.text s]⟩

def isLower (c : Char) : Bool := 97 ≤ c.toNat && c.toNat ≤ 122
def isUpper (c : Char) : Bool := 65 ≤ c.toNat && c.toNat ≤ 90

/-- `[a-z][a-z0-9_]{0,63}` -/
def isSafeName (s : String) : Bool :=
  match s.toList with
  | [] => false
  | c :: cs => isLower c && cs.length ≤ 63 && cs.all fun c => isLower c || isDigit c || c == '_'

/-- `[A-Za-z0-9][A-Za-z0-9._+-]{0,63}` -/
def isCommandName (s : String) : Bool :=
  match s.toList with
  | [] => false
  | c :: cs => (isUpper c || isLower c || isDigit c) && cs.length ≤ 63 &&
      cs.all fun c => isUpper c || isLower c || isDigit c || "._+-".toList.contains c

/-- `text.split(".", 1)` where there is a dot. -/
def splitMinor (s : String) : List Char × List Char :=
  (s.toList.takeWhile (· ≠ '.'), (s.toList.dropWhile (· ≠ '.')).drop 1)

def isNumber (cs : List Char) : Bool := !cs.isEmpty && cs.all isDigit

/-- `[0-9]+\.[0-9]+` -/
def isMajorMinor (s : String) : Bool :=
  s.toList.contains '.' && isNumber (splitMinor s).1 && isNumber (splitMinor s).2

/-- `Path(item).is_absolute()`. -/
def isAbsolute (s : String) : Bool := s.toList.head? == some '/'

/-- Text that is not empty. -/
abbrev Text := {s : String // s ≠ ""}

structure Requirements where
  pythonMin : String
  commands : List String
  paths : List String
  majorMinor : isMajorMinor pythonMin = true
  safeCommands : commands.all isCommandName = true
  absolutePaths : paths.all isAbsolute = true

/-- A profile that `_validate_profile` returns. -/
structure Profile where
  id : String
  title : Text
  system : String
  tier : String
  maturity : String
  priority : Int
  available : Bool
  unavailableReason : Option Text
  description : Text
  requirements : Requirements
  capabilities : List String
  workflow : List String
  claims : List String
  privilegedOperations : List String
  safeId : isSafeName id = true
  safeSystem : isSafeName system = true
  knownTier : PROFILE_TIERS.contains tier = true
  knownMaturity : PROFILE_MATURITIES.contains maturity = true
  reasoned : available = unavailableReason.isNone

/-! ### Validation -/

def stringList : List Json → Option (List String)
  | [] => some []
  | .str s :: items => (stringList items).map (s :: ·)
  | _ :: _ => none

/-- `_require_string_list`. -/
def requireStringList (value : Json) (name : String) : Except Error (List String) :=
  match value with
  | .list items => match stringList items with
    | some ss => .ok ss
    | none => .error (profileError (name ++ " must be a list of strings"))
  | _ => .error (profileError (name ++ " must be a list of strings"))

/-- A check whose success is kept. -/
def proved (c : Bool) (e : Error) : Except Error (PLift (c = true)) :=
  if h : c = true then .ok ⟨h⟩ else .error e

def requireText (f : Fields) (path name : String) : Except Error Text :=
  match get f name with
  | .str s =>
    if h : s ≠ "" then .ok ⟨s, h⟩
    else .error (profileError (path ++ "." ++ name ++ " must be a non-empty string"))
  | _ => .error (profileError (path ++ "." ++ name ++ " must be a non-empty string"))

/-- The key sets of a document and of the schema, as a message shows them. -/
def keysDiffer (path : String) (f : Fields) : Error :=
  let actual := f.map Prod.fst
  ⟨.cliError EXIT_CONFIGURATION, [.text (path ++ " profile keys differ: missing="),
    .shown (sortedText (PROFILE_KEYS.filter fun k => !actual.contains k)), .text ", unknown=",
    .shown (sortedText (actual.filter fun k => !PROFILE_KEYS.contains k))]⟩

def requirePriority (value : Json) (path : String) : Except Error Int :=
  match value with
  | .int n => .ok n
  | _ => .error (profileError (path ++ ".priority must be an integer"))

def requireAvailable (value : Json) (path : String) : Except Error Bool :=
  match value with
  | .bool b => .ok b
  | _ => .error (profileError (path ++ ".available must be boolean"))

def requireReason (value : Json) (path : String) : Except Error (Option Text) :=
  match value with
  | .null => .ok none
  | .str s =>
    if h : s ≠ "" then .ok (some ⟨s, h⟩)
    else .error (profileError (path ++ ".unavailable_reason must be null or non-empty text"))
  | _ => .error (profileError (path ++ ".unavailable_reason must be null or non-empty text"))

/-- An available profile has no reason, an unavailable one has. -/
def checkReason (path : String) (available : Bool) (reason : Option Text) :
    Except Error (PLift (available = reason.isNone)) :=
  match available, reason with
  | true, none => .ok ⟨rfl⟩
  | true, some _ => .error (profileError (path ++ " is available but has an unavailable reason"))
  | false, some _ => .ok ⟨rfl⟩
  | false, none => .error (profileError (path ++ " is unavailable but has no reason"))

def requireRequirements (value : Json) (path : String) : Except Error Requirements := do
  let wrongKeys : Error := ⟨.cliError EXIT_CONFIGURATION,
    [.text (path ++ ".requirements must have exactly "), .shown (sortedText REQUIREMENT_KEYS)]⟩
  match value with
  | .obj f => do
    require (hasKeys f REQUIREMENT_KEYS) wrongKeys
    let wrongMin := profileError (path ++ ".requirements.python_min must be MAJOR.MINOR")
    match get f "python_min" with
    | .str pythonMin => do
      let ⟨majorMinor⟩ ← proved (isMajorMinor pythonMin) wrongMin
      let commands ← requireStringList (get f "commands") "requirements.commands"
      let ⟨safeCommands⟩ ← proved (commands.all isCommandName)
        (profileError (path ++ ".requirements.commands contains an unsafe name"))
      let paths ← requireStringList (get f "paths") "requirements.paths"
      let ⟨absolutePaths⟩ ← proved (paths.all isAbsolute)
        (profileError (path ++ ".requirements.paths must be absolute"))
      return ⟨pythonMin, commands, paths, majorMinor, safeCommands, absolutePaths⟩
    | _ => .error wrongMin
  | _ => .error wrongKeys

def validateProfile (value : Json) (path : String) : Except Error Profile :=
  match value with
  | .obj f => do
    require (hasKeys f PROFILE_KEYS) (keysDiffer path f)
    require (pyEq (get f "schema") (.str PROFILE_SCHEMA))
      (profileError (path ++ " has unsupported profile schema"))
    let id ← requireText f path "id"
    let title ← requireText f path "title"
    let system ← requireText f path "system"
    let tier ← requireText f path "tier"
    let maturity ← requireText f path "maturity"
    let description ← requireText f path "description"
    let ⟨safeId⟩ ← proved (isSafeName id.1)
      (profileError (path ++ ".id is not a safe profile identifier"))
    let ⟨safeSystem⟩ ← proved (isSafeName system.1)
      (profileError (path ++ ".system is not a safe system identifier"))
    let ⟨knownTier⟩ ← proved (PROFILE_TIERS.contains tier.1)
      (profileError (path ++ ".tier is not supported"))
    let ⟨knownMaturity⟩ ← proved (PROFILE_MATURITIES.contains maturity.1)
      (profileError (path ++ ".maturity is not supported"))
    let priority ← requirePriority (get f "priority") path
    let available ← requireAvailable (get f "available") path
    let reason ← requireReason (get f "unavailable_reason") path
    let ⟨reasoned⟩ ← checkReason path available reason
    let capabilities ← requireStringList (get f "capabilities") (path ++ ".capabilities")
    let workflow ← requireStringList (get f "workflow") (path ++ ".workflow")
    let claims ← requireStringList (get f "claims") (path ++ ".claims")
    let privilegedOperations ← requireStringList (get f "privileged_operations")
      (path ++ ".privileged_operations")
    let requirements ← requireRequirements (get f "requirements") path
    return ⟨id.1, title, system.1, tier.1, maturity.1, priority, available, reason, description,
      requirements, capabilities, workflow, claims, privilegedOperations, safeId, safeSystem,
      knownTier, knownMaturity, reasoned⟩
  | _ => .error (profileError (path ++ " must contain a JSON object"))

/-! ### What is accepted -/

def Requirements.document (r : Requirements) : Fields :=
  [("python_min", .str r.pythonMin), ("commands", .list (r.commands.map .str)),
    ("paths", .list (r.paths.map .str))]

def reasonValue : Option Text → Json
  | none => .null
  | some text => .str text.1

/-- The document of a profile. -/
def Profile.document (p : Profile) : Fields :=
  [("schema", .str PROFILE_SCHEMA), ("id", .str p.id), ("title", .str p.title.1),
    ("system", .str p.system), ("tier", .str p.tier), ("maturity", .str p.maturity),
    ("priority", .int p.priority), ("available", .bool p.available),
    ("unavailable_reason", reasonValue p.unavailableReason),
    ("description", .str p.description.1), ("requirements", .obj p.requirements.document),
    ("capabilities", .list (p.capabilities.map .str)), ("workflow", .list (p.workflow.map .str)),
    ("claims", .list (p.claims.map .str)),
    ("privileged_operations", .list (p.privilegedOperations.map .str))]

theorem stringList_eq_some (items : List Json) (ss : List String) :
    stringList items = some ss ↔ items = ss.map .str := by
  induction items generalizing ss with
  | nil => cases ss <;> simp [stringList]
  | cons v items ih =>
    cases v <;> cases ss <;> simp [stringList, ih, and_comm]

theorem requireStringList_eq_ok (v : Json) (name : String) (ss : List String) :
    requireStringList v name = .ok ss ↔ v = .list (ss.map .str) := by
  cases v with
  | list items =>
    have hlist := stringList_eq_some items
    cases h : stringList items with
    | none => simp [requireStringList, h, ← hlist]
    | some rs => simp [requireStringList, h, ← hlist]
  | _ => simp [requireStringList]

theorem proved_eq_ok (c : Bool) (e : Error) (h : PLift (c = true)) :
    proved c e = .ok h ↔ c = true := by
  simp [proved, h.down]

theorem requireText_eq_ok (f : Fields) (path name : String) (t : Text) :
    requireText f path name = .ok t ↔ get f name = .str t.1 := by
  have ht := t.2
  rw [requireText]
  cases get f name with
  | str s =>
    by_cases hs : s = ""
    · simp [hs, ht.symm]
    · simp [hs, Subtype.ext_iff]
  | _ => simp

theorem requirePriority_eq_ok (v : Json) (path : String) (n : Int) :
    requirePriority v path = .ok n ↔ v = .int n := by
  cases v <;> simp [requirePriority]

theorem requireAvailable_eq_ok (v : Json) (path : String) (b : Bool) :
    requireAvailable v path = .ok b ↔ v = .bool b := by
  cases v <;> simp [requireAvailable]

theorem requireReason_eq_ok (v : Json) (path : String) (reason : Option Text) :
    requireReason v path = .ok reason ↔ v = reasonValue reason := by
  cases v with
  | null => cases reason <;> simp [requireReason, reasonValue]
  | str s =>
    by_cases hs : s = ""
    · cases reason with
      | none => simp [requireReason, reasonValue, hs]
      | some t => simp [requireReason, reasonValue, hs, t.2.symm]
    · cases reason with
      | none => simp [requireReason, reasonValue, hs]
      | some t => simp [requireReason, reasonValue, hs, Subtype.ext_iff]
  | _ => cases reason <;> simp [requireReason, reasonValue]

theorem checkReason_eq_ok (path : String) (available : Bool) (reason : Option Text)
    (h : PLift (available = reason.isNone)) :
    checkReason path available reason = .ok h ↔ available = reason.isNone := by
  refine ⟨fun _ => h.down, fun _ => ?_⟩
  obtain ⟨h⟩ := h
  match available, reason, h with
  | true, none, _ => rfl
  | false, some _, _ => rfl

theorem same_strs (v : Json) (ss : List String) :
    Same v (.list (ss.map .str)) ↔ v = .list (ss.map .str) := by
  rw [same_list]
  have hstrs : ∀ xs : List Json, List.Forall₂ Same xs (ss.map .str) ↔ xs = ss.map .str := by
    intro xs
    rw [← List.forall₂_eq_eq_eq, List.forall₂_map_right_iff, List.forall₂_map_right_iff]
    simp
  simp [hstrs]

theorem same_reason (v : Json) (reason : Option Text) :
    Same v (reasonValue reason) ↔ v = reasonValue reason := by
  cases reason <;> simp [reasonValue]

/-- Requirements are accepted exactly from their document. -/
theorem requireRequirements_eq_ok (v : Json) (path : String) (r : Requirements) :
    requireRequirements v path = .ok r ↔ Same v (.obj r.document) := by
  cases v with
  | obj f =>
    have hnodup : (r.document.map Prod.fst).Nodup := by
      change REQUIREMENT_KEYS.Nodup
      decide
    rw [same_obj_iff_fields f _ hnodup]
    change _ ↔ hasKeys f REQUIREMENT_KEYS = true ∧ _
    simp only [Requirements.document, List.forall_mem_cons, same_str, same_strs, List.not_mem_nil,
      false_implies, implies_true, and_true]
    simp only [requireRequirements, bind_eq_ok, require_eq_ok]
    cases hmin : get f "python_min" with
    | str pythonMin =>
      simp only [bind_eq_ok, requireStringList_eq_ok]
      constructor
      · rintro ⟨-, hkeys, _, -, commands, hcommands, _, -, paths, hpaths, _, -, h⟩
        obtain rfl : _ = r := Except.ok.inj h
        exact ⟨hkeys, rfl, hcommands, hpaths⟩
      · rintro ⟨hkeys, hversion, hcommands, hpaths⟩
        obtain rfl := Json.str.inj hversion
        exact ⟨(), hkeys, ⟨r.majorMinor⟩, (proved_eq_ok _ _ _).mpr r.majorMinor, r.commands,
          hcommands, ⟨r.safeCommands⟩, (proved_eq_ok _ _ _).mpr r.safeCommands, r.paths, hpaths,
          ⟨r.absolutePaths⟩, (proved_eq_ok _ _ _).mpr r.absolutePaths, rfl⟩
    | _ => simp
  | _ => simp [requireRequirements, Same, Json.norm]

theorem ne_empty_of_safeName {s : String} (h : isSafeName s = true) : s ≠ "" := by
  rintro rfl
  exact absurd h (by decide)

theorem ne_empty_of_known {names : List String} (hnames : names.contains "" = false) {s : String}
    (h : names.contains s = true) : s ≠ "" := by
  rintro rfl
  rw [hnames] at h
  cases h

/-- `_validate_profile` accepts exactly the documents of profiles, whatever the
order of their keys, and returns that profile. -/
theorem validateProfile_eq_ok (v : Json) (path : String) (p : Profile) :
    validateProfile v path = .ok p ↔ Same v (.obj p.document) := by
  cases v with
  | obj f =>
    have hnodup : (p.document.map Prod.fst).Nodup := by
      change (["schema", "id", "title", "system", "tier", "maturity", "priority", "available",
        "unavailable_reason", "description", "requirements", "capabilities", "workflow", "claims",
        "privileged_operations"] : List String).Nodup
      decide
    rw [same_obj_iff_fields f _ hnodup]
    change _ ↔ hasKeys f PROFILE_KEYS = true ∧ _
    simp only [Profile.document, List.forall_mem_cons, same_str, same_strs, same_int, same_bool,
      same_reason, List.not_mem_nil, false_implies, implies_true, and_true]
    simp only [validateProfile, bind_eq_ok, require_eq_ok, pyEq_str, requireText_eq_ok,
      requirePriority_eq_ok, requireAvailable_eq_ok, requireReason_eq_ok, requireStringList_eq_ok,
      requireRequirements_eq_ok]
    constructor
    · rintro ⟨-, hkeys, -, hschema, id, hid, title, htitle, system, hsystem, tier, htier, maturity,
        hmaturity, description, hdescription, _, -, _, -, _, -, _, -, priority, hpriority, available,
        havailable, reason, hreason, _, -, capabilities, hcapabilities, workflow, hworkflow, claims,
        hclaims, operations, hoperations, requirements, hrequirements, h⟩
      obtain rfl : _ = p := Except.ok.inj h
      exact ⟨hkeys, hschema, hid, htitle, hsystem, htier, hmaturity, hpriority, havailable, hreason,
        hdescription, hrequirements, hcapabilities, hworkflow, hclaims, hoperations⟩
    · rintro ⟨hkeys, hschema, hid, htitle, hsystem, htier, hmaturity, hpriority, havailable, hreason,
        hdescription, hrequirements, hcapabilities, hworkflow, hclaims, hoperations⟩
      exact ⟨(), hkeys, (), hschema, ⟨p.id, ne_empty_of_safeName p.safeId⟩, hid, p.title, htitle,
        ⟨p.system, ne_empty_of_safeName p.safeSystem⟩, hsystem,
        ⟨p.tier, ne_empty_of_known (by decide) p.knownTier⟩, htier,
        ⟨p.maturity, ne_empty_of_known (by decide) p.knownMaturity⟩, hmaturity,
        p.description, hdescription,
        ⟨p.safeId⟩, (proved_eq_ok _ _ _).mpr p.safeId,
        ⟨p.safeSystem⟩, (proved_eq_ok _ _ _).mpr p.safeSystem,
        ⟨p.knownTier⟩, (proved_eq_ok _ _ _).mpr p.knownTier,
        ⟨p.knownMaturity⟩, (proved_eq_ok _ _ _).mpr p.knownMaturity,
        p.priority, hpriority, p.available, havailable, p.unavailableReason, hreason,
        ⟨p.reasoned⟩, (checkReason_eq_ok _ _ _ _).mpr p.reasoned,
        p.capabilities, hcapabilities, p.workflow, hworkflow, p.claims, hclaims,
        p.privilegedOperations, hoperations, p.requirements, hrequirements, rfl⟩
  | _ => simp [validateProfile, Same, Json.norm]

/-! ### Loading -/

/-- A match of `*/*/profile.json` below the profiles directory. -/
structure ProfileFile where
  group : String
  name : String
  file : Option ResultFile

/-- Paths compare by their parts. -/
def ProfileFile.key (f : ProfileFile) : String ×ₗ String := toLex (f.group, f.name)

/-- The profiles directory: `found` is what the glob yields, in no particular
order, each path once. -/
structure ProfilesDir where
  path : String
  isDir : Bool
  found : List ProfileFile
  distinct : (found.map ProfileFile.key).Nodup

def profilePath (dir : String) (f : ProfileFile) : String :=
  dir ++ "/" ++ f.group ++ "/" ++ f.name ++ "/profile.json"

/-- `raise ProfileError(str(exc))` for a `CliError`; nothing else is caught. -/
def asProfileError (e : Error) : Error :=
  match e.cls with
  | .cliError _ => ⟨.cliError EXIT_CONFIGURATION, e.message⟩
  | _ => e

/-- The loop of `load_profiles`; `acc` holds the profiles so far. -/
def addProfiles (scan : Scanner) (dir : String) :
    List ProfileFile → List Profile → Except Error (List Profile)
  | [], acc => .ok acc
  | f :: files, acc => do
    let value ← (loadJson scan (profilePath dir f) f.file).mapError asProfileError
    let profile ← validateProfile value (profilePath dir f)
    require (acc.all fun p => p.id != profile.id)
      ⟨.cliError EXIT_CONFIGURATION, [.text "duplicate profile id ", .repr (.str profile.id)]⟩
    addProfiles scan dir files (acc ++ [profile])

/-- `load_profiles`: the values of the dict, in its order; the ids are its keys. -/
def loadProfiles (scan : Scanner) (dir : ProfilesDir) : Except Error (List Profile) := do
  require dir.isDir (profileError ("profiles directory is missing: " ++ dir.path))
  let profiles ← addProfiles scan dir.path (Dict.sortBy ProfileFile.key dir.found) []
  require (!profiles.isEmpty) (profileError ("no profiles found under " ++ dir.path))
  return profiles

/-- The file holds the document of the profile. -/
def Declares (scan : Scanner) (f : ProfileFile) (p : Profile) : Prop :=
  ∃ file v, f.file = some file ∧ Holds scan file v ∧ Same v (.obj p.document)

theorem mapError_profile_eq_ok (x : Except Error Json) (v : Json) :
    x.mapError asProfileError = .ok v ↔ x = .ok v := by
  cases x <;> simp [Except.mapError]

theorem load_eq_ok (scan : Scanner) (path : String) (f : ProfileFile) (p : Profile) :
    (∃ v, (loadJson scan path f.file).mapError asProfileError = .ok v ∧
      validateProfile v path = .ok p) ↔ Declares scan f p := by
  simp only [mapError_profile_eq_ok, validateProfile_eq_ok, Declares]
  cases f.file with
  | none => simp [loadJson]
  | some file => simp [loadJson_eq_ok]

/-- The loop appends the declared profiles in the order of the files; the ids
stay the keys of a dict. -/
theorem addProfiles_eq_ok {scan : Scanner} {dir : String} {files : List ProfileFile}
    {acc profiles : List Profile} (hacc : (acc.map Profile.id).Nodup) :
    addProfiles scan dir files acc = .ok profiles ↔
      ∃ new, profiles = acc ++ new ∧ List.Forall₂ (Declares scan) files new ∧
        (profiles.map Profile.id).Nodup := by
  induction files generalizing acc with
  | nil =>
    simp only [addProfiles, Except.ok.injEq, List.forall₂_nil_left_iff]
    constructor
    · rintro rfl
      exact ⟨[], by simp, rfl, hacc⟩
    · rintro ⟨new, hnew, rfl, -⟩
      simpa using hnew.symm
  | cons f files ih =>
    have hfresh : ∀ p : Profile, (acc.all fun q => q.id != p.id) = true ↔
        ((acc ++ [p]).map Profile.id).Nodup := by
      intro p
      simp only [List.map_append, List.map_cons, List.map_nil, List.nodup_append, hacc, true_and,
        List.nodup_singleton, List.all_eq_true, bne_iff_ne]
      constructor
      · intro h a ha b hb
        obtain ⟨q, hq, rfl⟩ := List.mem_map.mp ha
        obtain rfl := List.mem_singleton.mp hb
        exact h q hq
      · exact fun h q hq => h q.id (List.mem_map_of_mem hq) p.id (List.mem_singleton_self _)
    simp only [addProfiles, bind_eq_ok, require_eq_ok]
    constructor
    · rintro ⟨v, hv, p, hp, -, hnew, h⟩
      obtain ⟨new, rfl, hall, hnodup⟩ := (ih ((hfresh p).mp hnew)).mp h
      exact ⟨p :: new, by simp, .cons ((load_eq_ok ..).mp ⟨v, hv, hp⟩) hall, hnodup⟩
    · rintro ⟨new, rfl, hall, hnodup⟩
      obtain _ | ⟨hp, hall⟩ := hall
      rename_i p new
      obtain ⟨v, hv, hvalid⟩ := (load_eq_ok scan (profilePath dir f) f p).mpr hp
      have happend : acc ++ p :: new = acc ++ [p] ++ new := by simp
      have hnew : ((acc ++ [p]).map Profile.id).Nodup := by
        rw [happend, List.map_append] at hnodup
        exact (List.nodup_append.mp hnodup).1
      exact ⟨v, hv, p, hvalid, (), (hfresh p).mpr hnew,
        (ih hnew).mpr ⟨new, happend, hall, hnodup⟩⟩

/-- `load_profiles` returns profiles exactly when they are what the sorted files
declare, one a file, under distinct ids, and there is one. -/
theorem loadProfiles_eq_ok (scan : Scanner) (dir : ProfilesDir) (profiles : List Profile) :
    loadProfiles scan dir = .ok profiles ↔
      dir.isDir = true ∧ profiles ≠ [] ∧ (profiles.map Profile.id).Nodup ∧
      List.Forall₂ (Declares scan) (Dict.sortBy ProfileFile.key dir.found) profiles := by
  have hnil : (([] : List Profile).map Profile.id).Nodup := by simp
  simp only [loadProfiles, bind_eq_ok, require_eq_ok, pure, Except.pure, Except.ok.injEq,
    addProfiles_eq_ok hnil, List.nil_append]
  constructor
  · rintro ⟨-, hdir, found, ⟨new, rfl, hall, hnodup⟩, -, hne, rfl⟩
    exact ⟨hdir, by simpa using hne, hnodup, hall⟩
  · rintro ⟨hdir, hne, hnodup, hall⟩
    exact ⟨(), hdir, profiles, ⟨profiles, rfl, hall, hnodup⟩, (), by simpa using hne, rfl⟩

theorem loadHooks_keepsDistinct : loadHooks.KeepsDistinct := by
  intro pairs h
  exact (noDuplicates_nil _ pairs _).mpr ⟨rfl, h⟩

theorem floatFree_document (p : Profile) : (Json.obj p.document).floatFree = true := by
  have hstrs : ∀ ss : List String, floatFreeList (ss.map .str) = true := by
    intro ss
    rw [floatFreeList_iff]
    intro x hx
    obtain ⟨s, -, rfl⟩ := List.mem_map.mp hx
    rfl
  have hreason : floatFree (reasonValue p.unavailableReason) = true := by
    cases p.unavailableReason <;> rfl
  simp [Profile.document, Requirements.document, floatFree, floatFreeFields, hstrs, hreason]

/-- The canonical document of a profile as a file. -/
def documentFile (p : Profile) : ResultFile :=
  ⟨false, true, ascii (Json.obj p.document).norm.text, 0⟩

/-- A profile written to its canonical document is declared by it. -/
theorem declares_documentFile (group name : String) {p : Profile}
    (hsize : (documentFile p).content.length ≤ 4 <<< 20) :
    Declares Scan.scan ⟨group, name, some (documentFile p)⟩ p := by
  have hfree := floatFree_norm (floatFree_document p)
  have hbuild := Tree.build_ofJson_norm loadHooks_keepsDistinct (.obj p.document)
  obtain ⟨hkeys, hconstants, htree⟩ := (build_loadHooks _ _).mp hbuild
  refine ⟨documentFile p, _, rfl, ⟨rfl, rfl, ⟨?_, hsize⟩, ?_⟩, same_norm _⟩
  · simp [documentFile, Json.norm, Json.text, ascii]
  · exact ⟨_, Scan.scan_roundTrips _ hfree, hkeys, hconstants, htree⟩

/-- Two directories with the same files load alike, errors included, in whatever
order the glob finds them. -/
theorem loadProfiles_perm (scan : Scanner) {dir dir' : ProfilesDir} (hpath : dir'.path = dir.path)
    (hisDir : dir'.isDir = dir.isDir) (hfound : dir'.found.Perm dir.found) :
    loadProfiles scan dir' = loadProfiles scan dir := by
  rw [loadProfiles, loadProfiles, hpath, hisDir,
    Dict.sortBy_congr ProfileFile.key hfound dir'.distinct]

end ServerlessX.Cli
