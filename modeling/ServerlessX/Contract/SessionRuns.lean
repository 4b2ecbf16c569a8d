import ServerlessX.Contract.Session

/-! What whole runs of a `TransferSession` can do: which acknowledgements it
accepts, what each owner flag went through, and how it ends. -/
namespace ServerlessX.Contract
open ServerlessX.Py ServerlessX.Py.Json

namespace Session

/-- The state of `TransferSession(m)` after a run. -/
abbrev reached (m : Metadata) (ops : List Op) : Session := after step (init m) ops

/-- The digest a session has been told, if any. -/
def digest (s : Session) : Option String :=
  match s.tokenDigest with
  | .str d => some d
  | _ => none

/-- The token digest an acknowledgement of kind `k` carries when decoding ended
with `d`. -/
def digestAt (d : Option String) (k : AckKind) : Option String :=
  if tokenKinds.contains k then d else none

/-- The acknowledgements that lead to a session's position. -/
def logged (s : Session) : List Json :=
  (ACK_SEQUENCE.take (s.index + 1).toNat).map
    fun k => canonicalAck k s.value (digestAt s.digest k)

@[simp] theorem accept_value (s : Session) (k : AckKind) (d : Option String) :
    (s.accept k d).value = s.value := by
  cases k <;> rfl

@[simp] theorem accept_index (s : Session) (k : AckKind) (d : Option String) :
    (s.accept k d).index = s.index + 1 := by
  cases k <;> rfl

@[simp] theorem accept_abortedReason (s : Session) (k : AckKind) (d : Option String) :
    (s.accept k d).abortedReason = s.abortedReason := by
  cases k <;> rfl

@[simp] theorem digest_of_optStr (s : Session) (d : Option String) :
    digest { s with tokenDigest := optStr d } = d := by
  cases d <;> rfl

theorem take_succ_of_nextKind {s : Session} {k : AckKind} (h : s.Inv)
    (hk : s.nextKind = some k) :
    ACK_SEQUENCE.take (s.index + 1 + 1).toNat =
      ACK_SEQUENCE.take (s.index + 1).toNat ++ [k] := by
  obtain ⟨-, -, hget⟩ := (nextKind_eq_some s k).mp hk
  have hn : (s.index + 1 + 1).toNat = (s.index + 1).toNat + 1 := by
    have := h.low
    omega
  rw [hn, List.take_add_one, hget]
  rfl

/-- The digest recorded after accepting an acknowledgement is the one it carries. -/
theorem digestAt_accept {s : Session} {k : AckKind} {d : Option String}
    (hd : DigestFor k d) (hkept : s.DigestKept k d) :
    digestAt (s.accept k d).digest k = d := by
  cases k with
  | decodeDone => cases d <;> rfl
  | released =>
    have ht : optStr d = s.tokenDigest := hkept (.inl rfl)
    cases d <;> simp [digestAt, tokenKinds, accept, digest, ← ht, optStr]
  | sourceReleased =>
    have ht : optStr d = s.tokenDigest := hkept (.inr rfl)
    cases d <;> simp [digestAt, tokenKinds, accept, digest, ← ht, optStr]
  | _ => exact hd.symm

/-- Kinds before DECODE_DONE carry no digest, and later kinds do not change it. -/
theorem digestAt_earlier {s : Session} (h : s.Inv) {k j : AckKind} {d : Option String}
    (hk : s.nextKind = some k) (hj : j ∈ ACK_SEQUENCE.take (s.index + 1).toNat) :
    digestAt (s.accept k d).digest j = digestAt s.digest j := by
  have hp := position_of_nextKind h.low hk
  cases k with
  | decodeDone =>
    rw [hp] at hj
    cases j <;> simp_all [position, ACK_SEQUENCE, digestAt, tokenKinds]
  | _ => rfl

theorem logged_accept {s : Session} (h : s.Inv) {k : AckKind} {d : Option String}
    (hk : s.nextKind = some k) (hd : DigestFor k d) (hkept : s.DigestKept k d) :
    (s.accept k d).logged = s.logged ++ [canonicalAck k s.value d] := by
  have hnow := digestAt_accept hd hkept
  simp only [logged, accept_index, accept_value, take_succ_of_nextKind h hk, List.map_append,
    List.map_cons, List.map_nil, hnow]
  congr 1
  refine List.map_congr_left fun j hj => ?_
  rw [digestAt_earlier h hk hj]

/-- The invariant of a run: the position, the recorded digest and the accepted
acknowledgements tell the same story. -/
structure Tracks (m : Metadata) (s : Session) (acks : List Json) : Prop where
  value : s.value = m
  inv : s.Inv
  acks : List.Forall₂ Same acks s.logged

theorem tracks_init (m : Metadata) : Tracks m (init m) [] :=
  ⟨rfl, inv_init m, List.Forall₂.nil⟩

theorem tracks_move {m : Metadata} {s s' : Session} {op : Op} {r : Option Json}
    {acks : List Json} (h : Tracks m s acks) (hm : s.Move op r s') :
    Tracks m s' (acks ++ r.toList) := by
  have hinv := inv_move s op r s' h.inv hm
  cases hm with
  | ack hop ha =>
    obtain ⟨k, d, hk, hd, hs, hkept, rfl⟩ := ha
    refine ⟨by simpa using h.value, hinv, ?_⟩
    rw [logged_accept h.inv hk hd hkept]
    exact List.rel_append h.acks (.cons hs .nil)
  | abort hr hc ha =>
    rw [Option.toList_none, List.append_nil]
    exact ⟨h.value, hinv, h.acks⟩
  | cleanupSource ha hown =>
    rw [Option.toList_none, List.append_nil]
    exact ⟨h.value, hinv, h.acks⟩
  | cleanupTarget ha hown =>
    rw [Option.toList_none, List.append_nil]
    exact ⟨h.value, hinv, h.acks⟩

theorem tracks_after {m : Metadata} {s : Session} {acks : List Json} (h : Tracks m s acks)
    (ops : List Op) : Tracks m (after step s ops) (acks ++ accepted s ops) := by
  let rel (t : Session) (rs : List (Option Json)) : Prop := Tracks m t (acks ++ rs.filterMap id)
  have hok : ∀ op t t' r rs, rel t rs → step op t = (.ok r, t') → rel t' (rs ++ [r]) := by
    intro op t t' r rs hrel hs
    have hm := tracks_move hrel (step_ok hs)
    cases r <;> simpa [rel] using hm
  have herr : ∀ op t t' e rs, rel t rs → step op t = (.error e, t') → rel t' rs := by
    intro op t t' e rs hrel hs
    rw [step_error hs]
    exact hrel
  have hnil : rel s [] := by simpa [rel] using h
  simpa [rel, accepted] using returned_invariant step rel hok herr hnil ops

/-- `[make_ack(k, m, token_digest_sha256=d_k) for k in ACK_SEQUENCE]`. -/
def canonicalSequence (m : Metadata) (d : String) : Except Error (List Json) :=
  ACK_SEQUENCE.mapM fun k =>
    makeAck (.str k.value) m.json .null .null (optStr (digestAt (some d) k))

theorem canonicalSequence_eq (m : Metadata) (d : String) :
    canonicalSequence m d =
      .ok (ACK_SEQUENCE.map fun k => canonicalAck k m (digestAt (some d) k)) := by
  simp only [canonicalSequence, ACK_SEQUENCE, List.mapM_cons, List.mapM_nil, makeAck_canonical]
  rfl

/-- Before DECODE_DONE every digest completes the log. -/
theorem logged_eq_take {s : Session} {d : String}
    (hd : 4 ≤ s.index → s.tokenDigest = .str d) :
    s.logged = (ACK_SEQUENCE.map fun k => canonicalAck k s.value (digestAt (some d) k)).take
      (s.index + 1).toNat := by
  rw [← List.map_take]
  refine List.map_congr_left fun k hk => ?_
  by_cases hi : 4 ≤ s.index
  · simp [digest, hd hi]
  · have hlt : (s.index + 1).toNat ≤ 4 := by omega
    have hmem := List.take_subset_take_left ACK_SEQUENCE hlt hk
    cases k <;> simp_all [ACK_SEQUENCE, digestAt, tokenKinds]

theorem length_logged {s : Session} (h : s.Inv) : (s.logged.length : Int) = s.index + 1 := by
  have hlow := h.low
  have hhigh := h.high
  simp only [logged, List.length_map, List.length_take, ACK_SEQUENCE, List.length_cons,
    List.length_nil]
  omega

/-- Whatever is called in whatever order, the accepted acknowledgements are a
prefix of the canonical sequence with one token digest, the one DECODE_DONE
brought. -/
theorem accepted_isPrefix (m : Metadata) (ops : List Op) :
    ∃ d acks p, isSha256 d = true ∧ canonicalSequence m d = .ok acks ∧ p <+: acks ∧
      List.Forall₂ Same (accepted (init m) ops) p ∧
      (reached m ops).index + 1 = (accepted (init m) ops).length ∧
      (5 ≤ (accepted (init m) ops).length → (reached m ops).tokenDigest = .str d) := by
  have h := tracks_after (tracks_init m) ops
  rw [List.nil_append] at h
  have hlen : (reached m ops).index + 1 = (accepted (init m) ops).length := by
    rw [h.acks.length_eq, length_logged h.inv]
  obtain ⟨d, hd, hs⟩ : ∃ d, isSha256 d = true ∧
      (4 ≤ (reached m ops).index → (reached m ops).tokenDigest = .str d) := by
    by_cases hi : 4 ≤ (reached m ops).index
    · obtain ⟨d, hs, hd⟩ := h.inv.decided hi
      exact ⟨d, hd, fun _ => hs⟩
    · -- no digest is fixed yet, so any will do
      exact ⟨String.ofList (List.replicate 64 '0'), by decide, fun h => absurd h hi⟩
  have hlog := h.acks
  rw [logged_eq_take hs, h.value] at hlog
  exact ⟨d, _, _, hd, canonicalSequence_eq m d, List.take_prefix _ _, hlog, hlen,
    fun h5 => hs (by omega)⟩

/-! ### Ownership -/

theorem move_value {s s' : Session} {op : Op} {r : Option Json} (h : s.Move op r s') :
    s'.value = s.value := by
  cases h with
  | ack hop ha =>
    obtain ⟨k, d, -, -, -, -, rfl⟩ := ha
    simp
  | _ => rfl

@[simp] theorem step_value (op : Op) (s : Session) : (step op s).2.value = s.value :=
  step_invariant (fun t => t.value = s.value)
    (fun _ _ _ _ h hm => (move_value hm).trans h) op s rfl

/-- The call is `cleanup_owner(owner)` and returns. -/
def cleans (owner : String) (op : Op) (s : Session) : Bool :=
  match op with
  | .cleanupOwner v => pyEq v (.str owner) && (step op s).1.isOk
  | _ => false

def gainsSource (op : Op) (s : Session) : Bool := !s.sourceOwned && (step op s).2.sourceOwned
def gainsTarget (op : Op) (s : Session) : Bool := !s.targetOwned && (step op s).2.targetOwned
def losesSource (op : Op) (s : Session) : Bool := s.sourceOwned && !(step op s).2.sourceOwned
def losesTarget (op : Op) (s : Session) : Bool := s.targetOwned && !(step op s).2.targetOwned

/-- After an abort nothing moves but the flags that are cleaned up. -/
structure Frozen (s₀ s : Session) (cleanedSource cleanedTarget : Nat) : Prop where
  aborted : s.abortedReason ≠ none
  value : s.value = s₀.value
  index : s.index = s₀.index
  tokenDigest : s.tokenDigest = s₀.tokenDigest
  source : s.sourceOwned = (s₀.sourceOwned && cleanedSource == 0)
  target : s.targetOwned = (s₀.targetOwned && cleanedTarget == 0)

theorem cleans_cleanupOwner {s s' : Session} {v : Json} {r : Option Json} {owner : String}
    (hs : step (.cleanupOwner v) s = (.ok r, s')) :
    cleans owner (.cleanupOwner v) s = pyEq v (.str owner) := by
  simp [cleans, hs, Except.isOk, Except.toBool]

theorem cleans_of_error {s s' : Session} {op : Op} {e : Error} {owner : String}
    (hs : step op s = (.error e, s')) : cleans owner op s = false := by
  cases op <;> simp [cleans, hs, Except.isOk, Except.toBool]

theorem frozen_step {s₀ s : Session} {a b : Nat} (h : Frozen s₀ s a b) (op : Op) :
    Frozen s₀ (step op s).2 (a + if cleans s₀.value.sourceOwner op s then 1 else 0)
      (b + if cleans s₀.value.targetOwner op s then 1 else 0) := by
  have hne := s₀.value.owners_ne
  obtain ⟨e, he⟩ | ⟨r, s', hs, hm⟩ := step_cases op s
  · simpa [cleans_of_error he, he] using h
  · rw [hs]
    cases hm with
    | ack hop ha =>
      obtain ⟨k, d, hk, -⟩ := ha
      exact absurd (not_aborted_of_nextKind hk) h.aborted
    | abort hr hc ha => exact absurd ha h.aborted
    | cleanupSource ha hown =>
      rw [cleans_cleanupOwner hs, cleans_cleanupOwner hs, h.value]
      exact ⟨h.aborted, rfl, h.index, h.tokenDigest, by simp, by simp [hne, h.target]⟩
    | cleanupTarget ha hown =>
      rw [cleans_cleanupOwner hs, cleans_cleanupOwner hs, h.value]
      exact ⟨h.aborted, rfl, h.index, h.tokenDigest, by simp [Ne.symm hne, h.source], by simp⟩

theorem frozen_after {s₀ s : Session} {a b : Nat} (h : Frozen s₀ s a b) (ops : List Op) :
    Frozen s₀ (after step s ops) (a + countCalls step (cleans s₀.value.sourceOwner) s ops)
      (b + countCalls step (cleans s₀.value.targetOwner) s ops) := by
  induction ops generalizing s a b with
  | nil => exact h
  | cons op ops ih => simpa only [after, countCalls, ← add_assoc] using ih (frozen_step h op)

theorem move_sourceOwned {s s' : Session} {op : Op} {r : Option Json} (h : s.Move op r s')
    (hown : s'.sourceOwned = true) : s.sourceOwned = true := by
  cases h with
  | ack hop ha =>
    obtain ⟨k, d, -, -, -, -, rfl⟩ := ha
    cases k <;> simp_all [accept]
  | cleanupSource ha hs => exact hs
  | _ => exact hown

theorem move_index {s s' : Session} {op : Op} {r : Option Json} (h : s.Move op r s') :
    s.index ≤ s'.index := by
  cases h with
  | ack hop ha =>
    obtain ⟨k, d, -, -, -, -, rfl⟩ := ha
    rw [accept_index]
    omega
  | _ => exact le_refl _

/-- The target slab is acquired by TARGET_READY only. -/
theorem move_targetOwned {s s' : Session} {op : Op} {r : Option Json} (hinv : s.Inv)
    (h : s.Move op r s') (hown : s'.targetOwned = true) :
    s.targetOwned = true ∨ s.index = -1 ∧ s'.index = 0 := by
  cases h with
  | ack hop ha =>
    obtain ⟨k, d, hk, -, -, -, rfl⟩ := ha
    have hp := position_of_nextKind hinv.low hk
    cases k with
    | targetReady =>
      simp only [position] at hp
      exact .inr ⟨by omega, by rw [accept_index]; omega⟩
    | released => simp [accept] at hown
    | _ => exact .inl hown
  | cleanupTarget ha ht => exact .inl ht
  | _ => exact .inl hown

theorem move_loses_source {s s' : Session} {op : Op} {r : Option Json} (h : s.Move op r s')
    (hs : s.sourceOwned = true) (hs' : s'.sourceOwned = false) :
    (op.isAdvance = true ∧ ∃ a d, r = some a ∧ Same a (canonicalAck .sourceReleased s.value d)) ∨
      op = .cleanupOwner (.str s.value.sourceOwner) := by
  cases h with
  | ack hop ha =>
    obtain ⟨k, d, -, -, hsame, -, rfl⟩ := ha
    cases k with
    | sourceReleased => exact .inl ⟨hop, _, d, rfl, hsame⟩
    | _ => simp [accept, hs] at hs'
  | cleanupSource ha hown => exact .inr rfl
  | _ => simp [hs] at hs'

theorem move_loses_target {s s' : Session} {op : Op} {r : Option Json} (h : s.Move op r s')
    (ht : s.targetOwned = true) (ht' : s'.targetOwned = false) :
    (op.isAdvance = true ∧ ∃ a d, r = some a ∧ Same a (canonicalAck .released s.value d)) ∨
      op = .cleanupOwner (.str s.value.targetOwner) := by
  cases h with
  | ack hop ha =>
    obtain ⟨k, d, -, -, hsame, -, rfl⟩ := ha
    cases k with
    | released => exact .inl ⟨hop, _, d, rfl, hsame⟩
    | _ => simp [accept, ht] at ht'
  | cleanupTarget ha hown => exact .inr rfl
  | _ => simp [ht] at ht'

/-- A released source stays released. -/
theorem step_source_gone (op : Op) (s : Session) (h : s.sourceOwned = false) :
    (step op s).2.sourceOwned = false := by
  refine step_invariant (fun t => t.sourceOwned = false) ?_ op s h
  intro s op r s' hs hm
  by_contra hs'
  have := move_sourceOwned hm (by simpa using hs')
  simp [hs] at this

/-- The target had its turn and is not owned (any more). -/
def TargetGone (s : Session) : Prop := s.Inv ∧ 0 ≤ s.index ∧ s.targetOwned = false

theorem step_target_gone (op : Op) (s : Session) (h : TargetGone s) :
    TargetGone (step op s).2 := by
  refine step_invariant TargetGone ?_ op s h
  intro s op r s' ⟨hinv, hi, ht⟩ hm
  refine ⟨inv_move s op r s' hinv hm, le_trans hi (move_index hm), ?_⟩
  by_contra ht'
  obtain h | ⟨h, -⟩ := move_targetOwned hinv hm (by simpa using ht')
  · simp [ht] at h
  · omega

/-- A target that is owned had its turn. -/
theorem index_of_targetOwned {s : Session} (h : s.Inv) (ht : s.targetOwned = true) :
    0 ≤ s.index := by
  by_cases ha : s.abortedReason = none
  · exact ((h.target ha).mp ht).1
  · exact ((h.stopped ha).2 ht).1

theorem step_index_mono (op : Op) (s : Session) : s.index ≤ (step op s).2.index := by
  refine step_invariant (fun t => s.index ≤ t.index) ?_ op s (le_refl _)
  intro t op r t' h hm
  exact le_trans h (move_index hm)

theorem inv_reachable (m : Metadata) (ops : List Op) : (reached m ops).Inv :=
  inv_after (inv_init m) ops

theorem value_reachable (m : Metadata) (ops : List Op) :
    (reached m ops).value = m :=
  after_invariant step (fun s => s.value = m) (fun op s h => (step_value op s).trans h) rfl ops

theorem digest_iff {s : Session} (h : s.Inv) : s.tokenDigest ≠ .null ↔ 4 ≤ s.index := by
  refine ⟨fun hd => ?_, fun hi => ?_⟩
  · by_contra hi
    exact hd (h.undecided (by omega))
  · obtain ⟨d, hd, -⟩ := h.decided hi
    rw [hd]
    simp

/-- The flags of an aborted session are those at the abort, less what was cleaned up. -/
theorem frozen_of_abort {s : Session} {op : Op} (ha : s.abortedReason = none)
    (ha' : (step op s).2.abortedReason ≠ none) (ops : List Op) :
    Frozen s (after step s (op :: ops))
      (countCalls step (cleans s.value.sourceOwner) (step op s).2 ops)
      (countCalls step (cleans s.value.targetOwner) (step op s).2 ops) := by
  have h₀ : Frozen s (step op s).2 0 0 := by
    obtain ⟨e, he⟩ | ⟨r, s', hs, hm⟩ := step_cases op s
    · rw [he] at ha'
      exact absurd ha ha'
    · rw [hs] at ha' ⊢
      cases hm with
      | ack hop hacc =>
        obtain ⟨k, d, -, -, -, -, rfl⟩ := hacc
        simp [ha] at ha'
      | abort hr hc hn => exact ⟨by simp, rfl, rfl, rfl, by simp, by simp⟩
      | cleanupSource hn hown => exact absurd ha hn
      | cleanupTarget hn hown => exact absurd ha hn
  simpa [after] using frozen_after h₀ ops

theorem losesSource_le_one (m : Metadata) (ops : List Op) :
    countCalls step losesSource (init m) ops ≤ 1 := by
  refine countCalls_le_one step (fun _ => True) (fun s => s.sourceOwned = false)
    (fun _ _ _ => trivial) step_source_gone ?_ ?_ trivial ops
  · intro op s h
    simp [losesSource, h]
  · intro op s _ h
    simp only [losesSource, Bool.and_eq_true, Bool.not_eq_true'] at h
    exact h.2

theorem gainsSource_eq_zero (m : Metadata) (ops : List Op) :
    countCalls step gainsSource (init m) ops = 0 := by
  refine countCalls_eq_zero step (fun _ => True) (fun _ _ _ => trivial) ?_ trivial ops
  intro op s _
  cases h : s.sourceOwned with
  | true => simp [gainsSource, h]
  | false => simp [gainsSource, step_source_gone op s h]

theorem gainsTarget_le_one (m : Metadata) (ops : List Op) :
    countCalls step gainsTarget (init m) ops ≤ 1 := by
  have hgain : ∀ op s, s.Inv → gainsTarget op s = true →
      s.index = -1 ∧ (step op s).2.index = 0 := by
    intro op s hinv h
    simp only [gainsTarget, Bool.and_eq_true, Bool.not_eq_true'] at h
    obtain ⟨e, he⟩ | ⟨r, s', hs, hm⟩ := step_cases op s
    · simp [he, h.1] at h
    · rw [hs] at h ⊢
      obtain ht | hi := move_targetOwned hinv hm h.2
      · simp [h.1] at ht
      · exact hi
  refine countCalls_le_one step Inv (fun s => s.Inv ∧ 0 ≤ s.index)
    (step_invariant Inv inv_move) ?_ ?_ ?_ (inv_init m) ops
  · intro op s ⟨hinv, hi⟩
    exact ⟨step_invariant Inv inv_move op s hinv, le_trans hi (step_index_mono op s)⟩
  · intro op s ⟨hinv, hi⟩
    by_contra h
    have := (hgain op s hinv (by simpa using h)).1
    omega
  · intro op s hinv h
    have := (hgain op s hinv h).2
    exact ⟨step_invariant Inv inv_move op s hinv, by omega⟩

theorem losesTarget_le_one (m : Metadata) (ops : List Op) :
    countCalls step losesTarget (init m) ops ≤ 1 := by
  refine countCalls_le_one step Inv TargetGone (step_invariant Inv inv_move)
    step_target_gone ?_ ?_ (inv_init m) ops
  · intro op s h
    simp [losesTarget, h.2.2]
  · intro op s hinv h
    simp only [losesTarget, Bool.and_eq_true, Bool.not_eq_true'] at h
    have hi := index_of_targetOwned hinv h.1
    exact ⟨step_invariant Inv inv_move op s hinv, le_trans hi (step_index_mono op s), h.2⟩

theorem lost_source {m : Metadata} {s : Session} {op : Op} (hv : s.value = m)
    (h : losesSource op s = true) :
    (op.isAdvance = true ∧ ∃ a d, (step op s).1 = .ok (some a) ∧
      Same a (canonicalAck .sourceReleased m d)) ∨ cleans m.sourceOwner op s = true := by
  subst hv
  simp only [losesSource, Bool.and_eq_true, Bool.not_eq_true'] at h
  obtain ⟨e, he⟩ | ⟨r, s', hs, hm⟩ := step_cases op s
  · simp [he, h.1] at h
  · rw [hs] at h
    obtain ⟨hop, a, d, rfl, hsame⟩ | rfl := move_loses_source hm h.1 h.2
    · exact .inl ⟨hop, a, d, by rw [hs], hsame⟩
    · exact .inr (by simp [cleans_cleanupOwner hs])

theorem lost_target {m : Metadata} {s : Session} {op : Op} (hv : s.value = m)
    (h : losesTarget op s = true) :
    (op.isAdvance = true ∧ ∃ a d, (step op s).1 = .ok (some a) ∧
      Same a (canonicalAck .released m d)) ∨ cleans m.targetOwner op s = true := by
  subst hv
  simp only [losesTarget, Bool.and_eq_true, Bool.not_eq_true'] at h
  obtain ⟨e, he⟩ | ⟨r, s', hs, hm⟩ := step_cases op s
  · simp [he, h.1] at h
  · rw [hs] at h
    obtain ⟨hop, a, d, rfl, hsame⟩ | rfl := move_loses_target hm h.1 h.2
    · exact .inl ⟨hop, a, d, by rw [hs], hsame⟩
    · exact .inr (by simp [cleans_cleanupOwner hs])

theorem reached_snoc (m : Metadata) (pre : List Op) (op : Op) (post : List Op) :
    reached m (pre ++ op :: post) = after step (step op (reached m pre)).2 post := by
  rw [reached, after_append]
  rfl

/-- The ownership flags are the ones the history of calls dictates: by position
while the session runs, and frozen but for cleanups from the call that aborted
it on. Nothing is acquired twice, released twice or released by another owner. -/
theorem owners_follow_history (m : Metadata) (ops : List Op) :
    ((reached m ops).abortedReason = none →
      ((reached m ops).sourceOwned = true ↔ (reached m ops).index < 6) ∧
      ((reached m ops).targetOwned = true ↔
        0 ≤ (reached m ops).index ∧ (reached m ops).index ≤ 4) ∧
      ((reached m ops).tokenDigest ≠ .null ↔ 4 ≤ (reached m ops).index)) ∧
    (∀ pre op post, ops = pre ++ op :: post → (reached m pre).abortedReason = none →
      (reached m (pre ++ [op])).abortedReason ≠ none →
      (reached m ops).abortedReason ≠ none ∧ (reached m pre).index ≤ 5 ∧
      (reached m ops).index = (reached m pre).index ∧
      (reached m ops).sourceOwned = ((reached m pre).sourceOwned &&
        countCalls step (cleans m.sourceOwner) (reached m (pre ++ [op])) post == 0) ∧
      (reached m ops).targetOwned = ((reached m pre).targetOwned &&
        countCalls step (cleans m.targetOwner) (reached m (pre ++ [op])) post == 0)) ∧
    countCalls step gainsSource (init m) ops = 0 ∧
    countCalls step gainsTarget (init m) ops ≤ 1 ∧
    countCalls step losesSource (init m) ops ≤ 1 ∧
    countCalls step losesTarget (init m) ops ≤ 1 ∧
    (∀ pre op post, ops = pre ++ op :: post → losesSource op (reached m pre) = true →
      (reached m ops).sourceOwned = false ∧
      ((op.isAdvance = true ∧ ∃ a d, (step op (reached m pre)).1 = .ok (some a) ∧
          Same a (canonicalAck .sourceReleased m d)) ∨
        cleans m.sourceOwner op (reached m pre) = true)) ∧
    (∀ pre op post, ops = pre ++ op :: post → losesTarget op (reached m pre) = true →
      (reached m ops).targetOwned = false ∧
      ((op.isAdvance = true ∧ ∃ a d, (step op (reached m pre)).1 = .ok (some a) ∧
          Same a (canonicalAck .released m d)) ∨
        cleans m.targetOwner op (reached m pre) = true)) := by
  have hinv := inv_reachable m
  refine ⟨fun ha => ⟨(hinv ops).source ha, (hinv ops).target ha, digest_iff (hinv ops)⟩, ?_,
    gainsSource_eq_zero m ops, gainsTarget_le_one m ops, losesSource_le_one m ops,
    losesTarget_le_one m ops, ?_, ?_⟩
  · intro pre op post hops ha ha'
    subst hops
    rw [reached_snoc m pre op []] at ha' ⊢
    rw [reached_snoc]
    have hf := frozen_of_abort ha ha' post
    have hlow : (step op (reached m pre)).2.index = (reached m pre).index :=
      (frozen_of_abort ha ha' []).index
    have h5 := ((step_invariant Inv inv_move op _ (hinv pre)).stopped ha').1
    rw [value_reachable] at hf
    exact ⟨hf.aborted, by omega, hf.index, hf.source, hf.target⟩
  · intro pre op post hops hl
    subst hops
    refine ⟨?_, lost_source (value_reachable m pre) hl⟩
    simp only [losesSource, Bool.and_eq_true, Bool.not_eq_true'] at hl
    rw [reached_snoc]
    exact after_invariant step (fun s => s.sourceOwned = false) step_source_gone hl.2 post
  · intro pre op post hops hl
    subst hops
    refine ⟨?_, lost_target (value_reachable m pre) hl⟩
    simp only [losesTarget, Bool.and_eq_true, Bool.not_eq_true'] at hl
    have hi := index_of_targetOwned (hinv pre) hl.1
    have hgone : TargetGone (step op (reached m pre)).2 :=
      ⟨step_invariant Inv inv_move op _ (hinv pre), le_trans hi (step_index_mono op _), hl.2⟩
    rw [reached_snoc]
    exact (after_invariant step TargetGone step_target_gone hgone post).2.2

/-! ### Closing -/

theorem state_eq_of_index {s : Session} (ha : s.abortedReason = none) (h : s.Inv) :
    s.state = AckKind.sourceReleased.value ↔ s.index = 6 := by
  have hlow := h.low
  have hhigh := h.high
  obtain ⟨n, hn⟩ : ∃ n : Nat, s.index = n - 1 := ⟨(s.index + 1).toNat, by omega⟩
  have hn7 : n ≤ 7 := by omega
  unfold state
  interval_cases n <;> simp [ha, hn, ACK_SEQUENCE, AckKind.value]

theorem state_ne_aborted {s : Session} (ha : s.abortedReason = none) (h : s.Inv) :
    s.state ≠ "ABORTED" := by
  have hlow := h.low
  have hhigh := h.high
  obtain ⟨n, hn⟩ : ∃ n : Nat, s.index = n - 1 := ⟨(s.index + 1).toNat, by omega⟩
  have hn7 : n ≤ 7 := by omega
  unfold state
  interval_cases n <;> simp [ha, hn, ACK_SEQUENCE, AckKind.value]

theorem closed_iff {s : Session} (h : s.Inv) : s.closed = true ↔
    (s.sourceOwned = false ∧ s.targetOwned = false) ∧
      (s.state = "ABORTED" ∨ s.state = AckKind.sourceReleased.value) := by
  cases ha : s.abortedReason with
  | some r => simp [closed, state, ha]
  | none =>
    simp only [state_ne_aborted ha h, state_eq_of_index ha h, false_or]
    simp [closed, ha, ACK_SEQUENCE, and_comm]

theorem no_move_of_closed {s s' : Session} {op : Op} {r : Option Json} (hc : s.closed = true) :
    ¬ s.Move op r s' := by
  intro hm
  cases hm with
  | ack hop ha =>
    obtain ⟨k, d, hk, -⟩ := ha
    obtain ⟨ha, hlt, -⟩ := (nextKind_eq_some s k).mp hk
    simp only [closed, ha, Option.isSome_none, Bool.false_eq_true, if_false, Bool.and_eq_true,
      beq_iff_eq] at hc
    omega
  | abort hr hopen ha => simp [hc] at hopen
  | cleanupSource ha hown =>
    simp [closed, Option.isSome_iff_ne_none.mpr ha, hown] at hc
  | cleanupTarget ha hown =>
    simp [closed, Option.isSome_iff_ne_none.mpr ha, hown] at hc

theorem step_cleanup_source {s : Session} (ha : s.abortedReason ≠ none)
    (hown : s.sourceOwned = true) :
    step (.cleanupOwner (.str s.value.sourceOwner)) s =
      (.ok none, { s with sourceOwned := false }) := by
  obtain ⟨r, hr⟩ := Option.ne_none_iff_exists'.mp ha
  have hsafe : requireSafeId (.str s.value.sourceOwner) "owner_id" .ownershipError =
      .ok s.value.sourceOwner := (requireForm_eq_ok _ _ _ _).mpr ⟨rfl, s.value.sourceOwner_form⟩
  simp [step, Act.bind_run, cleanupOwner_run hr hsafe, hown]

theorem step_cleanup_target {s : Session} (ha : s.abortedReason ≠ none)
    (hown : s.targetOwned = true) :
    step (.cleanupOwner (.str s.value.targetOwner)) s =
      (.ok none, { s with targetOwned := false }) := by
  obtain ⟨r, hr⟩ := Option.ne_none_iff_exists'.mp ha
  have hsafe : requireSafeId (.str s.value.targetOwner) "owner_id" .ownershipError =
      .ok s.value.targetOwner := (requireForm_eq_ok _ _ _ _).mpr ⟨rfl, s.value.targetOwner_form⟩
  simp [step, Act.bind_run, cleanupOwner_run hr hsafe, hown, Ne.symm s.value.owners_ne]

/-- An aborted session can be closed by cleaning up what it still owns. -/
theorem aborted_closes {s : Session} (ha : s.abortedReason ≠ none) :
    ∃ ops, allReturn step s ops ∧ (after step s ops).closed = true := by
  have hclosed : ∀ t : Session, t.abortedReason ≠ none → t.sourceOwned = false →
      t.targetOwned = false → t.closed = true := by
    intro t hn hs ht
    simp [closed, Option.isSome_iff_ne_none.mpr hn, hs, ht]
  have htarget : ∀ t : Session, t.abortedReason ≠ none → t.sourceOwned = false →
      ∃ ops, allReturn step t ops ∧ (after step t ops).closed = true := by
    intro t hn hs
    cases ht : t.targetOwned with
    | false => exact ⟨[], trivial, hclosed t hn hs ht⟩
    | true =>
      refine ⟨[.cleanupOwner (.str t.value.targetOwner)], ⟨?_, trivial⟩, ?_⟩
      · rw [step_cleanup_target hn ht]
        rfl
      · rw [after, step_cleanup_target hn ht]
        exact hclosed _ hn hs rfl
  cases hs : s.sourceOwned with
  | false => exact htarget s ha hs
  | true =>
    obtain ⟨ops, hret, hfin⟩ := htarget { s with sourceOwned := false } ha rfl
    refine ⟨.cleanupOwner (.str s.value.sourceOwner) :: ops, ⟨?_, ?_⟩, ?_⟩
    · rw [step_cleanup_source ha hs]
      rfl
    · rw [step_cleanup_source ha hs]
      exact hret
    · rw [after, step_cleanup_source ha hs]
      exact hfin

theorem step_abort {s : Session} (hc : s.closed = false) (ha : s.abortedReason = none) :
    step (.abort (.str "cancelled")) s =
      (.ok none, { s with abortedReason := some "cancelled" }) := by
  have hr : requireForm isReason (.str "cancelled")
      (protocolError "abort reason must be non-empty and bounded") = .ok "cancelled" := rfl
  simp [step, abort, Act.bind_run, Act.raiseIf_run, hc, ha, hr]

/-- An open session can always be closed. -/
theorem open_closes {s : Session} (hc : s.closed = false) :
    ∃ ops, allReturn step s ops ∧ (after step s ops).closed = true := by
  by_cases ha : s.abortedReason = none
  · have hs := step_abort hc ha
    obtain ⟨ops, hret, hfin⟩ :=
      aborted_closes (s := { s with abortedReason := some "cancelled" }) (by simp)
    refine ⟨.abort (.str "cancelled") :: ops, ⟨?_, ?_⟩, ?_⟩
    · rw [hs]
      rfl
    · rw [hs]
      exact hret
    · rw [after, hs]
      exact hfin
  · exact aborted_closes ha

/-- Being closed is final, says exactly that both owners let go at an end of the
protocol, and can be reached from everywhere. -/
theorem closed_absorbing_attainable (m : Metadata) (ops : List Op) :
    ((reached m ops).closed = true → ∀ op, ∃ e, step op (reached m ops) = (.error e, reached m ops)) ∧
    ((reached m ops).closed = false → ∃ more, allReturn step (reached m ops) more ∧
      (reached m (ops ++ more)).closed = true ∧
      (reached m (ops ++ more)).sourceOwned = false ∧
      (reached m (ops ++ more)).targetOwned = false) ∧
    ((reached m ops).closed = true ↔
      ((reached m ops).sourceOwned = false ∧ (reached m ops).targetOwned = false) ∧
        ((reached m ops).state = "ABORTED" ∨
          (reached m ops).state = AckKind.sourceReleased.value)) := by
  refine ⟨fun hc op => ?_, fun hc => ?_, closed_iff (inv_reachable m ops)⟩
  · obtain he | ⟨r, s', -, hm⟩ := step_cases op (reached m ops)
    · exact he
    · exact absurd hm (no_move_of_closed hc)
  · obtain ⟨more, hret, hfin⟩ := open_closes hc
    have hend : (reached m (ops ++ more)).closed = true := by
      rw [reached, after_append]
      exact hfin
    have howners := ((closed_iff (inv_reachable m (ops ++ more))).mp hend).1
    exact ⟨more, hret, hend, howners.1, howners.2⟩

/-! ### Failed calls -/

def targetAfter (s : Session) : AckKind → Bool
  | .targetReady => true
  | .released => false
  | _ => s.targetOwned

def sourceAfter (s : Session) : AckKind → Bool
  | .sourceReleased => false
  | _ => s.sourceOwned

/-- All that a call that returned `r` changed. -/
def Effect (s : Session) (op : Op) (r : Option Json) (s' : Session) : Prop :=
  match op with
  | .advance _ | .advanceKind _ _ _ _ => ∃ k ack, s.nextKind = some k ∧ r = some ack ∧
      s' = { s with
        index := s.index + 1
        targetOwned := s.targetAfter k
        sourceOwned := s.sourceAfter k
        tokenDigest := if k = .decodeDone then digestOf ack else s.tokenDigest }
  | .abort reason => ∃ text, reason = .str text ∧ s' = { s with abortedReason := some text }
  | .cleanupOwner ownerId =>
      (ownerId = .str s.value.sourceOwner ∧ ownerId ≠ .str s.value.targetOwner ∧
        s.sourceOwned = true ∧ s' = { s with sourceOwned := false }) ∨
      (ownerId = .str s.value.targetOwner ∧ ownerId ≠ .str s.value.sourceOwner ∧
        s.targetOwned = true ∧ s' = { s with targetOwned := false })

theorem accepts_effect {s s' : Session} {ack : Json} (h : s.Accepts ack s') :
    ∃ k, s.nextKind = some k ∧
      s' = { s with
        index := s.index + 1
        targetOwned := s.targetAfter k
        sourceOwned := s.sourceAfter k
        tokenDigest := if k = .decodeDone then digestOf ack else s.tokenDigest } := by
  obtain ⟨k, d, hk, -, hs, -, rfl⟩ := h
  refine ⟨k, hk, ?_⟩
  rw [digestOf_of_same hs]
  cases k <;> rfl

theorem move_effect {s s' : Session} {op : Op} {r : Option Json} (h : s.Move op r s') :
    s.Effect op r s' := by
  cases h with
  | ack hop ha =>
    obtain ⟨k, hk, hs⟩ := accepts_effect ha
    cases op with
    | advance _ => exact ⟨k, _, hk, rfl, hs⟩
    | advanceKind _ _ _ _ => exact ⟨k, _, hk, rfl, hs⟩
    | abort _ => cases hop
    | cleanupOwner _ => cases hop
  | abort hr hc ha => exact ⟨_, rfl, rfl⟩
  | cleanupSource ha hown =>
    exact .inl ⟨rfl, fun heq => s.value.owners_ne (Json.str.inj heq), hown, rfl⟩
  | cleanupTarget ha hown =>
    exact .inr ⟨rfl, fun heq => s.value.owners_ne (Json.str.inj heq).symm, hown, rfl⟩

/-- A call that raises leaves the session as it was, and one that returns changes
only what the call is for. -/
theorem calls_atomic (m : Metadata) (ops : List Op) (op : Op) :
    (∀ e s', step op (reached m ops) = (.error e, s') → s' = reached m ops) ∧
    (∀ r s', step op (reached m ops) = (.ok r, s') → (reached m ops).Effect op r s') := by
  refine ⟨fun e s' h => step_error h, fun r s' h => ?_⟩
  exact move_effect (step_ok h)

end Session
end ServerlessX.Contract
