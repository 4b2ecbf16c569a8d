import ServerlessX.Rfork.Runtime

/-! Moving the role token through its descriptor in parts: what the install loop and the
read loop make of an answer, and what they have asked for when they end. -/
namespace ServerlessX.Rfork
open ServerlessX.Py

/-- A read or a write at the role descriptor, with its answer. -/
structure Transfer where
  fd : Int
  length : Nat
  offset : Nat
  result : Int
  errno : Int

namespace Transfer

def Interrupted (t : Transfer) : Prop := t.result < 0 ∧ t.errno = EINTR

instance (t : Transfer) : Decidable t.Interrupted := inferInstanceAs (Decidable (_ ∧ _))

/-- The bytes a call has moved by its own account. -/
def moved (t : Transfer) : Nat := if t.errno = 0 then t.result.toNat else 0

def pread (t : Transfer) : Call := .pread t.fd t.length t.offset t.result t.errno

end Transfer

def completedBy (ts : List Transfer) : Nat := (ts.map Transfer.moved).sum

def interruptions (ts : List Transfer) : Nat := ts.countP fun t => t.Interrupted

/-- Each call is about what is left of the token behind the bytes moved before it. -/
def Asked (ts : List Transfer) : Prop :=
  ∀ before t, before ++ [t] <+: ts →
    t.fd = SPD_RFORK_ROLE_FD ∧ t.offset = completedBy before ∧ 0 < t.length ∧
      t.offset + t.length = SPD_RFORK_ROLE_TOKEN_SIZE

/-- A loop that has ended: what it asked for, and that it was an interruption which
ended it just when one came after eight others. -/
structure Finished (failed : Status) (ts : List Transfer) (status : Status) (errno : Int) : Prop where
  asked : Asked ts
  retries : interruptions ts ≤ SPD_MAX_EINTR_RETRIES + 1
  exhausted : interruptions ts = SPD_MAX_EINTR_RETRIES + 1 ↔ status = failed ∧ errno = EINTR
  last : interruptions ts = SPD_MAX_EINTR_RETRIES + 1 ↔ ∃ before t, ts = before ++ [t] ∧ t.Interrupted

/-- A loop that goes on. -/
structure Progress (ts : List Transfer) (completed interrupted : Nat) : Prop where
  asked : Asked ts
  moved : completedBy ts = completed
  within : completed ≤ SPD_RFORK_ROLE_TOKEN_SIZE
  retried : interruptions ts = interrupted
  retries : interrupted ≤ SPD_MAX_EINTR_RETRIES
  resumed : ∀ before t, ts = before ++ [t] → t.Interrupted → completed < SPD_RFORK_ROLE_TOKEN_SIZE

/-- What either loop makes of an answer: it goes on with so many bytes and interruptions,
or stops with a status and an errno. -/
inductive Answered (failed short : Status) (completed interrupted : Nat) (result errno : Int) :
    Status × Int ⊕ Nat × Nat → Prop where
  | retry (hneg : result < 0) (hintr : errno = EINTR) (hleft : interrupted < SPD_MAX_EINTR_RETRIES) :
      Answered failed short completed interrupted result errno (.inr (completed, interrupted + 1))
  | exhausted (hneg : result < 0) (hintr : errno = EINTR)
      (hnone : SPD_MAX_EINTR_RETRIES ≤ interrupted) :
      Answered failed short completed interrupted result errno (.inl (failed, EINTR))
  | failed {e : Int} (hintr : errno ≠ EINTR) (he : e ≠ EINTR) (hsome : e ≠ 0) :
      Answered failed short completed interrupted result errno (.inl (failed, e))
  | short {e : Int} (hpos : 0 ≤ result) (hsome : e ≠ 0) :
      Answered failed short completed interrupted result errno (.inl (short, e))
  | progress (hpos : 0 < result) (hclean : errno = 0)
      (hfits : completed + result.toNat ≤ SPD_RFORK_ROLE_TOKEN_SIZE) :
      Answered failed short completed interrupted result errno
        (.inr (completed + result.toNat, interrupted))

theorem positiveErrno_pos (errno : Int) : 0 < positiveErrno errno := by
  unfold positiveErrno
  split
  · assumption
  · decide

theorem positiveErrno_ne {errno : Int} (h : errno ≠ EINTR) : positiveErrno errno ≠ EINTR := by
  unfold positiveErrno
  split
  · exact h
  · decide

theorem errno_or_ne (errno : Int) : (if errno ≠ 0 then errno else EPROTO) ≠ 0 := by
  split
  · assumption
  · decide

/-- The comparisons that both loops make in turn. -/
theorem answered_of_reply (failed short : Status) (completed interrupted : Nat)
    (result errno : Int) :
    Answered failed short completed interrupted result errno
      (if result < 0 then
        if errno = EINTR ∧ interrupted < SPD_MAX_EINTR_RETRIES then .inr (completed, interrupted + 1)
        else .inl (failed, positiveErrno errno)
      else if errno ≠ 0 ∨ result = 0 ∨ result > SPD_RFORK_ROLE_TOKEN_SIZE - completed then
        .inl (short, if errno ≠ 0 then errno else EPROTO)
      else .inr (completed + result.toNat, interrupted)) := by
  by_cases hneg : result < 0
  · rw [if_pos hneg]
    by_cases hintr : errno = EINTR
    · by_cases hleft : interrupted < SPD_MAX_EINTR_RETRIES
      · rw [if_pos ⟨hintr, hleft⟩]
        exact .retry hneg hintr hleft
      · rw [if_neg (fun h => hleft h.2)]
        subst hintr
        exact .exhausted hneg rfl (not_lt.mp hleft)
    · rw [if_neg (fun h => hintr h.1)]
      exact .failed hintr (positiveErrno_ne hintr) (positiveErrno_pos errno).ne'
  · rw [if_neg hneg]
    by_cases hshort : errno ≠ 0 ∨ result = 0 ∨ result > SPD_RFORK_ROLE_TOKEN_SIZE - completed
    · rw [if_pos hshort]
      exact .short (not_lt.mp hneg) (errno_or_ne errno)
    · rw [if_neg hshort]
      simp only [not_or, ne_eq, not_not, not_lt] at hshort hneg
      obtain ⟨hclean, hzero, hfits⟩ := hshort
      exact .progress (by omega) hclean (by omega)

/-- The call a loop makes in that state, with its answer. -/
def asking (completed : Nat) (result errno : Int) : Transfer :=
  ⟨SPD_RFORK_ROLE_FD, SPD_RFORK_ROLE_TOKEN_SIZE - completed, completed, result, errno⟩

theorem asked_nil : Asked [] := by
  intro before t h
  simp at h

theorem asked_snoc {ts : List Transfer} (h : Asked ts) (hlt : completedBy ts < SPD_RFORK_ROLE_TOKEN_SIZE)
    (result errno : Int) : Asked (ts ++ [asking (completedBy ts) result errno]) := by
  intro before t ht
  obtain hlast | hold := List.prefix_concat_iff.mp ht
  · obtain ⟨rfl, heq⟩ := List.append_inj' hlast rfl
    obtain rfl : t = asking (completedBy before) result errno := by simpa using heq
    refine ⟨rfl, rfl, Nat.sub_pos_of_lt hlt, ?_⟩
    exact Nat.add_sub_cancel' hlt.le
  · exact h before t hold

theorem completedBy_snoc (ts : List Transfer) (t : Transfer) :
    completedBy (ts ++ [t]) = completedBy ts + t.moved := by
  simp [completedBy]

theorem interruptions_snoc (ts : List Transfer) (t : Transfer) :
    interruptions (ts ++ [t]) = interruptions ts + if t.Interrupted then 1 else 0 := by
  simp [interruptions, List.countP_append, List.countP_singleton]

theorem last_snoc (ts : List Transfer) (t : Transfer) :
    (∃ before u, ts ++ [t] = before ++ [u] ∧ u.Interrupted) ↔ t.Interrupted := by
  constructor
  · rintro ⟨before, u, heq, hu⟩
    obtain ⟨-, hlast⟩ := List.append_inj' heq rfl
    obtain rfl : t = u := by simpa using hlast
    exact hu
  · intro h
    exact ⟨ts, t, rfl, h⟩

theorem progress_start : Progress [] 0 0 where
  asked := asked_nil
  moved := rfl
  within := by decide
  retried := rfl
  retries := by decide
  resumed := by
    intro before t h
    simp at h

/-- A turn that goes on has moved a byte or used up a retry. -/
theorem Progress.goes {failed short : Status} {ts : List Transfer} {completed interrupted : Nat}
    {result errno : Int} {next : Nat × Nat} (hp : Progress ts completed interrupted)
    (hlt : completed < SPD_RFORK_ROLE_TOKEN_SIZE)
    (h : Answered failed short completed interrupted result errno (.inr next)) :
    Progress (ts ++ [asking completed result errno]) next.1 next.2 ∧
      (SPD_RFORK_ROLE_TOKEN_SIZE - next.1) + (SPD_MAX_EINTR_RETRIES - next.2) <
        (SPD_RFORK_ROLE_TOKEN_SIZE - completed) + (SPD_MAX_EINTR_RETRIES - interrupted) := by
  obtain rfl := hp.moved
  obtain rfl := hp.retried
  have hasked := asked_snoc hp.asked hlt result errno
  have hmoved := completedBy_snoc ts (asking (completedBy ts) result errno)
  have hcount := interruptions_snoc ts (asking (completedBy ts) result errno)
  cases h with
  | retry hneg hintr hleft =>
    have hnone : (asking (completedBy ts) result errno).moved = 0 := by
      simp only [Transfer.moved, asking, Int.toNat_of_nonpos hneg.le, ite_self]
    rw [hnone] at hmoved
    rw [if_pos ⟨hneg, hintr⟩] at hcount
    exact ⟨⟨hasked, hmoved, hp.within, hcount, hleft, fun _ _ _ _ => hlt⟩, by simp only; omega⟩
  | progress hpos hclean hfits =>
    have hall : (asking (completedBy ts) result errno).moved = result.toNat := if_pos hclean
    have hnot : ¬ (asking (completedBy ts) result errno).Interrupted := fun hi => absurd hi.1 (by
      simp only [asking]
      omega)
    rw [hall] at hmoved
    rw [if_neg hnot] at hcount
    refine ⟨⟨hasked, hmoved, hfits, hcount, hp.retries, fun before t heq ht => ?_⟩, by simp only; omega⟩
    exact absurd ((last_snoc ts _).mp ⟨before, t, heq, ht⟩) hnot

/-- A turn that stops. -/
theorem Progress.stops {failed short : Status} (hne : short ≠ failed) {ts : List Transfer}
    {completed interrupted : Nat} {result errno : Int} {stop : Status × Int}
    (hp : Progress ts completed interrupted) (hlt : completed < SPD_RFORK_ROLE_TOKEN_SIZE)
    (h : Answered failed short completed interrupted result errno (.inl stop)) :
    Finished failed (ts ++ [asking completed result errno]) stop.1 stop.2 := by
  obtain rfl := hp.moved
  obtain rfl := hp.retried
  have hasked := asked_snoc hp.asked hlt result errno
  have hcount := interruptions_snoc ts (asking (completedBy ts) result errno)
  have hlast := last_snoc ts (asking (completedBy ts) result errno)
  have hmax := hp.retries
  cases h with
  | exhausted hneg hintr hnone =>
    have hi : (asking (completedBy ts) result errno).Interrupted := ⟨hneg, hintr⟩
    rw [if_pos hi] at hcount
    have hall : interruptions (ts ++ [asking (completedBy ts) result errno]) =
        SPD_MAX_EINTR_RETRIES + 1 := by omega
    exact ⟨hasked, hall.le, iff_of_true hall ⟨rfl, rfl⟩, iff_of_true hall (hlast.mpr hi)⟩
  | failed hintr he hsome =>
    have hi : ¬ (asking (completedBy ts) result errno).Interrupted := fun hi => hintr hi.2
    rw [if_neg hi] at hcount
    have hfew : interruptions (ts ++ [asking (completedBy ts) result errno]) ≠
        SPD_MAX_EINTR_RETRIES + 1 := by omega
    exact ⟨hasked, by omega, iff_of_false hfew (fun h => he h.2), iff_of_false hfew (mt hlast.mp hi)⟩
  | short hpos hsome =>
    have hi : ¬ (asking (completedBy ts) result errno).Interrupted := fun hi =>
      absurd hi.1 (not_lt.mpr hpos)
    rw [if_neg hi] at hcount
    have hfew : interruptions (ts ++ [asking (completedBy ts) result errno]) ≠
        SPD_MAX_EINTR_RETRIES + 1 := by omega
    exact ⟨hasked, by omega, iff_of_false hfew (fun h => hne h.1), iff_of_false hfew (mt hlast.mp hi)⟩

/-- The loop ends because the token is through. -/
theorem Progress.done {failed : Status} (hne : failed ≠ .ok) {ts : List Transfer}
    {completed interrupted : Nat} (hp : Progress ts completed interrupted)
    (hdone : ¬ completed < SPD_RFORK_ROLE_TOKEN_SIZE) : Finished failed ts .ok 0 := by
  have hmax := hp.retries
  have hfew : interruptions ts ≠ SPD_MAX_EINTR_RETRIES + 1 := by
    rw [hp.retried]
    omega
  refine ⟨hp.asked, by rw [hp.retried]; omega, iff_of_false hfew (fun h => hne h.1.symm),
    iff_of_false hfew ?_⟩
  rintro ⟨before, t, heq, ht⟩
  exact hdone (hp.resumed before t heq ht)

/-- A loop that stops early says why. -/
theorem Answered.stop {failed short : Status} {completed interrupted : Nat} {result errno : Int}
    {stop : Status × Int}
    (h : Answered failed short completed interrupted result errno (.inl stop)) :
    (stop.1 = failed ∨ stop.1 = short) ∧ stop.2 ≠ 0 := by
  cases h with
  | exhausted hneg hintr hnone => exact ⟨.inl rfl, show EINTR ≠ 0 by decide⟩
  | failed hintr he hsome => exact ⟨.inl rfl, hsome⟩
  | short hpos hsome => exact ⟨.inr rfl, hsome⟩

theorem stop_ne_ok {status failed short : Status} (h : status = failed ∨ status = short)
    (hf : failed ≠ .ok) (hs : short ≠ .ok) : status ≠ .ok := by
  obtain rfl | rfl := h
  · exact hf
  · exact hs

/-- One turn of the read loop that makes a call. -/
theorem readTurn_call {σ : Type} (ops : IoTable σ) {s : ReadState}
    (hlt : s.completed < SPD_RFORK_ROLE_TOKEN_SIZE) (w : World σ) {r : Reply σ} {data : Bytes}
    (hr : ops.preadCall SPD_RFORK_ROLE_FD (s.wire.drop s.completed) s.completed w.env = (r, data)) :
    ∃ next, Answered .errRoleRead .errRoleShortRead s.completed s.interrupted r.result r.errno next ∧
      readTurn ops s w =
        (next.map .error fun p =>
          ⟨s.wire.take s.completed ++ IoTable.stored (s.wire.drop s.completed) data, p.1, p.2⟩,
        w.push r.next (.pread SPD_RFORK_ROLE_FD (s.wire.drop s.completed).length s.completed
          r.result r.errno)) := by
  refine ⟨_, answered_of_reply _ _ _ _ _ _, ?_⟩
  simp only [readTurn, hlt, if_true, IoTable.callPread, hr]
  split_ifs <;> rfl

end ServerlessX.Rfork
