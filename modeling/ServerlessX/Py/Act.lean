import Mathlib
import ServerlessX.Py.Values

/-! Calls that may raise and whose effects survive the raise, and runs of an
object that is called over and over, failed calls included. -/
namespace ServerlessX.Py
variable {σ ε α β ι : Type}

/-- A call on a mutable object: it returns or raises, and the state it leaves
is the state at that point. -/
def Act (σ ε α : Type) : Type := σ → Except ε α × σ

namespace Act

protected def pure (a : α) : Act σ ε α := fun s => (.ok a, s)

protected def bind (x : Act σ ε α) (f : α → Act σ ε β) : Act σ ε β := fun s =>
  match x s with
  | (.ok a, s') => f a s'
  | (.error e, s') => (.error e, s')

instance : Monad (Act σ ε) where
  pure := Act.pure
  bind := Act.bind

def raise (e : ε) : Act σ ε α := fun s => (.error e, s)

/-- A pure function that may raise. -/
def call (x : Except ε α) : Act σ ε α := fun s => (x, s)

def read : Act σ ε σ := fun s => (.ok s, s)

def modify (f : σ → σ) : Act σ ε Unit := fun s => (.ok (), f s)

/-- `if c: raise e`. -/
def raiseIf (c : Bool) (e : ε) : Act σ ε Unit := if c then raise e else Act.pure ()

/-- `try: x finally: y`, where `y` does not raise. -/
def andFinally (x : Act σ ε α) (y : σ → σ) : Act σ ε α := fun s =>
  ((x s).1, y (x s).2)

/-- `try: x except: h`, where the handler raises again. -/
def onRaise (x : Act σ ε α) (h : ε → Act σ ε α) : Act σ ε α := fun s =>
  match x s with
  | (.ok a, s') => (.ok a, s')
  | (.error e, s') => h e s'

/-- A call on a part of the object. -/
def zoom {τ : Type} (get : σ → τ) (set : τ → σ → σ) (x : Act τ ε α) : Act σ ε α := fun s =>
  ((x (get s)).1, set (x (get s)).2 s)

@[simp] theorem pure_run (a : α) (s : σ) : (pure a : Act σ ε α) s = (.ok a, s) := rfl

@[simp] theorem raise_run (e : ε) (s : σ) : (raise e : Act σ ε α) s = (.error e, s) := rfl

@[simp] theorem call_run (x : Except ε α) (s : σ) : call x s = (x, s) := rfl

@[simp] theorem read_run (s : σ) : (read : Act σ ε σ) s = (.ok s, s) := rfl

@[simp] theorem modify_run (f : σ → σ) (s : σ) :
    (modify f : Act σ ε Unit) s = (.ok (), f s) := rfl

theorem bind_run (x : Act σ ε α) (f : α → Act σ ε β) (s : σ) :
    (x >>= f) s = match x s with
      | (.ok a, s') => f a s'
      | (.error e, s') => (.error e, s') := rfl

theorem bind_run_ok (x : Act σ ε α) (f : α → Act σ ε β) (s s'' : σ) (b : β) :
    (x >>= f) s = (.ok b, s'') ↔ ∃ a s', x s = (.ok a, s') ∧ f a s' = (.ok b, s'') := by
  rw [bind_run]
  cases hx : x s with
  | mk r s' => cases r <;> simp

theorem call_run_ok (x : Except ε α) (s s' : σ) (a : α) :
    call x s = (.ok a, s') ↔ x = .ok a ∧ s' = s := by
  simp [eq_comm]

theorem pure_run_ok (a b : α) (s s' : σ) :
    (pure a : Act σ ε α) s = (.ok b, s') ↔ b = a ∧ s' = s := by
  simp [eq_comm]

theorem raiseIf_run_ok (c : Bool) (e : ε) (s s' : σ) (u : Unit) :
    raiseIf c e s = (.ok u, s') ↔ c = false ∧ s' = s := by
  cases c <;> simp [raiseIf, Act.pure, raise, eq_comm]

theorem raiseIf_run (c : Bool) (e : ε) (s : σ) :
    raiseIf c e s = if c then (.error e, s) else (.ok (), s) := by
  cases c <;> rfl

/-- The call keeps an invariant, whether it returns or raises. -/
def Keeps (inv : σ → Prop) (x : Act σ ε α) : Prop := ∀ s, inv s → inv (x s).2

section Keeps
variable {inv : σ → Prop}

theorem keeps_bind {x : Act σ ε α} {f : α → Act σ ε β} (hx : Keeps inv x)
    (hf : ∀ a, Keeps inv (f a)) : Keeps inv (x >>= f) := by
  intro s hs
  have hs' := hx s hs
  rw [bind_run]
  cases h : x s with
  | mk r s' =>
    rw [h] at hs'
    cases r with
    | ok a => exact hf a s' hs'
    | error e => exact hs'

theorem keeps_pure (a : α) : Keeps inv (pure a : Act σ ε α) := fun _ hs => hs

theorem keeps_raise (e : ε) : Keeps inv (raise e : Act σ ε α) := fun _ hs => hs

theorem keeps_call (x : Except ε α) : Keeps inv (call x : Act σ ε α) := fun _ hs => hs

theorem keeps_read : Keeps inv (read : Act σ ε σ) := fun _ hs => hs

theorem keeps_modify {f : σ → σ} (h : ∀ s, inv s → inv (f s)) :
    Keeps inv (modify f : Act σ ε Unit) := h

theorem keeps_raiseIf (c : Bool) (e : ε) : Keeps inv (raiseIf c e : Act σ ε Unit) := by
  cases c
  · exact keeps_pure ()
  · exact keeps_raise e

theorem keeps_onRaise {x : Act σ ε α} {h : ε → Act σ ε α} (hx : Keeps inv x)
    (hh : ∀ e, Keeps inv (h e)) : Keeps inv (onRaise x h) := by
  intro s hs
  have hs' := hx s hs
  rw [onRaise]
  cases hr : x s with
  | mk r s' =>
    rw [hr] at hs'
    cases r with
    | ok a => exact hs'
    | error e => exact hh e s' hs'

end Keeps

/-- From a state of `pre`, the call returns in a state of `post` or raises in
one of `raised`. -/
def Ends (pre post raised : σ → Prop) (x : Act σ ε α) : Prop :=
  ∀ s, pre s → match x s with
    | (.ok _, s') => post s'
    | (.error _, s') => raised s'

section Ends
variable {pre mid post raised : σ → Prop}

theorem Keeps.ends {x : Act σ ε α} (h : Keeps pre x) : Ends pre pre pre x := by
  intro s hs
  have hs' := h s hs
  cases hx : x s with
  | mk r s' =>
    rw [hx] at hs'
    cases r <;> exact hs'

theorem ends_bind {x : Act σ ε α} {f : α → Act σ ε β} (hx : Ends pre mid raised x)
    (hf : ∀ a, Ends mid post raised (f a)) : Ends pre post raised (x >>= f) := by
  intro s hs
  have hs' := hx s hs
  rw [bind_run]
  cases h : x s with
  | mk r s' =>
    rw [h] at hs'
    cases r with
    | ok a => exact hf a s' hs'
    | error e => exact hs'

theorem ends_modify {f : σ → σ} (h : ∀ s, pre s → post (f s)) :
    Ends pre post raised (modify f : Act σ ε Unit) := h

theorem ends_andFinally {x : Act σ ε α} {y : σ → σ} {post' raised' : σ → Prop}
    (hx : Ends pre post raised x) (hok : ∀ s, post s → post' (y s))
    (herr : ∀ s, raised s → raised' (y s)) : Ends pre post' raised' (andFinally x y) := by
  intro s hs
  have hs' := hx s hs
  rw [andFinally]
  cases h : x s with
  | mk r s' =>
    rw [h] at hs'
    cases r with
    | ok a => exact hok s' hs'
    | error e => exact herr s' hs'

theorem Ends.imp {x : Act σ ε α} {post' raised' : σ → Prop} (h : Ends pre post raised x)
    (hpost : ∀ s, post s → post' s) (hraised : ∀ s, raised s → raised' s) :
    Ends pre post' raised' x := by
  intro s hs
  have hs' := h s hs
  cases hx : x s with
  | mk r s' =>
    rw [hx] at hs'
    cases r with
    | ok a => exact hpost s' hs'
    | error e => exact hraised s' hs'

theorem ends_call_ok {a : α} {f : α → Act σ ε β} (h : Ends pre post raised (f a)) :
    Ends pre post raised (call (.ok a) >>= f) := h

theorem ends_onRaise {x : Act σ ε α} {h : ε → Act σ ε α} (hx : Ends pre post mid x)
    (hh : ∀ e, Ends mid post raised (h e)) : Ends pre post raised (onRaise x h) := by
  intro s hs
  have hs' := hx s hs
  rw [onRaise]
  cases hr : x s with
  | mk r s' =>
    rw [hr] at hs'
    cases r with
    | ok a => exact hs'
    | error e => exact hh e s' hs'

end Ends

end Act

section Runs
variable (step : ι → Act σ ε α)

/-- The state after a sequence of calls, whatever each of them answered. -/
def after (s : σ) : List ι → σ
  | [] => s
  | op :: ops => after (step op s).2 ops

/-- What the calls that did not raise returned, in order. -/
def returned (s : σ) : List ι → List α
  | [] => []
  | op :: ops => match step op s with
    | (.ok a, s') => a :: returned s' ops
    | (.error _, s') => returned s' ops

/-- Every call of a run returns. -/
def allReturn (s : σ) : List ι → Prop
  | [] => True
  | op :: ops => (step op s).1.isOk = true ∧ allReturn (step op s).2 ops

/-- Every call of a run meets a state that satisfies the test for it. -/
def everyCall (test : ι → σ → Bool) (s : σ) : List ι → Bool
  | [] => true
  | op :: ops => test op s && everyCall test (step op s).2 ops

/-- How many calls of a run satisfy a test on the call and the state it meets. -/
def countCalls (test : ι → σ → Bool) (s : σ) : List ι → Nat
  | [] => 0
  | op :: ops => (if test op s then 1 else 0) + countCalls test (step op s).2 ops

theorem after_append (s : σ) (xs ys : List ι) :
    after step s (xs ++ ys) = after step (after step s xs) ys := by
  induction xs generalizing s with
  | nil => rfl
  | cons op xs ih => simpa [after] using ih (step op s).2

theorem allReturn_append (s : σ) (xs ys : List ι) :
    allReturn step s (xs ++ ys) ↔
      allReturn step s xs ∧ allReturn step (after step s xs) ys := by
  induction xs generalizing s with
  | nil => simp [allReturn, after]
  | cons op xs ih => simp [allReturn, after, ih, and_assoc]

/-- An invariant of every call holds after every run. -/
theorem after_invariant (inv : σ → Prop) (hstep : ∀ op s, inv s → inv (step op s).2)
    {s : σ} (h : inv s) (ops : List ι) : inv (after step s ops) := by
  induction ops generalizing s with
  | nil => exact h
  | cons op ops ih => exact ih (hstep op s h)

theorem everyCall_split (test : ι → σ → Bool) {s : σ} {pre post : List ι} {op : ι}
    (h : everyCall step test s (pre ++ op :: post) = true) :
    test op (after step s pre) = true := by
  induction pre generalizing s with
  | nil =>
    simp only [List.nil_append, everyCall, Bool.and_eq_true] at h
    exact h.1
  | cons p pre ih =>
    simp only [List.cons_append, everyCall, Bool.and_eq_true] at h
    exact ih h.2

/-- A relation between the state and what was returned so far, kept by every
call, holds after every run. -/
theorem returned_invariant (rel : σ → List α → Prop)
    (hok : ∀ op s s' a acc, rel s acc → step op s = (.ok a, s') → rel s' (acc ++ [a]))
    (herr : ∀ op s s' e acc, rel s acc → step op s = (.error e, s') → rel s' acc)
    {s : σ} {acc : List α} (h : rel s acc) (ops : List ι) :
    rel (after step s ops) (acc ++ returned step s ops) := by
  induction ops generalizing s acc with
  | nil => simpa [after, returned] using h
  | cons op ops ih =>
    cases hs : step op s with
    | mk r s' =>
      cases r with
      | ok a => simpa [after, returned, hs] using ih (hok op s s' a acc h hs)
      | error e => simpa [after, returned, hs] using ih (herr op s s' e acc h hs)

/-- A test that never succeeds from `inv` on counts no calls. -/
theorem countCalls_eq_zero (inv : σ → Prop) {test : ι → σ → Bool}
    (hstep : ∀ op s, inv s → inv (step op s).2) (hno : ∀ op s, inv s → test op s = false)
    {s : σ} (h : inv s) (ops : List ι) : countCalls step test s ops = 0 := by
  induction ops generalizing s with
  | nil => rfl
  | cons op ops ih => simp [countCalls, hno op s h, ih (hstep op s h)]

/-- An event after which the state can only be one that excludes it happens at
most once. -/
theorem countCalls_le_one (inv spent : σ → Prop) {test : ι → σ → Bool}
    (hinv : ∀ op s, inv s → inv (step op s).2) (hspent : ∀ op s, spent s → spent (step op s).2)
    (hno : ∀ op s, spent s → test op s = false)
    (hyes : ∀ op s, inv s → test op s = true → spent (step op s).2)
    {s : σ} (h : inv s) (ops : List ι) : countCalls step test s ops ≤ 1 := by
  induction ops generalizing s with
  | nil => simp [countCalls]
  | cons op ops ih =>
    cases ht : test op s with
    | false => simpa [countCalls, ht] using ih (hinv op s h)
    | true =>
      have hz := countCalls_eq_zero step spent hspent hno (hyes op s h ht) ops
      simp [countCalls, ht, hz]

end Runs
end ServerlessX.Py
