import Mathlib

/-! Words that differ in one position, and folds that tell them apart. -/
namespace ServerlessX.Machine
variable {σ α : Type*}

/-- The same word but for one letter. -/
inductive DifferOnce : List α → List α → Prop where
  | here {x y : α} (h : x ≠ y) (xs : List α) : DifferOnce (x :: xs) (y :: xs)
  | there (x : α) {xs ys : List α} (h : DifferOnce xs ys) : DifferOnce (x :: xs) (x :: ys)

theorem DifferOnce.length_eq {a b : List α} (h : DifferOnce a b) : a.length = b.length := by
  induction h with
  | here h xs => rfl
  | there x h ih => rw [List.length_cons, List.length_cons, ih]

theorem DifferOnce.ne {a b : List α} (h : DifferOnce a b) : a ≠ b := by
  induction h with
  | here h xs => simpa using h
  | there x h ih => simpa using ih

/-- Equal length and one index at which the letters are not the same. -/
theorem differOnce_of_index {a b : List α} (hlen : a.length = b.length) {i : Nat}
    (hi : a[i]? ≠ b[i]?) (hother : ∀ j, a[j]? ≠ b[j]? → j = i) : DifferOnce a b := by
  induction a generalizing b i with
  | nil =>
    obtain rfl : b = [] := List.length_eq_zero_iff.mp hlen.symm
    exact absurd rfl hi
  | cons x xs ih =>
    cases b with
    | nil => simp at hlen
    | cons y ys =>
      simp only [List.length_cons, Nat.add_right_cancel_iff] at hlen
      cases i with
      | zero =>
        have hxy : x ≠ y := by simpa using hi
        have hrest : xs = ys := by
          apply List.ext_getElem?
          intro j
          by_contra hj
          have := hother (j + 1) (by simpa using hj)
          omega
        rw [hrest]
        exact .here hxy ys
      | succ i =>
        have hxy : x = y := by
          by_contra hne
          have := hother 0 (by simpa using hne)
          omega
        rw [hxy]
        refine .there y (ih hlen (by simpa using hi) ?_)
        intro j hj
        have := hother (j + 1) (by simpa using hj)
        omega

/-- In a word of two parts the letter that is not the same is in one of them. -/
theorem DifferOnce.of_append {a b x y : List α} (hlen : a.length = b.length)
    (h : DifferOnce (a ++ x) (b ++ y)) : (a = b ∧ DifferOnce x y) ∨ (DifferOnce a b ∧ x = y) := by
  induction a generalizing b with
  | nil =>
    obtain rfl : b = [] := List.length_eq_zero_iff.mp hlen.symm
    exact .inl ⟨rfl, h⟩
  | cons c a ih =>
    cases b with
    | nil => simp at hlen
    | cons d b =>
      simp only [List.length_cons, Nat.add_right_cancel_iff] at hlen
      simp only [List.cons_append] at h
      generalize hs : a ++ x = s at h
      generalize ht : b ++ y = t at h
      cases h with
      | here hcd =>
        obtain ⟨rfl, rfl⟩ := List.append_inj (hs.trans ht.symm) hlen
        exact .inr ⟨.here hcd a, rfl⟩
      | there _ h =>
        subst hs ht
        obtain ⟨rfl, hxy⟩ | ⟨hab, hxy⟩ := ih hlen h
        · exact .inl ⟨rfl, hxy⟩
        · exact .inr ⟨.there c hab, hxy⟩

theorem foldl_injective {step : σ → α → σ} (hstate : ∀ x, Function.Injective fun s => step s x)
    (xs : List α) : Function.Injective fun s => xs.foldl step s := by
  induction xs with
  | nil => exact Function.injective_id
  | cons x xs ih => exact ih.comp (hstate x)

/-- A step that loses neither its state nor its letter gives different results on words
that differ in one position: the letters that follow cannot undo the difference. -/
theorem foldl_ne_of_differOnce {step : σ → α → σ}
    (hstate : ∀ x, Function.Injective fun s => step s x) (hletter : ∀ s, Function.Injective (step s))
    {a b : List α} (h : DifferOnce a b) (s : σ) : a.foldl step s ≠ b.foldl step s := by
  induction h generalizing s with
  | here hxy xs =>
    intro heq
    exact hxy (hletter s (foldl_injective hstate xs heq))
  | there x h ih => exact ih (step s x)

end ServerlessX.Machine
