import Mathlib

/-! Loops with state and effects: a turn ends the loop with a result or says where it
goes on. -/
namespace ServerlessX.Machine
variable {S W R : Type*}

/-- At most that many turns; `none` when they were not enough. -/
def loop (turn : S → W → (R ⊕ S) × W) : Nat → S → W → Option R × W
  | 0, _, w => (none, w)
  | turns + 1, s, w =>
    match turn s w with
    | (.inl result, w) => (some result, w)
    | (.inr s, w) => loop turn turns s w

/-- A turn that goes on keeps the invariant and lowers the measure, one that ends
establishes the postcondition: then the loop ends and the postcondition holds. -/
theorem loop_ends {turn : S → W → (R ⊕ S) × W} {measure : S → Nat} {I : S → W → Prop}
    {Q : R → W → Prop}
    (hgo : ∀ s w s' w', I s w → turn s w = (.inr s', w') → I s' w' ∧ measure s' < measure s)
    (hend : ∀ s w r w', I s w → turn s w = (.inl r, w') → Q r w') {turns : Nat} {s : S} {w : W}
    (hinv : I s w) (hturns : measure s < turns) :
    ∃ r w', loop turn turns s w = (some r, w') ∧ Q r w' := by
  induction turns generalizing s w with
  | zero => omega
  | succ turns ih =>
    cases ht : turn s w with
    | mk next w' =>
      cases next with
      | inl r => exact ⟨r, w', by simp only [loop, ht], hend s w r w' hinv ht⟩
      | inr s' =>
        obtain ⟨hinv', hlt⟩ := hgo s w s' w' hinv ht
        obtain ⟨r, u, hrun, hq⟩ := ih hinv' (by omega)
        exact ⟨r, u, by simp only [loop, ht, hrun], hq⟩

/-- What a turn that goes on keeps and a turn that ends turns into the postcondition: the
postcondition holds whenever the loop ends. -/
theorem loop_result {turn : S → W → (R ⊕ S) × W} {I : S → W → Prop} {Q : R → W → Prop}
    (hgo : ∀ s w s' w', I s w → turn s w = (.inr s', w') → I s' w')
    (hend : ∀ s w r w', I s w → turn s w = (.inl r, w') → Q r w') {turns : Nat} {s : S} {w w' : W}
    {r : R} (hinv : I s w) (h : loop turn turns s w = (some r, w')) : Q r w' := by
  induction turns generalizing s w with
  | zero => cases h
  | succ turns ih =>
    cases ht : turn s w with
    | mk next u =>
      cases next with
      | inl r' =>
        simp only [loop, ht, Prod.mk.injEq, Option.some.injEq] at h
        obtain ⟨rfl, rfl⟩ := h
        exact hend s w r' u hinv ht
      | inr s' =>
        simp only [loop, ht] at h
        exact ih (hgo s w s' u hinv ht) h

/-- What every turn keeps holds however far the loop has come. -/
theorem loop_keeps {turn : S → W → (R ⊕ S) × W} {J : W → Prop}
    (hturn : ∀ s w, J w → J (turn s w).2) (turns : Nat) (s : S) {w : W} (h : J w) :
    J (loop turn turns s w).2 := by
  induction turns generalizing s w with
  | zero => exact h
  | succ turns ih =>
    have hnext := hturn s w h
    cases ht : turn s w with
    | mk next u =>
      rw [ht] at hnext
      cases next with
      | inl r => simpa only [loop, ht] using hnext
      | inr s' =>
        simp only [loop, ht]
        exact ih s' hnext

/-- A loop that has ended does not use further turns. -/
theorem loop_more {turn : S → W → (R ⊕ S) × W} {turns : Nat} {s : S} {w w' : W} {r : R}
    (h : loop turn turns s w = (some r, w')) (more : Nat) :
    loop turn (turns + more) s w = (some r, w') := by
  induction turns generalizing s w with
  | zero => cases h
  | succ turns ih =>
    rw [Nat.succ_add]
    cases ht : turn s w with
    | mk next u =>
      cases next with
      | inl r' => simpa only [loop, ht] using h
      | inr s' =>
        simp only [loop, ht] at h ⊢
        exact ih h

end ServerlessX.Machine
