import Mathlib

/-! Association lists read as finite maps: the first entry of a key counts.
Sorting by key after dropping shadowed entries is a normal form for the map. -/
namespace ServerlessX.Py.Dict
variable {κ α β : Type*} [BEq κ] [LawfulBEq κ] [LinearOrder κ]

/-- Keep the first entry of each key. -/
def dedupKeys : List (κ × α) → List (κ × α)
  | [] => []
  | e :: l => e :: (dedupKeys l).filter (fun x => x.1 ≠ e.1)

def sortKeys (l : List (κ × α)) : List (κ × α) :=
  (dedupKeys l).insertionSort (fun a b => a.1 ≤ b.1)

/-- `d[k] = v`. -/
def set : List (κ × α) → κ → α → List (κ × α)
  | [], k, v => [(k, v)]
  | (j, w) :: l, k, v => if j == k then (j, v) :: l else (j, w) :: set l k v

theorem lookup_map (f : α → β) (l : List (κ × α)) (k : κ) :
    (l.map fun e => (e.1, f e.2)).lookup k = (l.lookup k).map f := by
  induction l with
  | nil => rfl
  | cons e l ih =>
    obtain ⟨j, v⟩ := e
    by_cases h : k = j
    · simp [h]
    · have hb : (k == j) = false := by simpa using h
      simp [List.lookup_cons, hb, ih]

omit [LinearOrder κ] in
theorem lookup_set_self (l : List (κ × α)) (k : κ) (v : α) : (set l k v).lookup k = some v := by
  induction l with
  | nil => simp [set]
  | cons e l ih =>
    obtain ⟨j, w⟩ := e
    by_cases h : j = k
    · simp [set, h]
    · have hb : (k == j) = false := by simpa using fun he : k = j => h he.symm
      simp [set, h, List.lookup_cons, hb, ih]

omit [LinearOrder κ] in
theorem lookup_set_ne (l : List (κ × α)) {i k : κ} (v : α) (h : k ≠ i) :
    (set l i v).lookup k = l.lookup k := by
  have hki : (k == i) = false := by simpa using h
  induction l with
  | nil => simp [set, List.lookup_cons, hki]
  | cons e l ih =>
    obtain ⟨j, w⟩ := e
    by_cases hj : j = i
    · subst hj
      simp [set, List.lookup_cons, hki]
    · cases hk : k == j <;> simp [set, hj, List.lookup_cons, hk, ih]

omit [LinearOrder κ] in
theorem set_self {l : List (κ × α)} {k : κ} {v : α} (h : l.lookup k = some v) :
    set l k v = l := by
  induction l with
  | nil => simp at h
  | cons e l ih =>
    obtain ⟨j, w⟩ := e
    by_cases hj : j = k
    · subst hj
      simp at h
      simp [set, h]
    · have hb : (k == j) = false := by simpa using fun he : k = j => hj he.symm
      simp only [List.lookup_cons, hb] at h
      simp [set, hj, ih h]

/-- `d.update(entries)`. -/
def update (l entries : List (κ × α)) : List (κ × α) :=
  entries.foldl (fun d e => set d e.1 e.2) l

omit [LinearOrder κ] in
theorem lookup_update (l : List (κ × α)) {entries : List (κ × α)}
    (h : (entries.map Prod.fst).Nodup) (k : κ) :
    (update l entries).lookup k = (entries.lookup k).or (l.lookup k) := by
  induction entries generalizing l with
  | nil => simp [update]
  | cons e entries ih =>
    obtain ⟨j, v⟩ := e
    rw [List.map_cons, List.nodup_cons] at h
    have hstep := ih (set l j v) h.2
    rw [update] at hstep
    rw [update, List.foldl_cons, hstep]
    by_cases hk : k = j
    · subst hk
      have hnone : entries.lookup k = none := by
        rw [List.lookup_eq_none_iff]
        intro e he
        refine bne_iff_ne.mpr fun hke => ?_
        exact h.1 (List.mem_map.mpr ⟨e, he, hke.symm⟩)
      simp [hnone, lookup_set_self]
    · have hb : (k == j) = false := by simpa using hk
      simp [List.lookup_cons, hb, lookup_set_ne l v hk]

omit [LinearOrder κ] in
theorem mem_set {l : List (κ × α)} {k : κ} {v : α} {e : κ × α} (h : e ∈ set l k v) :
    e ∈ l ∨ e = (k, v) := by
  induction l with
  | nil => exact .inr (List.mem_singleton.mp h)
  | cons d l ih =>
    obtain ⟨j, w⟩ := d
    unfold set at h
    split at h
    · next heq =>
      obtain rfl := beq_iff_eq.mp heq
      exact (List.mem_cons.mp h).symm.imp (List.mem_cons_of_mem _) id
    · obtain rfl | h := List.mem_cons.mp h
      · exact .inl List.mem_cons_self
      · exact (ih h).imp (List.mem_cons_of_mem _) id

omit [LinearOrder κ] in
theorem mem_update {l entries : List (κ × α)} {e : κ × α} (h : e ∈ update l entries) :
    e ∈ l ∨ e ∈ entries := by
  induction entries generalizing l with
  | nil => exact .inl h
  | cons d entries ih =>
    obtain h | h := ih (l := set l d.1 d.2) h
    · obtain h | rfl := mem_set h
      · exact .inl h
      · exact .inr List.mem_cons_self
    · exact .inr (List.mem_cons_of_mem _ h)

theorem lookup_filter_ne (l : List (κ × α)) (i k : κ) (h : k ≠ i) :
    (l.filter fun x => x.1 ≠ i).lookup k = l.lookup k := by
  induction l with
  | nil => rfl
  | cons e l ih =>
    obtain ⟨j, v⟩ := e
    by_cases hj : j = i
    · subst hj
      have hb : (k == j) = false := by simpa using h
      simpa [List.lookup_cons, hb] using ih
    · by_cases hk : k = j
      · simp [hj, hk]
      · have hb : (k == j) = false := by simpa using hk
        simpa [hj, List.lookup_cons, hb] using ih

theorem lookup_dedupKeys (l : List (κ × α)) (k : κ) :
    (dedupKeys l).lookup k = l.lookup k := by
  induction l with
  | nil => rfl
  | cons e l ih =>
    obtain ⟨j, v⟩ := e
    by_cases h : k = j
    · simp [dedupKeys, h]
    · have hb : (k == j) = false := by simpa using h
      simp only [dedupKeys, List.lookup_cons, hb]
      rw [lookup_filter_ne _ _ _ h, ih]

omit [BEq κ] [LawfulBEq κ] in
theorem nodup_dedupKeys (l : List (κ × α)) : ((dedupKeys l).map Prod.fst).Nodup := by
  induction l with
  | nil => simp [dedupKeys]
  | cons e l ih =>
    simp only [dedupKeys, List.map_cons, List.nodup_cons]
    refine ⟨?_, ?_⟩
    · simp
    · exact ih.sublist (List.filter_sublist.map Prod.fst)

theorem lookup_eq_some_iff (l : List (κ × α)) (h : (l.map Prod.fst).Nodup) (k : κ) (v : α) :
    l.lookup k = some v ↔ (k, v) ∈ l := by
  induction l with
  | nil => simp
  | cons e l ih =>
    obtain ⟨j, w⟩ := e
    simp only [List.map_cons, List.nodup_cons] at h
    by_cases hk : k = j
    · subst hk
      have hn : (k, v) ∉ l := fun hm => h.1 (List.mem_map_of_mem hm)
      simp [hn, eq_comm]
    · have hb : (k == j) = false := by simpa using hk
      simp [List.lookup_cons, hb, hk, ih h.2]

theorem lookup_perm {l l' : List (κ × α)} (h : (l.map Prod.fst).Nodup) (hp : l.Perm l')
    (k : κ) : l.lookup k = l'.lookup k := by
  have h' : (l'.map Prod.fst).Nodup := (hp.map Prod.fst).nodup_iff.mp h
  apply Option.ext
  intro v
  rw [lookup_eq_some_iff l h, lookup_eq_some_iff l' h', hp.mem_iff]

omit [BEq κ] [LawfulBEq κ] in
theorem nodup_sortKeys (l : List (κ × α)) : ((sortKeys l).map Prod.fst).Nodup :=
  ((List.perm_insertionSort _ _).map Prod.fst).nodup_iff.mpr (nodup_dedupKeys l)

omit [BEq κ] [LawfulBEq κ] in
theorem mem_of_mem_dedupKeys {l : List (κ × α)} {e : κ × α} (h : e ∈ dedupKeys l) : e ∈ l := by
  induction l with
  | nil => exact h
  | cons d l ih =>
    simp only [dedupKeys, List.mem_cons, List.mem_filter] at h
    obtain h | h := h
    · simp [h]
    · exact List.mem_cons_of_mem _ (ih h.1)

omit [BEq κ] [LawfulBEq κ] in
theorem mem_of_mem_sortKeys {l : List (κ × α)} {e : κ × α} (h : e ∈ sortKeys l) : e ∈ l :=
  mem_of_mem_dedupKeys ((List.perm_insertionSort _ _).mem_iff.mp h)

theorem lookup_sortKeys (l : List (κ × α)) (k : κ) : (sortKeys l).lookup k = l.lookup k := by
  rw [← lookup_dedupKeys l]
  exact lookup_perm (nodup_sortKeys l) (List.perm_insertionSort _ _) k

/-- Two lists that bind the same keys to the same values have one normal form. -/
theorem sortKeys_ext {l l' : List (κ × α)} (h : ∀ k, l.lookup k = l'.lookup k) :
    sortKeys l = sortKeys l' := by
  have hmem : ∀ e : κ × α, e ∈ sortKeys l ↔ e ∈ sortKeys l' := by
    intro e
    rw [← lookup_eq_some_iff _ (nodup_sortKeys l), ← lookup_eq_some_iff _ (nodup_sortKeys l'),
      lookup_sortKeys, lookup_sortKeys, h]
  have hp : (sortKeys l).Perm (sortKeys l') :=
    (List.perm_ext_iff_of_nodup (nodup_sortKeys l).of_map (nodup_sortKeys l').of_map).mpr hmem
  have hsorted : ∀ m : List (κ × α), (sortKeys m).Pairwise fun a b => a.1 ≤ b.1 := by
    intro m
    have : Std.Total fun a b : κ × α => a.1 ≤ b.1 := ⟨fun a b => le_total a.1 b.1⟩
    have : IsTrans (κ × α) fun a b => a.1 ≤ b.1 := ⟨fun _ _ _ hab hbc => le_trans hab hbc⟩
    exact List.pairwise_insertionSort _ _
  refine hp.eq_of_pairwise ?_ (hsorted l) (hsorted l')
  rintro ⟨j, v⟩ ⟨k, w⟩ hj hk hle hge
  have he : j = k := le_antisymm hle hge
  subst he
  rw [← lookup_eq_some_iff _ (nodup_sortKeys l)] at hj
  rw [← hmem, ← lookup_eq_some_iff _ (nodup_sortKeys l)] at hk
  rw [hj] at hk
  simpa using hk

omit [BEq κ] [LawfulBEq κ]

/-- `sorted(l, key=key)`. -/
def sortBy (key : α → κ) (l : List α) : List α := l.insertionSort fun a b => key a ≤ key b

section SortBy
variable (key : α → κ) {l l' : List α}

theorem sortBy_perm (l : List α) : (sortBy key l).Perm l := List.perm_insertionSort _ l

theorem sortBy_pairwise (l : List α) : (sortBy key l).Pairwise fun a b => key a ≤ key b := by
  have : Std.Total fun a b : α => key a ≤ key b := ⟨fun a b => le_total (key a) (key b)⟩
  have : IsTrans α fun a b => key a ≤ key b := ⟨fun _ _ _ hab hbc => le_trans hab hbc⟩
  exact List.pairwise_insertionSort _ l

theorem sortBy_eq_nil : sortBy key l = [] ↔ l = [] := by
  rw [← List.length_eq_zero_iff, (sortBy_perm key l).length_eq, List.length_eq_zero_iff]

/-- The first element after sorting is a least one. -/
theorem sortBy_head {a : α} {rest : List α} (h : sortBy key l = a :: rest) :
    a ∈ l ∧ ∀ b ∈ l, key a ≤ key b := by
  have hperm := sortBy_perm key l
  have hsorted := sortBy_pairwise key l
  rw [h] at hperm hsorted
  refine ⟨hperm.mem_iff.mp List.mem_cons_self, fun b hb => ?_⟩
  obtain rfl | hrest := List.mem_cons.mp (hperm.mem_iff.mpr hb)
  · exact le_rfl
  · exact List.rel_of_pairwise_cons hsorted hrest

/-- When the keys tell the elements apart, their order before sorting does not
matter. -/
theorem sortBy_congr (hp : l.Perm l') (h : (l.map key).Nodup) : sortBy key l = sortBy key l' := by
  have hperm : (sortBy key l).Perm (sortBy key l') :=
    (sortBy_perm key l).trans (hp.trans (sortBy_perm key l').symm)
  refine hperm.eq_of_pairwise ?_ (sortBy_pairwise key l) (sortBy_pairwise key l')
  intro a b ha hb hab hba
  have ha' : a ∈ l := (sortBy_perm key l).mem_iff.mp ha
  have hb' : b ∈ l := hp.mem_iff.mpr ((sortBy_perm key l').mem_iff.mp hb)
  exact List.inj_on_of_nodup_map h ha' hb' (le_antisymm hab hba)

end SortBy

end ServerlessX.Py.Dict
