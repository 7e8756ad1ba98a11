import ThermalHal.Lib.Machine

/-!
# What flows through a machine

A machine whose state holds items in order, which some steps put in at the end and others
take out at the front. If each single step accounts for the items it moves, so does every
run: what the state held and what was put in is what was taken out and what it holds now.

## Main definitions

* `Machine.collect` — what the steps of a run contribute, in order.
* `Machine.forall_mem_collect` — what holds of all of it.
* `Machine.conserved` — the balance of a run from the balance of its steps.
* `Machine.state_collect`, `Machine.collect_eq_trace` — a run as the run of another machine on
  the steps it contributes.
* `Machine.exists_of_trace_eq` — the input an output comes from, and what came before it.
* `Machine.getLastD_observed` — the last observation of a run.
* `Machine.total` — what the steps of a run add up to.
* `Machine.exists_or_total_le` — how long a run can go without reaching a goal.
-/

namespace Lib

namespace Machine

variable {σ ι ο α : Type*} {M : Machine σ ι ο}

/-- What the steps of a run contribute, in order. -/
def collect (M : Machine σ ι ο) (f : σ → ι → List α) (s : σ) : List ι → List α
  | [] => []
  | i :: is => f s i ++ collect M f (M.next s i) is

section Collect

variable (f : σ → ι → List α) (s : σ)

@[simp] theorem collect_nil : M.collect f s [] = [] := rfl

@[simp] theorem collect_cons (i : ι) (is : List ι) :
    M.collect f s (i :: is) = f s i ++ M.collect f (M.next s i) is := rfl

@[simp] theorem collect_append (is js : List ι) :
    M.collect f s (is ++ js) = M.collect f s is ++ M.collect f (M.state s is) js := by
  induction is generalizing s with
  | nil => rfl
  | cons i is ih => simp [ih]

/-- A run collects nothing from steps that contribute nothing. -/
@[simp] theorem collect_of_nil (is : List ι) :
    M.collect (fun _ _ => ([] : List α)) s is = [] := by
  induction is generalizing s with
  | nil => rfl
  | cons i is ih => simp [ih]

/-- What a run emits is collected step by step. -/
theorem collect_emit (g : ο → Option α) (is : List ι) :
    M.collect (fun s i => (M.emit s i).filterMap g) s is = (M.trace s is).filterMap g := by
  induction is generalizing s with
  | nil => rfl
  | cons i is ih => simp [ih]

end Collect

/-- **What all contributions of a run have in common**: what each step contributes in the states
of an invariant. -/
theorem forall_mem_collect {P : σ → Prop} {Q : ι → Prop} {R : α → Prop} {f : σ → ι → List α}
    (hinv : ∀ s i, Q i → P s → P (M.next s i)) (hstep : ∀ s i, Q i → P s → ∀ a ∈ f s i, R a)
    {s : σ} (h0 : P s) (is : List ι) (hQ : ∀ i ∈ is, Q i) : ∀ a ∈ M.collect f s is, R a := by
  induction is generalizing s with
  | nil => simp
  | cons i is ih =>
    obtain ⟨hi, his⟩ := List.forall_mem_cons.mp hQ
    intro a ha
    rcases List.mem_append.mp ha with ha | ha
    · exact hstep s i hi h0 a ha
    · exact ih (hinv s i hi h0) his a ha

/-- **The balance of a run.** Every step puts its items in at the end of what the state holds
and takes its items out at the front; then so does every run. -/
theorem conserved {P : σ → Prop} {Q : ι → Prop} (held : σ → List α) (put take : σ → ι → List α)
    (hinv : ∀ s i, Q i → P s → P (M.next s i))
    (hstep : ∀ s i, Q i → P s → held s ++ put s i = take s i ++ held (M.next s i)) {s : σ}
    (h0 : P s) (is : List ι) (hQ : ∀ i ∈ is, Q i) :
    held s ++ M.collect put s is = M.collect take s is ++ held (M.state s is) := by
  induction is generalizing s with
  | nil => simp
  | cons i is ih =>
    obtain ⟨hi, his⟩ := List.forall_mem_cons.mp hQ
    calc held s ++ M.collect put s (i :: is)
        = (held s ++ put s i) ++ M.collect put (M.next s i) is := by simp
      _ = take s i ++ (held (M.next s i) ++ M.collect put (M.next s i) is) := by
          rw [hstep s i hi h0, List.append_assoc]
      _ = M.collect take s (i :: is) ++ held (M.state s (i :: is)) := by
          rw [ih (hinv s i hi h0) his, collect_cons, state_cons, List.append_assoc]

/-- **Linearization.** When every step of `M` amounts, through the view `R`, to the steps of
`N` it contributes, a run amounts to all it contributes, in that order. -/
theorem state_collect {τ κ π : Type*} {N : Machine τ κ π} {R : σ → τ → Prop}
    {points : σ → ι → List κ}
    (hstep : ∀ s t i, R s t → R (M.next s i) (N.state t (points s i))) {s : σ} {t : τ}
    (h0 : R s t) (is : List ι) : R (M.state s is) (N.state t (M.collect points s is)) := by
  induction is generalizing s t with
  | nil => exact h0
  | cons i is ih =>
    rw [state_cons, collect_cons, state_append]
    exact ih (hstep s t i h0)

/-- What the steps contribute elsewhere is then what the other machine emits. -/
theorem collect_eq_trace {τ κ π : Type*} {N : Machine τ κ π} {R : σ → τ → Prop}
    {points : σ → ι → List κ} {put : σ → ι → List α} {g : π → Option α}
    (hstep : ∀ s t i, R s t → R (M.next s i) (N.state t (points s i)))
    (hput : ∀ s t i, R s t → put s i = (N.trace t (points s i)).filterMap g) {s : σ} {t : τ}
    (h0 : R s t) (is : List ι) :
    M.collect put s is = (N.trace t (M.collect points s is)).filterMap g := by
  induction is generalizing s t with
  | nil => rfl
  | cons i is ih =>
    rw [collect_cons, collect_cons, trace_append, List.filterMap_append, hput s t i h0,
      ih (hstep s t i h0)]

/-- **Where an output comes from**: the outputs before it are those of the inputs before some
input and the first ones of that input. -/
theorem exists_of_trace_eq {s : σ} {is : List ι} {o : ο} {before after : List ο}
    (h : M.trace s is = before ++ o :: after) :
    ∃ pre i post first last, is = pre ++ i :: post ∧
      M.emit (M.state s pre) i = first ++ o :: last ∧ before = M.trace s pre ++ first := by
  induction is generalizing s before with
  | nil => simp at h
  | cons i is ih =>
    rw [trace_cons] at h
    rcases List.append_eq_append_iff.mp h with ⟨rest, rfl, hrest⟩ | ⟨last, hemit, hlast⟩
    · obtain ⟨pre, j, post, first, last, rfl, hemit, rfl⟩ := ih hrest
      exact ⟨i :: pre, j, post, first, last, rfl, hemit, by simp⟩
    · cases last with
      | nil =>
        -- the input ends where the output begins
        have hrest : M.trace (M.next s i) is = [] ++ o :: after := hlast.symm
        obtain ⟨pre, j, post, first, last, rfl, hemit', hbefore⟩ := ih hrest
        refine ⟨i :: pre, j, post, first, last, rfl, hemit', ?_⟩
        rw [List.append_nil] at hemit
        rw [trace_cons, List.append_assoc, ← hbefore, List.append_nil, hemit]
      | cons o' last =>
        obtain ⟨rfl, -⟩ := List.cons.inj hlast
        exact ⟨[], i, is, before, last, rfl, hemit, by simp⟩

/-- **The last observation.** When a step either observes nothing and keeps the view of the
state, or observes exactly the new view, the last observation of a run is the view of its last
state. -/
theorem getLastD_observed {β : Type*} {P : σ → Prop} (view : σ → β) {g : ο → Option β}
    (hinv : ∀ s i, P s → P (M.next s i))
    (hstep : ∀ s i, P s →
      (M.emit s i).filterMap g = [] ∧ view (M.next s i) = view s ∨
        (M.emit s i).filterMap g = [view (M.next s i)]) {s : σ} (h0 : P s) (is : List ι) :
    ((M.trace s is).filterMap g).getLastD (view s) = view (M.state s is) := by
  induction is generalizing s with
  | nil => rfl
  | cons i is ih =>
    have htail := ih (hinv s i h0)
    rw [trace_cons, List.filterMap_append, state_cons]
    rcases hstep s i h0 with ⟨hnone, hview⟩ | hone
    · rw [hnone, List.nil_append, ← hview]
      exact htail
    · rw [hone, List.singleton_append, List.getLastD_cons]
      exact htail

/-! ## How long a run can wait -/

/-- What the steps of a run add up to. -/
def total (M : Machine σ ι ο) (f : σ → ι → ℕ) (s : σ) : List ι → ℕ
  | [] => 0
  | i :: is => f s i + total M f (M.next s i) is

section Total

variable (s : σ)

@[simp] theorem total_nil (f : σ → ι → ℕ) : M.total f s [] = 0 := rfl

@[simp] theorem total_cons (f : σ → ι → ℕ) (i : ι) (is : List ι) :
    M.total f s (i :: is) = f s i + M.total f (M.next s i) is := rfl

/-- Inputs of a kind, counted one by one. -/
theorem total_ite (p : ι → Bool) (is : List ι) :
    M.total (fun _ i => if p i then 1 else 0) s is = is.countP p := by
  induction is generalizing s with
  | nil => rfl
  | cons i is ih => rw [total_cons, ih, List.countP_cons, Nat.add_comm]

/-- Contributions of a kind, at a price each. -/
theorem total_mul_countP (k : ℕ) (f : σ → ι → List α) (p : α → Bool) (is : List ι) :
    M.total (fun s i => k * (f s i).countP p) s is = k * (M.collect f s is).countP p := by
  induction is generalizing s with
  | nil => rfl
  | cons i is ih => rw [total_cons, ih, collect_cons, List.countP_append, Nat.mul_add]

end Total

/-- **The potential method.** When every step of a waiting state either reaches the goal or pays
its cost out of the rank and of what it gains, a run that never reaches the goal has paid all its
costs so, and still waits. -/
theorem exists_or_total_le {P : σ → Prop} {Q : ι → Prop} {G : σ → ι → Prop} (rank : σ → ℕ)
    (cost gain : σ → ι → ℕ)
    (hstep : ∀ s i, Q i → P s →
      G s i ∨ P (M.next s i) ∧ cost s i + rank (M.next s i) ≤ rank s + gain s i)
    {s : σ} (h0 : P s) (is : List ι) (hQ : ∀ i ∈ is, Q i) :
    (∃ pre i post, is = pre ++ i :: post ∧ G (M.state s pre) i) ∨
      P (M.state s is) ∧ M.total cost s is + rank (M.state s is) ≤ rank s + M.total gain s is := by
  induction is generalizing s with
  | nil => exact Or.inr ⟨h0, by simp⟩
  | cons i is ih =>
    obtain ⟨hi, his⟩ := List.forall_mem_cons.mp hQ
    rcases hstep s i hi h0 with hgoal | ⟨hwaits, hpaid⟩
    · exact Or.inl ⟨[], i, is, rfl, hgoal⟩
    · rcases ih hwaits his with ⟨pre, j, post, rfl, hgoal⟩ | ⟨hwaits', hpaid'⟩
      · exact Or.inl ⟨i :: pre, j, post, rfl, hgoal⟩
      · refine Or.inr ⟨hwaits', ?_⟩
        rw [total_cons, total_cons, state_cons]
        omega

end Machine

end Lib
