import Mathlib.Data.List.Basic
import Mathlib.Data.List.Forall2
import Mathlib.Data.List.Induction

/-!
# Deterministic machines and their runs

A machine consumes one input at a time, moves its state and emits a list of
outputs. Nondeterminism of an environment or of a scheduler is part of the
input, so a list of inputs is one run and every run is such a list. The rules
below are the ones a development over a concrete machine needs: how runs
compose, how an invariant of one step becomes an invariant of every run, and how
a relation between the inputs consumed so far and the state is established.

## Main definitions

* `Machine.state`, `Machine.trace` — the state after a run and what it emitted.
* `Machine.Runs` — both together, with the rules that compose runs.
* `Machine.Reachable` — the states some run ends in.
* `Machine.invariant`, `Machine.history_induction` — induction along a run.
* `Machine.trace_induction`, `Machine.trace_induction_of_forall` — induction on what a run has
  emitted, and the same when every step of the run meets a condition.
* `Machine.Along` — a condition on every step of a run, which a run can be checked for.
* `Machine.exists_run_to` — a goal that a rank leads to.
* `Machine.mem_trace_iff` — an output belongs to some position of a run.
* `Machine.exists_run_of_step`, `Machine.state_labels` — a step-by-step simulation of one
  machine by another carries over to runs.
* `Machine.view_eq_foldl` — a component that only some inputs update depends on those alone.
* `Machine.state_rel` — a relation that corresponding inputs of two runs keep.
* `Machine.isChain_observed` — the observations of a run follow the edges of a relation.
-/

namespace Lib

universe u v w

/-- A machine with states `σ`, inputs `ι` and outputs `ο`. -/
structure Machine (σ : Type u) (ι : Type v) (ο : Type w) where
  /-- One step: the next state, and the outputs in the order they are emitted. -/
  step : σ → ι → σ × List ο

namespace Machine

variable {σ : Type u} {ι : Type v} {ο : Type w} (M : Machine σ ι ο)

/-- The state after one input. -/
def next (s : σ) (i : ι) : σ := (M.step s i).1

/-- The outputs of one input. -/
def emit (s : σ) (i : ι) : List ο := (M.step s i).2

/-- The state after a run. -/
def state (s : σ) (is : List ι) : σ := is.foldl M.next s

/-- Everything a run emits, in order. -/
def trace (s : σ) : List ι → List ο
  | [] => []
  | i :: is => M.emit s i ++ trace (M.next s i) is

@[simp] theorem state_nil (s : σ) : M.state s [] = s := rfl
@[simp] theorem state_cons (s : σ) (i : ι) (is : List ι) :
    M.state s (i :: is) = M.state (M.next s i) is := rfl
@[simp] theorem trace_nil (s : σ) : M.trace s [] = [] := rfl
@[simp] theorem trace_cons (s : σ) (i : ι) (is : List ι) :
    M.trace s (i :: is) = M.emit s i ++ M.trace (M.next s i) is := rfl

@[simp] theorem state_append (s : σ) (is js : List ι) :
    M.state s (is ++ js) = M.state (M.state s is) js := by
  simp only [state, List.foldl_append]

@[simp] theorem trace_append (s : σ) (is js : List ι) :
    M.trace s (is ++ js) = M.trace s is ++ M.trace (M.state s is) js := by
  induction is generalizing s with
  | nil => rfl
  | cons i is ih => simp [ih]

/-- A run from `s` ends in `t` and has emitted `os`. -/
structure Runs (s : σ) (is : List ι) (t : σ) (os : List ο) : Prop where
  state_eq : M.state s is = t
  trace_eq : M.trace s is = os

namespace Runs

variable {M} {s t u : σ} {i : ι} {is js : List ι} {os ps : List ο}

theorem nil (s : σ) : M.Runs s [] s [] := ⟨rfl, rfl⟩

theorem cons (h : M.step s i = (t, os)) (h' : M.Runs t is u ps) :
    M.Runs s (i :: is) u (os ++ ps) := by
  have hnext : M.next s i = t := congrArg Prod.fst h
  have hemit : M.emit s i = os := congrArg Prod.snd h
  constructor
  · rw [state_cons, hnext, h'.state_eq]
  · rw [trace_cons, hemit, hnext, h'.trace_eq]

theorem append (h : M.Runs s is t os) (h' : M.Runs t js u ps) :
    M.Runs s (is ++ js) u (os ++ ps) := by
  constructor
  · rw [state_append, h.state_eq, h'.state_eq]
  · rw [trace_append, h.state_eq, h.trace_eq, h'.trace_eq]

end Runs

/-- The states that some run from `s` ends in. -/
def Reachable (s t : σ) : Prop := ∃ is, M.state s is = t

theorem reachable_refl (s : σ) : M.Reachable s s := ⟨[], rfl⟩

variable {M}

theorem Reachable.next {s t : σ} (h : M.Reachable s t) (i : ι) : M.Reachable s (M.next t i) := by
  obtain ⟨is, rfl⟩ := h
  exact ⟨is ++ [i], by simp⟩

/-- **A step invariant is a run invariant.** -/
theorem invariant {P : σ → Prop} (hstep : ∀ s i, P s → P (M.next s i)) {s : σ} (h0 : P s)
    (is : List ι) : P (M.state s is) := by
  induction is generalizing s with
  | nil => exact h0
  | cons i is ih => exact ih (hstep s i h0)

/-- The same for the inputs a run is restricted to. -/
theorem invariant_of_forall {P : σ → Prop} {Q : ι → Prop}
    (hstep : ∀ s i, Q i → P s → P (M.next s i)) {s : σ} (h0 : P s) (is : List ι)
    (hQ : ∀ i ∈ is, Q i) : P (M.state s is) := by
  induction is generalizing s with
  | nil => exact h0
  | cons i is ih =>
    obtain ⟨hi, his⟩ := List.forall_mem_cons.mp hQ
    exact ih (hstep s i hi h0) his

theorem Reachable.invariant {P : σ → Prop} (hstep : ∀ s i, P s → P (M.next s i)) {s t : σ}
    (h : M.Reachable s t) (h0 : P s) : P t := by
  obtain ⟨is, rfl⟩ := h
  exact Machine.invariant hstep h0 is

/-- **Induction on the history of a run**: a relation between the inputs consumed
so far and the state, established by looking at the last input only. -/
theorem history_induction {P : List ι → σ → Prop} {s : σ} (h0 : P [] s)
    (hstep : ∀ is i, P is (M.state s is) → P (is ++ [i]) (M.next (M.state s is) i))
    (is : List ι) : P is (M.state s is) := by
  induction is using List.reverseRecOn with
  | nil => exact h0
  | append_singleton is i ih => simpa using hstep is i ih

/-- **Induction on the log of a run**: a relation between what a run has emitted and its state,
kept by every step. -/
theorem trace_induction {P : List ο → σ → Prop} {s : σ} (h0 : P [] s)
    (hstep : ∀ log s i, P log s → P (log ++ M.emit s i) (M.next s i)) (is : List ι) :
    P (M.trace s is) (M.state s is) := by
  induction is using List.reverseRecOn with
  | nil => exact h0
  | append_singleton is i ih => simpa using hstep _ _ i ih

/-- The same for a run whose every step meets a condition. -/
theorem trace_induction_of_forall {P : List ο → σ → Prop} {C : σ → ι → Prop} {s : σ}
    (h0 : P [] s)
    (hstep : ∀ log s i, C s i → P log s → P (log ++ M.emit s i) (M.next s i)) (is : List ι)
    (hC : ∀ pre i post, is = pre ++ i :: post → C (M.state s pre) i) :
    P (M.trace s is) (M.state s is) := by
  induction is using List.reverseRecOn with
  | nil => exact h0
  | append_singleton is i ih =>
    have hlast : C (M.state s is) i := hC is i [] rfl
    have hbefore : P (M.trace s is) (M.state s is) :=
      ih fun pre j post heq => hC pre j (post ++ [i]) (by simp [heq])
    simpa using hstep _ _ i hlast hbefore

/-- Every input meets a condition in the state that it finds. -/
def Along (M : Machine σ ι ο) (C : σ → ι → Prop) (s : σ) : List ι → Prop
  | [] => True
  | i :: is => C s i ∧ Along M C (M.next s i) is

theorem along_iff {C : σ → ι → Prop} {s : σ} {is : List ι} :
    M.Along C s is ↔ ∀ pre i post, is = pre ++ i :: post → C (M.state s pre) i := by
  induction is generalizing s with
  | nil => simp [Along]
  | cons i is ih =>
    rw [Along, ih]
    constructor
    · rintro ⟨hi, his⟩ pre j post heq
      cases pre with
      | nil =>
        obtain ⟨rfl, -⟩ := List.cons.inj heq
        exact hi
      | cons k pre =>
        obtain ⟨rfl, hrest⟩ := List.cons.inj heq
        exact his pre j post hrest
    · intro h
      exact ⟨h [] i is rfl, fun pre j post heq => h (i :: pre) j post (congrArg (i :: ·) heq)⟩

instance decidableAlong (C : σ → ι → Prop) [∀ s i, Decidable (C s i)] (s : σ) :
    (is : List ι) → Decidable (M.Along C s is)
  | [] => .isTrue trivial
  | i :: is => @instDecidableAnd _ _ inferInstance (decidableAlong C (M.next s i) is)

/-- **Reaching a goal.** When from every state off the goal some inputs of a kind lead to a
smaller rank, inputs of this kind lead to the goal. -/
theorem exists_run_to {P G : σ → Prop} {Q : ι → Prop} (rank : σ → ℕ)
    (hstep : ∀ s, P s → ¬ G s → ∃ is, (∀ i ∈ is, Q i) ∧ P (M.state s is) ∧
      rank (M.state s is) < rank s) {s : σ} (h : P s) :
    ∃ is, (∀ i ∈ is, Q i) ∧ P (M.state s is) ∧ G (M.state s is) := by
  induction hn : rank s using Nat.strongRecOn generalizing s with
  | ind n ih =>
    by_cases hgoal : G s
    · exact ⟨[], by simp, h, hgoal⟩
    · obtain ⟨is, his, hP, hlt⟩ := hstep s h hgoal
      obtain ⟨js, hjs, hP', hgoal'⟩ := ih _ (hn ▸ hlt) hP rfl
      refine ⟨is ++ js, ?_, ?_, ?_⟩
      · simpa [or_imp, forall_and] using ⟨his, hjs⟩
      · rwa [state_append]
      · rwa [state_append]

/-- An output of a run was emitted by one of its inputs, in the state reached just
before that input. -/
theorem mem_trace_iff {s : σ} {is : List ι} {o : ο} :
    o ∈ M.trace s is ↔
      ∃ pre i post, is = pre ++ i :: post ∧ o ∈ M.emit (M.state s pre) i := by
  induction is generalizing s with
  | nil => simp
  | cons i is ih =>
    rw [trace_cons, List.mem_append, ih]
    constructor
    · rintro (h | ⟨pre, j, post, rfl, h⟩)
      · exact ⟨[], i, is, rfl, h⟩
      · exact ⟨i :: pre, j, post, rfl, h⟩
    · rintro ⟨pre, j, post, heq, h⟩
      cases pre with
      | nil =>
        obtain ⟨rfl, -⟩ := List.cons.inj heq
        exact Or.inl h
      | cons k pre =>
        obtain ⟨rfl, rfl⟩ := List.cons.inj heq
        exact Or.inr ⟨pre, j, post, rfl, h⟩

/-- **Stuttering simulation.** When every step of `M` is invisible through `f` or matched by
one step of `N`, every run of `M` is matched by a run of `N` with the same trace. -/
theorem exists_run_of_step {τ : Type*} {κ : Type*} {N : Machine τ κ ο} (f : σ → τ)
    (hstep : ∀ s i, f (M.next s i) = f s ∧ M.emit s i = [] ∨
      ∃ j, f (M.next s i) = N.next (f s) j ∧ M.emit s i = N.emit (f s) j)
    (s : σ) (is : List ι) :
    ∃ js, f (M.state s is) = N.state (f s) js ∧ M.trace s is = N.trace (f s) js := by
  induction is generalizing s with
  | nil => exact ⟨[], rfl, rfl⟩
  | cons i is ih =>
    obtain ⟨js, hstate, htrace⟩ := ih (M.next s i)
    rw [state_cons, trace_cons, hstate, htrace]
    rcases hstep s i with ⟨hsame, hquiet⟩ | ⟨j, hnext, hemit⟩
    · rw [hsame, hquiet]
      exact ⟨js, rfl, rfl⟩
    · rw [hnext, hemit]
      exact ⟨j :: js, rfl, rfl⟩

section Labels

variable {τ : Type*} {κ : Type*} {π : Type*} {N : Machine τ κ π}

/-- The steps of another machine that a run of `M` corresponds to. -/
def labels (M : Machine σ ι ο) (label : σ → ι → κ) (s : σ) : List ι → List κ
  | [] => []
  | i :: is => label s i :: labels M label (M.next s i) is

theorem labels_append (label : σ → ι → κ) (s : σ) (is js : List ι) :
    M.labels label s (is ++ js) = M.labels label s is ++ M.labels label (M.state s is) js := by
  induction is generalizing s with
  | nil => rfl
  | cons i is ih => simp [labels, ih]

/-- A label belongs to some input of the run. -/
theorem mem_labels {label : σ → ι → κ} {s : σ} {is : List ι} {k : κ}
    (h : k ∈ M.labels label s is) : ∃ t, ∃ i ∈ is, label t i = k := by
  induction is generalizing s with
  | nil => exact absurd h List.not_mem_nil
  | cons i is ih =>
    rcases List.mem_cons.mp h with rfl | h
    · exact ⟨s, i, List.mem_cons_self, rfl⟩
    · obtain ⟨t, j, hj, hk⟩ := ih h
      exact ⟨t, j, List.mem_cons_of_mem i hj, hk⟩

/-- The label at a position is that of the input there, in the state the run has reached. -/
theorem getElem?_labels (label : σ → ι → κ) (s : σ) (is : List ι) (n : ℕ) :
    (M.labels label s is)[n]? = is[n]?.map (label (M.state s (is.take n))) := by
  induction is generalizing s n with
  | nil => rfl
  | cons i is ih =>
    cases n with
    | zero => rfl
    | succ n => simp [labels, ih]

theorem take_labels (label : σ → ι → κ) (s : σ) (is : List ι) (n : ℕ) :
    (M.labels label s is).take n = M.labels label s (is.take n) := by
  induction is generalizing s n with
  | nil => simp [labels]
  | cons i is ih =>
    cases n with
    | zero => rfl
    | succ n => simp [labels, ih]

@[simp] theorem length_labels (label : σ → ι → κ) (s : σ) (is : List ι) :
    (M.labels label s is).length = is.length := by
  induction is generalizing s with
  | nil => rfl
  | cons i is ih => simp [labels, ih]

/-- **Refinement.** When every step of `M` from an invariant state is one labelled step of
`N` through `f`, every run of `M` is a run of `N` on its labels. -/
theorem state_labels {P : σ → Prop} (f : σ → τ) (label : σ → ι → κ)
    (hinv : ∀ s i, P s → P (M.next s i))
    (hstep : ∀ s i, P s → f (M.next s i) = N.next (f s) (label s i)) {s : σ} (h0 : P s)
    (is : List ι) : f (M.state s is) = N.state (f s) (M.labels label s is) := by
  induction is generalizing s with
  | nil => rfl
  | cons i is ih =>
    rw [state_cons, ih (hinv s i h0), hstep s i h0]
    rfl

end Labels

/-- **A component of the state** that every input either leaves alone or updates in a way that
depends on the component alone is the fold of its updates, in whatever company they came. -/
theorem view_eq_foldl {β : Type*} {γ : Type*} {P : σ → Prop} (view : σ → β)
    (update? : ι → Option γ) (apply : β → γ → β) (hinv : ∀ s i, P s → P (M.next s i))
    (hstep : ∀ s i, P s → view (M.next s i) = (update? i).elim (view s) (apply (view s)))
    {s : σ} (h0 : P s) (is : List ι) :
    view (M.state s is) = (is.filterMap update?).foldl apply (view s) := by
  induction is generalizing s with
  | nil => rfl
  | cons i is ih =>
    rw [state_cons, ih (hinv s i h0), hstep s i h0]
    cases hu : update? i with
    | none => simp [hu]
    | some u => simp [hu]

/-- **Two runs in lockstep.** A relation between two states that corresponding inputs keep
holds after corresponding runs. -/
theorem state_rel {R : σ → σ → Prop} {Q : ι → ι → Prop}
    (hstep : ∀ s s' i i', R s s' → Q i i' → R (M.next s i) (M.next s' i')) {s s' : σ}
    (h0 : R s s') {is is' : List ι} (h : List.Forall₂ Q is is') :
    R (M.state s is) (M.state s' is') := by
  induction h generalizing s s' with
  | nil => exact h0
  | cons hi _ ih => exact ih (hstep _ _ _ _ h0 hi)

/-- **The observations of a run form a path.** When a step either observes nothing and
keeps the view of the state, or observes exactly the new view along an edge of `R`, the
observations of a run follow the edges of `R`, starting from the view of its first state. -/
theorem isChain_observed {β : Type w} {P : σ → Prop} {R : β → β → Prop} (view : σ → β)
    (observe : ο → Option β) (hinv : ∀ s i, P s → P (M.next s i))
    (hstep : ∀ s i, P s →
      (M.emit s i).filterMap observe = [] ∧ view (M.next s i) = view s ∨
      (M.emit s i).filterMap observe = [view (M.next s i)] ∧ R (view s) (view (M.next s i)))
    {s : σ} (h0 : P s) (is : List ι) :
    List.IsChain R (view s :: (M.trace s is).filterMap observe) := by
  induction is generalizing s with
  | nil => exact .singleton _
  | cons i is ih =>
    have htail := ih (hinv s i h0)
    rw [trace_cons, List.filterMap_append]
    rcases hstep s i h0 with ⟨hnone, hview⟩ | ⟨hone, hedge⟩
    · rw [hnone, List.nil_append, ← hview]
      exact htail
    · rw [hone, List.singleton_append]
      exact List.isChain_cons_cons.mpr ⟨hedge, htail⟩

end Machine

end Lib
