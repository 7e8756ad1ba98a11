import Mathlib.Logic.Function.Basic
import ThermalHal.Lib.Machine

/-!
# Broadcasting a value to subscribers

One publisher changes a value, takes a snapshot of its subscribers in a separate atomic
step, and then delivers the new value to them one by one. Clients subscribe, unsubscribe
and read the value at any time. A client that subscribes first and reads afterwards misses
no change: `Informed` is the invariant of such a client, for every position of the
publisher, and `view_eq_of_read` is what follows for runs.

## Main definitions

* `Broadcast`, `broadcast` — the protocol as a machine.
* `Broadcast.Moved` — what one step can do.
* `Broadcast.Informed` — a subscriber holds the value or is about to be given it.
* `Broadcast.view_eq_of_read` — over every run.
-/

namespace Lib

universe u v w

/-- Where the publisher is: between changes, between a change and its snapshot, or
delivering to what is left of the snapshot. -/
inductive Flight (ι : Type v)
  | idle
  | changed
  | delivering (remaining : List ι)

/-- The value, its subscribers, the publisher, and what each client was told last. -/
structure Broadcast (α : Type u) (ι : Type v) (γ : Type w) where
  value : α
  subscribers : List ι
  flight : Flight ι
  view : γ → Option α

/-- One atomic step of the publisher or of a client. -/
inductive BroadcastStep (α : Type u) (ι : Type v) (γ : Type w)
  | skip
  | publish (value : α)
  | snapshot
  | deliver
  | finish
  | subscribe (subscriber : ι)
  | unsubscribe (subscriber : ι)
  | read (client : γ)

variable {α : Type u} {ι : Type v} {γ : Type w}

namespace Broadcast

/-- The publisher is not between a change and its last delivery. -/
def Settled (s : Broadcast α ι γ) : Prop := s.flight = .idle ∨ s.flight = .delivering []

/-- A subscriber that has read since it subscribed: its client holds the value, unless the
publisher is still going to deliver it. -/
def Informed (owner : ι → γ) (i : ι) (s : Broadcast α ι γ) : Prop :=
  i ∈ s.subscribers ∧
    match s.flight with
    | .idle => s.view (owner i) = some s.value
    | .changed => True
    | .delivering remaining => s.view (owner i) = some s.value ∨ i ∈ remaining

theorem Informed.view_eq {owner : ι → γ} {i : ι} {s : Broadcast α ι γ} (h : s.Informed owner i)
    (hs : s.Settled) : s.view (owner i) = some s.value := by
  obtain ⟨-, hflight⟩ := h
  rcases hs with hs | hs
  · rw [hs] at hflight
    exact hflight
  · rw [hs] at hflight
    exact hflight.resolve_right List.not_mem_nil

variable [DecidableEq ι] [DecidableEq γ]

/-- One step. What the publisher cannot do where it is does nothing; `owner` is the client
that a delivery to a subscriber reaches. -/
def move (owner : ι → γ) (s : Broadcast α ι γ) : BroadcastStep α ι γ → Broadcast α ι γ
  | .skip => s
  | .publish value =>
      match s.flight with
      | .idle => { s with value, flight := .changed }
      | _ => s
  | .snapshot =>
      match s.flight with
      | .changed => { s with flight := .delivering s.subscribers }
      | _ => s
  | .deliver =>
      match s.flight with
      | .delivering (subscriber :: remaining) =>
          { s with
            flight := .delivering remaining
            view := Function.update s.view (owner subscriber) (some s.value) }
      | _ => s
  | .finish =>
      match s.flight with
      | .delivering [] => { s with flight := .idle }
      | _ => s
  | .subscribe subscriber =>
      if subscriber ∈ s.subscribers then s
      else { s with subscribers := s.subscribers ++ [subscriber] }
  | .unsubscribe subscriber => { s with subscribers := s.subscribers.filter (· ≠ subscriber) }
  | .read client => { s with view := Function.update s.view client (some s.value) }

end Broadcast

variable [DecidableEq ι] [DecidableEq γ]

/-- The protocol. -/
def broadcast (α : Type u) (owner : ι → γ) :
    Machine (Broadcast α ι γ) (BroadcastStep α ι γ) Empty where
  step s step := (s.move owner step, [])

namespace Broadcast

variable {owner : ι → γ} {i : ι} {s : Broadcast α ι γ}

/-- What a step makes of the state, one constructor per step that is possible. -/
inductive Moved (owner : ι → γ) (s : Broadcast α ι γ) :
    BroadcastStep α ι γ → Broadcast α ι γ → Prop
  | stay (step : BroadcastStep α ι γ) : Moved owner s step s
  | publish (value : α) (h : s.flight = .idle) :
      Moved owner s (.publish value) { s with value, flight := .changed }
  | snapshot (h : s.flight = .changed) :
      Moved owner s .snapshot { s with flight := .delivering s.subscribers }
  | deliver {subscriber : ι} {remaining : List ι}
      (h : s.flight = .delivering (subscriber :: remaining)) :
      Moved owner s .deliver
        { s with
          flight := .delivering remaining
          view := Function.update s.view (owner subscriber) (some s.value) }
  | finish (h : s.flight = .delivering []) : Moved owner s .finish { s with flight := .idle }
  | subscribe (subscriber : ι) :
      Moved owner s (.subscribe subscriber) { s with subscribers := s.subscribers ++ [subscriber] }
  | unsubscribe (subscriber : ι) :
      Moved owner s (.unsubscribe subscriber)
        { s with subscribers := s.subscribers.filter (· ≠ subscriber) }
  | read (client : γ) :
      Moved owner s (.read client) { s with view := Function.update s.view client (some s.value) }

theorem moved (owner : ι → γ) (s : Broadcast α ι γ) (step : BroadcastStep α ι γ) :
    Moved owner s step (s.move owner step) := by
  cases step with
  | skip => exact .stay _
  | publish value =>
    cases h : s.flight <;> simp only [move, h]
    · exact .publish value h
    · exact .stay _
    · exact .stay _
  | snapshot =>
    cases h : s.flight <;> simp only [move, h]
    · exact .stay _
    · exact .snapshot h
    · exact .stay _
  | deliver =>
    rcases h : s.flight with _ | _ | (_ | ⟨subscriber, remaining⟩) <;> simp only [move, h]
    · exact .stay _
    · exact .stay _
    · exact .stay _
    · exact .deliver h
  | finish =>
    rcases h : s.flight with _ | _ | (_ | ⟨subscriber, remaining⟩) <;> simp only [move, h]
    · exact .stay _
    · exact .stay _
    · exact .finish h
    · exact .stay _
  | subscribe subscriber =>
    simp only [move]
    split_ifs with h
    · exact .stay _
    · exact .subscribe subscriber
  | unsubscribe subscriber => exact .unsubscribe subscriber
  | read client => exact .read client

/-- A subscriber stays one until it unsubscribes. -/
theorem mem_subscribers_move {step : BroadcastStep α ι γ} (h : i ∈ s.subscribers)
    (hstep : step ≠ .unsubscribe i) : i ∈ (s.move owner step).subscribers := by
  have hmoved := moved owner s step
  generalize s.move owner step = s' at hmoved ⊢
  cases hmoved with
  | subscribe subscriber => exact List.mem_append_left _ h
  | unsubscribe subscriber =>
    have hne : i ≠ subscriber := fun heq => hstep (congrArg BroadcastStep.unsubscribe heq.symm)
    exact List.mem_filter.mpr ⟨h, by simpa using hne⟩
  | _ => exact h

theorem mem_subscribers_subscribe (owner : ι → γ) (s : Broadcast α ι γ) (i : ι) :
    i ∈ (s.move owner (.subscribe i)).subscribers := by
  simp only [move]
  split_ifs with h
  · exact h
  · exact List.mem_append_right _ (List.mem_singleton_self i)

/-- A read informs a subscriber, wherever the publisher is. -/
theorem informed_read (h : i ∈ s.subscribers) :
    (s.move owner (.read (owner i))).Informed owner i := by
  refine ⟨h, ?_⟩
  have hview : (s.move owner (.read (owner i))).view (owner i) = some s.value :=
    Function.update_self ..
  change match s.flight with
    | .idle => _
    | .changed => True
    | .delivering remaining => _ ∨ i ∈ remaining
  cases s.flight with
  | idle => exact hview
  | changed => trivial
  | delivering remaining => exact Or.inl hview

/-- **Informed subscribers stay informed** until they unsubscribe. -/
theorem informed_move {step : BroadcastStep α ι γ} (h : s.Informed owner i)
    (hstep : step ≠ .unsubscribe i) : (s.move owner step).Informed owner i := by
  refine ⟨mem_subscribers_move h.1 hstep, ?_⟩
  obtain ⟨hmem, hflight⟩ := h
  -- telling a client the value informs it and leaves the others as they were
  have htold : ∀ client, s.view (owner i) = some s.value →
      Function.update s.view client (some s.value) (owner i) = some s.value := by
    intro client hview
    by_cases howner : owner i = client
    · rw [howner, Function.update_self]
    · rw [Function.update_of_ne howner, hview]
  have hmoved := moved owner s step
  generalize s.move owner step = s' at hmoved ⊢
  cases hmoved with
  | stay => exact hflight
  | publish value hidle => exact trivial
  | snapshot hchanged => exact Or.inr hmem
  | deliver hdelivering =>
    rename_i subscriber remaining
    rw [hdelivering] at hflight
    by_cases heq : i = subscriber
    · left
      rw [heq]
      exact Function.update_self ..
    · exact hflight.imp (htold _) fun hrem => (List.mem_cons.mp hrem).resolve_left heq
  | finish hdelivering =>
    rw [hdelivering] at hflight
    exact hflight.resolve_right List.not_mem_nil
  | subscribe subscriber => exact hflight
  | unsubscribe subscriber => exact hflight
  | read client =>
    cases hf : s.flight with
    | idle =>
      rw [hf] at hflight
      exact htold client hflight
    | changed => exact trivial
    | delivering remaining =>
      rw [hf] at hflight
      exact hflight.imp_left (htold client)

/-- **A subscriber that reads misses no change.** In every run in which `i` subscribes, then
its client reads, and `i` does not unsubscribe in between or afterwards, the client holds
the value whenever the publisher is settled. -/
theorem view_eq_of_read (start : Broadcast α ι γ)
    (before between after : List (BroadcastStep α ι γ)) (hbetween : .unsubscribe i ∉ between)
    (hafter : .unsubscribe i ∉ after) (hs : (broadcast α owner).state start
      (before ++ .subscribe i :: between ++ .read (owner i) :: after) = s)
    (hsettled : s.Settled) : s.view (owner i) = some s.value := by
  rw [← hs] at hsettled ⊢
  simp only [Machine.state_append, Machine.state_cons] at hsettled ⊢
  have hsubscribed : i ∈ ((broadcast α owner).state ((broadcast α owner).next
      ((broadcast α owner).state start before) (.subscribe i)) between).subscribers :=
    Machine.invariant_of_forall (M := broadcast α owner) (P := fun s => i ∈ s.subscribers)
      (Q := fun step => step ≠ .unsubscribe i) (fun _ _ hstep h => mem_subscribers_move h hstep)
      (mem_subscribers_subscribe owner _ i) between (fun step hmem heq => hbetween (heq ▸ hmem))
  have hinformed := Machine.invariant_of_forall (M := broadcast α owner)
    (P := Informed owner i) (Q := fun step => step ≠ .unsubscribe i)
    (fun _ _ hstep h => informed_move h hstep) (informed_read hsubscribed) after
    (fun step hmem heq => hafter (heq ▸ hmem))
  exact hinformed.view_eq hsettled

end Broadcast

end Lib
