import Mathlib.Data.Finset.Card
import Mathlib.Order.Lattice

/-!
# Ordered maps

A finite map kept as its entries in strictly increasing key order, the order an
ordered associative container iterates in. The invariant is a field, so a map
with two entries for one key cannot be built.

## Main definitions

* `OrderedMap.insertOrAssign` — add an entry, or replace the value of its key.
* `OrderedMap.popFirst` — take the entry with the smallest key out.
* `OrderedMap.lastWhere` — among the entries whose key satisfies a predicate, the
  one with the largest key: the one a reader that keeps popping sees last.
* `OrderedMap.keys` — the keys, without repetition.
* `OrderedMap.countWhere` — how many entries have a key that satisfies a predicate.
-/

namespace Lib

universe u v

/-- A map from `κ` to `β` as its entries in increasing key order. -/
structure OrderedMap (κ : Type u) (β : Type v) [LinearOrder κ] where
  /-- The entries, smallest key first. -/
  entries : List (κ × β)
  /-- Keys increase strictly, so no key occurs twice. -/
  sorted : entries.Pairwise fun a b => a.1 < b.1

namespace OrderedMap

variable {κ : Type u} {β : Type v} [LinearOrder κ]

@[ext] theorem ext {m n : OrderedMap κ β} (h : m.entries = n.entries) : m = n := by
  cases m; cases n
  congr

instance [DecidableEq β] : DecidableEq (OrderedMap κ β) := fun m n =>
  decidable_of_iff (m.entries = n.entries) ⟨ext, congrArg entries⟩

/-- The map without entries. -/
def empty : OrderedMap κ β := ⟨[], List.Pairwise.nil⟩

instance : Inhabited (OrderedMap κ β) := ⟨empty⟩

/-- The value stored under a key. -/
def get? (m : OrderedMap κ β) (k : κ) : Option β :=
  (m.entries.find? fun e => e.1 = k).map Prod.snd

/-! ## Insertion -/

/-- Walk to the key's position; replace its value or open a new entry there. -/
def insertEntry (k : κ) (v : β) : List (κ × β) → List (κ × β)
  | [] => [(k, v)]
  | e :: rest =>
      if k < e.1 then (k, v) :: e :: rest
      else if k = e.1 then (k, v) :: rest
      else e :: insertEntry k v rest

theorem mem_of_mem_insertEntry {k : κ} {v : β} {x : κ × β} {l : List (κ × β)}
    (h : x ∈ insertEntry k v l) : x = (k, v) ∨ x ∈ l := by
  induction l with
  | nil => simpa [insertEntry] using h
  | cons e rest ih =>
    rw [insertEntry] at h
    split_ifs at h <;> grind

theorem sorted_insertEntry (k : κ) (v : β) {l : List (κ × β)}
    (h : l.Pairwise fun a b => a.1 < b.1) :
    (insertEntry k v l).Pairwise fun a b => a.1 < b.1 := by
  induction l with
  | nil => simp [insertEntry]
  | cons e rest ih =>
    obtain ⟨hhead, htail⟩ := List.pairwise_cons.mp h
    rw [insertEntry]
    split_ifs with hlt heq
    · refine List.pairwise_cons.mpr ⟨?_, h⟩
      intro x hx
      rcases List.mem_cons.mp hx with rfl | hx
      · exact hlt
      · exact hlt.trans (hhead x hx)
    · exact List.pairwise_cons.mpr ⟨fun x hx => heq ▸ hhead x hx, htail⟩
    · refine List.pairwise_cons.mpr ⟨?_, ih htail⟩
      intro x hx
      rcases mem_of_mem_insertEntry hx with rfl | hx
      · exact lt_of_le_of_ne (not_lt.mp hlt) (Ne.symm heq)
      · exact hhead x hx

/-- Store `v` under `k`, replacing what `k` held. -/
def insertOrAssign (m : OrderedMap κ β) (k : κ) (v : β) : OrderedMap κ β :=
  ⟨insertEntry k v m.entries, sorted_insertEntry k v m.sorted⟩

/-! ## Lookup -/

theorem get?_eq_some_iff {m : OrderedMap κ β} {k : κ} {v : β} :
    m.get? k = some v ↔ (k, v) ∈ m.entries := by
  obtain ⟨l, hl⟩ := m
  simp only [get?]
  induction l with
  | nil => simp
  | cons e rest ih =>
    obtain ⟨hhead, htail⟩ := List.pairwise_cons.mp hl
    by_cases hk : e.1 = k
    · rw [List.find?_cons_of_pos (by simpa using hk), Option.map_some, List.mem_cons]
      constructor
      · intro h
        left
        rw [← hk, ← Option.some.inj h]
      · rintro (h | h)
        · rw [← h]
        · exact absurd (hhead _ h) (by simp [hk])
    · rw [List.find?_cons_of_neg (by simpa using hk), ih htail, List.mem_cons]
      constructor
      · exact Or.inr
      · rintro (h | h)
        · exact absurd (by rw [← h]) hk
        · exact h

theorem mem_insertOrAssign {m : OrderedMap κ β} {k : κ} {v : β} {x : κ × β} :
    x ∈ (m.insertOrAssign k v).entries ↔ x = (k, v) ∨ (x ∈ m.entries ∧ x.1 ≠ k) := by
  obtain ⟨l, hl⟩ := m
  simp only [insertOrAssign]
  induction l with
  | nil => simp [insertEntry]
  | cons e rest ih =>
    obtain ⟨hhead, htail⟩ := List.pairwise_cons.mp hl
    have hrest : k ≤ e.1 → ∀ y ∈ rest, y.1 ≠ k := fun hke y hy h =>
      absurd (hhead y hy) (not_lt.mpr (h ▸ hke))
    rw [insertEntry]
    split_ifs with hlt heq <;> grind

@[simp] theorem get?_insertOrAssign_self (m : OrderedMap κ β) (k : κ) (v : β) :
    (m.insertOrAssign k v).get? k = some v := by
  rw [get?_eq_some_iff, mem_insertOrAssign]
  exact Or.inl rfl

theorem get?_insertOrAssign_ne (m : OrderedMap κ β) {k k' : κ} (v : β) (h : k' ≠ k) :
    (m.insertOrAssign k v).get? k' = m.get? k' := by
  ext w
  rw [get?_eq_some_iff, get?_eq_some_iff, mem_insertOrAssign]
  constructor
  · rintro (heq | ⟨hmem, -⟩)
    · exact absurd (congrArg Prod.fst heq) h
    · exact hmem
  · intro hmem
    exact Or.inr ⟨hmem, h⟩

/-! ## Taking the first entry -/

/-- The entry with the smallest key and the map without it. -/
def popFirst (m : OrderedMap κ β) : Option ((κ × β) × OrderedMap κ β) :=
  match m with
  | ⟨[], _⟩ => none
  | ⟨e :: rest, h⟩ => some (e, ⟨rest, (List.pairwise_cons.mp h).2⟩)

theorem popFirst_eq_none_iff {m : OrderedMap κ β} : m.popFirst = none ↔ m.entries = [] := by
  obtain ⟨_ | ⟨e, rest⟩, h⟩ := m <;> simp [popFirst]

theorem entries_of_popFirst {m m' : OrderedMap κ β} {e : κ × β}
    (h : m.popFirst = some (e, m')) : m.entries = e :: m'.entries := by
  obtain ⟨_ | ⟨x, rest⟩, hs⟩ := m
  · simp [popFirst] at h
  · simp only [popFirst, Option.some.injEq, Prod.mk.injEq] at h
    rw [← h.1, ← h.2]

theorem get?_of_popFirst {m m' : OrderedMap κ β} {e : κ × β}
    (h : m.popFirst = some (e, m')) (k : κ) :
    m.get? k = if k = e.1 then some e.2 else m'.get? k := by
  split_ifs with hk
  · rw [get?_eq_some_iff, entries_of_popFirst h, hk]
    exact List.mem_cons_self
  · ext v
    rw [get?_eq_some_iff, get?_eq_some_iff, entries_of_popFirst h, List.mem_cons]
    constructor
    · rintro (heq | hmem)
      · exact absurd (congrArg Prod.fst heq) hk
      · exact hmem
    · exact Or.inr

/-- The first entry has the smallest key. -/
theorem lt_of_popFirst {m m' : OrderedMap κ β} {e x : κ × β} (h : m.popFirst = some (e, m'))
    (hx : x ∈ m'.entries) : e.1 < x.1 := by
  have hsorted := m.sorted
  rw [entries_of_popFirst h] at hsorted
  exact (List.pairwise_cons.mp hsorted).1 x hx

/-- The key that is taken out is gone. -/
theorem get?_popFirst_self {m m' : OrderedMap κ β} {e : κ × β} (h : m.popFirst = some (e, m')) :
    m'.get? e.1 = none := by
  rw [Option.eq_none_iff_forall_ne_some]
  intro v hv
  have hmem : (e.1, v) ∈ m'.entries := get?_eq_some_iff.mp hv
  exact absurd (lt_of_popFirst h hmem) (lt_irrefl _)

/-! ## The keys -/

/-- The keys, smallest first. -/
def keys (m : OrderedMap κ β) : List κ := m.entries.map Prod.fst

@[simp] theorem keys_empty : (empty : OrderedMap κ β).keys = [] := rfl

@[simp] theorem length_keys (m : OrderedMap κ β) : m.keys.length = m.entries.length :=
  List.length_map _

theorem nodup_keys (m : OrderedMap κ β) : m.keys.Nodup :=
  List.pairwise_map.mpr (m.sorted.imp ne_of_lt)

theorem mem_keys_insertOrAssign {m : OrderedMap κ β} {k : κ} {v : β} {a : κ} :
    a ∈ (m.insertOrAssign k v).keys ↔ a = k ∨ a ∈ m.keys := by
  simp only [keys, List.mem_map, mem_insertOrAssign]
  constructor
  · rintro ⟨x, rfl | ⟨hx, -⟩, rfl⟩
    · exact Or.inl rfl
    · exact Or.inr ⟨x, hx, rfl⟩
  · rintro (rfl | ⟨x, hx, rfl⟩)
    · exact ⟨(a, v), Or.inl rfl, rfl⟩
    · by_cases hk : x.1 = k
      · exact ⟨(k, v), Or.inl rfl, hk.symm⟩
      · exact ⟨x, Or.inr ⟨hx, hk⟩, rfl⟩

theorem keys_of_popFirst {m m' : OrderedMap κ β} {e : κ × β} (h : m.popFirst = some (e, m')) :
    m.keys = e.1 :: m'.keys := by
  simp [keys, entries_of_popFirst h]

variable (p : κ → Prop) [DecidablePred p]

/-! ## How many keys of a class there are -/

/-- The number of entries whose key satisfies `p`. -/
def countWhere (m : OrderedMap κ β) : ℕ := m.entries.countP fun e => p e.1

theorem countP_insertEntry (k : κ) (v : β) {l : List (κ × β)}
    (h : l.Pairwise fun a b => a.1 < b.1) :
    (insertEntry k v l).countP (fun e => p e.1) =
      l.countP (fun e => p e.1) + if p k ∧ ∀ e ∈ l, e.1 ≠ k then 1 else 0 := by
  induction l with
  | nil => by_cases hk : p k <;> simp [insertEntry, hk]
  | cons e rest ih =>
    obtain ⟨hhead, htail⟩ := List.pairwise_cons.mp h
    rw [insertEntry]
    by_cases hlt : k < e.1
    · have habsent : ∀ x ∈ e :: rest, x.1 ≠ k := by
        intro x hx
        rcases List.mem_cons.mp hx with rfl | hx
        · exact hlt.ne'
        · exact (hlt.trans (hhead x hx)).ne'
      rw [if_pos hlt, List.countP_cons]
      simp only [and_iff_left habsent, decide_eq_true_eq]
    · rw [if_neg hlt]
      by_cases heq : k = e.1
      · rw [if_pos heq, if_neg fun hnew => hnew.2 e List.mem_cons_self heq.symm]
        simp [List.countP_cons, heq]
      · have hcons : (∀ x ∈ e :: rest, x.1 ≠ k) ↔ ∀ x ∈ rest, x.1 ≠ k := by
          rw [List.forall_mem_cons]
          exact and_iff_right (Ne.symm heq)
        rw [if_neg heq, List.countP_cons, ih htail, List.countP_cons]
        simp only [hcons]
        omega

/-- An insertion counts for a class when it opens a new entry there. -/
theorem countWhere_insertOrAssign (m : OrderedMap κ β) (k : κ) (v : β) :
    (m.insertOrAssign k v).countWhere p =
      m.countWhere p + if p k ∧ m.get? k = none then 1 else 0 := by
  have habsent : m.get? k = none ↔ ∀ e ∈ m.entries, e.1 ≠ k := by
    simp [get?, List.find?_eq_none]
  simp only [countWhere, insertOrAssign, countP_insertEntry p k v m.sorted, habsent]

theorem countWhere_of_popFirst {m m' : OrderedMap κ β} {e : κ × β}
    (h : m.popFirst = some (e, m')) :
    m.countWhere p = m'.countWhere p + if p e.1 then 1 else 0 := by
  simp [countWhere, entries_of_popFirst h, List.countP_cons]

/-- A class has at most one entry exactly when two keys of the class are one. -/
theorem countWhere_le_one_iff (m : OrderedMap κ β) :
    m.countWhere p ≤ 1 ↔ ∀ a ∈ m.keys, ∀ b ∈ m.keys, p a → p b → a = b := by
  have hcount : m.countWhere p = (m.keys.filter fun a => p a).toFinset.card := by
    rw [List.toFinset_card_of_nodup (m.nodup_keys.filter _), ← List.countP_eq_length_filter, keys,
      List.countP_map]
    rfl
  rw [hcount, Finset.card_le_one]
  simp only [List.mem_toFinset, List.mem_filter, decide_eq_true_eq]
  constructor
  · intro h a ha b hb hpa hpb
    exact h a ⟨ha, hpa⟩ b ⟨hb, hpb⟩
  · rintro h a ⟨ha, hpa⟩ b ⟨hb, hpb⟩
    exact h a ha b hb hpa hpb

/-- A key has at most one entry. -/
theorem countWhere_eq_le_one (m : OrderedMap κ β) (k : κ) : m.countWhere (· = k) ≤ 1 := by
  rw [countWhere_le_one_iff]
  rintro a - b - rfl rfl
  rfl

/-! ## The last entry of a class of keys -/

/-- Among the entries whose key satisfies `p`, the one with the largest key. -/
def lastWhere (m : OrderedMap κ β) : Option (κ × β) :=
  (m.entries.filter fun e => p e.1).getLast?

variable {p}

theorem lastWhere_eq_some {m : OrderedMap κ β} {e : κ × β} (h : m.lastWhere p = some e) :
    e ∈ m.entries ∧ p e.1 ∧ ∀ x ∈ m.entries, p x.1 → x = e ∨ x.1 < e.1 := by
  obtain ⟨init, hinit⟩ := List.getLast?_eq_some_iff.mp h
  have hmem : e ∈ m.entries.filter fun e => p e.1 := by
    rw [hinit]
    exact List.mem_append_right _ (List.mem_singleton_self e)
  obtain ⟨he, hp⟩ := List.mem_filter.mp hmem
  refine ⟨he, by simpa using hp, ?_⟩
  intro x hx hpx
  have hxf : x ∈ init ++ [e] := by
    rw [← hinit]
    exact List.mem_filter.mpr ⟨hx, by simpa using hpx⟩
  rcases List.mem_append.mp hxf with hxi | hxe
  · right
    have hs : (init ++ [e]).Pairwise fun a b => a.1 < b.1 := hinit ▸ m.sorted.filter _
    exact (List.pairwise_append.mp hs).2.2 x hxi e (List.mem_singleton_self e)
  · exact Or.inl (List.mem_singleton.mp hxe)

theorem lastWhere_eq_none {m : OrderedMap κ β} :
    m.lastWhere p = none ↔ ∀ x ∈ m.entries, ¬ p x.1 := by
  simp [lastWhere]

/-- The last entry of the class is the one above all others of the class. -/
theorem lastWhere_of_greatest {m : OrderedMap κ β} {e : κ × β} (he : e ∈ m.entries)
    (hp : p e.1) (hmax : ∀ x ∈ m.entries, p x.1 → x.1 ≤ e.1) : m.lastWhere p = some e := by
  cases h : m.lastWhere p with
  | none => exact absurd hp (lastWhere_eq_none.mp h e he)
  | some x =>
    obtain ⟨hx, hpx, hgt⟩ := lastWhere_eq_some h
    rcases hgt e he hp with heq | hlt
    · rw [heq]
    · exact absurd hlt (not_lt.mpr (hmax x hx hpx))

/-- An insertion outside the class leaves its last entry alone. -/
theorem lastWhere_insertOrAssign_of_not (m : OrderedMap κ β) {k : κ} (v : β) (hk : ¬ p k) :
    (m.insertOrAssign k v).lastWhere p = m.lastWhere p := by
  cases h : m.lastWhere p with
  | none =>
    rw [lastWhere_eq_none] at h ⊢
    intro x hx hpx
    rcases mem_insertOrAssign.mp hx with rfl | ⟨hmem, -⟩
    · exact hk hpx
    · exact h x hmem hpx
  | some e =>
    obtain ⟨he, hp, hgt⟩ := lastWhere_eq_some h
    refine lastWhere_of_greatest ?_ hp ?_
    · exact mem_insertOrAssign.mpr (Or.inr ⟨he, fun heq => hk (heq ▸ hp)⟩)
    · intro x hx hpx
      rcases mem_insertOrAssign.mp hx with rfl | ⟨hmem, -⟩
      · exact absurd hpx hk
      · rcases hgt x hmem hpx with rfl | hlt
        · exact le_rfl
        · exact hlt.le

/-- An insertion into the class becomes its last entry exactly when no larger key of
the class is present. -/
theorem lastWhere_insertOrAssign (m : OrderedMap κ β) {k : κ} (v : β) (hk : p k) :
    (m.insertOrAssign k v).lastWhere p =
      match m.lastWhere p with
      | some e => if k < e.1 then some e else some (k, v)
      | none => some (k, v) := by
  have hself : (k, v) ∈ (m.insertOrAssign k v).entries := mem_insertOrAssign.mpr (Or.inl rfl)
  cases h : m.lastWhere p with
  | none =>
    refine lastWhere_of_greatest hself hk ?_
    intro x hx hpx
    rcases mem_insertOrAssign.mp hx with rfl | ⟨hmem, -⟩
    · exact le_rfl
    · exact absurd hpx (lastWhere_eq_none.mp h x hmem)
  | some e =>
    obtain ⟨he, hp, hgt⟩ := lastWhere_eq_some h
    have hle : ∀ x ∈ m.entries, p x.1 → x.1 ≤ e.1 := by
      intro x hx hpx
      rcases hgt x hx hpx with rfl | hlt
      · exact le_rfl
      · exact hlt.le
    dsimp only
    split_ifs with hlt
    · refine lastWhere_of_greatest (mem_insertOrAssign.mpr (Or.inr ⟨he, hlt.ne'⟩)) hp ?_
      intro x hx hpx
      rcases mem_insertOrAssign.mp hx with rfl | ⟨hmem, -⟩
      · exact hlt.le
      · exact hle x hmem hpx
    · refine lastWhere_of_greatest hself hk ?_
      intro x hx hpx
      rcases mem_insertOrAssign.mp hx with rfl | ⟨hmem, -⟩
      · exact le_rfl
      · exact (hle x hmem hpx).trans (not_lt.mp hlt)

/-- Popping the first entry removes the last of a class only when it was alone. -/
theorem lastWhere_of_popFirst {m m' : OrderedMap κ β} {e : κ × β}
    (h : m.popFirst = some (e, m')) :
    m.lastWhere p = (m'.lastWhere p).or (if p e.1 then some e else none) := by
  rw [lastWhere, entries_of_popFirst h, lastWhere, List.filter_cons]
  by_cases hp : p e.1
  · rw [if_pos (by simpa using hp), if_pos hp, List.getLast?_cons]
    cases (m'.entries.filter fun e => p e.1).getLast? <;> rfl
  · rw [if_neg (by simpa using hp), if_neg hp, Option.or_none]

end OrderedMap

end Lib
