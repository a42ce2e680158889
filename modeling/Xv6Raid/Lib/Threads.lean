import Mathlib.Algebra.BigOperators.Group.Finset.Basic
import Mathlib.Algebra.BigOperators.Group.Finset.Piecewise
import Mathlib.Data.Fintype.Basic

/-!
Systems of threads that take atomic steps in any order. `Reachable` collects
the states reached from the initial ones by any sequence of events, and
`count` is the number of threads whose local state satisfies a predicate;
`count_update` says how one thread's move changes such a count.
-/

namespace Threads

variable {σ ε : Type*}

/-- The states reached from a state satisfying `init` by any sequence of
events, where event `e` moves state `s` to `next s e`. -/
inductive Reachable (init : σ → Prop) (next : σ → ε → σ) : σ → Prop
  | init {s : σ} : init s → Reachable init next s
  | step {s : σ} (e : ε) : Reachable init next s → Reachable init next (next s e)

/-- An invariant that holds initially and is kept by every event holds in
every reachable state. -/
theorem Reachable.invariant {init : σ → Prop} {next : σ → ε → σ} {inv : σ → Prop}
    (hinit : ∀ s, init s → inv s) (hnext : ∀ s e, inv s → inv (next s e))
    {s : σ} (h : Reachable init next s) : inv s := by
  induction h with
  | init hs => exact hinit _ hs
  | step e _ ih => exact hnext _ e ih

theorem Reachable.foldl {init : σ → Prop} {next : σ → ε → σ} {s : σ}
    (h : Reachable init next s) (l : List ε) : Reachable init next (l.foldl next s) := by
  induction l generalizing s with
  | nil => exact h
  | cons e l ih => exact ih (h.step e)

/-- A refinement mapping: `f` takes initial states to initial states of a second
system, and every event from a reachable state to a sequence of events of the
second system, so it takes reachable states to reachable states. -/
theorem Reachable.map {σ' ε' : Type*} {init : σ → Prop} {next : σ → ε → σ} {init' : σ' → Prop}
    {next' : σ' → ε' → σ'} {f : σ → σ'} (hinit : ∀ s, init s → init' (f s))
    (hstep : ∀ s e, Reachable init next s → ∃ l : List ε', f (next s e) = l.foldl next' (f s))
    {s : σ} (h : Reachable init next s) : Reachable init' next' (f s) := by
  induction h with
  | init hs => exact .init (hinit _ hs)
  | step e hr ih =>
    obtain ⟨l, hl⟩ := hstep _ e hr
    rw [hl]
    exact ih.foldl l

section Count

variable {τ β : Type*} [Fintype τ]

/-- The number of threads whose local state satisfies `P`. -/
def count (P : β → Prop) [DecidablePred P] (f : τ → β) : Nat :=
  (Finset.univ.filter fun t => P (f t)).card

/-- Moving thread `t` to local state `b` changes a count by what `t` leaves and
what it enters. -/
theorem count_update [DecidableEq τ] (P : β → Prop) [DecidablePred P] (f : τ → β) (t : τ)
    (b : β) :
    count P (Function.update f t b) + (if P (f t) then 1 else 0) =
      count P f + (if P b then 1 else 0) := by
  simp only [count, Finset.card_filter]
  rw [← Finset.add_sum_erase _ _ (Finset.mem_univ t),
    ← Finset.add_sum_erase _ (fun u => if P (f u) then 1 else 0) (Finset.mem_univ t)]
  have hrest : ∑ u ∈ Finset.univ.erase t, (if P (Function.update f t b u) then 1 else 0) =
      ∑ u ∈ Finset.univ.erase t, (if P (f u) then 1 else 0) := by
    apply Finset.sum_congr rfl
    intro u hu
    rw [Function.update_of_ne (Finset.ne_of_mem_erase hu)]
  rw [hrest, Function.update_self]
  omega

theorem count_update_of_iff [DecidableEq τ] {P : β → Prop} [DecidablePred P] {f : τ → β}
    {t : τ} {b : β} (h : P (f t) ↔ P b) : count P (Function.update f t b) = count P f := by
  have hc := count_update P f t b
  simp only [h] at hc
  omega

theorem count_eq_zero {P : β → Prop} [DecidablePred P] {f : τ → β} :
    count P f = 0 ↔ ∀ t, ¬ P (f t) := by
  simp [count, Finset.filter_eq_empty_iff]

theorem count_pos {P : β → Prop} [DecidablePred P] {f : τ → β} {t : τ} (h : P (f t)) :
    0 < count P f :=
  Finset.card_pos.mpr ⟨t, by simpa using h⟩

theorem eq_of_count_le_one {P : β → Prop} [DecidablePred P] {f : τ → β} (h : count P f ≤ 1)
    {u v : τ} (hu : P (f u)) (hv : P (f v)) : u = v :=
  Finset.card_le_one.mp h u (by simpa using hu) v (by simpa using hv)

theorem count_congr {γ : Type*} {P : β → Prop} {Q : γ → Prop} [DecidablePred P] [DecidablePred Q]
    {f : τ → β} {g : τ → γ} (h : ∀ t, P (f t) ↔ Q (g t)) : count P f = count Q g := by
  simp only [count]
  congr 1
  ext t
  simpa using h t

end Count

end Threads
