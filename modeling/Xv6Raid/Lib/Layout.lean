import Mathlib.Data.Set.Function
import Mathlib.Order.Basic

/-!
Layouts of a range of indices on a grid. Numbering the cells of a grid with `n`
columns and `B` rows row by row is `x ↦ (x % n, x / n)`, and column by column
is `x ↦ (x / B, x % B)`; both are bijections of `[0, B * n)` onto the grid.
A rotation `j ↦ (p + 1 + j) % D` places the `D - 1` members of a row on the
columns other than `p`, and a layout that does this in each row separately is
a bijection as soon as each row's is.
-/

namespace Layout

theorem mod_div_mem {n B x : Nat} (hx : x < B * n) : x % n < n ∧ x / n < B := by
  have hn : 0 < n := Nat.pos_of_mul_pos_left (Nat.zero_lt_of_lt hx)
  exact ⟨Nat.mod_lt x hn, Nat.div_lt_of_lt_mul (by rwa [Nat.mul_comm])⟩

theorem add_mul_lt {n B a b : Nat} (ha : a < n) (hb : b < B) : a + b * n < B * n :=
  calc a + b * n
      < n + b * n := Nat.add_lt_add_right ha _
    _ = (b + 1) * n := by rw [Nat.succ_mul, Nat.add_comm]
    _ ≤ B * n := Nat.mul_le_mul_right n hb

theorem bijOn_mod_div (n B : Nat) :
    Set.BijOn (fun x => (x % n, x / n)) {x | x < B * n} {p | p.1 < n ∧ p.2 < B} := by
  have hinv : Set.InvOn (fun p : Nat × Nat => p.1 + p.2 * n) (fun x => (x % n, x / n))
      {x | x < B * n} {p | p.1 < n ∧ p.2 < B} := by
    constructor
    · intro x _
      exact Nat.mod_add_div' x n
    · rintro ⟨a, b⟩ ⟨ha, -⟩
      have hn : 0 < n := Nat.zero_lt_of_lt ha
      simp only [Nat.add_mul_mod_self_right, Nat.mod_eq_of_lt ha,
        Nat.add_mul_div_right a b hn, Nat.div_eq_of_lt ha, Nat.zero_add]
  refine hinv.bijOn ?_ ?_
  · intro x hx
    exact mod_div_mem hx
  · rintro ⟨a, b⟩ ⟨ha, hb⟩
    exact add_mul_lt ha hb

/-- Swapping the two coordinates is a bijection between a grid and its transpose. -/
theorem bijOn_swap {α β : Type*} (s : Set α) (t : Set β) :
    Set.BijOn Prod.swap {p : α × β | p.1 ∈ s ∧ p.2 ∈ t} {p : β × α | p.1 ∈ t ∧ p.2 ∈ s} := by
  have hinv : Set.InvOn Prod.swap Prod.swap {p : α × β | p.1 ∈ s ∧ p.2 ∈ t}
      {p : β × α | p.1 ∈ t ∧ p.2 ∈ s} :=
    ⟨fun p _ => Prod.swap_swap p, fun p _ => Prod.swap_swap p⟩
  exact hinv.bijOn (fun p hp => ⟨hp.2, hp.1⟩) (fun p hp => ⟨hp.2, hp.1⟩)

theorem bijOn_div_mod (B n : Nat) :
    Set.BijOn (fun x => (x / B, x % B)) {x | x < B * n} {p | p.1 < n ∧ p.2 < B} := by
  have hrow := bijOn_mod_div B n
  rw [Nat.mul_comm n B] at hrow
  exact (bijOn_swap {a | a < B} {b | b < n}).comp hrow

theorem mod_of_lt_two_mul {a D : Nat} (h : a < 2 * D) : a % D = if a < D then a else a - D := by
  split_ifs with ha
  · exact Nat.mod_eq_of_lt ha
  · rw [Nat.mod_eq_sub_mod (by omega), Nat.mod_eq_of_lt (by omega)]

section Rotate

variable {D p : Nat}

theorem rotate_eq (hp : p < D) {j : Nat} (hj : j < D - 1) :
    (p + 1 + j) % D = if p + 1 + j < D then p + 1 + j else p + 1 + j - D :=
  mod_of_lt_two_mul (by omega)

/-- The rotation past column `p` is a bijection of `[0, D - 1)` onto the
columns other than `p`. -/
theorem bijOn_rotate (hp : p < D) :
    Set.BijOn (fun j => (p + 1 + j) % D) {j | j < D - 1} {d | d < D ∧ d ≠ p} := by
  have hinv : Set.InvOn (fun d => if p < d then d - (p + 1) else d + D - (p + 1))
      (fun j => (p + 1 + j) % D) {j | j < D - 1} {d | d < D ∧ d ≠ p} := by
    constructor
    · intro j (hj : j < D - 1)
      simp only [rotate_eq hp hj]
      split_ifs <;> omega
    · rintro d ⟨hd, hdp⟩
      have hback : (if p < d then d - (p + 1) else d + D - (p + 1)) < D - 1 := by
        split_ifs <;> omega
      simp only [rotate_eq hp hback]
      split_ifs <;> omega
  refine hinv.bijOn ?_ ?_
  · intro j (hj : j < D - 1)
    simp only [Set.mem_ofPred_eq, rotate_eq hp hj]
    split_ifs <;> omega
  · rintro d ⟨hd, hdp⟩
    simp only [Set.mem_ofPred_eq]
    split_ifs <;> omega

end Rotate

/-- A layout that keeps the row and moves each row by its own bijection is a
bijection of the grid. -/
theorem bijOn_fiber {α β γ : Type*} {f : β → α → γ} {s : β → Set α} {t : β → Set γ}
    {S : Set β} (h : ∀ b ∈ S, Set.BijOn (f b) (s b) (t b)) :
    Set.BijOn (fun q : α × β => (f q.2 q.1, q.2)) {q | q.1 ∈ s q.2 ∧ q.2 ∈ S}
      {q | q.1 ∈ t q.2 ∧ q.2 ∈ S} := by
  refine ⟨?_, ?_, ?_⟩
  · rintro ⟨a, b⟩ ⟨ha, hb⟩
    exact ⟨(h b hb).mapsTo ha, hb⟩
  · rintro ⟨a, b⟩ ⟨ha, hb⟩ ⟨a', b'⟩ ⟨ha', -⟩ he
    simp only [Prod.mk.injEq] at he
    obtain ⟨hf, rfl⟩ := he
    have haa : a = a' := (h b hb).injOn ha ha' hf
    rw [haa]
  · rintro ⟨c, b⟩ ⟨hc, hb⟩
    obtain ⟨a, ha, rfl⟩ := (h b hb).surjOn hc
    exact ⟨(a, b), ⟨ha, hb⟩, rfl⟩

end Layout
