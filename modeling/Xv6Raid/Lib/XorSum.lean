import Mathlib.Data.LawfulXor.Basic
import Mathlib.Data.List.Nodup

/-!
Exclusive-or sums over a type with a lawful exclusive-or. A stripe of a parity
array keeps the exclusive-or of its blocks in one block; `xorSum` is that sum
over a list of indices and `xorFoldM` is the loop that computes it when
reading a member may fail. The lemmas say how the sum changes when one member
changes and how a member is recovered from the others.
-/

namespace XorSum

variable {α : Type*} [XorOp α] [Zero α]

/-- The exclusive-or of `f i` over the indices `i` of a list. -/
def xorSum {ι : Type*} (f : ι → α) : List ι → α
  | [] => 0
  | i :: l => f i ^^^ xorSum f l

section Sum

variable {ι : Type*} {f g : ι → α}

@[simp] theorem xorSum_nil : xorSum f [] = 0 := rfl

@[simp] theorem xorSum_cons (i : ι) (l : List ι) :
    xorSum f (i :: l) = f i ^^^ xorSum f l := rfl

theorem xorSum_congr {l : List ι} (h : ∀ i ∈ l, f i = g i) :
    xorSum f l = xorSum g l := by
  induction l with
  | nil => rfl
  | cons i l ih =>
    simp only [xorSum_cons]
    rw [h i (by simp), ih (fun j hj => h j (by simp [hj]))]

theorem xorSum_update_of_not_mem [DecidableEq ι] {l : List ι} {j : ι} (hj : j ∉ l) (v : α) :
    xorSum (Function.update f j v) l = xorSum f l := by
  apply xorSum_congr
  intro i hi
  have hij : i ≠ j := fun h => hj (h ▸ hi)
  simp [Function.update, hij]

variable [LawfulXor α]

theorem xor_left_comm (a b c : α) : a ^^^ (b ^^^ c) = b ^^^ (a ^^^ c) := by
  rw [← LawfulXor.xor_assoc, LawfulXor.xor_comm a b, LawfulXor.xor_assoc]

theorem xorSum_eq_zero {l : List ι} (h : ∀ i ∈ l, f i = 0) : xorSum f l = 0 := by
  induction l with
  | nil => rfl
  | cons i l ih =>
    simp only [xorSum_cons]
    rw [h i (by simp), ih (fun j hj => h j (by simp [hj])), LawfulXor.xor_self]

variable [DecidableEq ι]

/-- Splitting one listed index off a sum over distinct indices. -/
theorem xorSum_eq_xor_filter {l : List ι} (hnd : l.Nodup) {j : ι} (hj : j ∈ l) :
    xorSum f l = f j ^^^ xorSum f (l.filter (· ≠ j)) := by
  induction l with
  | nil => simp at hj
  | cons i l ih =>
    obtain ⟨hi, hnd'⟩ := List.nodup_cons.mp hnd
    by_cases hij : i = j
    · subst i
      have hfilter : l.filter (· ≠ j) = l :=
        List.filter_eq_self.mpr (fun k hk => by
          simpa using (fun hkj : k = j => hi (hkj ▸ hk)))
      simp only [xorSum_cons, List.filter_cons, ne_eq, not_true_eq_false,
        decide_false, Bool.false_eq_true, if_false, hfilter]
    · have hj' : j ∈ l := by
        rcases List.mem_cons.mp hj with h | h
        · exact absurd h.symm hij
        · exact h
      simp only [xorSum_cons, List.filter_cons, ne_eq, hij, not_false_eq_true,
        decide_true, if_true]
      rw [ih hnd' hj', xor_left_comm]

theorem xorSum_update {l : List ι} (hnd : l.Nodup) {j : ι} (hj : j ∈ l) (v : α) :
    xorSum (Function.update f j v) l = xorSum f l ^^^ f j ^^^ v := by
  have hout : j ∉ l.filter (· ≠ j) := by simp
  rw [xorSum_eq_xor_filter hnd hj, xorSum_eq_xor_filter (f := f) hnd hj,
    xorSum_update_of_not_mem hout, Function.update_self]
  rw [LawfulXor.xor_comm (f j), xor_cancel_right, LawfulXor.xor_comm]

theorem eq_xorSum_filter_of_xorSum_eq_zero {l : List ι} (hnd : l.Nodup) {j : ι}
    (hj : j ∈ l) (h : xorSum f l = 0) : f j = xorSum f (l.filter (· ≠ j)) := by
  rw [xorSum_eq_xor_filter hnd hj] at h
  exact xor_eq_zero_iff.mp h

theorem xorSum_update_filter {l : List ι} (hnd : l.Nodup) {j : ι} (hj : j ∈ l) :
    xorSum (Function.update f j (xorSum f (l.filter (· ≠ j)))) l = 0 := by
  have hout : j ∉ l.filter (· ≠ j) := by simp
  rw [xorSum_eq_xor_filter hnd hj, Function.update_self, xorSum_update_of_not_mem hout,
    LawfulXor.xor_self]

/-- A sum vanishes when one member is the sum of the others, as a parity block
is the sum of the data blocks of its stripe. -/
theorem xorSum_eq_zero_of_eq_filter {l : List ι} (hnd : l.Nodup) {j : ι} (hj : j ∈ l)
    (hfj : f j = xorSum g (l.filter (· ≠ j))) (hfg : ∀ i ∈ l, i ≠ j → f i = g i) :
    xorSum f l = 0 := by
  calc xorSum f l = xorSum (Function.update g j (xorSum g (l.filter (· ≠ j)))) l :=
        xorSum_congr fun i hi => by
          by_cases hij : i = j
          · rw [hij, Function.update_self, hfj]
          · rw [Function.update_of_ne hij, hfg i hi hij]
    _ = 0 := xorSum_update_filter hnd hj

/-- Writing `v` to member `d` and changing member `p` by the old and the new
value of `d` keeps the sum. -/
theorem xorSum_update_update {l : List ι} (hnd : l.Nodup) {d p : ι} (hd : d ∈ l) (hp : p ∈ l)
    (hdp : d ≠ p) (v : α) :
    xorSum (Function.update (Function.update f d v) p (f p ^^^ (f d ^^^ v))) l = xorSum f l := by
  rw [xorSum_update hnd hp, xorSum_update hnd hd, Function.update_of_ne (Ne.symm hdp),
    LawfulXor.xor_assoc _ (f p), xor_cancel_left, LawfulXor.xor_assoc (xorSum f l), xor_cancel_right]

/-- Changing member `p` by the sum of the members other than `d` and by `v`
makes that sum `v`. -/
theorem xorSum_filter_update {l : List ι} (hnd : l.Nodup) {d p : ι} (hp : p ∈ l) (hdp : d ≠ p)
    (v : α) :
    xorSum (Function.update f p (f p ^^^ (xorSum f (l.filter (· ≠ d)) ^^^ v)))
      (l.filter (· ≠ d)) = v := by
  have hp' : p ∈ l.filter (· ≠ d) := List.mem_filter.mpr ⟨hp, by simpa using Ne.symm hdp⟩
  rw [xorSum_update (hnd.filter _) hp', LawfulXor.xor_assoc, xor_cancel_left, xor_cancel_left]

end Sum

section Fold

variable {ε ι : Type*}

/-- The loop `acc ^= g i` over the indices `i` of a list that pass `cond`, where
reading `g i` may fail; the first failure ends the loop. -/
def xorFoldM (cond : ι → Bool) (g : ι → Except ε α) : List ι → α → Except ε α
  | [], acc => .ok acc
  | i :: l, acc =>
    if cond i then
      match g i with
      | .ok b => xorFoldM cond g l (acc ^^^ b)
      | .error e => .error e
    else xorFoldM cond g l acc

variable [LawfulXor α]

/-- When every read the loop makes succeeds, it returns the exclusive-or of the
values read. -/
theorem xorFoldM_ok (cond : ι → Bool) (g : ι → Except ε α) (f : ι → α) (l : List ι)
    (hg : ∀ i ∈ l, cond i = true → g i = .ok (f i)) (acc : α) :
    xorFoldM cond g l acc = .ok (acc ^^^ xorSum f (l.filter cond)) := by
  induction l generalizing acc with
  | nil => simp [xorFoldM]
  | cons i l ih =>
    have hl : ∀ k ∈ l, cond k = true → g k = .ok (f k) :=
      fun k hk => hg k (by simp [hk])
    by_cases hc : cond i = true
    · simp only [xorFoldM, hc, if_true, hg i (by simp) hc, ih hl, List.filter_cons,
        xorSum_cons]
      rw [LawfulXor.xor_assoc]
    · simp only [xorFoldM, hc, List.filter_cons, ih hl]
      simp

end Fold

end XorSum
