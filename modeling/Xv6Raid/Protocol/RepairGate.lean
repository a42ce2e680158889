import Xv6Raid.Lib.Threads
import Xv6Raid.Model.Basic

/-!
The gate between RAID4/RAID5 writers and repairers: `raid4write` and
`raid5write` (raid4.c:180-187 and 241-248, raid5.c:185-192 and 263-270) and
the RAID4/RAID5 cases of `raidrepair` (raid.c:571-578 and 631-638, 651-658 and
711-718).

Each section guarded by `repairlock` is one atomic step of one thread. A
thread that calls `sleep(chan, &repairlock)` waits until a `wakeup(chan)` and
then runs its loop test again as a new section. What a writer does between
`writecount++` and `writecount--`, and a repairer between its wait loop and
`repairing--`, touches neither counter nor `repairlock`, so each of those
stretches is one program point here.
-/

namespace Xv6Raid.RepairGate

open Threads

/-- Where a thread is. Writers start at `wstart`, repairers at `rstart`. -/
inductive PC
  /-- A writer about to take `repairlock`. -/
  | wstart
  /-- A writer asleep on `&raiddata->repairing`. -/
  | wsleep
  /-- A writer woken up, about to test `repairing` again. -/
  | wwoken
  /-- A writer between `writecount++` and `writecount--`. -/
  | winside
  | wdone
  /-- A repairer about to take `repairlock` and increment `repairing`. -/
  | rstart
  /-- A repairer asleep on `&raiddata->writecount`. -/
  | rsleep
  /-- A repairer woken up, about to test its loop condition again. -/
  | rwoken
  /-- A repairer past its wait loop and before `repairing--`. -/
  | rinside
  | rdone
  deriving DecidableEq

/-- The two counters of `struct RAID4Data` and every thread's position. -/
structure State (τ : Type*) where
  writecount : Int
  repairing : Int
  pc : τ → PC

variable {τ : Type*}

/-- `wakeup(chan)`: every thread asleep at `asleep` becomes runnable at `woken`. -/
def wake (asleep woken : PC) (pc : τ → PC) : τ → PC :=
  fun u => if pc u = asleep then woken else pc u

/-- The next atomic section of thread `t`. -/
def next [DecidableEq τ] (s : State τ) (t : τ) : State τ :=
  match s.pc t with
  | .wstart | .wwoken =>
    -- while (raiddata->repairing) sleep(...); raiddata->writecount++;
    if s.repairing ≠ 0 then { s with pc := Function.update s.pc t .wsleep }
    else { s with writecount := s.writecount + 1, pc := Function.update s.pc t .winside }
  | .winside =>
    -- raiddata->writecount--; if (raiddata->writecount == 0) wakeup(&raiddata->writecount);
    let pc := Function.update s.pc t .wdone
    { s with writecount := s.writecount - 1,
             pc := if s.writecount - 1 = 0 then wake .rsleep .rwoken pc else pc }
  | .rstart =>
    -- raiddata->repairing++; while (writecount != 0 && repairing != 0) sleep(...);
    if s.writecount ≠ 0 ∧ s.repairing + 1 ≠ 0 then
      { s with repairing := s.repairing + 1, pc := Function.update s.pc t .rsleep }
    else { s with repairing := s.repairing + 1, pc := Function.update s.pc t .rinside }
  | .rwoken =>
    if s.writecount ≠ 0 ∧ s.repairing ≠ 0 then { s with pc := Function.update s.pc t .rsleep }
    else { s with pc := Function.update s.pc t .rinside }
  | .rinside =>
    -- raiddata->repairing--; if (raiddata->repairing == 0) wakeup(&raiddata->repairing);
    let pc := Function.update s.pc t .rdone
    { s with repairing := s.repairing - 1,
             pc := if s.repairing - 1 = 0 then wake .wsleep .wwoken pc else pc }
  | .wsleep | .rsleep | .wdone | .rdone => s

/-- After `setraidtype`: both counters are zero and every thread is about to
start its call. -/
def Initial (s : State τ) : Prop :=
  s.writecount = 0 ∧ s.repairing = 0 ∧ ∀ t, s.pc t = .wstart ∨ s.pc t = .rstart

/-- A repairer between `repairing++` and `repairing--`. -/
def Announced (p : PC) : Prop := p = .rsleep ∨ p = .rwoken ∨ p = .rinside

instance : DecidablePred Announced := fun _ => inferInstanceAs (Decidable (_ ∨ _))

section Invariant

/-- The counters count the threads in their regions, and no writer is in its
region while a repairer is in its own. -/
structure Inv [Fintype τ] (s : State τ) : Prop where
  writers : s.writecount = count (· = PC.winside) s.pc
  repairers : s.repairing = count Announced s.pc
  exclusive : ∀ t u, s.pc t = .winside → s.pc u ≠ .rinside

theorem inv_initial [Fintype τ] {s : State τ} (h : Initial s) : Inv s := by
  obtain ⟨hw, hr, hpc⟩ := h
  have hnone : ∀ (P : PC → Prop) [DecidablePred P], ¬ P .wstart → ¬ P .rstart →
      count P s.pc = 0 := by
    intro P _ hws hrs
    refine count_eq_zero.mpr fun t => ?_
    rcases hpc t with h | h <;> rw [h] <;> assumption
  refine ⟨?_, ?_, ?_⟩
  · rw [hw, hnone _ (by decide) (by decide)]
    rfl
  · rw [hr, hnone _ (by simp [Announced]) (by simp [Announced])]
    rfl
  · intro t u ht
    rcases hpc t with h | h <;> rw [h] at ht <;> cases ht

theorem count_wake [Fintype τ] (P : PC → Prop) [DecidablePred P] (asleep woken : PC) (pc : τ → PC)
    (h : P asleep ↔ P woken) : count P (wake asleep woken pc) = count P pc := by
  apply count_congr
  intro u
  simp only [wake]
  split_ifs with hu
  · rw [hu]
    exact h.symm
  · exact Iff.rfl

theorem wake_eq_iff {asleep woken p : PC} {pc : τ → PC} {u : τ} (hp : p ≠ asleep)
    (hw : p ≠ woken) : wake asleep woken pc u = p ↔ pc u = p := by
  simp only [wake]
  split_ifs with hu
  · exact ⟨fun h => absurd h hw.symm, fun h => absurd (h.symm.trans hu) hp⟩
  · exact Iff.rfl

theorem exclusive_of_sub {pc pc' : τ → PC}
    (hx : ∀ t u, pc t = .winside → pc u ≠ .rinside)
    (hw : ∀ t, pc' t = .winside → pc t = .winside)
    (hr : ∀ u, pc' u = .rinside → pc u = .rinside) :
    ∀ t u, pc' t = .winside → pc' u ≠ .rinside :=
  fun t u ht hu => hx t u (hw t ht) (hr u hu)

theorem update_eq_of_ne [DecidableEq τ] {pc : τ → PC} {t u : τ} {q p : PC} (hq : q ≠ p)
    (h : Function.update pc t q u = p) : pc u = p := by
  by_cases hu : u = t
  · subst hu
    rw [Function.update_self] at h
    exact absurd h hq
  · rwa [Function.update_of_ne hu] at h

theorem exclusive_update [DecidableEq τ] {pc : τ → PC}
    (hx : ∀ t u, pc t = .winside → pc u ≠ .rinside) {q : PC} (hq1 : q ≠ .winside)
    (hq2 : q ≠ .rinside) (t : τ) :
    ∀ u v, Function.update pc t q u = .winside → Function.update pc t q v ≠ .rinside :=
  exclusive_of_sub hx (fun _ => update_eq_of_ne hq1) (fun _ => update_eq_of_ne hq2)

theorem exclusive_wake {pc : τ → PC} (hx : ∀ t u, pc t = .winside → pc u ≠ .rinside)
    {asleep woken : PC} (h1 : PC.winside ≠ asleep) (h2 : PC.winside ≠ woken)
    (h3 : PC.rinside ≠ asleep) (h4 : PC.rinside ≠ woken) :
    ∀ u v, wake asleep woken pc u = .winside → wake asleep woken pc v ≠ .rinside :=
  exclusive_of_sub hx (fun _ h => (wake_eq_iff h1 h2).mp h) (fun _ h => (wake_eq_iff h3 h4).mp h)

section Steps

variable [Fintype τ] [DecidableEq τ] {s : State τ} {t : τ}

/-- A writer tests `repairing` and either sleeps or enters its region. -/
theorem inv_writer_enter (hs : Inv s) (hpc : s.pc t = .wstart ∨ s.pc t = .wwoken) :
    Inv (next s t) := by
  have hnext : next s t =
      if s.repairing ≠ 0 then { s with pc := Function.update s.pc t .wsleep }
      else { s with writecount := s.writecount + 1, pc := Function.update s.pc t .winside } := by
    rcases hpc with h | h <;> simp only [next, h]
  have hw := count_update (· = PC.winside) s.pc t
  have ha := count_update Announced s.pc t
  have hnw : s.pc t ≠ .winside := by rcases hpc with h | h <;> simp [h]
  have hna : ¬ Announced (s.pc t) := by rcases hpc with h | h <;> simp [h, Announced]
  rw [hnext]
  split_ifs with hrep
  · -- asleep on `&raiddata->repairing`: no count changes
    have hw' := hw .wsleep
    have ha' := ha .wsleep
    simp only [hna, if_false] at ha'
    simp only [hnw, if_false, Announced, reduceCtorEq, or_self] at hw' ha'
    refine ⟨?_, ?_, ?_⟩ <;> dsimp only
    · rw [hs.writers]
      omega
    · rw [hs.repairers]
      omega
    · exact exclusive_of_sub hs.exclusive (fun u => update_eq_of_ne (by decide))
        (fun u => update_eq_of_ne (by decide))
  · -- no repairer has announced itself, so none is inside
    have hzero : count Announced s.pc = 0 := by
      have := hs.repairers
      omega
    have hw' := hw .winside
    have ha' := ha .winside
    simp only [hna, if_false] at ha'
    simp only [hnw, if_false, if_true, Announced, reduceCtorEq, or_self] at hw' ha'
    refine ⟨?_, ?_, ?_⟩ <;> dsimp only
    · rw [hs.writers]
      omega
    · rw [hs.repairers]
      omega
    · intro u v _ hv
      have hvt : v ≠ t := by
        rintro rfl
        simp at hv
      rw [Function.update_of_ne hvt] at hv
      have hpos : 0 < count Announced s.pc := count_pos (t := v) (Or.inr (Or.inr hv))
      omega

/-- A writer leaves its region and wakes the repairers when it was the last. -/
theorem inv_writer_exit (hs : Inv s) (hpc : s.pc t = .winside) : Inv (next s t) := by
  have hw := count_update (· = PC.winside) s.pc t .wdone
  have ha := count_update Announced s.pc t .wdone
  have hna : ¬ Announced (s.pc t) := by simp [hpc, Announced]
  simp only [hna, if_false] at ha
  simp only [hpc, if_true, Announced, reduceCtorEq, or_self, if_false] at hw ha
  have hx := exclusive_update hs.exclusive (q := .wdone) (by decide) (by decide) t
  have hww := count_wake (· = PC.winside) .rsleep .rwoken (Function.update s.pc t .wdone)
    (by decide)
  have hwa := count_wake Announced .rsleep .rwoken (Function.update s.pc t .wdone)
    (by simp [Announced])
  simp only [next, hpc]
  split_ifs with h0
  · refine ⟨?_, ?_, ?_⟩ <;> dsimp only
    · rw [hww, hs.writers]
      omega
    · rw [hwa, hs.repairers]
      omega
    · exact exclusive_wake hx (by decide) (by decide) (by decide) (by decide)
  · refine ⟨?_, ?_, ?_⟩ <;> dsimp only
    · rw [hs.writers]
      omega
    · rw [hs.repairers]
      omega
    · exact hx

/-- A repairer announces itself; it enters only when no writer is inside. -/
theorem inv_repairer_start (hs : Inv s) (hpc : s.pc t = .rstart) : Inv (next s t) := by
  have hw := count_update (· = PC.winside) s.pc t
  have ha := count_update Announced s.pc t
  have hna : ¬ Announced (s.pc t) := by simp [hpc, Announced]
  have hrep : 0 ≤ s.repairing := by
    rw [hs.repairers]
    omega
  simp only [next, hpc]
  split_ifs with hcond
  · have hw' := hw .rsleep
    have ha' := ha .rsleep
    simp only [hna, if_false] at ha'
    simp only [hpc, reduceCtorEq, if_false, Announced, true_or, if_true] at hw' ha'
    refine ⟨?_, ?_, ?_⟩ <;> dsimp only
    · rw [hs.writers]
      omega
    · rw [hs.repairers]
      omega
    · exact exclusive_update hs.exclusive (by decide) (by decide) t
  · -- the loop test failed with `repairing` positive, so `writecount` is zero
    have hwc : s.writecount = 0 := by
      by_contra hne
      exact hcond ⟨hne, by omega⟩
    have hw' := hw .rinside
    have ha' := ha .rinside
    simp only [hna, if_false] at ha'
    simp only [hpc, reduceCtorEq, if_false, Announced, or_true, if_true] at hw' ha'
    refine ⟨?_, ?_, ?_⟩ <;> dsimp only
    · rw [hs.writers]
      omega
    · rw [hs.repairers]
      omega
    · intro u v hu _
      have hut : u ≠ t := by
        rintro rfl
        simp at hu
      rw [Function.update_of_ne hut] at hu
      have hpos : 0 < count (· = PC.winside) s.pc := count_pos (t := u) hu
      have := hs.writers
      omega

/-- A woken repairer tests its loop condition again. -/
theorem inv_repairer_recheck (hs : Inv s) (hpc : s.pc t = .rwoken) : Inv (next s t) := by
  have hw := count_update (· = PC.winside) s.pc t
  have ha := count_update Announced s.pc t
  have hann : Announced (s.pc t) := by simp [hpc, Announced]
  have hrep : 0 < s.repairing := by
    rw [hs.repairers]
    have := count_pos (t := t) hann
    omega
  simp only [hann, if_true] at ha
  simp only [next, hpc]
  split_ifs with hcond
  · have hw' := hw .rsleep
    have ha' := ha .rsleep
    simp only [hpc, reduceCtorEq, if_false, Announced, true_or, if_true] at hw' ha'
    refine ⟨?_, ?_, ?_⟩ <;> dsimp only
    · rw [hs.writers]
      omega
    · rw [hs.repairers]
      omega
    · exact exclusive_update hs.exclusive (by decide) (by decide) t
  · have hwc : s.writecount = 0 := by
      by_contra hne
      exact hcond ⟨hne, by omega⟩
    have hw' := hw .rinside
    have ha' := ha .rinside
    simp only [hpc, reduceCtorEq, if_false, Announced, or_true, if_true] at hw' ha'
    refine ⟨?_, ?_, ?_⟩ <;> dsimp only
    · rw [hs.writers]
      omega
    · rw [hs.repairers]
      omega
    · intro u v hu _
      have hut : u ≠ t := by
        rintro rfl
        simp at hu
      rw [Function.update_of_ne hut] at hu
      have hpos : 0 < count (· = PC.winside) s.pc := count_pos (t := u) hu
      have := hs.writers
      omega

/-- A repairer withdraws and wakes the writers when it was the last. -/
theorem inv_repairer_exit (hs : Inv s) (hpc : s.pc t = .rinside) : Inv (next s t) := by
  have hw := count_update (· = PC.winside) s.pc t .rdone
  have ha := count_update Announced s.pc t .rdone
  have hann : Announced (s.pc t) := by simp [hpc, Announced]
  simp only [hann, if_true] at ha
  simp only [hpc, reduceCtorEq, if_false, Announced, or_self] at hw ha
  have hx := exclusive_update hs.exclusive (q := .rdone) (by decide) (by decide) t
  have hww := count_wake (· = PC.winside) .wsleep .wwoken (Function.update s.pc t .rdone)
    (by decide)
  have hwa := count_wake Announced .wsleep .wwoken (Function.update s.pc t .rdone)
    (by simp [Announced])
  simp only [next, hpc]
  split_ifs with h0
  · refine ⟨?_, ?_, ?_⟩ <;> dsimp only
    · rw [hww, hs.writers]
      omega
    · rw [hwa, hs.repairers]
      omega
    · exact exclusive_wake hx (by decide) (by decide) (by decide) (by decide)
  · refine ⟨?_, ?_, ?_⟩ <;> dsimp only
    · rw [hs.writers]
      omega
    · rw [hs.repairers]
      omega
    · exact hx

/-- Every atomic section keeps the invariant; a thread that sleeps or has
returned does not move. -/
theorem inv_next (hs : Inv s) (t : τ) : Inv (next s t) := by
  cases hpc : s.pc t with
  | wstart => exact inv_writer_enter hs (Or.inl hpc)
  | wwoken => exact inv_writer_enter hs (Or.inr hpc)
  | winside => exact inv_writer_exit hs hpc
  | rstart => exact inv_repairer_start hs hpc
  | rwoken => exact inv_repairer_recheck hs hpc
  | rinside => exact inv_repairer_exit hs hpc
  | wsleep | rsleep | wdone | rdone => simpa only [next, hpc] using hs

end Steps

end Invariant

/-- In every state that any interleaving of any number of writers and repairers
reaches after `setraidtype`, `writecount` counts the writers in their region,
`repairing` counts the announced repairers, and no writer is in its region
while a repairer is past its wait loop. -/
theorem repair_excludes_writers [Fintype τ] [DecidableEq τ] {s : State τ}
    (h : Reachable Initial next s) :
    s.writecount = count (· = PC.winside) s.pc ∧ s.repairing = count Announced s.pc ∧
      ∀ t u, s.pc t = .winside → s.pc u ≠ .rinside := by
  have hinv : Inv s := h.invariant (fun _ => inv_initial) (fun _ t hs => inv_next hs t)
  exact ⟨hinv.writers, hinv.repairers, hinv.exclusive⟩

/-- A writer and a repairer: the repairer enters first, the writer then sleeps. -/
theorem repair_excludes_writers_two_threads :
    let s₀ : State (Fin 2) := ⟨0, 0, fun t => if t = 0 then .wstart else .rstart⟩
    Reachable Initial next (next (next s₀ 1) 0) ∧
      (next (next s₀ 1) 0).writecount = count (· = PC.winside) (next (next s₀ 1) 0).pc ∧
      (next (next s₀ 1) 0).repairing = count Announced (next (next s₀ 1) 0).pc ∧
      ∀ t u, (next (next s₀ 1) 0).pc t = .winside → (next (next s₀ 1) 0).pc u ≠ .rinside :=
  have h : Reachable Initial next
      (next (next (⟨0, 0, fun t => if t = 0 then .wstart else .rstart⟩ : State (Fin 2)) 1) 0) :=
    .step 0 (.step 1 (.init ⟨rfl, rfl, by decide⟩))
  ⟨h, repair_excludes_writers h⟩

end Xv6Raid.RepairGate
