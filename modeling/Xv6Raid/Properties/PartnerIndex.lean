import Xv6Raid.Spec.Meta

/-!
The pair and partner indices of the RAID0_1 repair. `raidrepair` finds them as
`diskpair[diskn % (DISKS / 2)]` and `disk[1 - diskn / (DISKS / 2)]`, which
stay inside their arrays only when `DISKS` is even, while `setraidtype`
accepts RAID0_1 for every `DISKS`. On an odd array the last disk has no pair:
with one disk both operations divide by zero, with three or more the partner
index is `-1`.
-/

namespace Xv6Raid

open RaidState

variable (c : Config)

/-- The RAID0_1 case of `raidrepair` for the last disk of an odd array, once
that disk is invalid. -/
theorem raidrepair_last_of_odd {s : RaidState} (hodd : c.DISKS % 2 = 1)
    (hd : s.raidmeta.isDestroyed = false) (ht : s.raidmeta.type = .RAID0_1)
    (hv : (s.raidmeta.diskinfo (c.DISKS - 1)).valid = false) :
    raidrepair c c.DISKS s = .error (if c.DISKS = 1 then .divByZero else .outOfBounds) := by
  have h1 := c.one_le_DISKS
  have hr : ¬ ((c.DISKS : Int) - 1 < 0 ∨ (c.DISKS : Int) ≤ (c.DISKS : Int) - 1) := by omega
  have hn : ((c.DISKS : Int) - 1).toNat = c.DISKS - 1 := by omega
  obtain ⟨k, hk⟩ : ∃ k, c.DISKS = 2 * k + 1 := ⟨c.DISKS / 2, by omega⟩
  have hhalf : c.DISKS / 2 = k := by omega
  simp only [raidrepair, hd, hr, hn, hv, ht, hhalf, Bool.false_eq_true, if_false]
  rcases Nat.eq_zero_or_pos k with hk0 | hkpos
  · -- one disk: `diskn % (DISKS / 2)` divides by zero
    simp [cmod, hk0, hk]
  · -- the last disk is `2k`: pair `0`, and `1 - 2k / k` is `-1`
    have hq : (c.DISKS - 1) / k = 2 := by
      rw [show c.DISKS - 1 = k * 2 by omega, Nat.mul_div_cancel_left 2 hkpos]
    have hp : (c.DISKS - 1) % k < k := Nat.mod_lt _ hkpos
    have hne : c.DISKS ≠ 1 := by omega
    simp [cmod, cdiv, diskpairAt, pairdiskAt, hq, hp, hne, Nat.pos_iff_ne_zero.mp hkpos]

/-- From the first boot on an odd array, `setraidtype(RAID0_1)`,
`raidfail(DISKS)` and `raidrepair(DISKS)` are all accepted, and the repair
faults. -/
theorem raid0_1_repair_faults_on_odd_disks (hodd : c.DISKS % 2 = 1) {s₀ : RaidState}
    (hf : Fresh c s₀) :
    ∃ s₁ s₂, setraidtype c 2 s₀ = .ok (0, s₁) ∧ raidfail c c.DISKS s₁ = .ok (0, s₂) ∧
      raidrepair c c.DISKS s₂ = .error (if c.DISKS = 1 then .divByZero else .outOfBounds) := by
  have h1 := c.one_le_DISKS
  have hlock : ∀ i < c.DISKS, (s₀.raidmeta.diskinfo i).lock = ⟨false⟩ :=
    fun i _ => hf.quiet.disklock i
  refine ⟨_, _, setraidtype_RAID0_1 c hlock, raidfail_ok c rfl (by simpa using hlock)
    (by omega) (Int.le_refl _), ?_⟩
  have hn : ((c.DISKS : Int) - 1).toNat = c.DISKS - 1 := by omega
  apply raidrepair_last_of_odd c hodd rfl rfl
  simp [hn]

theorem raid0_1_repair_faults_three_disks :
    ∃ s₁ s₂, setraidtype threeDisks 2 (freshState 3) = .ok (0, s₁) ∧
      raidfail threeDisks 3 s₁ = .ok (0, s₂) ∧ raidrepair threeDisks 3 s₂ = .error .outOfBounds :=
  raid0_1_repair_faults_on_odd_disks threeDisks rfl (fresh_freshState threeDisks)

end Xv6Raid
