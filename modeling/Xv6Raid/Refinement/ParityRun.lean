import Xv6Raid.Refinement.ParityView

/-!
RAID4 and RAID5 refine an ideal virtual disk. A run starts with `setraidtype`
of the level after the first boot on zero-filled disks and goes on with the
level's reads and writes, `raidfail` and `raidrepair` in any order, as long as
no failure leaves two disks invalid. Along the run the ideal disk `V` records
every write that returned `0`. In every state of the run, a read in range
returns `0` and the block `V` holds, a write in range returns `0`, and a failure
or a repair never faults.
-/

namespace Xv6Raid

open XorSum RaidState

variable (c : Config)

/-- The sequential runs of the parity level `t`, each with the ideal disk it
must refine. -/
inductive ParityRun (t : RAID_TYPE) : RaidState → (Nat → Block) → Prop
  | init {s₀ s : RaidState} {code : Int} {r : UInt64} : Fresh c s₀ →
      RAID_TYPE.ofInt code = some t → setraidtype c code s₀ = .ok (r, s) →
      ParityRun t s fun _ => 0
  | read {s s' : RaidState} {V : Nat → Block} {x : Int} {data v : Block} {r : UInt64} :
      ParityRun t s V → readtable c t x data s = .ok (r, v, s') → ParityRun t s' V
  | write {s s' : RaidState} {V : Nat → Block} {x : Int} {v : Block} {r : UInt64} :
      ParityRun t s V → writetable c t x v s = .ok (r, s') →
      ParityRun t s' (if r = 0 then Function.update V x.toNat v else V)
  | fail {s s' : RaidState} {V : Nat → Block} {n : Int} {r : UInt64} :
      ParityRun t s V → raidfail c n s = .ok (r, s') → AtMostOneInvalid c s'.raidmeta →
      ParityRun t s' V
  | repair {s s' : RaidState} {V : Nat → Block} {n : Int} {r : UInt64} :
      ParityRun t s V → raidrepair c n s = .ok (r, s') → ParityRun t s' V

variable {t : RAID_TYPE}

theorem view_eq_of_eff {s s' : RaidState}
    (heff : ∀ i < c.DISKS, ∀ b < diskblockn, eff c s' i b = eff c s i b) {y : Nat}
    (hy : y < diskblockn * (c.DISKS - 1)) : view c t s' y = view c t s y := by
  have h2 : 2 ≤ c.DISKS := by
    rcases Nat.lt_or_ge c.DISKS 2 with h | h
    · rw [show c.DISKS - 1 = 0 by omega, Nat.mul_zero] at hy
      omega
    · exact h
  exact heff _ (place_disk_lt c h2) _ (by simpa using stripeOf_lt_of_lt c hy)

/-- Every state of a run keeps the invariant, and its view is the ideal disk. -/
theorem ParityRun.inv (ht : t = .RAID4 ∨ t = .RAID5) {s : RaidState} {V : Nat → Block}
    (h : ParityRun c t s V) :
    ParityInv c t s ∧ ∀ y < diskblockn * (c.DISKS - 1), view c t s y = V y := by
  induction h with
  | init hf hcode hset =>
    obtain ⟨-, hinv, hzero⟩ := parityInv_setraidtype c hf hcode ht hset
    have h2 : ∀ y < diskblockn * (c.DISKS - 1), 2 ≤ c.DISKS := by
      intro y hy
      rcases Nat.lt_or_ge c.DISKS 2 with h | h
      · rw [show c.DISKS - 1 = 0 by omega, Nat.mul_zero] at hy
        omega
      · exact h
    exact ⟨hinv, fun y hy => hzero _ (place_disk_lt c (h2 y hy)) _
      (by simpa using stripeOf_lt_of_lt c hy)⟩
  | read _ hread ih =>
    rw [parity_read c ih.1 ht] at hread
    split_ifs at hread <;>
    · simp only [Except.ok.injEq, Prod.mk.injEq] at hread
      obtain ⟨-, -, rfl⟩ := hread
      exact ih
  | @write s s' V x v r _ hwrite ih =>
    by_cases hx : 0 ≤ x ∧ x < raidblockn c s.raidmeta
    · obtain ⟨s'', hrun, hinv, hview⟩ := parity_write c ih.1 ht v hx.1 hx.2
      rw [hrun] at hwrite
      simp only [Except.ok.injEq, Prod.mk.injEq] at hwrite
      obtain ⟨rfl, rfl⟩ := hwrite
      refine ⟨hinv, fun y hy => ?_⟩
      rw [if_pos rfl, hview y (by rwa [ih.1.raidblockn_eq c ht]), Function.update_apply, ih.2 y hy]
    · rw [parity_write_out c ih.1 ht v hx] at hwrite
      simp only [Except.ok.injEq, Prod.mk.injEq] at hwrite
      obtain ⟨rfl, rfl⟩ := hwrite
      rw [if_neg (by decide)]
      exact ih
  | @fail s s' V n r _ hfail hone ih =>
    obtain ⟨r', s'', hf, himp⟩ := parity_fail c ih.1 n
    rw [hf] at hfail
    simp only [Except.ok.injEq, Prod.mk.injEq] at hfail
    obtain ⟨-, rfl⟩ := hfail
    obtain ⟨hinv, heff⟩ := himp hone
    exact ⟨hinv, fun y hy => (view_eq_of_eff c heff hy).trans (ih.2 y hy)⟩
  | @repair s s' V n r _ hrep ih =>
    obtain ⟨r', s'', hr, hinv, heff⟩ := parity_repair c ih.1 ht n
    rw [hr] at hrep
    simp only [Except.ok.injEq, Prod.mk.injEq] at hrep
    obtain ⟨-, rfl⟩ := hrep
    exact ⟨hinv, fun y hy => (view_eq_of_eff c heff hy).trans (ih.2 y hy)⟩

/-- What a run of a parity level guarantees in each of its states. -/
theorem ParityRun.calls (ht : t = .RAID4 ∨ t = .RAID5) {s : RaidState} {V : Nat → Block}
    (h : ParityRun c t s V) :
    (∀ (x : Int) (data : Block), 0 ≤ x → x < raidblockn c s.raidmeta →
      readtable c t x data s = .ok (0, V x.toNat, s)) ∧
    (∀ (x : Int) (v : Block), 0 ≤ x → x < raidblockn c s.raidmeta →
      ∃ s', writetable c t x v s = .ok (0, s')) ∧
    (∀ n : Int, ∃ r s', raidfail c n s = .ok (r, s')) ∧
    (∀ n : Int, ∃ r s', raidrepair c n s = .ok (r, s')) := by
  obtain ⟨hinv, hview⟩ := h.inv c ht
  have hbn := hinv.raidblockn_eq c ht
  refine ⟨fun x data h0 hx => ?_, fun x v h0 hx => ?_, fun n => ?_, fun n => ?_⟩
  · have hxn : x.toNat < diskblockn * (c.DISKS - 1) := by
      rw [hbn] at hx
      omega
    rw [parity_read c hinv ht, if_pos ⟨h0, hx⟩, hview x.toNat hxn]
  · obtain ⟨s', hw, -⟩ := parity_write c hinv ht v h0 hx
    exact ⟨s', hw⟩
  · obtain ⟨r, s', hf, -⟩ := parity_fail c hinv n
    exact ⟨r, s', hf⟩
  · obtain ⟨r, s', hr, -⟩ := parity_repair c hinv ht n
    exact ⟨r, s', hr⟩

/-- RAID5 refines the ideal disk: in every state of a run, a read in range
returns `0` and the block of the last write to it, or zero, a write in range
returns `0`, and a failure or a repair does not fault. -/
theorem raid5_refines_ideal_disk {s : RaidState} {V : Nat → Block}
    (h : ParityRun c .RAID5 s V) :
    (∀ (x : Int) (data : Block), 0 ≤ x → x < raidblockn c s.raidmeta →
      raid5read c x data s = .ok (0, V x.toNat, s)) ∧
    (∀ (x : Int) (v : Block), 0 ≤ x → x < raidblockn c s.raidmeta →
      ∃ s', raid5write c x v s = .ok (0, s')) ∧
    (∀ n : Int, ∃ r s', raidfail c n s = .ok (r, s')) ∧
    (∀ n : Int, ∃ r s', raidrepair c n s = .ok (r, s')) :=
  h.calls c (.inr rfl)

theorem raid5_refines_ideal_disk_write_read :
    ∃ s, ParityRun threeDisks .RAID5 s (Function.update (fun _ => 0) 5 ⟨fun _ => 7⟩) ∧
      raid5read threeDisks 5 0 s = .ok (0, ⟨fun _ => 7⟩, s) := by
  have hfresh := fresh_freshState threeDisks
  have h₀ : ParityRun threeDisks .RAID5 _ fun _ => 0 :=
    .init hfresh rfl (setraidtype_parity threeDisks (show RAID_TYPE.ofInt 4 = some .RAID5 from rfl)
      (.inr rfl) (fun i _ => hfresh.quiet.disklock i) (by decide))
  obtain ⟨s₁, hw⟩ := (raid5_refines_ideal_disk threeDisks h₀).2.1 5 ⟨fun _ => 7⟩ (by decide)
    (by decide)
  have h₁ := ParityRun.write h₀ hw
  rw [if_pos rfl] at h₁
  have hx₁ : (5 : Int) < raidblockn threeDisks s₁.raidmeta := by
    rw [(h₁.inv threeDisks (.inr rfl)).1.raidblockn_eq threeDisks (.inr rfl)]
    decide
  refine ⟨s₁, h₁, ?_⟩
  rw [(raid5_refines_ideal_disk threeDisks h₁).1 5 0 (by decide) hx₁]
  rfl

/-- RAID4 refines the ideal disk, with the data on disks `0..DISKS-2` and the
parity on disk `DISKS-1`. -/
theorem raid4_refines_ideal_disk {s : RaidState} {V : Nat → Block}
    (h : ParityRun c .RAID4 s V) :
    (∀ (x : Int) (data : Block), 0 ≤ x → x < raidblockn c s.raidmeta →
      raid4read c x data s = .ok (0, V x.toNat, s)) ∧
    (∀ (x : Int) (v : Block), 0 ≤ x → x < raidblockn c s.raidmeta →
      ∃ s', raid4write c x v s = .ok (0, s')) ∧
    (∀ n : Int, ∃ r s', raidfail c n s = .ok (r, s')) ∧
    (∀ n : Int, ∃ r s', raidrepair c n s = .ok (r, s')) :=
  h.calls c (.inl rfl)

theorem raid4_refines_ideal_disk_write_read :
    ∃ s, ParityRun threeDisks .RAID4 s (Function.update (fun _ => 0) 5 ⟨fun _ => 7⟩) ∧
      raid4read threeDisks 5 0 s = .ok (0, ⟨fun _ => 7⟩, s) := by
  have hfresh := fresh_freshState threeDisks
  have h₀ : ParityRun threeDisks .RAID4 _ fun _ => 0 :=
    .init hfresh rfl (setraidtype_parity threeDisks (show RAID_TYPE.ofInt 3 = some .RAID4 from rfl)
      (.inl rfl) (fun i _ => hfresh.quiet.disklock i) (by decide))
  obtain ⟨s₁, hw⟩ := (raid4_refines_ideal_disk threeDisks h₀).2.1 5 ⟨fun _ => 7⟩ (by decide)
    (by decide)
  have h₁ := ParityRun.write h₀ hw
  rw [if_pos rfl] at h₁
  have hx₁ : (5 : Int) < raidblockn threeDisks s₁.raidmeta := by
    rw [(h₁.inv threeDisks (.inl rfl)).1.raidblockn_eq threeDisks (.inl rfl)]
    decide
  refine ⟨s₁, h₁, ?_⟩
  rw [(raid4_refines_ideal_disk threeDisks h₁).1 5 0 (by decide) hx₁]
  rfl

end Xv6Raid
