import Xv6Raid.Properties.Layout
import Xv6Raid.Properties.Persistence

/-!
RAID0 refines an ideal virtual disk on the disks that stay valid. Block `x`
is block `x / DISKS` of disk entry `x % DISKS` (raid0.c). A run starts with
`setraidtype(RAID0)` after the first boot on zero-filled disks and goes on
with `raid0read`, `raid0write`, `raidfail` and `raidrepair` in any order. A
read or a write of a block on a valid disk returns `0` and reads or records the
ideal disk; on an invalid disk it returns `-1`. `raidrepair` has no RAID0 case
but `return -1` (raid.c:464-467), so a failed disk stays failed for the rest
of the run.
-/

namespace Xv6Raid

open Layout RaidState

variable (c : Config)

/-- The sequential runs of RAID0, each with the ideal disk it must refine. -/
inductive Raid0Run : RaidState → (Nat → Block) → Prop
  | init {s₀ s : RaidState} {code : Int} {r : UInt64} : Fresh c s₀ →
      RAID_TYPE.ofInt code = some .RAID0 → setraidtype c code s₀ = .ok (r, s) →
      Raid0Run s fun _ => 0
  | read {s s' : RaidState} {V : Nat → Block} {x : Int} {data v : Block} {r : UInt64} :
      Raid0Run s V → raid0read c x data s = .ok (r, v, s') → Raid0Run s' V
  | write {s s' : RaidState} {V : Nat → Block} {x : Int} {v : Block} {r : UInt64} :
      Raid0Run s V → raid0write c x v s = .ok (r, s') →
      Raid0Run s' (if r = 0 then Function.update V x.toNat v else V)
  | fail {s s' : RaidState} {V : Nat → Block} {n : Int} {r : UInt64} :
      Raid0Run s V → raidfail c n s = .ok (r, s') → Raid0Run s' V
  | repair {s s' : RaidState} {V : Nat → Block} {n : Int} {r : UInt64} :
      Raid0Run s V → raidrepair c n s = .ok (r, s') → Raid0Run s' V

/-- What a RAID0 run keeps: the structure quiet, wired, of type RAID0 and not
destroyed, and every valid disk holds the ideal disk's blocks at their place. -/
structure Raid0Inv (s : RaidState) (V : Nat → Block) : Prop where
  quiet : Quiet s.raidmeta
  wiring : Wiring c s.raidmeta
  type : s.raidmeta.type = .RAID0
  destroyed : s.raidmeta.isDestroyed = false
  view : ∀ y < diskblockn * c.DISKS, (s.raidmeta.diskinfo (y % c.DISKS)).valid = true →
    col s (y / c.DISKS) (y % c.DISKS) = V y

variable {c} {s : RaidState} {V : Nat → Block}

section Steps

theorem Raid0Inv.raidblockn_eq (h : Raid0Inv c s V) : raidblockn c s.raidmeta = diskblockn * c.DISKS := by
  simp [raidblockn, h.type]

theorem Raid0Inv.congr {u : RaidState} (h : Raid0Inv c s V) (hm : u.raidmeta = s.raidmeta)
    (hX : DataEq u.disks s.disks) : Raid0Inv c u V := by
  refine ⟨hm ▸ h.quiet, hm ▸ h.wiring, hm ▸ h.type, hm ▸ h.destroyed, fun y hy hv => ?_⟩
  have hb : y / c.DISKS < diskblockn := (mod_div_mem hy).2
  simp only [col]
  rw [hX _ _ hb]
  exact h.view y hy (hm ▸ hv)

/-- `setraidtype(RAID0)` after the first boot returns `0` and sets up the
invariant with the ideal disk all zero. -/
theorem raid0Inv_setraidtype {s₀ : RaidState} {code : Int} {r : UInt64} (hf : Fresh c s₀)
    (hcode : RAID_TYPE.ofInt code = some .RAID0) (h : setraidtype c code s₀ = .ok (r, s)) :
    r = 0 ∧ Raid0Inv c s fun _ => 0 := by
  set s₁ := settype .RAID0 s₀
  have hset : setraidtype c code s₀ = .ok (0, { s₁ with disks := metaDisks c s₁ }) := by
    rw [setraidtype, hcode]
    exact finish_eq c fun i _ => hf.quiet.disklock i
  rw [hset] at h
  obtain ⟨rfl, rfl⟩ := Prod.mk.inj (Except.ok.inj h)
  have hq := hf.quiet
  refine ⟨rfl, ⟨⟨hq.disklock, hq.mutex, hq.writing, hq.reading, hq.clusterlock, hq.repairlock,
    hq.writecount, hq.repairing⟩, hf.wiring.of_diskinfo c rfl, rfl, rfl, fun y hy _ => ?_⟩⟩
  obtain ⟨hd, hb⟩ := mod_div_mem hy
  change metaDisks c s₁ (y % c.DISKS + 1) (y / c.DISKS) = 0
  rw [metaDisks_of_ne c (Nat.ne_of_lt hb)]
  exact hf.zero _ (by omega) (by omega) _ hb

theorem col_setBlock_apply {i b j b' : Nat} (w : Block) (h : (j, b') ≠ (i, b)) :
    col (s.setBlock (i + 1) b w) b' j = col s b' j := by
  by_cases hj : j = i
  · subst hj
    have hb : b' ≠ b := fun e => h (by rw [e])
    simp [col, hb]
  · simp [col, hj]

/-- A read in range returns `-1` when its disk is invalid, and `0` with the
ideal block otherwise; the state never changes. -/
theorem raid0_read (h : Raid0Inv c s V) {x : Int} (data : Block) (h0 : 0 ≤ x)
    (hx : x < raidblockn c s.raidmeta) :
    raid0read c x data s = if (s.raidmeta.diskinfo (x.toNat % c.DISKS)).valid
      then .ok (0, V x.toNat, s) else .ok (-1, data, s) := by
  have hxn : x.toNat < diskblockn * c.DISKS := by
    rw [h.raidblockn_eq] at hx
    omega
  rw [raid0read_spec c data h.wiring (fun i _ => h.quiet.disklock i) h.type h0 hx]
  by_cases hv : (s.raidmeta.diskinfo (x.toNat % c.DISKS)).valid = true
  · simp only [location, hv, if_true, h.view _ hxn hv]
  · simp only [location, hv, Bool.false_eq_true, if_false]

/-- A write in range to a valid disk returns `0` and records the block in the
ideal disk; to an invalid disk it returns `-1` and changes nothing. -/
theorem raid0_write (h : Raid0Inv c s V) {x : Int} (v : Block) (h0 : 0 ≤ x)
    (hx : x < raidblockn c s.raidmeta) :
    ∃ s', raid0write c x v s = .ok (if (s.raidmeta.diskinfo (x.toNat % c.DISKS)).valid then 0
      else -1, s') ∧ s'.raidmeta = s.raidmeta ∧
      Raid0Inv c s' (if (s.raidmeta.diskinfo (x.toNat % c.DISKS)).valid
        then Function.update V x.toNat v else V) := by
  have hxn : x.toNat < diskblockn * c.DISKS := by
    rw [h.raidblockn_eq] at hx
    omega
  rw [raid0write_spec c v h.wiring (fun i _ => h.quiet.disklock i) h.type h0 hx]
  by_cases hv : (s.raidmeta.diskinfo (x.toNat % c.DISKS)).valid = true
  · simp only [location, hv, if_true]
    refine ⟨_, rfl, rfl, ⟨h.quiet, h.wiring, h.type, h.destroyed, fun y hy hvy => ?_⟩⟩
    by_cases hyx : y = x.toNat
    · subst hyx
      simp [col]
    · -- another block lies at another place
      have hne : (y % c.DISKS, y / c.DISKS) ≠ (x.toNat % c.DISKS, x.toNat / c.DISKS) :=
        fun he => hyx ((bijOn_mod_div c.DISKS diskblockn).injOn hy hxn he)
      rw [col_setBlock_apply v hne, Function.update_of_ne hyx]
      exact h.view y hy hvy
  · simp only [location, hv, Bool.false_eq_true, if_false]
    exact ⟨s, rfl, rfl, h⟩

/-- `raidfail` never faults, and it only marks one disk invalid and stores the
structure. -/
theorem raid0_fail (h : Raid0Inv c s V) (n : Int) :
    ∃ r s', raidfail c n s = .ok (r, s') ∧ Raid0Inv c s' V ∧
      ∀ i, (s'.raidmeta.diskinfo i).valid = true → (s.raidmeta.diskinfo i).valid = true := by
  by_cases hn : 1 ≤ n ∧ n ≤ c.DISKS
  · refine ⟨0, _, raidfail_ok c h.destroyed (fun i _ => h.quiet.disklock i) hn.1 hn.2, ?_⟩
    set d := (n - 1).toNat
    set u := s.setDiskinfo d { s.raidmeta.diskinfo d with valid := false }
    have hval : ∀ e, (u.raidmeta.diskinfo e).valid = true → (s.raidmeta.diskinfo e).valid = true := by
      intro e he
      by_cases hed : e = d
      · subst hed
        simp [u] at he
      · simpa [u, hed] using he
    have hu : Raid0Inv c u V := by
      refine ⟨h.quiet.setDiskinfo (h.quiet.disklock d), ⟨fun i hi => ?_, ?_⟩, h.type, h.destroyed,
        fun y hy hv => h.view y hy (hval _ hv)⟩
      · by_cases hid : i = d
        · subst hid
          simpa [u] using h.wiring.diskn _ hi
        · simpa [u, hid] using h.wiring.diskn i hi
      · have hd : d ≠ c.DISKS := by omega
        simpa [u, Ne.symm hd] using h.wiring.spare
    exact ⟨hu.congr rfl (dataEq_metaDisks c u), hval⟩
  · exact ⟨-1, s, raidfail_out c h.destroyed hn, h, fun _ hv => hv⟩

/-- RAID0 has no repair: `raidrepair` returns `0` for a disk in range that is
valid and `-1` otherwise, and changes nothing. -/
theorem raid0_repair (h : Raid0Inv c s V) (n : Int) :
    raidrepair c n s = .ok (if 1 ≤ n ∧ n ≤ c.DISKS ∧ (s.raidmeta.diskinfo (n - 1).toNat).valid
      then 0 else -1, s) := by
  by_cases hn : 1 ≤ n ∧ n ≤ c.DISKS
  · by_cases hv : (s.raidmeta.diskinfo (n - 1).toNat).valid = true
    · rw [if_pos ⟨hn.1, hn.2, hv⟩]
      exact raidrepair_valid c h.destroyed hn hv
    · have hr : ¬ (n - 1 < 0 ∨ (c.DISKS : Int) ≤ n - 1) := by omega
      rw [if_neg fun h' => hv h'.2.2]
      simp only [raidrepair, h.destroyed, hr, hv, h.type, Bool.false_eq_true, if_false]
  · rw [if_neg fun h' => hn ⟨h'.1, h'.2.1⟩]
    exact raidrepair_out c h.destroyed hn

/-- A read never changes the state, out of range included. -/
theorem raid0_read_state (h : Raid0Inv c s V) {x : Int} {data v : Block} {r : UInt64}
    {s' : RaidState} (hread : raid0read c x data s = .ok (r, v, s')) : s' = s := by
  by_cases hx : 0 ≤ x ∧ x < raidblockn c s.raidmeta
  · rw [raid0_read h data hx.1 hx.2] at hread
    split_ifs at hread <;> exact (Prod.mk.inj (Prod.mk.inj (Except.ok.inj hread)).2).2.symm
  · have hout : outofrange c x s := by
      simp only [outofrange]
      omega
    simp only [raid0read, h.type, ne_eq, not_true_eq_false, if_false, hout, if_true] at hread
    exact (Prod.mk.inj (Prod.mk.inj (Except.ok.inj hread)).2).2.symm

/-- A write out of range returns `-1` and changes nothing. -/
theorem raid0_write_out (h : Raid0Inv c s V) {x : Int} (v : Block)
    (hx : ¬ (0 ≤ x ∧ x < raidblockn c s.raidmeta)) : raid0write c x v s = .ok (-1, s) := by
  have hout : outofrange c x s := by
    simp only [outofrange]
    omega
  simp only [raid0write, h.type, ne_eq, not_true_eq_false, if_false, hout, if_true]

end Steps

/-- Every state of a run keeps the invariant with the ideal disk of the run. -/
theorem Raid0Run.inv (h : Raid0Run c s V) : Raid0Inv c s V := by
  induction h with
  | init hf hcode hset => exact (raid0Inv_setraidtype hf hcode hset).2
  | read _ hread ih =>
    rw [raid0_read_state ih hread]
    exact ih
  | @write s s' V x v r _ hwrite ih =>
    by_cases hx : 0 ≤ x ∧ x < raidblockn c s.raidmeta
    · obtain ⟨s'', hw, -, hinv⟩ := raid0_write ih v hx.1 hx.2
      rw [hw] at hwrite
      obtain ⟨rfl, rfl⟩ := Prod.mk.inj (Except.ok.inj hwrite)
      -- the write returned `0` exactly when its disk was valid
      by_cases hv : (s.raidmeta.diskinfo (x.toNat % c.DISKS)).valid = true
      · simp only [hv, if_true] at hinv ⊢
        exact hinv
      · simp only [hv, Bool.false_eq_true, if_false] at hinv ⊢
        rw [if_neg (by decide)]
        exact hinv
    · rw [raid0_write_out ih v hx] at hwrite
      obtain ⟨rfl, rfl⟩ := Prod.mk.inj (Except.ok.inj hwrite)
      rw [if_neg (by decide)]
      exact ih
  | fail _ hfail ih =>
    obtain ⟨r', s'', hf, hinv, -⟩ := raid0_fail ih _
    rw [hf] at hfail
    obtain ⟨-, rfl⟩ := Prod.mk.inj (Except.ok.inj hfail)
    exact hinv
  | repair _ hrep ih =>
    rw [raid0_repair ih] at hrep
    obtain ⟨-, rfl⟩ := Prod.mk.inj (Except.ok.inj hrep)
    exact ih

/-- RAID0 refines the ideal disk on the disks that stay valid. In every state of
a run, a read in range returns `0` and the block of the last write to it, or
zero, when its disk is valid, and `-1` otherwise; a write in range returns `0`
or `-1` alike and changes no disk entry; a failure does not fault and makes no
disk valid; and a repair changes nothing, so that a failed disk stays failed
for the rest of the run. -/
theorem raid0_refines_ideal_disk (h : Raid0Run c s V) :
    (∀ (x : Int) (data : Block), 0 ≤ x → x < raidblockn c s.raidmeta →
      raid0read c x data s = if (s.raidmeta.diskinfo (x.toNat % c.DISKS)).valid
        then .ok (0, V x.toNat, s) else .ok (-1, data, s)) ∧
    (∀ (x : Int) (v : Block), 0 ≤ x → x < raidblockn c s.raidmeta →
      ∃ s', raid0write c x v s =
        .ok (if (s.raidmeta.diskinfo (x.toNat % c.DISKS)).valid then 0 else -1, s') ∧
        s'.raidmeta = s.raidmeta) ∧
    (∀ n : Int, ∃ r s', raidfail c n s = .ok (r, s') ∧
      ∀ i, (s'.raidmeta.diskinfo i).valid = true → (s.raidmeta.diskinfo i).valid = true) ∧
    (∀ n : Int, raidrepair c n s = .ok (if 1 ≤ n ∧ n ≤ c.DISKS ∧
      (s.raidmeta.diskinfo (n - 1).toNat).valid then 0 else -1, s)) := by
  have hinv := h.inv
  refine ⟨fun x data h0 hx => raid0_read hinv data h0 hx, fun x v h0 hx => ?_,
    fun n => ?_, raid0_repair hinv⟩
  · obtain ⟨s', hw, hm, -⟩ := raid0_write hinv v h0 hx
    exact ⟨s', hw, hm⟩
  · obtain ⟨r, s', hf, -, hval⟩ := raid0_fail hinv n
    exact ⟨r, s', hf, hval⟩

/-- On three disks: after `setraidtype(0)` and a write of sevens to block 5,
block 5 reads back as sevens; once its disk 3 fails, `raidrepair(3)` returns
`-1` and block 5 stays unreadable. -/
theorem raid0_refines_ideal_disk_write_fail :
    ∃ s, Raid0Run threeDisks s (Function.update (fun _ => 0) 5 ⟨fun _ => 7⟩) ∧
      raid0read threeDisks 5 0 s = .ok (0, ⟨fun _ => 7⟩, s) ∧
      ∃ s', raidfail threeDisks 3 s = .ok (0, s') ∧ raidrepair threeDisks 3 s' = .ok (-1, s') ∧
        raid0read threeDisks 5 0 s' = .ok (-1, 0, s') := by
  have hfresh := fresh_freshState threeDisks
  have hcode : RAID_TYPE.ofInt 0 = some .RAID0 := rfl
  obtain ⟨s₀, hset, hdi⟩ : ∃ s₀, setraidtype threeDisks 0 (freshState 3) = .ok (0, s₀) ∧
      s₀.raidmeta.diskinfo = (freshState 3).raidmeta.diskinfo := by
    refine ⟨{ settype .RAID0 (freshState 3) with
      disks := metaDisks threeDisks (settype .RAID0 (freshState 3)) }, ?_, rfl⟩
    rw [setraidtype, hcode]
    exact finish_eq threeDisks fun i _ => hfresh.quiet.disklock i
  have h₀ : Raid0Run threeDisks s₀ fun _ => 0 := .init hfresh hcode hset
  have hv : (s₀.raidmeta.diskinfo ((5 : Int).toNat % threeDisks.DISKS)).valid = true := by
    rw [hdi]
    exact hfresh.valid _ (by decide)
  have hx : (5 : Int) < raidblockn threeDisks s₀.raidmeta := by
    rw [h₀.inv.raidblockn_eq, diskblockn_eq]
    decide
  -- the write reaches the valid disk 3 and the read returns it
  obtain ⟨s₁, hw, hm⟩ := (raid0_refines_ideal_disk h₀).2.1 5 ⟨fun _ => 7⟩ (by decide) hx
  rw [if_pos hv] at hw
  have h₁ := Raid0Run.write h₀ hw
  rw [if_pos rfl] at h₁
  have hr := (raid0_refines_ideal_disk h₁).1 5 0 (by decide) (hm ▸ hx)
  rw [hm, if_pos hv, Function.update_self] at hr
  -- disk 3 fails; the repair of it changes nothing
  have hinv₁ := h₁.inv
  obtain ⟨s₂, hfail, hv₂⟩ : ∃ s₂, raidfail threeDisks 3 s₁ = .ok (0, s₂) ∧
      (s₂.raidmeta.diskinfo 2).valid = false :=
    ⟨_, raidfail_ok threeDisks hinv₁.destroyed (fun i _ => hinv₁.quiet.disklock i)
      (show (1 : Int) ≤ 3 by decide) (by decide), by simp⟩
  have h₂ := Raid0Run.fail h₁ hfail
  have hrep := (raid0_refines_ideal_disk h₂).2.2.2 3
  rw [show ((3 : Int) - 1).toNat = 2 from rfl, hv₂] at hrep
  have hx₂ : (5 : Int) < raidblockn threeDisks s₂.raidmeta := by
    rw [h₂.inv.raidblockn_eq, diskblockn_eq]
    decide
  have hr₂ := (raid0_refines_ideal_disk h₂).1 5 0 (by decide) hx₂
  rw [show (5 : Int).toNat % threeDisks.DISKS = 2 from rfl, hv₂] at hr₂
  exact ⟨s₁, h₁, hr, s₂, hfail, hrep, hr₂⟩

end Xv6Raid
