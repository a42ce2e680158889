import Xv6Raid.Lib.Layout
import Xv6Raid.Refinement.ParityView
import Xv6Raid.Refinement.MirrorView

/-!
The layout of each level: where `read` and `write` put virtual block `vblkn`.
RAID0 stripes blocks over the disks (kernel/raid0.c), RAID1 fills one pair
after the other and RAID0_1 stripes over the pairs (kernel/raid1.c,
kernel/raid0_1.c), RAID4 stripes over all disks but the last, and RAID5
rotates a stripe's data disks past its parity disk `stripe % DISKS`
(kernel/raid4.c, kernel/raid5.c). Each layout is a bijection of
`[0, raidblockn())` onto the data locations of its level: no two blocks share
a place, none lies on the metadata block `diskblockn()` or on a parity block,
and every data location is used.
-/

namespace Xv6Raid

open Layout RaidState

variable (c : Config)

/-- The place of virtual block `x` on level `t`: a disk index and a block for
the striped levels, a pair and a block for the mirrored ones. -/
def location (t : RAID_TYPE) (x : Nat) : Nat × Nat :=
  match t with
  | .RAID0 => (x % c.DISKS, x / c.DISKS)
  | .RAID1 | .RAID0_1 => (vpair c t x, vblock c t x)
  | .RAID4 | .RAID5 => ((place c t x).disk, (place c t x).stripe)

/-- The data locations of level `t`: the blocks below the metadata block of
each data disk or pair, except the parity block of each RAID5 stripe. -/
def dataLocation (t : RAID_TYPE) (p : Nat × Nat) : Prop :=
  match t with
  | .RAID0 => p.1 < c.DISKS ∧ p.2 < diskblockn
  | .RAID1 => p.1 < (c.DISKS + 1) / 2 ∧ p.2 < diskblockn
  | .RAID0_1 => p.1 < c.DISKS / 2 ∧ p.2 < diskblockn
  | .RAID4 => p.1 < c.DISKS - 1 ∧ p.2 < diskblockn
  | .RAID5 => (p.1 < c.DISKS ∧ p.1 ≠ p.2 % c.DISKS) ∧ p.2 < diskblockn

instance (t : RAID_TYPE) (p : Nat × Nat) : Decidable (dataLocation c t p) := by
  cases t <;> unfold dataLocation <;> infer_instance

/-- The read and the write of level `t` go to `location c t x` for every block
`x` in range. RAID0 reads and writes block `(location).2` of disk
`(location).1 + 1` when that disk is valid, with the disk entries wired and the
locks free; RAID1 and RAID0_1 hand the pair and the block to `readdiskpair`
and `writediskpair`; RAID4 and RAID5, in a state of their runs, read the
block of the data disk and stripe (or rebuild it) and store it there with the
parity of its stripe. -/
def UsesLocation (t : RAID_TYPE) : Prop :=
  ∀ (s : RaidState) (x : Int), s.raidmeta.type = t → 0 ≤ x → x < raidblockn c s.raidmeta →
    match t with
    | .RAID0 =>
      let p := location c .RAID0 x.toNat
      Wiring c s.raidmeta → Quiet s.raidmeta →
        (∀ data, raid0read c x data s = if (s.raidmeta.diskinfo p.1).valid
          then .ok (0, col s p.2 p.1, s) else .ok (-1, data, s)) ∧
        ∀ v, raid0write c x v s = if (s.raidmeta.diskinfo p.1).valid
          then .ok (0, s.setBlock (p.1 + 1) p.2 v) else .ok (-1, s)
    | .RAID1 =>
      let p := location c .RAID1 x.toNat
      (∀ data, raid1read c x data s = readdiskpair c p.1 p.2 data s) ∧
        ∀ v, raid1write c x v s = writediskpair c p.1 p.2 v s
    | .RAID0_1 =>
      let p := location c .RAID0_1 x.toNat
      (∀ data, raid0_1read c x data s = readdiskpair c p.1 p.2 data s) ∧
        ∀ v, raid0_1write c x v s = writediskpair c p.1 p.2 v s
    | .RAID4 =>
      let p := location c .RAID4 x.toNat
      ParityInv c .RAID4 s →
        (∀ data, raid4read c x data s = .ok (0, eff c s p.1 p.2, s)) ∧
        ∀ v, ∃ s', raid4write c x v s = .ok (0, s') ∧
          DataEq s'.disks (stripeWrite c s p.1 (c.DISKS - 1) p.2 v).disks
    | .RAID5 =>
      let p := location c .RAID5 x.toNat
      ParityInv c .RAID5 s →
        (∀ data, raid5read c x data s = .ok (0, eff c s p.1 p.2, s)) ∧
        ∀ v, ∃ s', raid5write c x v s = .ok (0, s') ∧
          DataEq s'.disks (stripeWrite c s p.1 (raid5parity c x.toNat) p.2 v).disks

section Bijection

theorem raid1_layout :
    Set.BijOn (location c .RAID1) {x | x < diskblockn * ((c.DISKS + 1) / 2)}
      {p | dataLocation c .RAID1 p} := by
  have hloc : location c .RAID1 = fun x => (x / diskblockn, x % diskblockn) := by
    funext x
    simp only [location, vpair, vblock, if_true]
  rw [hloc]
  exact bijOn_div_mod diskblockn ((c.DISKS + 1) / 2)

theorem raid0_1_layout :
    Set.BijOn (location c .RAID0_1) {x | x < diskblockn * (c.DISKS / 2)}
      {p | dataLocation c .RAID0_1 p} := by
  have hloc : location c .RAID0_1 = fun x => (x % (c.DISKS / 2), x / (c.DISKS / 2)) := by
    funext x
    simp only [location, vpair, vblock, reduceCtorEq, if_false]
  rw [hloc]
  exact bijOn_mod_div (c.DISKS / 2) diskblockn

theorem raid4_layout :
    Set.BijOn (location c .RAID4) {x | x < diskblockn * (c.DISKS - 1)}
      {p | dataLocation c .RAID4 p} := by
  have hloc : location c .RAID4 = fun x => (x % (c.DISKS - 1), x / (c.DISKS - 1)) := by
    funext x
    simp only [location, place, if_true, stripeOf]
  rw [hloc]
  exact bijOn_mod_div (c.DISKS - 1) diskblockn

/-- RAID5 lays out a stripe as RAID4 does and then rotates it past the
stripe's parity disk. -/
theorem raid5_layout :
    Set.BijOn (location c .RAID5) {x | x < diskblockn * (c.DISKS - 1)}
      {p | dataLocation c .RAID5 p} := by
  have hloc : location c .RAID5 =
      (fun q : Nat × Nat => ((q.2 % c.DISKS + 1 + q.1) % c.DISKS, q.2)) ∘
        fun x => (x % (c.DISKS - 1), x / (c.DISKS - 1)) := by
    funext x
    simp only [location, place, reduceCtorEq, if_false, Function.comp_apply, raid5disk,
      raid5parity, stripeOf]
  have hrow : ∀ b ∈ {b : Nat | b < diskblockn}, Set.BijOn (fun j => (b % c.DISKS + 1 + j) % c.DISKS)
      {j | j < c.DISKS - 1} {d | d < c.DISKS ∧ d ≠ b % c.DISKS} :=
    fun b _ => bijOn_rotate (Nat.mod_lt b c.one_le_DISKS)
  rw [hloc]
  exact (bijOn_fiber hrow).comp (bijOn_mod_div (c.DISKS - 1) diskblockn)

theorem location_bijOn (m : RAIDMeta) :
    Set.BijOn (location c m.type) {x | x < raidblockn c m} {p | dataLocation c m.type p} := by
  unfold raidblockn
  cases m.type with
  | RAID0 => exact bijOn_mod_div c.DISKS diskblockn
  | RAID1 => exact raid1_layout c
  | RAID0_1 => exact raid0_1_layout c
  | RAID4 => exact raid4_layout c
  | RAID5 => exact raid5_layout c

end Bijection

section Raid0

variable {s : RaidState} {x : Int}

theorem raid0_location (ht : s.raidmeta.type = .RAID0) (h0 : 0 ≤ x)
    (hx : x < raidblockn c s.raidmeta) :
    ¬ outofrange c x s ∧ (location c .RAID0 x.toNat).1 < c.DISKS ∧
      (location c .RAID0 x.toNat).2 < diskblockn := by
  have hxn : x.toNat < diskblockn * c.DISKS := by
    simp only [raidblockn, ht] at hx
    omega
  refine ⟨?_, mod_div_mem hxn⟩
  simp only [outofrange]
  omega

/-- `raid0read` of a block in range reads the place `location` gives it, or
fails when that disk is invalid. -/
theorem raid0read_spec (data : Block) (hw : Wiring c s.raidmeta)
    (hl : ∀ i < c.DISKS, (s.raidmeta.diskinfo i).lock = ⟨false⟩) (ht : s.raidmeta.type = .RAID0)
    (h0 : 0 ≤ x) (hx : x < raidblockn c s.raidmeta) :
    raid0read c x data s = if (s.raidmeta.diskinfo (location c .RAID0 x.toNat).1).valid
      then .ok (0, col s (location c .RAID0 x.toNat).2 (location c .RAID0 x.toNat).1, s)
      else .ok (-1, data, s) := by
  obtain ⟨hrange, hd, hb⟩ := raid0_location c ht h0 hx
  simp only [location] at hd hb ⊢
  simp only [raid0read, ht, ne_eq, not_true_eq_false, if_false, hrange, diskinfoAt,
    Nat.le_of_lt hd, if_true, Except.ok_bind, hw.diskn _ hd]
  by_cases hv : (s.raidmeta.diskinfo (x.toNat % c.DISKS)).valid
  · simp only [hv, Bool.not_true, Bool.false_eq_true, if_false, if_true]
    exact read_valid_path c hl hd (Nat.le_of_lt hb)
  · simp only [hv, Bool.not_false, if_true, Bool.false_eq_true, if_false, Except.pure_eq_ok]

/-- `raid0write` of a block in range writes the place `location` gives it, or
fails when that disk is invalid. -/
theorem raid0write_spec (v : Block) (hw : Wiring c s.raidmeta)
    (hl : ∀ i < c.DISKS, (s.raidmeta.diskinfo i).lock = ⟨false⟩) (ht : s.raidmeta.type = .RAID0)
    (h0 : 0 ≤ x) (hx : x < raidblockn c s.raidmeta) :
    raid0write c x v s = if (s.raidmeta.diskinfo (location c .RAID0 x.toNat).1).valid
      then .ok (0, s.setBlock ((location c .RAID0 x.toNat).1 + 1) (location c .RAID0 x.toNat).2 v)
      else .ok (-1, s) := by
  obtain ⟨hrange, hd, hb⟩ := raid0_location c ht h0 hx
  simp only [location] at hd hb ⊢
  simp only [raid0write, ht, ne_eq, not_true_eq_false, if_false, hrange, diskinfoAt,
    Nat.le_of_lt hd, if_true, Except.ok_bind, hw.diskn _ hd]
  by_cases hv : (s.raidmeta.diskinfo (x.toNat % c.DISKS)).valid
  · have hwr : ∀ u : RaidState, write_block c (x.toNat % c.DISKS + 1) (x.toNat / c.DISKS) v u =
        .ok (u.setBlock (x.toNat % c.DISKS + 1) (x.toNat / c.DISKS) v) :=
      fun _ => write_block_ok c v ⟨by omega, by omega, Nat.le_of_lt hb⟩
    simp only [hv, Bool.not_true, Bool.false_eq_true, if_false, if_true]
    rw [acquireDiskLock_free (hl _ hd), Except.ok_bind, hwr, Except.ok_bind,
      releaseDiskLock_setBlock, releaseDiskLock_acquired (hl _ hd), Except.pure_eq_ok]
  · simp only [hv, Bool.not_false, if_true, Bool.false_eq_true, if_false, Except.pure_eq_ok]

end Raid0

theorem usesLocation (t : RAID_TYPE) : UsesLocation c t := by
  intro s x ht h0 hx
  cases t with
  | RAID0 =>
    exact fun hw hq => ⟨fun data => raid0read_spec c data hw (fun i _ => hq.disklock i) ht h0 hx,
      fun v => raid0write_spec c v hw (fun i _ => hq.disklock i) ht h0 hx⟩
  | RAID1 => exact ⟨fun data => raid1read_eq c data ht h0 hx, fun v => raid1write_eq c v ht h0 hx⟩
  | RAID0_1 =>
    exact ⟨fun data => raid0_1read_eq c data ht h0 hx, fun v => raid0_1write_eq c v ht h0 hx⟩
  | RAID4 =>
    intro h
    refine ⟨fun data => (parity_read c h (.inl rfl) x data).trans (if_pos ⟨h0, hx⟩), fun v => ?_⟩
    obtain ⟨s', hw, -, hX⟩ := parity_write_eq c h (.inl rfl) v h0 hx
    exact ⟨s', hw, by simpa [location, place] using hX⟩
  | RAID5 =>
    intro h
    refine ⟨fun data => (parity_read c h (.inr rfl) x data).trans (if_pos ⟨h0, hx⟩), fun v => ?_⟩
    obtain ⟨s', hw, -, hX⟩ := parity_write_eq c h (.inr rfl) v h0 hx
    exact ⟨s', hw, by simpa [location, place] using hX⟩

/-- Each level's read and write go to one place, `location`, and that map is
a bijection of the blocks in range onto the level's data locations. -/
theorem layout_bijective (m : RAIDMeta) :
    Set.BijOn (location c m.type) {x | x < raidblockn c m} {p | dataLocation c m.type p} ∧
      UsesLocation c m.type :=
  ⟨location_bijOn c m, usesLocation c m.type⟩

end Xv6Raid
