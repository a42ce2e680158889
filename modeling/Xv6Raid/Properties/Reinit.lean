import Xv6Raid.Refinement.ParityRun

/-!
`setraidtype` of RAID4 or RAID5 again, on an array that is already in use. It
keeps the disk entries and the data blocks, but it marks every cluster unloaded
(raid.c:213-277). The lazy loading of `raid4write` and `raid5write` is sound
only while an unloaded cluster holds zero blocks. After the new call, the next
write to a cluster loads it again and sets its parity from the valid disks
alone (raid4.c:15-72, raid5.c:15-74). A block of a failed data disk in that
cluster then reads as zero. Without the new call it would read as the block
last written there.
-/

namespace Xv6Raid

open XorSum RaidState

variable (c : Config)

section Load

variable {s : RaidState}

theorem invalidcount_le_one (hone : AtMostOneInvalid c s.raidmeta) : invalidcount c s ≤ 1 := by
  have hnd : ((List.range c.DISKS).filter fun i => !(s.raidmeta.diskinfo i).valid).Nodup :=
    List.nodup_range.filter _
  unfold invalidcount
  rw [← List.toFinset_card_of_nodup hnd]
  refine Finset.card_le_one.mpr fun i hi j hj => ?_
  simp only [List.mem_toFinset, List.mem_filter, List.mem_range, Bool.not_eq_true'] at hi hj
  exact hone i hi.1 j hj.1 hi.2 hj.2

theorem filter_valid_eq_others (hone : AtMostOneInvalid c s.raidmeta) {i : Nat} (hi : i < c.DISKS)
    (hvi : (s.raidmeta.diskinfo i).valid = false) (p : Nat) :
    (List.range c.DISKS).filter (fun j => (s.raidmeta.diskinfo j).valid && j != p) =
      (others c i).filter (· ≠ p) := by
  rw [others, List.filter_filter]
  apply List.filter_congr
  intro j hj
  by_cases hji : j = i
  · subst hji
    simp [hvi]
  · have hvj : (s.raidmeta.diskinfo j).valid = true := by
      by_contra h
      exact hji (hone j (List.mem_range.mp hj) i hi (Bool.eq_false_iff.mpr h) hvi)
    by_cases hjp : j = p <;> simp [hji, hvj, hjp]

/-- A stripe loaded while data disk `i` is the only invalid disk reads as zero
there. The loop of `loadclusterraid4` sets the parity to the exclusive-or of
the valid data disks, so the reconstruction of disk `i` cancels out. -/
theorem xorSum_loaded4_others {l : List Nat} {b i : Nat} (hb : b ∈ l)
    (hone : AtMostOneInvalid c s.raidmeta) (hi : i < c.DISKS - 1)
    (hvi : (s.raidmeta.diskinfo i).valid = false) :
    xorSum (fun j => loaded4 c l s (j + 1) b) (others c i) = 0 := by
  set p := c.DISKS - 1 with hp
  have hD : c.DISKS = p + 1 := by omega
  have hvp : (s.raidmeta.diskinfo p).valid = true := by
    by_contra h
    exact absurd (hone p (by omega) i (by omega) (Bool.eq_false_iff.mpr h) hvi) (by omega)
  -- the valid data disks are the disks other than `i` and the parity disk
  have hdata : (List.range p).filter (fun j => (s.raidmeta.diskinfo j).valid) =
      (others c i).filter (· ≠ p) := by
    rw [← filter_valid_eq_others c hone (by omega) hvi p, hD, List.range_succ, List.filter_append]
    simp only [List.filter_cons, bne_self_eq_false, Bool.and_false, Bool.false_eq_true, if_false,
      List.filter_nil, List.append_nil]
    exact List.filter_congr fun j hj => by simp [Nat.ne_of_lt (List.mem_range.mp hj)]
  refine xorSum_eq_zero_of_eq_filter (others_nodup c i)
    ((mem_others c).mpr (show p < c.DISKS ∧ p ≠ i from ⟨by omega, by omega⟩)) (g := col s b) ?_
    fun j hj hjp => ?_
  · simp [loaded4, ← hD, hb, ← hp, hvp, hdata]
  · have hjD := ((mem_others c).mp hj).1
    simp [loaded4, show j + 1 ≠ c.DISKS by omega, col]

/-- The same for `loadclusterraid5`, on a stripe whose parity disk is not `i`:
the loop sets the parity to the exclusive-or of the other valid disks. -/
theorem xorSum_loaded5_others {l : List Nat} {b i : Nat} (hb : b ∈ l)
    (hone : AtMostOneInvalid c s.raidmeta) (hi : i < c.DISKS)
    (hvi : (s.raidmeta.diskinfo i).valid = false) (hip : i ≠ b % c.DISKS) :
    xorSum (fun j => loaded5 c l s (j + 1) b) (others c i) = 0 := by
  have hp : b % c.DISKS < c.DISKS := Nat.mod_lt _ (by omega)
  have hvp : (s.raidmeta.diskinfo (b % c.DISKS)).valid = true := by
    by_contra h
    exact hip (hone i hi _ hp hvi (Bool.eq_false_iff.mpr h))
  refine xorSum_eq_zero_of_eq_filter (others_nodup c i) ((mem_others c).mpr ⟨hp, Ne.symm hip⟩)
    (g := col s b) ?_ fun j _ hjp => ?_
  · simp only [loaded5, hb, hvp, and_self, if_true]
    rw [filter_valid_eq_others c hone hi hvi]
  · simp [loaded5, hjp, col]

variable {t : RAID_TYPE}

/-- The first write to block `x` of an unloaded cluster of either parity level
while the data disk of another block `y` of the cluster is invalid: `y` reads
as zero afterwards, whatever the disks held before. -/
theorem write_unloaded_erases (ht : t = .RAID4 ∨ t = .RAID5) {x y : Int} (w data : Block)
    (hq : Quiet s.raidmeta) (hw : Wiring c s.raidmeta) (htype : s.raidmeta.type = t)
    (hone : AtMostOneInvalid c s.raidmeta) (hx0 : 0 ≤ x) (hx : x < raidblockn c s.raidmeta)
    (hy0 : 0 ≤ y) (hy : y < raidblockn c s.raidmeta) (hxy : x ≠ y)
    (hk : stripeOf c x.toNat / CLUSTER_SIZE = stripeOf c y.toNat / CLUSTER_SIZE)
    (hc : s.raidmeta.data.raid4.cluster_loaded (stripeOf c x.toNat / CLUSTER_SIZE) = false)
    (hvy : (s.raidmeta.diskinfo (place c t y.toNat).disk).valid = false) :
    ∃ s', writetable c t x w s = .ok (0, s') ∧ readtable c t y data s' = .ok (0, 0, s') := by
  obtain ⟨h2, -⟩ := stripeOf_lt c (htype ▸ ht) hx0 hx
  obtain ⟨-, hsy⟩ := stripeOf_lt c (htype ▸ ht) hy0 hy
  set k := stripeOf c x.toNat / CLUSTER_SIZE
  set sy := stripeOf c y.toNat
  have hmem : sy ∈ List.range' (k * CLUSTER_SIZE) CLUSTER_SIZE := by
    rw [List.mem_range'_1, hk]
    simp only [CLUSTER_SIZE]
    omega
  have hcol : ∀ (T : RaidState) (Y : Nat → Nat → Block),
      col { s with disks := metaDisks c { T with disks := Y } } sy = fun j => Y (j + 1) sy :=
    fun T Y => funext fun j => metaDisks_of_ne c (Nat.ne_of_lt hsy)
  -- the loop of the level's loader leaves the state `T`, where the disks other
  -- than the one of `y` cancel on the stripe of `y`; the block is stored after it
  obtain ⟨s', T, hrun, hm, hT, hdisks, hzero⟩ : ∃ s' T, writetable c t x w s = .ok (0, s') ∧
      s'.raidmeta = (setclusterloaded k s).raidmeta ∧ T.raidmeta = s.raidmeta ∧
      s'.disks = (stripeWrite c T (place c t x.toNat).disk (place c t x.toNat).parity
        (stripeOf c x.toNat) w).disks ∧ xorSum (col T sy) (others c (place c t y.toNat).disk) = 0 := by
    rcases ht with rfl | rfl
    · obtain ⟨s', hrun, hm, hdisks⟩ := raid4write_unloaded c w hq hw htype hone hx0 hx hc
      refine ⟨s', _, hrun, hm, ?_, hdisks, ?_⟩
      · rfl
      rw [hcol]
      exact xorSum_loaded4_others c hmem hone (Nat.mod_lt _ (by omega)) hvy
    · obtain ⟨s', hrun, hm, hdisks⟩ := raid5write_unloaded c w hq hw htype hone hx0 hx hc
      refine ⟨s', _, hrun, hm, ?_, hdisks, ?_⟩
      · rfl
      rw [hcol]
      exact xorSum_loaded5_others c hmem hone (place_disk_lt c h2) hvy (place_disk_ne_parity c h2)
  have hdi : s'.raidmeta.diskinfo = s.raidmeta.diskinfo := by rw [hm]; rfl
  have hdw : s'.raidmeta.diskinfo = (stripeWrite c T (place c t x.toNat).disk
      (place c t x.toNat).parity (stripeOf c x.toNat) w).raidmeta.diskinfo := by
    rw [stripeWrite_raidmeta, hT, hdi]
  have hview : view c t s' y.toNat = 0 := by
    rw [view, place_stripe, eff_congr c hdw (by rw [hdisks]; exact DataEq.refl _) hsy,
      eff_stripeWrite_place c h2 (by rw [hT]; exact hone) w (by omega), eff, hT, hvy]
    simpa using hzero
  refine ⟨s', hrun, ?_⟩
  rw [readtable_eq_view c ht data (hw.of_diskinfo c hdi) (fun j _ => hdi ▸ hq.disklock j)
    (by rw [hm]; exact htype) (hone.of_diskinfo c hdi) hy0 (by rw [hm]; exact hy), hview]

end Load

section Run

variable {s : RaidState} {t : RAID_TYPE}

/-- `setraidtype` of the level of a parity run returns `0`. It keeps the disk
entries and the data blocks, frees the locks and the counters, and marks every
cluster unloaded. -/
theorem setraidtype_reinit {code : Int} (hcode : RAID_TYPE.ofInt code = some t)
    (ht : t = .RAID4 ∨ t = .RAID5) (h : ParityInv c t s) :
    ∃ s', setraidtype c code s = .ok (0, s') ∧ Quiet s'.raidmeta ∧
      s'.raidmeta.diskinfo = s.raidmeta.diskinfo ∧ s'.raidmeta.type = t ∧
      DataEq s'.disks s.disks ∧ ∀ k < NCLUSTERS, s'.raidmeta.data.raid4.cluster_loaded k = false := by
  have hq := h.quiet
  have hset := setraidtype_parity c hcode ht (fun i _ => hq.disklock i) (invalidcount_le_one c h.one)
  refine ⟨_, hset, ⟨hq.disklock, hq.mutex, hq.writing, hq.reading, rfl, rfl, rfl, rfl⟩, rfl, rfl,
    dataEq_metaDisks c _, fun k hk => ?_⟩
  simp [initclusters, hk]

/-- Without a new `setraidtype`, a write to `x` and a read of another block `y`
in a state of a run return `0` and the block last written to `y`. -/
theorem ParityRun.write_read (ht : t = .RAID4 ∨ t = .RAID5) {V : Nat → Block}
    (h : ParityRun c t s V) {x y : Int} (w data : Block) (hx0 : 0 ≤ x)
    (hx : x < raidblockn c s.raidmeta) (hy0 : 0 ≤ y) (hy : y < raidblockn c s.raidmeta)
    (hxy : x ≠ y) :
    ∃ s', writetable c t x w s = .ok (0, s') ∧ readtable c t y data s' = .ok (0, V y.toNat, s') := by
  have hbn := ((h.inv c ht).1).raidblockn_eq c ht
  obtain ⟨s', hw⟩ := (h.calls c ht).2.1 x w hx0 hx
  have h' := ParityRun.write h hw
  rw [if_pos rfl] at h'
  have hy' : y < raidblockn c s'.raidmeta := by
    rw [((h'.inv c ht).1).raidblockn_eq c ht, ← hbn]
    exact hy
  have hr := (h'.calls c ht).1 y data hy0 hy'
  rw [Function.update_of_ne (by omega)] at hr
  exact ⟨s', hw, hr⟩

/-- After `setraidtype` of the level, the same write loads the cluster of `x`
again from the valid disks, and the read of `y` returns zero when the data disk
of `y` is invalid. -/
theorem reinit_write_read (ht : t = .RAID4 ∨ t = .RAID5) {code : Int}
    (hcode : RAID_TYPE.ofInt code = some t) (h : ParityInv c t s) {x y : Int} (w data : Block)
    (hx0 : 0 ≤ x) (hx : x < raidblockn c s.raidmeta) (hy0 : 0 ≤ y)
    (hy : y < raidblockn c s.raidmeta) (hxy : x ≠ y)
    (hk : stripeOf c x.toNat / CLUSTER_SIZE = stripeOf c y.toNat / CLUSTER_SIZE)
    (hvy : (s.raidmeta.diskinfo (place c t y.toNat).disk).valid = false) :
    ∃ s₁ s₂, setraidtype c code s = .ok (0, s₁) ∧ writetable c t x w s₁ = .ok (0, s₂) ∧
      readtable c t y data s₂ = .ok (0, 0, s₂) := by
  obtain ⟨s₁, hset, hq, hdi, htype, -, hc⟩ := setraidtype_reinit c hcode ht h
  have hbn₁ : raidblockn c s₁.raidmeta = raidblockn c s.raidmeta := by
    rw [raidblockn_parity c (htype ▸ ht), h.raidblockn_eq c ht]
  obtain ⟨-, hsx⟩ := stripeOf_lt c (h.type ▸ ht) hx0 hx
  obtain ⟨s₂, hw, hr⟩ := write_unloaded_erases c ht w data hq (h.wiring.of_diskinfo c hdi) htype
    (h.one.of_diskinfo c hdi) hx0 (hbn₁ ▸ hx) hy0 (hbn₁ ▸ hy) hxy hk (hc _ (cluster_lt hsx))
    (by rw [hdi]; exact hvy)
  exact ⟨s₁, s₂, hset, hw, hr⟩

/-- Re-initialising a RAID4 array in use. Take any state of a run in which the
data disk of block `y` is invalid, and a write to another block `x` of the same
cluster. Without a new `setraidtype`, a read of `y` after the write returns the
block last written to `y`. After `setraidtype(3)`, which returns `0`, the same
write loads the cluster again from the valid disks, and the read returns zero. -/
theorem raid4_reinit_erases_failed_disk {V : Nat → Block} (h : ParityRun c .RAID4 s V)
    {x y : Int} (w data : Block) (hx0 : 0 ≤ x) (hx : x < raidblockn c s.raidmeta) (hy0 : 0 ≤ y)
    (hy : y < raidblockn c s.raidmeta) (hxy : x ≠ y)
    (hk : stripeOf c x.toNat / CLUSTER_SIZE = stripeOf c y.toNat / CLUSTER_SIZE)
    (hvy : (s.raidmeta.diskinfo (y.toNat % (c.DISKS - 1))).valid = false) :
    (∃ s', raid4write c x w s = .ok (0, s') ∧ raid4read c y data s' = .ok (0, V y.toNat, s')) ∧
      ∃ s₁ s₂, setraidtype c 3 s = .ok (0, s₁) ∧ raid4write c x w s₁ = .ok (0, s₂) ∧
        raid4read c y data s₂ = .ok (0, 0, s₂) :=
  ⟨h.write_read c (.inl rfl) w data hx0 hx hy0 hy hxy,
    reinit_write_read c (.inl rfl) rfl (h.inv c (.inl rfl)).1 w data hx0 hx hy0 hy hxy hk hvy⟩

/-- A run on three disks: `setraidtype` of the level, a write of sevens to
block 0, and `raidfail(n)`. -/
theorem run_sevens_then_fail (ht : t = .RAID4 ∨ t = .RAID5) {code : Int}
    (hcode : RAID_TYPE.ofInt code = some t) (n : Int) (h1 : 1 ≤ n) (h3 : n ≤ 3) :
    ∃ s V, ParityRun threeDisks t s V ∧ V 0 = ⟨fun _ => 7⟩ ∧
      (s.raidmeta.diskinfo (n - 1).toNat).valid = false ∧
      raidblockn threeDisks s.raidmeta = diskblockn * 2 := by
  have hfresh := fresh_freshState threeDisks
  have hset := setraidtype_parity threeDisks hcode ht (fun i _ => hfresh.quiet.disklock i) (by decide)
  have h₀ : ParityRun threeDisks t _ fun _ => 0 := .init hfresh hcode hset
  have hinv₀ := (h₀.inv threeDisks ht).1
  obtain ⟨s₂, hw, hm, -⟩ := parity_write_eq threeDisks hinv₀ ht ⟨fun _ => 7⟩ (x := 0) (by decide)
    (by rw [hinv₀.raidblockn_eq threeDisks ht]; decide)
  have h₁ := ParityRun.write h₀ hw
  rw [if_pos rfl] at h₁
  have hinv₁ := (h₁.inv threeDisks ht).1
  have hfail := raidfail_ok threeDisks hinv₁.destroyed (fun i _ => hinv₁.quiet.disklock i) h1 h3
  have hdi : s₂.raidmeta.diskinfo = (freshState 3).raidmeta.diskinfo := by rw [hm]; rfl
  -- disk index `n - 1` is the one invalid disk
  have hone : AtMostOneInvalid threeDisks (s₂.setDiskinfo (n - 1).toNat
      { s₂.raidmeta.diskinfo (n - 1).toNat with valid := false }).raidmeta := by
    refine AtMostOneInvalid.of_others_valid threeDisks (d := (n - 1).toNat) fun k hk hkn => ?_
    rw [setDiskinfo_raidmeta_diskinfo, Function.update_of_ne hkn, hdi]
    exact hfresh.valid k hk
  have h₂ := ParityRun.fail h₁ hfail hone
  exact ⟨_, _, h₂, by simp, by simp, ((h₂.inv threeDisks ht).1).raidblockn_eq threeDisks ht⟩

/-- On three disks: after `setraidtype(3)`, a write of sevens to block 0 and
`raidfail(1)`, block 0 reads as sevens after a write to block 1, but as zero
when `setraidtype(3)` comes before that write. -/
theorem raid4_reinit_erases_failed_disk_three_disks :
    ∃ s V, ParityRun threeDisks .RAID4 s V ∧ V 0 = ⟨fun _ => 7⟩ ∧
      (∃ s', raid4write threeDisks 1 0 s = .ok (0, s') ∧
        raid4read threeDisks 0 0 s' = .ok (0, V (0 : Int).toNat, s')) ∧
      ∃ s₁ s₂, setraidtype threeDisks 3 s = .ok (0, s₁) ∧ raid4write threeDisks 1 0 s₁ = .ok (0, s₂) ∧
        raid4read threeDisks 0 0 s₂ = .ok (0, 0, s₂) := by
  obtain ⟨s, V, h, hV, hv, hbn⟩ := run_sevens_then_fail (.inl rfl)
    (show RAID_TYPE.ofInt 3 = some .RAID4 from rfl) 1 (by decide) (by decide)
  exact ⟨s, V, h, hV, raid4_reinit_erases_failed_disk threeDisks h 0 0 (by decide)
    (by rw [hbn]; decide) (by decide) (by rw [hbn]; decide) (by decide) rfl (by simpa using hv)⟩

/-- Re-initialising an array in use with its own level changes what later reads
return, on RAID4 and on RAID5. Take any state of a run of the level in which the
data disk of block `y` is invalid, and a write to another block `x` of the same
cluster. Without a new `setraidtype`, a read of `y` after the write returns the
block last written to `y`; after `setraidtype` of the level, which returns `0`,
the same write and read return `0` and the zero block. -/
theorem reinit_changes_later_reads (ht : t = .RAID4 ∨ t = .RAID5) {code : Int}
    (hcode : RAID_TYPE.ofInt code = some t) {V : Nat → Block} (h : ParityRun c t s V) {x y : Int}
    (w data : Block) (hx0 : 0 ≤ x) (hx : x < raidblockn c s.raidmeta) (hy0 : 0 ≤ y)
    (hy : y < raidblockn c s.raidmeta) (hxy : x ≠ y)
    (hk : stripeOf c x.toNat / CLUSTER_SIZE = stripeOf c y.toNat / CLUSTER_SIZE)
    (hvy : (s.raidmeta.diskinfo (place c t y.toNat).disk).valid = false) :
    (∃ s', writetable c t x w s = .ok (0, s') ∧ readtable c t y data s' = .ok (0, V y.toNat, s')) ∧
      ∃ s₁ s₂, setraidtype c code s = .ok (0, s₁) ∧ writetable c t x w s₁ = .ok (0, s₂) ∧
        readtable c t y data s₂ = .ok (0, 0, s₂) :=
  ⟨h.write_read c ht w data hx0 hx hy0 hy hxy,
    reinit_write_read c ht hcode (h.inv c ht).1 w data hx0 hx hy0 hy hxy hk hvy⟩

/-- On three disks with RAID5: after `setraidtype(4)`, a write of sevens to
block 0, which lies on disk index 1, and `raidfail(2)`, block 0 reads as sevens
after a write to block 1, but as zero when `setraidtype(4)` comes first. -/
theorem reinit_changes_later_reads_raid5 :
    ∃ s V, ParityRun threeDisks .RAID5 s V ∧ V 0 = ⟨fun _ => 7⟩ ∧
      (∃ s', writetable threeDisks .RAID5 1 0 s = .ok (0, s') ∧
        readtable threeDisks .RAID5 0 0 s' = .ok (0, V (0 : Int).toNat, s')) ∧
      ∃ s₁ s₂, setraidtype threeDisks 4 s = .ok (0, s₁) ∧
        writetable threeDisks .RAID5 1 0 s₁ = .ok (0, s₂) ∧
        readtable threeDisks .RAID5 0 0 s₂ = .ok (0, 0, s₂) := by
  obtain ⟨s, V, h, hV, hv, hbn⟩ := run_sevens_then_fail (.inr rfl)
    (show RAID_TYPE.ofInt 4 = some .RAID5 from rfl) 2 (by decide) (by decide)
  have hdisk : (place threeDisks .RAID5 (0 : Int).toNat).disk = 1 := by decide
  exact ⟨s, V, h, hV, reinit_changes_later_reads threeDisks (.inr rfl) rfl h 0 0 (by decide)
    (by rw [hbn]; decide) (by decide) (by rw [hbn]; decide) (by decide) rfl
    (by rw [hdisk]; simpa using hv)⟩

end Run

end Xv6Raid
