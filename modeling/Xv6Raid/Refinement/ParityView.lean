import Mathlib.Data.Nat.ModEq
import Xv6Raid.Spec.ParityCalls

/-!
What the disks of a RAID4 or RAID5 array hold for a reader, and how each call
changes it. `eff s i b` is block `b` of disk index `i` as the levels read it:
the block itself on a valid disk, the exclusive-or of the others on the invalid
one. A write changes `eff` at its own block and nowhere else, a failure and a
repair change it nowhere, as long as `ParityInv` holds: the stripes of clusters
never written are zero, and a stripe whose disks are all valid has exclusive-or
zero.
-/

namespace Xv6Raid

open XorSum RaidState

variable (c : Config)

section Columns

variable (s : RaidState)

theorem col_setBlock_self (i b : Nat) (w : Block) :
    col (s.setBlock (i + 1) b w) b = Function.update (col s b) i w := by
  funext j
  by_cases hj : j = i
  · subst hj
    simp [col]
  · simp [col, hj]

theorem col_setBlock_of_ne {b b' : Nat} (e : Nat) (w : Block) (hb : b' ≠ b) :
    col (s.setBlock e b w) b' = col s b' := by
  funext j
  by_cases hj : j + 1 = e
  · subst hj
    simp [col, Function.update_of_ne hb]
  · simp [col, hj]

theorem col_stripeWrite (d p st : Nat) (v : Block) :
    col (stripeWrite c s d p st v) st =
      if !(s.raidmeta.diskinfo d).valid then
        Function.update (col s st) p (col s st p ^^^ (xorSum (col s st) (others c d) ^^^ v))
      else if !(s.raidmeta.diskinfo p).valid then Function.update (col s st) d v
      else Function.update (Function.update (col s st) d v) p (col s st p ^^^ (col s st d ^^^ v)) := by
  unfold stripeWrite
  split_ifs <;> simp only [col_setBlock_self]

theorem col_stripeWrite_of_ne {d p st b : Nat} (v : Block) (hb : b ≠ st) :
    col (stripeWrite c s d p st v) b = col s b := by
  unfold stripeWrite
  split_ifs <;> simp only [col_setBlock_of_ne _ _ _ hb]

theorem col_rebuilt (d : Nat) (l : List Nat) (b : Nat) :
    col { s with disks := rebuilt c d l s } b =
      if b ∈ l ∧ s.raidmeta.data.raid4.cluster_loaded (b / CLUSTER_SIZE) = true then
        Function.update (col s b) d (xorSum (col s b) (others c d))
      else col s b := by
  funext j
  by_cases hj : j = d
  · subst hj
    by_cases hb : b ∈ l ∧ s.raidmeta.data.raid4.cluster_loaded (b / CLUSTER_SIZE) = true <;>
      simp [col, rebuilt, hb]
  · by_cases hb : b ∈ l ∧ s.raidmeta.data.raid4.cluster_loaded (b / CLUSTER_SIZE) = true <;>
      simp [col, rebuilt, hb, hj]

end Columns

section Eff

variable {s : RaidState}

theorem eff_congr {t : RaidState} (hm : t.raidmeta.diskinfo = s.raidmeta.diskinfo)
    (hX : DataEq t.disks s.disks) {i b : Nat} (hb : b < diskblockn) : eff c t i b = eff c s i b := by
  have hcol : col t b = col s b := funext fun j => hX (j + 1) b hb
  simp only [eff, hm, hcol]

variable {d p st : Nat} (v : Block)

theorem eff_stripeWrite_self (hp : p < c.DISKS) (hdp : d ≠ p) :
    eff c (stripeWrite c s d p st v) d st = v := by
  rw [eff, stripeWrite_raidmeta, col_stripeWrite]
  by_cases hvd : (s.raidmeta.diskinfo d).valid
  · by_cases hvp : (s.raidmeta.diskinfo p).valid <;>
      simp [hvd, hvp, Function.update_of_ne hdp]
  · simp only [hvd, Bool.not_false, if_true, Bool.false_eq_true, if_false, others]
    exact xorSum_filter_update List.nodup_range (List.mem_range.mpr hp) hdp v

theorem eff_stripeWrite_other (hone : AtMostOneInvalid c s.raidmeta) {i : Nat}
    (hi : i < c.DISKS) (hd : d < c.DISKS) (hp : p < c.DISKS) (hdp : d ≠ p) (hid : i ≠ d)
    (hip : i ≠ p) : eff c (stripeWrite c s d p st v) i st = eff c s i st := by
  rw [eff, eff, stripeWrite_raidmeta, col_stripeWrite]
  by_cases hvi : (s.raidmeta.diskinfo i).valid
  · by_cases hvd : (s.raidmeta.diskinfo d).valid <;>
      by_cases hvp : (s.raidmeta.diskinfo p).valid <;>
      simp [hvi, hvd, hvp, Function.update_of_ne hid, Function.update_of_ne hip]
  · have hvi' := Bool.eq_false_iff.mpr hvi
    have hvd : (s.raidmeta.diskinfo d).valid := by
      by_contra h
      exact hid (hone i hi d hd hvi' (Bool.eq_false_iff.mpr h))
    have hvp : (s.raidmeta.diskinfo p).valid := by
      by_contra h
      exact hip (hone i hi p hp hvi' (Bool.eq_false_iff.mpr h))
    have hnd := (others_nodup c i)
    simp only [hvi, hvd, hvp, Bool.not_true, Bool.false_eq_true, if_false]
    exact xorSum_update_update hnd ((mem_others c).mpr ⟨hd, Ne.symm hid⟩)
      ((mem_others c).mpr ⟨hp, Ne.symm hip⟩) hdp v

theorem eff_stripeWrite_of_ne {i b : Nat} (hb : b ≠ st) :
    eff c (stripeWrite c s d p st v) i b = eff c s i b := by
  simp only [eff, stripeWrite_raidmeta, col_stripeWrite_of_ne c s v hb]

end Eff

section Layout

/-- Where a virtual block of a parity level lies: its data disk, the parity
disk of its stripe, and the stripe. -/
structure Place where
  disk : Nat
  parity : Nat
  stripe : Nat

/-- The layout of `raid4read` and `raid4write` for RAID4, and of `raid5read`
and `raid5write` for RAID5. -/
def place (t : RAID_TYPE) (x : Nat) : Place :=
  if t = .RAID4 then ⟨x % (c.DISKS - 1), c.DISKS - 1, stripeOf c x⟩
  else ⟨raid5disk c x, raid5parity c x, stripeOf c x⟩

variable {t : RAID_TYPE} {x y : Nat}

@[simp] theorem place_stripe : (place c t x).stripe = stripeOf c x := by
  unfold place
  split_ifs <;> rfl

theorem place_parity_lt : (place c t x).parity < c.DISKS := by
  have hD := c.one_le_DISKS
  unfold place
  split_ifs
  · exact Nat.sub_lt hD Nat.one_pos
  · exact raid5parity_lt c

theorem place_disk_lt (h2 : 2 ≤ c.DISKS) : (place c t x).disk < c.DISKS := by
  unfold place
  split_ifs
  · have := Nat.mod_lt x (show 0 < c.DISKS - 1 by omega)
    exact Nat.lt_of_lt_of_le this (Nat.sub_le _ _)
  · exact raid5disk_lt c

theorem place_disk_ne_parity (h2 : 2 ≤ c.DISKS) : (place c t x).disk ≠ (place c t x).parity := by
  unfold place
  split_ifs
  · exact Nat.ne_of_lt (Nat.mod_lt x (by omega))
  · exact raid5disk_ne_parity c h2

theorem place_parity_eq (hs : stripeOf c x = stripeOf c y) :
    (place c t x).parity = (place c t y).parity := by
  unfold place
  split_ifs
  · rfl
  · simp only [raid5parity, hs]

theorem eq_of_add_mod_eq {D q a b : Nat} (ha : a < D) (hb : b < D)
    (h : (q + a) % D = (q + b) % D) : a = b := by
  have hmod := Nat.ModEq.add_left_cancel' q h
  rwa [Nat.ModEq, Nat.mod_eq_of_lt ha, Nat.mod_eq_of_lt hb] at hmod

theorem place_injective (h2 : 2 ≤ c.DISKS) (hs : stripeOf c x = stripeOf c y)
    (hd : (place c t x).disk = (place c t y).disk) : x = y := by
  have hx := Nat.div_add_mod x (c.DISKS - 1)
  have hy := Nat.div_add_mod y (c.DISKS - 1)
  have hmod : x % (c.DISKS - 1) = y % (c.DISKS - 1) := by
    unfold place at hd
    split_ifs at hd
    · exact hd
    · simp only [raid5disk, raid5parity, hs] at hd
      exact eq_of_add_mod_eq (Nat.lt_of_lt_of_le (Nat.mod_lt x (by omega)) (Nat.sub_le _ _))
        (Nat.lt_of_lt_of_le (Nat.mod_lt y (by omega)) (Nat.sub_le _ _)) hd
  simp only [stripeOf] at hs
  rw [← hx, ← hy, hs, hmod]

/-- A write to block `x` leaves what the disks give for every other block `y`:
the two lie on different stripes, or on different data disks of one stripe,
off its parity disk. -/
theorem eff_stripeWrite_place {s : RaidState} (h2 : 2 ≤ c.DISKS)
    (hone : AtMostOneInvalid c s.raidmeta) (v : Block) (hyx : y ≠ x) :
    eff c (stripeWrite c s (place c t x).disk (place c t x).parity (stripeOf c x) v)
      (place c t y).disk (stripeOf c y) = eff c s (place c t y).disk (stripeOf c y) := by
  by_cases hs : stripeOf c y = stripeOf c x
  · have hyd : (place c t y).disk ≠ (place c t x).disk := fun hyd => hyx (place_injective c h2 hs hyd)
    have hyp : (place c t y).disk ≠ (place c t x).parity := by
      rw [← place_parity_eq c hs]
      exact place_disk_ne_parity c h2
    rw [hs]
    exact eff_stripeWrite_other c v hone (place_disk_lt c h2) (place_disk_lt c h2) (place_parity_lt c)
      (place_disk_ne_parity c h2) hyd hyp
  · exact eff_stripeWrite_of_ne c v hs

end Layout

/-- What a read of virtual block `x` returns. -/
def view (t : RAID_TYPE) (s : RaidState) (x : Nat) : Block :=
  eff c s (place c t x).disk (place c t x).stripe

/-- What every state of a sequential run of the parity level `t` keeps. -/
structure ParityInv (t : RAID_TYPE) (s : RaidState) : Prop where
  quiet : Quiet s.raidmeta
  wiring : Wiring c s.raidmeta
  type : s.raidmeta.type = t
  destroyed : s.raidmeta.isDestroyed = false
  one : AtMostOneInvalid c s.raidmeta
  unloaded : ∀ b < diskblockn, s.raidmeta.data.raid4.cluster_loaded (b / CLUSTER_SIZE) = false →
    ∀ i < c.DISKS, col s b i = 0
  parity : ∀ b < diskblockn, (∀ i < c.DISKS, (s.raidmeta.diskinfo i).valid = true) →
    xorSum (col s b) (List.range c.DISKS) = 0

theorem ParityInv.congr {t : RAID_TYPE} {s u : RaidState} (h : ParityInv c t s)
    (hm : u.raidmeta = s.raidmeta) (hX : DataEq u.disks s.disks) : ParityInv c t u := by
  have hcol : ∀ b < diskblockn, col u b = col s b := fun b hb => funext fun j => hX (j + 1) b hb
  refine ⟨hm ▸ h.quiet, hm ▸ h.wiring, hm ▸ h.type, hm ▸ h.destroyed, hm ▸ h.one, ?_, ?_⟩
  · intro b hb hc i hi
    rw [hcol b hb]
    exact h.unloaded b hb (hm ▸ hc) i hi
  · intro b hb hv
    rw [hcol b hb]
    exact h.parity b hb (hm ▸ hv)

section Steps

variable {t : RAID_TYPE} {s : RaidState}

theorem ParityInv.raidblockn_eq (h : ParityInv c t s) (ht : t = .RAID4 ∨ t = .RAID5) :
    raidblockn c s.raidmeta = diskblockn * (c.DISKS - 1) :=
  raidblockn_parity c (h.type ▸ ht)

/-- `setraidtype` of a parity level after the first boot returns `0`, sets up
the invariant, and every block reads as zero. -/
theorem parityInv_setraidtype {s₀ : RaidState} {code : Int} {r : UInt64}
    (hf : Fresh c s₀) (hcode : RAID_TYPE.ofInt code = some t) (ht : t = .RAID4 ∨ t = .RAID5)
    (h : setraidtype c code s₀ = .ok (r, s)) :
    r = 0 ∧ ParityInv c t s ∧ ∀ i < c.DISKS, ∀ b < diskblockn, eff c s i b = 0 := by
  have hinv : invalidcount c s₀ ≤ 1 := by
    rw [hf.invalidcount_eq c]
    decide
  rw [setraidtype_parity c hcode ht (fun i _ => hf.quiet.disklock i) hinv] at h
  obtain ⟨rfl, rfl⟩ := Prod.mk.inj (Except.ok.inj h)
  set s₁ := initclusters (settype t s₀)
  have hcol : ∀ b < diskblockn, ∀ i < c.DISKS, col { s₁ with disks := metaDisks c s₁ } b i = 0 :=
    fun b hb i hi => by
      change metaDisks c s₁ (i + 1) b = 0
      rw [metaDisks_of_ne c (Nat.ne_of_lt hb)]
      exact hf.zero (i + 1) (by omega) (by omega) b hb
  have hq := hf.quiet
  refine ⟨rfl, ⟨⟨hq.disklock, hq.mutex, hq.writing, hq.reading, rfl, rfl, rfl, rfl⟩,
    hf.wiring.of_diskinfo c rfl, rfl, rfl, ?_, fun b hb _ => hcol b hb, ?_⟩, ?_⟩
  · intro i hi j _ hvi _
    simp [s₁, hf.valid i hi] at hvi
  · intro b hb _
    exact xorSum_eq_zero fun i hi => hcol b hb i (List.mem_range.mp hi)
  · intro i hi b hb
    simp only [eff, show (s₁.raidmeta.diskinfo i).valid = true from hf.valid i hi, if_true]
    exact hcol b hb i hi

/-- A read in range of either level returns `0` and what the disks give for
the block, by its layout. -/
theorem readtable_eq_view (ht : t = .RAID4 ∨ t = .RAID5) {x : Int} (data : Block)
    (hw : Wiring c s.raidmeta) (hl : ∀ i < c.DISKS, (s.raidmeta.diskinfo i).lock = ⟨false⟩)
    (htype : s.raidmeta.type = t) (hone : AtMostOneInvalid c s.raidmeta) (h0 : 0 ≤ x)
    (hx : x < raidblockn c s.raidmeta) :
    readtable c t x data s = .ok (0, view c t s x.toNat, s) := by
  rcases ht with rfl | rfl
  · exact raid4read_spec c data hw hl htype hone h0 hx
  · exact raid5read_spec c data hw hl htype hone h0 hx

/-- A read of a parity level returns `0` and the block's view in range and
`-1` outside; the state never changes. -/
theorem parity_read (h : ParityInv c t s) (ht : t = .RAID4 ∨ t = .RAID5) (x : Int)
    (data : Block) :
    readtable c t x data s = if 0 ≤ x ∧ x < raidblockn c s.raidmeta
      then .ok (0, view c t s x.toNat, s) else .ok (-1, data, s) := by
  split_ifs with hx
  · exact readtable_eq_view c ht data h.wiring (fun i _ => h.quiet.disklock i) h.type h.one hx.1 hx.2
  · have hout : outofrange c x s := by simp only [outofrange]; omega
    rcases ht with rfl | rfl
    · simp [readtable, raid4read, h.type, hout]
    · simp [readtable, raid5read, h.type, hout]

theorem parity_write_out (h : ParityInv c t s) (ht : t = .RAID4 ∨ t = .RAID5) {x : Int}
    (v : Block) (hx : ¬ (0 ≤ x ∧ x < raidblockn c s.raidmeta)) :
    writetable c t x v s = .ok (-1, s) := by
  have hout : outofrange c x s := by simp only [outofrange]; omega
  rcases ht with rfl | rfl
  · simp [writetable, raid4write, h.type, hout]
  · simp [writetable, raid5write, h.type, hout]

theorem parity_write_eq (h : ParityInv c t s) (ht : t = .RAID4 ∨ t = .RAID5) {x : Int}
    (v : Block) (h0 : 0 ≤ x) (hx : x < raidblockn c s.raidmeta) :
    ∃ s', writetable c t x v s = .ok (0, s') ∧
      s'.raidmeta = (setclusterloaded (stripeOf c x.toNat / CLUSTER_SIZE) s).raidmeta ∧
      DataEq s'.disks (stripeWrite c s (place c t x.toNat).disk (place c t x.toNat).parity
        (stripeOf c x.toNat) v).disks := by
  rcases ht with rfl | rfl
  · exact raid4write_spec c v h.quiet h.wiring h.type h.one h.unloaded h0 hx
  · exact raid5write_spec c v h.quiet h.wiring h.type h.one h.unloaded h0 hx

/-- A write in range returns `0`, keeps the invariant, and changes the view at
its own block only. -/
theorem parity_write (h : ParityInv c t s) (ht : t = .RAID4 ∨ t = .RAID5) {x : Int}
    (v : Block) (h0 : 0 ≤ x) (hx : x < raidblockn c s.raidmeta) :
    ∃ s', writetable c t x v s = .ok (0, s') ∧ ParityInv c t s' ∧
      ∀ y < raidblockn c s.raidmeta, view c t s' y = if y = x.toNat then v else view c t s y := by
  obtain ⟨s', hrun, hm, hX⟩ := parity_write_eq c h ht v h0 hx
  obtain ⟨h2, hst⟩ := stripeOf_lt c (h.type ▸ ht) h0 hx
  set P := place c t x.toNat with hP
  set st := stripeOf c x.toNat with hst_def
  set w := stripeWrite c s P.disk P.parity st v with hw
  have hd : P.disk < c.DISKS := place_disk_lt c h2
  have hp : P.parity < c.DISKS := place_parity_lt c
  have hdp : P.disk ≠ P.parity := place_disk_ne_parity c h2
  have hdi : s'.raidmeta.diskinfo = s.raidmeta.diskinfo := by rw [hm]; rfl
  have hcol : ∀ b < diskblockn, col s' b = col w b := fun b hb => funext fun j => hX (j + 1) b hb
  refine ⟨s', hrun, ⟨hm ▸ h.quiet.setclusterloaded _, h.wiring.of_diskinfo c hdi,
    hm ▸ h.type, hm ▸ h.destroyed, h.one.of_diskinfo c hdi, ?_, ?_⟩, ?_⟩
  · intro b hb hc i hi
    have hc' : Function.update s.raidmeta.data.raid4.cluster_loaded (st / CLUSTER_SIZE) true
        (b / CLUSTER_SIZE) = false := by
      simpa [hm, setclusterloaded] using hc
    have hbk : b / CLUSTER_SIZE ≠ st / CLUSTER_SIZE := by
      intro hbk
      simp [hbk] at hc'
    have hbst : b ≠ st := fun hb' => hbk (hb' ▸ rfl)
    rw [hcol b hb, hw, col_stripeWrite_of_ne c s v hbst]
    exact h.unloaded b hb (by rwa [Function.update_of_ne hbk] at hc') i hi
  · intro b hb hv
    have hv' : ∀ i < c.DISKS, (s.raidmeta.diskinfo i).valid = true := fun i hi => hdi ▸ hv i hi
    rw [hcol b hb]
    by_cases hbst : b = st
    · subst hbst
      rw [hw, col_stripeWrite, if_neg (by simp [hv' _ hd]), if_neg (by simp [hv' _ hp]),
        xorSum_update_update List.nodup_range (List.mem_range.mpr hd) (List.mem_range.mpr hp) hdp]
      exact h.parity _ hb hv'
    · rw [hw, col_stripeWrite_of_ne c s v hbst]
      exact h.parity b hb hv'
  · intro y hy
    have hyst : stripeOf c y < diskblockn :=
      stripeOf_lt_of_lt c (by rwa [h.raidblockn_eq c ht] at hy)
    have hdw : s'.raidmeta.diskinfo = w.raidmeta.diskinfo := by rw [hw, stripeWrite_raidmeta, hdi]
    rw [view, eff_congr c hdw hX (by simpa using hyst)]
    by_cases hyx : y = x.toNat
    · subst hyx
      simp only [if_true, place_stripe]
      exact eff_stripeWrite_self c v hp hdp
    · rw [if_neg hyx, view, place_stripe]
      exact eff_stripeWrite_place c h2 h.one v hyx

/-- `raidfail` never faults; when the disk it marks leaves at most one disk
invalid, the invariant and every block's view are kept. -/
theorem parity_fail (h : ParityInv c t s) (n : Int) :
    ∃ r s', raidfail c n s = .ok (r, s') ∧ (AtMostOneInvalid c s'.raidmeta →
      ParityInv c t s' ∧ ∀ i < c.DISKS, ∀ b < diskblockn, eff c s' i b = eff c s i b) := by
  by_cases hn : 1 ≤ n ∧ n ≤ c.DISKS
  · set j := (n - 1).toNat with hj
    have hjD : j < c.DISKS := by omega
    set s₁ := s.setDiskinfo j { s.raidmeta.diskinfo j with valid := false } with hs₁
    refine ⟨0, { s₁ with disks := metaDisks c s₁ },
      raidfail_ok c h.destroyed (fun i _ => h.quiet.disklock i) hn.1 hn.2, fun hone => ?_⟩
    have hvj : (s₁.raidmeta.diskinfo j).valid = false := by simp [s₁]
    have hvi : ∀ i, i ≠ j → (s₁.raidmeta.diskinfo i).valid = (s.raidmeta.diskinfo i).valid :=
      fun i hij => by simp [s₁, Function.update_of_ne hij]
    have hinv₁ : ParityInv c t s₁ := by
      refine ⟨h.quiet.setDiskinfo (h.quiet.disklock j), ?_, h.type, h.destroyed, hone, ?_, ?_⟩
      · refine ⟨fun i hi => ?_, ?_⟩
        · by_cases hij : i = j
          · subst hij
            simpa [s₁] using h.wiring.diskn _ hi
          · simpa [s₁, Function.update_of_ne hij] using h.wiring.diskn i hi
        · rw [hvi _ (by omega)]
          exact h.wiring.spare
      · intro b hb hc i hi
        exact h.unloaded b hb hc i hi
      · intro b _ hv
        simp [hv j hjD] at hvj
    refine ⟨hinv₁.congr c rfl (dataEq_metaDisks c s₁), fun i hi b hb => ?_⟩
    rw [eff_congr c (s := s₁) (t := { s₁ with disks := metaDisks c s₁ }) rfl (dataEq_metaDisks c s₁) hb]
    by_cases hij : i = j
    · subst hij
      have hcol₁ : col s₁ b = col s b := rfl
      simp only [eff, hvj, Bool.false_eq_true, if_false, hcol₁]
      by_cases hv : (s.raidmeta.diskinfo j).valid
      · -- the disk was valid, so all were: it is the exclusive-or of the others
        have hall : ∀ k < c.DISKS, (s.raidmeta.diskinfo k).valid = true := by
          intro k hk
          by_cases hkj : k = j
          · exact hkj ▸ hv
          · by_contra hk'
            exact hkj (hone k hk j hjD (by rw [hvi k hkj]; simpa using hk') hvj)
        rw [if_pos hv, others]
        exact (eq_xorSum_filter_of_xorSum_eq_zero List.nodup_range (List.mem_range.mpr hjD)
          (h.parity b hb hall)).symm
      · rw [if_neg hv]
    · have hv : (s.raidmeta.diskinfo i).valid = true := by
        by_contra hv
        exact hij (hone i hi j hjD (by rw [hvi i hij]; simpa using hv) hvj)
      have hcol₁ : col s₁ b = col s b := rfl
      simp only [eff, hvi i hij, hv, if_true, hcol₁]
  · exact ⟨-1, s, raidfail_out c h.destroyed hn, fun _ => ⟨h, fun _ _ _ _ => rfl⟩⟩

/-- The parity repair of the invalid disk `j` keeps the invariant, and every
block reads as before: on a loaded stripe the disk gets what its
reconstruction gave, on the others it stays zero. -/
theorem parityRebuilt_spec (h : ParityInv c t s) {j : Nat} (hjD : j < c.DISKS)
    (hvj : (s.raidmeta.diskinfo j).valid = false) :
    ParityInv c t (parityRebuilt c j s) ∧
      ∀ i < c.DISKS, ∀ b < diskblockn, eff c (parityRebuilt c j s) i b = eff c s i b := by
  set R := parityRebuilt c j s with hR
  have hvR : ∀ i, (R.raidmeta.diskinfo i).valid =
      if i = j then true else (s.raidmeta.diskinfo i).valid := by
    intro i
    by_cases hij : i = j
    · subst hij
      simp [R, parityRebuilt]
    · simp [R, parityRebuilt, hij]
  have hval : ∀ i < c.DISKS, i ≠ j → (s.raidmeta.diskinfo i).valid = true := by
    intro i hi hij
    by_contra hv
    exact hij (h.one i hi j hjD (by simpa using hv) hvj)
  have hcl : R.raidmeta.data.raid4.cluster_loaded = s.raidmeta.data.raid4.cluster_loaded := rfl
  have hcol : ∀ b, col R b =
      if b ∈ List.range (diskblockn + 1) ∧ s.raidmeta.data.raid4.cluster_loaded (b / CLUSTER_SIZE)
        then Function.update (col s b) j (xorSum (col s b) (others c j)) else col s b :=
    col_rebuilt c s j _
  have hmem : ∀ b < diskblockn, b ∈ List.range (diskblockn + 1) :=
    fun b hb => List.mem_range.mpr (by omega)
  have hzero : ∀ b < diskblockn, s.raidmeta.data.raid4.cluster_loaded (b / CLUSTER_SIZE) = false →
      xorSum (col s b) (others c j) = 0 :=
    fun b hb hc => xorSum_eq_zero fun i hi => h.unloaded b hb hc i ((mem_others c).mp hi).1
  refine ⟨⟨?_, ?_, h.type, h.destroyed, ?_, ?_, ?_⟩, ?_⟩
  · exact Quiet.setDiskinfo (s := { s with disks := _ }) h.quiet (h.quiet.disklock j)
  · refine ⟨fun i hi => ?_, ?_⟩
    · by_cases hij : i = j
      · subst hij
        simpa [R, parityRebuilt] using h.wiring.diskn _ hi
      · simpa [R, parityRebuilt, Function.update_of_ne hij] using h.wiring.diskn i hi
    · rw [hvR, if_neg (by omega)]
      exact h.wiring.spare
  · intro i hi k hk hvi hvk
    rw [hvR] at hvi hvk
    split_ifs at hvi hvk with hij hkj
    exact h.one i hi k hk hvi hvk
  · intro b hb hc i hi
    rw [hcol, if_neg (by simp [hcl ▸ hc])]
    exact h.unloaded b hb hc i hi
  · intro b hb _
    rw [hcol]
    split_ifs with hc
    · rw [others]
      exact xorSum_update_filter List.nodup_range (List.mem_range.mpr hjD)
    · exact xorSum_eq_zero fun i hi =>
        h.unloaded b hb (by simpa [hmem b hb] using hc) i (List.mem_range.mp hi)
  · intro i hi b hb
    by_cases hij : i = j
    · subst hij
      simp only [eff, hvR, if_true, hvj, Bool.false_eq_true, if_false, hcol]
      by_cases hc : s.raidmeta.data.raid4.cluster_loaded (b / CLUSTER_SIZE)
      · simp [hmem b hb, hc]
      · rw [if_neg (by simp [hc]), hzero b hb (by simpa using hc)]
        exact h.unloaded b hb (by simpa using hc) i hi
    · simp only [eff, hvR, hij, if_false, hval i hi hij, if_true, hcol]
      split_ifs <;> simp [Function.update_of_ne hij]

/-- `raidrepair` never faults on a run of a parity level, and keeps the
invariant and every block's view. -/
theorem parity_repair (h : ParityInv c t s) (ht : t = .RAID4 ∨ t = .RAID5) (n : Int) :
    ∃ r s', raidrepair c n s = .ok (r, s') ∧ ParityInv c t s' ∧
      ∀ i < c.DISKS, ∀ b < diskblockn, eff c s' i b = eff c s i b := by
  by_cases hn : 1 ≤ n ∧ n ≤ c.DISKS
  · have hjD : (n - 1).toNat < c.DISKS := by omega
    have hrep := raidrepair_parity c h.quiet h.wiring (h.type ▸ ht) h.destroyed h.one hn.1 hn.2
    by_cases hv : (s.raidmeta.diskinfo (n - 1).toNat).valid
    · rw [if_pos hv] at hrep
      exact ⟨0, s, hrep, h, fun _ _ _ _ => rfl⟩
    · rw [if_neg hv] at hrep
      obtain ⟨hinv, heff⟩ := parityRebuilt_spec c h hjD (by simpa using hv)
      refine ⟨0, _, hrep, hinv.congr c rfl (dataEq_metaDisks c _), fun i hi b hb => ?_⟩
      rw [eff_congr c (s := parityRebuilt c (n - 1).toNat s)
        (t := { parityRebuilt c (n - 1).toNat s with
          disks := metaDisks c (parityRebuilt c (n - 1).toNat s) }) rfl (dataEq_metaDisks c _) hb]
      exact heff i hi b hb
  · exact ⟨-1, s, raidrepair_out c h.destroyed hn, h, fun _ _ _ _ => rfl⟩

end Steps

end Xv6Raid
