import Xv6Raid.Refinement.ParityView
import Xv6Raid.Model.Image

/-!
What `loadraid` finds at boot. On zero-filled disks it sets up the state that
`Fresh` describes. Later, `writeraidmeta` stores the structure on disk `i`
when the entry `diskinfo[i]` is valid, and `loadraid` reads it back from disk 1
and releases the disk locks only. Under a layout that keeps the stored fields
(`Persists`), the structure a boot sets up is the one of the last
`writeraidmeta` that reached disk 1: after `raidfail(2)` that is the one before
the failure, and after the first write to a RAID4 cluster it is one that holds
`clusterlock` with `writecount = 1`.
-/

namespace Xv6Raid

open RaidState

variable (c : Config)

/-- The structure `loadraid` sets up from a stored one: the disk locks of the
real disks released, every other field as stored. -/
def reloaded (m : RAIDMeta) : RAIDMeta :=
  { m with diskinfo := fun i =>
      if i < c.DISKS then { m.diskinfo i with lock := ⟨false⟩ } else m.diskinfo i }

@[simp] theorem reloaded_data (m : RAIDMeta) : (reloaded c m).data = m.data := rfl

@[simp] theorem reloaded_type (m : RAIDMeta) : (reloaded c m).type = m.type := rfl

@[simp] theorem reloaded_isDestroyed (m : RAIDMeta) : (reloaded c m).isDestroyed = m.isDestroyed := rfl

@[simp] theorem reloaded_write (m : RAIDMeta) : (reloaded c m).write = m.write := rfl

@[simp] theorem reloaded_valid (m : RAIDMeta) (i : Nat) :
    ((reloaded c m).diskinfo i).valid = (m.diskinfo i).valid := by
  by_cases hi : i < c.DISKS <;> simp [reloaded, hi]

/-- A boot that finds on disk 1 the block stored for a structure with a valid
disk that is not destroyed sets up what the layout gives back, with the disk
locks released. -/
theorem loadraid_stored (hc : Persists c) {s : RaidState} {m : RAIDMeta}
    (himg : s.disks 1 diskblockn = c.image m) {i : Nat} (hi : i ≤ c.DISKS)
    (hv : (m.diskinfo i).valid = true) (hd : m.isDestroyed = false) :
    loadraid c s = .ok { s with raidmeta := reloaded c (c.load (c.image m)) } := by
  have hprev : ((List.finRange BSIZE).any fun i => (c.image m).byte i != 0) = true := by
    obtain ⟨j, hj⟩ := hc.nonzero m i hi hv
    exact List.any_eq_true.mpr ⟨j, List.mem_finRange j, bne_iff_ne.mpr hj⟩
  simp only [loadraid, read_block_ok c ⟨Nat.le_refl 1, c.one_le_DISKS, Nat.le_refl _⟩, himg,
    hc.isDestroyed, hd, Bool.false_eq_true, if_false, Except.ok_bind, hprev, if_true,
    Except.pure_eq_ok]
  simp [reloaded, hc.isDestroyed, hd]

/-- The first boot on zero-filled disks, under a layout in which a zero block
loads as the structure of zero fields: `loadraid` finds no structure, numbers
the disks, sets the handlers of the zero type and stores the structure. It
sets up the structure of `freshState`, and a fresh state. -/
theorem loadraid_first_boot (hz : c.load 0 = RAIDMeta.zero) {s : RaidState}
    (hs : ∀ d b, s.disks d b = 0) :
    ∃ s', loadraid c s = .ok s' ∧ s'.raidmeta = (freshState c.DISKS).raidmeta ∧ Fresh c s' := by
  have hprev : ((List.finRange BSIZE).any fun i => (0 : Block).byte i != 0) = false :=
    List.any_eq_false.mpr fun i _ => by simp
  have hboot : loadraid c s = writeraidmeta c { s with raidmeta := (freshState c.DISKS).raidmeta } := by
    rw [loadraid, read_block_ok c ⟨Nat.le_refl 1, c.one_le_DISKS, Nat.le_refl _⟩, hs, Except.ok_bind, hz]
    simp only [hprev, RAIDMeta.zero, Bool.false_eq_true, if_false]
    refine congrArg (fun m : RAIDMeta => writeraidmeta c { raidmeta := m, disks := s.disks }) ?_
    simp only [freshState, RAIDMeta.zero, RAIDMeta.mk.injEq, and_true, true_and]
    -- the entries below `DISKS`, the spare entry `DISKS` and those past it
    funext i
    by_cases hi : i < c.DISKS
    · simp [hi]
    · by_cases he : i = c.DISKS <;> simp [hi, he]
  have hfree : ∀ i < c.DISKS, ((freshState c.DISKS).raidmeta.diskinfo i).lock = ⟨false⟩ :=
    fun i _ => (fresh_freshState c).quiet.disklock i
  rw [hboot, writeraidmeta_free c (s := { s with raidmeta := _ }) hfree]
  have hf := fresh_freshState c
  refine ⟨_, rfl, rfl, hf.quiet, hf.wiring, hf.valid, hf.destroyed, fun d _ _ b hb => ?_⟩
  simp [metaDisks, Nat.ne_of_lt hb, hs]

/-- The entries `diskinfo[0..DISKS]` of a reloaded structure keep their `valid`
flag. -/
theorem reloaded_load_valid (hc : Persists c) (m : RAIDMeta) {i : Nat} (hi : i ≤ c.DISKS) :
    ((reloaded c (c.load (c.image m))).diskinfo i).valid = (m.diskinfo i).valid := by
  rw [reloaded_valid, hc.diskinfo m i hi]

theorem setBlock_disks_of_ne {s : RaidState} {d b b' : Nat} (v : Block) (e : Nat) (hb : b' ≠ b) :
    (s.setBlock d b v).disks e b' = s.disks e b' := by
  by_cases he : e = d
  · subst he
    simp [Function.update_of_ne hb]
  · simp [he]

theorem stripeWrite_last {s : RaidState} {d p st : Nat} (v : Block) (hst : st < diskblockn)
    (e : Nat) : (stripeWrite c s d p st v).disks e diskblockn = s.disks e diskblockn := by
  have hne : diskblockn ≠ st := Nat.ne_of_gt hst
  unfold stripeWrite
  split_ifs <;> simp only [setBlock_disks_of_ne _ _ hne]

theorem metaDisks_one {s : RaidState} (h2 : 2 ≤ c.DISKS) (hv : (s.raidmeta.diskinfo 1).valid = true) :
    metaDisks c s 1 diskblockn = c.image (snapshot c s) := by
  simp [metaDisks, hv, show 1 ≤ c.DISKS by omega]

theorem finish_eq {s : RaidState} (h : ∀ i < c.DISKS, (s.raidmeta.diskinfo i).lock = ⟨false⟩) :
    (do
      let s ← writeraidmeta c s
      pure (0, s) : Except Fault (UInt64 × RaidState)) = .ok (0, { s with disks := metaDisks c s }) := by
  rw [writeraidmeta_free c h]
  rfl

/-- `setraidtype` of any type after the first boot stores a structure with the
disk entries of the boot, of the new type and not destroyed. -/
theorem setraidtype_fresh {s : RaidState} {code : Int} {t : RAID_TYPE} (hf : Fresh c s)
    (hcode : RAID_TYPE.ofInt code = some t) :
    ∃ s' : RaidState, setraidtype c code s = .ok (0, { s' with disks := metaDisks c s' }) ∧
      s'.raidmeta.diskinfo = s.raidmeta.diskinfo ∧ s'.raidmeta.type = t ∧
      s'.raidmeta.write = some t ∧ s'.raidmeta.isDestroyed = false := by
  have hfree : ∀ u : RaidState, u.raidmeta.diskinfo = s.raidmeta.diskinfo →
      ∀ i < c.DISKS, (u.raidmeta.diskinfo i).lock = ⟨false⟩ :=
    fun u hu i _ => hu ▸ hf.quiet.disklock i
  have hnone : invalidcount c (settype t s) = 0 := hf.invalidcount_eq c
  rw [setraidtype, hcode]
  cases t with
  | RAID0 => exact ⟨_, finish_eq c (hfree _ rfl), rfl, rfl, rfl, rfl⟩
  | RAID1 => exact ⟨_, finish_eq c (hfree _ rfl), rfl, rfl, rfl, rfl⟩
  | RAID0_1 => exact ⟨_, finish_eq c (hfree _ rfl), rfl, rfl, rfl, rfl⟩
  | RAID4 =>
    refine ⟨initclusters (settype .RAID4 s), ?_, rfl, rfl, rfl, rfl⟩
    have hle : ¬ 1 < invalidcount c (settype .RAID4 s) := by
      rw [hnone]
      decide
    exact (if_neg hle).trans (finish_eq c (hfree _ rfl))
  | RAID5 =>
    refine ⟨initclusters (settype .RAID5 s), ?_, rfl, rfl, rfl, rfl⟩
    have hle : ¬ 1 < invalidcount c (settype .RAID5 s) := by
      rw [hnone]
      decide
    exact (if_neg hle).trans (finish_eq c (hfree _ rfl))

/-- After the first boot and `setraidtype` of any type on two disks or more,
`raidfail(2)` marks disk 2 invalid and returns `0`; the structure it stores
does not reach disk 1, whose write it guards with the entry `diskinfo[1]` of
disk 2. Disk 1 keeps the structure of `setraidtype`, and a boot brings disk 2
back as valid. -/
theorem raidfail_two_not_persisted (hc : Persists c) {s₀ : RaidState} (hf : Fresh c s₀)
    (h2 : 2 ≤ c.DISKS) {code : Int} {t : RAID_TYPE} (hcode : RAID_TYPE.ofInt code = some t) :
    ∃ s₁ s₂ s₃, setraidtype c code s₀ = .ok (0, s₁) ∧ raidfail c 2 s₁ = .ok (0, s₂) ∧
      (s₂.raidmeta.diskinfo 1).valid = false ∧ loadraid c s₂ = .ok s₃ ∧
      (s₃.raidmeta.diskinfo 1).valid = true := by
  obtain ⟨s₁, hset, hdi, -, -, hdes⟩ := setraidtype_fresh c hf hcode
  have hv₁ : (s₁.raidmeta.diskinfo 1).valid = true := by
    rw [hdi]
    exact hf.valid 1 (by omega)
  have hfail := raidfail_ok c (s := { s₁ with disks := metaDisks c s₁ }) hdes
    (fun i _ => by simpa [hdi] using hf.quiet.disklock i) (show (1 : Int) ≤ 2 by decide)
    (by omega)
  set u := ({ s₁ with disks := metaDisks c s₁ } : RaidState).setDiskinfo ((2 : Int) - 1).toNat
    { ({ s₁ with disks := metaDisks c s₁ } : RaidState).raidmeta.diskinfo ((2 : Int) - 1).toNat with
      valid := false }
  have hu₁ : (u.raidmeta.diskinfo 1).valid = false := by simp [u]
  -- the failure's structure skips disk 1, which keeps the one of `setraidtype`
  have hlast : metaDisks c u 1 diskblockn = c.image (snapshot c s₁) := by
    rw [show metaDisks c u 1 diskblockn = u.disks 1 diskblockn by simp [metaDisks, hu₁]]
    exact metaDisks_one c h2 hv₁
  have hsnap : ((snapshot c s₁).diskinfo 1).valid = true := by rw [snapshot_valid, hv₁]
  refine ⟨_, _, _, hset, hfail, hu₁,
    loadraid_stored c hc hlast (by omega) hsnap (by rw [snapshot_isDestroyed, hdes]), ?_⟩
  rw [reloaded_load_valid c hc _ (by omega), hsnap]

theorem raidfail_two_not_persisted_three_disks :
    ∃ s₁ s₂ s₃, setraidtype threeStored 0 (freshState 3) = .ok (0, s₁) ∧
      raidfail threeStored 2 s₁ = .ok (0, s₂) ∧ (s₂.raidmeta.diskinfo 1).valid = false ∧
      loadraid threeStored s₂ = .ok s₃ ∧ (s₃.raidmeta.diskinfo 1).valid = true :=
  raidfail_two_not_persisted threeStored (persists_storedConfig 3 _ _) (fresh_freshState threeStored)
    (by decide) rfl

section Raid4

variable {s : RaidState} {x : Int}

theorem writeraid_table {t : RAID_TYPE} (hd : s.raidmeta.isDestroyed = false)
    (hw : s.raidmeta.write = some t) (x : Int) (v : Block) :
    writeraid c x v s = writetable c t x v s := by
  simp [writeraid, hd, hw]

/-- A RAID4 write in range that finds `clusterlock` held, with no repair under
way, registers as a writer and sleeps on the lock for ever. -/
theorem raid4write_blocked (v : Block) (ht : s.raidmeta.type = .RAID4)
    (hone : AtMostOneInvalid c s.raidmeta) (h0 : 0 ≤ x) (hx : x < raidblockn c s.raidmeta)
    (hrl : s.raidmeta.data.raid4.repairlock = ⟨false⟩) (hrp : s.raidmeta.data.raid4.repairing = 0)
    (hcl : s.raidmeta.data.raid4.clusterlock = ⟨true⟩) :
    raid4write c x v s = .error .blocked := by
  rw [raid4write_body c v ht hone h0 hx, writerenter_quiet hrl hrp, Except.ok_bind]
  simp [acquireClusterLock, hcl]

/-- The first write to a RAID4 cluster whose data blocks are zero stores the
structure from inside its critical section: disk 1 gets the structure of a
state that holds `clusterlock` and counts one writer. -/
theorem raid4write_stores_held_clusterlock (v : Block) (hq : Quiet s.raidmeta)
    (hw : Wiring c s.raidmeta) (ht : s.raidmeta.type = .RAID4)
    (hone : AtMostOneInvalid c s.raidmeta) (hv₁ : (s.raidmeta.diskinfo 1).valid = true)
    (h0 : 0 ≤ x) (hx : x < raidblockn c s.raidmeta)
    (hc : s.raidmeta.data.raid4.cluster_loaded (stripeOf c x.toNat / CLUSTER_SIZE) = false) :
    ∃ s' : RaidState, raid4write c x v s = .ok (0, s') ∧
      s'.disks 1 diskblockn = c.image (snapshot c (setclusterloaded (stripeOf c x.toNat / CLUSTER_SIZE)
        (s.setRaid4 { s.raidmeta.data.raid4 with writecount := 1, clusterlock := ⟨true⟩ }))) := by
  obtain ⟨h2, hst⟩ := stripeOf_lt c (.inl ht) h0 hx
  obtain ⟨s', hrun, -, hdisks⟩ := raid4write_unloaded c v hq hw ht hone h0 hx hc
  refine ⟨s', hrun, ?_⟩
  rw [hdisks, stripeWrite_last c v hst]
  exact metaDisks_one c h2 hv₁

/-- After the first boot, `setraidtype(RAID4)` and then any write in range,
the structure on disk 1 holds `clusterlock` and counts one writer: the write
found its cluster unloaded and `loadclusterraid4` stored the structure from
inside the critical section. A boot keeps both, and every write in range then
sleeps on `clusterlock` for ever. -/
theorem raid4_reload_keeps_clusterlock (hc : Persists c) {s₀ : RaidState} (hf : Fresh c s₀) :
    ∃ s₁, setraidtype c 3 s₀ = .ok (0, s₁) ∧
      ∀ (x : Int) (v : Block), 0 ≤ x → x < raidblockn c s₁.raidmeta →
        ∃ s₂ s₃, writeraid c x v s₁ = .ok (0, s₂) ∧ loadraid c s₂ = .ok s₃ ∧
          s₃.raidmeta.data.raid4.clusterlock = ⟨true⟩ ∧ s₃.raidmeta.data.raid4.writecount = 1 ∧
          ∀ (y : Int) (w : Block), 0 ≤ y → y < raidblockn c s₃.raidmeta →
            writeraid c y w s₃ = .error .blocked := by
  have hcode : RAID_TYPE.ofInt 3 = some .RAID4 := rfl
  have hset := setraidtype_parity c hcode (.inl rfl) (fun i _ => hf.quiet.disklock i)
    (by rw [hf.invalidcount_eq c]; decide)
  obtain ⟨-, hinv, -⟩ := parityInv_setraidtype c hf hcode (.inl rfl) hset
  refine ⟨_, hset, fun x v h0 hx => ?_⟩
  obtain ⟨h2, hst⟩ := stripeOf_lt c (.inl hinv.type) h0 hx
  have hcl : ∀ k < NCLUSTERS, (initclusters (settype .RAID4 s₀)).raidmeta.data.raid4.cluster_loaded k =
      false := fun k hk => by simp [initclusters, hk]
  obtain ⟨s₂, hw₂, hlast⟩ := raid4write_stores_held_clusterlock c v hinv.quiet hinv.wiring hinv.type
    hinv.one (hf.valid 1 (by omega)) h0 hx (hcl _ (cluster_lt hst))
  -- the stored structure, and what a boot gives back of it
  generalize hm : snapshot c _ = m at hlast
  have hvalid : ∀ i < c.DISKS, ((reloaded c (c.load (c.image m))).diskinfo i).valid =
      ((initclusters (settype .RAID4 s₀)).raidmeta.diskinfo i).valid := fun i hi => by
    rw [reloaded_load_valid c hc m (Nat.le_of_lt hi), ← hm, snapshot_valid]
    rfl
  have hraid4 : m.data.raid4 = { (initclusters (settype .RAID4 s₀)).raidmeta.data.raid4 with
      cluster_loaded := Function.update (initclusters (settype .RAID4 s₀)).raidmeta.data.raid4.cluster_loaded
        (stripeOf c x.toNat / CLUSTER_SIZE) true,
      writecount := 1, clusterlock := ⟨true⟩ } := by
    rw [← hm, snapshot_data]
    rfl
  have hload := loadraid_stored c hc hlast (i := 0) (Nat.zero_le _)
    (by rw [← hm, snapshot_valid]; exact hf.valid 0 c.one_le_DISKS)
    (by rw [← hm, snapshot_isDestroyed]; exact hinv.destroyed)
  refine ⟨s₂, _, by rw [writeraid_table c hinv.destroyed rfl]; exact hw₂, hload, ?_, ?_, ?_⟩
  · rw [reloaded_data, hc.clusterlock, hraid4]
  · rw [reloaded_data, hc.writecount _ (by simp [hraid4]) (by simp [hraid4]), hraid4]
  intro y w hy0 hy
  rw [writeraid_table c (t := .RAID4) ?destroyed ?write]
  case destroyed => rw [reloaded_isDestroyed, hc.isDestroyed, ← hm, snapshot_isDestroyed]; exact hinv.destroyed
  case write => rw [reloaded_write, hc.write, ← hm, snapshot_write]; rfl
  have hone : AtMostOneInvalid c (reloaded c (c.load (c.image m))) := fun i hi j hj => by
    rw [hvalid i hi, hvalid j hj]
    exact hinv.one i hi j hj
  have hrp : m.data.raid4.repairing = 0 := by rw [hraid4]; exact hinv.quiet.repairing
  refine raid4write_blocked c w ?type hone hy0 hy ?repairlock ?repairing ?clusterlock
  case type => rw [reloaded_type, hc.type, ← hm, snapshot_type]; rfl
  case repairlock => rw [reloaded_data, hc.repairlock, hraid4]; exact hinv.quiet.repairlock
  case repairing => rw [reloaded_data, hc.repairing _ (by rw [hrp]; decide) (by rw [hrp]; decide), hrp]
  case clusterlock => rw [reloaded_data, hc.clusterlock, hraid4]

theorem raid4_reload_keeps_clusterlock_three_disks :
    ∃ s₁, setraidtype threeStored 3 (freshState 3) = .ok (0, s₁) ∧
      ∀ (x : Int) (v : Block), 0 ≤ x → x < raidblockn threeStored s₁.raidmeta →
        ∃ s₂ s₃, writeraid threeStored x v s₁ = .ok (0, s₂) ∧ loadraid threeStored s₂ = .ok s₃ ∧
          s₃.raidmeta.data.raid4.clusterlock = ⟨true⟩ ∧ s₃.raidmeta.data.raid4.writecount = 1 ∧
          ∀ (y : Int) (w : Block), 0 ≤ y → y < raidblockn threeStored s₃.raidmeta →
            writeraid threeStored y w s₃ = .error .blocked :=
  raid4_reload_keeps_clusterlock threeStored (persists_storedConfig 3 _ _)
    (fresh_freshState threeStored)

end Raid4

end Xv6Raid
