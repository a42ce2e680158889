import Xv6Raid.Spec.State

/-!
What `writeraidmeta` stores and where, and the calls built on it that change
only the structure: `setraidtype` and `raidfail`. `Wiring` is what `loadraid`
sets up at the first boot and no later call changes: disk entry `i` names disk
`i + 1`, and the spare entry `diskinfo[DISKS]` is invalid. `Fresh` is the state
that first boot leaves on zero-filled disks.
-/

namespace Xv6Raid

open RaidState

variable (c : Config)

/-- The structure as `writeraidmeta` copies it: with every disk lock taken. -/
def snapshot (s : RaidState) : RAIDMeta :=
  (s.setLocks (List.range c.DISKS) true).raidmeta

@[simp] theorem snapshot_valid (s : RaidState) (i : Nat) :
    ((snapshot c s).diskinfo i).valid = (s.raidmeta.diskinfo i).valid :=
  setLocks_valid _ _ _

@[simp] theorem snapshot_data (s : RaidState) : (snapshot c s).data = s.raidmeta.data := rfl

@[simp] theorem snapshot_isDestroyed (s : RaidState) :
    (snapshot c s).isDestroyed = s.raidmeta.isDestroyed := rfl

@[simp] theorem snapshot_type (s : RaidState) : (snapshot c s).type = s.raidmeta.type := rfl

@[simp] theorem snapshot_write (s : RaidState) : (snapshot c s).write = s.raidmeta.write := rfl

/-- The disks after `writeraidmeta`: disk `d` in `1..DISKS` gets the image in
its last block when the entry `diskinfo[d]` is valid. -/
def metaDisks (s : RaidState) : Nat → Nat → Block :=
  fun d b => if b = diskblockn ∧ 1 ≤ d ∧ d ≤ c.DISKS ∧ (s.raidmeta.diskinfo d).valid
    then c.image (snapshot c s) else s.disks d b

theorem writeimages_eq (m : RAIDMeta) (l : List Nat) (hl : ∀ i ∈ l, 1 ≤ i ∧ i ≤ c.DISKS)
    (s : RaidState) :
    writeimages c m l s = .ok { s with disks := fun d b =>
      if b = diskblockn ∧ d ∈ l ∧ (s.raidmeta.diskinfo d).valid then c.image m else s.disks d b } := by
  induction l generalizing s with
  | nil => simp [writeimages]
  | cons i l ih =>
    have hi := hl i List.mem_cons_self
    have hl' : ∀ j ∈ l, 1 ≤ j ∧ j ≤ c.DISKS := fun j hj => hl j (List.mem_cons_of_mem i hj)
    by_cases hv : (s.raidmeta.diskinfo i).valid
    · rw [writeimages, if_pos hv, write_block_ok c _ ⟨hi.1, hi.2, Nat.le_refl _⟩]
      simp only [ih hl']
      congr 2
      funext d b
      by_cases hdi : d = i
      · subst hdi
        by_cases hb : b = diskblockn <;> simp [hb, hv]
      · simp [hdi]
    · rw [writeimages, if_neg hv, ih hl' s]
      congr 2
      funext d b
      by_cases hdi : d = i
      · subst hdi
        simp [hv]
      · simp [hdi]

@[simp] theorem setLocks_disks_update (l : List Nat) (x : Bool) (s : RaidState)
    (X : Nat → Nat → Block) : ({ s with disks := X } : RaidState).setLocks l x =
      { s.setLocks l x with disks := X } := rfl

/-- `writeraidmeta` with the disk locks free changes only the last blocks of
the disks. -/
theorem writeraidmeta_free {s : RaidState}
    (h : ∀ i < c.DISKS, (s.raidmeta.diskinfo i).lock = ⟨false⟩) :
    writeraidmeta c s = .ok { s with disks := metaDisks c s } := by
  have hfree : ∀ i ∈ List.range c.DISKS, (s.raidmeta.diskinfo i).lock = ⟨false⟩ :=
    fun i hi => h i (List.mem_range.mp hi)
  have hrange : ∀ i ∈ List.range' 1 c.DISKS, 1 ≤ i ∧ i ≤ c.DISKS := by
    intro i hi
    rw [List.mem_range'_1] at hi
    omega
  simp only [writeraidmeta, acquireDiskLocks_free (List.nodup_range) hfree, Except.ok_bind,
    writeimages_eq c _ _ hrange, releaseDiskLocks_eq, Except.pure_eq_ok, setLocks_disks_update,
    setLocks_setLocks, setLocks_of_forall hfree]
  congr 2
  funext d b
  have hd : d < 1 + c.DISKS ↔ d ≤ c.DISKS := by omega
  simp only [metaDisks, snapshot, setLocks_valid, setLocks_disks, List.mem_range'_1, and_assoc, hd]

theorem metaDisks_of_ne {s : RaidState} {d b : Nat} (hb : b ≠ diskblockn) :
    metaDisks c s d b = s.disks d b := by
  simp [metaDisks, hb]

/-- Two disk contents that agree on every data block; only the last block of
each disk, which holds the structure, may differ. -/
def DataEq (X Y : Nat → Nat → Block) : Prop :=
  ∀ d b, b < diskblockn → X d b = Y d b

theorem DataEq.refl (X : Nat → Nat → Block) : DataEq X X := fun _ _ _ => rfl

theorem DataEq.symm {X Y : Nat → Nat → Block} (h : DataEq X Y) : DataEq Y X :=
  fun d b hb => (h d b hb).symm

theorem DataEq.trans {X Y Z : Nat → Nat → Block} (h : DataEq X Y) (h' : DataEq Y Z) :
    DataEq X Z :=
  fun d b hb => (h d b hb).trans (h' d b hb)

theorem dataEq_metaDisks (s : RaidState) : DataEq (metaDisks c s) s.disks :=
  fun _ _ hb => metaDisks_of_ne c (Nat.ne_of_lt hb)

/-- The assignments `setraidtype(t)` makes before its type switch. -/
def settype (t : RAID_TYPE) (s : RaidState) : RaidState :=
  { s with
    raidmeta := { s.raidmeta with
      type := t, read := some t, write := some t, isDestroyed := false } }

@[simp] theorem settype_diskinfo (t : RAID_TYPE) (s : RaidState) :
    (settype t s).raidmeta.diskinfo = s.raidmeta.diskinfo := rfl

@[simp] theorem initpairs_diskinfo (n : Nat) (first second : Nat → Nat) (s : RaidState) :
    (initpairs n first second s).raidmeta.diskinfo = s.raidmeta.diskinfo := rfl

/-- `setraidtype(RAID0_1)` pairs disk `i` with disk `i + DISKS / 2` and stores
the structure. -/
theorem setraidtype_RAID0_1 {s : RaidState}
    (h : ∀ i < c.DISKS, (s.raidmeta.diskinfo i).lock = ⟨false⟩) :
    setraidtype c 2 s = .ok (0,
      let s' := initpairs (c.DISKS / 2) (fun i => i) (fun i => i + c.DISKS / 2)
        (settype .RAID0_1 s)
      { s' with disks := metaDisks c s' }) := by
  have h' : ∀ i < c.DISKS, ((initpairs (c.DISKS / 2) (fun i => i) (fun i => i + c.DISKS / 2)
      (settype .RAID0_1 s)).raidmeta.diskinfo i).lock = ⟨false⟩ := by
    simpa using h
  change (writeraidmeta c (initpairs (c.DISKS / 2) (fun i => i) (fun i => i + c.DISKS / 2)
    (settype .RAID0_1 s)) >>= fun s => pure (0, s)) = _
  rw [writeraidmeta_free c h']
  rfl

/-- `raidfail(diskn)` for a disk in `1..DISKS` marks it invalid and stores the
structure. -/
theorem raidfail_ok {s : RaidState} {diskn : Int} (hd : s.raidmeta.isDestroyed = false)
    (h : ∀ i < c.DISKS, (s.raidmeta.diskinfo i).lock = ⟨false⟩) (h1 : 1 ≤ diskn)
    (h2 : diskn ≤ c.DISKS) :
    raidfail c diskn s = .ok (0,
      let s' := s.setDiskinfo (diskn - 1).toNat
        { s.raidmeta.diskinfo (diskn - 1).toNat with valid := false }
      { s' with disks := metaDisks c s' }) := by
  have hr : ¬ (diskn - 1 < 0 ∨ (c.DISKS : Int) ≤ diskn - 1) := by omega
  have h' : ∀ i < c.DISKS, ((s.setDiskinfo (diskn - 1).toNat
      { s.raidmeta.diskinfo (diskn - 1).toNat with valid := false }).raidmeta.diskinfo i).lock =
      ⟨false⟩ := by
    intro i hi
    by_cases hin : i = (diskn - 1).toNat
    · subst hin
      simpa using h _ hi
    · rw [setDiskinfo_raidmeta_diskinfo, Function.update_of_ne hin]
      exact h i hi
  simp only [raidfail, hd, hr, if_false, Bool.false_eq_true, writeraidmeta_free c h',
    Except.ok_bind, Except.pure_eq_ok]

theorem raidfail_out {s : RaidState} {diskn : Int} (hd : s.raidmeta.isDestroyed = false)
    (h : ¬ (1 ≤ diskn ∧ diskn ≤ c.DISKS)) : raidfail c diskn s = .ok (-1, s) := by
  have hr : diskn - 1 < 0 ∨ (c.DISKS : Int) ≤ diskn - 1 := by omega
  simp only [raidfail, hd, hr, Bool.false_eq_true, if_false, if_true]

theorem raidrepair_out {s : RaidState} {diskn : Int} (hd : s.raidmeta.isDestroyed = false)
    (h : ¬ (1 ≤ diskn ∧ diskn ≤ c.DISKS)) : raidrepair c diskn s = .ok (-1, s) := by
  have hr : diskn - 1 < 0 ∨ (c.DISKS : Int) ≤ diskn - 1 := by omega
  simp only [raidrepair, hd, hr, Bool.false_eq_true, if_false, if_true]

theorem raidrepair_valid {s : RaidState} {diskn : Int} (hd : s.raidmeta.isDestroyed = false)
    (h : 1 ≤ diskn ∧ diskn ≤ c.DISKS) (hv : (s.raidmeta.diskinfo (diskn - 1).toNat).valid = true) :
    raidrepair c diskn s = .ok (0, s) := by
  have hr : ¬ (diskn - 1 < 0 ∨ (c.DISKS : Int) ≤ diskn - 1) := by omega
  simp only [raidrepair, hd, hr, hv, Bool.false_eq_true, if_false, if_true]

/-- Disk entry `i` names disk `i + 1` for the real disks, and the spare entry
`diskinfo[DISKS]`, which the last pair of an odd RAID1 points to, is invalid. -/
structure Wiring (m : RAIDMeta) : Prop where
  diskn : ∀ i < c.DISKS, (m.diskinfo i).diskn.toNat = i + 1
  spare : (m.diskinfo c.DISKS).valid = false

theorem Wiring.of_diskinfo {m m' : RAIDMeta} (hw : Wiring c m) (h : m'.diskinfo = m.diskinfo) :
    Wiring c m' :=
  ⟨fun i hi => h ▸ hw.diskn i hi, h ▸ hw.spare⟩

/-- The state after the first boot on zero-filled disks: every disk valid,
every lock free and every data block zero. -/
structure Fresh (s : RaidState) : Prop where
  quiet : Quiet s.raidmeta
  wiring : Wiring c s.raidmeta
  valid : ∀ i < c.DISKS, (s.raidmeta.diskinfo i).valid = true
  destroyed : s.raidmeta.isDestroyed = false
  zero : ∀ d, 1 ≤ d → d ≤ c.DISKS → ∀ b < diskblockn, s.disks d b = 0

/-- A state of the first boot on zero-filled disks for an array of `n` disks:
the disks numbered and valid, the handlers of the zero type `RAID0`, and every
other field as a zero block loads it. -/
def freshState (n : Nat) : RaidState where
  raidmeta := { RAIDMeta.zero with
    diskinfo := fun i =>
      if i < n then ⟨true, UInt8.ofNat (i + 1), ⟨false⟩⟩ else ⟨false, 0, ⟨false⟩⟩
    read := some .RAID0
    write := some .RAID0 }
  disks _ _ := 0

/-- An array of three disks whose stored structure plays no part. -/
def threeDisks : Config := ⟨3, by decide, by decide, fun _ => 0, fun _ => .zero⟩

theorem fresh_freshState : Fresh c (freshState c.DISKS) where
  quiet := ⟨fun i => by by_cases hi : i < c.DISKS <;> simp [freshState, hi], fun _ => rfl,
    fun _ => rfl, fun _ _ => rfl, rfl, rfl, rfl, rfl⟩
  wiring := by
    refine ⟨fun i hi => ?_, by simp [freshState]⟩
    have h8 := c.DISKS_le_eight
    simp only [freshState, hi, if_true]
    exact Nat.mod_eq_of_lt (by omega)
  valid i hi := by simp [freshState, hi]
  destroyed := rfl
  zero _ _ _ _ _ := rfl

end Xv6Raid
