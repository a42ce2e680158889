import Xv6Raid.Model.Basic

/-!
A layout for the block that `writeraidmeta` stores and `loadraid` reads back
with `memmove` of `sizeof(raidmeta)` bytes. The compiler's layout (padding, the
sleep locks' other fields, the addresses in the pointers) is not modelled; what
is modelled is that every field the RAID code reads has bytes of its own and
comes back as it was stored. The `enum` and every `uint8` and `locked` word take
one byte, an `int` four bytes in two's complement, a `DiskInfo *` the index of
its entry, and a handler `0` for the null pointer and `t + 1` for
`readtable[t]`. The union `data` keeps `diskpair` and `raid4` in bytes of their
own, as the model keeps them in fields of their own.

`Persists` says what a boot gets back from a stored structure under any layout
that keeps these fields, and `persists_storedConfig` that this layout is one.
-/

namespace Xv6Raid

/-- Byte `j` of a block; the bytes past `BSIZE` read as zero. -/
def Block.byteAt (b : Block) (j : Nat) : UInt8 :=
  if h : j < BSIZE then b.byte ⟨j, h⟩ else 0

section Fields

/-- A `uint8` flag or a lock's `locked` word. -/
def flagByte (b : Bool) : UInt8 := if b then 1 else 0

def flagOf (x : UInt8) : Bool := x != 0

@[simp] theorem flagOf_flagByte (b : Bool) : flagOf (flagByte b) = b := by
  cases b <;> rfl

/-- The value of an enumerator of `enum RAID_TYPE`. -/
def typeByte : RAID_TYPE → UInt8
  | .RAID0 => 0
  | .RAID1 => 1
  | .RAID0_1 => 2
  | .RAID4 => 3
  | .RAID5 => 4

def typeOf (x : UInt8) : RAID_TYPE := (RAID_TYPE.ofInt x.toNat).getD .RAID0

@[simp] theorem typeOf_typeByte (t : RAID_TYPE) : typeOf (typeByte t) = t := by
  cases t <;> rfl

/-- A handler pointer: `0` is the null pointer, `t + 1` the entry `t` of
`readtable` or `writetable`. -/
def handlerByte : Option RAID_TYPE → UInt8
  | none => 0
  | some t => typeByte t + 1

def handlerOf (x : UInt8) : Option RAID_TYPE :=
  if x = 0 then none else some (typeOf (x - 1))

@[simp] theorem handlerOf_handlerByte (h : Option RAID_TYPE) : handlerOf (handlerByte h) = h := by
  rcases h with _ | t
  · rfl
  · cases t <;> rfl

/-- Byte `k` of an `int` in two's complement, the least significant first. -/
def intByte (w : Int) (k : Nat) : UInt8 := UInt8.ofNat ((w % 2 ^ 32).toNat / 256 ^ k)

def intOf (b₀ b₁ b₂ b₃ : UInt8) : Int :=
  let n : Nat := b₀.toNat + 256 * b₁.toNat + 256 ^ 2 * b₂.toNat + 256 ^ 3 * b₃.toNat
  if n < 2 ^ 31 then (n : Int) else (n : Int) - 2 ^ 32

theorem intOf_intByte {w : Int} (h₁ : -2 ^ 31 ≤ w) (h₂ : w < 2 ^ 31) :
    intOf (intByte w 0) (intByte w 1) (intByte w 2) (intByte w 3) = w := by
  have hn : ((w % 2 ^ 32).toNat : Int) = w % 2 ^ 32 :=
    Int.toNat_of_nonneg (Int.emod_nonneg _ (by decide))
  simp only [intOf, intByte, UInt8.toNat_ofNat', pow_zero, Nat.div_one]
  generalize (w % 2 ^ 32).toNat = n at hn ⊢
  split_ifs <;> omega

end Fields

section Regions

/-- The three bytes of a `struct DiskInfo`. -/
def diskinfoByte (d : DiskInfo) : Nat → UInt8
  | 0 => flagByte d.valid
  | 1 => d.diskn
  | _ => flagByte d.lock.locked

def diskinfoOf (b : Block) (o : Nat) : DiskInfo :=
  ⟨flagOf (b.byteAt o), b.byteAt (o + 1), ⟨flagOf (b.byteAt (o + 2))⟩⟩

/-- The six bytes of a `struct DiskPair`. -/
def diskpairByte (p : DiskPair) : Nat → UInt8
  | 0 => flagByte p.mutex.locked
  | 1 => UInt8.ofNat (p.disk 0)
  | 2 => UInt8.ofNat (p.disk 1)
  | 3 => flagByte p.writing
  | 4 => flagByte (p.reading 0)
  | _ => flagByte (p.reading 1)

def diskpairOf (b : Block) (o : Nat) : DiskPair where
  mutex := ⟨flagOf (b.byteAt o)⟩
  disk j := (b.byteAt (o + 1 + j)).toNat
  writing := flagOf (b.byteAt (o + 3))
  reading j := flagOf (b.byteAt (o + 4 + j))

/-- The bytes of a `struct RAID4Data`: `cluster_loaded`, the two locks and the
two counters. -/
def raid4Byte (r : RAID4Data) (j : Nat) : UInt8 :=
  if j < NCLUSTERS then flagByte (r.cluster_loaded j)
  else if j = NCLUSTERS then flagByte r.clusterlock.locked
  else if j = NCLUSTERS + 1 then flagByte r.repairlock.locked
  else if j < NCLUSTERS + 6 then intByte r.writecount (j - (NCLUSTERS + 2))
  else intByte r.repairing (j - (NCLUSTERS + 6))

def raid4Of (b : Block) (o : Nat) : RAID4Data where
  cluster_loaded k := if k < NCLUSTERS then flagOf (b.byteAt (o + k)) else false
  clusterlock := ⟨flagOf (b.byteAt (o + NCLUSTERS))⟩
  repairlock := ⟨flagOf (b.byteAt (o + NCLUSTERS + 1))⟩
  writecount := intOf (b.byteAt (o + NCLUSTERS + 2)) (b.byteAt (o + NCLUSTERS + 3))
    (b.byteAt (o + NCLUSTERS + 4)) (b.byteAt (o + NCLUSTERS + 5))
  repairing := intOf (b.byteAt (o + NCLUSTERS + 6)) (b.byteAt (o + NCLUSTERS + 7))
    (b.byteAt (o + NCLUSTERS + 8)) (b.byteAt (o + NCLUSTERS + 9))

theorem diskinfoOf_eq {b : Block} {o : Nat} {d : DiskInfo}
    (hb : ∀ k < 3, b.byteAt (o + k) = diskinfoByte d k) : diskinfoOf b o = d := by
  have h₀ := hb 0 (by decide)
  rw [Nat.add_zero] at h₀
  simp only [diskinfoOf, h₀, hb 1 (by decide), hb 2 (by decide), diskinfoByte, flagOf_flagByte]

theorem diskpairOf_eq {b : Block} {o : Nat} {p : DiskPair}
    (hb : ∀ k < 6, b.byteAt (o + k) = diskpairByte p k) (hp : ∀ j, p.disk j < 256) :
    diskpairOf b o = p := by
  have h₀ := hb 0 (by decide)
  rw [Nat.add_zero] at h₀
  -- the pointers and the reading flags sit at `o + 1 + j` and `o + 4 + j`
  have hdisk : ∀ j : Fin 2, (b.byteAt (o + 1 + j)).toNat = p.disk j := by
    intro j
    fin_cases j
    · simp [hb 1 (by decide), diskpairByte, Nat.mod_eq_of_lt (hp 0)]
    · simp [Nat.add_assoc, hb 2 (by decide), diskpairByte, Nat.mod_eq_of_lt (hp 1)]
  have hread : ∀ j : Fin 2, flagOf (b.byteAt (o + 4 + j)) = p.reading j := by
    intro j
    fin_cases j
    · simp [hb 4 (by decide), diskpairByte]
    · simp [Nat.add_assoc, hb 5 (by decide), diskpairByte]
  simp only [diskpairOf, h₀, hb 3 (by decide), diskpairByte, flagOf_flagByte, hdisk, hread]

end Regions

section Layout

/-- The layout of the stored structure: `type` at byte 0, `diskinfo[i]` at
`1 + 3 i` for the nine entries, `isDestroyed` at 28, `diskpair[q]` at
`29 + 6 q` for the four pairs, the RAID4/RAID5 data at 53 and the handlers
`read` and `write` at 127 and 128; the rest of the block stays zero. -/
def metaByte (m : RAIDMeta) (j : Nat) : UInt8 :=
  if j = 0 then typeByte m.type
  else if j < 28 then diskinfoByte (m.diskinfo ((j - 1) / 3)) ((j - 1) % 3)
  else if j = 28 then flagByte m.isDestroyed
  else if j < 53 then diskpairByte (m.data.diskpair ((j - 29) / 6)) ((j - 29) % 6)
  else if j < 127 then raid4Byte m.data.raid4 (j - 53)
  else if j = 127 then handlerByte m.read
  else if j = 128 then handlerByte m.write
  else 0

/-- `memmove(data, &raidmeta, sizeof(raidmeta))` into a zeroed block. -/
def metaImage (m : RAIDMeta) : Block := ⟨fun j => metaByte m j⟩

/-- `memmove(&raidmeta, data, sizeof(raidmeta))`; the entries past the arrays
read as zero. -/
def metaLoad (b : Block) : RAIDMeta where
  type := typeOf (b.byteAt 0)
  diskinfo i := if i < 9 then diskinfoOf b (1 + 3 * i) else RAIDMeta.zero.diskinfo i
  isDestroyed := flagOf (b.byteAt 28)
  data :=
    ⟨fun q => if q < 4 then diskpairOf b (29 + 6 * q) else RAIDMeta.zero.data.diskpair q,
      raid4Of b 53⟩
  read := handlerOf (b.byteAt 127)
  write := handlerOf (b.byteAt 128)

@[simp] theorem zero_byteAt (j : Nat) : (0 : Block).byteAt j = 0 := by
  unfold Block.byteAt
  split_ifs <;> rfl

theorem metaLoad_zero : metaLoad 0 = RAIDMeta.zero := by
  simp [metaLoad, RAIDMeta.zero, diskinfoOf, diskpairOf, raid4Of, flagOf, typeOf, handlerOf, intOf,
    RAID_TYPE.ofInt]

variable (m : RAIDMeta)

@[simp] theorem metaImage_byteAt (j : Nat) : (metaImage m).byteAt j = metaByte m j := by
  unfold Block.byteAt
  split_ifs with hj
  · rfl
  · have h : 129 ≤ j := by unfold BSIZE at hj; omega
    unfold metaByte
    split_ifs <;> first | rfl | omega

theorem metaByte_diskinfo {i k : Nat} (hi : i < 9) (hk : k < 3) :
    metaByte m (1 + 3 * i + k) = diskinfoByte (m.diskinfo i) k := by
  have hdiv : (1 + 3 * i + k - 1) / 3 = i := by omega
  have hmod : (1 + 3 * i + k - 1) % 3 = k := by omega
  rw [metaByte, if_neg (by omega), if_pos (by omega), hdiv, hmod]

theorem metaByte_diskpair {q k : Nat} (hq : q < 4) (hk : k < 6) :
    metaByte m (29 + 6 * q + k) = diskpairByte (m.data.diskpair q) k := by
  have hdiv : (29 + 6 * q + k - 29) / 6 = q := by omega
  have hmod : (29 + 6 * q + k - 29) % 6 = k := by omega
  rw [metaByte, if_neg (by omega), if_neg (by omega), if_neg (by omega), if_pos (by omega),
    hdiv, hmod]

theorem metaByte_raid4 {j : Nat} (hj : j < 74) : metaByte m (53 + j) = raid4Byte m.data.raid4 j := by
  rw [metaByte, if_neg (by omega), if_neg (by omega), if_neg (by omega), if_neg (by omega),
    if_pos (by omega), Nat.add_sub_cancel_left]

theorem metaLoad_diskinfo {i : Nat} (hi : i < 9) : (metaLoad (metaImage m)).diskinfo i = m.diskinfo i := by
  simp only [metaLoad, hi, if_true]
  exact diskinfoOf_eq fun k hk => by rw [metaImage_byteAt, metaByte_diskinfo m hi hk]

theorem metaLoad_diskpair {q : Nat} (hq : q < 4) (hp : ∀ j, (m.data.diskpair q).disk j < 256) :
    (metaLoad (metaImage m)).data.diskpair q = m.data.diskpair q := by
  simp only [metaLoad, hq, if_true]
  exact diskpairOf_eq (fun k hk => by rw [metaImage_byteAt, metaByte_diskpair m hq hk]) hp

/-- The RAID4/RAID5 data reads back, the counters while they fit an `int`. -/
theorem metaLoad_raid4 :
    (∀ k < NCLUSTERS, (metaLoad (metaImage m)).data.raid4.cluster_loaded k =
      m.data.raid4.cluster_loaded k) ∧
    (metaLoad (metaImage m)).data.raid4.clusterlock = m.data.raid4.clusterlock ∧
    (metaLoad (metaImage m)).data.raid4.repairlock = m.data.raid4.repairlock ∧
    (-2 ^ 31 ≤ m.data.raid4.writecount → m.data.raid4.writecount < 2 ^ 31 →
      (metaLoad (metaImage m)).data.raid4.writecount = m.data.raid4.writecount) ∧
    (-2 ^ 31 ≤ m.data.raid4.repairing → m.data.raid4.repairing < 2 ^ 31 →
      (metaLoad (metaImage m)).data.raid4.repairing = m.data.raid4.repairing) := by
  have hr : ∀ j < 74, (metaImage m).byteAt (53 + j) = raid4Byte m.data.raid4 j := fun j hj => by
    rw [metaImage_byteAt, metaByte_raid4 m hj]
  have hN : NCLUSTERS = 64 := NCLUSTERS_eq
  simp only [metaLoad, raid4Of]
  refine ⟨fun k hk => ?_, ?_, ?_, fun h₁ h₂ => ?_, fun h₁ h₂ => ?_⟩
  · rw [if_pos hk, hr k (by omega), raid4Byte, if_pos hk, flagOf_flagByte]
  · rw [hr _ (by omega), raid4Byte, if_neg (by omega), if_pos rfl, flagOf_flagByte]
  · rw [Nat.add_assoc, hr _ (by omega), raid4Byte, if_neg (by omega), if_neg (by omega),
      if_pos rfl, flagOf_flagByte]
  · simp only [Nat.add_assoc, hr _ (by omega : NCLUSTERS + 2 < 74), hr _ (by omega : NCLUSTERS + 3 < 74),
      hr _ (by omega : NCLUSTERS + 4 < 74), hr _ (by omega : NCLUSTERS + 5 < 74), raid4Byte]
    simp only [hN, Nat.reduceAdd, Nat.reduceLT, Nat.reduceEqDiff, if_false, if_true, Nat.reduceSub]
    exact intOf_intByte h₁ h₂
  · simp only [Nat.add_assoc, hr _ (by omega : NCLUSTERS + 6 < 74), hr _ (by omega : NCLUSTERS + 7 < 74),
      hr _ (by omega : NCLUSTERS + 8 < 74), hr _ (by omega : NCLUSTERS + 9 < 74), raid4Byte]
    simp only [hN, Nat.reduceAdd, Nat.reduceLT, Nat.reduceEqDiff, if_false, Nat.reduceSub]
    exact intOf_intByte h₁ h₂

end Layout

/-- What a boot reads back from the block stored for `m`, under a layout that
keeps the fields the RAID code reads: the type, the entries
`diskinfo[0..DISKS]`, `isDestroyed`, the handlers, the pairs whose pointers
name an entry, the RAID4/RAID5 data with counters in the range of an `int`;
and a structure with a valid disk stores a block that is not all zero. -/
structure Persists (c : Config) : Prop where
  type : ∀ m, (c.load (c.image m)).type = m.type
  diskinfo : ∀ m, ∀ i ≤ c.DISKS, (c.load (c.image m)).diskinfo i = m.diskinfo i
  isDestroyed : ∀ m, (c.load (c.image m)).isDestroyed = m.isDestroyed
  read : ∀ m, (c.load (c.image m)).read = m.read
  write : ∀ m, (c.load (c.image m)).write = m.write
  diskpair : ∀ m, ∀ q < (c.DISKS + 1) / 2, (∀ j, (m.data.diskpair q).disk j ≤ c.DISKS) →
    (c.load (c.image m)).data.diskpair q = m.data.diskpair q
  cluster_loaded : ∀ m, ∀ k < NCLUSTERS,
    (c.load (c.image m)).data.raid4.cluster_loaded k = m.data.raid4.cluster_loaded k
  clusterlock : ∀ m, (c.load (c.image m)).data.raid4.clusterlock = m.data.raid4.clusterlock
  repairlock : ∀ m, (c.load (c.image m)).data.raid4.repairlock = m.data.raid4.repairlock
  writecount : ∀ m, -2 ^ 31 ≤ m.data.raid4.writecount → m.data.raid4.writecount < 2 ^ 31 →
    (c.load (c.image m)).data.raid4.writecount = m.data.raid4.writecount
  repairing : ∀ m, -2 ^ 31 ≤ m.data.raid4.repairing → m.data.raid4.repairing < 2 ^ 31 →
    (c.load (c.image m)).data.raid4.repairing = m.data.raid4.repairing
  nonzero : ∀ m, ∀ i ≤ c.DISKS, (m.diskinfo i).valid = true → ∃ j, (c.image m).byte j ≠ 0

/-- An array of `n` disks that stores its structure in the layout above. -/
def storedConfig (n : Nat) (h₁ : 1 ≤ n) (h₈ : n ≤ 8) : Config := ⟨n, h₁, h₈, metaImage, metaLoad⟩

/-- An array of three disks that stores its structure in the layout above. -/
def threeStored : Config := storedConfig 3 (by norm_num) (by norm_num)

theorem persists_storedConfig (n : Nat) (h₁ : 1 ≤ n) (h₈ : n ≤ 8) :
    Persists (storedConfig n h₁ h₈) where
  type m := by simp [storedConfig, metaLoad, metaByte]
  diskinfo m i hi := metaLoad_diskinfo m (by simp only [storedConfig] at hi; omega)
  isDestroyed m := by simp [storedConfig, metaLoad, metaByte]
  read m := by simp [storedConfig, metaLoad, metaByte]
  write m := by simp [storedConfig, metaLoad, metaByte]
  diskpair m q hq hp := metaLoad_diskpair m (by simp only [storedConfig] at hq; omega)
    fun j => by have := hp j; simp only [storedConfig] at this; omega
  cluster_loaded m := (metaLoad_raid4 m).1
  clusterlock m := (metaLoad_raid4 m).2.1
  repairlock m := (metaLoad_raid4 m).2.2.1
  writecount m := (metaLoad_raid4 m).2.2.2.1
  repairing m := (metaLoad_raid4 m).2.2.2.2
  nonzero m i hi hv := by
    simp only [storedConfig] at hi ⊢
    refine ⟨⟨1 + 3 * i, by unfold BSIZE; omega⟩, ?_⟩
    have h := metaByte_diskinfo m (show i < 9 by omega) (show 0 < 3 by decide)
    rw [Nat.add_zero] at h
    simp [metaImage, h, diskinfoByte, hv, flagByte]

end Xv6Raid
