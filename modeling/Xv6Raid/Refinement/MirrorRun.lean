import Xv6Raid.Refinement.MirrorView

/-!
RAID1 and RAID0_1 refine an ideal virtual disk on the pairs that keep a valid
disk. A run starts with `setraidtype` of the level after the first boot on
zero-filled disks and goes on with the level's reads and writes, `raidfail`
and `raidrepair` in any order, with no bound on the failures. Along the run
the ideal disk `V` records every write that returned `0`. A pair whose two
disks are invalid stays so: reads and writes there return `-1`, and so does a
repair of either disk.
-/

namespace Xv6Raid

open RaidState

variable (c : Config)

/-- The sequential runs of the mirrored level `t`, each with the ideal disk it
must refine. -/
inductive MirrorRun (t : RAID_TYPE) : RaidState → (Nat → Block) → Prop
  | init {s₀ s : RaidState} {code : Int} {r : UInt64} : Fresh c s₀ →
      RAID_TYPE.ofInt code = some t → setraidtype c code s₀ = .ok (r, s) →
      MirrorRun t s fun _ => 0
  | read {s s' : RaidState} {V : Nat → Block} {x : Int} {data v : Block} {r : UInt64} :
      MirrorRun t s V → readtable c t x data s = .ok (r, v, s') → MirrorRun t s' V
  | write {s s' : RaidState} {V : Nat → Block} {x : Int} {v : Block} {r : UInt64} :
      MirrorRun t s V → writetable c t x v s = .ok (r, s') →
      MirrorRun t s' (if r = 0 then Function.update V x.toNat v else V)
  | fail {s s' : RaidState} {V : Nat → Block} {n : Int} {r : UInt64} :
      MirrorRun t s V → raidfail c n s = .ok (r, s') → MirrorRun t s' V
  | repair {s s' : RaidState} {V : Nat → Block} {n : Int} {r : UInt64} :
      MirrorRun t s V → raidrepair c n s = .ok (r, s') → MirrorRun t s' V

variable {c} {t : RAID_TYPE}

/-- Every state of a run keeps the invariant, and on every pair that has a
valid disk its view is the ideal disk. -/
theorem MirrorRun.inv (hl : MirrorLevel c t) {s : RaidState} {V : Nat → Block}
    (h : MirrorRun c t s V) :
    MirrorInv c t s ∧ ∀ y < diskblockn * npairs c t, alive c t s (vpair c t y) = true →
      mirrorView c t s y = V y := by
  induction h with
  | init hf hcode hset =>
    obtain ⟨-, hinv, hzero⟩ := mirrorInv_setraidtype hf hcode hl hset
    exact ⟨hinv, fun y hy _ => (hzero y hy).2⟩
  | read _ hread ih =>
    rw [mirror_read_state ih.1 hl hread]
    exact ih
  | @write s s' V x v r _ hwrite ih =>
    by_cases hx : 0 ≤ x ∧ x < raidblockn c s.raidmeta
    · have hxn : x.toNat < diskblockn * npairs c t := by
        have := hx.2
        rw [raidblockn_mirror hl ih.1.type] at this
        omega
      rw [mirror_write_eq ih.1 hl v hx.1 hx.2] at hwrite
      by_cases hal : alive c t s (vpair c t x.toNat) = true
      · rw [if_pos hal] at hwrite
        obtain ⟨rfl, rfl⟩ := Prod.mk.inj (Except.ok.inj hwrite)
        refine ⟨mirrorInv_pairWrite ih.1 (vpair_lt hxn) v, fun y hy haly => ?_⟩
        -- a write changes no disk entry, so the pairs alive are the same
        have haly' : alive c t s (vpair c t y) = true := by simpa [alive] using haly
        rw [mirrorView_pairWrite ih.1 hxn hy hal v, if_pos rfl, Function.update_apply]
        split_ifs with hyx
        · rfl
        · exact ih.2 y hy haly'
      · rw [if_neg hal] at hwrite
        obtain ⟨rfl, rfl⟩ := Prod.mk.inj (Except.ok.inj hwrite)
        rw [if_neg (by decide)]
        exact ih
    · rw [mirror_write_out ih.1 hl v hx] at hwrite
      obtain ⟨rfl, rfl⟩ := Prod.mk.inj (Except.ok.inj hwrite)
      rw [if_neg (by decide)]
      exact ih
  | @fail s s' V n r _ hfail ih =>
    obtain ⟨r', s'', hf, hinv, hview⟩ := mirror_fail ih.1 n
    rw [hf] at hfail
    obtain ⟨-, rfl⟩ := Prod.mk.inj (Except.ok.inj hfail)
    refine ⟨hinv, fun y hy hal => ?_⟩
    obtain ⟨hal', hy'⟩ := hview y hy hal
    exact hy'.trans (ih.2 y hy hal')
  | @repair s s' V n r _ hrep ih =>
    obtain ⟨r', s'', hr, hinv, hview, -⟩ := mirror_repair ih.1 hl n
    rw [hr] at hrep
    obtain ⟨-, rfl⟩ := Prod.mk.inj (Except.ok.inj hrep)
    refine ⟨hinv, fun y hy hal => ?_⟩
    obtain ⟨hal', hy'⟩ := hview y hy hal
    exact hy'.trans (ih.2 y hy hal')

/-- What a run of a mirrored level guarantees in each of its states. -/
theorem MirrorRun.calls (hl : MirrorLevel c t) {s : RaidState} {V : Nat → Block}
    (h : MirrorRun c t s V) :
    (∀ (x : Int) (data : Block), 0 ≤ x → x < raidblockn c s.raidmeta →
      readtable c t x data s = if alive c t s (vpair c t x.toNat)
        then .ok (0, V x.toNat, s) else .ok (-1, data, s)) ∧
    (∀ (x : Int) (v : Block), 0 ≤ x → x < raidblockn c s.raidmeta →
      ∃ s', writetable c t x v s = .ok (if alive c t s (vpair c t x.toNat) then 0 else -1, s') ∧
        s'.raidmeta = s.raidmeta) ∧
    (∀ n : Int, ∃ r s', raidfail c n s = .ok (r, s')) ∧
    (∀ n : Int, 1 ≤ n → n ≤ c.DISKS → ∃ s', raidrepair c n s =
      .ok (if (s.raidmeta.diskinfo (n - 1).toNat).valid ||
        (s.raidmeta.diskinfo (partner c t (n - 1).toNat)).valid then 0 else -1, s') ∧
      ((s.raidmeta.diskinfo (n - 1).toNat).valid ||
        (s.raidmeta.diskinfo (partner c t (n - 1).toNat)).valid →
        (s'.raidmeta.diskinfo (n - 1).toNat).valid = true ∧
        ((s'.raidmeta.diskinfo (partner c t (n - 1).toNat)).valid = true →
          ∀ b < diskblockn, s'.disks n.toNat b = s'.disks (partner c t (n - 1).toNat + 1) b))) := by
  obtain ⟨hinv, hview⟩ := h.inv hl
  refine ⟨fun x data h0 hx => ?_, fun x v h0 hx => ?_, fun n => ?_, fun n h1 h2 => ?_⟩
  · have hxn : x.toNat < diskblockn * npairs c t := by
      rw [raidblockn_mirror hl hinv.type] at hx
      omega
    rw [mirror_read hinv hl data h0 hx]
    split_ifs with hal
    · rw [hview x.toNat hxn hal]
    · rfl
  · rw [mirror_write_eq hinv hl v h0 hx]
    split_ifs
    · exact ⟨_, rfl, pairWrite_raidmeta _ v⟩
    · exact ⟨s, rfl, rfl⟩
  · obtain ⟨r, s', hf, -⟩ := mirror_fail hinv n
    exact ⟨r, s', hf⟩
  · obtain ⟨r, s', hr, hinv', -, hres⟩ := mirror_repair hinv hl n
    obtain ⟨rfl, hvd⟩ := hres h1 h2
    refine ⟨s', hr, fun hor => ?_⟩
    have hvd' := hvd (if_pos hor)
    refine ⟨hvd', fun hvp => ?_⟩
    have hn : n.toNat = (n - 1).toNat + 1 := by omega
    rw [hn]
    exact hinv'.partner_mirror hl (by omega) hvd' hvp

/-- RAID1 on any array and RAID0_1 on an even one refine the ideal disk on the
pairs that keep a valid disk. In every state of a run, a read in range returns
`-1` when both disks of its pair are invalid, and otherwise `0` and the block
of the last write to it, or zero; a write in range returns `-1` or `0` alike and
changes no disk entry; a failure does not fault; and a repair of disk `n`
returns `0` exactly when `n` or its partner is valid, after which `n` is valid
and holds its partner's data blocks whenever the partner is valid. -/
theorem mirrors_refine_ideal_disk (hl : MirrorLevel c t) {s : RaidState} {V : Nat → Block}
    (h : MirrorRun c t s V) :
    (∀ (x : Int) (data : Block), 0 ≤ x → x < raidblockn c s.raidmeta →
      readtable c t x data s = if alive c t s (vpair c t x.toNat)
        then .ok (0, V x.toNat, s) else .ok (-1, data, s)) ∧
    (∀ (x : Int) (v : Block), 0 ≤ x → x < raidblockn c s.raidmeta →
      ∃ s', writetable c t x v s = .ok (if alive c t s (vpair c t x.toNat) then 0 else -1, s') ∧
        s'.raidmeta = s.raidmeta) ∧
    (∀ n : Int, ∃ r s', raidfail c n s = .ok (r, s')) ∧
    (∀ n : Int, 1 ≤ n → n ≤ c.DISKS → ∃ s', raidrepair c n s =
      .ok (if (s.raidmeta.diskinfo (n - 1).toNat).valid ||
        (s.raidmeta.diskinfo (partner c t (n - 1).toNat)).valid then 0 else -1, s') ∧
      ((s.raidmeta.diskinfo (n - 1).toNat).valid ||
        (s.raidmeta.diskinfo (partner c t (n - 1).toNat)).valid →
        (s'.raidmeta.diskinfo (n - 1).toNat).valid = true ∧
        ((s'.raidmeta.diskinfo (partner c t (n - 1).toNat)).valid = true →
          ∀ b < diskblockn, s'.disks n.toNat b = s'.disks (partner c t (n - 1).toNat + 1) b))) :=
  h.calls hl

theorem mirrors_refine_ideal_disk_write_read :
    ∃ s, MirrorRun threeDisks .RAID1 s (Function.update (fun _ => 0) 5 ⟨fun _ => 7⟩) ∧
      raid1read threeDisks 5 0 s = .ok (0, ⟨fun _ => 7⟩, s) := by
  have hl : MirrorLevel threeDisks .RAID1 := .inl rfl
  have hfresh := fresh_freshState threeDisks
  have hcode : RAID_TYPE.ofInt 1 = some .RAID1 := rfl
  have h₀ : MirrorRun threeDisks .RAID1 _ fun _ => 0 :=
    .init hfresh hcode (setraidtype_mirror hcode hl (fun i _ => hfresh.quiet.disklock i))
  obtain ⟨s₁, hw, hm⟩ := (mirrors_refine_ideal_disk hl h₀).2.1 5 ⟨fun _ => 7⟩ (by decide) (by decide)
  have hal : alive threeDisks .RAID1 s₁ (vpair threeDisks .RAID1 (5 : Int).toNat) = true := by
    simp only [alive, hm]
    rfl
  rw [show alive threeDisks .RAID1 _ (vpair threeDisks .RAID1 (5 : Int).toNat) = true from rfl,
    if_pos rfl] at hw
  have h₁ := MirrorRun.write h₀ hw
  rw [if_pos rfl] at h₁
  have hx₁ : (5 : Int) < raidblockn threeDisks s₁.raidmeta := by
    rw [hm]
    decide
  refine ⟨s₁, h₁, ?_⟩
  have hr := (mirrors_refine_ideal_disk hl h₁).1 5 0 (by decide) hx₁
  rw [if_pos hal, Function.update_self] at hr
  exact hr

/-- A repair does not bring a valid disk's partner up to date: on three disks
under RAID1, after disk 2 fails and a write reaches block 0 of disk 1 only,
`raidrepair(1)` returns `0` with disk 1 and its partner disk 2 different on
block 0. -/
theorem raid1_repair_keeps_stale_partner :
    ∃ s₁ s₂ s₃ s₄ : RaidState, setraidtype threeDisks 1 (freshState 3) = .ok (0, s₁) ∧
      raidfail threeDisks 2 s₁ = .ok (0, s₂) ∧
      raid1write threeDisks 0 ⟨fun _ => 7⟩ s₂ = .ok (0, s₃) ∧
      raidrepair threeDisks 1 s₃ = .ok (0, s₄) ∧ s₄.disks 1 0 ≠ s₄.disks 2 0 := by
  have hl : MirrorLevel threeDisks .RAID1 := .inl rfl
  have hfresh := fresh_freshState threeDisks
  have hcode : RAID_TYPE.ofInt 1 = some .RAID1 := rfl
  have hset := setraidtype_mirror hcode hl (fun i _ => hfresh.quiet.disklock i)
  obtain ⟨-, h₁, -⟩ := mirrorInv_setraidtype hfresh hcode hl hset
  have hfail := raidfail_ok threeDisks h₁.destroyed (fun i _ => h₁.quiet.disklock i)
    (show (1 : Int) ≤ 2 by decide) (by decide)
  obtain ⟨r, s₂, hf, h₂, -⟩ := mirror_fail h₁ 2
  rw [hfail] at hf
  obtain ⟨rfl, rfl⟩ := Prod.mk.inj (Except.ok.inj hf)
  have hw := mirror_write_eq h₂ hl ⟨fun _ => 7⟩ (x := 0) (Int.le_refl 0) (by decide)
  split_ifs at hw with hal
  swap
  · exact absurd (by decide) hal
  refine ⟨_, _, _, _, hset, hfail, hw, raidrepair_valid threeDisks h₂.destroyed (by decide) ?_, ?_⟩
  · rw [pairWrite_raidmeta]
    rfl
  · rw [pairWrite_disks, pairWrite_disks]
    split_ifs with h₁ h₂ h₂
    · exact absurd h₂ (by decide)
    · exact fun heq => absurd (congrArg (fun b : Block => b.byte ⟨0, by decide⟩) heq) (by decide)
    · exact absurd h₁ (by decide)
    · exact absurd h₁ (by decide)

end Xv6Raid
