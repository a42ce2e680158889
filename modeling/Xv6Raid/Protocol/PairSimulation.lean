import Xv6Raid.Protocol.MirrorAgree
import Xv6Raid.Protocol.PairProtocol

/-!
The lock level refines the protocol of each pair (`PairProtocol`). The flags of
pair `q` and the `valid` flags of its two disks are read off the data, and each
thread is placed in the protocol by its call and its program point: a read or
a write of a block on the pair, or a repair of one of its disks. Any other
thread stays at the start of a read and never moves, and a failure of one of
the pair's disks is the protocol's `fail`. Each step of the lock level is
matched by at most two steps of the protocol: the entry of a repair tests its
disk and the partner at once, where the protocol takes a step for each. So
every state of a run of mirror calls is one the protocol reaches, and the
protocol's invariant holds of it.
-/

namespace Xv6Raid.LockLevel

open LockProgram Threads

section Places

/-- A reader's place: at its loop, asleep, holding slot `i`, or done. -/
def readerPC : PC → PairProtocol.PC
  | .readraid _ | .acq _ (.rdLoop _) | .rdLoop _ => .rdloop
  | .slp _ _ _ => .rdsleep
  | p =>
    match p.tag with
    | .pSlot _ i => .rdclaimed i
    | _ => .rddone

def writerPC : PC → PairProtocol.PC
  | .writeraid _ | .acq _ (.wrLoop _) | .wrLoop _ => .wrloop
  | .slp _ _ _ => .wrsleep
  | p =>
    match p.tag with
    | .pWriter _ => .wrinside
    | _ => .wrdone

/-- The place of a repair of disk `k` of the pair: the copy lasts up to
`valid = 1`, and the point after it holds `writing` until it is cleared. -/
def repairerPC (k : Fin 2) : PC → PairProtocol.PC
  | .raidrepair _ => .rpstart k
  | .acq _ (.rpLoop _ _ _) | .rpLoop _ _ _ => .rploop k
  | .slp _ _ _ => .rpsleep k
  | .acq _ (.wrClear _ _) | .wrClear _ _ => .rpvalid k
  | p =>
    match p.tag with
    | .pWriter _ => .rpcopy k
    | _ => .rpdone

variable (c : Config) (T : RAID_TYPE) (P : Nat → Fin 2 → Nat)

/-- The disk of pair `q` that `raidrepair(n)` repairs, the disk index `n - 1`. -/
def repairSlot (q : Nat) (n : Int) : Option (Fin 2) :=
  if 0 < n ∧ n ≤ c.DISKS then
    if P q 0 = (n - 1).toNat then some 0
    else if P q 1 = (n - 1).toNat then some 1
    else none
  else none

/-- The place of a thread making `call` in the protocol of pair `q`. -/
def pairPC (q : Nat) : PC → PC → PairProtocol.PC
  | .readraid x => if InRange c T x ∧ vpair c T x.toNat = q then readerPC else fun _ => .rdloop
  | .writeraid x => if InRange c T x ∧ vpair c T x.toNat = q then writerPC else fun _ => .rdloop
  | .raidrepair n =>
    match repairSlot c P q n with
    | some k => repairerPC k
    | none => fun _ => .rdloop
  | _ => fun _ => .rdloop

variable {τ : Type*}

/-- The flags of pair `q` and the `valid` flags of its disks in the data `d`,
with the threads at `pc`. -/
def pairState (q : Nat) (d : RaidState) (pc : τ → PairProtocol.PC) : PairProtocol.State τ where
  valid k := (d.raidmeta.diskinfo ((d.raidmeta.data.diskpair q).disk k)).valid
  writing := (d.raidmeta.data.diskpair q).writing
  reading := (d.raidmeta.data.diskpair q).reading
  pc := pc

/-- The protocol state of pair `q` in a state of the lock level. -/
def pairView (q : Nat) (ds : DataSys τ) : PairProtocol.State τ :=
  pairState q ds.sys.data fun t => pairPC c T P q (ds.call t) (ds.sys.pc t)

variable [DecidableEq τ]

/-- The step of thread `t` at `p` on the data `d`, placed by `f`, with the
other threads at `pc`, is a run of the protocol of pair `q`. -/
def Matched (q : Nat) (f : PC → PairProtocol.PC) (p : PC) (d : RaidState)
    (pc : τ → PairProtocol.PC) (t : τ) : Prop :=
  ∃ l : List (PairProtocol.Event τ),
    pairState q (next (code c) p d).1 (Function.update pc t (f (next (code c) p d).2)) =
      l.foldl PairProtocol.next (pairState q d pc)

end Places

section View

variable {τ : Type*} {q q' : Nat} {d : RaidState} {pc : τ → PairProtocol.PC}

@[simp] theorem pairState_valid (k : Fin 2) :
    (pairState q d pc).valid k = (d.raidmeta.diskinfo ((d.raidmeta.data.diskpair q).disk k)).valid :=
  rfl
@[simp] theorem pairState_writing : (pairState q d pc).writing = (d.raidmeta.data.diskpair q).writing :=
  rfl
@[simp] theorem pairState_reading : (pairState q d pc).reading = (d.raidmeta.data.diskpair q).reading :=
  rfl
@[simp] theorem pairState_pc : (pairState q d pc).pc = pc := rfl

theorem freeslot_pairState :
    PairProtocol.freeslot (pairState q d pc) = readslot (d.raidmeta.data.diskpair q) d.raidmeta := rfl

theorem pairState_setReading_self (i : Fin 2) (b : Bool) :
    pairState q (setReading q i b d) pc =
      { pairState q d pc with reading := Function.update (pairState q d pc).reading i b } := by
  simp [pairState]

theorem pairState_setReading_of_ne (h : q' ≠ q) (i : Fin 2) (b : Bool) :
    pairState q (setReading q' i b d) pc = pairState q d pc := by
  simp [pairState, Ne.symm h]

theorem pairState_setWriting_self (b : Bool) :
    pairState q (setWriting q b d) pc = { pairState q d pc with writing := b } := by
  simp [pairState]

theorem pairState_setWriting_of_ne (h : q' ≠ q) (b : Bool) :
    pairState q (setWriting q' b d) pc = pairState q d pc := by
  simp [pairState, Ne.symm h]

theorem pairState_setValid (e : Nat) (b : Bool) :
    pairState q (setValid e b d) pc = { pairState q d pc with
      valid := fun k => if (d.raidmeta.data.diskpair q).disk k = e then b else (pairState q d pc).valid k } := by
  simp only [pairState, setValid, RaidState.setDiskinfo, Function.update_apply]
  congr
  funext k
  split_ifs <;> rfl

theorem ite_disk_eq_update {P : Nat → Fin 2 → Nat} {v : Fin 2 → Bool} {k : Fin 2} {e : Nat}
    (hk : P q k = e) (hinj : ∀ j, P q j = e → j = k) (b : Bool) :
    (fun j => if P q j = e then b else v j) = Function.update v k b := by
  funext j
  by_cases hj : j = k
  · subst hj
    simp [hk]
  · rw [if_neg fun h => hj (hinj j h), Function.update_of_ne hj]

end View

section Slots

variable {c T P} {d : RaidState} {q : Nat} {n : Int} {k : Fin 2}

theorem repairSlot_spec (h : repairSlot c P q n = some k) :
    0 < n ∧ n ≤ c.DISKS ∧ P q k = (n - 1).toNat := by
  unfold repairSlot at h
  split_ifs at h with hn h0 h1 <;> cases h
  · exact ⟨hn.1, hn.2, h0⟩
  · exact ⟨hn.1, hn.2, h1⟩

theorem repairSlot_ne_none {j : Fin 2} {m : Nat} (hj : P q j = m) (hm : m < c.DISKS)
    (hn : n = m + 1) : repairSlot c P q n ≠ none := by
  have hm' : (n - 1).toNat = m := by omega
  unfold repairSlot
  rw [if_pos (by omega), hm']
  rcases Fin.exists_fin_two.mp ⟨j, rfl⟩ with rfl | rfl
  · simp [hj]
  · split_ifs <;> simp_all

/-- The repair in slot `k` of pair `q` is at the points of that pair, for the
disk `P q k` and the partner `P q (other k)`. -/
theorem RepairPair.eq_slot (hl : MirrorLevel c T) (hL : PairLayout c T P)
    (hord : PairsOrdered c T P) (hq : MirrorPair c T q) {q' m e : Nat}
    (hr : RepairPair c T P q' m e) (hn : n = m + 1) (hs : repairSlot c P q n = some k) :
    q' = q ∧ m = P q k ∧ e = P q (PairProtocol.other k) := by
  obtain ⟨-, -, hk⟩ := repairSlot_spec hs
  have hm : m = P q k := by omega
  obtain ⟨hq', -, -, hde⟩ := hr
  -- the disk `m` lies in pair `q'` and in pair `q`, and pairs share no disk
  obtain rfl : q' = q := by
    by_contra hne
    have hlt := (mirrorPair_iff hl).mp hq
    have hlt' := (mirrorPair_iff hl).mp hq'
    rcases hde with ⟨h0, -⟩ | ⟨h1, -⟩
    · exact hL.disk_ne hl hlt hlt' hne 0 (h0.symm.trans hm)
    · exact hL.disk_ne hl hlt hlt' hne 1 (h1.symm.trans hm)
  rcases hde with ⟨h0, he⟩ | ⟨h1, he⟩
  · obtain rfl := hord.disk_inj hq (h0.symm.trans hm)
    exact ⟨rfl, h0, he⟩
  · obtain rfl := hord.disk_inj hq (h1.symm.trans hm)
    exact ⟨rfl, h1, he⟩

/-- `if (!pair->valid) return -1;` with the partner in slot `other k`. -/
theorem mirrorEntry_slot (hf : Frame c T P d) (k : Fin 2) {m : Nat} {j : Int}
    (hj : j = ((PairProtocol.other k : Fin 2) : Nat)) :
    mirrorEntry m q j d =
      if !(d.raidmeta.diskinfo (P q (PairProtocol.other k))).valid then .done
      else .acq (.lock (.mutex q)) (.rpLoop m q (P q (PairProtocol.other k))) := by
  have hj2 : 0 ≤ j ∧ j < 2 := by
    subst hj
    omega
  have hfin : (⟨j.toNat, toNat_lt_two hj2⟩ : Fin 2) = PairProtocol.other k :=
    Fin.ext (by subst hj; simp)
  unfold mirrorEntry
  rw [dif_pos hj2]
  simp only [hfin, hf.good.2 q]

/-- The entry of a repair of disk `k` of pair `q`: `return 0` when the disk is
valid, `return -1` when the partner is not, and the pair's mutex otherwise. -/
theorem repairEntry_slot (hf : Frame c T P d) (hl : MirrorLevel c T) (hL : PairLayout c T P)
    (hq : MirrorPair c T q) (hs : repairSlot c P q n = some k) :
    repairEntry c n d =
      if (d.raidmeta.diskinfo (P q k)).valid then .done
      else if !(d.raidmeta.diskinfo (P q (PairProtocol.other k))).valid then .done
      else .acq (.lock (.mutex q)) (.rpLoop (P q k) q (P q (PairProtocol.other k))) := by
  obtain ⟨h0, hD, hk⟩ := repairSlot_spec hs
  unfold repairEntry
  rw [if_neg (by simp [hf.destroyed]), if_neg (by omega)]
  dsimp only
  rw [← hk]
  by_cases hv : (d.raidmeta.diskinfo (P q k)).valid = true
  · simp only [hv, if_true]
  simp only [hv, Bool.false_eq_true, if_false, hf.good.1]
  obtain ⟨h₀, h₁⟩ := hL q hq
  rcases hl with rfl | ⟨rfl, -⟩
  · -- RAID1: pair `P q k / 2`, partner in slot `1 - P q k % 2`
    simp only [pairFirst, pairSecond, if_true] at h₀ h₁
    rcases Fin.exists_fin_two.mp ⟨k, rfl⟩ with rfl | rfl
    · rw [show P q 0 / 2 = q by omega, mirrorEntry_slot hf 0 (by simp [PairProtocol.other]; omega)]
    · rw [show P q 1 / 2 = q by omega, mirrorEntry_slot hf 1 (by simp [PairProtocol.other]; omega)]
  · -- RAID0_1: pair `P q k % (DISKS / 2)`, partner in slot `1 - P q k / (DISKS / 2)`
    simp only [pairFirst, pairSecond, reduceCtorEq, if_false] at h₀ h₁
    dsimp only
    have hq2 : q < c.DISKS / 2 := by
      rcases hq with ⟨h, -⟩ | ⟨-, h⟩
      · cases h
      · exact h
    rw [if_neg (by omega)]
    rcases Fin.exists_fin_two.mp ⟨k, rfl⟩ with rfl | rfl
    · rw [h₀, Nat.mod_eq_of_lt hq2, Nat.div_eq_of_lt hq2, ← h₀,
        mirrorEntry_slot hf 0 (by simp [PairProtocol.other])]
    · rw [h₁, Nat.add_mod_right, Nat.mod_eq_of_lt hq2,
        Nat.add_div_right _ (by omega : 0 < c.DISKS / 2), Nat.div_eq_of_lt hq2, ← h₁,
        mirrorEntry_slot hf 1 (by simp [PairProtocol.other])]

end Slots

section Matched

variable {c} {τ : Type*} [DecidableEq τ] {q : Nat} {f : PC → PairProtocol.PC} {p : PC}
  {d : RaidState} {pc : τ → PairProtocol.PC} {t : τ}

theorem Matched.stutter
    (hd : ∀ pc' : τ → PairProtocol.PC, pairState q (next (code c) p d).1 pc' = pairState q d pc')
    (hp : f (next (code c) p d).2 = pc t) : Matched c q f p d pc t :=
  ⟨[], by rw [hd, hp, Function.update_eq_self]; rfl⟩

theorem Matched.of_eq (hd : (next (code c) p d).1 = d) (hp : f (next (code c) p d).2 = pc t) :
    Matched c q f p d pc t :=
  .stutter (fun _ => by rw [hd]) hp

theorem Matched.step
    (h : pairState q (next (code c) p d).1 (Function.update pc t (f (next (code c) p d).2)) =
      PairProtocol.stepThread (pairState q d pc) t) : Matched c q f p d pc t :=
  ⟨[.step t], h⟩

end Matched

section Readers

variable {c T P} {τ : Type*} [DecidableEq τ] {q : Nat} {p : PC} {d : RaidState}
  {pc : τ → PairProtocol.PC} {t : τ} {x : Int}

theorem ReaderAt.next_data (h : ReaderAt c T P x q p) (d : RaidState) :
    (next (code c) p d).1 = d ∨
      InRange c T x ∧ ∃ i b, (next (code c) p d).1 = setReading q i b d := by
  cases h
  case loop hx =>
    rcases rdLoopStep_fst q d with h | ⟨-, i, h⟩
    · exact .inl h
    · exact .inr ⟨hx, i, true, h⟩
  case clear i hx => exact .inr ⟨hx, i, false, rfl⟩
  all_goals exact .inl rfl

theorem reader_idle (h : ReaderAt c T P x (vpair c T x.toNat) p)
    (hx : ¬ (InRange c T x ∧ vpair c T x.toNat = q)) (ht : pc t = .rdloop) :
    Matched c q (fun _ => .rdloop) p d pc t := by
  rcases h.next_data d with hd | ⟨hin, i, b, hd⟩
  · exact .of_eq hd ht.symm
  · exact .stutter (fun _ => by rw [hd, pairState_setReading_of_ne fun h => hx ⟨hin, h⟩]) ht.symm

/-- Every step of a reader of the pair is a step of the protocol or none. -/
theorem reader_matched (hl : MirrorLevel c T) (hf : Frame c T P d) (hx : InRange c T x)
    (h : ReaderAt c T P x q p) (ht : pc t = readerPC p) : Matched c q readerPC p d pc t := by
  cases h
  case call =>
    refine .of_eq rfl ?_
    rw [ht]
    simp only [next, code, readEntry_mirror hl hf, if_pos hx]
    rfl
  case loop =>
    have ht' : pc t = .rdloop := ht
    refine .step ?_
    simp only [next, code, rdLoopStep, PairProtocol.stepThread, pairState_pc, ht', pairState_valid,
      pairState_writing, freeslot_pairState]
    split_ifs with hv hw
    · simp only [hv, if_true]
      rfl
    · simp only [hv, hw, if_true]
      rfl
    · simp only [hv, hw]
      rcases readslot (d.raidmeta.data.diskpair q) d.raidmeta with _ | i
      · rfl
      · dsimp only
        rw [pairState_setReading_self]
        rfl
  case sleep =>
    have ht' : pc t = .rdsleep := ht
    exact .step (by simp only [PairProtocol.stepThread, pairState_pc, ht']; rfl)
  case clear i _ =>
    have ht' : pc t = .rdclaimed i := ht
    refine .step ?_
    simp only [next, code, PairProtocol.stepThread, pairState_pc, ht', pairState_setReading_self]
    rfl
  all_goals exact .of_eq rfl (by rw [ht]; rfl)

end Readers

section Writers

variable {c T P} {τ : Type*} [DecidableEq τ] {q : Nat} {p : PC} {d : RaidState}
  {pc : τ → PairProtocol.PC} {t : τ} {x : Int}

/-- The protocol's loop of a writer makes the code's one test of `writing` and
the slots. -/
theorem stepThread_wrloop {s : PairProtocol.State τ} (h : s.pc t = .wrloop) :
    PairProtocol.stepThread s t =
      if !s.valid 0 && !s.valid 1 then s.goto t .wrdone
      else if s.writing || s.reading 0 || s.reading 1 then s.goto t .wrsleep
      else { s.goto t .wrinside with writing := true } := by
  simp only [PairProtocol.stepThread, h]
  cases s.writing <;> simp

theorem WriterAt.next_data (h : WriterAt c T P x q p) (d : RaidState) :
    (next (code c) p d).1 = d ∨ InRange c T x ∧ ∃ b, (next (code c) p d).1 = setWriting q b d := by
  cases h
  case loop hx =>
    simp only [next, code, wrLoopStep]
    split_ifs
    · exact .inl rfl
    · exact .inl rfl
    · exact .inr ⟨hx, true, rfl⟩
  case clear hx => exact .inr ⟨hx, false, rfl⟩
  all_goals exact .inl rfl

theorem writer_idle (h : WriterAt c T P x (vpair c T x.toNat) p)
    (hx : ¬ (InRange c T x ∧ vpair c T x.toNat = q)) (ht : pc t = .rdloop) :
    Matched c q (fun _ => .rdloop) p d pc t := by
  rcases h.next_data d with hd | ⟨hin, b, hd⟩
  · exact .of_eq hd ht.symm
  · exact .stutter (fun _ => by rw [hd, pairState_setWriting_of_ne fun h => hx ⟨hin, h⟩]) ht.symm

theorem writer_matched (hl : MirrorLevel c T) (hf : Frame c T P d) (hx : InRange c T x)
    (h : WriterAt c T P x q p) (ht : pc t = writerPC p) : Matched c q writerPC p d pc t := by
  cases h
  case call =>
    refine .of_eq rfl ?_
    rw [ht]
    simp only [next, code, writeEntry_mirror hl hf, if_pos hx]
    rfl
  case loop =>
    refine .step ?_
    rw [stepThread_wrloop (by rw [pairState_pc]; exact ht)]
    simp only [next, code, wrLoopStep, pairState_valid, pairState_writing, pairState_reading]
    split_ifs with hv hw
    · simp only [hv, if_true]
      rfl
    · simp only [hv, hw, if_true]
      rfl
    · simp only [hv, hw]
      rw [pairState_setWriting_self]
      rfl
  case sleep =>
    have ht' : pc t = .wrsleep := ht
    exact .step (by simp only [PairProtocol.stepThread, pairState_pc, ht']; rfl)
  case test =>
    -- the tests of the two disks stay inside the pair
    refine .of_eq rfl ?_
    rw [ht]
    simp only [next, code, wrTestStep]
    split_ifs <;> rfl
  case clear =>
    have ht' : pc t = .wrinside := ht
    refine .step ?_
    simp only [next, code, PairProtocol.stepThread, pairState_pc, ht', pairState_setWriting_self]
    rfl
  all_goals exact .of_eq rfl (by rw [ht]; rfl)

end Writers

section Repairs

variable {c T P} {τ : Type*} [DecidableEq τ] {q : Nat} {p : PC} {d : RaidState}
  {pc : τ → PairProtocol.PC} {t : τ} {n : Int}

theorem pairState_goto (a : PairProtocol.PC) :
    (pairState q d pc).goto t a = pairState q d (Function.update pc t a) := rfl

theorem MetaAt.repairerPC (h : MetaAt p) (k : Fin 2) : repairerPC k p = .rpdone := by
  cases h <;> rfl

theorem RepairerAt.next_data (h : RepairerAt c T P n p) (d : RaidState) :
    (next (code c) p d).1 = d ∨ ∃ q' m e, RepairPair c T P q' m e ∧ n = m + 1 ∧
      ((∃ b, (next (code c) p d).1 = setWriting q' b d) ∨ (next (code c) p d).1 = setValid m true d) := by
  cases h
  case loop q' m e hr hn =>
    simp only [next, code, rpLoopStep]
    split_ifs
    · exact .inl rfl
    · exact .inr ⟨q', m, e, hr, hn, .inl ⟨true, rfl⟩⟩
  case valid q' m e hr hn => exact .inr ⟨q', m, e, hr, hn, .inr rfl⟩
  case clear q' m e hr hn => exact .inr ⟨q', m, e, hr, hn, .inl ⟨false, rfl⟩⟩
  case store hm => exact .inl (metaAt_next hm).1
  all_goals exact .inl rfl

theorem repairer_idle (hf : Frame c T P d) (h : RepairerAt c T P n p) (hs : repairSlot c P q n = none)
    (ht : pc t = .rdloop) : Matched c q (fun _ => .rdloop) p d pc t := by
  rcases h.next_data d with hd | ⟨q', m, e, hr, hn, ⟨b, hd⟩ | hd⟩
  · exact .of_eq hd ht.symm
  · -- the repair holds the pair of its disk, which is not `q`
    have hne : q' ≠ q := by
      rintro rfl
      rcases hr.2.2.2 with ⟨h0, -⟩ | ⟨h1, -⟩
      · exact repairSlot_ne_none h0.symm hr.2.1 hn hs
      · exact repairSlot_ne_none h1.symm hr.2.1 hn hs
    exact .stutter (fun _ => by rw [hd, pairState_setWriting_of_ne hne]) ht.symm
  · -- and marks its own disk valid, which is no disk of `q`
    have hP : ∀ k, P q k ≠ m := fun k hk => repairSlot_ne_none hk hr.2.1 hn hs
    refine .stutter (fun _ => ?_) ht.symm
    rw [hd, pairState_setValid]
    simp only [hf.good.2 q, hP, if_false]

/-- Every step of a repair of disk `k` of the pair is a step of the protocol,
two steps, or none. -/
theorem repairer_matched (hl : MirrorLevel c T) (hL : PairLayout c T P) (hord : PairsOrdered c T P)
    (hf : Frame c T P d) (hq : MirrorPair c T q) {k : Fin 2} (hs : repairSlot c P q n = some k)
    (h : RepairerAt c T P n p) (ht : pc t = repairerPC k p) : Matched c q (repairerPC k) p d pc t := by
  cases h
  case call =>
    -- the entry tests the disk and then the partner, where the protocol takes a step for each
    have ht' : pc t = .rpstart k := ht
    have hstart : PairProtocol.stepThread (pairState q d pc) t =
        if (d.raidmeta.diskinfo (P q k)).valid then pairState q d (Function.update pc t .rpdone)
        else pairState q d (Function.update pc t (.rppartner k)) := by
      simp only [PairProtocol.stepThread, pairState_pc, ht', pairState_valid, hf.good.2 q]
      split_ifs <;> rfl
    by_cases hv : (d.raidmeta.diskinfo (P q k)).valid = true
    · refine .step ?_
      rw [hstart, if_pos hv]
      simp only [next, code, repairEntry_slot hf hl hL hq hs, hv, if_true]
      rfl
    refine ⟨[.step t, .step t], ?_⟩
    show _ = PairProtocol.stepThread (PairProtocol.stepThread (pairState q d pc) t) t
    rw [hstart, if_neg hv]
    simp only [next, code, repairEntry_slot hf hl hL hq hs, hv, Bool.false_eq_true, if_false,
      PairProtocol.stepThread, pairState_pc, Function.update_self, pairState_valid, hf.good.2 q,
      pairState_goto, Function.update_idem]
    split_ifs <;> rfl
  case loop q' m e hr hn =>
    obtain ⟨hq', rfl, rfl⟩ := hr.eq_slot hl hL hord hq hn hs
    subst q'
    have ht' : pc t = .rploop k := ht
    refine .step ?_
    simp only [next, code, rpLoopStep, PairProtocol.stepThread, pairState_pc, ht', pairState_writing,
      pairState_reading]
    split_ifs with hw
    · simp only [hw, if_true]
      rfl
    · simp only [hw]
      rw [pairState_setWriting_self]
      rfl
  case sleep =>
    have ht' : pc t = .rpsleep k := ht
    exact .step (by simp only [PairProtocol.stepThread, pairState_pc, ht']; rfl)
  case copy =>
    -- the copy loop stays inside the pair up to `valid = 1`
    refine .of_eq rfl ?_
    rw [ht]
    simp only [next, code, rpCopyNext]
    split_ifs <;> rfl
  case valid q' m e hr hn =>
    obtain ⟨hq', rfl, rfl⟩ := hr.eq_slot hl hL hord hq hn hs
    subst q'
    have ht' : pc t = .rpcopy k := ht
    refine .step ?_
    simp only [next, code, PairProtocol.stepThread, pairState_pc, ht', pairState_setValid, hf.good.2 q,
      ite_disk_eq_update rfl (fun j h => hord.disk_inj hq h)]
    rfl
  case clear q' m e hr hn =>
    obtain ⟨hq', rfl, rfl⟩ := hr.eq_slot hl hL hord hq hn hs
    subst q'
    have ht' : pc t = .rpvalid k := ht
    refine .step ?_
    simp only [next, code, PairProtocol.stepThread, pairState_pc, ht', pairState_setWriting_self]
    rfl
  case store hm =>
    refine .of_eq (metaAt_next hm).1 ?_
    rw [ht, hm.repairerPC]
    rcases (metaAt_next (c := c) (d := d) hm).2 with h' | h'
    · exact h'.repairerPC k
    · rw [h']
      rfl
  all_goals exact .of_eq rfl (by rw [ht]; rfl)

end Repairs

section Failures

variable {c T P} {τ : Type*} [DecidableEq τ] {q : Nat} {p : PC} {d : RaidState}
  {pc : τ → PairProtocol.PC} {t : τ} {n : Int}

theorem FailerAt.next_data (hf : Frame c T P d) (h : FailerAt n p) :
    (next (code c) p d).1 = d ∨
      0 < n ∧ n ≤ c.DISKS ∧ (next (code c) p d).1 = setValid (n - 1).toNat false d := by
  cases h
  case call =>
    simp only [next, code, failStep_eq hf]
    split_ifs
    · exact .inl rfl
    · exact .inr ⟨by omega, by omega, rfl⟩
  case done => exact .inl rfl
  case store hm => exact .inl (metaAt_next hm).1

/-- A failure of a disk of the pair is the protocol's `fail`, of any other disk
no step. -/
theorem failer_matched (hord : PairsOrdered c T P) (hq : MirrorPair c T q) (hf : Frame c T P d)
    (h : FailerAt n p) (ht : pc t = .rdloop) : Matched c q (fun _ => .rdloop) p d pc t := by
  rcases h.next_data hf with hd | ⟨-, -, hd⟩
  · exact .of_eq hd ht.symm
  by_cases hk : ∃ k, P q k = (n - 1).toNat
  · obtain ⟨k, hk⟩ := hk
    refine ⟨[.fail k], ?_⟩
    show pairState q _ (Function.update pc t .rdloop) = _
    rw [hd, ← ht, Function.update_eq_self, pairState_setValid, hf.good.2 q,
      ite_disk_eq_update hk fun j h => hord.disk_inj hq (h.trans hk.symm)]
    rfl
  · simp only [not_exists] at hk
    refine .stutter (fun _ => ?_) ht.symm
    rw [hd, pairState_setValid]
    simp only [hf.good.2 q, hk, if_false]

end Failures

section Threads

variable {c T P} {τ : Type*} [DecidableEq τ] {q : Nat} {p : PC} {d : RaidState}
  {pc : τ → PairProtocol.PC} {t : τ}

theorem threadAt_matched (hl : MirrorLevel c T) (hL : PairLayout c T P) (hord : PairsOrdered c T P)
    (hf : Frame c T P d) (hq : MirrorPair c T q) {call : PC} (h : ThreadAt c T P call p)
    (ht : pc t = pairPC c T P q call p) : Matched c q (pairPC c T P q call) p d pc t := by
  cases call
  all_goals simp only [ThreadAt] at h
  case readraid x =>
    by_cases hx : InRange c T x ∧ vpair c T x.toNat = q
    · have hpc : pairPC c T P q (.readraid x) = readerPC := if_pos hx
      rw [hpc] at ht ⊢
      obtain ⟨hx, rfl⟩ := hx
      exact reader_matched hl hf hx h ht
    · have hpc : pairPC c T P q (.readraid x) = fun _ => .rdloop := if_neg hx
      rw [hpc] at ht ⊢
      exact reader_idle h hx ht
  case writeraid x =>
    by_cases hx : InRange c T x ∧ vpair c T x.toNat = q
    · have hpc : pairPC c T P q (.writeraid x) = writerPC := if_pos hx
      rw [hpc] at ht ⊢
      obtain ⟨hx, rfl⟩ := hx
      exact writer_matched hl hf hx h ht
    · have hpc : pairPC c T P q (.writeraid x) = fun _ => .rdloop := if_neg hx
      rw [hpc] at ht ⊢
      exact writer_idle h hx ht
  case raidfail n => exact failer_matched hord hq hf h ht
  case raidrepair n =>
    cases hs : repairSlot c P q n with
    | none =>
      have hpc : pairPC c T P q (.raidrepair n) = fun _ => .rdloop := by simp [pairPC, hs]
      rw [hpc] at ht ⊢
      exact repairer_idle hf h hs ht
    | some k =>
      have hpc : pairPC c T P q (.raidrepair n) = repairerPC k := by simp [pairPC, hs]
      rw [hpc] at ht ⊢
      exact repairer_matched hl hL hord hf hq hs h ht

theorem pairPC_entry (call : PC) :
    pairPC c T P q call call = .rdloop ∨ pairPC c T P q call call = .wrloop ∨
      ∃ k, pairPC c T P q call call = .rpstart k := by
  unfold pairPC
  split
  · split_ifs <;> exact .inl rfl
  · split_ifs
    · exact .inr (.inl rfl)
    · exact .inl rfl
  · rcases repairSlot c P q _ with _ | k
    · exact .inl rfl
    · exact .inr (.inr ⟨k, rfl⟩)
  · exact .inl rfl

end Threads

section Runs

variable {c T P} {τ : Type*} [DecidableEq τ] {d : RaidState} {calls : τ → PC}
  {buf₀ : τ → Block} {ds : DataSys τ} {q : Nat}

theorem pairView_step (hl : MirrorLevel c T) (hL : PairLayout c T P) (hord : PairsOrdered c T P)
    (hq : MirrorPair c T q) (hI : DInv c T P buf₀ ds) (t : τ) :
    ∃ l : List (PairProtocol.Event τ),
      pairView c T P q (DataSys.step c ds t) = l.foldl PairProtocol.next (pairView c T P q ds) := by
  rcases step_moves (code c) ds.sys t with hst | hm
  · exact ⟨[], by rw [DataSys.step_eq_of_step t hst]; rfl⟩
  obtain ⟨hdata, hpc⟩ := hm.next_eq
  -- only thread `t` moves: its place follows its point
  have hview : pairView c T P q (DataSys.step c ds t) =
      pairState q (next (code c) (ds.sys.pc t) ds.sys.data).1
        (Function.update (pairView c T P q ds).pc t
          (pairPC c T P q (ds.call t) (next (code c) (ds.sys.pc t) ds.sys.data).2)) := by
    simp only [pairView, DataSys.step_sys, DataSys.step_call, hdata, hpc, pairState_pc]
    congr 1
    funext u
    exact Function.apply_update (fun u p => pairPC c T P q (ds.call u) p) ds.sys.pc t _ u
  rw [hview]
  exact threadAt_matched hl hL hord hI.frame hq (hI.threads t) rfl

omit [DecidableEq τ] in
theorem pairView_initial (hup : SetUp c T P d) (hq : MirrorPair c T q) (h : DStart d calls buf₀ ds) :
    PairProtocol.Initial (pairView c T P q ds) := by
  obtain ⟨⟨⟨hd, -⟩, -⟩, hpc, hcall, -, -⟩ := h
  obtain ⟨hw, hr⟩ := hup.pairs q hq
  refine ⟨by simp [pairView, hd, hw], fun i => by simp [pairView, hd, hr], fun t => ?_⟩
  simp only [pairView, pairState_pc, hpc, hcall]
  exact pairPC_entry (calls t)

/-- The lock level refines the protocol of each pair: along every run of mirror
calls on an array set up for it, the flags of a pair, the `valid` flags of its
disks and the places of the threads form a state the protocol reaches. -/
theorem pairView_reachable (hl : MirrorLevel c T) (hup : SetUp c T P d) (hL : PairLayout c T P)
    (hf : Frame c T P d) (hcalls : ∀ t, (calls t).mirrorCall) (hq : MirrorPair c T q)
    (hrun : Reachable (DStart d calls buf₀) (DataSys.step c) ds) :
    Reachable PairProtocol.Initial PairProtocol.next (pairView c T P q ds) :=
  Reachable.map (f := pairView c T P q) (fun _ hs => pairView_initial hup hq hs)
    (fun _ t hr => pairView_step hl hL hup.ordered hq (dInv_of_reachable hl hL hf hcalls hr) t) hrun

/-- Along every run of mirror calls, `writing` of a pair is set exactly when one
writer or repair holds the pair, `reading[i]` exactly when one reader holds
slot `i`, and never both. -/
theorem pairInv_of_reachable [Fintype τ] (hl : MirrorLevel c T) (hup : SetUp c T P d)
    (hL : PairLayout c T P) (hf : Frame c T P d) (hcalls : ∀ t, (calls t).mirrorCall)
    (hq : MirrorPair c T q) (hrun : Reachable (DStart d calls buf₀) (DataSys.step c) ds) :
    PairProtocol.Inv (pairView c T P q ds) :=
  (pairView_reachable hl hup hL hf hcalls hq hrun).invariant (fun _ => PairProtocol.inv_initial)
    fun _ e hs => PairProtocol.inv_next hs e

/-- The protocol of a pair is the one the code runs. On a mirrored array that
`setraidtype` has set up on the first boot, along every run of any number of
threads calling `readraid`, `writeraid`, `raidfail` and `raidrepair`, each pair
of the array is in a state its protocol reaches, and so `writing` is set
exactly when one writer or repair holds the pair, `reading[i]` exactly when one
reader holds slot `i`, and never both. -/
theorem mirror_pairs_refine_protocol [Fintype τ] {s₀ : RaidState} {type : Int} {r : UInt64}
    (hfresh : Fresh c s₀) (htype : RAID_TYPE.ofInt type = some T) (hl : MirrorLevel c T)
    (hset : setraidtype c type s₀ = .ok (r, d)) (hcalls : ∀ t, (calls t).mirrorCall)
    (hrun : Reachable (DStart d calls buf₀) (DataSys.step c) ds) (hq : q < npairs c T) :
    Reachable PairProtocol.Initial PairProtocol.next
        (pairView c T (fun q => (d.raidmeta.data.diskpair q).disk) q ds) ∧
      PairProtocol.Inv (pairView c T (fun q => (d.raidmeta.data.diskpair q).disk) q ds) := by
  obtain ⟨-, hinv, -⟩ := mirrorInv_setraidtype hfresh htype hl hset
  rw [setraidtype_mirror htype hl fun i _ => hfresh.quiet.disklock i] at hset
  obtain ⟨-, rfl⟩ := Prod.mk.inj (Except.ok.inj hset)
  obtain ⟨hup, hL⟩ := setUp_of_mirrorInv hinv hl
  have hf : Frame c T _ _ := ⟨hup.good, hinv.destroyed, rfl, rfl, hinv.wiring⟩
  have hq' : MirrorPair c T q := (mirrorPair_iff hl).mpr hq
  exact ⟨pairView_reachable hl hup hL hf hcalls hq' hrun,
    pairInv_of_reachable hl hup hL hf hcalls hq' hrun⟩

end Runs

end Xv6Raid.LockLevel
