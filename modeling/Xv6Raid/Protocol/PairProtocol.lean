import Xv6Raid.Lib.Threads
import Xv6Raid.Model.Basic

/-!
The readers-writer protocol of one `struct DiskPair`: `readdiskpair` and
`writediskpair` (raid.c:286-385), the RAID1 and RAID0_1 cases of `raidrepair`
(raid.c:459-561) and `raidfail` (raid.c:417-437).

Each section guarded by `diskpair->mutex` is one atomic step, and so is each
unlocked access to a disk's `valid` flag (the repairer's two tests, its
`valid = 1`, and `raidfail`). All sleepers on `&diskpair->mutex` are woken
after the mutex is released, so a sleeping thread may be woken at any moment;
it then runs its loop test again. The disk I/O between claiming and clearing
a slot, or between setting and clearing `writing`, does not touch the flags,
and each such stretch is one program point.
-/

namespace Xv6Raid.PairProtocol

open Threads

/-- Where a thread is. Readers start at `rdloop`, writers at `wrloop`, and a
repairer of disk `k` of the pair at `rpstart k`. -/
inductive PC
  /-- A reader about to run the body of its `while (1)` loop under the mutex. -/
  | rdloop
  | rdsleep
  /-- A reader that has set `reading[i]` and not yet cleared it. -/
  | rdclaimed (i : Fin 2)
  | rddone
  | wrloop
  | wrsleep
  /-- A writer between `writing = 1` and `writing = 0`. -/
  | wrinside
  | wrdone
  /-- A repairer about to test whether its disk is already valid. -/
  | rpstart (k : Fin 2)
  /-- A repairer about to test whether the partner is valid. -/
  | rppartner (k : Fin 2)
  | rploop (k : Fin 2)
  | rpsleep (k : Fin 2)
  /-- A repairer copying the partner onto disk `k`, with `writing` set. -/
  | rpcopy (k : Fin 2)
  /-- A repairer that has set `valid = 1` and not yet cleared `writing`. -/
  | rpvalid (k : Fin 2)
  | rpdone
  deriving DecidableEq

/-- The flags of the pair, the `valid` flags of its two disks, and every
thread's position. -/
structure State (τ : Type*) where
  valid : Fin 2 → Bool
  writing : Bool
  reading : Fin 2 → Bool
  pc : τ → PC

/-- A thread takes its next atomic step, or `raidfail` marks a disk invalid. -/
inductive Event (τ : Type*)
  | step (t : τ)
  | fail (k : Fin 2)

/-- The other disk of the pair, `disk[1 - i]`. -/
def other (k : Fin 2) : Fin 2 := if k = 0 then 1 else 0

/-- The slot loop `for (i = 0; i < 2; i++) if (!reading[i] && disk[i]->valid)`. -/
def freeslot {τ : Type*} (s : State τ) : Option (Fin 2) :=
  if !s.reading 0 && s.valid 0 then some 0
  else if !s.reading 1 && s.valid 1 then some 1
  else none

theorem freeslot_reading {τ : Type*} {s : State τ} {i : Fin 2} (h : freeslot s = some i) : s.reading i = false := by
  simp only [freeslot] at h
  split_ifs at h with h0 h1 <;> cases h
  · simp only [Bool.and_eq_true, Bool.not_eq_eq_eq_not, Bool.not_true] at h0
    exact h0.1
  · simp only [Bool.and_eq_true, Bool.not_eq_eq_eq_not, Bool.not_true] at h1
    exact h1.1

variable {τ : Type*}

section Step

variable [DecidableEq τ]

/-- Move thread `t` to `p`. -/
def State.goto (s : State τ) (t : τ) (p : PC) : State τ :=
  { s with pc := Function.update s.pc t p }

/-- The next atomic step of thread `t`. -/
def stepThread (s : State τ) (t : τ) : State τ :=
  match s.pc t with
  | .rdloop =>
    if !s.valid 0 && !s.valid 1 then s.goto t .rddone
    else if s.writing then s.goto t .rdsleep
    else
      match freeslot s with
      | some i => { s.goto t (.rdclaimed i) with reading := Function.update s.reading i true }
      | none => s.goto t .rdsleep
  | .rdclaimed i =>
    -- diskpair->reading[readfromPair] = 0;
    { s.goto t .rddone with reading := Function.update s.reading i false }
  | .wrloop =>
    if !s.valid 0 && !s.valid 1 then s.goto t .wrdone
    else if s.writing then s.goto t .wrsleep
    else if s.reading 0 || s.reading 1 then s.goto t .wrsleep
    else { s.goto t .wrinside with writing := true }
  | .wrinside => { s.goto t .wrdone with writing := false }
  | .rpstart k =>
    -- if (raidmeta.diskinfo[diskn].valid) return 0;
    if s.valid k then s.goto t .rpdone else s.goto t (.rppartner k)
  | .rppartner k =>
    -- if (!pair->valid) return -1;
    if !s.valid (other k) then s.goto t .rpdone else s.goto t (.rploop k)
  | .rploop k =>
    if s.writing || s.reading 0 || s.reading 1 then s.goto t (.rpsleep k)
    else { s.goto t (.rpcopy k) with writing := true }
  | .rpcopy k =>
    -- raidmeta.diskinfo[diskn].valid = 1;
    { s.goto t (.rpvalid k) with valid := Function.update s.valid k true }
  | .rpvalid _ => { s.goto t .rpdone with writing := false }
  -- a sleeper woken by `wakeup(&diskpair->mutex)` tests its loop again
  | .rdsleep => s.goto t .rdloop
  | .wrsleep => s.goto t .wrloop
  | .rpsleep k => s.goto t (.rploop k)
  | .rddone | .wrdone | .rpdone => s

def next (s : State τ) : Event τ → State τ
  | .step t => stepThread s t
  | .fail k => { s with valid := Function.update s.valid k false }

/-- After `setraidtype`: no flag set, every thread about to start its call. -/
def Initial (s : State τ) : Prop :=
  s.writing = false ∧ (∀ i, s.reading i = false) ∧
    ∀ t, s.pc t = .rdloop ∨ s.pc t = .wrloop ∨ ∃ k, s.pc t = .rpstart k

end Step

/-- A thread between setting `writing = 1` and clearing it. -/
def writer : PC → Bool
  | .wrinside | .rpcopy _ | .rpvalid _ => true
  | _ => false

section Invariant

variable [Fintype τ] {s : State τ}

/-- `writing` is set exactly when one thread is in a writer's region, `reading[i]`
exactly when one reader holds slot `i`, and the two never hold together. -/
structure Inv (s : State τ) : Prop where
  writers : count (fun p => writer p = true) s.pc = if s.writing then 1 else 0
  readers : ∀ i, count (· = PC.rdclaimed i) s.pc = if s.reading i then 1 else 0
  exclusive : s.writing = true → ∀ i, s.reading i = false

theorem inv_initial (h : Initial s) : Inv s := by
  obtain ⟨hw, hr, hpc⟩ := h
  -- every thread is at `rdloop`, `wrloop` or `rpstart k`, which lie in no region
  have hnone : ∀ (P : PC → Prop) [DecidablePred P], ¬ P .rdloop → ¬ P .wrloop →
      (∀ k, ¬ P (.rpstart k)) → count P s.pc = 0 := by
    intro P _ h1 h2 h3
    refine count_eq_zero.mpr fun t => ?_
    rcases hpc t with h | h | ⟨k, h⟩ <;> rw [h]
    · exact h1
    · exact h2
    · exact h3 k
  refine ⟨?_, fun i => ?_, fun h => absurd h (by simp [hw])⟩
  · rw [hnone _ (by simp [writer]) (by simp [writer]) (fun k => by simp [writer]), hw]
    rfl
  · rw [hnone _ (by simp) (by simp) (fun k => by simp), hr i]
    rfl

theorem inv_setValid (hs : Inv s) (v : Fin 2 → Bool) : Inv { s with valid := v } :=
  ⟨hs.writers, hs.readers, hs.exclusive⟩

theorem writing_of_writer {t : τ} (hs : Inv s) (ht : writer (s.pc t) = true) :
    s.writing = true := by
  have hpos : 0 < count (fun p => writer p = true) s.pc := count_pos ht
  rw [hs.writers] at hpos
  by_contra hw
  simp [hw] at hpos

theorem reading_of_claimed {t : τ} {i : Fin 2} (hs : Inv s) (ht : s.pc t = .rdclaimed i) :
    s.reading i = true := by
  have hpos : 0 < count (· = PC.rdclaimed i) s.pc := count_pos ht
  rw [hs.readers i] at hpos
  by_contra hr
  simp [hr] at hpos

variable [DecidableEq τ] {t : τ}

theorem inv_goto {q : PC} (hs : Inv s) (hw : writer (s.pc t) = writer q)
    (hr : ∀ i, s.pc t = .rdclaimed i ↔ q = .rdclaimed i) : Inv (s.goto t q) :=
  ⟨(count_update_of_iff (by rw [hw])).trans hs.writers,
    fun i => (count_update_of_iff (hr i)).trans (hs.readers i), hs.exclusive⟩

/-- A reader at `rdloop` claims the free slot `i`. -/
theorem inv_claim {i : Fin 2} (hs : Inv s) (hp : s.pc t = .rdloop) (hw : s.writing = false)
    (hi : s.reading i = false) :
    Inv { s.goto t (.rdclaimed i) with reading := Function.update s.reading i true } := by
  refine ⟨(count_update_of_iff (by simp [hp, writer])).trans hs.writers, fun j => ?_,
    fun h => by simp [State.goto, hw] at h⟩
  have hc := count_update (· = PC.rdclaimed j) s.pc t (.rdclaimed i)
  have hj := hs.readers j
  simp only [hp, reduceCtorEq, if_false, PC.rdclaimed.injEq] at hc
  simp only [State.goto]
  rcases eq_or_ne j i with rfl | hji
  · -- slot `j` was free, and `t` is now its one reader
    simp only [hi, Function.update_self, if_true, if_false, Bool.false_eq_true] at hc hj ⊢
    omega
  · simp only [Function.update_of_ne hji, Ne.symm hji, if_false] at hc ⊢
    omega

/-- A reader clears the slot `i` it holds. -/
theorem inv_unclaim {i : Fin 2} (hs : Inv s) (hp : s.pc t = .rdclaimed i) :
    Inv { s.goto t .rddone with reading := Function.update s.reading i false } := by
  have hri := reading_of_claimed hs hp
  refine ⟨(count_update_of_iff (by simp [hp, writer])).trans hs.writers, fun j => ?_,
    fun hw j => ?_⟩
  · have hc := count_update (· = PC.rdclaimed j) s.pc t .rddone
    have hj := hs.readers j
    simp only [hp, reduceCtorEq, if_false, PC.rdclaimed.injEq] at hc
    simp only [State.goto]
    rcases eq_or_ne j i with rfl | hji
    · simp only [hri, Function.update_self, if_true, Bool.false_eq_true, if_false] at hc hj ⊢
      omega
    · simp only [Function.update_of_ne hji, Ne.symm hji, if_false] at hc ⊢
      omega
  · show Function.update s.reading i false j = false
    rcases eq_or_ne j i with rfl | hji
    · exact Function.update_self ..
    · rw [Function.update_of_ne hji]
      exact hs.exclusive hw j

theorem count_claimed_goto {q : PC} (hp : ∀ i, s.pc t ≠ .rdclaimed i)
    (hq : ∀ i, q ≠ .rdclaimed i) (i : Fin 2) :
    count (· = PC.rdclaimed i) (s.goto t q).pc = count (· = PC.rdclaimed i) s.pc :=
  count_update_of_iff (iff_of_false (hp i) (hq i))

/-- A thread outside every region sets `writing` and enters a writer's region. -/
theorem inv_enter {q : PC} (hs : Inv s) (hp : writer (s.pc t) = false)
    (hpr : ∀ i, s.pc t ≠ .rdclaimed i) (hq : writer q = true) (hqr : ∀ i, q ≠ .rdclaimed i)
    (hw : s.writing = false) (hr : ∀ i, s.reading i = false) :
    Inv { s.goto t q with writing := true } := by
  refine ⟨?_, fun i => (count_claimed_goto hpr hqr i).trans (hs.readers i), fun _ => hr⟩
  have hc := count_update (fun p => writer p = true) s.pc t q
  have hw' := hs.writers
  simp only [hp, hq, hw, Bool.false_eq_true, if_true, if_false] at hc hw'
  simp only [State.goto, if_true]
  omega

/-- A thread in a writer's region clears `writing` and leaves it. -/
theorem inv_leave {q : PC} (hs : Inv s) (hp : writer (s.pc t) = true) (hq : writer q = false)
    (hqr : ∀ i, q ≠ .rdclaimed i) : Inv { s.goto t q with writing := false } := by
  -- a writer holds no slot
  have hpr : ∀ i, s.pc t ≠ .rdclaimed i := fun i h => by simp [h, writer] at hp
  refine ⟨?_, fun i => (count_claimed_goto hpr hqr i).trans (hs.readers i),
    fun h => absurd h (by simp)⟩
  have hc := count_update (fun p => writer p = true) s.pc t q
  have hw' := hs.writers
  simp only [hp, hq, writing_of_writer hs hp, Bool.false_eq_true, if_true, if_false] at hc hw'
  simp only [State.goto, Bool.false_eq_true, if_false]
  omega

/-- Every atomic step of a thread keeps the invariant. -/
theorem inv_stepThread (hs : Inv s) (t : τ) : Inv (stepThread s t) := by
  unfold stepThread
  cases hp : s.pc t with
  | rdloop =>
    simp only
    split_ifs with hv hw
    · exact inv_goto hs (by simp [hp, writer]) (by simp [hp])
    · exact inv_goto hs (by simp [hp, writer]) (by simp [hp])
    · split
      · exact inv_claim hs hp (by simpa using hw) (freeslot_reading ‹_›)
      · exact inv_goto hs (by simp [hp, writer]) (by simp [hp])
  | rdclaimed i => exact inv_unclaim hs hp
  | wrloop =>
    simp only
    split_ifs with hv hw hr
    · exact inv_goto hs (by simp [hp, writer]) (by simp [hp])
    · exact inv_goto hs (by simp [hp, writer]) (by simp [hp])
    · exact inv_goto hs (by simp [hp, writer]) (by simp [hp])
    · simp only [Bool.or_eq_true, not_or, Bool.not_eq_true] at hw hr
      exact inv_enter hs (by simp [hp, writer]) (by simp [hp]) rfl (by simp) hw
        (Fin.forall_fin_two.mpr hr)
  | wrinside => exact inv_leave hs (by simp [hp, writer]) rfl (by simp)
  | rpstart k =>
    simp only
    split_ifs <;> exact inv_goto hs (by simp [hp, writer]) (by simp [hp])
  | rppartner k =>
    simp only
    split_ifs <;> exact inv_goto hs (by simp [hp, writer]) (by simp [hp])
  | rploop k =>
    simp only
    split_ifs with hb
    · exact inv_goto hs (by simp [hp, writer]) (by simp [hp])
    · simp only [Bool.or_eq_true, not_or, Bool.not_eq_true] at hb
      obtain ⟨⟨hw, h0⟩, h1⟩ := hb
      exact inv_enter hs (by simp [hp, writer]) (by simp [hp]) rfl (by simp) hw
        (Fin.forall_fin_two.mpr ⟨h0, h1⟩)
  | rpcopy k => exact inv_setValid (inv_goto hs (by simp [hp, writer]) (by simp [hp])) _
  | rpvalid k => exact inv_leave hs (by simp [hp, writer]) rfl (by simp)
  | rdsleep | wrsleep | rpsleep k => exact inv_goto hs (by simp [hp, writer]) (by simp [hp])
  | rddone | wrdone | rpdone => exact hs

theorem inv_next (hs : Inv s) : ∀ e, Inv (next s e)
  | .step t => inv_stepThread hs t
  | .fail _ => inv_setValid hs _

end Invariant

theorem pair_protocol_invariant [Fintype τ] [DecidableEq τ] {s : State τ}
    (h : Reachable Initial next s) :
    count (fun p => writer p = true) s.pc = (if s.writing then 1 else 0) ∧
      (∀ i, count (· = PC.rdclaimed i) s.pc = if s.reading i then 1 else 0) ∧
      (s.writing = true → ∀ i, s.reading i = false) ∧
      ∀ t u i, s.pc t = .rdclaimed i → writer (s.pc u) = false := by
  have hs : Inv s := h.invariant (fun _ => inv_initial) (fun _ e hs => inv_next hs e)
  refine ⟨hs.writers, hs.readers, hs.exclusive, fun t u i ht => ?_⟩
  -- a reader in its region has set `reading[i]`, which excludes `writing`
  have hri := reading_of_claimed hs ht
  by_contra hu
  have hw := writing_of_writer hs (Bool.not_eq_false _ ▸ hu)
  simp [hs.exclusive hw i] at hri

/-- Two valid disks, a reader claims slot 0 and a writer then finds it held. -/
theorem pair_protocol_invariant_reader_writer :
    let s₀ : State (Fin 2) :=
      ⟨fun _ => true, false, fun _ => false, fun t => if t = 0 then .rdloop else .wrloop⟩
    let s := next (next s₀ (.step 0)) (.step 1)
    Reachable Initial next s ∧
      count (fun p => writer p = true) s.pc = (if s.writing then 1 else 0) ∧
      (∀ i, count (· = PC.rdclaimed i) s.pc = if s.reading i then 1 else 0) ∧
      (s.writing = true → ∀ i, s.reading i = false) ∧
      ∀ t u i, s.pc t = .rdclaimed i → writer (s.pc u) = false :=
  have h : Reachable Initial next (next (next (⟨fun _ => true, false, fun _ => false,
      fun t => if t = 0 then .rdloop else .wrloop⟩ : State (Fin 2)) (.step 0)) (.step 1)) :=
    .step _ (.step _ (.init ⟨rfl, fun _ => rfl, by decide⟩))
  ⟨h, pair_protocol_invariant h⟩

end Xv6Raid.PairProtocol
