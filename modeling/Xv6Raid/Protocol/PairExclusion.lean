import Xv6Raid.Protocol.Deadlock

/-!
The writer of a pair and its readers exclude each other (raid.c:287-385).
`readdiskpair` claims a slot only while `writing` is 0, and `writediskpair`
and the mirror repair set `writing` only while both slots are free; every other
step keeps the flags. So along every run on an array that `setraidtype` has set
up, `writing` and a `reading[i]` of one pair are never set together, and by the
counts of `WaitInv` no thread is inside the pair as its writer while another
has claimed one of its slots.
-/

namespace Xv6Raid.LockLevel

open LockProgram Threads

variable (c : Config) (T : RAID_TYPE)

/-- No pair of the array is written while a slot of it is claimed. -/
def PairExcl (d : RaidState) : Prop :=
  ∀ q, MirrorPair c T q → (d.raidmeta.data.diskpair q).writing = true →
    ∀ i, (d.raidmeta.data.diskpair q).reading i = false

variable {c T} {P : Nat → Fin 2 → Nat} {d : RaidState} {p : PC}

theorem rdLoopStep_fst (p : Nat) (d : RaidState) :
    (rdLoopStep p d).1 = d ∨ (d.raidmeta.data.diskpair p).writing = false ∧
      ∃ i, (rdLoopStep p d).1 = setReading p i true d := by
  unfold rdLoopStep
  dsimp only
  split_ifs with hinv hw
  · exact .inl rfl
  · exact .inl rfl
  · split
    · next i _ => exact .inr ⟨by simpa using hw, i, rfl⟩
    · exact .inl rfl

theorem pairExcl_next (hp : At c T P d p) (hd : Good T P d) (h : PairExcl c T d) :
    PairExcl c T (next (code c) p d).1 := by
  have hef := effect_of_at hp hd
  generalize he : next (code c) p d = e at hef
  intro q hq hw i
  cases hef with
  | quiet hQ _ =>
    rw [hQ.reading]
    rw [hQ.writing] at hw
    exact h q hq hw i
  | woke => exact h q hq hw i
  | wEnter | wLeave | rWait | rLeave =>
    simp only [addWritecount_diskpair, addRepairing_diskpair] at hw ⊢
    exact h q hq hw i
  | rPass _ hd' =>
    subst hd'
    split_ifs at hw ⊢ <;> simp only [addRepairing_diskpair] at hw ⊢ <;> exact h q hq hw i
  | @pEnter p' _ _ _ h₀ h₁ _ =>
    -- the writer takes a pair whose two slots are free
    simp only [setWriting_reading]
    by_cases hqp : q = p'
    · subst hqp
      rcases Fin.exists_fin_two.mp ⟨i, rfl⟩ with rfl | rfl
      · exact h₀
      · exact h₁
    · simp only [setWriting_writing, hqp, if_false] at hw
      exact h q hq hw i
  | @pLeave p' _ _ _ _ =>
    simp only [setWriting_reading]
    by_cases hqp : q = p'
    · simp [hqp] at hw
    · simp only [setWriting_writing, hqp, if_false] at hw
      exact h q hq hw i
  | @sEnter p' j _ hp' hj _ =>
    -- the reader claims a slot only of a pair nobody writes
    subst hp'
    simp only [next, code] at he
    rcases rdLoopStep_fst p' d with hs | ⟨hw₀, k, hs⟩
    · have hr : ((rdLoopStep p' d).1.raidmeta.data.diskpair p').reading j = true := by
        rw [congrArg Prod.fst he]
        simp
      rw [hs, hj] at hr
      contradiction
    · simp only [setReading_writing] at hw
      by_cases hqp : q = p'
      · subst hqp
        rw [hw₀] at hw
        contradiction
      · simp only [setReading_reading, hqp, if_false]
        exact h q hq hw i
  | @sLeave p' j _ _ _ =>
    simp only [setReading_writing] at hw
    simp only [setReading_reading]
    split_ifs with hqp
    · subst hqp
      rw [Function.update_apply]
      split_ifs
      · rfl
      · exact h q hq hw i
    · exact h q hq hw i

variable {τ : Type*}

theorem pairExcl_step [DecidableEq τ] {s : System τ} (hs : LockInv c T P s)
    (h : PairExcl c T s.data) (t : τ) : PairExcl c T (step (code c) s t).data := by
  rcases step_moves (code c) s t with hst | hm
  · rw [hst]
    exact h
  · rw [hm.next_eq.1]
    exact pairExcl_next (hs.at_ t) hs.good h

/-- The exclusion holds along every run on an array that `setraidtype` has set up. -/
theorem pairExcl_of_reachable [DecidableEq τ] {s : System τ} (hup : SetUp c T P d)
    (h : Reachable (Calls d) (step (code c)) s) : PairExcl c T s.data := by
  induction h with
  | init hs =>
    rw [hs.1.1]
    intro q hq hw
    rw [(hup.pairs q hq).1] at hw
    contradiction
  | step t hr ih => exact pairExcl_step (lockInv_of_reachable hup.ordered hup.good hr) ih t

/-- While a thread has claimed slot `i` of pair `q`, no thread is inside the
pair as its writer. -/
theorem no_writer_of_slot [Fintype τ] [DecidableEq τ] {s : System τ} (hup : SetUp c T P d)
    (h : Reachable (Calls d) (step (code c)) s) {q : Nat} (hq : MirrorPair c T q) {i : Fin 2}
    {u : τ} (hu : (s.pc u).tag = .pSlot q i) (v : τ) : (s.pc v).tag ≠ .pWriter q := by
  have hc := (waitInv_of_reachable hup h).counts
  have hr : (s.data.raidmeta.data.diskpair q).reading i = true := by
    have hpos := count_pos (P := fun p : PC => p.tag = .pSlot q i) hu
    rw [hc.reading q i hq] at hpos
    revert hpos
    cases (s.data.raidmeta.data.diskpair q).reading i <;> simp
  have hw : (s.data.raidmeta.data.diskpair q).writing = false := by
    by_contra hw
    rw [pairExcl_of_reachable hup h q hq (by simpa using hw) i] at hr
    contradiction
  intro hv
  have hpos := count_pos (P := fun p : PC => p.tag = .pWriter q) hv
  rw [hc.writing q hq, hw] at hpos
  contradiction

/-- One thread at most is inside a pair as its writer: `writing` counts them. -/
theorem one_writer_of_pair [Fintype τ] [DecidableEq τ] {s : System τ} (hup : SetUp c T P d)
    (h : Reachable (Calls d) (step (code c)) s) {q : Nat} (hq : MirrorPair c T q) {u v : τ}
    (hu : (s.pc u).tag = .pWriter q) (hv : (s.pc v).tag = .pWriter q) : u = v := by
  have hle : count (fun p : PC => p.tag = .pWriter q) s.pc ≤ 1 := by
    rw [(waitInv_of_reachable hup h).counts.writing q hq]
    exact Bool.toNat_le _
  exact eq_of_count_le_one hle hu hv

end Xv6Raid.LockLevel
