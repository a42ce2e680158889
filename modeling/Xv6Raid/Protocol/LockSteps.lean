import Xv6Raid.Protocol.LockSets

/-!
What one step of a thread does to the data the waiting protocols of the RAID
layer read: `writecount` and `repairing` of the parity levels, and `writing`
and `reading[]` of each mirrored pair. Most steps leave them alone and keep
the thread's place in the protocols (`Quiet`); the others are the tests and
updates of raid.c, raid4.c and raid5.c, listed by `Effect`, each at the one
point of the code that makes it and under the spinlock that guards it.

From this and the annotation of `LockSets`, the lock table agrees with the
program points along every run, every thread stays at a point the code can
reach, and a sleeping thread waits at the top of its loop (`LockInv`).
-/

namespace Xv6Raid.LockLevel

open LockProgram

/-- The place in the protocols of the thread that will wake each channel. -/
def Chan.wakeTag : Chan → Tag
  | .pair p => .pPost p
  | .writecount => .wWake
  | .repairing => .rWake

theorem Chan.wakeTag_injective : Function.Injective Chan.wakeTag := by
  intro a b h
  cases a <;> cases b <;> simp_all [Chan.wakeTag]

/-- Two data that agree on what the waiting protocols read. -/
structure Quiet (d d' : RaidState) : Prop where
  writecount : d'.raidmeta.data.raid4.writecount = d.raidmeta.data.raid4.writecount
  repairing : d'.raidmeta.data.raid4.repairing = d.raidmeta.data.raid4.repairing
  writing : ∀ p, (d'.raidmeta.data.diskpair p).writing = (d.raidmeta.data.diskpair p).writing
  reading : ∀ p, (d'.raidmeta.data.diskpair p).reading = (d.raidmeta.data.diskpair p).reading

theorem Quiet.refl (d : RaidState) : Quiet d d := ⟨rfl, rfl, fun _ => rfl, fun _ => rfl⟩

theorem Quiet.of_data {d d' : RaidState} (h : d'.raidmeta.data = d.raidmeta.data) : Quiet d d' :=
  ⟨by rw [h], by rw [h], fun _ => by rw [h], fun _ => by rw [h]⟩

theorem quiet_setclusterloaded (k : Nat) (d : RaidState) : Quiet d (setclusterloaded k d) :=
  ⟨by simp, by simp, fun _ => by simp, fun _ => by simp⟩

/-- What a step at `p` on data `d` can do: leave the protocol data and the
thread's place alone, end the place that wakes a channel, or one of the tests
and updates of the code. -/
inductive Effect (p : PC) (d : RaidState) : RaidState × PC → Prop
  | quiet {d' q} : Quiet d d' → q.tag = p.tag → Effect p d (d', q)
  /-- `wakeup(chan)`, the last point of the place that wakes `chan`. -/
  | woke {ch q} : p = .wake ch q → q.tag = .idle → Effect p d (d, q)
  /-- `raiddata->writecount++`, once `repairing` is zero. -/
  | wEnter {t x q} : p = .wGate t x → d.raidmeta.data.raid4.repairing = 0 → q.tag = .wInside →
      Effect p d (addWritecount 1 d, q)
  /-- `raiddata->writecount--`, and the wakeup of the repairers when it is zero. -/
  | wLeave {q} : p = .wExit →
      q.tag = (if d.raidmeta.data.raid4.writecount + -1 = 0 then .wWake else .idle) →
      Effect p d (addWritecount (-1) d, q)
  /-- `raiddata->repairing++`, then a sleep while writers are inside. -/
  | rWait {n q} : p = .prGate n true → q.tag = .rAnnounced false →
      Effect p d (addRepairing 1 d, q)
  /-- The end of the repairer's wait loop: `writecount` or `repairing` is zero. -/
  | rPass {n first d' q} : p = .prGate n first → d' = (if first then addRepairing 1 d else d) →
      (d'.raidmeta.data.raid4.writecount = 0 ∨ d'.raidmeta.data.raid4.repairing = 0) →
      q.tag = .rAnnounced true → Effect p d (d', q)
  /-- `raiddata->repairing--`, and the wakeup of the writers when it is zero. -/
  | rLeave {q} : p = .prExit →
      q.tag = (if d.raidmeta.data.raid4.repairing + -1 = 0 then .rWake else .idle) →
      Effect p d (addRepairing (-1) d, q)
  /-- `diskpair->writing = 1` by a writer or a mirror repair, once the pair is idle. -/
  | pEnter {p' q} : (p = .wrLoop p' ∨ ∃ n e, p = .rpLoop n p' e) →
      (d.raidmeta.data.diskpair p').writing = false →
      (d.raidmeta.data.diskpair p').reading 0 = false →
      (d.raidmeta.data.diskpair p').reading 1 = false → q.tag = .pWriter p' →
      Effect p d (setWriting p' true d, q)
  /-- `diskpair->writing = 0`. -/
  | pLeave {p' k q} : p = .wrClear p' k → q.tag = .pPost p' → Effect p d (setWriting p' false d, q)
  /-- `diskpair->reading[i] = 1` by a reader, for a slot that is free. -/
  | sEnter {p' i q} : p = .rdLoop p' → (d.raidmeta.data.diskpair p').reading i = false →
      q.tag = .pSlot p' i → Effect p d (setReading p' i true d, q)
  /-- `diskpair->reading[i] = 0`. -/
  | sLeave {p' i q} : p = .rdClear p' i → q.tag = .pPost p' →
      Effect p d (setReading p' i false d, q)

section Effects

variable {c T P} {d : RaidState} {p : PC}

@[simp]
theorem PC.tag_ite {b : Prop} [Decidable b] {p q : PC} :
    (if b then p else q).tag = if b then p.tag else q.tag := by
  split_ifs <;> rfl

@[simp]
theorem tag_writeraidmeta (k : PC) : (writeraidmeta k).tag = k.tag := rfl

/-! The calls reach their first lock outside both protocols. -/

theorem tag_readEntry (x : Int) (d : RaidState) : (readEntry c x d).tag = .idle := by
  unfold readEntry
  repeat' split
  all_goals simp

theorem tag_writeEntry (x : Int) (d : RaidState) : (writeEntry c x d).tag = .idle := by
  unfold writeEntry
  repeat' split
  all_goals simp

theorem tag_mirrorEntry (n p : Nat) (k : Int) (d : RaidState) : (mirrorEntry n p k d).tag = .idle := by
  unfold mirrorEntry
  repeat' split
  all_goals simp

theorem tag_repairEntry (n : Int) (d : RaidState) : (repairEntry c n d).tag = .idle := by
  unfold repairEntry
  repeat' split
  all_goals simp [tag_mirrorEntry]

theorem reading_eq_false_of_readslot {dp : DiskPair} {m : RAIDMeta} {i : Fin 2}
    (h : readslot dp m = some i) : dp.reading i = false := by
  unfold readslot at h
  split_ifs at h with h0 h1 <;> cases h
  · exact (by simpa using h0 : _ ∧ _).1
  · exact (by simpa using h1 : _ ∧ _).1

/-- Every `compute` step at a well-formed point is one of the effects. -/
theorem effect_of_compute (hp : WF c T P p) (hd : Good T P d) {f : RaidState → RaidState × PC}
    (hc : code c p = .compute f) : Effect p d (f d) := by
  cases p
  all_goals simp only [code, Instr.compute.injEq, reduceCtorEq] at hc
  case readraid x =>
    subst hc
    exact .quiet (.refl d) (by simp [tag_readEntry])
  case writeraid x =>
    subst hc
    exact .quiet (.refl d) (by simp [tag_writeEntry])
  case raidrepair n =>
    subst hc
    exact .quiet (.refl d) (by simp [tag_repairEntry])
  case raidfail n =>
    subst hc
    unfold failStep
    split_ifs
    · exact .quiet (.refl d) rfl
    · exact .quiet (.refl d) rfl
    · exact .quiet (.of_data (by simp)) (by simp)
  case raiddestroy =>
    subst hc
    unfold destroyStep
    split_ifs
    · exact .quiet (.refl d) rfl
    · exact .quiet (.of_data rfl) (by simp)
  case acqAll i k | relAll i k =>
    split_ifs at hc
    simp only [Instr.compute.injEq] at hc
    subst hc
    exact .quiet (.refl d) (by simp)
  case metaWrite i k | invScan e i k =>
    subst hc
    exact .quiet (.refl d) (by split_ifs <;> simp)
  case loadScan t k b i after =>
    subst hc
    unfold loadScanStep
    dsimp only
    split_ifs
    all_goals first
      | exact .quiet (.refl d) (by simp)
      | exact .quiet (quiet_setclusterloaded k d) (by simp)
  case rdLoop p =>
    subst hc
    unfold rdLoopStep
    dsimp only
    split_ifs
    · exact .quiet (.refl d) (by simp)
    · exact .quiet (.refl d) (by simp)
    · rcases hs : readslot (d.raidmeta.data.diskpair p) d.raidmeta with _ | i
      · exact .quiet (.refl d) (by simp)
      · exact .sEnter rfl (reading_eq_false_of_readslot hs) (by simp)
  case rdDiskn p i =>
    subst hc
    exact .quiet (.refl d) (by simp)
  case rdClear p i =>
    subst hc
    exact .sLeave rfl (by simp)
  case wrLoop p =>
    subst hc
    unfold wrLoopStep
    dsimp only
    split_ifs with hinv hbusy
    · exact .quiet (.refl d) (by simp)
    · exact .quiet (.refl d) (by simp)
    · simp only [Bool.or_eq_true, not_or, Bool.not_eq_true] at hbusy
      exact .pEnter (.inl rfl) hbusy.1.1 hbusy.1.2 hbusy.2 (by simp)
  case wrTest p i =>
    subst hc
    refine .quiet (.refl d) ?_
    unfold wrTestStep
    dsimp only
    split_ifs <;> simp
  case wrClear p k =>
    subst hc
    exact .pLeave rfl (by simp)
  case rpLoop n p e =>
    subst hc
    unfold rpLoopStep
    dsimp only
    split_ifs with hbusy
    · exact .quiet (.refl d) (by simp)
    · simp only [Bool.or_eq_true, not_or, Bool.not_eq_true] at hbusy
      exact .pEnter (.inr ⟨n, e, rfl⟩) hbusy.1.1 hbusy.1.2 hbusy.2 (by simp)
  case rpCopy n p e b =>
    subst hc
    refine .quiet (.refl d) ?_
    unfold rpCopyNext
    split_ifs <;> simp
  case rpValid n p =>
    subst hc
    exact .quiet (.of_data rfl) (by simp)
  case wGate t x =>
    subst hc
    unfold wGateStep
    split_ifs with hr
    · exact .quiet (.refl d) (by simp)
    · exact .wEnter rfl (not_not.mp hr) (by simp)
  case wLoaded t x =>
    subst hc
    refine .quiet (.refl d) ?_
    rw [wLoadedNext_eq hp hd]
    split_ifs <;> simp
  case wPath t x =>
    subst hc
    refine .quiet (.refl d) ?_
    unfold wPathNext
    dsimp only
    split_ifs <;> simp
  case wExit =>
    subst hc
    unfold wExitStep
    dsimp only
    split_ifs with hw
    · exact .wLeave rfl (by simp_all)
    · exact .wLeave rfl (by simp_all)
  case prGate n first =>
    subst hc
    unfold prGateStep
    dsimp only
    -- the first pass announces the repairer; later passes come back from a sleep
    generalize hd' : (if first = true then addRepairing 1 d else d) = d'
    split_ifs with hw
    · cases first
      · simp only [Bool.false_eq_true, if_false] at hd'
        subst hd'
        exact .quiet (.refl _) (by simp)
      · simp only [if_true] at hd'
        subst hd'
        exact .rWait rfl (by simp)
    · exact .rPass rfl hd'.symm (by simpa only [ne_eq, not_and_or, not_not] using hw) (by simp)
  case prBlock n b =>
    subst hc
    unfold prBlockStep
    split_ifs
    · exact .quiet (.refl d) (by simp)
    · exact .quiet (.of_data rfl) (by simp)
  case prLoaded n b =>
    subst hc
    refine .quiet (.refl d) ?_
    rw [prLoadedNext_eq hp.2]
    split_ifs <;> simp
  case prScan n b i =>
    subst hc
    refine .quiet (.refl d) ?_
    unfold prScanNext
    split_ifs <;> simp
  case prExit =>
    subst hc
    unfold prExitStep
    dsimp only
    split_ifs with hr
    · exact .rLeave rfl (by simp_all)
    · exact .rLeave rfl (by simp_all)
  case setraidtype => exact hp.elim

theorem eq_slp_of_code {l : Lock} {q : PC} (hc : code c p = .sleep ch l q) : p = .slp ch l q := by
  cases p
  case slp ch' l' k =>
    simp only [code, Instr.sleep.injEq] at hc
    obtain ⟨rfl, rfl, rfl⟩ := hc
    rfl
  case acqAll i k | relAll i k =>
    simp only [code] at hc
    split_ifs at hc
  all_goals simp [code] at hc

theorem tag_of_acquire {l : RaidState → Lock} {q : PC} (hc : code c p = .acquire l q) :
    q.tag = p.tag := by
  cases p
  case acq l' k | prCluster l' k =>
    simp only [code, Instr.acquire.injEq] at hc
    obtain ⟨-, rfl⟩ := hc
    simp
  case acqAll i k =>
    simp only [code] at hc
    split_ifs at hc
    simp only [Instr.acquire.injEq] at hc
    obtain ⟨-, rfl⟩ := hc
    simp
  case relAll i k =>
    simp only [code] at hc
    split_ifs at hc
  all_goals simp [code] at hc

theorem tag_of_release {l : RaidState → Lock} {q : PC} (hc : code c p = .release l q) :
    q.tag = p.tag := by
  cases p
  case rel l' k =>
    simp only [code, Instr.release.injEq] at hc
    obtain ⟨-, rfl⟩ := hc
    simp
  case relAll i k =>
    simp only [code] at hc
    split_ifs at hc
    simp only [Instr.release.injEq] at hc
    obtain ⟨-, rfl⟩ := hc
    simp
  case acqAll i k =>
    simp only [code] at hc
    split_ifs at hc
  all_goals simp [code] at hc

theorem eq_wake_of_code {ch : Chan} {q : PC} (hc : code c p = .wakeup ch q) : p = .wake ch q := by
  cases p
  case wake ch' k =>
    simp only [code, Instr.wakeup.injEq] at hc
    obtain ⟨rfl, rfl⟩ := hc
    rfl
  case acqAll i k | relAll i k =>
    simp only [code] at hc
    split_ifs at hc
  all_goals simp [code] at hc

theorem eq_io_of_code {r : RaidState → Nat} {q : PC} (hc : code c p = .io r q) :
    ∃ r', p = .io r' q := by
  cases p
  case io r' k =>
    simp only [code, Instr.io.injEq] at hc
    exact ⟨r', by rw [hc.2]⟩
  case acqAll i k | relAll i k =>
    simp only [code] at hc
    split_ifs at hc
  all_goals simp [code] at hc

/-- Every step from a well-formed point is one of the effects. -/
theorem effect_next (hp : WF c T P p) (hd : Good T P d) : Effect p d (next (code c) p d) := by
  unfold next
  cases hc : code c p with
  | acquire l q => exact .quiet (.refl d) (tag_of_acquire hc)
  | release l q => exact .quiet (.refl d) (tag_of_release hc)
  | sleep ch l q =>
    -- no well-formed point sleeps
    have := eq_slp_of_code hc
    subst this
    exact hp.elim
  | wakeup ch q =>
    have := eq_wake_of_code hc
    subst this
    exact .woke rfl hp.1
  | init l q =>
    -- nor resets a lock
    cases p <;> simp [code] at hc
    case acqAll i k | relAll i k => split_ifs at hc
    all_goals exact hp.elim
  | compute f => exact effect_of_compute hp hd hc
  | io r q =>
    obtain ⟨r', rfl⟩ := eq_io_of_code hc
    exact .quiet (.refl d) rfl
  | done => exact .quiet (.refl d) rfl

end Effects

section Frame

variable {c T P} {d d' : RaidState} {p : PC} {ch : Chan}

theorem Pending.of_quiet (hq : Quiet d d') : Pending ch d' ↔ Pending ch d := by
  cases ch <;> simp [Pending, hq.writecount, hq.repairing, hq.writing, hq.reading]

/-- An effect changes what a sleeper on `ch` waits for only under the spinlock
of `ch`: writers, repairers and the flags of a pair each under their own. -/
theorem pending_of_effect {e : RaidState × PC} (he : Effect p d e) (hn : ¬ held c P p ch.lock)
    (h : Pending ch d) : Pending ch e.1 := by
  cases he with
  | quiet hq _ => exact (Pending.of_quiet hq).mpr h
  | woke _ _ => exact h
  | wEnter hp _ _ | wLeave hp _ | rWait hp _ | rLeave hp _ =>
    subst hp
    cases ch <;> simp_all [Pending, Chan.lock]
  | rPass hp hd' _ _ =>
    subst hp hd'
    cases ch <;> split_ifs <;> simp_all [Pending, Chan.lock]
  | pEnter hp _ _ _ _ =>
    rcases hp with rfl | ⟨n, e, rfl⟩ <;> cases ch <;> simp_all [Pending, Chan.lock]
  | pLeave hp _ | sEnter hp _ _ | sLeave hp _ =>
    subst hp
    cases ch <;> simp_all [Pending, Chan.lock]

/-- A step of a thread that does not hold the spinlock of `ch` keeps what a
sleeper on `ch` waits for. -/
theorem pending_next (hp : At c T P d p) (hd : Good T P d) (hn : ¬ held c P p ch.lock)
    (h : Pending ch d) : Pending ch (next (code c) p d).1 := by
  rcases hc : code c p with _ | _ | _ | _ | _ | f | _ | _
  all_goals simp only [next, hc]
  all_goals try exact h
  rcases hp with hp | ⟨ch', k, rfl, -, -, -⟩
  · exact pending_of_effect (effect_of_compute hp hd hc) hn h
  · simp [code] at hc

theorem good_next_of_at (hp : At c T P d p) (hd : Good T P d) : Good T P (next (code c) p d).1 := by
  rcases hp with hp | ⟨ch, k, rfl, -, -, -⟩
  · exact good_next hp hd
  · exact hd

theorem at_next_of_at (hp : At c T P d p) (hd : Good T P d) (hP : PairsOrdered c T P) :
    At c T P (next (code c) p d).1 (next (code c) p d).2 := by
  rcases hp with hp | ⟨ch, k, rfl, -, hk, -⟩
  · exact at_next hp hd hP
  · exact .inl hk

/-- A point a thread can be at on `d` stays one on `d'` when a sleep there
still finds its condition. -/
theorem At.frame (hp : At c T P d p)
    (h : ∀ ch k, p = .slp ch ch.lock k → Pending ch d → Pending ch d') : At c T P d' p := by
  rcases hp with hp | ⟨ch, k, rfl, hk, hwf, hpend⟩
  · exact .inl hp
  · exact .inr ⟨ch, k, rfl, hk, hwf, h ch k rfl hpend⟩

end Frame

section Invariant

variable (c T P) {τ : Type*}

/-- What every state of a run on an array of type `T` with the pairs `P`
satisfies: the type and the pairs stay, each thread is at a point it can be
at, the lock table is the annotation, and a sleeping thread waits at the top
of its loop. -/
structure LockInv (s : System τ) : Prop where
  good : Good T P s.data
  at_ : ∀ t, At c T P s.data (s.pc t)
  owned : Owned (held c P) s
  sleeps : ∀ t ch, s.asleep t = some ch → SleepsAt ch (s.pc t)

variable {c T P} {s : System τ}

theorem LockInv.start {d : RaidState} (hs : Start d s) (hd : Good T P d)
    (hset : ∀ t n, s.pc t ≠ .setraidtype n) : LockInv c T P s := by
  obtain ⟨hdata, hfree, hawake, hentry⟩ := hs
  have hcall : ∀ t, WF c T P (s.pc t) ∧ ∀ m, ¬ held c P (s.pc t) m := by
    intro t
    have he := hentry t
    have hn := hset t
    cases h : s.pc t <;> simp_all [PC.entry]
  refine ⟨hdata ▸ hd, fun t => .inl (hcall t).1, fun l t => ?_, fun t ch h => ?_⟩
  · simp [hfree l, (hcall t).2 l]
  · simp [hawake t] at h

theorem LockInv.not_held_of_asleep (hs : LockInv c T P s) {t : τ} {ch : Chan}
    (h : s.asleep t = some ch) (m : Lock) : ¬ held c P (s.pc t) m :=
  not_held_of_sleepsAt (hs.sleeps t ch h) m

/-- The thread about to sleep on `ch` holds its spinlock, so no other thread
changes what the sleep waits for. -/
theorem LockInv.at_frame (hs : LockInv c T P s) {t u : τ} (hu : u ≠ t) :
    At c T P (next (code c) (s.pc t) s.data).1 (s.pc u) := by
  refine (hs.at_ u).frame fun ch k hk hpend => ?_
  have hown : s.owner ch.lock = some u := (hs.owned _ u).mpr (by simp [hk])
  have hn : ¬ held c P (s.pc t) ch.lock := fun h =>
    hu (Option.some.inj (hown.symm.trans ((hs.owned _ t).mpr h)))
  exact pending_next (hs.at_ t) hs.good hn hpend

theorem lockInv_step [DecidableEq τ] (hP : PairsOrdered c T P) (hs : LockInv c T P s) (t : τ) :
    LockInv c T P (step (code c) s t) := by
  rcases step_moves (code c) s t with h | hm
  · rw [h]
    exact hs
  obtain ⟨hdata, hpc⟩ := hm.next_eq
  have hat := hs.at_ t
  have hawake := hm.awake
  refine ⟨?_, fun u => ?_, owned_step (code c) hs.owned (agrees_of_at hat hs.good), fun u ch hu => ?_⟩
  · rw [hdata]
    exact good_next_of_at hat hs.good
  · rw [hpc, hdata]
    by_cases hut : u = t
    · subst hut
      rw [Function.update_self]
      exact at_next_of_at hat hs.good hP
    · rw [Function.update_of_ne hut]
      exact hs.at_frame hut
  · -- the thread that sleeps now sleeps at its loop; the other sleepers stay put
    have hne : u ≠ t → s.asleep u = some ch →
        SleepsAt ch ((step (code c) s t).pc u) := fun hut h => by
      rw [step_pc_of_ne (code c) hut]
      exact hs.sleeps u ch h
    rcases step_asleep (code c) s t with ha | ⟨-, ch', l, q, hc, ha⟩ | ⟨-, ch', q, hc, ha⟩
    · rw [ha] at hu
      exact hne (by rintro rfl; simp [hawake] at hu) hu
    · rw [ha] at hu
      by_cases hut : u = t
      · subst hut
        rw [Function.update_self, Option.some.injEq] at hu
        subst hu
        have hslp := eq_slp_of_code hc
        rcases hat with hwf | ⟨ch'', k, hk, hsl, -, -⟩
        · rw [hslp] at hwf
          exact hwf.elim
        · rw [hk, PC.slp.injEq] at hslp
          obtain ⟨rfl, -, rfl⟩ := hslp
          rw [hpc, Function.update_self, hk]
          exact hsl
      · rw [Function.update_of_ne hut] at hu
        exact hne hut hu
    · rw [ha] at hu
      dsimp only at hu
      split_ifs at hu with h
      exact hne (by rintro rfl; simp [hawake] at hu) hu

theorem lockInv_of_reachable [DecidableEq τ] (hP : PairsOrdered c T P) {d : RaidState} (hd : Good T P d)
    (h : Threads.Reachable (fun s => Start d s ∧ ∀ t n, s.pc t ≠ .setraidtype n) (step (code c)) s) :
    LockInv c T P s := by
  induction h with
  | init hs => exact LockInv.start hs.1 hd hs.2
  | step t _ ih => exact lockInv_step hP ih t

end Invariant

end Xv6Raid.LockLevel
