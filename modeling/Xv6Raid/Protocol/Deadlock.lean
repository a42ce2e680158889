import Xv6Raid.Protocol.Progress

/-!
The RAID layer cannot deadlock (kernel/raid.c, raid4.c, raid5.c). Along every
run of any number of threads calling `readraid`, `writeraid`, `raidfail`,
`raidrepair` and `raiddestroy` on an array set up by `setraidtype`, the
counters and flags of the waiting protocols count the threads at each place
(`Counts`), and every sleeper has a thread that will wake it or finds its
condition still pending (`WaitInv`). From these, every blocked thread waits on
a thread that is not blocked or that has a higher rank (`rank`): spinlocks
below `clusterlock` below the disk locks in ascending order, with the parity
repairer that asks for `clusterlock` while it holds every disk lock on top.
That repairer only waits on a writer inside `writecount`, which is never
blocked while a repairer has passed its gate.
-/

namespace Xv6Raid.LockLevel

open LockProgram Threads

/-- A parity repairer between `repairing++` and `repairing--`. -/
def Tag.announced : Tag → Bool
  | .rAnnounced _ => true
  | _ => false

/-! Each effect moves a counter or a flag by as much as it moves the count of
the threads at the matching place. -/

section Conservation

variable {d : RaidState} {p : PC} {e : RaidState × PC}

theorem writecount_effect (he : Effect p d e) :
    e.1.raidmeta.data.raid4.writecount + (if p.tag = .wInside then 1 else 0) =
      d.raidmeta.data.raid4.writecount + (if e.2.tag = .wInside then 1 else 0) := by
  cases he with
  | quiet hq ht => rw [hq.writecount, ht]
  | @woke ch q hp hq =>
    subst hp
    cases ch <;> simp [hq]
  | wEnter hp _ hq =>
    subst hp
    simp [hq]
  | wLeave hp hq =>
    subst hp
    by_cases h0 : d.raidmeta.data.raid4.writecount + -1 = 0 <;> simp [hq, h0]
    omega
  | rWait hp hq =>
    subst hp
    simp [hq]
  | rLeave hp hq =>
    subst hp
    by_cases h0 : d.raidmeta.data.raid4.repairing + -1 = 0 <;> simp [hq, h0]
  | @rPass n first d' q hp hd' _ hq =>
    subst hp hd'
    cases first <;> simp [hq]
  | pEnter hp _ _ _ hq =>
    rcases hp with rfl | ⟨n, e, rfl⟩ <;> simp [hq]
  | pLeave hp hq | sEnter hp _ hq | sLeave hp hq =>
    subst hp
    simp [hq]

theorem repairing_effect (he : Effect p d e) :
    e.1.raidmeta.data.raid4.repairing + (if p.tag.announced then 1 else 0) =
      d.raidmeta.data.raid4.repairing + (if e.2.tag.announced then 1 else 0) := by
  cases he with
  | quiet hq ht => rw [hq.repairing, ht]
  | @woke ch q hp hq =>
    subst hp
    cases ch <;> simp [hq, Tag.announced]
  | wEnter hp _ hq =>
    subst hp
    simp [hq, Tag.announced]
  | wLeave hp hq =>
    subst hp
    by_cases h0 : d.raidmeta.data.raid4.writecount + -1 = 0 <;> simp [hq, h0, Tag.announced]
  | rWait hp hq =>
    subst hp
    simp [hq, Tag.announced]
  | rLeave hp hq =>
    subst hp
    by_cases h0 : d.raidmeta.data.raid4.repairing + -1 = 0 <;> simp [hq, h0, Tag.announced]
    omega
  | @rPass n first d' q hp hd' _ hq =>
    subst hp hd'
    cases first <;> simp [hq, Tag.announced]
  | pEnter hp _ _ _ hq =>
    rcases hp with rfl | ⟨n, e, rfl⟩ <;> simp [hq, Tag.announced]
  | pLeave hp hq | sEnter hp _ hq | sLeave hp hq =>
    subst hp
    simp [hq, Tag.announced]

/-- The flag `writing` of pair `q` moves with its writer; a writer that clears
it is the one that set it. -/
theorem writing_effect (he : Effect p d e) (q : Nat)
    (hw : p.tag = .pWriter q → (d.raidmeta.data.diskpair q).writing = true) :
    ((e.1.raidmeta.data.diskpair q).writing.toNat : Int) + (if p.tag = .pWriter q then 1 else 0) =
      (d.raidmeta.data.diskpair q).writing.toNat + (if e.2.tag = .pWriter q then 1 else 0) := by
  cases he with
  | quiet hq ht => rw [hq.writing, ht]
  | @woke ch q hp hq =>
    subst hp
    cases ch <;> simp [hq]
  | wEnter hp _ hq | rWait hp hq =>
    subst hp
    simp [hq]
  | wLeave hp hq | rLeave hp hq =>
    subst hp
    simp only [PC.tag, reduceCtorEq, if_false, add_zero]
    rw [hq]
    split_ifs <;> first | contradiction | simp
  | @rPass n first d' q hp hd' _ hq =>
    subst hp hd'
    cases first <;> simp [hq]
  | @pEnter p' q' hp hw0 _ _ hq =>
    -- only the writer's own pair changes, from idle to written
    by_cases hqp : q = p'
    · subst hqp
      rcases hp with rfl | ⟨n, e, rfl⟩ <;> simp [hq, hw0]
    · have hpq : p' ≠ q := Ne.symm hqp
      rcases hp with rfl | ⟨n, e, rfl⟩ <;> simp [hq, hqp, hpq]
  | @pLeave p' k q' hp hq =>
    subst hp
    by_cases hqp : q = p'
    · subst hqp
      simp [hq, hw (by simp)]
    · have hpq : p' ≠ q := Ne.symm hqp
      simp [hq, hqp, hpq]
  | sEnter hp _ hq | sLeave hp hq =>
    subst hp
    simp [hq]

/-- The flag `reading[i]` of pair `q` moves with its reader. -/
theorem reading_effect (he : Effect p d e) (q : Nat) (i : Fin 2)
    (hr : p.tag = .pSlot q i → (d.raidmeta.data.diskpair q).reading i = true) :
    (((e.1.raidmeta.data.diskpair q).reading i).toNat : Int) +
        (if p.tag = .pSlot q i then 1 else 0) =
      ((d.raidmeta.data.diskpair q).reading i).toNat + (if e.2.tag = .pSlot q i then 1 else 0) := by
  cases he with
  | quiet hq ht => rw [hq.reading, ht]
  | @woke ch q hp hq =>
    subst hp
    cases ch <;> simp [hq]
  | wEnter hp _ hq | rWait hp hq =>
    subst hp
    simp [hq]
  | wLeave hp hq | rLeave hp hq =>
    subst hp
    simp only [PC.tag, reduceCtorEq, if_false, add_zero]
    rw [hq]
    split_ifs <;> first | contradiction | simp
  | @rPass n first d' q hp hd' _ hq =>
    subst hp hd'
    cases first <;> simp [hq]
  | pEnter hp _ _ _ hq =>
    rcases hp with rfl | ⟨n, e, rfl⟩ <;> simp [hq]
  | pLeave hp hq =>
    subst hp
    simp [hq]
  | @sEnter p' j q' hp h0 hq =>
    subst hp
    -- only the reader's own slot changes, from free to claimed
    by_cases hs : q = p' ∧ i = j
    · obtain ⟨rfl, rfl⟩ := hs
      simp [hq, h0]
    · by_cases hqp : q = p'
      · subst hqp
        have hij : i ≠ j := fun h => hs ⟨rfl, h⟩
        simp [hq, hij, Ne.symm hij]
      · simp [hq, hqp, Ne.symm hqp]
  | @sLeave p' j q' hp hq =>
    subst hp
    by_cases hs : q = p' ∧ i = j
    · obtain ⟨rfl, rfl⟩ := hs
      simp [hq, hr (by simp)]
    · by_cases hqp : q = p'
      · subst hqp
        have hij : i ≠ j := fun h => hs ⟨rfl, h⟩
        simp [hq, hij, Ne.symm hij]
      · simp [hq, hqp, Ne.symm hqp]

end Conservation

/-! Where each place of the protocols is entered and left. -/

section Places

variable {c : Config} {T : RAID_TYPE} {P : Nat → Fin 2 → Nat} {d : RaidState} {p : PC}
  {e : RaidState × PC} {ch : Chan}

/-- A thread comes inside `writecount` only through the writer's gate, which it
passes with no repairer announced. -/
theorem Effect.inside (he : Effect p d e) (h : e.2.tag = .wInside) :
    p.tag = .wInside ∨ (∃ t x, p = .wGate t x) ∧ d.raidmeta.data.raid4.repairing = 0 := by
  cases he with
  | quiet _ ht => exact .inl (ht ▸ h)
  | wEnter hp hr _ => exact .inr ⟨⟨_, _, hp⟩, hr⟩
  | wLeave _ hq | rLeave _ hq =>
    rw [h] at hq
    split_ifs at hq
  | woke _ hq | rWait _ hq | rPass _ _ _ hq | pEnter _ _ _ _ hq | pLeave _ hq | sEnter _ _ hq
  | sLeave _ hq => simp [h] at hq

/-- A repairer gets past its wait loop only when no writer is inside
`writecount` or when it is the only repairer. -/
theorem Effect.past (he : Effect p d e) (h : e.2.tag = .rAnnounced true) :
    p.tag = .rAnnounced true ∨ (∃ n b, p = .prGate n b) ∧
      e.1.raidmeta.data.raid4.writecount = d.raidmeta.data.raid4.writecount ∧
      (e.1.raidmeta.data.raid4.writecount = 0 ∨ e.1.raidmeta.data.raid4.repairing = 0) := by
  cases he with
  | quiet _ ht => exact .inl (ht ▸ h)
  | @rPass n first d' q hp hd' hz _ =>
    refine .inr ⟨⟨n, first, hp⟩, ?_, hz⟩
    subst hd'
    cases first <;> simp
  | wLeave _ hq | rLeave _ hq =>
    rw [h] at hq
    split_ifs at hq
  | woke _ hq | wEnter _ _ hq | rWait _ hq | pEnter _ _ _ _ hq | pLeave _ hq | sEnter _ _ hq
  | sLeave _ hq => simp [h] at hq

/-- The thread at the place that wakes `ch` stays there until it wakes `ch`. -/
theorem Effect.wakeTag (he : Effect p d e) (h : p.tag = ch.wakeTag) :
    e.2.tag = ch.wakeTag ∨ p = .wake ch e.2 := by
  cases he with
  | quiet _ ht => exact .inl (ht.trans h)
  | @woke ch' q hp _ =>
    subst hp
    have : ch' = ch := Chan.wakeTag_injective (by cases ch' <;> simpa [Chan.wakeTag] using h)
    exact .inr (this ▸ rfl)
  | wEnter hp _ _ | wLeave hp _ | rWait hp _ | rLeave hp _ | pLeave hp _ | sEnter hp _ _
  | sLeave hp _ =>
    subst hp
    cases ch <;> simp [Chan.wakeTag] at h
  | @rPass n first d' q hp _ _ _ =>
    subst hp
    cases first <;> cases ch <;> simp [Chan.wakeTag] at h
  | pEnter hp _ _ _ _ =>
    rcases hp with rfl | ⟨n, e, rfl⟩ <;> cases ch <;> simp [Chan.wakeTag] at h

/-- What a sleeper waits for stays pending, or the step takes its thread to the
place that wakes the sleeper. The counters are never negative on a parity
array. -/
theorem Effect.pending_or_wake (he : Effect p d e) (hp : WF c T P p)
    (hW : IsParity T → 0 ≤ d.raidmeta.data.raid4.writecount)
    (hR : IsParity T → 0 ≤ d.raidmeta.data.raid4.repairing) (h : Pending ch d) :
    Pending ch e.1 ∨ e.2.tag = ch.wakeTag := by
  cases he with
  | quiet hq _ => exact .inl ((Pending.of_quiet hq).mpr h)
  | woke _ _ => exact .inl h
  | wEnter hp' _ _ =>
    subst hp'
    have := hW (WriterArgs.isParity hp)
    left
    cases ch <;> simp_all [Pending]
    omega
  | wLeave hp' hq =>
    subst hp'
    by_cases h0 : d.raidmeta.data.raid4.writecount + -1 = 0
    · cases ch <;> simp_all [Pending, Chan.wakeTag]
    · left
      cases ch <;> simp_all [Pending]
  | rWait hp' _ =>
    subst hp'
    have := hR hp
    left
    cases ch <;> simp_all [Pending]
    omega
  | @rPass n first d' q hp' hd' _ _ =>
    subst hp' hd'
    have := hR hp
    left
    cases first <;> cases ch <;> simp_all [Pending]
    omega
  | rLeave hp' hq =>
    subst hp'
    by_cases h0 : d.raidmeta.data.raid4.repairing + -1 = 0
    · cases ch <;> simp_all [Pending, Chan.wakeTag]
    · left
      cases ch <;> simp_all [Pending]
  | @pEnter p' q hp' _ _ _ _ =>
    left
    cases ch with
    | pair p'' => by_cases hpp : p'' = p' <;> simp_all [Pending]
    | writecount | repairing => simpa [Pending] using h
  | @pLeave p' k q hp' hq =>
    cases ch with
    | pair p'' =>
      by_cases hpp : p'' = p'
      · exact .inr (by simp [hq, Chan.wakeTag, hpp])
      · exact .inl (by simpa [Pending, hpp] using h)
    | writecount | repairing => exact .inl (by simpa [Pending] using h)
  | @sEnter p' i q hp' _ _ =>
    left
    cases ch with
    | pair p'' =>
      by_cases hpp : p'' = p'
      · subst hpp
        simp only [Pending, setReading_writing, setReading_reading, if_true]
        -- the slot just claimed is one of the two
        right
        rcases i with ⟨_ | _ | n, hi⟩
        · simp
        · simp
        · omega
      · simpa [Pending, hpp] using h
    | writecount | repairing => simpa [Pending] using h
  | @sLeave p' i q hp' hq =>
    cases ch with
    | pair p'' =>
      by_cases hpp : p'' = p'
      · exact .inr (by simp [hq, Chan.wakeTag, hpp])
      · exact .inl (by simpa [Pending, hpp] using h)
    | writecount | repairing => exact .inl (by simpa [Pending] using h)

@[simp] theorem PC.tag_wake (ch : Chan) (k : PC) : (PC.wake ch k).tag = ch.wakeTag := by
  cases ch <;> rfl

/-- The place of a thread asleep on each channel. -/
def Chan.sleepTag : Chan → Tag
  | .writecount => .rAnnounced false
  | _ => .idle

theorem sleepsAt_tag (h : SleepsAt ch p) : p.tag = ch.sleepTag := by
  cases ch with
  | pair q => rcases h with rfl | rfl | ⟨n, e, rfl⟩ <;> rfl
  | writecount =>
    obtain ⟨n, rfl⟩ := h
    rfl
  | repairing =>
    obtain ⟨t, x, rfl⟩ := h
    rfl

theorem Chan.wakeTag_ne_sleepTag (ch ch' : Chan) : ch.wakeTag ≠ ch'.sleepTag := by
  cases ch <;> cases ch' <;> simp [Chan.wakeTag, Chan.sleepTag]

end Places

theorem At.wf {c : Config} {T : RAID_TYPE} {P : Nat → Fin 2 → Nat} {d : RaidState} {p : PC}
    (h : At c T P d p) (hne : ∀ ch k, p ≠ .slp ch ch.lock k) : WF c T P p := by
  rcases h with h | ⟨ch, k, rfl, -⟩
  · exact h
  · exact absurd rfl (hne ch k)

/-- Every step from a point a thread can be at is one of the effects: a `sleep`
keeps the data and the place. -/
theorem effect_of_at {c : Config} {T : RAID_TYPE} {P : Nat → Fin 2 → Nat} {d : RaidState}
    {p : PC} (hp : At c T P d p) (hd : Good T P d) : Effect p d (next (code c) p d) := by
  rcases hp with hp | ⟨ch, k, rfl, -, -, -⟩
  · exact effect_next hp hd
  · exact .quiet (.refl d) (by simp)

section Invariant

variable (c : Config) (T : RAID_TYPE) {τ : Type*} [Fintype τ]

/-- The counters and flags of the waiting protocols count the threads at the
matching places, and no writer is inside `writecount` while a repairer has
passed its gate. -/
structure Counts (d : RaidState) (pc : τ → PC) : Prop where
  writers : IsParity T →
    d.raidmeta.data.raid4.writecount = count (fun p : PC => p.tag = .wInside) pc
  repairers : IsParity T →
    d.raidmeta.data.raid4.repairing = count (fun p : PC => p.tag.announced) pc
  exclusive : ∀ u v, (pc u).tag = .wInside → (pc v).tag ≠ .rAnnounced true
  writing : ∀ q, MirrorPair c T q →
    count (fun p : PC => p.tag = .pWriter q) pc = (d.raidmeta.data.diskpair q).writing.toNat
  reading : ∀ q i, MirrorPair c T q →
    count (fun p : PC => p.tag = .pSlot q i) pc = ((d.raidmeta.data.diskpair q).reading i).toNat

/-- The waiting protocols in a state: the counts, and every sleeper finds its
condition still pending or a thread at the place that wakes it. -/
structure WaitInv (s : System τ) : Prop where
  counts : Counts c T s.data s.pc
  wakers : ∀ u ch, s.asleep u = some ch → Pending ch s.data ∨ ∃ v, (s.pc v).tag = ch.wakeTag

variable {c T} [DecidableEq τ]

theorem count_conserved {Q : PC → Prop} [DecidablePred Q] {pc : τ → PC} {t : τ} {q : PC}
    {x x' : Int} (h : x' + (if Q (pc t) then 1 else 0) = x + (if Q q then 1 else 0))
    (hx : x = count Q pc) : x' = count Q (Function.update pc t q) := by
  have hc := count_update Q pc t q
  split_ifs at h hc <;> omega

omit [DecidableEq τ] in
theorem Counts.nonneg {d : RaidState} {pc : τ → PC} (hc : Counts c T d pc) (hT : IsParity T) :
    0 ≤ d.raidmeta.data.raid4.writecount ∧ 0 ≤ d.raidmeta.data.raid4.repairing := by
  rw [hc.writers hT, hc.repairers hT]
  omega

theorem Counts.update {P : Nat → Fin 2 → Nat} {d : RaidState} {pc : τ → PC} {t : τ} {e : RaidState × PC}
    (hc : Counts c T d pc) (hat : At c T P d (pc t)) (he : Effect (pc t) d e) :
    Counts c T e.1 (Function.update pc t e.2) := by
  have hW : IsParity T → e.1.raidmeta.data.raid4.writecount =
      count (fun p : PC => p.tag = .wInside) (Function.update pc t e.2) := fun hT =>
    count_conserved (writecount_effect he) (hc.writers hT)
  have hR : IsParity T → e.1.raidmeta.data.raid4.repairing =
      count (fun p : PC => p.tag.announced) (Function.update pc t e.2) := fun hT =>
    count_conserved (repairing_effect he) (hc.repairers hT)
  refine ⟨hW, hR, fun u v hu hv => ?_, fun q hq => ?_, fun q i hq => ?_⟩
  · -- a new writer inside found no repairer announced; a new repairer past its
    -- gate found no writer inside, or is counted in `repairing` itself
    by_cases hut : u = t
    · subst hut
      have hvt : v ≠ u := by
        rintro rfl
        rw [hu] at hv
        exact Tag.noConfusion hv
      rw [Function.update_self] at hu
      rw [Function.update_of_ne hvt] at hv
      rcases he.inside hu with hold | ⟨⟨t', x, hpt⟩, hR0⟩
      · exact hc.exclusive _ _ hold hv
      · have hwf := hat.wf (by simp [hpt])
        rw [hpt] at hwf
        have hT : IsParity T := WriterArgs.isParity hwf
        have hpos : 0 < count (fun p : PC => p.tag.announced) pc :=
          count_pos (t := v) (by simp [hv, Tag.announced])
        have := hc.repairers hT
        omega
    · rw [Function.update_of_ne hut] at hu
      by_cases hvt : v = t
      · subst hvt
        rw [Function.update_self] at hv
        rcases he.past hv with hold | ⟨⟨n, b, hpt⟩, hWeq, hz⟩
        · exact hc.exclusive _ _ hu hold
        · have hT : IsParity T := by
            have hwf := hat.wf (by simp [hpt])
            rw [hpt] at hwf
            exact hwf
          have hin : 0 < count (fun p : PC => p.tag = .wInside) pc := count_pos (t := u) hu
          have hpast : 0 < count (fun p : PC => p.tag.announced) (Function.update pc v e.2) :=
            count_pos (t := v) (by simp [hv, Tag.announced])
          have := hc.writers hT
          have := hR hT
          omega
      · rw [Function.update_of_ne hvt] at hv
        exact hc.exclusive u v hu hv
  · -- the writer that clears `writing` is the one counted for it
    have hw : (pc t).tag = .pWriter q → (d.raidmeta.data.diskpair q).writing = true := by
      intro h
      have hpos := count_pos (P := fun p : PC => p.tag = .pWriter q) h
      rw [hc.writing q hq] at hpos
      revert hpos
      cases (d.raidmeta.data.diskpair q).writing <;> simp
    have := count_conserved (Q := fun p : PC => p.tag = .pWriter q) (writing_effect he q hw)
      (congrArg Nat.cast (hc.writing q hq)).symm
    exact_mod_cast this.symm
  · have hr : (pc t).tag = .pSlot q i → (d.raidmeta.data.diskpair q).reading i = true := by
      intro h
      have hpos := count_pos (P := fun p : PC => p.tag = .pSlot q i) h
      rw [hc.reading q i hq] at hpos
      revert hpos
      cases (d.raidmeta.data.diskpair q).reading i <;> simp
    have := count_conserved (Q := fun p : PC => p.tag = .pSlot q i) (reading_effect he q i hr)
      (congrArg Nat.cast (hc.reading q i hq)).symm
    exact_mod_cast this.symm

end Invariant

section Waiting

variable {c : Config} {T : RAID_TYPE} {P : Nat → Fin 2 → Nat} {τ : Type*} [Fintype τ]
  [DecidableEq τ] {s : System τ}

/-- Every step keeps the waiting protocols: a thread goes to sleep only on a
pending condition, and a condition stops being pending only by a step that
takes its thread to the place that wakes the channel. -/
theorem waitInv_step (hl : LockInv c T P s) (hw : WaitInv c T s) (t : τ) :
    WaitInv c T (step (code c) s t) := by
  rcases step_moves (code c) s t with h | hm
  · rw [h]
    exact hw
  obtain ⟨hdata, hpc⟩ := hm.next_eq
  have hat := hl.at_ t
  have he := effect_of_at hat hl.good
  have hawake := hm.awake
  refine ⟨by rw [hdata, hpc]; exact hw.counts.update hat he, fun u ch hu => ?_⟩
  rcases hm.asleep_cases with ⟨ha, hns, hnw⟩ | ⟨ch', l, q, hc, ha⟩ | ⟨ch', q, hc, ha⟩
  · -- neither a sleep nor a wakeup: an effect at a well-formed point
    rw [ha] at hu
    have hwf : WF c T P (s.pc t) := hat.wf fun ch k h => hns ch ch.lock k (by rw [h]; rfl)
    rcases hw.wakers u ch hu with hpend | ⟨v, hv⟩
    · rcases he.pending_or_wake hwf (fun hT => (hw.counts.nonneg hT).1)
        (fun hT => (hw.counts.nonneg hT).2) hpend with h' | h'
      · exact .inl (hdata ▸ h')
      · exact .inr ⟨t, by rw [hpc, Function.update_self]; exact h'⟩
    · by_cases hvt : v = t
      · subst hvt
        rcases he.wakeTag hv with h' | h'
        · exact .inr ⟨v, by rw [hpc, Function.update_self]; exact h'⟩
        · exact absurd (by rw [h']; rfl) (hnw ch _)
      · exact .inr ⟨v, by rw [hpc, Function.update_of_ne hvt]; exact hv⟩
  · -- the thread goes to sleep on the condition its loop has just found pending
    have hslp := eq_slp_of_code hc
    obtain ⟨ch'', k, hk, -, -, hpend⟩ : ∃ ch'' k, s.pc t = .slp ch'' ch''.lock k ∧
        SleepsAt ch'' k ∧ WF c T P k ∧ Pending ch'' s.data := by
      rcases hat with hwf | h
      · rw [hslp] at hwf
        exact hwf.elim
      · exact h
    rw [hk, PC.slp.injEq] at hslp
    obtain ⟨rfl, -, rfl⟩ := hslp
    have hd : (step (code c) s t).data = s.data := by
      rw [hdata, hk]
      rfl
    have htag : ((step (code c) s t).pc t).tag = (s.pc t).tag := by
      rw [hpc, Function.update_self, hk]
      simp [next, code]
    by_cases hut : u = t
    · subst hut
      rw [ha, Function.update_self, Option.some.injEq] at hu
      subst hu
      exact .inl (hd ▸ hpend)
    · rw [ha, Function.update_of_ne hut] at hu
      rcases hw.wakers u ch hu with h' | ⟨v, hv⟩
      · exact .inl (hd ▸ h')
      · refine .inr ⟨v, ?_⟩
        by_cases hvt : v = t
        · subst hvt
          rw [htag]
          exact hv
        · rw [hpc, Function.update_of_ne hvt]
          exact hv
  · -- a wakeup of `ch'` leaves the sleepers of other channels and their wakers
    have hwk := eq_wake_of_code hc
    have hd : (step (code c) s t).data = s.data := by
      rw [hdata, hwk]
      rfl
    rw [ha] at hu
    dsimp only at hu
    split_ifs at hu with hch
    rcases hw.wakers u ch hu with h' | ⟨v, hv⟩
    · exact .inl (hd ▸ h')
    · refine .inr ⟨v, ?_⟩
      have hvt : v ≠ t := by
        rintro rfl
        rw [hwk, PC.tag_wake] at hv
        exact hch (Chan.wakeTag_injective hv ▸ hu)
      rw [hpc, Function.update_of_ne hvt]
      exact hv

omit [DecidableEq τ] in
/-- The calls start outside both protocols, on data where no counter is up and
no flag of a pair is set. -/
theorem WaitInv.start {d : RaidState} (hs : Start d s)
    (hgate : IsParity T → d.raidmeta.data.raid4.writecount = 0 ∧
      d.raidmeta.data.raid4.repairing = 0)
    (hpairs : ∀ q, MirrorPair c T q → (d.raidmeta.data.diskpair q).writing = false ∧
      ∀ i, (d.raidmeta.data.diskpair q).reading i = false) :
    WaitInv c T s := by
  obtain ⟨rfl, -, hawake, hentry⟩ := hs
  have hidle : ∀ t, (s.pc t).tag = .idle := by
    intro t
    have := hentry t
    cases h : s.pc t <;> simp_all [PC.entry]
  -- no thread is counted anywhere
  have hnone : ∀ (Q : PC → Prop) [DecidablePred Q], (∀ p : PC, p.tag = .idle → ¬ Q p) →
      count Q s.pc = 0 :=
    fun Q _ hQ => count_eq_zero.mpr fun t => hQ _ (hidle t)
  refine ⟨⟨fun hT => ?_, fun hT => ?_, fun u v hu => ?_, fun q hq => ?_, fun q i hq => ?_⟩,
    fun u ch hu => ?_⟩
  · rw [(hgate hT).1, hnone _ fun p hp => by simp [hp]]
    rfl
  · rw [(hgate hT).2, hnone _ fun p hp => by simp [hp, Tag.announced]]
    rfl
  · simp [hidle] at hu
  · rw [hnone _ fun p hp => by simp [hp], (hpairs q hq).1]
    rfl
  · rw [hnone _ fun p hp => by simp [hp], (hpairs q hq).2 i]
    rfl
  · simp [hawake] at hu

end Waiting

section Rank

variable (c : Config) {τ : Type*}

/-- The rank of a thread blocked at `p` on a lock: the rank of the lock, with
the parity repairer that asks for `clusterlock` while it holds every disk lock
above them all. -/
def lockRank (d : RaidState) : PC → Nat
  | .prCluster _ _ => 4 + c.DISKS
  | p =>
    match code c p with
    | .acquire l _ => 2 + (l d).rank
    | _ => 0

/-- The rank of each thread: a sleeper below every thread blocked on a lock, a
repairer asleep on `writecount` above the writers and readers asleep. -/
def rank (s : System τ) (t : τ) : Nat :=
  match s.asleep t with
  | some .writecount => 1
  | some _ => 0
  | none => lockRank c s.data (s.pc t)

variable {c} {T : RAID_TYPE} {P : Nat → Fin 2 → Nat} [Fintype τ] [DecidableEq τ] {s : System τ}
  {d : RaidState} {p : PC} {l : RaidState → Lock} {q : PC}

theorem lockRank_of_acquire (hc : code c p = .acquire l q) (hp : ∀ n b, p ≠ .prCluster n b) :
    lockRank c d p = 2 + (l d).rank := by
  unfold lockRank
  split
  · exact absurd rfl (hp _ _)
  · simp [hc]

theorem two_le_lockRank (hc : code c p = .acquire l q) : 2 ≤ lockRank c d p := by
  by_cases hp : ∃ n b, p = .prCluster n b
  · obtain ⟨n, b, rfl⟩ := hp
    simp only [lockRank]
    omega
  · simp only [not_exists] at hp
    rw [lockRank_of_acquire hc hp]
    omega

omit [Fintype τ] [DecidableEq τ] in
theorem rank_of_awake {t : τ} (h : s.asleep t = none) : rank c s t = lockRank c s.data (s.pc t) := by
  simp [rank, h]

omit [Fintype τ] [DecidableEq τ] in
theorem rank_of_asleep {t : τ} {ch : Chan} (h : s.asleep t = some ch) :
    rank c s t = if ch = .writecount then 1 else 0 := by
  cases ch <;> simp [rank, h]

omit [Fintype τ] [DecidableEq τ] in
theorem two_le_rank {t : τ} (hb : Blocked (code c) s t) (h : s.asleep t = none) :
    2 ≤ rank c s t := by
  obtain ⟨l, q, hc, -⟩ := hb.resolve_left (by simp [h])
  rw [rank_of_awake h]
  exact two_le_lockRank hc

theorem canWake_of_at {ch : Chan} (hp : At c T P d p) (h : p.tag.chan = some ch) :
    CanWake (code c) ch p := by
  rcases hp with hp | ⟨ch', k, rfl, -, hk, -⟩
  · exact canWake_of_tag hp h
  · exact .succ rfl (canWake_of_tag hk (by simpa using h))

omit [Fintype τ] [DecidableEq τ] in
theorem LockInv.awake_of_tag (hl : LockInv c T P s) {v : τ}
    (h : ∀ ch : Chan, (s.pc v).tag ≠ ch.sleepTag) :
    s.asleep v = none := by
  rcases hv : s.asleep v with _ | ch
  · rfl
  · exact absurd (sleepsAt_tag (hl.sleeps v ch hv)) (h ch)

omit [DecidableEq τ] in
theorem exists_of_count_ne_zero {Q : PC → Prop} [DecidablePred Q] {pc : τ → PC}
    (h : count Q pc ≠ 0) : ∃ v, Q (pc v) := by
  by_contra hno
  simp only [not_exists] at hno
  exact h (count_eq_zero.mpr hno)

omit [DecidableEq τ] in
/-- Every sleeper has a thread that can still wake it: one at the place that
wakes its channel, or one counted by the condition it waits for. That thread
is awake, or is a repairer asleep on `writecount` while the sleeper is a
writer asleep on `repairing`. -/
theorem waker_of_asleep (hl : LockInv c T P s) (hw : WaitInv c T s) {t : τ} {ch : Chan}
    (h : s.asleep t = some ch) :
    ∃ v, (s.pc v).tag.chan = some ch ∧
      (s.asleep v = none ∨ ch = .repairing ∧ s.asleep v = some .writecount) := by
  have hsl := hl.sleeps t ch h
  have hwf : WF c T P (s.pc t) := (hl.at_ t).wf fun ch' k hk => by
    cases ch <;> simp only [SleepsAt] at hsl <;> grind
  rcases hw.wakers t ch h with hpend | ⟨v, hv⟩
  · cases ch with
    | pair p =>
      have hm : MirrorPair c T p := by
        rcases hsl with h' | h' | ⟨n, e, h'⟩ <;> rw [h'] at hwf <;> exact hwf.2.2.2
      -- the pair is written or read: its writer or reader is at its place
      obtain ⟨v, hv⟩ : ∃ v, (s.pc v).tag = .pWriter p ∨ ∃ i, (s.pc v).tag = .pSlot p i := by
        rcases hpend with hwr | hrd | hrd
        · obtain ⟨v, hv⟩ := exists_of_count_ne_zero (Q := fun q : PC => q.tag = .pWriter p)
            (by rw [hw.counts.writing p hm, hwr]; decide)
          exact ⟨v, .inl hv⟩
        · obtain ⟨v, hv⟩ := exists_of_count_ne_zero (Q := fun q : PC => q.tag = .pSlot p 0)
            (by rw [hw.counts.reading p 0 hm, hrd]; decide)
          exact ⟨v, .inr ⟨0, hv⟩⟩
        · obtain ⟨v, hv⟩ := exists_of_count_ne_zero (Q := fun q : PC => q.tag = .pSlot p 1)
            (by rw [hw.counts.reading p 1 hm, hrd]; decide)
          exact ⟨v, .inr ⟨1, hv⟩⟩
      refine ⟨v, by rcases hv with hv | ⟨i, hv⟩ <;> simp [hv, Tag.chan], .inl ?_⟩
      exact hl.awake_of_tag fun ch' => by
        rcases hv with hv | ⟨i, hv⟩ <;> cases ch' <;> simp [hv, Chan.sleepTag]
    | writecount =>
      -- a writer is inside `writecount`
      have hT : IsParity T := by
        obtain ⟨n, h'⟩ := hsl
        rw [h'] at hwf
        exact hwf.2.2.2
      obtain ⟨v, hv⟩ := exists_of_count_ne_zero
        (show count (fun q : PC => q.tag = .wInside) s.pc ≠ 0 by
          have := hw.counts.writers hT
          simp only [Pending] at hpend
          omega)
      refine ⟨v, by simp [hv, Tag.chan], .inl ?_⟩
      exact hl.awake_of_tag fun ch' => by cases ch' <;> simp [hv, Chan.sleepTag]
    | repairing =>
      -- a repairer has announced itself
      have hT : IsParity T := by
        obtain ⟨t', x, h'⟩ := hsl
        rw [h'] at hwf
        exact WriterArgs.isParity hwf.2.2.2
      obtain ⟨v, hv⟩ := exists_of_count_ne_zero
        (show count (fun q : PC => q.tag.announced) s.pc ≠ 0 by
          have := hw.counts.repairers hT
          simp only [Pending] at hpend
          omega)
      have hr : ∃ b, (s.pc v).tag = .rAnnounced b := by
        revert hv
        cases (s.pc v).tag <;> simp [Tag.announced]
      obtain ⟨b, hb⟩ := hr
      refine ⟨v, by simp [hb, Tag.chan], ?_⟩
      rcases hva : s.asleep v with _ | ch'
      · exact .inl rfl
      · have := sleepsAt_tag (hl.sleeps v ch' hva)
        rw [hb] at this
        cases ch' <;> simp_all [Chan.sleepTag]
  · exact ⟨v, by simp [hv], .inl (hl.awake_of_tag fun ch' => hv ▸ Chan.wakeTag_ne_sleepTag ch ch')⟩

omit [DecidableEq τ] in
/-- Every blocked thread waits on a thread that is not blocked or ranks higher. -/
theorem waits_up (hl : LockInv c T P s) (hw : WaitInv c T s) (t : τ)
    (hb : Blocked (code c) s t) :
    ∃ u, WaitsFor (code c) s t u ∧ (¬ Blocked (code c) s u ∨ rank c s t < rank c s u) := by
  rcases hsl : s.asleep t with _ | ch
  swap
  · -- asleep: its waker is awake, or a repairer asleep above a writer asleep
    obtain ⟨v, hv, hva⟩ := waker_of_asleep hl hw hsl
    refine ⟨v, .inr ⟨ch, hsl, canWake_of_at (hl.at_ v) hv⟩, ?_⟩
    by_cases hbv : Blocked (code c) s v
    · right
      rw [rank_of_asleep hsl]
      rcases hva with hva | ⟨rfl, hva⟩
      · have := two_le_rank hbv hva
        split_ifs <;> omega
      · simp [rank_of_asleep hva]
    · exact .inl hbv
  · -- blocked on a lock: its holder is awake
    obtain ⟨l, q, hc, hown⟩ := hb.resolve_left (by simp [hsl])
    obtain ⟨v, hv⟩ := Option.ne_none_iff_exists'.mp hown
    refine ⟨v, .inl ⟨l, q, hc, hv⟩, ?_⟩
    by_cases hbv : Blocked (code c) s v
    swap
    · exact .inl hbv
    right
    have hheld : held c P (s.pc v) (l s.data) := (hl.owned _ v).mp hv
    have hva : s.asleep v = none := by
      rcases hva : s.asleep v with _ | ch
      · rfl
      · exact absurd hheld (hl.not_held_of_asleep hva _)
    obtain ⟨l', q', hc', -⟩ := hbv.resolve_left (by simp [hva])
    have hwfv : WF c T P (s.pc v) := (hl.at_ v).wf fun ch k h => by simp [h, code] at hc'
    have hwft : WF c T P (s.pc t) := (hl.at_ t).wf fun ch k h => by simp [h, code] at hc
    rw [rank_of_awake hsl, rank_of_awake hva]
    -- `prCluster` asks for `clusterlock` and holds only disk locks
    have hcl : ∀ n b, s.pc t = .prCluster n b → l s.data = .cluster := by
      intro n b h
      rw [h] at hc
      simp only [code, Instr.acquire.injEq] at hc
      rw [← hc.1]
    rcases rank_lt_of_acquire hwfv hl.good hc' hheld with hlt | ⟨n, b, hpv⟩
    · have hpt : ∀ n b, s.pc t ≠ .prCluster n b := by
        intro n b h
        -- the holder of `clusterlock` blocked on another lock is a writer
        -- inside `writecount`, which excludes the repairer at `prCluster`
        have hin := tag_of_acquire_cluster hwfv hc' (hcl n b h ▸ hheld)
        exact hw.counts.exclusive v t hin (by rw [h]; rfl)
      rw [lockRank_of_acquire hc hpt]
      by_cases hpv : ∃ n b, s.pc v = .prCluster n b
      · obtain ⟨n, b, hpv⟩ := hpv
        have hl' : l' s.data = .cluster := by
          rw [hpv] at hc'
          simp only [code, Instr.acquire.injEq] at hc'
          rw [← hc'.1]
        rw [hpv]
        rw [hl'] at hlt
        simp only [lockRank, Lock.rank_cluster] at hlt ⊢
        omega
      · simp only [not_exists] at hpv
        rw [lockRank_of_acquire hc' hpv]
        omega
    · -- the holder is the repairer at `prCluster`, holding the disk locks
      rw [hpv] at hheld
      obtain ⟨j, hj, hlj⟩ := hheld
      have hpt : ∀ n b, s.pc t ≠ .prCluster n b := fun n b h => by
        rw [hcl n b h] at hlj
        exact Lock.noConfusion hlj
      rw [lockRank_of_acquire hc hpt, hpv, hlj]
      simp only [lockRank, Lock.rank_disk]
      omega

end Rank

section Setup

variable {c : Config}

theorem acquireDiskLocks_meta {l : List Nat} {s s' : RaidState}
    (h : acquireDiskLocks l s = .ok s') :
    s'.raidmeta.type = s.raidmeta.type ∧ s'.raidmeta.data = s.raidmeta.data := by
  induction l generalizing s with
  | nil =>
    simp only [acquireDiskLocks, Except.ok.injEq] at h
    subst h
    exact ⟨rfl, rfl⟩
  | cons i l ih =>
    simp only [acquireDiskLocks] at h
    unfold acquireDiskLock at h
    split_ifs at h
    dsimp only at h
    have := ih h
    exact this

theorem writeimages_meta {m : RAIDMeta} {l : List Nat} {s s' : RaidState}
    (h : writeimages c m l s = .ok s') : s'.raidmeta = s.raidmeta := by
  induction l generalizing s with
  | nil =>
    simp only [writeimages, Except.ok.injEq] at h
    rw [h]
  | cons i l ih =>
    simp only [writeimages] at h
    split_ifs at h
    · unfold write_block at h
      split_ifs at h
      dsimp only at h
      have := ih h
      exact this
    · exact ih h

theorem writeraidmeta_meta {s s' : RaidState} (h : Xv6Raid.writeraidmeta c s = .ok s') :
    s'.raidmeta.type = s.raidmeta.type ∧ s'.raidmeta.data = s.raidmeta.data := by
  unfold Xv6Raid.writeraidmeta at h
  rcases ha : acquireDiskLocks (List.range c.DISKS) s with _ | s₁
  · rw [ha] at h
    cases h
  rcases hw : writeimages c s₁.raidmeta (List.range' 1 c.DISKS) s₁ with _ | s₂
  · rw [ha] at h
    change (writeimages c s₁.raidmeta (List.range' 1 c.DISKS) s₁ >>= _) = _ at h
    rw [hw] at h
    cases h
  rw [ha] at h
  change (writeimages c s₁.raidmeta (List.range' 1 c.DISKS) s₁ >>= _) = _ at h
  rw [hw] at h
  have h' : releaseDiskLocks (List.range c.DISKS) s₂ = s' := Except.ok.inj h
  subst h'
  rw [releaseDiskLocks_eq]
  have h₁ := acquireDiskLocks_meta ha
  have h₂ := writeimages_meta hw
  exact ⟨by simp [RaidState.setLocks, h₂, h₁.1], by simp [RaidState.setLocks, h₂, h₁.2]⟩

theorem writeraidmeta_of_finish {s d : RaidState} {r : UInt64}
    (h : (do let s ← Xv6Raid.writeraidmeta c s; pure ((0 : UInt64), s) :
      Except Fault (UInt64 × RaidState)) = .ok (r, d)) : Xv6Raid.writeraidmeta c s = .ok d := by
  rcases hw : Xv6Raid.writeraidmeta c s with _ | s'
  · rw [hw] at h
    cases h
  · rw [hw] at h
    have h' : ((0 : UInt64), s') = (r, d) := Except.ok.inj h
    rw [(Prod.mk.inj h').2]

variable (c) in
/-- What `setraidtype` leaves for a run on an array of type `T` with the pairs
`P`: the pairs of a mirrored type on two disks in ascending order with no
reader and no writer, and no writer or repairer of a parity type. -/
structure SetUp (T : RAID_TYPE) (P : Nat → Fin 2 → Nat) (d : RaidState) : Prop where
  good : Good T P d
  ordered : PairsOrdered c T P
  pairs : ∀ q, MirrorPair c T q → (d.raidmeta.data.diskpair q).writing = false ∧
    ∀ i, (d.raidmeta.data.diskpair q).reading i = false
  gate : IsParity T →
    d.raidmeta.data.raid4.writecount = 0 ∧ d.raidmeta.data.raid4.repairing = 0

/-- `setraidtype` of any type that returns `0` sets the array up for a run. -/
theorem setUp_setraidtype {s₀ d : RaidState} {type : Int}
    (h : setraidtype c type s₀ = .ok (0, d)) :
    SetUp c d.raidmeta.type (fun q => (d.raidmeta.data.diskpair q).disk) d := by
  unfold setraidtype at h
  rcases ht : RAID_TYPE.ofInt type with _ | t
  · simp [ht] at h
  simp only [ht] at h
  cases t with
  | RAID0 =>
    have hty : d.raidmeta.type = .RAID0 := (writeraidmeta_meta (writeraidmeta_of_finish h)).1
    refine ⟨⟨rfl, fun _ => rfl⟩, fun q hq => ?_, fun q hq => ?_, fun hT => ?_⟩
    · simp [MirrorPair, hty] at hq
    · simp [MirrorPair, hty] at hq
    · simp [IsParity, hty] at hT
  | RAID1 =>
    obtain ⟨hty, hdata⟩ := writeraidmeta_meta (writeraidmeta_of_finish h)
    have hty : d.raidmeta.type = .RAID1 := hty
    have hq : ∀ q, MirrorPair c d.raidmeta.type q → q < (c.DISKS + 1) / 2 := by
      intro q hq
      simpa [MirrorPair, hty] using hq
    refine ⟨⟨rfl, fun _ => rfl⟩, fun q hm => ?_, fun q hm => ?_, fun hT => ?_⟩
    · simp [hdata, initpairs, hq q hm]
    · simp [hdata, initpairs, hq q hm]
    · simp [IsParity, hty] at hT
  | RAID0_1 =>
    obtain ⟨hty, hdata⟩ := writeraidmeta_meta (writeraidmeta_of_finish h)
    have hty : d.raidmeta.type = .RAID0_1 := hty
    have hq : ∀ q, MirrorPair c d.raidmeta.type q → q < c.DISKS / 2 := by
      intro q hq
      simpa [MirrorPair, hty] using hq
    refine ⟨⟨rfl, fun _ => rfl⟩, fun q hm => ?_, fun q hm => ?_, fun hT => ?_⟩
    · have := hq q hm
      simp [hdata, initpairs, this]
      omega
    · simp [hdata, initpairs, hq q hm]
    · simp [IsParity, hty] at hT
  | RAID4 | RAID5 =>
    dsimp only at h
    split_ifs at h
    · -- two invalid disks: `setraidtype` returns `-1`
      exact absurd (Prod.mk.inj (Except.ok.inj h)).1 (by decide)
    obtain ⟨hty, hdata⟩ := writeraidmeta_meta (writeraidmeta_of_finish h)
    refine ⟨⟨rfl, fun _ => rfl⟩, fun q hq => ?_, fun q hq => ?_, fun _ => ?_⟩
    · simp [MirrorPair, hty, initclusters, RaidState.setRaid4] at hq
    · simp [MirrorPair, hty, initclusters, RaidState.setRaid4] at hq
    · simp [hdata, initclusters, RaidState.setRaid4]

end Setup

section Runs

variable {c : Config} {T : RAID_TYPE} {P : Nat → Fin 2 → Nat} {τ : Type*} [Fintype τ]
  [DecidableEq τ] {d : RaidState} {s : System τ}

def Calls (d : RaidState) (s : System τ) : Prop :=
  Start d s ∧ ∀ t n, s.pc t ≠ .setraidtype n

/-- The waiting protocols hold along every run on an array set up for it. -/
theorem waitInv_of_reachable (hup : SetUp c T P d) (h : Reachable (Calls d) (step (code c)) s) :
    WaitInv c T s := by
  induction h with
  | init hs => exact WaitInv.start hs.1 hup.gate hup.pairs
  | step t hr ih => exact waitInv_step (lockInv_of_reachable hup.ordered hup.good hr) ih t

/-- The RAID layer cannot deadlock. In every state of a run of any number of
threads calling `readraid`, `writeraid`, `raidfail`, `raidrepair` and
`raiddestroy` on an array that `setraidtype` has set up, no nonempty set of
blocked threads waits only on its own members, and no thread asks for a lock
it already holds. -/
theorem raid_never_deadlocks {s₀ : RaidState} {type : Int} (hset : setraidtype c type s₀ = .ok (0, d))
    (hrun : Reachable (Calls d) (step (code c)) s) :
    (∀ S, ¬ Deadlocked (code c) s S) ∧
      ∀ t l q, code c (s.pc t) = .acquire l q → s.owner (l s.data) ≠ some t := by
  have hup := setUp_setraidtype hset
  have hl := lockInv_of_reachable hup.ordered hup.good hrun
  have hw := waitInv_of_reachable hup hrun
  refine ⟨not_deadlocked_of_rank (code c) (rank c s) (waits_up hl hw), fun t l q hc => ?_⟩
  exact owner_ne_of_agrees (code c) hl.owned hc (agrees_of_at (hl.at_ t) hl.good)

end Runs

def raid4Array : RaidState :=
  match setraidtype threeDisks 3 (freshState 3) with
  | .ok (_, s) => s
  | .error _ => freshState 3

def twoWriters : System (Fin 2) :=
  ⟨raid4Array, fun _ => none, fun t => if t = 0 then .writeraid 0 else .writeraid 1, fun _ => none⟩

/-- The first writer has passed the gate and holds `clusterlock`; the second
holds `repairlock` for its own test of `repairing`. -/
theorem raid_never_deadlocks_two_writers :
    let s := [0, 0, 1, 1, 0, 0, 1, 0].foldl (step (code threeDisks)) twoWriters
    (∀ S, ¬ Deadlocked (code threeDisks) s S) ∧
      ∀ t l q, code threeDisks (s.pc t) = .acquire l q → s.owner (l s.data) ≠ some t := by
  have hcalls : Calls raid4Array twoWriters := by
    refine ⟨⟨rfl, fun _ => rfl, fun _ => rfl, by decide⟩, fun t n => ?_⟩
    by_cases ht : t = 0 <;> simp [twoWriters, ht]
  have hset : setraidtype threeDisks 3 (freshState 3) = .ok (0, raid4Array) := rfl
  exact raid_never_deadlocks hset ((Reachable.init hcalls).foldl _)

end Xv6Raid.LockLevel
