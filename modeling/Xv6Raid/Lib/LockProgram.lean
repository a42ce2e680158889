import Mathlib.Data.Finset.Max
import Xv6Raid.Lib.Threads

/-!
Programs over locks, sleep channels and shared data, run by any number of
threads in any interleaving, as a kernel runs them. A thread is at a program
point, and the instruction there acquires or releases a lock, sleeps on a
channel giving up a lock, wakes every sleeper on a channel, resets a lock,
takes a step on the shared data alone, or transfers a block of a disk. A lock
records the thread that holds it.

A thread that cannot take its step, because it sleeps or because the lock it
asks for is held, is blocked. A set of blocked threads is deadlocked when each
of them waits only on members of the set: the holder of the lock it asks for,
or every thread whose code can still wake the channel it sleeps on. A rank on
threads that rises along some wait of every blocked thread rules out such a
set. An annotation of the locks each program point holds, when it agrees with
every instruction, stays equal to the lock table along every run.
-/

namespace LockProgram

/-- One instruction over shared data `σ`, program points `P`, locks `L` and
sleep channels `C`. A lock or a disk may be found through the shared data, as
through a pointer. -/
inductive Instr (σ P L C : Type*)
  | acquire (l : σ → L) (next : P)
  | release (l : σ → L) (next : P)
  /-- `sleep(c, l)`: release `l` and sleep on `c`; once woken, go on at `next`. -/
  | sleep (c : C) (l : L) (next : P)
  | wakeup (c : C) (next : P)
  /-- `initlock` or `initsleeplock`: the lock is free afterwards, whoever held it. -/
  | init (l : L) (next : P)
  /-- A step that reads and writes the shared data and chooses where to go on. -/
  | compute (f : σ → σ × P)
  /-- `read_block` or `write_block` on a disk. -/
  | io (d : σ → Nat) (next : P)
  | done

/-- The shared data, the holder of each lock, each thread's program point, and
the channel each sleeping thread sleeps on. -/
structure Sys (σ P L C τ : Type*) where
  data : σ
  owner : L → Option τ
  pc : τ → P
  asleep : τ → Option C

variable {σ P L C τ : Type*} (code : P → Instr σ P L C)

/-- The program point after the instruction at `p` on data `d`, with the data
after it; a finished thread stays where it is. -/
def next (p : P) (d : σ) : σ × P :=
  match code p with
  | .acquire _ q | .release _ q | .sleep _ _ q | .wakeup _ q | .init _ q | .io _ q => (d, q)
  | .compute f => f d
  | .done => (d, p)

/-- `q` can follow `p` for some shared data. -/
def Succ (p q : P) : Prop :=
  match code p with
  | .acquire _ n | .release _ n | .sleep _ _ n | .wakeup _ n | .init _ n | .io _ n => q = n
  | .compute f => ∃ d, (f d).2 = q
  | .done => False

/-- The code from `p` on can reach a `wakeup(c)`. -/
inductive CanWake (c : C) : P → Prop
  | wakeup {p q : P} : code p = .wakeup c q → CanWake c p
  | succ {p q : P} : Succ code p q → CanWake c q → CanWake c p

/-- The code from `p` can reach `q`, for some shared data at each step. -/
def Reaches : P → P → Prop := Relation.ReflTransGen (Succ code)

section Reaches

variable {code} {p q r : P}

theorem succ_next (d : σ) (h : code p ≠ .done) : Succ code p (next code p d).2 := by
  unfold Succ next
  cases hc : code p with
  | compute f => exact ⟨d, rfl⟩
  | done => exact absurd hc h
  | _ => rfl

theorem Reaches.refl (p : P) : Reaches code p p := Relation.ReflTransGen.refl

theorem Reaches.head (h : Succ code p q) (hr : Reaches code q r) : Reaches code p r :=
  Relation.ReflTransGen.head h hr

theorem Reaches.trans (h : Reaches code p q) (h' : Reaches code q r) : Reaches code p r :=
  Relation.ReflTransGen.trans h h'

theorem Reaches.of_next (d : σ) (hne : code p ≠ .done) (h : Reaches code (next code p d).2 q) :
    Reaches code p q :=
  .head (succ_next d hne) h

theorem CanWake.of_reaches {c : C} (h : Reaches code p q) (hq : CanWake code c q) :
    CanWake code c p := by
  induction h using Relation.ReflTransGen.head_induction_on with
  | refl => exact hq
  | head hs _ ih => exact .succ hs ih

end Reaches

section Step

variable [DecidableEq τ] [DecidableEq L] [DecidableEq C]

/-- The next atomic step of thread `t`; a sleeping, blocked or finished thread
does not move. -/
def step (s : Sys σ P L C τ) (t : τ) : Sys σ P L C τ :=
  match s.asleep t with
  | some _ => s
  | none =>
    match code (s.pc t) with
    | .acquire l q =>
      if s.owner (l s.data) = none then
        { s with owner := Function.update s.owner (l s.data) (some t),
                 pc := Function.update s.pc t q }
      else s
    | .release l q =>
      { s with owner := Function.update s.owner (l s.data) none, pc := Function.update s.pc t q }
    | .sleep c l q =>
      { s with owner := Function.update s.owner l none, pc := Function.update s.pc t q,
               asleep := Function.update s.asleep t (some c) }
    | .wakeup c q =>
      { s with pc := Function.update s.pc t q,
               asleep := fun u => if s.asleep u = some c then none else s.asleep u }
    | .init l q => { s with owner := Function.update s.owner l none, pc := Function.update s.pc t q }
    | .compute f => { s with data := (f s.data).1, pc := Function.update s.pc t (f s.data).2 }
    | .io _ q => { s with pc := Function.update s.pc t q }
    | .done => s

/-- Thread `t` sleeps, or asks for a lock that is held. -/
def Blocked (s : Sys σ P L C τ) (t : τ) : Prop :=
  s.asleep t ≠ none ∨ ∃ l q, code (s.pc t) = .acquire l q ∧ s.owner (l s.data) ≠ none

/-- Thread `t` waits on `u`: `u` holds the lock `t` asks for, or `t` sleeps on
a channel that the code of `u` can still wake. -/
def WaitsFor (s : Sys σ P L C τ) (t u : τ) : Prop :=
  (∃ l q, code (s.pc t) = .acquire l q ∧ s.owner (l s.data) = some u) ∨
    ∃ c, s.asleep t = some c ∧ CanWake code c (s.pc u)

/-- A nonempty set of blocked threads that wait only on members of the set: no
thread outside it can ever release one of them. -/
def Deadlocked (s : Sys σ P L C τ) (S : Finset τ) : Prop :=
  S.Nonempty ∧ ∀ t ∈ S, Blocked code s t ∧ ∀ u, WaitsFor code s t u → u ∈ S

omit [DecidableEq τ] [DecidableEq L] [DecidableEq C] in
/-- A rank that every blocked thread can climb along one of its waits rules out
a deadlocked set: its member of highest rank would wait on a member of higher
rank. -/
theorem not_deadlocked_of_rank {s : Sys σ P L C τ} (rank : τ → Nat)
    (h : ∀ t, Blocked code s t → ∃ u, WaitsFor code s t u ∧ (¬ Blocked code s u ∨ rank t < rank u))
    (S : Finset τ) : ¬ Deadlocked code s S := by
  rintro ⟨hne, hS⟩
  obtain ⟨t, ht, hmax⟩ := S.exists_max_image rank hne
  obtain ⟨hb, hclosed⟩ := hS t ht
  obtain ⟨u, hw, hu⟩ := h t hb
  have huS : u ∈ S := hclosed u hw
  rcases hu with hu | hu
  · exact hu (hS u huS).1
  · exact absurd (hmax u huS) (Nat.not_le.mpr hu)

section Frame

variable {s : Sys σ P L C τ} {t : τ}

/-- A step either leaves the state alone or moves its thread to the next point
of its code, with the data that the instruction leaves. -/
theorem step_eq_or (s : Sys σ P L C τ) (t : τ) :
    step code s t = s ∨
      ((step code s t).data = (next code (s.pc t) s.data).1 ∧
        (step code s t).pc = Function.update s.pc t (next code (s.pc t) s.data).2) := by
  unfold step next
  rcases hs : s.asleep t with _ | c
  · dsimp only
    cases code (s.pc t) with
    | acquire l q =>
      dsimp only
      split_ifs
      · exact .inr ⟨rfl, rfl⟩
      · exact .inl rfl
    | done => exact .inl rfl
    | _ => exact .inr ⟨rfl, rfl⟩
  · exact .inl rfl

theorem step_pc_of_ne {u : τ} (hu : u ≠ t) : (step code s t).pc u = s.pc u := by
  rcases step_eq_or code s t with h | ⟨-, h⟩
  · rw [h]
  · rw [h, Function.update_of_ne hu]

/-- Sleep channels change only by this thread's `sleep` and by a `wakeup`. -/
theorem step_asleep (s : Sys σ P L C τ) (t : τ) :
    (step code s t).asleep = s.asleep ∨
      (s.asleep t = none ∧ ∃ c l q, code (s.pc t) = .sleep c l q ∧
        (step code s t).asleep = Function.update s.asleep t (some c)) ∨
      (s.asleep t = none ∧ ∃ c q, code (s.pc t) = .wakeup c q ∧
        (step code s t).asleep = fun u => if s.asleep u = some c then none else s.asleep u) := by
  unfold step
  rcases hs : s.asleep t with _ | c
  · cases hc : code (s.pc t) with
    | acquire l q =>
      simp only
      split_ifs <;> exact .inl rfl
    | sleep c l q => exact .inr (.inl ⟨rfl, c, l, q, rfl, rfl⟩)
    | wakeup c q => exact .inr (.inr ⟨rfl, c, q, rfl, rfl⟩)
    | _ => exact .inl rfl
  · exact .inl rfl

/-- The moves of thread `t` from `s`, one for each kind of instruction a
thread that is awake and not blocked can take a step at. -/
inductive Moves (s : Sys σ P L C τ) (t : τ) : Sys σ P L C τ → Prop
  | acquire {l : σ → L} {q : P} : s.asleep t = none → code (s.pc t) = .acquire l q →
      s.owner (l s.data) = none →
      Moves s t { s with owner := Function.update s.owner (l s.data) (some t),
                         pc := Function.update s.pc t q }
  | release {l : σ → L} {q : P} : s.asleep t = none → code (s.pc t) = .release l q →
      Moves s t { s with owner := Function.update s.owner (l s.data) none,
                         pc := Function.update s.pc t q }
  | sleep {c : C} {l : L} {q : P} : s.asleep t = none → code (s.pc t) = .sleep c l q →
      Moves s t { s with owner := Function.update s.owner l none, pc := Function.update s.pc t q,
                         asleep := Function.update s.asleep t (some c) }
  | wakeup {c : C} {q : P} : s.asleep t = none → code (s.pc t) = .wakeup c q →
      Moves s t { s with pc := Function.update s.pc t q,
                         asleep := fun u => if s.asleep u = some c then none else s.asleep u }
  | init {l : L} {q : P} : s.asleep t = none → code (s.pc t) = .init l q →
      Moves s t { s with owner := Function.update s.owner l none, pc := Function.update s.pc t q }
  | compute {f : σ → σ × P} : s.asleep t = none → code (s.pc t) = .compute f →
      Moves s t { s with data := (f s.data).1, pc := Function.update s.pc t (f s.data).2 }
  | io {d : σ → Nat} {q : P} : s.asleep t = none → code (s.pc t) = .io d q →
      Moves s t { s with pc := Function.update s.pc t q }

theorem step_moves (s : Sys σ P L C τ) (t : τ) :
    step code s t = s ∨ Moves code s t (step code s t) := by
  unfold step
  rcases hs : s.asleep t with _ | c
  · dsimp only
    cases hc : code (s.pc t) with
    | acquire l q =>
      dsimp only
      split_ifs with hfree
      · exact .inr (.acquire hs hc hfree)
      · exact .inl rfl
    | release l q => exact .inr (.release hs hc)
    | sleep c l q => exact .inr (.sleep hs hc)
    | wakeup c q => exact .inr (.wakeup hs hc)
    | init l q => exact .inr (.init hs hc)
    | compute f => exact .inr (.compute hs hc)
    | io d q => exact .inr (.io hs hc)
    | done => exact .inl rfl
  · exact .inl rfl

theorem Moves.awake {s s' : Sys σ P L C τ} (h : Moves code s t s') : s.asleep t = none := by
  cases h <;> assumption

/-- Only a `sleep` or a `wakeup` changes who sleeps. -/
theorem Moves.asleep_cases {s s' : Sys σ P L C τ} (h : Moves code s t s') :
    (s'.asleep = s.asleep ∧ (∀ c l q, code (s.pc t) ≠ .sleep c l q) ∧
        ∀ c q, code (s.pc t) ≠ .wakeup c q) ∨
      (∃ c l q, code (s.pc t) = .sleep c l q ∧
        s'.asleep = Function.update s.asleep t (some c)) ∨
      (∃ c q, code (s.pc t) = .wakeup c q ∧
        s'.asleep = fun u => if s.asleep u = some c then none else s.asleep u) := by
  cases h with
  | sleep _ hc => exact .inr (.inl ⟨_, _, _, hc, rfl⟩)
  | wakeup _ hc => exact .inr (.inr ⟨_, _, hc, rfl⟩)
  | acquire _ hc _ | release _ hc | init _ hc | compute _ hc | io _ hc =>
    exact .inl ⟨rfl, by simp [hc], by simp [hc]⟩

/-- Every move takes its thread to the next point of its code, with the data
its instruction leaves. -/
theorem Moves.next_eq {s s' : Sys σ P L C τ} (h : Moves code s t s') :
    s'.data = (next code (s.pc t) s.data).1 ∧
      s'.pc = Function.update s.pc t (next code (s.pc t) s.data).2 := by
  cases h with
  | compute _ hc => simp only [next, hc, and_self]
  | acquire _ hc _ | release _ hc | sleep _ hc | wakeup _ hc | init _ hc | io _ hc =>
    simp only [next, hc, and_self]

end Frame

section Owned

/-- The annotation `held` is the lock table: a lock is held by exactly the
thread whose program point holds it. -/
def Owned (held : P → L → Prop) (s : Sys σ P L C τ) : Prop :=
  ∀ l t, s.owner l = some t ↔ held (s.pc t) l

/-- The annotation agrees with the instruction at `p` on data `d`: an acquire
adds a lock not yet held, a release or a sleep drops one that is held, and no
other instruction changes the locks held. No annotation agrees with `init`,
which frees a lock behind its holder's back. -/
def Agrees (held : P → L → Prop) (p : P) (d : σ) : Prop :=
  match code p with
  | .acquire l q => ¬ held p (l d) ∧ ∀ l', held q l' ↔ held p l' ∨ l' = l d
  | .release l q => held p (l d) ∧ ∀ l', held q l' ↔ held p l' ∧ l' ≠ l d
  | .sleep _ l q => held p l ∧ ∀ l', held q l' ↔ held p l' ∧ l' ≠ l
  | .wakeup _ q | .io _ q => ∀ l', held q l' ↔ held p l'
  | .init _ _ => False
  | .compute f => ∀ l', held (f d).2 l' ↔ held p l'
  | .done => True

variable {held : P → L → Prop} {s : Sys σ P L C τ} {t : τ}

omit [DecidableEq C] in
theorem owned_take (hs : Owned held s) {l : L} {q : P} (hfree : s.owner l = none)
    (hq : ∀ l', held q l' ↔ held (s.pc t) l' ∨ l' = l) :
    Owned held { s with owner := Function.update s.owner l (some t),
                        pc := Function.update s.pc t q } := by
  intro l' u
  simp only
  by_cases hu : u = t
  · subst hu
    rw [Function.update_self, hq, ← hs]
    by_cases hl : l' = l
    · subst hl
      simp [hfree]
    · simp [hl]
  · rw [Function.update_of_ne hu]
    by_cases hl : l' = l
    · subst hl
      rw [Function.update_self, ← hs, hfree]
      simp [Ne.symm hu]
    · rw [Function.update_of_ne hl, hs]

omit [DecidableEq C] in
theorem owned_drop (hs : Owned held s) {l : L} {q : P} (hheld : held (s.pc t) l)
    (hq : ∀ l', held q l' ↔ held (s.pc t) l' ∧ l' ≠ l) (a : τ → Option C) :
    Owned held { s with owner := Function.update s.owner l none,
                        pc := Function.update s.pc t q, asleep := a } := by
  have hown : s.owner l = some t := (hs l t).mpr hheld
  intro l' u
  simp only
  by_cases hl : l' = l
  · subst hl
    rw [Function.update_self]
    by_cases hu : u = t
    · subst hu
      simp [Function.update_self, hq]
    · rw [Function.update_of_ne hu, ← hs, hown]
      simp [Ne.symm hu]
  · rw [Function.update_of_ne hl]
    by_cases hu : u = t
    · subst hu
      rw [Function.update_self, hq, hs]
      simp [hl]
    · rw [Function.update_of_ne hu, hs]

omit [DecidableEq L] [DecidableEq C] in
theorem owned_move (hs : Owned held s) {q : P} (hq : ∀ l', held q l' ↔ held (s.pc t) l')
    (d : σ) (a : τ → Option C) :
    Owned held { s with data := d, pc := Function.update s.pc t q, asleep := a } := by
  intro l' u
  simp only
  by_cases hu : u = t
  · subst hu
    rw [Function.update_self, hq, hs]
  · rw [Function.update_of_ne hu, hs]

/-- A step whose instruction agrees with the annotation keeps the lock table
equal to it. -/
theorem owned_step (hs : Owned held s)
    (ha : Agrees code held (s.pc t) s.data) : Owned held (step code s t) := by
  unfold step
  rcases hsl : s.asleep t with _ | c
  · unfold Agrees at ha
    revert ha
    dsimp only
    cases code (s.pc t) with
    | acquire l q =>
      rintro ⟨-, hq⟩
      simp only
      split_ifs with hfree
      · exact owned_take hs hfree hq
      · exact hs
    | release l q =>
      rintro ⟨hheld, hq⟩
      exact owned_drop hs hheld hq s.asleep
    | sleep c l q =>
      rintro ⟨hheld, hq⟩
      exact owned_drop hs hheld hq _
    | wakeup c q => exact fun hq => owned_move hs hq s.data _
    | init l q => exact False.elim
    | compute f => exact fun hq => owned_move hs (hq ·) _ s.asleep
    | io d q => exact fun hq => owned_move hs hq s.data s.asleep
    | done => exact fun _ => hs
  · exact hs

omit [DecidableEq τ] [DecidableEq L] [DecidableEq C] in
/-- An acquire asks only for a lock its thread does not hold. -/
theorem owner_ne_of_agrees (hs : Owned held s) {l : σ → L} {q : P}
    (hc : code (s.pc t) = .acquire l q) (ha : Agrees code held (s.pc t) s.data) :
    s.owner (l s.data) ≠ some t := by
  unfold Agrees at ha
  rw [hc] at ha
  exact fun h => ha.1 ((hs _ t).mp h)

end Owned

end Step

end LockProgram
