import Mathlib.Logic.Function.Basic
import Mathlib.Logic.Relation
import Xv6Raid.Lib.Threads

/-!
A memory whose calls take effect atomically and whose locations may be lost:
the specification of a linearizable store that can fail. Each thread has one
call, a read or a write of one location, pending until it takes effect in one
step of the memory, or until it gives up on a location that is lost. A read
returns the location's value at that step, a write stores its value there.
Any step may lose locations, and a lost location stays lost.

An implementation whose states are related to the states of this memory by a
forward simulation, each of its steps from a related pair matched by one step
of the memory by the same thread, is linearizable: every call takes effect at
one step of the run between its start and its end, and a read returns what
the memory held at that step.
-/

namespace Atomic

/-- A call on locations `K` holding values `V`. -/
inductive Op (K V : Type*)
  | read (k : K)
  | write (k : K) (v : V)

def Op.key {K V : Type*} : Op K V → K
  | .read k | .write k _ => k

/-- The memory, the locations not yet lost, whether each thread's call is
still pending, and what each thread holds as the result of its call (its
buffer before a read has taken effect). -/
structure State (τ K V : Type*) where
  mem : K → V
  live : K → Bool
  pending : τ → Bool
  ret : τ → V

variable {τ K V : Type*} [DecidableEq τ] [DecidableEq K]

/-- Thread `t`'s call takes effect. -/
def perform (op : Op K V) (a : State τ K V) (t : τ) : State τ K V :=
  match op with
  | .read k =>
    { a with
      pending := Function.update a.pending t false
      ret := Function.update a.ret t (a.mem k) }
  | .write k v =>
    { a with
      mem := Function.update a.mem k v
      pending := Function.update a.pending t false }

/-- Thread `t`'s call ends without effect. -/
def giveUp (a : State τ K V) (t : τ) : State τ K V :=
  { a with pending := Function.update a.pending t false }

/-- One step of thread `t` with the calls `ops`: its pending call takes effect
on a live location or gives up on a lost one, or some locations are lost. -/
inductive Step (ops : τ → Op K V) (a : State τ K V) (t : τ) : State τ K V → Prop
  | perform : a.pending t = true → a.live (ops t).key = true → Step ops a t (perform (ops t) a t)
  | giveUp : a.pending t = true → a.live (ops t).key = false → Step ops a t (giveUp a t)
  | lose {live : K → Bool} : (∀ k, live k = true → a.live k = true) →
      Step ops a t { a with live := live }

variable {ops : τ → Op K V}

theorem Step.stutter (a : State τ K V) (t : τ) : Step ops a t a :=
  show Step ops a t { a with live := a.live } from .lose fun _ h => h

theorem Step.perform_of {a : State τ K V} {t : τ} {op : Op K V} (hop : ops t = op)
    (hp : a.pending t = true) (hl : a.live op.key = true) : Step ops a t (Atomic.perform op a t) := by
  subst hop
  exact .perform hp hl

theorem Step.giveUp_of {a : State τ K V} {t : τ} {op : Op K V} (hop : ops t = op)
    (hp : a.pending t = true) (hl : a.live op.key = false) : Step ops a t (Atomic.giveUp a t) := by
  subst hop
  exact .giveUp hp hl

/-- The states of the memory reached from `a₀` by steps of any threads. -/
def Reachable (ops : τ → Op K V) (a₀ : State τ K V) : State τ K V → Prop :=
  Relation.ReflTransGen (fun a a' => ∃ t, Step ops a t a') a₀

/-- A forward simulation from the threads of an implementation to the memory:
if the initial states are related to `a₀` and every step of a thread from a
reachable state related to `a` is matched by a step of the memory by the same
thread, every reachable state is related to a reachable state of the memory. -/
theorem reachable_of_simulation {σ : Type*} {init : σ → Prop} {next : σ → τ → σ}
    {R : σ → State τ K V → Prop} {a₀ : State τ K V} (hinit : ∀ s, init s → R s a₀)
    (hstep : ∀ s a, Threads.Reachable init next s → R s a →
      ∀ t, ∃ a', Step ops a t a' ∧ R (next s t) a')
    {s : σ} (h : Threads.Reachable init next s) : ∃ a, Reachable ops a₀ a ∧ R s a := by
  induction h with
  | init hs => exact ⟨a₀, .refl, hinit _ hs⟩
  | step t hr ih =>
    obtain ⟨a, ha, hR⟩ := ih
    obtain ⟨a', hs, hR'⟩ := hstep _ a hr hR t
    exact ⟨a', ha.tail ⟨t, hs⟩, hR'⟩

end Atomic
