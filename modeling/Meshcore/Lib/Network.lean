import Mathlib.Data.Fintype.Basic

/-!
# Networks of nodes

Any number of nodes, each with a state of its own, take steps in any order. A step may hear a
message, and then some node has said it before: messages may be lost, delayed, repeated and
reordered, and may come back to the node that said them, but nobody makes them up.

## Main definitions

* `Net`, `Net.Run` — the nodes, and the states that they can be in together
* `Net.play`, `Net.Heard` — the states after given steps, and whether these may be taken

## Main results

* `Net.Run.origin` — what the nodes know of a topic goes back to a node where it has its origin
-/

/-- Nodes `ι` with states `σ`, which take the steps `o` and exchange messages `μ`. -/
structure Net (ι σ o μ : Type) where
  start : ι → σ
  next : ι → o → σ → σ
  /-- The message that a step hears. -/
  hears : o → Option μ
  /-- What a node has said so far. -/
  said : σ → List μ

namespace Net

variable {ι σ o μ κ : Type} [DecidableEq ι]

/-- The states of the nodes after any number of steps, each of one node. -/
inductive Run (net : Net ι σ o μ) : (ι → σ) → Prop
  | start : Run net net.start
  | step {s} (h : Run net s) (i : ι) (a : o)
      (hheard : ∀ m, net.hears a = some m → ∃ j, m ∈ net.said (s j)) :
      Run net (Function.update s i (net.next i a (s i)))

variable {net : Net ι σ o μ} {s : ι → σ}

/-- The states after these steps. -/
def play (net : Net ι σ o μ) : (ι → σ) → List (ι × o) → ι → σ
  | s, [] => s
  | s, (i, a) :: steps => net.play (Function.update s i (net.next i a (s i))) steps

/-- Each of these steps hears what was said before. -/
def Heard (net : Net ι σ o μ) : (ι → σ) → List (ι × o) → Prop
  | _, [] => True
  | s, (i, a) :: steps => (∀ m ∈ net.hears a, ∃ j, m ∈ net.said (s j)) ∧
      net.Heard (Function.update s i (net.next i a (s i))) steps

instance decidableHeard [Fintype ι] [DecidableEq μ] (net : Net ι σ o μ) :
    ∀ s steps, Decidable (net.Heard s steps)
  | _, [] => inferInstanceAs (Decidable True)
  | s, (i, a) :: steps =>
    have := net.decidableHeard (Function.update s i (net.next i a (s i))) steps
    inferInstanceAs (Decidable (_ ∧ _))

theorem Run.play {steps : List (ι × o)} (h : net.Run s) (hheard : net.Heard s steps) :
    net.Run (net.play s steps) := by
  induction steps generalizing s with
  | nil => exact h
  | cons step steps ih => exact ih (h.step step.1 step.2 hheard.1) hheard.2

/-- What every step of a node keeps, whatever the other nodes do. -/
theorem Run.node {P : ι → σ → Prop} (h : net.Run s) (hstart : ∀ i, P i (net.start i))
    (hnext : ∀ i a t, P i t → P i (net.next i a t)) (i : ι) : P i (s i) := by
  induction h generalizing i with
  | start => exact hstart i
  | @step s _ j a _ ih =>
    by_cases hij : i = j
    · subst hij
      rw [Function.update_self]
      exact hnext i a _ (ih i)
    · rw [Function.update_of_ne hij]
      exact ih i

/-- **Nothing comes from nowhere.** `P H i t` says that node `i` in the state `t` knows of topics in
`H` only, apart from those that have their `origin` there. If a node speaks of such topics only, and
learns of others only when it hears of them, then what is known anywhere in a network has its origin
at some node. -/
theorem Run.origin (P : (κ → Prop) → ι → σ → Prop) (origin : σ → κ → Prop) (topic : μ → Option κ)
    (h : net.Run s) (hstart : ∀ i, P (fun _ => False) i (net.start i))
    (hmono : ∀ {H H' : κ → Prop} {i t}, (∀ k, H k → H' k) → P H i t → P H' i t)
    (hsaid : ∀ {H i t m k}, P H i t → m ∈ net.said t → topic m = some k → origin t k ∨ H k)
    (hgrows : ∀ {H i a t k}, P H i t → origin t k → origin (net.next i a t) k)
    (hnext : ∀ {H i a t}, P H i t → (∀ m, net.hears a = some m → ∀ k, topic m = some k → H k) →
      P H i (net.next i a t)) (i : ι) : P (fun k => ∃ j, origin (s j) k) i (s i) := by
  induction h generalizing i with
  | start => exact hmono (fun k hk => hk.elim) (hstart i)
  | @step s _ j a hheard ih =>
    have hknown : ∀ k, (∃ j', origin (s j') k) →
        ∃ j', origin (Function.update s j (net.next j a (s j)) j') k := by
      rintro k ⟨j', hk⟩
      refine ⟨j', ?_⟩
      by_cases hj : j' = j
      · subst hj
        rw [Function.update_self]
        exact hgrows (ih j') hk
      · rwa [Function.update_of_ne hj]
    refine hmono hknown ?_
    by_cases hij : i = j
    · subst hij
      rw [Function.update_self]
      refine hnext (ih i) fun m hm k hk => ?_
      obtain ⟨j', hj'⟩ := hheard m hm
      exact (hsaid (ih j') hj' hk).elim (fun h => ⟨j', h⟩) id
    · rw [Function.update_of_ne hij]
      exact ih i

end Net
