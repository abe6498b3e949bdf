import Mathlib.Tactic

/-!
# Programs over an environment and a state

A program reads an environment that never changes and transforms a state. Nothing else is
assumed: every call returns, and answers of the outside world are read from the environment.

What a program can do to the state is stated by a relation `R env before after`. When such a
relation is reflexive and transitive (`Composes R`), the programs that stay inside it are closed
under sequencing and branching, and `Moves R m` is a class so that instance search does that
bookkeeping: a new program needs one instance, found by unfolding it.

Some programs acquire a resource and pass it on: a call hands over a buffer that some later call
must take. `Uses R h m h'` says that `m` starts with the resources `h` in hand and ends with those
`h'` names, for a relation `R` on resources and states together. What the caller holds besides
is framed away by the definition, and instance search follows one resource from the call that
acquires it to the one that takes it.

## Main definitions

* `Prog` — programs, with their monad structure
* `Returns` — programs whose results satisfy a predicate
* `Composes`, `Moves` — relations closed under composition, and programs that stay inside one
* `Uses` — programs with the resources they take and give

## Main results

* `Moves.bind`, `Moves.ite`, `Moves.elim` — the instances that decompose a program
* `Uses.bind`, `Uses.acquire`, `Uses.consume` — a resource is framed, acquired, or given away
-/

/-- A program: an environment and a state give a result and a new state. -/
def Prog (ρ σ α : Type) : Type := ρ → σ → α × σ

namespace Prog

-- The evaluation lemmas below are proved by tactic: as `rfl` lemmas `simp` would use them inside
-- the condition of an `if` without rewriting its `Decidable` instance.

variable {ρ σ α β : Type}

instance : Monad (Prog ρ σ) where
  pure a := fun _ s => (a, s)
  bind m f := fun r s => f (m r s).1 r (m r s).2

/-- The environment. -/
def env : Prog ρ σ ρ := fun r s => (r, s)

/-- A component of the state. -/
def gets (f : σ → α) : Prog ρ σ α := fun _ s => (f s, s)

/-- Change the state. -/
def modify (f : σ → σ) : Prog ρ σ Unit := fun _ s => ((), f s)

@[simp] theorem run_pure (a : α) (r : ρ) (s : σ) : (pure a : Prog ρ σ α) r s = (a, s) := by
  rfl

@[simp] theorem run_bind (m : Prog ρ σ α) (f : α → Prog ρ σ β) (r : ρ) (s : σ) :
    (m >>= f) r s = f (m r s).1 r (m r s).2 := by
  rfl

@[simp] theorem run_env (r : ρ) (s : σ) : (env : Prog ρ σ ρ) r s = (r, s) := by
  rfl

@[simp] theorem run_gets (f : σ → α) (r : ρ) (s : σ) : (gets f : Prog ρ σ α) r s = (f s, s) := by
  rfl

@[simp] theorem run_modify (f : σ → σ) (r : ρ) (s : σ) :
    (modify f : Prog ρ σ Unit) r s = ((), f s) := by
  rfl

@[simp] theorem run_map (f : α → β) (m : Prog ρ σ α) (r : ρ) (s : σ) :
    (f <$> m) r s = (f (m r s).1, (m r s).2) := by
  rfl

@[simp] theorem run_ite (c : Prop) [Decidable c] (m n : Prog ρ σ α) (r : ρ) (s : σ) :
    (if c then m else n) r s = if c then m r s else n r s := by
  split <;> rfl

/-- Sequencing, when the first program is already evaluated. -/
theorem run_bind_of {m : Prog ρ σ α} {r : ρ} {s s' : σ} {a : α} (h : m r s = (a, s'))
    (f : α → Prog ρ σ β) : (m >>= f) r s = f a r s' := by
  rw [run_bind, h]

end Prog

/-! ### What a program can answer -/

/-- A program whose results all satisfy `P`. -/
class Returns {ρ σ α : Type} (P : α → Prop) (m : Prog ρ σ α) : Prop where
  returns : ∀ r s, P (m r s).1

namespace Returns

variable {ρ σ α β : Type} {P : β → Prop}

instance bind (m : Prog ρ σ α) (f : α → Prog ρ σ β) [hf : ∀ a, Returns P (f a)] :
    Returns P (m >>= f) where
  returns r _ := (hf _).returns r _

/-- What follows may rely on what the first program answers. -/
theorem bind_of_returns {Q : α → Prop} {m : Prog ρ σ α} {f : α → Prog ρ σ β} [hQ : Returns Q m]
    (hf : ∀ a, Q a → Returns P (f a)) : Returns P (m >>= f) where
  returns r s := (hf _ (hQ.returns r s)).returns r _

instance ite (c : Prop) [Decidable c] (m n : Prog ρ σ β) [hm : Returns P m] [hn : Returns P n] :
    Returns P (if c then m else n) := by
  split
  · exact hm
  · exact hn

end Returns

/-! ### What a program can do -/

/-- A relation between the states before and after, closed under doing one thing after another. -/
class Composes {ρ σ : Type} (R : ρ → σ → σ → Prop) : Prop where
  refl : ∀ r s, R r s s
  trans : ∀ r s s' s'', R r s s' → R r s' s'' → R r s s''

/-- A program that stays inside the relation `R`. -/
class Moves {ρ σ α : Type} (R : ρ → σ → σ → Prop) (m : Prog ρ σ α) : Prop where
  moves : ∀ r s, R r s (m r s).2

namespace Moves

variable {ρ σ α β : Type} {R : ρ → σ → σ → Prop} [Composes R]

instance pure (a : α) : Moves R (Pure.pure a : Prog ρ σ α) := ⟨fun r s => Composes.refl r s⟩

instance bind (m : Prog ρ σ α) (f : α → Prog ρ σ β) [hm : Moves R m] [hf : ∀ a, Moves R (f a)] :
    Moves R (m >>= f) where
  moves r s := Composes.trans r s _ _ (hm.moves r s) ((hf _).moves r _)

/-- What follows may rely on what the first program answers. -/
theorem bind_of_returns {P : α → Prop} {m : Prog ρ σ α} {f : α → Prog ρ σ β} [hP : Returns P m]
    [hm : Moves R m] (hf : ∀ a, P a → Moves R (f a)) : Moves R (m >>= f) where
  moves r s := Composes.trans r s _ _ (hm.moves r s) ((hf _ (hP.returns r s)).moves r _)

instance ite (c : Prop) [Decidable c] (m n : Prog ρ σ α) [hm : Moves R m] [hn : Moves R n] :
    Moves R (if c then m else n) := by
  split
  · exact hm
  · exact hn

/-- The two ways out of an optional result. -/
instance elim (o : Option α) (n : Prog ρ σ β) (f : α → Prog ρ σ β) [hn : Moves R n]
    [hf : ∀ a, Moves R (f a)] : Moves R (o.elim n f) := by
  cases o with
  | none => exact hn
  | some a => exact hf a

instance map (f : α → β) (m : Prog ρ σ α) [hm : Moves R m] : Moves R (f <$> m) := ⟨hm.moves⟩

instance env : Moves R (Prog.env : Prog ρ σ ρ) := ⟨fun r s => Composes.refl r s⟩

instance gets (f : σ → α) : Moves R (Prog.gets f : Prog ρ σ α) := ⟨fun r s => Composes.refl r s⟩

end Moves

/-! ### Resources -/

/-- A program that starts with the resources `h` and ends with `h' a` for its result `a`, whatever
else is held. -/
class Uses {ρ σ α ι : Type} (R : ρ → List ι × σ → List ι × σ → Prop) (h : List ι)
    (m : Prog ρ σ α) (h' : α → List ι) : Prop where
  uses : ∀ r s extra, R r (h ++ extra, s) (h' (m r s).1 ++ extra, (m r s).2)

namespace Uses

variable {ρ σ α β ι : Type} {R : ρ → List ι × σ → List ι × σ → Prop} [Composes R]
  {h : List ι} {k : β → List ι}

/-- Doing nothing gives back what the result names. -/
instance pure (b : β) : Uses R (k b) (Pure.pure b : Prog ρ σ β) k :=
  ⟨fun r _ _ => Composes.refl r _⟩

instance pureNil (b : β) : Uses R ([] : List ι) (Pure.pure b : Prog ρ σ β) fun _ => [] :=
  ⟨fun r _ _ => Composes.refl r _⟩

instance pureNone : Uses R ([] : List ι) (Pure.pure none : Prog ρ σ (Option ι)) Option.toList :=
  ⟨fun r _ _ => Composes.refl r _⟩

instance pureSome (i : ι) :
    Uses R [i] (Pure.pure (some i) : Prog ρ σ (Option ι)) Option.toList :=
  ⟨fun r _ _ => Composes.refl r _⟩

/-- What the first program does not touch is framed around it. -/
instance bind (m : Prog ρ σ α) (f : α → Prog ρ σ β) [hm : Uses R [] m fun _ => []]
    [hf : ∀ a, Uses R h (f a) k] : Uses R h (m >>= f) k where
  uses r s extra := by
    have h1 := hm.uses r s (h ++ extra)
    exact Composes.trans r _ _ _ h1 ((hf _).uses r _ extra)

/-- The first program takes the resource. -/
instance (priority := low) consume (i : ι) (m : Prog ρ σ α) (f : α → Prog ρ σ β)
    [hm : Uses R [i] m fun _ => []] [hf : ∀ a, Uses R [] (f a) k] : Uses R [i] (m >>= f) k where
  uses r s extra := Composes.trans r _ _ _ (hm.uses r s extra) ((hf _).uses r _ extra)

/-- The first program works on the resource. -/
instance (priority := low) hold (i : ι) (m : Prog ρ σ α) (f : α → Prog ρ σ β)
    [hm : Uses R [i] m fun _ => [i]] [hf : ∀ a, Uses R [i] (f a) k] : Uses R [i] (m >>= f) k where
  uses r s extra := Composes.trans r _ _ _ (hm.uses r s extra) ((hf _).uses r _ extra)

/-- The first program hands over a resource, or none. -/
instance (priority := low) acquire (m : Prog ρ σ (Option ι)) (n : Prog ρ σ β)
    (f : ι → Prog ρ σ β) [hm : Uses R [] m Option.toList] [hn : Uses R [] n k]
    [hf : ∀ i, Uses R [i] (f i) k] : Uses R [] (m >>= fun o => o.elim n f) k where
  uses r s extra := by
    have h1 := hm.uses r s extra
    rw [Prog.run_bind]
    cases ho : (m r s).1 with
    | none =>
      rw [ho] at h1
      exact Composes.trans r _ _ _ h1 (hn.uses r _ extra)
    | some i =>
      rw [ho] at h1
      exact Composes.trans r _ _ _ h1 ((hf i).uses r _ extra)

/-- What follows may rely on what the first program answers. -/
theorem bind_of_returns {P : α → Prop} {m : Prog ρ σ α} {f : α → Prog ρ σ β} [hP : Returns P m]
    [hm : Uses R [] m fun _ => []] (hf : ∀ a, P a → Uses R h (f a) k) : Uses R h (m >>= f) k where
  uses r s extra := by
    have h1 := hm.uses r s (h ++ extra)
    exact Composes.trans r _ _ _ h1 ((hf _ (hP.returns r s)).uses r _ extra)

instance ite (c : Prop) [Decidable c] (m n : Prog ρ σ β) [hm : Uses R h m k] [hn : Uses R h n k] :
    Uses R h (if c then m else n) k := by
  split
  · exact hm
  · exact hn

instance elim (o : Option α) (n : Prog ρ σ β) (f : α → Prog ρ σ β) [hn : Uses R h n k]
    [hf : ∀ a, Uses R h (f a) k] : Uses R h (o.elim n f) k := by
  cases o with
  | none => exact hn
  | some a => exact hf a

end Uses
