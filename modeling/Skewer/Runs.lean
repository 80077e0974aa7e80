import Mathlib.Logic.Relation
import Mathlib.Data.Nat.Defs

/-!
# Runs that end

Facts about any step relation, shared by the models of the goroutines. An
invariant that every step keeps holds along every run. A measure that every
step lowers bounds every run; and where, besides, every state of an invariant
can step or is done, every run that can go no further is done.
-/

namespace Skewer

/-- An invariant that each step keeps holds of every state a run reaches. -/
theorem invariant_run {σ : Type} {r : σ → σ → Prop} {inv : σ → Prop}
    (step : ∀ a b, inv a → r a b → inv b) {a b : σ} (holds : inv a)
    (run : Relation.ReflTransGen r a b) : inv b := by
  induction run with
  | refl => exact holds
  | tail _ next ih => exact step _ _ ih next

/-- No run of `r` from `a` goes on for ever, where each step from a state of `inv` keeps `inv` and lowers `measure`. -/
theorem acc_of_measure {σ : Type} {r : σ → σ → Prop} {inv : σ → Prop} (measure : σ → Nat)
    (step : ∀ a b, inv a → r a b → inv b ∧ measure b < measure a) {a : σ} (holds : inv a) :
    Acc (fun b a => r a b) a := by
  generalize left : measure a = n
  induction n using Nat.strong_induction_on generalizing a with
  | _ n ih =>
      exact ⟨_, fun b next => ih _ (left ▸ (step a b holds next).2) (step a b holds next).1 rfl⟩

/--
From a state of such an invariant no run goes on for ever, and every state a
run reaches can step or satisfies `done`, given that every state of the
invariant can.
-/
theorem run_of_invariant {σ : Type} {r : σ → σ → Prop} {inv done : σ → Prop} (measure : σ → Nat)
    (step : ∀ a b, inv a → r a b → inv b ∧ measure b < measure a)
    (stuck : ∀ a, inv a → (∃ b, r a b) ∨ done a) {a : σ} (holds : inv a) :
    Acc (fun b a => r a b) a ∧ ∀ b, Relation.ReflTransGen r a b → (∃ c, r b c) ∨ done b := by
  refine ⟨acc_of_measure measure step holds, fun b reach => stuck b ?_⟩
  induction reach with
  | refl => exact holds
  | tail _ next ih => exact (step _ _ ih next).1

end Skewer
