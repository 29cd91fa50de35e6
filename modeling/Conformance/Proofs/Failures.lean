import Conformance.Proofs.RegistryRules

/-!
# The errors a computation may end with

To say that a computation ends only with errors of some class, it is enough to say so of its steps.
-/

namespace Conformance

/-- Every error that the computation may end with is of the class. -/
def FailsOnly {ε α : Type} (P : ε → Prop) (x : Except ε α) : Prop :=
  ∀ e, x = .error e → P e

namespace FailsOnly
variable {ε α β : Type} {P Q : ε → Prop} {x : Except ε α}

theorem ok (a : α) : FailsOnly P (.ok a) := nofun

theorem error {e : ε} (h : P e) : FailsOnly P (.error e : Except ε α) := by
  intro e' he
  cases he
  exact h

theorem mono (h : FailsOnly P x) (hPQ : ∀ e, P e → Q e) : FailsOnly Q x :=
  fun e he => hPQ e (h e he)

theorem bind {f : α → Except ε β} (hx : FailsOnly P x)
    (hf : ∀ a, x = .ok a → FailsOnly P (f a)) : FailsOnly P (x >>= f) := by
  intro e he
  cases x with
  | error e' =>
    cases he
    exact hx e rfl
  | ok a => exact hf a rfl e he

/-- A step that may follow any value of the one before. -/
theorem seq {f : α → Except ε β} (hx : FailsOnly P x) (hf : ∀ a, FailsOnly P (f a)) :
    FailsOnly P (x >>= f) :=
  hx.bind fun a _ => hf a

theorem map {f : α → β} (hx : FailsOnly P x) : FailsOnly P (f <$> x) := by
  intro e he
  cases x with
  | error e' =>
    cases he
    exact hx e rfl
  | ok a => cases he

theorem mapM {f : α → Except ε β} {xs : List α} (h : ∀ a ∈ xs, FailsOnly P (f a)) :
    FailsOnly P (xs.mapM f) := by
  induction xs with
  | nil => exact ok []
  | cons a rest ih =>
    rw [List.mapM_cons]
    apply bind (h a List.mem_cons_self)
    intro b _
    apply bind (ih fun a' ha' => h a' (List.mem_cons_of_mem a ha'))
    intro bs _
    exact ok (b :: bs)

theorem mapError {δ : Type} {P : δ → Prop} {f : ε → δ} (hx : FailsOnly Q x)
    (hf : ∀ e, Q e → P (f e)) : FailsOnly P (x.mapError f) := by
  intro e he
  cases x with
  | error e' =>
    cases he
    exact hf e' (hx e' rfl)
  | ok a => cases he

end FailsOnly

end Conformance
