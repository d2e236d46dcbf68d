import LiquidityController.Logged

/-!
# Computations that report events

A computation made of two succeeds only if both do, and then with the result of the second. This
takes a successful run of an operation apart, step by step, without regard to its events. Where the
events matter as well, computations are compared as wholes, by the laws of a monad.
-/

namespace LiquidityController.Logged

variable {ε α β γ : Type}

/-- The computation succeeds with a value. Unlike an equation about `result`, which is a projection,
this is compared without running the computation. -/
def Returns (computation : Logged ε α) (value : α) : Prop :=
  computation.result = .ok value

@[simp] theorem returns_pure {value result : α} :
    (pure value : Logged ε α).Returns result ↔ value = result := by
  change Except.ok value = .ok result ↔ _
  simp

@[simp] theorem returns_liftM {attempt : Except ε α} {value : α} :
    (liftM attempt : Logged ε α).Returns value ↔ attempt = .ok value := Iff.rfl

@[simp] theorem returns_report {event : Event} {value : Unit} :
    (report event : Logged ε Unit).Returns value ↔ True :=
  iff_true_intro rfl

theorem returns_bind {first : Logged ε α} {next : α → Logged ε β} {value : β} :
    (first >>= next).Returns value ↔
      ∃ middle, first.Returns middle ∧ (next middle).Returns value := by
  change (first.bind next).result = .ok value ↔ _
  unfold Logged.bind Returns
  cases first.result with
  | error failure => simp
  | ok middle => simp

/-! ### Laws -/

theorem bind_pure (computation : Logged ε α) : computation >>= pure = computation := by
  obtain ⟨events, result⟩ := computation
  change (Logged.mk events result).bind (fun value => ⟨[], .ok value⟩) = _
  cases result with
  | error failure => rfl
  | ok value => simp [Logged.bind]

theorem bind_assoc (first : Logged ε α) (next : α → Logged ε β) (last : β → Logged ε γ) :
    first >>= next >>= last = first >>= fun value => next value >>= last := by
  obtain ⟨events, result⟩ := first
  change ((Logged.mk events result).bind next).bind last =
    (Logged.mk events result).bind fun value => (next value).bind last
  cases result with
  | error failure => rfl
  | ok value =>
    simp only [Logged.bind]
    cases (next value).result with
    | error failure => rfl
    | ok value => simp only [List.append_assoc]

instance : LawfulMonad (Logged ε) :=
  .mk' _ bind_pure (fun _ _ => rfl) bind_assoc

theorem result_map (f : α → β) (computation : Logged ε α) :
    (f <$> computation).result = f <$> computation.result := by
  obtain ⟨events, result⟩ := computation
  cases result <;> rfl

theorem map_error (f : α → β) (events : List Event) (failure : ε) :
    f <$> (⟨events, .error failure⟩ : Logged ε α) = ⟨events, .error failure⟩ := rfl

theorem map_ok (f : α → β) (events : List Event) (value : α) :
    f <$> (⟨events, .ok value⟩ : Logged ε α) = ⟨events, .ok (f value)⟩ := by
  change Logged.mk (events ++ []) _ = _
  rw [List.append_nil]
  rfl

end LiquidityController.Logged
