import PageTemplates.Disk.Host

/-!
# Outcomes of operations

An operation on a state may fail half way, and the state it leaves behind counts either
way. Its outcome is both, and the outcome of a composed operation is that of its parts.
-/

namespace PageTemplates

section

variable {ε σ α β : Type}

/-- The outcome of an operation on a state, and the state it leaves behind. -/
def outcome (x : ExceptT ε (StateM σ) α) (s : σ) : Except ε α × σ := x.run.run s

@[simp] theorem outcome_pure (a : α) (s : σ) :
    outcome (pure a : ExceptT ε (StateM σ) α) s = (.ok a, s) := rfl

@[simp] theorem outcome_throw (e : ε) (s : σ) :
    outcome (throw e : ExceptT ε (StateM σ) α) s = (.error e, s) := rfl

@[simp] theorem outcome_get (s : σ) :
    outcome (get : ExceptT ε (StateM σ) σ) s = (.ok s, s) := rfl

@[simp] theorem outcome_set (s s' : σ) :
    outcome (set s' : ExceptT ε (StateM σ) Unit) s = (.ok (), s') := rfl

@[simp] theorem outcome_modify (f : σ → σ) (s : σ) :
    outcome (modify f : ExceptT ε (StateM σ) Unit) s = (.ok (), f s) := rfl

theorem outcome_bind (x : ExceptT ε (StateM σ) α) (f : α → ExceptT ε (StateM σ) β) (s : σ) :
    outcome (x >>= f) s =
      match outcome x s with
      | (.ok a, s') => outcome (f a) s'
      | (.error e, s') => (.error e, s') := by
  unfold outcome
  simp only [ExceptT.run_bind, StateT.run_bind]
  rcases x.run.run s with ⟨_ | a, s'⟩ <;> rfl

theorem outcome_forM_cons {τ : Type} (x : τ → ExceptT ε (StateM σ) Unit) (t : τ) (ts : List τ)
    (s : σ) : outcome ((t :: ts).forM x) s =
      match outcome (x t) s with
      | (.ok _, s') => outcome (ts.forM x) s'
      | (.error e, s') => (.error e, s') := by
  show outcome (x t >>= fun _ => ts.forM x) s = _
  rw [outcome_bind]
  rcases outcome (x t) s with ⟨_ | _, _⟩ <;> rfl

theorem outcome_forM_append {τ : Type} (x : τ → ExceptT ε (StateM σ) Unit) (ts us : List τ)
    (s : σ) : outcome ((ts ++ us).forM x) s =
      match outcome (ts.forM x) s with
      | (.ok _, s') => outcome (us.forM x) s'
      | (.error e, s') => (.error e, s') := by
  rw [List.forM_eq_forM, List.forM_append, outcome_bind]
  rcases outcome (forM ts x) s with ⟨_ | _, _⟩ <;> rfl

/-- An operation succeeds when both of its halves do. -/
theorem outcome_bind_eq_ok {x : ExceptT ε (StateM σ) α} {f : α → ExceptT ε (StateM σ) β}
    {s s' : σ} {b : β} : outcome (x >>= f) s = (.ok b, s') ↔
      ∃ a s₁, outcome x s = (.ok a, s₁) ∧ outcome (f a) s₁ = (.ok b, s') := by
  rw [outcome_bind]
  rcases outcome x s with ⟨_ | a, s₁⟩
  · simp
  · simp only [Prod.mk.injEq, Except.ok.injEq]
    exact ⟨fun h => ⟨a, s₁, ⟨rfl, rfl⟩, h⟩, fun ⟨_, _, ⟨rfl, rfl⟩, h⟩ => h⟩

end

end PageTemplates
