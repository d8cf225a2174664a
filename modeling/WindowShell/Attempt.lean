/-
**Attempts.**

An attempt works on a state, and it either yields a value or ends in a fault. A fault takes nothing back:
what was done before it stays done. So an attempt that ends in a fault leaves a state behind as well, and
that this is the state it started from has to be shown for each attempt (`LeavesNoTrace`).
-/

namespace WindowShell

/-- Something that is done to a state; a fault keeps what was done before it. -/
abbrev Attempt (ε σ : Type) := ExceptT ε (StateM σ)

namespace Attempt

variable {ε σ α β : Type}

/-- How an attempt ends, and the state it leaves behind. -/
def runOn (act : Attempt ε σ α) (state : σ) : Except ε α × σ := act.run.run state

@[simp] theorem runOn_pure (value : α) (state : σ) :
    runOn (pure value : Attempt ε σ α) state = (.ok value, state) := rfl

@[simp] theorem runOn_throw (error : ε) (state : σ) :
    runOn (throw error : Attempt ε σ α) state = (.error error, state) := rfl

@[simp] theorem runOn_get (state : σ) :
    runOn (get : Attempt ε σ σ) state = (.ok state, state) := rfl

@[simp] theorem runOn_modify (change : σ → σ) (state : σ) :
    runOn (modify change : Attempt ε σ PUnit) state = (.ok ⟨⟩, change state) := rfl

@[simp] theorem runOn_modifyGet (change : σ → α × σ) (state : σ) :
    runOn (modifyGet change : Attempt ε σ α) state = ((.ok (change state).1), (change state).2) := rfl

@[simp] theorem runOn_bind (act : Attempt ε σ α) (next : α → Attempt ε σ β) (state : σ) :
    runOn (act >>= next) state =
      match act.runOn state with
      | (.ok value, left) => (next value).runOn left
      | (.error error, left) => (.error error, left) := by
  have bind : runOn (act >>= next) state =
      ExceptT.bindCont next (act.runOn state).1 (act.runOn state).2 := rfl
  rw [bind]
  rcases act.runOn state with ⟨_ | _, _⟩ <;> rfl

@[simp] theorem runOn_map (change : α → β) (act : Attempt ε σ α) (state : σ) :
    runOn (change <$> act) state =
      match act.runOn state with
      | (.ok value, left) => (.ok (change value), left)
      | (.error error, left) => (.error error, left) :=
  runOn_bind act (fun value => pure (change value)) state

/-- An attempt that ends in a fault leaves the state as it was. -/
def LeavesNoTrace (act : Attempt ε σ α) (state : σ) : Prop :=
  ∀ error, (act.runOn state).1 = .error error → (act.runOn state).2 = state

end Attempt

end WindowShell
