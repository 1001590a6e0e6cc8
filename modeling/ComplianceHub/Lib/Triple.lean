import Mathlib.Logic.Basic

/-!
# Triples of stateful computations that may raise

A computation that raises keeps what it has written, so that a triple speaks of both outcomes.

* `Triple P m Q E` : from a state with `P`, a result and its state satisfy `Q`, the state of an exception satisfies `E`;
* `reads f` : a computation that only reads, with its rule `triple_reads`;
* `attempt m` : a computation whose exception is a value (`triple_attempt`);
* `Keeps I m` : `I` is kept, whether the computation returns or raises (`Keeps.forM`);
* `leaves m s` : the state that it leaves (`Triple.leaves`, `triple_of_leaves`, `leaves_reads`, `leaves_given`,
  `leaves_modify`, `leaves_bind`);
* `returns_bind`, `returns_reads`, `returns_modify`, `returns_attempt` : what a computation that returns has done; `returned` : whether it
  returns.
-/

namespace ComplianceHub.Lib

variable {σ ε α β : Type}

/-- `Q` of a result and its state, `E` of the state in which an exception was raised. -/
def Satisfies (Q : α → σ → Prop) (E : σ → Prop) : EStateM.Result ε σ α → Prop
  | .ok a s => Q a s
  | .error _ s => E s

def Triple (P : σ → Prop) (m : EStateM ε σ α) (Q : α → σ → Prop) (E : σ → Prop) : Prop :=
  ∀ s, P s → Satisfies Q E (m s)

/-- A computation that only reads. -/
def reads (f : σ → Except ε α) : EStateM ε σ α := fun s =>
  match f s with
  | .ok a => .ok a s
  | .error e => .error e s

variable {P : σ → Prop} {Q : α → σ → Prop} {R : β → σ → Prop} {E : σ → Prop}

theorem triple_pure {a : α} (h : ∀ s, P s → Q a s) : Triple P (pure a : EStateM ε σ α) Q E := h

theorem triple_reads {f : σ → Except ε α} (hQ : ∀ s a, P s → f s = .ok a → Q a s) (hE : ∀ s, P s → E s) :
    Triple P (reads f) Q E := by
  intro s hs
  unfold reads
  cases hf : f s with
  | ok a => exact hQ s a hs hf
  | error e => exact hE s hs

theorem triple_modify {f : σ → σ} {Q : Unit → σ → Prop} (h : ∀ s, P s → Q () (f s)) :
    Triple P (modify f : EStateM ε σ Unit) Q E := h

theorem triple_bind {m : EStateM ε σ α} {f : α → EStateM ε σ β} (hm : Triple P m Q E)
    (hf : ∀ a, Triple (Q a) (f a) R E) : Triple P (m >>= f) R E := by
  intro s hs
  have hfirst := hm s hs
  show Satisfies R E (EStateM.bind m f s)
  unfold EStateM.bind
  cases hms : m s with
  | ok a s' =>
    rw [hms] at hfirst
    exact hf a s' hfirst
  | error e s' =>
    rw [hms] at hfirst
    exact hfirst

theorem triple_modifyGet {f : σ → α × σ} (h : ∀ s, P s → Q (f s).1 (f s).2) :
    Triple P (modifyGet f : EStateM ε σ α) Q E := h

/-- A computation whose exception is a value. -/
def attempt (m : EStateM ε σ α) : EStateM ε σ (Except ε α) := fun s =>
  match m s with
  | .ok a s' => .ok (.ok a) s'
  | .error e s' => .ok (.error e) s'

theorem triple_attempt {m : EStateM ε σ α} {Q : σ → Prop} (hm : Triple P m (fun _ => Q) Q) :
    Triple P (attempt m) (fun _ => Q) E := by
  intro s hs
  have h := hm s hs
  unfold attempt
  cases hms : m s with
  | ok a s' =>
    rw [hms] at h
    exact h
  | error e s' =>
    rw [hms] at h
    exact h

/-- What holds before holds after, whether the computation returns or raises. -/
def Keeps (I : σ → Prop) (m : EStateM ε σ α) : Prop := Triple I m (fun _ => I) I

/-- A loop keeps what each of its items keeps. -/
theorem Keeps.forM_mem {I : σ → Prop} {f : α → EStateM ε σ PUnit} {items : List α} (h : ∀ a ∈ items, Keeps I (f a)) :
    Keeps I (items.forM f) := by
  induction items with
  | nil => exact triple_pure fun _ h => h
  | cons item rest ih =>
    exact triple_bind (h item List.mem_cons_self) fun _ => ih fun a ha => h a (List.mem_cons_of_mem _ ha)

theorem Keeps.forM {I : σ → Prop} {f : α → EStateM ε σ PUnit} (h : ∀ a, Keeps I (f a)) (items : List α) :
    Keeps I (items.forM f) :=
  Keeps.forM_mem fun a _ => h a

/-- A loop that carries a value keeps what each of its items keeps. -/
theorem Keeps.foldlM_mem {I : σ → Prop} {f : β → α → EStateM ε σ β} {items : List α}
    (h : ∀ b, ∀ a ∈ items, Keeps I (f b a)) (b : β) : Keeps I (items.foldlM f b) := by
  induction items generalizing b with
  | nil => exact triple_pure fun _ h => h
  | cons item rest ih =>
    rw [List.foldlM_cons]
    exact triple_bind (h b item List.mem_cons_self) fun _ => ih (fun b a ha => h b a (List.mem_cons_of_mem _ ha)) _

theorem Keeps.reads_bind {I : σ → Prop} {f : σ → Except ε α} {k : α → EStateM ε σ β} (h : ∀ a, Keeps I (k a)) :
    Keeps I (reads f >>= k) :=
  triple_bind (triple_reads (fun _ _ hs _ => hs) fun _ hs => hs) h

/-- The state that a computation leaves. -/
def leaves (m : EStateM ε σ α) (s : σ) : σ :=
  match m s with
  | .ok _ s' => s'
  | .error _ s' => s'

theorem Triple.leaves {m : EStateM ε σ α} {I : σ → Prop} (h : Triple P m (fun _ => I) I) {s : σ} (hs : P s) :
    I (Lib.leaves m s) := by
  have hm := h s hs
  unfold Lib.leaves
  cases hms : m s with
  | ok a s' =>
    rw [hms] at hm
    exact hm
  | error e s' =>
    rw [hms] at hm
    exact hm

theorem triple_of_leaves {m : EStateM ε σ α} {I : σ → Prop} (h : ∀ s, P s → I (Lib.leaves m s)) :
    Triple P m (fun _ => I) I := by
  intro s hs
  have hleft := h s hs
  unfold Lib.leaves at hleft
  unfold Satisfies
  cases hms : m s with
  | ok a s' =>
    rw [hms] at hleft
    exact hleft
  | error e s' =>
    rw [hms] at hleft
    exact hleft

/-- A computation that only reads leaves the state. -/
theorem leaves_only_reads (f : σ → Except ε α) (s : σ) : Lib.leaves (reads f) s = s := by
  unfold Lib.leaves reads
  cases f s with
  | ok a => rfl
  | error e => rfl

/-- A computation goes on from what it has read. -/
theorem leaves_reads {f : σ → Except ε α} {k : α → EStateM ε σ β} {s : σ} {a : α} (h : f s = .ok a) :
    Lib.leaves (reads f >>= k) s = Lib.leaves (k a) s := by
  have hread : reads f s = .ok a s := by
    unfold reads
    rw [h]
  show Lib.leaves (EStateM.bind (reads f) k) s = _
  unfold Lib.leaves EStateM.bind
  rw [hread]

/-- A computation that raises where it reads leaves the state. -/
theorem leaves_reads_error {f : σ → Except ε α} {k : α → EStateM ε σ β} {s : σ} {e : ε} (h : f s = .error e) :
    Lib.leaves (reads f >>= k) s = s := by
  have hread : reads f s = .error e s := by
    unfold reads
    rw [h]
  show Lib.leaves (EStateM.bind (reads f) k) s = s
  unfold Lib.leaves EStateM.bind
  rw [hread]

theorem leaves_only_modify (f : σ → σ) (s : σ) : Lib.leaves (modify f : EStateM ε σ PUnit) s = f s := rfl

/-- What is read is no part of the state. -/
theorem leaves_given {x : Except ε α} {k : α → EStateM ε σ β} {a : α} (h : x = .ok a) (s : σ) :
    Lib.leaves (reads (fun _ => x) >>= k) s = Lib.leaves (k a) s :=
  leaves_reads (f := fun _ => x) (s := s) h

theorem leaves_given_error {x : Except ε α} {k : α → EStateM ε σ β} {e : ε} (h : x = .error e) (s : σ) :
    Lib.leaves (reads (fun _ => x) >>= k) s = s :=
  leaves_reads_error (f := fun _ => x) (s := s) h

/-- What holds of the state that a first part leaves, and is kept by the rest from there, holds of what the whole leaves. -/
theorem leaves_bind {m : EStateM ε σ α} {k : α → EStateM ε σ β} {R : σ → Prop} {s : σ} (hm : R (Lib.leaves m s))
    (hk : ∀ a, R (Lib.leaves (k a) (Lib.leaves m s))) : R (Lib.leaves (m >>= k) s) := by
  show R (Lib.leaves (EStateM.bind m k) s)
  unfold Lib.leaves EStateM.bind at *
  cases hms : m s with
  | ok a s' =>
    rw [hms] at hk
    exact hk a
  | error e s' =>
    rw [hms] at hm
    exact hm

/-! ## Computations that return -/

theorem returns_bind {m : EStateM ε σ α} {k : α → EStateM ε σ β} {s t : σ} {b : β} :
    (m >>= k) s = .ok b t ↔ ∃ a u, m s = .ok a u ∧ k a u = .ok b t := by
  show EStateM.bind m k s = .ok b t ↔ _
  unfold EStateM.bind
  cases hms : m s with
  | ok a u =>
    constructor
    · intro h
      exact ⟨a, u, rfl, h⟩
    · rintro ⟨_, _, hsame, h⟩
      cases hsame
      exact h
  | error e u => simp

theorem returns_reads {f : σ → Except ε α} {s t : σ} {a : α} : reads f s = .ok a t ↔ f s = .ok a ∧ t = s := by
  unfold reads
  cases f s with
  | ok b =>
    constructor
    · intro h
      cases h
      exact ⟨rfl, rfl⟩
    · rintro ⟨h, rfl⟩
      cases h
      rfl
  | error e => simp

theorem returns_modify {f : σ → σ} {s t : σ} {u : PUnit} : (modify f : EStateM ε σ PUnit) s = .ok u t ↔ t = f s := by
  constructor
  · intro h
    cases h
    rfl
  · rintro rfl
    rfl

theorem returns_attempt {m : EStateM ε σ α} {s t : σ} {a : α} : attempt m s = .ok (.ok a) t ↔ m s = .ok a t := by
  unfold attempt
  cases m s with
  | ok b u =>
    constructor
    · intro h
      cases h
      rfl
    · intro h
      cases h
      rfl
  | error e u => simp

theorem returns_pure {s t : σ} {a b : α} : (pure a : EStateM ε σ α) s = .ok b t ↔ b = a ∧ t = s := by
  constructor
  · intro h
    cases h
    exact ⟨rfl, rfl⟩
  · rintro ⟨rfl, rfl⟩
    rfl

def returned (m : EStateM ε σ α) (s : σ) : Bool :=
  match m s with
  | .ok _ _ => true
  | .error _ _ => false

theorem exists_of_returned {m : EStateM ε σ α} {s : σ} (h : returned m s = true) : ∃ a t, m s = .ok a t := by
  unfold returned at h
  cases hms : m s with
  | ok a t => exact ⟨a, t, rfl⟩
  | error e t =>
    rw [hms] at h
    cases h

theorem returns_of_returned {m : EStateM ε σ PUnit} {s : σ} (h : returned m s = true) : m s = .ok ⟨⟩ (leaves m s) := by
  unfold returned at h
  unfold leaves
  cases hms : m s with
  | ok a t => rfl
  | error e t =>
    rw [hms] at h
    cases h

end ComplianceHub.Lib
