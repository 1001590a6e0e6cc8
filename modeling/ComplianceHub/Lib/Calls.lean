import ComplianceHub.Lib.Run
import Mathlib.Logic.Function.Basic

/-!
# Interleaved calls

* `Calls`, `Pool` : calls that take atomic steps over a shared state, any number of them at a time;
* `Calls.interleaved` : the system of all their interleavings;
* `Calls.always` : an invariant of the shared state and of each call. A step keeps the invariant of the call that takes
  it, and disturbs that of no other call;
* `Calls.pairwise` : a relation between any two calls; `Calls.always_pairwise` : the invariants and such a relation,
  each kept with the help of the others;
* `Calls.execute` : an interleaving computed from its steps (`Calls.run_of_execute`).
-/

namespace ComplianceHub.Lib

/-- Calls with local states `κ` over a shared state `σ`; `ε` is what a step learns from outside. -/
structure Calls (σ κ ε : Type) where
  init : σ → Prop
  start : κ → Prop
  /-- The step of a call, none where it cannot be taken. -/
  step : σ → κ → ε → Option (σ × κ)

/-- The shared state, and the local state of every call. -/
structure Pool (ι σ κ : Type) where
  shared : σ
  call : ι → κ

variable {ι σ κ ε : Type} [DecidableEq ι]

/-- The pool after a call has taken its step. -/
def Pool.after (p : Pool ι σ κ) (i : ι) (r : σ × κ) : Pool ι σ κ := ⟨r.1, Function.update p.call i r.2⟩

@[simp] theorem Pool.after_call (p : Pool ι σ κ) (i : ι) (r : σ × κ) : (p.after i r).call i = r.2 := by
  simp [Pool.after]

theorem Pool.after_call_of_ne (p : Pool ι σ κ) {i j : ι} (r : σ × κ) (h : j ≠ i) :
    (p.after i r).call j = p.call j := by
  simp [Pool.after, h]

/-- What holds of the call that has taken its step, and of each other call. -/
theorem Pool.forall_after (p : Pool ι σ κ) {i : ι} {r : σ × κ} {Q : κ → Prop} (hown : Q r.2)
    (hother : ∀ j, j ≠ i → Q (p.call j)) : ∀ j, Q ((p.after i r).call j) := by
  intro j
  by_cases hj : j = i
  · subst hj
    rw [Pool.after_call]
    exact hown
  · rw [Pool.after_call_of_ne p r hj]
    exact hother j hj

namespace Calls

variable (C : Calls σ κ ε)

/-- Every interleaving of the calls. -/
def interleaved (ι : Type) [DecidableEq ι] : System (Pool ι σ κ) (ι × ε) where
  init p := C.init p.shared ∧ ∀ i, C.start (p.call i)
  step p l p' := ∃ r, C.step p.shared (p.call l.1) l.2 = some r ∧ p' = p.after l.1 r

variable {C} {P : Transition (Pool ι σ κ) (ι × ε) → Prop}

/-- An invariant of the shared state, and one of each call. -/
theorem always {S : σ → Prop} {L : ι → σ → κ → Prop} (hinit : ∀ s, C.init s → S s)
    (hstart : ∀ i s k, C.init s → C.start k → L i s k)
    (hown : ∀ p i e r, S p.shared → L i p.shared (p.call i) → C.step p.shared (p.call i) e = some r →
      P ⟨p, (i, e), p.after i r⟩ → S r.1 ∧ L i r.1 r.2)
    (hother : ∀ p i e r j, j ≠ i → S p.shared → L i p.shared (p.call i) → L j p.shared (p.call j) →
      C.step p.shared (p.call i) e = some r → P ⟨p, (i, e), p.after i r⟩ → L j r.1 (p.call j))
    {history : List (Transition (Pool ι σ κ) (ι × ε))} {p : Pool ι σ κ} (h : Run (C.interleaved ι) history p)
    (hP : ∀ e ∈ history, P e) : S p.shared ∧ ∀ i, L i p.shared (p.call i) := by
  refine Run.always (I := fun p => S p.shared ∧ ∀ i, L i p.shared (p.call i)) ?_ ?_ h hP
  · rintro p ⟨hp, hstarts⟩
    exact ⟨hinit _ hp, fun i => hstart i _ _ hp (hstarts i)⟩
  · rintro p ⟨i, e⟩ p' ⟨hS, hL⟩ ⟨r, hr, rfl⟩ hp
    obtain ⟨hS', hown'⟩ := hown p i e r hS (hL i) hr hp
    refine ⟨hS', fun j => ?_⟩
    by_cases hj : j = i
    · subst hj
      rw [Pool.after_call]
      exact hown'
    · rw [Pool.after_call_of_ne p r hj]
      exact hother p i e r j hj hS (hL i) (hL j) hr hp

/-- A relation between any two calls, kept by every step of either. -/
theorem pairwise {S : σ → Prop} {L : ι → σ → κ → Prop} {B : κ → κ → Prop} (hsymm : ∀ k k', B k k' → B k' k)
    (hinv : ∀ history p, Run (C.interleaved ι) history p → S p.shared ∧ ∀ i, L i p.shared (p.call i))
    (hstart : ∀ k k', C.start k → C.start k' → B k k')
    (hstep : ∀ (p : Pool ι σ κ) i j e r, j ≠ i → S p.shared → L i p.shared (p.call i) → L j p.shared (p.call j) →
      B (p.call i) (p.call j) → C.step p.shared (p.call i) e = some r → B r.2 (p.call j))
    {history : List (Transition (Pool ι σ κ) (ι × ε))} {p : Pool ι σ κ} (h : Run (C.interleaved ι) history p) :
    ∀ i j, i ≠ j → B (p.call i) (p.call j) := by
  induction h with
  | init hp =>
    intro i j _
    exact hstart _ _ (hp.2 i) (hp.2 j)
  | @step history p p' l hrun hs ih =>
    obtain ⟨i, e⟩ := l
    obtain ⟨r, hr, rfl⟩ := hs
    obtain ⟨hS, hL⟩ := hinv _ _ hrun
    have hmoved : ∀ j, j ≠ i → B r.2 (p.call j) := fun j hj =>
      hstep p i j e r hj hS (hL i) (hL j) (ih i j (Ne.symm hj)) hr
    intro a b hab
    by_cases ha : a = i
    · subst ha
      rw [Pool.after_call, Pool.after_call_of_ne p r (Ne.symm hab)]
      exact hmoved b (Ne.symm hab)
    · by_cases hb : b = i
      · subst hb
        rw [Pool.after_call, Pool.after_call_of_ne p r ha]
        exact hsymm _ _ (hmoved a ha)
      · rw [Pool.after_call_of_ne p r ha, Pool.after_call_of_ne p r hb]
        exact ih a b hab

/-- An invariant of the shared state, one of each call and one of any two calls, kept together. -/
theorem always_pairwise {S : σ → Prop} {L : σ → κ → Prop} {B : κ → κ → Prop} (hsymm : ∀ k k', B k k' → B k' k)
    (hinit : ∀ s, C.init s → S s) (hstart : ∀ s k, C.init s → C.start k → L s k)
    (hstart₂ : ∀ k k', C.start k → C.start k' → B k k')
    (hown : ∀ (p : Pool ι σ κ) i e r, S p.shared → L p.shared (p.call i) →
      C.step p.shared (p.call i) e = some r → P ⟨p, (i, e), p.after i r⟩ → S r.1 ∧ L r.1 r.2)
    (hother : ∀ (p : Pool ι σ κ) i e r j, j ≠ i → S p.shared → L p.shared (p.call i) → L p.shared (p.call j) →
      B (p.call i) (p.call j) → C.step p.shared (p.call i) e = some r → P ⟨p, (i, e), p.after i r⟩ →
      L r.1 (p.call j) ∧ B r.2 (p.call j))
    {history : List (Transition (Pool ι σ κ) (ι × ε))} {p : Pool ι σ κ} (h : Run (C.interleaved ι) history p)
    (hP : ∀ e ∈ history, P e) :
    S p.shared ∧ (∀ i, L p.shared (p.call i)) ∧ ∀ i j, i ≠ j → B (p.call i) (p.call j) := by
  refine Run.always
    (I := fun p => S p.shared ∧ (∀ i, L p.shared (p.call i)) ∧ ∀ i j, i ≠ j → B (p.call i) (p.call j)) ?_ ?_ h hP
  · rintro p ⟨hp, hstarts⟩
    exact ⟨hinit _ hp, fun i => hstart _ _ hp (hstarts i), fun i j _ => hstart₂ _ _ (hstarts i) (hstarts j)⟩
  · rintro p ⟨i, e⟩ p' ⟨hS, hL, hB⟩ ⟨r, hr, rfl⟩ hp
    obtain ⟨hS', hown'⟩ := hown p i e r hS (hL i) hr hp
    have hothers : ∀ j, j ≠ i → L r.1 (p.call j) ∧ B r.2 (p.call j) := fun j hj =>
      hother p i e r j hj hS (hL i) (hL j) (hB i j (Ne.symm hj)) hr hp
    refine ⟨hS', fun j => ?_, fun a b hab => ?_⟩
    · by_cases hj : j = i
      · subst hj
        rw [Pool.after_call]
        exact hown'
      · rw [Pool.after_call_of_ne p r hj]
        exact (hothers j hj).1
    · by_cases ha : a = i
      · subst ha
        rw [Pool.after_call, Pool.after_call_of_ne p r (Ne.symm hab)]
        exact (hothers b (Ne.symm hab)).2
      · rw [Pool.after_call_of_ne p r ha]
        by_cases hb : b = i
        · subst hb
          rw [Pool.after_call]
          exact hsymm _ _ (hothers a ha).2
        · rw [Pool.after_call_of_ne p r hb]
          exact hB a b hab

/-! ## Computed interleavings -/

variable (C)

/-- The steps taken so far, and the pool reached. -/
abbrev Log (_ : Calls σ κ ε) (ι : Type) := List (Transition (Pool ι σ κ) (ι × ε)) × Pool ι σ κ

/-- Some steps after a run, if all can be taken. -/
def executeFrom : C.Log ι → List (ι × ε) → Option (C.Log ι)
  | log, [] => some log
  | log, l :: rest =>
    (C.step log.2.shared (log.2.call l.1) l.2).bind fun r =>
      executeFrom (log.1 ++ [⟨log.2, l, log.2.after l.1 r⟩], log.2.after l.1 r) rest

def execute (p : Pool ι σ κ) (steps : List (ι × ε)) : Option (C.Log ι) := C.executeFrom ([], p) steps

variable {C}

theorem run_of_executeFrom {steps : List (ι × ε)} {log log' : C.Log ι} (hrun : Run (C.interleaved ι) log.1 log.2)
    (h : C.executeFrom log steps = some log') : Run (C.interleaved ι) log'.1 log'.2 := by
  induction steps generalizing log with
  | nil =>
    cases h
    exact hrun
  | cons l rest ih =>
    obtain ⟨r, hr, h⟩ := Option.bind_eq_some_iff.mp h
    exact ih (.step hrun ⟨r, hr, rfl⟩) h

theorem run_of_execute {p : Pool ι σ κ} (hp : (C.interleaved ι).init p) {steps : List (ι × ε)} {log : C.Log ι}
    (h : C.execute p steps = some log) : Run (C.interleaved ι) log.1 log.2 :=
  run_of_executeFrom (.init hp) h

end Calls

end ComplianceHub.Lib
