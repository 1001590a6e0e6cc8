import Mathlib.Data.List.Basic

/-!
# Runs of a labelled transition system

* `System`, `Run` : the runs from an initial state, each with the transitions it has taken;
* `Run.invariant` : what holds initially and is kept by every admitted transition holds after every run, with the
  history of the run at hand;
* `Run.always` : the same for a property of the state alone;
* `Run.always_iff` : where a step from a good state leads to a good one exactly if it is admitted, the same of a run;
* `Since` : a marked step of a history with no reset after it (`since_concat`);
* `trace` : the transitions of some labels, where each leads to one state (`Run.trace`);
* `Segment` : consecutive steps of a run; what each keeps (`Segment.always`, `Run.onward`), and a bound on how many of
  them are of a kind that uses up a budget (`Segment.countP_le`).
-/

namespace ComplianceHub.Lib

structure System (σ ℓ : Type) where
  init : σ → Prop
  step : σ → ℓ → σ → Prop

structure Transition (σ ℓ : Type) where
  before : σ
  label : ℓ
  after : σ

variable {σ ℓ : Type}

/-- The runs of a system: the transitions taken, and the state reached. -/
inductive Run (S : System σ ℓ) : List (Transition σ ℓ) → σ → Prop
  | init {a : σ} : S.init a → Run S [] a
  | step {history : List (Transition σ ℓ)} {a b : σ} {l : ℓ} :
      Run S history a → S.step a l b → Run S (history ++ [⟨a, l, b⟩]) b

variable {S : System σ ℓ} {P : Transition σ ℓ → Prop}

/-- An invariant of the state and of the history of a run whose transitions are all admitted by `P`. -/
theorem Run.invariant {I : List (Transition σ ℓ) → σ → Prop} (hinit : ∀ a, S.init a → I [] a)
    (hstep : ∀ history a l b, Run S history a → I history a → S.step a l b → P ⟨a, l, b⟩ → I (history ++ [⟨a, l, b⟩]) b)
    {history : List (Transition σ ℓ)} {a : σ} (h : Run S history a) (hP : ∀ e ∈ history, P e) : I history a := by
  induction h with
  | init h => exact hinit _ h
  | step hrun hs ih =>
    refine hstep _ _ _ _ hrun (ih fun e he => hP e (List.mem_append_left _ he)) hs (hP _ ?_)
    exact List.mem_append_right _ (List.mem_singleton_self _)

/-- An invariant of the state. -/
theorem Run.always {I : σ → Prop} (hinit : ∀ a, S.init a → I a)
    (hstep : ∀ a l b, I a → S.step a l b → P ⟨a, l, b⟩ → I b)
    {history : List (Transition σ ℓ)} {a : σ} (h : Run S history a) (hP : ∀ e ∈ history, P e) : I a :=
  Run.invariant (I := fun _ => I) hinit (fun _ _ _ _ _ hI hs hp => hstep _ _ _ hI hs hp) h hP

/-- From a good state a step leads to a good one exactly if it is admitted: so does every step of a run. -/
theorem Run.always_iff {I G : σ → Prop} (hinit : ∀ a, S.init a → I a ∧ G a) (hI : ∀ a l b, I a → S.step a l b → I b)
    (hG : ∀ a l b, I a → G a → S.step a l b → (G b ↔ P ⟨a, l, b⟩))
    {history : List (Transition σ ℓ)} {a : σ} (h : Run S history a) :
    (∀ e ∈ history, G e.after) ↔ ∀ e ∈ history, P e := by
  suffices hall : I a ∧ ((∀ e ∈ history, G e.after) → G a) ∧ ((∀ e ∈ history, G e.after) ↔ ∀ e ∈ history, P e) from
    hall.2.2
  induction h with
  | init h => exact ⟨(hinit _ h).1, fun _ => (hinit _ h).2, by simp⟩
  | @step history a b l hrun hs ih =>
    obtain ⟨hkeys, hgood, hiff⟩ := ih
    refine ⟨hI a l b hkeys hs, fun hafter => hafter ⟨a, l, b⟩ (by simp), ?_⟩
    simp only [List.forall_mem_append, List.forall_mem_singleton]
    constructor
    · rintro ⟨hafter, hlast⟩
      exact ⟨hiff.mp hafter, (hG a l b hkeys (hgood hafter) hs).mp hlast⟩
    · rintro ⟨hadmitted, hlast⟩
      have hafter := hiff.mpr hadmitted
      exact ⟨hafter, (hG a l b hkeys (hgood hafter) hs).mpr hlast⟩

/-- The transitions of a run are steps, and each starts from a state the run has reached. -/
theorem Run.reached {history : List (Transition σ ℓ)} {a : σ} (h : Run S history a) :
    ∀ e ∈ history, S.step e.before e.label e.after ∧ ∃ earlier, Run S earlier e.before ∧ earlier <+: history := by
  induction h with
  | init _ => simp
  | @step history a b l hrun hs ih =>
    intro e he
    rcases List.mem_append.mp he with he | he
    · obtain ⟨hstep, earlier, hrun', hpast⟩ := ih e he
      exact ⟨hstep, earlier, hrun', hpast.trans (List.prefix_append _ _)⟩
    · rw [List.mem_singleton] at he
      subst he
      exact ⟨hs, history, hrun, List.prefix_append _ _⟩

/-! ## Since a reset -/

/-- A marked step of a history, with no reset after it. -/
def Since (marked reset : Transition σ ℓ → Prop) (history : List (Transition σ ℓ)) (e : Transition σ ℓ) : Prop :=
  marked e ∧ ∃ past later, history = past ++ e :: later ∧ ∀ other ∈ later, ¬ reset other

section
variable {marked reset : Transition σ ℓ → Prop} {history : List (Transition σ ℓ)} {e last : Transition σ ℓ}

theorem not_since_nil : ¬ Since marked reset [] e := by
  rintro ⟨-, past, later, h, -⟩
  simp at h

theorem Since.mem (h : Since marked reset history e) : e ∈ history := by
  obtain ⟨-, past, later, rfl, -⟩ := h
  exact List.mem_append_right _ List.mem_cons_self

/-- One more step: it is marked itself, or it is no reset and the marked step is before it. -/
theorem since_concat : Since marked reset (history ++ [last]) e ↔
    (e = last ∧ marked last) ∨ (¬ reset last ∧ Since marked reset history e) := by
  constructor
  · rintro ⟨hmarked, past, later, h, hlater⟩
    rcases List.eq_nil_or_concat later with rfl | ⟨later, x, rfl⟩
    · obtain ⟨-, hlast⟩ := List.append_inj' h rfl
      obtain rfl := List.singleton_injective hlast
      exact .inl ⟨rfl, hmarked⟩
    · rw [List.concat_eq_append] at h hlater
      rw [← List.cons_append, ← List.append_assoc] at h
      obtain ⟨hhistory, hlast⟩ := List.append_inj' h rfl
      obtain rfl := List.singleton_injective hlast
      refine .inr ⟨hlater last (by simp), hmarked, past, later, hhistory, ?_⟩
      intro other hother
      exact hlater other (List.mem_append_left _ hother)
  · rintro (⟨rfl, hmarked⟩ | ⟨hreset, hmarked, past, later, rfl, hlater⟩)
    · exact ⟨hmarked, history, [], rfl, by simp⟩
    · refine ⟨hmarked, past, later ++ [last], by simp, ?_⟩
      intro other hother
      rcases List.mem_append.mp hother with hother | hother
      · exact hlater other hother
      · rw [List.mem_singleton.mp hother]
        exact hreset

end

/-! ## Labels that lead to one state -/

/-- The transitions of some labels. -/
def trace (apply : σ → ℓ → σ) : σ → List ℓ → List (Transition σ ℓ)
  | _, [] => []
  | a, l :: rest => ⟨a, l, apply a l⟩ :: trace apply (apply a l) rest

theorem Run.trace (apply : σ → ℓ → σ) (hS : ∀ a l, S.step a l (apply a l)) (labels : List ℓ)
    {history : List (Transition σ ℓ)} {a : σ} (h : Run S history a) :
    Run S (history ++ Lib.trace apply a labels) (labels.foldl apply a) := by
  induction labels generalizing history a with
  | nil =>
    rw [Lib.trace, List.append_nil]
    exact h
  | cons l rest ih =>
    have hlonger := ih (h.step (hS a l))
    rw [List.append_assoc, List.singleton_append] at hlonger
    exact hlonger

/-! ## Segments -/

/-- Consecutive steps, from one state to another. -/
inductive Segment (S : System σ ℓ) : σ → List (Transition σ ℓ) → σ → Prop
  | nil (a : σ) : Segment S a [] a
  | cons {a b c : σ} {l : ℓ} {rest : List (Transition σ ℓ)} :
      S.step a l b → Segment S b rest c → Segment S a (⟨a, l, b⟩ :: rest) c

theorem Segment.concat {a b c : σ} {l : ℓ} {steps : List (Transition σ ℓ)} (h : Segment S a steps b)
    (hs : S.step b l c) : Segment S a (steps ++ [⟨b, l, c⟩]) c := by
  induction h with
  | nil b => exact .cons hs (.nil c)
  | cons hfirst _ ih => exact .cons hfirst (ih hs)

/-- A run is a run of any of its prefixes, and the steps after it. -/
theorem Run.split {history : List (Transition σ ℓ)} {c : σ} (h : Run S history c) {first rest : List (Transition σ ℓ)}
    (heq : history = first ++ rest) : ∃ b, Run S first b ∧ Segment S b rest c := by
  induction h generalizing rest with
  | init h =>
    obtain ⟨rfl, rfl⟩ := List.append_eq_nil_iff.mp heq.symm
    exact ⟨_, .init h, .nil _⟩
  | @step history a b l hrun hs ih =>
    rcases List.eq_nil_or_concat rest with rfl | ⟨rest, e, rfl⟩
    · rw [List.append_nil] at heq
      subst heq
      exact ⟨b, .step hrun hs, .nil b⟩
    · rw [List.concat_eq_append, ← List.append_assoc] at heq
      obtain ⟨hhistory, he⟩ := List.append_inj' heq rfl
      obtain ⟨m, hfirst, hrest⟩ := ih hhistory
      cases List.singleton_injective he
      rw [List.concat_eq_append]
      exact ⟨m, hfirst, hrest.concat hs⟩

/-- A run up to one of its steps, the step, and the steps after it. -/
theorem Run.around {first rest : List (Transition σ ℓ)} {e : Transition σ ℓ} {c : σ} (h : Run S (first ++ e :: rest) c) :
    Run S first e.before ∧ S.step e.before e.label e.after ∧ Segment S e.after rest c := by
  obtain ⟨b, hfirst, hsegment⟩ := h.split rfl
  cases hsegment with
  | cons hs hrest => exact ⟨hfirst, hs, hrest⟩

/-- The steps between two points of a run. -/
theorem Run.segment {first steps rest : List (Transition σ ℓ)} {c : σ} (h : Run S (first ++ steps ++ rest) c) :
    ∃ a b, Run S first a ∧ Segment S a steps b := by
  obtain ⟨b, hrun, -⟩ := h.split rfl
  obtain ⟨a, hfirst, hsteps⟩ := hrun.split rfl
  exact ⟨a, b, hfirst, hsteps⟩

/-- What holds before some steps, and is kept by each that is admitted, holds before and after every one of them. -/
theorem Segment.always {I : σ → Prop} (hstep : ∀ a l b, I a → S.step a l b → P ⟨a, l, b⟩ → I b)
    {steps : List (Transition σ ℓ)} {a b : σ} (h : Segment S a steps b) (hI : I a) (hP : ∀ e ∈ steps, P e) :
    I b ∧ ∀ e ∈ steps, I e.before ∧ S.step e.before e.label e.after := by
  induction h with
  | nil a => exact ⟨hI, by simp⟩
  | @cons a b c l rest hs _ ih =>
    have hb : I b := hstep a l b hI hs (hP _ List.mem_cons_self)
    obtain ⟨hlast, hrest⟩ := ih hb fun e he => hP e (List.mem_cons_of_mem _ he)
    refine ⟨hlast, fun e he => ?_⟩
    rcases List.mem_cons.mp he with rfl | he
    · exact ⟨hI, hs⟩
    · exact hrest e he

/-- What each step of a run keeps holds from any of its points on. -/
theorem Run.onward {history : List (Transition σ ℓ)} {c : σ} (h : Run S history c) {I : σ → Prop}
    (hkeeps : ∀ e ∈ history, I e.before → I e.after) {first rest : List (Transition σ ℓ)} {e : Transition σ ℓ}
    (heq : history = first ++ e :: rest) (hI : I e.before) : ∀ e' ∈ e :: rest, I e'.after := by
  subst heq
  obtain ⟨_, -, hsegment⟩ := h.around
  have hafter : I e.after := hkeeps e (List.mem_append_right _ List.mem_cons_self) hI
  have hrest : ∀ e' ∈ rest, I e'.before → I e'.after := fun e' he' =>
    hkeeps e' (List.mem_append_right _ (List.mem_cons_of_mem _ he'))
  obtain ⟨-, hbefore⟩ := hsegment.always (P := fun e' => I e'.before → I e'.after)
    (fun _ _ _ hI _ hkeep => hkeep hI) hafter hrest
  intro e' he'
  rcases List.mem_cons.mp he' with rfl | he'
  · exact hafter
  · exact hrest e' he' (hbefore e' he').1

/-- A budget that no admitted step raises and every marked step lowers bounds the number of marked steps. -/
theorem Segment.countP_le {budget : σ → Nat} {marked : Transition σ ℓ → Bool}
    (hstep : ∀ a l b, S.step a l b → P ⟨a, l, b⟩ → budget b + (if marked ⟨a, l, b⟩ then 1 else 0) ≤ budget a)
    {steps : List (Transition σ ℓ)} {a b : σ} (h : Segment S a steps b) (hP : ∀ e ∈ steps, P e) :
    steps.countP marked ≤ budget a := by
  induction h with
  | nil a => simp
  | @cons a b c l rest hs _ ih =>
    have hfirst := hstep a l b hs (hP _ List.mem_cons_self)
    have hrest := ih fun e he => hP e (List.mem_cons_of_mem _ he)
    rw [List.countP_cons]
    omega

end ComplianceHub.Lib
