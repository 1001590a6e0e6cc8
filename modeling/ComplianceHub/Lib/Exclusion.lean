import ComplianceHub.Lib.Locks

/-!
# Calls that exclude each other

* `Store.running` : given programs, one for each call, over data on which no lock is held;
* `Exclusive` : a lock that a call holds is locked, and no other call holds it (`Run.exclusive`);
* `Segment.untouched` : what a lock protects stays as it is while the call that holds it takes no step;
* `Program.resume` : a program that has found some data, one at each access. Every call is its program, resumed with
  what it found in its own steps (`Run.resumed`);
* `Program.Silent` : a program that makes no writes any more.
-/

namespace ComplianceHub.Lib

/-- Calls of programs over locked data. -/
abbrev Threads (ι K W δ α : Type) := Pool ι (Locked K δ) (List K × Program K W δ α)

variable {ι K W δ α : Type} [DecidableEq ι] [DecidableEq K] {S : Store K W δ}

/-- These programs, from any data. -/
def Store.running (S : Store K W δ) (start : ι → Program K W δ α) : System (Threads ι K W δ α) ι where
  init p := p.shared.locked = [] ∧ ∀ i, p.call i = ([], start i)
  step p i p' := ∃ r, S.step p.shared (p.call i) = some r ∧ p' = p.after i r

/-! ## Locks -/

structure Exclusive (p : Threads ι K W δ α) : Prop where
  held : ∀ i, ∀ x ∈ (p.call i).1, x ∈ p.shared.locked
  apart : ∀ i j, i ≠ j → Apart (p.call i) (p.call j)

theorem Exclusive.step {p : Threads ι K W δ α} {i : ι} {r : Locked K δ × List K × Program K W δ α}
    (h : Exclusive p) (hr : S.step p.shared (p.call i) = some r) : Exclusive (p.after i r) := by
  constructor
  · intro j
    by_cases hj : j = i
    · subst hj
      rw [Pool.after_call]
      exact Store.locked_of_step (h.held j) hr
    · rw [Pool.after_call_of_ne p r hj]
      exact ((h.apart i j (Ne.symm hj)).step (h.held j) hr).1
  · intro a b hab
    by_cases ha : a = i
    · subst ha
      rw [Pool.after_call, Pool.after_call_of_ne p r (Ne.symm hab)]
      exact ((h.apart a b hab).step (h.held b) hr).2
    · rw [Pool.after_call_of_ne p r ha]
      by_cases hb : b = i
      · subst hb
        rw [Pool.after_call]
        exact fun x hx hx' => ((h.apart b a (Ne.symm ha)).step (h.held a) hr).2 x hx' hx
      · rw [Pool.after_call_of_ne p r hb]
        exact h.apart a b hab

variable {start : ι → Program K W δ α} {history steps : List (Transition (Threads ι K W δ α) ι)}
  {p a b : Threads ι K W δ α}

theorem Run.exclusive (h : Run (S.running start) history p) : Exclusive p := by
  refine Run.always (P := fun _ => True) ?_ ?_ h fun _ _ => trivial
  · rintro p ⟨-, hcall⟩
    constructor
    · intro i x hx
      rw [hcall i] at hx
      simp at hx
    · intro i j _ x hx
      rw [hcall i] at hx
      simp at hx
  · rintro p i _ hp ⟨r, hr, rfl⟩ -
    exact hp.step hr

omit [DecidableEq K] in
/-- What these writes do not touch. -/
theorem Store.applyAll_of_free {k : K} {P : δ → Prop} (hP : ∀ d w, k ∉ S.locks w → P d → P (S.apply d w))
    {writes : List W} {d : δ} (hd : P d) (hfree : ∀ w ∈ writes, k ∉ S.locks w) : P (S.applyAll d writes) := by
  induction writes generalizing d with
  | nil => exact hd
  | cons w rest ih =>
    apply ih (hP d w (hfree w List.mem_cons_self) hd)
    exact fun w' hw' => hfree w' (List.mem_cons_of_mem _ hw')

/-- While a call that holds a lock takes no step, the others work without it, and what it protects stays. -/
theorem Segment.untouched {k : K} {P : δ → Prop} (hP : ∀ d w, k ∉ S.locks w → P d → P (S.apply d w))
    (h : Segment (S.running start) a steps b) {i : ι} (ha : Exclusive a) (hk : k ∈ (a.call i).1)
    (hothers : ∀ e ∈ steps, e.label ≠ i) (hdata : P a.shared.data) :
    P b.shared.data ∧ ∀ e ∈ steps, k ∉ (e.before.call e.label).1 := by
  induction h with
  | nil a => exact ⟨hdata, by simp⟩
  | @cons a b c l rest hs _ ih =>
    have hl : i ≠ l := Ne.symm (hothers _ List.mem_cons_self)
    have hnot : k ∉ (a.call l).1 := ha.apart i l hl k hk
    obtain ⟨r, hr, rfl⟩ := hs
    have hkept : P r.1.data := by
      rcases Store.step_cases hr with ⟨x, next, -, -, rfl⟩ | ⟨writes, release, next, -, hfree, rfl⟩
      · exact hdata
      · apply Store.applyAll_of_free hP hdata
        exact fun w hw hlock => hnot (hfree w hw k hlock (ha.held i k hk))
    have hstill : k ∈ ((a.after l r).call i).1 := by
      rw [Pool.after_call_of_ne a r hl]
      exact hk
    obtain ⟨hb, hrest⟩ := ih (ha.step hr) hstill (fun e he => hothers e (List.mem_cons_of_mem _ he)) hkept
    refine ⟨hb, fun e he => ?_⟩
    rcases List.mem_cons.mp he with rfl | he
    · exact hnot
    · exact hrest e he

/-! ## What a call has found -/

namespace Program

/-- What a call holds and has still to do, after an access that found these data. -/
def proceed : List K × Program K W δ α → δ → List K × Program K W δ α
  | (held, .done a), _ => (held, .done a)
  | (held, .lock k next), d => (k :: held, next d)
  | (held, .write _ release next), d => (held.filter fun k => k ∉ release, next d)

def resume (k : List K × Program K W δ α) (found : List δ) : List K × Program K W δ α := found.foldl proceed k

theorem resume_done (held : List K) (a : α) (found : List δ) :
    resume (W := W) (held, .done a) found = (held, .done a) := by
  induction found with
  | nil => rfl
  | cons d rest ih => exact ih

theorem proceed_of_step {s : Locked K δ} {k : List K × Program K W δ α}
    {r : Locked K δ × List K × Program K W δ α} (h : S.step s k = some r) : r.2 = proceed k s.data := by
  obtain ⟨held, q⟩ := k
  rcases Store.step_cases h with ⟨x, next, rfl, -, rfl⟩ | ⟨writes, release, next, rfl, -, rfl⟩
  · rfl
  · rfl

/-- The writes of the next access. -/
def nextWrites : Program K W δ α → List W
  | .write writes _ _ => writes
  | _ => []

theorem data_of_step {s : Locked K δ} {k : List K × Program K W δ α} {r : Locked K δ × List K × Program K W δ α}
    (h : S.step s k = some r) : r.1.data = S.applyAll s.data k.2.nextWrites := by
  rcases Store.step_cases h with ⟨x, next, hk, -, rfl⟩ | ⟨writes, release, next, hk, -, rfl⟩
  · rw [hk]
    rfl
  · rw [hk]
    rfl

/-- No writes any more. -/
def Silent : Program K W δ α → Prop
  | .done _ => True
  | .lock _ next => ∀ d, (next d).Silent
  | .write writes _ next => writes = [] ∧ ∀ d, (next d).Silent

omit [DecidableEq K] in
theorem Silent.bind {β : Type} {q : Program K W δ α} {f : α → Program K W δ β} (h : q.Silent)
    (hf : ∀ a, (f a).Silent) : (q.bind f).Silent := by
  induction q with
  | done a => exact hf a
  | lock x next ih => exact fun d => ih d (h d)
  | write writes release next ih => exact ⟨h.1, fun d => ih d (h.2 d)⟩

theorem Silent.resume {k : List K × Program K W δ α} (h : k.2.Silent) (found : List δ) :
    (Program.resume k found).2.Silent := by
  induction found generalizing k with
  | nil => exact h
  | cons d rest ih =>
    apply ih
    obtain ⟨held, q⟩ := k
    cases q with
    | done a => exact h
    | lock x next => exact h d
    | write writes release next => exact h.2 d

omit [DecidableEq K] in
theorem Silent.nextWrites {q : Program K W δ α} (h : q.Silent) : q.nextWrites = [] := by
  cases q with
  | done a => rfl
  | lock x next => rfl
  | write writes release next => exact h.1

end Program

/-- The data that a call found in its steps. -/
def found (history : List (Transition (Threads ι K W δ α) ι)) (i : ι) : List δ :=
  (history.filter fun e => e.label = i).map fun e => e.before.shared.data

omit [DecidableEq K] in
/-- The step in which a call found some of its data. -/
theorem found_eq_append {i : ι} {d : δ} {ds rest : List δ} (h : found history i = ds ++ d :: rest) :
    ∃ first e later, history = first ++ e :: later ∧ e.label = i ∧ e.before.shared.data = d ∧ found first i = ds ∧
      found later i = rest := by
  obtain ⟨own, own', hown, rfl, hown'⟩ := List.map_eq_append_iff.mp h
  obtain ⟨e, later', rfl, rfl, rfl⟩ := List.map_eq_cons_iff.mp hown'
  obtain ⟨first, after, rfl, rfl, hafter⟩ := List.filter_eq_append_iff.mp hown
  obtain ⟨others, later, rfl, hothers, hlabel, rfl⟩ := List.filter_eq_cons_iff.mp hafter
  have hnone : others.filter (fun e => e.label = i) = [] := List.filter_eq_nil_iff.mpr hothers
  refine ⟨first ++ others, e, later, by simp, of_decide_eq_true hlabel, rfl, ?_, rfl⟩
  rw [found, List.filter_append, hnone, List.append_nil]

omit [DecidableEq K] in
theorem found_eq_nil {i : ι} (h : found history i = []) : ∀ e ∈ history, e.label ≠ i := by
  intro e he hlabel
  have hmem : e ∈ history.filter fun e => e.label = i := List.mem_filter.mpr ⟨he, decide_eq_true hlabel⟩
  rw [List.map_eq_nil_iff.mp h] at hmem
  simp at hmem

theorem Run.resumed (h : Run (S.running start) history p) (i : ι) :
    p.call i = Program.resume ([], start i) (found history i) := by
  induction h with
  | init hp => exact hp.2 i
  | @step history a b l hrun hs ih =>
    obtain ⟨r, hr, rfl⟩ := hs
    rw [found, List.filter_append, List.map_append, Program.resume, List.foldl_append]
    change _ = List.foldl Program.proceed (Program.resume ([], start i) (found history i)) _
    rw [← ih]
    by_cases hi : l = i
    · subst hi
      rw [Pool.after_call, Program.proceed_of_step hr]
      simp
    · rw [Pool.after_call_of_ne a r (Ne.symm hi)]
      simp [hi]

/-! ## Computed runs -/

/-- Steps of these calls after a run, if all can be taken. -/
def Store.execute (S : Store K W δ) (log : List (Transition (Threads ι K W δ α) ι) × Threads ι K W δ α) :
    List ι → Option (List (Transition (Threads ι K W δ α) ι) × Threads ι K W δ α)
  | [] => some log
  | i :: rest => (S.step log.2.shared (log.2.call i)).bind fun r =>
      S.execute (log.1 ++ [⟨log.2, i, log.2.after i r⟩], log.2.after i r) rest

theorem run_of_execute_after {calls : List ι}
    {log log' : List (Transition (Threads ι K W δ α) ι) × Threads ι K W δ α}
    (hrun : Run (S.running start) log.1 log.2) (h : S.execute log calls = some log') :
    Run (S.running start) log'.1 log'.2 := by
  induction calls generalizing log with
  | nil =>
    cases h
    exact hrun
  | cons i rest ih =>
    obtain ⟨r, hr, h⟩ := Option.bind_eq_some_iff.mp h
    exact ih (.step hrun ⟨r, hr, rfl⟩) h

theorem run_of_execute (hp : (S.running start).init p) {calls : List ι}
    {log : List (Transition (Threads ι K W δ α) ι) × Threads ι K W δ α} (h : S.execute ([], p) calls = some log) :
    Run (S.running start) log.1 log.2 :=
  run_of_execute_after (.init hp) h

end ComplianceHub.Lib
