import ComplianceHub.Lib.Calls
import Mathlib.Logic.Relation

/-!
# Programs over locked data

* `Program` : a program that takes locks and writes to shared data, one access at a time, and goes on with the data
  that each access finds;
* `Store` : how the writes act, and the locks that protect what they write;
* `Store.calls` : calls that run such programs. A lock is held by one call at a time, and a write waits for the locks
  that another call holds;
* `Program.alone` : the program when nothing else runs;
* `Program.Safe` : rely and guarantee. Every write of the program is allowed where it takes place, whatever allowed
  writes the other calls make meanwhile outside the locks it holds (`Meanwhile`);
* `Store.Discipline.invariant` : calls whose programs are safe keep what allowed writes keep, in every interleaving.
-/

namespace ComplianceHub.Lib

/-- A program with locks `K` and writes `W` over data `δ`. -/
inductive Program (K W δ α : Type) where
  | done (a : α)
  /-- Take a lock. -/
  | lock (k : K) (next : δ → Program K W δ α)
  /-- Write in one transaction, and release locks at its end. -/
  | write (writes : List W) (release : List K) (next : δ → Program K W δ α)

namespace Program

variable {K W δ α β : Type}

def bind : Program K W δ α → (α → Program K W δ β) → Program K W δ β
  | done a, f => f a
  | lock k next, f => .lock k fun d => (next d).bind f
  | write writes release next, f => .write writes release fun d => (next d).bind f

instance : Monad (Program K W δ) where
  pure := done
  bind := bind

end Program

/-- How writes act on the data, and the locks that protect what each writes. -/
structure Store (K W δ : Type) where
  apply : δ → W → δ
  locks : W → List K

/-- Shared data, and the locks that some call holds. -/
structure Locked (K δ : Type) where
  data : δ
  locked : List K

variable {ι K W δ α β : Type} [DecidableEq ι] [DecidableEq K] (S : Store K W δ)

namespace Store

/-- The data after the writes of a transaction. -/
def applyAll (d : δ) (writes : List W) : δ := writes.foldl S.apply d

/-- Nobody else holds a lock of these writes. -/
def Free (s : Locked K δ) (held : List K) (writes : List W) : Prop :=
  ∀ w ∈ writes, ∀ k ∈ S.locks w, k ∈ s.locked → k ∈ held

instance (s : Locked K δ) (held : List K) (writes : List W) : Decidable (S.Free s held writes) :=
  inferInstanceAs (Decidable (∀ w ∈ writes, ∀ k ∈ S.locks w, k ∈ s.locked → k ∈ held))

/-- One access of a program that holds some locks. -/
def step (s : Locked K δ) : List K × Program K W δ α → Option (Locked K δ × List K × Program K W δ α)
  | (_, .done _) => none
  | (held, .lock k next) =>
    if k ∈ s.locked then none else some (⟨s.data, k :: s.locked⟩, k :: held, next s.data)
  | (held, .write writes release next) =>
    if S.Free s held writes then
      some (⟨S.applyAll s.data writes, s.locked.filter fun k => ¬ (k ∈ held ∧ k ∈ release)⟩,
        held.filter fun k => k ∉ release, next s.data)
    else none

variable {S} in
/-- A step takes a lock that was free, or makes a transaction outside the locks of the others. -/
theorem step_cases {s : Locked K δ} {k : List K × Program K W δ α} {r : Locked K δ × List K × Program K W δ α}
    (h : S.step s k = some r) :
    (∃ x next, k.2 = .lock x next ∧ x ∉ s.locked ∧ r = (⟨s.data, x :: s.locked⟩, x :: k.1, next s.data)) ∨
      ∃ writes release next, k.2 = .write writes release next ∧ S.Free s k.1 writes ∧
        r = (⟨S.applyAll s.data writes, s.locked.filter fun x => ¬ (x ∈ k.1 ∧ x ∈ release)⟩,
          k.1.filter fun x => x ∉ release, next s.data) := by
  obtain ⟨held, p⟩ := k
  cases p with
  | done a => simp [Store.step] at h
  | lock x next =>
    simp only [Store.step] at h
    split_ifs at h with hx
    cases h
    exact .inl ⟨x, next, rfl, hx, rfl⟩
  | write writes release next =>
    simp only [Store.step] at h
    split_ifs at h with hfree
    cases h
    exact .inr ⟨writes, release, next, rfl, hfree, rfl⟩

variable {S} in
/-- A call still holds only what is locked. -/
theorem locked_of_step {s : Locked K δ} {k : List K × Program K W δ α} {r : Locked K δ × List K × Program K W δ α}
    (hheld : ∀ x ∈ k.1, x ∈ s.locked) (h : S.step s k = some r) : ∀ x ∈ r.2.1, x ∈ r.1.locked := by
  intro y hy
  rcases step_cases h with ⟨x, next, -, -, rfl⟩ | ⟨writes, release, next, -, -, rfl⟩
  · rcases List.mem_cons.mp hy with rfl | hy
    · exact List.mem_cons_self
    · exact List.mem_cons_of_mem _ (hheld y hy)
  · obtain ⟨hy, hkept⟩ := List.mem_filter.mp hy
    have hkept : y ∉ release := by simpa using hkept
    exact List.mem_filter.mpr ⟨hheld y hy, by simp [hkept]⟩

/-- Calls of some programs, from data on which no lock is held. -/
def calls (init : δ → Prop) (start : Program K W δ α → Prop) :
    Calls (Locked K δ) (List K × Program K W δ α) Unit where
  init s := init s.data ∧ s.locked = []
  start k := k.1 = [] ∧ start k.2
  step s k _ := S.step s k

end Store

/-- The result of a program and the data it leaves when nothing else runs. -/
def Program.alone : Program K W δ α → δ → α × δ
  | .done a, d => (a, d)
  | .lock _ next, d => (next d).alone d
  | .write writes _ next, d => (next d).alone (S.applyAll d writes)

omit [DecidableEq K] in
theorem Program.alone_bind (p : Program K W δ α) (f : α → Program K W δ β) (d : δ) :
    (p.bind f).alone S d = (f (p.alone S d).1).alone S (p.alone S d).2 := by
  induction p generalizing d with
  | done a => rfl
  | lock k next ih => exact ih d d
  | write writes release next ih => exact ih d (S.applyAll d writes)

/-! ## Rely and guarantee -/

/-- What the calls of a store keep to. -/
structure Store.Discipline (K W δ : Type) where
  /-- The writes that are made: those of a call that holds the locks. -/
  admitted : List W → List K → δ → Prop
  /-- The writes that the calls may make. -/
  allowed : List W → δ → Prop

variable {S} {D : Store.Discipline K W δ}

variable (S D) in
/-- An allowed transaction of a call that holds none of these locks. -/
def Other (held : List K) (d d' : δ) : Prop :=
  ∃ writes, D.allowed writes d ∧ (∀ w ∈ writes, ∀ k ∈ S.locks w, k ∉ held) ∧ d' = S.applyAll d writes

variable (S D) in
/-- What the other calls may do while a call holds some locks. -/
def Meanwhile (held : List K) : δ → δ → Prop := Relation.ReflTransGen (Other S D held)

variable (S D) in
/-- The writes of a program that are admitted are allowed, and it ends in `Q`. -/
def Program.Safe : Program K W δ α → List K → δ → (α → List K → δ → Prop) → Prop
  | .done a, held, d, Q => Q a held d
  | .lock k next, held, d, Q => ∀ d', Meanwhile S D held d d' → (next d').Safe (k :: held) d' Q
  | .write writes release next, held, d, Q => ∀ d', Meanwhile S D held d d' → D.admitted writes held d' →
      D.allowed writes d' ∧ (next d').Safe (held.filter fun k => k ∉ release) (S.applyAll d' writes) Q

namespace Program.Safe

variable {p : Program K W δ α} {f : α → Program K W δ β} {held : List K} {d d' : δ} {Q R : α → List K → δ → Prop}

theorem mono (h : p.Safe S D held d Q) (hQ : ∀ a held d, Q a held d → R a held d) : p.Safe S D held d R := by
  induction p generalizing held d with
  | done a => exact hQ _ _ _ h
  | lock k next ih =>
    intro d' hd
    exact ih d' (h d' hd)
  | write writes release next ih =>
    intro d' hd hadmitted
    obtain ⟨hallowed, hnext⟩ := h d' hd hadmitted
    exact ⟨hallowed, ih d' hnext⟩

theorem bind {T : β → List K → δ → Prop} (h : p.Safe S D held d fun a held d => (f a).Safe S D held d T) :
    (p.bind f).Safe S D held d T := by
  induction p generalizing held d with
  | done a => exact h
  | lock k next ih =>
    intro d' hd
    exact ih d' (h d' hd)
  | write writes release next ih =>
    intro d' hd hadmitted
    obtain ⟨hallowed, hnext⟩ := h d' hd hadmitted
    exact ⟨hallowed, ih d' hnext⟩

/-- A safe program stays safe while others work. -/
theorem meanwhile (h : p.Safe S D held d fun _ _ _ => True) (hd : Meanwhile S D held d d') :
    p.Safe S D held d' fun _ _ _ => True := by
  cases p with
  | done a => trivial
  | lock k next => exact fun d₂ hd₂ => h d₂ (hd.trans hd₂)
  | write writes release next => exact fun d₂ hd₂ => h d₂ (hd.trans hd₂)

end Program.Safe

/-! ## Every interleaving -/

/-- The writes that a call makes next are admitted. -/
def Store.Discipline.AdmitsNext (D : Store.Discipline K W δ) (d : δ) : List K × Program K W δ α → Prop
  | (held, .write writes _ _) => D.admitted writes held d
  | _ => True

instance [∀ writes held d, Decidable (D.admitted writes held d)] (d : δ) :
    (k : List K × Program K W δ α) → Decidable (D.AdmitsNext d k)
  | (held, .write writes _ _) => inferInstanceAs (Decidable (D.admitted writes held d))
  | (_, .done _) => inferInstanceAs (Decidable True)
  | (_, .lock _ _) => inferInstanceAs (Decidable True)

/-- The writes that a call makes in a step are admitted. -/
def Store.Discipline.Admits (D : Store.Discipline K W δ)
    (e : Transition (Pool ι (Locked K δ) (List K × Program K W δ α)) (ι × Unit)) : Prop :=
  D.AdmitsNext e.before.shared.data (e.before.call e.label.1)

instance [∀ writes held d, Decidable (D.admitted writes held d)]
    (e : Transition (Pool ι (Locked K δ) (List K × Program K W δ α)) (ι × Unit)) : Decidable (D.Admits e) :=
  inferInstanceAs (Decidable (D.AdmitsNext e.before.shared.data (e.before.call e.label.1)))

/-- The locks of a call are locked, and its program is safe. -/
structure Store.Discipline.Obeys (S : Store K W δ) (D : Store.Discipline K W δ) (s : Locked K δ)
    (k : List K × Program K W δ α) : Prop where
  held : ∀ x ∈ k.1, x ∈ s.locked
  safe : k.2.Safe S D k.1 s.data fun _ _ _ => True

/-- Two calls hold different locks. -/
def Apart (k k' : List K × Program K W δ α) : Prop := ∀ x ∈ k.1, x ∉ k'.1

/-- What the step of a call does to the locks of another. -/
theorem Apart.step {s : Locked K δ} {k k' : List K × Program K W δ α} {r : Locked K δ × List K × Program K W δ α}
    (h : Apart k k') (hheld : ∀ x ∈ k'.1, x ∈ s.locked) (hr : S.step s k = some r) :
    (∀ x ∈ k'.1, x ∈ r.1.locked) ∧ Apart r.2 k' := by
  rcases Store.step_cases hr with ⟨x, next, -, hx, rfl⟩ | ⟨writes, release, next, -, -, rfl⟩
  · refine ⟨fun y hy => List.mem_cons_of_mem _ (hheld y hy), ?_⟩
    intro y hy
    rcases List.mem_cons.mp hy with rfl | hy
    · exact fun hyk => hx (hheld _ hyk)
    · exact h y hy
  · refine ⟨fun y hy => ?_, fun y hy => h y (List.mem_of_mem_filter hy)⟩
    have hnot : y ∉ k.1 := fun hyk => h y hyk hy
    exact List.mem_filter.mpr ⟨hheld y hy, by simp [hnot]⟩

namespace Store.Discipline

/-- A step of a safe call makes an allowed transaction, or none. -/
theorem Obeys.step {s : Locked K δ} {k : List K × Program K W δ α} {r : Locked K δ × List K × Program K W δ α}
    (h : Obeys S D s k) (hr : S.step s k = some r)
    (hadmitted : ∀ held writes release next, k = (held, .write writes release next) →
      D.admitted writes held s.data) :
    Obeys S D r.1 r.2 ∧ (r.1.data = s.data ∨
      ∃ writes, D.allowed writes s.data ∧ S.Free s k.1 writes ∧ r.1.data = S.applyAll s.data writes) := by
  have hlocked := Store.locked_of_step h.held hr
  have hsafe := h.safe
  obtain ⟨held, p⟩ := k
  rcases Store.step_cases hr with ⟨x, next, rfl, hx, rfl⟩ | ⟨writes, release, next, rfl, hfree, rfl⟩
  · exact ⟨⟨hlocked, hsafe s.data .refl⟩, .inl rfl⟩
  · obtain ⟨hallowed, hnext⟩ := hsafe s.data .refl (hadmitted _ _ _ _ rfl)
    exact ⟨⟨hlocked, hnext⟩, .inr ⟨writes, hallowed, hfree, rfl⟩⟩

/-- Calls whose programs are safe keep what allowed writes keep. -/
theorem invariant {init : δ → Prop} {start : Program K W δ α → Prop} {I : δ → Prop} (hinit : ∀ d, init d → I d)
    (hstep : ∀ d writes, I d → D.allowed writes d → I (S.applyAll d writes))
    (hsafe : ∀ d p, init d → start p → p.Safe S D [] d fun _ _ _ => True)
    {history : List (Transition (Pool ι (Locked K δ) (List K × Program K W δ α)) (ι × Unit))}
    {p : Pool ι (Locked K δ) (List K × Program K W δ α)} (h : Run ((S.calls init start).interleaved ι) history p)
    (hadmits : ∀ e ∈ history, D.Admits e) : I p.shared.data := by
  refine (Calls.always_pairwise (C := S.calls init start) (P := D.Admits) (S := fun s => I s.data)
    (L := fun s k => Obeys S D s k) (B := Apart) ?_ ?_ ?_ ?_ ?_ ?_ h hadmits).1
  · exact fun k k' hapart x hx hx' => hapart x hx' hx
  · exact fun s hs => hinit _ hs.1
  · rintro s ⟨held, p⟩ hs ⟨rfl, hp⟩
    exact ⟨by simp, hsafe _ _ hs.1 hp⟩
  · rintro ⟨held, p⟩ k' ⟨rfl, -⟩ - x hx
    simp at hx
  · intro p i e r hI hL hr hadmit
    obtain ⟨hobeys, hkind⟩ := hL.step hr fun held writes release next hcall => by
      simpa [Admits, AdmitsNext, hcall] using hadmit
    refine ⟨?_, hobeys⟩
    rcases hkind with hdata | ⟨writes, hallowed, -, hdata⟩
    · rw [hdata]
      exact hI
    · rw [hdata]
      exact hstep _ _ hI hallowed
  · intro p i e r j hj hI hL hLj hapart hr hadmit
    obtain ⟨-, hkind⟩ := hL.step hr fun held writes release next hcall => by
      simpa [Admits, AdmitsNext, hcall] using hadmit
    obtain ⟨hlocked, hapart'⟩ := hapart.step hLj.held hr
    rcases hkind with hdata | ⟨writes, hallowed, hfree, hdata⟩
    · refine ⟨⟨hlocked, ?_⟩, hapart'⟩
      rw [hdata]
      exact hLj.safe
    · have hother : ∀ w ∈ writes, ∀ k ∈ S.locks w, k ∉ (p.call j).1 := fun w hw k hk hkj =>
        hapart k (hfree w hw k hk (hLj.held k hkj)) hkj
      refine ⟨⟨hlocked, ?_⟩, hapart'⟩
      rw [hdata]
      exact hLj.safe.meanwhile (.single ⟨writes, hallowed, hother, rfl⟩)

end Store.Discipline

end ComplianceHub.Lib
