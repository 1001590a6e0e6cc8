import ComplianceHub.Lib.Locks

/-!
# Traces of a program that may fail

* `Program.Trace` : a run of a program to its result, with the data that each access finds and leaves. Other calls may
  do anything between two accesses;
* `Program.traceAlone` : the trace when nothing else runs (`trace_alone`);
* `Silent`, `FailsQuietly`, `CanFail` : a program that changes nothing, that changes nothing where it fails, and one
  that some run lets fail; their rules for a sequence (`FailsQuietly.bind`, `not_failsQuietly_bind`, `CanFail.bind`, …).
-/

namespace ComplianceHub.Lib

variable {K W δ ε α β : Type}

/-- A run of a program to its result. -/
inductive Program.Trace (S : Store K W δ) : Program K W δ α → List (δ × δ) → α → Prop where
  | done (a : α) : Program.Trace S (.done a) [] a
  | lock {k : K} {next : δ → Program K W δ α} {trace : List (δ × δ)} {a : α} (d : δ) :
      Program.Trace S (next d) trace a → Program.Trace S (.lock k next) ((d, d) :: trace) a
  | write {writes : List W} {release : List K} {next : δ → Program K W δ α} {trace : List (δ × δ)} {a : α} (d : δ) :
      Program.Trace S (next d) trace a →
      Program.Trace S (.write writes release next) ((d, S.applyAll d writes) :: trace) a

variable {S : Store K W δ}

theorem trace_done {a b : α} {trace : List (δ × δ)} :
    Program.Trace S (.done a : Program K W δ α) trace b ↔ trace = [] ∧ b = a := by
  constructor
  · intro h
    cases h
    exact ⟨rfl, rfl⟩
  · rintro ⟨rfl, rfl⟩
    exact .done _

theorem trace_lock {k : K} {next : δ → Program K W δ α} {a : α} {trace : List (δ × δ)} :
    Program.Trace S (.lock k next) trace a ↔ ∃ d rest, trace = (d, d) :: rest ∧ Program.Trace S (next d) rest a := by
  constructor
  · intro h
    cases h with
    | lock d h => exact ⟨d, _, rfl, h⟩
  · rintro ⟨d, rest, rfl, h⟩
    exact .lock d h

theorem trace_write {writes : List W} {release : List K} {next : δ → Program K W δ α} {a : α} {trace : List (δ × δ)} :
    Program.Trace S (.write writes release next) trace a ↔
      ∃ d rest, trace = (d, S.applyAll d writes) :: rest ∧ Program.Trace S (next d) rest a := by
  constructor
  · intro h
    cases h with
    | write d h => exact ⟨d, _, rfl, h⟩
  · rintro ⟨d, rest, rfl, h⟩
    exact .write d h

theorem trace_bind {p : Program K W δ α} {f : α → Program K W δ β} {b : β} {trace : List (δ × δ)} :
    Program.Trace S (p.bind f) trace b ↔
      ∃ a first rest, Program.Trace S p first a ∧ Program.Trace S (f a) rest b ∧ trace = first ++ rest := by
  induction p generalizing trace with
  | done a =>
    simp only [Program.bind, trace_done]
    constructor
    · exact fun h => ⟨a, [], trace, ⟨rfl, rfl⟩, h, rfl⟩
    · rintro ⟨_, _, rest, ⟨rfl, rfl⟩, h, rfl⟩
      exact h
  | lock k next ih =>
    simp only [Program.bind, trace_lock, ih]
    constructor
    · rintro ⟨d, _, rfl, a, first, rest, hp, hf, rfl⟩
      exact ⟨a, _, rest, ⟨d, first, rfl, hp⟩, hf, rfl⟩
    · rintro ⟨a, _, rest, ⟨d, first, rfl, hp⟩, hf, rfl⟩
      exact ⟨d, _, rfl, a, first, rest, hp, hf, rfl⟩
  | write writes release next ih =>
    simp only [Program.bind, trace_write, ih]
    constructor
    · rintro ⟨d, _, rfl, a, first, rest, hp, hf, rfl⟩
      exact ⟨a, _, rest, ⟨d, first, rfl, hp⟩, hf, rfl⟩
    · rintro ⟨a, _, rest, ⟨d, first, rfl, hp⟩, hf, rfl⟩
      exact ⟨d, _, rfl, a, first, rest, hp, hf, rfl⟩

/-- The accesses of a program when nothing else runs. -/
def Program.traceAlone (S : Store K W δ) : Program K W δ α → δ → List (δ × δ)
  | .done _, _ => []
  | .lock _ next, d => (d, d) :: (next d).traceAlone S d
  | .write writes _ next, d => (d, S.applyAll d writes) :: (next d).traceAlone S (S.applyAll d writes)

theorem trace_alone (p : Program K W δ α) (d : δ) : p.Trace S (p.traceAlone S d) (p.alone S d).1 := by
  induction p generalizing d with
  | done a => exact .done a
  | lock k next ih => exact .lock d (ih d d)
  | write writes release next ih => exact .write d (ih d _)

/-! ## Programs that may fail -/

section
variable (S) (same : δ → δ → Prop) (m : ExceptT ε (Program K W δ) α)

/-- A run of a program that may fail. -/
def Yields (trace : List (δ × δ)) (result : Except ε α) : Prop := Program.Trace S m.run trace result

/-- No access changes anything. -/
def Quiet (trace : List (δ × δ)) : Prop := ∀ access ∈ trace, same access.1 access.2

def Silent : Prop := ∀ trace result, Yields S m trace result → Quiet same trace

def FailsQuietly : Prop := ∀ trace e, Yields S m trace (.error e) → Quiet same trace

def CanFail : Prop := ∃ trace e, Yields S m trace (.error e)

end

variable {same : δ → δ → Prop} {m : ExceptT ε (Program K W δ) α} {f : α → ExceptT ε (Program K W δ) β}

theorem Quiet.append {first rest : List (δ × δ)} (h : Quiet same first) (h' : Quiet same rest) :
    Quiet same (first ++ rest) := by
  intro access haccess
  rcases List.mem_append.mp haccess with haccess | haccess
  · exact h access haccess
  · exact h' access haccess

theorem yields_bind {trace : List (δ × δ)} {result : Except ε β} :
    Yields S (m >>= f) trace result ↔
      (∃ e, result = .error e ∧ Yields S m trace (.error e)) ∨
        ∃ a first rest, Yields S m first (.ok a) ∧ Yields S (f a) rest result ∧ trace = first ++ rest := by
  have hbind : Yields S (m >>= f) trace result ↔ ∃ x first rest, Yields S m first x ∧
      Program.Trace S (ExceptT.bindCont f x) rest result ∧ trace = first ++ rest := trace_bind
  rw [hbind]
  constructor
  · rintro ⟨x, first, rest, hm, hf, rfl⟩
    cases x with
    | ok a => exact .inr ⟨a, first, rest, hm, hf, rfl⟩
    | error e =>
      obtain ⟨rfl, rfl⟩ := trace_done.mp hf
      exact .inl ⟨e, rfl, by rwa [List.append_nil]⟩
  · rintro (⟨e, rfl, hm⟩ | ⟨a, first, rest, hm, hf, rfl⟩)
    · exact ⟨.error e, trace, [], hm, .done _, (List.append_nil _).symm⟩
    · exact ⟨.ok a, first, rest, hm, hf, rfl⟩

theorem yields_pure {a : α} {trace : List (δ × δ)} {result : Except ε α} :
    Yields S (pure a) trace result ↔ trace = [] ∧ result = .ok a := trace_done

theorem not_canFail_pure (a : α) : ¬ CanFail S (pure a : ExceptT ε (Program K W δ) α) := by
  rintro ⟨trace, e, h⟩
  cases (yields_pure.mp h).2

theorem not_canFail_bind (hm : ¬ CanFail S m) (hf : ∀ a, ¬ CanFail S (f a)) : ¬ CanFail S (m >>= f) := by
  rintro ⟨trace, e, h⟩
  rcases yields_bind.mp h with ⟨e, -, he⟩ | ⟨a, -, rest, -, hrest, -⟩
  · exact hm ⟨trace, e, he⟩
  · exact hf a ⟨rest, _, hrest⟩

theorem FailsQuietly.of_not_canFail (h : ¬ CanFail S m) : FailsQuietly S same m :=
  fun trace e he => absurd ⟨trace, e, he⟩ h

theorem Silent.bind (hm : Silent S same m) (hf : ∀ a, Silent S same (f a)) : Silent S same (m >>= f) := by
  intro trace result h
  rcases yields_bind.mp h with ⟨e, -, hfail⟩ | ⟨a, first, rest, hfirst, hrest, rfl⟩
  · exact hm trace _ hfail
  · exact (hm first _ hfirst).append (hf a rest _ hrest)

/-- The first part changes nothing at all. -/
theorem FailsQuietly.bind (hm : Silent S same m) (hf : ∀ a, FailsQuietly S same (f a)) :
    FailsQuietly S same (m >>= f) := by
  intro trace e h
  rcases yields_bind.mp h with ⟨e', -, hfail⟩ | ⟨a, first, rest, hfirst, hrest, rfl⟩
  · exact hm trace _ hfail
  · exact (hm first _ hfirst).append (hf a rest e hrest)

/-- The second part cannot fail. -/
theorem FailsQuietly.bind_total (hm : FailsQuietly S same m) (hf : ∀ a, ¬ CanFail S (f a)) :
    FailsQuietly S same (m >>= f) := by
  intro trace e h
  rcases yields_bind.mp h with ⟨e', -, hfail⟩ | ⟨a, first, rest, -, hrest, -⟩
  · exact hm trace e' hfail
  · exact absurd ⟨rest, e, hrest⟩ (hf a)

theorem CanFail.bind_left (h : CanFail S m) : CanFail S (m >>= f) := by
  obtain ⟨trace, e, h⟩ := h
  exact ⟨trace, e, yields_bind.mpr (.inl ⟨e, rfl, h⟩)⟩

section
variable [Nonempty δ]

/-- Every program has a run. -/
theorem exists_yields (m : ExceptT ε (Program K W δ) α) : ∃ trace result, Yields S m trace result :=
  ⟨_, _, trace_alone m.run (Classical.arbitrary δ)⟩

/-- What comes before does not keep a program from failing. -/
theorem CanFail.bind (hf : ∀ a, CanFail S (f a)) : CanFail S (m >>= f) := by
  obtain ⟨first, result, hfirst⟩ := @exists_yields _ _ _ _ _ S _ m
  cases result with
  | error e => exact ⟨first, e, yields_bind.mpr (.inl ⟨e, rfl, hfirst⟩)⟩
  | ok a =>
    obtain ⟨rest, e, hrest⟩ := hf a
    exact ⟨_, e, yields_bind.mpr (.inr ⟨a, first, rest, hfirst, hrest, rfl⟩)⟩

theorem not_silent_bind (hm : ¬ Silent S same m) : ¬ Silent S same (m >>= f) := by
  intro h
  refine hm fun trace result hfirst => ?_
  cases result with
  | error e => exact h trace _ (yields_bind.mpr (.inl ⟨e, rfl, hfirst⟩))
  | ok a =>
    obtain ⟨rest, result, hrest⟩ := @exists_yields _ _ _ _ _ S _ (f a)
    have hquiet := h _ result (yields_bind.mpr (.inr ⟨a, trace, rest, hfirst, hrest, rfl⟩))
    exact fun access haccess => hquiet access (List.mem_append_left _ haccess)

end

theorem not_silent_bind_right {a : α} {first : List (δ × δ)} (hm : Yields S m first (.ok a)) (hf : ¬ Silent S same (f a)) :
    ¬ Silent S same (m >>= f) := by
  intro h
  refine hf fun rest result hrest => ?_
  have hquiet := h _ result (yields_bind.mpr (.inr ⟨a, first, rest, hm, hrest, rfl⟩))
  exact fun access haccess => hquiet access (List.mem_append_right _ haccess)

/-- A part that changes something comes before one that can fail. -/
theorem not_failsQuietly_bind (hm : ¬ Silent S same m) (hf : ∀ a trace, Yields S m trace (.ok a) → CanFail S (f a)) :
    ¬ FailsQuietly S same (m >>= f) := by
  intro h
  refine hm fun first result hfirst => ?_
  cases result with
  | error e => exact h first e (yields_bind.mpr (.inl ⟨e, rfl, hfirst⟩))
  | ok a =>
    obtain ⟨rest, e, hrest⟩ := hf a first hfirst
    have hquiet := h _ e (yields_bind.mpr (.inr ⟨a, first, rest, hfirst, hrest, rfl⟩))
    exact fun access haccess => hquiet access (List.mem_append_left _ haccess)

/-- A part that has run does not excuse what the next one changes. -/
theorem FailsQuietly.of_bind {a : α} {first : List (δ × δ)} (h : FailsQuietly S same (m >>= f))
    (hm : Yields S m first (.ok a)) : FailsQuietly S same (f a) := by
  intro rest e hrest
  have hquiet := h _ e (yields_bind.mpr (.inr ⟨a, first, rest, hm, hrest, rfl⟩))
  exact fun access haccess => hquiet access (List.mem_append_right _ haccess)

end ComplianceHub.Lib
