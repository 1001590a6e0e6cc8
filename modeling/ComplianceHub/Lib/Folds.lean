import ComplianceHub.Common

/-!
# Folds that may raise

* `foldlM_always` : what every step keeps holds at the end;
* `foldlM_related` : two folds in step stay related.
-/

namespace ComplianceHub.Lib

variable {ε α β σ τ : Type}

theorem foldlM_always {I : σ → Prop} {step : σ → α → Except ε σ} :
    ∀ {xs : List α} {a b : σ}, xs.foldlM step a = .ok b → (∀ a x b, x ∈ xs → I a → step a x = .ok b → I b) → I a → I b
  | [], a, b, h, _, ha => by
    cases h
    exact ha
  | x :: xs, a, b, h, hstep, ha => by
    rw [List.foldlM_cons] at h
    obtain ⟨c, hc, h⟩ := bind_eq_ok.mp h
    exact foldlM_always h (fun a y b hy => hstep a y b (List.mem_cons_of_mem _ hy))
      (hstep a x c List.mem_cons_self ha hc)

theorem foldlM_related {R : σ → τ → Prop} {P : α → β → Prop} {step : σ → α → Except ε σ} {step' : τ → β → Except ε τ}
    (hstep : ∀ a b x y a' b', P x y → R a b → step a x = .ok a' → step' b y = .ok b' → R a' b')
    {xs : List α} {ys : List β} (hxs : List.Forall₂ P xs ys) {a a' : σ} {b b' : τ} (h : xs.foldlM step a = .ok a')
    (h' : ys.foldlM step' b = .ok b') (hR : R a b) : R a' b' := by
  induction hxs generalizing a b with
  | nil =>
    cases h
    cases h'
    exact hR
  | cons hxy _ ih =>
    rw [List.foldlM_cons] at h h'
    obtain ⟨c, hc, h⟩ := bind_eq_ok.mp h
    obtain ⟨d, hd, h'⟩ := bind_eq_ok.mp h'
    exact ih h h' (hstep _ _ _ _ _ _ hxy hR hc hd)

end ComplianceHub.Lib
