import Mathlib.Data.List.Infix

namespace TrainingDemos
set_option autoImplicit true

/-- A system driven by events. A step that returns `none` is a run-time trap. -/
structure Machine (σ ε : Type) where
  enabled : σ → ε → Prop
  step : σ → ε → Option σ

namespace Machine
variable {M : Machine σ ε} {I P : σ → Prop} {B B' : σ → ε → Prop}

/-- Executions, first event first, in which every event meets `B` where it is delivered. -/
inductive Run (M : Machine σ ε) (B : σ → ε → Prop) : σ → List ε → σ → Prop where
  | nil (s : σ) : Run M B s [] s
  | cons : M.enabled s e → B s e → M.step s e = some t → Run M B t es u →
      Run M B s (e :: es) u

/-- `P` holds in every state that a run over the given events passes through. -/
def Throughout (M : Machine σ ε) (B : σ → ε → Prop) (P : σ → Prop) (s : σ) (es : List ε) : Prop :=
  ∀ es' u, es' <+: es → M.Run B s es' u → P u

theorem Run.mono (h : M.Run B s es t) (hB : ∀ s e, B s e → B' s e) : M.Run B' s es t := by
  induction h with
  | nil => exact .nil _
  | cons hen hb hs hr ih => exact .cons hen (hB _ _ hb) hs ih

theorem Run.trans (h : M.Run B s es t) (h' : M.Run B t es' u) : M.Run B s (es ++ es') u := by
  induction h with
  | nil => exact h'
  | cons hen hb hs hr ih => exact .cons hen hb hs (ih h')

theorem Run.cons_iff : M.Run B s (e :: es) u ↔
    M.enabled s e ∧ B s e ∧ ∃ t, M.step s e = some t ∧ M.Run B t es u := by
  constructor
  · intro h
    cases h with
    | cons hen hb hs hr => exact ⟨hen, hb, _, hs, hr⟩
  · intro h
    obtain ⟨hen, hb, t, hs, hr⟩ := h
    exact .cons hen hb hs hr

theorem Run.split (h : M.Run B s (es ++ es') u) : ∃ t, M.Run B s es t ∧ M.Run B t es' u := by
  induction es generalizing s with
  | nil => exact ⟨s, .nil s, h⟩
  | cons e es ih =>
    obtain ⟨hen, hb, t, hs, hr⟩ := cons_iff.1 h
    obtain ⟨t', hr₁, hr₂⟩ := ih hr
    exact ⟨t', .cons hen hb hs hr₁, hr₂⟩

/-- A property that each step keeps holds at the end of every run that starts with it. -/
theorem Run.invariant (h : M.Run B s es t)
    (hstep : ∀ s e t, I s → M.enabled s e → B s e → M.step s e = some t → I t)
    (hs : I s) : I t := by
  induction h with
  | nil => exact hs
  | cons hen hb hst hr ih => exact ih (hstep _ _ _ hs hen hb hst)

theorem Run.accumulates {f : σ → List α} {g : ε → List α} (h : M.Run B s es t)
    (hstep : ∀ s e t, I s → M.enabled s e → B s e → M.step s e = some t →
      I t ∧ f t = f s ++ g e) (hs : I s) : I t ∧ f t = f s ++ es.flatMap g := by
  induction h with
  | nil s => exact ⟨hs, (List.append_nil _).symm⟩
  | cons hen hb hst hr ih =>
    obtain ⟨ht, hf⟩ := hstep _ _ _ hs hen hb hst
    obtain ⟨hu, hf'⟩ := ih ht
    exact ⟨hu, by rw [hf', hf, List.flatMap_cons, List.append_assoc]⟩

theorem Run.charges {f : σ → Nat} {p q : ε → Bool} (h : M.Run B s es t)
    (hstep : ∀ s e t, I s → M.enabled s e → B s e → M.step s e = some t →
      I t ∧ f t + [e].countP q ≤ f s + [e].countP p) (hs : I s) :
    I t ∧ f t + es.countP q ≤ f s + es.countP p := by
  induction h with
  | nil s => exact ⟨hs, Nat.le_refl _⟩
  | @cons s e t es u hen hb hst hr ih =>
    obtain ⟨ht, hf⟩ := hstep _ _ _ hs hen hb hst
    obtain ⟨hu, hf'⟩ := ih ht
    have hcount (r : ε → Bool) : (e :: es).countP r = [e].countP r + es.countP r := by
      rw [← List.countP_append, List.singleton_append]
    rw [hcount p, hcount q]
    exact ⟨hu, by omega⟩

theorem Run.with_events {C : ε → Prop} (h : M.Run B s es t) (hes : ∀ e ∈ es, C e) :
    M.Run (fun s e => B s e ∧ C e) s es t := by
  induction h with
  | nil => exact .nil _
  | cons hen hb hst hr ih =>
    refine .cons hen ⟨hb, hes _ List.mem_cons_self⟩ hst ?_
    exact ih fun e he => hes e (List.mem_cons_of_mem _ he)

theorem Throughout.start (h : M.Throughout B P s es) : P s :=
  h [] s List.nil_prefix (.nil s)

theorem Throughout.tail (h : M.Throughout B P s (e :: es)) (hen : M.enabled s e) (hb : B s e)
    (hs : M.step s e = some t) : M.Throughout B P t es := by
  intro es' u hp hr
  exact h (e :: es') u (List.cons_prefix_cons.2 ⟨rfl, hp⟩) (.cons hen hb hs hr)

theorem Throughout.nil_iff : M.Throughout B P s [] ↔ P s := by
  refine ⟨Throughout.start, ?_⟩
  intro h es' u hp hr
  rw [List.prefix_nil.1 hp] at hr
  cases hr
  exact h

theorem Throughout.cons_iff (hen : M.enabled s e) (hb : B s e) (hs : M.step s e = some t) :
    M.Throughout B P s (e :: es) ↔ P s ∧ M.Throughout B P t es := by
  refine ⟨fun h => ⟨h.start, h.tail hen hb hs⟩, ?_⟩
  intro h₀ es' u hp hr
  obtain ⟨hP, h⟩ := h₀
  cases hr with
  | nil => exact hP
  | cons hen' hb' hs' hr' =>
    obtain ⟨he, hp'⟩ := List.cons_prefix_cons.1 hp
    subst he
    rw [hs] at hs'
    cases hs'
    exact h _ _ hp' hr'

/-- When a step keeps `P` exactly if it meets `C`, a run does exactly if all its steps do. -/
theorem Run.throughout_iff {C : σ → ε → Prop} (h : M.Run B s es t)
    (hC : ∀ s e t, I s → P s → M.enabled s e → B s e → M.step s e = some t → (P t ↔ C s e))
    (hI : ∀ s e t, I s → P s → M.enabled s e → B s e → C s e → M.step s e = some t → I t)
    (hs : I s) (hP : P s) :
    M.Throughout B P s es ↔ M.Run (fun s e => B s e ∧ C s e) s es t := by
  induction h with
  | nil s => exact ⟨fun _ => .nil s, fun _ => Throughout.nil_iff.2 hP⟩
  | @cons s e t es u hen hb hst hr ih =>
    rw [Throughout.cons_iff hen hb hst]
    constructor
    · intro h₀
      obtain ⟨-, ht⟩ := h₀
      have hc := (hC _ _ _ hs hP hen hb hst).1 ht.start
      exact .cons hen ⟨hb, hc⟩ hst ((ih (hI _ _ _ hs hP hen hb hc hst) ht.start).1 ht)
    · intro hrun
      cases hrun with
      | cons hen' hbc hst' hr' =>
        rw [hst] at hst'
        cases hst'
        have hPt := (hC _ _ _ hs hP hen hb hst).2 hbc.2
        exact ⟨hP, (ih (hI _ _ _ hs hP hen hb hbc.2 hst) hPt).2 hr'⟩

section Execution
variable (M) (B) [∀ s e, Decidable (M.enabled s e ∧ B s e)]

/-- Run a list of events, stopping where one cannot be delivered, violates `B` or traps. -/
def exec (s : σ) : List ε → Option σ
  | [] => some s
  | e :: es => if M.enabled s e ∧ B s e then (M.step s e).bind fun t => exec t es else none

variable {M} {B}

theorem exec_run (h : M.exec B s es = some t) : M.Run B s es t := by
  induction es generalizing s with
  | nil =>
    cases h
    exact .nil _
  | cons e es ih =>
    simp only [exec] at h
    split at h
    · rename_i ha
      obtain ⟨u, hu, ht⟩ := Option.bind_eq_some_iff.1 h
      exact .cons ha.1 ha.2 hu (ih ht)
    · cases h

theorem exec_any {p : σ → Bool} (h : (M.exec B s es).any p = true) :
    ∃ t, M.Run B s es t ∧ p t = true := by
  obtain ⟨t, ht, hp⟩ := Option.any_eq_true _ _ |>.1 h
  exact ⟨t, exec_run ht, hp⟩

theorem run_of_exec (M : Machine σ ε) (B : σ → ε → Prop) [∀ s e, Decidable (M.enabled s e ∧ B s e)]
    (s : σ) (es : List ε) (p : σ → Bool) (h : (M.exec B s es).any p = true) :
    ∃ t, M.Run B s es t ∧ p t = true :=
  exec_any h

end Execution

section Par
variable {N : Machine τ ζ} {B₂ : τ → ζ → Prop}

/-- Two systems side by side. -/
def par (M : Machine σ ε) (N : Machine τ ζ) : Machine (σ × τ) (ε ⊕ ζ) where
  enabled
    | s, .inl e => M.enabled s.1 e
    | s, .inr e => N.enabled s.2 e
  step
    | s, .inl e => (M.step s.1 e).map fun t => (t, s.2)
    | s, .inr e => (N.step s.2 e).map fun t => (s.1, t)

def Beside (B : σ → ε → Prop) (B₂ : τ → ζ → Prop) : σ × τ → ε ⊕ ζ → Prop
  | s, .inl e => B s.1 e
  | s, .inr e => B₂ s.2 e

instance [∀ s e, Decidable (M.enabled s e)] [∀ s e, Decidable (N.enabled s e)] (s : σ × τ) :
    (e : ε ⊕ ζ) → Decidable ((M.par N).enabled s e)
  | .inl e => inferInstanceAs (Decidable (M.enabled s.1 e))
  | .inr e => inferInstanceAs (Decidable (N.enabled s.2 e))

instance [∀ s e, Decidable (B s e)] [∀ s e, Decidable (B₂ s e)] (s : σ × τ) :
    (e : ε ⊕ ζ) → Decidable (Beside B B₂ s e)
  | .inl e => inferInstanceAs (Decidable (B s.1 e))
  | .inr e => inferInstanceAs (Decidable (B₂ s.2 e))

theorem Run.of_par (h : (M.par N).Run (Beside B B₂) s es t) :
    (∃ es₁, M.Run B s.1 es₁ t.1) ∧ ∃ es₂, N.Run B₂ s.2 es₂ t.2 := by
  induction h with
  | nil s => exact ⟨⟨[], .nil _⟩, [], .nil _⟩
  | @cons s e t es u hen hb hst hr ih =>
    obtain ⟨⟨es₁, hr₁⟩, es₂, hr₂⟩ := ih
    cases e with
    | inl e =>
      obtain ⟨t', hs, ht⟩ := Option.map_eq_some_iff.1 hst
      cases ht
      exact ⟨⟨e :: es₁, .cons hen hb hs hr₁⟩, es₂, hr₂⟩
    | inr e =>
      obtain ⟨t', hs, ht⟩ := Option.map_eq_some_iff.1 hst
      cases ht
      exact ⟨⟨es₁, hr₁⟩, e :: es₂, .cons hen hb hs hr₂⟩

theorem Run.par_left (h : M.Run B s es t) (u : τ) :
    (M.par N).Run (Beside B B₂) (s, u) (es.map .inl) (t, u) := by
  induction h with
  | nil s => exact .nil _
  | cons hen hb hst hr ih =>
    exact .cons hen hb (by simp only [par, hst, Option.map_some]) ih

theorem Run.par_right (h : N.Run B₂ u es v) (s : σ) :
    (M.par N).Run (Beside B B₂) (s, u) (es.map .inr) (s, v) := by
  induction h with
  | nil u => exact .nil _
  | cons hen hb hst hr ih =>
    exact .cons hen hb (by simp only [par, hst, Option.map_some]) ih

end Par

end Machine

end TrainingDemos
