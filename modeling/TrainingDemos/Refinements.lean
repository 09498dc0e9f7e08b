import TrainingDemos.Transitions

namespace TrainingDemos
set_option autoImplicit true

namespace Machine
variable {M : Machine σ ε} {N : Machine τ ζ} {I : σ → Prop} {B : σ → ε → Prop}
  {C : τ → ζ → Prop} {L : σ → ε → List ζ → Prop}

/-- The actions that the steps of an execution stand for. -/
inductive Labelled (M : Machine σ ε) (L : σ → ε → List ζ → Prop) :
    σ → List ε → List ζ → Prop where
  | nil (s : σ) : Labelled M L s [] []
  | cons : L s e as → M.step s e = some t → Labelled M L t es bs →
      Labelled M L s (e :: es) (as ++ bs)

theorem Run.unique (h : M.Run B s es t) (h' : M.Run C' s es t') : t = t' := by
  induction h with
  | nil s =>
    cases h'
    rfl
  | cons hen hb hs hr ih =>
    obtain ⟨-, -, u, hs', hr'⟩ := cons_iff.1 h'
    rw [hs] at hs'
    cases hs'
    exact ih hr'

/-- What the events of a run put out, each in the state that it is delivered in. -/
def outputs (M : Machine σ ε) (out : σ → ε → List ζ) : σ → List ε → List ζ
  | _, [] => []
  | s, e :: es => out s e ++ (M.step s e).elim [] fun t => M.outputs out t es

theorem outputs_singleton (out : σ → ε → List ζ) (s : σ) (e : ε) :
    M.outputs out s [e] = out s e := by
  have hnil : ((M.step s e).elim [] fun t => M.outputs out t []) = [] := by
    cases M.step s e with
    | none => rfl
    | some t => rfl
  rw [outputs, hnil, List.append_nil]

theorem Run.outputs_append (h : M.Run B s es t) (out : σ → ε → List ζ) (es' : List ε) :
    M.outputs out s (es ++ es') = M.outputs out s es ++ M.outputs out t es' := by
  induction h with
  | nil s => rfl
  | cons hen hb hs hr ih =>
    rw [List.cons_append, outputs, outputs, hs, Option.elim_some, Option.elim_some, ih,
      List.append_assoc]

theorem Run.outputs_snoc (h : M.Run B s es t) (out : σ → ε → List ζ) (e : ε) :
    M.outputs out s (es ++ [e]) = M.outputs out s es ++ out t e := by
  rw [h.outputs_append, outputs_singleton]

theorem Run.forall_outputs {P : ζ → Prop} {out : σ → ε → List ζ} (h : M.Run B s es t)
    (hstep : ∀ es' u e, es' ++ [e] <+: es → M.Run B s es' u → ∀ a ∈ out u e, P a) :
    ∀ a ∈ M.outputs out s es, P a := by
  induction h with
  | nil s => exact fun a ha => absurd ha List.not_mem_nil
  | @cons s e t es u hen hb hs hr ih =>
    intro a ha
    rw [outputs, hs, Option.elim_some] at ha
    rcases List.mem_append.1 ha with ha | ha
    · exact hstep [] s e (List.cons_prefix_cons.2 ⟨rfl, List.nil_prefix⟩) (.nil s) a ha
    · refine ih (fun es' u' e' hp hr' => ?_) a ha
      exact hstep (e :: es') u' e' (List.cons_prefix_cons.2 ⟨rfl, hp⟩) (.cons hen hb hs hr')

theorem Run.history {J : List ε → σ → Prop} (h : M.Run B s es t)
    (hstep : ∀ es e u v, M.Run B s es u → J es u → M.enabled u e → B u e → M.step u e = some v →
      J (es ++ [e]) v) (hs : J [] s) : J es t := by
  have hrest : ∀ u es₁ es₂, M.Run B s es₁ u → J es₁ u → M.Run B u es₂ t → J (es₁ ++ es₂) t := by
    intro u es₁ es₂ hr hu hrun
    induction hrun generalizing es₁ with
    | nil u =>
      rw [List.append_nil]
      exact hu
    | @cons u e v es₂ _ hen hb hst hrun ih =>
      have hv := ih h (es₁ ++ [e]) (hr.trans (.cons hen hb hst (.nil v)))
        (hstep es₁ e u v hr hu hen hb hst)
      rw [List.append_assoc, List.singleton_append] at hv
      exact hv
  exact hrest s [] es (.nil s) hs h

/-- Where each step of `M` is a run of `N`, each run of `M` is one of `N`. -/
theorem Run.refines (abs : σ → τ) (h : M.Run B s es t)
    (hstep : ∀ s e t, I s → M.enabled s e → B s e → M.step s e = some t →
      I t ∧ ∃ as, L s e as ∧ N.Run C (abs s) as (abs t))
    (hs : I s) : ∃ as, M.Labelled L s es as ∧ N.Run C (abs s) as (abs t) := by
  induction h with
  | nil s => exact ⟨[], .nil s, .nil _⟩
  | cons hen hb hst hr ih =>
    obtain ⟨ht, as, ha, hrun⟩ := hstep _ _ _ hs hen hb hst
    obtain ⟨bs, hl, hrun'⟩ := ih ht
    exact ⟨as ++ bs, .cons ha hst hl, hrun.trans hrun'⟩

/-- Where each step of `M` is one of `N` or none, each run of `M` projects to one of `N`. -/
theorem Run.projects {R : σ → τ → Prop} (proj : ε → Option ζ) (h : M.Run B s es t)
    (hnone : ∀ s e t u, R s u → M.enabled s e → M.step s e = some t → proj e = none → R t u)
    (hsome : ∀ s e t u a, R s u → M.enabled s e → M.step s e = some t → proj e = some a →
      N.enabled u a ∧ C u a ∧ ∃ v, N.step u a = some v ∧ R t v)
    (hs : R s u) : ∃ v, N.Run C u (es.filterMap proj) v ∧ R t v := by
  induction h generalizing u with
  | nil s => exact ⟨u, .nil u, hs⟩
  | @cons s e t es _ hen hb hst hr ih =>
    rw [List.filterMap_cons]
    split
    · rename_i hproj
      exact ih (hnone _ _ _ _ hs hen hst hproj)
    · rename_i a hproj
      obtain ⟨hen', hc, v, hv, ht⟩ := hsome _ _ _ _ _ hs hen hst hproj
      obtain ⟨w, hrun, hw⟩ := ih ht
      exact ⟨w, .cons hen' hc hv hrun, hw⟩

end Machine

end TrainingDemos
