import TrainingDemos.FirebasePractise.FruitOwnership
import TrainingDemos.FirebasePractise.FruitWrites

namespace TrainingDemos.FirebasePractise
set_option autoImplicit true

theorem mem_of_mem_foldl_eraseIdx {rows : List Nat} {l : List Fruits}
    (h : row ∈ rows.foldl List.eraseIdx l) : row ∈ l := by
  induction rows generalizing l with
  | nil => exact h
  | cons i rows ih => exact List.mem_of_mem_eraseIdx (ih h)

section
variable {δ : Type} [DecidableEq δ] {u v m : FruitApp δ}
  {B : FruitApp δ → FruitEvent δ → Prop}

theorem Isolated.extends_of_run (h : FruitApp.machine.Run (fun m e => m.InTurn e) u es m)
    (hu : Isolated u) : Extends u.creator m.creator := by
  induction h with
  | nil u => exact .refl _
  | cons hen hb hs hr ih =>
    obtain ⟨ht, hext⟩ := hu.step hen hb hs
    exact fun key uid hk => ih ht key uid (hext key uid hk)

theorem Isolated.extends_of_append {es₁ es₂ : List (FruitEvent δ)}
    (h : FruitApp.machine.Run (fun m e => m.InTurn e) FruitApp.start (es₁ ++ es₂) m)
    (hv : FruitApp.machine.Run (fun m e => m.InTurn e) FruitApp.start es₁ v) :
    Extends v.creator m.creator := by
  obtain ⟨v', hv', hrest⟩ := h.split
  cases hv.unique hv'
  exact (Isolated.of_run hv isolated_start).extends_of_run hrest

theorem FruitApp.merged_shown (hu : machine.Run B start es₁ u) (hv : machine.Run B u es₂ v) (d : δ)
    (user : Option String) : ∃ ds, Merged (start.Pressed (es₁ ++ es₂))
      ((u.documents.overlaid (machine.outputs (carried d) u es₂)).overlaid (v.pending d user))
      ds := by
  have hstart : Merged (start.Pressed (es₁ ++ es₂)) u.documents _ :=
    (merged hu).mono fun key fields hp => hp.mono (List.prefix_append es₁ es₂)
  have hcarried : ∀ a ∈ machine.outputs (carried d) u es₂, ∀ fields ∈ a.2,
      start.Pressed (es₁ ++ es₂) a.1 fields := by
    apply hv.forall_outputs (P := fun a : Upsert => ∀ fields ∈ a.2,
      start.Pressed (es₁ ++ es₂) a.1 fields)
    intro es' w e hp hw a ha fields hf
    have hpressed := writes_pressed (hu.trans hw) a
      (mem_writes_of_served (mem_served_of_carried ha)) fields hf
    exact hpressed.mono ((List.prefix_append_right_inj es₁).2
      ((List.prefix_append es' [e]).trans hp))
  have hpending : ∀ a ∈ v.pending d user, ∀ fields ∈ a.2,
      start.Pressed (es₁ ++ es₂) a.1 fields := by
    intro a ha fields hf
    exact writes_pressed (hu.trans hv) a (mem_writes_of_pending ha) fields hf
  have hnames : ∀ key f g, start.Pressed (es₁ ++ es₂) key f → start.Pressed (es₁ ++ es₂) key g →
      f.map Prod.fst = g.map Prod.fst := fun _ _ _ => Pressed.names
  exact ⟨_, (hstart.upserts hnames hcarried).upserts hnames hpending⟩

end

/-- A user deletes a fruit on one device while an answer is on its way to the other one. -/
def deletedElsewhere : List (FruitEvent Bool) := [
  .auth false .launch, .auth false (.clickonsignup "Ann" "a@b" "secret"),
  .auth false (.completed 0 ⟨none, "u1", "Ann", "a@b"⟩),
  .auth false (.completed 0 ⟨none, "", "", ""⟩), .addbtnclick false,
  .input false (.editText "apple"), .press false "f1", .served 0, .pop false,
  .auth true .launch, .auth true (.loginbtnclick "a@b" "secret"),
  .auth true (.completed 0 ⟨none, "u1", "", ""⟩), .viewWillAppear true, .served 0, .served 0,
  .viewWillAppear false, .served 0, .swipeDelete true 0, .served 1, .served 0]

end TrainingDemos.FirebasePractise
