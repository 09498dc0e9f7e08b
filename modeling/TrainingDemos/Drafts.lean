import TrainingDemos.Transitions
import Mathlib.Logic.Basic

namespace TrainingDemos
set_option autoImplicit true

/-- A value edited in sessions, with its working and its committed copy. -/
structure Draft (α : Type u) where
  working : α
  committed : α
  isOpen : Bool

/-- What happens to an edited value. A session is confirmed or discarded, or it is left. -/
inductive DraftAction (α : Type u) where
  | start
  | edit (a : α)
  | confirm
  | discard
  | leave

namespace Draft
variable {α : Type u} {d : Draft α}

def act (d : Draft α) : DraftAction α → Draft α
  | .start => { d with isOpen := true }
  | .edit a => { d with working := a }
  | .confirm => ⟨d.working, d.working, false⟩
  | .discard => ⟨d.committed, d.committed, false⟩
  | .leave => { d with isOpen := false }

def after (d : Draft α) (action : Option (DraftAction α)) : Draft α :=
  action.elim d d.act

/-- Between two sessions the working copy is the committed one. -/
def Settled (d : Draft α) : Prop := d.isOpen = false → d.working = d.committed

def Allows (d : Draft α) : Option (DraftAction α) → Prop
  | some (.edit _) => d.isOpen = true
  | _ => True

theorem Settled.after_iff (h : d.Settled) (hd : d.Allows action) :
    (d.after action).Settled ↔ (action = some .leave → d.working = d.committed) := by
  cases action with
  | none =>
    constructor
    · intro _ hl
      cases hl
    · exact fun _ => h
  | some action =>
    cases action with
    | start =>
      constructor
      · intro _ hl
        cases hl
      · intro _ ho
        cases ho
    | edit a =>
      constructor
      · intro _ hl
        cases hl
      · intro _ ho
        have hopen : d.isOpen = false := ho
        rw [show d.isOpen = true from hd] at hopen
        cases hopen
    | confirm | discard =>
      constructor
      · intro _ hl
        cases hl
      · exact fun _ _ => rfl
    | leave => exact ⟨fun hs _ => hs rfl, fun hl _ => hl rfl⟩

def machine (α : Type) : Machine (Draft α) (DraftAction α) where
  enabled
    | d, .start => d.isOpen = false
    | d, .edit _ | d, .confirm | d, .discard | d, .leave => d.isOpen = true
  step d action := some (d.act action)

theorem run_after {α : Type} {d : Draft α} {action : Option (DraftAction α)}
    (h : ∀ a ∈ action, (machine α).enabled d a) :
    (machine α).Run (fun _ _ => True) d action.toList (d.after action) := by
  cases action with
  | none => exact .nil d
  | some a => exact .cons (h a rfl) trivial rfl (.nil _)

theorem Settled.run {α : Type} {d d' : Draft α} {as : List (DraftAction α)} (h : d.Settled)
    (hr : (machine α).Run (fun _ a => a ≠ .leave) d as d') : d'.Settled := by
  apply hr.invariant _ h
  intro d a d' hd hen hne hs
  cases hs
  have hallows : d.Allows (some a) := by
    cases a with
    | edit _ => exact hen
    | start | confirm | discard | leave => exact trivial
  exact (hd.after_iff hallows).2 fun hleave => absurd (Option.some.inj hleave) hne

end Draft

end TrainingDemos
