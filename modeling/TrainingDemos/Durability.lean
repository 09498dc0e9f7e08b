import TrainingDemos.Transitions

namespace TrainingDemos
set_option autoImplicit true

/-- Two copies of a state: the one worked on, and the one on disk. -/
structure Durable (σ : Type) where
  current : σ
  stored : σ

/-- An action in memory, the writing of everything to disk, or the loss of what is not on disk. -/
inductive DurableEvent (ε : Type) where
  | perform (action : ε)
  | write
  | crash

/-- The actions that are on disk, and those done since that a crash would lose. -/
structure Survivors (ε : Type) where
  durable : List ε
  pending : List ε

namespace Survivors

def after (l : Survivors ε) : DurableEvent ε → Survivors ε
  | .perform action => { l with pending := l.pending ++ [action] }
  | .write => ⟨l.durable ++ l.pending, []⟩
  | .crash => { l with pending := [] }

def of (es : List (DurableEvent ε)) : Survivors ε := es.foldl after ⟨[], []⟩

end Survivors

namespace Machine
variable {M : Machine σ ε} {B : σ → ε → Prop}

def durably (M : Machine σ ε) : Machine (Durable σ) (DurableEvent ε) where
  enabled
    | s, .perform action => M.enabled s.current action
    | _, .write | _, .crash => True
  step
    | s, .perform action => (M.step s.current action).map fun t => { s with current := t }
    | s, .write => some { s with stored := s.current }
    | s, .crash => some { s with current := s.stored }

def InMemory (B : σ → ε → Prop) : Durable σ → DurableEvent ε → Prop
  | s, .perform action => B s.current action
  | _, .write | _, .crash => True

theorem Run.performed (hen : M.enabled s e) (hb : B s e) (hs : M.step s e = some t) (d : σ) :
    M.durably.Run (InMemory B) ⟨s, d⟩ [.perform e] ⟨t, d⟩ :=
  .cons hen hb (by simp only [durably, hs, Option.map_some]) (.nil _)

theorem Run.written (s d : σ) : M.durably.Run (InMemory B) ⟨s, d⟩ [.write] ⟨s, s⟩ :=
  .cons trivial trivial rfl (.nil _)

theorem Run.crashed (s d : σ) : M.durably.Run (InMemory B) ⟨s, d⟩ [.crash] ⟨d, d⟩ :=
  .cons trivial trivial rfl (.nil _)

def Survives (M : Machine σ ε) (B : σ → ε → Prop) (s : σ) (l : Survivors ε) (d : Durable σ) :
    Prop :=
  M.Run B s l.durable d.stored ∧ M.Run B d.stored l.pending d.current

theorem Survives.after {l : Survivors ε} (h : M.Survives B s l d) (hen : M.durably.enabled d e)
    (hb : InMemory B d e) (hs : M.durably.step d e = some d') : M.Survives B s (l.after e) d' := by
  obtain ⟨hd, hp⟩ := h
  cases e with
  | perform action =>
    obtain ⟨t, ht, hd'⟩ := Option.map_eq_some_iff.1 hs
    cases hd'
    exact ⟨hd, hp.trans (.cons hen hb ht (.nil t))⟩
  | write =>
    cases hs
    exact ⟨hd.trans hp, .nil _⟩
  | crash =>
    cases hs
    exact ⟨hd, .nil _⟩

theorem Survives.run {l : Survivors ε} (hrun : M.durably.Run (InMemory B) d es d')
    (h : M.Survives B s l d) : M.Survives B s (es.foldl Survivors.after l) d' := by
  induction hrun generalizing l with
  | nil => exact h
  | cons hen hb hs hr ih => exact ih (h.after hen hb hs)

/-- What crashes leave is a run of the system over the actions that survived them. -/
theorem Run.survives (h : M.durably.Run (InMemory B) ⟨s, s⟩ es d) :
    M.Run B s (Survivors.of es).durable d.stored ∧
      M.Run B d.stored (Survivors.of es).pending d.current :=
  Survives.run h ⟨.nil s, .nil s⟩

end Machine

end TrainingDemos
