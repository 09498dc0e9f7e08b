import TrainingDemos.Refinements
import TrainingDemos.PickerViewDemo.Transactions

namespace TrainingDemos.PickerViewDemo
set_option autoImplicit true

variable {Date : Type} {format : Date → String} {s t : ViewController Date}

/-- What `setProgressValue` makes of the text of its field. -/
def progressValue (text : String) : Int := (IntegerText.parse text).getD 0

namespace ViewController

/-- The storyboard lays the screen out with the bar at a tenth. -/
def laidOut (now : Date) : ViewController Date := { viewDidLoad now with progressView := 10 }

def progressDraft (vc : ViewController Date) : Draft Int :=
  ⟨progressValue vc.txt_progressValue, vc.progressView,
    decide (vc.firstResponder = some .txt_progressValue)⟩

def progressActions (vc : ViewController Date) : Event Date → List (DraftAction Int)
  | .focus tapped _ =>
    if vc.firstResponder = some .txt_progressValue then [.confirm]
    else if tapped = .txt_progressValue then [.start]
    else []
  | .textFieldShouldReturn =>
    if vc.firstResponder = some .txt_progressValue then [.confirm] else []
  | .editProgressValue text => [.edit (progressValue text)]
  | .onSetProgressValue =>
    if vc.firstResponder = some .txt_progressValue then [.confirm, .start] else []
  | .didSelectRow _ | .onSelectDate _ | .doneClick | .cancelClick => []

theorem progressDraft_ended (vc : ViewController Date)
    (hf : vc.firstResponder = some .txt_progressValue) :
    (vc.resignFirstResponder .txt_progressValue).progressDraft =
      vc.progressDraft.act .confirm := by
  rw [resignFirstResponder, if_pos hf]
  rfl

theorem progressDraft_resign (vc : ViewController Date)
    (hne : textField ≠ .txt_progressValue) :
    (vc.resignFirstResponder textField).progressDraft = vc.progressDraft := by
  rw [resignFirstResponder]
  split
  · rename_i hf
    have hopen : vc.firstResponder ≠ some .txt_progressValue := by
      rw [hf]
      exact fun he => hne (Option.some.inj he)
    cases textField with
    | txt_progressValue => exact absurd rfl hne
    | txt_pickerView | txt_date =>
      rw [progressDraft, progressDraft, decide_eq_false hopen]
      rfl
  · rfl

theorem progressDraft_began (vc : ViewController Date) (textField : TextField) (now : Date) :
    (textFieldDidBeginEditing { vc with firstResponder := some textField } textField
      now).progressDraft =
      { vc.progressDraft with isOpen := decide (textField = .txt_progressValue) } := by
  cases textField <;> rfl

theorem progressDraft_focus_ended (hf : s.firstResponder = some .txt_progressValue)
    (textField : TextField) (now : Date) :
    (s.becomeFirstResponder textField now).progressDraft =
      { s.progressDraft.act .confirm with
        isOpen := decide (textField = .txt_progressValue) } := by
  rw [← progressDraft_ended s hf, ← progressDraft_began _ textField now, becomeFirstResponder, hf]

theorem progressDraft_focus (hf : s.firstResponder ≠ some .txt_progressValue)
    (textField : TextField) (now : Date) :
    (s.becomeFirstResponder textField now).progressDraft =
      { s.progressDraft with isOpen := decide (textField = .txt_progressValue) } := by
  cases hfirst : s.firstResponder with
  | none => rw [← progressDraft_began _ textField now, becomeFirstResponder, hfirst]
  | some edited =>
    have hne : edited ≠ .txt_progressValue := by
      intro he
      rw [hfirst, he] at hf
      exact hf rfl
    rw [← progressDraft_resign s hne, ← progressDraft_began _ textField now,
      becomeFirstResponder, hfirst]

theorem progressDraft_doneClick (hs : s.doneClick format = some t) :
    t.progressDraft = s.progressDraft := by
  rw [doneClick] at hs
  split at hs
  · obtain ⟨text, -, ht⟩ := Option.bind_eq_some_iff.1 hs
    cases ht
    exact progressDraft_resign _ (by decide)
  · obtain ⟨date, -, ht⟩ := Option.bind_eq_some_iff.1 hs
    cases ht
    exact progressDraft_resign _ (by decide)
  · cases hs
    rfl

theorem progressDraft_cancelClick : s.cancelClick.progressDraft = s.progressDraft := by
  rw [cancelClick]
  split
  · exact progressDraft_resign _ (by decide)
  · exact progressDraft_resign _ (by decide)
  · rfl

end ViewController

open ViewController

/-- The progress is confirmed, never discarded or left. -/
def ConfirmsOnly (_ : Draft Int) : DraftAction Int → Prop
  | .start | .edit _ | .confirm => True
  | .discard | .leave => False

theorem ConfirmsOnly.ne_leave (h : ConfirmsOnly d a) : a ≠ .leave := by
  intro hl
  rw [hl] at h
  exact h

theorem focus_progress (hen : s.firstResponder ≠ some textField) (now : Date) :
    (Draft.machine Int).Run ConfirmsOnly s.progressDraft
      (s.progressActions (.focus textField now))
      (s.becomeFirstResponder textField now).progressDraft := by
  rw [progressActions]
  by_cases hf : s.firstResponder = some .txt_progressValue
  · have hne : decide (textField = .txt_progressValue) = false := by
      apply decide_eq_false
      intro he
      rw [he] at hen
      exact hen hf
    rw [if_pos hf, progressDraft_focus_ended hf, hne]
    exact .cons (decide_eq_true hf) trivial rfl (.nil _)
  · have hclosed : s.progressDraft.isOpen = false := decide_eq_false hf
    rw [if_neg hf, progressDraft_focus hf]
    by_cases htapped : textField = .txt_progressValue
    · rw [if_pos htapped, decide_eq_true htapped]
      exact .cons hclosed trivial rfl (.nil _)
    · rw [if_neg htapped, decide_eq_false htapped, ← hclosed]
      exact .nil _

theorem step_progress (hs : s.progressDraft.Settled) (hen : s.Enabled e)
    (hst : s.step format e = some t) :
    (Draft.machine Int).Run ConfirmsOnly s.progressDraft (s.progressActions e)
      t.progressDraft := by
  cases e with
  | focus textField now =>
    cases hst
    exact focus_progress hen now
  | didSelectRow row | onSelectDate date =>
    cases hst
    exact .nil _
  | doneClick =>
    rw [progressDraft_doneClick hst]
    exact .nil _
  | cancelClick =>
    cases hst
    rw [progressDraft_cancelClick]
    exact .nil _
  | textFieldShouldReturn =>
    obtain ⟨textField, hfirst, ht⟩ := Option.map_eq_some_iff.1 hst
    rw [← ht, textFieldShouldReturn, progressActions]
    by_cases hf : s.firstResponder = some .txt_progressValue
    · have hfield : textField = .txt_progressValue := Option.some.inj (hfirst.symm.trans hf)
      rw [if_pos hf, hfield, progressDraft_ended s hf]
      exact .cons (decide_eq_true hf) trivial rfl (.nil _)
    · have hne : textField ≠ .txt_progressValue := by
        intro he
        rw [he] at hfirst
        exact hf hfirst
      rw [if_neg hf, progressDraft_resign s hne]
      exact .nil _
  | editProgressValue text =>
    cases hst
    exact .cons (decide_eq_true hen) trivial rfl (.nil _)
  | onSetProgressValue =>
    cases hst
    rw [progressActions]
    by_cases hf : s.firstResponder = some .txt_progressValue
    · -- the button commits what the field reads, and the field goes on
      have hdraft : s.setProgressValue.progressDraft =
          (s.progressDraft.act .confirm).act .start := by
        rw [progressDraft, setProgressValue, decide_eq_true hf]
        rfl
      rw [if_pos hf, hdraft]
      exact .cons (decide_eq_true hf) trivial rfl (.cons rfl trivial rfl (.nil _))
    · have hdraft : s.setProgressValue.progressDraft = s.progressDraft := by
        have hcommitted : progressValue s.txt_progressValue = s.progressView :=
          hs (decide_eq_false hf)
        rw [progressDraft, progressDraft, ← hcommitted]
        rfl
      rw [if_neg hf, hdraft]
      exact .nil _

/-- The progress field is a draft that is confirmed wherever it ends, and never discarded. -/
theorem progress_refines_draft (format : Date → String) (now : Date)
    (h : (pickerForm format).Run (fun _ _ => True) (.laidOut now) es s) :
    ∃ as, (pickerForm format).Labelled (fun s e as => as = s.progressActions e) (.laidOut now)
        es as ∧
      (Draft.machine Int).Run ConfirmsOnly ⟨10, 10, false⟩ as s.progressDraft ∧
      (s.firstResponder ≠ some .txt_progressValue →
        s.progressView = progressValue s.txt_progressValue) := by
  have hten : progressValue "10" = 10 := by
    decide +kernel
  have hstart : (laidOut now).progressDraft = ⟨10, 10, false⟩ :=
    congrArg (Draft.mk · 10 false) hten
  have hsettled : (laidOut now).progressDraft.Settled := by
    rw [hstart]
    exact fun _ => rfl
  obtain ⟨as, hl, hrun⟩ := h.refines (I := fun s => s.progressDraft.Settled)
    (L := fun s e as => as = s.progressActions e) (C := ConfirmsOnly) progressDraft
    (fun s e t hs hen _ hst =>
      have hrun := step_progress hs hen hst
      ⟨hs.run (hrun.mono fun _ _ ha => ha.ne_leave), _, rfl, hrun⟩) hsettled
  refine ⟨as, hl, hstart ▸ hrun, fun hf => ?_⟩
  have hend := hsettled.run (hrun.mono fun _ _ ha => ha.ne_leave)
  exact (hend (decide_eq_false hf)).symm

def typedAgain : List (Event Nat) := [
  .focus .txt_progressValue 0, .editProgressValue "40", .onSetProgressValue,
  .editProgressValue "70", .focus .txt_date 1, .focus .txt_progressValue 2,
  .editProgressValue "4o"]

theorem progress_refines_draft_typed : ∃ s as,
    (pickerForm Nat.repr).Run (fun _ _ => True) (.laidOut 0) typedAgain s ∧
      s.txt_progressValue = "4o" ∧ s.progressView = 70 ∧
      (Draft.machine Int).Run ConfirmsOnly ⟨10, 10, false⟩ as s.progressDraft := by
  obtain ⟨s, hr, hs⟩ := Machine.run_of_exec (pickerForm Nat.repr) (fun _ _ => True)
    (.laidOut 0) typedAgain
    (fun s => decide (s.txt_progressValue = "4o" ∧ s.progressView = 70)) (by decide +kernel)
  obtain ⟨htext, hbar⟩ := of_decide_eq_true hs
  obtain ⟨as, -, hrun, -⟩ := progress_refines_draft Nat.repr 0 hr
  exact ⟨s, as, hr, htext, hbar, hrun⟩

end TrainingDemos.PickerViewDemo
