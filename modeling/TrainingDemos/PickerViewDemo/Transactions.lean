import TrainingDemos.PickerViewDemo.EditingSessions

namespace TrainingDemos.PickerViewDemo
set_option autoImplicit true

variable {Date : Type} {format : Date → String} {s t : ViewController Date}

def ViewController.rowDraft (vc : ViewController Date) : Draft Int :=
  ⟨vc.selectedRow, vc.oldselectedRow, decide (vc.firstResponder = some .txt_pickerView)⟩

def ViewController.dateDraft (vc : ViewController Date) : Draft (Option Date) :=
  ⟨vc.selectedDate, vc.oldSelectedDate, decide (vc.firstResponder = some .txt_date)⟩

def draftAction (textField : TextField) (turned : Event Date → Option α)
    (vc : ViewController Date) : Event Date → Option (DraftAction α)
  | .focus tapped _ =>
    if vc.firstResponder = some textField then some .leave
    else if tapped = textField then some .start
    else none
  | .doneClick => if vc.firstResponder = some textField then some .confirm else none
  | .cancelClick => if vc.firstResponder = some textField then some .discard else none
  | .textFieldShouldReturn => if vc.firstResponder = some textField then some .leave else none
  | e => (turned e).map .edit

def turnedRow : Event Date → Option Int
  | .didSelectRow row => some row
  | _ => none

def turnedDate : Event Date → Option (Option Date)
  | .onSelectDate date => some (some date)
  | _ => none

theorem rowDraft_effect (he : Effect format s e t) :
    t.rowDraft = s.rowDraft.after (draftAction .txt_pickerView turnedRow s e) := by
  cases he with
  | focusNumber hf => simp [ViewController.rowDraft, draftAction, hf, Draft.after, Draft.act]
  | focusDate hf | focusProgress hf =>
    by_cases hn : s.firstResponder = some .txt_pickerView <;>
      simp [ViewController.rowDraft, draftAction, hn, Draft.after, Draft.act]
  | turnNumber hf | turnDate hf | doneNumber hf | doneDate hf | cancelNumber hf | cancelDate hf =>
    simp [ViewController.rowDraft, draftAction, hf, turnedRow, Draft.after, Draft.act]
  | returned =>
    by_cases hn : s.firstResponder = some .txt_pickerView <;>
      simp [ViewController.rowDraft, draftAction, hn, Draft.after, Draft.act]
  | typed | progress => rfl

theorem dateDraft_effect (he : Effect format s e t) :
    t.dateDraft = s.dateDraft.after (draftAction .txt_date turnedDate s e) := by
  cases he with
  | focusDate hf => simp [ViewController.dateDraft, draftAction, hf, Draft.after, Draft.act]
  | focusNumber hf | focusProgress hf =>
    by_cases hn : s.firstResponder = some .txt_date <;>
      simp [ViewController.dateDraft, draftAction, hn, Draft.after, Draft.act]
  | turnNumber hf | turnDate hf | doneNumber hf | doneDate hf | cancelNumber hf | cancelDate hf =>
    simp [ViewController.dateDraft, draftAction, hf, turnedDate, Draft.after, Draft.act]
  | returned =>
    by_cases hn : s.firstResponder = some .txt_date <;>
      simp [ViewController.dateDraft, draftAction, hn, Draft.after, Draft.act]
  | typed | progress => rfl

theorem draftAction_allows {turned : Event Date → Option α} (d : Draft α)
    (hturned : (turned e).isSome → d.isOpen = true) :
    d.Allows (draftAction textField turned s e) := by
  have hedit : d.Allows ((turned e).map .edit) := by
    cases ht : turned e with
    | none => trivial
    | some a => exact hturned (Option.isSome_of_mem ht)
  cases e with
  | didSelectRow row | onSelectDate date | editProgressValue text | onSetProgressValue =>
    exact hedit
  | focus tapped now =>
    rw [draftAction]
    split
    · trivial
    · split <;> trivial
  | doneClick | cancelClick | textFieldShouldReturn =>
    rw [draftAction]
    split <;> trivial

theorem rowDraft_allows (hen : s.Enabled e) :
    s.rowDraft.Allows (draftAction .txt_pickerView turnedRow s e) := by
  apply draftAction_allows
  intro hturned
  cases e with
  | didSelectRow row => exact decide_eq_true hen.1
  | _ => cases hturned

theorem dateDraft_allows (hen : s.Enabled e) :
    s.dateDraft.Allows (draftAction .txt_date turnedDate s e) := by
  apply draftAction_allows
  intro hturned
  cases e with
  | onSelectDate date => exact decide_eq_true hen
  | _ => cases hturned

/-- The events that end an editing session without Done or Cancel. -/
def Event.leaves : Event Date → Bool
  | .focus _ _ | .textFieldShouldReturn => true
  | _ => false

theorem draftAction_leave_iff {turned : Event Date → Option α} :
    draftAction textField turned s e = some .leave ↔
      s.firstResponder = some textField ∧ e.leaves = true := by
  by_cases hf : s.firstResponder = some textField
  · cases e <;> simp [draftAction, hf, Event.leaves]
  · cases e with
    | focus tapped now =>
      simp only [draftAction, hf, if_false, false_and, iff_false]
      split <;> simp
    | _ => simp [draftAction, hf, Event.leaves]

/-- While a field is not edited, its working copy is the committed one, which its text shows. -/
structure Transactional (format : Date → String) (s : ViewController Date) : Prop where
  row : s.firstResponder ≠ some .txt_pickerView → s.selectedRow = s.oldselectedRow ∧
    ViewController.entry s.oldselectedRow = some s.txt_pickerView
  date : s.firstResponder ≠ some .txt_date → s.selectedDate = s.oldSelectedDate ∧
    s.txt_date = (s.oldSelectedDate.map format).getD ""
  rowSession : s.firstResponder ≠ some .txt_pickerView → ∀ now,
    (s.becomeFirstResponder .txt_pickerView now).selectedRow = s.oldselectedRow ∧
    (s.becomeFirstResponder .txt_pickerView now).fieldPickerview = s.oldselectedRow.toNat
  dateSession : s.firstResponder ≠ some .txt_date → ∀ now,
    (s.becomeFirstResponder .txt_date now).selectedDate = s.oldSelectedDate ∧
    (s.becomeFirstResponder .txt_date now).datePickerView = s.oldSelectedDate.getD now

theorem transactional_iff (h : Sound format s) :
    Transactional format s ↔ s.rowDraft.Settled ∧ s.dateDraft.Settled := by
  constructor
  · intro ht
    exact ⟨fun hf => (ht.row (of_decide_eq_false hf)).1,
      fun hf => (ht.date (of_decide_eq_false hf)).1⟩
  · intro hd
    obtain ⟨hrow, hdate⟩ := hd
    have hrow (hf : s.firstResponder ≠ some .txt_pickerView) : s.selectedRow = s.oldselectedRow :=
      hrow (decide_eq_false hf)
    have hdate (hf : s.firstResponder ≠ some .txt_date) : s.selectedDate = s.oldSelectedDate :=
      hdate (decide_eq_false hf)
    refine ⟨fun hf => ⟨hrow hf, h.numberText⟩, fun hf => ⟨hdate hf, h.dateText⟩, ?_, ?_⟩
    · intro hf now
      obtain ⟨p, hp⟩ := s.become_eq .txt_pickerView now
      rw [hp]
      refine ⟨hrow hf, ?_⟩
      change (if s.selectedRow ≠ -1 then s.selectedRow.toNat else 0) = _
      rw [hrow hf]
      split
      · rfl
      · rename_i hne
        rw [not_not.1 hne]
        rfl
    · intro hf now
      obtain ⟨p, hp⟩ := s.become_eq .txt_date now
      rw [hp]
      refine ⟨hdate hf, ?_⟩
      change s.selectedDate.getD now = _
      rw [hdate hf]

/-- A session that is left without Done or Cancel has not changed its value. -/
def LeavesUnchanged (s : ViewController Date) (e : Event Date) : Prop :=
  e.leaves = true →
    (s.firstResponder = some .txt_pickerView → s.selectedRow = s.oldselectedRow) ∧
    (s.firstResponder = some .txt_date → s.selectedDate = s.oldSelectedDate)

instance [DecidableEq Date] (s : ViewController Date) (e : Event Date) :
    Decidable (LeavesUnchanged s e) :=
  inferInstanceAs (Decidable (_ → _))

theorem Transactional.step_iff (h : Transactional format s) (hs : Sound format s)
    (hen : s.Enabled e) (he : Effect format s e t) :
    Transactional format t ↔ LeavesUnchanged s e := by
  obtain ⟨hrow, hdate⟩ := (transactional_iff hs).1 h
  rw [transactional_iff (hs.effect he), rowDraft_effect he, dateDraft_effect he,
    hrow.after_iff (rowDraft_allows hen), hdate.after_iff (dateDraft_allows hen),
    draftAction_leave_iff, draftAction_leave_iff]
  change (_ → s.selectedRow = s.oldselectedRow) ∧ (_ → s.selectedDate = s.oldSelectedDate) ↔ _
  constructor
  · intro hl hleaves
    exact ⟨fun hf => hl.1 ⟨hf, hleaves⟩, fun hf => hl.2 ⟨hf, hleaves⟩⟩
  · intro hl
    exact ⟨fun hf => (hl hf.2).1 hf.1, fun hf => (hl hf.2).2 hf.1⟩

/-- Both fields are edited in transactions exactly if no session that changed its value is left. -/
theorem transactions_iff (format : Date → String) (now : Date)
    (h : (pickerForm format).Run (fun _ _ => True) (.viewDidLoad now) es s) :
    (pickerForm format).Throughout (fun _ _ => True) (Transactional format) (.viewDidLoad now) es ↔
      (pickerForm format).Run (fun s e => True ∧ LeavesUnchanged s e) (.viewDidLoad now) es s := by
  apply h.throughout_iff (I := Sound format)
  · intro s e t hI hP hen _ hst
    exact hP.step_iff hI hen (step_effect hI.tagged hen hst)
  · intro s e t hI _ hen _ _ hst
    exact hI.effect (step_effect hI.tagged hen hst)
  · exact sound_start format now
  · exact (transactional_iff (sound_start format now)).2 ⟨fun _ => rfl, fun _ => rfl⟩

def committedBoth : List (Event Nat) := [
  .focus .txt_pickerView 0, .didSelectRow 4, .doneClick, .focus .txt_date 1, .onSelectDate 7,
  .doneClick, .focus .txt_pickerView 2, .didSelectRow 2, .cancelClick, .focus .txt_date 3,
  .focus .txt_progressValue 4, .editProgressValue "25", .textFieldShouldReturn]

theorem transactions_committed : ∃ s,
    (pickerForm Nat.repr).Run (fun _ _ => True) (.viewDidLoad 0) committedBoth s ∧
      s.txt_pickerView = "5" ∧ s.txt_date = "7" ∧
      (pickerForm Nat.repr).Throughout (fun _ _ => True) (Transactional Nat.repr)
        (.viewDidLoad 0) committedBoth := by
  obtain ⟨s, hr, hs⟩ := Machine.run_of_exec (pickerForm Nat.repr)
    (fun s e => True ∧ LeavesUnchanged s e) (.viewDidLoad 0) committedBoth
    (fun s => decide (s.txt_pickerView = "5" ∧ s.txt_date = "7")) (by decide +kernel)
  obtain ⟨hnumber, hdate⟩ := of_decide_eq_true hs
  have hrun := hr.mono fun _ _ _ => trivial
  exact ⟨s, hrun, hnumber, hdate, (transactions_iff Nat.repr 0 hrun).2 hr⟩

/-- A wheel is turned and left: the next session commits the row that was never confirmed. -/
theorem left_session_committed : ∃ s,
    (pickerForm Nat.repr).Run (fun _ _ => True) (.viewDidLoad 0)
      [.focus .txt_pickerView 0, .didSelectRow 4, .focus .txt_date 1] s ∧
      ¬ Transactional Nat.repr s ∧
    ∃ t, (pickerForm Nat.repr).Run (fun _ _ => True) s
      [.focus .txt_pickerView 2, .doneClick] t ∧ t.txt_pickerView = "5" := by
  obtain ⟨s, hr, hs⟩ := Machine.run_of_exec (pickerForm Nat.repr) (fun _ _ => True)
    (.viewDidLoad 0) [.focus .txt_pickerView 0, .didSelectRow 4, .focus .txt_date 1]
    (fun s => decide ((s.firstResponder = some .txt_date ∧ s.selectedRow = 4 ∧
      s.oldselectedRow = -1) ∧ ((pickerForm Nat.repr).exec (fun _ _ => True) s
        [.focus .txt_pickerView 2, .doneClick]).any fun t => t.txt_pickerView = "5"))
    (by decide +kernel)
  obtain ⟨⟨hf, hrow, hold⟩, hany⟩ := of_decide_eq_true hs
  obtain ⟨t, ht, htext⟩ := Machine.exec_any hany
  refine ⟨s, hr, fun htr => ?_, t, ht, of_decide_eq_true htext⟩
  have heq := (htr.row (by rw [hf]; decide)).1
  rw [hrow, hold] at heq
  exact absurd heq (by decide)

end TrainingDemos.PickerViewDemo
