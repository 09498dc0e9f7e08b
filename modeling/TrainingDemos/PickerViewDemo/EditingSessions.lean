import TrainingDemos.Drafts
import TrainingDemos.PickerViewDemo.ViewController

namespace TrainingDemos.PickerViewDemo
set_option autoImplicit true

variable {Date : Type} {format : Date → String} {s t : ViewController Date}

inductive Effect (format : Date → String) (s : ViewController Date) :
    Event Date → ViewController Date → Prop where
  | focusNumber : s.firstResponder ≠ some .txt_pickerView →
      Effect format s (.focus .txt_pickerView now) { s with
        progressView := p
        firstResponder := some .txt_pickerView
        selectedTag := 1
        fieldPickerview := if s.selectedRow ≠ -1 then s.selectedRow.toNat else 0 }
  | focusDate : s.firstResponder ≠ some .txt_date →
      Effect format s (.focus .txt_date now) { s with
        progressView := p
        firstResponder := some .txt_date
        selectedTag := 2
        datePickerView := s.selectedDate.getD now }
  | focusProgress : s.firstResponder ≠ some .txt_progressValue →
      Effect format s (.focus .txt_progressValue now) { s with
        progressView := p
        firstResponder := some .txt_progressValue
        selectedTag := 3 }
  | turnNumber : s.firstResponder = some .txt_pickerView → row < arrmark.length →
      Effect format s (.didSelectRow row) { s with fieldPickerview := row, selectedRow := row }
  | turnDate : s.firstResponder = some .txt_date →
      Effect format s (.onSelectDate date) { s with
        datePickerView := date, selectedDate := some date }
  | doneNumber : s.firstResponder = some .txt_pickerView →
      ViewController.entry s.selectedRow = some text →
      Effect format s .doneClick { s with
        txt_pickerView := text, oldselectedRow := s.selectedRow, firstResponder := none }
  | doneDate : s.firstResponder = some .txt_date → s.selectedDate = some date →
      Effect format s .doneClick { s with
        txt_date := format date, oldSelectedDate := s.selectedDate, firstResponder := none }
  | cancelNumber : s.firstResponder = some .txt_pickerView →
      Effect format s .cancelClick { s with
        selectedRow := s.oldselectedRow, firstResponder := none }
  | cancelDate : s.firstResponder = some .txt_date →
      Effect format s .cancelClick { s with
        selectedDate := s.oldSelectedDate, firstResponder := none }
  | returned : Effect format s .textFieldShouldReturn { s with
        progressView := p, firstResponder := none }
  | typed : Effect format s (.editProgressValue text) { s with txt_progressValue := text }
  | progress : Effect format s .onSetProgressValue { s with progressView := p }

namespace ViewController

theorem resign_of_editing (vc : ViewController Date) (h : vc.firstResponder = some textField) :
    ∃ p, vc.resignFirstResponder textField =
      { vc with progressView := p, firstResponder := none } := by
  rw [resignFirstResponder, if_pos h, textFieldDidEndEditing]
  split
  · exact ⟨_, rfl⟩
  · exact ⟨_, rfl⟩

theorem resign_number (vc : ViewController Date) (h : vc.firstResponder = some .txt_pickerView) :
    vc.resignFirstResponder .txt_pickerView = { vc with firstResponder := none } := by
  rw [resignFirstResponder, if_pos h]
  rfl

theorem resign_date (vc : ViewController Date) (h : vc.firstResponder = some .txt_date) :
    vc.resignFirstResponder .txt_date = { vc with firstResponder := none } := by
  rw [resignFirstResponder, if_pos h]
  rfl

theorem doneClick_number (hf : s.firstResponder = some .txt_pickerView) (htag : s.selectedTag = 1) :
    s.doneClick format = (entry s.selectedRow).map fun text => { s with
      txt_pickerView := text, oldselectedRow := s.selectedRow, firstResponder := none } := by
  simp only [doneClick, htag]
  cases entry s.selectedRow with
  | none => rfl
  | some text => exact congrArg some (resign_number _ hf)

theorem doneClick_date (hf : s.firstResponder = some .txt_date) (htag : s.selectedTag = 2) :
    s.doneClick format = s.selectedDate.map fun date => { s with
      txt_date := format date, oldSelectedDate := s.selectedDate, firstResponder := none } := by
  simp only [doneClick, htag]
  cases hd : s.selectedDate with
  | none => rfl
  | some date => exact congrArg some (resign_date _ hf)

theorem cancelClick_number (hf : s.firstResponder = some .txt_pickerView)
    (htag : s.selectedTag = 1) : s.cancelClick = { s with
      selectedRow := s.oldselectedRow, firstResponder := none } := by
  simp only [cancelClick, htag]
  exact resign_number _ hf

theorem cancelClick_date (hf : s.firstResponder = some .txt_date) (htag : s.selectedTag = 2) :
    s.cancelClick = { s with selectedDate := s.oldSelectedDate, firstResponder := none } := by
  simp only [cancelClick, htag]
  exact resign_date _ hf

theorem become_eq (vc : ViewController Date) (textField : TextField) (now : Date) :
    ∃ p, vc.becomeFirstResponder textField now = textFieldDidBeginEditing
      { vc with progressView := p, firstResponder := some textField } textField now := by
  rw [becomeFirstResponder]
  split
  · rename_i edited h
    obtain ⟨p, hp⟩ := vc.resign_of_editing h
    rw [hp]
    exact ⟨p, rfl⟩
  · exact ⟨vc.progressView, rfl⟩

end ViewController

/-- The selected tag is that of the field being edited. -/
def Tagged (s : ViewController Date) : Prop :=
  ∀ textField, s.firstResponder = some textField → s.selectedTag = textField.tag

theorem step_effect (h : Tagged s) (hen : s.Enabled e) (hs : s.step format e = some t) :
    Effect format s e t := by
  cases e with
  | focus textField now =>
    obtain ⟨p, hp⟩ := s.become_eq textField now
    have ht := Option.some.inj hs
    rw [hp] at ht
    subst ht
    cases textField with
    | txt_pickerView => exact .focusNumber hen
    | txt_date => exact .focusDate hen
    | txt_progressValue => exact .focusProgress hen
  | didSelectRow row =>
    cases hs
    exact .turnNumber hen.1 hen.2
  | onSelectDate date =>
    cases hs
    exact .turnDate hen
  | doneClick =>
    obtain hf | hf := hen
    · have hs : s.doneClick format = some t := hs
      rw [ViewController.doneClick_number hf (h _ hf)] at hs
      obtain ⟨text, htext, ht⟩ := Option.map_eq_some_iff.1 hs
      subst ht
      exact .doneNumber hf htext
    · have hs : s.doneClick format = some t := hs
      rw [ViewController.doneClick_date hf (h _ hf)] at hs
      obtain ⟨date, hdate, ht⟩ := Option.map_eq_some_iff.1 hs
      subst ht
      exact .doneDate hf hdate
  | cancelClick =>
    have ht := Option.some.inj hs
    obtain hf | hf := hen
    · rw [ViewController.cancelClick_number hf (h _ hf)] at ht
      subst ht
      exact .cancelNumber hf
    · rw [ViewController.cancelClick_date hf (h _ hf)] at ht
      subst ht
      exact .cancelDate hf
  | textFieldShouldReturn =>
    obtain ⟨textField, hf, ht⟩ := Option.map_eq_some_iff.1 hs
    obtain ⟨p, hp⟩ := s.resign_of_editing hf
    rw [ViewController.textFieldShouldReturn, hp] at ht
    subst ht
    exact .returned
  | editProgressValue text =>
    cases hs
    exact .typed
  | onSetProgressValue =>
    cases hs
    exact .progress

def IsRow (row : Int) : Prop := row = -1 ∨ 0 ≤ row ∧ row < arrmark.length

/-- The wheel being turned shows the working copy, and the texts show the committed copies. -/
structure Sound (format : Date → String) (s : ViewController Date) : Prop where
  tagged : Tagged s
  working : IsRow s.selectedRow
  committed : IsRow s.oldselectedRow
  wheel : s.fieldPickerview < arrmark.length
  number : s.firstResponder = some .txt_pickerView → s.selectedRow ≠ -1 →
    s.selectedRow = s.fieldPickerview
  date : s.firstResponder = some .txt_date → ∀ d ∈ s.selectedDate, s.datePickerView = d
  numberText : ViewController.entry s.oldselectedRow = some s.txt_pickerView
  dateText : s.txt_date = (s.oldSelectedDate.map format).getD ""

theorem IsRow.toNat_lt (h : IsRow row) : (if row ≠ -1 then row.toNat else 0) < arrmark.length := by
  have hpos : 0 < arrmark.length := by decide
  split
  · obtain h | h := h
    · contradiction
    · omega
  · exact hpos

theorem Sound.of_closed (hf : s.firstResponder = none) (hw : IsRow s.selectedRow)
    (hc : IsRow s.oldselectedRow) (hwheel : s.fieldPickerview < arrmark.length)
    (hn : ViewController.entry s.oldselectedRow = some s.txt_pickerView)
    (hd : s.txt_date = (s.oldSelectedDate.map format).getD "") : Sound format s where
  tagged textField h := by
    rw [hf] at h
    cases h
  working := hw
  committed := hc
  wheel := hwheel
  number h := by
    rw [hf] at h
    cases h
  date h := by
    rw [hf] at h
    cases h
  numberText := hn
  dateText := hd

theorem Tagged.effect (h : Tagged s) (he : Effect format s e t) : Tagged t := by
  cases he with
  | focusNumber _ | focusDate _ | focusProgress _ =>
    intro textField hf
    cases hf
    rfl
  | turnNumber _ _ | turnDate _ | typed | progress => exact h
  | doneNumber _ _ | doneDate _ _ | cancelNumber _ | cancelDate _ | returned =>
    intro textField hf
    cases hf

theorem sound_start (format : Date → String) (now : Date) :
    Sound format (ViewController.viewDidLoad now) :=
  .of_closed rfl (.inl rfl) (.inl rfl) (Nat.zero_lt_succ _) rfl rfl

theorem Sound.effect (h : Sound format s) (he : Effect format s e t) : Sound format t := by
  have htagged := h.tagged.effect he
  cases he with
  | focusNumber _ =>
    refine { h with tagged := htagged, wheel := h.working.toNat_lt, number := ?_, date := ?_ }
    · intro _ hne
      have hrow := h.working.resolve_left hne
      change s.selectedRow = (((if s.selectedRow ≠ -1 then s.selectedRow.toNat else 0) : Nat) : Int)
      rw [if_pos hne, Int.toNat_of_nonneg hrow.1]
    · intro hf
      cases hf
  | focusDate _ =>
    refine { h with tagged := htagged, number := ?_, date := ?_ }
    · intro hf
      cases hf
    · intro _ d hd
      change s.selectedDate.getD _ = d
      rw [show s.selectedDate = some d from hd, Option.getD_some]
  | focusProgress _ =>
    refine { h with tagged := htagged, number := ?_, date := ?_ }
    · intro hf
      cases hf
    · intro hf
      cases hf
  | @turnNumber row hf hrow =>
    exact { h with
      working := .inr ⟨Int.natCast_nonneg row, Int.ofNat_lt.2 hrow⟩
      wheel := hrow
      number := fun _ _ => rfl }
  | turnDate hf =>
    refine { h with date := ?_ }
    intro _ d hd
    cases hd
    rfl
  | doneNumber hf htext => exact .of_closed rfl h.working h.working h.wheel htext h.dateText
  | doneDate hf hdate =>
    refine .of_closed rfl h.working h.committed h.wheel h.numberText ?_
    change _ = (s.selectedDate.map format).getD ""
    rw [hdate]
    rfl
  | cancelNumber hf => exact .of_closed rfl h.committed h.committed h.wheel h.numberText h.dateText
  | cancelDate hf => exact .of_closed rfl h.working h.committed h.wheel h.numberText h.dateText
  | returned => exact .of_closed rfl h.working h.committed h.wheel h.numberText h.dateText
  | typed | progress => exact { h with }

theorem sound_of_run (h : (pickerForm format).Run (fun _ _ => True) (.viewDidLoad now) es s) :
    Sound format s := by
  apply h.invariant
  · intro s e t hI hen _ hst
    exact hI.effect (step_effect hI.tagged hen hst)
  · exact sound_start format now

end TrainingDemos.PickerViewDemo
