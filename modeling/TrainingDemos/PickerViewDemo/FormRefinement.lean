import TrainingDemos.Refinements
import TrainingDemos.PickerViewDemo.Transactions

namespace TrainingDemos.PickerViewDemo
set_option autoImplicit true

variable {Date : Type} {format : Date → String} {s t : ViewController Date}

def drafts (Date : Type) :
    Machine (Draft Int × Draft (Option Date)) (DraftAction Int ⊕ DraftAction (Option Date)) :=
  (Draft.machine Int).par (Draft.machine (Option Date))

def draftActions (s : ViewController Date) (e : Event Date) :
    List (DraftAction Int ⊕ DraftAction (Option Date)) :=
  (draftAction .txt_pickerView turnedRow s e).toList.map .inl ++
    (draftAction .txt_date turnedDate s e).toList.map .inr

def ViewController.drafts (s : ViewController Date) : Draft Int × Draft (Option Date) :=
  (s.rowDraft, s.dateDraft)

theorem draftAction_enabled {turned : Event Date → Option α} {d : Draft α}
    (hd : d.isOpen = decide (s.firstResponder = some textField))
    (hturned : (turned e).isSome → d.isOpen = true)
    (ha : draftAction textField turned s e = some a) : (Draft.machine α).enabled d a := by
  have hedit (h : (turned e).map DraftAction.edit = some a) : (Draft.machine α).enabled d a := by
    obtain ⟨b, hb, rfl⟩ := Option.map_eq_some_iff.1 h
    exact hturned (Option.isSome_of_mem hb)
  have hend {a' : DraftAction α}
      (h : (if s.firstResponder = some textField then some a' else none) = some a)
      (hen : d.isOpen = true → (Draft.machine α).enabled d a') :
      (Draft.machine α).enabled d a := by
    split at h
    · rename_i hf
      cases h
      exact hen (hd.trans (decide_eq_true hf))
    · cases h
  cases e with
  | focus tapped now =>
    simp only [draftAction] at ha
    split at ha
    · rename_i hf
      cases ha
      exact hd.trans (decide_eq_true hf)
    · rename_i hf
      split at ha
      · cases ha
        exact hd.trans (decide_eq_false hf)
      · cases ha
  | doneClick | cancelClick | textFieldShouldReturn => exact hend ha id
  | didSelectRow row | onSelectDate date | editProgressValue text | onSetProgressValue =>
    exact hedit ha

theorem drafts_step (hen : s.Enabled e) (he : Effect format s e t) :
    (drafts Date).Run (Machine.Beside (fun _ _ => True) fun _ _ => True) s.drafts
      (draftActions s e) t.drafts := by
  have hrow : ∀ a ∈ draftAction .txt_pickerView turnedRow s e,
      (Draft.machine Int).enabled s.rowDraft a := by
    intro a ha
    apply draftAction_enabled rfl _ ha
    intro hturned
    cases e with
    | didSelectRow row => exact decide_eq_true hen.1
    | _ => cases hturned
  have hdate : ∀ a ∈ draftAction .txt_date turnedDate s e,
      (Draft.machine (Option Date)).enabled s.dateDraft a := by
    intro a ha
    apply draftAction_enabled rfl _ ha
    intro hturned
    cases e with
    | onSelectDate date => exact decide_eq_true hen
    | _ => cases hturned
  have hrow := Draft.run_after hrow
  have hdate := Draft.run_after hdate
  rw [← rowDraft_effect he] at hrow
  rw [← dateDraft_effect he] at hdate
  exact (hrow.par_left _).trans (hdate.par_right _)

inductive UserEvent (Date : Type) where
  | event (e : Event Date)
  /-- A paste or a hardware keyboard: `shouldChangeCharactersIn` lets it through. -/
  | editText (textField : TextField) (text : String)

/-- The form, and the fields whose texts were edited since they were last confirmed. -/
structure EditedForm (Date : Type) where
  vc : ViewController Date
  edited : TextField → Bool

namespace EditedForm

def viewDidLoad (now : Date) : EditedForm Date := ⟨.viewDidLoad now, fun _ => false⟩

def Enabled (s : EditedForm Date) : UserEvent Date → Prop
  | .event e => s.vc.Enabled e
  | .editText textField _ =>
    s.vc.firstResponder = some textField ∧ textField ≠ .txt_progressValue

instance (s : EditedForm Date) : (e : UserEvent Date) → Decidable (s.Enabled e)
  | .event e => inferInstanceAs (Decidable (s.vc.Enabled e))
  | .editText _ _ => inferInstanceAs (Decidable (_ ∧ _))

def setText (vc : ViewController Date) (text : String) : TextField → ViewController Date
  | .txt_pickerView => { vc with txt_pickerView := text }
  | .txt_date => { vc with txt_date := text }
  | .txt_progressValue => { vc with txt_progressValue := text }

def confirmed (vc : ViewController Date) : Event Date → TextField → Bool
  | .doneClick, textField => vc.firstResponder == some textField
  | _, _ => false

def step (format : Date → String) (s : EditedForm Date) : UserEvent Date → Option (EditedForm Date)
  | .event e => (s.vc.step format e).map fun vc =>
    ⟨vc, fun textField => s.edited textField && !confirmed s.vc e textField⟩
  | .editText textField text =>
    some ⟨setText s.vc text textField, Function.update s.edited textField true⟩

end EditedForm

def editedForm (format : Date → String) : Machine (EditedForm Date) (UserEvent Date) where
  enabled := EditedForm.Enabled
  step := EditedForm.step format

instance (format : Date → String) (s : EditedForm Date) (e : UserEvent Date) :
    Decidable ((editedForm format).enabled s e) :=
  inferInstanceAs (Decidable (s.Enabled e))

def userActions (s : EditedForm Date) :
    UserEvent Date → List (DraftAction Int ⊕ DraftAction (Option Date))
  | .event e => draftActions s.vc e
  | .editText _ _ => []

/-- The texts that were not edited since read what was confirmed. -/
structure Confirmed (format : Date → String) (s : EditedForm Date) : Prop where
  tagged : Tagged s.vc
  number : s.edited .txt_pickerView = false →
    ViewController.entry s.vc.oldselectedRow = some s.vc.txt_pickerView
  date : s.edited .txt_date = false →
    s.vc.txt_date = (s.vc.oldSelectedDate.map format).getD ""

theorem confirmed_start (format : Date → String) (now : Date) :
    Confirmed format (EditedForm.viewDidLoad now) where
  tagged := (sound_start format now).tagged
  number _ := rfl
  date _ := rfl

theorem Confirmed.event {s : EditedForm Date} {vc : ViewController Date} (h : Confirmed format s)
    (he : Effect format s.vc e vc) : Confirmed format
      ⟨vc, fun textField => s.edited textField && !EditedForm.confirmed s.vc e textField⟩ := by
  have htagged := h.tagged.effect he
  have hkept (textField : TextField) (hc : EditedForm.confirmed s.vc e textField = false)
      (hed : (s.edited textField && !EditedForm.confirmed s.vc e textField) = false) :
      s.edited textField = false := by
    rwa [hc, Bool.not_false, Bool.and_true] at hed
  refine ⟨htagged, ?_, ?_⟩
  · intro hed
    cases he with
    | doneNumber hf htext => exact htext
    | doneDate hf hdate =>
      refine h.number (hkept .txt_pickerView ?_ hed)
      rw [EditedForm.confirmed, hf]
      rfl
    | _ => exact h.number (hkept .txt_pickerView rfl hed)
  · intro hed
    cases he with
    | doneNumber hf htext =>
      refine h.date (hkept .txt_date ?_ hed)
      rw [EditedForm.confirmed, hf]
      rfl
    | doneDate hf hdate =>
      show _ = (s.vc.selectedDate.map format).getD ""
      rw [hdate]
      rfl
    | _ => exact h.date (hkept .txt_date rfl hed)

theorem Confirmed.editText {s : EditedForm Date} (h : Confirmed format s)
    (hen : s.Enabled (.editText textField text)) :
    Confirmed format
        ⟨EditedForm.setText s.vc text textField, Function.update s.edited textField true⟩ ∧
      (EditedForm.setText s.vc text textField).drafts = s.vc.drafts := by
  cases textField with
  | txt_pickerView =>
    refine ⟨⟨h.tagged, ?_, h.date⟩, rfl⟩
    intro hed
    cases hed
  | txt_date =>
    refine ⟨⟨h.tagged, h.number, ?_⟩, rfl⟩
    intro hed
    cases hed
  | txt_progressValue => exact absurd rfl hen.2

theorem Confirmed.step {s t : EditedForm Date} (h : Confirmed format s) (hen : s.Enabled e)
    (hs : EditedForm.step format s e = some t) : Confirmed format t ∧
      (drafts Date).Run (Machine.Beside (fun _ _ => True) fun _ _ => True) s.vc.drafts
        (userActions s e) t.vc.drafts := by
  cases e with
  | event e =>
    obtain ⟨vc, hvc, ht⟩ := Option.map_eq_some_iff.1 hs
    subst ht
    have he := step_effect h.tagged hen hvc
    exact ⟨h.event he, drafts_step hen he⟩
  | editText textField text =>
    cases hs
    obtain ⟨hc, hsame⟩ := h.editText hen
    refine ⟨hc, ?_⟩
    rw [hsame]
    exact .nil _

/-- The form is two drafts, whose texts read what was confirmed unless edited by hand since. -/
theorem form_refines_drafts (format : Date → String) (now : Date) {s : EditedForm Date}
    (h : (editedForm format).Run (fun _ _ => True) (.viewDidLoad now) es s) :
    ∃ as, (editedForm format).Labelled (fun s e as => as = userActions s e)
        (.viewDidLoad now) es as ∧
      (drafts Date).Run (Machine.Beside (fun _ _ => True) fun _ _ => True)
        (⟨-1, -1, false⟩, ⟨none, none, false⟩) as s.vc.drafts ∧
      (s.edited .txt_pickerView = false →
        ViewController.entry s.vc.drafts.1.committed = some s.vc.txt_pickerView) ∧
      (s.edited .txt_date = false →
        s.vc.txt_date = (s.vc.drafts.2.committed.map format).getD "") := by
  obtain ⟨as, hl, hrun⟩ := h.refines (I := Confirmed format)
    (L := fun s e as => as = userActions s e) (fun s => s.vc.drafts)
    (fun s e t hc hen _ hst => ⟨(hc.step hen hst).1, _, rfl, (hc.step hen hst).2⟩)
    (confirmed_start format now)
  have hs : Confirmed format s := by
    apply h.invariant _ (confirmed_start format now)
    exact fun s e t hc hen _ hst => (hc.step hen hst).1
  exact ⟨as, hl, hrun, hs.number, hs.date⟩

def leftAndConfirmed : List (UserEvent Nat) := [
  .event (.focus .txt_pickerView 0), .event (.didSelectRow 4), .event (.focus .txt_date 1),
  .event (.onSelectDate 7), .event .cancelClick, .event (.focus .txt_pickerView 2),
  .event .doneClick, .event (.focus .txt_pickerView 3), .editText .txt_pickerView "a lot"]

theorem form_refines_drafts_left : ∃ s as,
    (editedForm Nat.repr).Run (fun _ _ => True) (.viewDidLoad 0) leftAndConfirmed s ∧
    s.vc.txt_pickerView = "a lot" ∧ s.vc.oldselectedRow = 4 ∧ s.vc.txt_date = "" ∧
    (drafts Nat).Run (Machine.Beside (fun _ _ => True) fun _ _ => True)
      (⟨-1, -1, false⟩, ⟨none, none, false⟩) as s.vc.drafts := by
  obtain ⟨s, hr, hs⟩ := Machine.run_of_exec (editedForm Nat.repr) (fun _ _ => True)
    (.viewDidLoad 0) leftAndConfirmed
    (fun s => decide (s.vc.txt_pickerView = "a lot" ∧ s.vc.oldselectedRow = 4 ∧
      s.vc.txt_date = "")) (by decide +kernel)
  obtain ⟨htext, hrow, hdate⟩ := of_decide_eq_true hs
  obtain ⟨as, -, hrun, -⟩ := form_refines_drafts Nat.repr 0 hr
  exact ⟨s, as, hr, htext, hrow, hdate, hrun⟩

end TrainingDemos.PickerViewDemo
