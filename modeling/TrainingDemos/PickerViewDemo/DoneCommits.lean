import TrainingDemos.PickerViewDemo.EditingSessions

namespace TrainingDemos.PickerViewDemo
set_option autoImplicit true

variable {Date : Type} {format : Date → String} {s t : ViewController Date}

/-- Done ends, and the edited field reads what its wheel shows. -/
def DoneShows (format : Date → String) (s : ViewController Date) : Prop :=
  ∃ t, s.doneClick format = some t ∧
    (s.firstResponder = some .txt_pickerView →
      arrmark[s.fieldPickerview]? = some t.txt_pickerView) ∧
    (s.firstResponder = some .txt_date → t.txt_date = format s.datePickerView)

theorem mark_natCast (n : Nat) : ViewController.mark n = arrmark[n]? := by
  rw [ViewController.mark, if_pos (Int.natCast_nonneg n), Int.toNat_natCast]

theorem Sound.doneNumber_iff (h : Sound format s) (hf : s.firstResponder = some .txt_pickerView) :
    DoneShows format s ↔ s.selectedRow ≠ -1 := by
  rw [DoneShows, ViewController.doneClick_number hf (h.tagged _ hf)]
  constructor
  · intro hd hrow
    obtain ⟨t, ht, hshown, -⟩ := hd
    rw [hrow] at ht
    cases ht
    -- no entry of the wheel is empty
    have hempty : "" ∈ arrmark := List.mem_of_getElem? (hshown hf)
    exact absurd hempty (by decide)
  · intro hrow
    have hentry : ViewController.entry s.selectedRow = arrmark[s.fieldPickerview]? := by
      rw [ViewController.entry, if_pos hrow, h.number hf hrow, mark_natCast]
    rw [hentry, List.getElem?_eq_getElem h.wheel]
    refine ⟨_, rfl, fun _ => rfl, fun hd => ?_⟩
    rw [hf] at hd
    cases hd

theorem Sound.doneDate_iff (h : Sound format s) (hf : s.firstResponder = some .txt_date) :
    DoneShows format s ↔ s.selectedDate.isSome := by
  rw [DoneShows, ViewController.doneClick_date hf (h.tagged _ hf)]
  constructor
  · intro hd
    obtain ⟨t, ht, -⟩ := hd
    obtain ⟨date, hdate, -⟩ := Option.map_eq_some_iff.1 ht
    exact Option.isSome_of_mem hdate
  · intro hsome
    obtain ⟨date, hdate⟩ := Option.isSome_iff_exists.1 hsome
    rw [hdate]
    refine ⟨_, rfl, fun hn => ?_, fun _ => ?_⟩
    · rw [hf] at hn
      cases hn
    · rw [h.date hf date hdate]

/-- Done commits what the wheel shows exactly if a row, or a date, has been selected. -/
theorem done_commits_iff (format : Date → String) (now : Date)
    (h : (pickerForm format).Run (fun _ _ => True) (.viewDidLoad now) es s)
    (hf : s.firstResponder = some .txt_pickerView ∨ s.firstResponder = some .txt_date) :
    DoneShows format s ↔
      (s.firstResponder = some .txt_pickerView → s.selectedRow ≠ -1) ∧
      (s.firstResponder = some .txt_date → s.selectedDate.isSome) := by
  have hs := sound_of_run h
  obtain hf | hf := hf
  · rw [hs.doneNumber_iff hf]
    refine ⟨fun hrow => ⟨fun _ => hrow, fun hd => ?_⟩, fun hc => hc.1 hf⟩
    rw [hf] at hd
    cases hd
  · rw [hs.doneDate_iff hf]
    refine ⟨fun hsome => ⟨fun hn => ?_, fun _ => hsome⟩, fun hc => hc.2 hf⟩
    rw [hf] at hn
    cases hn

def turnedAgain : List (Event Nat) := [
  .focus .txt_pickerView 0, .didSelectRow 4, .cancelClick, .focus .txt_date 1, .onSelectDate 7,
  .focus .txt_pickerView 2, .didSelectRow 2]

theorem done_commits_turned : ∃ s,
    (pickerForm Nat.repr).Run (fun _ _ => True) (.viewDidLoad 0) turnedAgain s ∧
      DoneShows Nat.repr s := by
  obtain ⟨s, hr, hs⟩ := Machine.run_of_exec (pickerForm Nat.repr) (fun _ _ => True)
    (.viewDidLoad 0) turnedAgain
    (fun s => decide (s.firstResponder = some .txt_pickerView ∧ s.selectedRow = 2))
    (by decide +kernel)
  obtain ⟨hf, hrow⟩ := of_decide_eq_true hs
  refine ⟨s, hr, (done_commits_iff Nat.repr 0 hr (.inl hf)).2 ⟨fun _ => ?_, fun hd => ?_⟩⟩
  · rw [hrow]
    decide
  · rw [hf] at hd
    cases hd

theorem untouched_wheel_not_committed :
    (∃ s, (pickerForm Nat.repr).Run (fun _ _ => True) (.viewDidLoad 0)
      [.focus .txt_pickerView 0] s ∧ arrmark[s.fieldPickerview]? = some "1" ∧
        (∃ t, s.doneClick Nat.repr = some t ∧ t.txt_pickerView = "") ∧ ¬ DoneShows Nat.repr s) ∧
    ∃ s, (pickerForm Nat.repr).Run (fun _ _ => True) (.viewDidLoad 0)
      [.focus .txt_date 5] s ∧ s.datePickerView = 5 ∧ s.doneClick Nat.repr = none := by
  constructor
  · obtain ⟨s, hr, hs⟩ := Machine.run_of_exec (pickerForm Nat.repr) (fun _ _ => True)
      (.viewDidLoad 0) [.focus .txt_pickerView 0]
      (fun s => decide (arrmark[s.fieldPickerview]? = some "1" ∧
        s.firstResponder = some .txt_pickerView ∧
        (s.doneClick Nat.repr).map (·.txt_pickerView) = some "")) (by decide +kernel)
    obtain ⟨hwheel, hf, hdone⟩ := of_decide_eq_true hs
    obtain ⟨t, ht, htext⟩ := Option.map_eq_some_iff.1 hdone
    refine ⟨s, hr, hwheel, ⟨t, ht, htext⟩, fun hd => ?_⟩
    obtain ⟨t', ht', hshown, -⟩ := hd
    rw [ht] at ht'
    cases ht'
    rw [hwheel, htext] at hshown
    exact absurd (hshown hf) (by decide)
  · obtain ⟨s, hr, hs⟩ := Machine.run_of_exec (pickerForm Nat.repr) (fun _ _ => True)
      (.viewDidLoad 0) [.focus .txt_date 5]
      (fun s => decide (s.datePickerView = 5 ∧ s.doneClick Nat.repr = none)) (by decide +kernel)
    exact ⟨s, hr, of_decide_eq_true hs⟩

end TrainingDemos.PickerViewDemo
