import TrainingDemos.TblCollDemo.ViewController

namespace TrainingDemos.TblCollDemo
set_option autoImplicit true

namespace ViewController
variable {vc : ViewController}

theorem reloadData_eq (vc : ViewController) :
    vc.reloadData = some { vc with tbl_list := vc.arrList } := by
  have hcells := mapM_getElem?_range vc.arrList
  change ((List.range vc.arrList.length).mapM fun row => vc.arrList[row]?).bind _ = _
  rw [hcells]
  rfl

theorem moveRowAt_eq (hx : vc.arrList[source]? = some x) (hd : destination < vc.arrList.length) :
    vc.moveRowAt source destination =
      some { vc with arrList := moveRow source destination vc.arrList } := by
  obtain ⟨hs, -⟩ := List.getElem?_eq_some_iff.1 hx
  have hle : destination ≤ (vc.arrList.eraseIdx source).length := by
    rw [List.length_eraseIdx_of_lt hs]
    omega
  rw [moveRow_eq hx hd]
  simp only [moveRowAt, hx, removeAt, if_pos hs, insertAt, if_pos hle, Option.bind_eq_bind,
    Option.bind_some]

theorem removeRow_eq (h : vc.tbl_list = vc.arrList) (hrow : row < vc.arrList.length) :
    vc.removeRow row = some ⟨vc.arrList.eraseIdx row, vc.arrList.eraseIdx row⟩ := by
  have hcount : row < vc.arrList.length ∧
      (vc.arrList.eraseIdx row).length + 1 = vc.arrList.length := by
    rw [List.length_eraseIdx_of_lt hrow]
    omega
  simp only [removeRow, removeAt, if_pos hrow, Option.bind_eq_bind, Option.bind_some, deleteRows,
    numberOfRowsInSection, h, if_pos hcount]

end ViewController

namespace App
variable {s t : App}

/-- The table view displays the array, which is the refreshed list without the deleted rows. -/
structure Tracked (s : App) : Prop where
  shown : s.screen.tbl_list = s.screen.arrList
  kept : (s.screen.arrList ++ s.deleted).Perm s.refreshed

/-- What the table view displays after an event. -/
def Displays (s t : App) : Event → Prop
  | .moveRow source destination =>
    Moved source destination s.screen.tbl_list t.screen.tbl_list
  | .click_onRefreshBtn => t.screen.tbl_list = ViewController.companies
  | e => t.screen.tbl_list = match e.deletes with
    | some row => s.screen.tbl_list.eraseIdx row
    | none => s.screen.tbl_list

theorem tracked_start (list : List ListData) : (start list).Tracked where
  shown := rfl
  kept := by
    change (list ++ []).Perm list
    rw [List.append_nil]

theorem Tracked.moveRow (h : s.Tracked) (hs : source < s.screen.tbl_list.length)
    (hd : destination < s.screen.tbl_list.length) :
    ∃ t, s.step (.moveRow source destination) = some t ∧ t.Tracked ∧
      s.Displays t (.moveRow source destination) := by
  rw [h.shown] at hs hd
  have hx := List.getElem?_eq_getElem hs
  generalize s.screen.arrList[source] = x at hx
  have hm := moved_moveRow hx hd
  refine ⟨⟨⟨TrainingDemos.moveRow source destination s.screen.arrList,
    TrainingDemos.moveRow source destination s.screen.tbl_list⟩, s.refreshed, s.deleted⟩,
    ?_, ?_, ?_⟩
  · simp only [step, handle, ViewController.moveRowAt_eq hx hd, Option.bind_eq_bind,
      Option.bind_some, reduceCtorEq, if_false, Event.deletes, Option.bind_none, Option.toList_none,
      List.append_nil]
  · exact ⟨by rw [h.shown], ((hm.perm hx).append_right _).trans h.kept⟩
  · change Moved source destination s.screen.tbl_list _
    rw [h.shown]
    exact hm

theorem Tracked.removeRow (h : s.Tracked) (hrow : row < s.screen.tbl_list.length)
    (hhandle : handle s.screen e = s.screen.removeRow row) (he : e.deletes = some row) :
    ∃ t, s.step e = some t ∧ t.Tracked ∧
      t.screen.tbl_list = s.screen.tbl_list.eraseIdx row := by
  rw [h.shown] at hrow
  have hx := List.getElem?_eq_getElem hrow
  generalize s.screen.arrList[row] = x at hx
  have hne : e ≠ .click_onRefreshBtn := by
    intro hr
    rw [hr] at he
    cases he
  refine ⟨⟨⟨s.screen.arrList.eraseIdx row, s.screen.arrList.eraseIdx row⟩, s.refreshed,
    s.deleted ++ [x]⟩, ?_, ⟨rfl, ?_⟩, ?_⟩
  · simp only [step, hhandle, ViewController.removeRow_eq h.shown hrow, Option.bind_eq_bind,
      Option.bind_some, if_neg hne, he, h.shown, hx, Option.toList_some]
  · have hperm : (s.screen.arrList.eraseIdx row ++ (s.deleted ++ [x])).Perm
        (x :: s.screen.arrList.eraseIdx row ++ s.deleted) := by
      rw [← List.append_assoc]
      exact List.perm_append_singleton x _
    exact (hperm.trans ((perm_cons_eraseIdx hx).symm.append_right _)).trans h.kept
  · change s.screen.arrList.eraseIdx row = _
    rw [h.shown]

open ViewController in
theorem Tracked.step (h : s.Tracked) (hen : s.Enabled e) :
    ∃ t, s.step e = some t ∧ t.Tracked ∧ s.Displays t e := by
  cases e with
  | moveRow source destination => exact h.moveRow hen.1 hen.2
  | commit editingStyle row =>
    cases editingStyle with
    | delete => exact h.removeRow hen rfl rfl
    | none | insert =>
      refine ⟨⟨s.screen, s.refreshed, s.deleted ++ []⟩, rfl, ⟨h.shown, ?_⟩, rfl⟩
      rw [List.append_nil]
      exact h.kept
  | trailingSwipeDelete row => exact h.removeRow hen rfl rfl
  | contextMenuDelete row => exact h.removeRow hen rfl rfl
  | click_onRefreshBtn =>
    have hset : s.screen.setDataToList = some ⟨companies, companies⟩ :=
      reloadData_eq { s.screen with arrList := companies }
    refine ⟨⟨⟨companies, companies⟩, companies, []⟩, ?_, ⟨rfl, ?_⟩, rfl⟩
    · simp only [App.step, handle, click_onRefreshBtn, hset, Option.bind_eq_bind, Option.bind_some,
        if_true]
    · change (companies ++ []).Perm companies
      rw [List.append_nil]

end App

/-- The table shows the array, the refreshed list less its deletions; no index is out of range. -/
theorem rows_tracked (list : List ListData)
    (h : listScreen.Run (fun _ _ => True) (App.start list) es s) :
    s.screen.arrList = s.screen.tbl_list ∧ (s.screen.arrList ++ s.deleted).Perm s.refreshed ∧
    ∀ e, s.Enabled e → ∃ t, s.step e = some t ∧ s.Displays t e := by
  have hs : s.Tracked := by
    apply h.invariant
    · intro s e t hI hen hB hst
      obtain ⟨t', ht, hT, -⟩ := hI.step hen
      rw [show listScreen.step s e = s.step e from rfl, ht] at hst
      cases hst
      exact hT
    · exact App.tracked_start list
  refine ⟨hs.shown.symm, hs.kept, ?_⟩
  intro e hen
  obtain ⟨t, ht, -, hd⟩ := hs.step hen
  exact ⟨t, ht, hd⟩

def rearranged : List Event := [
  .click_onRefreshBtn, .moveRow 0 7, .moveRow 6 1, .commit .delete 0, .commit .insert 2,
  .trailingSwipeDelete 6, .contextMenuDelete 1]

theorem rows_tracked_rearranged : ∃ s,
    listScreen.Run (fun _ _ => True) (App.start []) rearranged s ∧
    s.screen.tbl_list.map ListData.title =
      ["Prakshal", "TCS", "Switchcase", "Origin", "Grewon"] ∧
    s.screen.arrList = s.screen.tbl_list ∧
    (s.screen.arrList ++ s.deleted).Perm s.refreshed := by
  obtain ⟨s, hr, hs⟩ := Machine.run_of_exec listScreen (fun _ _ => True) (App.start []) rearranged
    (fun s => decide (s.screen.tbl_list.map ListData.title =
      ["Prakshal", "TCS", "Switchcase", "Origin", "Grewon"])) (by decide +kernel)
  have ht := rows_tracked [] hr
  exact ⟨s, hr, of_decide_eq_true hs, ht.1, ht.2.1⟩

end TrainingDemos.TblCollDemo
