import TrainingDemos.BookStore.ViewController

namespace TrainingDemos.BookStore
set_option autoImplicit true

namespace ViewController
variable {vc : ViewController}

/-- The table view, the array and the label agree, and no row's index is past the array. -/
structure Consistent (vc : ViewController) : Prop where
  rows : vc.tableRows = vc.arrTblBooks.length
  label : vc.lbl_notFound_isHidden = false ↔ vc.arrTblBooks = []
  indexed : ∀ row, row < vc.tableRows → (vc.arrTblBooks[row]?).isSome

theorem consistent_of (hr : vc.tableRows = vc.arrTblBooks.length)
    (hl : vc.lbl_notFound_isHidden = false ↔ vc.arrTblBooks = []) : vc.Consistent where
  rows := hr
  label := hl
  indexed row hrow := by
    rw [hr] at hrow
    rw [List.getElem?_eq_getElem hrow]
    rfl

/-- A refresh throws only while the table has no rows, and a deletion leaves another row. -/
def StaysConsistent (vc : ViewController) : Event Image Time → Prop
  | .pullToRefresh none => vc.tableRows = 0
  | .swipeDelete _ _ _ => 1 < vc.tableRows
  | _ => True

instance (vc : ViewController) : (e : Event Image Time) → Decidable (vc.StaysConsistent e)
  | .pullToRefresh none => inferInstanceAs (Decidable (_ = _))
  | .swipeDelete _ _ _ => inferInstanceAs (Decidable (_ < _))
  | .pullToRefresh (some _) | .clickAdd | .swipeEdit _ _ | .pickImage _ _ _ _ | .clickDelete _
  | .editTexts _ _ _ | .clickSave _ | .clickBack | .popTimer => inferInstanceAs (Decidable True)

theorem consistent_fetched (g : Graph) (order : Arrangement) (vc : ViewController) :
    (getBookRecords g (some order) vc).Consistent := by
  apply consistent_of
  · rfl
  · simp only [getBookRecords, Fetch.answer, Option.map_some, decide_eq_false_iff_not, Nat.not_lt,
      Nat.le_zero, List.length_eq_zero_iff]

theorem Consistent.refused_iff (h : vc.Consistent) (g : Graph) :
    (getBookRecords g none vc).Consistent ↔ vc.tableRows = 0 := by
  constructor
  · intro hc
    exact hc.rows
  · intro hr
    have hempty : vc.arrTblBooks = [] := by
      rw [← List.length_eq_zero_iff, ← h.rows, hr]
    exact consistent_of hr ⟨fun _ => rfl, fun _ => h.label.2 hempty⟩

theorem deleteAction_list (hs : deleteAction fetch save row (ctx, vc) = some (ctx', vc')) :
    row < vc.arrTblBooks.length ∧ vc' = { vc with
      arrTblBooks := vc.arrTblBooks.eraseIdx row, tableRows := vc.tableRows - 1 } := by
  obtain ⟨b, hb, hs⟩ := Option.bind_eq_some_iff.1 hs
  obtain ⟨data, -, hs⟩ := Option.bind_eq_some_iff.1 hs
  obtain ⟨book_id, -, hs⟩ := Option.bind_eq_some_iff.1 hs
  obtain ⟨getdata, -, hs⟩ := Option.bind_eq_some_iff.1 hs
  obtain ⟨book, -, hs⟩ := Option.bind_eq_some_iff.1 hs
  cases hs
  obtain ⟨hlt, -⟩ := List.getElem?_eq_some_iff.1 hb
  exact ⟨hlt, rfl⟩

theorem Consistent.deleted_iff (h : vc.Consistent) (hrow : row < vc.arrTblBooks.length) :
    Consistent { vc with
      arrTblBooks := vc.arrTblBooks.eraseIdx row, tableRows := vc.tableRows - 1 } ↔
        1 < vc.tableRows := by
  have hlen : (vc.arrTblBooks.eraseIdx row).length = vc.arrTblBooks.length - 1 :=
    List.length_eraseIdx_of_lt hrow
  have hhidden : ¬ vc.lbl_notFound_isHidden = false := by
    intro hv
    rw [h.label.1 hv] at hrow
    exact Nat.not_lt_zero _ hrow
  have hempty : vc.arrTblBooks.eraseIdx row = [] ↔ vc.arrTblBooks.length - 1 = 0 := by
    rw [← List.length_eq_zero_iff, hlen]
  rw [h.rows]
  constructor
  · intro hc
    have hne : ¬ vc.arrTblBooks.length - 1 = 0 := fun he => hhidden (hc.label.2 (hempty.2 he))
    omega
  · intro hlt
    apply consistent_of
    · exact hlen.symm
    · refine ⟨fun hv => absurd hv hhidden, fun he => ?_⟩
      have := hempty.1 he
      omega

end ViewController

section
variable {P : Platform Image Data Time} {s t : App Image Data}

def ViewController.Becomes (g : Graph) (vc vc' : ViewController) : Event Image Time → Prop
  | .pullToRefresh fetch => vc' = vc.getBookRecords g fetch
  | .swipeDelete row _ _ => row < vc.arrTblBooks.length ∧ vc' = { vc with
      arrTblBooks := vc.arrTblBooks.eraseIdx row, tableRows := vc.tableRows - 1 }
  | _ => vc' = vc

theorem App.list_step (hs : s.step P e = some t) : s.list.Becomes s.context.view t.list e := by
  cases e with
  | pullToRefresh fetch =>
    cases hs
    rfl
  | swipeDelete row fetch save =>
    obtain ⟨⟨ctx, list⟩, hdel, ht⟩ := Option.bind_eq_some_iff.1 hs
    cases ht
    exact ViewController.deleteAction_list hdel
  | clickAdd | clickBack | popTimer =>
    cases hs
    rfl
  | swipeEdit row allObjects =>
    obtain ⟨b, -, hs⟩ := Option.bind_eq_some_iff.1 hs
    obtain ⟨vc, -, ht⟩ := Option.bind_eq_some_iff.1 hs
    cases ht
    rfl
  | pickImage image timestamp encodes writes =>
    obtain ⟨vc, -, ht⟩ := Option.bind_eq_some_iff.1 hs
    cases ht
    rfl
  | clickDelete index =>
    obtain ⟨vc, -, hs⟩ := Option.bind_eq_some_iff.1 hs
    obtain ⟨vc', -, ht⟩ := Option.bind_eq_some_iff.1 hs
    cases ht
    rfl
  | editTexts txts0 txts1 txt_desc =>
    obtain ⟨vc, -, ht⟩ := Option.bind_eq_some_iff.1 hs
    cases ht
    rfl
  | clickSave answers =>
    obtain ⟨vc, -, hs⟩ := Option.bind_eq_some_iff.1 hs
    obtain ⟨⟨ctx, vc'⟩, -, ht⟩ := Option.bind_eq_some_iff.1 hs
    cases ht
    rfl

theorem App.consistent_step_iff (h : s.list.Consistent) (hs : s.step P e = some t) :
    t.list.Consistent ↔ s.list.StaysConsistent e := by
  have hlist := App.list_step hs
  cases e with
  | pullToRefresh fetch =>
    rw [show t.list = _ from hlist]
    cases fetch with
    | none => exact h.refused_iff s.context.view
    | some order =>
      exact iff_of_true (ViewController.consistent_fetched s.context.view order s.list) trivial
  | swipeDelete row fetch save =>
    obtain ⟨hrow, hlist⟩ := hlist
    rw [hlist]
    exact h.deleted_iff hrow
  | _ =>
    rw [show t.list = s.list from hlist]
    exact iff_of_true h trivial

theorem ViewController.consistent_viewDidLoad (store : Graph) (fetch : Fetch) :
    (ViewController.viewDidLoad store fetch).Consistent := by
  cases fetch with
  | none => exact consistent_of rfl ⟨fun _ => rfl, fun _ => rfl⟩
  | some order => exact consistent_fetched _ _ _

end

/-- When table, array and label agree throughout, from a launch on any store. -/
theorem list_consistent_iff (P : Platform Image Data Time) (store : Graph) (fetch : Fetch)
    (h : (bookStore P).Run (fun _ _ => True) (App.launch store fetch) es s) :
    (bookStore P).Throughout (fun _ _ => True) (fun s => s.list.Consistent)
        (App.launch store fetch) es ↔
      (bookStore P).Run (fun s e => True ∧ s.list.StaysConsistent e)
        (App.launch store fetch) es s := by
  apply h.throughout_iff (I := fun _ => True)
  · intro s e t _ hP hen hb hst
    exact App.consistent_step_iff hP hst
  · intro s e t _ hP hen hb hc hst
    trivial
  · trivial
  · exact ViewController.consistent_viewDidLoad store fetch

def shelved (ids : List String) : Graph :=
  ids.foldl (fun g id => g.insertBook ⟨some "a", some "d", some id, some "n", []⟩) Graph.empty

theorem list_consistent_two : ∃ s,
    (bookStore .device).Run (fun _ _ => True) (App.launch (shelved ["1", "2"]) none)
      [.pullToRefresh (some .asStored), .swipeDelete 0 (some .asStored) false,
        .pullToRefresh (some .asStored)] s ∧ s.list.arrTblBooks = [1] ∧
    (bookStore .device).Throughout (fun _ _ => True) (fun s => s.list.Consistent)
      (App.launch (shelved ["1", "2"]) none)
      [.pullToRefresh (some .asStored), .swipeDelete 0 (some .asStored) false,
        .pullToRefresh (some .asStored)] := by
  obtain ⟨s, hr, hs⟩ := Machine.run_of_exec (bookStore .device)
    (fun s e => True ∧ s.list.StaysConsistent e) (App.launch (shelved ["1", "2"]) none)
    [.pullToRefresh (some .asStored), .swipeDelete 0 (some .asStored) false,
      .pullToRefresh (some .asStored)]
    (fun s => decide (s.list.arrTblBooks = [1])) (by decide +kernel)
  have hrun := hr.mono fun _ _ _ => trivial
  exact ⟨s, hrun, of_decide_eq_true hs, (list_consistent_iff .device _ none hrun).2 hr⟩

/-- A refresh that throws, and the deletion of the last book. -/
theorem list_inconsistent :
    (∃ s, (bookStore .device).Run (fun _ _ => True) (App.launch (shelved ["1"]) (some .asStored))
      [.pullToRefresh none] s ∧ 0 < s.list.tableRows ∧ s.list.arrTblBooks[0]? = none ∧
        ¬ s.list.Consistent) ∧
    ∃ s, (bookStore .device).Run (fun _ _ => True) (App.launch (shelved ["1"]) (some .asStored))
      [.swipeDelete 0 (some .asStored) true] s ∧ s.list.arrTblBooks = [] ∧
        s.list.lbl_notFound_isHidden = true ∧ ¬ s.list.Consistent := by
  constructor
  · obtain ⟨s, hr, hs⟩ := Machine.run_of_exec (bookStore .device) (fun _ _ => True)
      (App.launch (shelved ["1"]) (some .asStored)) [.pullToRefresh none]
      (fun s => decide (0 < s.list.tableRows ∧ s.list.arrTblBooks[0]? = none)) (by decide +kernel)
    obtain ⟨hrow, hnone⟩ := of_decide_eq_true hs
    refine ⟨s, hr, hrow, hnone, fun hc => ?_⟩
    have hsome := hc.indexed 0 hrow
    rw [hnone] at hsome
    cases hsome
  · obtain ⟨s, hr, hs⟩ := Machine.run_of_exec (bookStore .device) (fun _ _ => True)
      (App.launch (shelved ["1"]) (some .asStored)) [.swipeDelete 0 (some .asStored) true]
      (fun s => decide (s.list.arrTblBooks = [] ∧ s.list.lbl_notFound_isHidden = true))
      (by decide +kernel)
    obtain ⟨hempty, hhidden⟩ := of_decide_eq_true hs
    refine ⟨s, hr, hempty, hhidden, fun hc => ?_⟩
    rw [hc.label.2 hempty] at hhidden
    cases hhidden

end TrainingDemos.BookStore
