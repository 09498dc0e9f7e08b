import TrainingDemos.Refinements
import TrainingDemos.TimeOrder
import TrainingDemos.FirebasePractise.RowTargeting

namespace TrainingDemos.FirebasePractise
set_option autoImplicit true

inductive RecencyAction where
  | touch (key : String)
  | remove (key : String)

/-- A list in the order in which its entries were last touched. -/
def recency : Machine (List String) RecencyAction where
  enabled _ _ := True
  step
    | order, .touch key => some (order.erase key ++ [key])
    | order, .remove key => some (order.erase key)

namespace App
variable {Model Form Input URL : Type}

/-- The clock is later than every time that is stored. -/
def Later (s : App Model Form) : Event Input URL → Prop
  | .press answers => ∀ key ∈ s.documents.ids, ∀ t ∈ s.documents.stamp "time" key, t < answers.now
  | _ => True

instance (s : App Model Form) : (e : Event Input URL) → Decidable (s.Later e)
  | .press _ => inferInstanceAs (Decidable (∀ key ∈ s.documents.ids, _))
  | .fetched _ | .clickAdd _ | .swipeEdit _ | .swipeDelete _ _ | .input _ | .pop =>
    inferInstanceAs (Decidable True)

/-- An update counts if it `touches` the time of its document. -/
def recencyActions (S : Screens Model Form Input URL) (touches : Bool) (s : App Model Form) :
    Event Input URL → List RecencyAction
  | .swipeDelete row true => (s.rows[row]?).toList.map fun data => .remove (S.key data)
  | .press answers =>
    match s.form.bind (S.addbtnclick answers) with
    | some (.setData key _) => if answers.succeeds then [.touch key] else []
    | some (.updateData key _) =>
      if answers.succeeds ∧ touches ∧ (s.documents.doc key).isSome then [.touch key] else []
    | none => []
  | _ => []

def order (s : App Model Form) : List String := (s.documents.orderBy "time").map Prod.fst

end App

/-- A new document carries the time of the press, and an update writes that time or none. -/
structure Screens.Stamps (S : Screens Model Form Input URL) (touches : Bool) : Prop where
  created : ∀ answers vc key fields, S.addbtnclick answers vc = some (.setData key fields) →
    fields.lookup "time" = some (.timestamp answers.now)
  updated : ∀ answers vc key fields, S.addbtnclick answers vc = some (.updateData key fields) →
    fields.lookup "time" = if touches then some (.timestamp answers.now) else none

theorem studentScreens_stamps (C : Cloud Image URL) : (studentScreens C).Stamps true := by
  constructor
  · intro answers vc key fields h
    have h : vc.addbtnclick C answers = .setData key fields := Option.some.inj h
    rw [GetDataVc.addbtnclick] at h
    split at h
    · cases h
    · cases h
      rfl
  · intro answers vc key fields h
    have h : vc.addbtnclick C answers = .updateData key fields := Option.some.inj h
    rw [GetDataVc.addbtnclick] at h
    split at h
    · cases h
      rfl
    · cases h

theorem detailScreens_stamps (C : Cloud Image URL) : (detailScreens C).Stamps false := by
  constructor
  · intro answers vc key fields h
    have h : vc.addbtnclick C answers = some (.setData key fields) := h
    rw [PassDataVC.addbtnclick] at h
    split at h
    · split at h
      · obtain ⟨url, -, hw⟩ := Option.bind_eq_some_iff.1 h
        cases hw
      · obtain ⟨url, -, hw⟩ := Option.bind_eq_some_iff.1 h
        cases hw
    · cases h
      rfl
  · intro answers vc key fields h
    have h : vc.addbtnclick C answers = some (.updateData key fields) := h
    rw [PassDataVC.addbtnclick] at h
    split at h
    · split at h
      · obtain ⟨url, -, hw⟩ := Option.bind_eq_some_iff.1 h
        cases hw
        rfl
      · obtain ⟨url, -, hw⟩ := Option.bind_eq_some_iff.1 h
        cases hw
        rfl
    · cases h

section
variable {S : Screens Model Form Input URL} {s t : App Model Form}

theorem merge_lookup_none {fields : Fields} (h : fields.lookup field = none) (d : Document) :
    d.merge fields field = d field := by
  rw [Document.merge, h, Option.none_or]

theorem recency_step {order : List String} (action : RecencyAction)
    (h : recency.step order action = some order') :
    recency.Run (fun _ _ => True) order [action] order' :=
  .cons trivial trivial h (.nil _)

theorem chronicle_press (hS : S.Stamps touches)
    (h : s.documents.Chronicle "time" order) (hlater : s.Later (.press answers : Event Input URL))
    (hs : App.step S s (.press answers) = some t) : ∃ order',
      t.documents.Chronicle "time" order' ∧ recency.Run (fun _ _ => True) order
        (s.recencyActions S touches (.press answers)) order' := by
  have hnow : ∀ key ∈ order, ∀ u ∈ s.documents.stamp "time" key, u < answers.now := by
    intro key hk
    exact hlater key ((s.documents.listed key).2 ((h.listed key).1 hk))
  obtain ⟨vc, hf, hs⟩ := Option.bind_eq_some_iff.1 hs
  obtain ⟨write, hw, ht⟩ := Option.bind_eq_some_iff.1 hs
  cases ht
  have hsent : s.form.bind (S.addbtnclick answers) = some write := by
    rw [hf, Option.bind_some, hw]
  simp only [App.recencyActions, hsent, App.request]
  cases hsucc : answers.succeeds with
  | false =>
    refine ⟨order, h, ?_⟩
    cases write <;> exact .nil _
  | true =>
    cases write with
    | setData key fields =>
      have htime := hS.created _ _ _ _ hw
      exact ⟨_, h.touch (d := .ofFields fields) htime hnow, recency_step _ rfl⟩
    | updateData key fields =>
      have htime := hS.updated _ _ _ _ hw
      cases hd : s.documents.doc key with
      | none =>
        refine ⟨order, ?_, ?_⟩
        · simp only [if_true, Collection.perform, Collection.updateData, hd]
          exact h
        · simp only [hd, Option.isSome_none, Bool.false_eq_true, and_false, if_false]
          exact .nil _
      | some d =>
        simp only [if_true, Collection.perform, Collection.updateData_of_some hd, hd,
          Option.isSome_some, and_true, true_and]
        cases touches with
        | true =>
          have hmerge : d.merge fields "time" = some (.timestamp answers.now) := by
            rw [Document.merge, htime]
            rfl
          exact ⟨_, h.touch hmerge hnow, recency_step _ rfl⟩
        | false => exact ⟨_, h.rewrite hd (merge_lookup_none htime d), .nil _⟩

theorem chronicle_step (hS : S.Stamps touches) (h : s.documents.Chronicle "time" order)
    (hlater : s.Later e) (hs : App.step S s e = some t) : ∃ order',
      t.documents.Chronicle "time" order' ∧
        recency.Run (fun _ _ => True) order (s.recencyActions S touches e) order' := by
  cases e with
  | press answers => exact chronicle_press hS h hlater hs
  | swipeDelete row succeeds =>
    obtain ⟨data, hrow, ht⟩ := Option.bind_eq_some_iff.1 hs
    cases ht
    cases succeeds with
    | false => exact ⟨order, h, .nil _⟩
    | true =>
      refine ⟨_, h.delete (S.key data), ?_⟩
      simp only [App.recencyActions, hrow, Option.toList_some, List.map_cons, List.map_nil]
      exact recency_step _ rfl
  | fetched now | pop =>
    cases hs
    exact ⟨order, h, .nil _⟩
  | clickAdd now =>
    obtain ⟨vc, -, ht⟩ := Option.bind_eq_some_iff.1 hs
    cases ht
    exact ⟨order, h, .nil _⟩
  | swipeEdit row =>
    obtain ⟨data, -, hs⟩ := Option.bind_eq_some_iff.1 hs
    obtain ⟨vc, -, ht⟩ := Option.bind_eq_some_iff.1 hs
    cases ht
    exact ⟨order, h, .nil _⟩
  | input i =>
    obtain ⟨vc, -, hs⟩ := Option.bind_eq_some_iff.1 hs
    obtain ⟨vc', -, ht⟩ := Option.bind_eq_some_iff.1 hs
    cases ht
    exact ⟨order, h, .nil _⟩

theorem order_of_run (hS : S.Stamps touches) (h : S.machine.Run App.Later App.launch es s) :
    ∃ as, S.machine.Labelled (fun s e as => as = s.recencyActions S touches e) App.launch es as ∧
      recency.Run (fun _ _ => True) [] as s.order := by
  have hstart : (App.launch : App Model Form).documents.Chronicle "time"
      (App.launch : App Model Form).order := Collection.chronicle_empty "time"
  exact h.refines (I := fun s => s.documents.Chronicle "time" s.order)
    (L := fun s e as => as = s.recencyActions S touches e) App.order
    (fun s e t hI _ hlater hst => by
      obtain ⟨order', hc, hrun⟩ := chronicle_step hS hI hlater hst
      have horder : t.order = order' := hc.orderBy
      rw [← horder] at hc hrun
      exact ⟨hc, _, rfl, hrun⟩) hstart

end

theorem students_fetched (C : Cloud Image URL) (now : Nat → Int) (c : Collection) :
    ((studentScreens C).fetch now c).map Student.key = (c.orderBy "time").map Prod.fst := by
  show (getstudentLimitedData now (c.orderBy "time")).map Student.key = _
  rw [getstudentLimitedData, map_mapIdx_of]
  intro i document
  rfl

theorem details_fetched (C : Cloud Image URL) {now : Nat → Int}
    (hnow : ∀ i j, i < j → now i ≤ now j) (c : Collection) :
    ((detailScreens C).fetch now c).map Detail.key = (c.orderBy "time").map Prod.fst := by
  show (getAlldetail now c).map Detail.key = _
  have hsorted : (getdetailLimitedData now (c.orderBy "time")).Pairwise
      fun a b => a.time ≤ b.time := by
    rw [getdetailLimitedData, List.pairwise_iff_getElem]
    intro i j hi hj hij
    rw [List.getElem_mapIdx, List.getElem_mapIdx]
    have htime (i : Nat) (document : String × Document) :
        (detailOfDocument (now i) document).time = now i := by
      simp only [detailOfDocument]
      cases document.2 "time" <;> rfl
    rw [htime, htime]
    exact hnow i j hij
  rw [getAlldetail, hsorted.insertionSort_eq, getdetailLimitedData, map_mapIdx_of]
  intro i document
  rfl

/-- Under a clock past all stored times: students as last written, details as created. -/
theorem fetched_order (C : Cloud Image URL) :
    (∀ es s, (studentScreens C).machine.Run App.Later App.launch es s →
      ∃ as, (studentScreens C).machine.Labelled
          (fun s e as => as = s.recencyActions (studentScreens C) true e) App.launch es as ∧
        ∀ now, recency.Run (fun _ _ => True) [] as
          (((studentScreens C).fetch now s.documents).map Student.key)) ∧
    ∀ es s, (detailScreens C).machine.Run App.Later App.launch es s →
      ∃ as, (detailScreens C).machine.Labelled
          (fun s e as => as = s.recencyActions (detailScreens C) false e) App.launch es as ∧
        ∀ now : Nat → Int, (∀ i j, i < j → now i ≤ now j) → recency.Run (fun _ _ => True) [] as
          (((detailScreens C).fetch now s.documents).map Detail.key) := by
  constructor
  · intro es s h
    obtain ⟨as, hl, hrun⟩ := order_of_run (studentScreens_stamps C) h
    refine ⟨as, hl, fun now => ?_⟩
    rw [students_fetched]
    exact hrun
  · intro es s h
    obtain ⟨as, hl, hrun⟩ := order_of_run (detailScreens_stamps C) h
    refine ⟨as, hl, fun now hnow => ?_⟩
    rw [details_fetched C hnow]
    exact hrun

def Press.deviceAt (now : Int) (documentID : String) : Press { s : String // s ≠ "" } :=
  { Press.device documentID with now := now }

def firstEdited (name : String → Input) (picture : List Input) :
    List (Event Input { s : String // s ≠ "" }) :=
  .clickAdd 0 :: .input (name "Ann") :: picture.map .input ++
    [.press (.deviceAt 1 "1"), .pop, .clickAdd 0, .input (name "Bob")] ++ picture.map .input ++
    [.press (.deviceAt 2 "2"), .pop, .fetched fun _ => 2, .swipeEdit 0,
      .press (.deviceAt 3 "3"), .pop]

theorem fetched_order_first_edited :
    (∃ s as, (studentScreens Cloud.device).machine.Run App.Later App.launch
        (firstEdited .editName []) s ∧
      ((studentScreens Cloud.device).fetch (fun _ => 4) s.documents).map Student.key =
        ["2", "1"] ∧
      recency.Run (fun _ _ => True) [] as
        (((studentScreens Cloud.device).fetch (fun _ => 4) s.documents).map Student.key)) ∧
    ∃ s as, (detailScreens Cloud.device).machine.Run App.Later App.launch
        (firstEdited (.editText .nameTxtfd) [.imagePickerController 0 true]) s ∧
      ((detailScreens Cloud.device).fetch (fun _ => 4) s.documents).map Detail.key =
        ["1", "2"] ∧
      recency.Run (fun _ _ => True) [] as
        (((detailScreens Cloud.device).fetch (fun _ => 4) s.documents).map Detail.key) := by
  constructor
  · obtain ⟨s, hr, hs⟩ := Machine.run_of_exec (studentScreens Cloud.device).machine App.Later
      App.launch (firstEdited .editName []) (fun s => decide
        (((studentScreens Cloud.device).fetch (fun _ => 4) s.documents).map Student.key =
          ["2", "1"])) (by decide +kernel)
    obtain ⟨as, -, hrun⟩ := (fetched_order Cloud.device).1 _ s hr
    exact ⟨s, as, hr, of_decide_eq_true hs, hrun _⟩
  · obtain ⟨s, hr, hs⟩ := Machine.run_of_exec (detailScreens Cloud.device).machine App.Later
      App.launch (firstEdited (.editText .nameTxtfd) [.imagePickerController 0 true])
      (fun s => decide
        (((detailScreens Cloud.device).fetch (fun _ => 4) s.documents).map Detail.key =
          ["1", "2"])) (by decide +kernel)
    obtain ⟨as, -, hrun⟩ := (fetched_order Cloud.device).2 _ s hr
    exact ⟨s, as, hr, of_decide_eq_true hs, hrun _ fun _ _ _ => Int.le_refl _⟩

end TrainingDemos.FirebasePractise
