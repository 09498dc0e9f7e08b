import TrainingDemos.BookStore.CommitLaw
import TrainingDemos.BookStore.FailedSaves

namespace TrainingDemos.BookStore
set_option autoImplicit true

/-- `arrImages` at the last Save of a visit whose last save succeeded. -/
def lastSaved (log : List (List String × Bool)) : Option (List String) :=
  (log.filter Prod.snd).getLast?.map Prod.fst

section
variable {P : Platform Image Data Time} {s t u : App Image Data} {K : String → Prop}

theorem Graph.fetchBooks_congr {g h : Graph} (hn : h.books.next = g.books.next)
    (hv : ∀ b, (h.key b).isSome = (g.key b).isSome) : h.fetchBooks = g.fetchBooks := by
  apply Table.select_congr hn
  intro b
  have hb := hv b
  simp only [key, Option.isSome_map] at hb
  simp only [Option.any_true, hb]

theorem fetchBooks_addedView (ctx : Context) (vc : AddBookVC) :
    (addedView P ctx vc).fetchBooks = ctx.view.fetchBooks ++ [ctx.view.books.next] := by
  have hattach : (addedView P ctx vc).fetchBooks =
      (ctx.view.insertBook (newBook P ctx vc)).fetchBooks := by
    apply Graph.fetchBooks_congr
    · exact Graph.next_books_attach _ _ _ _
    · intro b
      rw [addedView, Graph.key_attach]
  rw [hattach, Graph.fetchBooks, Graph.insertBook, Table.select_insert]
  rfl

structure AddVisit (n : Nat) (s : App Image Data) : Prop where
  form : ∃ vc, s.form = some vc ∧ vc.bookData = none
  count : s.context.view.fetchBooks.length = n + s.saveLog.length

theorem AddVisit.effect (h : AddVisit n s) (he : Effect P s e t) (hin : e.InForm) :
    AddVisit n t := by
  obtain ⟨vc, hf, hb⟩ := h.form
  rcases he.in_form hin hf with ⟨hctx, hlog, vc', hf', hb'⟩ | ⟨answers, -, -, hsave⟩
  · refine ⟨⟨vc', hf', hb'.trans hb⟩, ?_⟩
    rw [hctx, hlog]
    exact h.count
  · cases hsave with
    | added =>
      refine ⟨⟨_, rfl, hb⟩, ?_⟩
      rw [Context.view_save, fetchBooks_addedView, List.length_append, List.length_append, h.count]
      rfl
    | updated hb' =>
      rw [hb] at hb'
      cases hb'

theorem addVisit_run {B : App Image Data → Event Image Time → Prop}
    (hrun : (bookStore P).Run B s visit u) (hT : Targeted P s) (h : AddVisit n s)
    (hin : ∀ e ∈ visit, e.InForm) : AddVisit n u := by
  induction hrun with
  | nil => exact h
  | cons hen hB hs hr ih =>
    have he := step_effect hT.keys.keyed hen hs
    apply ih (hT.effect he) (h.effect he (hin _ List.mem_cons_self))
    exact fun e he => hin e (List.mem_cons_of_mem _ he)

structure EditVisit (b : Nat) (s : App Image Data) : Prop where
  form : ∃ vc, s.form = some vc ∧ vc.bookData = some b
  shown : ∀ last ∈ s.saveLog.getLast?,
    (s.context.view.shelf b).map BookRecord.images = some (bag last.1)

theorem EditVisit.effect (h : EditVisit b s) (ht : Tracked P K s) (he : Effect P s e t)
    (hin : e.InForm) (hnew : s.SavesNew e) : EditVisit b t := by
  obtain ⟨vc, hf, hb⟩ := h.form
  rcases he.in_form hin hf with ⟨hctx, hlog, vc', hf', hb'⟩ | ⟨answers, hclick, ha, hsave⟩
  · refine ⟨⟨vc', hf', hb'.trans hb⟩, ?_⟩
    rw [hctx, hlog]
    exact h.shown
  · subst hclick
    cases hsave with
    | added hb' =>
      rw [hb] at hb'
      cases hb'
    | updated hb' hbook hr hv =>
      rw [hb] at hb'
      cases hb'
      have hnew' := hnew vc hf ha
      rw [AddBookVC.toInsert, hb] at hnew'
      refine ⟨⟨_, rfl, hb⟩, ?_⟩
      intro last hlast
      rw [List.getLast?_concat, Option.mem_some_iff] at hlast
      subst hlast
      rw [Context.view_save, hv, shelf_updated ht.framed ht.accounted hf hb hbook hnew' hr,
        Function.update_self]
      rfl

theorem editVisit_run
    (hrun : (bookStore P).Run (fun s e => s.FreshPick P e ∧ s.SavesNew e) s visit u)
    (hT : Tracked P (fun _ => False) s) (h : EditVisit b s) (hin : ∀ e ∈ visit, e.InForm) :
    EditVisit b u := by
  induction hrun with
  | nil => exact h
  | cons hen hB hs hr ih =>
    have he := step_effect hT.targeted.keys.keyed hen hs
    apply ih (hT.effect he hB.1.newPick hB.2) (h.effect hT he (hin _ List.mem_cons_self) hB.2)
    exact fun e he => hin e (List.mem_cons_of_mem _ he)

/-- A visit to a form that is popped after a successful Save. -/
structure Visit (P : Platform Image Data Time) (B : App Image Data → Event Image Time → Prop)
    (s : App Image Data) (opening : Event Image Time) (u t : App Image Data) (names : List String) :
    Prop where
  run : ∃ visit, (bookStore P).Run B s (opening :: visit) u ∧ ∀ e ∈ visit, e.InForm
  popped : ∃ pop, (pop = .clickBack ∨ pop = .popTimer) ∧ u.Enabled pop ∧ u.step P pop = some t
  saved : lastSaved u.saveLog = some names

theorem Visit.context {B : App Image Data → Event Image Time → Prop}
    (h : Visit P B s opening u t names) : t.context = u.context := by
  obtain ⟨pop, hpop, -, ht⟩ := h.popped
  rcases hpop with rfl | rfl
  · cases ht
    rfl
  · cases ht
    rfl

theorem exists_last (h : lastSaved log = some names) : ∃ last, log.getLast? = some last := by
  cases hl : log.getLast? with
  | none =>
    rw [List.getLast?_eq_none_iff] at hl
    rw [hl] at h
    cases h
  | some last => exact ⟨last, rfl⟩

theorem addVisit_count {B : App Image Data → Event Image Time → Prop} (hT : Targeted P s)
    (h : Visit P B s .clickAdd u t names) : t.context.view.fetchBooks.length =
      s.context.view.fetchBooks.length + u.saveLog.length := by
  obtain ⟨visit, hrun, hin⟩ := h.run
  obtain ⟨s', hen, -, hs, hr⟩ := run_cons hrun
  have he := step_effect hT.keys.keyed hen hs
  have hopen : AddVisit s.context.view.fetchBooks.length s' := by
    cases he with
    | openAdd => exact ⟨⟨_, rfl, rfl⟩, rfl⟩
    | leave _ he => rcases he with he | he <;> cases he
  rw [h.context]
  exact (addVisit_run hr (hT.effect he) hopen hin).count

theorem editVisit_images (hT : Tracked P (fun _ => False) s)
    (h : Visit P (fun s e => s.FreshPick P e ∧ s.SavesNew e) s (.swipeEdit row allObjects) u t
      names)
    (hrow : s.list.arrTblBooks[row]? = some b) (hlast : u.saveLog.getLast? = some last) :
    (t.context.view.shelf b).map BookRecord.images = some (bag last.1) := by
  obtain ⟨visit, hrun, hin⟩ := h.run
  obtain ⟨s', hen, hB, hs, hr⟩ := run_cons hrun
  have he := step_effect hT.targeted.keys.keyed hen hs
  have hopen : EditVisit b s' := by
    cases he with
    | openEdit _ hrow' hvc =>
      rw [hrow] at hrow'
      cases hrow'
      refine ⟨⟨_, rfl, (setUpdatedData_bookData hvc).1⟩, ?_⟩
      intro last hlast
      cases hlast
    | leave _ he => rcases he with he | he <;> cases he
  rw [h.context]
  exact (editVisit_run hr (hT.effect he hB.1.newPick hB.2) hopen hin).shown last hlast

theorem editSave_shelf (hT : Tracked P K s) (hf : s.form = some vc) (ha : vc.Accepted)
    (hb : vc.bookData = some b) (hnew : s.SavesNew (.clickSave answers : Event Image Time))
    (hs : s.step P (.clickSave answers) = some t) :
    t.context.view.shelf = Function.update s.context.view.shelf b (some vc.record) ∧
      ∃ a n, t.form = some { vc with alert := a, scheduledPops := n } := by
  have hen : s.Enabled (.clickSave answers : Event Image Time) :=
    Option.isSome_iff_exists.2 ⟨vc, hf⟩
  have hnames := hnew vc hf ha
  rw [AddBookVC.toInsert, hb] at hnames
  cases (step_effect hT.targeted.keys.keyed hen hs).accepted hf ha with
  | added hb' =>
    rw [hb] at hb'
    cases hb'
  | updated hb' hbook hr hv =>
    rw [hb] at hb'
    cases hb'
    rw [Context.view_save, hv, shelf_updated hT.framed hT.accounted hf hb hbook hnames hr]
    exact ⟨rfl, _, _, rfl⟩

theorem editSave_idem (hT : Tracked P K s) (hf : s.form = some vc) (ha : vc.Accepted)
    (hb : vc.bookData = some b) (hnew : s.SavesNew (.clickSave answers : Event Image Time))
    (hs : s.step P (.clickSave answers) = some t)
    (hnew' : t.SavesNew (.clickSave answers' : Event Image Time))
    (ht : t.step P (.clickSave answers') = some u) :
    u.context.view.shelf = t.context.view.shelf := by
  have hen : s.Enabled (.clickSave answers : Event Image Time) :=
    Option.isSome_iff_exists.2 ⟨vc, hf⟩
  obtain ⟨hshelf, a, n, hf'⟩ := editSave_shelf hT hf ha hb hnew hs
  obtain ⟨hshelf', -⟩ := editSave_shelf (hT.step hen trivial hnew hs) hf' ha hb hnew' ht
  rw [hshelf', hshelf, Function.update_idem]
  rfl

end

end TrainingDemos.BookStore
