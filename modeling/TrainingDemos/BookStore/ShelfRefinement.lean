import TrainingDemos.BookStore.Lives

namespace TrainingDemos.BookStore
set_option autoImplicit true

/-- Objects on which the app can be launched. -/
structure Recoverable (P : Platform Image Data Time) (K : String → Prop) (s : App Image Data)
    (g : Graph) : Prop where
  keys : g.OwnKeys P
  sound : g.Sound
  distinct : g.Distinct
  known : ∀ i u, g.Names i u → s.Known K u

structure Alive (P : Platform Image Data Time) (K : String → Prop) (s : App Image Data) : Prop
    extends Tracked P K s where
  stored : Recoverable P K s s.context.store

section
variable {P : Platform Image Data Time} {s t : App Image Data} {K : String → Prop}

theorem Tracked.recoverable (h : Tracked P K s) : Recoverable P K s s.context.view :=
  ⟨h.targeted.keys, h.framed.sound, h.accounted.distinct, h.framed.stored⟩

theorem Recoverable.effect (h : Recoverable P K s g) (he : Effect P s e t) :
    Recoverable P K t g :=
  ⟨h.keys, h.sound, h.distinct, fun i u hn => he.known_mono (h.known i u hn)⟩

theorem Tracked.halfway (h : Tracked P K s) (hf : s.form = some vc) (hb : vc.bookData = some b)
    (hbook : s.context.view.books.row b = some book)
    (hnew : ∀ u ∈ vc.arrUpdatedImages, ∀ i, ¬ s.context.view.Names i u) (gone : Nat → Bool) :
    Recoverable P K s ((extendedView P s.context vc b).dropImages gone) where
  keys := (h.targeted.keys.extendedView vc b).dropImages gone
  sound := (h.framed.sound.extendedView hbook vc).dropImages gone
  distinct := by
    have hn := (h.accounted.session vc b hf hb).updated_nodup
    exact (h.accounted.distinct.extendedView hn hnew b).dropImages gone
  known i u hn := by
    rw [Graph.names_dropImages, names_extendedView] at hn
    rcases hn.1 with hn | ⟨-, hn⟩
    · exact h.framed.stored i u hn
    · exact h.framed.shown vc u hf (.inr (.inl (List.mem_of_getElem? hn)))

theorem Recoverable.relaunch (h : Recoverable P K s s.context.store) (fetch : Fetch) :
    Alive P K (s.relaunch fetch) where
  targeted :=
    have ht : Targeted P (App.launch s.context.store fetch : App Image Data) :=
      targeted_launch h.keys fetch
    ⟨ht.keys, ht.rows, ht.rows_nodup, ht.form⟩
  framed := by
    refine ⟨h.sound, ?_, h.known, ?_, ?_⟩
    · intro i j u b hi hj ho
      rw [← h.distinct i j u hi hj]
      exact ho
    · intro vc u hvc
      cases hvc
    · intro vc b u i hvc
      cases hvc
  accounted := .of_closed h.distinct rfl
  stored := ⟨h.keys, h.sound, h.distinct, h.known⟩

theorem App.performed (hen : shelfMachine.enabled s.context.view.shelf action)
    (hs : shelfMachine.step s.context.view.shelf action = some t.context.view.shelf)
    (hst : save = true ∧ t.context.store = t.context.view ∨
      save = false ∧ t.context.store = s.context.store) :
    shelfMachine.durably.Run (Machine.InMemory fun _ _ => True) s.shelves
      (.perform action :: written save) t.shelves := by
  have hrun := Machine.Run.performed (B := fun _ _ => True) hen trivial hs s.context.store.shelf
  rcases hst with ⟨rfl, hst⟩ | ⟨rfl, hst⟩
  · rw [App.shelves, App.shelves, hst]
    exact hrun.trans (.written _ _)
  · rw [App.shelves, App.shelves, hst]
    exact hrun

theorem App.step_clickSave (hf : s.form = some vc) (hs : s.step P (.clickSave answers) = some t) :
    s.clickSave P answers vc = some t := by
  simpa only [App.step, hf, Option.bind_eq_bind, Option.bind_some] using hs

theorem Alive.added (h : Alive P K s) (hf : s.form = some vc) (ha : vc.Accepted)
    (hb : vc.bookData = none) (he : Effect P s (.clickSave answers) t)
    (hnew : s.SavesNew (.clickSave answers : Event Image Time))
    (hs : s.step P (.clickSave answers) = some t) :
    Recoverable P K t t.context.store ∧ ∃ as, SaveStandsFor s vc answers as ∧
      shelfMachine.durably.Run (Machine.InMemory fun _ _ => True) s.shelves as t.shelves := by
  have ht := h.toTracked.effect he trivial hnew
  have hnames := hnew vc hf ha
  rw [AddBookVC.toInsert, hb] at hnames
  have hfree : shelfMachine.enabled s.context.view.shelf
      (.place s.context.view.books.next vc.record) := by
    show s.context.view.shelf _ = none
    rw [Graph.shelf, Table.row_next, Option.map_none]
  have hview : t.context.view.shelf =
      Function.update s.context.view.shelf s.context.view.books.next (some vc.record) := by
    cases he.accepted hf ha with
    | added => rw [Context.view_save, shelf_added h.framed h.accounted hf hnames]
    | updated hb' =>
      rw [hb] at hb'
      cases hb'
  have hstep := congrArg some hview.symm
  rcases clickSave_written h.targeted.keys.keyed ha (App.step_clickSave hf hs) with
    ⟨hsave, hst⟩ | ⟨hsave, ⟨hst, -⟩ | ⟨b, hb', -⟩⟩
  · exact ⟨hst ▸ ht.recoverable, _, .added ha hb, App.performed hfree hstep (.inl ⟨hsave, hst⟩)⟩
  · exact ⟨hst ▸ h.stored.effect he, _, .added ha hb,
      App.performed hfree hstep (.inr ⟨hsave, hst⟩)⟩
  · rw [hb] at hb'
    cases hb'

theorem Alive.updated (h : Alive P K s) (hf : s.form = some vc) (ha : vc.Accepted)
    (hb : vc.bookData = some b) (he : Effect P s (.clickSave answers) t)
    (hnew : s.SavesNew (.clickSave answers : Event Image Time))
    (hs : s.step P (.clickSave answers) = some t) :
    Recoverable P K t t.context.store ∧ ∃ as, SaveStandsFor s vc answers as ∧
      shelfMachine.durably.Run (Machine.InMemory fun _ _ => True) s.shelves as t.shelves := by
  have ht := h.toTracked.effect he trivial hnew
  have hnames := hnew vc hf ha
  rw [AddBookVC.toInsert, hb] at hnames
  obtain ⟨book, hbook⟩ := Graph.visible_iff.2 (h.targeted.form vc b hf hb)
  have hthere (record : BookRecord) :
      shelfMachine.enabled s.context.view.shelf (.replace b record) := by
    show (s.context.view.shelf b).isSome = true
    rw [Graph.shelf, hbook]
    rfl
  have hview : t.context.view.shelf =
      Function.update s.context.view.shelf b (some vc.record) := by
    cases he.accepted hf ha with
    | added hb' =>
      rw [hb] at hb'
      cases hb'
    | updated hb' hbook' hr hv =>
      rw [hb] at hb'
      cases hb'
      rw [Context.view_save, hv, shelf_updated h.framed h.accounted hf hb hbook' hnames hr]
  have hstep := congrArg some hview.symm
  rcases clickSave_written h.targeted.keys.keyed ha (App.step_clickSave hf hs) with
    ⟨hsave, hst⟩ | ⟨hsave, hst⟩
  · exact ⟨hst ▸ ht.recoverable, _, .updated ha hb,
      App.performed (hthere _) hstep (.inl ⟨hsave, hst⟩)⟩
  rcases hst.removal with hst | ⟨b', done, rest, gone, hb', hdone, hne, hj, hgone, hst⟩
  · exact ⟨hst ▸ h.stored.effect he, _, .updated ha hb,
      App.performed (hthere _) hstep (.inr ⟨hsave, hst⟩)⟩
  · rw [hb] at hb'
    cases hb'
    obtain ⟨left, hleft, hshelf⟩ :=
      shelf_halfway h.framed h.accounted hf hb hbook hnames hdone hgone
    rw [← hst] at hshelf
    refine ⟨?_, _, .halfway ha hb hdone hne hj hsave hleft, ?_⟩
    · rw [hst]
      exact (h.toTracked.halfway hf hb hbook hnames gone).effect he
    · have hagain : shelfMachine.enabled t.context.store.shelf (.replace b vc.record) := by
        show (t.context.store.shelf b).isSome = true
        rw [hshelf, Function.update_self]
        rfl
      have hlast : shelfMachine.step t.context.store.shelf (.replace b vc.record) =
          some t.context.view.shelf := by
        rw [hview, hshelf]
        exact congrArg some (Function.update_idem _ _ _)
      have hfirst := Machine.Run.performed (B := fun _ _ => True) (hthere _) trivial
        (show shelfMachine.step s.context.view.shelf _ = some t.context.store.shelf from
          congrArg some hshelf.symm) s.context.store.shelf
      exact hfirst.trans ((Machine.Run.written _ _).trans (.performed hagain trivial hlast _))

theorem Alive.event (h : Alive P K s) (hen : s.Enabled e) (hpick : s.NewPick P K e)
    (hnew : s.SavesNew e) (hs : s.step P e = some t) :
    Alive P K t ∧ ∃ as, s.StandsFor (.event e) as ∧
      shelfMachine.durably.Run (Machine.InMemory fun _ _ => True) s.shelves as t.shelves := by
  have he := step_effect h.targeted.keys.keyed hen hs
  have ht := h.toTracked.effect he hpick hnew
  have hquiet (hctx : t.context = s.context) : Alive P K t ∧ shelfMachine.durably.Run
      (Machine.InMemory fun _ _ => True) s.shelves [] t.shelves := by
    refine ⟨⟨ht, hctx ▸ h.stored.effect he⟩, ?_⟩
    rw [App.shelves, App.shelves, hctx]
    exact .nil _
  cases e with
  | swipeDelete row fetch save =>
    have he' := he
    cases he with
    | @delete _ b book _ _ hf hrow hbook =>
      have hthere : shelfMachine.enabled s.context.view.shelf (.remove b) := by
        show (s.context.view.shelf b).isSome = true
        rw [Graph.shelf, hbook]
        rfl
      have hview := congrArg some (Graph.shelf_deleteBook h.framed.sound b).symm
      cases save with
      | true =>
        exact ⟨⟨ht, ht.recoverable⟩, _, ⟨b, hrow, rfl⟩,
          App.performed hthere hview (.inl ⟨rfl, rfl⟩)⟩
      | false =>
        exact ⟨⟨ht, h.stored.effect he'⟩, _, ⟨b, hrow, rfl⟩,
          App.performed hthere hview (.inr ⟨rfl, rfl⟩)⟩
    | leave _ he => rcases he with he | he <;> cases he
  | clickSave answers =>
    obtain ⟨vc, hf⟩ := Option.isSome_iff_exists.1 hen
    by_cases ha : vc.Accepted
    · cases hb : vc.bookData with
      | none =>
        obtain ⟨hst, as, has, hrun⟩ := h.added hf ha hb he hnew hs
        exact ⟨⟨ht, hst⟩, as, ⟨vc, hf, has⟩, hrun⟩
      | some b =>
        obtain ⟨hst, as, has, hrun⟩ := h.updated hf ha hb he hnew hs
        exact ⟨⟨ht, hst⟩, as, ⟨vc, hf, has⟩, hrun⟩
    · have hctx : t.context = s.context := by
        cases he with
        | refused => rfl
        | added hf' ha' =>
          rw [hf] at hf'
          cases hf'
          exact absurd ha' ha
        | updated hf' ha' =>
          rw [hf] at hf'
          cases hf'
          exact absurd ha' ha
        | leave => rfl
      exact ⟨(hquiet hctx).1, [], ⟨vc, hf, .refused ha⟩, (hquiet hctx).2⟩
  | _ =>
    have hctx : t.context = s.context := by
      cases he <;> rfl
    exact ⟨(hquiet hctx).1, [], rfl, (hquiet hctx).2⟩

/-- An edit ends halfway: only its save after the first removal succeeds, and the app ends. -/
def endedHalfway : List (LifeEvent Nat Nat) :=
  ([.clickAdd, .pickImage 7 1 true true, .pickImage 9 3 true true, .editTexts "n" "a" "d",
    .clickSave .succeed, .popTimer, .pullToRefresh (some .asStored), .swipeEdit 0 .asStored,
    .clickDelete 0, .clickDelete 0, .pickImage 8 2 true true,
    .clickSave { SaveAnswers.succeed with imageSave := fun k => decide (k = 0), save := false }] :
      List (Event Nat Nat)).map .event ++ [.relaunch (some .asStored)]

end

end TrainingDemos.BookStore
