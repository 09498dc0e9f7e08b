import TrainingDemos.Loops
import TrainingDemos.Refinements
import TrainingDemos.FirebasePractise.FruitScreens

namespace TrainingDemos.FirebasePractise
set_option autoImplicit true

namespace FruitApp

section
variable {δ : Type} {m : FruitApp δ}

/-- The write that the server carries out in an event. -/
def served (m : FruitApp δ) : FruitEvent δ → List Upsert
  | .served i => (m.requests[i]?.bind FruitRequest.upsert).toList
  | _ => []

inductive Sends (m : FruitApp δ) : FruitEvent δ → FruitRequest δ → Prop where
  | viewWillAppear : Sends m (.viewWillAppear d)
      (.getDocuments d (m.devices d).session.screen (m.devices d).session.userID)
  | swipeDelete : (m.devices d).arrfruit[row]? = some data → Sends m (.swipeDelete d row)
      (.delete d (m.devices d).session.currentUser data.key)
  | press : (m.devices d).form = some vc → Sends m (.press d documentID)
      (.setData d (m.devices d).session.currentUser
        (vc.addbtnclick documentID (m.devices d).session.userID))

def swiped [DecidableEq δ] (d : δ) : FruitEvent δ → Option Nat
  | .swipeDelete d' row => if d' = d then some row else none
  | _ => none

end

section
variable {δ : Type} [DecidableEq δ] {m t : FruitApp δ} {B : FruitApp δ → FruitEvent δ → Prop}
  {id : String}

def carried (d : δ) (m : FruitApp δ) : FruitEvent δ → List Upsert
  | .served i => (m.requests[i]?.bind (FruitRequest.upsertOf d)).toList
  | _ => []

theorem step_requests (hs : m.step e = some t) :
    (∃ i request, e = .served i ∧ m.requests[i]? = some request ∧
        t = { m with requests := m.requests.eraseIdx i }.serve request) ∨
      t.documents = m.documents ∧ m.served e = [] ∧ (∀ d, carried d m e = []) ∧
        (t.requests = m.requests ∨ ∃ request, m.Sends e request ∧
          t.requests = m.requests ++ [request]) := by
  cases e with
  | served i =>
    obtain ⟨request, hi, ht⟩ := Option.map_eq_some_iff.1 hs
    exact .inl ⟨i, request, rfl, hi, ht.symm⟩
  | press d documentID =>
    obtain ⟨vc, hf, ht⟩ := Option.bind_eq_some_iff.1 hs
    cases ht
    exact .inr ⟨rfl, rfl, fun _ => rfl, .inr ⟨_, .press hf, rfl⟩⟩
  | swipeDelete d row =>
    obtain ⟨data, hrow, ht⟩ := Option.bind_eq_some_iff.1 hs
    cases ht
    exact .inr ⟨rfl, rfl, fun _ => rfl, .inr ⟨_, .swipeDelete hrow, rfl⟩⟩
  | viewWillAppear d =>
    cases hs
    exact .inr ⟨rfl, rfl, fun _ => rfl, .inr ⟨_, .viewWillAppear, rfl⟩⟩
  | addbtnclick d | pop d =>
    cases hs
    exact .inr ⟨rfl, rfl, fun _ => rfl, .inl rfl⟩
  | auth d e | swipeEdit d row | input d i =>
    obtain ⟨_, -, ht⟩ := Option.bind_eq_some_iff.1 hs
    cases ht
    exact .inr ⟨rfl, rfl, fun _ => rfl, .inl rfl⟩

theorem sends_step (hs : m.step e = some t) (h : m.Sends e request) : request ∈ t.requests := by
  cases h with
  | viewWillAppear =>
    cases hs
    exact List.mem_append_right _ List.mem_cons_self
  | swipeDelete hrow =>
    obtain ⟨data, hrow', ht⟩ := Option.bind_eq_some_iff.1 hs
    cases hrow.symm.trans hrow'
    cases ht
    exact List.mem_append_right _ List.mem_cons_self
  | press hf =>
    obtain ⟨vc, hf', ht⟩ := Option.bind_eq_some_iff.1 hs
    cases hf.symm.trans hf'
    cases ht
    exact List.mem_append_right _ List.mem_cons_self

theorem documents_serve (m : FruitApp δ) (request : FruitRequest δ) :
    (m.serve request).documents = m.documents.overlaid request.upsert.toList := by
  cases request with
  | documents d screen id arrData =>
    rw [serve]
    split <;> rfl
  | _ => rfl

theorem documents_step (hs : m.step e = some t) :
    t.documents = m.documents.overlaid (m.served e) := by
  rcases step_requests hs with ⟨i, request, he, hi, ht⟩ | ⟨hd, hnone, -⟩
  · rw [he, ht, documents_serve, served, hi]
    rfl
  · rw [hd, hnone]
    rfl

theorem mem_carryOut {u : Upsert} {d' : δ}
    (h : .documents d screen id arrData ∈ (m.carryOut d' u).requests) :
    ∃ arrData', .documents d screen id arrData' ∈ m.requests ∧
      arrData = if d = d' then arrData'.upsert u else arrData' := by
  obtain ⟨request, hm, he⟩ := List.mem_map.1 h
  cases request with
  | documents d₁ screen₁ id₁ arrData₁ =>
    cases he
    exact ⟨arrData₁, hm, rfl⟩
  | _ => cases he

theorem answers_step (hs : m.step e = some t) (h : .documents d screen id arrData ∈ t.requests) :
    (∃ arrData', .documents d screen id arrData' ∈ m.requests ∧
      arrData = arrData'.overlaid (carried d m e)) ∨
      ∃ i, e = .served i ∧ m.requests[i]? = some (.getDocuments d screen id) ∧
        arrData = m.documents := by
  have hkept (hc : carried d m e = []) (hm : .documents d screen id arrData ∈ m.requests) :
      ∃ arrData', .documents d screen id arrData' ∈ m.requests ∧
        arrData = arrData'.overlaid (carried d m e) := by
    rw [hc]
    exact ⟨arrData, hm, rfl⟩
  rcases step_requests hs with ⟨i, request, he, hi, ht⟩ | ⟨-, -, hc, hr | ⟨request, hsend, hr⟩⟩
  · subst he ht
    have hcarried : carried d m (.served i) = (request.upsertOf d).toList := by
      rw [carried, hi]
      rfl
    have hwrite (d' : δ) (u : Upsert) (hd : request.device = d') (hu : request.upsert = some u)
        (hm : .documents d screen id arrData ∈
          (carryOut { m with requests := m.requests.eraseIdx i } d' u).requests) :
        ∃ arrData', .documents d screen id arrData' ∈ m.requests ∧
          arrData = arrData'.overlaid (carried d m (.served i)) := by
      obtain ⟨arrData', hm', he⟩ := mem_carryOut hm
      refine ⟨arrData', List.mem_of_mem_eraseIdx hm', ?_⟩
      rw [hcarried, he, FruitRequest.upsertOf, hd]
      by_cases hd' : d = d'
      · rw [if_pos hd', if_pos hd'.symm, hu]
        rfl
      · rw [if_neg hd', if_neg (Ne.symm hd')]
        rfl
    cases request with
    | setData d' user merge => exact .inl (hwrite d' _ rfl rfl h)
    | delete d' user key => exact .inl (hwrite d' _ rfl rfl h)
    | getDocuments d' screen' id' =>
      rcases List.mem_append.1 h with hm | hm
      · refine .inl (hkept ?_ (List.mem_of_mem_eraseIdx hm))
        rw [hcarried, FruitRequest.upsertOf_eq_none rfl]
        rfl
      · cases List.mem_singleton.1 hm
        exact .inr ⟨i, rfl, hi, rfl⟩
    | documents d' screen' id' arrData' =>
      have hm : .documents d screen id arrData ∈ m.requests.eraseIdx i := by
        rw [serve] at h
        split at h
        · exact h
        · exact h
      refine .inl (hkept ?_ (List.mem_of_mem_eraseIdx hm))
      rw [hcarried, FruitRequest.upsertOf_eq_none rfl]
      rfl
  · rw [hr] at h
    exact .inl (hkept (hc d) h)
  · rw [hr] at h
    rcases List.mem_append.1 h with hm | hm
    · exact .inl (hkept (hc d) hm)
    · rw [← List.mem_singleton.1 hm] at hsend
      cases hsend

theorem pending_eraseIdx {request : FruitRequest δ} (hi : m.requests[i]? = some request)
    (hl : request.upsert = none) (d : δ) (user : Option String) :
    pending { m with requests := m.requests.eraseIdx i } d user = m.pending d user := by
  apply filterMap_eraseIdx hi
  rw [FruitRequest.laidOver, FruitRequest.upsertOf_eq_none hl, ite_self]

theorem arrfruit_arrived {d : δ} (hs : m.step (.served i) = some t)
    (hi : m.requests[i]? = some (.documents d (m.devices d).session.screen id arrData))
    (hroot : (m.devices d).session.root = .homeNavi) : (t.devices d).arrfruit =
      getfruit id (arrData.overlaid (m.pending d (m.devices d).session.currentUser)) := by
  obtain ⟨request, hi', ht⟩ := Option.map_eq_some_iff.1 hs
  cases hi.symm.trans hi'
  rw [← ht, serve, if_pos ⟨hroot, rfl⟩, devices_setDevice_self, pending_eraseIdx hi rfl]

/-- An answer that arrives replaces the list of its home screen. -/
def Arrives (m : FruitApp δ) (e : FruitEvent δ) (d : δ) (rows : List Fruits) : Prop :=
  ∃ i id arrData, e = .served i ∧
    m.requests[i]? = some (.documents d (m.devices d).session.screen id arrData) ∧
    (m.devices d).session.root = .homeNavi ∧
    rows = getfruit id (arrData.overlaid (m.pending d (m.devices d).session.currentUser))

theorem lists_step (hs : m.step e = some t) (d : δ) : (t.devices d).arrfruit = [] ∨
    (t.devices d).session.screen = (m.devices d).session.screen ∧
      ((t.devices d).arrfruit = (swiped d e).toList.foldl List.eraseIdx (m.devices d).arrfruit ∨
        m.Arrives e d (t.devices d).arrfruit) := by
  have hset (d' : δ) (device : Device) (hother : d ≠ d' → swiped d e = none)
      (hd : device.session.screen = (m.devices d').session.screen)
      (hrows : device.arrfruit = (swiped d' e).toList.foldl List.eraseIdx (m.devices d').arrfruit) :
      ((m.setDevice d' device).devices d).session.screen = (m.devices d).session.screen ∧
        ((m.setDevice d' device).devices d).arrfruit =
          (swiped d e).toList.foldl List.eraseIdx (m.devices d).arrfruit := by
    by_cases hd' : d = d'
    · subst hd'
      rw [devices_setDevice_self]
      exact ⟨hd, hrows⟩
    · rw [devices_setDevice_of_ne m device hd', hother hd']
      exact ⟨rfl, rfl⟩
  have hkept (h : (t.devices d).session.screen = (m.devices d).session.screen ∧
      (t.devices d).arrfruit =
        (swiped d e).toList.foldl List.eraseIdx (m.devices d).arrfruit) :
      (t.devices d).arrfruit = [] ∨ (t.devices d).session.screen = (m.devices d).session.screen ∧
        ((t.devices d).arrfruit = (swiped d e).toList.foldl List.eraseIdx (m.devices d).arrfruit ∨
          m.Arrives e d (t.devices d).arrfruit) :=
    .inr ⟨h.1, .inl h.2⟩
  cases e with
  | served i =>
    obtain ⟨request, hi, ht⟩ := Option.map_eq_some_iff.1 hs
    subst ht
    cases request with
    | documents d' screen id arrData =>
      rw [serve]
      split
      · rename_i hshown
        by_cases hd : d = d'
        · subst hd
          rw [devices_setDevice_self]
          refine .inr ⟨rfl, .inr ⟨i, id, arrData, rfl, ?_, hshown.1, ?_⟩⟩
          · rw [hi, ← hshown.2]
          · rw [pending_eraseIdx hi rfl]
        · rw [devices_setDevice_of_ne _ _ hd]
          exact .inr ⟨rfl, .inl rfl⟩
      · exact .inr ⟨rfl, .inl rfl⟩
    | _ => exact .inr ⟨rfl, .inl rfl⟩
  | auth d' e =>
    obtain ⟨device, hdevice, ht⟩ := Option.bind_eq_some_iff.1 hs
    cases ht
    obtain ⟨session, -, hd⟩ := Option.map_eq_some_iff.1 hdevice
    split at hd
    · rename_i hscreen
      cases hd
      exact hkept (hset d' _ (fun _ => rfl) hscreen rfl)
    · cases hd
      by_cases hd' : d = d'
      · subst hd'
        rw [devices_setDevice_self]
        exact .inl rfl
      · rw [devices_setDevice_of_ne m _ hd']
        exact .inr ⟨rfl, .inl rfl⟩
  | viewWillAppear d' =>
    cases hs
    exact hkept ⟨rfl, rfl⟩
  | addbtnclick d' | pop d' =>
    cases hs
    exact hkept (hset d' _ (fun _ => rfl) rfl rfl)
  | swipeEdit d' row | input d' i =>
    obtain ⟨_, -, ht⟩ := Option.bind_eq_some_iff.1 hs
    cases ht
    exact hkept (hset d' _ (fun _ => rfl) rfl rfl)
  | swipeDelete d' row =>
    obtain ⟨data, -, ht⟩ := Option.bind_eq_some_iff.1 hs
    cases ht
    refine hkept (hset d' _ (fun hd => ?_) rfl ?_)
    · rw [swiped, if_neg (Ne.symm hd)]
    · rw [swiped, if_pos rfl]
      rfl
  | press d' documentID =>
    obtain ⟨vc, -, ht⟩ := Option.bind_eq_some_iff.1 hs
    cases ht
    exact hkept ⟨rfl, rfl⟩

/-- An answer as the server evaluated it in a run, under the writes carried out since. -/
def Read (B : FruitApp δ → FruitEvent δ → Prop) (es : List (FruitEvent δ)) (m : FruitApp δ) (d : δ)
    (screen : Nat) (id : String) (arrData : Collection) : Prop :=
  ∃ es₁ u i es₂, es = es₁ ++ .served i :: es₂ ∧ machine.Run B start es₁ u ∧
    u.requests[i]? = some (.getDocuments d screen id) ∧ machine.Run B u (.served i :: es₂) m ∧
    arrData = u.documents.overlaid (machine.outputs (carried d) u (.served i :: es₂))

/-- The rows of an answer that has arrived, but for those that were deleted from the list since. -/
def Answered (B : FruitApp δ → FruitEvent δ → Prop) (es : List (FruitEvent δ)) (d : δ)
    (screen : Nat) (rows : List Fruits) : Prop :=
  ∃ es₁ v e es₂ loaded, es = es₁ ++ e :: es₂ ∧ machine.Run B start es₁ v ∧
    (v.devices d).session.screen = screen ∧ v.Arrives e d loaded ∧
    rows = (es₂.filterMap (swiped d)).foldl List.eraseIdx loaded

structure Reads (B : FruitApp δ → FruitEvent δ → Prop) (es : List (FruitEvent δ))
    (m : FruitApp δ) : Prop where
  answers : ∀ d screen id arrData, .documents d screen id arrData ∈ m.requests →
    Read B es m d screen id arrData
  lists : ∀ d, (m.devices d).arrfruit = [] ∨
    Answered B es d (m.devices d).session.screen (m.devices d).arrfruit

theorem Read.snoc (h : Read B es m d screen id arrData) (hen : m.Enabled e) (hb : B m e)
    (hs : m.step e = some t) :
    Read B (es ++ [e]) t d screen id (arrData.overlaid (carried d m e)) := by
  obtain ⟨es₁, u, i, es₂, hes, hu, hi, hr, hdata⟩ := h
  refine ⟨es₁, u, i, es₂ ++ [e], ?_, hu, hi, ?_, ?_⟩
  · rw [hes, List.append_assoc, List.cons_append]
  · rw [← List.cons_append]
    exact hr.trans (.cons hen hb hs (.nil t))
  · rw [← List.cons_append, hr.outputs_snoc, Collection.overlaid_append, hdata]

theorem Read.asked (hr : machine.Run B start es m) (hen : m.Enabled (.served i))
    (hb : B m (.served i)) (hs : m.step (.served i) = some t)
    (hi : m.requests[i]? = some (.getDocuments d screen id)) :
    Read B (es ++ [.served i]) t d screen id m.documents := by
  refine ⟨es, m, i, [], rfl, hr, hi, .cons hen hb hs (.nil t), ?_⟩
  have hnone : carried d m (.served i) = [] := by
    rw [carried, hi, Option.bind_some, FruitRequest.upsertOf_eq_none rfl]
    rfl
  rw [Machine.outputs_singleton, hnone]
  rfl

theorem Answered.snoc (h : Answered B es d screen rows) (e : FruitEvent δ) :
    Answered B (es ++ [e]) d screen ((swiped d e).toList.foldl List.eraseIdx rows) := by
  obtain ⟨es₁, v, e₁, es₂, loaded, hes, hr, hscreen, harr, hrows⟩ := h
  refine ⟨es₁, v, e₁, es₂ ++ [e], loaded, ?_, hr, hscreen, harr, ?_⟩
  · rw [hes, List.append_assoc, List.cons_append]
  · have htail : List.filterMap (swiped d) [e] = (swiped d e).toList := by
      rw [List.filterMap_cons]
      cases swiped d e with
      | none => rfl
      | some row => rfl
    rw [List.filterMap_append, List.foldl_append, htail, hrows]

theorem foldl_eraseIdx_nil (rows : List Nat) :
    rows.foldl List.eraseIdx ([] : List Fruits) = [] := by
  induction rows with
  | nil => rfl
  | cons row rows ih => exact ih

theorem Reads.step (h : Reads B es m) (hr : machine.Run B start es m) (hen : m.Enabled e)
    (hb : B m e) (hs : m.step e = some t) : Reads B (es ++ [e]) t where
  answers d screen id arrData hmem := by
    rcases answers_step hs hmem with ⟨arrData', hm, hdata⟩ | ⟨i, he, hi, hdata⟩
    · rw [hdata]
      exact (h.answers d screen id arrData' hm).snoc hen hb hs
    · subst he hdata
      exact .asked hr hen hb hs hi
  lists d := by
    rcases lists_step hs d with hnil | ⟨hscreen, hrows | harr⟩
    · exact .inl hnil
    · rw [hscreen, hrows]
      rcases h.lists d with hnil | hanswered
      · rw [hnil]
        exact .inl (foldl_eraseIdx_nil _)
      · exact .inr (hanswered.snoc e)
    · exact .inr ⟨es, m, e, [], _, rfl, hr, hscreen.symm, harr, rfl⟩

theorem reads_of_run (h : machine.Run B start es m) : Reads B es m := by
  apply h.history
  · exact fun es e u v hr hu hen hb hs => hu.step hr hen hb hs
  · exact ⟨fun _ _ _ _ hmem => absurd hmem List.not_mem_nil, fun _ => .inl rfl⟩

end

end FruitApp

end TrainingDemos.FirebasePractise
