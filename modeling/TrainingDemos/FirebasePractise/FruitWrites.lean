import TrainingDemos.LastWrites
import TrainingDemos.FirebasePractise.FruitReads

namespace TrainingDemos.FirebasePractise
set_option autoImplicit true

namespace FruitApp

section
variable {δ : Type} {m : FruitApp δ}

def writes (m : FruitApp δ) : List Upsert := m.requests.filterMap FruitRequest.upsert

/-- The event presses the button of a form, which sends these fields for this document. -/
def Presses (m : FruitApp δ) (e : FruitEvent δ) (key : String) (fields : Fields) : Prop :=
  ∃ d documentID vc, e = .press d documentID ∧ (m.devices d).form = some vc ∧
    vc.addbtnclick documentID (m.devices d).session.userID = ⟨key, fields⟩

theorem Presses.eq (h : m.Presses e key fields) :
    ∃ name uid, fields = [("name", .string name), ("created_by", .string uid)] := by
  obtain ⟨d, documentID, vc, -, -, hsent⟩ := h
  rw [SignPassdataVC.addbtnclick, Merge.mk.injEq] at hsent
  exact ⟨_, _, hsent.2.symm⟩

theorem Sends.presses (h : m.Sends e request) (hu : request.upsert = some u)
    (hf : u.2 = some fields) : m.Presses e u.1 fields := by
  cases h with
  | press hvc =>
    cases hu
    cases hf
    exact ⟨_, _, _, rfl, hvc, rfl⟩
  | swipeDelete hrow =>
    cases hu
    cases hf
  | viewWillAppear => cases hu

theorem writes_send (m : FruitApp δ) (request : FruitRequest δ) :
    (m.send request).writes = m.writes ++ request.upsert.toList := by
  have hlast : [request].filterMap FruitRequest.upsert = request.upsert.toList := by
    rw [List.filterMap_cons]
    cases request.upsert with
    | none => rfl
    | some u => rfl
  rw [writes, send, List.filterMap_append, hlast, writes]

theorem mem_writes_of_served (h : u ∈ m.served e) : u ∈ m.writes := by
  cases e with
  | served i =>
    obtain ⟨request, hi, hu⟩ := Option.bind_eq_some_iff.1 (Option.mem_toList.1 h)
    exact List.mem_filterMap.2 ⟨request, List.mem_of_getElem? hi, hu⟩
  | _ => cases h

end

section
variable {δ : Type} [DecidableEq δ] {m t : FruitApp δ} {B : FruitApp δ → FruitEvent δ → Prop}

theorem mem_served_of_carried (h : u ∈ carried d m e) : u ∈ m.served e := by
  cases e with
  | served i =>
    obtain ⟨request, hi, hu⟩ := Option.bind_eq_some_iff.1 (Option.mem_toList.1 h)
    exact Option.mem_toList.2
      (Option.bind_eq_some_iff.2 ⟨request, hi, FruitRequest.upsert_of_upsertOf hu⟩)
  | _ => cases h

theorem mem_writes_of_pending (h : u ∈ m.pending d user) : u ∈ m.writes := by
  obtain ⟨request, hm, hu⟩ := List.mem_filterMap.1 h
  exact List.mem_filterMap.2 ⟨request, hm, FruitRequest.upsert_of_laidOver hu⟩

theorem writes_carryOut (m : FruitApp δ) (d : δ) (u : Upsert) :
    (m.carryOut d u).writes = m.writes := by
  have hsame (request : FruitRequest δ) : (request.outdated d u).upsert = request.upsert := by
    cases request <;> rfl
  rw [writes, carryOut, List.filterMap_map]
  exact congrArg (List.filterMap · m.requests) (funext hsame)

theorem writes_serve (m : FruitApp δ) (request : FruitRequest δ) :
    (m.serve request).writes = m.writes := by
  cases request with
  | setData d user merge => exact writes_carryOut m d _
  | delete d user key => exact writes_carryOut m d _
  | getDocuments d screen id =>
    rw [serve, writes_send]
    exact List.append_nil _
  | documents d screen id arrData =>
    rw [serve]
    split <;> rfl

theorem writes_step (hs : m.step e = some t) (h : u ∈ t.writes) (hf : u.2 = some fields) :
    u ∈ m.writes ∨ m.Presses e u.1 fields := by
  rcases step_requests hs with ⟨i, request, -, -, ht⟩ | ⟨-, -, -, hr | ⟨request, hsend, hr⟩⟩
  · rw [ht, writes_serve] at h
    obtain ⟨request', hm, hu⟩ := List.mem_filterMap.1 h
    exact .inl (List.mem_filterMap.2 ⟨request', List.mem_of_mem_eraseIdx hm, hu⟩)
  · rw [writes, hr] at h
    exact .inl h
  · rw [writes, hr, List.filterMap_append] at h
    rcases List.mem_append.1 h with h | h
    · exact .inl h
    · obtain ⟨request', hm, hu⟩ := List.mem_filterMap.1 h
      rw [List.mem_singleton.1 hm] at hu
      exact .inr (hsend.presses hu hf)

def Pressed (m : FruitApp δ) (es : List (FruitEvent δ)) (key : String) (fields : Fields) : Prop :=
  ∃ es' e u, es' ++ [e] <+: es ∧ machine.Run (fun _ _ => True) m es' u ∧ u.Presses e key fields

theorem Pressed.eq (h : m.Pressed es key fields) :
    ∃ name uid, fields = [("name", .string name), ("created_by", .string uid)] := by
  obtain ⟨es', e, u, -, -, hp⟩ := h
  exact hp.eq

theorem Pressed.names (hf : m.Pressed es key f) (hg : m.Pressed es key g) :
    f.map Prod.fst = g.map Prod.fst := by
  obtain ⟨name, uid, rfl⟩ := hf.eq
  obtain ⟨name', uid', rfl⟩ := hg.eq
  rfl

theorem Pressed.mono (h : m.Pressed es key fields) (hp : es <+: es') :
    m.Pressed es' key fields := by
  obtain ⟨es₁, e, u, hp₁, hr, hpress⟩ := h
  exact ⟨es₁, e, u, hp₁.trans hp, hr, hpress⟩

theorem writes_pressed (h : machine.Run B start es m) :
    ∀ u ∈ m.writes, ∀ fields, u.2 = some fields → start.Pressed es u.1 fields := by
  apply h.history (J := fun es m => ∀ u ∈ m.writes, ∀ fields, u.2 = some fields →
    start.Pressed es u.1 fields)
  · intro es e m t hr hm _ _ hs u hu fields hf
    rcases writes_step hs hu hf with hu | hpress
    · exact (hm u hu fields hf).mono (List.prefix_append es [e])
    · exact ⟨es, e, m, List.prefix_rfl, hr.mono fun _ _ _ => trivial, hpress⟩
  · exact fun u hu => absurd hu List.not_mem_nil

theorem served_pressed (h : machine.Run B start es m) :
    ∀ u ∈ machine.outputs served start es, ∀ fields, u.2 = some fields →
      start.Pressed es u.1 fields := by
  apply h.forall_outputs (P := fun u : Upsert => ∀ fields, u.2 = some fields →
    start.Pressed es u.1 fields)
  intro es' v e hp hv u hu fields hf
  have hpressed := writes_pressed hv u (mem_writes_of_served hu) fields hf
  exact hpressed.mono ((List.prefix_append es' [e]).trans hp)

theorem documents_of_run (h : machine.Run B start es m) :
    m.documents = Collection.empty.overlaid (machine.outputs served start es) := by
  apply h.history (J := fun es m =>
    m.documents = Collection.empty.overlaid (machine.outputs served start es))
  · intro es e m t hr hm _ _ hs
    rw [documents_step hs, hm, hr.outputs_snoc, Collection.overlaid_append]
  · rfl

/-- The fields of the last merge of each document, unless a deletion was carried out after it. -/
def lastServed (es : List (FruitEvent δ)) : String → Option Fields :=
  (machine.outputs served start es).foldl lastMerged fun _ => none

theorem merged (h : machine.Run B start es m) :
    Merged (start.Pressed es) m.documents (lastServed es) := by
  rw [documents_of_run h]
  exact (merged_empty _).upserts (fun _ _ _ => Pressed.names) (served_pressed h)

end

end FruitApp

theorem mem_getfruit {K : String → Fields → Prop} {c : Collection} (h : Merged K c ds)
    (hK : ∀ key fields, K key fields →
      ∃ name uid, fields = [("name", .string name), ("created_by", .string uid)])
    (id : String) (row : Fruits) : row ∈ getfruit id c ↔ row.created_by = id ∧
      row.created_date = none ∧
        ds row.key = some [("name", .string row.name), ("created_by", .string id)] := by
  apply Iff.intro
  · intro hrow
    obtain ⟨⟨key, d⟩, hmem, hrow⟩ := List.mem_map.1 hrow
    obtain ⟨hd, hby⟩ := Collection.mem_whereField.1 hmem
    rw [h.doc] at hd
    obtain ⟨fields, hfields, hd⟩ := Option.map_eq_some_iff.1 hd
    obtain ⟨name, uid, hf⟩ := hK key fields (h.known key fields hfields)
    subst hf hd hrow
    cases hby
    exact ⟨rfl, rfl, hfields⟩
  · intro hrow
    obtain ⟨key, name, created_by, created_date⟩ := row
    obtain ⟨hby, hdate, hds⟩ := hrow
    dsimp only at hby hdate hds
    subst hby hdate
    have hd := h.doc key
    rw [hds, Option.map_some] at hd
    exact List.mem_map.2 ⟨_, Collection.mem_whereField.2 ⟨hd, rfl⟩, rfl⟩

section
variable {δ : Type} [DecidableEq δ] {m : FruitApp δ}

/-- Fruits under any order of presses, deletions and answers on any number of devices: a document is
whole what a single press sent, namely the merge that the server carried out last, even after a
deletion, and the query of a user's home screen finds what those last merges say. -/
theorem fruits_last_merge
    (h : FruitApp.machine.Run (fun _ _ => True) (FruitApp.start : FruitApp δ) es m) :
    (∀ key, m.documents.doc key = (FruitApp.lastServed es key).map Document.ofFields) ∧
    (∀ key fields, FruitApp.lastServed es key = some fields →
      FruitApp.start.Pressed es key fields) ∧
    ∀ id row, row ∈ getfruit id m.documents ↔ row.created_by = id ∧ row.created_date = none ∧
      FruitApp.lastServed es row.key =
        some [("name", .string row.name), ("created_by", .string id)] := by
  have hm := FruitApp.merged h
  exact ⟨hm.doc, hm.known, mem_getfruit hm fun _ _ => FruitApp.Pressed.eq⟩

end

def editedAfterDeletion : List (FruitEvent Bool) := [
  .auth false .launch, .auth false (.clickonsignup "Ann" "a@b" "secret"),
  .auth false (.completed 0 ⟨none, "u1", "Ann", "a@b"⟩),
  .auth false (.completed 0 ⟨none, "", "", ""⟩), .addbtnclick false,
  .input false (.editText "apple"), .press false "f1", .served 0, .pop false,
  .viewWillAppear false, .served 0, .served 0, .swipeEdit false 0,
  .auth true .launch, .auth true (.loginbtnclick "a@b" "secret"),
  .auth true (.completed 0 ⟨none, "u1", "", ""⟩), .viewWillAppear true, .served 0, .served 0,
  .swipeDelete true 0, .input false (.editText "pear"), .press false "f2", .served 0, .served 0]

theorem fruits_last_merge_edited_after_deletion :
    ∃ m, FruitApp.machine.Run (fun _ _ => True) FruitApp.start editedAfterDeletion m ∧
      FruitApp.lastServed editedAfterDeletion "f1" =
        some [("name", .string "pear"), ("created_by", .string "u1")] := by
  obtain ⟨m, hr, hp⟩ := FruitApp.machine.run_of_exec (fun _ _ => True) FruitApp.start
    editedAfterDeletion
    (fun m => (getfruit "u1" m.documents).map (fun row => (row.key, row.name)) == [("f1", "pear")])
    (by decide +kernel)
  obtain ⟨-, -, hrows⟩ := fruits_last_merge hr
  have hmem : ("f1", "pear") ∈ (getfruit "u1" m.documents).map fun row => (row.key, row.name) := by
    rw [beq_iff_eq.1 hp]
    exact List.mem_singleton_self _
  obtain ⟨row, hrow, he⟩ := List.mem_map.1 hmem
  obtain ⟨-, -, hlast⟩ := (hrows "u1" row).1 hrow
  obtain ⟨hkey, hname⟩ := Prod.mk.inj he
  rw [hkey, hname] at hlast
  exact ⟨m, hr, hlast⟩

end TrainingDemos.FirebasePractise
