import TrainingDemos.LastWrites
import TrainingDemos.Refinements
import TrainingDemos.FirebasePractise.RowTargeting

namespace TrainingDemos.FirebasePractise
set_option autoImplicit true

structure Fleet (Model Form : Type) where
  documents : Collection
  inFlight : List StoreRequest
  rows : Nat → List Model
  form : Nat → Option Form

inductive FleetEvent (Input URL : Type) where
  | device (i : Nat) (e : Event Input URL)
  | answer (k : Nat) (succeeds : Bool)

namespace Fleet
variable {Model Form Input URL : Type}

def launch : Fleet Model Form := ⟨Collection.empty, [], fun _ => [], fun _ => none⟩

def app (s : Fleet Model Form) (i : Nat) : App Model Form := ⟨s.documents, s.rows i, s.form i⟩

end Fleet

/-- The event on the device itself, where no request has been answered yet. -/
def Event.unanswered : Event Input URL → Event Input URL
  | .swipeDelete row _ => .swipeDelete row false
  | .press answers => .press { answers with succeeds := false }
  | e => e

def App.sends (S : Screens Model Form Input URL) (s : App Model Form) :
    Event Input URL → List StoreRequest
  | .swipeDelete row _ => (s.rows[row]?).toList.map fun data => .delete (S.key data)
  | .press answers => (s.form.bind (S.addbtnclick answers)).toList.map .write
  | _ => []

namespace Screens
variable {Model Form Input URL : Type}

/-- A fetch is taken to show what the server has, without the device's writes on their way. -/
def fleet (S : Screens Model Form Input URL) :
    Machine (Fleet Model Form) (FleetEvent Input URL) where
  enabled
    | s, .device i e => (s.app i).Enabled e
    | s, .answer k _ => k < s.inFlight.length
  step
    | s, .device i e => do
      let t ← App.step S (s.app i) e.unanswered
      some { s with
        inFlight := s.inFlight ++ (s.app i).sends S e
        rows := Function.update s.rows i t.rows
        form := Function.update s.form i t.form }
    | s, .answer k succeeds => do
      let request ← s.inFlight[k]?
      some { s with
        documents := if succeeds then s.documents.answer request else s.documents
        inFlight := s.inFlight.eraseIdx k }

instance (S : Screens Model Form Input URL) (s : Fleet Model Form) :
    (e : FleetEvent Input URL) → Decidable (S.fleet.enabled s e)
  | .device i e => inferInstanceAs (Decidable ((s.app i).Enabled e))
  | .answer _ _ => inferInstanceAs (Decidable (_ < _))

def UpdatesAll (S : Screens Model Form Input URL) (names : List String) : Prop :=
  ∀ answers vc write, S.addbtnclick answers vc = some write →
    (StoreRequest.write write).Writes names

end Screens

def Fleet.succeeded (s : Fleet Model Form) : FleetEvent Input URL → List StoreRequest
  | .answer k true => (s.inFlight[k]?).toList
  | _ => []

def studentFields : List String := ["name", "stdid", "board", "time", "key"]

def detailFields : List String := ["name", "age", "gender", "url", "marks"]

theorem studentScreens_updatesAll (C : Cloud Image URL) :
    (studentScreens C).UpdatesAll studentFields := by
  intro answers vc write h
  have h : vc.addbtnclick C answers = write := Option.some.inj h
  rw [GetDataVc.addbtnclick] at h
  split at h
  · cases h
    rfl
  · cases h
    trivial

theorem detailScreens_updatesAll (C : Cloud Image URL) :
    (detailScreens C).UpdatesAll detailFields := by
  intro answers vc write h
  have h : vc.addbtnclick C answers = some write := h
  rw [PassDataVC.addbtnclick] at h
  split at h
  · split at h
    · obtain ⟨url, -, hw⟩ := Option.bind_eq_some_iff.1 h
      cases hw
      rfl
    · obtain ⟨url, -, hw⟩ := Option.bind_eq_some_iff.1 h
      cases hw
      rfl
  · cases h
    trivial

section
variable {S : Screens Model Form Input URL} {s t : Fleet Model Form}

theorem sends_writes (hS : S.UpdatesAll names) (s : App Model Form) (e : Event Input URL) :
    ∀ request ∈ s.sends S e, request.Writes names := by
  intro request hr
  cases e with
  | swipeDelete row succeeds =>
    obtain ⟨data, -, rfl⟩ := List.mem_map.1 hr
    trivial
  | press answers =>
    obtain ⟨write, hw, rfl⟩ := List.mem_map.1 hr
    obtain ⟨vc, -, hw⟩ := Option.bind_eq_some_iff.1 (Option.mem_toList.1 hw)
    exact hS answers vc write hw
  | _ => cases hr

def Complete (names : List String) (s : Fleet Model Form) : Prop :=
  ∀ request ∈ s.inFlight, request.Writes names

theorem fleet_step (hS : S.UpdatesAll names) (h : Complete names s)
    (hs : S.fleet.step s e = some t) : Complete names t ∧
      t.documents = (s.succeeded e).foldl Collection.answer s.documents ∧
      ∀ request ∈ s.succeeded e, request.Writes names := by
  cases e with
  | device i e =>
    obtain ⟨u, -, ht⟩ := Option.bind_eq_some_iff.1 hs
    cases ht
    refine ⟨?_, rfl, fun request hr => absurd hr List.not_mem_nil⟩
    intro request hr
    rcases List.mem_append.1 hr with hr | hr
    · exact h request hr
    · exact sends_writes hS (s.app i) e request hr
  | answer k succeeds =>
    obtain ⟨request, hk, ht⟩ := Option.bind_eq_some_iff.1 hs
    cases ht
    refine ⟨fun r hr => h r (List.mem_of_mem_eraseIdx hr), ?_, ?_⟩
    · cases succeeds with
      | true =>
        simp only [Fleet.succeeded, hk]
        rfl
      | false => rfl
    · intro r hr
      cases succeeds with
      | true =>
        simp only [Fleet.succeeded, hk] at hr
        exact h r (List.mem_of_getElem? (hk.trans (congrArg some (List.mem_singleton.1 hr).symm)))
      | false => cases hr

theorem fleet_run (hS : S.UpdatesAll names) (h : S.fleet.Run (fun _ _ => True) s es t)
    (hc : Complete names s) (hrs : Registered names s.documents rs) : ∃ requests,
      S.fleet.Labelled (fun s e as => as = s.succeeded e) s es requests ∧
        Registered names t.documents (requests.foldl Registers.answer rs) := by
  induction h generalizing rs with
  | nil s => exact ⟨[], .nil s, hrs⟩
  | cons hen hb hs hr ih =>
    obtain ⟨hc', hdocs, hw⟩ := fleet_step hS hc hs
    have hrs' := hrs.answers hw
    rw [← hdocs] at hrs'
    obtain ⟨requests, hl, hregistered⟩ := ih hc' hrs'
    refine ⟨_, .cons rfl hs hl, ?_⟩
    rw [List.foldl_append]
    exact hregistered

theorem Screens.registers_of_run (hS : S.UpdatesAll names)
    (h : S.fleet.Run (fun _ _ => True) Fleet.launch es s) :
    ∃ requests, S.fleet.Labelled (fun s e as => as = s.succeeded e) Fleet.launch es requests ∧
      ∀ key, s.documents.doc key =
        (requests.foldl Registers.answer (fun _ => none) key).map Register.document := by
  have hc : Complete names (Fleet.launch : Fleet Model Form) :=
    fun request hr => absurd hr List.not_mem_nil
  obtain ⟨requests, hl, hregistered⟩ := fleet_run hS h hc (registered_empty names)
  exact ⟨requests, hl, hregistered.doc⟩

end

/-- Each stored document is as created, overwritten by the one update that arrived last. -/
theorem last_write_wins (C : Cloud Image URL) :
    (∀ es s, (studentScreens C).fleet.Run (fun _ _ => True) Fleet.launch es s →
      ∃ requests, (studentScreens C).fleet.Labelled (fun s e as => as = s.succeeded e)
          Fleet.launch es requests ∧
        ∀ key, s.documents.doc key =
          (requests.foldl Registers.answer (fun _ => none) key).map Register.document) ∧
    ∀ es s, (detailScreens C).fleet.Run (fun _ _ => True) Fleet.launch es s →
      ∃ requests, (detailScreens C).fleet.Labelled (fun s e as => as = s.succeeded e)
          Fleet.launch es requests ∧
        ∀ key, s.documents.doc key =
          (requests.foldl Registers.answer (fun _ => none) key).map Register.document :=
  ⟨fun _ _ h => Screens.registers_of_run (studentScreens_updatesAll C) h,
    fun _ _ h => Screens.registers_of_run (detailScreens_updatesAll C) h⟩

/-- Two updates of one student arrive in the other order. -/
def editedTwice : List (FleetEvent (GetDataVc.Input Bool) { s : String // s ≠ "" }) := [
  .device 0 (.clickAdd 0), .device 0 (.input (.editName "Ann")),
  .device 0 (.press (.device "s1")), .answer 0 true,
  .device 1 (.fetched fun _ => 1), .device 2 (.fetched fun _ => 1),
  .device 1 (.swipeEdit 0), .device 2 (.swipeEdit 0),
  .device 1 (.input (.editName "Bob")), .device 1 (.press (.device "s2")),
  .device 2 (.input .std10click), .device 2 (.press (.device "s3")),
  .answer 1 true, .answer 0 true]

theorem last_write_wins_edited_twice : ∃ s requests,
    (studentScreens Cloud.device).fleet.Run (fun _ _ => True) Fleet.launch editedTwice s ∧
    (retrivealldata (fun _ => 2) s.documents).map (fun m => (m.name, m.board)) = [("Bob", "")] ∧
    ∀ key, s.documents.doc key =
      (List.foldl Registers.answer (fun _ => none) requests key).map Register.document := by
  obtain ⟨s, hr, hs⟩ := Machine.run_of_exec (studentScreens Cloud.device).fleet (fun _ _ => True)
    Fleet.launch editedTwice (fun s => decide ((retrivealldata (fun _ => 2) s.documents).map
      (fun m => (m.name, m.board)) = [("Bob", "")])) (by decide +kernel)
  obtain ⟨requests, -, hdoc⟩ := (last_write_wins Cloud.device).1 _ s hr
  exact ⟨s, requests, hr, of_decide_eq_true hs, hdoc⟩

end TrainingDemos.FirebasePractise
