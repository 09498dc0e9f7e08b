import TrainingDemos.FirebasePractise.Fruits
import TrainingDemos.FirebasePractise.Uploads

namespace TrainingDemos.FirebasePractise
set_option autoImplicit true

def Write.key : Write → String
  | .setData key _ => key
  | .updateData key _ => key

/-- A form as it is opened to add a document, and the requests that it sends. -/
structure AddForm (Form Input URL ω : Type) where
  appear : Int → Option Form
  input : Form → Input → Option Form
  uploading : Form → Bool
  direct : Form → Option URL
  uploaded : String → Int → Option URL → Form → Option ω
  key : ω → String
  perform : Collection → ω → Collection

/-- `passDataVC` or `GetDataVc`. -/
def PictureScreens.addForm (P : PictureScreens Model Form Input URL) :
    AddForm Form Input URL Write where
  appear now := P.appear (P.init now)
  input := P.input
  uploading := P.uploading
  direct := P.direct
  uploaded := P.uploaded
  key := Write.key
  perform := Collection.perform

/-- `SignPassdataVC`, which uploads nothing. -/
def fruitAddForm (userID : String) : AddForm SignPassdataVC SignPassdataVC.Input Empty Merge where
  appear _ := some (SignPassdataVC.instantiate none).viewWillAppear
  input vc i := some (vc.input i)
  uploading _ := false
  direct _ := none
  uploaded documentID _ _ vc := some (vc.addbtnclick documentID userID)
  key := Merge.key
  perform documents merge := documents.mergeData merge.key merge.fields

inductive Visit.Status where
  | shown
  | left
  | popped
  deriving DecidableEq

/-- A visit to an add form, with the number of uploads and the writes that are on their way. -/
structure Visit (Form ω : Type) where
  documents : Collection
  form : Form
  status : Visit.Status
  uploads : Nat
  writes : List ω
  ids : List String

inductive Visit.Event (Input URL : Type) where
  | input (i : Input)
  | press (documentID : String) (now : Int)
  /-- An upload ends, with a url if it succeeds, and its completion runs. -/
  | uploaded (url : Option URL) (documentID : String) (now : Int)
  | answered (i : Nat) (succeeds : Bool)
  | leave

def Visit.Event.pressed : Event Input URL → Bool
  | .press _ _ => true
  | _ => false

def Visit.Event.written : Event Input URL → Bool
  | .answered _ succeeds => succeeds
  | _ => false

namespace Visit

def start (documents : Collection) (vc : Form) : Visit Form ω :=
  ⟨documents, vc, .shown, 0, [], documents.ids⟩

/-- Requests go on when the form is gone. -/
def Enabled (s : Visit Form ω) : Event Input URL → Prop
  | .input _ | .leave => s.status = .shown
  | .press documentID _ => s.status = .shown ∧ documentID ∉ s.ids
  | .uploaded _ documentID _ => 0 < s.uploads ∧ documentID ∉ s.ids
  | .answered i _ => i < s.writes.length

instance (s : Visit Form ω) : (e : Event Input URL) → Decidable (s.Enabled e)
  | .input _ | .leave => inferInstanceAs (Decidable (_ = _))
  | .press _ _ => inferInstanceAs (Decidable (_ = _ ∧ _ ∉ _))
  | .uploaded _ _ _ => inferInstanceAs (Decidable (_ < _ ∧ _ ∉ _))
  | .answered _ _ => inferInstanceAs (Decidable (_ < _))

def send (s : Visit Form ω) (documentID : String) (write : ω) : Visit Form ω :=
  { s with writes := s.writes ++ [write], ids := documentID :: s.ids }

def step (A : AddForm Form Input URL ω) (s : Visit Form ω) :
    Event Input URL → Option (Visit Form ω)
  | .input i => (A.input s.form i).map fun vc => { s with form := vc }
  | .press documentID now =>
    if A.uploading s.form then some { s with uploads := s.uploads + 1 }
    else (A.uploaded documentID now (A.direct s.form) s.form).map (s.send documentID)
  | .uploaded url documentID now =>
    (A.uploaded documentID now url s.form).map
      ({ s with uploads := s.uploads - 1 }.send documentID)
  | .answered i succeeds => s.writes[i]?.map fun write =>
    let s := { s with writes := s.writes.eraseIdx i }
    if succeeds then { s with
      documents := A.perform s.documents write
      status := if s.status = .shown then .popped else s.status }
    else s
  | .leave => some { s with status := .left }

end Visit

def AddForm.machine (A : AddForm Form Input URL ω) :
    Machine (Visit Form ω) (Visit.Event Input URL) where
  enabled := Visit.Enabled
  step := Visit.step A

instance (A : AddForm Form Input URL ω) (s : Visit Form ω) (e : Visit.Event Input URL) :
    Decidable (A.machine.enabled s e) :=
  inferInstanceAs (Decidable (s.Enabled e))

/-- A request creates the document of the id wherever there is none. -/
def AddForm.Creates (A : AddForm Form Input URL ω) (documentID : String) (write : ω) : Prop :=
  A.key write = documentID ∧
    ∀ c : Collection, documentID ∉ c.ids → (A.perform c write).ids = c.ids ++ [documentID]

/-- The form stays one that adds, and each completion sends off a new document. -/
structure AddForm.Lawful (A : AddForm Form Input URL ω) (adds : Form → Prop) : Prop where
  appear : ∀ now vc, A.appear now = some vc → adds vc
  input : ∀ vc i vc', adds vc → A.input vc i = some vc' → adds vc'
  uploaded : ∀ documentID now url vc, adds vc →
    ∃ write, A.uploaded documentID now url vc = some write ∧ A.Creates documentID write

theorem PictureScreens.Lawful.addForm {P : PictureScreens Model Form Input URL} (h : P.Lawful W) :
    P.addForm.Lawful fun vc => P.adds (P.data vc) = true where
  appear now vc ha := by
    rw [h.appear _ vc ha]
    exact h.init now
  input vc i vc' hadds hi := by
    rw [h.input vc i vc' hi]
    exact hadds
  uploaded documentID now url vc hadds := by
    obtain ⟨fields, hw, -⟩ := h.created documentID now url vc hadds
    exact ⟨_, hw, rfl, fun c hid => Collection.ids_setData_of_not_mem hid _⟩

theorem fruitAddForm_lawful (userID : String) :
    (fruitAddForm userID).Lawful fun vc => vc.data = none where
  appear now vc ha := by
    cases ha
    exact SignPassdataVC.viewWillAppear_data _
  input vc i vc' hadds hi := by
    cases hi
    exact (SignPassdataVC.input_data vc i).trans hadds
  uploaded documentID now url vc hadds := by
    have hkey : (vc.addbtnclick documentID userID).key = documentID := by
      rw [SignPassdataVC.addbtnclick, hadds]
    refine ⟨_, rfl, hkey, ?_⟩
    intro c hid
    show (c.mergeData (vc.addbtnclick documentID userID).key _).ids = c.ids ++ [documentID]
    rw [hkey]
    exact Collection.ids_setData_of_not_mem hid _

/-- Every write on its way creates a document of its own. -/
structure Visit.Fresh (A : AddForm Form Input URL ω) (adds : Form → Prop) (s : Visit Form ω) :
    Prop where
  form : adds s.form
  known : ∀ key ∈ s.documents.ids, key ∈ s.ids
  writes : ∀ write ∈ s.writes, A.key write ∈ s.ids ∧ A.key write ∉ s.documents.ids ∧
    A.Creates (A.key write) write
  distinct : (s.writes.map A.key).Nodup

section
variable {A : AddForm Form Input URL ω} {adds : Form → Prop} {s t : Visit Form ω}

theorem Visit.fresh_start (documents : Collection) (h : adds vc) :
    Fresh A adds (start documents vc) :=
  ⟨h, fun _ hk => hk, nofun, List.nodup_nil⟩

theorem Visit.Fresh.send (h : Fresh A adds s) (hid : documentID ∉ s.ids)
    (hw : A.Creates documentID write) : Fresh A adds (s.send documentID write) where
  form := h.form
  known key hk := List.mem_cons_of_mem _ (h.known key hk)
  writes write' hm := by
    rcases List.mem_append.1 hm with hm | hm
    · obtain ⟨hk, hnew⟩ := h.writes write' hm
      exact ⟨List.mem_cons_of_mem _ hk, hnew⟩
    · cases List.mem_singleton.1 hm
      rw [hw.1]
      exact ⟨List.mem_cons_self, fun hm => hid (h.known _ hm), hw⟩
  distinct := by
    show ((s.writes ++ [write]).map A.key).Nodup
    rw [List.map_append, List.map_singleton, ← List.concat_eq_append, hw.1]
    apply h.distinct.concat
    intro hm
    obtain ⟨write', hm, hk⟩ := List.mem_map.1 hm
    exact hid (hk ▸ (h.writes write' hm).1)

theorem Visit.Fresh.with_uploads (h : Fresh A adds s) (status : Visit.Status) (uploads : Nat) :
    Fresh A adds { s with status := status, uploads := uploads } :=
  ⟨h.form, h.known, h.writes, h.distinct⟩

theorem Visit.Fresh.answered (h : Fresh A adds s) (hr : s.writes[i]? = some write) :
    Fresh A adds { s with writes := s.writes.eraseIdx i } ∧
      (A.perform s.documents write).ids = s.documents.ids ++ [A.key write] ∧
      Fresh A adds { s with
        writes := s.writes.eraseIdx i
        documents := A.perform s.documents write } := by
  obtain ⟨hk, hnew, hw⟩ := h.writes write (List.mem_of_getElem? hr)
  have hids := hw.2 s.documents hnew
  have hsub : s.writes.eraseIdx i |>.Sublist s.writes := List.eraseIdx_sublist _ _
  have hdistinct : ((s.writes.eraseIdx i).map A.key).Nodup := h.distinct.sublist (hsub.map A.key)
  refine ⟨⟨h.form, h.known, fun write' hm => h.writes write' (hsub.mem hm), hdistinct⟩, hids, ?_⟩
  constructor
  · exact h.form
  · intro key hm
    rw [hids] at hm
    rcases List.mem_append.1 hm with hm | hm
    · exact h.known key hm
    · cases List.mem_singleton.1 hm
      exact hk
  · intro write' hm
    obtain ⟨hk', hnew', hw'⟩ := h.writes write' (hsub.mem hm)
    refine ⟨hk', ?_, hw'⟩
    rw [hids, List.mem_append, List.mem_singleton, not_or]
    refine ⟨hnew', ?_⟩
    intro he
    have hp := ((perm_cons_eraseIdx hr).map A.key).nodup_iff.1 h.distinct
    rw [List.map_cons, List.nodup_cons] at hp
    exact hp.1 (he ▸ List.mem_map_of_mem hm)
  · exact hdistinct

theorem Visit.Fresh.step (hA : A.Lawful adds) (h : Fresh A adds s) (hen : s.Enabled e)
    (hs : Visit.step A s e = some t) : Fresh A adds t ∧
      t.documents.ids.length = s.documents.ids.length + (if e.written then 1 else 0) ∧
      (t.status = .popped → s.status = .popped ∨ e.written = true) := by
  cases e with
  | input i =>
    obtain ⟨vc, hi, ht⟩ := Option.map_eq_some_iff.1 hs
    cases ht
    have hform : adds vc := hA.input _ i vc h.form hi
    exact ⟨⟨hform, h.known, h.writes, h.distinct⟩, rfl, .inl⟩
  | press documentID now =>
    rw [Visit.step] at hs
    split at hs
    · cases hs
      exact ⟨h.with_uploads _ _, rfl, .inl⟩
    · obtain ⟨write, hw, ht⟩ := Option.map_eq_some_iff.1 hs
      cases ht
      obtain ⟨write', hw', hc⟩ := hA.uploaded documentID now (A.direct s.form) s.form h.form
      rw [hw] at hw'
      cases hw'
      exact ⟨h.send hen.2 hc, rfl, .inl⟩
  | uploaded url documentID now =>
    obtain ⟨write, hw, ht⟩ := Option.map_eq_some_iff.1 hs
    cases ht
    obtain ⟨write', hw', hc⟩ := hA.uploaded documentID now url s.form h.form
    rw [hw] at hw'
    cases hw'
    have hdone : Fresh A adds { s with uploads := s.uploads - 1 } := h.with_uploads _ _
    exact ⟨hdone.send hen.2 hc, rfl, .inl⟩
  | answered i succeeds =>
    obtain ⟨write, hr, ht⟩ := Option.map_eq_some_iff.1 hs
    obtain ⟨hfailed, hids, hdone⟩ := h.answered hr
    cases succeeds with
    | false =>
      cases ht
      exact ⟨hfailed, rfl, .inl⟩
    | true =>
      cases ht
      refine ⟨hdone.with_uploads _ _, ?_, fun _ => .inr rfl⟩
      show (A.perform s.documents write).ids.length = s.documents.ids.length + 1
      rw [hids, List.length_append, List.length_singleton]
  | leave =>
    cases hs
    exact ⟨h.with_uploads _ _, rfl, nofun⟩

theorem Visit.Fresh.run (hA : A.Lawful adds) (hr : A.machine.Run (fun _ _ => True) s es t)
    (h : Fresh A adds s) :
    t.documents.ids.length = s.documents.ids.length + es.countP Event.written ∧
      (t.status = .popped → s.status = .popped ∨ 0 < es.countP Event.written) := by
  induction hr with
  | nil s => exact ⟨rfl, .inl⟩
  | @cons s e t es u hen hb hst hr ih =>
    obtain ⟨ht, hlen, hpop⟩ := h.step hA hen hst
    obtain ⟨hlen', hpop'⟩ := ih ht
    rw [List.countP_cons]
    constructor
    · rw [hlen', hlen]
      omega
    · intro hu
      rcases hpop' hu with hp | hp
      · rcases hpop hp with hp | hw
        · exact .inl hp
        · rw [if_pos hw]
          exact .inr (by omega)
      · exact .inr (by omega)

/-- In every visit, with any presses, inputs and outcomes in any order: at most one document is
created, and exactly one if a success callback pops the form, exactly if at most one write is
answered with success. -/
def AddForm.CreatesOneWhen (A : AddForm Form Input URL ω) (documents : Collection) : Prop :=
  ∀ now vc es s, A.appear now = some vc →
    A.machine.Run (fun _ _ => True) (Visit.start documents vc) es s →
    (s.documents.ids.length ≤ documents.ids.length + 1 ∧
      (s.status = .popped → s.documents.ids.length = documents.ids.length + 1) ↔
      es.countP Visit.Event.written ≤ 1)

theorem AddForm.Lawful.createsOneWhen (hA : A.Lawful adds) (documents : Collection) :
    A.CreatesOneWhen documents := by
  intro now vc es s ha hr
  obtain ⟨hlen, hpop⟩ := (Visit.fresh_start documents (hA.appear now vc ha)).run hA hr
  have hlen : s.documents.ids.length = documents.ids.length + es.countP Visit.Event.written := hlen
  constructor
  · intro h
    have hle := h.1
    omega
  · intro h
    refine ⟨by omega, ?_⟩
    intro hp
    have hpos := (hpop hp).resolve_left nofun
    omega

theorem Visit.sent_step (hen : s.Enabled e) (hs : Visit.step A s e = some t) :
    t.uploads + t.writes.length + (if e.written then 1 else 0) ≤
      s.uploads + s.writes.length + (if e.pressed then 1 else 0) := by
  cases e with
  | input i =>
    obtain ⟨vc, -, ht⟩ := Option.map_eq_some_iff.1 hs
    cases ht
    exact le_rfl
  | press documentID now =>
    rw [Visit.step] at hs
    split at hs
    · cases hs
      show s.uploads + 1 + s.writes.length + 0 ≤ s.uploads + s.writes.length + 1
      omega
    · obtain ⟨write, -, ht⟩ := Option.map_eq_some_iff.1 hs
      cases ht
      show s.uploads + (s.writes ++ [write]).length + 0 ≤ s.uploads + s.writes.length + 1
      rw [List.length_append, List.length_singleton]
      omega
  | uploaded url documentID now =>
    obtain ⟨write, -, ht⟩ := Option.map_eq_some_iff.1 hs
    cases ht
    have hpos : 0 < s.uploads := hen.1
    show s.uploads - 1 + (s.writes ++ [write]).length + 0 ≤ s.uploads + s.writes.length + 0
    rw [List.length_append, List.length_singleton]
    omega
  | answered i succeeds =>
    obtain ⟨write, hr, ht⟩ := Option.map_eq_some_iff.1 hs
    have hi := (List.getElem?_eq_some_iff.1 hr).1
    have hlen := List.length_eraseIdx_of_lt hi
    have ht' : t.uploads = s.uploads ∧ t.writes = s.writes.eraseIdx i := by
      cases succeeds with
      | false =>
        cases ht
        exact ⟨rfl, rfl⟩
      | true =>
        cases ht
        exact ⟨rfl, rfl⟩
    have hle : (if (Event.answered i succeeds : Event Input URL).written then 1 else 0) ≤ 1 := by
      split
      · exact le_rfl
      · exact Nat.zero_le 1
    rw [ht'.1, ht'.2, hlen]
    omega
  | leave =>
    cases hs
    exact le_rfl

theorem Visit.written_le_pressed (hr : A.machine.Run (fun _ _ => True) s es t) :
    t.uploads + t.writes.length + es.countP Event.written ≤
      s.uploads + s.writes.length + es.countP Event.pressed := by
  induction hr with
  | nil s => exact le_rfl
  | @cons s e t es u hen hb hst hr ih =>
    have hstep := Visit.sent_step hen hst
    rw [List.countP_cons, List.countP_cons]
    omega

theorem AddForm.CreatesOneWhen.of_press (hA : A.CreatesOneWhen documents)
    (ha : A.appear now = some vc)
    (hr : A.machine.Run (fun _ _ => True) (Visit.start documents vc) es s)
    (hp : es.countP Visit.Event.pressed ≤ 1) :
    s.documents.ids.length ≤ documents.ids.length + 1 ∧
      (s.status = .popped → s.documents.ids.length = documents.ids.length + 1) := by
  have hle := Visit.written_le_pressed hr
  have hstart : (Visit.start documents vc : Visit Form ω).uploads +
      (Visit.start documents vc : Visit Form ω).writes.length = 0 := rfl
  exact (hA now vc es s ha hr).2 (by omega)

end

theorem one_document_iff (C : Cloud Image URL) (userID : String)
    (details students fruits : Collection) :
    (detailPictures C).addForm.CreatesOneWhen details ∧
      (studentPictures C).addForm.CreatesOneWhen students ∧
      (fruitAddForm userID).CreatesOneWhen fruits := by
  refine ⟨?_, ?_, ?_⟩
  · exact (detailPictures_lawful C).addForm.createsOneWhen details
  · exact (studentPictures_lawful C).addForm.createsOneWhen students
  · exact (fruitAddForm_lawful userID).createsOneWhen fruits

def pressedOnce : List (Visit.Event (PassDataVC.Input Bool) { s : String // s ≠ "" }) := [
  .input (.editText .nameTxtfd "Ann"), .press "a" 0, .answered 0 true]

theorem one_document_pressed : ∃ vc s,
    (detailPictures Cloud.device).addForm.appear 0 = some vc ∧
      (detailPictures Cloud.device).addForm.machine.Run (fun _ _ => True)
        (Visit.start .empty vc) pressedOnce s ∧
      s.status = .popped ∧ s.documents.ids.length = Collection.empty.ids.length + 1 := by
  obtain ⟨s, hr, hs⟩ := Machine.run_of_exec (detailPictures Cloud.device).addForm.machine
    (fun _ _ => True)
    (Visit.start .empty (PassDataVC.instantiate Cloud.device (Detail.init 0)).viewDidLoad)
    pressedOnce (fun s => decide (s.status = .popped)) (by decide +kernel)
  have hpop : s.status = .popped := of_decide_eq_true hs
  have hone := ((one_document_iff Cloud.device "u" .empty .empty .empty).1 0 _ pressedOnce s rfl
    hr).2 (by decide)
  exact ⟨_, s, rfl, hr, hpop, hone.2 hpop⟩

def pressedTwice : List (Visit.Event (PassDataVC.Input Bool) { s : String // s ≠ "" }) := [
  .input (.editText .nameTxtfd "Ann"), .press "a" 0, .press "b" 0, .answered 0 true,
  .answered 0 true]

theorem pressed_twice_creates_two : ∃ vc s,
    (detailPictures Cloud.device).addForm.appear 0 = some vc ∧
      (detailPictures Cloud.device).addForm.machine.Run (fun _ _ => True)
        (Visit.start .empty vc) pressedTwice s ∧
      ¬ (s.documents.ids.length ≤ Collection.empty.ids.length + 1) := by
  obtain ⟨s, hr, hs⟩ := Machine.run_of_exec (detailPictures Cloud.device).addForm.machine
    (fun _ _ => True)
    (Visit.start .empty (PassDataVC.instantiate Cloud.device (Detail.init 0)).viewDidLoad)
    pressedTwice (fun s => decide (¬ (s.documents.ids.length ≤ Collection.empty.ids.length + 1)))
    (by decide +kernel)
  exact ⟨_, s, rfl, hr, of_decide_eq_true hs⟩

end TrainingDemos.FirebasePractise
