import TrainingDemos.Transitions
import TrainingDemos.Loops
import TrainingDemos.FirebasePractise.Forms

namespace TrainingDemos.FirebasePractise
set_option autoImplicit true

/-- A list screen over a collection, and the form that it opens on a row or blank. -/
structure Screens (Model Form Input URL : Type) where
  init : Int → Model
  key : Model → String
  ofDocument : Int → String × Document → Model
  /-- The rows shown after a fetch, with the clock readings made while decoding. -/
  fetch : (Nat → Int) → Collection → List Model
  appear : Model → Option Form
  input : Form → Input → Option Form
  addbtnclick : Press URL → Form → Option Write

/-- `MainDataVc` and `GetDataVc`. -/
def studentScreens (C : Cloud Image URL) :
    Screens Student (GetDataVc Image) (GetDataVc.Input Image) URL where
  init := Student.init
  key := Student.key
  ofDocument := studentOfDocument
  fetch := retrivealldata
  appear data := some (GetDataVc.instantiate C data).viewWillAppear
  input vc i := some (vc.input i)
  addbtnclick press vc := some (vc.addbtnclick C press)

/-- `ViewController` and `passDataVC`. -/
def detailScreens (C : Cloud Image URL) :
    Screens Detail (PassDataVC Image) (PassDataVC.Input Image) URL where
  init := Detail.init
  key := Detail.key
  ofDocument := detailOfDocument
  fetch := getAlldetail
  appear data := (PassDataVC.instantiate C data).viewDidLoad.viewWillAppear C
  input vc i := vc.input C i
  addbtnclick press vc := vc.addbtnclick C press

structure App (Model Form : Type) where
  documents : Collection
  rows : List Model
  form : Option Form

inductive Event (Input URL : Type) where
  | fetched (now : Nat → Int)
  | clickAdd (now : Int)
  | swipeEdit (row : Nat)
  | swipeDelete (row : Nat) (succeeds : Bool)
  | input (i : Input)
  | press (answers : Press URL)
  | pop

namespace App

def launch : App Model Form := ⟨Collection.empty, [], none⟩

/-- The list is covered while a form is open, and `document()` makes up ids that are not in use. -/
def Enabled (s : App Model Form) : Event Input URL → Prop
  | .fetched _ => True
  | .clickAdd _ => s.form.isNone
  | .swipeEdit row | .swipeDelete row _ => s.form.isNone ∧ row < s.rows.length
  | .input _ | .pop => s.form.isSome
  | .press answers => s.form.isSome ∧ answers.documentID ∉ s.documents.ids

instance (s : App Model Form) : (e : Event Input URL) → Decidable (s.Enabled e)
  | .fetched _ => inferInstanceAs (Decidable True)
  | .clickAdd _ => inferInstanceAs (Decidable (s.form.isNone = true))
  | .swipeEdit row | .swipeDelete row _ =>
    inferInstanceAs (Decidable (s.form.isNone = true ∧ row < s.rows.length))
  | .input _ | .pop => inferInstanceAs (Decidable (s.form.isSome = true))
  | .press answers =>
    inferInstanceAs (Decidable (s.form.isSome = true ∧ answers.documentID ∉ s.documents.ids))

/-- A request that fails changes nothing. -/
def request (documents : Collection) (succeeds : Bool) (f : Collection → Collection) : Collection :=
  if succeeds then f documents else documents

def step (S : Screens Model Form Input URL) (s : App Model Form) :
    Event Input URL → Option (App Model Form)
  | .fetched now => some { s with rows := S.fetch now s.documents }
  | .clickAdd now => do
    let vc ← S.appear (S.init now)
    some { s with form := some vc }
  | .swipeEdit row => do
    let data ← s.rows[row]?
    let vc ← S.appear data
    some { s with form := some vc }
  | .swipeDelete row succeeds => do
    let data ← s.rows[row]?
    some { s with
      documents := request s.documents succeeds (·.delete (S.key data))
      rows := s.rows.eraseIdx row }
  | .input i => do
    let vc ← s.form
    let vc ← S.input vc i
    some { s with form := some vc }
  | .press answers => do
    let vc ← s.form
    let write ← S.addbtnclick answers vc
    some { s with documents := request s.documents answers.succeeds (·.perform write) }
  | .pop => some { s with form := none }

end App

def Screens.machine (S : Screens Model Form Input URL) :
    Machine (App Model Form) (Event Input URL) where
  enabled := App.Enabled
  step := App.step S

instance (S : Screens Model Form Input URL) (s : App Model Form) (e : Event Input URL) :
    Decidable (S.machine.enabled s e) :=
  inferInstanceAs (Decidable (s.Enabled e))

namespace Screens
variable (S : Screens Model Form Input URL)

abbrev Runs (s : App Model Form) (es : List (Event Input URL)) (t : App Model Form) : Prop :=
  S.machine.Run (fun _ _ => True) s es t

/-- Swiping Edit on a row, any inputs in the form that opens, and a press of its button. -/
def visit (row : Nat) (inputs : List Input) (answers : Press URL) : List (Event Input URL) :=
  .swipeEdit row :: (inputs.map .input ++ [.press answers])

def sent (data : Model) (inputs : List Input) (answers : Press URL) : Option Write := do
  let vc ← S.appear data
  let vc ← inputs.foldlM S.input vc
  S.addbtnclick answers vc

theorem runs_of_exec (es : List (Event Input URL)) (p : App Model Form → Bool)
    (h : (S.machine.exec (fun _ _ => True) App.launch es).any p = true) :
    ∃ s, S.Runs App.launch es s ∧ p s = true :=
  Machine.exec_any h

variable {S} {s t : App Model Form} {inputs : List Input}

theorem sent_of_inputs (ha : S.appear data = some vc) (hi : inputs.foldlM S.input vc = some vc')
    (answers : Press URL) : S.sent data inputs answers = S.addbtnclick answers vc' := by
  simp only [sent, ha, hi, Option.bind_eq_bind, Option.bind_some]

theorem runs_cons : S.Runs s (e :: es) u ↔
    s.Enabled e ∧ ∃ t, App.step S s e = some t ∧ S.Runs t es u := by
  constructor
  · intro h
    obtain ⟨hen, -, t, hs, hr⟩ := Machine.Run.cons_iff.1 h
    exact ⟨hen, t, hs, hr⟩
  · intro h
    obtain ⟨hen, t, hs, hr⟩ := h
    exact .cons hen trivial hs hr

theorem step_input (hf : s.form = some vc) (i : Input) : App.step S s (.input i) =
    (S.input vc i).map fun vc => { s with form := some vc } := by
  rw [App.step, hf, Option.map_eq_bind]
  rfl

theorem step_press (hf : s.form = some vc) (hsucc : answers.succeeds = true) :
    App.step S s (.press answers) = (S.addbtnclick answers vc).map fun write =>
      { s with documents := s.documents.perform write, form := some vc } := by
  rw [App.step, hf, hsucc, Option.map_eq_bind]
  rfl

theorem runs_inputs (hf : s.form = some vc) (hid : answers.documentID ∉ s.documents.ids)
    (hsucc : answers.succeeds = true) :
    S.Runs s (inputs.map .input ++ [.press answers]) t ↔ ∃ vc' write,
      inputs.foldlM S.input vc = some vc' ∧ S.addbtnclick answers vc' = some write ∧
        t = { s with documents := s.documents.perform write, form := some vc' } := by
  induction inputs generalizing s vc with
  | nil =>
    rw [List.map_nil, List.nil_append, runs_cons, step_press hf hsucc]
    constructor
    · intro h
      obtain ⟨-, u, hu, hr⟩ := h
      obtain ⟨write, hw, ht⟩ := Option.map_eq_some_iff.1 hu
      cases hr
      exact ⟨vc, write, rfl, hw, ht.symm⟩
    · intro h
      obtain ⟨vc', write, hvc, hw, ht⟩ := h
      cases hvc
      exact ⟨⟨by rw [hf]; rfl, hid⟩, t, Option.map_eq_some_iff.2 ⟨write, hw, ht.symm⟩, .nil t⟩
  | cons i inputs ih =>
    rw [List.map_cons, List.cons_append, runs_cons, step_input hf, List.foldlM_cons]
    constructor
    · intro h
      obtain ⟨-, u, hu, hr⟩ := h
      obtain ⟨vc₁, hvc₁, hu⟩ := Option.map_eq_some_iff.1 hu
      cases hu
      obtain ⟨vc', write, hvc', hw, ht⟩ := (ih (s := { s with form := some vc₁ }) rfl hid).1 hr
      exact ⟨vc', write, Option.bind_eq_some_iff.2 ⟨vc₁, hvc₁, hvc'⟩, hw, ht⟩
    · intro h
      obtain ⟨vc', write, hvc', hw, ht⟩ := h
      obtain ⟨vc₁, hvc₁, hvc'⟩ := Option.bind_eq_some_iff.1 hvc'
      refine ⟨by rw [App.Enabled, hf]; rfl, _, Option.map_eq_some_iff.2 ⟨vc₁, hvc₁, rfl⟩, ?_⟩
      exact (ih (s := { s with form := some vc₁ }) rfl hid).2 ⟨vc', write, hvc', hw, ht⟩

theorem step_edit (hrow : s.rows[row]? = some data) : App.step S s (.swipeEdit row) =
    (S.appear data).map fun vc => { s with form := some vc } := by
  rw [App.step, hrow, Option.map_eq_bind]
  rfl

theorem runs_visit (hf : s.form = none) (hrow : s.rows[row]? = some data)
    (hid : answers.documentID ∉ s.documents.ids) (hsucc : answers.succeeds = true) :
    (∃ t, S.Runs s (visit row inputs answers) t ∧ t.documents = documents) ↔
      ∃ write, S.sent data inputs answers = some write ∧
        documents = s.documents.perform write := by
  have hen : s.form.isNone ∧ row < s.rows.length :=
    ⟨by rw [hf]; rfl, (List.getElem?_eq_some_iff.1 hrow).1⟩
  constructor
  · intro h
    obtain ⟨t, hr, ht⟩ := h
    obtain ⟨-, u, hu, hr⟩ := runs_cons.1 hr
    rw [step_edit hrow] at hu
    obtain ⟨vc, hvc, hu⟩ := Option.map_eq_some_iff.1 hu
    cases hu
    obtain ⟨vc', write, hvc', hw, hr⟩ := (runs_inputs (s := { s with form := some vc })
      rfl hid hsucc).1 hr
    exact ⟨write, by rw [sent_of_inputs hvc hvc', hw], by rw [← ht, hr]⟩
  · intro h
    obtain ⟨write, hs, hd⟩ := h
    simp only [sent, Option.bind_eq_bind, Option.bind_eq_some_iff] at hs
    obtain ⟨vc, hvc, vc', hvc', hw⟩ := hs
    refine ⟨{ s with documents := s.documents.perform write, form := some vc' }, ?_, hd.symm⟩
    apply runs_cons.2
    refine ⟨hen, { s with form := some vc }, ?_, ?_⟩
    · rw [step_edit hrow, hvc, Option.map_some]
    · apply (runs_inputs (s := { s with form := some vc }) rfl hid hsucc).2
      exact ⟨vc', write, hvc', hw, rfl⟩

theorem runs_delete (hf : s.form = none) (hrow : s.rows[row]? = some data) :
    S.Runs s [.swipeDelete row true]
      { s with documents := s.documents.delete (S.key data), rows := s.rows.eraseIdx row } := by
  have hen : s.form.isNone ∧ row < s.rows.length :=
    ⟨by rw [hf]; rfl, (List.getElem?_eq_some_iff.1 hrow).1⟩
  apply runs_cons.2
  refine ⟨hen, _, ?_, .nil _⟩
  simp only [App.step, hrow, Option.bind_eq_bind, Option.bind_some, App.request, if_true]

end Screens

end TrainingDemos.FirebasePractise
