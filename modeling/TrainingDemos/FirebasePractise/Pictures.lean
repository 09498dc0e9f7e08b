import TrainingDemos.FirebasePractise.Uploads

namespace TrainingDemos.FirebasePractise
set_option autoImplicit true

/-- A request on its way, or an answer on its way back. Every request succeeds. -/
inductive PictureRequest where
  /-- The upload that a press of a form has started. -/
  | upload (form : Nat)
  | write (write : Write)
  | delete (key : String)
  | deleteImage (imgStr : String)
  | getDocuments
  | documents (arrData : Collection)

def PictureRequest.isUpload : PictureRequest → Bool
  | .upload _ => true
  | _ => false

structure PictureApp (Model Form : Type) where
  documents : Collection
  blobs : List String
  rows : List Model
  forms : List Form
  form : Option Nat
  requests : List PictureRequest
  ids : List String
  links : List String

inductive PictureEvent (Input URL : Type) where
  | viewWillAppear
  | clickAdd (now : Int)
  | swipeEdit (row : Nat)
  | swipeDelete (row : Nat)
  | input (i : Input)
  | press (documentID : String) (now : Int)
  | pop
  | uploaded (i : Nat) (url : URL) (documentID : String) (now : Int)
  | served (i : Nat) (now : Nat → Int)

namespace PictureApp

def launch : PictureApp Model Form := ⟨.empty, [], [], [], none, [], [], []⟩

def send (s : PictureApp Model Form) (request : PictureRequest) : PictureApp Model Form :=
  { s with requests := s.requests ++ [request] }

def sendWrite (s : PictureApp Model Form) : Write → PictureApp Model Form
  | .setData key fields => { s.send (.write (.setData key fields)) with ids := key :: s.ids }
  | .updateData key fields => s.send (.write (.updateData key fields))

def push (s : PictureApp Model Form) (vc : Form) : PictureApp Model Form :=
  { s with forms := s.forms ++ [vc], form := some s.forms.length }

/-- `document()` makes up new ids, and no two uploads have one file name. -/
def Enabled (P : PictureScreens Model Form Input URL) (s : PictureApp Model Form) :
    PictureEvent Input URL → Prop
  | .viewWillAppear | .clickAdd _ => s.form.isNone
  | .swipeEdit row | .swipeDelete row => s.form.isNone ∧ row < s.rows.length
  | .input _ | .pop => s.form.isSome
  | .press documentID _ => s.form.isSome ∧ documentID ∉ s.ids
  | .uploaded i url documentID _ =>
    s.requests[i]?.any PictureRequest.isUpload ∧ P.link url ∉ s.links ∧ documentID ∉ s.ids
  | .served i _ => s.requests[i]?.any fun request => !request.isUpload

instance (P : PictureScreens Model Form Input URL) (s : PictureApp Model Form) :
    (e : PictureEvent Input URL) → Decidable (s.Enabled P e)
  | .viewWillAppear | .clickAdd _ | .input _ | .pop | .served _ _ =>
    inferInstanceAs (Decidable (_ = true))
  | .swipeEdit _ | .swipeDelete _ => inferInstanceAs (Decidable (_ = true ∧ _ < _))
  | .press _ _ => inferInstanceAs (Decidable (_ = true ∧ _ ∉ _))
  | .uploaded _ _ _ _ => inferInstanceAs (Decidable (_ = true ∧ _ ∉ _ ∧ _ ∉ _))

/-- An answer is taken to show what the server had, without the device's writes on their way. -/
def serve (P : PictureScreens Model Form Input URL) (s : PictureApp Model Form)
    (now : Nat → Int) : PictureRequest → PictureApp Model Form
  | .upload form => s.send (.upload form)
  | .write write => { s with documents := s.documents.perform write }
  | .delete key => { s with documents := s.documents.delete key }
  | .deleteImage imgStr => { s with blobs := s.blobs.filter (· != imgStr) }
  | .getDocuments => s.send (.documents s.documents)
  | .documents arrData => { s with rows := P.fetch now arrData }

def step (P : PictureScreens Model Form Input URL) (s : PictureApp Model Form) :
    PictureEvent Input URL → Option (PictureApp Model Form)
  | .viewWillAppear => some (s.send .getDocuments)
  | .clickAdd now => (P.appear (P.init now)).map s.push
  | .swipeEdit row => do
    let data ← s.rows[row]?
    let vc ← P.appear data
    some (s.push vc)
  | .swipeDelete row => do
    let data ← s.rows[row]?
    let s := match P.erases data with
      | some imgStr => s.send (.deleteImage imgStr)
      | none => s
    let s := s.send (.delete (P.key data))
    some { s with rows := s.rows.eraseIdx row }
  | .input i => do
    let form ← s.form
    let vc ← s.forms[form]?
    let vc ← P.input vc i
    some { s with forms := s.forms.set form vc }
  | .press documentID now => do
    let form ← s.form
    let vc ← s.forms[form]?
    if P.uploading vc then some (s.send (.upload form))
    else (P.uploaded documentID now (P.direct vc) vc).map s.sendWrite
  | .pop => some { s with form := none }
  | .uploaded i url documentID now => do
    let request ← s.requests[i]?
    match request with
    | .upload form => do
      let vc ← s.forms[form]?
      let write ← P.uploaded documentID now (some url) vc
      let s := { s with
        blobs := P.link url :: s.blobs
        requests := s.requests.eraseIdx i
        links := P.link url :: s.links }
      some (s.sendWrite write)
    | _ => none
  | .served i now =>
    s.requests[i]?.map ({ s with requests := s.requests.eraseIdx i }.serve P now)

def Refers (P : PictureScreens Model Form Input URL) (s : PictureApp Model Form)
    (link : String) : Prop :=
  ∃ key d, s.documents.doc key = some d ∧ d P.field = some (.string link)

theorem refers_iff {P : PictureScreens Model Form Input URL} {s : PictureApp Model Form} :
    s.Refers P link ↔ ∃ key ∈ s.documents.ids,
      ((s.documents.doc key).any fun d => (d P.field).bind Value.asString == some link) = true := by
  constructor
  · intro h
    obtain ⟨key, d, hd, hl⟩ := h
    refine ⟨key, (s.documents.listed key).2 (Option.isSome_iff_exists.2 ⟨d, hd⟩), ?_⟩
    rw [hd, Option.any_some, hl]
    exact beq_self_eq_true _
  · intro h
    obtain ⟨key, -, h⟩ := h
    obtain ⟨d, hd, hl⟩ := (Option.any_eq_true _ _).1 h
    exact ⟨key, d, hd, Value.bind_asString.1 (beq_iff_eq.1 hl)⟩

instance (P : PictureScreens Model Form Input URL) (s : PictureApp Model Form) (link : String) :
    Decidable (s.Refers P link) :=
  decidable_of_iff _ refers_iff.symm

/-- No update uploads a new picture, and no Delete leaves the picture of its row behind. -/
def Clean (P : PictureScreens Model Form Input URL) (s : PictureApp Model Form) :
    PictureEvent Input URL → Prop
  | .press _ _ => (s.form.bind (s.forms[·]?)).all (fun vc =>
    P.adds (P.data vc) || !P.uploading vc) = true
  | .swipeDelete row => P.cleans = true ∨ s.rows[row]?.all (fun data =>
    (s.documents.doc (P.key data)).all fun d => ((d P.field).bind Value.asString).isNone) = true
  | _ => True

instance (P : PictureScreens Model Form Input URL) (s : PictureApp Model Form) :
    (e : PictureEvent Input URL) → Decidable (s.Clean P e)
  | .press _ _ => inferInstanceAs (Decidable (_ = true))
  | .swipeDelete _ => inferInstanceAs (Decidable (_ = true ∨ _ = true))
  | .viewWillAppear | .clickAdd _ | .swipeEdit _ | .input _ | .pop | .uploaded _ _ _ _
  | .served _ _ => inferInstanceAs (Decidable True)

end PictureApp

def PictureScreens.machine (P : PictureScreens Model Form Input URL) :
    Machine (PictureApp Model Form) (PictureEvent Input URL) where
  enabled := PictureApp.Enabled P
  step := PictureApp.step P

instance (P : PictureScreens Model Form Input URL) (s : PictureApp Model Form)
    (e : PictureEvent Input URL) : Decidable (P.machine.enabled s e) :=
  inferInstanceAs (Decidable (s.Enabled P e))

end TrainingDemos.FirebasePractise
