import TrainingDemos.Refinements
import TrainingDemos.ApiDemo.Agreement

namespace TrainingDemos.ApiDemo
set_option autoImplicit true

inductive Client where
  | callAPIThroughURLSession
  | callAPIThorughURLSessionWithJSONObject
  | getDataAlamofire
  deriving DecidableEq

/-- The completion handler of a client, as far as it changes `arrDetail`. -/
def Client.complete (F : Foundation) : Client → List LocationDetail → Response →
    Option (List LocationDetail)
  | .callAPIThroughURLSession => ApiDemo.callAPIThroughURLSession F
  | .callAPIThorughURLSessionWithJSONObject => ApiDemo.callAPIThorughURLSessionWithJSONObject F
  | .getDataAlamofire => ApiDemo.getDataAlamofire F

/-- What `cellForRowAt` writes into a cell. -/
structure TableViewCell where
  lblName : String
  lblCountry : String
  lblRegion : String
  deriving DecidableEq

structure ViewController where
  arrDetail : List LocationDetail
  requests : List Client
  /-- Calls of `reloadData` that wait in the main queue. -/
  reloads : Nat
  /-- The rows of the table, as it last asked for their number. -/
  tableRows : Nat

inductive Event where
  | call (client : Client)
  | answer (k : Nat) (response : Response)
  | reloadData
  | cellForRowAt (row : Nat)

namespace ViewController

def viewDidLoad : ViewController := ⟨[], [.callAPIThroughURLSession], 0, 0⟩

def numberOfRowsInSection (vc : ViewController) : Nat := vc.arrDetail.length

/-- `describe` is the text of an interpolated number. -/
def cellForRowAt (describe : Double → String) (vc : ViewController) (row : Nat) :
    Option TableViewCell := do
  let detail ← vc.arrDetail[row]?
  some ⟨detail.name, detail.country, describe detail.temp⟩

def Enabled (vc : ViewController) : Event → Prop
  | .call _ => True
  | .answer k _ => k < vc.requests.length
  | .reloadData => 0 < vc.reloads
  | .cellForRowAt row => row < vc.tableRows

instance (vc : ViewController) : (e : Event) → Decidable (vc.Enabled e)
  | .call _ => inferInstanceAs (Decidable True)
  | .answer _ _ | .reloadData | .cellForRowAt _ => inferInstanceAs (Decidable (_ < _))

/-- Atomic, although the handlers of the two `URLSession` clients run off the main queue. -/
def step (F : Foundation) (describe : Double → String) (vc : ViewController) :
    Event → Option ViewController
  | .call client => some { vc with requests := vc.requests ++ [client] }
  | .answer k response => do
    let client ← vc.requests[k]?
    let arrDetail ← client.complete F vc.arrDetail response
    some { vc with
      arrDetail := arrDetail
      requests := vc.requests.eraseIdx k
      reloads := if arrDetail.length = vc.arrDetail.length then vc.reloads else vc.reloads + 1 }
  | .reloadData => some { vc with
      reloads := vc.reloads - 1, tableRows := vc.numberOfRowsInSection }
  | .cellForRowAt row => (vc.cellForRowAt describe row).map fun _ => vc

end ViewController

def detailScreen (F : Foundation) (describe : Double → String) : Machine ViewController Event where
  enabled := ViewController.Enabled
  step := ViewController.step F describe

instance (F : Foundation) (describe : Double → String) (vc : ViewController) (e : Event) :
    Decidable ((detailScreen F describe).enabled vc e) :=
  inferInstanceAs (Decidable (vc.Enabled e))

def Decodes (F : Foundation) (vc : ViewController) : Event → List LocationDetail → Prop
  | .answer k response, rows =>
    ∃ client, vc.requests[k]? = some client ∧ client.complete F [] response = some rows
  | _, rows => rows = []

section
variable {F : Foundation} {describe : Double → String} {s t : ViewController}

theorem callAPIThroughURLSession_append (F : Foundation) (arrDetail : List LocationDetail)
    (response : Response) : callAPIThroughURLSession F arrDetail response =
      (callAPIThroughURLSession F [] response).map (arrDetail ++ ·) := by
  simp only [callAPIThroughURLSession]
  cases response.data with
  | none => simp
  | some data =>
    dsimp only
    cases F.decodeRData data <;> simp

theorem getDataAlamofire_append (F : Foundation) (arrDetail : List LocationDetail)
    (response : Response) : getDataAlamofire F arrDetail response =
      (getDataAlamofire F [] response).map (arrDetail ++ ·) := by
  simp only [getDataAlamofire]
  cases afResult response with
  | none => simp
  | some value =>
    dsimp only
    cases F.jsonObject value <;> simp

theorem callAPIThorughURLSessionWithJSONObject_append (F : Foundation)
    (arrDetail : List LocationDetail) (response : Response) :
    callAPIThorughURLSessionWithJSONObject F arrDetail response =
      (callAPIThorughURLSessionWithJSONObject F [] response).map (arrDetail ++ ·) := by
  simp only [callAPIThorughURLSessionWithJSONObject]
  cases response.data with
  | none => simp
  | some data =>
    dsimp only
    cases F.jsonObject data with
    | none => simp
    | some json =>
      dsimp only
      cases json.asObject with
      | none => rfl
      | some parsedData =>
        simp only [Option.bind_eq_bind, Option.bind_some]
        cases (F.serialization.member parsedData "location").bind JsonTree.asObject with
        | none => simp
        | some results =>
          dsimp only
          cases (F.serialization.member parsedData "current").bind JsonTree.asObject with
          | none => simp
          | some currentVal =>
            dsimp only
            cases (F.serialization.member results "name").bind JsonTree.asString with
            | none => rfl
            | some name =>
              cases (F.serialization.member results "country").bind JsonTree.asString <;> simp

theorem Client.complete_append (F : Foundation) (client : Client)
    (arrDetail : List LocationDetail) (response : Response) :
    client.complete F arrDetail response =
      (client.complete F [] response).map (arrDetail ++ ·) := by
  cases client with
  | callAPIThroughURLSession => exact callAPIThroughURLSession_append F arrDetail response
  | callAPIThorughURLSessionWithJSONObject =>
    exact callAPIThorughURLSessionWithJSONObject_append F arrDetail response
  | getDataAlamofire => exact getDataAlamofire_append F arrDetail response

structure Loaded (s : ViewController) : Prop where
  rows : s.tableRows ≤ s.arrDetail.length
  current : s.reloads = 0 → s.tableRows = s.arrDetail.length

theorem Loaded.step (h : Loaded s) (hs : s.step F describe e = some t) :
    Loaded t ∧ ∃ rows, Decodes F s e rows ∧ t.arrDetail = s.arrDetail ++ rows := by
  cases e with
  | call client =>
    cases hs
    exact ⟨⟨h.rows, h.current⟩, [], rfl, (List.append_nil _).symm⟩
  | answer k response =>
    obtain ⟨client, hk, hs⟩ := Option.bind_eq_some_iff.1 hs
    obtain ⟨arrDetail, hc, ht⟩ := Option.bind_eq_some_iff.1 hs
    cases ht
    rw [client.complete_append] at hc
    obtain ⟨rows, hrows, rfl⟩ := Option.map_eq_some_iff.1 hc
    refine ⟨⟨?_, ?_⟩, rows, ⟨client, hk, hrows⟩, rfl⟩
    · rw [List.length_append]
      exact Nat.le_trans h.rows (Nat.le_add_right _ _)
    · intro hnone
      dsimp only at hnone
      split at hnone
      · rename_i hlen
        rw [hlen]
        exact h.current hnone
      · cases hnone
  | reloadData =>
    cases hs
    exact ⟨⟨Nat.le_refl _, fun _ => rfl⟩, [], rfl, (List.append_nil _).symm⟩
  | cellForRowAt row =>
    obtain ⟨cell, -, ht⟩ := Option.map_eq_some_iff.1 hs
    cases ht
    exact ⟨h, [], rfl, (List.append_nil _).symm⟩

theorem Loaded.run (hrun : (detailScreen F describe).Run (fun _ _ => True) s es t)
    (h : Loaded s) : Loaded t ∧ ∃ rows,
      (detailScreen F describe).Labelled (Decodes F) s es rows ∧
        t.arrDetail = s.arrDetail ++ rows := by
  induction hrun with
  | nil s => exact ⟨h, [], .nil s, (List.append_nil _).symm⟩
  | cons hen _ hs hr ih =>
    obtain ⟨ht, rows, hrows, hlist⟩ := h.step hs
    obtain ⟨hu, rows', hl, hlist'⟩ := ih ht
    refine ⟨hu, rows ++ rows', .cons hrows hs hl, ?_⟩
    rw [hlist', hlist, List.append_assoc]

/-- However calls, answers and reloads interleave, the array holds the decoded rows in order. -/
theorem rows_in_order (F : Foundation) (describe : Double → String)
    (h : (detailScreen F describe).Run (fun _ _ => True) .viewDidLoad es s) :
    ∃ rows, (detailScreen F describe).Labelled (Decodes F) .viewDidLoad es rows ∧
      s.arrDetail = rows ∧ (s.reloads = 0 → s.tableRows = rows.length) ∧
      ∀ row, row < s.tableRows → ∃ detail, rows[row]? = some detail ∧
        s.cellForRowAt describe row =
          some ⟨detail.name, detail.country, describe detail.temp⟩ := by
  obtain ⟨hs, rows, hl, hlist⟩ := Loaded.run h ⟨Nat.le_refl _, fun _ => rfl⟩
  replace hlist : s.arrDetail = rows := hlist
  refine ⟨rows, hl, hlist, ?_, fun row hrow => ?_⟩
  · rw [← hlist]
    exact hs.current
  · have hlt := Nat.lt_of_lt_of_le hrow hs.rows
    refine ⟨s.arrDetail[row], ?_, ?_⟩
    · rw [← hlist, List.getElem?_eq_getElem hlt]
    · simp only [ViewController.cellForRowAt, List.getElem?_eq_getElem hlt, Option.bind_eq_bind,
        Option.bind_some]

def answeredInReverse : List Event := [
  .call .getDataAlamofire, .answer 1 ⟨some delhiBody, some 200, false⟩,
  .answer 0 ⟨none, none, true⟩,
  .reloadData, .cellForRowAt 0]

theorem rows_in_order_reversed : ∃ F s rows,
    (detailScreen F fun _ => "").Run (fun _ _ => True) .viewDidLoad answeredInReverse s ∧
    rows.map LocationDetail.name = ["Delhi"] ∧ s.arrDetail = rows ∧
      (s.reloads = 0 → s.tableRows = rows.length) := by
  obtain ⟨s, hr, hs⟩ := Machine.run_of_exec
    (detailScreen (.reading delhiBody delhi delhiBody_ne_nil) fun _ => "") (fun _ _ => True)
    .viewDidLoad answeredInReverse
    (fun s => decide (s.arrDetail.map LocationDetail.name = ["Delhi"])) (by decide +kernel)
  obtain ⟨rows, -, hlist, hloaded, -⟩ := rows_in_order _ _ hr
  exact ⟨_, s, rows, hr, hlist ▸ of_decide_eq_true hs, hlist, hloaded⟩

end

end TrainingDemos.ApiDemo
