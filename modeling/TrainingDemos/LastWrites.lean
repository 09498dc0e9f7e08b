import TrainingDemos.DocumentStore

namespace TrainingDemos
set_option autoImplicit true

inductive StoreRequest where
  | write (write : Write)
  | delete (key : String)

def Collection.answer (c : Collection) : StoreRequest → Collection
  | .write write => c.perform write
  | .delete key => c.delete key

/-- What is known of a document: the fields it was created with, and those of its last update. -/
structure Register where
  created : Fields
  latest : Option Fields

def Register.document (r : Register) : Document :=
  match r.latest with
  | some fields => (Document.ofFields r.created).merge fields
  | none => .ofFields r.created

/-- A store in which the last update of a document replaces all earlier ones. -/
abbrev Registers := String → Option Register

def Registers.answer (rs : Registers) : StoreRequest → Registers
  | .write (.setData key fields) => Function.update rs key (some ⟨fields, none⟩)
  | .write (.updateData key fields) =>
    Function.update rs key ((rs key).map fun r => { r with latest := some fields })
  | .delete key => Function.update rs key none

def StoreRequest.Writes (names : List String) : StoreRequest → Prop
  | .write (.updateData _ fields) => fields.map Prod.fst = names
  | _ => True

theorem lookup_isSome_iff {fields : Fields} :
    (fields.lookup name).isSome ↔ name ∈ fields.map Prod.fst := by
  induction fields with
  | nil => exact ⟨fun h => absurd h Bool.false_ne_true, fun h => absurd h List.not_mem_nil⟩
  | cons p fields ih =>
    rw [List.lookup_cons, List.map_cons, List.mem_cons, ← ih]
    by_cases hp : name = p.1
    · simp only [hp, beq_self_eq_true, Option.isSome_some, true_or]
    · simp only [beq_eq_false_iff_ne.2 hp, hp, false_or]

theorem Document.merge_merge {f g : Fields} (h : f.map Prod.fst = g.map Prod.fst) (d : Document) :
    (d.merge f).merge g = d.merge g := by
  funext name
  simp only [merge]
  cases hg : g.lookup name with
  | some v => rfl
  | none =>
    have hf : f.lookup name = none := by
      rw [← Option.not_isSome_iff_eq_none, lookup_isSome_iff, h, ← lookup_isSome_iff, hg]
      exact Bool.false_ne_true
    rw [hf, Option.none_or]

structure Registered (names : List String) (c : Collection) (rs : Registers) : Prop where
  doc : ∀ key, c.doc key = (rs key).map Register.document
  latest : ∀ key r fields, rs key = some r → r.latest = some fields → fields.map Prod.fst = names

theorem registered_empty (names : List String) :
    Registered names Collection.empty fun _ => none where
  doc _ := rfl
  latest key r fields h := by cases h

theorem Registered.update {c' : Collection} (h : Registered names c rs) (key : String)
    (o : Option Register) (hkey : c'.doc key = o.map Register.document)
    (hrest : ∀ i, i ≠ key → c'.doc i = c.doc i)
    (ho : ∀ r fields, o = some r → r.latest = some fields → fields.map Prod.fst = names) :
    Registered names c' (Function.update rs key o) where
  doc i := by
    by_cases hi : i = key
    · rw [hi, Function.update_self, hkey]
    · rw [Function.update_of_ne hi, hrest i hi, h.doc]
  latest i r fields hr hf := by
    by_cases hi : i = key
    · rw [hi, Function.update_self] at hr
      exact ho r fields hr hf
    · rw [Function.update_of_ne hi] at hr
      exact h.latest i r fields hr hf

theorem Registered.answer (h : Registered names c rs) {request : StoreRequest}
    (hw : request.Writes names) : Registered names (c.answer request) (rs.answer request) := by
  cases request with
  | delete key =>
    apply h.update key none (Collection.doc_delete_self c key)
    · intro i hi
      exact Collection.doc_delete_of_ne c hi
    · intro r fields hr
      cases hr
  | write write =>
    cases write with
    | setData key fields =>
      apply h.update key (some ⟨fields, none⟩) (Collection.doc_setData_self c key _)
      · intro i hi
        exact Collection.doc_setData_of_ne c _ hi
      · intro r fields' hr hl
        cases hr
        cases hl
    | updateData key fields =>
      have hdoc := h.doc key
      cases hr : rs key with
      | none =>
        rw [hr] at hdoc
        have hsame : c.answer (.write (.updateData key fields)) = c := by
          simp only [Collection.answer, Collection.perform, Collection.updateData, hdoc,
            Option.map_none]
        rw [hsame]
        apply h.update key _ _ (fun _ _ => rfl)
        · intro r fields' hr'
          rw [hr] at hr'
          cases hr'
        · rw [hdoc, hr]
          rfl
      | some r =>
        rw [hr, Option.map_some] at hdoc
        have hmerge : r.document.merge fields =
            (Document.ofFields r.created).merge fields := by
          rw [Register.document]
          split
          · rename_i earlier he
            exact Document.merge_merge ((h.latest key r earlier hr he).trans hw.symm) _
          · rfl
        apply h.update key
        · rw [hr, Collection.answer, Collection.perform, Collection.updateData_of_some hdoc,
            Collection.doc_setData_self, hmerge]
          rfl
        · intro i hi
          rw [Collection.answer, Collection.perform, Collection.updateData_of_some hdoc,
            Collection.doc_setData_of_ne _ _ hi]
        · intro r' fields' hr' hl
          rw [hr] at hr'
          cases hr'
          cases hl
          exact hw

theorem Registered.answers (h : Registered names c rs) {requests : List StoreRequest}
    (hw : ∀ request ∈ requests, request.Writes names) :
    Registered names (requests.foldl Collection.answer c) (requests.foldl Registers.answer rs) := by
  induction requests generalizing c rs with
  | nil => exact h
  | cons request requests ih =>
    exact ih (h.answer (hw request List.mem_cons_self))
      fun r hr => hw r (List.mem_cons_of_mem _ hr)

/-- The fields of the last merge of each document that was not deleted since. -/
def lastMerged (ds : String → Option Fields) (u : Upsert) : String → Option Fields :=
  Function.update ds u.1 u.2

structure Merged (K : String → Fields → Prop) (c : Collection) (ds : String → Option Fields) :
    Prop where
  doc : ∀ key, c.doc key = (ds key).map Document.ofFields
  known : ∀ key fields, ds key = some fields → K key fields

theorem merged_empty (K : String → Fields → Prop) : Merged K Collection.empty fun _ => none where
  doc _ := rfl
  known key fields h := by cases h

theorem Merged.mono {K K' : String → Fields → Prop} (h : Merged K c ds)
    (hK : ∀ key fields, K key fields → K' key fields) : Merged K' c ds :=
  ⟨h.doc, fun key fields hd => hK key fields (h.known key fields hd)⟩

theorem Document.none_merge (fields : Fields) :
    merge (fun _ => none) fields = ofFields fields := by
  funext name
  exact Option.or_none

theorem Merged.doc_mergeData {K : String → Fields → Prop} (h : Merged K c ds)
    (hnames : ∀ f, K key f → f.map Prod.fst = fields.map Prod.fst) :
    (c.mergeData key fields).doc key = some (.ofFields fields) := by
  rw [Collection.mergeData, Collection.doc_setData_self, h.doc]
  cases hd : ds key with
  | none => exact congrArg some (Document.none_merge fields)
  | some f =>
    have hmerge := Document.merge_merge (hnames f (h.known key f hd)) fun _ => none
    rw [Document.none_merge, Document.none_merge] at hmerge
    exact congrArg some hmerge

theorem Merged.upsert {K : String → Fields → Prop} (h : Merged K c ds) {u : Upsert}
    (hnames : ∀ key f g, K key f → K key g → f.map Prod.fst = g.map Prod.fst)
    (hu : ∀ fields ∈ u.2, K u.1 fields) : Merged K (c.upsert u) (lastMerged ds u) := by
  obtain ⟨key, o⟩ := u
  apply Merged.mk
  · intro i
    by_cases hi : i = key
    · rw [hi, lastMerged, Function.update_self]
      cases o with
      | none => exact Collection.doc_delete_self c key
      | some fields => exact h.doc_mergeData fun f hf => hnames key f fields hf (hu fields rfl)
    · rw [lastMerged, Function.update_of_ne hi, ← h.doc]
      exact Collection.doc_upsert_of_ne c hi
  · intro i fields hd
    by_cases hi : i = key
    · rw [hi, lastMerged, Function.update_self] at hd
      rw [hi]
      exact hu fields hd
    · rw [lastMerged, Function.update_of_ne hi] at hd
      exact h.known i fields hd

theorem Merged.upserts {K : String → Fields → Prop} {us : List Upsert} (h : Merged K c ds)
    (hnames : ∀ key f g, K key f → K key g → f.map Prod.fst = g.map Prod.fst)
    (hus : ∀ u ∈ us, ∀ fields ∈ u.2, K u.1 fields) :
    Merged K (us.foldl Collection.upsert c) (us.foldl lastMerged ds) := by
  induction us generalizing c ds with
  | nil => exact h
  | cons u us ih =>
    apply ih (h.upsert hnames (hus u List.mem_cons_self))
    exact fun v hv => hus v (List.mem_cons_of_mem u hv)

end TrainingDemos
