import TrainingDemos.FirebasePractise.Pictures

namespace TrainingDemos.FirebasePractise
set_option autoImplicit true

def Creating (requests : List PictureRequest) (key : String) : Prop :=
  ∃ fields, .write (.setData key fields) ∈ requests

def PictureRequest.inert : PictureRequest → Bool
  | .write (.setData _ _) | .delete _ | .deleteImage _ => false
  | _ => true

def PictureRequest.Apart (request request' : PictureRequest) : Prop :=
  ∀ key fields fields', request = .write (.setData key fields) →
    request' ≠ .write (.setData key fields')

theorem PictureRequest.Apart.symm {request request' : PictureRequest}
    (h : request.Apart request') : request'.Apart request := by
  intro key fields fields' he he'
  exact h key fields' fields he' he

/-- A stored document refers to the pictures that were uploaded for its id. -/
structure PictureDocument (P : PictureScreens Model Form Input URL) (W : String → Document → Prop)
    (home : String → Option String) (ids : List String) (key : String) (d : Document) : Prop where
  stored : W key d
  known : key ∈ ids
  linked : ∀ link, d P.field = some (.string link) ↔ home link = some key

section
variable (P : PictureScreens Model Form Input URL) (W : String → Document → Prop)
  (home : String → Option String) (s : PictureApp Model Form)

/-- A document that was in the collection at some time. -/
def PictureApp.Fetched (key : String) (d : Document) : Prop :=
  PictureDocument P W home s.ids key d ∧ ¬ Creating s.requests key

def PictureApp.Shown (data : Model) : Prop :=
  ∃ now key d, s.Fetched P W home key d ∧ data = P.ofDocument now (key, d)

def PictureRequest.Kept : PictureRequest → Prop
  | .upload form => ∃ vc, s.forms[form]? = some vc ∧ P.adds (P.data vc) = true
  | .write (.setData key fields) =>
    s.documents.doc key = none ∧ PictureDocument P W home s.ids key (.ofFields fields)
  | .write (.updateData key fields) => key ∈ s.ids ∧ (∀ d, W key d → W key (d.merge fields)) ∧
    ∀ v, fields.lookup P.field = some v → ∃ link, v = .string link ∧ home link = some key
  | .delete key => key ∈ s.ids ∧ ¬ Creating s.requests key ∧
    ∀ link, home link = some key → .deleteImage link ∈ s.requests ∨ link ∉ s.blobs
  | .deleteImage link => ∃ key, home link = some key ∧ key ∈ s.ids ∧ ¬ Creating s.requests key ∧
    (.delete key ∈ s.requests ∨ s.documents.doc key = none)
  | .getDocuments => True
  | .documents arrData => arrData.All (s.Fetched P W home)

/-- Every picture has a document, or one is on its way, or the picture is being deleted. -/
structure Balanced : Prop where
  homes : ∀ link key, home link = some key → link ∈ s.links ∧ key ∈ s.ids
  documents : s.documents.All (PictureDocument P W home s.ids)
  rows : ∀ data ∈ s.rows, s.Shown P W home data
  forms : ∀ vc ∈ s.forms, P.adds (P.data vc) = true ∨ s.Shown P W home (P.data vc)
  requests : ∀ request ∈ s.requests, request.Kept P W home s
  distinct : s.requests.Pairwise PictureRequest.Apart
  present : ∀ link ∈ s.blobs, ∃ key, home link = some key ∧
    ((s.documents.doc key).isSome ∨ Creating s.requests key ∨ .deleteImage link ∈ s.requests)
  kept : ∀ link key, home link = some key →
    (s.documents.doc key).isSome ∨ Creating s.requests key →
    link ∈ s.blobs ∨ .delete key ∈ s.requests

structure Follows (home' : String → Option String) (t : PictureApp Model Form) : Prop where
  ids : ∀ key ∈ s.ids, key ∈ t.ids
  homes : ∀ key ∈ s.ids, ∀ link, home' link = some key ↔ home link = some key
  creating : ∀ key ∈ s.ids, Creating t.requests key → Creating s.requests key
  forms : ∀ (form : Nat) (vc : Form), s.forms[form]? = some vc →
    ∃ vc' : Form, t.forms[form]? = some vc' ∧ P.data vc' = P.data vc
  absent : ∀ key ∈ s.ids, Creating t.requests key ∨ ¬ Creating s.requests key →
    s.documents.doc key = none → t.documents.doc key = none
  erased : ∀ link key, home link = some key → key ∈ s.ids →
    .deleteImage link ∈ s.requests ∨ link ∉ s.blobs →
    .deleteImage link ∈ t.requests ∨ link ∉ t.blobs
  deleted : ∀ key ∈ s.ids, ¬ Creating s.requests key →
    .delete key ∈ s.requests ∨ s.documents.doc key = none →
    .delete key ∈ t.requests ∨ t.documents.doc key = none

end

section
variable {P : PictureScreens Model Form Input URL} {W : String → Document → Prop}
  {home home' : String → Option String} {s t : PictureApp Model Form}

theorem Follows.document (hf : Follows P home s home' t)
    (h : PictureDocument P W home s.ids key d) : PictureDocument P W home' t.ids key d where
  stored := h.stored
  known := hf.ids key h.known
  linked link := (h.linked link).trans (hf.homes key h.known link).symm

theorem Follows.fetched (hf : Follows P home s home' t) (h : s.Fetched P W home key d) :
    t.Fetched P W home' key d :=
  ⟨hf.document h.1, fun hc => h.2 (hf.creating key h.1.known hc)⟩

theorem Follows.shown (hf : Follows P home s home' t) (h : s.Shown P W home data) :
    t.Shown P W home' data := by
  obtain ⟨now, key, d, hd, hdata⟩ := h
  exact ⟨now, key, d, hf.fetched hd, hdata⟩

theorem Follows.kept (hf : Follows P home s home' t) {request : PictureRequest}
    (h : request.Kept P W home s) (hm : request ∈ t.requests) : request.Kept P W home' t := by
  cases request with
  | upload form =>
    obtain ⟨vc, hvc, ha⟩ := h
    obtain ⟨vc', hvc', hd⟩ := hf.forms form vc hvc
    exact ⟨vc', hvc', hd ▸ ha⟩
  | write write =>
    cases write with
    | setData key fields =>
      obtain ⟨hnone, hd⟩ := h
      exact ⟨hf.absent key hd.known (.inl ⟨fields, hm⟩) hnone, hf.document hd⟩
    | updateData key fields =>
      obtain ⟨hk, hw, hlink⟩ := h
      refine ⟨hf.ids key hk, hw, ?_⟩
      intro v hv
      obtain ⟨link, hv, hl⟩ := hlink v hv
      exact ⟨link, hv, (hf.homes key hk link).2 hl⟩
  | delete key =>
    obtain ⟨hk, hc, he⟩ := h
    refine ⟨hf.ids key hk, fun h => hc (hf.creating key hk h), ?_⟩
    intro link hl
    have hl := (hf.homes key hk link).1 hl
    exact hf.erased link key hl hk (he link hl)
  | deleteImage link =>
    obtain ⟨key, hl, hk, hc, hd⟩ := h
    exact ⟨key, (hf.homes key hk link).2 hl, hf.ids key hk, fun h => hc (hf.creating key hk h),
      hf.deleted key hk hc hd⟩
  | getDocuments => trivial
  | documents arrData =>
    intro key d hd
    exact hf.fetched (h key d hd)

theorem creating_append {rs : List PictureRequest} (h : Creating (s.requests ++ rs) key) :
    Creating s.requests key ∨ Creating rs key := by
  obtain ⟨fields, hm⟩ := h
  rcases List.mem_append.1 hm with hm | hm
  · exact .inl ⟨fields, hm⟩
  · exact .inr ⟨fields, hm⟩

theorem Creating.append (h : Creating requests key) (rs : List PictureRequest) :
    Creating (requests ++ rs) key := by
  obtain ⟨fields, hm⟩ := h
  exact ⟨fields, List.mem_append_left _ hm⟩

theorem Balanced.append (h : Balanced P W home s) {rs : List PictureRequest} {rows : List Model}
    {forms : List Form} {form : Option Nat} (hrs : ∀ key, ¬ Creating rs key)
    (hrows : ∀ data ∈ rows, s.Shown P W home data)
    (hforms : ∀ vc ∈ forms, P.adds (P.data vc) = true ∨ s.Shown P W home (P.data vc))
    (hext : ∀ (i : Nat) (vc : Form), s.forms[i]? = some vc →
      ∃ vc' : Form, forms[i]? = some vc' ∧ P.data vc' = P.data vc)
    (hkept : ∀ request ∈ rs, request.Kept P W home { s with
      rows := rows, forms := forms, form := form, requests := s.requests ++ rs }) :
    Balanced P W home { s with
      rows := rows, forms := forms, form := form, requests := s.requests ++ rs } := by
  have hc : ∀ key, Creating (s.requests ++ rs) key → Creating s.requests key := by
    intro key hc
    exact (creating_append hc).resolve_right (hrs key)
  have hf : Follows P home s home { s with
      rows := rows, forms := forms, form := form, requests := s.requests ++ rs } := {
    ids := fun key hk => hk
    homes := fun key hk link => Iff.rfl
    creating := fun key hk => hc key
    forms := hext
    absent := fun key hk hc hd => hd
    erased := fun link key hl hk he => he.imp_left (List.mem_append_left rs)
    deleted := fun key hk hc hd => hd.imp_left (List.mem_append_left rs) }
  constructor
  · exact h.homes
  · exact h.documents
  · intro data hm
    exact hf.shown (hrows data hm)
  · intro vc hm
    exact (hforms vc hm).imp_right hf.shown
  · intro request hm
    rcases List.mem_append.1 hm with hm' | hm'
    · exact hf.kept (h.requests request hm') hm
    · exact hkept request hm'
  · rw [List.pairwise_append]
    refine ⟨h.distinct, ?_, ?_⟩
    · apply List.pairwise_of_forall_mem_list
      intro r hr r' hr' key fields fields' he he'
      exact hrs key ⟨fields, he ▸ hr⟩
    · intro r hr r' hr' key fields fields' he he'
      exact hrs key ⟨fields', he' ▸ hr'⟩
  · intro link hl
    obtain ⟨key, hhome, hd⟩ := h.present link hl
    refine ⟨key, hhome, ?_⟩
    rcases hd with hd | hd | hd
    · exact .inl hd
    · exact .inr (.inl (hd.append rs))
    · exact .inr (.inr (List.mem_append_left rs hd))
  · intro link key hl hd
    have hd := h.kept link key hl (hd.imp_right (hc key))
    exact hd.imp_right (List.mem_append_left rs)

section
variable {request : PictureRequest} {rest : List PictureRequest}

theorem mem_rest (hp : s.requests.Perm (request :: rest)) (hm : request' ∈ s.requests)
    (hne : request' ≠ request) : request' ∈ rest :=
  (List.mem_cons.1 (hp.mem_iff.1 hm)).resolve_left hne

theorem creating_rest (hp : s.requests.Perm (request :: rest)) (hc : Creating rest key) :
    Creating s.requests key := by
  obtain ⟨fields, hm⟩ := hc
  exact ⟨fields, hp.mem_iff.2 (List.mem_cons_of_mem _ hm)⟩

theorem creating_of_rest (hp : s.requests.Perm (request :: rest))
    (hr : ∀ fields, request ≠ .write (.setData key fields)) (hc : Creating s.requests key) :
    Creating rest key := by
  obtain ⟨fields, hm⟩ := hc
  exact ⟨fields, mem_rest hp hm (hr fields).symm⟩

theorem Follows.of_rest (hp : s.requests.Perm (request :: rest))
    (habsent : ∀ key ∈ s.ids, Creating rest key ∨ ¬ Creating s.requests key →
      s.documents.doc key = none → c.doc key = none)
    (herased : ∀ link key, home link = some key → .deleteImage link ∈ s.requests ∨ link ∉ s.blobs →
      .deleteImage link ∈ rest ∨ link ∉ bs)
    (hdeleted : ∀ key, ¬ Creating s.requests key →
      .delete key ∈ s.requests ∨ s.documents.doc key = none →
      .delete key ∈ rest ∨ c.doc key = none) :
    Follows P home s home { s with documents := c, blobs := bs, requests := rest } where
  ids _ hk := hk
  homes _ _ _ := Iff.rfl
  creating _ _ hc := creating_rest hp hc
  forms _ vc hvc := ⟨vc, hvc, rfl⟩
  absent := habsent
  erased link key hl _ := herased link key hl
  deleted key _ := hdeleted key

theorem Balanced.finished (h : Balanced P W home s) (hp : s.requests.Perm (request :: rest))
    (hd : c.All (PictureDocument P W home s.ids))
    (hf : Follows P home s home { s with documents := c, blobs := bs, requests := rest })
    (hpresent : ∀ link ∈ bs, ∃ key, home link = some key ∧
      ((c.doc key).isSome ∨ Creating rest key ∨ .deleteImage link ∈ rest))
    (hkept : ∀ link key, home link = some key → (c.doc key).isSome ∨ Creating rest key →
      link ∈ bs ∨ .delete key ∈ rest) :
    Balanced P W home { s with documents := c, blobs := bs, requests := rest } where
  homes := h.homes
  documents := hd
  rows data hm := hf.shown (h.rows data hm)
  forms vc hm := (h.forms vc hm).imp_right hf.shown
  requests request' hm :=
    hf.kept (h.requests request' (hp.mem_iff.2 (List.mem_cons_of_mem _ hm))) hm
  distinct := (List.pairwise_cons.1 ((hp.pairwise_iff PictureRequest.Apart.symm).1 h.distinct)).2
  present := hpresent
  kept := hkept

theorem Balanced.answered (h : Balanced P W home s) (hp : s.requests.Perm (request :: rest))
    (hr : request.inert = true) (hd : c.All (PictureDocument P W home s.ids))
    (hsome : ∀ key, (c.doc key).isSome ↔ (s.documents.doc key).isSome) :
    Balanced P W home { s with documents := c, requests := rest } := by
  have hcreate : ∀ key fields, request ≠ .write (.setData key fields) := by
    intro key fields he
    rw [he] at hr
    cases hr
  have hdelete : ∀ key, request ≠ .delete key := by
    intro key he
    rw [he] at hr
    cases hr
  have hdeleteImage : ∀ link, request ≠ .deleteImage link := by
    intro link he
    rw [he] at hr
    cases hr
  have hnone : ∀ key, s.documents.doc key = none → c.doc key = none := by
    intro key hn
    rw [← Option.not_isSome_iff_eq_none, hsome, hn]
    exact nofun
  have hf : Follows P home s home { s with documents := c, requests := rest } := by
    apply Follows.of_rest hp (fun key hk hc => hnone key)
    · intro link key hl he
      exact he.imp_left fun hm => mem_rest hp hm (hdeleteImage link).symm
    · intro key hc he
      exact he.imp (fun hm => mem_rest hp hm (hdelete key).symm) (hnone key)
  apply h.finished hp hd hf
  · intro link hl
    obtain ⟨key, hhome, he⟩ := h.present link hl
    refine ⟨key, hhome, ?_⟩
    rcases he with he | he | he
    · exact .inl ((hsome key).2 he)
    · exact .inr (.inl (creating_of_rest hp (hcreate key) he))
    · exact .inr (.inr (mem_rest hp he (hdeleteImage link).symm))
  · intro link key hl he
    have he := h.kept link key hl (he.imp (hsome key).1 (creating_rest hp))
    exact he.imp_right fun hm => mem_rest hp hm (hdelete key).symm

theorem Balanced.created (h : Balanced P W home s)
    (hp : s.requests.Perm (.write (.setData key fields) :: rest)) :
    Balanced P W home { s with
      documents := s.documents.setData key (.ofFields fields), requests := rest } := by
  obtain ⟨hnone, hdoc⟩ := h.requests _ (hp.mem_iff.2 List.mem_cons_self)
  have hcreating : Creating s.requests key := ⟨fields, hp.mem_iff.2 List.mem_cons_self⟩
  have hdone : ¬ Creating rest key := by
    intro hc
    obtain ⟨fields', hm⟩ := hc
    have hd := (hp.pairwise_iff PictureRequest.Apart.symm).1 h.distinct
    exact (List.pairwise_cons.1 hd).1 _ hm key fields fields' rfl rfl
  have hof : ∀ key', key' ≠ key → Creating s.requests key' → Creating rest key' := by
    intro key' hne hc
    apply creating_of_rest hp _ hc
    intro fields' he
    cases he
    exact hne rfl
  have hother : ∀ key', key' ≠ key →
      (s.documents.setData key (.ofFields fields)).doc key' = s.documents.doc key' :=
    fun key' hne => Collection.doc_setData_of_ne _ _ hne
  have hf : Follows P home s home { s with
      documents := s.documents.setData key (.ofFields fields), requests := rest } := by
    apply Follows.of_rest hp
    · intro key' hk hc hn
      have hne : key' ≠ key := by
        intro he
        subst he
        exact hc.elim hdone (absurd hcreating)
      exact (hother key' hne).trans hn
    · intro link key hl he
      exact he.imp_left fun hm => mem_rest hp hm nofun
    · intro key' hc he
      have hne : key' ≠ key := by
        intro he
        subst he
        exact hc hcreating
      exact he.imp (fun hm => mem_rest hp hm nofun) (hother key' hne).trans
  apply h.finished hp (h.documents.setData hdoc) hf
  · intro link hl
    obtain ⟨key', hhome, he⟩ := h.present link hl
    refine ⟨key', hhome, ?_⟩
    by_cases hne : key' = key
    · subst hne
      rw [Collection.doc_setData_self]
      exact .inl rfl
    rw [hother key' hne]
    exact he.imp_right fun he =>
      he.imp (hof key' hne) fun hm => mem_rest hp hm nofun
  · intro link key' hl he
    have hs : (s.documents.doc key').isSome ∨ Creating s.requests key' := by
      by_cases hne : key' = key
      · subst hne
        exact .inr hcreating
      rw [hother key' hne] at he
      exact he.imp_right (creating_rest hp)
    exact (h.kept link key' hl hs).imp_right fun hm => mem_rest hp hm nofun

theorem Balanced.deleted (h : Balanced P W home s) (hp : s.requests.Perm (.delete key :: rest)) :
    Balanced P W home { s with documents := s.documents.delete key, requests := rest } := by
  obtain ⟨hk, hcreating, herased⟩ := h.requests _ (hp.mem_iff.2 List.mem_cons_self)
  have hother : ∀ key', key' ≠ key →
      (s.documents.delete key).doc key' = s.documents.doc key' :=
    fun key' hne => Collection.doc_delete_of_ne _ hne
  have hof : ∀ key', key' ≠ key → .delete key' ∈ s.requests → .delete key' ∈ rest := by
    intro key' hne hm
    apply mem_rest hp hm
    intro he
    cases he
    exact hne rfl
  have hnone : ∀ key', s.documents.doc key' = none → (s.documents.delete key).doc key' = none := by
    intro key' hn
    by_cases hne : key' = key
    · rw [hne, Collection.doc_delete_self]
    · exact (hother key' hne).trans hn
  have hf : Follows P home s home { s with
      documents := s.documents.delete key, requests := rest } := by
    apply Follows.of_rest hp (fun key hk hc => hnone key)
    · intro link key hl he
      exact he.imp_left fun hm => mem_rest hp hm nofun
    · intro key' hc he
      by_cases hne : key' = key
      · rw [hne, Collection.doc_delete_self]
        exact .inr rfl
      · exact he.imp (hof key' hne) (hnone key')
  apply h.finished hp (h.documents.delete key) hf
  · intro link hl
    obtain ⟨key', hhome, he⟩ := h.present link hl
    refine ⟨key', hhome, ?_⟩
    by_cases hne : key' = key
    · subst hne
      have hm := (herased link hhome).resolve_right (not_not_intro hl)
      exact .inr (.inr (mem_rest hp hm nofun))
    · rw [hother key' hne]
      exact he.imp_right fun he =>
        he.imp (creating_of_rest hp nofun) fun hm => mem_rest hp hm nofun
  · intro link key' hl he
    have hne : key' ≠ key := by
      intro hkey
      subst hkey
      rw [Collection.doc_delete_self] at he
      exact he.elim nofun fun hc => hcreating (creating_rest hp hc)
    rw [hother key' hne] at he
    have he := h.kept link key' hl (he.imp_right (creating_rest hp))
    exact he.imp_right (hof key' hne)

theorem Balanced.deletedImage (h : Balanced P W home s)
    (hp : s.requests.Perm (.deleteImage link :: rest)) :
    Balanced P W home { s with blobs := s.blobs.filter (· != link), requests := rest } := by
  obtain ⟨key, hhome, hk, hcreating, hdeleted⟩ := h.requests _ (hp.mem_iff.2 List.mem_cons_self)
  have hblob : ∀ link', link' ∈ s.blobs.filter (· != link) ↔ link' ∈ s.blobs ∧ link' ≠ link := by
    intro link'
    rw [List.mem_filter, bne_iff_ne]
  have hof : ∀ link', link' ≠ link → .deleteImage link' ∈ s.requests →
      .deleteImage link' ∈ rest := by
    intro link' hne hm
    apply mem_rest hp hm
    intro he
    cases he
    exact hne rfl
  have hf : Follows P home s home { s with
      blobs := s.blobs.filter (· != link), requests := rest } := by
    apply Follows.of_rest hp (fun key hk hc hn => hn)
    · intro link' key' hl he
      by_cases hne : link' = link
      · exact .inr fun hm => ((hblob link').1 hm).2 hne
      · exact he.imp (hof link' hne) fun hb hm => hb ((hblob link').1 hm).1
    · intro key hc he
      exact he.imp_left fun hm => mem_rest hp hm nofun
  apply h.finished hp h.documents hf
  · intro link' hl
    obtain ⟨hl, hne⟩ := (hblob link').1 hl
    obtain ⟨key', hhome', he⟩ := h.present link' hl
    exact ⟨key', hhome', he.imp_right fun he => he.imp (creating_of_rest hp nofun) (hof link' hne)⟩
  · intro link' key' hl he
    by_cases hne : link' = link
    · subst hne
      rw [hhome] at hl
      cases hl
      rcases hdeleted with hm | hn
      · exact .inr (mem_rest hp hm nofun)
      · rw [hn] at he
        exact he.elim nofun fun hc => absurd (creating_rest hp hc) hcreating
    · have he := h.kept link' key' hl (he.imp_right (creating_rest hp))
      exact he.imp (fun hm => (hblob link').2 ⟨hm, hne⟩) fun hm => mem_rest hp hm nofun

end

/-- The picture of the link, if there is one, is uploaded for the document. -/
def lodge (home : String → Option String) (link : Option String) (key : String) :
    String → Option String :=
  fun link' => if some link' = link then some key else home link'

theorem lodge_self (h : link = some link') : lodge home link key link' = some key :=
  if_pos h.symm

theorem lodge_cases (h : lodge home link key link' = some k) :
    link = some link' ∧ k = key ∨ home link' = some k := by
  rw [lodge] at h
  split at h
  · rename_i he
    cases h
    exact .inl ⟨he.symm, rfl⟩
  · exact .inr h

theorem Balanced.lodge_iff (h : Balanced P W home s) (hid : key ∉ s.ids)
    (hlink : ∀ link', link = some link' → link' ∉ s.links) (k : String) (hk : k ∈ s.ids)
    (link' : String) : lodge home link key link' = some k ↔ home link' = some k := by
  constructor
  · intro hl
    exact (lodge_cases hl).resolve_left fun hn => hid (hn.2 ▸ hk)
  · intro hl
    have hold : some link' ≠ link := fun he => hlink link' he.symm (h.homes link' k hl).1
    rw [lodge, if_neg hold, hl]

def PictureApp.adding (s : PictureApp Model Form) (key : String) (fields : Fields)
    (link : Option String) : PictureApp Model Form :=
  { s with
    blobs := link.toList ++ s.blobs
    links := link.toList ++ s.links
    ids := key :: s.ids
    requests := s.requests ++ [.write (.setData key fields)] }

theorem Balanced.doc_new (h : Balanced P W home s) (hid : key ∉ s.ids) :
    s.documents.doc key = none := by
  rw [← Option.not_isSome_iff_eq_none]
  intro hsome
  obtain ⟨d, hd⟩ := Option.isSome_iff_exists.1 hsome
  exact hid (h.documents key d hd).known

theorem PictureApp.creating_adding (hid : key ∉ s.ids) (hk : k ∈ s.ids)
    (hc : Creating (s.adding key fields link).requests k) : Creating s.requests k := by
  refine (creating_append hc).resolve_right ?_
  intro hc
  obtain ⟨fields', hm⟩ := hc
  cases List.mem_singleton.1 hm
  exact hid hk

theorem Balanced.follows_adding (h : Balanced P W home s) (hid : key ∉ s.ids)
    (hlink : ∀ link', link = some link' → link' ∉ s.links) (fields : Fields) :
    Follows P home s (lodge home link key) (s.adding key fields link) where
  ids _ hk := List.mem_cons_of_mem _ hk
  homes := h.lodge_iff hid hlink
  creating _ hk hc := PictureApp.creating_adding hid hk hc
  forms _ vc hvc := ⟨vc, hvc, rfl⟩
  absent _ _ _ hn := hn
  erased link' k hl _ he := by
    refine he.imp (List.mem_append_left _) ?_
    intro hb hm
    rcases List.mem_append.1 hm with hm | hm
    · exact hlink link' (Option.mem_toList.1 hm) (h.homes link' k hl).1
    · exact hb hm
  deleted _ _ _ he := he.imp_left (List.mem_append_left _)

theorem Balanced.document_adding (h : Balanced P W home s) (hid : key ∉ s.ids)
    (hw : W key (.ofFields fields))
    (hfield : fields.lookup P.field = some (.ofOption .string link)) :
    PictureDocument P W (lodge home link key) (key :: s.ids) key (.ofFields fields) where
  stored := hw
  known := List.mem_cons_self
  linked link' := by
    show fields.lookup P.field = some (.string link') ↔ _
    rw [hfield]
    constructor
    · intro he
      apply lodge_self
      cases link with
      | none => cases he
      | some l =>
        cases he
        rfl
    · intro hl
      rcases lodge_cases hl with ⟨he, -⟩ | hl
      · rw [he]
        rfl
      · exact absurd (h.homes link' key hl).2 hid

theorem Balanced.create (h : Balanced P W home s) (hid : key ∉ s.ids)
    (hlink : ∀ link', link = some link' → link' ∉ s.links) (hw : W key (.ofFields fields))
    (hfield : fields.lookup P.field = some (.ofOption .string link)) :
    Balanced P W (lodge home link key) (s.adding key fields link) := by
  have hf := h.follows_adding hid hlink fields
  have hunsent : ∀ fields', .write (.setData key fields') ∉ s.requests := by
    intro fields' hm
    exact hid (h.requests _ hm).2.known
  constructor
  · intro link' k hl
    rcases lodge_cases hl with ⟨he, hk⟩ | hl
    · rw [hk]
      exact ⟨List.mem_append_left _ (Option.mem_toList.2 he), List.mem_cons_self⟩
    · obtain ⟨hl', hk⟩ := h.homes link' k hl
      exact ⟨List.mem_append_right _ hl', List.mem_cons_of_mem _ hk⟩
  · intro k d hd
    exact hf.document (h.documents k d hd)
  · intro data hm
    exact hf.shown (h.rows data hm)
  · intro vc hm
    exact (h.forms vc hm).imp_right hf.shown
  · intro request hm
    rcases List.mem_append.1 hm with hm' | hm'
    · exact hf.kept (h.requests request hm') hm
    · cases List.mem_singleton.1 hm'
      exact ⟨h.doc_new hid, h.document_adding hid hw hfield⟩
  · rw [PictureApp.adding, List.pairwise_append]
    refine ⟨h.distinct, List.pairwise_singleton _ _, ?_⟩
    intro r hr r' hr' k fields' fields'' he he'
    cases List.mem_singleton.1 hr'
    cases he'
    exact hunsent fields' (he ▸ hr)
  · intro link' hl
    rcases List.mem_append.1 hl with hl | hl
    · refine ⟨key, lodge_self (Option.mem_toList.1 hl), .inr (.inl ⟨fields, ?_⟩)⟩
      exact List.mem_append_right _ List.mem_cons_self
    · obtain ⟨k, hl, he⟩ := h.present link' hl
      refine ⟨k, (hf.homes k (h.homes link' k hl).2 link').2 hl, ?_⟩
      exact he.imp_right fun he => he.imp (·.append _) (List.mem_append_left _)
  · intro link' k hl he
    rcases lodge_cases hl with ⟨hnew, -⟩ | hl
    · exact .inl (List.mem_append_left _ (Option.mem_toList.2 hnew))
    · have hk := (h.homes link' k hl).2
      have he := h.kept link' k hl (he.imp_right (PictureApp.creating_adding hid hk))
      exact he.imp (List.mem_append_right _) (List.mem_append_left _)

end

end TrainingDemos.FirebasePractise
