import Mathlib.Data.List.Nodup
import Mathlib.Data.List.Sort
import Mathlib.Logic.Function.Basic

namespace TrainingDemos
set_option autoImplicit true

inductive Value where
  | null
  | string (s : String)
  | integer (n : Int)
  | timestamp (t : Int)
  | map (fields : List (String × Value))

abbrev Fields := List (String × Value)

abbrev Document := String → Option Value

namespace Value

def asString : Value → Option String
  | .string s => some s
  | _ => none

def asInt : Value → Option Int
  | .integer n => some n
  | _ => none

def asMap : Value → Option Fields
  | .map fields => some fields
  | _ => none

theorem bind_asString {v : Option Value} : v.bind asString = some s ↔ v = some (.string s) := by
  constructor
  · intro h
    obtain ⟨v, hv, hs⟩ := Option.bind_eq_some_iff.1 h
    cases v with
    | string s' =>
      cases hs
      exact hv
    | _ => cases hs
  · intro h
    rw [h]
    rfl

/-- `as? Date`: a timestamp comes back as an object of the store, which is no date. -/
def asDate : Value → Option Int := fun _ => none

/-- An absent optional is stored as null. -/
def ofOption (f : α → Value) : Option α → Value
  | some a => f a
  | none => .null

/-- Values of different types are ordered by type. -/
def rank : Value → Nat
  | .null => 0
  | .integer _ => 1
  | .timestamp _ => 2
  | .string _ => 3
  | .map _ => 4

def atMost : Value → Value → Bool
  | .integer m, .integer n => decide (m ≤ n)
  | .timestamp t, .timestamp u => decide (t ≤ u)
  | .string s, .string s' => decide (s ≤ s')
  | v, w => decide (v.rank ≤ w.rank)

end Value

namespace Document

def ofFields (fields : Fields) : Document := fun f => fields.lookup f

def merge (d : Document) (fields : Fields) : Document := fun f => (fields.lookup f).or (d f)

def IsString (d : Document) (field : String) : Prop := ∃ s, d field = some (.string s)

def IsTimestamp (d : Document) (field : String) : Prop := ∃ t, d field = some (.timestamp t)

end Document

structure Collection where
  ids : List String
  doc : String → Option Document
  nodup : ids.Nodup
  listed : ∀ key, key ∈ ids ↔ (doc key).isSome

namespace Collection

def empty : Collection := ⟨[], fun _ => none, List.nodup_nil, fun _ => by simp⟩

def setData (c : Collection) (key : String) (d : Document) : Collection where
  ids := if key ∈ c.ids then c.ids else c.ids ++ [key]
  doc := Function.update c.doc key (some d)
  nodup := by
    split
    · exact c.nodup
    · rename_i h
      rw [← List.concat_eq_append]
      exact c.nodup.concat h
  listed i := by
    by_cases hi : i = key
    · subst hi
      rw [Function.update_self]
      split
      · rename_i h
        exact ⟨fun _ => rfl, fun _ => h⟩
      · exact ⟨fun _ => rfl, fun _ => List.mem_append_right _ List.mem_cons_self⟩
    · rw [Function.update_of_ne hi, ← c.listed]
      split
      · rfl
      · simp only [List.mem_append, List.mem_singleton, hi, or_false]

/-- Fails, and changes nothing, where there is no such document. -/
def updateData (c : Collection) (key : String) (fields : Fields) : Collection :=
  match c.doc key with
  | some d => c.setData key (d.merge fields)
  | none => c

def delete (c : Collection) (key : String) : Collection where
  ids := c.ids.erase key
  doc := Function.update c.doc key none
  nodup := c.nodup.erase key
  listed i := by
    rw [c.nodup.mem_erase_iff]
    by_cases hi : i = key
    · subst hi
      simp only [Function.update_self, ne_eq, not_true_eq_false, false_and, Option.isSome_none,
        Bool.false_eq_true]
    · rw [Function.update_of_ne hi, ← c.listed]
      exact ⟨fun h => h.2, fun h => ⟨hi, h⟩⟩

/-- `setData(merge: true)`: the document is created where there is none. -/
def mergeData (c : Collection) (key : String) (fields : Fields) : Collection :=
  c.setData key (((c.doc key).getD fun _ => none).merge fields)

def select (c : Collection) (p : Document → Bool) : List (String × Document) :=
  c.ids.filterMap fun key => (c.doc key).bind fun d => if p d then some (key, d) else none

/-- `whereField(field, isEqualTo: s)`, by id. -/
def whereField (c : Collection) (field s : String) : List (String × Document) :=
  (c.select fun d => (d field).bind Value.asString == some s).insertionSort fun p q => p.1 ≤ q.1

/-- The documents that have the field, which a query ordered by it is limited to. -/
def having (c : Collection) (field : String) : List (String × Document) :=
  c.ids.filterMap fun key =>
    (c.doc key).bind fun d => if (d field).isSome then some (key, d) else none

/-- Documents with equal values of the field are ordered by id. -/
def precedes (field : String) (p q : String × Document) : Bool :=
  match p.2 field, q.2 field with
  | some v, some w => v.atMost w && (!w.atMost v || decide (p.1 ≤ q.1))
  | _, _ => false

def orderBy (c : Collection) (field : String) : List (String × Document) :=
  (c.having field).insertionSort fun p q => precedes field p q = true

theorem mem_select {c : Collection} :
    (key, d) ∈ c.select p ↔ c.doc key = some d ∧ p d = true := by
  rw [select, List.mem_filterMap]
  constructor
  · intro h
    obtain ⟨key', -, hb⟩ := h
    obtain ⟨d', hd', hs⟩ := Option.bind_eq_some_iff.1 hb
    split at hs
    · rename_i hp
      cases hs
      exact ⟨hd', hp⟩
    · cases hs
  · intro h
    obtain ⟨hd, hp⟩ := h
    refine ⟨key, (c.listed key).2 (Option.isSome_iff_exists.2 ⟨d, hd⟩), ?_⟩
    rw [hd, Option.bind_some, if_pos hp]

theorem mem_having {c : Collection} :
    (key, d) ∈ c.having field ↔ c.doc key = some d ∧ (d field).isSome :=
  mem_select

theorem mem_orderBy {c : Collection} :
    (key, d) ∈ c.orderBy field ↔ c.doc key = some d ∧ (d field).isSome := by
  rw [orderBy, List.mem_insertionSort, mem_having]

theorem keys_select (c : Collection) (p : Document → Bool) :
    ((c.select p).map Prod.fst).Sublist c.ids := by
  have hmap : ∀ ids : List String, ((ids.filterMap fun key =>
      (c.doc key).bind fun d => if p d then some (key, d) else none).map Prod.fst).Sublist ids := by
    intro ids
    induction ids with
    | nil => exact List.Sublist.slnil
    | cons key ids ih =>
      rw [List.filterMap_cons]
      split
      · exact ih.cons key
      · rename_i q hq
        obtain ⟨d, -, hs⟩ := Option.bind_eq_some_iff.1 hq
        split at hs
        · cases hs
          exact ih.cons_cons key
        · cases hs
  exact hmap c.ids

theorem nodup_select (c : Collection) (p : Document → Bool) :
    ((c.select p).map Prod.fst).Nodup :=
  c.nodup.sublist (c.keys_select p)

theorem nodup_orderBy (c : Collection) (field : String) :
    ((c.orderBy field).map Prod.fst).Nodup := by
  have hp : (c.orderBy field).Perm (c.having field) := List.perm_insertionSort _ _
  exact (hp.map Prod.fst).nodup_iff.2 (c.nodup_select _)

theorem mem_whereField {c : Collection} :
    (key, d) ∈ c.whereField field s ↔ c.doc key = some d ∧ d field = some (.string s) := by
  rw [whereField, List.mem_insertionSort, mem_select, beq_iff_eq, Value.bind_asString]

theorem nodup_whereField (c : Collection) (field s : String) :
    ((c.whereField field s).map Prod.fst).Nodup := by
  have hp : (c.whereField field s).Perm (c.select _) := List.perm_insertionSort _ _
  exact (hp.map Prod.fst).nodup_iff.2 (c.nodup_select _)

theorem doc_setData_self (c : Collection) (key : String) (d : Document) :
    (c.setData key d).doc key = some d :=
  Function.update_self _ _ _

theorem doc_setData_of_ne (c : Collection) (d : Document) (h : i ≠ key) :
    (c.setData key d).doc i = c.doc i :=
  Function.update_of_ne h _ _

theorem ids_setData_of_mem {c : Collection} (h : key ∈ c.ids) (d : Document) :
    (c.setData key d).ids = c.ids :=
  if_pos h

theorem ids_setData_of_not_mem {c : Collection} (h : key ∉ c.ids) (d : Document) :
    (c.setData key d).ids = c.ids ++ [key] :=
  if_neg h

theorem doc_mergeData_of_ne (c : Collection) (fields : Fields) (h : i ≠ key) :
    (c.mergeData key fields).doc i = c.doc i :=
  doc_setData_of_ne c _ h

theorem doc_delete_self (c : Collection) (key : String) : (c.delete key).doc key = none :=
  Function.update_self _ _ _

theorem doc_delete_of_ne (c : Collection) (h : i ≠ key) : (c.delete key).doc i = c.doc i :=
  Function.update_of_ne h _ _

theorem updateData_of_some {c : Collection} (h : c.doc key = some d) (fields : Fields) :
    c.updateData key fields = c.setData key (d.merge fields) := by
  rw [updateData, h]

end Collection

inductive Write where
  | setData (key : String) (fields : Fields)
  | updateData (key : String) (fields : Fields)

def Collection.perform (c : Collection) : Write → Collection
  | .setData key fields => c.setData key (.ofFields fields)
  | .updateData key fields => c.updateData key fields

/-- The document that is written has the property if, before an update, it had it already. -/
def Write.Keeps (W : String → Document → Prop) : Write → Prop
  | .setData key fields => W key (.ofFields fields)
  | .updateData key fields => ∀ d, W key d → W key (d.merge fields)

/-- Document `key` is given new values of the fields, and nothing else happens to the collection. -/
structure Updates (c : Collection) (key : String) (fields : Fields) (c' : Collection) : Prop where
  ids : c'.ids = c.ids
  updated : ∃ d, c.doc key = some d ∧ c'.doc key = some (d.merge fields)
  others : ∀ i, i ≠ key → c'.doc i = c.doc i

structure Removes (c : Collection) (key : String) (c' : Collection) : Prop where
  present : (c.doc key).isSome
  removed : c'.doc key = none
  others : ∀ i, i ≠ key → c'.doc i = c.doc i

namespace Collection

theorem updates_perform {c : Collection} (h : (c.doc key).isSome) (fields : Fields) :
    Updates c key fields (c.perform (.updateData key fields)) := by
  obtain ⟨d, hd⟩ := Option.isSome_iff_exists.1 h
  have hid : key ∈ c.ids := (c.listed key).2 h
  rw [perform, updateData_of_some hd]
  refine ⟨ids_setData_of_mem hid _, ⟨d, hd, doc_setData_self _ _ _⟩, ?_⟩
  intro i hi
  exact doc_setData_of_ne c _ hi

theorem isSome_perform {c : Collection} (h : (c.doc i).isSome) (write : Write) :
    ((c.perform write).doc i).isSome := by
  have hset : ∀ key d, ((c.setData key d).doc i).isSome := by
    intro key d
    by_cases hi : i = key
    · rw [hi, doc_setData_self]
      rfl
    · rw [doc_setData_of_ne c d hi]
      exact h
  cases write with
  | setData key fields => exact hset key _
  | updateData key fields =>
    rw [perform, updateData]
    split
    · exact hset key _
    · exact h

theorem doc_perform_congr {c c' : Collection} (h : c.doc i = c'.doc i) (write : Write) :
    (c.perform write).doc i = (c'.perform write).doc i := by
  have hset : ∀ key d, (c.setData key d).doc i = (c'.setData key d).doc i := by
    intro key d
    by_cases hi : i = key
    · rw [hi, doc_setData_self, doc_setData_self]
    · rw [doc_setData_of_ne c d hi, doc_setData_of_ne c' d hi]
      exact h
  cases write with
  | setData key fields => exact hset key _
  | updateData key fields =>
    by_cases hi : i = key
    · subst hi
      rw [perform, perform, updateData, updateData, ← h]
      split
      · exact hset i _
      · exact h
    · have hother : ∀ d : Collection, (d.updateData key fields).doc i = d.doc i := by
        intro d
        rw [updateData]
        split
        · exact doc_setData_of_ne d _ hi
        · rfl
      rw [perform, perform, hother, hother]
      exact h

def All (W : String → Document → Prop) (c : Collection) : Prop :=
  ∀ key d, c.doc key = some d → W key d

theorem All.empty : Collection.empty.All W := by
  intro key d h
  cases h

theorem All.setData {c : Collection} (h : c.All W) (hd : W key d) : (c.setData key d).All W := by
  intro i d' hi
  by_cases hk : i = key
  · subst hk
    rw [doc_setData_self] at hi
    cases hi
    exact hd
  · rw [doc_setData_of_ne c d hk] at hi
    exact h i d' hi

theorem All.perform {c : Collection} (h : c.All W) (hw : write.Keeps W) :
    (c.perform write).All W := by
  cases write with
  | setData key fields => exact h.setData hw
  | updateData key fields =>
    rw [Collection.perform, updateData]
    split
    · rename_i d hd
      exact h.setData (hw d (h key d hd))
    · exact h

theorem All.delete {c : Collection} (h : c.All W) (key : String) : (c.delete key).All W := by
  intro i d hi
  by_cases hk : i = key
  · rw [hk, doc_delete_self] at hi
    cases hi
  · rw [doc_delete_of_ne c hk] at hi
    exact h i d hi

theorem removes_delete {c : Collection} (h : (c.doc key).isSome) : Removes c key (c.delete key) :=
  ⟨h, doc_delete_self c key, fun _ hi => doc_delete_of_ne c hi⟩

theorem not_updates_setData {c : Collection} (h : key ∉ c.ids) (fields fields' : Fields)
    (i : String) : ¬ Updates c i fields' (c.perform (.setData key fields)) := by
  intro hu
  have hids : (c.setData key (.ofFields fields)).ids = c.ids := hu.ids
  rw [ids_setData_of_not_mem h] at hids
  have hlen := congrArg List.length hids
  rw [List.length_append, List.length_singleton] at hlen
  omega

end Collection

/-- A merge, which creates a document where there is none, or a deletion. -/
abbrev Upsert := String × Option Fields

namespace Collection

def upsert (c : Collection) : Upsert → Collection
  | (key, some fields) => c.mergeData key fields
  | (key, none) => c.delete key

/-- What a device shows of the documents while its own writes are on their way. -/
def overlaid (c : Collection) (us : List Upsert) : Collection := us.foldl upsert c

theorem overlaid_append (c : Collection) (us vs : List Upsert) :
    c.overlaid (us ++ vs) = (c.overlaid us).overlaid vs :=
  List.foldl_append

theorem doc_upsert_of_ne (c : Collection) {u : Upsert} (h : i ≠ u.1) :
    (c.upsert u).doc i = c.doc i := by
  obtain ⟨key, o⟩ := u
  cases o with
  | none => exact doc_delete_of_ne c h
  | some fields => exact doc_mergeData_of_ne c fields h

theorem isSome_upsert_self (c : Collection) (u : Upsert) :
    ((c.upsert u).doc u.1).isSome = u.2.isSome := by
  obtain ⟨key, o⟩ := u
  cases o with
  | none => exact congrArg Option.isSome (doc_delete_self c key)
  | some fields => exact congrArg Option.isSome (doc_setData_self c key _)

theorem All.overlaid {c : Collection} {us : List Upsert}
    (hus : ∀ u ∈ us, ∀ c : Collection, c.All W → (c.upsert u).All W) (h : c.All W) :
    (c.overlaid us).All W := by
  induction us generalizing c with
  | nil => exact h
  | cons u us ih =>
    exact ih (fun v hv => hus v (List.mem_cons_of_mem u hv)) (hus u List.mem_cons_self c h)

theorem doc_overlaid_deletions {c : Collection} {us : List Upsert} (h : ∀ u ∈ us, u.2 = none) :
    (c.overlaid us).doc key = some d ↔ c.doc key = some d ∧ key ∉ us.map Prod.fst := by
  induction us generalizing c with
  | nil => exact ⟨fun hd => ⟨hd, List.not_mem_nil⟩, fun hd => hd.1⟩
  | cons u us ih =>
    have hrest := ih (c := c.upsert u) fun v hv => h v (List.mem_cons_of_mem u hv)
    rw [overlaid, List.foldl_cons, ← overlaid, hrest, List.map_cons, List.mem_cons, not_or]
    by_cases hk : key = u.1
    · subst hk
      have hnone : (c.upsert u).doc u.1 = none := by
        rw [← Option.not_isSome_iff_eq_none, isSome_upsert_self, h u List.mem_cons_self]
        exact Bool.false_ne_true
      constructor
      · intro hd
        rw [hnone] at hd
        cases hd.1
      · intro hd
        exact absurd rfl hd.2.1
    · rw [doc_upsert_of_ne c hk]
      exact ⟨fun hd => ⟨hd.1, hk, hd.2⟩, fun hd => ⟨hd.1, hd.2.2⟩⟩

end Collection

end TrainingDemos
