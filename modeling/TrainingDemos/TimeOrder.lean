import TrainingDemos.DocumentStore

namespace TrainingDemos
set_option autoImplicit true

section Sorting
variable {r : α → α → Prop} [DecidableRel r]

theorem orderedInsert_between {s t : List α} (hs : ∀ b ∈ s, ¬ r a b) (ht : ∀ b ∈ t, r a b) :
    (s ++ t).orderedInsert r a = s ++ a :: t := by
  induction s with
  | nil =>
    cases t with
    | nil => rfl
    | cons b t => exact List.orderedInsert_cons_of_le r t (ht b List.mem_cons_self)
  | cons b s ih =>
    rw [List.cons_append, List.orderedInsert_of_not_le r _ (hs b List.mem_cons_self),
      ih fun b hb => hs b (List.mem_cons_of_mem _ hb)]
    rfl

theorem insertionSort_eq_of_strict {l m : List α} (hp : l.Perm m)
    (hm : m.Pairwise fun a b => r a b ∧ ¬ r b a) : l.insertionSort r = m := by
  induction l generalizing m with
  | nil =>
    cases hp.nil_eq
    rfl
  | cons a l ih =>
    obtain ⟨s, t, rfl⟩ := List.append_of_mem (hp.mem_iff.1 List.mem_cons_self)
    have hrest : l.Perm (s ++ t) := (hp.trans List.perm_middle).cons_inv
    obtain ⟨hs, hat, hst⟩ := List.pairwise_append.1 hm
    obtain ⟨ha, ht⟩ := List.pairwise_cons.1 hat
    have hm' : (s ++ t).Pairwise fun a b => r a b ∧ ¬ r b a :=
      List.pairwise_append.2 ⟨hs, ht, fun b hb c hc => hst b hb c (List.mem_cons_of_mem _ hc)⟩
    rw [List.insertionSort_cons, ih hrest hm']
    apply orderedInsert_between
    · intro b hb
      exact (hst b hb a List.mem_cons_self).2
    · intro b hb
      exact (ha b hb).1

end Sorting

namespace Value

def asTimestamp : Value → Option Int
  | .timestamp t => some t
  | _ => none

theorem bind_asTimestamp {v : Option Value} :
    v.bind asTimestamp = some t ↔ v = some (.timestamp t) := by
  apply Iff.intro
  · intro h
    obtain ⟨v, hv, ht⟩ := Option.bind_eq_some_iff.1 h
    cases v with
    | timestamp t' =>
      cases ht
      exact hv
    | _ => cases ht
  · intro h
    rw [h]
    rfl

end Value

namespace Collection

def stamp (c : Collection) (field key : String) : Option Int :=
  (c.doc key).bind fun d => (d field).bind Value.asTimestamp

/-- The documents in the order of their timestamps, which are all different. -/
structure Chronicle (c : Collection) (field : String) (order : List String) : Prop where
  nodup : order.Nodup
  listed : ∀ key, key ∈ order ↔ (c.doc key).isSome
  stamped : ∀ key ∈ order, (c.stamp field key).isSome
  increasing : order.Pairwise fun k k' =>
    ∀ t t', c.stamp field k = some t → c.stamp field k' = some t' → t < t'

variable {c : Collection}

theorem precedes_timestamp {p q : String × Document} (hp : p.2 field = some (.timestamp t))
    (hq : q.2 field = some (.timestamp u)) (h : t < u) :
    precedes field p q = true ∧ ¬ precedes field q p = true := by
  have hnot : ¬ u ≤ t := by omega
  simp only [precedes, hp, hq, Value.atMost, decide_eq_true (le_of_lt h), decide_eq_false hnot,
    Bool.not_false, Bool.true_or, Bool.and_true, Bool.false_and]
  exact ⟨trivial, Bool.false_ne_true⟩

theorem Chronicle.orderBy (h : Chronicle c field order) :
    (c.orderBy field).map Prod.fst = order := by
  obtain ⟨docs, hdocs⟩ : ∃ docs : List (String × Document),
      docs.map Prod.fst = order ∧ ∀ p ∈ docs, c.doc p.1 = some p.2 := by
    refine ⟨order.pmap (fun key hk => (key, (c.doc key).get hk))
      (fun key hk => (h.listed key).1 hk), ?_, ?_⟩
    · rw [List.map_pmap, List.pmap_eq_map, List.map_id']
    · intro p hp
      obtain ⟨key, hk, rfl⟩ := List.mem_pmap.1 hp
      exact (Option.some_get _).symm
  obtain ⟨hkeys, hdoc⟩ := hdocs
  have hstamp (p : String × Document) (hp : p ∈ docs) :
      ∃ t, c.stamp field p.1 = some t ∧ p.2 field = some (.timestamp t) := by
    have hmem : p.1 ∈ order := hkeys ▸ List.mem_map_of_mem hp
    obtain ⟨t, ht⟩ := Option.isSome_iff_exists.1 (h.stamped p.1 hmem)
    refine ⟨t, ht, ?_⟩
    rw [stamp, hdoc p hp, Option.bind_some] at ht
    exact Value.bind_asTimestamp.1 ht
  have hperm : (c.having field).Perm docs := by
    have hn : docs.Nodup := List.Nodup.of_map Prod.fst (hkeys ▸ h.nodup)
    have hn' : (c.having field).Nodup := List.Nodup.of_map Prod.fst (c.nodup_select _)
    rw [List.perm_ext_iff_of_nodup hn' hn]
    intro p
    rw [show p ∈ c.having field ↔ _ from mem_having]
    apply Iff.intro
    · intro h₀
      obtain ⟨hd, -⟩ := h₀
      have hmem := (h.listed p.1).2 (Option.isSome_of_mem hd)
      rw [← hkeys] at hmem
      obtain ⟨q, hq, he⟩ := List.mem_map.1 hmem
      have hqd := hdoc q hq
      rw [he, hd, Option.some.injEq] at hqd
      rwa [← Prod.ext he hqd.symm]
    · intro hp
      obtain ⟨t, -, ht⟩ := hstamp p hp
      exact ⟨hdoc p hp, Option.isSome_of_mem ht⟩
  have hstrict : docs.Pairwise fun p q =>
      precedes field p q = true ∧ ¬ precedes field q p = true := by
    have hinc := h.increasing
    rw [← hkeys, List.pairwise_map] at hinc
    apply hinc.imp_of_mem
    intro p q hp hq hlt
    obtain ⟨t, ht, hpt⟩ := hstamp p hp
    obtain ⟨u, hu, hqu⟩ := hstamp q hq
    exact precedes_timestamp hpt hqu (hlt t u ht hu)
  rw [Collection.orderBy, ← hkeys]
  exact congrArg (List.map Prod.fst) (insertionSort_eq_of_strict hperm hstrict)

theorem chronicle_empty (field : String) : Chronicle empty field [] where
  nodup := List.nodup_nil
  listed key := ⟨fun h => absurd h List.not_mem_nil, fun h => by cases h⟩
  stamped key h := absurd h List.not_mem_nil
  increasing := .nil

theorem stamp_setData_self (c : Collection) (key : String) (d : Document) :
    (c.setData key d).stamp field key = (d field).bind Value.asTimestamp := by
  rw [stamp, doc_setData_self, Option.bind_some]

theorem stamp_setData_of_ne (c : Collection) (d : Document) (h : i ≠ key) :
    (c.setData key d).stamp field i = c.stamp field i := by
  rw [stamp, doc_setData_of_ne c d h, stamp]

theorem Chronicle.touch (h : Chronicle c field order) {d : Document}
    (hd : d field = some (.timestamp now))
    (hlater : ∀ key ∈ order, ∀ t ∈ c.stamp field key, t < now) :
    Chronicle (c.setData key d) field (order.erase key ++ [key]) where
  nodup := by
    rw [← List.concat_eq_append]
    exact (h.nodup.erase key).concat h.nodup.not_mem_erase
  listed i := by
    rw [List.mem_append, List.mem_singleton, h.nodup.mem_erase_iff, h.listed]
    by_cases hi : i = key
    · subst hi
      rw [doc_setData_self]
      exact ⟨fun _ => rfl, fun _ => .inr rfl⟩
    · rw [doc_setData_of_ne c d hi]
      exact ⟨fun h₀ => (h₀.resolve_right hi).2, fun h₀ => .inl ⟨hi, h₀⟩⟩
  stamped i hmem := by
    by_cases hi : i = key
    · subst hi
      rw [stamp_setData_self, hd]
      rfl
    · rw [stamp_setData_of_ne c d hi]
      rcases List.mem_append.1 hmem with hmem | hmem
      · exact h.stamped i (List.mem_of_mem_erase hmem)
      · exact absurd (List.mem_singleton.1 hmem) hi
  increasing := by
    have hold {i : String} (hi : i ∈ order.erase key) :
        i ∈ order ∧ (c.setData key d).stamp field i = c.stamp field i := by
      obtain ⟨hne, hmem⟩ := h.nodup.mem_erase_iff.1 hi
      exact ⟨hmem, stamp_setData_of_ne c d hne⟩
    rw [List.pairwise_append]
    refine ⟨?_, List.pairwise_singleton _ _, ?_⟩
    · apply (h.increasing.sublist List.erase_sublist).imp_of_mem
      intro k k' hk hk' hlt
      rw [(hold hk).2, (hold hk').2]
      exact hlt
    · intro k hk k' hk' t t' ht ht'
      cases List.mem_singleton.1 hk'
      rw [(hold hk).2] at ht
      rw [stamp_setData_self, hd] at ht'
      cases ht'
      exact hlater k (hold hk).1 t ht

theorem Chronicle.rewrite (h : Chronicle c field order) {d d' : Document}
    (hd : c.doc key = some d) (hsame : d' field = d field) :
    Chronicle (c.setData key d') field order := by
  have hstamp (i : String) : (c.setData key d').stamp field i = c.stamp field i := by
    by_cases hi : i = key
    · rw [hi, stamp_setData_self, hsame, stamp, hd, Option.bind_some]
    · exact stamp_setData_of_ne c d' hi
  refine ⟨h.nodup, ?_, ?_, ?_⟩
  · intro i
    rw [h.listed]
    by_cases hi : i = key
    · rw [hi, doc_setData_self, hd]
      rfl
    · rw [doc_setData_of_ne c d' hi]
  · intro i hi
    rw [hstamp]
    exact h.stamped i hi
  · simp only [hstamp]
    exact h.increasing

theorem Chronicle.delete (h : Chronicle c field order) (key : String) :
    Chronicle (c.delete key) field (order.erase key) := by
  have hold {i : String} (hi : i ∈ order.erase key) :
      i ∈ order ∧ (c.delete key).stamp field i = c.stamp field i := by
    obtain ⟨hne, hmem⟩ := h.nodup.mem_erase_iff.1 hi
    exact ⟨hmem, by rw [stamp, doc_delete_of_ne c hne, stamp]⟩
  refine ⟨h.nodup.erase key, ?_, ?_, ?_⟩
  · intro i
    rw [h.nodup.mem_erase_iff, h.listed]
    by_cases hi : i = key
    · rw [hi, doc_delete_self]
      exact ⟨fun h₀ => absurd rfl h₀.1, fun h₀ => by cases h₀⟩
    · rw [doc_delete_of_ne c hi]
      exact ⟨fun h₀ => h₀.2, fun h₀ => ⟨hi, h₀⟩⟩
  · intro i hi
    rw [(hold hi).2]
    exact h.stamped i (hold hi).1
  · apply (h.increasing.sublist List.erase_sublist).imp_of_mem
    intro k k' hk hk' hlt
    rw [(hold hk).2, (hold hk').2]
    exact hlt

end Collection

end TrainingDemos
