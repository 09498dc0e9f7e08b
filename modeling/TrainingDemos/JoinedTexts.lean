import Mathlib.Data.List.Infix

namespace TrainingDemos
set_option autoImplicit true

theorem length_le_intercalate {sep : List β} (hsep : sep ≠ []) (l : List (List β)) :
    l.length ≤ (sep.intercalate l).length + 1 := by
  induction l with
  | nil => exact Nat.zero_le _
  | cons a l ih =>
    cases l with
    | nil =>
      rw [List.length_singleton]
      exact Nat.succ_le_succ (Nat.zero_le _)
    | cons b bs =>
      have hpos := List.length_pos_iff.2 hsep
      rw [List.intercalate_cons_cons, List.length_append, List.length_append, List.length_cons]
      omega

section Lists
variable {α : Type u} [DecidableEq α] {sep xs a b : List α}

/-- Every way to cut a list at an occurrence of the separator. -/
def cuts (sep xs : List α) : List (List α × List α) :=
  (List.range (xs.length + 1)).filterMap fun n =>
    if sep <+: xs.drop n then some (xs.take n, xs.drop (n + sep.length)) else none

theorem mem_cuts : (a, b) ∈ cuts sep xs ↔ a ++ sep ++ b = xs := by
  rw [cuts, List.mem_filterMap]
  constructor
  · intro h
    obtain ⟨n, -, hn⟩ := h
    split at hn
    · rename_i hs
      obtain ⟨t, ht⟩ := hs
      rw [← List.drop_drop, ← ht, List.drop_left] at hn
      cases hn
      rw [List.append_assoc, ht, List.take_append_drop]
    · cases hn
  · intro h
    subst h
    refine ⟨a.length, List.mem_range.2 ?_, ?_⟩
    · rw [List.append_assoc, List.length_append]
      omega
    · rw [← List.drop_drop, List.append_assoc, List.drop_left, List.drop_left, List.take_left,
        if_pos (List.prefix_append sep b)]

/-- Every way to write a list as at most `n` parts with the separator between them. -/
def splits (sep : List α) : Nat → List α → List (List (List α))
  | 0, _ => []
  | n + 1, xs => [xs] :: (cuts sep xs).flatMap fun p => (splits sep n p.2).map fun l => p.1 :: l

theorem mem_splits {l : List (List α)} : l ∈ splits sep n xs ↔
    l ≠ [] ∧ l.length ≤ n ∧ sep.intercalate l = xs := by
  induction n generalizing l xs with
  | zero =>
    rw [Nat.le_zero, List.length_eq_zero_iff]
    exact ⟨fun h => absurd h List.not_mem_nil, fun h => absurd h.2.1 h.1⟩
  | succ n ih =>
    rw [splits, List.mem_cons, List.mem_flatMap]
    constructor
    · intro h
      obtain h | h := h
      · subst h
        exact ⟨List.cons_ne_nil _ _, Nat.succ_le_succ (Nat.zero_le n), List.intercalate_singleton⟩
      · obtain ⟨⟨a, b⟩, hcut, hl⟩ := h
        obtain ⟨l', hl', he⟩ := List.mem_map.1 hl
        subst he
        obtain ⟨hne, hlen, hjoin⟩ := ih.1 hl'
        refine ⟨List.cons_ne_nil _ _, Nat.succ_le_succ hlen, ?_⟩
        obtain ⟨c, cs, hcs⟩ := List.exists_cons_of_ne_nil hne
        rw [hcs] at hjoin ⊢
        rw [List.intercalate_cons_cons, hjoin]
        exact mem_cuts.1 hcut
    · intro h
      obtain ⟨hne, hlen, hjoin⟩ := h
      obtain ⟨a, l', hl⟩ := List.exists_cons_of_ne_nil hne
      subst hl
      cases l' with
      | nil =>
        rw [List.intercalate_singleton] at hjoin
        exact .inl (by rw [hjoin])
      | cons c cs =>
        rw [List.intercalate_cons_cons] at hjoin
        have hrest := ih.2 ⟨List.cons_ne_nil c cs, Nat.le_of_succ_le_succ hlen, rfl⟩
        exact .inr ⟨(a, _), mem_cuts.2 hjoin, List.mem_map.2 ⟨_, hrest, rfl⟩⟩

end Lists

def textSplits (sep text : String) : List (List String) :=
  (splits sep.toList (text.toList.length + 1) text.toList).map fun l => l.map String.ofList

theorem mem_textSplits (hsep : sep ≠ "") {l : List String} :
    l ∈ textSplits sep text ↔ l ≠ [] ∧ sep.intercalate l = text := by
  have htext : sep.intercalate l = text ↔
      sep.toList.intercalate (l.map String.toList) = text.toList := by
    rw [← String.toList_inj, String.toList_intercalate]
  have hlen := length_le_intercalate (fun h => hsep (String.toList_eq_nil_iff.1 h))
    (l.map String.toList)
  rw [textSplits, List.mem_map]
  constructor
  · intro h
    obtain ⟨cs, hcs, he⟩ := h
    obtain ⟨hne, -, hjoin⟩ := mem_splits.1 hcs
    have hmap : l.map String.toList = cs := by
      rw [← he, List.map_map]
      exact List.map_id'' (fun _ => String.toList_ofList) cs
    refine ⟨fun hl => hne ?_, htext.2 (by rw [hmap, hjoin])⟩
    rw [← hmap, hl, List.map_nil]
  · intro h
    obtain ⟨hne, hjoin⟩ := h
    rw [htext.1 hjoin] at hlen
    refine ⟨l.map String.toList, mem_splits.2 ⟨?_, hlen, htext.1 hjoin⟩, ?_⟩
    · exact fun hl => hne (List.map_eq_nil_iff.1 hl)
    · rw [List.map_map]
      exact List.map_id'' (fun _ => String.ofList_toList) l

theorem intercalate_concat (sep last : String) (l : List String) :
    sep.intercalate (l ++ [last]) =
      l.foldl (fun text part => text ++ (part ++ sep)) "" ++ last := by
  induction l using List.reverseRecOn generalizing last with
  | nil => rw [List.nil_append, String.intercalate_singleton, List.foldl_nil, String.empty_append]
  | append_singleton l a ih =>
    rw [String.intercalate_append_of_ne_nil (List.concat_ne_nil a l) (List.cons_ne_nil _ _), ih a,
      String.intercalate_singleton, List.foldl_concat, String.append_assoc, String.append_assoc,
      String.append_assoc, String.append_assoc]

theorem foldl_eq_intercalate_append {l : List String} (h : l ≠ []) (sep : String) :
    l.foldl (fun text part => text ++ (part ++ sep)) "" = sep.intercalate l ++ sep := by
  obtain ⟨l', last, hl⟩ := List.eq_nil_or_concat l |>.resolve_left h
  rw [hl, List.concat_eq_append, intercalate_concat, List.foldl_concat, String.append_assoc]

end TrainingDemos
