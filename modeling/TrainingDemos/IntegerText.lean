namespace TrainingDemos
set_option autoImplicit true

/-- The integers of Swift's `Int`. -/
def Int64Range (n : Int) : Prop := -9223372036854775808 ≤ n ∧ n ≤ 9223372036854775807

instance (n : Int) : Decidable (Int64Range n) := inferInstanceAs (Decidable (_ ∧ _))

namespace IntegerText

/-- At least one ASCII digit, and nothing else. -/
def natural (cs : List Char) : Option Nat :=
  if cs ≠ [] ∧ cs.all Char.isDigit then some (Nat.ofDigitChars 10 cs 0) else none

def signed : List Char → Option Int
  | '-' :: cs => (natural cs).map fun n => -(n : Int)
  | '+' :: cs => (natural cs).map Int.ofNat
  | cs => (natural cs).map Int.ofNat

/-- `Int(text)`: nil for text that is no number or lies outside the 64-bit range. -/
def parse (text : String) : Option Int :=
  (signed text.toList).filter fun n => decide (Int64Range n)

/-- `"\(n)"`. -/
def print : Int → String
  | .ofNat n => n.repr
  | .negSucc n => "-" ++ (n + 1).repr

theorem natural_toDigits (n : Nat) : natural (Nat.toDigits 10 n) = some n := by
  have hall : (Nat.toDigits 10 n).all Char.isDigit = true := by
    rw [List.all_eq_true]
    intro c hc
    exact Nat.isDigit_of_mem_toDigits (by decide) (by decide) hc
  rw [natural, if_pos ⟨Nat.toDigits_ne_nil, hall⟩, Nat.ofDigitChars_ten_toDigits]

theorem signed_of_natural (h : natural cs = some n) : signed cs = some (n : Int) := by
  have hall : cs.all Char.isDigit = true := by
    rw [natural] at h
    split at h
    · rename_i hc
      exact hc.2
    · cases h
  unfold signed
  split
  · cases hall
  · cases hall
  · rw [h]
    rfl

theorem signed_print (n : Int) : signed (print n).toList = some n := by
  cases n with
  | ofNat n =>
    rw [print, Nat.toList_repr]
    exact signed_of_natural (natural_toDigits n)
  | negSucc n =>
    have hl : (print (.negSucc n)).toList = '-' :: Nat.toDigits 10 (n + 1) := by
      rw [print, String.toList_append, Nat.toList_repr]
      rfl
    rw [hl, signed, natural_toDigits]
    rfl

theorem parse_print (h : Int64Range n) : parse (print n) = some n := by
  rw [parse, signed_print, Option.filter_some, if_pos (decide_eq_true h)]

theorem parse_range (h : parse text = some n) : Int64Range n := by
  rw [parse, Option.filter_eq_some_iff] at h
  exact of_decide_eq_true h.2

example : [parse "12", parse "+7", parse "-0", parse "1.5", parse "", parse "9223372036854775808"] =
    [some 12, some 7, some 0, none, none, none] := by
  decide +kernel

end IntegerText

end TrainingDemos
