import Mathlib

/-! Decimal numerals in text: they hold no other character than digits and a sign, so what stands
before a separator and a numeral can be read back. -/
namespace SessionManager.Foundation.Numerals

theorem separated_inj {α : Type} {mark : α} {first second before after : List α}
    (hs : first ++ mark :: before = second ++ mark :: after) (left : mark ∉ before)
    (right : mark ∉ after) : first = second ∧ before = after := by
  rcases List.append_eq_append_iff.mp hs with ⟨gap, rfl, rest⟩ | ⟨gap, rfl, rest⟩
  · cases gap with
    | nil => exact ⟨(List.append_nil _).symm, (List.cons.inj rest).2⟩
    | cons =>
      refine absurd ?_ left
      rw [(List.cons.inj rest).2]
      simp
  · cases gap with
    | nil => exact ⟨List.append_nil _, (List.cons.inj rest).2.symm⟩
    | cons =>
      refine absurd ?_ right
      rw [(List.cons.inj rest).2]
      simp

theorem isDigit_of_mem_repr {number : Nat} {character : Char}
    (hm : character ∈ number.repr.toList) : character.isDigit := by
  rw [Nat.repr, String.toList_ofList] at hm
  exact Nat.isDigit_of_mem_toDigits (by decide) (by decide) hm

theorem toList_toString_negSucc (number : Nat) :
    (toString (Int.negSucc number)).toList = '-' :: (number + 1).repr.toList := by
  show ("-" ++ (number + 1).repr).toList = '-' :: (number + 1).repr.toList
  rw [String.toList_append]
  rfl

theorem colon_not_mem_int (number : Int) : ':' ∉ (toString number).toList := by
  intro hm
  cases number with
  | ofNat => cases isDigit_of_mem_repr hm
  | negSucc =>
    rw [toList_toString_negSucc] at hm
    rcases List.mem_cons.mp hm with sign | digits
    · cases sign
    · cases isDigit_of_mem_repr digits

end SessionManager.Foundation.Numerals
