import TypedLiterals.Proofs.Number.DecimalText
import TypedLiterals.Proofs.Number.PointText

/-!
The two forms of an integer with a sign or none: decimal and hexadecimal. What is written for an
integer is decimal and is read as the integer, so a hexadecimal text can be written anew without
changing the value.
-/

namespace TypedLiterals

/-- A sign or none, and then nothing but decimal digits. -/
structure PlainDecimal (text : String) : Prop where
  ne : (splitSign text.toList).2 ≠ []
  digits : ∀ c ∈ (splitSign text.toList).2, c.isDigit = true

variable {cs row : List Char} {text : String} {value : Int} {n : Nat}

theorem naturalText_of_readMagnitude? (h : readMagnitude? cs = some n) : NaturalText cs := by
  have hrow {base : Nat} {accept : Char → Bool} {digits : List Char}
      (hread : readDigits? base accept digits = some n) :
      digits ≠ [] ∧ ∀ c ∈ digits, accept c = true := by
    rw [readDigits?] at hread
    split at hread
    · rename_i hdigits
      exact ⟨hdigits.1, List.all_eq_true.mp hdigits.2⟩
    · cases hread
  rw [readMagnitude?.eq_def] at h
  split at h
  · exact .hexadecimal (.inl rfl) (hrow h).1 (hrow h).2
  · exact .hexadecimal (.inr rfl) (hrow h).1 (hrow h).2
  · exact .decimal (hrow h).1 (hrow h).2

theorem readInteger?_eq_map (text : String) :
    readInteger? text = (readMagnitude? (splitSign text.toList).2).map fun n : Nat =>
      if (splitSign text.toList).1 then -(n : Int) else (n : Int) := by
  rw [readInteger?, readIntegerChars?]
  dsimp only
  cases readMagnitude? (splitSign text.toList).2 <;> rfl

theorem naturalText_of_readInteger? (h : readInteger? text = some value) :
    NaturalText (splitSign text.toList).2 := by
  rw [readInteger?_eq_map] at h
  obtain ⟨n, hn, -⟩ := Option.map_eq_some_iff.mp h
  exact naturalText_of_readMagnitude? hn

section Hexadecimal

theorem NaturalText.isDigit_of_head? (h : NaturalText row) {c : Char} (hc : c ∈ row.head?) :
    c.isDigit = true := by
  cases h with
  | decimal _ digits => exact digits c (List.mem_of_mem_head? hc)
  | hexadecimal _ _ _ =>
    obtain rfl := Option.some.inj hc
    rfl

theorem dropWhile_sign (hhead : ∀ c ∈ row.head?, c ≠ '-' ∧ c ≠ '+') :
    row.dropWhile (fun c => c = '-' || c = '+') = row := by
  cases row with
  | nil => rfl
  | cons d rest =>
    obtain ⟨hminus, hplus⟩ := hhead d rfl
    rw [List.dropWhile_cons_of_neg]
    simp [hminus, hplus]

-- Any number of signs may be taken off an integer, for there is one at most.
theorem dropWhile_sign_of_naturalText (h : NaturalText (splitSign cs).2) :
    cs.dropWhile (fun c => c = '-' || c = '+') = (splitSign cs).2 := by
  have hhead : ∀ c ∈ (splitSign cs).2.head?, c ≠ '-' ∧ c ≠ '+' := by
    intro c hc
    have hdigit := h.isDigit_of_head? hc
    constructor <;> rintro rfl <;> cases hdigit
  rw [splitSign.eq_def] at hhead ⊢
  split at hhead
  · exact dropWhile_sign hhead
  · exact dropWhile_sign hhead
  · exact dropWhile_sign hhead

theorem isHexText_of_plainDecimal (h : PlainDecimal text) : isHexText text = false := by
  have hnatural : NaturalText (splitSign text.toList).2 := .decimal h.ne h.digits
  rw [isHexText, dropWhile_sign_of_naturalText hnatural]
  split
  · rename_i x rest heq
    have hx : x.isDigit = true := h.digits x (by simp [heq])
    have hmark : ∀ mark : Char, mark.isDigit = false → decide (x = mark) = false := by
      intro mark hmark
      rw [decide_eq_false_iff_not]
      rintro rfl
      rw [hmark] at hx
      cases hx
    rw [hmark 'x' (by decide), hmark 'X' (by decide)]
    rfl
  · rfl

/-- Every text that is read as an integer is in one of the two forms. -/
theorem plainDecimal_or_isHexText (h : readInteger? text = some value) :
    PlainDecimal text ∨ isHexText text = true := by
  have hnatural := naturalText_of_readInteger? h
  have hsigns := dropWhile_sign_of_naturalText hnatural
  generalize hrow : (splitSign text.toList).2 = row at hnatural hsigns
  cases hnatural with
  | decimal ne digits => exact .inl ⟨hrow ▸ ne, hrow ▸ digits⟩
  | hexadecimal isMark _ _ =>
    right
    rw [isHexText, hsigns]
    rcases isMark with rfl | rfl <;> rfl

end Hexadecimal

section Writing

-- The sign that is split off a written integer is its own.
theorem splitSign_writeInteger (i : Int) :
    splitSign (writeInteger i).toList = (decide (i < 0), Nat.toDigits 10 i.natAbs) := by
  rw [writeInteger, String.toList_ofList]
  by_cases hnegative : i < 0
  · rw [if_pos hnegative, decide_eq_true hnegative]
    rfl
  · rw [if_neg hnegative, decide_eq_false hnegative]
    have hne : Nat.toDigits 10 i.natAbs ≠ [] := Nat.toDigits_ne_nil
    obtain ⟨d, rest, hcons⟩ := List.exists_cons_of_ne_nil hne
    have hd : d.isDigit = true := isDigit_of_mem_toDigits (hcons ▸ List.mem_cons_self)
    rw [hcons]
    exact splitSign_of_digit hd

theorem plainDecimal_writeInteger (i : Int) : PlainDecimal (writeInteger i) where
  ne := by
    rw [splitSign_writeInteger]
    exact Nat.toDigits_ne_nil
  digits := by
    rw [splitSign_writeInteger]
    exact fun _ => isDigit_of_mem_toDigits

/-- An integer is read from what is written for it, whatever its size. -/
theorem readInteger?_writeInteger (i : Int) : readInteger? (writeInteger i) = some i := by
  have hmagnitude : readMagnitude? (Nat.toDigits 10 i.natAbs) = some i.natAbs := by
    rw [readMagnitude?_of_digits Nat.toDigits_ne_nil fun _ => isDigit_of_mem_toDigits,
      ofDigits_toDigits]
  rw [readInteger?_eq_map, splitSign_writeInteger, hmagnitude, Option.map_some]
  congr 1
  by_cases hnegative : i < 0
  · rw [decide_eq_true hnegative, if_pos rfl]
    omega
  · rw [decide_eq_false hnegative, if_neg Bool.false_ne_true]
    omega

end Writing

end TypedLiterals
