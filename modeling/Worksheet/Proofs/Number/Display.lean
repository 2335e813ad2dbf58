import Mathlib
import Worksheet.Number.Display
import Worksheet.Proofs.Number.Kind
import Worksheet.Proofs.Number.Numeral
import Worksheet.Proofs.Number.Shortest
import Worksheet.Proofs.Text.Digits

/-!
# Displayed numbers are read back

The text of a number is a numeral in either notation: plain notation moves the point and pads with
zeros, exponent notation moves the rest of the power of ten into an exponent, and neither changes
the value (`exists_positional`, `exists_scientific`).  Since the digits are the shortest ones that
read back, so does the text (`exists_numeral_displayChars`).  Only the sign of a negative zero is
lost.
-/

namespace Worksheet

namespace Number

/-! ### The two notations -/

open Unsigned

variable {ds : List Char}

/-- Plain notation denotes the digits scaled to the point. -/
lemma exists_positional (hds : ∀ c ∈ ds, c.isDigit = true) (hne : ds ≠ []) (point : ℤ) :
    ∃ whole fraction, (decimal whole fraction none).WellFormed ∧
      (decimal whole fraction none).chars = positional ds point ∧
      (toDecimal whole fraction none).value =
        Text.digitsValue ds * (10 : ℚ) ^ (point - ds.length) := by
  have hzeros : ∀ n, ∀ c ∈ List.replicate n '0', c.isDigit = true := by
    intro n c hc
    rw [List.eq_of_mem_replicate hc]
    rfl
  by_cases hsmall : point ≤ 0
  · -- zeros stand between the point and the digits
    refine ⟨['0'], some (List.replicate (-point).toNat '0' ++ ds),
      .decimal (by simp) ?_ (Or.inl (List.cons_ne_nil _ _)) nofun, ?_, ?_⟩
    · intro fraction hfraction c hc
      obtain rfl := Option.some.inj hfraction
      exact (List.mem_append.mp hc).elim (hzeros _ c) (hds c)
    · simp [Unsigned.chars, positional, if_pos hsmall]
    · have hvalue : Text.digitsValue (['0'] ++ (List.replicate (-point).toNat '0' ++ ds)) =
          Text.digitsValue ds := by
        rw [← List.append_assoc]
        exact Text.digitsValue_zeros_append ((-point).toNat + 1) ds
      rw [Decimal.value_eq]
      simp only [toDecimal, Option.getD_some, Option.elim_none, hvalue, List.length_append,
        List.length_replicate]
      congr 2
      push_cast
      omega
  by_cases hpadded : ds.length ≤ point.toNat
  · -- zeros stand behind the digits
    refine ⟨ds ++ List.replicate (point.toNat - ds.length) '0', none,
      .decimal ?_ nofun (Or.inl (List.append_ne_nil_of_left_ne_nil hne _)) nofun, ?_, ?_⟩
    · exact fun c hc => (List.mem_append.mp hc).elim (hds c) (hzeros _ c)
    · simp [Unsigned.chars, positional, if_neg hsmall, if_pos hpadded]
    · obtain ⟨k, hk⟩ : ∃ k : ℕ, point - ds.length = k := ⟨point.toNat - ds.length, by omega⟩
      have hcount : point.toNat - ds.length = k := by omega
      rw [Decimal.value_eq]
      simp only [toDecimal, Option.getD_none, Option.elim_none, List.append_nil, hcount, hk,
        Text.digitsValue_append_zeros, List.length_nil]
      push_cast
      simp
  · -- the point stands between the digits
    refine ⟨ds.take point.toNat, some (ds.drop point.toNat),
      .decimal (fun c hc => hds c (List.mem_of_mem_take hc)) ?_ (Or.inl ?_) nofun, ?_, ?_⟩
    · intro fraction hfraction c hc
      obtain rfl := Option.some.inj hfraction
      exact hds c (List.mem_of_mem_drop hc)
    · rw [Ne, List.take_eq_nil_iff]
      rintro (h | h)
      · omega
      · exact hne h
    · simp [Unsigned.chars, positional, if_neg hsmall, if_neg hpadded]
    · rw [Decimal.value_eq]
      simp only [toDecimal, Option.getD_some, Option.elim_none, List.take_append_drop,
        List.length_drop]
      congr 2
      omega

/-- Exponent notation denotes the digits scaled to the point. -/
lemma exists_scientific (hds : ∀ c ∈ ds, c.isDigit = true) (hne : ds ≠ []) (point : ℤ) :
    ∃ whole fraction exponent, (decimal whole fraction exponent).WellFormed ∧
      (decimal whole fraction exponent).chars = scientific ds point ∧
      (toDecimal whole fraction exponent).value =
        Text.digitsValue ds * (10 : ℚ) ^ (point - ds.length) := by
  set exponent : Exponent :=
    ⟨'e', some (if point < 1 then .minus else .plus), Text.digits (point - 1).natAbs⟩ with hexp
  have hexponent : ∀ e ∈ some exponent, e.WellFormed := by
    intro e he
    obtain rfl := Option.some.inj he
    exact ⟨Or.inl rfl, Text.digits_ne_nil _, fun c hc => Text.isDigit_of_mem_digits hc⟩
  have hchars : exponent.chars =
      'e' :: (if point < 1 then '-' else '+') :: Text.digits (point - 1).natAbs := by
    rw [hexp]
    by_cases h : point < 1 <;> simp [Exponent.chars, Sign.chars, Sign.toChar, h]
  have hvalue : exponent.value = point - 1 := by
    rw [hexp]
    by_cases h : point < 1
    · simp only [Exponent.value, if_pos h, Text.digitsValue_digits]
      omega
    · simp only [Exponent.value, if_neg h, Text.digitsValue_digits]
      omega
  obtain ⟨d, rest, rfl⟩ := List.exists_cons_of_ne_nil hne
  obtain ⟨hd, hrest⟩ := List.forall_mem_cons.mp hds
  have hfirst : ∀ c ∈ [d], c.isDigit = true := by simpa using hd
  cases rest with
  | nil =>
    refine ⟨[d], none, some exponent,
      .decimal hfirst ?_ (Or.inl (List.cons_ne_nil _ _)) hexponent, ?_, ?_⟩
    · intro fraction hfraction
      cases hfraction
    · simp [Unsigned.chars, scientific, leading, hchars]
    · rw [Decimal.value_eq]
      simp [toDecimal, hvalue]
  | cons d' rest =>
    refine ⟨[d], some (d' :: rest), some exponent,
      .decimal hfirst ?_ (Or.inl (List.cons_ne_nil _ _)) hexponent, ?_, ?_⟩
    · intro fraction hfraction
      obtain rfl := Option.some.inj hfraction
      exact hrest
    · simp [Unsigned.chars, scientific, leading, hchars]
    · rw [Decimal.value_eq]
      simp only [toDecimal, Option.elim_some, Option.getD_some, hvalue, List.singleton_append,
        List.length_cons]
      congr 2
      push_cast
      omega

/-- The text of a positive finite double is a numeral that denotes the double. -/
lemma exists_unsigned_magnitudeChars {b : ℕ} (hb : b ≤ Binary64.infinity) :
    ∃ u : Unsigned, u.WellFormed ∧ u.chars = magnitudeChars b ∧ u.number = b := by
  set d := Decimal.shortest b with hd
  set ds := Text.digits d.coefficient with hds
  have hdigits : ∀ c ∈ ds, c.isDigit = true := fun c hc => Text.isDigit_of_mem_digits hc
  have hne : ds ≠ [] := Text.digits_ne_nil _
  have hvalue :
      (Text.digitsValue ds : ℚ) * 10 ^ (d.exponent + ds.length - ds.length) = d.value := by
    rw [hds, Text.digitsValue_digits, ← hds, add_sub_cancel_right, Decimal.value_eq]
  have hnearest : Binary64.nearest d.value = b := by
    rw [← Decimal.nearest_eq, hd, Decimal.nearest_shortest hb]
  by_cases hplain : plainFrom ≤ b ∧ b < plainBelow
  · obtain ⟨whole, fraction, hform, hchars, hdecimal⟩ :=
      exists_positional hdigits hne (d.exponent + ds.length)
    refine ⟨_, hform, ?_, ?_⟩
    · rw [hchars, magnitudeChars, if_pos hplain]
    · rw [Unsigned.number, Decimal.nearest_eq, hdecimal, hvalue, hnearest]
  · obtain ⟨whole, fraction, exponent, hform, hchars, hdecimal⟩ :=
      exists_scientific hdigits hne (d.exponent + ds.length)
    refine ⟨_, hform, ?_, ?_⟩
    · rw [hchars, magnitudeChars, if_neg hplain]
    · rw [Unsigned.number, Decimal.nearest_eq, hdecimal, hvalue, hnearest]

/-! ### Doubles -/

/-- The text of a finite double is a numeral that denotes it, unless it is the negative zero. -/
theorem exists_numeral_displayChars {x : Float} (hnan : x.isNaN = false) (hinf : x.isInf = false)
    (hzero : x ≠ -0) :
    ∃ n : Numeral, n.size.WellFormed ∧ n.chars = displayChars x ∧ n.value = x := by
  have hlt := Binary64.number_lt_infinity hnan hinf
  by_cases hnumber : Binary64.number x = 0
  · obtain rfl : x = 0 := (Binary64.eq_zero_of_number_eq_zero hnumber).resolve_right hzero
    refine ⟨⟨none, .decimal ['0'] none none⟩, ?_, rfl, ?_⟩
    · exact .decimal (by simp) nofun (Or.inl (List.cons_ne_nil _ _)) nofun
    · rfl
  · obtain ⟨u, hform, hchars, hvalue⟩ := exists_unsigned_magnitudeChars hlt.le
    refine ⟨⟨if Binary64.isNegative x then some .minus else none, u⟩, hform, ?_, ?_⟩
    · simp only [displayChars, if_neg (not_lt.mpr hlt.le), if_neg hnumber, if_neg hlt.ne,
        Numeral.chars, hchars]
      cases Binary64.isNegative x <;> rfl
    · rw [Numeral.value, hvalue]
      conv_rhs => rw [← Binary64.ofParts_number x]
      cases Binary64.isNegative x <;> rfl

/-- The text of a finite double is a numeral, of the double itself or of zero. -/
lemma exists_numeral_display {x : Float} (hx : x.isFinite = true) :
    ∃ n : Numeral, n.size.WellFormed ∧ n.chars = displayChars x ∧
      n.value = if x == 0 then 0 else x := by
  obtain ⟨hnan, hinf⟩ := Binary64.isFinite_iff.mp hx
  by_cases hzero : x = -0
  · subst hzero
    obtain ⟨n, hform, hchars, hvalue⟩ :=
      exists_numeral_displayChars (x := 0) (by decide) (by decide) (by decide)
    exact ⟨n, hform, hchars, hvalue⟩
  · obtain ⟨n, hform, hchars, hvalue⟩ := exists_numeral_displayChars hnan hinf hzero
    refine ⟨n, hform, hchars, ?_⟩
    split
    · next hx0 => rw [hvalue, (Binary64.beq_zero_iff.mp hx0).resolve_right hzero]
    · exact hvalue

/-- The text of a finite double is read back. -/
lemma read?_display {x : Float} (hx : x.isFinite = true) :
    Numeral.read? (display x).toList = some (if x == 0 then 0 else x) := by
  obtain ⟨n, hform, hchars, hvalue⟩ := exists_numeral_display hx
  rw [display, String.toList_ofList, ← hchars, Numeral.read?_chars hform, hvalue]

/-- The text of a finite double is read back with nothing skipped or left over, as zero if it is one
of the zeros and as the double itself if it is not.  Hence only the two zeros have the same text. -/
theorem display_read_back {x : Float} (hx : x.isFinite = true) :
    (∃ n, (display x).toList.dropWhile Numeral.isSpace = (display x).toList ∧
      Numeral.scan? (display x).toList = some (n, [])) ∧
      Numeral.read? (display x).toList = some (if x == 0 then 0 else x) ∧
      ∀ y : Float, y.isFinite = true → display y = display x →
        y = x ∨ (y == 0) = true ∧ (x == 0) = true := by
  refine ⟨?_, read?_display hx, ?_⟩
  · obtain ⟨n, hform, hchars, -⟩ := exists_numeral_display hx
    refine ⟨n, ?_⟩
    rw [display, String.toList_ofList, ← hchars]
    exact ⟨Numeral.dropWhile_isSpace_chars hform, Numeral.scan?_chars hform⟩
  · intro y hy heq
    have hread := read?_display hy
    rw [heq, read?_display hx, Option.some.injEq] at hread
    split at hread
    · next hx0 =>
      split at hread
      · next hy0 => exact Or.inr ⟨hy0, hx0⟩
      · exact Or.inr ⟨Binary64.beq_zero_iff.mpr (Or.inl hread.symm), hx0⟩
    · next hx0 =>
      split at hread
      · exact absurd (Binary64.beq_zero_iff.mpr (Or.inl hread)) hx0
      · exact Or.inl hread.symm

/-- The least positive double, of which one digit is shown. -/
theorem display_read_back_of_least :
    (Float.ofBits 1).isFinite = true ∧ display (Float.ofBits 1) = "5e-324" ∧
      Numeral.read? (display (Float.ofBits 1)).toList = some (Float.ofBits 1) := by
  have hfinite : (Float.ofBits 1).isFinite = true := by decide
  obtain ⟨-, hread, -⟩ := display_read_back hfinite
  exact ⟨hfinite, by decide +kernel, hread⟩

end Number

end Worksheet
