import Stepwise.Text.Numeral

namespace Stepwise.Text

/-- The digits are apart from the blanks. -/
private theorem isBlank_of_isDigit {c : Char} (hdigit : isDigit c = true) : isBlank c = false := by
  refine Bool.eq_false_iff.2 fun hblank => ?_
  obtain ⟨range, hrange, hlow, hhigh⟩ := Ranges.exists_of_contains hblank
  rcases Bool.or_eq_true_iff.1 hdigit with hdecimal | hlone
  · obtain ⟨value, hvalue⟩ := Option.isSome_iff_exists.1 hdecimal
    obtain ⟨row, hrow, _, _, _⟩ := exists_row_of_decimalValue? hvalue
    have hapart : ∀ row ∈ decimalZeros, ∀ range ∈ blankRanges.bounds,
        range.2 < row ∨ row + 10 ≤ range.1 := by decide
    have := hapart row hrow range hrange
    omega
  · obtain ⟨other, hother, _, _⟩ := Ranges.exists_of_contains hlone
    have hapart : ∀ other ∈ loneDigitRanges.bounds, ∀ range ∈ blankRanges.bounds,
        range.2 < other.1 ∨ other.2 < range.1 := by decide
    have := hapart other hother range hrange
    omega

/-- The digits of the ASCII range are decimal ones. -/
private theorem exists_decimalValue?_of_lt {c : Char} (hlow : c.toNat < 0x80)
    (hdigit : isDigit c = true) : ∃ value, decimalValue? c = some value := by
  rcases Bool.or_eq_true_iff.1 hdigit with hdecimal | hlone
  · exact Option.isSome_iff_exists.1 hdecimal
  · obtain ⟨range, hrange, hin, _⟩ := Ranges.exists_of_contains hlone
    have hbeyond : ∀ range ∈ loneDigitRanges.bounds, 0x80 ≤ range.1 := by decide
    have := hbeyond range hrange
    omega

private theorem ofNat_decimalValue?_of_lt {c : Char} (hlow : c.toNat < 0x80) {value : Nat}
    (hvalue : decimalValue? c = some value) : Char.ofNat (48 + value) = c := by
  obtain ⟨row, hrow, hle, _, rfl⟩ := exists_row_of_decimalValue? hvalue
  have honly : ∀ row ∈ decimalZeros, row < 0x80 → row = 48 := by decide
  obtain rfl := honly row hrow (by omega)
  rw [Nat.add_sub_cancel' hle, Char.ofNat_toNat]

/-- The ASCII digit with the value of a decimal digit, and a question mark for another character. -/
private def asciiDigit (c : Char) : Char :=
  match decimalValue? c with
  | some value => Char.ofNat (48 + value)
  | none => '?'

/-- A numeral of digits becomes one of ASCII digits, with marks for those that are not decimal. -/
private theorem asciiNumeral_of_isDigit {cs : List Char} (hdigits : ∀ c ∈ cs, isDigit c) :
    asciiNumeral cs = cs.map asciiDigit := by
  unfold asciiNumeral
  split
  next hascii =>
    rw [List.map_congr_left (g := id), List.map_id]
    intro c hc
    have hlow : c.toNat < 0x80 := by simpa using List.all_eq_true.1 hascii c hc
    obtain ⟨value, hvalue⟩ := exists_decimalValue?_of_lt hlow (hdigits c hc)
    rw [asciiDigit, hvalue, id_eq]
    exact ofNat_decimalValue?_of_lt hlow hvalue
  next =>
    refine List.map_congr_left fun c hc => ?_
    have hblank := isBlank_of_isDigit (hdigits c hc)
    rw [asciiDigit]
    cases hvalue : decimalValue? c with
    | some value => simp [hblank]
    | none =>
      have hhigh : ¬ c.toNat < 0x80 := fun hlow => by
        obtain ⟨value, hsome⟩ := exists_decimalValue?_of_lt hlow (hdigits c hc)
        rw [hvalue] at hsome
        cases hsome
      simp [hblank, hhigh]

/-- The decimal digits at the front become ASCII digits, and the rest begins with a mark. -/
private theorem exists_map_asciiDigit (cs : List Char) :
    ∃ (digits : List Nat) (rest : List Char), (∀ digit ∈ digits, digit < 10) ∧
      rest.head?.all (· == '?') ∧
      cs.map asciiDigit = digits.map (fun digit => Char.ofNat (48 + digit)) ++ rest ∧
      (rest = [] → cs.map decimalValue? = digits.map some) ∧
      (rest ≠ [] → ∃ c ∈ cs, decimalValue? c = none) := by
  induction cs with
  | nil => exact ⟨[], [], by simp, rfl, rfl, fun _ => rfl, fun hne => absurd rfl hne⟩
  | cons c cs ih =>
    obtain ⟨digits, rest, hdigits, hmark, hmap, hall, hlone⟩ := ih
    rw [List.map_cons, asciiDigit]
    cases hvalue : decimalValue? c with
    | none =>
      exact ⟨[], '?' :: cs.map asciiDigit, by simp, rfl, rfl, nofun,
        fun _ => ⟨c, List.mem_cons_self, hvalue⟩⟩
    | some value =>
      refine ⟨value :: digits, rest, List.forall_mem_cons.2 ⟨decimalValue?_lt hvalue, hdigits⟩,
        hmark, by simp [hmap], fun hrest => by simp [hvalue, hall hrest], fun hrest => ?_⟩
      obtain ⟨other, hother, hnone⟩ := hlone hrest
      exact ⟨other, List.mem_cons_of_mem _ hother, hnone⟩

/-- A text of decimal digits, of any scripts, is read as the number that it is unless there are too
    many of them. -/
theorem readInteger_decimals {cs : List Char} {values : List Nat} (hne : values ≠ [])
    (hvalues : cs.map decimalValue? = values.map some) :
    readInteger 10 (asciiNumeral cs) =
      if maxIntegerDigits < values.length then .error (.tooLong values.length)
      else .ok (valueOfDigits 10 values) := by
  have hsome : ∀ c ∈ cs, (decimalValue? c).isSome := by
    intro c hc
    obtain ⟨value, _, hvalue⟩ := List.mem_map.1 (hvalues ▸ List.mem_map_of_mem hc)
    rw [← hvalue, Option.isSome_some]
  obtain ⟨digits, rest, hdigits, hmark, hmap, hall, hlone⟩ := exists_map_asciiDigit cs
  obtain rfl : rest = [] := Decidable.byContradiction fun hrest => by
    obtain ⟨c, hc, hnone⟩ := hlone hrest
    have := hsome c hc
    rw [hnone] at this
    cases this
  obtain rfl : values = digits :=
    (List.map_inj_right fun _ _ => Option.some.inj).1 (hvalues.symm.trans (hall rfl))
  have hall : ∀ c ∈ cs, isDigit c := fun c hc => Bool.or_eq_true_iff.2 (.inl (hsome c hc))
  rw [asciiNumeral_of_isDigit hall, hmap, readInteger_digits hdigits hmark]
  simp [hne]

/-- A text of digits that are not all decimal is no integer. -/
theorem readInteger_lone {cs : List Char} (hall : ∀ c ∈ cs, isDigit c) {c : Char} (hc : c ∈ cs)
    (hnone : decimalValue? c = none) :
    ∃ fault, readInteger 10 (asciiNumeral cs) = .error fault := by
  obtain ⟨digits, rest, hdigits, hmark, hmap, hvalues, _⟩ := exists_map_asciiDigit cs
  have hrest : rest ≠ [] := fun hnil => by
    obtain ⟨value, _, hvalue⟩ := List.mem_map.1 (hvalues hnil ▸ List.mem_map_of_mem hc)
    rw [hnone] at hvalue
    cases hvalue
  rw [asciiNumeral_of_isDigit hall, hmap, readInteger_digits hdigits hmark]
  split
  · exact ⟨_, rfl⟩
  · exact ⟨.malformed, by simp [hrest]⟩

end Stepwise.Text
