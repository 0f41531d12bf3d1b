namespace Stepwise.Text

/-- An ascending table of closed ranges of code points. -/
structure Ranges where
  bounds : List (Nat × Nat)

/-- The character lies in one of the ranges. -/
def Ranges.contains (table : Ranges) (c : Char) : Bool :=
  table.bounds.any fun (low, high) => low ≤ c.toNat && c.toNat ≤ high

theorem Ranges.exists_of_contains {table : Ranges} {c : Char} (hmem : table.contains c = true) :
    ∃ range ∈ table.bounds, range.1 ≤ c.toNat ∧ c.toNat ≤ range.2 := by
  obtain ⟨range, hrange, hin⟩ := List.any_eq_true.1 hmem
  simp only [Bool.and_eq_true, decide_eq_true_eq] at hin
  exact ⟨range, hrange, hin⟩

end Stepwise.Text
