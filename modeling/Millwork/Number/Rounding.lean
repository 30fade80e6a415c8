namespace Millwork

/-- The whole number nearest to `num / den`; halfway between two, the even one. -/
def nearestQuotient (num den : Nat) : Nat :=
  let quotient := num / den
  let rest := 2 * (num % den)
  if rest < den then quotient
  else if den < rest then quotient + 1
  else quotient + quotient % 2

theorem nearestQuotient_near (num den : Nat) (positive : 0 < den) :
    2 * (nearestQuotient num den * den) ≤ 2 * num + den ∧
      2 * num ≤ 2 * (nearestQuotient num den * den) + den := by
  have division : num / den * den + num % den = num := by
    rw [Nat.mul_comm]; exact Nat.div_add_mod num den
  have below : num % den < den := Nat.mod_lt _ positive
  have next : (num / den + 1) * den = num / den * den + den := by rw [Nat.add_mul, Nat.one_mul]
  have parity : num / den % 2 = 0 ∨ num / den % 2 = 1 := by omega
  simp only [nearestQuotient]
  split
  · omega
  · split
    · omega
    · rcases parity with even | odd
      · rw [even, Nat.add_zero]; omega
      · rw [odd]; omega

theorem nearestQuotient_mul (n den : Nat) (positive : 0 < den) :
    nearestQuotient (n * den) den = n := by
  simp [nearestQuotient, Nat.mul_div_cancel n positive, positive]

theorem nearestQuotient_cases (num den : Nat) :
    nearestQuotient num den = num / den ∨ nearestQuotient num den = num / den + 1 := by
  simp only [nearestQuotient]
  have parity : num / den % 2 = 0 ∨ num / den % 2 = 1 := by omega
  split
  · exact .inl rfl
  · split
    · exact .inr rfl
    · rcases parity with even | odd
      · simp [even]
      · simp [odd]

end Millwork
