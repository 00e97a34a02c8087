import Almanac.DateMath.Expression
import Almanac.Proofs.Outcome
/-!
# Evaluation step by step

Operations are applied from the left, and the first that fails ends the evaluation.  So operations
in two parts are evaluated in two goes, the second from where the first has arrived.
-/

namespace Almanac.DateMath

variable {rounding : Rounding} {i j : Instant} {op : Operation} {pre post ops : List Operation}

theorem evaluate_cons_eq_ok :
    evaluate rounding i (op :: ops) = .ok j ↔
      ∃ i', op.apply rounding i = .ok i' ∧ evaluate rounding i' ops = .ok j :=
  bind_eq_ok

theorem evaluate_append_eq_ok :
    evaluate rounding i (pre ++ post) = .ok j ↔
      ∃ y, evaluate rounding i pre = .ok y ∧ evaluate rounding y post = .ok j := by
  induction pre generalizing i with
  | nil =>
      constructor
      · intro h
        exact ⟨i, rfl, h⟩
      · rintro ⟨y, hy, h⟩
        cases hy
        exact h
  | cons op pre ih =>
      rw [List.cons_append, evaluate_cons_eq_ok]
      constructor
      · rintro ⟨i', hi', h⟩
        obtain ⟨y, hy, h⟩ := ih.mp h
        exact ⟨y, evaluate_cons_eq_ok.mpr ⟨i', hi', hy⟩, h⟩
      · rintro ⟨y, hy, h⟩
        obtain ⟨i', hi', hy⟩ := evaluate_cons_eq_ok.mp hy
        exact ⟨i', hi', ih.mpr ⟨y, hy, h⟩⟩

end Almanac.DateMath
