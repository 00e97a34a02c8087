import Mathlib.Data.List.Forall2
import Almanac.Proofs.DateMath.Evaluation
import Almanac.Proofs.DateMath.Grammar
import Almanac.Proofs.Resolver.Default
/-!
# Date math composes

Operations are written without separators, and their reader takes as many digits and letters as it
can.  The seam between two texts of operations holds all the same: two texts of tokens are one, and
it is read as what its tokens spell.  So the operations of both texts together are those of the
first and then those of the second (`scanOperations_append`).

In the default format a text from `NOW` is left to date math and has the value of its operations
(`resolveText_now`).  The main statement puts both together: to move on from `NOW` by two texts at
once is to move on by the first, and by the second from where the first has led.
-/

namespace Almanac.DateMath

variable {cs tail : List Char} {ops ops₁ ops₂ : List Operation}

/-! ## The seam -/

/-- Operations are read from two texts as from one. -/
theorem scanOperations_append (h₁ : scanOperations cs = .ok ops₁)
    (h₂ : scanOperations tail = .ok ops₂) : scanOperations (cs ++ tail) = .ok (ops₁ ++ ops₂) := by
  obtain ⟨tokens₁, rfl, hspells₁⟩ := scanOperations_iff_spells.mp h₁
  obtain ⟨tokens₂, rfl, hspells₂⟩ := scanOperations_iff_spells.mp h₂
  exact scanOperations_iff_spells.mpr
    ⟨tokens₁ ++ tokens₂, List.flatMap_append, List.rel_append hspells₁ hspells₂⟩

theorem readOperations_eq_ok_iff : readOperations cs = .ok ops ↔ scanOperations cs = .ok ops :=
  mapError_eq_ok

/-! ## Resolving from `NOW` -/

theorem read_now_append (h : scanOperations cs = .ok ops) :
    read (nowWord ++ cs) = .ok (some ⟨⟨.now, ops⟩, .millisecond⟩) := by
  have hupper : Text.upper (nowWord ++ cs) = nowWord ++ Text.upper cs := by
    rw [Text.upper_append]
    rfl
  rw [anchored_now hupper, readSuffix, readOperations, scanOperations_upper_iff.mpr h]
  rfl

theorem resolveText_now {suffix : String} {scale : Scale} {now : Instant} {rounding : Rounding}
    {res : Resolution} (h : scanOperations suffix.toList = .ok ops) :
    Resolver.resolveText ⟨.default, scale⟩ ("NOW" ++ suffix) now rounding = .ok res ↔
      ∃ i, evaluate rounding now ops = .ok i ∧ ⟨i, .dateMath⟩ = res := by
  have hread : read ("NOW" ++ suffix).toList = .ok (some ⟨⟨.now, ops⟩, .millisecond⟩) := by
    rw [String.toList_append]
    exact read_now_append h
  have hlayout : ∀ j, Resolver.byLayout ⟨.default, scale⟩ ("NOW" ++ suffix).toList rounding
      ≠ .ok j := by
    intro j hj
    obtain ⟨reading, hreading, -⟩ := Resolver.byLayout_default_eq_ok_iff.mp hj
    cases (read_of_readOptionalTime hreading hread).1
  rw [Resolver.resolveText_of_read hlayout hread, Parsed.value_now rfl, mapError_eq_ok, map_eq_ok]

/-- In the default format, `NOW` with the operations of two texts resolves exactly if `NOW` with the
first does, and `NOW` with the second does from the instant that the first has given; then it
resolves to the same.  The operations are those of the first text and then those of the second. -/
theorem resolves_in_two_goes {s₁ s₂ : String} (h₁ : readOperations s₁.toList = .ok ops₁)
    (h₂ : readOperations s₂.toList = .ok ops₂) :
    readOperations (s₁ ++ s₂).toList = .ok (ops₁ ++ ops₂) ∧
      ∀ (scale : Scale) (now : Instant) (rounding : Rounding) (res : Resolution),
        Resolver.resolveText ⟨.default, scale⟩ ("NOW" ++ s₁ ++ s₂) now rounding = .ok res ↔
          ∃ first, Resolver.resolveText ⟨.default, scale⟩ ("NOW" ++ s₁) now rounding = .ok first ∧
            Resolver.resolveText ⟨.default, scale⟩ ("NOW" ++ s₂) first.instant rounding
              = .ok res := by
  rw [readOperations_eq_ok_iff] at h₁ h₂ ⊢
  have happend : scanOperations (s₁ ++ s₂).toList = .ok (ops₁ ++ ops₂) := by
    rw [String.toList_append]
    exact scanOperations_append h₁ h₂
  refine ⟨happend, fun scale now rounding res => ?_⟩
  simp only [String.append_assoc, resolveText_now happend, resolveText_now h₁, resolveText_now h₂,
    evaluate_append_eq_ok]
  constructor
  · rintro ⟨i, ⟨t, ht, hi⟩, rfl⟩
    exact ⟨⟨t, .dateMath⟩, ⟨t, ht, rfl⟩, i, hi, rfl⟩
  · rintro ⟨first, ⟨t, ht, rfl⟩, i, hi, rfl⟩
    exact ⟨i, ⟨t, ht, hi⟩, rfl⟩

/-- From the end of January to the end of the last day of February, and a day and a half back. -/
theorem resolves_in_two_goes_month_end :
    readOperations "+1month/Day".toList = .ok [.offset .month 1, .round .day] ∧
      readOperations "-36Hours".toList = .ok [.offset .hour (-36)] ∧
      readOperations ("+1month/Day" ++ "-36Hours").toList
        = .ok ([.offset .month 1, .round .day] ++ [.offset .hour (-36)]) ∧
      ∃ first, Resolver.resolveText ⟨.default, .seconds⟩ ("NOW" ++ "+1month/Day") ⟨1612048200000⟩
          .up = .ok first ∧
        Resolver.resolveText ⟨.default, .seconds⟩ ("NOW" ++ "-36Hours") first.instant .up
          = .ok ⟨⟨1614427199999⟩, .dateMath⟩ := by
  have h₁ : readOperations "+1month/Day".toList = .ok [.offset .month 1, .round .day] :=
    toOption_eq_some.mp (by decide +kernel)
  have h₂ : readOperations "-36Hours".toList = .ok [.offset .hour (-36)] :=
    toOption_eq_some.mp (by decide +kernel)
  have hboth : Resolver.resolveText ⟨.default, .seconds⟩ ("NOW" ++ "+1month/Day" ++ "-36Hours")
      ⟨1612048200000⟩ .up = .ok ⟨⟨1614427199999⟩, .dateMath⟩ :=
    toOption_eq_some.mp (by decide +kernel)
  have h := resolves_in_two_goes h₁ h₂
  exact ⟨h₁, h₂, h.1, (h.2 .seconds ⟨1612048200000⟩ .up _).mp hboth⟩

end Almanac.DateMath
