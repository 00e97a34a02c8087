import Almanac.Proofs.Calendar.Partition
import Almanac.Proofs.Resolver.Order
/-!
# Bounds advance with the present

The same operations are run with one rounding from two anchors.  A rounding keeps the order of the
two: the unit of the later instant neither begins nor ends before that of the earlier one
(`unitStart_mono`, `unitStop_mono`).  Moving by units of a fixed length keeps even their distance.
Months and years are what is left, and they do not keep the order (`Operation.cutsBack`).  So without
moves by these, a later anchor never leads to an earlier result (`evaluate_mono`), wherever both
runs give one.

A bound that starts from `NOW` has the present for its anchor.  The other stages do not look at the
present, so whatever stage resolves the bound, it does not fall behind as the present advances.
-/

namespace Almanac

namespace Calendar

variable {u : CalendarUnit} {m n : Int} {x y x' y' : Instant}

/-! ## Roundings keep the order -/

/-- What stops the unit of a millisecond comes after every earlier one. -/
theorem unitStop_mono (u : CalendarUnit) (h : m ≤ n) : unitStop u m ≤ unitStop u n :=
  (isLeast_unitStop u m).2 ⟨begins_unitStop u n, Int.lt_of_le_of_lt h (lt_unitStop u n)⟩

theorem roundDown_mono (h : x ≤ y) (hx : roundDown x u = .ok x') (hy : roundDown y u = .ok y') :
    x' ≤ y' := by
  rw [Instant.le_def, (roundDown_eq_ok_iff.mp hx).1, (roundDown_eq_ok_iff.mp hy).1]
  exact unitStart_mono u h

theorem roundUp_mono (h : x ≤ y) (hx : roundUp x u = .ok x') (hy : roundUp y u = .ok y') :
    x' ≤ y' := by
  rw [Instant.le_def, (roundUp_eq_ok_iff.mp hx).1, (roundUp_eq_ok_iff.mp hy).1]
  exact Int.sub_le_sub_right (unitStop_mono u h) 1

end Calendar

open Calendar

namespace DateMath

variable {rounding : Rounding} {op : Operation} {ops : List Operation} {x y x' y' : Instant}

/-! ## Operations keep the order -/

/-- The operation moves an instant by months or years. -/
def Operation.MovesMonths : Operation → Prop
  | .offset unit _ => unit = .month ∨ unit = .year
  | .round _ => False

theorem exists_fixedMillis {u : CalendarUnit} (h : ¬ (u = .month ∨ u = .year)) :
    ∃ length, u.fixedMillis? = some length := by
  cases u with
  | month => exact absurd (Or.inl rfl) h
  | year => exact absurd (Or.inr rfl) h
  | day | hour | minute | second | millisecond => exact ⟨_, rfl⟩

theorem apply_mono (hop : ¬ op.MovesMonths) (h : x ≤ y) (hx : op.apply rounding x = .ok x')
    (hy : op.apply rounding y = .ok y') : x' ≤ y' := by
  cases op with
  | offset unit amount =>
      obtain ⟨length, hlength⟩ := exists_fixedMillis hop
      have hx := ((add_fixed_eq_ok_iff hlength).mp hx).2
      have hy := ((add_fixed_eq_ok_iff hlength).mp hy).2
      rw [Instant.le_def, hx, hy]
      exact Int.add_le_add_right h _
  | round unit =>
      cases rounding with
      | down => exact roundDown_mono h hx hy
      | up => exact roundUp_mono h hx hy

theorem evaluate_mono (hops : ∀ op ∈ ops, ¬ op.MovesMonths) (h : x ≤ y)
    (hx : evaluate rounding x ops = .ok x') (hy : evaluate rounding y ops = .ok y') :
    x' ≤ y' := by
  induction ops generalizing x y with
  | nil =>
      cases hx
      cases hy
      exact h
  | cons op ops ih =>
      obtain ⟨hop, hops⟩ := List.forall_mem_cons.mp hops
      obtain ⟨x₁, hx₁, hx⟩ := evaluate_cons_eq_ok.mp hx
      obtain ⟨y₁, hy₁, hy⟩ := evaluate_cons_eq_ok.mp hy
      exact ih hops (apply_mono hop h hx₁ hy₁) hx hy

end DateMath

namespace Resolver

variable {r : Resolver} {rounding : Rounding} {now now' : Instant} {ops : List DateMath.Operation}

/-! ## Bounds from `NOW` -/

/-- The input is a text that date math reads as these operations on the present. -/
def StartsFromNow (input : Option Input) (ops : List DateMath.Operation) : Prop :=
  ∃ text p, input.bind Input.text? = some text ∧ DateMath.read text.toList = .ok (some p) ∧
    p.expression = ⟨.now, ops⟩

theorem resolveText_mono {text : String} {p : DateMath.Parsed} {res res' : Resolution}
    (hread : DateMath.read text.toList = .ok (some p)) (hp : p.expression = ⟨.now, ops⟩)
    (hops : ∀ op ∈ ops, ¬ op.MovesMonths) (h : now ≤ now')
    (hres : r.resolveText text now rounding = .ok res)
    (hres' : r.resolveText text now' rounding = .ok res') : res.instant ≤ res'.instant := by
  by_cases hlayout : ∃ i, r.byLayout text.toList rounding = .ok i
  · -- the display format reads the text as one instant in both presents
    obtain ⟨i, hi⟩ := hlayout
    have hfirst : ∀ present, r.resolveText text present rounding = .ok ⟨i, .displayFormat⟩ :=
      fun _ => resolveText_eq_ok_iff.mpr (.displayFormat hi)
    obtain rfl := Except.ok.inj ((hfirst now).symm.trans hres)
    obtain rfl := Except.ok.inj ((hfirst now').symm.trans hres')
    exact Int.le_refl _
  · have hno : ∀ i, r.byLayout text.toList rounding ≠ .ok i := not_exists.mp hlayout
    have hnow : p.expression.anchor = .now := by rw [hp]
    rw [resolveText_of_read hno hread, DateMath.Parsed.value_now hnow, mapError_eq_ok,
      map_eq_ok, hp] at hres hres'
    obtain ⟨i, hi, rfl⟩ := hres
    obtain ⟨i', hi', rfl⟩ := hres'
    exact DateMath.evaluate_mono hops h hi hi'

theorem side_mono {input : Option Input} {inclusive : Bool} {b b' : Bound × Bool}
    (hinput : StartsFromNow input ops) (hops : ∀ op ∈ ops, ¬ op.MovesMonths) (h : now ≤ now')
    (hb : r.side input inclusive now rounding = .ok b)
    (hb' : r.side input inclusive now' rounding = .ok b') :
    ∃ i i', b.1.value = some i ∧ b'.1.value = some i' ∧ i ≤ i' := by
  obtain ⟨text, p, hinput, hread, hp⟩ := hinput
  obtain ⟨input, rfl, htext⟩ := Option.bind_eq_some_iff.mp hinput
  obtain ⟨res, hres, rfl⟩ := side_eq_ok_iff.mp hb
  obtain ⟨res', hres', rfl⟩ := side_eq_ok_iff.mp hb'
  rw [resolve_of_text? htext] at hres hres'
  exact ⟨_, _, rfl, rfl, resolveText_mono hread hp hops h hres hres'⟩

/-- Operations that move by no months and no years lead from a later anchor to no earlier result,
with either rounding.  So the bounds of a range that start from `NOW` with such operations never
move back as the present advances. -/
theorem advances_with_anchor (hops : ∀ op ∈ ops, ¬ op.MovesMonths) :
    (∀ rounding x y x' y', x ≤ y → DateMath.evaluate rounding x ops = .ok x' →
      DateMath.evaluate rounding y ops = .ok y' → x' ≤ y') ∧
    ∀ (r : Resolver) lower upper rules now now' range range', now ≤ now' →
      r.range lower upper rules now = .ok range → r.range lower upper rules now' = .ok range' →
        (StartsFromNow lower ops →
          ∃ i i', range.lower.value = some i ∧ range'.lower.value = some i' ∧ i ≤ i') ∧
        (StartsFromNow upper ops →
          ∃ i i', range.upper.value = some i ∧ range'.upper.value = some i' ∧ i ≤ i') := by
  constructor
  · intro rounding x y x' y' h hx hy
    exact DateMath.evaluate_mono hops h hx hy
  · intro r lower upper rules now now' range range' h hrange hrange'
    obtain ⟨low, high, hlow, hhigh, rfl⟩ := range_eq_ok_iff.mp hrange
    obtain ⟨low', high', hlow', hhigh', rfl⟩ := range_eq_ok_iff.mp hrange'
    exact ⟨fun hfrom => side_mono hfrom hops h hlow hlow',
      fun hfrom => side_mono hfrom hops h hhigh hhigh'⟩

/-- The month of 36 hours ago: on the first of March 2020 that is February, with its 29 days, and on
the next evening it is March. -/
theorem advances_with_anchor_leap_day :
    ∃ ops range range' i i', (∀ op ∈ ops, ¬ op.MovesMonths) ∧
      StartsFromNow (some (.text "now-36hours/Month")) ops ∧
      DateField.default.resolver.range none (some (.text "now-36hours/Month")) {} ⟨1583042400000⟩
        = .ok range ∧
      DateField.default.resolver.range none (some (.text "now-36hours/Month")) {} ⟨1583172000000⟩
        = .ok range' ∧
      range.upper.value = some i ∧ range'.upper.value = some i' ∧ i ≤ i' ∧
      DateMath.evaluate .down ⟨1583042400000⟩ ops = .ok ⟨1580515200000⟩ ∧
      DateMath.evaluate .down ⟨1583172000000⟩ ops = .ok ⟨1583020800000⟩ ∧
      (⟨1580515200000⟩ : Instant) ≤ ⟨1583020800000⟩ := by
  have hops : ∀ op ∈ [DateMath.Operation.offset .hour (-36), .round .month],
      ¬ op.MovesMonths := by
    intro op hop
    rcases List.mem_cons.mp hop with rfl | hop
    · rintro (h | h) <;> cases h
    · obtain rfl := List.mem_singleton.mp hop
      exact id
  have hread : DateMath.read "now-36hours/Month".toList
      = .ok (some ⟨⟨.now, [.offset .hour (-36), .round .month]⟩, .millisecond⟩) :=
    toOption_eq_some.mp (by decide +kernel)
  have hfrom : StartsFromNow (some (.text "now-36hours/Month"))
      [.offset .hour (-36), .round .month] := ⟨_, _, rfl, hread, rfl⟩
  have hrange (now stop : Int64)
      (h : (DateField.default.resolver.range none (some (.text "now-36hours/Month")) {}
        ⟨now⟩).toOption = some ⟨.unbounded true, .closedAt ⟨stop⟩ true, true⟩) :=
    toOption_eq_some.mp h
  have hbefore := hrange 1583042400000 1583020799999 (by decide +kernel)
  have hafter := hrange 1583172000000 1585699199999 (by decide +kernel)
  have hdown : DateMath.evaluate .down ⟨1583042400000⟩ [.offset .hour (-36), .round .month]
      = .ok ⟨1580515200000⟩ := toOption_eq_some.mp (by decide +kernel)
  have hdown' : DateMath.evaluate .down ⟨1583172000000⟩ [.offset .hour (-36), .round .month]
      = .ok ⟨1583020800000⟩ := toOption_eq_some.mp (by decide +kernel)
  obtain ⟨hruns, hbounds⟩ := advances_with_anchor hops
  have hlater : (⟨1583042400000⟩ : Instant) ≤ ⟨1583172000000⟩ := by decide
  obtain ⟨i, i', hi, hi', hle⟩ := (hbounds _ _ _ _ _ _ _ _ hlater hbefore hafter).2 hfrom
  exact ⟨_, _, _, i, i', hops, hfrom, hbefore, hafter, hi, hi', hle, hdown, hdown',
    hruns _ _ _ _ _ hlater hdown hdown'⟩

end Resolver

end Almanac
