import Almanac.Proofs.Pattern.Reader
import Almanac.Proofs.Timestamp.OptionalTime
/-!
# A widened literal is the unit that it names

The alternatives of a compiled layout are the default format and compiled patterns, and a text is
read by one of them; so every reading of a layout opens its unit (`read_opens`).  The main statement
puts that together with what `Opens` implies: the instants from a reading to its widening are the
ones that its clock shows in its unit, and there is no widening only where the next unit cannot be
reached.
-/

namespace Almanac.Layout

open Calendar

variable {spec : String} {l : Layout} {a : Alternative} {text : List Char} {r : Reading}

/-- An alternative that compiling makes. -/
def Alternative.Compiled : Alternative → Prop
  | .dateOptionalTime => True
  | .pattern p => p.Compiled

theorem compilePiece_compiled {offset : Nat} {piece : List Char}
    (h : compilePiece spec offset piece = .ok a) : a.Compiled := by
  simp only [compilePiece] at h
  split at h
  · cases h
  · split at h
    · cases h
      trivial
    · rw [mapError_eq_ok, map_eq_ok] at h
      obtain ⟨p, hp, rfl⟩ := h
      exact Pattern.compile_compiled hp

theorem compilePieces_compiled : ∀ {pieces : List (List Char)} {offset : Nat}
    {alternatives : List Alternative}, compilePieces spec offset pieces = .ok alternatives →
      ∀ a ∈ alternatives, a.Compiled
  | [], _, _, h, a, ha => by
      cases h
      cases ha
  | piece :: pieces, offset, alternatives, h, a, ha => by
      obtain ⟨first, hfirst, h⟩ := bind_eq_ok.mp h
      obtain ⟨others, hothers, h⟩ := bind_eq_ok.mp h
      obtain rfl := pure_eq_ok.mp h
      rcases List.mem_cons.mp ha with rfl | ha
      · exact compilePiece_compiled hfirst
      · exact compilePieces_compiled hothers a ha

theorem compile_compiled (h : compile spec = .ok l) : ∀ a ∈ l.alternatives, a.Compiled := by
  obtain ⟨first, hfirst, h⟩ := bind_eq_ok.mp h
  obtain ⟨others, hothers, h⟩ := bind_eq_ok.mp h
  obtain rfl := pure_eq_ok.mp h
  intro a ha
  rcases List.mem_cons.mp ha with rfl | ha
  · exact compilePiece_compiled hfirst
  · exact compilePieces_compiled hothers a ha

theorem mem_of_readFirst {fault : Fault} : ∀ {alternatives : List Alternative},
    readFirst text fault alternatives = .ok r → ∃ a ∈ alternatives, a.read text = .ok r
  | [], h => nomatch h
  | a :: alternatives, h => by
      simp only [readFirst] at h
      split at h
      · next reading hreading =>
        cases h
        exact ⟨a, List.mem_cons_self, hreading⟩
      · obtain ⟨a', ha', hr⟩ := mem_of_readFirst h
        exact ⟨a', List.mem_cons_of_mem a ha', hr⟩

theorem mem_of_read (h : l.read text = .ok r) : ∃ a ∈ l.alternatives, a.read text = .ok r := by
  unfold read at h
  split at h
  · next reading hreading =>
    cases h
    exact ⟨l.first, List.mem_cons_self, hreading⟩
  · obtain ⟨a, ha, hr⟩ := mem_of_readFirst h
    exact ⟨a, List.mem_cons_of_mem l.first ha, hr⟩

/-- What a compiled layout reads opens its unit. -/
theorem read_opens (hl : compile spec = .ok l) (hr : l.read text = .ok r) : r.Opens := by
  obtain ⟨a, ha, hread⟩ := mem_of_read hr
  have hcompiled := compile_compiled hl a ha
  cases a with
  | dateOptionalTime => exact Timestamp.readOptionalTime_opens hread
  | pattern p => exact Pattern.read_opens hcompiled hread

/-- A reading stands at the first millisecond of the unit that it names, on its own clock; the
instants from there to its widening are exactly those that this clock shows in that unit; and the
widening fails only if the unit after it has no first millisecond. -/
theorem widened_covers_unit (hl : compile spec = .ok l) (hr : l.read text = .ok r) :
    ∃ shown, r.wallClock? = some shown ∧ roundDown shown r.precision = .ok shown ∧
      (∀ w, r.widen .up = .ok w → ∀ t : Instant,
        (r.instant ≤ t ∧ t ≤ w) ↔
          ∃ s, t.shift? r.offset.toInt = some s ∧ roundDown s r.precision = .ok shown) ∧
      ((∃ fault, r.widen .up = .error fault) ↔
        ¬ Reaches r.precision (unitStop r.precision shown.toInt)) := by
  have hopens := read_opens hl hr
  obtain ⟨shown, hshown, hstart⟩ := hopens.exists_shown
  refine ⟨shown, hshown, hstart, ?_, hopens.widen_fails_iff hshown⟩
  intro w hw t
  exact hopens.between_iff hshown hw

/-- February 2024 on a clock that is five and a half hours ahead. -/
theorem widened_covers_february :
    ∃ l r, compile "yyyy-MM ZZ" = .ok l ∧ l.read "2024-02 +05:30".toList = .ok r ∧
      (r.precision = .month ∧ r.offset = 19800000) ∧
      ∃ shown, r.wallClock? = some shown ∧ roundDown shown .month = .ok shown ∧
        (∀ w, r.widen .up = .ok w → ∀ t : Instant,
          (r.instant ≤ t ∧ t ≤ w) ↔
            ∃ s, t.shift? r.offset.toInt = some s ∧ roundDown s .month = .ok shown) ∧
        ((∃ fault, r.widen .up = .error fault) ↔
          ¬ Reaches .month (unitStop .month shown.toInt)) := by
  have hl : compile "yyyy-MM ZZ" = .ok ⟨"yyyy-MM ZZ", .pattern ⟨"yyyy-MM ZZ".toList,
      [.field .year, .literal '-', .field .month, .literal ' ', .field (.offset true)], .month⟩,
      []⟩ :=
    toOption_eq_some.mp (by decide +kernel)
  have hr : read ⟨"yyyy-MM ZZ", .pattern ⟨"yyyy-MM ZZ".toList,
      [.field .year, .literal '-', .field .month, .literal ' ', .field (.offset true)], .month⟩,
      []⟩ "2024-02 +05:30".toList = .ok ⟨⟨1706725800000⟩, .month, 19800000⟩ :=
    toOption_eq_some.mp (by decide +kernel)
  exact ⟨_, _, hl, hr, ⟨rfl, rfl⟩, widened_covers_unit hl hr⟩

end Almanac.Layout
