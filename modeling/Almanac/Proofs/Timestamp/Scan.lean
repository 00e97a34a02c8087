import Almanac.Proofs.Calendar.Months
import Almanac.Proofs.Outcome
import Almanac.Timestamp.Canonical
/-!
# Scans taken apart

A scan that has succeeded is taken apart from its end to its beginning: `bind_eq_ok` gives the place
between two steps, and each of the small scans says what it has taken there.  They are equivalences,
so that the same lemmas put a scan together, step by step, on a text that is known.  The dates that
are scanned exist (`scanDate_exists`).
-/

namespace Almanac.Timestamp

namespace Scan

variable {α β : Type} {cs rest : List Char}

theorem bind_eq_ok {x : Scan α} {f : α → Scan β} {r : β × List Char} :
    (x >>= f) cs = .ok r ↔ ∃ a rest, x cs = .ok (a, rest) ∧ f a rest = .ok r := by
  show (x cs >>= fun p => f p.1 p.2) = .ok r ↔ _
  rw [Almanac.bind_eq_ok]
  constructor
  · rintro ⟨⟨a, rest⟩, hx, hf⟩
    exact ⟨a, rest, hx, hf⟩
  · rintro ⟨a, rest, hx, hf⟩
    exact ⟨(a, rest), hx, hf⟩

theorem pure_eq_ok {a b : α} : (pure a : Scan α) cs = .ok (b, rest) ↔ a = b ∧ cs = rest := by
  show Except.ok (a, cs) = Except.ok (b, rest) ↔ _
  rw [Except.ok.injEq, Prod.mk.injEq]

theorem map_eq_ok {x : Scan α} {f : α → β} {b : β} :
    (f <$> x) cs = .ok (b, rest) ↔ ∃ a, x cs = .ok (a, rest) ∧ f a = b := by
  show (x >>= fun a => pure (f a)) cs = _ ↔ _
  simp only [bind_eq_ok, pure_eq_ok]
  constructor
  · rintro ⟨a, left, hx, hf, rfl⟩
    exact ⟨a, hx, hf⟩
  · rintro ⟨a, hx, hf⟩
    exact ⟨a, rest, hx, hf, rfl⟩

theorem failFrom_ne_ok {start : List Char} {problem : Problem} {r : α × List Char} :
    (failFrom start problem : Scan α) cs ≠ .ok r :=
  nofun

theorem run_eq_ok {scan : Scan α} {text : List Char} {a : α} :
    scan.run text = .ok a ↔ ∃ rest, scan text = .ok (a, rest) := by
  unfold run StateT.run
  cases scan text with
  | error slip => simp
  | ok r =>
      obtain ⟨b, rest⟩ := r
      simp

theorem run_eq_error_iff {scan : Scan α} {text : List Char} {fault : Fault} :
    scan.run text = .error fault ↔ ∃ slip, scan text = .error slip ∧ slip.toFault text = fault := by
  unfold run StateT.run
  cases scan text <;> simp

theorem get_eq_ok {left : List Char} :
    (get : Scan (List Char)) cs = .ok (left, rest) ↔ left = cs ∧ rest = cs := by
  show Except.ok (cs, cs) = Except.ok (left, rest) ↔ _
  rw [Except.ok.injEq, Prod.mk.injEq, eq_comm, eq_comm (a := cs) (b := rest)]

theorem field_eq_ok {what : String} {width : Nat} {read? : List Char → Option (α × List Char)}
    {r : α × List Char} : field what width read? cs = .ok r ↔ read? cs = some r := by
  unfold field
  cases read? cs <;> simp

theorem mark_eq_ok {c : Char} {place : String} {u : Unit} :
    mark c place cs = .ok (u, rest) ↔ cs = c :: rest := by
  cases cs with
  | nil => simp [mark]
  | cons d cs => by_cases h : d = c <;> simp [mark, h]

theorem takes_true_eq_ok {c : Char} : takes c cs = .ok (true, rest) ↔ cs = c :: rest := by
  cases cs with
  | nil => simp [takes]
  | cons d cs => by_cases h : d = c <;> simp [takes, h]

theorem takes_false_eq_ok {c : Char} :
    takes c cs = .ok (false, rest) ↔ rest = cs ∧ cs.head? ≠ some c := by
  cases cs with
  | nil => simp [takes, eq_comm]
  | cons d cs =>
      by_cases h : d = c
      · simp [takes, h]
      · simp [takes, h, eq_comm (a := rest)]

theorem finish_eq_ok {u : Unit} : finish cs = .ok (u, rest) ↔ cs = [] ∧ rest = [] := by
  cases cs <;> simp [finish, eq_comm]

theorem ite_takes_eq_ok {c : Char} {x y : Scan α} {r : α × List Char} :
    (do if ← takes c then x else y) cs = .ok r ↔
      (∃ left, cs = c :: left ∧ x left = .ok r) ∨ (cs.head? ≠ some c ∧ y cs = .ok r) := by
  rw [bind_eq_ok]
  constructor
  · rintro ⟨taken, left, htaken, h⟩
    cases taken with
    | true => exact Or.inl ⟨left, takes_true_eq_ok.mp htaken, h⟩
    | false =>
        obtain ⟨rfl, hno⟩ := takes_false_eq_ok.mp htaken
        exact Or.inr ⟨hno, h⟩
  · rintro (⟨left, hcs, h⟩ | ⟨hno, h⟩)
    · exact ⟨true, left, takes_true_eq_ok.mpr hcs, h⟩
    · exact ⟨false, cs, takes_false_eq_ok.mpr ⟨rfl, hno⟩, h⟩

end Scan

variable {cs rest : List Char}

/-! ## The scans of a canonical timestamp -/

theorem scanDate_eq_ok_iff {date : Calendar.Date} :
    scanDate cs = .ok (date, rest) ↔
      ∃ year month day r₁ r₂, year? cs = some (year, '-' :: r₁) ∧
        two? r₁ = some (month, '-' :: r₂) ∧ two? r₂ = some (day, rest) ∧
        Calendar.Date.of? year month day = some date := by
  unfold scanDate
  simp only [Scan.bind_eq_ok, Scan.get_eq_ok, Scan.field_eq_ok, Scan.mark_eq_ok]
  constructor
  · rintro ⟨start, r₀, ⟨rfl, rfl⟩, year, r₁, hyear, -, r₂, rfl, month, r₃, hmonth, -, r₄, rfl,
      day, r₅, hday, h⟩
    cases hdate : Calendar.Date.of? year month day with
    | none =>
        rw [hdate] at h
        exact absurd h Scan.failFrom_ne_ok
    | some date' =>
        rw [hdate] at h
        obtain ⟨rfl, rfl⟩ := Scan.pure_eq_ok.mp h
        exact ⟨year, month, day, r₂, r₄, hyear, hmonth, hday, hdate⟩
  · rintro ⟨year, month, day, r₁, r₂, hyear, hmonth, hday, hdate⟩
    refine ⟨cs, cs, ⟨rfl, rfl⟩, year, _, hyear, (), r₁, rfl, month, _, hmonth, (), r₂, rfl, day,
      rest, hday, ?_⟩
    rw [hdate]
    rfl

theorem scanTime_eq_ok_iff {time : Nat} :
    scanTime cs = .ok (time, rest) ↔
      ∃ hour minute second r₁ r₂, two? cs = some (hour, ':' :: r₁) ∧
        two? r₁ = some (minute, ':' :: r₂) ∧ two? r₂ = some (second, rest) ∧
        Calendar.timeOfDay? hour minute second 0 = some time := by
  unfold scanTime
  simp only [Scan.bind_eq_ok, Scan.get_eq_ok, Scan.field_eq_ok, Scan.mark_eq_ok]
  constructor
  · rintro ⟨start, r₀, ⟨rfl, rfl⟩, hour, r₁, hhour, -, r₂, rfl, minute, r₃, hminute, -, r₄, rfl,
      second, r₅, hsecond, h⟩
    cases htime : Calendar.timeOfDay? hour minute second 0 with
    | none =>
        rw [htime] at h
        exact absurd h Scan.failFrom_ne_ok
    | some time' =>
        rw [htime] at h
        obtain ⟨rfl, rfl⟩ := Scan.pure_eq_ok.mp h
        exact ⟨hour, minute, second, r₂, r₄, hhour, hminute, hsecond, htime⟩
  · rintro ⟨hour, minute, second, r₁, r₂, hhour, hminute, hsecond, htime⟩
    refine ⟨cs, cs, ⟨rfl, rfl⟩, hour, _, hhour, (), r₁, rfl, minute, _, hminute, (), r₂, rfl,
      second, rest, hsecond, ?_⟩
    rw [htime]
    rfl

theorem scanFraction_eq_ok_iff {millis : Nat} :
    scanFraction cs = .ok (millis, rest) ↔
      ∃ ds, digits? cs = some (ds, rest) ∧ fractionMillis ds = millis := by
  unfold scanFraction
  simp only [Scan.bind_eq_ok, Scan.field_eq_ok, Scan.pure_eq_ok]
  constructor
  · rintro ⟨ds, r, hds, hmillis, rfl⟩
    exact ⟨ds, hds, hmillis⟩
  · rintro ⟨ds, hds, hmillis⟩
    exact ⟨ds, rest, hds, hmillis, rfl⟩

theorem scanDate_exists {date : Calendar.Date} (h : scanDate cs = .ok (date, rest)) :
    date.Exists := by
  obtain ⟨year, month, day, r₁, r₂, -, -, -, hdate⟩ := scanDate_eq_ok_iff.mp h
  exact (Calendar.Date.of?_eq_some_iff.mp hdate).2.2.1

end Almanac.Timestamp
