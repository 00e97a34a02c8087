import Almanac.Proofs.Timestamp.Alphabet
import Almanac.Proofs.Timestamp.OptionalTime
import Almanac.Proofs.Timestamp.Spelling
/-!
# The grammar of dates with optional time

A text is read exactly if it is the text of a valid spelling, and it is read as what the spelling
stands for (`readOptionalTime_grammar`).  Each scan is described by an equivalence: it takes the
text of a part of a spelling, and leaves the rest.  A part that may be longer, such as a time
without its seconds, is taken only if the rest does not go on with what is missing (`Clock.Ends`,
`Zone.Ends`).  No zone begins with any of that, and so it is only at the very end that a scan
depends on what it leaves.

The instant of a spelling is far inside the range of instants, so the reader's last check never
refuses anything, and what is refused is refused by the scan.
-/

namespace Almanac.Timestamp

open Calendar

variable {cs rest text ds : List Char} {n : Nat}

/-! ## Fields -/

theorem two?_eq_some_iff : two? cs = some (n, rest) ↔ n < 100 ∧ cs = twoText n ++ rest := by
  constructor
  · intro h
    simp only [two?, fixed?, Option.ite_none_right_eq_some, Option.some.injEq,
      Prod.mk.injEq] at h
    obtain ⟨⟨hlength, hall⟩, rfl, rfl⟩ := h
    have hdigits : ∀ c ∈ cs.take 2, c.isDigit = true := List.all_eq_true.mp hall
    have hwritten := Text.padded_number hdigits
    have hlt := Text.number_lt hdigits
    rw [hlength] at hwritten hlt
    exact ⟨hlt, by rw [twoText, hwritten, List.take_append_drop]⟩
  · rintro ⟨hlt, rfl⟩
    exact two?_twoText hlt

theorem digits?_eq_some_iff :
    digits? cs = some (ds, rest) ↔
      ds ≠ [] ∧ (∀ c ∈ ds, c.isDigit = true) ∧ Text.Stops Char.isDigit rest ∧ cs = ds ++ rest := by
  constructor
  · intro h
    simp only [digits?, Option.ite_none_left_eq_some, Option.some.injEq, Prod.mk.injEq] at h
    obtain ⟨hne, rfl, rfl⟩ := h
    exact ⟨hne, fun c => List.mem_takeWhile_imp, Text.stops_dropWhile _ _,
      List.takeWhile_append_dropWhile.symm⟩
  · rintro ⟨hne, hds, hrest, rfl⟩
    exact digits?_run hds hne hrest

/-- The digits of a year, which are read with a sign in front of them or without one. -/
def IsYear (ds : List Char) : Prop :=
  (∀ c ∈ ds, c.isDigit = true) ∧ 4 ≤ ds.length ∧ Text.number ds ≤ greatestYear

theorem signedYear_eq_some_iff (sign : Sign) {y : Int} :
    ((yearNumber? cs).map fun r => (sign.apply r.1, r.2)) = some (y, rest) ↔
      ∃ ds, IsYear ds ∧ Text.Stops Char.isDigit rest ∧ cs = ds ++ rest ∧
        sign.apply (Text.number ds) = y := by
  constructor
  · intro h
    obtain ⟨⟨n, left⟩, hread, hy⟩ := Option.map_eq_some_iff.mp h
    obtain ⟨rfl, rfl⟩ := Prod.mk.inj hy
    simp only [yearNumber?, Option.ite_none_right_eq_some, Option.some.injEq,
      Prod.mk.injEq] at hread
    obtain ⟨⟨hfour, hgreatest⟩, rfl, rfl⟩ := hread
    exact ⟨cs.takeWhile Char.isDigit, ⟨fun c => List.mem_takeWhile_imp, hfour, hgreatest⟩,
      Text.stops_dropWhile _ _, List.takeWhile_append_dropWhile.symm, rfl⟩
  · rintro ⟨ds, ⟨hds, hfour, hgreatest⟩, hrest, rfl, rfl⟩
    rw [yearNumber?_run hds hfour hgreatest hrest]
    rfl

theorem year?_eq_some_iff {y : Int} :
    year? cs = some (y, rest) ↔
      ∃ (sign : Option Sign) (ds : List Char), IsYear ds ∧ Text.Stops Char.isDigit rest ∧
        cs = (sign.map Sign.mark).toList ++ ds ++ rest ∧
        (sign.getD .plus).apply (Text.number ds) = y := by
  constructor
  · intro h
    unfold year? at h
    split at h
    · obtain ⟨ds, hyear, hrest, rfl, rfl⟩ := (signedYear_eq_some_iff .minus).mp h
      exact ⟨some .minus, ds, hyear, hrest, rfl, rfl⟩
    · obtain ⟨ds, hyear, hrest, rfl, rfl⟩ := (signedYear_eq_some_iff .plus).mp h
      exact ⟨some .plus, ds, hyear, hrest, rfl, rfl⟩
    · obtain ⟨ds, hyear, hrest, rfl, rfl⟩ := (signedYear_eq_some_iff .plus).mp h
      exact ⟨none, ds, hyear, hrest, rfl, rfl⟩
  · rintro ⟨sign, ds, hyear, hrest, rfl, rfl⟩
    have hread (sign : Sign) := (signedYear_eq_some_iff sign).mpr ⟨ds, hyear, hrest, rfl, rfl⟩
    cases sign with
    | none =>
        cases ds with
        | nil => exact absurd hyear.2.1 (by decide)
        | cons c ds =>
            exact (year?_of_isDigit (hyear.1 c List.mem_cons_self)).trans (hread .plus)
    | some sign =>
        cases sign with
        | plus => exact hread .plus
        | minus => exact hread .minus

/-! ## The date -/

theorem DateSpelling.IsValid.isYear {d : DateSpelling} (h : d.IsValid) : IsYear d.digits := by
  refine ⟨h.isDigit, h.four_le, ?_⟩
  obtain ⟨hfirst, hlast⟩ := h.year
  have hnumber := Sign.natAbs_apply (d.sign.getD .plus) (Text.number d.digits)
  simp only [firstYear, lastYear, DateSpelling.year] at hfirst hlast
  simp only [greatestYear]
  omega

theorem DateSpelling.IsValid.of?_eq {d : DateSpelling} (h : d.IsValid) :
    Date.of? d.year d.month d.day = some d.date := by
  obtain ⟨hmonth₀, hmonth₁⟩ := h.month
  obtain ⟨hday₀, hday₁⟩ := h.day
  have hmonth : HasMonth d.date.monthIndex := by
    obtain ⟨hfirst, hlast⟩ := h.year
    simp only [HasMonth, DateSpelling.date]
    omega
  exact Date.of?_eq_some_iff.mpr
    ⟨by omega, by omega, ⟨hmonth, by simp only [DateSpelling.date]; omega, hday₁⟩, rfl, rfl⟩

theorem DateSpelling.isValid_of_of?_eq {d : DateSpelling} {date : Date} (hyear : IsYear d.digits)
    (h : Date.of? d.year d.month d.day = some date) : d.IsValid := by
  obtain ⟨hmonth₀, hmonth₁, hexists, hindex, hday⟩ := Date.of?_eq_some_iff.mp h
  obtain ⟨hfirst, hlast⟩ := hexists.year_bounds
  have hlength := hexists.day_le
  have hone := hexists.one_le_day
  rw [hindex] at hlength
  simp only [Date.year, hindex] at hfirst hlast
  exact ⟨hyear.1, hyear.2.1, by omega, by omega, by omega⟩

/-- A date is scanned exactly where a valid one is written. -/
theorem scanDate_eq_ok_iff_spelling {date : Date} :
    scanDate cs = .ok (date, rest) ↔
      ∃ d : DateSpelling, d.IsValid ∧ d.date = date ∧ cs = d.text ++ rest := by
  rw [scanDate_eq_ok_iff]
  constructor
  · rintro ⟨y, month, day, r₁, r₂, hyear, hmonth, hday, hdate⟩
    obtain ⟨sign, ds, hdigits, -, rfl, rfl⟩ := year?_eq_some_iff.mp hyear
    obtain ⟨-, rfl⟩ := two?_eq_some_iff.mp hmonth
    obtain ⟨-, rfl⟩ := two?_eq_some_iff.mp hday
    have hvalid : DateSpelling.IsValid ⟨sign, ds, month, day⟩ :=
      DateSpelling.isValid_of_of?_eq hdigits hdate
    refine ⟨_, hvalid, ?_, ?_⟩
    · exact Option.some.inj (hvalid.of?_eq.symm.trans hdate)
    · simp only [DateSpelling.text, DateSpelling.yearText, List.append_assoc, List.cons_append]
  · rintro ⟨d, hd, rfl, rfl⟩
    have hday : d.day ≤ 31 := by
      have hlength := (monthLength_bounds (d.year * 12 + (d.month - 1))).2
      have hle := hd.day.2
      omega
    have hmonth := hd.month.2
    refine ⟨d.year, d.month, d.day, _, _, ?_, two?_twoText (by omega), two?_twoText (by omega),
      hd.of?_eq⟩
    simp only [DateSpelling.text, DateSpelling.yearText, List.append_assoc, List.cons_append]
    exact year?_eq_some_iff.mpr
      ⟨d.sign, d.digits, hd.isYear, Text.stops_cons (by decide), (List.append_assoc _ _ _).symm,
        rfl⟩

/-! ## The time of day -/

theorem optionalField_eq_ok_iff {α : Type} {mark : Char} {what : String} {a b : α}
    {more : Nat → Scan α} :
    (do
      if ← Scan.takes mark then
        let n ← Scan.field what 2 two?
        more n
      else return a : Scan α) cs = .ok (b, rest) ↔
      (∃ n left, n < 100 ∧ cs = mark :: twoText n ++ left ∧ more n left = .ok (b, rest)) ∨
        (cs.head? ≠ some mark ∧ a = b ∧ cs = rest) := by
  rw [Scan.ite_takes_eq_ok, Scan.pure_eq_ok]
  refine or_congr ?_ Iff.rfl
  constructor
  · rintro ⟨left, rfl, h⟩
    obtain ⟨n, left, hn, hmore⟩ := Scan.bind_eq_ok.mp h
    obtain ⟨hlt, rfl⟩ := two?_eq_some_iff.mp (Scan.field_eq_ok.mp hn)
    exact ⟨n, left, hlt, rfl, hmore⟩
  · rintro ⟨n, left, hlt, rfl, hmore⟩
    exact ⟨twoText n ++ left, rfl,
      Scan.bind_eq_ok.mpr ⟨n, left, Scan.field_eq_ok.mpr (two?_twoText hlt), hmore⟩⟩

variable {t t' : PartialTime}

theorem scanOptionalFraction_eq_ok_iff :
    scanOptionalFraction t cs = .ok (t', rest) ↔
      (∃ ds, digits? (ds ++ rest) = some (ds, rest) ∧ cs = '.' :: ds ++ rest ∧
        { t with millis := fractionMillis ds, precision := .millisecond } = t') ∨
        (cs.head? ≠ some '.' ∧ t = t' ∧ cs = rest) := by
  unfold scanOptionalFraction
  rw [Scan.ite_takes_eq_ok, Scan.pure_eq_ok]
  refine or_congr ?_ Iff.rfl
  constructor
  · rintro ⟨left, rfl, h⟩
    obtain ⟨millis, left, hmillis, h⟩ := Scan.bind_eq_ok.mp h
    obtain ⟨rfl, rfl⟩ := Scan.pure_eq_ok.mp h
    obtain ⟨ds, hds, rfl⟩ := scanFraction_eq_ok_iff.mp hmillis
    obtain ⟨-, -, -, rfl⟩ := digits?_eq_some_iff.mp hds
    exact ⟨ds, hds, rfl, rfl⟩
  · rintro ⟨ds, hds, rfl, rfl⟩
    exact ⟨ds ++ rest, rfl, Scan.bind_eq_ok.mpr
      ⟨fractionMillis ds, rest, scanFraction_eq_ok_iff.mpr ⟨ds, hds, rfl⟩, rfl⟩⟩

theorem scanOptionalSecond_eq_ok_iff :
    scanOptionalSecond t cs = .ok (t', rest) ↔
      (∃ second left, second < 100 ∧ cs = ':' :: twoText second ++ left ∧
        scanOptionalFraction { t with second, precision := .second } left = .ok (t', rest)) ∨
        (cs.head? ≠ some ':' ∧ t = t' ∧ cs = rest) :=
  optionalField_eq_ok_iff

theorem scanOptionalMinute_eq_ok_iff :
    scanOptionalMinute t cs = .ok (t', rest) ↔
      (∃ minute left, minute < 100 ∧ cs = ':' :: twoText minute ++ left ∧
        scanOptionalSecond { t with minute, precision := .minute } left = .ok (t', rest)) ∨
        (cs.head? ≠ some ':' ∧ t = t' ∧ cs = rest) :=
  optionalField_eq_ok_iff

/-- The first three digits of a fraction are its milliseconds. -/
theorem fractionMillis_eq (hds : ∀ c ∈ ds, c.isDigit = true) :
    fractionMillis ds = Text.number ds * 1000 / 10 ^ ds.length := by
  have hzeros : ∀ c ∈ ds ++ ['0', '0', '0'], c.isDigit = true := by
    intro c hc
    rcases List.mem_append.mp hc with hc | hc
    · exact hds c hc
    · obtain rfl : c = '0' := by simpa using hc
      rfl
  have hlength : ((ds ++ ['0', '0', '0']).drop 3).length = ds.length := by simp
  have hthousand : Text.number (ds ++ ['0', '0', '0']) = Text.number ds * 1000 := by
    have hnone : Text.number ['0', '0', '0'] = 0 := by decide
    have hpower : 10 ^ ['0', '0', '0'].length = 1000 := rfl
    rw [Text.number_append, hnone, hpower, Nat.add_zero]
  have hlt := Text.number_lt fun c (hc : c ∈ (ds ++ ['0', '0', '0']).drop 3) =>
    hzeros c (List.mem_of_mem_drop hc)
  have hsplit := Text.number_append ((ds ++ ['0', '0', '0']).take 3)
    ((ds ++ ['0', '0', '0']).drop 3)
  rw [List.take_append_drop, hthousand, hlength] at hsplit
  rw [hlength] at hlt
  rw [hsplit]
  refine (Nat.div_eq_of_lt_le (Nat.le_add_right _ _) ?_).symm
  rw [Nat.succ_mul]
  exact Nat.add_lt_add_left hlt _

namespace Clock

variable {clock : Clock}

/-- The fields of a time, which are zero where they are not written. -/
def fields : Clock → PartialTime
  | none => .midnight
  | hour h => ⟨h, 0, 0, 0, .hour⟩
  | minute h m => ⟨h, m, 0, 0, .minute⟩
  | second h m s => ⟨h, m, s, 0, .second⟩
  | fraction h m s ds => ⟨h, m, s, fractionMillis ds, .millisecond⟩

/-- The fields have two places each, and a fraction is a run of digits. -/
def IsSpelled : Clock → Prop
  | none => True
  | hour h => h < 100
  | minute h m => h < 100 ∧ m < 100
  | second h m s => h < 100 ∧ m < 100 ∧ s < 100
  | fraction h m s ds =>
      h < 100 ∧ m < 100 ∧ s < 100 ∧ ds ≠ [] ∧ ∀ c ∈ ds, c.isDigit = true

/-- A text that a time does not go on with. -/
def Ends (rest : List Char) : Clock → Prop
  | none => rest.head? ≠ some 'T'
  | hour _ => rest.head? ≠ some ':'
  | minute _ _ => rest.head? ≠ some ':'
  | second _ _ _ => rest.head? ≠ some '.'
  | fraction _ _ _ _ => Text.Stops Char.isDigit rest

theorem precision_fields (clock : Clock) : clock.fields.precision = clock.precision := by
  cases clock <;> rfl

theorem IsValid.isSpelled (h : clock.IsValid) : clock.IsSpelled := by
  cases clock with
  | none => exact trivial
  | hour h => simp only [IsValid, IsSpelled] at h ⊢; omega
  | minute h m => simp only [IsValid, IsSpelled] at h ⊢; omega
  | second h m s => simp only [IsValid, IsSpelled] at h ⊢; omega
  | fraction h m s ds =>
      obtain ⟨hh, hm, hs, hds⟩ := h
      exact ⟨by omega, by omega, by omega, hds⟩

theorem toMillis?_fields (h : clock.IsSpelled) {time : Nat} :
    clock.fields.toMillis? = some time ↔ clock.IsValid ∧ clock.millis = time := by
  simp only [PartialTime.toMillis?, timeOfDay?, Option.ite_none_right_eq_some, Option.some.injEq]
  cases clock with
  | none => simp [fields, PartialTime.midnight, IsValid, millis]
  | hour h => simp only [fields, IsValid, millis]; omega
  | minute h m => simp only [fields, IsValid, millis]; omega
  | second h m s => simp only [fields, IsValid, millis]; omega
  | fraction h m s ds =>
      obtain ⟨-, -, -, hds⟩ := h
      have hlt := fractionMillis_lt hds.2
      have hfraction := fractionMillis_eq hds.2
      simp only [fields, IsValid, millis, ← hfraction]
      have htotal : ((h * 60 + m) * 60 + s) * 1000 + fractionMillis ds
          = h * 3600000 + m * 60000 + s * 1000 + fractionMillis ds := by omega
      rw [htotal]
      constructor
      · rintro ⟨hclock, htime⟩
        exact ⟨⟨by omega, by omega, by omega, hds⟩, htime⟩
      · rintro ⟨⟨hh, hm, hs, -⟩, htime⟩
        exact ⟨by omega, htime⟩

/-- The fields of a time are scanned exactly where they are written. -/
theorem exists_spelled_iff {t : PartialTime} :
    ((∃ hour left, hour < 100 ∧ cs = 'T' :: twoText hour ++ left ∧
        scanOptionalMinute { PartialTime.midnight with hour, precision := .hour } left
          = .ok (t, rest)) ∨
        (cs.head? ≠ some 'T' ∧ PartialTime.midnight = t ∧ cs = rest)) ↔
      ∃ clock : Clock, clock.IsSpelled ∧ clock.Ends rest ∧ clock.fields = t ∧
        cs = clock.text ++ rest := by
  constructor
  · rintro (⟨h, left, hh, rfl, h₁⟩ | ⟨hmark, rfl, rfl⟩)
    · rcases scanOptionalMinute_eq_ok_iff.mp h₁ with ⟨m, left, hm, rfl, h₂⟩ | ⟨hmark, rfl, rfl⟩
      · rcases scanOptionalSecond_eq_ok_iff.mp h₂ with ⟨s, left, hs, rfl, h₃⟩ | ⟨hmark, rfl, rfl⟩
        · rcases scanOptionalFraction_eq_ok_iff.mp h₃ with ⟨ds, hds, rfl, rfl⟩ | ⟨hmark, rfl, rfl⟩
          · obtain ⟨hne, hdigits, hstops, -⟩ := digits?_eq_some_iff.mp hds
            exact ⟨.fraction h m s ds, ⟨hh, hm, hs, hne, hdigits⟩, hstops, rfl, by simp [text]⟩
          · exact ⟨.second h m s, ⟨hh, hm, hs⟩, hmark, rfl, by simp [text]⟩
        · exact ⟨.minute h m, ⟨hh, hm⟩, hmark, rfl, by simp [text]⟩
      · exact ⟨.hour h, hh, hmark, rfl, rfl⟩
    · exact ⟨.none, trivial, hmark, rfl, rfl⟩
  -- the scan stops at the first mark that is missing, which is where the clock ends
  · rintro ⟨clock, hspelled, hends, rfl, rfl⟩
    cases clock with
    | none => exact Or.inr ⟨hends, rfl, rfl⟩
    | hour h =>
        exact Or.inl ⟨h, rest, hspelled, rfl,
          scanOptionalMinute_eq_ok_iff.mpr (Or.inr ⟨hends, rfl, rfl⟩)⟩
    | minute h m =>
        obtain ⟨hh, hm⟩ := hspelled
        refine Or.inl ⟨h, ':' :: twoText m ++ rest, hh, by simp [text], ?_⟩
        refine scanOptionalMinute_eq_ok_iff.mpr (Or.inl ⟨m, rest, hm, rfl, ?_⟩)
        exact scanOptionalSecond_eq_ok_iff.mpr (Or.inr ⟨hends, rfl, rfl⟩)
    | second h m s =>
        obtain ⟨hh, hm, hs⟩ := hspelled
        refine Or.inl ⟨h, ':' :: twoText m ++ (':' :: twoText s ++ rest), hh, by simp [text], ?_⟩
        refine scanOptionalMinute_eq_ok_iff.mpr (Or.inl ⟨m, _, hm, rfl, ?_⟩)
        refine scanOptionalSecond_eq_ok_iff.mpr (Or.inl ⟨s, rest, hs, rfl, ?_⟩)
        exact scanOptionalFraction_eq_ok_iff.mpr (Or.inr ⟨hends, rfl, rfl⟩)
    | fraction h m s ds =>
        obtain ⟨hh, hm, hs, hne, hdigits⟩ := hspelled
        refine Or.inl ⟨h, ':' :: twoText m ++ (':' :: twoText s ++ ('.' :: ds ++ rest)), hh,
          by simp [text], ?_⟩
        refine scanOptionalMinute_eq_ok_iff.mpr (Or.inl ⟨m, _, hm, rfl, ?_⟩)
        refine scanOptionalSecond_eq_ok_iff.mpr (Or.inl ⟨s, _, hs, rfl, ?_⟩)
        exact scanOptionalFraction_eq_ok_iff.mpr
          (Or.inl ⟨ds, digits?_run hdigits hne hends, rfl, rfl⟩)

end Clock

theorem shown_eq_ok_iff (start : List Char) {left : List Char} {time : Nat}
    {precision : CalendarUnit} :
    (match t.toMillis? with
      | some time => (pure (time, t.precision) : Scan (Nat × CalendarUnit))
      | none => Scan.failFrom start .noSuchTime) left = .ok ((time, precision), rest) ↔
      t.toMillis? = some time ∧ t.precision = precision ∧ left = rest := by
  cases t.toMillis? with
  | none => simp [Scan.failFrom]
  | some total => simp [Scan.pure_eq_ok, and_assoc]

theorem scanOptionalTime_eq_ok_iff_fields {time : Nat} {precision : CalendarUnit} :
    scanOptionalTime cs = .ok ((time, precision), rest) ↔
      ∃ t, (∃ clock : Clock, clock.IsSpelled ∧ clock.Ends rest ∧ clock.fields = t ∧
        cs = clock.text ++ rest) ∧ t.toMillis? = some time ∧ t.precision = precision := by
  simp only [← Clock.exists_spelled_iff]
  constructor
  · intro h
    obtain ⟨start, left, hget, h⟩ := Scan.bind_eq_ok.mp h
    obtain ⟨rfl, rfl⟩ := Scan.get_eq_ok.mp hget
    rcases Scan.ite_takes_eq_ok.mp h with ⟨left, rfl, h⟩ | ⟨hmark, h⟩
    · obtain ⟨hour, left, hhour, h⟩ := Scan.bind_eq_ok.mp h
      obtain ⟨hlt, rfl⟩ := two?_eq_some_iff.mp (Scan.field_eq_ok.mp hhour)
      obtain ⟨t, left, ht, h⟩ := Scan.bind_eq_ok.mp h
      obtain ⟨hmillis, hprecision, rfl⟩ := (shown_eq_ok_iff _).mp h
      exact ⟨t, Or.inl ⟨hour, _, hlt, rfl, ht⟩, hmillis, hprecision⟩
    · obtain ⟨t, left, ht, h⟩ := Scan.bind_eq_ok.mp h
      obtain ⟨rfl, rfl⟩ := Scan.pure_eq_ok.mp ht
      obtain ⟨hmillis, hprecision, rfl⟩ := (shown_eq_ok_iff (t := .midnight) left).mp h
      exact ⟨_, Or.inr ⟨hmark, rfl, rfl⟩, hmillis, hprecision⟩
  · rintro ⟨t, hfields, hshown⟩
    refine Scan.bind_eq_ok.mpr ⟨cs, cs, rfl, Scan.ite_takes_eq_ok.mpr ?_⟩
    rcases hfields with ⟨hour, left, hlt, rfl, ht⟩ | ⟨hmark, rfl, rfl⟩
    · refine Or.inl ⟨twoText hour ++ left, rfl, Scan.bind_eq_ok.mpr ⟨hour, left, ?_, ?_⟩⟩
      · exact Scan.field_eq_ok.mpr (two?_twoText hlt)
      · exact Scan.bind_eq_ok.mpr ⟨t, rest, ht, (shown_eq_ok_iff _).mpr ⟨hshown.1, hshown.2, rfl⟩⟩
    · refine Or.inr ⟨hmark, Scan.bind_eq_ok.mpr ⟨.midnight, cs, rfl, ?_⟩⟩
      exact (shown_eq_ok_iff (t := .midnight) cs).mpr ⟨hshown.1, hshown.2, rfl⟩

/-- A time is scanned exactly where a valid one is written. -/
theorem scanOptionalTime_eq_ok_iff {time : Nat} {precision : CalendarUnit} :
    scanOptionalTime cs = .ok ((time, precision), rest) ↔
      ∃ clock : Clock, clock.IsValid ∧ clock.Ends rest ∧ clock.millis = time ∧
        clock.precision = precision ∧ cs = clock.text ++ rest := by
  rw [scanOptionalTime_eq_ok_iff_fields]
  constructor
  · rintro ⟨-, ⟨clock, hspelled, hends, rfl, rfl⟩, hmillis, rfl⟩
    obtain ⟨hvalid, rfl⟩ := (Clock.toMillis?_fields hspelled).mp hmillis
    exact ⟨clock, hvalid, hends, rfl, clock.precision_fields.symm, rfl⟩
  · rintro ⟨clock, hvalid, hends, rfl, rfl, rfl⟩
    exact ⟨clock.fields, ⟨clock, hvalid.isSpelled, hends, rfl, rfl⟩,
      (Clock.toMillis?_fields hvalid.isSpelled).mpr ⟨hvalid, rfl⟩, clock.precision_fields⟩

/-! ## The zone -/

namespace Zone

/-- A text that a zone does not go on with. -/
def Ends (rest : List Char) : Zone → Prop
  | none => rest.head? ≠ some 'Z' ∧ rest.head? ≠ some '+' ∧ rest.head? ≠ some '-'
  | utc => True
  | hours _ _ => rest.head? ≠ some ':' ∧ startsWithDigit rest = false
  | minutes _ _ _ _ => True

end Zone

theorem takes_eq_ok_iff {mark : Char} {taken : Bool} :
    Scan.takes mark cs = .ok (taken, rest) ↔
      (taken = false → rest.head? ≠ some mark) ∧ cs = (if taken then [mark] else []) ++ rest := by
  cases taken with
  | true => simp [Scan.takes_true_eq_ok]
  | false =>
      rw [Scan.takes_false_eq_ok]
      constructor
      · rintro ⟨rfl, hmark⟩
        exact ⟨fun _ => hmark, rfl⟩
      · rintro ⟨hmark, rfl⟩
        exact ⟨rfl, hmark rfl⟩

/-- Two digits begin with a digit, and so with no colon. -/
theorem begins_twoText (n : Nat) (rest : List Char) :
    startsWithDigit (twoText n ++ rest) = true ∧ (twoText n ++ rest).head? ≠ some ':' := by
  obtain ⟨c, ds, h⟩ := List.exists_cons_of_ne_nil (Text.padded_ne_nil 1 n)
  have hc : c.isDigit = true :=
    Text.isDigit_of_mem_padded (h ▸ List.mem_cons_self : c ∈ Text.padded 2 n)
  rw [twoText, h]
  refine ⟨hc, fun hhead => ?_⟩
  cases hhead
  cases hc

theorem scanOffset_eq_ok_iff {h m : Nat} :
    scanOffset cs = .ok ((h, m), rest) ↔
      h < 100 ∧ ((∃ colon : Bool, m < 100 ∧
          cs = twoText h ++ (if colon then [':'] else []) ++ twoText m ++ rest) ∨
        (m = 0 ∧ rest.head? ≠ some ':' ∧ startsWithDigit rest = false ∧
          cs = twoText h ++ rest)) := by
  constructor
  · intro hscan
    obtain ⟨hours, r₁, hhours, h₁⟩ := Scan.bind_eq_ok.mp hscan
    obtain ⟨hlt, rfl⟩ := two?_eq_some_iff.mp (Scan.field_eq_ok.mp hhours)
    obtain ⟨taken, r₂, htaken, h₂⟩ := Scan.bind_eq_ok.mp h₁
    obtain ⟨hcolon, rfl⟩ := takes_eq_ok_iff.mp htaken
    obtain ⟨left, r₃, hget, h₃⟩ := Scan.bind_eq_ok.mp h₂
    obtain ⟨rfl, rfl⟩ := Scan.get_eq_ok.mp hget
    -- minutes are there after a colon, and also where a digit comes next
    split at h₃
    · obtain ⟨minutes, r₄, hminutes, h₄⟩ := Scan.bind_eq_ok.mp h₃
      obtain ⟨hlt', rfl⟩ := two?_eq_some_iff.mp (Scan.field_eq_ok.mp hminutes)
      obtain ⟨hpair, rfl⟩ := Scan.pure_eq_ok.mp h₄
      obtain ⟨rfl, rfl⟩ := Prod.mk.inj hpair
      exact ⟨hlt, Or.inl ⟨taken, hlt', by simp only [List.append_assoc]⟩⟩
    · next hnone =>
      obtain ⟨minutes, r₄, hminutes, h₄⟩ := Scan.bind_eq_ok.mp h₃
      obtain ⟨rfl, rfl⟩ := Scan.pure_eq_ok.mp hminutes
      obtain ⟨hpair, rfl⟩ := Scan.pure_eq_ok.mp h₄
      obtain ⟨rfl, rfl⟩ := Prod.mk.inj hpair
      simp only [Bool.or_eq_true, not_or, Bool.not_eq_true] at hnone
      obtain ⟨rfl, hdigit⟩ := hnone
      exact ⟨hlt, Or.inr ⟨rfl, hcolon rfl, hdigit, rfl⟩⟩
  · rintro ⟨hh, ⟨colon, hm, rfl⟩ | ⟨rfl, hcolon, hdigit, rfl⟩⟩
    · obtain ⟨hdigit, hcolon⟩ := begins_twoText m rest
      simp only [List.append_assoc]
      refine Scan.bind_eq_ok.mpr ⟨h, _, Scan.field_eq_ok.mpr (two?_twoText hh), ?_⟩
      refine Scan.bind_eq_ok.mpr ⟨colon, _, takes_eq_ok_iff.mpr ⟨fun _ => hcolon, rfl⟩, ?_⟩
      refine Scan.bind_eq_ok.mpr ⟨_, _, rfl, ?_⟩
      rw [if_pos (by rw [hdigit, Bool.or_true])]
      exact Scan.bind_eq_ok.mpr ⟨m, rest, Scan.field_eq_ok.mpr (two?_twoText hm), rfl⟩
    · refine Scan.bind_eq_ok.mpr ⟨h, rest, Scan.field_eq_ok.mpr (two?_twoText hh), ?_⟩
      refine Scan.bind_eq_ok.mpr ⟨false, rest, takes_eq_ok_iff.mpr ⟨fun _ => hcolon, rfl⟩, ?_⟩
      refine Scan.bind_eq_ok.mpr ⟨_, _, rfl, ?_⟩
      rw [if_neg (by rw [hdigit]; decide)]
      rfl

theorem scanSignedOffset_eq_ok_iff_scanOffset {start : List Char} {factor offset : Int} :
    scanSignedOffset start factor cs = .ok (offset, rest) ↔
      ∃ h m : Nat, scanOffset cs = .ok ((h, m), rest) ∧ h ≤ 18 ∧ m ≤ 59 ∧
        factor * (h * 60 + m) = offset := by
  constructor
  · intro hscan
    obtain ⟨⟨h, m⟩, r₁, hoffset, h₁⟩ := Scan.bind_eq_ok.mp hscan
    by_cases hlarge : greatestOffsetHours < h ∨ 59 < m
    · simp only [if_pos hlarge] at h₁
      exact absurd h₁ Scan.failFrom_ne_ok
    · simp only [if_neg hlarge] at h₁
      obtain ⟨rfl, rfl⟩ := Scan.pure_eq_ok.mp h₁
      simp only [greatestOffsetHours, not_or, Nat.not_lt] at hlarge
      exact ⟨h, m, hoffset, hlarge.1, hlarge.2, rfl⟩
  · rintro ⟨h, m, hoffset, hh, hm, rfl⟩
    have hsmall : ¬(greatestOffsetHours < h ∨ 59 < m) := by
      simp only [greatestOffsetHours]
      omega
    refine Scan.bind_eq_ok.mpr ⟨(h, m), rest, hoffset, ?_⟩
    simp only [if_neg hsmall]
    rfl

/-- An offset is scanned exactly where a valid one is written after its sign. -/
theorem scanSignedOffset_eq_ok_iff (sign : Sign) {start : List Char} {offset : Int} :
    scanSignedOffset start (sign.apply 1) cs = .ok (offset, rest) ↔
      (∃ h colon m, (Zone.minutes sign h colon m).IsValid ∧
        (Zone.minutes sign h colon m).offset = offset ∧
        cs = twoText h ++ (if colon then [':'] else []) ++ twoText m ++ rest) ∨
      (∃ h, (Zone.hours sign h).IsValid ∧ (Zone.hours sign h).Ends rest ∧
        (Zone.hours sign h).offset = offset ∧ cs = twoText h ++ rest) := by
  have happly : ∀ n : Nat, sign.apply 1 * n = sign.apply n := by
    intro n
    cases sign with
    | plus => exact Int.one_mul _
    | minus => exact Int.neg_one_mul _
  rw [scanSignedOffset_eq_ok_iff_scanOffset]
  constructor
  · rintro ⟨h, m, hoffset, hh, hm, rfl⟩
    rcases scanOffset_eq_ok_iff.mp hoffset with ⟨-, ⟨colon, -, rfl⟩ | ⟨rfl, hcolon, hdigit, rfl⟩⟩
    · exact Or.inl ⟨h, colon, m, ⟨hh, hm⟩, (happly _).symm, rfl⟩
    · exact Or.inr ⟨h, hh, ⟨hcolon, hdigit⟩, (happly _).symm, rfl⟩
  · rintro (⟨h, colon, m, ⟨hh, hm⟩, rfl, rfl⟩ | ⟨h, hh, hends, rfl, rfl⟩)
    · refine ⟨h, m, scanOffset_eq_ok_iff.mpr ?_, hh, hm, happly _⟩
      exact ⟨by omega, Or.inl ⟨colon, by omega, rfl⟩⟩
    · change h ≤ 18 at hh
      refine ⟨h, 0, scanOffset_eq_ok_iff.mpr ?_, hh, by omega, happly _⟩
      exact ⟨by omega, Or.inr ⟨rfl, hends.1, hends.2, rfl⟩⟩

theorem scanZone_signed (sign : Sign) (left : List Char) :
    scanZone (sign.mark :: left)
      = scanSignedOffset (sign.mark :: left) (sign.apply 1) left := by
  cases sign with
  | plus => rfl
  | minus => rfl

theorem exists_zone_of_signed (sign : Sign) {start left : List Char} {offset : Int}
    (hscan : scanSignedOffset start (sign.apply 1) left = .ok (offset, rest)) :
    ∃ zone : Zone, zone.IsValid ∧ zone.Ends rest ∧ zone.offset = offset ∧
      sign.mark :: left = zone.text ++ rest := by
  rcases (scanSignedOffset_eq_ok_iff sign).mp hscan
    with ⟨h, colon, m, hvalid, hoffset, rfl⟩ | ⟨h, hvalid, hends, hoffset, rfl⟩
  · exact ⟨.minutes sign h colon m, hvalid, trivial, hoffset, rfl⟩
  · exact ⟨.hours sign h, hvalid, hends, hoffset, rfl⟩

/-- A zone is scanned exactly where a valid one is written. -/
theorem scanZone_eq_ok_iff {offset : Int} :
    scanZone cs = .ok (offset, rest) ↔
      ∃ zone : Zone, zone.IsValid ∧ zone.Ends rest ∧ zone.offset = offset ∧
        cs = zone.text ++ rest := by
  constructor
  · intro hscan
    obtain ⟨start, r₁, hget, h₁⟩ := Scan.bind_eq_ok.mp hscan
    obtain ⟨rfl, rfl⟩ := Scan.get_eq_ok.mp hget
    rcases Scan.ite_takes_eq_ok.mp h₁ with ⟨left, rfl, h₂⟩ | ⟨hutc, h₂⟩
    · obtain ⟨rfl, rfl⟩ := Scan.pure_eq_ok.mp h₂
      exact ⟨.utc, trivial, trivial, rfl, rfl⟩
    · rcases Scan.ite_takes_eq_ok.mp h₂ with ⟨left, rfl, h₃⟩ | ⟨hplus, h₃⟩
      · exact exists_zone_of_signed .plus h₃
      · rcases Scan.ite_takes_eq_ok.mp h₃ with ⟨left, rfl, h₄⟩ | ⟨hminus, h₄⟩
        · exact exists_zone_of_signed .minus h₄
        · obtain ⟨rfl, rfl⟩ := Scan.pure_eq_ok.mp h₄
          exact ⟨.none, trivial, ⟨hutc, hplus, hminus⟩, rfl, rfl⟩
  · rintro ⟨zone, hvalid, hends, rfl, rfl⟩
    cases zone with
    | none =>
        refine Scan.bind_eq_ok.mpr ⟨rest, rest, rfl, ?_⟩
        refine Scan.ite_takes_eq_ok.mpr (Or.inr ⟨hends.1, ?_⟩)
        refine Scan.ite_takes_eq_ok.mpr (Or.inr ⟨hends.2.1, ?_⟩)
        exact Scan.ite_takes_eq_ok.mpr (Or.inr ⟨hends.2.2, rfl⟩)
    | utc => rfl
    | hours sign h =>
        refine (scanZone_signed sign _).trans ?_
        exact (scanSignedOffset_eq_ok_iff sign).mpr (Or.inr ⟨h, hvalid, hends, rfl, rfl⟩)
    | minutes sign h colon m =>
        refine (scanZone_signed sign _).trans ?_
        exact (scanSignedOffset_eq_ok_iff sign).mpr (Or.inl ⟨h, colon, m, hvalid, rfl, rfl⟩)

/-! ## The whole -/

theorem Zone.head_text (zone : Zone) {c : Char} (h : c ∈ zone.text.head?) :
    c ∈ ['Z', '+', '-'] := by
  have hmark (sign : Sign) : sign.mark ∈ ['Z', '+', '-'] := by
    cases sign with
    | plus => decide
    | minus => decide
  cases zone with
  | none => cases h
  | utc =>
      obtain rfl := Option.some.inj h
      decide
  | hours sign =>
      obtain rfl := Option.some.inj h
      exact hmark sign
  | minutes sign =>
      obtain rfl := Option.some.inj h
      exact hmark sign

/-- No zone begins with what a time could go on with. -/
theorem Clock.ends_zone (clock : Clock) (zone : Zone) : clock.Ends zone.text := by
  have hne {c : Char} (hc : c ∉ ['Z', '+', '-']) : zone.text.head? ≠ some c :=
    fun h => hc (zone.head_text h)
  cases clock with
  | none => exact hne (by decide)
  | hour => exact hne (by decide)
  | minute => exact hne (by decide)
  | second => exact hne (by decide)
  | fraction =>
      intro c hc
      have hdigits : ∀ c ∈ ['Z', '+', '-'], c.isDigit = false := by simp
      exact hdigits c (zone.head_text hc)

section Parts

variable {w : Spelling}

theorem Spelling.IsValid.scanDate_text (h : w.IsValid) :
    scanDate w.text = .ok (w.date.date, w.clock.text ++ w.zone.text) :=
  scanDate_eq_ok_iff_spelling.mpr ⟨w.date, h.date, rfl, List.append_assoc _ _ _⟩

theorem Spelling.IsValid.scanOptionalTime_text (h : w.IsValid) :
    scanOptionalTime (w.clock.text ++ w.zone.text)
      = .ok ((w.clock.millis, w.clock.precision), w.zone.text) :=
  scanOptionalTime_eq_ok_iff.mpr ⟨w.clock, h.clock, w.clock.ends_zone w.zone, rfl, rfl, rfl⟩

theorem Spelling.IsValid.scanZone_text (h : w.IsValid) :
    scanZone w.zone.text = .ok (w.zone.offset, []) := by
  have hends : w.zone.Ends [] := by
    cases w.zone with
    | none => exact ⟨nofun, nofun, nofun⟩
    | utc => exact trivial
    | hours => exact ⟨nofun, rfl⟩
    | minutes => exact trivial
  exact scanZone_eq_ok_iff.mpr ⟨w.zone, h.zone, hends, rfl, (List.append_nil _).symm⟩

end Parts

theorem scanDateOptionalTime_eq_ok_iff {parts : OptionalTime} :
    scanDateOptionalTime text = .ok (parts, rest) ↔
      rest = [] ∧ ∃ w : Spelling, w.IsValid ∧ w.text = text ∧
        parts = ⟨⟨w.date.date, w.clock.millis⟩, w.clock.precision, w.zone.offset⟩ := by
  constructor
  · intro hscan
    obtain ⟨date, r₁, hdate, h₁⟩ := Scan.bind_eq_ok.mp hscan
    obtain ⟨⟨time, precision⟩, r₂, htime, h₂⟩ := Scan.bind_eq_ok.mp h₁
    obtain ⟨offset, r₃, hzone, h₃⟩ := Scan.bind_eq_ok.mp h₂
    obtain ⟨u, r₄, hfinish, h₄⟩ := Scan.bind_eq_ok.mp h₃
    obtain ⟨rfl, rfl⟩ := Scan.finish_eq_ok.mp hfinish
    obtain ⟨rfl, rfl⟩ := Scan.pure_eq_ok.mp h₄
    obtain ⟨d, hd, rfl, rfl⟩ := scanDate_eq_ok_iff_spelling.mp hdate
    obtain ⟨clock, hclock, -, rfl, rfl, rfl⟩ := scanOptionalTime_eq_ok_iff.mp htime
    obtain ⟨zone, hvalid, -, rfl, rfl⟩ := scanZone_eq_ok_iff.mp hzone
    exact ⟨rfl, ⟨d, clock, zone⟩, ⟨hd, hclock, hvalid⟩, by simp [Spelling.text], rfl⟩
  · rintro ⟨rfl, w, hw, rfl, rfl⟩
    exact Scan.bind_eq_ok.mpr ⟨_, _, hw.scanDate_text, Scan.bind_eq_ok.mpr
      ⟨_, _, hw.scanOptionalTime_text, Scan.bind_eq_ok.mpr ⟨_, _, hw.scanZone_text, rfl⟩⟩⟩

theorem Clock.IsValid.millis_lt {clock : Clock} (h : clock.IsValid) : clock.millis < 86400000 := by
  have hshown := (Clock.toMillis?_fields h.isSpelled).mpr ⟨h, rfl⟩
  exact (toMillis?_eq_some hshown).2

theorem Zone.IsValid.offset_le {zone : Zone} (h : zone.IsValid) : zone.offset.natAbs ≤ 1139 := by
  cases zone with
  | none => decide
  | utc => decide
  | hours sign h' =>
      change h' ≤ 18 at h
      rw [offset, Sign.natAbs_apply]
      omega
  | minutes sign h' colon m =>
      obtain ⟨hh, hm⟩ := h
      rw [offset, Sign.natAbs_apply]
      omega

namespace Spelling.IsValid

variable {w : Spelling}

theorem moment_exists (h : w.IsValid) : Moment.Exists ⟨w.date.date, w.clock.millis⟩ :=
  ⟨(Date.of?_eq_some_iff.mp h.date.of?_eq).2.2.1, h.clock.millis_lt⟩

theorem offset_near (h : w.IsValid) : -68340000 ≤ w.offset ∧ w.offset ≤ 68340000 := by
  have hzone := h.zone.offset_le
  rw [offset]
  omega

/-- The instant of a valid spelling is far inside the range of instants. -/
theorem exists_shifted (h : w.IsValid) :
    ∃ i : Instant, (Moment.toInstant ⟨w.date.date, w.clock.millis⟩).shift? (-w.offset) = some i ∧
      i.toInt = w.millis := by
  have hexists := h.moment_exists
  have hday : -96465292 ≤ w.date.date.toDay ∧ w.date.date.toDay ≤ 95026601 :=
    hexists.date.hasDay.bounds
  have htime := h.clock.millis_lt
  have hoffset := h.offset_near
  have hclock : (Moment.toInstant ⟨w.date.date, w.clock.millis⟩).toInt - w.offset = w.millis := by
    rw [hexists.toInt_toInstant, Spelling.millis, DateSpelling.days_eq]
    rfl
  have hfits : Word.Fits w.millis := by
    refine Word.fits_of_near ?_
    rw [Spelling.millis, DateSpelling.days_eq]
    omega
  obtain ⟨i, hi⟩ := Instant.exists_toInt_eq hfits
  exact ⟨i, Instant.shift?_eq_some_iff.mpr (hi.trans hclock.symm), hi⟩

theorem readOptionalTime_eq (h : w.IsValid) :
    ∃ r, readOptionalTime w.text = .ok r ∧ r.instant.toInt = w.millis ∧
      r.precision = w.clock.precision ∧ r.offset.toInt = w.offset := by
  obtain ⟨i, hshift, hi⟩ := h.exists_shifted
  have hscan := scanDateOptionalTime_eq_ok_iff.mpr ⟨rfl, w, h, rfl, rfl⟩
  have hoffset := h.offset_near
  refine ⟨⟨i, w.clock.precision, Int64.ofInt w.offset⟩, ?_, hi, rfl, ?_⟩
  · exact bind_eq_ok.mpr ⟨_, Scan.run_eq_ok.mpr ⟨[], hscan⟩, bind_eq_ok.mpr
      ⟨i, Instant.require_eq_ok.mpr hshift, rfl⟩⟩
  · exact Word.toInt_ofInt_of_fits (Word.fits_of_near (by omega))

end Spelling.IsValid

theorem exists_spelling_of_scan {parts : OptionalTime}
    (h : scanDateOptionalTime.run text = .ok parts) :
    ∃ w : Spelling, w.IsValid ∧ w.text = text ∧
      parts = ⟨⟨w.date.date, w.clock.millis⟩, w.clock.precision, w.zone.offset⟩ := by
  obtain ⟨rest, hscan⟩ := Scan.run_eq_ok.mp h
  exact (scanDateOptionalTime_eq_ok_iff.mp hscan).2

theorem malformed_of_readOptionalTime {fault : Fault}
    (h : readOptionalTime text = .error fault) :
    ∃ slip : Slip, fault = slip.toFault text := by
  rcases bind_eq_error.mp h with hscan | ⟨parts, hparts, hrest⟩
  · obtain ⟨slip, -, rfl⟩ := Scan.run_eq_error_iff.mp hscan
    exact ⟨slip, rfl⟩
  · obtain ⟨w, hw, -, rfl⟩ := exists_spelling_of_scan hparts
    obtain ⟨i, hshift, -⟩ := hw.exists_shifted
    rcases bind_eq_error.mp hrest with hshifted | ⟨j, -, hpure⟩
    · have hnone := (Instant.require_eq_error.mp hshifted).1
      cases hshift.symm.trans hnone
    · cases hpure

/-- A text is read exactly if it is the text of a valid spelling, and as what that stands for.  All
other texts are malformed: no text is refused for an instant that is out of range. -/
theorem readOptionalTime_grammar :
    (∀ text, (∃ r, readOptionalTime text = .ok r) ↔ ∃ w : Spelling, w.IsValid ∧ w.text = text) ∧
      (∀ w : Spelling, w.IsValid → ∃ r, readOptionalTime w.text = .ok r ∧
        r.instant.toInt = w.millis ∧ r.precision = w.clock.precision ∧
        r.offset.toInt = w.offset) ∧
      ∀ text fault, readOptionalTime text = .error fault →
        ∃ span message, fault = .malformedTimestamp (String.ofList text) span message := by
  refine ⟨?_, fun w hw => hw.readOptionalTime_eq, ?_⟩
  · intro text
    constructor
    · rintro ⟨r, hread⟩
      obtain ⟨parts, hparts, -⟩ := bind_eq_ok.mp hread
      obtain ⟨w, hw, htext, -⟩ := exists_spelling_of_scan hparts
      exact ⟨w, hw, htext⟩
    · rintro ⟨w, hw, rfl⟩
      obtain ⟨r, hread, -⟩ := hw.readOptionalTime_eq
      exact ⟨r, hread⟩
  · intro text fault hread
    obtain ⟨slip, rfl⟩ := malformed_of_readOptionalTime hread
    exact ⟨_, _, rfl⟩

/-- A signed year with a zero in front, a fraction of five digits and an offset without a colon. -/
theorem readOptionalTime_grammar_signed :
    ∃ w : Spelling, w.IsValid ∧ w.text = "+02024-02-29T23:59:59.98765-0130".toList ∧
      ∃ r, readOptionalTime w.text = .ok r ∧ r.instant.toInt = 1709256599987 ∧
        r.precision = .millisecond ∧ r.offset.toInt = -5400000 := by
  have hvalid : Spelling.IsValid ⟨⟨some .plus, ['0', '2', '0', '2', '4'], 2, 29⟩,
      .fraction 23 59 59 ['9', '8', '7', '6', '5'], .minutes .minus 1 false 30⟩ :=
    ⟨⟨by simp, by decide, by decide, by decide, by decide⟩,
      ⟨by decide, by decide, by decide, by decide, by simp⟩, ⟨by decide, by decide⟩⟩
  obtain ⟨r, hread, hinstant, hprecision, hoffset⟩ := readOptionalTime_grammar.2.1 _ hvalid
  refine ⟨_, hvalid, by decide, r, hread, ?_, hprecision, hoffset⟩
  exact hinstant.trans (by decide +kernel)

end Almanac.Timestamp
