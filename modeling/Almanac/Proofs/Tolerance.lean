import Almanac.Proofs.Decimal
import Almanac.Proofs.Resolver.Stages
import Almanac.Tolerance
/-!
# Tolerances

A tolerance is a duration or a number of milliseconds, and no text is both: a duration ends with a
letter, and a number has none.  `Duration` describes the durations that fit the digits of a decimal
whatever their unit, and `Duration.millis` is the rational number of milliseconds in one.  Reading
gives the floor of that number: twenty digits and the milliseconds of a week make a product that a
decimal still holds, so nothing is rounded before it is cut.
-/

namespace Almanac

theorem Text.toLower_of_not_isAlpha {c : Char} (h : c.isAlpha = false) : c.toLower = c := by
  rw [← Bool.not_eq_true, Text.isAlpha_iff] at h
  exact dif_neg fun hupper => h (Or.inl hupper)

namespace Tolerance

open Text (Stops number)

variable {cs word : List Char} {factor : Nat} {value : Int} {text : String}

/-! ## Units -/

/-- The units in lower case, each but the first counted in the one before it. -/
def unitNames : List (String × Nat) :=
  [("ms", 1), ("s", 1000), ("m", 60 * 1000), ("h", 60 * (60 * 1000)),
    ("d", 24 * (60 * (60 * 1000))), ("w", 7 * (24 * (60 * (60 * 1000))))]

/-- A word names a unit of so many milliseconds, in any case of its letters. -/
def Names (word : List Char) (factor : Nat) : Prop :=
  ∃ name, (name, factor) ∈ unitNames ∧ Text.lower word = name.toList

theorem factor?_eq_some_iff : factor? word = some factor ↔ Names word factor := by
  constructor
  · intro h
    obtain ⟨entry, hentry, rfl⟩ := Option.map_eq_some_iff.mp h
    have hspelled := List.find?_some hentry
    rw [beq_iff_eq] at hspelled
    exact ⟨entry.1, List.mem_of_find?_eq_some hentry, hspelled.symm⟩
  · rintro ⟨name, hmem, hword⟩
    have hfound : ∀ entry ∈ unitNames,
        (units.find? fun u => u.1.toList == entry.1.toList).map Prod.snd = some entry.2 := by decide
    rw [factor?, hword]
    exact hfound (name, factor) hmem

theorem Names.letters (h : Names word factor) :
    word ≠ [] ∧ ∀ c ∈ word, c.isAlpha = true := by
  obtain ⟨name, hmem, hword⟩ := h
  have hnames : ∀ entry ∈ unitNames, entry.1.toList ≠ [] ∧
      entry.1.toList.all Char.isAlpha = true := by decide
  obtain ⟨hne, hall⟩ := hnames _ hmem
  have hletters : ∀ c ∈ name.toList, c.isAlpha = true := List.all_eq_true.mp hall
  constructor
  · rintro rfl
    exact hne hword.symm
  · intro c hc
    by_contra hno
    rw [Bool.not_eq_true] at hno
    have hlower : c.toLower ∈ name.toList := hword ▸ List.mem_map_of_mem hc
    rw [Text.toLower_of_not_isAlpha hno] at hlower
    cases hno.symm.trans (hletters c hlower)

theorem isNumeral_of_isAlpha {c : Char} (h : c.isAlpha = true) : isNumeral c = false := by
  have hpoint : c ≠ '.' := by
    rintro rfl
    cases h
  simp [isNumeral, Text.isDigit_of_isAlpha h, hpoint]

/-- A unit ends the number in front of it. -/
theorem Names.stops (h : Names word factor) : Stops isNumeral word := by
  obtain ⟨hne, hletters⟩ := h.letters
  rw [← List.append_nil word]
  exact Text.stops_append hne fun c hc => isNumeral_of_isAlpha (hletters c hc)

/-! ## Durations -/

/-- A duration as it is written: digits, perhaps a point and more digits, and a unit. -/
structure Duration where
  whole : List Char
  /-- The digits after the point; none when there is no point. -/
  places : List Char
  unit : List Char
  /-- The milliseconds in the unit. -/
  factor : Nat
  whole_ne_nil : whole ≠ []
  isDigit : ∀ c ∈ whole ++ places, c.isDigit = true
  length_le : (whole ++ places).length ≤ 20
  names : Names unit factor

namespace Duration

def written (d : Duration) : List Char := Decimal.literal d.whole d.places ++ d.unit

/-- The milliseconds in a duration, with all their places. -/
def millis (d : Duration) : ℚ := Decimal.value d.whole d.places * d.factor

theorem factor_le (d : Duration) : d.factor ≤ 604800000 := by
  obtain ⟨name, hmem, -⟩ := d.names
  have hall : ∀ entry ∈ unitNames, entry.2 ≤ 604800000 := by decide
  exact hall _ hmem

theorem number_lt (d : Duration) : number (d.whole ++ d.places) < 10 ^ 20 :=
  Nat.lt_of_lt_of_le (Text.number_lt d.isDigit) (Nat.pow_le_pow_right (by decide) d.length_le)

/-- A decimal holds the digits of a duration times its unit. -/
theorem fits (d : Duration) : number (d.whole ++ d.places) * d.factor < Decimal.limit := by
  have hproduct : number (d.whole ++ d.places) * d.factor ≤ 10 ^ 20 * 604800000 :=
    Nat.mul_le_mul (Nat.le_of_lt d.number_lt) d.factor_le
  exact Nat.lt_of_le_of_lt hproduct (by decide)

theorem isNumeral_literal (d : Duration) :
    ∀ c ∈ Decimal.literal d.whole d.places, isNumeral c = true := by
  have hdigit : ∀ c ∈ d.whole ++ d.places, isNumeral c = true := by
    intro c hc
    simp [isNumeral, d.isDigit c hc]
  intro c hc
  cases hplaces : d.places with
  | nil =>
      rw [hplaces, Decimal.literal] at hc
      exact hdigit c (List.mem_append_left _ hc)
  | cons place places =>
      rw [hplaces, Decimal.literal, List.mem_append, List.mem_cons] at hc
      rcases hc with hc | rfl | hc
      · exact hdigit c (List.mem_append_left _ hc)
      · rfl
      · exact hdigit c (List.mem_append_right _ (hplaces ▸ hc))

theorem read?_literal (d : Duration) :
    Decimal.read? (Decimal.literal d.whole d.places)
      = some ⟨number (d.whole ++ d.places), d.places.length⟩ := by
  have hlength := d.length_le
  rw [List.length_append] at hlength
  have hscale : d.places.length ≤ Decimal.greatestScale :=
    Nat.le_trans (by omega : d.places.length ≤ 20) (by decide)
  exact Decimal.read?_literal d.whole_ne_nil d.isDigit
    (Nat.lt_trans d.number_lt (by decide)) hscale

theorem millis_nonneg (d : Duration) : 0 ≤ d.millis := by
  unfold millis Decimal.value
  positivity

end Duration

/-- A duration is read as its whole milliseconds, if a word can hold them. -/
theorem duration?_written (d : Duration) : duration? d.written = Word.fit? ⌊d.millis⌋ := by
  obtain ⟨p, hp, hrat⟩ := Decimal.times?_of_fits
    (d := ⟨number (d.whole ++ d.places), d.places.length⟩) d.fits
  have hfloor : (p.trunc : Int) = ⌊d.millis⌋ := by
    rw [Decimal.trunc_eq_floor, hrat, Decimal.toRat_digits, Duration.millis]
  rw [duration?, Duration.written, Text.dropWhile_run d.isNumeral_literal d.names.stops,
    Text.takeWhile_run d.isNumeral_literal d.names.stops, factor?_eq_some_iff.mpr d.names,
    d.read?_literal]
  simp [hp, hfloor]

/-! ## Numbers of milliseconds -/

/-- A unit has a letter, and a number has none. -/
theorem Names.not_subset (h : Names word factor) (hnumber : Text.IsNumber cs value) :
    ¬ word ⊆ cs := by
  obtain ⟨hne, hletters⟩ := h.letters
  obtain ⟨c, hc⟩ := List.exists_mem_of_ne_nil _ hne
  have hletter := hletters c hc
  intro hsubset
  rcases hnumber.mem c (hsubset hc) with rfl | rfl | hdigit
  · cases hletter
  · cases hletter
  · cases (Text.isDigit_of_isAlpha hletter).symm.trans hdigit

theorem duration?_of_isNumber (h : Text.IsNumber cs value) : duration? cs = none := by
  have hfactor : factor? (cs.dropWhile isNumeral) = none := by
    rw [Option.eq_none_iff_forall_ne_some]
    intro factor hfactor
    have hnames := factor?_eq_some_iff.mp hfactor
    exact hnames.not_subset h (List.dropWhile_sublist isNumeral).subset
  rw [duration?, hfactor]
  rfl

theorem word?_written (d : Duration) : Text.word? d.written = none := by
  rw [Option.eq_none_iff_forall_ne_some]
  intro n hn
  have hnumber := Text.word?_eq_some_iff.mp hn
  exact d.names.not_subset hnumber (List.subset_append_right _ _)

/-! ## Reading -/

theorem read_of_some {n : Int64} (h : millis? (Text.trim text.toList) = some n) :
    read text = if n.toInt < 0 then .error (.badTolerance text "tolerance must not be negative")
      else .ok n := by
  rw [read, h]

theorem read_of_none (h : millis? (Text.trim text.toList) = none) :
    read text = .error (.badTolerance text
      "expected a duration such as 1d or 90s, or a number of milliseconds") := by
  rw [read, h]

theorem nonneg_of_read {n : Int64} (h : read text = .ok n) : 0 ≤ n.toInt := by
  cases hmillis : millis? (Text.trim text.toList) with
  | none =>
      rw [read_of_none hmillis] at h
      cases h
  | some m =>
      rw [read_of_some hmillis] at h
      split at h
      · cases h
      · cases h
        omega

theorem millis?_written (d : Duration) : millis? d.written = Word.fit? ⌊d.millis⌋ := by
  rw [millis?, duration?_written, word?_written]
  cases Word.fit? ⌊d.millis⌋ <;> rfl

theorem millis?_of_isNumber (h : Text.IsNumber cs value) : millis? cs = Word.fit? value := by
  rw [millis?, duration?_of_isNumber h, Text.word?, Text.integer?_eq_some_iff.mpr h]
  rfl

/-- A duration of up to twenty digits is read as its whole milliseconds, nothing rounded before it
is cut, if a word can hold them, and refused otherwise.  A signed number that a word can hold is
milliseconds unless it is negative.  Nothing else is read as less than zero either. -/
theorem tolerance_exact (text : String) :
    (∀ d : Duration, Text.trim text.toList = d.written →
      (⌊d.millis⌋ ≤ Word.greatest → ∃ n, read text = .ok n ∧ n.toInt = ⌊d.millis⌋) ∧
      (Word.greatest < ⌊d.millis⌋ → read text = .error (.badTolerance text
        "expected a duration such as 1d or 90s, or a number of milliseconds"))) ∧
    (∀ value, Text.IsNumber (Text.trim text.toList) value → Word.Fits value →
      (0 ≤ value → ∃ n, read text = .ok n ∧ n.toInt = value) ∧
      (value < 0 → read text = .error (.badTolerance text "tolerance must not be negative"))) ∧
    ∀ n, read text = .ok n → 0 ≤ n.toInt := by
  refine ⟨?_, ?_, fun n => nonneg_of_read⟩
  · intro d htext
    have hnonneg : 0 ≤ ⌊d.millis⌋ := Int.floor_nonneg.mpr d.millis_nonneg
    have hmillis : millis? (Text.trim text.toList) = Word.fit? ⌊d.millis⌋ :=
      htext ▸ millis?_written d
    constructor
    · intro hle
      obtain ⟨n, hn, hvalue⟩ := Word.fit?_of_fits
        (⟨Int.le_trans (by decide) hnonneg, hle⟩ : Word.Fits ⌊d.millis⌋)
      exact ⟨n, by rw [read_of_some (hmillis.trans hn), if_neg (by omega)], hvalue⟩
    · intro hlt
      refine read_of_none (hmillis.trans (Word.fit?_eq_none_iff.mpr fun hfits => ?_))
      exact absurd hfits.2 (Int.not_le.mpr hlt)
  · intro value hnumber hfits
    obtain ⟨n, hn, rfl⟩ := Word.fit?_of_fits hfits
    have hread := read_of_some ((millis?_of_isNumber hnumber).trans hn)
    constructor
    · intro hnonneg
      exact ⟨n, by rw [hread, if_neg (Int.not_lt.mpr hnonneg)], rfl⟩
    · intro hneg
      rw [hread, if_pos hneg]

/-- Twenty digits that are cut to the last word, the first duration past it, a negative number. -/
theorem tolerance_exact_last_word :
    (∃ n, read " 9223372036854775.8079S " = .ok n ∧ n.toInt = Word.greatest) ∧
      read "9223372036854775.808s" = .error (.badTolerance "9223372036854775.808s"
        "expected a duration such as 1d or 90s, or a number of milliseconds") ∧
      read "-5" = .error (.badTolerance "-5" "tolerance must not be negative") := by
  have hlast : ∃ d : Duration, Text.trim " 9223372036854775.8079S ".toList = d.written ∧
      ⌊d.millis⌋ = Word.greatest := by
    refine ⟨⟨"9223372036854775".toList, "8079".toList, ['S'], 1000, by decide,
      List.all_eq_true.mp (by decide), by decide, "s", by decide, by decide⟩, by decide, ?_⟩
    have hwhole : number "9223372036854775".toList = 9223372036854775 := by decide
    have hplaces : number "8079".toList = 8079 := by decide
    have hlength : "8079".toList.length = 4 := by decide
    rw [Duration.millis, Decimal.value, hwhole, hplaces, hlength, Int.floor_eq_iff]
    norm_num [Word.greatest]
  have hpast : ∃ d : Duration, Text.trim "9223372036854775.808s".toList = d.written ∧
      Word.greatest < ⌊d.millis⌋ := by
    refine ⟨⟨"9223372036854775".toList, "808".toList, ['s'], 1000, by decide,
      List.all_eq_true.mp (by decide), by decide, "s", by decide, by decide⟩, by decide, ?_⟩
    have hwhole : number "9223372036854775".toList = 9223372036854775 := by decide
    have hplaces : number "808".toList = 808 := by decide
    have hlength : "808".toList.length = 3 := by decide
    rw [Duration.millis, Decimal.value, hwhole, hplaces, hlength, Int.lt_iff_add_one_le,
      Int.le_floor]
    norm_num [Word.greatest]
  obtain ⟨d, hd, hfloor⟩ := hlast
  obtain ⟨e, he, hgreat⟩ := hpast
  have hminus : Text.IsNumber (Text.trim "-5".toList) (-5) :=
    .minus (by decide) (List.all_eq_true.mp (by decide))
  refine ⟨?_, ?_, ?_⟩
  · rw [← hfloor]
    exact ((tolerance_exact _).1 d hd).1 (Int.le_of_eq hfloor)
  · exact ((tolerance_exact _).1 e he).2 hgreat
  · exact ((tolerance_exact _).2.1 (-5) hminus (by decide)).2 (by decide)

end Tolerance

end Almanac
