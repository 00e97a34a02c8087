import Mathlib.Data.List.Nodup
import Almanac.Proofs.Pattern.Reader
import Almanac.Proofs.Text.Numeral
/-!
# Fields that are written are read back

The text of a field is as wide as its reader reads, so it is read back whatever text follows it: two
digits for most of the numbers, four for a year from 0 to 9999, three, six or nine for a fraction,
and for a name its first three letters, by which the names differ.  That is `read_text`, one case
for each field.  It says what the findings are from then on, the values of the moment in the places
of the fields that have been read (`ofItems`), so that it carries over to a whole pattern.
-/

namespace Almanac.Pattern

open Calendar

variable {rest : List Char}

/-! ## Letters -/

/-- Names that differ in their first three letters, whatever the case of these. -/
structure Distinct (names : List String) : Prop where
  length : ∀ name ∈ names, (name.toList.take 3).length = 3
  nodup : (names.map fun name => Text.upper (name.toList.take 3)).Nodup

theorem distinct_monthNames : Distinct Field.monthNames := ⟨by decide, by decide⟩

theorem distinct_weekdayNames : Distinct Field.weekdayNames := ⟨by decide, by decide⟩

variable {names : List String} {index : Nat}

theorem nameAt_eq (h : index < names.length) : Field.nameAt names index = names[index] := by
  unfold Field.nameAt
  rw [List.getElem?_eq_getElem h]
  rfl

theorem month_lt (d : Date) : (d.month - 1).toNat < Field.monthNames.length := by
  have hmonth := d.month_bounds
  show _ < 12
  omega

theorem weekdayOf_lt (day : Int) : weekdayOf day < Field.weekdayNames.length := by
  show ((day + 3) % 7).toNat < 7
  omega

/-- A clock face shows the hour of a half day, and twelve for none. -/
theorem onClockFace_eq (hour : Nat) :
    1 ≤ Field.onClockFace hour ∧ Field.onClockFace hour ≤ 12 ∧
      Field.onClockFace hour % 12 = hour % 12 := by
  unfold Field.onClockFace
  split <;> omega

theorem takeShortName_text (hnames : Distinct names) (h : index < names.length) :
    takeShortName names ((Field.nameAt names index).toList.take 3 ++ rest) = .ok (index, rest) := by
  have hlength : ∀ i (hi : i < names.length), (names[i].toList.take 3).length = 3 :=
    fun i hi => hnames.length names[i] (List.getElem_mem hi)
  rw [nameAt_eq h]
  have hwide : ¬ Text.byteLength (names[index].toList.take 3 ++ rest) < 3 := by
    have := Text.length_le_byteLength (names[index].toList.take 3 ++ rest)
    rw [List.length_append, hlength index h] at this
    omega
  have hfind : names.findIdx? (fun name =>
      (Text.afterLetters? (name.toList.take 3) (names[index].toList.take 3 ++ rest)).isSome)
      = some index := by
    rw [List.findIdx?_eq_some_iff_getElem]
    refine ⟨h, ?_, ?_⟩
    · rw [Text.afterLetters?_append rfl, if_pos rfl]
      rfl
    · intro j hj
      have hjn : j < names.length := Nat.lt_trans hj h
      rw [Text.afterLetters?_append ((hlength j hjn).trans (hlength index h).symm), if_neg]
      · exact Bool.false_ne_true
      · intro heq
        have hj' : j < (names.map fun name => Text.upper (name.toList.take 3)).length := by
          rwa [List.length_map]
        have hi' : index < (names.map fun name => Text.upper (name.toList.take 3)).length := by
          rwa [List.length_map]
        have hsame : j = index := hnames.nodup.getElem_inj_iff.mp (by
          show (names.map fun name => Text.upper (name.toList.take 3))[j]
            = (names.map fun name => Text.upper (name.toList.take 3))[index]
          rw [List.getElem_map, List.getElem_map]
          exact heq)
        omega
  unfold takeShortName
  rw [if_neg hwide, hfind]
  show Except.ok (index, _) = _
  rw [List.drop_left' (hlength index h)]

theorem takeName_text (hnames : Distinct names) (h : index < names.length) (long : Bool) :
    takeName long names (Field.nameText long (Field.nameAt names index) ++ rest)
      = .ok (index, rest) := by
  cases long with
  | false =>
      unfold takeName Field.nameText
      rw [if_neg Bool.false_ne_true, takeShortName_text hnames h]
      rfl
  | true =>
      have hsplit : Field.nameText true (Field.nameAt names index) ++ rest
          = (Field.nameAt names index).toList.take 3
            ++ ((Field.nameAt names index).toList.drop 3 ++ rest) := by
        rw [← List.append_assoc, List.take_append_drop]
        rfl
      unfold takeName
      rw [hsplit, takeShortName_text hnames h]
      show Except.ok (index, (Text.afterLetters? _ _).getD _) = _
      rw [Text.afterLetters?_append rfl, if_pos rfl]
      rfl

theorem takeHalf_text (hour : Nat) :
    takeHalf ((if hour < 12 then ['A', 'M'] else ['P', 'M']) ++ rest)
      = .ok (if hour < 12 then 0 else 1, rest) := by
  have hwide : ∀ a b : Char, ¬ Text.byteLength ([a, b] ++ rest) < 2 := by
    intro a b
    have := Text.length_le_byteLength ([a, b] ++ rest)
    rw [List.length_append, List.length_cons, List.length_singleton] at this
    omega
  unfold takeHalf
  by_cases h : hour < 12
  · rw [if_pos h, if_pos h, if_neg (hwide _ _), Text.afterLetters?_append rfl, if_pos rfl]
  · have hfirst : Text.afterLetters? ['A', 'M'] (['P', 'M'] ++ rest) = none :=
      (Text.afterLetters?_append (show ['A', 'M'].length = ['P', 'M'].length from rfl)).trans
        (if_neg (by decide))
    have hsecond : Text.afterLetters? ['P', 'M'] (['P', 'M'] ++ rest) = some rest :=
      (Text.afterLetters?_append rfl).trans (if_pos rfl)
    rw [if_neg h, if_neg h, if_neg (hwide _ _), hfirst, hsecond]

/-! ## Numbers -/

theorem takeNumber_digits {least most : Nat} {ds : List Char} (hds : ∀ c ∈ ds, c.isDigit = true)
    (hlength : ds.length = most) (hleast : least ≤ most)
    (hnumber : (Text.number ds : Int) ≤ Word.greatest) :
    takeNumber least most (ds ++ rest) = .ok (Text.number ds, rest) := by
  have hlead : leadingDigits most (ds ++ rest) = ds := by
    unfold leadingDigits
    rw [List.take_left' hlength]
    exact List.takeWhile_eq_self_iff.mpr hds
  have hbytes := Text.length_le_byteLength (ds ++ rest)
  rw [List.length_append] at hbytes
  rw [takeNumber_eq_ok_iff, hlead, List.drop_left]
  exact ⟨by omega, by omega, hnumber, rfl, rfl⟩

theorem takeTwo_text {n : Nat} (h : n < 100) : takeTwo (twoText n ++ rest) = .ok (n, rest) := by
  have hds : ∀ c ∈ Text.padded 2 n, c.isDigit = true := fun c => Text.isDigit_of_mem_padded
  have hnumber : Text.number (Text.padded 2 n) = n := by
    rw [Text.number_padded]
    exact Nat.mod_eq_of_lt h
  unfold takeTwo twoText
  rw [Text.trimStart_digits (Text.padded_ne_nil 1 n) hds,
    takeNumber_digits hds (Text.length_padded 2 n) (by decide), hnumber]
  rw [hnumber]
  unfold Word.greatest
  omega

theorem takeYear_of_isDigit {c : Char} {cs : List Char} (h : c.isDigit = true) :
    takeYear (c :: cs) = takeNumber 1 4 (c :: cs) >>= fun r => .ok ((r.1 : Int), r.2) := by
  unfold takeYear
  rw [Text.trimStart_of_not_isBlank (Text.isBlank_of_isDigit h)]
  split
  · next heq =>
    cases heq
    cases h
  · next heq =>
    cases heq
    cases h
  · rfl

theorem takeYear_text {y : Int} (h : 0 ≤ y ∧ y ≤ 9999) :
    takeYear (yearText y ++ rest) = .ok (y, rest) := by
  have hds : ∀ c ∈ Text.padded 4 y.toNat, c.isDigit = true :=
    fun c => Text.isDigit_of_mem_padded
  have hnumber : Text.number (Text.padded 4 y.toNat) = y.toNat := by
    rw [Text.number_padded]
    exact Nat.mod_eq_of_lt (show y.toNat < 10000 by omega)
  have htake : takeNumber 1 4 (Text.padded 4 y.toNat ++ rest) = .ok (y.toNat, rest) := by
    rw [takeNumber_digits hds (Text.length_padded 4 _) (by decide), hnumber]
    rw [hnumber]
    unfold Word.greatest
    omega
  unfold yearText
  rw [if_pos h]
  cases hcs : Text.padded 4 y.toNat with
  | nil => exact absurd hcs (Text.padded_ne_nil 3 _)
  | cons c cs =>
      rw [hcs, List.cons_append] at htake
      rw [List.cons_append, takeYear_of_isDigit (hds c (hcs ▸ List.mem_cons_self)), htake]
      show Except.ok ((y.toNat : Int), rest) = _
      rw [Int.toNat_of_nonneg h.1]

theorem length_fraction {digits : Nat} (n : Nat) (hdigits : 3 ≤ digits) :
    (Text.padded 3 n ++ List.replicate (digits - 3) '0').length = digits := by
  rw [List.length_append, Text.length_padded, List.length_replicate, Nat.add_sub_cancel' hdigits]

/-- The digits of a fraction after the third are zeros. -/
theorem isNumeral_fraction {n digits : Nat} (hn : n < 1000) (hdigits : 3 ≤ digits) :
    Text.IsNumeral digits (10 ^ (digits - 3) * n)
      (Text.padded 3 n ++ List.replicate (digits - 3) '0') := by
  refine ⟨fun c hc => ?_, ?_, Or.inl (length_fraction n hdigits)⟩
  · rcases List.mem_append.mp hc with hc | hc
    · exact Text.isDigit_of_mem_padded hc
    · obtain rfl := List.eq_of_mem_replicate hc
      decide
  · have hmillis : Nat.ofDigitChars 10 (Text.padded 3 n) 0 = n :=
      (Text.number_padded 3 n).trans (Nat.mod_eq_of_lt hn)
    unfold Text.number
    rw [Nat.ofDigitChars_append, hmillis, Nat.ofDigitChars_replicate_zero]

theorem takeFraction_text {digits millis : Nat} (hdigits : digits = 3 ∨ digits = 6 ∨ digits = 9)
    (h : millis < 1000) :
    takeFraction digits (Text.padded 3 millis ++ List.replicate (digits - 3) '0' ++ rest)
      = .ok (millis * 1000000, rest) := by
  have hwide : 3 ≤ digits := by omega
  have hnumeral := isNumeral_fraction h hwide
  have htake : takeNumber digits digits
      (Text.padded 3 millis ++ List.replicate (digits - 3) '0' ++ rest)
      = .ok (10 ^ (digits - 3) * millis, rest) := by
    rw [takeNumber_digits hnumeral.isDigit (length_fraction millis hwide) (Nat.le_refl _),
      hnumeral.number_eq]
    rw [hnumeral.number_eq]
    unfold Word.greatest
    rcases hdigits with rfl | rfl | rfl <;> simp only [Nat.reduceSub, Nat.reducePow] <;> omega
  have hscale : 10 ^ (digits - 3) * millis * 10 ^ (9 - digits) = millis * 1000000 := by
    rcases hdigits with rfl | rfl | rfl <;> simp only [Nat.reduceSub, Nat.reducePow] <;> omega
  unfold takeFraction
  rw [htake, ← hscale]
  rfl

theorem takeOffset_text (m : Moment) (colon : Bool) :
    takeOffset (Field.text m (.offset colon) ++ rest) = .ok (0, rest) := by
  have hzeros : ∀ cs : List Char, takeNumber 2 2 ('0' :: '0' :: cs) = .ok (0, cs) := by
    intro cs
    have hds : ∀ c ∈ ['0', '0'], c.isDigit = true := by simp
    refine takeNumber_digits hds rfl (Nat.le_refl 2) ?_
    rw [show Text.number ['0', '0'] = 0 from rfl]
    unfold Word.greatest
    omega
  have hminutes : ∀ cs : List Char, takeOffsetMinutes ('0' :: '0' :: cs) = .ok (0, cs) := by
    intro cs
    unfold takeOffsetMinutes
    rw [if_neg (List.cons_ne_nil _ _), hzeros]
    rfl
  have htrim : ∀ cs : List Char, Text.trimStart ('+' :: cs) = '+' :: cs :=
    fun cs => Text.trimStart_of_not_isBlank (by decide)
  have hzero : ∀ cs : List Char,
      ('0' :: '0' :: cs).dropWhile separatesOffset = '0' :: '0' :: cs :=
    fun cs => List.dropWhile_cons_of_neg (by decide)
  cases colon with
  | true =>
      have hcolon : (':' :: '0' :: '0' :: rest).dropWhile separatesOffset = '0' :: '0' :: rest :=
        (List.dropWhile_cons_of_pos (by decide)).trans (hzero rest)
      show takeOffset ('+' :: '0' :: '0' :: ':' :: '0' :: '0' :: rest) = _
      unfold takeOffset
      rw [htrim]
      refine bind_eq_ok.mpr ⟨(false, _), rfl, bind_eq_ok.mpr ⟨(0, _), hzeros _, ?_⟩⟩
      refine bind_eq_ok.mpr ⟨(0, rest), ?_, rfl⟩
      show takeOffsetMinutes ((':' :: '0' :: '0' :: rest).dropWhile separatesOffset) = _
      rw [hcolon, hminutes]
  | false =>
      show takeOffset ('+' :: '0' :: '0' :: '0' :: '0' :: rest) = _
      unfold takeOffset
      rw [htrim]
      refine bind_eq_ok.mpr ⟨(false, _), rfl, bind_eq_ok.mpr ⟨(0, _), hzeros _, ?_⟩⟩
      refine bind_eq_ok.mpr ⟨(0, rest), ?_, rfl⟩
      show takeOffsetMinutes (('0' :: '0' :: rest).dropWhile separatesOffset) = _
      rw [hzero, hminutes]

/-! ## One field -/

/-- A moment whose year is written in four digits. -/
structure Writable (m : Moment) : Prop where
  date : m.date.Exists
  year : 0 ≤ m.date.year ∧ m.date.year ≤ 9999
  time : m.time < 86400000

def isWeekday (k : Field) : Bool := k = .weekdayName false || k = .weekdayName true

def isFraction (k : Field) : Bool := k.unit? = some .millisecond

/-- A value that is found if there is a field for it. -/
def foundIf {α : Type} (found : Bool) (value : α) : Option α := if found then some value else none

/-- The findings of a text that some items of a pattern have written of a moment. -/
def Findings.ofItems (m : Moment) (items : List Item) : Findings where
  year := foundIf (has items (· = .year)) m.date.year
  yearOfCentury := foundIf (has items (· = .yearOfCentury)) (m.date.year % 100).toNat
  month := foundIf (has items isMonth) m.date.month.toNat
  day := foundIf (has items isDay) m.date.day.toNat
  weekday := foundIf (has items isWeekday) (weekdayOf m.date.toDay)
  half := foundIf (has items fun k => isHour k || isHalf k) (m.hour / 12)
  hourInHalf := foundIf (has items fun k => isHour k || isClockHour k) (m.hour % 12)
  minute := foundIf (has items isMinute) m.minute
  second := foundIf (has items (· = .second)) m.second
  nanos := foundIf (has items isFraction) (m.millis * 1000000)
  offset := foundIf (has items isOffset) 0

@[simp] theorem foundIf_true {α : Type} (value : α) : foundIf true value = some value := rfl

theorem takes_foundIf {α : Type} (found : Bool) (value : α) :
    Findings.Takes (foundIf found value) value := by
  cases found
  · exact Or.inl rfl
  · exact Or.inr rfl

/-- The findings after one more field of the same moment. -/
def Findings.record (m : Moment) (f : Findings) : Field → Findings
  | .year => { f with year := some m.date.year }
  | .yearOfCentury => { f with yearOfCentury := some (m.date.year % 100).toNat }
  | .month | .monthName _ => { f with month := some m.date.month.toNat }
  | .day => { f with day := some m.date.day.toNat }
  | .weekdayName _ => { f with weekday := some (weekdayOf m.date.toDay) }
  | .hour => { f with half := some (m.hour / 12), hourInHalf := some (m.hour % 12) }
  | .clockHour => { f with hourInHalf := some (m.hour % 12) }
  | .half => { f with half := some (m.hour / 12) }
  | .minute => { f with minute := some m.minute }
  | .second => { f with second := some m.second }
  | .fraction _ => { f with nanos := some (m.millis * 1000000) }
  | .offset _ => { f with offset := some 0 }

variable {m : Moment} {done : List Item}

theorem ofItems_append (k : Field) :
    Findings.ofItems m (done ++ [.field k]) = (Findings.ofItems m done).record m k := by
  cases k <;>
    simp [Findings.ofItems, Findings.record, isMonth, isDay, isWeekday, isHour, isHalf, isClockHour,
      isMinute, isFraction, isOffset, Field.unit?]

/-- What is written of a field is read back, and is found. -/
theorem read_text (hm : Writable m) {k : Field}
    (hdigits : ∀ digits, k = .fraction digits → digits = 3 ∨ digits = 6 ∨ digits = 9) :
    k.read (Findings.ofItems m done) (k.text m ++ rest)
      = .ok (Findings.ofItems m (done ++ [.field k]), rest) := by
  have hmonth := m.date.month_bounds
  have hday := hm.date.one_le_day
  have hday' := Int.le_trans hm.date.day_le (monthLength_bounds m.date.monthIndex).2
  have hhour : m.hour < 24 := by
    have := hm.time
    unfold Moment.hour
    omega
  rw [ofItems_append]
  -- the field takes what the moment has, and no field of the moment has found anything else
  cases k with
  | year =>
      refine taking_eq_ok_iff.mpr ⟨m.date.year, takeYear_text hm.year, ?_⟩
      have hyear := hm.year
      exact Findings.setYear_eq_ok_iff.mpr ⟨by omega, takes_foundIf _ _, rfl⟩
  | yearOfCentury =>
      refine taking_eq_ok_iff.mpr ⟨(m.date.year % 100).toNat, takeTwo_text (by omega), ?_⟩
      exact Findings.setYearOfCentury_eq_ok_iff.mpr ⟨by omega, by omega, takes_foundIf _ _, rfl⟩
  | month =>
      refine taking_eq_ok_iff.mpr ⟨m.date.month.toNat, takeTwo_text (by omega), ?_⟩
      exact Findings.setMonth_eq_ok_iff.mpr ⟨by omega, by omega, takes_foundIf _ _, rfl⟩
  | monthName long =>
      have hvalue : (m.date.month - 1).toNat + 1 = m.date.month.toNat := by omega
      simp only [Field.read]
      refine taking_eq_ok_iff.mpr ⟨(m.date.month - 1).toNat,
        takeName_text distinct_monthNames (month_lt m.date) long, ?_⟩
      rw [hvalue]
      exact Findings.setMonth_eq_ok_iff.mpr ⟨by omega, by omega, takes_foundIf _ _, rfl⟩
  | day =>
      refine taking_eq_ok_iff.mpr ⟨m.date.day.toNat, takeTwo_text (by omega), ?_⟩
      exact Findings.setDay_eq_ok_iff.mpr ⟨by omega, by omega, takes_foundIf _ _, rfl⟩
  | weekdayName long =>
      refine taking_eq_ok_iff.mpr ⟨weekdayOf m.date.toDay,
        takeName_text distinct_weekdayNames (weekdayOf_lt m.date.toDay) long, ?_⟩
      exact Findings.setWeekday_eq_ok_iff.mpr ⟨takes_foundIf _ _, rfl⟩
  | hour =>
      refine taking_eq_ok_iff.mpr ⟨m.hour, takeTwo_text (by omega), ?_⟩
      exact Findings.setHour_eq_ok_iff.mpr
        ⟨by omega, takes_foundIf _ _, takes_foundIf _ _, rfl⟩
  | clockHour =>
      have hface := onClockFace_eq m.hour
      refine taking_eq_ok_iff.mpr ⟨Field.onClockFace m.hour, takeTwo_text (by omega), ?_⟩
      refine Findings.setClockHour_eq_ok_iff.mpr ⟨hface.1, hface.2.1, ?_, ?_⟩
      · rw [hface.2.2]
        exact takes_foundIf _ _
      · rw [hface.2.2]
        rfl
  | half =>
      have hhalf : (if m.hour < 12 then 0 else 1) = m.hour / 12 := by
        split <;> omega
      refine taking_eq_ok_iff.mpr ⟨m.hour / 12, ?_, ?_⟩
      · rw [← hhalf]
        exact takeHalf_text m.hour
      · exact Findings.setHalf_eq_ok_iff.mpr ⟨takes_foundIf _ _, rfl⟩
  | minute =>
      have hlt : m.minute < 60 := Nat.mod_lt _ (by decide)
      refine taking_eq_ok_iff.mpr ⟨m.minute, takeTwo_text (by omega), ?_⟩
      exact Findings.setMinute_eq_ok_iff.mpr ⟨by omega, by omega, takes_foundIf _ _, rfl⟩
  | second =>
      have hlt : m.second < 60 := Nat.mod_lt _ (by decide)
      refine taking_eq_ok_iff.mpr ⟨m.second, takeTwo_text (by omega), ?_⟩
      exact Findings.setSecond_eq_ok_iff.mpr ⟨by omega, by omega, takes_foundIf _ _, rfl⟩
  | fraction digits =>
      have hlt : m.millis < 1000 := Nat.mod_lt _ (by decide)
      refine taking_eq_ok_iff.mpr ⟨m.millis * 1000000,
        takeFraction_text (hdigits digits rfl) hlt, ?_⟩
      exact Findings.setNanos_eq_ok_iff.mpr ⟨takes_foundIf _ _, rfl⟩
  | offset colon =>
      refine taking_eq_ok_iff.mpr ⟨0, takeOffset_text m colon, ?_⟩
      exact Findings.setOffset_eq_ok_iff.mpr ⟨takes_foundIf _ _, rfl⟩

end Almanac.Pattern
