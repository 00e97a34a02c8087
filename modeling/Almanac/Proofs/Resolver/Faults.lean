import Almanac.Proofs.DateMath.Faults
import Almanac.Proofs.Layout.Faults
import Almanac.Proofs.Resolver.Stages
import Almanac.Resolver.Range
/-!
# Every fault points into the text

The faults of the readers and compilers are places in their texts; what is left are the faults of a
resolved value.  A calculation that leaves the range has no place in any text (`outOfRange_of_add`
and what follows it), so a text that no stage accepts is to blame where the display format or date
math could not read it.  The resolver is given the whole text by both, whatever part of it they were
at, and names the whole text itself.

A range is refused by its first side that fails, and then it is that side's text (`failingSide`).
-/

namespace Almanac

variable {rounding : Rounding} {now i : Instant} {unit : CalendarUnit} {fault : Fault}

/-! ## Calculations that leave the range -/

namespace Instant

theorem outOfRange_of_require {α : Type} {o : Option α} (h : i.require o = .error fault) :
    fault.OutOfRange := by
  obtain ⟨-, rfl⟩ := require_eq_error.mp h
  exact .calculation

end Instant

namespace Calendar

theorem outOfRange_of_add {amount : Int64} (h : add i unit amount = .error fault) :
    fault.OutOfRange :=
  Instant.outOfRange_of_require h

theorem outOfRange_of_endOfUnit (h : endOfUnit i unit = .error fault) : fault.OutOfRange := by
  rcases bind_eq_error.mp h with h | ⟨next, -, h⟩
  · exact outOfRange_of_add h
  · exact Instant.outOfRange_of_require h

theorem outOfRange_of_endOfUnitAt {offset : Int64} (h : endOfUnitAt i unit offset = .error fault) :
    fault.OutOfRange := by
  rcases bind_eq_error.mp h with h | ⟨reading, -, h⟩
  · exact Instant.outOfRange_of_require h
  · rcases bind_eq_error.mp h with h | ⟨last, -, h⟩
    · exact outOfRange_of_endOfUnit h
    · exact Instant.outOfRange_of_require h

theorem outOfRange_of_roundUp (h : roundUp i unit = .error fault) : fault.OutOfRange := by
  rcases bind_eq_error.mp h with h | ⟨start, -, h⟩
  · exact Instant.outOfRange_of_require h
  · exact outOfRange_of_endOfUnit h

end Calendar

namespace DateMath

theorem outOfRange_of_apply {op : Operation} (h : op.apply rounding i = .error fault) :
    fault.OutOfRange := by
  cases op with
  | offset unit amount => exact Calendar.outOfRange_of_add h
  | round unit =>
      cases rounding with
      | down => exact Instant.outOfRange_of_require h
      | up => exact Calendar.outOfRange_of_roundUp h

theorem outOfRange_of_evaluate {ops : List Operation} (h : evaluate rounding i ops = .error fault) :
    fault.OutOfRange := by
  induction ops generalizing i with
  | nil => cases h
  | cons op ops ih =>
      rcases bind_eq_error.mp h with h | ⟨j, -, h⟩
      · exact outOfRange_of_apply h
      · exact ih h

theorem Parsed.outOfRange_of_value {p : Parsed} (h : p.value now rounding = .error fault) :
    fault.OutOfRange := by
  unfold Parsed.value at h
  split at h
  · exact Calendar.outOfRange_of_endOfUnit h
  · exact outOfRange_of_evaluate h

end DateMath

theorem Reading.outOfRange_of_widen {r : Reading} (h : r.widen rounding = .error fault) :
    fault.OutOfRange := by
  cases rounding with
  | down => cases h
  | up => exact Calendar.outOfRange_of_endOfUnitAt h

/-! ## Stages -/

namespace Resolver

variable {r : Resolver} {input : Input}

theorem pointsInto_of_byLayout {text : List Char} (h : r.byLayout text rounding = .error fault) :
    fault.PointsInto (String.ofList text) := by
  rcases bind_eq_error.mp h with h | ⟨reading, -, h⟩
  · exact (Layout.slipped_of_read h).pointsInto
  · exact (Reading.outOfRange_of_widen h).pointsInto _

theorem pointsInto_of_byDateMath {text : List Char}
    (h : byDateMath text now rounding = .error fault) : fault.PointsInto (String.ofList text) := by
  rcases bind_eq_error.mp h with h | ⟨parsed, -, h⟩
  · exact (DateMath.slipped_of_read h).pointsInto
  · cases parsed with
    | none => cases h
    | some p =>
        rcases bind_eq_error.mp h with h | ⟨j, -, h⟩
        · exact (DateMath.Parsed.outOfRange_of_value h).pointsInto _
        · cases h

theorem byNumber_eq_error {t : String} {cause : Fault}
    (h : afterLayout.byNumber r t cause = .error fault) : fault = r.unresolved t cause := by
  unfold afterLayout.byNumber at h
  split at h
  · cases h
  · cases h
    rfl

/-- A text that no stage accepts is to blame where its cause is. -/
theorem pointsInto_of_resolveText {t : String}
    (h : r.resolveText t now rounding = .error fault) : fault.PointsInto t := by
  have hcause : ∃ cause : Fault, cause.PointsInto t ∧ fault = r.unresolved t cause := by
    unfold resolveText at h
    split at h
    · cases h
    · next layoutFault hlayout =>
      have hplace := pointsInto_of_byLayout hlayout
      rw [String.ofList_toList] at hplace
      unfold afterLayout at h
      split at h
      · cases h
      · exact ⟨layoutFault, hplace, byNumber_eq_error h⟩
      · next mathFault hmath =>
        have hplace := pointsInto_of_byDateMath hmath
        rw [String.ofList_toList] at hplace
        exact ⟨mathFault, hplace, byNumber_eq_error h⟩
  obtain ⟨cause, hplace, rfl⟩ := hcause
  exact hplace.unresolved r.layout.spec r.scale.name

theorem pointsInto_of_resolve (h : r.resolve input now rounding = .error fault) :
    ∃ text, input.text? = some text ∧ fault.PointsInto text := by
  cases input with
  | number millis => cases h
  | bytes bytes => exact ⟨_, rfl, pointsInto_of_resolveText h⟩
  | text t => exact ⟨t, rfl, pointsInto_of_resolveText h⟩

/-! ## Ranges -/

variable {lower upper side : Option Input} {rules : RangeRules}

/-- The side that a range is refused for: the lower one if it fails, or else the upper one. -/
def failingSide (r : Resolver) (lower upper : Option Input) (rules : RangeRules) (now : Instant) :
    Option Input :=
  if (r.side lower rules.includeLower now .down).isOk then upper else lower

theorem pointsInto_of_side {inclusive : Bool}
    (h : r.side side inclusive now rounding = .error fault) :
    ∃ text, side.bind Input.text? = some text ∧ fault.PointsInto text := by
  cases side with
  | none => cases h
  | some input =>
      rcases bind_eq_error.mp h with h | ⟨resolution, -, h⟩
      · exact pointsInto_of_resolve h
      · cases h

theorem pointsInto_of_range (h : r.range lower upper rules now = .error fault) :
    ∃ text, (r.failingSide lower upper rules now).bind Input.text? = some text ∧
      fault.PointsInto text := by
  unfold failingSide
  rcases bind_eq_error.mp h with hlow | ⟨low, hlow, h⟩
  · rw [hlow]
    exact pointsInto_of_side hlow
  · rw [hlow]
    rcases bind_eq_error.mp h with hhigh | ⟨high, -, h⟩
    · exact pointsInto_of_side hhigh
    · cases h

end Resolver

/-! ## The whole library -/

/-- A fault of an operation, with the text that the operation was given. -/
inductive Fails : Option String → Fault → Prop
  | canonical {text : List Char} {fault : Fault} :
      Timestamp.readCanonical text = .error fault → Fails (some (String.ofList text)) fault
  | dateOptionalTime {text : List Char} {fault : Fault} :
      Timestamp.readOptionalTime text = .error fault → Fails (some (String.ofList text)) fault
  | compilePattern {pattern : List Char} {fault : Fault} :
      Pattern.compile pattern = .error fault → Fails (some (String.ofList pattern)) fault
  | readPattern {p : Pattern} {text : List Char} {fault : Fault} :
      p.read text = .error fault → Fails (some (String.ofList text)) fault
  | compileLayout {spec : String} {fault : Fault} :
      Layout.compile spec = .error fault → Fails (some spec) fault
  | readLayout {l : Layout} {text : List Char} {fault : Fault} :
      l.read text = .error fault → Fails (some (String.ofList text)) fault
  | operations {text : List Char} {fault : Fault} :
      DateMath.readOperations text = .error fault → Fails (some (String.ofList text)) fault
  | dateMath {text : List Char} {fault : Fault} :
      DateMath.read text = .error fault → Fails (some (String.ofList text)) fault
  | resolve {r : Resolver} {input : Input} {now : Instant} {rounding : Rounding} {fault : Fault} :
      r.resolve input now rounding = .error fault → Fails input.text? fault
  | range {r : Resolver} {lower upper : Option Input} {rules : Resolver.RangeRules} {now : Instant}
      {fault : Fault} :
      r.range lower upper rules now = .error fault →
        Fails ((r.failingSide lower upper rules now).bind Input.text?) fault

theorem Fails.pointsInto {given : Option String} (h : Fails given fault) :
    ∃ text, given = some text ∧ fault.PointsInto text := by
  cases h with
  | canonical h => exact ⟨_, rfl, (Timestamp.slipped_of_readCanonical h).pointsInto⟩
  | dateOptionalTime h => exact ⟨_, rfl, (Timestamp.slipped_of_readOptionalTime h).pointsInto⟩
  | compilePattern h => exact ⟨_, rfl, (Pattern.miswritten_of_compile h).pointsInto⟩
  | readPattern h => exact ⟨_, rfl, (Pattern.slipped_of_read h).pointsInto⟩
  | compileLayout h =>
      have hplace := (Layout.miswritten_of_compile h).pointsInto
      rw [String.ofList_toList] at hplace
      exact ⟨_, rfl, hplace⟩
  | readLayout h => exact ⟨_, rfl, (Layout.slipped_of_read h).pointsInto⟩
  | operations h => exact ⟨_, rfl, (DateMath.slipped_of_readOperations h).pointsInto⟩
  | dateMath h => exact ⟨_, rfl, (DateMath.slipped_of_read h).pointsInto⟩
  | resolve h => exact Resolver.pointsInto_of_resolve h
  | range h => exact Resolver.pointsInto_of_range h

/-- The location of a fault is a place in the whole text that the operation was given, and the
fault is about that text; only a calculation that leaves the range has no location. -/
theorem faults_point_into_text {given : Option String} (h : Fails given fault) :
    ∃ text, given = some text ∧
      (∀ l, fault.location? = some l → fault.text? = some text ∧ l.LiesIn text) ∧
      (fault.location? = none → fault.OutOfRange) := by
  obtain ⟨text, hgiven, hplace⟩ := h.pointsInto
  exact ⟨text, hgiven, hplace.place, hplace.unplaced⟩

/-- An upper side in bytes, the last of which is no text, and a format that leaves a quote open in
its second line. -/
theorem faults_point_into_text_of_bytes :
    (∃ fault, Resolver.range ⟨.default, .milliseconds⟩ none
        (some (.bytes [0x4E, 0x4F, 0x57, 0x2B, 0xFF])) {} .epoch = .error fault ∧
      fault.location? = some ⟨1, 5, 4, 1⟩ ∧
      fault.text? = some "NOW+\uFFFD" ∧ Location.LiesIn ⟨1, 5, 4, 1⟩ "NOW+\uFFFD") ∧
    ∃ fault, Layout.compile "yyyy||\n é'" = .error fault ∧
      fault.location? = some ⟨2, 3, 10, 1⟩ ∧
      fault.text? = some "yyyy||\n é'" ∧ Location.LiesIn ⟨2, 3, 10, 1⟩ "yyyy||\n é'" := by
  constructor
  · have hl : (match Resolver.range ⟨.default, .milliseconds⟩ none
          (some (.bytes [0x4E, 0x4F, 0x57, 0x2B, 0xFF])) {} .epoch with
        | .error fault => fault.location?
        | .ok _ => none) = some ⟨1, 5, 4, 1⟩ := by decide +kernel
    split at hl
    · next fault hfault =>
      obtain ⟨text, hgiven, hplace, -⟩ := faults_point_into_text (.range hfault)
      obtain rfl : "NOW+\uFFFD" = text := Option.some.inj hgiven
      exact ⟨fault, hfault, hl, hplace _ hl⟩
    · cases hl
  · have hl : (match Layout.compile "yyyy||\n é'" with
        | .error fault => fault.location?
        | .ok _ => none) = some ⟨2, 3, 10, 1⟩ := by decide +kernel
    split at hl
    · next fault hfault =>
      obtain ⟨text, hgiven, hplace, -⟩ := faults_point_into_text (.compileLayout hfault)
      obtain rfl := Option.some.inj hgiven
      exact ⟨fault, hfault, hl, hplace _ hl⟩
    · cases hl

end Almanac
