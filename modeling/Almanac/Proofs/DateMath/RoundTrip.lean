import Almanac.Proofs.DateMath.Written
import Almanac.Proofs.Resolver.Default
/-!
# Round trips of date math

An expression is written as its anchor, `NOW` or a canonical timestamp with a `Z`, and its
operations.  `ReadBack` is what becomes of that text, and all of it follows from where the reader
finds the operations (`ReadBack.of_anchored`).  They are read back if the least word is no amount
among them, and the text is refused otherwise.  The default display format does not come in between,
for a timestamp has nothing after its `Z`; so the text resolves to the value of the expression.

The case of the letters does not matter anywhere: the text is put in upper case before it is read,
and it is written in upper case.
-/

namespace Almanac.DateMath

open Timestamp

/-- A text that is read as an expression, and resolves to its value, if its operations are readable,
and is refused as date math if they are not. -/
structure ReadBack (text : String) (anchor : Anchor) (ops : List Operation)
    (precision : CalendarUnit) : Prop where
  read : Readable ops → DateMath.read text.toList = .ok (some ⟨⟨anchor, ops⟩, precision⟩)
  refused : ¬ Readable ops →
    ∃ span message, DateMath.read text.toList = .error (.malformedMath text span message)
  resolved : Readable ops → ops ≠ [] → ∀ (scale : Scale) (now : Instant) (rounding : Rounding),
    Resolver.resolveText ⟨.default, scale⟩ text now rounding
      = ((evaluate rounding (anchor.instant now) ops).map fun i => ⟨i, .dateMath⟩).mapError
        (Resolver.unresolved ⟨.default, scale⟩ text)

variable {text stamp : List Char} {anchor : Anchor} {ops : List Operation}
  {precision : CalendarUnit} {i : Instant}

/-! ## Reading and refusing -/

theorem readSuffix_operationsText (h : Readable ops) :
    readSuffix text (operationsText ops) = .ok ops :=
  mapError_eq_ok.mpr (mapError_eq_ok.mpr (scanOperations_operationsText h))

theorem readSuffix_refuses (text : List Char) (h : ¬ Readable ops) :
    ∃ span message, readSuffix text (operationsText ops)
      = .error (.malformedMath (String.ofList text) span message) := by
  obtain ⟨slip, hslip⟩ := exists_error_iff.mpr (scanOperations_refuses h)
  simp only [readSuffix, readOperations, hslip, Except.mapError, Slip.toFault, Fault.within]
  exact ⟨_, _, rfl⟩

/-! ## Resolving -/

theorem Parsed.value_of_operations {p : Parsed} {now : Instant} {rounding : Rounding}
    (h : p.expression.operations ≠ []) :
    p.value now rounding
      = evaluate rounding (p.expression.anchor.instant now) p.expression.operations := by
  unfold Parsed.value
  split
  · next hops => exact absurd hops h
  · rfl

theorem byLayout_ne_ok_of_operations {p : Parsed} {scale : Scale} {rounding : Rounding}
    (hp : DateMath.read text = .ok (some p)) (hops : p.expression.operations ≠ []) (j : Instant) :
    Resolver.byLayout ⟨.default, scale⟩ text rounding ≠ .ok j := by
  intro h
  obtain ⟨reading, hread, -⟩ := Resolver.byLayout_default_eq_ok_iff.mp h
  obtain ⟨rfl, -⟩ := read_of_readOptionalTime hread hp
  exact hops rfl

theorem ReadBack.of_anchored {text : String}
    (h : Anchored text.toList anchor precision (operationsText ops)) :
    ReadBack text anchor ops precision := by
  have hread : Readable ops →
      DateMath.read text.toList = .ok (some ⟨⟨anchor, ops⟩, precision⟩) := by
    intro hops
    rw [h, readSuffix_operationsText hops]
    rfl
  refine ⟨hread, ?_, ?_⟩
  · intro hops
    obtain ⟨span, message, hfault⟩ := readSuffix_refuses text.toList hops
    rw [String.ofList_toList] at hfault
    refine ⟨span, message, ?_⟩
    rw [h, hfault]
    rfl
  · -- the operations keep the display format away, and the anchor keeps bare integers away
    intro hops hne scale now rounding
    rw [Resolver.resolveText_of_read (byLayout_ne_ok_of_operations (hread hops) hne) (hread hops),
      Parsed.value_of_operations hne]

/-! ## Both anchors -/

theorem upper_stamp {r : Reading} (h : readCanonical (stamp ++ ['Z']) = .ok r) :
    Text.upper (stamp ++ ['Z'] ++ operationsText ops) = stamp ++ 'Z' :: operationsText ops := by
  have hplain := plain_of_zone (readOptionalTime_of_readCanonical h)
  have hstamp : Text.upper stamp = stamp := Text.upper_eq_self fun c hc => (hplain c hc).toUpper_eq
  rw [Text.upper_append, Text.upper_append, hstamp, upper_operationsText, List.append_assoc]
  rfl

theorem millis_eq_zero_iff {m : Calendar.Moment} (hm : i.moment? = some m) :
    m.millis = 0 ↔ i.toInt % 1000 = 0 := by
  have hi := (Instant.moment?_eq_some_iff.mp hm).2
  unfold Calendar.Moment.toMillis Calendar.dayMillis at hi
  unfold Calendar.Moment.millis
  omega

/-- What is written of date math, from `NOW` or from an instant of the supported calendar, is read
back in any case of its letters. -/
theorem written_read_back (ops : List Operation) :
    (∀ text : String, Text.sameLetters text.toList (nowWord ++ operationsText ops) = true →
      ReadBack text .now ops .millisecond) ∧
    ∀ i : Instant, i.InCalendar → ∃ stamp, writeCanonical i = .ok stamp ∧
      ∀ text : String,
        Text.sameLetters text.toList (stamp ++ ['Z'] ++ operationsText ops) = true →
          ReadBack text (.literal i) ops
            (if i.toInt % 1000 = 0 then .second else .millisecond) := by
  constructor
  · intro text hsame
    have hletters : Text.upper text.toList = nowWord ++ operationsText ops := by
      rw [eq_of_beq hsame, Text.upper_append, upper_operationsText]
      rfl
    exact .of_anchored (anchored_now hletters)
  · intro i hi
    obtain ⟨m, hm⟩ := hi.exists_moment
    refine ⟨canonicalText m, writeCanonical_eq_ok hm, ?_⟩
    intro text hsame
    have hread := readCanonical_canonicalText hm (Or.inr rfl)
    have hanchored := anchored_literal ((eq_of_beq hsame).trans (upper_stamp hread)) hread
    simp only [millis_eq_zero_iff hm] at hanchored
    exact .of_anchored hanchored

/-- Yesterday's month, and the least number of days before now. -/
theorem written_read_back_mixed_case :
    DateMath.read "now-1Day/month".toList
        = .ok (some ⟨⟨.now, [.offset .day (-1), .round .month]⟩, .millisecond⟩) ∧
      (∃ span message, DateMath.read "NOW-9223372036854775808DAY".toList
        = .error (.malformedMath "NOW-9223372036854775808DAY" span message)) ∧
      Resolver.resolveText ⟨.default, .seconds⟩ "now-1Day/month" ⟨1617235199000⟩ .down
        = .ok ⟨⟨1614556800000⟩, .dateMath⟩ := by
  have hback := (written_read_back [.offset .day (-1), .round .month]).1 "now-1Day/month"
    (by decide)
  have hleast := (written_read_back [.offset .day Int64.minValue]).1 "NOW-9223372036854775808DAY"
    (by decide)
  have hreadable : Readable [.offset .day (-1), .round .month] := by
    rintro unit hmem
    simp at hmem
  have hvalue : evaluate .down ⟨1617235199000⟩ [.offset .day (-1), .round .month]
      = .ok ⟨1614556800000⟩ := toOption_eq_some.mp (by decide +kernel)
  refine ⟨hback.read hreadable, hleast.refused ?_, ?_⟩
  · exact fun h => h .day List.mem_cons_self
  · rw [hback.resolved hreadable (List.cons_ne_nil _ _)]
    show ((evaluate .down ⟨1617235199000⟩ _).map _).mapError _ = _
    rw [hvalue]
    rfl

end Almanac.DateMath
