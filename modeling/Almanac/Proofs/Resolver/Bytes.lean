import Almanac.Proofs.Resolver.Stages
import Almanac.Proofs.Text.Bytes
import Almanac.Resolver.Range
/-!
# Values in bytes

A value in bytes has a text, and resolution and the judgement of its steadiness both go through that
text.  Bytes in UTF-8 have the text that they encode, so they do everything that the text does, the
faults included; other bytes have the text that is left when every malformed part is replaced, and
no second reading of the bytes could disagree with the first.
-/

namespace Almanac

namespace Input

theorem text?_bytes (bytes : List UInt8) :
    (Input.bytes bytes).text? = some (String.ofList (Text.ofBytes bytes)) := rfl

theorem text?_encoded (t : String) : (Input.bytes t.toUTF8.data.toList).text? = some t := by
  rw [text?_bytes, ← Text.toBytes_toList, Text.ofBytes_toBytes, String.ofList_toList]

end Input

namespace Resolver

variable {r : Resolver} {input : Input} {t : String} {now : Instant}

theorem isSteady_of_text? (h : input.text? = some t) :
    isSteady input = !CacheSafety.isUnsafe t.toList := by
  unfold isSteady
  rw [h]
  rfl

theorem side_of_text? (h : input.text? = some t) (inclusive : Bool) (rounding : Rounding) :
    r.side (some input) inclusive now rounding
      = r.side (some (.text t)) inclusive now rounding := by
  have hresolve : r.resolve input now rounding = r.resolve (.text t) now rounding :=
    resolve_of_text? h
  have hsteady : isSteady input = isSteady (.text t) := by
    rw [isSteady_of_text? h, isSteady_of_text? rfl]
  simp only [side, hresolve, hsteady]

theorem range_of_text? (h : input.text? = some t) (other : Option Input) (rules : RangeRules) :
    r.range (some input) other rules now = r.range (some (.text t)) other rules now ∧
      r.range other (some input) rules now = r.range other (some (.text t)) rules now := by
  simp only [Resolver.range, side_of_text? h, and_self]

/-- Bytes are read as the text that they stand for.  The bytes of a text resolve as the text does,
to the same instant and stage or with the same fault, and any range with one in place of the other
is the same range.  Any other bytes stand for one text, by which they are resolved and judged. -/
theorem bytes_read_as_text (r : Resolver) (now : Instant) :
    (∀ t : String,
      (∀ rounding, r.resolve (.bytes t.toUTF8.data.toList) now rounding
        = r.resolve (.text t) now rounding) ∧
      ∀ (other : Option Input) (rules : RangeRules),
        r.range (some (.bytes t.toUTF8.data.toList)) other rules now
            = r.range (some (.text t)) other rules now ∧
          r.range other (some (.bytes t.toUTF8.data.toList)) rules now
            = r.range other (some (.text t)) rules now) ∧
    ∀ bytes : List UInt8, ∃ t : String,
      (∀ cs, Text.StandsFor bytes cs ↔ cs = t.toList) ∧
      (∀ rounding, r.resolve (.bytes bytes) now rounding = r.resolveText t now rounding) ∧
      isSteady (.bytes bytes) = !CacheSafety.isUnsafe t.toList ∧
      ∀ (other : Option Input) (rules : RangeRules),
        r.range (some (.bytes bytes)) other rules now
            = r.range (some (.text t)) other rules now ∧
          r.range other (some (.bytes bytes)) rules now
            = r.range other (some (.text t)) rules now := by
  constructor
  · intro t
    have htext := Input.text?_encoded t
    exact ⟨fun rounding => resolve_of_text? htext, range_of_text? htext⟩
  · intro bytes
    have htext := Input.text?_bytes bytes
    refine ⟨String.ofList (Text.ofBytes bytes), fun cs => ?_, fun rounding => ?_, ?_, ?_⟩
    · rw [Text.standsFor_iff, String.toList_ofList, eq_comm]
    · exact resolve_of_text? htext
    · exact isSteady_of_text? htext
    · exact range_of_text? htext

end Resolver

end Almanac
