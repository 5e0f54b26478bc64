import Tandem.Proofs.Cbor.Delimited
import Tandem.Proofs.Report.Roundtrip

set_option autoImplicit false

/-!
Damaged reports. An encoded report is one item, and items delimit themselves; so an encoding that
was cut off, wherever this was, cannot be read, and neither can one with anything behind it.
-/

namespace Tandem.Report

open Cbor

/-- What can be read is the whole encoding, if it agrees with it as far as both go. -/
theorem eq_encode_of_decode? {r s : Report} (within : r.IsWithin) {t : Text}
    (agrees : t <+: r.encode ∨ r.encode <+: t) (read : decode? t = some s) : t = r.encode := by
  have whole : Cbor.decode? r.encode = some r.toItem := Cbor.decode?_encode (fits_toItem within)
  obtain ⟨item, decoded, _⟩ := Option.bind_eq_some_iff.mp read
  rcases agrees with cut | extended
  · exact eq_of_isPrefix_of_decode? cut decoded whole
  · exact (eq_of_isPrefix_of_decode? extended whole decoded).symm

/-- No encoding of a report can be read if it was cut off anywhere or if anything was added to it,
while the whole encoding can, unless there is a text in it that is not UTF-8. -/
theorem damage_is_detected (r : Report) (within : r.IsWithin) :
    (∀ start, start <+: r.encode → start ≠ r.encode → decode? start = none) ∧
      (∀ more, more ≠ [] → decode? (r.encode ++ more) = none) ∧
      (r.IsUnicode → ∃ s, decode? r.encode = some s) := by
  refine ⟨?_, ?_, ?_⟩
  · intro start cut proper
    apply Option.eq_none_iff_forall_ne_some.mpr
    intro s read
    exact proper (eq_encode_of_decode? within (.inl cut) read)
  · intro more nonempty
    apply Option.eq_none_iff_forall_ne_some.mpr
    intro s read
    have same := eq_encode_of_decode? within (.inr (List.prefix_append _ more)) read
    exact nonempty (List.append_right_eq_self.mp same)
  · intro unicode
    exact ⟨r.readBack, by rw [decode?_encode within, if_pos (isUtf8_iff.mpr unicode)]⟩

theorem damage_is_detected_sample :
    decode? [] = none ∧ decode? sample.encode.dropLast = none ∧
      decode? (sample.encode ++ [0xF6]) = none ∧ ∃ s, decode? sample.encode = some s := by
  obtain ⟨cut, extended, whole⟩ := damage_is_detected sample isWithin_sample
  have nonempty : sample.encode ≠ [] := List.ne_nil_of_length_pos sample.toItem.length_encode_pos
  refine ⟨cut [] List.nil_prefix nonempty.symm, cut _ (List.dropLast_prefix _) ?_,
    extended [0xF6] (by simp), whole (isUtf8_iff.mp (by decide +kernel))⟩
  intro same
  have shorter := congrArg List.length same
  have positive := sample.toItem.length_encode_pos
  rw [List.length_dropLast] at shorter
  unfold encode at shorter
  omega

end Tandem.Report
