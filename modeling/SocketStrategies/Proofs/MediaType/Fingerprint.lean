import SocketStrategies.Proofs.Bytes
import SocketStrategies.Proofs.MediaType.Equality
import SocketStrategies.Proofs.Text.Utf8

/-!
# A fingerprint is an equivalence class

The fingerprint of a media type is one run of bytes, with the texts of the type one after another.
Each of them ends where the byte stands that no UTF-8 text holds, so the texts can be read off the
run again. Two media types therefore have one fingerprint exactly if they are equivalent.
-/

namespace SocketStrategies.MediaType

variable {a b : MediaType}

/-- No text holds the byte that ends it. -/
theorem stop_not_mem_encode (s : String) : (0xFF : UInt8) ∉ Utf8.encode s := by
  intro h
  exact absurd (Utf8.lt_of_mem_encode h) (by decide)

/-- The text at the front of a fingerprint can be told from what follows. -/
theorem fingerprintText_append_inj {s t : String} {x y : Bytes}
    (h : fingerprintText s ++ x = fingerprintText t ++ y) : s = t ∧ x = y := by
  rw [fingerprintText, fingerprintText, List.append_assoc, List.append_assoc,
    List.singleton_append, List.singleton_append] at h
  obtain ⟨htext, hrest⟩ :=
    Bytes.eq_of_append_cons (stop_not_mem_encode s) (stop_not_mem_encode t) h
  exact ⟨Utf8.encode_inj.mp htext, hrest⟩

/-- A parameter in a fingerprint: its name and its value. -/
def fingerprintParameter (p : String × String) : Bytes :=
  fingerprintText p.1 ++ fingerprintText p.2

theorem fingerprintParameter_ne_nil (p : String × String) : fingerprintParameter p ≠ [] := by
  rw [fingerprintParameter, fingerprintText, List.append_assoc, List.singleton_append]
  exact List.append_ne_nil_of_right_ne_nil _ (List.cons_ne_nil _ _)

theorem flatMap_fingerprintParameter_inj {ps qs : List (String × String)}
    (h : ps.flatMap fingerprintParameter = qs.flatMap fingerprintParameter) : ps = qs := by
  induction ps generalizing qs with
  | nil =>
      cases qs with
      | nil => rfl
      | cons q qs =>
          rw [List.flatMap_cons] at h
          exact absurd (List.append_eq_nil_iff.mp h.symm).1 (fingerprintParameter_ne_nil q)
  | cons p ps ih =>
      cases qs with
      | nil =>
          rw [List.flatMap_cons] at h
          exact absurd (List.append_eq_nil_iff.mp h).1 (fingerprintParameter_ne_nil p)
      | cons q qs =>
          rw [List.flatMap_cons, List.flatMap_cons, fingerprintParameter, fingerprintParameter,
            List.append_assoc, List.append_assoc] at h
          obtain ⟨hname, h⟩ := fingerprintText_append_inj h
          obtain ⟨hvalue, h⟩ := fingerprintText_append_inj h
          rw [Prod.ext hname hvalue, ih h]

theorem fingerprint_eq (m : MediaType) :
    m.fingerprint
      = fingerprintText (Text.lower m.mainType) ++ (fingerprintText (Text.lower m.subtype)
        ++ (Bytes.littleEndian 8 m.parameters.toList.length
          ++ m.parameters.toList.flatMap fingerprintParameter)) := by
  rw [fingerprint, List.append_assoc, List.append_assoc]
  rfl

theorem fingerprint_eq_iff : a.fingerprint = b.fingerprint ↔ a.equivalent b = true := by
  rw [equivalent_iff, sameFormat_iff, fingerprint_eq, fingerprint_eq]
  constructor
  · intro h
    obtain ⟨hmain, h⟩ := fingerprintText_append_inj h
    obtain ⟨hsub, h⟩ := fingerprintText_append_inj h
    have hcount : (Bytes.littleEndian 8 a.parameters.toList.length).length
        = (Bytes.littleEndian 8 b.parameters.toList.length).length := by
      rw [Bytes.length_littleEndian, Bytes.length_littleEndian]
    obtain ⟨-, h⟩ := List.append_inj h hcount
    exact ⟨⟨hmain, hsub⟩, Dict.ext (flatMap_fingerprintParameter_inj h)⟩
  · rintro ⟨⟨hmain, hsub⟩, hparams⟩
    rw [hmain, hsub, hparams]

end SocketStrategies.MediaType
