/-
What the verifier of export packages accepts.

A package is valid when the verification ends without an exception and none of its notes
is an error (`Quiet Note.Silent`).  The lemmas say this for each of its parts.
-/
import AssuranceOS.Vault.Export

namespace Vault

open Checked JsonText Report

/-- The note is no error. -/
def Note.Silent (n : Note) : Prop := n.error? = none

section Notes

@[simp] theorem not_silent_error {e : ExportError} : ¬ Note.Silent (.error e) := by
  simp [Note.Silent, Note.error?]

@[simp] theorem silent_signingKeyId {value : Value} : Note.Silent (.signingKeyId value) := rfl

variable {u : Unit} {e : ExportError}

@[simp] theorem quiet_report : ¬ Quiet Note.Silent (report e) u := by
  simp [report]

variable {c : Prop} {α : Type}

@[simp] theorem quiet_reportUnless [Decidable c] :
    Quiet Note.Silent (reportUnless c e) u ↔ c := by
  simp [reportUnless]

@[simp] theorem quiet_report_bind {x : Unit → Verifying α} {a : α} :
    ¬ Quiet Note.Silent (report e >>= x) a := by
  simp [quiet_bind]

@[simp] theorem quiet_reportUnless_bind [Decidable c] {x : Unit → Verifying α} {a : α} :
    Quiet Note.Silent (reportUnless c e >>= x) a ↔ c ∧ Quiet Note.Silent (x ()) a := by
  rw [quiet_bind]
  constructor
  · rintro ⟨_, hc, hx⟩
    exact ⟨quiet_reportUnless.mp hc, hx⟩
  · rintro ⟨hc, hx⟩
    exact ⟨(), quiet_reportUnless.mpr hc, hx⟩

end Notes

variable {lib : ExportLibrary} {archive : Archive}
variable {trusted : Option (List (String × Bytes))}

theorem quiet_of_valid {package : Bytes} {v : ExportVerification}
    (h : verifyExportPackage lib (some package) trusted = .ok v) (hvalid : v.valid) :
    Quiet Note.Silent (checkPackage lib package trusted) () := by
  have hempty : ∀ {sha256 notes}, verificationOf sha256 notes = .ok v →
      ∀ n ∈ notes, n.Silent := by
    intro sha256 notes hof
    unfold verificationOf at hof
    obtain ⟨keyId, -, hv⟩ := bind_eq_ok.mp hof
    cases hv
    simpa [Note.Silent] using hvalid
  unfold verifyExportPackage at h
  simp only at h
  split at h
  · exact ⟨hempty h, by assumption⟩
  case h_2 e _ => exact absurd (hempty h (.error e) (by simp)) not_silent_error
  · cases h

variable {manifestBytes : Bytes} {valid : Option Bool}

theorem quiet_checkSigned :
    Quiet Note.Silent (checkSigned lib archive trusted manifestBytes) valid ↔
      ∃ document signature embeddedKey key, archive.read signatureName = .ok document ∧
        lib.loads document = .ok (.obj signature) ∧
        archive.read publicKeyName = .ok embeddedKey ∧
        trustedKey (trusted.getD []) (get signature "key_id") = .ok key ∧
        (trusted = none ∨ key ≠ none) ∧
        SignedBy lib.toCryptography manifestBytes signature (keyInUse key embeddedKey) ∧
        some true = valid := by
  unfold checkSigned
  simp only [quiet_bind, quiet_lift]
  constructor
  · rintro ⟨document, hdocument, root, hroot, h⟩
    cases root with
    | obj signature =>
      simp only [quiet_bind, quiet_lift, quiet_note, quiet_pure, require_eq_ok,
        verifySignature_eq_ok] at h
      obtain ⟨-, -, embeddedKey, hembedded, key, hkey, -, htrusted, -, hsigned, hvalid⟩ := h
      exact ⟨document, signature, embeddedKey, key, hdocument, hroot, hembedded, hkey, htrusted,
        hsigned, hvalid⟩
    | _ => simp at h
  · rintro ⟨document, signature, embeddedKey, key, hdocument, hroot, hembedded, hkey, htrusted,
      hsigned, hvalid⟩
    refine ⟨document, hdocument, .obj signature, hroot, ?_⟩
    simp only [quiet_bind, quiet_lift, quiet_note, quiet_pure, require_eq_ok,
      verifySignature_eq_ok]
    exact ⟨(), silent_signingKeyId, embeddedKey, hembedded, key, hkey, (), htrusted, (), hsigned,
      hvalid⟩

/-- The signature is not looked at where none of its entries is there, and has to be good
where both are. -/
theorem quiet_checkSignature :
    Quiet Note.Silent (checkSignature lib archive trusted manifestBytes) valid ↔
      ((∀ name ∈ signatureEntries, name ∉ archive.names) ∧ none = valid) ∨
      ((∀ name ∈ signatureEntries, name ∈ archive.names) ∧
        Quiet Note.Silent (checkSigned lib archive trusted manifestBytes) valid) := by
  have hsome : ∃ name, name ∈ signatureEntries := ⟨signatureName, List.mem_cons_self⟩
  unfold checkSignature
  simp only
  split
  case isTrue hnone =>
    have hnone : ∀ name ∈ signatureEntries, name ∉ archive.names := by
      simpa [List.filter_eq_nil_iff] using hnone
    obtain ⟨name, hname⟩ := hsome
    simp only [quiet_pure]
    exact ⟨fun h => .inl ⟨hnone, h⟩, fun h => h.elim And.right fun h => absurd (h.1 name hname)
      (hnone name hname)⟩
  case isFalse hpresent =>
    have hpresent : ¬ ∀ name ∈ signatureEntries, name ∉ archive.names := by
      simpa [List.filter_eq_nil_iff] using hpresent
    simp only [hpresent, false_and, false_or]
    split
    case isTrue hall =>
      have hall : ∀ name ∈ signatureEntries, name ∈ archive.names := by
        simpa [List.filter_eq_self] using hall
      rw [quiet_handle, and_iff_right hall, or_iff_left]
      rintro ⟨e, -, -, h⟩
      cases e <;> simp at h
    case isFalse hall =>
      have hall : ¬ ∀ name ∈ signatureEntries, name ∈ archive.names := by
        simpa [List.filter_eq_self] using hall
      simp [hall]

end Vault
