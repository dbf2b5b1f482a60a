import Nstu.Audit.Chunk
import Nstu.Core.Lines

/-!
# Lines of the audit log

`format_record_line` of `audit.cpp`: a record is a line of ten fields, whatever its texts hold (**`audit_text`**).

To sanitise a text twice is not the same as to do it once: what the limit has cut off is replaced by dots, and a word that
ends in dots may be a key.
-/

namespace Nstu.Audit

open Wire CType JsonText Text

/-- `to_string`. -/
def Category.text : Category → Bytes
  | .enrollment => literal "enrollment"
  | .managedMode => literal "managed_mode"
  | .uwf => literal "uwf"
  | .exam => literal "exam"
  | .session => literal "session"
  | .security => literal "security"
  | .system => literal "system"

def Severity.text : Severity → Bytes
  | .info => literal "info"
  | .warning => literal "warning"
  | .error => literal "error"

def formatRecordLine (record : Record) : Bytes :=
  let clean := sanitizeEvent record.event
  [decimalText record.timestampUnixMilliseconds.toNat, [0x09], decimalText record.sequence.toNat, [0x09],
    clean.category.text, [0x09], clean.severity.text, [0x09], clean.component, [0x09], clean.action, [0x09], clean.result,
    [0x09], literal "op=", decimalText clean.operationId.toNat, [0x09], literal "client=",
    decimalText clean.clientId.toNat, [0x09], clean.detail].flatten ++ [0x0a]

lemma Printable.not_mem {text : Bytes} (h : Printable text) {byte : UInt8} (hb : isControl byte) :
    byte ∉ text := fun hm => by simp [printable_iff.mp h byte hm] at hb

lemma printable_decimalText (value : ℕ) : Printable (decimalText value) := by
  refine printable_iff.mpr fun byte hb => ?_
  have hd := isDigit_of_mem_decimalText hb
  simp only [isDigit, Bool.and_eq_true, decide_eq_true_eq] at hd
  simp only [isControl, Bool.or_eq_false_iff, decide_eq_false_iff_not, beq_eq_false_iff_ne]
  grind

/-- **Audit text.**  A sanitised field keeps its limit and has no control characters; a chunk gives the records that went
into it, each of them sanitised on both sides; and a record's line ends in its only newline and has nine tabs. -/
theorem audit_text : (∀ text maximum, (sanitizeAuditField text maximum).length ≤ maximum ∧
      ∀ byte ∈ sanitizeAuditField text maximum, isControl byte = false) ∧
    (∀ records, decodeAuditChunk (encodeAuditChunk records) =
      some ((records.take (encodeRecords 0 [] records).1).map fun record => record.sanitized.sanitized)) ∧
    ∀ record, ∃ line, formatRecordLine record = line ++ [0x0a] ∧ 0x0a ∉ line ∧ line.count 0x09 = 9 := by
  refine ⟨fun text maximum => ⟨length_sanitizeAuditField text maximum,
    printable_iff.mp (printable_sanitizeAuditField text maximum)⟩, decodeAuditChunk_encodeRecords, fun record => ?_⟩
  have hcategory : Printable record.event.category.text := by
    cases record.event.category
    all_goals decide
  have hseverity : Printable record.event.severity.text := by
    cases record.event.severity
    all_goals decide
  have hop : Printable (literal "op=") := by decide
  have hclient : Printable (literal "client=") := by decide
  have hfields := fun text maximum byte (h : isControl byte = true) => (printable_sanitizeAuditField text maximum).not_mem h
  have hnumbers := fun value byte (h : isControl byte = true) => (printable_decimalText value).not_mem h
  have htab : isControl 0x09 = true := by decide
  have hline : isControl 0x0a = true := by decide
  refine ⟨_, rfl, ?_, ?_⟩
  · simp [sanitizeEvent, hfields, hnumbers, hline, hcategory.not_mem hline, hseverity.not_mem hline,
      hop.not_mem hline, hclient.not_mem hline]
  · simp [sanitizeEvent, List.count_eq_zero.mpr, hfields, hnumbers, htab, hcategory.not_mem htab,
      hseverity.not_mem htab, hop.not_mem htab, hclient.not_mem htab]

/-- A word that the limit turns into a key is redacted only the second time. -/
theorem sanitizeAuditField_again :
    ¬ ∀ text maximum, sanitizeAuditField (sanitizeAuditField text maximum) maximum = sanitizeAuditField text maximum := by
  intro h
  have hcut : scan 9 [] (literal "secretary1") = (literal "secretary", true) := by
    rw [scan.eq_def]
    decide +kernel
  have hredacted : scan 9 [] (literal "secret...") = (literal "<redacted", false) := by
    rw [scan.eq_def]
    decide +kernel
  have honce : sanitizeAuditField (literal "secretary1") 9 = literal "secret..." := by
    rw [sanitizeAuditField, sanitizePublicText, hcut]
    decide
  have htwice := h (literal "secretary1") 9
  rw [honce, sanitizeAuditField, sanitizePublicText, hredacted] at htwice
  exact absurd htwice (by decide)

end Nstu.Audit
