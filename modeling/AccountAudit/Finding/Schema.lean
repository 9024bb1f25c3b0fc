import AccountAudit.Finding.Basic
import AccountAudit.Schema.Number

/-!
# Findings in documents

Findings and locations from tables of fields.
-/

namespace AccountAudit

open Schema

def Location.read : Value → Checked Location :=
  record "Location" fun v =>
    (required "file_path" Schema.text v).and
      (required "start_offset" integer v) |>.and
      (required "end_offset" integer v) |>.and
      (withDefault "start_line" none (nullable integer) v) |>.map
      fun (((file, start), stop), line) => { file, start, stop, line }

def Finding.read : Value → Checked Finding :=
  Schema.record "FindingSchema" fun v =>
    (required "class_id" text v).and
      (required "title" text v) |>.and
      (required "message" text v) |>.and
      (required "severity" Severity.read v) |>.and
      (required "location" Location.read v) |>.and
      (withDefault "remediation_id" "" text v) |>.and
      (withDefault "handler" "" text v) |>.and
      (withDefault "confidence" (.ofInt 1) number v) |>.and
      (withDefault "category" "" text v) |>.and
      (withDefault "metadata" [] (entries anything) v) |>.map
      fun (((((((((classId, title), message), severity), location), remediationId), handler),
          confidence), category), metadata) =>
        { classId, title, message, severity, location, remediationId, handler, confidence,
          category, metadata }

end AccountAudit
