import EdgeFleet.Environment.Codec
import EdgeFleet.Job.Basic
/-!
# The JSON form of jobs

The documents of a job and of its schedule. The environments of a job may be missing, also at
the end of an array.
-/

namespace EdgeFleet

open Json (Codec Fields)

def JobId.codec : Codec JobId := Codec.int32.rename JobId.mk JobId.number

/-- What a job keeps for one environment. -/
def JobLogs.codec : Codec JobLogs :=
  (Fields.and { name := "logs_status", codec := .oneOf LogsStatus.name LogsStatus.all } <|
    .and { name := "collect_logs", codec := .bool } .done).codec.rename
    (fun (status, collect, ()) => ⟨status, collect⟩)
    (fun l => (l.status, l.collect, ()))

/-- What a job keeps for each environment. -/
def JobLogs.tableCodec : Codec (Table EnvironmentId JobLogs) :=
  .table Decimal.signed32 (fun n => ⟨Int32.ofInt n⟩) (fun id => id.number.toInt) JobLogs.codec

def Job.codec : Codec Job :=
  (Fields.and { name := "id", codec := JobId.codec } <|
    .and { name := "name", codec := .string } <|
    .and { name := "cron_expression", codec := .string } <|
    .and { name := "script_path", codec := .string } <|
    .and { name := "recurring", codec := .bool } <|
    .and { name := "version", codec := .word32 } <|
    .and { name := "created", codec := .int64 } <|
    .and
      { name := "environments", codec := JobLogs.tableCodec, absent := some ∅, cut := some ∅ }
      .done).codec.rename
    (fun (id, name, cronExpression, scriptPath, recurring, version, created, environments, ()) =>
      { id, name, cronExpression, scriptPath, recurring, version, created, environments })
    (fun j => (j.id, j.name, j.cronExpression, j.scriptPath, j.recurring, j.version, j.created,
      j.environments, ()))

def Schedule.codec : Codec Schedule :=
  (Fields.and { name := "id", codec := JobId.codec } <|
    .and { name := "cron_expression", codec := .string } <|
    .and { name := "script_path", codec := .string } <|
    .and { name := "collect_logs", codec := .bool } <|
    .and { name := "version", codec := .word32 } .done).codec.rename
    (fun (id, cronExpression, scriptPath, collectLogs, version, ()) =>
      { id, cronExpression, scriptPath, collectLogs, version })
    (fun s => (s.id, s.cronExpression, s.scriptPath, s.collectLogs, s.version, ()))

end EdgeFleet
