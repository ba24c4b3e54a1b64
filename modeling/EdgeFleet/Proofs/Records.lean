import EdgeFleet.Proofs.Decimal
import EdgeFleet.Proofs.Json.Collections
import EdgeFleet.Proofs.Timestamps
import EdgeFleet.Proofs.Tokens
import EdgeFleet.Settings
import EdgeFleet.Tunnel.Report
/-!
# Records read back

Every record that is sent or kept as JSON reads back from its written text (`records_read_back`):
optional fields that are left out or `null`, names, numbers at their limits, and timestamps of the whole
calendar. The environments of a job may stand in any order in its document, so what is said of a job
and of the details of a tunnel holds of each of its documents (`Job.IsDocument`,
`TunnelDetails.IsDocument`).
-/

namespace EdgeFleet

open Json

namespace Json.Codec

/-! ## Machine integers -/

theorem int32_readsBack (n : Int32) : int32.ReadsBack n :=
  int_rename_readsBack (by decide) (by decide) (Int32.ofInt_toInt n) ⟨n.le_toInt, Int.le_sub_one_of_lt n.toInt_lt⟩

theorem word16_readsBack (n : UInt16) : word16.ReadsBack n :=
  int_rename_readsBack (by decide) (by decide) (Decimal.ofInt_toNat n)
    (Decimal.holds_word16_iff.1 (Decimal.holds_toNat n))

theorem word32_readsBack (n : UInt32) : word32.ReadsBack n := by
  have hlt := n.toNat_lt
  have hback : ((n.toNat : Int) % 2 ^ 32).toNat = n.toNat := by omega
  have hofInt : UInt32.ofInt n.toNat = n := by rw [UInt32.ofInt, hback, UInt32.ofNat_toNat]
  have hin : (0 : Int) ≤ n.toNat ∧ (n.toNat : Int) ≤ 0xffffffff := by omega
  exact int_rename_readsBack (by decide) (by decide) hofInt hin

theorem option_word16_readsBack (n : Option UInt16) : word16.option.ReadsBack n :=
  option_readsBack (fun n _ => ⟨word16_readsBack n, Value.noConfusion⟩)

end Json.Codec

open Json.Codec

/-! ## Environments -/

theorem EnvironmentId.readsBack (id : EnvironmentId) : codec.ReadsBack id :=
  ReadsBack.rename (int32_readsBack id.number) rfl

theorem EnvironmentKind.readsBack (k : EnvironmentKind) : codec.ReadsBack k :=
  oneOf_readsBack (by cases k <;> rfl)

theorem EnvironmentStatus.readsBack (s : EnvironmentStatus) : codec.ReadsBack s :=
  oneOf_readsBack (by cases s <;> rfl)

theorem Agent.readsBack (a : Agent) : codec.ReadsBack a :=
  Fields.rename_readsBack rfl (by decide) ⟨string_readsBack _, string_readsBack _, trivial⟩

theorem Polling.readsBack (p : Polling) : codec.ReadsBack p :=
  Fields.rename_readsBack rfl (by decide)
    ⟨bool_readsBack _, word32_readsBack _, word32_readsBack _, word32_readsBack _, trivial⟩

/-- An edge id is left out where there is none, which is what its absence stands for. -/
theorem edgeId_absent_or_readsBack (edgeId : Option String) :
    if edgeId.isNone then some none = some edgeId else Codec.string.option.ReadsBack edgeId := by
  cases edgeId with
  | none => rfl
  | some t => exact option_string_readsBack (some t)

theorem Environment.readsBack (e : Environment) : codec.ReadsBack e :=
  Fields.rename_readsBack rfl (by decide)
    ⟨e.id.readsBack, string_readsBack _, e.kind.readsBack, string_readsBack _, string_readsBack _, int32_readsBack _,
      e.status.readsBack, edgeId_absent_or_readsBack e.edgeId, string_readsBack _, word32_readsBack _,
      int64_readsBack _, e.agent.readsBack, e.polling.readsBack, bool_readsBack _, bool_readsBack _, trivial⟩

theorem Settings.readsBack (s : Settings) : codec.ReadsBack s :=
  Fields.rename_readsBack rfl (by decide) ⟨word32_readsBack _, word32_readsBack _, trivial⟩

/-! ## Jobs -/

theorem JobId.readsBack (id : JobId) : codec.ReadsBack id :=
  ReadsBack.rename (int32_readsBack id.number) rfl

theorem JobLogs.readsBack (l : JobLogs) : codec.ReadsBack l :=
  Fields.rename_readsBack rfl (by decide)
    ⟨oneOf_readsBack (by cases l.status <;> rfl), bool_readsBack _, trivial⟩

theorem Schedule.readsBack (s : Schedule) : codec.ReadsBack s :=
  Fields.rename_readsBack rfl (by decide)
    ⟨s.id.readsBack, string_readsBack _, string_readsBack _, bool_readsBack _, word32_readsBack _, trivial⟩

namespace Job

/-- The document of a job in which its environments stand in a given order. -/
def documentIn (j : Job) (order : List (EnvironmentId × JobLogs)) : Value :=
  .obj [("id", .int j.id.number.toInt), ("name", .str j.name), ("cron_expression", .str j.cronExpression),
    ("script_path", .str j.scriptPath), ("recurring", .bool j.recurring), ("version", .int j.version.toNat),
    ("created", .int j.created.toInt),
    ("environments", .obj (tableMembers (fun id => id.number.toInt) JobLogs.codec order))]

/-- Whether a document is one of a job, whose environments may stand in any order. -/
def IsDocument (j : Job) (v : Value) : Prop := ∃ order, order.Perm j.environments.entries ∧ v = j.documentIn order

theorem isDocument_write (j : Job) : j.IsDocument (codec.write j) := ⟨_, .refl _, rfl⟩

theorem reads_environments {t : Table EnvironmentId JobLogs} {order : List (EnvironmentId × JobLogs)}
    (h : order.Perm t.entries) : JobLogs.tableCodec.Reads
      (.obj (tableMembers (fun id => id.number.toInt) JobLogs.codec order)) t := by
  refine table_reads (by decide) (by decide) (fun id => ?_) (fun id => ?_) JobLogs.readsBack h
  · rw [Int32.ofInt_toInt]
  · rw [Decimal.Range.holds, Bool.and_eq_true, decide_eq_true_eq, decide_eq_true_eq]
    exact ⟨id.number.le_toInt, Int.le_sub_one_of_lt id.number.toInt_lt⟩

theorem reads_of_isDocument {j : Job} {v : Value} (h : j.IsDocument v) : codec.Reads v j := by
  obtain ⟨order, hperm, rfl⟩ := h
  refine Reads.rename (a := (j.id, j.name, j.cronExpression, j.scriptPath, j.recurring, j.version, j.created,
    j.environments, ())) (Fields.codec_reads (by decide) ?_) _ _
  exact .member j.id.readsBack <| .member (string_readsBack _) <| .member (string_readsBack _) <|
    .member (string_readsBack _) <| .member (bool_readsBack _) <| .member (word32_readsBack _) <|
    .member (int64_readsBack _) <| .member (reads_environments hperm) .done

end Job

/-! ## Tunnels -/

theorem TunnelStatus.readsBack (s : TunnelStatus) : codec.ReadsBack s :=
  oneOf_readsBack (by cases s <;> rfl)

theorem Timestamp.readsBack {t : Timestamp} (hon : t.instant.onCalendar = true) (hi : t.inserted = false) :
    codec.ReadsBack t := by
  refine spelled_readsBack ?_
  rw [text, String.toList_ofList, read?_write hon hi]

theorem PollAnswer.readsBack (a : PollAnswer) : codec.ReadsBack a :=
  Fields.rename_readsBack rfl (by decide)
    ⟨a.environmentId.readsBack, a.status.readsBack, option_word16_readsBack _, option_string_readsBack _,
      word32_readsBack _, list_readsBack (fun s _ => s.readsBack), trivial⟩

example : PollAnswer.codec.write ⟨⟨-5⟩, .required, none, none, 30, []⟩ =
    .obj [("environment_id", .int (-5)), ("status", .str "REQUIRED"), ("port", .null), ("credentials", .null),
      ("checkin_interval", .int 30), ("schedules", .arr [])] := rfl

namespace TunnelDetails

/-- The document of the details of a tunnel, given the documents of its jobs. -/
def documentWith (d : TunnelDetails) (jobs : List Value) : Value :=
  .obj [("status", .str d.status.name), ("last_activity", .str d.lastActivity.text),
    ("port", .ofOption (d.port.map (fun p => .int p.toNat))), ("jobs", .arr jobs),
    ("credentials", .ofOption (d.credentials.map .str))]

/-- Whether a document is one of the details of a tunnel: it has one of each job. -/
def IsDocument (d : TunnelDetails) (v : Value) : Prop :=
  ∃ jobs, List.Forall₂ Job.IsDocument d.jobs jobs ∧ v = d.documentWith jobs

theorem isDocument_write (d : TunnelDetails) : d.IsDocument (codec.write d) := by
  refine ⟨d.jobs.map Job.codec.write, ?_, rfl⟩
  rw [List.forall₂_map_right_iff, List.forall₂_same]
  exact fun j _ => j.isDocument_write

theorem reads_of_isDocument {d : TunnelDetails} (hon : d.lastActivity.instant.onCalendar = true)
    (hi : d.lastActivity.inserted = false) {v : Value} (h : d.IsDocument v) : codec.Reads v d := by
  obtain ⟨jobs, hjobs, rfl⟩ := h
  have hreads : List.Forall₂ Job.codec.Reads jobs d.jobs :=
    (hjobs.imp (fun _ _ => Job.reads_of_isDocument)).flip
  refine Reads.rename (a := (d.status, d.lastActivity, d.port, d.jobs, d.credentials, ()))
    (Fields.codec_reads (by decide) ?_) _ _
  exact .member d.status.readsBack <| .member (Timestamp.readsBack hon hi) <| .member (option_word16_readsBack _) <|
    .member (list_reads hreads) <| .member (option_string_readsBack _) .done

end TunnelDetails

/-! ## All records -/

/-- The text that a record is written as is read as the record, in whatever order the environments of
jobs stand in it. A timestamp must be an instant of the calendar; all else may be any value of its type. -/
theorem records_read_back :
    (∀ e : Environment, Environment.codec.decode (Utf8.bytes (Environment.codec.encode e)) = .ok e) ∧
    (∀ j : Job, Job.codec.decode (Utf8.bytes (Job.codec.encode j)) = .ok j ∧
      ∀ v, j.IsDocument v → Job.codec.decode (Utf8.bytes v.text) = .ok j) ∧
    (∀ s : Schedule, Schedule.codec.decode (Utf8.bytes (Schedule.codec.encode s)) = .ok s) ∧
    (∀ d : TunnelDetails, d.lastActivity.instant.onCalendar = true → d.lastActivity.inserted = false →
      TunnelDetails.codec.decode (Utf8.bytes (TunnelDetails.codec.encode d)) = .ok d ∧
        ∀ v, d.IsDocument v → TunnelDetails.codec.decode (Utf8.bytes v.text) = .ok d) ∧
    (∀ a : PollAnswer, PollAnswer.codec.decode (Utf8.bytes (PollAnswer.codec.encode a)) = .ok a) ∧
    (∀ a : Agent, Agent.codec.decode (Utf8.bytes (Agent.codec.encode a)) = .ok a) ∧
    (∀ p : Polling, Polling.codec.decode (Utf8.bytes (Polling.codec.encode p)) = .ok p) ∧
    (∀ s : Settings, Settings.codec.decode (Utf8.bytes (Settings.codec.encode s)) = .ok s) ∧
    (∀ c : Claims, Claims.codec.decode (Utf8.bytes (Claims.codec.encode c)) = .ok c) := by
  have hjob : ∀ (j : Job) (v : Value), j.IsDocument v → Job.codec.decode (Utf8.bytes v.text) = .ok j :=
    fun _ _ h => (Job.reads_of_isDocument h).decode_text
  have hdetails : ∀ d : TunnelDetails, d.lastActivity.instant.onCalendar = true → d.lastActivity.inserted = false →
      ∀ v, d.IsDocument v → TunnelDetails.codec.decode (Utf8.bytes v.text) = .ok d :=
    fun _ hon hi _ h => (TunnelDetails.reads_of_isDocument hon hi h).decode_text
  exact ⟨fun e => e.readsBack.decode_encode, fun j => ⟨hjob j _ j.isDocument_write, hjob j⟩,
    fun s => s.readsBack.decode_encode, fun d hon hi => ⟨hdetails d hon hi _ d.isDocument_write, hdetails d hon hi⟩,
    fun a => a.readsBack.decode_encode, fun a => a.readsBack.decode_encode, fun p => p.readsBack.decode_encode,
    fun s => s.readsBack.decode_encode, fun c => c.readsBack.decode_encode⟩

/-- A job of two environments. -/
def pairedJob : Job :=
  ⟨⟨1⟩, "prune", "@daily", "", true, 1, -1, ⟨[(⟨-5⟩, ⟨.idle, true⟩), (⟨7⟩, ⟨.pending, false⟩)], by decide⟩⟩

/-- The details of a tunnel that was last active in the year 12345. -/
def distantDetails : TunnelDetails := ⟨.required, .ofInstant ⟨327403400000123456789⟩, none, [pairedJob], none⟩

/-- The second environment may stand before the first. -/
theorem read_back_of_distant_details : distantDetails.lastActivity.instant.onCalendar = true ∧
    distantDetails.lastActivity.inserted = false ∧ TunnelDetails.codec.decode (Utf8.bytes
      (distantDetails.documentWith [pairedJob.documentIn pairedJob.environments.entries.reverse]).text) =
        .ok distantDetails := by
  have hon : distantDetails.lastActivity.instant.onCalendar = true := by decide
  have hi : distantDetails.lastActivity.inserted = false := rfl
  refine ⟨hon, hi, (records_read_back.2.2.2.1 distantDetails hon hi).2 _ ?_⟩
  exact ⟨_, .cons ⟨_, List.reverse_perm _, rfl⟩ .nil, rfl⟩

end EdgeFleet
