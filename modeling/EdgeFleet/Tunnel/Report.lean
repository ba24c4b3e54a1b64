import EdgeFleet.Job.Codec
import EdgeFleet.Time.Timestamp
/-!
# What is told about tunnels

The status of a tunnel, the details that an operator sees, and the answer that an agent gets when
it polls, each with its JSON form.
-/

namespace EdgeFleet

/-- How far a tunnel has come: none is wanted, one is to be opened at the agent's next poll, or it
is open. -/
inductive TunnelStatus where
  | idle
  | required
  | active
deriving DecidableEq, Repr, Inhabited

namespace TunnelStatus

def all : List TunnelStatus := [idle, required, active]

def name : TunnelStatus → String
  | idle => "IDLE"
  | required => "REQUIRED"
  | active => "ACTIVE"

end TunnelStatus

/-- What an operator sees of a tunnel. -/
structure TunnelDetails where
  status : TunnelStatus
  lastActivity : Timestamp
  port : Option UInt16
  jobs : List Job
  /-- The token that the agent presents when it opens the tunnel. -/
  credentials : Option String
deriving DecidableEq

/-- What an agent gets when it polls. -/
structure PollAnswer where
  environmentId : EnvironmentId
  status : TunnelStatus
  port : Option UInt16
  credentials : Option String
  /-- Seconds to wait before the next poll. -/
  checkInInterval : UInt32
  schedules : List Schedule
deriving DecidableEq

open Json (Codec Fields)

def TunnelStatus.codec : Codec TunnelStatus := .oneOf name all

/-- Timestamps, by their written form. -/
def Timestamp.codec : Codec Timestamp := .spelled text (fun t => read? t.toList)

def TunnelDetails.codec : Codec TunnelDetails :=
  (Fields.and { name := "status", codec := TunnelStatus.codec } <|
    .and { name := "last_activity", codec := Timestamp.codec } <|
    .and { name := "port", codec := .option .word16, absent := some none } <|
    .and { name := "jobs", codec := .list Job.codec } <|
    .and { name := "credentials", codec := .option .string, absent := some none } .done).codec.rename
    (fun (status, lastActivity, port, jobs, credentials, ()) =>
      { status, lastActivity, port, jobs, credentials })
    (fun d => (d.status, d.lastActivity, d.port, d.jobs, d.credentials, ()))

/-- The answer to a poll. -/
def PollAnswer.codec : Codec PollAnswer :=
  (Fields.and { name := "environment_id", codec := EnvironmentId.codec } <|
    .and { name := "status", codec := TunnelStatus.codec } <|
    .and { name := "port", codec := .option .word16, absent := some none } <|
    .and { name := "credentials", codec := .option .string, absent := some none } <|
    .and { name := "checkin_interval", codec := .word32 } <|
    .and { name := "schedules", codec := .list Schedule.codec } .done).codec.rename
    (fun (environmentId, status, port, credentials, checkInInterval, schedules, ()) =>
      { environmentId, status, port, credentials, checkInInterval, schedules })
    (fun a => (a.environmentId, a.status, a.port, a.credentials, a.checkInInterval, a.schedules, ()))

end EdgeFleet
