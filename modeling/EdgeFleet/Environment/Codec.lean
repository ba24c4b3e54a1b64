import EdgeFleet.Environment.Basic
import EdgeFleet.Json.Codec
/-!
# The JSON form of environments

The documents of an environment and of its parts. A missing edge id is left out of the written
object and may be left out of the one read.
-/

namespace EdgeFleet

namespace Json.Codec

def int32 : Codec Int32 := (int Decimal.signed32).rename Int32.ofInt Int32.toInt

def int64 : Codec Int64 := (int Decimal.signed64).rename Int64.ofInt Int64.toInt

def word16 : Codec UInt16 := (int Decimal.word16).rename UInt16.ofInt (fun n => n.toNat)

def word32 : Codec UInt32 := (int Decimal.word32).rename UInt32.ofInt (fun n => n.toNat)

end Json.Codec

open Json (Codec Fields)

def EnvironmentId.codec : Codec EnvironmentId := Codec.int32.rename EnvironmentId.mk EnvironmentId.number

def EnvironmentKind.codec : Codec EnvironmentKind := .oneOf name all

def EnvironmentStatus.codec : Codec EnvironmentStatus := .oneOf name all

/-- An agent's description of itself. -/
def Agent.codec : Codec Agent :=
  (Fields.and { name := "platform", codec := .string } <|
    .and { name := "version", codec := .string } .done).codec.rename
    (fun (platform, version, ()) => ⟨platform, version⟩)
    (fun a => (a.platform, a.version, ()))

/-- Polling in asynchronous mode. -/
def Polling.codec : Codec Polling :=
  (Fields.and { name := "async_mode", codec := .bool } <|
    .and { name := "ping_interval", codec := .word32 } <|
    .and { name := "snapshot_interval", codec := .word32 } <|
    .and { name := "command_interval", codec := .word32 } .done).codec.rename
    (fun (asynchronous, ping, snapshot, command, ()) => ⟨asynchronous, ping, snapshot, command⟩)
    (fun p => (p.asynchronous, p.pingInterval, p.snapshotInterval, p.commandInterval, ()))

def Environment.codec : Codec Environment :=
  (Fields.and { name := "id", codec := EnvironmentId.codec } <|
    .and { name := "name", codec := .string } <|
    .and { name := "kind", codec := EnvironmentKind.codec } <|
    .and { name := "url", codec := .string } <|
    .and { name := "public_url", codec := .string } <|
    .and { name := "group_id", codec := .int32 } <|
    .and { name := "status", codec := EnvironmentStatus.codec } <|
    .and
      { name := "edge_id", codec := .option .string, absent := some none, cut := some none,
        leavesOut := Option.isNone } <|
    .and { name := "edge_key", codec := .string } <|
    .and { name := "edge_checkin_interval", codec := .word32 } <|
    .and { name := "last_check_in_date", codec := .int64 } <|
    .and { name := "agent", codec := Agent.codec } <|
    .and { name := "edge", codec := Polling.codec } <|
    .and { name := "is_edge_device", codec := .bool } <|
    .and { name := "user_trusted", codec := .bool } .done).codec.rename
    (fun (id, name, kind, url, publicUrl, groupId, status, edgeId, edgeKey, checkInInterval,
        lastCheckIn, agent, polling, isEdgeDevice, userTrusted, ()) =>
      { id, name, kind, url, publicUrl, groupId, status, edgeId, edgeKey, checkInInterval,
        lastCheckIn, agent, polling, isEdgeDevice, userTrusted })
    (fun e => (e.id, e.name, e.kind, e.url, e.publicUrl, e.groupId, e.status, e.edgeId, e.edgeKey,
      e.checkInInterval, e.lastCheckIn, e.agent, e.polling, e.isEdgeDevice, e.userTrusted, ()))

end EdgeFleet
