import EdgeFleet.Environment.Codec
/-!
# Server-wide settings

Two numbers of seconds: how often an agent polls whose environment does not say, and how long an
active tunnel survives without activity.
-/

namespace EdgeFleet

/-- The settings of the server. -/
structure Settings where
  checkInInterval : UInt32
  keepAliveSeconds : UInt32
deriving DecidableEq, Repr

namespace Settings

/-- The settings of a server where none were stored. -/
def standard : Settings := ⟨5, 300⟩

/-- Seconds between two polls of an environment's agent. -/
def intervalOf (s : Settings) (e : Environment) : UInt32 :=
  if e.checkInInterval = 0 then s.checkInInterval else e.checkInInterval

open Json (Codec Fields)

def codec : Codec Settings :=
  (Fields.and { name := "edge_agent_checkin_interval", codec := .word32 } <|
    .and { name := "tunnel_keep_alive_secs", codec := .word32 } .done).codec.rename
    (fun (interval, keepAlive, ()) => ⟨interval, keepAlive⟩)
    (fun s => (s.checkInInterval, s.keepAliveSeconds, ()))

end Settings

end EdgeFleet
