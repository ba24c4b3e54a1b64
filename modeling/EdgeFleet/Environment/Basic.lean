import EdgeFleet.Table
/-!
# Environments

An environment is a registered remote target. Its kind and its status have numeric codes beside
their names; a code without a name is an `UnknownCode`. An environment that is reached through an
agent carries the agent's edge id: an empty one counts as none (`Environment.boundEdgeId?`), and
`Environment.normalize` makes that so in the record itself.
-/

namespace EdgeFleet

/-- The number of an environment; zero is the number of one that has none yet. -/
structure EnvironmentId where
  number : Int32
deriving DecidableEq, Repr, Inhabited

namespace EnvironmentId

/-- The number of an environment that has none yet. -/
def unassigned : EnvironmentId := ⟨0⟩

/-- Whether the number was given out. -/
def isAssigned (id : EnvironmentId) : Bool := id.number != 0

/-- The number in decimal digits. -/
def text (id : EnvironmentId) : String := toString id.number.toInt

instance : ToString EnvironmentId := ⟨text⟩

instance : Ord EnvironmentId := ⟨compareOn number⟩

instance : Std.TransOrd EnvironmentId := inferInstanceAs (Std.TransCmp (compareOn number))

instance : Std.LawfulEqOrd EnvironmentId where
  compare_self := Std.ReflOrd.compare_self
  eq_of_compare h := congrArg mk (Std.LawfulEqOrd.eq_of_compare h)

end EnvironmentId

/-- What a numeric code stands for. -/
inductive Coded where
  | kind
  | status
deriving DecidableEq, Repr

/-- A number that is the code of nothing. -/
structure UnknownCode where
  what : Coded
  code : Int
deriving DecidableEq, Repr

def UnknownCode.message (e : UnknownCode) : String :=
  match e.what with
  | .kind => s!"invalid environment type value: {e.code}"
  | .status => s!"invalid environment status value: {e.code}"

/-- What kind of target an environment is. -/
inductive EnvironmentKind where
  | docker
  | agentOnDocker
  | azure
  | edgeAgentOnDocker
  | kubernetesLocal
  | agentOnKubernetes
  | edgeAgentOnKubernetes
deriving DecidableEq, Repr

namespace EnvironmentKind

/-- Every kind, in the order of the codes. -/
def all : List EnvironmentKind :=
  [docker, agentOnDocker, azure, edgeAgentOnDocker, kubernetesLocal, agentOnKubernetes,
    edgeAgentOnKubernetes]

def name : EnvironmentKind → String
  | docker => "Docker"
  | agentOnDocker => "AgentOnDocker"
  | azure => "Azure"
  | edgeAgentOnDocker => "EdgeAgentOnDocker"
  | kubernetesLocal => "KubernetesLocal"
  | agentOnKubernetes => "AgentOnKubernetes"
  | edgeAgentOnKubernetes => "EdgeAgentOnKubernetes"

def code : EnvironmentKind → Int
  | docker => 1
  | agentOnDocker => 2
  | azure => 3
  | edgeAgentOnDocker => 4
  | kubernetesLocal => 5
  | agentOnKubernetes => 6
  | edgeAgentOnKubernetes => 7

def ofCode (n : Int) : Except UnknownCode EnvironmentKind :=
  match all.find? (fun k => k.code = n) with
  | some k => .ok k
  | none => .error ⟨.kind, n⟩

/-- Whether agents of the kind poll inward and need a tunnel. -/
def isEdge : EnvironmentKind → Bool
  | edgeAgentOnDocker | edgeAgentOnKubernetes => true
  | _ => false

theorem isEdge_iff {k : EnvironmentKind} : k.isEdge = true ↔ k = edgeAgentOnDocker ∨ k = edgeAgentOnKubernetes := by
  cases k <;> decide

theorem ofCode_code (k : EnvironmentKind) : ofCode k.code = .ok k := by cases k <;> rfl

end EnvironmentKind

/-- Whether an environment can be reached. -/
inductive EnvironmentStatus where
  | up
  | down
deriving DecidableEq, Repr, Inhabited

namespace EnvironmentStatus

/-- Every status, in the order of the codes. -/
def all : List EnvironmentStatus := [up, down]

def name : EnvironmentStatus → String
  | up => "Up"
  | down => "Down"

def code : EnvironmentStatus → Int
  | up => 1
  | down => 2

def ofCode (n : Int) : Except UnknownCode EnvironmentStatus :=
  match all.find? (fun s => s.code = n) with
  | some s => .ok s
  | none => .error ⟨.status, n⟩

theorem ofCode_code (s : EnvironmentStatus) : ofCode s.code = .ok s := by cases s <;> rfl

end EnvironmentStatus

/-- What an agent says about itself when it polls. -/
structure Agent where
  platform : String
  version : String
deriving DecidableEq, Repr

/-- The agent of which nothing is known. -/
def Agent.unknown : Agent := ⟨"", ""⟩

/-- How often an agent in asynchronous mode acts, in seconds. -/
structure Polling where
  asynchronous : Bool
  pingInterval : UInt32
  snapshotInterval : UInt32
  commandInterval : UInt32
deriving DecidableEq, Repr

def Polling.off : Polling := ⟨false, 0, 0, 0⟩

structure Environment where
  id : EnvironmentId
  name : String
  kind : EnvironmentKind
  /-- Where its host is. -/
  url : String
  /-- Where its exposed containers are reachable. -/
  publicUrl : String
  groupId : Int32
  status : EnvironmentStatus
  /-- Names its agent. -/
  edgeId : Option String
  /-- What its agent enrolls with. -/
  edgeKey : String
  /-- Seconds between two polls of its agent; zero stands for the server's setting. -/
  checkInInterval : UInt32
  /-- When its agent last polled, in seconds from the epoch. -/
  lastCheckIn : Int64
  agent : Agent
  polling : Polling
  isEdgeDevice : Bool
  userTrusted : Bool
deriving DecidableEq, Repr

namespace Environment

/-- An environment of a name and a kind, without a number and with nothing else set. -/
def fresh (name : String) (kind : EnvironmentKind) : Environment where
  id := .unassigned
  name := name
  kind := kind
  url := ""
  publicUrl := ""
  groupId := 1
  status := .up
  edgeId := none
  edgeKey := ""
  checkInInterval := 0
  lastCheckIn := 0
  agent := .unknown
  polling := .off
  isEdgeDevice := false
  userTrusted := false

/-- The edge id, unless it is empty. -/
def boundEdgeId? (e : Environment) : Option String := e.edgeId.filter (fun t => t ≠ "")

/-- The same record with an empty edge id taken away. -/
def normalize (e : Environment) : Environment := { e with edgeId := e.boundEdgeId? }

end Environment

end EdgeFleet
