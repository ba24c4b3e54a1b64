import EdgeFleet.Service
/-!
# Replies of scripts

What the operations of a script answer, and why they refuse.
-/

namespace EdgeFleet

namespace Script

/-- Why an operation refuses. -/
inductive Refusal where
  | tunnel (cause : TunnelError)
  | noFreePort (range : PortRange)
  | credentials (cause : CredentialError)
  | service (cause : ServiceError)
  | store (cause : StoreError)
  | database (fault : DatabaseFault)
deriving DecidableEq, Repr

def Refusal.message : Refusal → String
  | tunnel cause => cause.message
  | noFreePort range => PortPool.exhausted range
  | credentials cause => cause.message
  | service cause => cause.message
  | store cause => cause.message
  | database fault => fault.message

/-- What an operation answers. -/
inductive Reply where
  | nothing
  | flag (b : Bool)
  | number (n : Int)
  | text (t : String)
  | status (s : TunnelStatus)
  | details (d : TunnelDetails)
  | ids (ids : List EnvironmentId)
  | jobs (jobs : List Job)
  | issued (c : Credentials) (isExpired : Bool) (validity : Span)
  | verified (c : Claims) (isExpired : Bool)
  | claims (c : Claims)
  | environment (e : Environment)
  | environments (es : List Environment)
  | poll (a : PollAnswer)
  | enrollmentKey (k : EnrollmentKey)
  | settings (s : Settings)

/-- Nothing, or a reply. -/
def Reply.ofOption {β : Type} (reply : β → Reply) : Option β → Reply
  | some b => reply b
  | none => .nothing

end Script

end EdgeFleet
