import EdgeFleet.Proofs.Attempt
import EdgeFleet.Proofs.Table
import EdgeFleet.Tunnel.Coordinator
/-!
# What a step on tunnels does

For every step of the coordinator, each way in which it can end, with its guard and the state it
leaves (`Requiring`, `Activating`, `Extending`).
-/

namespace EdgeFleet

namespace Tunnel

def asked (t : Tunnel) (port : UInt16) (c : Credentials) : Tunnel :=
  { t with phase := .required, port := some port, credentials := some c }

/-- The tunnel open from an instant on, for some seconds. -/
def opened (t : Tunnel) (now : Instant) (seconds : Nat) (port : UInt16) : Tunnel :=
  { t with phase := .active (TunnelBoard.deadline now seconds), lastActivity := now, port := some port }

/-- The tunnel used at an instant while it was open until a deadline. -/
def used (t : Tunnel) (deadline now : Instant) (seconds : Nat) : Tunnel :=
  { t with phase := .active (max deadline (TunnelBoard.deadline now seconds)), lastActivity := now }

/-- What an operator sees of the tunnel and of some pending jobs. -/
def shown (t : Tunnel) (jobs : List Job) : TunnelDetails :=
  ⟨t.phase.status, .ofInstant t.lastActivity, t.port, jobs, t.credentials.map Credentials.token⟩

/-- The credentials that a tunnel gets when it is asked for, if the step is not cut off. -/
def credentialsAt? (t : Tunnel) (issuer : Issuer) (now : Instant) (id : EnvironmentId) : Option Credentials :=
  if now.isReadable then if t.hasFreshCredentials now then t.credentials else issuer.issue? now id else none

end Tunnel

namespace TunnelBoard

variable {b : TunnelBoard} {id : EnvironmentId} {t : Tunnel} {now : Instant}

/-! ## Writes to the board -/

theorem tunnel?_keep (b : TunnelBoard) (id i : EnvironmentId) (t : Tunnel) :
    (b.keep id t).tunnel? i = if i = id then some t else b.tunnel? i :=
  Table.get?_insert_eq b.tunnels i id t

@[simp] theorem tunnel?_keep_self (b : TunnelBoard) (id : EnvironmentId) (t : Tunnel) :
    (b.keep id t).tunnel? id = some t :=
  (b.tunnel?_keep id id t).trans (if_pos rfl)

/-- Keeping a tunnel as it is changes nothing. -/
theorem keep_of_tunnel? (h : b.tunnel? id = some t) : b.keep id t = b := by
  unfold keep
  rw [Table.insert_of_get? h]

/-- Of two tunnels kept for one environment the later counts. -/
theorem keep_keep (b : TunnelBoard) (id : EnvironmentId) (t u : Tunnel) : (b.keep id t).keep id u = b.keep id u := by
  have h : (b.tunnels.insert id t).insert id u = b.tunnels.insert id u := by
    refine Table.ext_get? (fun i => ?_)
    simp only [Table.get?_insert_eq]
    split <;> rfl
  unfold keep
  exact congrArg (fun l => { b with tunnels := l }) h

theorem tunnel?_close (b : TunnelBoard) (id i : EnvironmentId) :
    (b.close id).tunnel? i = if i = id then (b.tunnel? id).map Tunnel.closed else b.tunnel? i := by
  unfold close
  split
  · rename_i t h
    rw [h]
    exact Table.get?_insert_eq b.tunnels i id t.closed
  · rename_i h
    split
    · rename_i e; rw [e, h]; rfl
    · rfl

theorem tunnel?_drop (b : TunnelBoard) (id i : EnvironmentId) :
    (b.drop id).tunnel? i = if i = id then none else b.tunnel? i := by
  unfold drop
  split
  · exact Table.get?_erase_eq b.tunnels i id
  · rename_i h
    split
    · rename_i e; rw [e, h]
    · rfl

@[simp] theorem tunnel?_drop_self (b : TunnelBoard) (id : EnvironmentId) : (b.drop id).tunnel? id = none :=
  (b.tunnel?_drop id id).trans (if_pos rfl)

theorem status_of_tunnel? (h : b.tunnel? id = some t) : b.status id = t.phase.status := by
  unfold status
  rw [h]

theorem status_of_none (h : b.tunnel? id = none) : b.status id = .idle := by
  unfold status
  rw [h]

/-- The port of a tunnel, the one it holds or one lent to it, with the board after the lending. -/
def reserve? (b : TunnelBoard) (id : EnvironmentId) (t : Tunnel) : Option (UInt16 × TunnelBoard) :=
  match t.port with
  | some port => some (port, b)
  | none => (b.pool.lend id t.previousPort).map (fun p => (p.1, { b with pool := p.2 }))

theorem reserve?_keep (b : TunnelBoard) (id : EnvironmentId) (t : Tunnel) :
    (b.keep id t).reserve? id t = (b.reserve? id t).map (fun p => (p.1, p.2.keep id t)) := by
  unfold reserve?
  split
  · rfl
  · rw [Option.map_map]; rfl

/-- A tunnel that holds a port is lent none. -/
theorem reserve?_of_port {port : UInt16} (h : t.port = some port) : b.reserve? id t = some (port, b) := by
  unfold reserve?
  rw [h]

theorem tunnel?_of_reserve? {port : UInt16} {b' : TunnelBoard} (h : b.reserve? id t = some (port, b')) :
    b'.tunnel? = b.tunnel? := by
  unfold reserve? at h
  split at h
  · cases h
    rfl
  · obtain ⟨p, -, hp⟩ := Option.map_eq_some_iff.1 h
    cases hp
    rfl

/-- Whether a tunnel is the one that a step takes up: the one kept, or a fresh one where none is. -/
def Refers (b : TunnelBoard) (now : Instant) (id : EnvironmentId) (t : Tunnel) : Prop :=
  b.tunnel? id = some t ∨ b.tunnel? id = none ∧ now.isReadable = true ∧ t = .fresh now

end TunnelBoard

namespace Coordinator

open Attempt

variable {id : EnvironmentId} {s : Coordinator}

/-! ## Parts of steps -/

/-- Whether a look-up finds an environment known. -/
def sees (s : Coordinator) (id : EnvironmentId) : Bool := (s.census.lookUp id).1

def looked (s : Coordinator) (id : EnvironmentId) : Coordinator := { s with census := (s.census.lookUp id).2 }

def withBoard (s : Coordinator) (b : TunnelBoard) : Coordinator := { s with board := b }

@[simp] theorem board_withBoard (s : Coordinator) (b : TunnelBoard) : (s.withBoard b).board = b := rfl

@[simp] theorem withBoard_withBoard (s : Coordinator) (b b' : TunnelBoard) :
    (s.withBoard b).withBoard b' = s.withBoard b' := rfl

@[simp] theorem sees_withBoard (s : Coordinator) (b : TunnelBoard) (id : EnvironmentId) :
    (s.withBoard b).sees id = s.sees id := rfl

@[simp] theorem looked_withBoard (s : Coordinator) (b : TunnelBoard) (id : EnvironmentId) :
    (s.withBoard b).looked id = (s.looked id).withBoard b := rfl

@[simp] theorem board_looked (s : Coordinator) (id : EnvironmentId) : (s.looked id).board = s.board := rfl

@[simp] theorem run_lookUp (s : Coordinator) (id : EnvironmentId) :
    (lookUp id).run s = (.done (s.sees id), s.looked id) := rfl

theorem run_onBoard (f : TunnelBoard → TunnelBoard) (s : Coordinator) :
    (onBoard f).run s = (.done (), s.withBoard (f s.board)) := rfl

theorem contains_of_sees (h : s.sees id = true) : s.census.known.contains id = true := by
  unfold sees Census.lookUp at h
  split at h
  · exact h
  · cases h
  · exact h

theorem known_looked (s : Coordinator) (id : EnvironmentId) : (s.looked id).census.known = s.census.known := by
  simp only [looked, Census.lookUp]
  split <;> rfl

theorem run_ensureKnown (s : Coordinator) (id : EnvironmentId) :
    (ensureKnown id).run s =
      (if s.sees id then .done () else .refused (.unknownEnvironment id), s.looked id) := by
  unfold ensureKnown
  rw [run_bind_done (run_lookUp s id)]
  cases s.sees id <;> rfl

theorem run_settle (s : Coordinator) (id : EnvironmentId) :
    (settle id).run s =
      if s.sees id then (.done (), s.looked id)
      else (.refused (.unknownEnvironment id), (s.looked id).withBoard (s.board.drop id)) := by
  unfold settle
  rw [run_bind_done (run_lookUp s id)]
  cases s.sees id <;> rfl

theorem run_ensureKnown_of_sees (h : s.sees id = true) : (ensureKnown id).run s = (.done (), s.looked id) := by
  rw [run_ensureKnown, h]; rfl

theorem run_ensureKnown_of_not_sees (h : s.sees id = false) :
    (ensureKnown id).run s = (.refused (.unknownEnvironment id), s.looked id) := by
  rw [run_ensureKnown, h]; rfl

/-- The tunnel of an environment is the one that is kept, or a fresh one where the clock can be read. -/
theorem run_tunnelOf (s : Coordinator) (now : Instant) (id : EnvironmentId) :
    (tunnelOf now id).run s = (match s.board.tunnel? id with
      | some t => .done t
      | none => if now.isReadable then .done (.fresh now) else .crashed, s) := by
  unfold tunnelOf
  rw [run_bind_done (run_view _ s)]
  cases s.board.tunnel? id with
  | some t => rfl
  | none =>
    change (Tunnel.fresh <$> clock now : Step Tunnel).run s = _
    rw [run_map]
    cases hc : now.isReadable with
    | true => rw [run_clock_of_isReadable hc]; rfl
    | false => rw [run_clock_of_not_isReadable hc]; rfl

/-- A step takes up a tunnel, unless it would need a clock that cannot be read. -/
theorem run_refer (s : Coordinator) (now : Instant) (id : EnvironmentId) :
    (∃ t, s.board.Refers now id t ∧ (refer now id).run s = (.done t, s.withBoard (s.board.keep id t))) ∨
      (s.board.tunnel? id = none ∧ now.isReadable = false ∧ (refer now id).run s = (.crashed, s)) := by
  have hrun := run_tunnelOf s now id
  unfold refer
  cases ht : s.board.tunnel? id with
  | some t =>
    rw [ht] at hrun
    refine .inl ⟨t, .inl ht, ?_⟩
    rw [run_bind_done hrun]
    rfl
  | none =>
    rw [ht] at hrun
    cases hc : now.isReadable with
    | true =>
      rw [hc] at hrun
      refine .inl ⟨.fresh now, .inr ⟨ht, hc, rfl⟩, ?_⟩
      rw [run_bind_done hrun]
      rfl
    | false =>
      rw [hc] at hrun
      refine .inr ⟨rfl, rfl, ?_⟩
      rw [run_bind_crashed hrun]

theorem run_reserve (s : Coordinator) (id : EnvironmentId) (t : Tunnel) :
    (reserve id t).run s = match s.board.reserve? id t with
      | some (port, b) => (.done port, s.withBoard b)
      | none => (.refused (.noFreePort s.board.pool.range), s) := by
  change reserve id t s = _
  unfold reserve TunnelBoard.reserve?
  cases t.port with
  | some port => rfl
  | none => cases s.board.pool.lend id t.previousPort <;> rfl

theorem run_credentialsFor (issuer : Issuer) (now : Instant) (id : EnvironmentId) (t : Tunnel) (s : Coordinator) :
    (credentialsFor issuer now id t).run s = match t.credentialsAt? issuer now id with
      | some c => (.done (some c), s)
      | none => (.crashed, s) := by
  unfold credentialsFor Tunnel.credentialsAt?
  cases hc : now.isReadable with
  | false => rw [run_bind_crashed (run_clock_of_not_isReadable hc s)]; rfl
  | true =>
    rw [run_bind_done (run_clock_of_isReadable hc s)]
    cases hf : t.hasFreshCredentials now with
    | true =>
      cases hcr : t.credentials with
      | some c => rfl
      | none => simp [Tunnel.hasFreshCredentials, hcr] at hf
    | false => cases issuer.issue? now id <;> rfl

/-! ## How steps end -/

/-- The ends of asking for a tunnel. -/
inductive Requiring (issuer : Issuer) (now : Instant) (id : EnvironmentId) (s : Coordinator) :
    Outcome TunnelError Unit × Coordinator → Prop
  | unknown (hs : s.sees id = false) :
      Requiring issuer now id s (.refused (.unknownEnvironment id), s.looked id)
  /-- No tunnel is kept, and a fresh one would need a clock that cannot be read. -/
  | unread (hs : s.sees id = true) (ht : s.board.tunnel? id = none) (hc : now.isReadable = false) :
      Requiring issuer now id s (.crashed, s.looked id)
  /-- The tunnel is asked for already. -/
  | standing {t : Tunnel} (hs : s.sees id = true) (ht : s.board.tunnel? id = some t) (hp : t.phase = .required) :
      Requiring issuer now id s (.done (), s.looked id)
  | exhausted {t : Tunnel} (hs : s.sees id = true) (ht : s.board.Refers now id t) (hp : t.phase ≠ .required)
      (hr : s.board.reserve? id t = none) :
      Requiring issuer now id s
        (.refused (.noFreePort s.board.pool.range), (s.looked id).withBoard (s.board.keep id t))
  /-- The port is lent, but the credentials that go with it cannot be made. -/
  | cutOff {t : Tunnel} {port : UInt16} {b : TunnelBoard} (hs : s.sees id = true)
      (ht : s.board.Refers now id t) (hp : t.phase ≠ .required) (hr : s.board.reserve? id t = some (port, b))
      (hc : t.credentialsAt? issuer now id = none) :
      Requiring issuer now id s (.crashed, (s.looked id).withBoard (b.keep id t))
  /-- The environment is known at the first look-up and not at the second. -/
  | forgotten {t : Tunnel} {port : UInt16} {b : TunnelBoard} {c : Credentials} (hs : s.sees id = true)
      (ht : s.board.Refers now id t) (hp : t.phase ≠ .required) (hr : s.board.reserve? id t = some (port, b))
      (hc : t.credentialsAt? issuer now id = some c) (hs' : (s.looked id).sees id = false) :
      Requiring issuer now id s
        (.refused (.unknownEnvironment id),
          ((s.looked id).looked id).withBoard ((b.keep id (t.asked port c)).drop id))
  | asked {t : Tunnel} {port : UInt16} {b : TunnelBoard} {c : Credentials} (hs : s.sees id = true)
      (ht : s.board.Refers now id t) (hp : t.phase ≠ .required) (hr : s.board.reserve? id t = some (port, b))
      (hc : t.credentialsAt? issuer now id = some c) (hs' : (s.looked id).sees id = true) :
      Requiring issuer now id s
        (.done (), ((s.looked id).looked id).withBoard (b.keep id (t.asked port c)))

theorem requiring (issuer : Issuer) (now : Instant) (id : EnvironmentId) (s : Coordinator) :
    Requiring issuer now id s ((require issuer now id).run s) := by
  unfold require
  cases hs : s.sees id with
  | false =>
    rw [run_bind_refused (run_ensureKnown_of_not_sees hs)]
    exact .unknown hs
  | true =>
    rw [run_bind_done (run_ensureKnown_of_sees hs)]
    rcases run_refer (s.looked id) now id with ⟨t, ht, hr⟩ | ⟨hn, hc, hr⟩
    · rw [run_bind_done hr]
      by_cases hp : t.phase = .required
      · rw [if_pos hp]
        rcases ht with ht | ⟨-, -, rfl⟩
        · rw [TunnelBoard.keep_of_tunnel? ht]
          exact .standing hs ht hp
        · cases hp
      · rw [if_neg hp]
        have hres := run_reserve ((s.looked id).withBoard (s.board.keep id t)) id t
        rw [board_withBoard, TunnelBoard.reserve?_keep] at hres
        cases hb : s.board.reserve? id t with
        | none =>
          rw [hb] at hres
          rw [board_looked, run_bind_refused hres]
          exact .exhausted hs ht hp hb
        | some p =>
          obtain ⟨port, b⟩ := p
          rw [hb] at hres
          rw [board_looked, run_bind_done hres]
          have hcr := run_credentialsFor issuer now id t ((s.looked id).withBoard (b.keep id t))
          cases hcc : t.credentialsAt? issuer now id with
          | none =>
            rw [hcc] at hcr
            rw [withBoard_withBoard, run_bind_crashed hcr]
            exact .cutOff hs ht hp hb hcc
          | some c =>
            rw [hcc] at hcr
            rw [withBoard_withBoard, run_bind_done hcr, run_bind_done (run_onBoard _ _), run_settle]
            -- What was kept between the first and the last write is written over.
            have hk : (b.keep id t).keep id (t.asked port c) = b.keep id (t.asked port c) :=
              TunnelBoard.keep_keep b id t _
            cases hs' : (s.looked id).sees id with
            | true =>
              rw [if_pos (by exact hs')]
              exact hk ▸ .asked hs ht hp hb hcc hs'
            | false =>
              rw [if_neg (by rw [Bool.not_eq_true]; exact hs')]
              exact hk ▸ .forgotten hs ht hp hb hcc hs'
    · rw [run_bind_crashed hr]
      exact .unread hs hn hc

/-- The ends of marking a tunnel as open. -/
inductive Activating (now : Instant) (id : EnvironmentId) (s : Coordinator) :
    Outcome TunnelError Unit × Coordinator → Prop
  | unknown (hs : s.sees id = false) : Activating now id s (.refused (.unknownEnvironment id), s.looked id)
  | unread (hs : s.sees id = true) (hc : now.isReadable = false) : Activating now id s (.crashed, s.looked id)
  | exhausted {t : Tunnel} (hs : s.sees id = true) (hc : now.isReadable = true)
      (ht : s.board.Refers now id t) (hr : s.board.reserve? id t = none) :
      Activating now id s
        (.refused (.noFreePort s.board.pool.range), (s.looked id).withBoard (s.board.keep id t))
  /-- The environment is known at the first look-up and not at the second. -/
  | forgotten {t : Tunnel} {port : UInt16} {b : TunnelBoard} (hs : s.sees id = true)
      (hc : now.isReadable = true) (ht : s.board.Refers now id t) (hr : s.board.reserve? id t = some (port, b))
      (hs' : (s.looked id).sees id = false) :
      Activating now id s
        (.refused (.unknownEnvironment id),
          ((s.looked id).looked id).withBoard ((b.keep id (t.opened now b.keepAlive port)).drop id))
  | opened {t : Tunnel} {port : UInt16} {b : TunnelBoard} (hs : s.sees id = true)
      (hc : now.isReadable = true) (ht : s.board.Refers now id t) (hr : s.board.reserve? id t = some (port, b))
      (hs' : (s.looked id).sees id = true) :
      Activating now id s
        (.done (), ((s.looked id).looked id).withBoard
          { b.keep id (t.opened now b.keepAlive port) with activations := b.activations + 1 })

theorem activating (now : Instant) (id : EnvironmentId) (s : Coordinator) :
    Activating now id s ((activate now id).run s) := by
  unfold activate
  cases hs : s.sees id with
  | false =>
    rw [run_bind_refused (run_ensureKnown_of_not_sees hs)]
    exact .unknown hs
  | true =>
    rw [run_bind_done (run_ensureKnown_of_sees hs)]
    cases hc : now.isReadable with
    | false =>
      rw [run_bind_crashed (run_clock_of_not_isReadable hc _)]
      exact .unread hs hc
    | true =>
      rw [run_bind_done (run_clock_of_isReadable hc _)]
      rcases run_refer (s.looked id) now id with ⟨t, ht, hr⟩ | ⟨-, hc', -⟩
      · rw [run_bind_done hr]
        have hres := run_reserve ((s.looked id).withBoard (s.board.keep id t)) id t
        rw [board_withBoard, TunnelBoard.reserve?_keep] at hres
        cases hb : s.board.reserve? id t with
        | none =>
          rw [hb] at hres
          rw [board_looked, run_bind_refused hres]
          exact .exhausted hs hc ht hb
        | some p =>
          obtain ⟨port, b⟩ := p
          rw [hb] at hres
          rw [board_looked, run_bind_done hres, withBoard_withBoard, run_bind_done (run_onBoard _ _)]
          have hk : (b.keep id t).keep id (t.opened now b.keepAlive port) =
              b.keep id (t.opened now b.keepAlive port) := TunnelBoard.keep_keep b id t _
          cases hs' : (s.looked id).sees id with
          | true =>
            rw [run_bind_done ((run_settle _ _).trans (if_pos (by exact hs'))), run_onBoard]
            exact hk ▸ .opened hs hc ht hb hs'
          | false =>
            rw [run_bind_refused ((run_settle _ _).trans (if_neg (by rw [Bool.not_eq_true]; exact hs')))]
            exact hk ▸ .forgotten hs hc ht hb hs'
      · rw [hc] at hc'; cases hc'

/-- The ends of keeping a tunnel alive. -/
inductive Extending (now : Instant) (id : EnvironmentId) (seconds : Nat) (s : Coordinator) :
    Outcome TunnelError Bool × Coordinator → Prop
  | unknown (hs : s.sees id = false) : Extending now id seconds s (.refused (.unknownEnvironment id), s.looked id)
  | inactive (hs : s.sees id = true)
      (ht : ∀ t deadline, s.board.tunnel? id = some t → t.phase ≠ .active deadline) :
      Extending now id seconds s (.done false, s.looked id)
  | unread {t : Tunnel} {deadline : Instant} (hs : s.sees id = true) (ht : s.board.tunnel? id = some t)
      (hp : t.phase = .active deadline) (hc : now.isReadable = false) :
      Extending now id seconds s (.crashed, s.looked id)
  | extended {t : Tunnel} {deadline : Instant} (hs : s.sees id = true) (ht : s.board.tunnel? id = some t)
      (hp : t.phase = .active deadline) (hc : now.isReadable = true) :
      Extending now id seconds s
        (.done true, (s.looked id).withBoard (s.board.keep id (t.used deadline now seconds)))

theorem extending (now : Instant) (id : EnvironmentId) (seconds : Nat) (s : Coordinator) :
    Extending now id seconds s ((keepAlive now id seconds).run s) := by
  unfold keepAlive
  cases hs : s.sees id with
  | false =>
    rw [run_bind_refused (run_ensureKnown_of_not_sees hs)]
    exact .unknown hs
  | true =>
    rw [run_bind_done (run_ensureKnown_of_sees hs), run_bind_done (run_view _ _), board_looked]
    cases ht : s.board.tunnel? id with
    | none => exact .inactive hs (fun t deadline h => by rw [ht] at h; cases h)
    | some t =>
      cases hp : t.phase with
      | active deadline =>
        simp only [hp]
        cases hc : now.isReadable with
        | false =>
          rw [run_bind_crashed (run_clock_of_not_isReadable hc _)]
          exact .unread hs ht hp hc
        | true =>
          rw [run_bind_done (run_clock_of_isReadable hc _), run_bind_done (run_onBoard _ _)]
          exact .extended hs ht hp hc
      | _ =>
        simp only [hp]
        refine .inactive hs (fun u deadline h hu => ?_)
        rw [ht] at h
        cases h
        rw [hp] at hu
        cases hu

theorem run_stop (s : Coordinator) (id : EnvironmentId) :
    (stop id).run s =
      if s.sees id then (.done (), (s.looked id).withBoard (s.board.close id))
      else (.refused (.unknownEnvironment id), s.looked id) := by
  unfold stop
  cases hs : s.sees id with
  | false => rw [run_bind_refused (run_ensureKnown_of_not_sees hs)]; rfl
  | true => rw [run_bind_done (run_ensureKnown_of_sees hs)]; rfl

theorem run_status (s : Coordinator) (id : EnvironmentId) :
    (status id).run s =
      (if s.sees id then .done (s.board.status id) else .refused (.unknownEnvironment id), s.looked id) := by
  unfold status
  cases hs : s.sees id with
  | false => rw [run_bind_refused (run_ensureKnown_of_not_sees hs)]; rfl
  | true => rw [run_bind_done (run_ensureKnown_of_sees hs)]; rfl

theorem run_status_of_sees (h : s.sees id = true) : (status id).run s = (.done (s.board.status id), s.looked id) := by
  rw [run_status, h]; rfl

theorem run_status_of_not_sees (h : s.sees id = false) :
    (status id).run s = (.refused (.unknownEnvironment id), s.looked id) := by
  rw [run_status, h]; rfl

/-- The details of a tunnel that is kept; they are told without a look at the clock. -/
theorem run_details_of_tunnel? {t : Tunnel} (now : Instant) (hs : s.sees id = true)
    (ht : s.board.tunnel? id = some t) :
    (details now id).run s = (.done (t.shown (s.jobs.pending id)), s.looked id) := by
  have htunnel := run_tunnelOf (s.looked id) now id
  rw [board_looked, ht] at htunnel
  unfold details
  rw [run_bind_done (run_ensureKnown_of_sees hs), run_bind_done htunnel]
  rfl

theorem snd_run_tunnelOf (now : Instant) (s : Coordinator) (id : EnvironmentId) : ((tunnelOf now id).run s).2 = s := by
  rw [run_tunnelOf]

theorem snd_run_details (now : Instant) (s : Coordinator) (id : EnvironmentId) :
    ((details now id).run s).2 = s.looked id := by
  unfold details
  cases hs : s.sees id with
  | false => rw [run_bind_refused (run_ensureKnown_of_not_sees hs)]
  | true =>
    rw [run_bind_done (run_ensureKnown_of_sees hs)]
    have htunnel := snd_run_tunnelOf now (s.looked id) id
    rw [run_bind]
    rcases htr : (tunnelOf now id).run (s.looked id) with ⟨_ | _ | _, s'⟩ <;> rw [htr] at htunnel <;>
      exact htunnel

/-- The details of a tunnel tell what is pending, whatever tunnel there is. -/
theorem jobs_of_details {now : Instant} {id : EnvironmentId} {s s' : Coordinator} {d : TunnelDetails}
    (h : (details now id).run s = (.done d, s')) : d.jobs = s.jobs.pending id := by
  unfold details at h
  cases hs : s.sees id with
  | false =>
    rw [run_bind_refused (run_ensureKnown_of_not_sees hs)] at h
    cases h
  | true =>
    rw [run_bind_done (run_ensureKnown_of_sees hs)] at h
    obtain ⟨t, s₁, ht, h⟩ := run_bind_eq_done h
    have hs₁ : s.looked id = s₁ := (snd_run_tunnelOf now (s.looked id) id).symm.trans (congrArg Prod.snd ht)
    cases h
    rw [← hs₁]
    rfl

end Coordinator

end EdgeFleet
