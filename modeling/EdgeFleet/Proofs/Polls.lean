import EdgeFleet.Proofs.Conflicts
import EdgeFleet.Proofs.Expiry
import EdgeFleet.Proofs.Reports
/-!
# What a poll does

The answered poll of an agent is one equation: what the service is afterwards, and what it answers, are
computed from the row and the tunnel of the environment (`EnvironmentRow.polled`, `TunnelBoard.polled`). Where
the parts of the service agree, a poll is refused only if its edge id belongs to nobody, and cut off only if
the clock cannot be read. What it does to a row or a tunnel it does once: polling again at the same instant
changes nothing.
-/

namespace EdgeFleet

namespace Instant

variable {t u : Instant}

theorem eq_of_nanos (h : t.nanos = u.nanos) : t = u := by
  cases t
  cases u
  exact congrArg mk h

theorem max_max_right (t u : Instant) : max (max t u) u = max t u := by
  apply eq_of_nanos
  rw [nanos_max, nanos_max]
  omega

theorem max_self (t : Instant) : max t t = t := by
  apply eq_of_nanos
  rw [nanos_max]
  omega

end Instant

/-! ## Rows -/

namespace EnvironmentRow

def agent (row : EnvironmentRow) : Agent := ⟨row.agentPlatform, row.agentVersion⟩

/-- The row after a poll: an agent that describes itself anew is stored, with the time of the poll. -/
def polled (row : EnvironmentRow) (now : Instant) (agent : Option Agent) : EnvironmentRow :=
  match agent with
  | some a =>
    if a = row.agent then row
    else { row with agentPlatform := a.platform, agentVersion := a.version, lastCheckIn := .whole now.seconds }
  | none => row

theorem polled_polled (row : EnvironmentRow) (now : Instant) (agent : Option Agent) :
    (row.polled now agent).polled now agent = row.polled now agent := by
  cases agent with
  | none => rfl
  | some a =>
    by_cases ha : a = row.agent
    · simp only [polled, if_pos ha]
    · simp only [polled, if_neg ha]
      exact if_pos rfl

end EnvironmentRow

namespace Environment

variable {now : Instant} {agent : Option Agent}

/-- The record after a poll. -/
def polled (e : Environment) (now : Instant) (agent : Option Agent) : Environment :=
  match agent.filter (fun a => a ≠ e.agent) with
  | some a => Registry.polled e a now
  | none => e

theorem polled_of_news {e : Environment} {a : Agent} (ha : agent.filter (fun a => a ≠ e.agent) = some a) :
    e.polled now agent = Registry.polled e a now := by
  unfold polled
  rw [ha]

theorem polled_of_no_news {e : Environment} (ha : agent.filter (fun a => a ≠ e.agent) = none) :
    e.polled now agent = e := by
  unfold polled
  rw [ha]

/-- What an agent says is no news after it was stored. -/
theorem no_news_of_polled (e : Environment) (now : Instant) (agent : Option Agent) :
    agent.filter (fun a => a ≠ (e.polled now agent).agent) = none := by
  cases ha : agent.filter (fun a => a ≠ e.agent) with
  | none => rw [polled_of_no_news ha, ha]
  | some a =>
    obtain ⟨rfl, -⟩ := Option.filter_eq_some_iff.1 ha
    rw [polled_of_news ha]
    simp [Registry.polled]

/-- Only the agent and the time of the contact may be others. -/
theorem polled_eq (e : Environment) (now : Instant) (agent : Option Agent) :
    ∃ agent' lastCheckIn, e.polled now agent = { e with agent := agent', lastCheckIn } := by
  cases ha : agent.filter (fun a => a ≠ e.agent) with
  | none => exact ⟨e.agent, e.lastCheckIn, polled_of_no_news ha⟩
  | some a => exact ⟨a, _, polled_of_news ha⟩

theorem stored_polled {e : Environment} (h : e.stored = e) (now : Instant) (agent : Option Agent) :
    (e.polled now agent).stored = e.polled now agent := by
  obtain ⟨agent', lastCheckIn, he⟩ := e.polled_eq now agent
  rw [he]
  exact congrArg (fun x : Environment => { x with agent := agent', lastCheckIn }) h

end Environment

/-- The row of the record after a poll. -/
theorem EnvironmentRow.ofEnvironment_polled (e : Environment) {now : Instant} (hc : now.isReadable = true)
    (agent : Option Agent) : ofEnvironment (e.polled now agent) = (ofEnvironment e).polled now agent := by
  cases ha : agent.filter (fun a => a ≠ e.agent) with
  | none =>
    rw [Environment.polled_of_no_news ha]
    rw [Option.filter_eq_none_iff] at ha
    cases agent with
    | none => rfl
    | some a =>
      have hsame : a = e.agent := by simpa using ha a rfl
      exact (if_pos hsame).symm
  | some a =>
    rw [Environment.polled_of_news ha]
    obtain ⟨rfl, hne⟩ := Option.filter_eq_some_iff.1 ha
    have hnews : ¬ a = e.agent := by simpa using hne
    refine Eq.trans ?_ (if_neg hnews).symm
    rw [← Instant.toInt_seconds hc]
    rfl

/-! ## Tunnels -/

namespace Tunnel

open Coordinator (termEnd)

/-- The tunnel after a poll, with a keep-alive of some seconds: one that was asked for is open until a term of these
seconds ends, and one that is open stays so till then at least. -/
def polled (t : Tunnel) (now : Instant) (seconds : Nat) : Tunnel :=
  match t.phase with
  | .idle => t
  | .required => { t with phase := .active (termEnd now seconds), lastActivity := now }
  | .active deadline => { t with phase := .active (max deadline (termEnd now seconds)), lastActivity := now }

theorem polled_polled (t : Tunnel) (now : Instant) (seconds : Nat) :
    (t.polled now seconds).polled now seconds = t.polled now seconds := by
  cases hp : t.phase with
  | idle => simp only [polled, hp]
  | required => simp only [polled, hp, Instant.max_self]
  | active deadline => simp only [polled, hp, Instant.max_max_right]

theorem phase_polled_ne_required (t : Tunnel) (now : Instant) (seconds : Nat) :
    (t.polled now seconds).phase ≠ .required := by
  unfold polled
  cases hp : t.phase <;> simp [hp]

end Tunnel

namespace TunnelBoard

variable {b : TunnelBoard} {id : EnvironmentId} {t : Tunnel} {now : Instant}

/-- The board after a poll. An opened tunnel is announced to those who wait for it. -/
def polled (b : TunnelBoard) (now : Instant) (id : EnvironmentId) : TunnelBoard :=
  match b.tunnel? id with
  | some t =>
    { b.keep id (t.polled now b.keepAlive) with
      activations := if t.phase = .required then b.activations + 1 else b.activations }
  | none => b

theorem polled_of_none (h : b.tunnel? id = none) (now : Instant) : b.polled now id = b := by
  unfold polled
  rw [h]

theorem polled_of_tunnel? (h : b.tunnel? id = some t) (now : Instant) :
    b.polled now id =
      { b.keep id (t.polled now b.keepAlive) with
        activations := if t.phase = .required then b.activations + 1 else b.activations } := by
  unfold polled
  rw [h]

theorem tunnel?_polled (b : TunnelBoard) (now : Instant) (id i : EnvironmentId) :
    (b.polled now id).tunnel? i = if i = id then (b.tunnel? id).map (·.polled now b.keepAlive) else b.tunnel? i := by
  cases ht : b.tunnel? id with
  | none =>
    rw [polled_of_none ht]
    split
    · rename_i hi
      rw [hi, ht]
      rfl
    · rfl
  | some t =>
    rw [polled_of_tunnel? ht]
    exact b.tunnel?_keep id i (t.polled now b.keepAlive)

theorem polled_polled (b : TunnelBoard) (now : Instant) (id : EnvironmentId) :
    (b.polled now id).polled now id = b.polled now id := by
  cases ht : b.tunnel? id with
  | none => rw [polled_of_none ht, polled_of_none ht]
  | some t =>
    have htunnel := b.tunnel?_polled now id id
    rw [if_pos rfl, ht, Option.map_some] at htunnel
    have hkeep : (b.polled now id).keepAlive = b.keepAlive := by rw [polled_of_tunnel? ht]; rfl
    rw [polled_of_tunnel? htunnel, hkeep, t.polled_polled, keep_of_tunnel? htunnel,
      if_neg (t.phase_polled_ne_required now b.keepAlive)]

end TunnelBoard

namespace Coordinator

open Attempt

variable {id : EnvironmentId} {s : Coordinator} {t : Tunnel} {now : Instant}

/-- The details of an environment for which no tunnel is kept are those of a fresh one. -/
theorem run_details_of_none (hs : s.sees id = true) (ht : s.board.tunnel? id = none) (hc : now.isReadable = true) :
    (details now id).run s = (.done ((Tunnel.fresh now).shown (s.jobs.pending id)), s.looked id) := by
  have htunnel := run_tunnelOf (s.looked id) now id
  rw [board_looked, ht, hc] at htunnel
  unfold details
  rw [run_bind_done (run_ensureKnown_of_sees hs), run_bind_done htunnel]
  rfl

/-- Opening a tunnel that holds a port. -/
theorem run_activate_of_port {port : UInt16} (hs : s.sees id = true) (hs' : (s.looked id).sees id = true)
    (hc : now.isReadable = true) (ht : s.board.tunnel? id = some t) (hp : t.port = some port) :
    (activate now id).run s = (.done (), ((s.looked id).looked id).withBoard
      { s.board.keep id (t.opened now s.board.keepAlive port) with activations := s.board.activations + 1 }) := by
  have hres : s.board.reserve? id t = some (port, s.board) := TunnelBoard.reserve?_of_port hp
  have hrefers : ∀ {u}, s.board.Refers now id u → u = t := by
    rintro u (hu | ⟨hu, -⟩)
    · exact Option.some.inj (hu.symm.trans ht)
    · rw [ht] at hu
      cases hu
  have ha := activating now id s
  generalize (activate now id).run s = r at ha
  cases ha with
  | unknown h => rw [hs] at h; cases h
  | unread _ h => rw [hc] at h; cases h
  | exhausted _ _ hu hr =>
    rw [hrefers hu, hres] at hr
    cases hr
  | forgotten _ _ _ _ h => rw [hs'] at h; cases h
  | opened _ _ hu hr _ =>
    obtain rfl := hrefers hu
    rw [hres] at hr
    cases hr
    rfl

theorem run_keepAlive_of_active {deadline : Instant} (hs : s.sees id = true) (hc : now.isReadable = true)
    (ht : s.board.tunnel? id = some t) (hp : t.phase = .active deadline) (seconds : Nat) :
    (keepAlive now id seconds).run s =
      (.done true, (s.looked id).withBoard (s.board.keep id (t.used deadline now seconds))) := by
  have he := extending now id seconds s
  generalize (keepAlive now id seconds).run s = r at he
  cases he with
  | unknown h => rw [hs] at h; cases h
  | inactive _ h => exact absurd hp (h t deadline ht)
  | unread _ _ _ h => rw [hc] at h; cases h
  | extended _ hu hd _ =>
    cases hu.symm.trans ht
    cases hd.symm.trans hp
    rfl

end Coordinator

namespace EnvironmentTable

variable {t : EnvironmentTable} {e : Environment} {id : EnvironmentId}

/-- The row of a record that was read is the one that is written for it. -/
theorem Written.row_of_record? (h : t.Written) (hr : t.record? id = some e) :
    t.row? id = some (.ofEnvironment e) ∧ e.stored = e := by
  obtain ⟨e', hrow, hrecord⟩ := h.row?_eq_some (h.of_record? hr).1
  cases hr.symm.trans hrecord
  have hstored := e'.stored_withId id
  refine ⟨?_, hstored⟩
  rw [hrow, ← EnvironmentRow.ofEnvironment_stored e']
  rfl

/-- A poll does not make the row of a record clash with others. -/
theorem collides_polled (t : EnvironmentTable) (e : Environment) (n : Int) (now : Instant) (agent : Option Agent) :
    t.collides n (.ofEnvironment (e.polled now agent)) = t.collides n (.ofEnvironment e) := by
  obtain ⟨agent', lastCheckIn, he⟩ := e.polled_eq now agent
  have hsame :
      (EnvironmentRow.ofEnvironment (e.polled now agent)).edgeId = (EnvironmentRow.ofEnvironment e).edgeId := by
    rw [he]
    rfl
  unfold collides
  rw [hsame]

/-- Writing the row that is there changes nothing. -/
theorem withRow_of_row? {row : EnvironmentRow} (h : t.row? id = some row) : t.withRow id row = t := by
  unfold withRow
  rw [Table.insert_of_get? h]

/-- A row that clashes with no other one does not come to clash by being written. -/
theorem collides_withRow (t : EnvironmentTable) {row : EnvironmentRow} (h : t.collides id.number.toInt row = false) :
    (t.withRow id row).collides id.number.toInt row = false := by
  rw [collides_eq_false_iff] at h ⊢
  intro hindex edgeId he m row' hr he'
  unfold withRow at hr
  rw [Table.get?_insert_eq] at hr
  split at hr
  · assumption
  · exact h hindex edgeId he m row' hr he'

end EnvironmentTable

namespace Registry

open Attempt

variable {r : Registry} {t : EnvironmentTable} {e : Environment} {id : EnvironmentId} {now : Instant}

/-! ## Contacts -/

/-- The registry with a row in place of another one. -/
def withRow (r : Registry) (id : EnvironmentId) (row : EnvironmentRow) : Registry :=
  r.withStore { r.store with
    database := { r.store.database with environments := r.store.database.environments.map (·.withRow id row) } }

theorem withRow_of_row? {row : EnvironmentRow} (hd : r.store.database.environments = some t)
    (hrow : t.row? id = some row) : r.withRow id row = r := by
  unfold withRow
  rw [hd, Option.map_some, EnvironmentTable.withRow_of_row? hrow, ← hd]
  rfl

theorem hear_of_heartbeat? (h : r.heartbeat? id = some (Int64.ofInt now.seconds)) : r.hear now id = r :=
  congrArg (fun heartbeats => { r with heartbeats }) (Table.insert_of_get? h)

/-- The row of a record is put in place of another one whose edge id it does not clash with. -/
theorem run_save_of_serves {e' : Environment} (hd : r.store.database.environments = some t) (h : t.Written)
    (hs : r.store.Serves .save) (hrow : t.row? e.id = some (.ofEnvironment e'))
    (hapart : t.collides e.id.number.toInt (.ofEnvironment e) = false) :
    (onStore (Gateway.save e)).run r = (.done e.stored, r.withRow e.id (.ofEnvironment e)) := by
  have hid : t.holds e.id = true := Table.contains_iff.2 ⟨_, hrow⟩
  have hcall := run_onStore_of_serves hs (Database.save e)
  rw [Database.run_save hd h, if_pos hid, Database.run_replace hd hrow,
    if_neg (by rw [hapart]; exact nofun)] at hcall
  refine hcall.trans ?_
  unfold withRow
  rw [hd]
  rfl

theorem withRow_hear (r : Registry) (id i : EnvironmentId) (now : Instant) (row : EnvironmentRow) :
    (r.hear now i).withRow id row = (r.withRow id row).hear now i := rfl

theorem checkInInterval_overlay (r : Registry) (e : Environment) :
    (r.overlay e).checkInInterval = e.checkInInterval := by
  unfold overlay
  split <;> rfl

/-- A recorded poll that comes through. -/
theorem run_recordPoll {agent : Option Agent} (hd : r.store.database.environments = some t) (h : t.Written)
    (hrecord : t.record? id = some e) (hapart : t.collides id.number.toInt (.ofEnvironment e) = false)
    (hread : r.store.Serves .environment) (hsave : agent.filter (fun a => a ≠ e.agent) ≠ none → r.store.Serves .save)
    (hc : now.isReadable = true) :
    ∃ e', (recordPoll now id agent).run r =
      (.done e', (r.withRow id (.ofEnvironment (e.polled now agent))).hear now id) ∧
      e'.checkInInterval = e.checkInInterval := by
  obtain ⟨hrow, hstored⟩ := h.row_of_record? hrecord
  have hcall : (onStore (Gateway.environment? id)).run r = (.done (some e), r) := by
    rw [← hrecord]
    exact run_environment?_of_serves hd h hread id
  unfold recordPoll
  rw [run_bind_done hcall]
  dsimp only
  rw [run_bind_done (run_clock_of_isReadable hc _), run_bind_done (run_change _ _)]
  cases ha : agent.filter (fun a => a ≠ e.agent) with
  | none =>
    rw [Environment.polled_of_no_news ha, withRow_of_row? hd hrow]
    exact ⟨_, rfl, checkInInterval_overlay _ _⟩
  | some a =>
    have hsaved : (onStore (Gateway.save (polled e a now))).run (r.hear now id) =
        (.done (polled e a now).stored, (r.withRow id (.ofEnvironment (polled e a now))).hear now id) := by
      have hserves : (r.hear now id).store.Serves .save := hsave (by rw [ha]; exact Option.some_ne_none a)
      have hid : (polled e a now).id = id := (h.of_record? hrecord).2.1
      rw [← t.collides_polled e _ now agent, Environment.polled_of_news ha, ← hid] at hapart
      rw [← hid] at hrow
      have hrun := run_save_of_serves (r := r.hear now id) hd h hserves hrow hapart
      rw [withRow_hear] at hrun
      exact hid ▸ hrun
    have hinterval : e.stored.checkInInterval = e.checkInInterval := congrArg _ hstored
    rw [Environment.polled_of_news ha]
    exact ⟨_, run_bind_done hsaved, (checkInInterval_overlay _ _).trans hinterval⟩

end Registry

namespace Service

open Attempt

variable {s s₀ : Service} {t : EnvironmentTable} {e : Environment} {id : EnvironmentId} {now : Instant}
  {edgeId : String} {agent : Option Agent}

/-! ## Polls -/

/-- The service after a poll, given the row of the environment then. -/
def polled (s : Service) (now : Instant) (id : EnvironmentId) (row : EnvironmentRow) : Service :=
  { s with registry := (s.registry.withRow id row).hear now id, board := s.board.polled now id }

/-- What the service tells the agent of an environment, which is to poll at the interval of its own where that is not
zero, and else at the one of the settings. -/
def answerTo (s : Service) (id : EnvironmentId) (own : UInt32) : PollAnswer where
  environmentId := id
  status := s.board.status id
  port := (s.board.tunnel? id).bind Tunnel.port
  credentials := ((s.board.tunnel? id).bind Tunnel.credentials).map Credentials.token
  checkInInterval := if own ≠ 0 then own else s.settings.checkInInterval
  schedules := (s.jobs.pending id).map (·.scheduleFor id)

theorem intervalOf_eq (settings : Settings) (e : Environment) :
    settings.intervalOf e = if e.checkInInterval ≠ 0 then e.checkInInterval else settings.checkInInterval :=
  (ite_not _ _ _).symm

theorem run_onTunnels {α : Type} {x : Coordinator.Step α} {o : Outcome TunnelError α} {c : Coordinator}
    (h : x.run s.coordinator = (o, c)) :
    (onTunnels x).run s = (o.rename ServiceError.tunnel (fun a => a), { s with board := c.board, jobs := c.jobs }) := by
  unfold coordinator at h
  unfold onTunnels
  rw [run_within, h]
  rfl

/-- Whether the parts that a poll looks at agree about an environment with a record. -/
structure Ready (s : Service) (t : EnvironmentTable) (id : EnvironmentId) (e : Environment) : Prop where
  table : s.registry.store.database.environments = some t
  written : t.Written
  record : t.record? id = some e
  apart : t.collides id.number.toInt (.ofEnvironment e) = false
  known : s.registry.contains id = true
  port : ∀ u, s.board.tunnel? id = some u → u.phase = .required → u.port.isSome = true

/-- At a poll the tunnel that was asked for is opened with the port that it holds, whatever ports are free. -/
theorem run_advanceTunnel (hknown : s.registry.contains id = true)
    (hport : ∀ u, s.board.tunnel? id = some u → u.phase = .required → u.port.isSome = true)
    (hc : now.isReadable = true) :
    (onTunnels (advanceTunnel now id)).run s = (.done (), { s with board := s.board.polled now id }) := by
  have hsees : s.coordinator.sees id = true := hknown
  have hstatus : (Coordinator.status id).run s.coordinator = (.done (s.board.status id), s.coordinator) :=
    Coordinator.run_status_of_sees hsees
  suffices hrun :
      (advanceTunnel now id).run s.coordinator = (.done (), s.coordinator.withBoard (s.board.polled now id)) from
    run_onTunnels hrun
  unfold advanceTunnel
  rw [run_bind_done hstatus]
  cases ht : s.board.tunnel? id with
  | none =>
    rw [TunnelBoard.status_of_none ht, TunnelBoard.polled_of_none ht]
    rfl
  | some u =>
    rw [TunnelBoard.status_of_tunnel? ht, TunnelBoard.polled_of_tunnel? ht]
    cases hp : u.phase with
    | idle =>
      have hsame : u.polled now s.board.keepAlive = u := by simp only [Tunnel.polled, hp]
      rw [hsame, TunnelBoard.keep_of_tunnel? ht]
      rfl
    | required =>
      obtain ⟨port, hheld⟩ := Option.isSome_iff_exists.1 (hport u ht hp)
      have hopened : u.polled now s.board.keepAlive = u.opened now s.board.keepAlive port := by
        simp only [Tunnel.polled, hp]
        rw [Tunnel.opened, ← hheld]
        rfl
      rw [hopened]
      exact Coordinator.run_activate_of_port (s := s.coordinator) hsees hsees hc ht hheld
    | active deadline =>
      have hused : u.polled now s.board.keepAlive = u.used deadline now s.board.keepAlive := by
        simp only [Tunnel.polled, hp]
        rfl
      rw [hused]
      dsimp only [Phase.status]
      rw [run_bind_done (run_view _ _)]
      exact run_bind_done (Coordinator.run_keepAlive_of_active (s := s.coordinator) hsees hc ht hp _)

/-- What the details of a known environment tell is what an agent is answered. -/
theorem run_details (hknown : s.registry.contains id = true) (hc : now.isReadable = true) :
    ∃ d, (onTunnels (Coordinator.details now id)).run s = (.done d, s) ∧ d.status = s.board.status id ∧
      d.port = (s.board.tunnel? id).bind Tunnel.port ∧
      d.credentials = ((s.board.tunnel? id).bind Tunnel.credentials).map Credentials.token ∧
      d.jobs = s.jobs.pending id := by
  have hsees : s.coordinator.sees id = true := hknown
  cases ht : s.board.tunnel? id with
  | none =>
    rw [TunnelBoard.status_of_none ht]
    exact ⟨_, run_onTunnels (Coordinator.run_details_of_none hsees ht hc), rfl, rfl, rfl, rfl⟩
  | some u =>
    rw [TunnelBoard.status_of_tunnel? ht]
    exact ⟨_, run_onTunnels (Coordinator.run_details_of_tunnel? now hsees ht), rfl, rfl, rfl, rfl⟩

/-- A poll that comes through, as one equation. -/
theorem Ready.run_poll (h : s.Ready t id e) (howner : s.registry.owner? edgeId = some id)
    (hread : s.registry.store.Serves .environment)
    (hsave : agent.filter (fun a => a ≠ e.agent) ≠ none → s.registry.store.Serves .save) (hc : now.isReadable = true) :
    (poll now edgeId agent).run s =
      (.done ((s.polled now id ((EnvironmentRow.ofEnvironment e).polled now agent)).answerTo id e.checkInInterval),
        s.polled now id ((EnvironmentRow.ofEnvironment e).polled now agent)) := by
  obtain ⟨e', hrecord, hinterval⟩ := Registry.run_recordPoll h.table h.written h.record h.apart hread hsave hc
  rw [EnvironmentRow.ofEnvironment_polled e hc] at hrecord
  generalize (EnvironmentRow.ofEnvironment e).polled now agent = row at hrecord ⊢
  have hrecorded : ((onRegistry (Registry.recordPoll now id agent)).renamed (refusalOfPoll edgeId)).run s =
      (.done e', { s with registry := (s.registry.withRow id row).hear now id }) := by
    rw [run_renamed, run_onRegistry hrecord]
    rfl
  have hadvance :=
    run_advanceTunnel (s := { s with registry := (s.registry.withRow id row).hear now id }) h.known h.port hc
  obtain ⟨d, hdetails, hstatus, hport, hcredentials, hjobs⟩ := run_details (s := s.polled now id row) h.known hc
  unfold poll
  rw [run_bind_done (run_view _ s), howner]
  dsimp only
  rw [run_bind_done hrecorded, run_bind_done hadvance]
  refine (run_bind_done hdetails).trans ?_
  rw [run_bind_done (run_view _ _), hstatus, hport, hcredentials, hjobs]
  have hinterval' : (s.polled now id row).settings.intervalOf e' = _ := intervalOf_eq s.settings e'
  rw [hinterval', hinterval]
  rfl

/-- Where the clock cannot be read a poll is cut off before it does anything. -/
theorem Ready.run_poll_unread (h : s.Ready t id e) (howner : s.registry.owner? edgeId = some id)
    (hread : s.registry.store.Serves .environment) (hc : now.isReadable = false) :
    (poll now edgeId agent).run s = (.crashed, s) := by
  have hcall : (Registry.onStore (Gateway.environment? id)).run s.registry = (.done (some e), s.registry) := by
    rw [← h.record]
    exact Registry.run_environment?_of_serves h.table h.written hread id
  have hrecord : (Registry.recordPoll now id agent).run s.registry = (.crashed, s.registry) := by
    unfold Registry.recordPoll
    rw [run_bind_done hcall]
    exact run_bind_crashed (run_clock_of_not_isReadable hc _)
  have hrecorded :
      ((onRegistry (Registry.recordPoll now id agent)).renamed (refusalOfPoll edgeId)).run s = (.crashed, s) := by
    rw [run_renamed, run_onRegistry hrecord]
    rfl
  unfold poll
  rw [run_bind_done (run_view _ s), howner]
  exact run_bind_crashed hrecorded

theorem run_poll_of_unbound (howner : s.registry.owner? edgeId = none) :
    (poll now edgeId agent).run s = (.refused (.unknownEdgeId edgeId), s) := by
  unfold poll
  rw [run_bind_done (run_view _ s), howner]
  rfl

/-- After a poll the parts agree still, about the record that is stored then. -/
theorem Ready.polled (h : s.Ready t id e) (now : Instant) (agent : Option Agent) :
    (s.polled now id (.ofEnvironment (e.polled now agent))).Ready
      (t.withRow id (.ofEnvironment (e.polled now agent))) id (e.polled now agent) where
  table := by
    change s.registry.store.database.environments.map _ = _
    rw [h.table]
    rfl
  written := h.written.withRow (h.written.isAssigned (h.written.of_record? h.record).1) _
  record := by
    obtain ⟨-, hid, -⟩ := h.written.of_record? h.record
    obtain ⟨-, hstored⟩ := h.written.row_of_record? h.record
    rw [EnvironmentTable.record?_withRow, if_pos rfl, Environment.stored_polled hstored]
    obtain ⟨agent', lastCheckIn, he⟩ := e.polled_eq now agent
    rw [he, ← hid]
  apart := t.collides_withRow ((t.collides_polled e _ now agent).trans h.apart)
  known := h.known
  port u hu hp := by
    rw [show (s.polled now id _).board = s.board.polled now id from rfl, TunnelBoard.tunnel?_polled, if_pos rfl] at hu
    obtain ⟨v, -, rfl⟩ := Option.map_eq_some_iff.1 hu
    exact absurd hp (v.phase_polled_ne_required now s.board.keepAlive)

theorem Ready.withStore (h : s.Ready t id e) {g : Gateway} (hg : g.database = s.registry.store.database) :
    (s.withStore g).Ready t id e :=
  ⟨(congrArg (·.environments) hg).trans h.table, h.written, h.record, h.apart, h.known, h.port⟩

/-- Polling once more at the same instant changes nothing and answers the same, also if nothing can be stored. -/
theorem Ready.run_poll_again (h : s.Ready t id e) (howner : s.registry.owner? edgeId = some id)
    (hc : now.isReadable = true)
    {s' : Service} (hs' : s' = s.polled now id ((EnvironmentRow.ofEnvironment e).polled now agent)) {g : Gateway}
    (hg : g.database = s'.registry.store.database) (hread : g.Serves .environment) :
    (poll now edgeId agent).run (s'.withStore g) =
      (.done (s'.answerTo id e.checkInInterval), s'.withStore g) := by
  rw [← EnvironmentRow.ofEnvironment_polled e hc] at hs'
  obtain ⟨t', hready⟩ : ∃ t', (s'.withStore g).Ready t' id (e.polled now agent) := by
    subst hs'
    exact ⟨_, (h.polled now agent).withStore hg⟩
  -- The row, the contact and the tunnel are what a poll at this instant makes of them.
  have hsettled : (s'.withStore g).polled now id (.ofEnvironment (e.polled now agent)) = s'.withStore g := by
    have hrow := (hready.written.row_of_record? hready.record).1
    have hheard : (s'.withStore g).registry.heartbeat? id = some (Int64.ofInt now.seconds) := by
      subst hs'
      exact Table.get?_insert_self _ _ _
    have hboard : s'.board.polled now id = s'.board := by
      subst hs'
      exact s.board.polled_polled now id
    unfold Service.polled
    rw [Registry.withRow_of_row? hready.table hrow, Registry.hear_of_heartbeat? hheard]
    exact congrArg (fun board => { s'.withStore g with board }) hboard
  have howner' : (s'.withStore g).registry.owner? edgeId = some id := by
    subst hs'
    exact howner
  have hrun := hready.run_poll howner' hread (absurd (e.no_news_of_polled now agent)) hc
  rw [EnvironmentRow.ofEnvironment_polled e hc, EnvironmentRow.polled_polled,
    ← EnvironmentRow.ofEnvironment_polled e hc, hsettled] at hrun
  rw [hrun]
  have hinterval : (e.polled now agent).checkInInterval = e.checkInInterval := by
    obtain ⟨agent', lastCheckIn, he⟩ := e.polled_eq now agent
    rw [he]
  rw [hinterval]
  rfl

/-- Where the parts of a service agree, they are ready for a poll of the agent that an edge id belongs to. -/
theorem ready_of_consistent {issuer : Issuer} (hs : s.Consistent) (ht : s.registry.Tended t) (hi : Issues issuer s)
    (howner : s.registry.owner? edgeId = some id) : ∃ e, s.Ready t id e := by
  have hrows : s.rows = t.rows := rows_of_environments ht.table
  obtain ⟨-, row, hrow, -⟩ := (hs.owner edgeId id).1 howner
  have hid : t.holds id = true := Table.contains_iff.2 ⟨row, hrows ▸ hrow⟩
  obtain ⟨e, hwritten, hrecord⟩ := ht.written.row?_eq_some hid
  refine ⟨_, ht.table, ht.written, hrecord, ?_, (hs.known id).trans (hrows ▸ hid), fun u hu hp => ?_⟩
  · rw [EnvironmentTable.collides_eq_false_iff]
    intro _ k hk m row' hr he'
    -- Both rows carry the edge id, so it belongs to both environments.
    have hkept : t.row? id = some (.ofEnvironment { e.stored with id }) := (ht.written.row_of_record? hrecord).1
    have hne : k ≠ "" := by simpa using (Option.filter_eq_some_iff.1 hk).2
    have hown : s.registry.owner? k = some id := (hs.owner k id).2 ⟨hne, _, hrows ▸ hkept, hk⟩
    obtain ⟨i, rfl⟩ := hs.row m (hrows ▸ Table.contains_iff.2 ⟨row', hr⟩)
    have hown' : s.registry.owner? k = some i := (hs.owner k i).2 ⟨hne, row', hrows ▸ hr, he'⟩
    rw [Option.some.inj (hown'.symm.trans hown)]
  · rw [(hi.2.tunnel hu).port, hp]
    exact nofun

theorem issues_of_run {registry : Registry} {range : PortRange} {keepAlive : Nat} {issuer : Issuer}
    {enrollment : EnrollmentConfig}
    (hstart : start.run (assemble registry range keepAlive issuer enrollment) = (.done (), s₀))
    {events : List (Instant × Event)} (h : Run Event.step (fun _ _ _ => True) s₀ events s) : Issues issuer s := by
  refine h.inv (Issues issuer) ?_ (fun s now event hs _ => keeps_issues now event s hs)
  have hfirst := (closed_issues issuer).toCoreClosed.start (fun _ _ hs => hs)
    (assemble registry range keepAlive issuer enrollment) ⟨rfl, TunnelBoard.issued_empty issuer range keepAlive⟩
  rwa [hstart] at hfirst

/-- A service with an environment that was asked for its tunnel. -/
def asked : Service :=
  after Event.step (overFresh Coordinator.hourly)
    [(.ofSeconds 10, .create (edge ⟨0⟩ "A")), (.ofSeconds 20, .requireTunnel ⟨1⟩)]

theorem run_asked : Run Event.step Event.Harmless (overFresh Coordinator.hourly)
    [(.ofSeconds 10, .create (edge ⟨0⟩ "A")), (.ofSeconds 20, .requireTunnel ⟨1⟩)] asked := by
  have hcreate : Event.Harmless (overFresh Coordinator.hourly) (.ofSeconds 10) (.create (edge ⟨0⟩ "A")) :=
    ⟨Event.fits_of_keys (by decide +kernel), fun hb => absurd hb.1 (by decide)⟩
  exact (Run.nil.snoc _ _ hcreate).snoc _ _ ⟨Event.fits_of_keys (by decide +kernel), id⟩

theorem consistent_asked : asked.Consistent := (sound_overFresh.of_run run_asked).consistent

theorem start_overFresh : start.run (overFresh Coordinator.hourly) = (.done (), overFresh Coordinator.hourly) := by
  decide +kernel

/-- After every run of events, a service whose parts agree is ready for polls. -/
theorem ready_of_run {store : Gateway} {range : PortRange} {keepAlive : Nat} {issuer : Issuer}
    {enrollment : EnrollmentConfig} (hd : store.database.Written)
    (hstart : start.run (assemble (.blank store) range keepAlive issuer enrollment) = (.done (), s₀))
    {events : List (Instant × Event)} (h : Run Event.step (fun _ _ _ => True) s₀ events s) (hs : s.Consistent)
    (howner : s.registry.owner? edgeId = some id) : ∃ t e, s.Ready t id e := by
  obtain ⟨t, ht⟩ := tended_of_run hd hstart h
  obtain ⟨e, hready⟩ := ready_of_consistent hs ht (issues_of_run hstart h) howner
  exact ⟨t, e, hready⟩

/-- From any start over a database whose environments were written for records, in every state that a run of
events leads to and in which the parts of the service agree: a poll under an edge id that belongs to nobody is
refused, and one under any other edge id is answered, as long as the clock can be read and the store lets it
through. What it does and answers is computed from the row, the record and the tunnel of the environment; all
else stays. Where the clock cannot be read, nothing is done. -/
theorem poll_of_run {store : Gateway} {range : PortRange} {keepAlive : Nat} {issuer : Issuer}
    {enrollment : EnrollmentConfig} (hd : store.database.Written)
    (hstart : start.run (assemble (.blank store) range keepAlive issuer enrollment) = (.done (), s₀))
    {events : List (Instant × Event)} (h : Run Event.step (fun _ _ _ => True) s₀ events s) (hs : s.Consistent)
    (hread : s.registry.store.Serves .environment) (hsave : s.registry.store.Serves .save)
    (now : Instant) (edgeId : String) (agent : Option Agent) :
    (s.registry.owner? edgeId = none → (poll now edgeId agent).run s = (.refused (.unknownEdgeId edgeId), s)) ∧
    ∀ id, s.registry.owner? edgeId = some id → ∃ row e,
      s.rows.get? id.number.toInt = some row ∧ row.record? id.number.toInt = some e ∧
      (poll now edgeId agent).run s =
        if now.isReadable then
          (.done ((s.polled now id (row.polled now agent)).answerTo id e.checkInInterval),
            s.polled now id (row.polled now agent))
        else (.crashed, s) := by
  refine ⟨run_poll_of_unbound, fun id howner => ?_⟩
  obtain ⟨t, e, hready⟩ := ready_of_run hd hstart h hs howner
  obtain ⟨hrow, -⟩ := hready.written.row_of_record? hready.record
  have hrecord : (EnvironmentRow.ofEnvironment e).record? id.number.toInt = some e := by
    have hrecord := hready.record
    unfold EnvironmentTable.record? at hrecord
    rwa [hrow] at hrecord
  refine ⟨.ofEnvironment e, e, (rows_of_environments hready.table) ▸ hrow, hrecord, ?_⟩
  cases hc : now.isReadable with
  | true => exact hready.run_poll howner hread (fun _ => hsave) hc
  | false => exact hready.run_poll_unread howner hread hc

/-- An agent that describes itself finds open the tunnel that was asked for. -/
theorem poll_of_asked : ∃ row e, asked.rows.get? 1 = some row ∧ row.record? 1 = some e ∧
    (poll (.ofSeconds 30) "A" (some ⟨"linux", "2.19"⟩)).run asked =
      (.done ((asked.polled (.ofSeconds 30) ⟨1⟩ (row.polled (.ofSeconds 30) (some ⟨"linux", "2.19"⟩))).answerTo ⟨1⟩
          e.checkInInterval),
        asked.polled (.ofSeconds 30) ⟨1⟩ (row.polled (.ofSeconds 30) (some ⟨"linux", "2.19"⟩))) ∧
    (asked.board.polled (.ofSeconds 30) ⟨1⟩).status ⟨1⟩ = .active := by
  have hd : (Gateway.clear .fresh).database.Written := ⟨.empty, rfl, EnvironmentTable.sound_empty.written⟩
  have hread : asked.registry.store.Serves .environment := by unfold Gateway.Serves; decide +kernel
  have hsave : asked.registry.store.Serves .save := by unfold Gateway.Serves; decide +kernel
  have howner : asked.registry.owner? "A" = some ⟨1⟩ := by decide +kernel
  obtain ⟨row, e, hrow, hrecord, hpoll⟩ := (poll_of_run hd start_overFresh (run_asked.imp (fun _ _ _ _ => trivial))
    consistent_asked hread hsave (.ofSeconds 30) "A" (some ⟨"linux", "2.19"⟩)).2 ⟨1⟩ howner
  exact ⟨row, e, hrow, hrecord, hpoll.trans (if_pos (by decide +kernel)), by decide +kernel⟩

/-- A poll counts as a use of the tunnel that it opens, and is cut off where the clock cannot be read. -/
theorem poll_uses_tunnel :
    Run Event.step Event.Harmless (overFresh Coordinator.hourly)
      [(.ofSeconds 10, .create (edge ⟨0⟩ "A")), (.ofSeconds 20, .requireTunnel ⟨1⟩)] asked ∧
    asked.Consistent ∧ asked.registry.store.Serves .environment ∧ asked.registry.store.Serves .save ∧
    asked.registry.owner? "A" = some ⟨1⟩ ∧
    (asked.board.tunnel? ⟨1⟩).map Tunnel.lastActivity = some (.ofSeconds 20) ∧
    (((poll (.ofSeconds 30) "A" none).run asked).2.board.tunnel? ⟨1⟩).map Tunnel.lastActivity = some (.ofSeconds 30) ∧
    ((poll (.ofSeconds (-1)) "A" none).run asked).1 = .crashed :=
  ⟨run_asked, consistent_asked, by unfold Gateway.Serves; decide +kernel, by unfold Gateway.Serves; decide +kernel,
    by decide +kernel, by decide +kernel, by decide +kernel, by decide +kernel⟩

/-- In every such state, and at any clock, a poll that is made a second time ends as it did the first time and
changes nothing. It stores nothing either: whatever the store is to refuse next apart from reading a record, the
poll ends the same, and that refusal still stands then. -/
theorem poll_again_of_run {store : Gateway} {range : PortRange} {keepAlive : Nat} {issuer : Issuer}
    {enrollment : EnrollmentConfig} (hd : store.database.Written)
    (hstart : start.run (assemble (.blank store) range keepAlive issuer enrollment) = (.done (), s₀))
    {events : List (Instant × Event)} (h : Run Event.step (fun _ _ _ => True) s₀ events s) (hs : s.Consistent)
    (hread : s.registry.store.Serves .environment) (hsave : s.registry.store.Serves .save)
    {s' : Service} {o : Outcome ServiceError PollAnswer} (hp : (poll now edgeId agent).run s = (o, s')) :
    (poll now edgeId agent).run s' = (o, s') ∧
    ∀ m, m ≠ .environment → ∀ err,
      (poll now edgeId agent).run (s'.withStore (s'.registry.store.refuseNext m err)) =
        (o, s'.withStore (s'.registry.store.refuseNext m err)) := by
  suffices hagain : s'.registry.store.Serves .environment ∧
      ∀ g : Gateway, g.database = s'.registry.store.database → g.Serves .environment →
        (poll now edgeId agent).run (s'.withStore g) = (o, s'.withStore g) by
    obtain ⟨hserves, hagain⟩ := hagain
    exact ⟨hagain s'.registry.store rfl hserves,
      fun m hm err => hagain _ rfl (hserves.refuseNext hm.symm err)⟩
  cases howner : s.registry.owner? edgeId with
  | none =>
    rw [run_poll_of_unbound howner] at hp
    cases hp
    exact ⟨hread, fun g _ _ => run_poll_of_unbound (s := s.withStore g) howner⟩
  | some id =>
    obtain ⟨t, e, hready⟩ := ready_of_run hd hstart h hs howner
    cases hc : now.isReadable with
    | true =>
      rw [hready.run_poll howner hread (fun _ => hsave) hc] at hp
      cases hp
      exact ⟨hread, fun g hg => hready.run_poll_again howner hc rfl hg⟩
    | false =>
      rw [hready.run_poll_unread howner hread hc] at hp
      cases hp
      exact ⟨hread, fun g hg hg' => (hready.withStore hg).run_poll_unread howner hg' hc⟩

/-- An agent that polls twice is answered the same, also if its row could not be stored again. -/
theorem poll_again_of_asked : ∃ a s', (poll (.ofSeconds 30) "A" (some ⟨"linux", "2.19"⟩)).run asked = (.done a, s') ∧
    a.status = .active ∧
    (poll (.ofSeconds 30) "A" (some ⟨"linux", "2.19"⟩)).run s' = (.done a, s') ∧
    (poll (.ofSeconds 30) "A" (some ⟨"linux", "2.19"⟩)).run
        (s'.withStore (s'.registry.store.refuseNext .save (.database .full))) =
      (.done a, s'.withStore (s'.registry.store.refuseNext .save (.database .full))) := by
  have hd : (Gateway.clear .fresh).database.Written := ⟨.empty, rfl, EnvironmentTable.sound_empty.written⟩
  have hread : asked.registry.store.Serves .environment := by unfold Gateway.Serves; decide +kernel
  have hsave : asked.registry.store.Serves .save := by unfold Gateway.Serves; decide +kernel
  have hpoll :
      ((poll (.ofSeconds 30) "A" (some ⟨"linux", "2.19"⟩)).run asked).1.rename (fun _ => ()) PollAnswer.status =
      .done .active := by decide +kernel
  obtain ⟨a, ha, hstatus⟩ := Outcome.rename_eq_done_iff.1 hpoll
  obtain ⟨hagain, hunsaved⟩ := poll_again_of_run hd start_overFresh (run_asked.imp (fun _ _ _ _ => trivial))
    consistent_asked hread hsave (Prod.ext ha rfl)
  exact ⟨a, _, Prod.ext ha rfl, hstatus, hagain, hunsaved .save nofun _⟩

end Service

end EdgeFleet
