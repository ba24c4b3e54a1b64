import EdgeFleet.Proofs.Credentials
import EdgeFleet.Proofs.Neighbours
/-!
# Requests that fail

A request for a tunnel reserves a port, makes credentials and then keeps both. One that is refused on the
way leaves what the environment had, or, if the environment was forgotten meanwhile, nothing at all. One
that is cut off while the credentials are made leaves what the environment had as well, but the pool still
lends the port that was reserved.
-/

namespace EdgeFleet

namespace Tunnel

variable {issuer : Issuer} {now : Instant}

/-- Credentials can be made whenever the clock can be read and the calendar has the end of their
validity. -/
theorem isSome_credentialsAt? (t : Tunnel) (id : EnvironmentId) (hr : now.isReadable = true)
    (he : (now.plus? issuer.validity).isSome = true) : (t.credentialsAt? issuer now id).isSome = true := by
  obtain ⟨e, he⟩ := Option.isSome_iff_exists.1 he
  unfold credentialsAt?
  rw [if_pos hr]
  cases hf : t.hasFreshCredentials now with
  | true =>
    cases hc : t.credentials with
    | some c => rfl
    | none => simp [hasFreshCredentials, hc] at hf
  | false =>
    obtain ⟨claims, -, hissue⟩ := Issuer.issued (i := issuer) (a := id) hr he
    rw [if_neg (by simp), hissue]
    rfl

end Tunnel

namespace TunnelBoard

variable {b b' : TunnelBoard} {id : EnvironmentId} {t : Tunnel} {now : Instant} {port : UInt16}

/-- Whether two boards show the same of the tunnel of an environment. -/
structure ShowAlike (id : EnvironmentId) (b b' : TunnelBoard) : Prop where
  status : b'.status id = b.status id
  port : (b'.tunnel? id).bind Tunnel.port = (b.tunnel? id).bind Tunnel.port
  credentials : (b'.tunnel? id).bind Tunnel.credentials = (b.tunnel? id).bind Tunnel.credentials

theorem ShowAlike.of_tunnel? (h : b'.tunnel? id = b.tunnel? id) : ShowAlike id b b' := by
  refine ⟨?_, by rw [h], by rw [h]⟩
  unfold TunnelBoard.status
  rw [h]

theorem Refers.port_eq (h : b.Refers now id t) : (b.tunnel? id).bind Tunnel.port = t.port := by
  rcases h with ht | ⟨hn, -, rfl⟩
  · rw [ht]
    rfl
  · rw [hn]
    rfl

/-- An environment that is lent a port already is lent the same again. -/
theorem reserve?_of_lent (ht : t.port = none) (hp : b.pool.port? id = some port) :
    b.reserve? id t = some (port, b) := by
  rw [reserve?, ht, PortPool.lend_of_port? hp]
  rfl

/-- One that is not is lent a free one. -/
theorem lends_of_reserve? (ht : t.port = none) (hp : b.pool.port? id = none)
    (hr : b.reserve? id t = some (port, b')) :
    b.pool.isFree port = true ∧ b' = { b with pool := { b.pool with lent := b.pool.lent.insert id port } } := by
  cases reserved hr with
  | held hport => cases ht.symm.trans hport
  | lent _ hl => cases hp.symm.trans hl
  | lends _ _ hfree => exact ⟨hfree, rfl⟩

/-- A tunnel that a step takes up shows no more than what was kept. -/
theorem Refers.showAlike (h : b.Refers now id t) (hk : b'.tunnel? id = some t) : ShowAlike id b b' := by
  rcases h with ht | ⟨hn, -, rfl⟩
  · exact .of_tunnel? (hk.trans ht.symm)
  · exact ⟨(status_of_tunnel? hk).trans (status_of_none hn).symm, by rw [hk, hn]; rfl, by rw [hk, hn]; rfl⟩

end TunnelBoard

namespace Coordinator

open Attempt
open TunnelBoard (AgreeBut ShowAlike)

variable {issuer : Issuer} {now : Instant} {id : EnvironmentId} {s s' : Coordinator}

/-- A request is cut off only where the clock cannot be read, or where the calendar ends before the
validity of the credentials. -/
theorem require_ne_crashed (issuer : Issuer) (now : Instant) (s : Coordinator) (id : EnvironmentId)
    (hr : now.isReadable = true)
    (he : (now.plus? issuer.validity).isSome = true) : ((require issuer now id).run s).1 ≠ .crashed := by
  have hreq := requiring issuer now id s
  generalize (require issuer now id).run s = r at hreq
  cases hreq with
  | unread _ _ hc =>
    rw [hr] at hc
    cases hc
  | @cutOff t port b _ _ _ _ hc =>
    have hsome := t.isSome_credentialsAt? id hr he
    rw [hc] at hsome
    cases hsome
  | _ => exact nofun

/-- Whether a request for a tunnel that ended in some outcome found its environment forgotten on the
way. -/
def Forgets (s : Coordinator) (id : EnvironmentId) (o : Outcome TunnelError Unit) : Prop :=
  s.sees id = true ∧ o = .refused (.unknownEnvironment id)

/-- A request for a tunnel that does not complete: nothing changes for other environments. Of an
environment that was forgotten on the way nothing is left, neither tunnel nor port. Otherwise the tunnel
shows what it showed, and the pool is what it was, unless the request was cut off after it was lent a port:
then the pool lends one free port more. That does not happen while the clock can be read and the calendar
has the end of the credentials' validity. -/
theorem kept_of_failed_require {o : Outcome TunnelError Unit} (h : (require issuer now id).run s = (o, s'))
    (ho : o ≠ .done ()) :
    (AgreeBut id s.board s'.board ∧ s'.jobs = s.jobs) ∧
    (now.isReadable = true → (now.plus? issuer.validity).isSome = true → ¬ s.Strands now id o) ∧
    (s.Forgets id o → s'.board.tunnel? id = none ∧ s'.board.pool = s.board.pool.takeBack id) ∧
    (¬ s.Forgets id o → ShowAlike id s.board s'.board) ∧
    (¬ s.Forgets id o → ¬ (s.Strands now id o ∧ s.board.pool.port? id = none) → s'.board.pool = s.board.pool) ∧
    (s.Strands now id o → s.board.pool.port? id = none → ∃ port, s.board.pool.isFree port = true ∧
      s'.board.pool = { s.board.pool with lent := s.board.pool.lent.insert id port }) := by
  have hagree := agreeBut_require issuer now id s
  have hcrash := require_ne_crashed issuer now s id
  have hr := requiring issuer now id s
  rw [h] at hagree hcrash hr
  have hjobs : s'.jobs = s.jobs := by cases hr <;> rfl
  refine ⟨⟨hagree, hjobs⟩, fun hc he hs => hcrash hc he hs.2.2, ?_⟩
  have hnot : ∀ {o : Outcome TunnelError Unit}, o ≠ .crashed → ¬ s.Strands now id o := fun ho hs => ho hs.2.2
  cases hr with
  | standing | asked => exact absurd rfl ho
  | unknown hs =>
    have hno : ¬ s.Forgets id (.refused (.unknownEnvironment id)) := fun hf => Bool.false_ne_true (hs.symm.trans hf.1)
    exact ⟨fun hf => absurd hf hno, fun _ => .of_tunnel? rfl, fun _ _ => rfl, fun hs => absurd hs (hnot nofun)⟩
  | unread _ ht hc =>
    refine ⟨nofun, fun _ => .of_tunnel? rfl, fun _ _ => rfl, fun hs => ?_⟩
    rcases hs.2.1 with hr | hk
    · rw [hc] at hr
      cases hr
    · rw [ht] at hk
      cases hk
  | @exhausted t _ ht =>
    exact ⟨nofun, fun _ => ht.showAlike ((s.board.tunnel?_keep id id t).trans (if_pos rfl)), fun _ _ => rfl,
      fun hs => absurd hs (hnot nofun)⟩
  | @cutOff t port b _ ht _ hr =>
    have hk : (b.keep id t).tunnel? id = some t := (b.tunnel?_keep id id t).trans (if_pos rfl)
    refine ⟨nofun, fun _ => ht.showAlike hk, fun _ hs => ?_, fun hs hp => ?_⟩
    · -- A tunnel that holds a port, or that one is lent to already, is lent none.
      cases hport : t.port with
      | some q =>
        rw [TunnelBoard.reserve?_of_port hport] at hr
        cases hr
        rfl
      | none =>
        cases hlent : s.board.pool.port? id with
        | some q =>
          rw [TunnelBoard.reserve?_of_lent hport hlent] at hr
          cases hr
          rfl
        | none => exact absurd ⟨strands_of_refers ht hport, hlent⟩ hs
    · obtain ⟨hfree, hb⟩ := TunnelBoard.lends_of_reserve? (ht.port_eq.symm.trans hs.1) hp hr
      exact ⟨port, hfree, congrArg (·.pool) hb⟩
  | @forgotten t port b c hs _ _ hr =>
    have hf : s.Forgets id (.refused (.unknownEnvironment id)) := ⟨hs, rfl⟩
    refine ⟨fun _ => ⟨?_, ?_⟩, fun hn => absurd hf hn, fun hn => absurd hf hn, fun hs => absurd hs (hnot nofun)⟩
    · exact (TunnelBoard.tunnel?_drop _ id id).trans (if_pos rfl)
    · rw [TunnelBoard.drop_keep rfl]
      exact (AgreeBut.reserve hr).takeBack_eq

/-- A coordinator with one port, which is lent to one of the two environments that it knows. -/
def crowded : Coordinator :=
  ((activate (.ofSeconds 10) ⟨8⟩).run
    ⟨⟨(Table.insert ∅ ⟨7⟩ ()).insert ⟨8⟩ (), none⟩, .empty ⟨9000, 9000, by decide⟩ 300, .empty⟩).2

/-- A request that finds no free port changes nothing that can be seen. -/
theorem kept_of_exhausted : ∃ s', (require hourly (.ofSeconds 20) ⟨7⟩).run crowded =
      (.refused (.noFreePort ⟨9000, 9000, by decide⟩), s') ∧
    s'.board.pool = crowded.board.pool ∧ s'.board.status ⟨7⟩ = .idle ∧
    (s'.board.tunnel? ⟨7⟩).bind Tunnel.credentials = none := by
  have hrun : ((require hourly (.ofSeconds 20) ⟨7⟩).run crowded).1 =
      .refused (.noFreePort ⟨9000, 9000, by decide⟩) := by decide +kernel
  obtain ⟨-, -, -, hshow, hpool, -⟩ := kept_of_failed_require (Prod.ext hrun rfl) nofun
  have hforgets : ¬ crowded.Forgets ⟨7⟩ (.refused (.noFreePort ⟨9000, 9000, by decide⟩)) := fun hf => by
    cases hf.2
  have hshow := hshow hforgets
  refine ⟨_, Prod.ext hrun rfl, hpool hforgets (fun hs => by cases hs.1.2.2), ?_, ?_⟩
  · exact hshow.status.trans (by decide +kernel)
  · exact hshow.credentials.trans (by decide +kernel)

/-- Credentials that may be configured can end past the calendar. A request for a tunnel is then cut off at
any clock of our time, and leaves the tunnel idle and its port lent. -/
theorem port_stranded_past_calendar :
    (9000000000000 ≤ Span.mostSeconds ∧ (Instant.ofSeconds 1700000000).isReadable = true) ∧
    ((knowing ⟨7⟩).sees ⟨7⟩ = true ∧ (knowing ⟨7⟩).board.pool.available = 10) ∧
    ∃ s', (require ⟨Utf8.bytes "secret", .ofSeconds 9000000000000⟩ (.ofSeconds 1700000000) ⟨7⟩).run (knowing ⟨7⟩) =
        (.crashed, s') ∧
      s'.board.status ⟨7⟩ = .idle ∧ (s'.board.tunnel? ⟨7⟩).bind Tunnel.port = none ∧
      s'.board.pool.port? ⟨7⟩ = some 9007 ∧ s'.board.pool.available = 9 := by
  refine ⟨by decide, by decide +kernel, _, Prod.ext ?_ rfl, ?_⟩
  · decide +kernel
  · decide +kernel

end Coordinator

end EdgeFleet
