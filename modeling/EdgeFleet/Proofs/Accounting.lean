import EdgeFleet.Proofs.Calls
import EdgeFleet.Proofs.Pool
/-!
# Every port is accounted for

A reservation is on record twice, in the tunnel that holds the port and in the pool that lent it. A
board is `Accounted` when the two records agree and every tunnel holds what its phase says. Every
`Change` but the one that strands a port keeps that, so it holds after every run of calls that strand
none; then the free ports and the tunnels that are not idle make up the range.
-/

namespace EdgeFleet

namespace Tunnel

/-- Whether a tunnel holds what its phase says: an idle one nothing, an open one a port, and one that
is asked for a port and credentials. -/
structure Sound (t : Tunnel) : Prop where
  port : t.port.isSome = true ↔ t.phase ≠ .idle
  idle : t.phase = .idle → t.credentials = none
  required : t.phase = .required → t.credentials.isSome = true

theorem sound_fresh (now : Instant) : (fresh now).Sound :=
  ⟨by simp [fresh], fun _ => rfl, by simp [fresh]⟩

theorem sound_closed (t : Tunnel) : t.closed.Sound :=
  ⟨by simp [closed], fun _ => rfl, by simp [closed]⟩

theorem sound_asked (t : Tunnel) (port : UInt16) (c : Credentials) : (t.asked port c).Sound :=
  ⟨by simp [asked], by simp [asked], fun _ => rfl⟩

theorem sound_opened (t : Tunnel) (now : Instant) (seconds : Nat) (port : UInt16) :
    (t.opened now seconds port).Sound :=
  ⟨by simp [opened], by simp [opened], by simp [opened]⟩

theorem Sound.used {t : Tunnel} {deadline : Instant} (h : t.Sound) (hp : t.phase = .active deadline) (now : Instant)
    (seconds : Nat) : (t.used deadline now seconds).Sound := by
  have hport : t.port.isSome = true := h.port.2 (by rw [hp]; simp)
  exact ⟨by simp [Tunnel.used, hport], by simp [Tunnel.used], by simp [Tunnel.used]⟩

end Tunnel

namespace TunnelBoard

variable {issuer : Issuer} {known : EnvironmentId → Bool} {strands : Prop} {b b' : TunnelBoard}
  {id : EnvironmentId} {t u : Tunnel} {port : UInt16}

/-- Whether the pool lends what the tunnels hold, and every tunnel holds what its phase says. -/
structure Accounted (b : TunnelBoard) : Prop where
  pool : b.pool.Sound
  held : ∀ id, b.pool.port? id = (b.tunnel? id).bind Tunnel.port
  tunnel : ∀ {id t}, b.tunnel? id = some t → t.Sound

theorem accounted_empty (range : PortRange) (keepAlive : Nat) : (empty range keepAlive).Accounted where
  pool := PortPool.sound_full range
  held _ := rfl
  tunnel h := by cases h

/-! ## What a change keeps -/

/-- Keeping another tunnel that holds what the pool lends. -/
theorem Accounted.keep (h : b.Accounted) (hp : b.pool.port? id = t.port) (ht : t.Sound) : (b.keep id t).Accounted where
  pool := h.pool
  held i := by
    change b.pool.port? i = _
    rw [tunnel?_keep]
    split
    · rename_i e; rw [e, hp]; rfl
    · exact h.held i
  tunnel {i u} hu := by
    rw [tunnel?_keep] at hu
    split at hu
    · cases hu; exact ht
    · exact h.tunnel hu

theorem Accounted.port?_eq (h : b.Accounted) (ht : b.tunnel? id = some t) : b.pool.port? id = t.port := by
  rw [h.held, ht]; rfl

/-- How a port is reserved for a tunnel: it holds one, or its environment has one, or a free one is lent. -/
inductive Reserved (b : TunnelBoard) (id : EnvironmentId) (t : Tunnel) : UInt16 → TunnelBoard → Prop
  | held {port : UInt16} (hp : t.port = some port) : Reserved b id t port b
  | lent {port : UInt16} (hp : t.port = none) (hl : b.pool.port? id = some port) : Reserved b id t port b
  | lends {port : UInt16} (hp : t.port = none) (hn : b.pool.port? id = none) (hf : b.pool.isFree port = true) :
      Reserved b id t port { b with pool := { b.pool with lent := b.pool.lent.insert id port } }

theorem reserved (hr : b.reserve? id t = some (port, b')) : b.Reserved id t port b' := by
  cases hp : t.port with
  | some q =>
    rw [reserve?_of_port hp] at hr
    cases hr
    exact .held hp
  | none =>
    rw [reserve?, hp] at hr
    obtain ⟨⟨q, pool⟩, hl, he⟩ := Option.map_eq_some_iff.1 hr
    cases he
    cases hn : b.pool.port? id with
    | some q' =>
      rw [PortPool.lend_of_port? hn] at hl
      cases hl
      exact .lent hp hn
    | none =>
      obtain ⟨hf, rfl⟩ := PortPool.lend_eq_some hn hl
      exact .lends hp hn hf

/-- A port that is reserved is lent to the environment, and nothing else changes. -/
theorem reserve?_eq_some (hs : b.pool.Sound) (hp : b.pool.port? id = t.port)
    (hr : b.reserve? id t = some (port, b')) :
    b'.tunnels = b.tunnels ∧ b'.pool.Sound ∧
      ∀ i, b'.pool.port? i = if i = id then some port else b.pool.port? i := by
  cases reserved hr with
  | held hport =>
    refine ⟨rfl, hs, fun i => ?_⟩
    split
    · rename_i e; rw [e, hp, hport]
    · rfl
  | lent hport hl =>
    rw [hport, hl] at hp
    cases hp
  | lends _ _ hfree => exact ⟨rfl, hs.insert hfree, fun i => Table.get?_insert_eq b.pool.lent i id port⟩

/-- Keeping a tunnel with the port that was reserved for it. -/
theorem Accounted.reserve (h : b.Accounted) (ht : b.tunnel? id = some t) (hr : b.reserve? id t = some (port, b'))
    (hu : u.Sound) (hport : u.port = some port) : (b'.keep id u).Accounted := by
  obtain ⟨htunnels, hsound, hlent⟩ := reserve?_eq_some h.pool (h.port?_eq ht) hr
  have htunnel : ∀ i, b'.tunnel? i = b.tunnel? i := fun i => congrArg (fun l => l.get? i) htunnels
  refine ⟨hsound, fun i => ?_, fun {i v} hv => ?_⟩
  · change b'.pool.port? i = _
    rw [tunnel?_keep, hlent, htunnel]
    split
    · exact hport.symm
    · exact h.held i
  · rw [tunnel?_keep, htunnel] at hv
    split at hv
    · cases hv; exact hu
    · exact h.tunnel hv

/-- Closing and dropping a tunnel give back the port that it holds, and no other. -/
theorem port?_poolWithout (b : TunnelBoard) (id i : EnvironmentId) (t : Tunnel) :
    (b.poolWithout id t).port? i = if i = id ∧ t.port.isSome = true then none else b.pool.port? i := by
  unfold poolWithout
  split
  · rename_i hp
    rw [PortPool.port?_takeBack]
    simp [hp]
  · rename_i hp
    simp [hp]

theorem port?_close (b : TunnelBoard) (id i : EnvironmentId) :
    (b.close id).pool.port? i =
      if i = id ∧ ((b.tunnel? id).bind Tunnel.port).isSome = true then none else b.pool.port? i := by
  unfold close
  cases b.tunnel? id with
  | some t => exact b.port?_poolWithout id i t
  | none => simp

theorem port?_drop (b : TunnelBoard) (id i : EnvironmentId) :
    (b.drop id).pool.port? i =
      if i = id ∧ ((b.tunnel? id).bind Tunnel.port).isSome = true then none else b.pool.port? i := by
  unfold drop
  cases b.tunnel? id with
  | some t => exact b.port?_poolWithout id i t
  | none => simp

theorem range_poolWithout (b : TunnelBoard) (id : EnvironmentId) (t : Tunnel) :
    (b.poolWithout id t).range = b.pool.range := by
  unfold poolWithout
  split <;> rfl

theorem range_close (b : TunnelBoard) (id : EnvironmentId) : (b.close id).pool.range = b.pool.range := by
  unfold close
  cases b.tunnel? id with
  | some t => exact b.range_poolWithout id t
  | none => rfl

theorem range_drop (b : TunnelBoard) (id : EnvironmentId) : (b.drop id).pool.range = b.pool.range := by
  unfold drop
  cases b.tunnel? id with
  | some t => exact b.range_poolWithout id t
  | none => rfl

theorem sound_poolWithout (h : b.pool.Sound) (id : EnvironmentId) (t : Tunnel) : (b.poolWithout id t).Sound := by
  unfold poolWithout
  split
  · exact h.takeBack id
  · exact h

theorem sound_pool_close (h : b.pool.Sound) (id : EnvironmentId) : (b.close id).pool.Sound := by
  unfold close
  cases b.tunnel? id with
  | some t => exact sound_poolWithout h id t
  | none => exact h

theorem sound_pool_drop (h : b.pool.Sound) (id : EnvironmentId) : (b.drop id).pool.Sound := by
  unfold drop
  cases b.tunnel? id with
  | some t => exact sound_poolWithout h id t
  | none => exact h

/-- Where ports are accounted for, that leaves none lent to the environment. -/
theorem Accounted.given_back (h : b.Accounted) (id i : EnvironmentId) :
    (if i = id ∧ ((b.tunnel? id).bind Tunnel.port).isSome = true then none else b.pool.port? i) =
      if i = id then none else b.pool.port? i := by
  by_cases hi : i = id
  · rw [hi, h.held]
    cases (b.tunnel? id).bind Tunnel.port <;> simp
  · simp [hi]

theorem Accounted.close (h : b.Accounted) (id : EnvironmentId) : (b.close id).Accounted := by
  refine ⟨sound_pool_close h.pool id, fun i => ?_, fun {i u} hu => ?_⟩
  · rw [port?_close, h.given_back, tunnel?_close]
    split
    · cases b.tunnel? id <;> rfl
    · exact h.held i
  · rw [tunnel?_close] at hu
    split at hu
    · obtain ⟨t, -, rfl⟩ := Option.map_eq_some_iff.1 hu
      exact t.sound_closed
    · exact h.tunnel hu

theorem Accounted.drop (h : b.Accounted) (id : EnvironmentId) : (b.drop id).Accounted := by
  refine ⟨sound_pool_drop h.pool id, fun i => ?_, fun {i u} hu => ?_⟩
  · rw [port?_drop, h.given_back, tunnel?_drop]
    split
    · rfl
    · exact h.held i
  · rw [tunnel?_drop] at hu
    split at hu
    · cases hu
    · exact h.tunnel hu

theorem Accounted.change (h : b.Accounted) (hs : ¬ strands) (hc : Change issuer known strands b b') :
    b'.Accounted := by
  cases hc with
  | lend hl => exact absurd hl hs
  | begin now _ ht =>
    refine h.keep ?_ (Tunnel.sound_fresh now)
    rw [h.held, ht]
    rfl
  | ask ht _ hr => exact h.reserve ht hr (Tunnel.sound_asked _ _ _) rfl
  | activate now seconds ht hr => exact h.reserve ht hr (Tunnel.sound_opened _ _ _ _) rfl
  | use now seconds ht hp => exact h.keep ((h.port?_eq ht).trans rfl) ((h.tunnel ht).used hp now seconds)
  | close id => exact h.close id
  | drop id => exact h.drop id
  | count => exact ⟨h.pool, h.held, h.tunnel⟩
  | setKeepAlive seconds => exact ⟨h.pool, h.held, h.tunnel⟩

theorem Accounted.changes (h : b.Accounted) (hs : ¬ strands) (hc : Changes issuer known strands b b') :
    b'.Accounted :=
  hc.inv (fun _ _ h hc => h.change hs hc) h

/-! ## Ports that tunnels hold -/

/-- Whether every port that a tunnel holds is lent to its environment, and to no other. Unlike accounting
that does not end where a port is stranded. -/
structure Backed (b : TunnelBoard) : Prop where
  pool : b.pool.Sound
  lent : ∀ {id port}, (b.tunnel? id).bind Tunnel.port = some port → b.pool.port? id = some port

theorem backed_empty (range : PortRange) (keepAlive : Nat) : (empty range keepAlive).Backed :=
  ⟨PortPool.sound_full range, nofun⟩

/-- A port that is reserved for a tunnel is lent to its environment, and the tunnels stay as they are. -/
theorem Backed.reserve (h : b.Backed) (ht : b.tunnel? id = some t) (hr : b.reserve? id t = some (port, b')) :
    b'.pool.port? id = some port ∧ b'.Backed := by
  cases reserved hr with
  | held hport => exact ⟨h.lent (by rw [ht]; exact hport), h⟩
  | lent _ hl => exact ⟨hl, h⟩
  | lends hport _ hfree =>
    refine ⟨Table.get?_insert_self b.pool.lent id port, h.pool.insert hfree, fun {i p} hi => ?_⟩
    -- The tunnel that the port is lent for holds none yet.
    have hne : i ≠ id := fun e => by
      rw [e] at hi
      change (b.tunnel? id).bind Tunnel.port = some p at hi
      rw [ht, Option.bind_some, hport] at hi
      cases hi
    exact (Table.get?_insert_of_ne b.pool.lent port hne).trans (h.lent hi)

theorem Backed.keep (h : b.Backed) (ht : ∀ p, t.port = some p → b.pool.port? id = some p) : (b.keep id t).Backed := by
  refine ⟨h.pool, fun {i p} hi => ?_⟩
  rw [tunnel?_keep] at hi
  split at hi
  · rename_i e
    rw [e]
    exact ht p hi
  · exact h.lent hi

/-- Taking a tunnel or its port away, with what the pool lent for it. -/
theorem Backed.without (h : b.Backed) (hsound : b'.pool.Sound)
    (hport : ∀ i, b'.pool.port? i = if i = id ∧ ((b.tunnel? id).bind Tunnel.port).isSome = true then none
      else b.pool.port? i)
    (htunnel : ∀ i, (b'.tunnel? i).bind Tunnel.port = if i = id then none else (b.tunnel? i).bind Tunnel.port) :
    b'.Backed := by
  refine ⟨hsound, fun {i p} hi => ?_⟩
  rw [htunnel] at hi
  split at hi
  · cases hi
  · rename_i hne
    rw [hport, if_neg (fun hc => hne hc.1)]
    exact h.lent hi

theorem Backed.close (h : b.Backed) (id : EnvironmentId) : (b.close id).Backed := by
  refine h.without (sound_pool_close h.pool id) (b.port?_close id) (fun i => ?_)
  rw [tunnel?_close]
  split
  · cases b.tunnel? id <;> rfl
  · rfl

theorem Backed.drop (h : b.Backed) (id : EnvironmentId) : (b.drop id).Backed := by
  refine h.without (sound_pool_drop h.pool id) (b.port?_drop id) (fun i => ?_)
  rw [tunnel?_drop]
  split <;> rfl

theorem Backed.change (h : b.Backed) (hc : Change issuer known strands b b') : b'.Backed := by
  cases hc with
  | begin now _ _ => exact h.keep nofun
  | lend _ ht hr => exact (h.reserve ht hr).2
  | ask ht _ hr =>
    obtain ⟨hp, hb⟩ := h.reserve ht hr
    exact hb.keep (fun p hq => by cases hq; exact hp)
  | activate now seconds ht hr =>
    obtain ⟨hp, hb⟩ := h.reserve ht hr
    exact hb.keep (fun p hq => by cases hq; exact hp)
  | use now seconds ht hp => exact h.keep (fun p hq => h.lent (by rw [ht]; exact hq))
  | close id => exact h.close id
  | drop id => exact h.drop id
  | count => exact ⟨h.pool, h.lent⟩
  | setKeepAlive seconds => exact ⟨h.pool, h.lent⟩

theorem Backed.changes (h : b.Backed) (hc : Changes issuer known strands b b') : b'.Backed :=
  hc.inv (fun _ _ h hc => h.change hc) h

theorem Change.range (hc : Change issuer known strands b b') : b'.pool.range = b.pool.range := by
  have hreserve : ∀ {id t port c}, b.reserve? id t = some (port, c) → c.pool.range = b.pool.range := by
    intro id t port c hr
    cases reserved hr <;> rfl
  cases hc with
  | lend _ _ hr => exact (hreserve hr :)
  | ask _ _ hr => exact (hreserve hr :)
  | activate _ _ _ hr => exact (hreserve hr :)
  | close id => exact b.range_close id
  | drop id => exact b.range_drop id
  | _ => rfl

theorem Changes.range (hc : Changes issuer known strands b b') : b'.pool.range = b.pool.range :=
  hc.inv (I := fun c => c.pool.range = b.pool.range) (fun _ _ h hc => hc.range.trans h) rfl

/-! ## What accounting tells -/

def openTunnels (b : TunnelBoard) : Table EnvironmentId Tunnel := b.tunnels.filter (fun _ t => t.phase ≠ .idle)

/-- The free ports and the tunnels that are not idle make up the range. -/
theorem Accounted.free_add_open (h : b.Accounted) : b.pool.free.length + b.openTunnels.size = b.pool.range.size := by
  -- A tunnel is open exactly where a port is lent, so there are as many of the one as of the other.
  have hk : ∀ id, b.openTunnels.contains id = b.pool.lent.contains id := by
    intro id
    change ((b.tunnels.filter _).get? id).isSome = (b.pool.port? id).isSome
    rw [h.held, Table.get?_filter]
    change ((b.tunnel? id).filter _).isSome = _
    cases ht : b.tunnel? id with
    | none => rfl
    | some t =>
      have hs := (h.tunnel ht).port
      rw [Bool.eq_iff_iff, Option.bind_some, hs]
      simp
  rw [Table.size_eq_of_contains hk, h.pool.free_add_lent]

end TunnelBoard

namespace Coordinator

open Attempt

variable {issuer : Issuer} {now : Instant} {s s₀ : Coordinator} {id : EnvironmentId} {calls : List (Instant × Call)}
  {allowed : Coordinator → Instant → Call → Prop}

/-! ## Runs of calls -/

theorem range_after (h : Run (Call.step issuer) allowed s₀ calls s) : s.board.pool.range = s₀.board.pool.range :=
  h.inv (fun s => s.board.pool.range = s₀.board.pool.range) rfl
    (fun s now call hs _ => (changes_step issuer now call s).range.trans hs)

theorem backed_after (h : Run (Call.step issuer) allowed s₀ calls s) (hs : s₀.board.Backed) : s.board.Backed :=
  h.inv (fun s => s.board.Backed) hs (fun s now call hs _ => hs.changes (changes_step issuer now call s))

theorem accounted_after (h : Run (Call.step issuer) (fun s now call => ¬ call.Strands issuer now s) s₀ calls s)
    (hs : s₀.board.Accounted) : s.board.Accounted :=
  h.inv (fun s => s.board.Accounted) hs (fun s now call hs hc => hs.changes hc (changes_step issuer now call s))

theorem not_accounted_of_strands_require (h : s.board.Accounted)
    (hs : s.Strands now id ((require issuer now id).run s).1) :
    ¬ ((require issuer now id).run s).2.board.Accounted := by
  obtain ⟨hnone, hu, hcrash⟩ := hs
  have hr := requiring issuer now id s
  generalize (require issuer now id).run s = r at hcrash hr
  intro hacc
  cases hr with
  | unread _ ht hc =>
    rcases hu with hu | hu
    · rw [hc] at hu; cases hu
    · rw [ht] at hu; cases hu
  | @cutOff t port b _ ht _ hres _ =>
    -- The tunnel holds no port, so the one that it was lent is held by nobody.
    have hport : t.port = none := by
      rcases ht with ht | ⟨-, -, rfl⟩
      · rw [ht] at hnone; exact hnone
      · rfl
    have heq : s.board.pool.port? id = t.port := by rw [h.held, hnone, hport]
    obtain ⟨-, -, hlent⟩ := TunnelBoard.reserve?_eq_some h.pool heq hres
    have hkept : b.pool.port? id = t.port := hacc.port?_eq (b.tunnel?_keep_self id t)
    rw [hlent, if_pos rfl, hport] at hkept
    cases hkept
  | _ => cases hcrash

/-- What a call strands is no longer accounted for: the pool lends a port that no tunnel holds. -/
theorem not_accounted_of_strands {call : Call} (h : s.board.Accounted) (hs : call.Strands issuer now s) :
    ¬ ((call.step issuer now).run s).2.board.Accounted := by
  obtain ⟨id, hid, hs⟩ := hs
  cases call with
  | require i =>
    cases hid
    exact not_accounted_of_strands_require h hs
  | await i =>
    cases hid
    rw [Call.step, run_await] at hs ⊢
    split
    · rename_i hc
      rw [if_pos hc] at hs
      exact not_accounted_of_strands_require (s := s.looked id) h hs
    · rename_i hc
      rw [if_neg hc] at hs
      obtain ⟨-, -, hcrash⟩ := hs
      split at hcrash <;> cases hcrash
  | _ => cases hid

/-- In every run that strands no port, from a coordinator without tunnels: the pool and the tunnels
agree on every port, and the free ports and the tunnels that are not idle make up the range. The next
call ends that exactly if it strands a port. -/
theorem accounted_of_run (range : PortRange) (keepAlive : Nat) (census : Census) (jobs : JobBoard)
    {calls : List (Instant × Call)}
    (h : Run (Call.step issuer) (fun s now call => ¬ call.Strands issuer now s)
      ⟨census, .empty range keepAlive, jobs⟩ calls s) :
    s.board.Accounted ∧ s.board.pool.range = range ∧ s.board.pool.available = s.board.pool.free.length ∧
      s.board.pool.free.length + s.board.openTunnels.size = range.size ∧
      ∀ (now : Instant) (call : Call), ((call.step issuer now).run s).2.board.Accounted ↔
        ¬ call.Strands issuer now s := by
  have hacc := accounted_after h (TunnelBoard.accounted_empty range keepAlive)
  have hrange : s.board.pool.range = range := range_after h
  refine ⟨hacc, hrange, hacc.pool.available_eq, hrange ▸ hacc.free_add_open, fun now call => ⟨fun hn hs => ?_,
    fun hs => ?_⟩⟩
  · exact not_accounted_of_strands hacc hs hn
  · exact hacc.changes hs (changes_step issuer now call s)

/-- An issuer of credentials that are valid for an hour. -/
def hourly : Issuer := ⟨Utf8.bytes "secret", .ofSeconds 3600⟩

/-- A coordinator without tunnels that knows one environment. -/
def knowing (id : EnvironmentId) : Coordinator :=
  ⟨⟨Table.insert ∅ id (), none⟩, .empty ⟨9000, 9009, by decide⟩ 300, .empty⟩

/-- A coordinator without tunnels that knows two environments and has a range of ports for both. -/
def sharing (range : PortRange) : Coordinator :=
  ⟨⟨(Table.insert ∅ ⟨7⟩ ()).insert ⟨17⟩ (), none⟩, .empty range 300, .empty⟩

/-- A tunnel that is asked for and opened is accounted for, and leaves one port less free. -/
theorem accounted_of_opened : ∃ s,
    Run (Call.step hourly) (fun s now call => ¬ call.Strands hourly now s) (knowing ⟨7⟩)
      [(.ofSeconds 10, .require ⟨7⟩), (.ofSeconds 20, .activate ⟨7⟩)] s ∧
    s.board.status ⟨7⟩ = .active ∧ s.board.Accounted ∧ s.board.pool.available = 9 := by
  have hrequire : ¬ (Call.require ⟨7⟩).Strands hourly (.ofSeconds 10) (knowing ⟨7⟩) := by
    rintro ⟨id, hid, -, -, hcrash⟩
    cases hid
    revert hcrash
    decide +kernel
  have hactivate : ∀ s, ¬ (Call.activate ⟨7⟩).Strands hourly (.ofSeconds 20) s := by
    rintro s ⟨id, hid, -⟩
    cases hid
  refine ⟨_, (Run.nil.snoc _ _ hrequire).snoc _ _ (hactivate _), by decide +kernel, ?_, by decide +kernel⟩
  exact (accounted_of_run _ _ _ _ ((Run.nil.snoc _ _ hrequire).snoc _ _ (hactivate _))).1

/-- Asking for an idle tunnel while the clock stands before the epoch leaves the tunnel idle and its
port lent. -/
theorem port_stranded_before_epoch : ∃ s,
    Run (Call.step hourly) (fun _ now _ => (now.plus? hourly.validity).isSome = true) (knowing ⟨7⟩)
      [(.ofSeconds 10, .activate ⟨7⟩), (.ofSeconds 20, .stop ⟨7⟩), (.ofSeconds (-1), .require ⟨7⟩)] s ∧
    s.board.status ⟨7⟩ = .idle ∧ (s.board.tunnel? ⟨7⟩).bind Tunnel.port = none ∧
    s.board.pool.port? ⟨7⟩ = some 9007 ∧ s.board.pool.available = 9 :=
  ⟨_, ((Run.nil.snoc _ _ (by decide)).snoc _ _ (by decide)).snoc _ _ (by decide), by decide +kernel,
    by decide +kernel, by decide +kernel, by decide +kernel⟩

end Coordinator

end EdgeFleet
