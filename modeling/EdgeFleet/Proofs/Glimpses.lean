import EdgeFleet.Proofs.Expiry
/-!
# An environment on its own

What a call does to an environment, its ports aside, depends on the tunnel of this environment, on the clock and
on the look-ups that the call makes (`matches_of_concerns`). So an environment is a machine of its own: a `Glimpse`,
which a call changes and answers from by itself (`Call.alone`). The look-ups of a call are counted from how it ends
(`Call.lookUps`), and they are those by which it leaves the census (`census_step`). An environment on its own is given
more answers than a call may need: it reads those of the look-ups that the call makes, and leaves the others.
-/

namespace EdgeFleet

namespace Tunnel

/-- The tunnel without its ports. -/
def portless (t : Tunnel) : Tunnel := { t with port := none, previousPort := none }

end Tunnel

namespace Coordinator

open Attempt
open TunnelBoard (AgreeBut)

/-! ## What is told about one environment -/

/-- The answer to a call about one environment, as far as it does not depend on others: ports and jobs are left
out. -/
inductive Answer where
  | nothing
  | flag (b : Bool)
  | status (status : TunnelStatus)
  | shown (status : TunnelStatus) (lastActivity : Timestamp) (credentials : Option String)
deriving DecidableEq

/-- The details of a tunnel without its port and without jobs. -/
def Answer.ofDetails (d : TunnelDetails) : Answer := shown d.status d.lastActivity d.credentials

namespace Call

/-- Whether a call concerns an environment: it is about it, or about all of them. A new census does not, but
for what it makes the look-ups of the environment answer. -/
def concerns (id : EnvironmentId) (call : Call) : Bool :=
  match call with
  | sweep | sweepAt _ | setKeepAlive _ => true
  | setCensus _ => false
  | _ => call.subject? = some id

/-- Carries out a call and tells what it answers about an environment. -/
def tell (issuer : Issuer) (now : Instant) (id : EnvironmentId) : Call → Step Answer
  | require i => (fun _ => .nothing) <$> Coordinator.require issuer now i
  | activate i => (fun _ => .nothing) <$> Coordinator.activate now i
  | stop i => (fun _ => .nothing) <$> Coordinator.stop i
  | drop i => (fun _ => .nothing) <$> Coordinator.drop i
  | keepAlive i seconds => .flag <$> Coordinator.keepAlive now i seconds
  | status i => .status <$> Coordinator.status i
  | details i => .ofDetails <$> Coordinator.details now i
  | sweep => (fun ids => .flag (ids.contains id)) <$> Coordinator.sweep now
  | sweepAt moment => (fun ids => .flag (ids.contains id)) <$> Coordinator.sweepAt moment
  | await i => (fun _ => .nothing) <$> Coordinator.await issuer now i
  | look i => (fun d? => (d?.map .ofDetails).getD .nothing) <$> Coordinator.look now i
  | setKeepAlive seconds => (fun _ => .nothing) <$> onBoard (fun b => { b with keepAlive := seconds })
  | setCensus census => (fun _ => .nothing) <$> Attempt.change (fun s => { s with census })

end Call

/-! ## Look-ups -/

/-- The answers to so many look-ups of an environment, up to the first that does not find it. -/
def looks (id : EnvironmentId) : Nat → Coordinator → List Bool
  | 0, _ => []
  | n + 1, s => if s.sees id then true :: looks id n (s.looked id) else [false]

/-- Whether a step on a tunnel ends before it looks up the environment once more. -/
def cutShort : Outcome TunnelError Unit → Bool
  | .crashed | .refused (.noFreePort _) => true
  | _ => false

/-- How many look-ups a request for a tunnel makes after its first. -/
def requireFurther (issuer : Issuer) (now : Instant) (id : EnvironmentId) (s : Coordinator) : Nat :=
  if s.board.status id = .required ∨ cutShort ((require issuer now id).run s).1 then 0 else 1

/-- How many look-ups a call makes of the environment that it is about, if each of them finds it. -/
def Call.lookUps (issuer : Issuer) (now : Instant) (s : Coordinator) : Call → Nat
  | require id => requireFurther issuer now id s + 1
  | activate id => (if cutShort ((Coordinator.activate now id).run s).1 then 0 else 1) + 1
  | stop _ | keepAlive _ _ | status _ | details _ => 1
  | await id => (if s.board.status id = .idle then requireFurther issuer now id (s.looked id) + 1 else 0) + 1
  | look id => (if s.board.status id = .active then 1 else 0) + 1
  | drop _ | sweep | sweepAt _ | setKeepAlive _ | setCensus _ => 0

/-! ## An environment on its own -/

/-- What concerns one environment alone: its tunnel without the ports, and how long an open one stays so. -/
structure Glimpse where
  tunnel : Option Tunnel
  keepAlive : Nat
deriving DecidableEq

def glimpse (s : Coordinator) (id : EnvironmentId) : Glimpse :=
  ⟨(s.board.tunnel? id).map Tunnel.portless, s.board.keepAlive⟩

/-- How a call ends for an environment on its own: what it answers, what it leaves of the environment, and the answers
to look-ups that it did not read. -/
structure Ending where
  outcome : Outcome TunnelError Answer
  glimpse : Glimpse
  unread : List Bool

namespace Glimpse

variable (now : Instant) (id : EnvironmentId)

def status (g : Glimpse) : TunnelStatus := (g.tunnel.map (·.phase.status)).getD .idle

/-- Reads the answer to a look-up, goes on with the others if it finds the environment, and is refused if not. -/
def known (g : Glimpse) (looks : List Bool) (f : List Bool → Ending) : Ending :=
  match looks with
  | true :: looks => f looks
  | _ => ⟨.refused (.unknownEnvironment id), g, looks.tail⟩

/-- The tunnel that a step takes up, unless the clock cannot be read for it. -/
def taken? (g : Glimpse) : Option Tunnel := g.tunnel <|> if now.isReadable then some (.fresh now) else none

/-- The end of a step that leaves a tunnel, or drops it where the environment is not found any more. -/
def settle (g : Glimpse) (t : Tunnel) (looks : List Bool) : Ending :=
  { g with tunnel := none }.known id looks (fun looks => ⟨.done .nothing, { g with tunnel := some t }, looks⟩)

def require (issuer : Issuer) (g : Glimpse) (looks : List Bool) : Ending :=
  match g.taken? now with
  | none => ⟨.crashed, g, looks⟩
  | some t =>
    if t.phase = .required then ⟨.done .nothing, g, looks⟩
    else
      match t.credentialsAt? issuer now id with
      | none => ⟨.crashed, { g with tunnel := some t }, looks⟩
      | some c => g.settle id { t with phase := .required, credentials := some c } looks

def activate (g : Glimpse) (looks : List Bool) : Ending :=
  match now.isReadable, g.taken? now with
  | true, some t =>
    g.settle id { t with phase := .active (TunnelBoard.deadline now g.keepAlive), lastActivity := now } looks
  | _, _ => ⟨.crashed, g, looks⟩

def extend (seconds : Nat) (g : Glimpse) (looks : List Bool) : Ending :=
  match g.tunnel.bind (fun t => t.phase.deadline?.map (t, ·)) with
  | some (t, deadline) =>
    if now.isReadable then ⟨.done (.flag true), { g with tunnel := some (t.used deadline now seconds) }, looks⟩
    else ⟨.crashed, g, looks⟩
  | none => ⟨.done (.flag false), g, looks⟩

def details (g : Glimpse) : Outcome TunnelError Answer :=
  match g.taken? now with
  | some t => .done (.ofDetails (t.shown []))
  | none => .crashed

def sweepAt (moment : Instant) (g : Glimpse) (looks : List Bool) : Ending :=
  if g.tunnel.any (fun t => t.phase.isOver moment) then
    ⟨.done (.flag true), { g with tunnel := g.tunnel.map Tunnel.closed }, looks⟩
  else ⟨.done (.flag false), g, looks⟩

end Glimpse

/-- What a call does to an environment on its own, by the answers to the look-ups that it can make. -/
def Call.alone (issuer : Issuer) (now : Instant) (id : EnvironmentId) (g : Glimpse) (looks : List Bool) : Call → Ending
  | require _ => g.known id looks (g.require now id issuer)
  | activate _ => g.known id looks (g.activate now id)
  | stop _ => g.known id looks (⟨.done .nothing, { g with tunnel := g.tunnel.map Tunnel.closed }, ·⟩)
  | drop _ => ⟨.done .nothing, { g with tunnel := none }, looks⟩
  | keepAlive _ seconds => g.known id looks (g.extend now seconds)
  | status _ => g.known id looks (⟨.done (.status g.status), g, ·⟩)
  | details _ => g.known id looks (⟨g.details now, g, ·⟩)
  | sweep => if now.isReadable then g.sweepAt now looks else ⟨.crashed, g, looks⟩
  | sweepAt moment => g.sweepAt moment looks
  | await _ =>
    g.known id looks (fun looks =>
      if g.status = .idle then g.known id looks (g.require now id issuer) else ⟨.done .nothing, g, looks⟩)
  | look _ =>
    g.known id looks (fun looks =>
      if g.status = .active then g.known id looks (⟨g.details now, g, ·⟩) else ⟨.done .nothing, g, looks⟩)
  | setKeepAlive seconds => ⟨.done .nothing, { g with keepAlive := seconds }, looks⟩
  | setCensus _ => ⟨.done .nothing, g, looks⟩

/-! ## Every call does what it does to the environment alone -/

variable {issuer : Issuer} {now : Instant} {id : EnvironmentId} {s s' : Coordinator} {b : TunnelBoard} {t : Tunnel}

theorem status_glimpse (s : Coordinator) (id : EnvironmentId) : (s.glimpse id).status = s.board.status id := by
  unfold glimpse Glimpse.status TunnelBoard.status
  cases s.board.tunnel? id <;> rfl

theorem glimpse_eq (hk : b.keepAlive = s.board.keepAlive) :
    (s'.withBoard b).glimpse id = { s.glimpse id with tunnel := (b.tunnel? id).map Tunnel.portless } := by
  unfold glimpse
  rw [board_withBoard, hk]

theorem known_looks (g : Glimpse) (n : Nat) (s : Coordinator) (more : List Bool) (f : List Bool → Ending) :
    g.known id (looks id (n + 1) s ++ more) f =
      if s.sees id then f (looks id n (s.looked id) ++ more) else ⟨.refused (.unknownEnvironment id), g, more⟩ := by
  rw [looks]
  cases s.sees id <;> rfl

theorem taken?_glimpse (h : s.board.Refers now id t) : (s.glimpse id).taken? now = some t.portless := by
  unfold glimpse Glimpse.taken?
  rcases h with h | ⟨hn, hc, rfl⟩
  · rw [h]
    rfl
  · rw [hn, hc]
    rfl

theorem taken?_glimpse_of_none (h : s.board.tunnel? id = none) (hc : now.isReadable = false) :
    (s.glimpse id).taken? now = none := by
  unfold glimpse Glimpse.taken?
  rw [h, hc]
  rfl

theorem status_of_refers (h : b.Refers now id t) : b.status id = t.phase.status := by
  rcases h with h | ⟨hn, -, rfl⟩
  · exact TunnelBoard.status_of_tunnel? h
  · exact TunnelBoard.status_of_none hn

/-- A look-up at the end of a step settles what it leaves. -/
theorem settle_looks (g : Glimpse) (t : Tunnel) (s : Coordinator) (more : List Bool) :
    g.settle id t (looks id 1 s ++ more) =
      if s.sees id then ⟨.done .nothing, { g with tunnel := some t }, more⟩
      else ⟨.refused (.unknownEnvironment id), { g with tunnel := none }, more⟩ := by
  rw [Glimpse.settle, known_looks]
  rfl

/-- A request that takes up a tunnel that is not yet asked for, and is not cut short, looks once more. -/
theorem requireFurther_eq_one (ht : s.board.Refers now id t) (hp : t.phase ≠ .required)
    (hcut : cutShort ((require issuer now id).run s).1 = false) : requireFurther issuer now id s = 1 := by
  refine if_neg (fun h => ?_)
  rcases h with h | h
  · rw [status_of_refers ht] at h
    cases hphase : t.phase <;> simp_all [Phase.status]
  · rw [hcut] at h
    cases h

theorem requireFurther_of_cutShort (h : cutShort ((require issuer now id).run s).1 = true) :
    requireFurther issuer now id s = 0 :=
  if_pos (.inr h)

theorem requireFurther_of_standing (ht : s.board.tunnel? id = some t) (hp : t.phase = .required) :
    requireFurther issuer now id s = 0 := by
  refine if_pos (.inl ?_)
  rw [TunnelBoard.status_of_tunnel? ht, hp]
  rfl

theorem require_of_refers (ht : s.board.Refers now id t) (hp : t.phase ≠ .required) (looks : List Bool) :
    (s.glimpse id).require now id issuer looks =
      match t.credentialsAt? issuer now id with
      | none => ⟨.crashed, { s.glimpse id with tunnel := some t.portless }, looks⟩
      | some c => (s.glimpse id).settle id { t.portless with phase := .required, credentials := some c } looks := by
  rw [Glimpse.require, taken?_glimpse ht]
  exact if_neg hp

theorem activate_of_refers (hc : now.isReadable = true) (ht : s.board.Refers now id t) (looks : List Bool) :
    (s.glimpse id).activate now id looks =
      (s.glimpse id).settle id (t.opened now s.board.keepAlive 0).portless looks := by
  rw [Glimpse.activate, hc, taken?_glimpse ht]
  rfl

/-- What a call answers and leaves of an environment is what it does to the environment alone, which reads the answers
to the look-ups that the call makes and no more. -/
def Matches (issuer : Issuer) (now : Instant) (id : EnvironmentId) (s : Coordinator) (call : Call) : Prop :=
  ∀ more, call.alone issuer now id (s.glimpse id) (looks id (call.lookUps issuer now s) s ++ more) =
    ⟨((call.tell issuer now id).run s).1, ((call.tell issuer now id).run s).2.glimpse id, more⟩

theorem matches_require (hport : ∀ range, ((require issuer now id).run s).1 ≠ .refused (.noFreePort range)) :
    Matches issuer now id s (.require id) := by
  have hr := requiring issuer now id s
  intro more
  rw [Call.alone, Call.lookUps, known_looks, Call.tell, run_map]
  generalize hrun : (require issuer now id).run s = r at hr hport ⊢
  cases hr with
  | unknown hs =>
    rw [hs]
    rfl
  | unread hs ht hc =>
    rw [if_pos hs, requireFurther_of_cutShort (by rw [hrun]; rfl), Glimpse.require, taken?_glimpse_of_none ht hc]
    rfl
  | standing hs ht hp =>
    rw [if_pos hs, requireFurther_of_standing ht hp, Glimpse.require, taken?_glimpse (.inl ht)]
    exact if_pos hp
  | exhausted => exact absurd rfl (hport _)
  | @cutOff t port b hs ht hp hr hc =>
    have hboard : (b.keep id t).keepAlive = s.board.keepAlive := (AgreeBut.reserve hr).keepAlive
    rw [if_pos hs, requireFurther_of_cutShort (by rw [hrun]; rfl), require_of_refers ht hp, hc, glimpse_eq hboard,
      TunnelBoard.tunnel?_keep_self]
    rfl
  | @forgotten t port b c hs ht hp hr hc hs' =>
    have hboard : ((b.keep id (t.asked port c)).drop id).keepAlive = s.board.keepAlive :=
      (AgreeBut.drop _ id).keepAlive.trans (AgreeBut.reserve hr).keepAlive
    rw [if_pos hs, requireFurther_eq_one ht hp (by rw [hrun]; rfl), require_of_refers ht hp, hc, glimpse_eq hboard,
      TunnelBoard.tunnel?_drop_self]
    exact (settle_looks _ _ _ more).trans (if_neg (by simp [hs']))
  | @asked t port b c hs ht hp hr hc hs' =>
    have hboard : (b.keep id (t.asked port c)).keepAlive = s.board.keepAlive := (AgreeBut.reserve hr).keepAlive
    rw [if_pos hs, requireFurther_eq_one ht hp (by rw [hrun]; rfl), require_of_refers ht hp, hc, glimpse_eq hboard,
      TunnelBoard.tunnel?_keep_self]
    exact (settle_looks _ _ _ more).trans (if_pos hs')

theorem matches_activate (hport : ∀ range, ((activate now id).run s).1 ≠ .refused (.noFreePort range)) :
    Matches issuer now id s (.activate id) := by
  have hr := activating now id s
  intro more
  rw [Call.alone, Call.lookUps, known_looks, Call.tell, run_map]
  generalize (activate now id).run s = r at hr hport ⊢
  cases hr with
  | unknown hs =>
    rw [hs]
    rfl
  | unread hs hc =>
    rw [if_pos hs, Glimpse.activate, hc]
    rfl
  | exhausted => exact absurd rfl (hport _)
  | @forgotten t port b hs hc ht hr hs' =>
    have hboard : ((b.keep id (t.opened now b.keepAlive port)).drop id).keepAlive = s.board.keepAlive :=
      (AgreeBut.drop _ id).keepAlive.trans (AgreeBut.reserve hr).keepAlive
    rw [if_pos hs, activate_of_refers hc ht, glimpse_eq hboard, TunnelBoard.tunnel?_drop_self]
    exact (settle_looks _ _ _ more).trans (if_neg (by simp [hs']))
  | @opened t port b hs hc ht hr hs' =>
    have hkeep : b.keepAlive = s.board.keepAlive := (AgreeBut.reserve hr).keepAlive
    have hafter : (b.keep id (t.opened now b.keepAlive port)).tunnel? id = some (t.opened now b.keepAlive port) :=
      b.tunnel?_keep_self id _
    rw [if_pos hs, activate_of_refers hc ht, ← hkeep]
    refine ((settle_looks _ _ _ more).trans (if_pos hs')).trans ?_
    simp only [glimpse, board_withBoard, ← hkeep]
    exact congrArg (fun t? => Ending.mk _ (Glimpse.mk (t?.map Tunnel.portless) b.keepAlive) more) hafter.symm

theorem matches_stop : Matches issuer now id s (.stop id) := by
  intro more
  rw [Call.alone, Call.lookUps, known_looks, Call.tell, run_map, run_stop]
  cases s.sees id with
  | false => rfl
  | true =>
    have hboard : (s.board.close id).keepAlive = s.board.keepAlive := (AgreeBut.close s.board id).keepAlive
    rw [if_pos rfl, if_pos rfl, glimpse_eq hboard, TunnelBoard.tunnel?_close, if_pos rfl]
    unfold glimpse
    cases s.board.tunnel? id <;> rfl

theorem matches_drop : Matches issuer now id s (.drop id) := by
  intro more
  rw [Call.alone, Call.tell, run_map, drop, run_onBoard]
  have hboard : (s.board.drop id).keepAlive = s.board.keepAlive := (AgreeBut.drop s.board id).keepAlive
  rw [glimpse_eq hboard, TunnelBoard.tunnel?_drop_self]
  rfl

theorem extend_of_active {deadline : Instant} {seconds : Nat} (ht : s.board.tunnel? id = some t)
    (hp : t.phase = .active deadline) (looks : List Bool) :
    (s.glimpse id).extend now seconds looks =
      if now.isReadable then
        ⟨.done (.flag true), { s.glimpse id with tunnel := some (t.used deadline now seconds).portless }, looks⟩
      else ⟨.crashed, s.glimpse id, looks⟩ := by
  have hopen : (s.glimpse id).tunnel.bind (fun t => t.phase.deadline?.map (t, ·)) = some (t.portless, deadline) := by
    simp [glimpse, ht, Tunnel.portless, hp, Phase.deadline?]
  rw [Glimpse.extend, hopen]
  rfl

theorem matches_keepAlive {seconds : Nat} : Matches issuer now id s (.keepAlive id seconds) := by
  have hr := extending now id seconds s
  intro more
  rw [Call.alone, Call.lookUps, known_looks, Call.tell, run_map]
  generalize (keepAlive now id seconds).run s = r at hr ⊢
  cases hr with
  | unknown hs =>
    rw [hs]
    rfl
  | inactive hs ht =>
    have hnone : (s.glimpse id).tunnel.bind (fun t => t.phase.deadline?.map (t, ·)) = none := by
      unfold glimpse
      cases hk : s.board.tunnel? id with
      | none => rfl
      | some t => cases hp : t.phase <;> simp_all [Tunnel.portless, Phase.deadline?]
    rw [if_pos hs, Glimpse.extend, hnone]
    rfl
  | @unread t deadline hs ht hp hc =>
    rw [if_pos hs, extend_of_active ht hp, hc]
    rfl
  | @extended t deadline hs ht hp hc =>
    have hboard : (s.board.keep id (t.used deadline now seconds)).keepAlive = s.board.keepAlive := rfl
    rw [if_pos hs, extend_of_active ht hp, hc, glimpse_eq hboard, TunnelBoard.tunnel?_keep_self]
    rfl

theorem matches_status : Matches issuer now id s (.status id) := by
  intro more
  rw [Call.alone, Call.lookUps, known_looks, Call.tell, run_map, run_status, status_glimpse]
  cases s.sees id <;> rfl

/-- What the details of a known environment tell depends on its tunnel alone, and on the clock where none is
kept. -/
theorem run_details_of_sees (hs : s.sees id = true) :
    (Answer.ofDetails <$> details now id : Step Answer).run s = ((s.glimpse id).details now, s.looked id) := by
  rw [run_map, Glimpse.details]
  cases ht : s.board.tunnel? id with
  | some t =>
    rw [run_details_of_tunnel? now hs ht, taken?_glimpse (.inl ht)]
    rfl
  | none =>
    have hnew := run_tunnelOf (s.looked id) now id
    rw [board_looked, ht] at hnew
    unfold details
    rw [run_bind_done (run_ensureKnown_of_sees hs)]
    cases hc : now.isReadable with
    | true =>
      rw [hc] at hnew
      rw [run_bind_done hnew, taken?_glimpse (.inr ⟨ht, hc, rfl⟩)]
      rfl
    | false =>
      rw [hc] at hnew
      rw [run_bind_crashed hnew, taken?_glimpse_of_none ht hc]
      rfl

theorem matches_details : Matches issuer now id s (.details id) := by
  intro more
  rw [Call.alone, Call.lookUps, known_looks, Call.tell]
  cases hs : s.sees id with
  | false =>
    rw [run_map, details, run_bind_refused (run_ensureKnown_of_not_sees hs)]
    rfl
  | true =>
    rw [run_details_of_sees hs]
    rfl

theorem contains_overdue (s : Coordinator) (id : EnvironmentId) (moment : Instant) :
    (s.board.overdue moment).contains id = (s.glimpse id).tunnel.any (fun t => t.phase.isOver moment) := by
  rw [Bool.eq_iff_iff, List.contains_iff_mem, TunnelBoard.mem_overdue, TunnelBoard.deadlineOf?, glimpse]
  cases s.board.tunnel? id with
  | none => simp
  | some t => exact Phase.isOver_iff.symm

theorem matches_sweepAt (moment : Instant) : Matches issuer now id s (.sweepAt moment) := by
  have hboard : (s.board.sweep moment).2.keepAlive = s.board.keepAlive := (TunnelBoard.foldl_close_rest _ s.board).2.1
  have hrun : ((Call.sweepAt moment).tell issuer now id).run s =
      (.done (.flag ((s.board.overdue moment).contains id)), s.withBoard (s.board.sweep moment).2) := rfl
  intro more
  rw [Call.alone, hrun, glimpse_eq hboard, TunnelBoard.tunnel?_sweep, Glimpse.sweepAt, ← contains_overdue]
  by_cases hover : id ∈ s.board.overdue moment
  · rw [if_pos hover, List.contains_iff_mem.2 hover]
    unfold glimpse
    cases s.board.tunnel? id <;> rfl
  · rw [if_neg hover, if_neg (by simpa using hover)]
    simp [hover, glimpse, Call.lookUps, looks]

theorem matches_sweep : Matches issuer now id s .sweep := by
  intro more
  rw [Call.alone, Call.tell, sweep]
  cases hc : now.isReadable with
  | false =>
    rw [run_map, run_bind_crashed (run_clock_of_not_isReadable hc s)]
    rfl
  | true =>
    rw [run_map, run_bind_done (run_clock_of_isReadable hc s), ← run_map]
    have hswept : Matches issuer now id s (.sweepAt now) := matches_sweepAt now
    exact hswept more

theorem matches_await (hport : ∀ range, ((await issuer now id).run s).1 ≠ .refused (.noFreePort range)) :
    Matches issuer now id s (.await id) := by
  intro more
  rw [Call.alone, Call.lookUps, known_looks, status_glimpse, Call.tell, run_map]
  have hrun := run_await issuer now id s
  cases hs : s.sees id with
  | false =>
    rw [if_neg (by simp [hs]), hs] at hrun
    rw [hrun]
    rfl
  | true =>
    by_cases hi : s.board.status id = .idle
    · rw [if_pos ⟨hs, hi⟩] at hrun
      rw [hrun] at hport ⊢
      rw [if_pos rfl, if_pos hi, if_pos hi]
      have hrequire := matches_require hport more
      rw [Call.tell, run_map] at hrequire
      exact hrequire
    · rw [if_neg (fun h => hi h.2), hs] at hrun
      rw [hrun, if_pos rfl, if_neg hi, if_neg hi]
      rfl

theorem matches_look : Matches issuer now id s (.look id) := by
  intro more
  rw [Call.alone, Call.lookUps, known_looks, status_glimpse, Call.tell, run_map]
  cases hs : s.sees id with
  | false =>
    rw [look, run_bind_refused (run_status_of_not_sees hs)]
    rfl
  | true =>
    by_cases ha : s.board.status id = .active
    · have hrun : (look now id).run s = (some <$> details now id : Step _).run (s.looked id) := by
        rw [look, run_bind_done (run_status_of_sees hs), if_pos ha]
        rfl
      have hdetails : Matches issuer now id (s.looked id) (.details id) := matches_details
      have hshown := hdetails more
      rw [Call.tell, run_map] at hshown
      rw [if_pos rfl, if_pos ha, if_pos ha, hrun, run_map]
      refine hshown.trans ?_
      cases ((details now id).run (s.looked id)).1 <;> rfl
    · rw [look, run_bind_done (run_status_of_sees hs), if_pos rfl, if_neg ha, if_neg ha, if_neg ha]
      rfl

theorem refused_of_map {α : Type} {x : Step α} {f : α → Answer}
    (h : ∀ range, ((f <$> x).run s).1 ≠ .refused (.noFreePort range)) (range : PortRange) :
    (x.run s).1 ≠ .refused (.noFreePort range) := by
  intro hx
  refine h range ?_
  rw [run_map, hx]
  rfl

/-- A call that concerns an environment, and is not refused for want of a port, does what it does to the
environment alone. -/
theorem matches_of_concerns {call : Call} (hc : call.concerns id = true)
    (hport : ∀ range, ((call.tell issuer now id).run s).1 ≠ .refused (.noFreePort range)) :
    Matches issuer now id s call := by
  have hown : ∀ i, call.subject? = some i → call.concerns id = true → i = id := by
    intro i hi hc
    cases call with
    | sweep | sweepAt | setKeepAlive | setCensus => cases hi
    | _ =>
      cases hi
      simpa [Call.concerns, Call.subject?] using hc
  cases call with
  | require i =>
    cases hown i rfl hc
    exact matches_require (refused_of_map hport)
  | activate i =>
    cases hown i rfl hc
    exact matches_activate (refused_of_map hport)
  | stop i =>
    cases hown i rfl hc
    exact matches_stop
  | drop i =>
    cases hown i rfl hc
    exact matches_drop
  | keepAlive i seconds =>
    cases hown i rfl hc
    exact matches_keepAlive
  | status i =>
    cases hown i rfl hc
    exact matches_status
  | details i =>
    cases hown i rfl hc
    exact matches_details
  | sweep => exact matches_sweep
  | sweepAt moment => exact matches_sweepAt moment
  | await i =>
    cases hown i rfl hc
    exact matches_await (refused_of_map hport)
  | look i =>
    cases hown i rfl hc
    exact matches_look
  | setKeepAlive seconds => exact fun _ => rfl
  | setCensus => cases hc

theorem snd_run_tell (issuer : Issuer) (now : Instant) (id : EnvironmentId) (call : Call) (s : Coordinator) :
    ((call.tell issuer now id).run s).2 = ((call.step issuer now).run s).2 := by
  cases call <;> simp [Call.tell, Call.step, Attempt.ignored]

/-- A call that does not concern an environment leaves it as it is. -/
theorem glimpse_of_not_concerns {call : Call} (hc : call.concerns id = false) :
    ((call.step issuer now).run s).2.glimpse id = s.glimpse id := by
  have hother : ∀ i, call.subject? = some i → ((call.step issuer now).run s).2.glimpse id = s.glimpse id := by
    intro i hi
    have hne : id ≠ i := by
      rintro rfl
      cases call <;> simp_all [Call.concerns, Call.subject?]
    have hagree : AgreeBut i s.board ((call.step issuer now).run s).2.board := agreeBut_step hi
    unfold glimpse
    rw [hagree.tunnel hne, hagree.keepAlive]
  cases call with
  | sweep | sweepAt | setKeepAlive => cases hc
  | setCensus => rfl
  | _ => exact hother _ rfl

/-! ## The look-ups of a call -/

/-- The coordinator after so many look-ups of an environment, up to the first that does not find it. -/
def passed (id : EnvironmentId) (n : Nat) (s : Coordinator) : Coordinator :=
  (looks id n s).foldl (fun s _ => s.looked id) s

theorem passed_succ (id : EnvironmentId) (n : Nat) (s : Coordinator) :
    passed id (n + 1) s = if s.sees id then passed id n (s.looked id) else s.looked id := by
  unfold passed
  rw [looks]
  cases s.sees id <;> rfl

theorem census_require :
    ((require issuer now id).run s).2.census = (passed id (requireFurther issuer now id s + 1) s).census := by
  have hr := requiring issuer now id s
  rw [passed_succ]
  generalize hrun : (require issuer now id).run s = r at hr ⊢
  cases hr with
  | unknown hs =>
    rw [hs]
    rfl
  | unread hs | exhausted hs | cutOff hs =>
    rw [if_pos hs, requireFurther_of_cutShort (by rw [hrun]; rfl)]
    rfl
  | standing hs ht hp =>
    rw [if_pos hs, requireFurther_of_standing ht hp]
    rfl
  | forgotten hs ht hp hr hc hs' =>
    rw [if_pos hs, requireFurther_eq_one ht hp (by rw [hrun]; rfl), passed_succ, hs']
    rfl
  | asked hs ht hp hr hc hs' =>
    rw [if_pos hs, requireFurther_eq_one ht hp (by rw [hrun]; rfl), passed_succ, if_pos hs']
    rfl

/-- The look-ups that a call is said to make are those that it makes. -/
theorem census_step {call : Call} (hc : call.subject? = some id) :
    ((call.step issuer now).run s).2.census = (passed id (call.lookUps issuer now s) s).census := by
  cases call with
  | sweep | sweepAt | setKeepAlive | setCensus => cases hc
  | require i =>
    cases hc
    exact census_require
  | activate i =>
    cases hc
    have hr := activating now id s
    rw [Call.step, Call.lookUps, passed_succ]
    generalize (activate now id).run s = r at hr ⊢
    cases hr with
    | unknown hs =>
      rw [hs]
      rfl
    | unread hs | exhausted hs =>
      rw [if_pos hs]
      rfl
    | forgotten hs _ _ _ hs' =>
      rw [if_pos hs]
      exact ((congrArg census (passed_succ id 0 _)).trans (by rw [hs']; rfl)).symm
    | opened hs _ _ _ hs' =>
      rw [if_pos hs]
      exact ((congrArg census (passed_succ id 0 _)).trans (by rw [hs']; rfl)).symm
  | stop i =>
    cases hc
    rw [Call.step, Call.lookUps, passed_succ, run_stop]
    cases s.sees id <;> rfl
  | drop i =>
    cases hc
    rfl
  | keepAlive i seconds =>
    cases hc
    have hr := extending now id seconds s
    rw [Call.step, snd_run_ignored, Call.lookUps, passed_succ]
    generalize (keepAlive now id seconds).run s = r at hr ⊢
    cases hr with
    | unknown hs =>
      rw [hs]
      rfl
    | inactive hs | unread hs | extended hs =>
      rw [if_pos hs]
      rfl
  | status i =>
    cases hc
    rw [Call.step, snd_run_ignored, Call.lookUps, passed_succ, run_status]
    cases s.sees id <;> rfl
  | details i =>
    cases hc
    rw [Call.step, snd_run_ignored, Call.lookUps, passed_succ, snd_run_details]
    cases s.sees id <;> rfl
  | await i =>
    cases hc
    rw [Call.step, Call.lookUps, passed_succ]
    have hrun := run_await issuer now id s
    cases hs : s.sees id with
    | false =>
      rw [if_neg (by simp [hs])] at hrun
      rw [hrun]
      rfl
    | true =>
      by_cases hi : s.board.status id = .idle
      · rw [if_pos ⟨hs, hi⟩] at hrun
        rw [hrun, if_pos rfl, if_pos hi]
        exact census_require
      · rw [if_neg (fun h => hi h.2)] at hrun
        rw [hrun, if_pos rfl, if_neg hi]
        rfl
  | look i =>
    cases hc
    rw [Call.step, snd_run_ignored, Call.lookUps, passed_succ, look]
    cases hs : s.sees id with
    | false =>
      rw [run_bind_refused (run_status_of_not_sees hs)]
      rfl
    | true =>
      rw [run_bind_done (run_status_of_sees hs), if_pos rfl]
      by_cases ha : s.board.status id = .active
      · rw [if_pos ha, if_pos ha, passed_succ]
        change ((some <$> details now id : Step _).run (s.looked id)).2.census = _
        rw [run_map, snd_run_details]
        cases (s.looked id).sees id <;> rfl
      · rw [if_neg ha, if_neg ha]
        rfl

end Coordinator

end EdgeFleet
