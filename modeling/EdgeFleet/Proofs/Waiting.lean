import EdgeFleet.Proofs.Moments
import EdgeFleet.Proofs.Requests
/-!
# Waiting for a tunnel

One who waits for a tunnel asks for it first if it is idle, and then looks at every moment at which a tunnel was
activated. The wait ends with what the first of these moments decides (`awaited_of_run`), and what is done meanwhile
goes as if nobody waited. A wait is cut off as it begins where the credentials that it asks for cannot be made, and also
where it ends past the last second that the timer can show (`cut_off_by_long_wait`).
-/

namespace EdgeFleet

namespace Tunnel

variable {issuer : Issuer} {now : Instant} {id : EnvironmentId} {t : Tunnel}

/-- Credentials cannot be made for a tunnel that holds none where the clock cannot be read, or where the calendar ends
before their validity. -/
theorem readable_of_credentialsAt? {c : Credentials} (ht : t.credentials = none)
    (h : t.credentialsAt? issuer now id = some c) :
    now.isReadable = true ∧ (now.plus? issuer.validity).isSome = true := by
  unfold credentialsAt? at h
  cases hr : now.isReadable with
  | false =>
    rw [hr, if_neg nofun] at h
    cases h
  | true =>
    rw [hr, if_pos rfl, if_neg (by simp [hasFreshCredentials, ht])] at h
    obtain ⟨e, _, hissued⟩ := Issuer.issued_of_issue? h
    exact ⟨rfl, by rw [hissued.plus]; rfl⟩

end Tunnel

namespace Coordinator

open Attempt

variable {issuer : Issuer} {now : Instant} {id : EnvironmentId} {s s' : Coordinator}

/-! ## How a wait begins -/

/-- Whether a tunnel is idle that cannot be asked for because every port is lent. -/
structure Exhausted (s : Coordinator) (now : Instant) (id : EnvironmentId) : Prop where
  sees : s.sees id = true
  idle : s.board.status id = .idle
  /-- The tunnel is taken up: one is kept, or the clock can be read for a fresh one. -/
  refers : (s.board.tunnel? id).isSome = true ∨ now.isReadable = true
  portless : s.board.pool.port? id = none
  full : s.board.pool.free = []

/-- Whether a tunnel is idle for which credentials are to be made and cannot be. -/
structure Unmade (s : Coordinator) (issuer : Issuer) (now : Instant) (id : EnvironmentId) : Prop where
  sees : s.sees id = true
  idle : s.board.status id = .idle
  notExhausted : ¬ s.Exhausted now id
  unmakable : now.isReadable = false ∨ now.plus? issuer.validity = none

/-- The ends of a request that a wait begins with, if the look-ups on the way answer alike. -/
inductive Begins (issuer : Issuer) (now : Instant) (id : EnvironmentId) (s : Coordinator) :
    Outcome TunnelError Unit × Coordinator → Prop
  | unknown {s' : Coordinator} (hs : s.sees id = false) : Begins issuer now id s (.refused (.unknownEnvironment id), s')
  /-- The tunnel is not idle, and nothing is asked for. -/
  | standing (hs : s.sees id = true) (hi : s.board.status id ≠ .idle) : Begins issuer now id s (.done (), s.looked id)
  | exhausted {s' : Coordinator} (he : s.Exhausted now id) :
      Begins issuer now id s (.refused (.noFreePort s.board.pool.range), s')
  | unmade {s' : Coordinator} (hu : s.Unmade issuer now id) : Begins issuer now id s (.crashed, s')
  | asked {s' : Coordinator} (hs : s.sees id = true) (hi : s.board.status id = .idle) (he : ¬ s.Exhausted now id)
      (hu : ¬ s.Unmade issuer now id) (hs' : s'.sees id = true) (hr : s'.board.status id = .required) :
      Begins issuer now id s (.done (), s')

theorem idle_of_refers {b : TunnelBoard} {t : Tunnel} (hb : b.Issued issuer) (hi : b.status id = .idle)
    (ht : b.Refers now id t) : t.phase = .idle ∧ t.port = none ∧ t.credentials = none := by
  have hsound : t.Sound := by
    rcases ht with ht | ⟨-, -, rfl⟩
    · exact hb.tunnel ht
    · exact Tunnel.sound_fresh now
  have hidle : t.phase = .idle := by
    rw [status_of_refers ht] at hi
    cases hp : t.phase with
    | idle => rfl
    | _ =>
      rw [hp] at hi
      cases hi
  refine ⟨hidle, ?_, hsound.idle hidle⟩
  cases hport : t.port with
  | none => rfl
  | some port => exact absurd hidle (hsound.port.1 (by rw [hport]; rfl))

/-- A request for an idle tunnel finds no port exactly if every port is lent. -/
theorem reserve?_eq_none_iff {t : Tunnel} (hb : s.board.Issued issuer) (hs : s.sees id = true)
    (hi : s.board.status id = .idle) (ht : s.board.Refers now id t) :
    s.board.reserve? id t = none ↔ s.Exhausted now id := by
  rw [TunnelBoard.reserve?, (idle_of_refers hb hi ht).2.1, Option.map_eq_none_iff, PortPool.lend_eq_none_iff]
  refine ⟨fun h => ⟨hs, hi, ?_, h.1, h.2⟩, fun h => ⟨h.portless, h.full⟩⟩
  rcases ht with ht | ⟨-, hc, -⟩
  · exact .inl (by rw [ht]; rfl)
  · exact .inr hc

/-- A request for an idle tunnel, if the look-ups on the way find the environment. -/
theorem begins_of_idle (hb : s.board.Issued issuer) (hi : s.board.status id = .idle)
    (hk : looks id 4 s = List.replicate 4 true) :
    Begins issuer now id s ((require issuer now id).run (s.looked id)) := by
  obtain ⟨hs, h3⟩ := sees_of_looks hk
  obtain ⟨hs₁, h2⟩ := sees_of_looks h3
  obtain ⟨hs₂, h1⟩ := sees_of_looks h2
  obtain ⟨hs₃, -⟩ := sees_of_looks h1
  have hr := requiring issuer now id (s.looked id)
  generalize (require issuer now id).run (s.looked id) = r at hr
  have hlent : ∀ {t port b}, s.board.Refers now id t → s.board.reserve? id t = some (port, b) →
      ¬ s.Exhausted now id := by
    intro t port b ht hr he
    rw [(reserve?_eq_none_iff hb hs hi ht).2 he] at hr
    cases hr
  cases hr with
  | unknown hs' => exact absurd (hs₁.symm.trans hs') nofun
  | unread _ ht hc =>
    refine .unmade ⟨hs, hi, fun he => ?_, .inl hc⟩
    rcases he.refers with hk | hk
    · rw [show s.board.tunnel? id = none from ht] at hk
      cases hk
    · rw [hc] at hk
      cases hk
  | standing _ ht hp =>
    rw [TunnelBoard.status_of_tunnel? (show s.board.tunnel? id = _ from ht), hp] at hi
    cases hi
  | exhausted _ ht _ hr => exact .exhausted ((reserve?_eq_none_iff hb hs hi ht).1 hr)
  | @cutOff t port b _ ht _ hr hc =>
    refine .unmade ⟨hs, hi, hlent ht hr, ?_⟩
    by_contra hno
    obtain ⟨hread, hplus⟩ := not_or.1 hno
    have hsome := t.isSome_credentialsAt? id (Bool.of_not_eq_false hread) (Option.isSome_iff_ne_none.2 hplus)
    rw [hc] at hsome
    cases hsome
  | forgotten _ _ _ _ _ hs' => exact absurd (hs₂.symm.trans hs') nofun
  | @asked t port b c _ ht _ hr hc =>
    obtain ⟨hread, hplus⟩ := Tunnel.readable_of_credentialsAt? (idle_of_refers hb hi ht).2.2 hc
    refine .asked hs hi (hlent ht hr) (fun hu => ?_) hs₃ ?_
    · rcases hu.unmakable with hc | hc
      · rw [hread] at hc
        cases hc
      · rw [hc] at hplus
        cases hplus
    · exact TunnelBoard.status_of_tunnel? (b.tunnel?_keep_self id _)

theorem begins (hb : s.board.Issued issuer) (hk : LooksAlike id 4 s) :
    Begins issuer now id s ((await issuer now id).run s) := by
  rw [run_await]
  cases hs : s.sees id with
  | false =>
    rw [if_neg (by simp)]
    exact .unknown hs
  | true =>
    by_cases hi : s.board.status id = .idle
    · rw [if_pos ⟨rfl, hi⟩]
      exact begins_of_idle hb hi (hk.of_sees hs)
    · rw [if_neg (fun h => hi h.2), if_pos rfl]
      exact .standing hs hi

end Coordinator

namespace Script

open Attempt
open Coordinator (Call LooksAlike)

variable {issuer : Issuer} {id : EnvironmentId} {s : Coordinator} {w : World Refusal Coordinator}

/-! ## What the beginning comes to -/

/-- Whether a wait for so many seconds is cut off as it begins: credentials that it asks for cannot be made, or the
timer, which shows the time of the beginning, cannot show that of the end. -/
def CutOff (issuer : Issuer) (id : EnvironmentId) (seconds : Nat) (w : World Refusal Coordinator) : Prop :=
  w.state.Unmade issuer w.now id ∨
    (w.state.sees id = true ∧ ¬ w.state.Exhausted w.now id) ∧ lastSecond < w.timer / 1000 + seconds

theorem CutOff.sees {seconds : Nat} (h : CutOff issuer id seconds w) : w.state.sees id = true := by
  rcases h with h | h
  · exact h.sees
  · exact h.1.1

theorem CutOff.not_exhausted {seconds : Nat} (h : CutOff issuer id seconds w) : ¬ w.state.Exhausted w.now id := by
  rcases h with h | h
  · exact h.notExhausted
  · exact h.1.2

theorem endOf_rename (o : Outcome TunnelError (Option TunnelDetails)) (n : Nat) :
    endOf (o.rename Refusal.tunnel (fun d? => (n, d?))) = ending (o.rename Refusal.tunnel (fun d? => d?)) := by
  rcases o with ⟨_ | d⟩ | e | _ <;> rfl

theorem lengthOf_rename {o : Outcome TunnelError (Option TunnelDetails)} {n : Nat}
    (h : endOf (o.rename Refusal.tunnel (fun d? => (n, d?))) = none) :
    lengthOf (o.rename Refusal.tunnel (fun d? => (n, d?))) = n := by
  rcases o with d? | e | _
  · rfl
  · cases h
  · cases h

/-- What the beginning of a wait comes to, if the look-ups on the way answer alike. -/
inductive Opens (issuer : Issuer) (id : EnvironmentId) (seconds : Nat) (w : World Refusal Coordinator) :
    Outcome Refusal (Nat × Option TunnelDetails) → Prop
  | exhausted (he : w.state.Exhausted w.now id) :
      Opens issuer id seconds w (.refused (.tunnel (.noFreePort w.state.board.pool.range)))
  | cutOff (hc : CutOff issuer id seconds w) : Opens issuer id seconds w .crashed
  /-- The wait ends at once if the moment decides it, and else lasts as long as was said. -/
  | waits {o : Outcome Refusal (Nat × Option TunnelDetails)} (he : ¬ w.state.Exhausted w.now id)
      (hc : ¬ CutOff issuer id seconds w) (hend : endOf o = decided id w.state)
      (hlength : endOf o = none → lengthOf o = seconds) : Opens issuer id seconds w o

/-- Where the request is answered, the wait begins unless the timer cannot show its end. -/
theorem opens_of_answered {s' : Coordinator} (seconds : Nat) (hs : w.state.sees id = true)
    (he : ¬ w.state.Exhausted w.now id) (hu : ¬ w.state.Unmade issuer w.now id)
    (hlook : ending (((Coordinator.look w.now id).run s').1.rename Refusal.tunnel (fun d? => d?)) =
      decided id w.state) :
    Opens issuer id seconds w (Prod.fst (if lastSecond < w.timer / 1000 + seconds then (.crashed, s') else
      (((Coordinator.look w.now id).run s').1.rename .tunnel (fun d? => (seconds, d?)),
        ((Coordinator.look w.now id).run s').2))) := by
  by_cases hl : lastSecond < w.timer / 1000 + seconds
  · rw [if_pos hl]
    exact .cutOff (.inr ⟨⟨hs, he⟩, hl⟩)
  · rw [if_neg hl]
    refine .waits he (fun hc => ?_) ?_ lengthOf_rename
    · rcases hc with hc | hc
      · exact hu hc
      · exact hl hc.2
    · rw [endOf_rename, hlook]

theorem opens (seconds : Option Nat) (hb : w.state.board.Issued issuer) (hk : LooksAlike id 4 w.state) :
    Opens issuer id (seconds.getD 0) w (opening (tunnelPlane issuer) id seconds w).1 := by
  have hrun := run_beginWait issuer w.now w.timer id seconds w.state
  have hbegins : Coordinator.Begins issuer w.now id w.state _ := Coordinator.begins hb hk
  change Opens issuer id (seconds.getD 0) w
    ((beginWait (tunnelPlane issuer) w.now w.timer id seconds).run w.state).1
  rw [hrun]
  generalize (Coordinator.await issuer w.now id).run w.state = r at hbegins
  cases hbegins with
  | unknown hs =>
    refine .waits (fun he => ?_) (fun hc => ?_) (decided_of_not_sees hs).symm nofun
    · exact Bool.false_ne_true (hs.symm.trans he.sees)
    · exact Bool.false_ne_true (hs.symm.trans hc.sees)
  | standing hs hi =>
    obtain ⟨hs', hlooks⟩ := Coordinator.sees_of_looks (Coordinator.sees_of_looks (hk.of_sees hs)).2
    have hk' : LooksAlike id 2 (w.state.looked id) := by
      obtain ⟨hs₂, -⟩ := Coordinator.sees_of_looks hlooks
      right
      rw [Coordinator.looks, if_pos hs', Coordinator.looks, if_pos hs₂]
      rfl
    have hsame : decided id (w.state.looked id) = decided id w.state := by
      rw [decided, decided, hs, hs']
      rfl
    exact opens_of_answered _ hs (fun he => hi he.idle) (fun hu => hi hu.idle) ((ending_look w.now hk').trans hsame)
  | exhausted he => exact .exhausted he
  | unmade hu => exact .cutOff (.inl hu)
  | @asked s' hs hi he hu hs' hr =>
    refine opens_of_answered _ hs he hu ?_
    rw [Coordinator.run_look_of_not_active hs' (by rw [hr]; decide), decided_of_not_active hs (by rw [hi]; decide)]
    rfl

/-! ## A wait -/

section Wait

variable (issuer id)

/-- The coordinator after the request that a wait begins with, if it begins with one. -/
def requested (w : World Refusal Coordinator) : Coordinator :=
  if w.state.sees id = true ∧ w.state.board.status id = .idle then
    ((Coordinator.require issuer w.now id).run (w.state.looked id)).2
  else w.state

/-- The moments of a wait after its beginning: the ends of those steps that activated a tunnel before it elapsed, as one
who waits finds them when its turn comes. -/
def moments (seconds : Option Nat) (during : List (Step TunnelOp)) (w : World Refusal Coordinator) : List Coordinator :=
  wakesUntil (w.timer + 1000 * seconds.getD 0) w.state.board.activations
    (turns (tunnelPlane issuer) w.waiters (checksIn (tunnelPlane issuer) (.await id seconds during) w))

/-- How a wait ends, and whether with its beginning. -/
structure Ends (seconds : Option Nat) (during : List (Step TunnelOp)) (w : World Refusal Coordinator) (immediate : Bool)
    (outcome : Outcome Refusal TunnelDetails) : Prop where
  exhausted : w.state.Exhausted w.now id →
    immediate = true ∧ outcome = .refused (.tunnel (.noFreePort w.state.board.pool.range))
  cutOff : CutOff issuer id (seconds.getD 0) w → immediate = true ∧ outcome = .crashed
  crashed : outcome = .crashed → CutOff issuer id (seconds.getD 0) w
  /-- Any other wait ends with what the first moment tells that tells anything, or in vain. -/
  decided : ¬ w.state.Exhausted w.now id → ¬ CutOff issuer id (seconds.getD 0) w →
    immediate = (decided id w.state).isSome ∧ outcome = verdict id (w.state :: moments issuer id seconds during w)
  active : ∀ d, outcome = .done d → d.status = .active ∧ d.port.isSome = true
  inVain : outcome = .refused (.tunnel (.notActiveInTime id)) →
    ∀ s ∈ w.state :: moments issuer id seconds during w, s.sees id = true ∧ s.board.status id ≠ .active

/-- How a wait ends, and what it leaves. -/
structure Awaited (seconds : Option Nat) (during : List (Step TunnelOp)) (w : World Refusal Coordinator)
    (immediate : Bool) (answers : List (Answer Refusal Reply)) (outcome : Outcome Refusal TunnelDetails)
    (v : World Refusal Coordinator) : Prop where
  ends : Ends issuer id seconds during w immediate outcome
  /-- The beginning leaves what the request left, but for look-ups, and so does every check after it. -/
  beginning : OnlyLooked (requested issuer id w) (begun (tunnelPlane issuer) id seconds w).state
  checking : ∀ c ∈ checksIn (tunnelPlane issuer) (.await id seconds during) w,
    OnlyLooked c.state (settle (tunnelPlane issuer) c).state
  /-- Where look-ups are not numbered, the steps meanwhile go as they go after the request with nobody waiting, and
  leave the same world, but that the time of the wait may have passed. -/
  unnoticed : w.state.census.lookups = none →
    (∀ c ∈ checksIn (tunnelPlane issuer) (.await id seconds during) w, c.state.census.lookups = none) →
    answers = (steps (tunnelPlane issuer) during { w with state := requested issuer id w }).1 ∧
      v = { (steps (tunnelPlane issuer) during { w with state := requested issuer id w }).2 with timer := v.timer }

variable {issuer id}

theorem onlyLooked_begun (seconds : Option Nat) (w : World Refusal Coordinator) :
    OnlyLooked (requested issuer id w) (begun (tunnelPlane issuer) id seconds w).state := by
  refine .trans ?_ (onlyLooked_opening issuer id seconds w)
  rw [Coordinator.run_await, requested]
  split
  · exact .refl _
  · exact .looked w.state id

/-- Where look-ups are not numbered, the beginning of a wait leaves what its request left. -/
theorem opening_of_unnumbered (seconds : Option Nat) (h : w.state.census.lookups = none) :
    (opening (tunnelPlane issuer) id seconds w).2 = { w with state := requested issuer id w } := by
  have hawait : ((Coordinator.await issuer w.now id).run w.state).2 = requested issuer id w := by
    rw [Coordinator.run_await, requested]
    split
    · rfl
    · exact Coordinator.looked_of_unnumbered h
  have hcensus : (requested issuer id w).census.lookups = none := by
    rw [requested]
    split
    · rw [Coordinator.looked_of_unnumbered h, Coordinator.census_require_of_unnumbered h, h]
    · exact h
  have hstate : ((beginWait (tunnelPlane issuer) w.now w.timer id seconds).run w.state).2 =
      requested issuer id w := by
    rw [run_beginWait]
    rw [← hawait] at hcensus ⊢
    generalize (Coordinator.await issuer w.now id).run w.state = r at hcensus
    rcases r with ⟨_ | e | _, s'⟩
    · dsimp only
      split
      · rfl
      · exact Coordinator.snd_run_look_of_unnumbered hcensus
    · rfl
    · rfl
  exact congrArg (fun state => { w with state }) hstate

theorem quiet_of_unnumbered {c : World Refusal Coordinator} (h : c.state.census.lookups = none) :
    Quiet (tunnelPlane issuer) c := by
  intro x
  cases hx : x.ended with
  | some o => rw [check_of_ended hx]
  | none =>
    rw [check_of_waiting hx, glance]
    split
    · exact Coordinator.snd_run_look_of_unnumbered h
    · rfl

/-! ## How a wait ends -/

variable {seconds : Option Nat} {during : List (Step TunnelOp)}

/-- One who waited, after the steps that were carried out meanwhile. -/
def awaiter (issuer : Issuer) (id : EnvironmentId) (seconds : Option Nat) (during : List (Step TunnelOp))
    (w : World Refusal Coordinator) : Waiter Refusal :=
  (turns (tunnelPlane issuer) w.waiters (checksIn (tunnelPlane issuer) (.await id seconds during) w)).foldl
    (looked (tunnelPlane issuer))
    (newcomer (tunnelPlane issuer) id (opening (tunnelPlane issuer) id seconds w).1
      (opening (tunnelPlane issuer) id seconds w).2)

theorem ended_awaiter_of_endOf {o : Outcome Refusal TunnelDetails}
    (h : endOf (opening (tunnelPlane issuer) id seconds w).1 = some o) :
    (awaiter issuer id seconds during w).ended = some o := by
  have hx : (newcomer (tunnelPlane issuer) id (opening (tunnelPlane issuer) id seconds w).1
    (opening (tunnelPlane issuer) id seconds w).2).ended = some o := h
  rw [awaiter, foldl_looked_of_ended hx, hx]

/-- The answer to a wait tells how it ended. -/
theorem step_await_eq (issuer : Issuer) (id : EnvironmentId) (seconds : Option Nat) (during : List (Step TunnelOp))
    (w : World Refusal Coordinator) :
    ∃ waited timer, step (tunnelPlane issuer) (.await id seconds during) w =
      (.awaited (endOf (opening (tunnelPlane issuer) id seconds w).1).isSome
          (steps (tunnelPlane issuer) during (begun (tunnelPlane issuer) id seconds w)).1 waited
          ((awaiter issuer id seconds during w).ended.getD (.refused (.tunnel (.notActiveInTime id)))),
        { (steps (tunnelPlane issuer) during (begun (tunnelPlane issuer) id seconds w)).2.without 0 with timer }) := by
  have hwaiters := waiters_steps (p := tunnelPlane issuer) during (begun (tunnelPlane issuer) id seconds w)
  change _ = List.foldl _ (_ :: w.waiters) _ at hwaiters
  rw [foldl_checked_cons] at hwaiters
  rw [step_await]
  generalize steps (tunnelPlane issuer) during (begun (tunnelPlane issuer) id seconds w) = r at hwaiters
  change r.2.waiters = awaiter issuer id seconds during w :: _ at hwaiters
  have hrest : r.2.without 0 = { r.2 with waiters := r.2.waiters.eraseIdx 0 } := rfl
  rw [hwaiters] at hrest
  rw [closing_eq hwaiters, hrest]
  cases hx : (awaiter issuer id seconds during w).ended with
  | some outcome => exact ⟨0, r.2.timer, rfl⟩
  | none =>
    have hend : (endOf (opening (tunnelPlane issuer) id seconds w).1).isSome = false := by
      cases ho : endOf (opening (tunnelPlane issuer) id seconds w).1 with
      | none => rfl
      | some e => exact nomatch (ended_awaiter_of_endOf ho).symm.trans hx
    exact ⟨lengthOf _, max r.2.timer _, by rw [hend]; rfl⟩

theorem leads_during (issuer : Issuer) (id : EnvironmentId) (seconds : Option Nat) (during : List (Step TunnelOp))
    (w : World Refusal Coordinator) :
    Leads issuer (begun (tunnelPlane issuer) id seconds w)
      (checksIn (tunnelPlane issuer) (.await id seconds during) w)
      (steps (tunnelPlane issuer) during (begun (tunnelPlane issuer) id seconds w)).2 :=
  leads_steps issuer during _ _ (.of_timer rfl (.refl _))

/-- A wait that its beginning does not end ends with what the first of its moments tells that tells anything. -/
theorem ended_awaiter_of_waits (hend : endOf (opening (tunnelPlane issuer) id seconds w).1 = none)
    (hlength : lengthOf (opening (tunnelPlane issuer) id seconds w).1 = seconds.getD 0)
    (hsteady : Steady id (moments issuer id seconds during w)) :
    (awaiter issuer id seconds during w).ended.getD (.refused (.tunnel (.notActiveInTime id))) =
      verdict id (moments issuer id seconds during w) := by
  have hseen := (later_begun issuer id seconds w).2
  have hdeadline : w.timer + 1000 * lengthOf (opening (tunnelPlane issuer) id seconds w).1 + 1 =
    w.timer + 1000 * seconds.getD 0 + 1 := by rw [hlength]
  rw [moments, ← hseen] at hsteady ⊢
  exact ended_of_leads (leads_during issuer id seconds during w) hend rfl rfl hdeadline (Nat.le_add_right _ _) hsteady

theorem issued_of_mem_moments (hb : w.state.board.Issued issuer) (h : s ∈ moments issuer id seconds during w) :
    s.board.Issued issuer := by
  obtain ⟨c, hc, rfl⟩ := List.mem_map.1 h
  obtain ⟨c₀, hc₀, -, hlooked⟩ := check_of_mem_turns (mem_of_wakes (List.mem_of_mem_filter hc))
  rw [hlooked.board]
  exact (leads_during issuer id seconds during w).issued ((later_begun issuer id seconds w).1.issued hb) c₀ hc₀

/-- Where look-ups are not numbered, one who waits is not noticed. -/
theorem steps_of_unnumbered (h : w.state.census.lookups = none)
    (hchecks : ∀ c ∈ checksIn (tunnelPlane issuer) (.await id seconds during) w, c.state.census.lookups = none) :
    steps (tunnelPlane issuer) during { w with state := requested issuer id w } =
      ((steps (tunnelPlane issuer) during (begun (tunnelPlane issuer) id seconds w)).1,
        (steps (tunnelPlane issuer) during (begun (tunnelPlane issuer) id seconds w)).2.without 0) := by
  have hsteps := steps_without during 0 (begun (tunnelPlane issuer) id seconds w)
    (fun c hc => quiet_of_unnumbered (hchecks c hc))
  rw [← hsteps, ← opening_of_unnumbered seconds h]
  rfl

/-- A wait that is neither refused nor cut off as it begins ends with what its first moment tells that tells
anything. -/
theorem ended_awaiter_eq_verdict (hend : endOf (opening (tunnelPlane issuer) id seconds w).1 = decided id w.state)
    (hlength : endOf (opening (tunnelPlane issuer) id seconds w).1 = none →
      lengthOf (opening (tunnelPlane issuer) id seconds w).1 = seconds.getD 0)
    (hsteady : decided id w.state = none → Steady id (moments issuer id seconds during w)) :
    (awaiter issuer id seconds during w).ended.getD (.refused (.tunnel (.notActiveInTime id))) =
      verdict id (w.state :: moments issuer id seconds during w) := by
  cases hd : decided id w.state with
  | some o =>
    rw [verdict_cons_of_some hd, ended_awaiter_of_endOf (hend.trans hd)]
    rfl
  | none =>
    rw [verdict_cons_of_none hd]
    rw [hd] at hend
    exact ended_awaiter_of_waits hend (hlength hend) (hsteady hd)

theorem ends_awaiter (hb : w.state.board.Issued issuer) (hk : LooksAlike id 4 w.state)
    (hsteady : ¬ w.state.Exhausted w.now id → ¬ CutOff issuer id (seconds.getD 0) w →
      decided id w.state = none → Steady id (moments issuer id seconds during w)) :
    Ends issuer id seconds during w (endOf (opening (tunnelPlane issuer) id seconds w).1).isSome
      ((awaiter issuer id seconds during w).ended.getD (.refused (.tunnel (.notActiveInTime id)))) := by
  have hatOnce : ∀ {o}, endOf (opening (tunnelPlane issuer) id seconds w).1 = some o →
      (endOf (opening (tunnelPlane issuer) id seconds w).1).isSome = true ∧
      (awaiter issuer id seconds during w).ended.getD (.refused (.tunnel (.notActiveInTime id))) = o := by
    intro o h
    rw [ended_awaiter_of_endOf h, h]
    exact ⟨rfl, rfl⟩
  have hopens := opens seconds hb hk
  generalize ho : (opening (tunnelPlane issuer) id seconds w).1 = o at hopens hatOnce ⊢
  cases hopens with
  | exhausted he =>
    have hend := hatOnce rfl
    refine ⟨fun _ => hend, fun hc => absurd he hc.not_exhausted, fun hd => ?_, fun hn => absurd he hn, fun d hd => ?_,
      fun hd => ?_⟩
    all_goals exact nomatch hend.2.symm.trans hd
  | cutOff hc =>
    have hend := hatOnce rfl
    refine ⟨fun he => absurd he hc.not_exhausted, fun _ => hend, fun _ => hc, fun _ hn => absurd hc hn, fun d hd => ?_,
      fun hd => ?_⟩
    all_goals exact nomatch hend.2.symm.trans hd
  | waits he hc hend hlength =>
    have hverdict := ended_awaiter_eq_verdict (ho ▸ hend) (ho ▸ hlength) (hsteady he hc)
    rw [hverdict, hend]
    have hissued : ∀ s ∈ w.state :: moments issuer id seconds during w, s.board.Issued issuer :=
      List.forall_mem_cons.2 ⟨hb, fun s hs => issued_of_mem_moments hb hs⟩
    exact ⟨fun h => absurd h he, fun h => absurd h hc, fun hd => absurd hd (verdict_ne_crashed _ _),
      fun _ _ => ⟨rfl, rfl⟩, fun d hd => verdict_eq_done hissued hd, verdict_eq_inVain⟩

/-- In every run each tunnel holds what its phase says. -/
theorem issued_of_run {range : PortRange} {keepAlive : Nat} {census : Census} {jobs : JobBoard}
    {calls : List (Instant × Call)}
    (h : Run (Call.step issuer) (fun _ _ _ => True) ⟨census, .empty range keepAlive, jobs⟩ calls s) :
    s.board.Issued issuer :=
  Coordinator.issued_after h (TunnelBoard.issued_empty issuer range keepAlive)

/-- One who waits for a tunnel, whatever is done meanwhile: if the look-ups at each moment answer alike, the wait ends
with what the first moment tells at which the tunnel is active or the environment not known, and in vain only if there
is none. It is refused at once where every port is lent. But it is cut off at once if the credentials that it asks for
cannot be made, and also if the timer, however long it has run, cannot show the second at which the wait ends. -/
theorem awaited_of_run (range : PortRange) (keepAlive : Nat) (census : Census) (jobs : JobBoard)
    {calls : List (Instant × Call)}
    (h : Run (Call.step issuer) (fun _ _ _ => True) ⟨census, .empty range keepAlive, jobs⟩ calls w.state)
    (hk : LooksAlike id 4 w.state)
    (hsteady : ¬ w.state.Exhausted w.now id → ¬ CutOff issuer id (seconds.getD 0) w →
      decided id w.state = none → Steady id (moments issuer id seconds during w)) :
    ∃ immediate answers waited outcome v,
      step (tunnelPlane issuer) (.await id seconds during) w = (.awaited immediate answers waited outcome, v) ∧
      Awaited issuer id seconds during w immediate answers outcome v := by
  obtain ⟨waited, timer, hstep⟩ := step_await_eq issuer id seconds during w
  refine ⟨_, _, waited, _, _, hstep, ends_awaiter (issued_of_run h) hk hsteady, onlyLooked_begun seconds w,
    fun c _ => ?_, fun hw hc => ?_⟩
  · exact onlyLooked_checkAll c.waiters c.now c.timer c.state
  · rw [steps_of_unnumbered hw hc]
    exact ⟨rfl, rfl⟩

end Wait

/-! ## Two waits -/

/-- A coordinator without tunnels that knows two environments. -/
def knowingTwo : Coordinator :=
  { Coordinator.knowing ⟨7⟩ with census := ⟨(Table.insert ∅ ⟨7⟩ ()).insert ⟨8⟩ (), none⟩ }

/-- A world in which one of them has an active tunnel, with a timer that has run for an hour. -/
def overTwo : World Refusal Coordinator :=
  ⟨(((Call.activate ⟨8⟩).step Coordinator.hourly (.ofSeconds 10)).run knowingTwo).2, .ofSeconds 20, 3600000, []⟩

theorem run_overTwo : Run (Call.step Coordinator.hourly) (fun _ _ _ => True) knowingTwo
    [(.ofSeconds 10, .activate ⟨8⟩)] overTwo.state :=
  Run.nil.snoc _ _ trivial

/-- The tunnel of one environment is opened anew, then that of the other, and the first is closed. -/
def stirring : List (Step TunnelOp) := [.act (.activate ⟨8⟩), .advance 2000, .act (.activate ⟨7⟩), .act (.stop ⟨8⟩)]

/-- One who is woken by the tunnel of another environment first is still told of the one that it waits for. -/
theorem awaited_past_another : ∃ answers waited outcome v,
    step (tunnelPlane Coordinator.hourly) (.await ⟨7⟩ (some 10) stirring) overTwo =
      (.awaited false answers waited outcome, v) ∧
    (∃ d, outcome = .done d ∧ d.status = .active ∧ d.port.isSome = true) ∧ v.state.board.status ⟨8⟩ = .idle := by
  have hlooks : ∀ s ∈ moments Coordinator.hourly ⟨7⟩ (some 10) stirring overTwo,
      s.census.lookups = none ∧ s.sees ⟨7⟩ = true := by decide +kernel
  have hactive : ∃ s ∈ moments Coordinator.hourly ⟨7⟩ (some 10) stirring overTwo, s.board.status ⟨7⟩ = .active := by
    decide +kernel
  have hk : LooksAlike ⟨7⟩ 4 overTwo.state := Coordinator.looksAlike_of_unnumbered (by decide +kernel) 3
  have hsteady : Steady ⟨7⟩ (moments Coordinator.hourly ⟨7⟩ (some 10) stirring overTwo) :=
    steady_of_unnumbered (fun s hs => (hlooks s hs).1)
  obtain ⟨immediate, answers, waited, outcome, v, hstep, hawaited⟩ :=
    awaited_of_run _ _ _ _ run_overTwo hk (fun _ _ _ => hsteady)
  have hcut : ¬ CutOff Coordinator.hourly ⟨7⟩ 10 overTwo := by
    rintro (hu | ⟨-, hl⟩)
    · exact absurd hu.unmakable (by decide)
    · exact absurd hl (by decide)
  obtain ⟨himmediate, houtcome⟩ := hawaited.ends.decided (fun he => absurd he.full (by decide +kernel)) hcut
  obtain ⟨d, hd⟩ := verdict_of_known (List.forall_mem_cons.2 ⟨by decide +kernel, fun s hs => (hlooks s hs).2⟩)
    (hactive.imp (fun s hs => ⟨List.mem_cons_of_mem overTwo.state hs.1, hs.2⟩))
  rw [hd] at houtcome
  rw [show (decided ⟨7⟩ overTwo.state).isSome = false by decide +kernel] at himmediate
  obtain ⟨-, hv⟩ := hawaited.unnoticed (by decide +kernel) (by decide +kernel)
  refine ⟨answers, waited, outcome, v, himmediate ▸ hstep, ⟨d, houtcome, hawaited.ends.active d houtcome⟩, ?_⟩
  have hidle : (steps (tunnelPlane Coordinator.hourly) stirring
      { overTwo with state := requested Coordinator.hourly ⟨7⟩ overTwo }).2.state.board.status ⟨8⟩ = .idle := by
    decide +kernel
  rw [hv]
  exact hidle

/-- A wait whose end the timer cannot show is cut off at once, though the tunnel becomes active right after. -/
theorem cut_off_by_long_wait : ∃ answers waited v,
    step (tunnelPlane Coordinator.hourly) (.await ⟨7⟩ (some 9223372036854775808) [.act (.activate ⟨7⟩)]) overTwo =
      (.awaited true answers waited .crashed, v) ∧
    v.state.board.status ⟨7⟩ = .active ∧
    (moments Coordinator.hourly ⟨7⟩ (some 9223372036854775808) [.act (.activate ⟨7⟩)] overTwo).map
      (fun s => (s.sees ⟨7⟩, s.board.status ⟨7⟩)) = [(true, .active)] ∧
    (overTwo.now.isReadable = true ∧ (overTwo.now.plus? Coordinator.hourly.validity).isSome = true) := by
  have hk : LooksAlike ⟨7⟩ 4 overTwo.state := Coordinator.looksAlike_of_unnumbered (by decide +kernel) 3
  have hcut : CutOff Coordinator.hourly ⟨7⟩ 9223372036854775808 overTwo :=
    .inr ⟨⟨by decide +kernel, fun he => absurd he.full (by decide +kernel)⟩, by decide⟩
  obtain ⟨waited, timer, hstep⟩ := step_await_eq Coordinator.hourly ⟨7⟩ (some 9223372036854775808)
    [.act (.activate ⟨7⟩)] overTwo
  have hends : Ends Coordinator.hourly ⟨7⟩ (some 9223372036854775808) [.act (.activate ⟨7⟩)] overTwo _ _ :=
    ends_awaiter (issued_of_run run_overTwo) hk (fun _ hn => absurd hcut hn)
  obtain ⟨himmediate, houtcome⟩ := hends.cutOff hcut
  have hactive : (steps (tunnelPlane Coordinator.hourly) [.act (.activate ⟨7⟩)]
      (begun (tunnelPlane Coordinator.hourly) ⟨7⟩ (some 9223372036854775808) overTwo)).2.state.board.status ⟨7⟩ =
      .active := by
    decide +kernel
  rw [himmediate, houtcome] at hstep
  exact ⟨_, waited, _, hstep, hactive, by decide +kernel, by decide, by decide⟩

end Script

end EdgeFleet
