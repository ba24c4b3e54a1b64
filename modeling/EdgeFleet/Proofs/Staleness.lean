import EdgeFleet.Proofs.Expiry
import EdgeFleet.Tunnel.Sweeper
import Mathlib.Algebra.GroupWithZero.Nat
/-!
# How long an open tunnel outlives its deadline

The ticks of a sweeper are no further apart than its interval, and each of them closes what is overdue. So from
its first tick on no tunnel is open a whole interval past its deadline, as long as the clock can be read at every
tick (`watched_of_steps`). The first tick at which it cannot is the last one. A sweeper that was told to end before its
first turn closes nothing, for a stored signal comes before any tick.
-/

namespace EdgeFleet

/-- A tick that is due sets the next one no later than an interval after it. -/
theorem Ticker.next_fired_le {t : Ticker} {timer : Nat} (h : t.isDue timer = true) :
    (t.fired timer).next ≤ timer + t.interval := by
  have hdue : t.next ≤ timer := of_decide_eq_true h
  unfold fired
  split <;> simp only <;> omega

/-- A sweep leaves a tunnel without a deadline, and the port lent to its environment. -/
theorem TunnelBoard.sweep_of_not_open {b : TunnelBoard} {id : EnvironmentId} (h : b.deadlineOf? id = none)
    (moment : Instant) :
    (b.sweep moment).2.tunnel? id = b.tunnel? id ∧ (b.sweep moment).2.pool.port? id = b.pool.port? id := by
  have hover : id ∉ b.overdue moment := fun hid => by
    obtain ⟨d, hd, -⟩ := mem_overdue.1 hid
    rw [h] at hd
    cases hd
  rw [tunnel?_sweep, port?_sweep, if_neg hover, if_neg (fun hc => hover hc.1)]
  exact ⟨rfl, rfl⟩

namespace Sweeper

variable {s s₀ s' : Sweeper} {ticker : Ticker} {ms interval next since : Nat}

/-! ## A turn of the loop, and a step of time -/

/-- The ends of a turn of the loop. -/
inductive Turning (s : Sweeper) : Sweeper → Prop
  /-- No turn can come any more. -/
  | stopped (hs : ∀ ticker, s.sweeping ≠ .at ticker) : Turning s s
  | told {ticker : Ticker} (hs : s.sweeping = .at ticker) (hq : s.signalled = true) :
      Turning s { s with sweeping := .ended, signalled := false }
  | early {ticker : Ticker} (hs : s.sweeping = .at ticker) (hq : s.signalled = false) (hd : s.timer < ticker.next) :
      Turning s s
  | swept {ticker : Ticker} (hs : s.sweeping = .at ticker) (hq : s.signalled = false)
      (hd : ticker.isDue s.timer = true) (hc : s.now.isReadable = true) :
      Turning s { s with sweeping := .at (ticker.fired s.timer), board := (s.board.sweep s.now).2 }
  | broke {ticker : Ticker} (hs : s.sweeping = .at ticker) (hq : s.signalled = false)
      (hd : ticker.isDue s.timer = true) (hc : s.now.isReadable = false) :
      Turning s { s with sweeping := .broken }

theorem turning (s : Sweeper) : Turning s s.turn := by
  obtain ⟨sweeping, now, timer, board, signalled⟩ := s
  cases sweeping with
  | ended | broken => exact .stopped nofun
  | «at» ticker =>
    cases signalled with
    | true => exact .told rfl rfl
    | false =>
      change Turning _ (if ticker.isDue timer then tick _ ticker else _)
      cases hd : ticker.isDue timer with
      | false => exact .early rfl rfl (Nat.lt_of_not_le (of_decide_eq_false hd))
      | true =>
        change Turning _ (if now.isReadable then _ else _)
        cases hc : now.isReadable with
        | false => exact .broke rfl rfl hd hc
        | true => exact .swept rfl rfl hd hc

/-- A stored signal to end comes before a tick, so a turn that takes it up closes nothing, and no tick follows. -/
theorem turn_of_signalled (h : s.signalled = true) :
    s.turn.board = s.board ∧ ∀ ticker, s.turn.sweeping ≠ .at ticker := by
  have hturn := turning s
  generalize s.turn = s' at hturn
  cases hturn with
  | stopped hs => exact ⟨rfl, hs⟩
  | told => exact ⟨rfl, nofun⟩
  | early _ hq | swept _ hq | broke _ hq => exact Bool.noConfusion (h.symm.trans hq)

/-- The first turn of the loop comes before the first tick. -/
theorem board_start (interval : Nat) (now : Instant) (timer : Nat) (board : TunnelBoard) (signalled : Bool) :
    (start interval now timer board signalled).board = board := by
  have hturn := turning ⟨.start interval timer, now, timer, board, signalled⟩
  change (turn _).board = board
  generalize turn _ = s' at hturn
  cases hturn with
  | stopped | told | early | broke => rfl
  | @swept ticker hs _ hd =>
    have hfirst : Ticker.start interval timer = ticker := by
      change (if interval = 0 then _ else _) = _ at hs
      split at hs
      · cases hs
      · exact Sweeping.at.inj hs
    subst hfirst
    exact absurd (of_decide_eq_true hd) (Nat.not_succ_le_self timer)

theorem stepping (s : Sweeper) (ms : Nat) : Turning (s.waited ms) (s.step ms) := turning (s.waited ms)

/-- Whether a step of time breaks the sweeper: a tick is due at its end, and the clock cannot be read. -/
def Breaks (s : Sweeper) (ms : Nat) : Prop :=
  s.signalled = false ∧ ∃ ticker, s.sweeping = .at ticker ∧ ticker.isDue (s.timer + ms) = true ∧
    (s.now.later ms).isReadable = false

theorem timer_step (s : Sweeper) (ms : Nat) : (s.step ms).timer = s.timer + ms := by
  have h := stepping s ms
  generalize s.step ms = s' at h
  cases h <;> rfl

theorem now_step (s : Sweeper) (ms : Nat) : (s.step ms).now = s.now.later ms := by
  have h := stepping s ms
  generalize s.step ms = s' at h
  cases h <;> rfl

/-- A sweeper is broken after a step of time if it was before, or if the step breaks it. -/
theorem broken_step_iff : (s.step ms).sweeping = .broken ↔ s.sweeping = .broken ∨ s.Breaks ms := by
  have h := stepping s ms
  generalize s.step ms = s' at h
  cases h with
  | stopped hs =>
    refine ⟨.inl, ?_⟩
    rintro (hb | ⟨-, ticker, ht, -⟩)
    · exact hb
    · exact absurd ht (hs ticker)
  | told hs hq =>
    refine ⟨nofun, ?_⟩
    rintro (hb | ⟨hq', -⟩)
    · exact nomatch (show Sweeping.at _ = .broken from hs.symm.trans hb)
    · exact Bool.noConfusion (hq'.symm.trans hq)
  | @early ticker hs hq hd =>
    refine ⟨.inl, ?_⟩
    rintro (hb | ⟨-, u, hu, hdue, -⟩)
    · exact hb
    · cases hu.symm.trans hs
      exact absurd (of_decide_eq_true hdue) (Nat.not_le_of_lt hd)
  | swept hs hq hd hc =>
    refine ⟨nofun, ?_⟩
    rintro (hb | ⟨-, u, -, -, hu⟩)
    · exact nomatch (show Sweeping.at _ = .broken from hs.symm.trans hb)
    · exact Bool.noConfusion (hu.symm.trans hc)
  | broke hs hq hd hc => exact ⟨fun _ => .inr ⟨hq, _, hs, hd, hc⟩, fun _ => rfl⟩

/-! ## Between ticks -/

/-- Whether the board was swept some milliseconds ago, less than an interval, and the next tick is due at most
an interval after that sweep. -/
structure SweptAgo (s : Sweeper) (ticker : Ticker) (since : Nat) : Prop where
  recent : since < ticker.interval
  next : ticker.next + since ≤ s.timer + ticker.interval
  /-- What was open then was not overdue. -/
  deadline : ∀ {id d}, s.board.deadlineOf? id = some d → s.now.nanos - since * 1000000 ≤ d.nanos

/-- Whether a sweeper goes on: nothing told it to end, and it waits for its first tick, or swept less than an interval
ago. -/
def GoesOn (interval first : Nat) (s : Sweeper) : Prop :=
  s.signalled = false ∧ ∃ ticker, s.sweeping = .at ticker ∧ ticker.interval = interval ∧
    (ticker.next = first ∨ ∃ since, s.SweptAgo ticker since)

/-- A sweep leaves no tunnel open that is overdue. -/
theorem le_of_sweep {b : TunnelBoard} {moment d : Instant} {id : EnvironmentId}
    (h : (b.sweep moment).2.deadlineOf? id = some d) : moment.nanos ≤ d.nanos := by
  have hnone := b.overdue_sweep (Int.le_refl moment.nanos : moment ≤ moment)
  by_contra hlt
  have hover : id ∈ (b.sweep moment).2.overdue moment := TunnelBoard.mem_overdue.2 ⟨d, h, Int.lt_of_not_ge hlt⟩
  rw [hnone] at hover
  cases hover

/-- A step of time leaves a sweeper going on, or breaks it. Where its first tick is due by then, the last sweep
is less than an interval ago. -/
theorem GoesOn.step {first : Nat} (h : GoesOn interval first s) (hpos : 0 < interval) (ms : Nat) :
    (s.step ms).sweeping = .broken ∨ GoesOn interval first (s.step ms) ∧
      (first ≤ s.timer + ms → ∃ ticker since, ticker.interval = interval ∧ (s.step ms).SweptAgo ticker since) := by
  obtain ⟨hquiet, ticker, hs, rfl, hstate⟩ := h
  have hstep := stepping s ms
  generalize s.step ms = s' at hstep
  cases hstep with
  | stopped hstopped => exact absurd hs (hstopped ticker)
  | told _ hq => exact Bool.noConfusion (hquiet.symm.trans hq)
  | early hs' _ hd =>
    cases hs.symm.trans hs'
    rcases hstate with rfl | ⟨since, hago⟩
    · exact .inr ⟨⟨hquiet, ticker, hs, rfl, .inl rfl⟩, fun hfirst => absurd hfirst (Nat.not_le_of_lt hd)⟩
    · have hnext := hago.next
      have hago' : (s.waited ms).SweptAgo ticker (since + ms) :=
        { recent := by
            change s.timer + ms < ticker.next at hd
            omega
          next := by
            change ticker.next + (since + ms) ≤ s.timer + ms + ticker.interval
            omega
          deadline := fun {id d} hdl => by
            have hbefore := hago.deadline hdl
            change s.now.nanos + ms * 1000000 - (since + ms : Nat) * 1000000 ≤ d.nanos
            omega }
      exact .inr ⟨⟨hquiet, ticker, hs, rfl, .inr ⟨_, hago'⟩⟩, fun _ => ⟨ticker, _, rfl, hago'⟩⟩
  | swept hs' hq hd hc =>
    cases hs.symm.trans hs'
    have hago : SweptAgo { s.waited ms with
        sweeping := .at (ticker.fired (s.waited ms).timer)
        board := ((s.waited ms).board.sweep (s.waited ms).now).2 } (ticker.fired (s.waited ms).timer) 0 :=
      { recent := hpos
        next := Ticker.next_fired_le hd
        deadline := fun hdl => by simpa using le_of_sweep hdl }
    exact .inr ⟨⟨hq, _, rfl, rfl, .inr ⟨0, hago⟩⟩, fun _ => ⟨ticker.fired _, 0, rfl, hago⟩⟩
  | broke => exact .inl rfl

/-- A step of time leaves what is not open as it is. -/
theorem step_of_not_open {id : EnvironmentId} (h : s.board.deadlineOf? id = none) (ms : Nat) :
    (s.step ms).board.tunnel? id = s.board.tunnel? id ∧ (s.step ms).board.pool.port? id = s.board.pool.port? id := by
  have hstep := stepping s ms
  generalize s.step ms = s' at hstep
  cases hstep with
  | stopped | told | early | broke => exact ⟨rfl, rfl⟩
  | swept => exact TunnelBoard.sweep_of_not_open h _

/-! ## Steps one after the other -/

theorem GoesOn.steps {first : Nat} (h : GoesOn interval first s) (hpos : 0 < interval) (times : List Nat) :
    (times.foldl Sweeper.step s).sweeping = .broken ∨ GoesOn interval first (times.foldl Sweeper.step s) := by
  induction times using List.reverseRecOn with
  | nil => exact .inr h
  | append_singleton times ms ih =>
    rw [List.foldl_concat]
    rcases ih with hb | hon
    · exact .inl (broken_step_iff.2 (.inl hb))
    · exact (hon.step hpos ms).imp_right And.left

/-- A clock that shows no time before the epoch, and none past the last instant by the end, can be read all
along. -/
theorem unbroken_of_readable {times : List Nat} (h : s.sweeping ≠ .broken) (hstart : 0 ≤ s.now.nanos)
    (hend : s.now.nanos + times.sum * 1000000 ≤ Instant.latest.nanos) :
    (times.foldl step s).sweeping ≠ .broken := by
  induction times generalizing s with
  | nil => exact h
  | cons ms times ih =>
    rw [List.sum_cons] at hend
    have hlater : (s.now.later ms).nanos = s.now.nanos + ms * 1000000 := rfl
    refine ih (fun hb => ?_) (by rw [now_step]; omega) (by rw [now_step]; omega)
    rcases broken_step_iff.1 hb with hb | ⟨-, ticker, -, -, hc⟩
    · exact h hb
    · have hread : (s.now.later ms).isReadable = true := by
        rw [Instant.isReadable, Bool.and_eq_true, decide_eq_true_eq, decide_eq_true_eq]
        exact ⟨Instant.le_iff.2 (by change 0 ≤ _; omega), Instant.le_iff.2 (by omega)⟩
      rw [hread] at hc
      cases hc

/-- A sweeper is broken in the end exactly if one of the steps broke it. -/
theorem broken_steps_iff (h : s.sweeping ≠ .broken) (times : List Nat) :
    (times.foldl step s).sweeping = .broken ↔
      ∃ before ms, before ++ [ms] <+: times ∧ (before.foldl step s).Breaks ms := by
  induction times using List.reverseRecOn with
  | nil => exact ⟨fun hb => absurd hb h, by rintro ⟨before, ms, hpre, -⟩; simp at hpre⟩
  | append_singleton times ms ih =>
    rw [List.foldl_concat, broken_step_iff, ih]
    constructor
    · rintro (⟨before, ms', hpre, hbreaks⟩ | hbreaks)
      · exact ⟨before, ms', hpre.trans (List.prefix_append _ _), hbreaks⟩
      · exact ⟨times, ms, List.prefix_rfl, hbreaks⟩
    · rintro ⟨before, ms', hpre, hbreaks⟩
      rcases List.prefix_concat_iff.1 hpre with heq | hpre
      · obtain ⟨rfl, hlast⟩ := List.append_inj' heq rfl
        cases hlast
        exact .inr hbreaks
      · exact .inl ⟨before, ms', hpre, hbreaks⟩

theorem steps_of_not_open {id : EnvironmentId} (h : s.board.deadlineOf? id = none) (times : List Nat) :
    (times.foldl step s).board.tunnel? id = s.board.tunnel? id ∧
      (times.foldl step s).board.pool.port? id = s.board.pool.port? id := by
  induction times using List.reverseRecOn with
  | nil => exact ⟨rfl, rfl⟩
  | append_singleton times ms ih =>
    have hnone : (times.foldl step s).board.deadlineOf? id = none := by
      unfold TunnelBoard.deadlineOf? at h ⊢
      rw [ih.1, h]
    have hstep := step_of_not_open hnone ms
    rw [List.foldl_concat]
    exact ⟨hstep.1.trans ih.1, hstep.2.trans ih.2⟩

/-- Without a tick to come the board stays as it is. -/
theorem board_steps_of_over (h : ∀ ticker, s.sweeping ≠ .at ticker) (times : List Nat) :
    (times.foldl step s).board = s.board := by
  induction times generalizing s with
  | nil => rfl
  | cons ms times ih =>
    have hstep := stepping s ms
    rw [List.foldl_cons]
    generalize s.step ms = s' at hstep
    cases hstep with
    | stopped => exact ih h
    | told hs | early hs | swept hs | broke hs => exact absurd hs (h _)

/-- What a sweeper comes to, with its first tick due at a moment, over some steps of time. -/
structure Watched (interval first : Nat) (times : List Nat) (s₀ s : Sweeper) : Prop where
  /-- From the first tick on, what is open is not yet an interval past its deadline. -/
  bounded : times ≠ [] → first ≤ s.timer → s.sweeping ≠ .broken → ∀ {id}, s.board.status id = .active →
    ∃ d, s.board.deadlineOf? id = some d ∧ s.now.nanos - interval * 1000000 < d.nanos
  untouched : ∀ {id}, s₀.board.status id ≠ .active →
    s.board.tunnel? id = s₀.board.tunnel? id ∧ s.board.pool.port? id = s₀.board.pool.port? id
  /-- The sweeper breaks at the first tick that the clock cannot be read at, and in no other way. -/
  broken_iff : s.sweeping = .broken ↔ ∃ before ms, before ++ [ms] <+: times ∧ (before.foldl step s₀).Breaks ms
  unbroken : 0 ≤ s₀.now.nanos → s₀.now.nanos + times.sum * 1000000 ≤ Instant.latest.nanos → s.sweeping ≠ .broken

theorem bounded_of_goesOn {first : Nat} {times : List Nat} (h : GoesOn interval first s) (hpos : 0 < interval)
    (hne : times ≠ []) (hfirst : first ≤ (times.foldl step s).timer)
    (hsweeping : (times.foldl step s).sweeping ≠ .broken) {id : EnvironmentId}
    (hactive : (times.foldl step s).board.status id = .active) :
    ∃ d, (times.foldl step s).board.deadlineOf? id = some d ∧
      (times.foldl step s).now.nanos - interval * 1000000 < d.nanos := by
  obtain ⟨before, ms, rfl⟩ := (List.eq_nil_or_concat' times).resolve_left hne
  rw [List.foldl_concat] at hfirst hsweeping hactive ⊢
  obtain ⟨d, hd⟩ := TunnelBoard.status_eq_active_iff.1 hactive
  have hon : GoesOn interval first (before.foldl step s) :=
    (h.steps hpos before).resolve_left (fun hb => hsweeping (broken_step_iff.2 (.inl hb)))
  rw [timer_step] at hfirst
  obtain ⟨ticker, since, rfl, hago⟩ := ((hon.step hpos ms).resolve_left hsweeping).2 hfirst
  have hrecent := hago.recent
  have hdeadline := hago.deadline hd
  exact ⟨d, hd, by omega⟩

/-- Over any steps of time and on any board, a sweeper that can read the clock at its ticks leaves no tunnel open
an interval past its deadline, and touches none that was not open. One that was told to end before the first turn of its
loop touches none at all, also if its first tick is due by then. -/
theorem watched_of_steps {interval : Nat} (hpos : 0 < interval) (first timer : Nat) (now : Instant)
    (board : TunnelBoard) (times : List Nat) :
    Watched interval first times ⟨.at ⟨interval, first⟩, now, timer, board, false⟩
      (times.foldl step ⟨.at ⟨interval, first⟩, now, timer, board, false⟩) ∧
    (times.foldl step (turn ⟨.at ⟨interval, first⟩, now, timer, board, true⟩)).board = board := by
  have hstart : GoesOn interval first ⟨.at ⟨interval, first⟩, now, timer, board, false⟩ :=
    ⟨rfl, _, rfl, rfl, .inl rfl⟩
  constructor
  · constructor
    · exact fun hne hfirst hb => bounded_of_goesOn hstart hpos hne hfirst hb
    · intro id hid
      refine steps_of_not_open (Option.eq_none_iff_forall_ne_some.2 (fun d hd => ?_)) times
      exact hid (TunnelBoard.status_eq_active_iff.2 ⟨d, hd⟩)
    · exact broken_steps_iff (by simp) times
    · exact unbroken_of_readable (by simp)
  · obtain ⟨hboard, hover⟩ := turn_of_signalled (s := ⟨.at ⟨interval, first⟩, now, timer, board, true⟩) rfl
    exact (board_steps_of_over hover times).trans hboard

/-- A sweeper with an interval of a second, whose clock shows an instant, over a tunnel that was opened at the
twentieth second for five minutes. -/
def overOne (now : Instant) : Sweeper :=
  .start 1000 now 0 ((Coordinator.activate (.ofSeconds 20) ⟨7⟩).run (Coordinator.knowing ⟨7⟩)).2.board false

/-- A tunnel is still open right after its deadline, and closed by the next tick. -/
theorem watched_past_deadline : 0 < 1000 ∧
    Watched 1000 1 [1, 300000, 1000] (overOne (.ofSeconds 20))
      ([1, 300000, 1000].foldl step (overOne (.ofSeconds 20))) ∧
    ([1, 299999, 1].foldl step (overOne (.ofSeconds 20))).board.status ⟨7⟩ = .active ∧
    ([1, 299999, 1, 1000].foldl step (overOne (.ofSeconds 20))).board.status ⟨7⟩ = .idle :=
  ⟨by decide, (watched_of_steps (by decide) 1 0 _ _ _).1, by decide +kernel, by decide +kernel⟩

/-- A sweeper whose first tick falls on a clock before the epoch leaves a tunnel open however long its deadline
is over, also once the clock can be read again. -/
theorem stale_after_unread_tick :
    ([500, 10000].foldl step (overOne (.ofSeconds (-1)))).now.isReadable = true ∧
    ([500, 10000, 1700000000000].foldl step (overOne (.ofSeconds (-1)))).board.status ⟨7⟩ = .active ∧
    ¬ ∃ d, ([500, 10000, 1700000000000].foldl step (overOne (.ofSeconds (-1)))).board.deadlineOf? ⟨7⟩ = some d ∧
      ([500, 10000, 1700000000000].foldl step (overOne (.ofSeconds (-1)))).now.nanos - 1000 * 1000000 < d.nanos := by
  refine ⟨by decide +kernel, by decide +kernel, ?_⟩
  have hdeadline : ([500, 10000, 1700000000000].foldl step (overOne (.ofSeconds (-1)))).board.deadlineOf? ⟨7⟩ =
      some (.ofSeconds 320) := by decide +kernel
  rintro ⟨d, hd, hlt⟩
  cases hdeadline.symm.trans hd
  revert hlt
  decide +kernel

end Sweeper

end EdgeFleet
