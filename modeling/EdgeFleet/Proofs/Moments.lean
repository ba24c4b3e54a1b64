import EdgeFleet.Proofs.Glimpses
import EdgeFleet.Proofs.Waiters
/-!
# The moments of a wait

One who waits for a tunnel looks at some moments, and a moment may decide the wait: the tunnel is active then, or the
environment is not known. `verdict` is what the first moment tells that decides it. One who is woken only after a tunnel
was activated (`wakes`) comes to that, whatever else is done and whoever else waits (`ended_of_leads`).
-/

namespace EdgeFleet

namespace Coordinator

open Attempt

variable {issuer : Issuer} {now : Instant} {id : EnvironmentId} {s : Coordinator}

/-! ## What is told at a look -/

/-- Whether so many look-ups of an environment, one after the other, answer all the same. -/
def LooksAlike (id : EnvironmentId) (n : Nat) (s : Coordinator) : Prop :=
  looks id n s = [false] ∨ looks id n s = List.replicate n true

theorem sees_of_looks {n : Nat} (h : looks id (n + 1) s = List.replicate (n + 1) true) :
    s.sees id = true ∧ looks id n (s.looked id) = List.replicate n true := by
  rw [looks, List.replicate_succ] at h
  cases hs : s.sees id with
  | false =>
    rw [hs] at h
    cases h
  | true =>
    rw [hs] at h
    exact ⟨rfl, (List.cons.inj h).2⟩

theorem LooksAlike.of_sees {n : Nat} (h : LooksAlike id n s) (hs : s.sees id = true) :
    looks id n s = List.replicate n true := by
  rcases h with h | h
  · cases n with
    | zero => cases h
    | succ n =>
      rw [looks, hs] at h
      cases h
  · exact h

/-- Where look-ups are not numbered, they all answer alike. -/
theorem looked_of_unnumbered (h : s.census.lookups = none) : s.looked id = s := by
  unfold looked Census.lookUp
  rw [h]

theorem looksAlike_of_unnumbered (h : s.census.lookups = none) (n : Nat) : LooksAlike id (n + 1) s := by
  cases hs : s.sees id with
  | false =>
    left
    rw [looks, hs]
    rfl
  | true =>
    right
    induction n with
    | zero =>
      rw [looks, hs]
      rfl
    | succ n ih =>
      rw [looks, if_pos hs, looked_of_unnumbered h, ih]
      rfl

theorem run_look_of_not_sees (hs : s.sees id = false) :
    (look now id).run s = (.refused (.unknownEnvironment id), s.looked id) := by
  rw [look, run_bind_refused (run_status_of_not_sees hs)]

theorem run_look_of_not_active (hs : s.sees id = true) (ha : s.board.status id ≠ .active) :
    (look now id).run s = (.done none, s.looked id) := by
  rw [look, run_bind_done (run_status_of_sees hs), if_neg ha]
  rfl

theorem run_look_of_active (hs : s.sees id = true) (ha : s.board.status id = .active) :
    (look now id).run s =
      (((details now id).run (s.looked id)).1.rename (fun e => e) some, (s.looked id).looked id) := by
  rw [look, run_bind_done (run_status_of_sees hs), if_pos ha]
  change (some <$> details now id : Step _).run (s.looked id) = _
  have hsnd := snd_run_details now (s.looked id) id
  rw [run_map, hsnd]
  rfl

/-- An active tunnel is kept. -/
theorem tunnel?_of_active (ha : s.board.status id = .active) :
    ∃ t, s.board.tunnel? id = some t ∧ t.phase.status = .active := by
  cases ht : s.board.tunnel? id with
  | none =>
    rw [TunnelBoard.status_of_none ht] at ha
    cases ha
  | some t => exact ⟨t, rfl, (TunnelBoard.status_of_tunnel? ht).symm.trans ha⟩

/-- A look leaves everything as it is where look-ups are not numbered. -/
theorem snd_run_look_of_unnumbered (h : s.census.lookups = none) : ((look now id).run s).2 = s := by
  have hlooked : s.looked id = s := looked_of_unnumbered h
  cases hs : s.sees id with
  | false => rw [run_look_of_not_sees hs, hlooked]
  | true =>
    by_cases ha : s.board.status id = .active
    · rw [run_look_of_active hs ha, hlooked, hlooked]
    · rw [run_look_of_not_active hs ha, hlooked]

theorem census_require_of_unnumbered (h : s.census.lookups = none) :
    ((require issuer now id).run s).2.census = s.census := by
  have hpassed : ∀ n, passed id n s = s := by
    intro n
    induction n with
    | zero => rfl
    | succ n ih => rw [passed_succ, looked_of_unnumbered h, ih, ite_self]
  rw [census_require, hpassed]

end Coordinator

namespace Script

open Coordinator (LooksAlike)

variable {issuer : Issuer} {id : EnvironmentId} {s : Coordinator} {w v : World Refusal Coordinator}
  {cs : List (World Refusal Coordinator)}

/-! ## What a moment decides -/

/-- What one who waits for the tunnel of an environment is told at a moment, if anything: the details of an active
tunnel, or that the environment is not known. -/
def decided (id : EnvironmentId) (s : Coordinator) : Option (Outcome Refusal TunnelDetails) :=
  if s.sees id then
    if s.board.status id = .active then
      (s.board.tunnel? id).map (fun t => .done (t.shown (s.jobs.pending id)))
    else none
  else some (.refused (.tunnel (.unknownEnvironment id)))

theorem decided_of_active {t : Tunnel} (hs : s.sees id = true) (ht : s.board.tunnel? id = some t)
    (ha : t.phase.status = .active) : decided id s = some (.done (t.shown (s.jobs.pending id))) := by
  rw [decided, if_pos hs, if_pos ((TunnelBoard.status_of_tunnel? ht).trans ha), ht]
  rfl

theorem decided_of_not_sees (hs : s.sees id = false) :
    decided id s = some (.refused (.tunnel (.unknownEnvironment id))) := if_neg (by simp [hs])

theorem decided_of_not_active (hs : s.sees id = true) (ha : s.board.status id ≠ .active) : decided id s = none := by
  rw [decided, if_pos hs, if_neg ha]

/-- Nothing is told only of a known environment whose tunnel is not active. -/
theorem decided_eq_none_iff : decided id s = none ↔ s.sees id = true ∧ s.board.status id ≠ .active := by
  refine ⟨fun h => ?_, fun h => decided_of_not_active h.1 h.2⟩
  cases hs : s.sees id with
  | false =>
    rw [decided_of_not_sees hs] at h
    cases h
  | true =>
    refine ⟨rfl, fun ha => ?_⟩
    obtain ⟨t, ht, hp⟩ := Coordinator.tunnel?_of_active ha
    rw [decided_of_active hs ht hp] at h
    cases h

/-- A moment tells that the environment is not known, or the details of its active tunnel. -/
theorem decided_eq_some {o : Outcome Refusal TunnelDetails} (h : decided id s = some o) :
    (s.sees id = false ∧ o = .refused (.tunnel (.unknownEnvironment id))) ∨
      ∃ t, s.board.tunnel? id = some t ∧ t.phase.status = .active ∧ o = .done (t.shown (s.jobs.pending id)) := by
  cases hs : s.sees id with
  | false =>
    rw [decided_of_not_sees hs] at h
    exact .inl ⟨rfl, (Option.some.inj h).symm⟩
  | true =>
    by_cases ha : s.board.status id = .active
    · obtain ⟨t, ht, hp⟩ := Coordinator.tunnel?_of_active ha
      rw [decided_of_active hs ht hp] at h
      exact .inr ⟨t, ht, hp, (Option.some.inj h).symm⟩
    · rw [decided_of_not_active hs ha] at h
      cases h

/-- An active tunnel has a port. -/
theorem decided_eq_done {d : TunnelDetails} (hb : s.board.Issued issuer) (h : decided id s = some (.done d)) :
    d.status = .active ∧ d.port.isSome = true := by
  rcases decided_eq_some h with ⟨-, he⟩ | ⟨t, ht, hp, he⟩
  · cases he
  · cases he
    refine ⟨hp, (hb.tunnel ht).port.2 (fun hidle => ?_)⟩
    rw [hidle] at hp
    cases hp

/-- A look tells what the moment decides. -/
theorem ending_look (now : Instant) (hk : LooksAlike id 2 s) :
    ending (((Coordinator.look now id).run s).1.rename Refusal.tunnel (fun d? => d?)) = decided id s := by
  cases hs : s.sees id with
  | false =>
    rw [Coordinator.run_look_of_not_sees hs, decided_of_not_sees hs]
    rfl
  | true =>
    by_cases ha : s.board.status id = .active
    · obtain ⟨t, ht, hp⟩ := Coordinator.tunnel?_of_active ha
      obtain ⟨hs', -⟩ := Coordinator.sees_of_looks (Coordinator.sees_of_looks (hk.of_sees hs)).2
      have hdetails := Coordinator.run_details_of_tunnel? now hs' (show (s.looked id).board.tunnel? id = some t from ht)
      rw [Coordinator.run_look_of_active hs ha, hdetails, decided_of_active hs ht hp]
      rfl
    · rw [Coordinator.run_look_of_not_active hs ha, decided_of_not_active hs ha]
      rfl

/-! ## What some moments decide -/

/-- How a wait ends that goes on for some moments: with what the first of them tells that tells anything, or in vain. -/
def verdict (id : EnvironmentId) (moments : List Coordinator) : Outcome Refusal TunnelDetails :=
  (moments.findSome? (decided id)).getD (.refused (.tunnel (.notActiveInTime id)))

/-- Whether the look-ups at each moment answer alike, up to the first moment that tells anything. -/
def Steady (id : EnvironmentId) : List Coordinator → Prop
  | [] => True
  | s :: moments => LooksAlike id 2 s ∧ (decided id s = none → Steady id moments)

section Verdict

variable {moments : List Coordinator}

theorem verdict_cons_of_some {o : Outcome Refusal TunnelDetails} (h : decided id s = some o) :
    verdict id (s :: moments) = o := by
  rw [verdict, List.findSome?_cons, h]
  rfl

theorem verdict_cons_of_none (h : decided id s = none) : verdict id (s :: moments) = verdict id moments := by
  rw [verdict, List.findSome?_cons, h]
  rfl

/-- Either no moment tells anything, or one of them tells how the wait ends. -/
theorem verdict_spec (id : EnvironmentId) (moments : List Coordinator) :
    ((∀ s ∈ moments, decided id s = none) ∧ verdict id moments = .refused (.tunnel (.notActiveInTime id))) ∨
      ∃ s ∈ moments, decided id s = some (verdict id moments) := by
  rw [verdict]
  cases hf : moments.findSome? (decided id) with
  | none => exact .inl ⟨List.findSome?_eq_none_iff.1 hf, rfl⟩
  | some o => exact .inr (List.exists_of_findSome?_eq_some hf)

theorem verdict_ne_crashed (id : EnvironmentId) (moments : List Coordinator) : verdict id moments ≠ .crashed := by
  intro h
  rcases verdict_spec id moments with ⟨-, hv⟩ | ⟨s, -, hv⟩
  · exact nomatch hv.symm.trans h
  · rcases decided_eq_some hv with ⟨-, he⟩ | ⟨t, -, -, he⟩
    · exact nomatch he.symm.trans h
    · exact nomatch he.symm.trans h

theorem verdict_eq_done {d : TunnelDetails} (hb : ∀ s ∈ moments, s.board.Issued issuer)
    (h : verdict id moments = .done d) : d.status = .active ∧ d.port.isSome = true := by
  rcases verdict_spec id moments with ⟨-, hv⟩ | ⟨s, hs, hv⟩
  · exact nomatch hv.symm.trans h
  · rw [h] at hv
    exact decided_eq_done (hb s hs) hv

/-- A wait is in vain only if no moment tells anything. -/
theorem verdict_eq_inVain (h : verdict id moments = .refused (.tunnel (.notActiveInTime id))) :
    ∀ s ∈ moments, s.sees id = true ∧ s.board.status id ≠ .active := by
  rcases verdict_spec id moments with ⟨hn, -⟩ | ⟨s, -, hv⟩
  · exact fun s hs => decided_eq_none_iff.1 (hn s hs)
  · rcases decided_eq_some hv with ⟨-, he⟩ | ⟨t, -, -, he⟩
    · cases he.symm.trans h
    · exact nomatch he.symm.trans h

/-- The wait for an environment that is known at every moment is not in vain if its tunnel is active at one. -/
theorem verdict_of_known (hs : ∀ s ∈ moments, s.sees id = true) (ha : ∃ s ∈ moments, s.board.status id = .active) :
    ∃ d, verdict id moments = .done d := by
  rcases verdict_spec id moments with ⟨hn, -⟩ | ⟨s, hmem, hv⟩
  · obtain ⟨s, hmem, ha⟩ := ha
    exact absurd ha (decided_eq_none_iff.1 (hn s hmem)).2
  · rcases decided_eq_some hv with ⟨hno, -⟩ | ⟨t, -, -, he⟩
    · exact absurd ((hs s hmem).symm.trans hno) nofun
    · exact ⟨_, he⟩

/-- Where look-ups are not numbered, they answer alike at every moment. -/
theorem steady_of_unnumbered (h : ∀ s ∈ moments, s.census.lookups = none) : Steady id moments := by
  induction moments with
  | nil => trivial
  | cons s ms ih =>
    obtain ⟨hs, hms⟩ := List.forall_mem_cons.1 h
    exact ⟨Coordinator.looksAlike_of_unnumbered hs 1, fun _ => ih hms⟩

end Verdict

/-! ## The looks of one who waits -/

/-- Those of some worlds in which a tunnel was activated since the one before. -/
def wakes (activations : Nat) : List (World Refusal Coordinator) → List (World Refusal Coordinator)
  | [] => []
  | c :: cs =>
    if activations < c.state.board.activations then c :: wakes c.state.board.activations cs else wakes activations cs

/-- The moments at which one who waits looks, if nothing that it is told ends the wait: those of its turns up to a
moment of the timer at which a tunnel was activated since the one before. -/
def wakesUntil (last activations : Nat) (turns : List (World Refusal Coordinator)) : List Coordinator :=
  ((wakes activations turns).filter (fun c => c.timer ≤ last)).map World.state

section Looks

variable {x : Waiter Refusal} {older : List (Waiter Refusal)} {o : Outcome Refusal TunnelDetails}

/-- One whose wait ended looks no more. -/
theorem foldl_looked_of_ended (h : x.ended = some o) (cs : List (World Refusal Coordinator)) :
    cs.foldl (looked (tunnelPlane issuer)) x = x := by
  induction cs with
  | nil => rfl
  | cons c cs ih => rw [List.foldl_cons, looked, check_of_ended h, ih]

theorem expired_of_lt {timer : Nat} (h : timer < x.deadline) : expired (tunnelPlane issuer) timer x = x :=
  if_neg (fun hd => Nat.not_le_of_lt h hd.2)

theorem looked_of_not_woken (hx : x.ended = none) {c : World Refusal Coordinator}
    (hw : ¬ x.seen < c.state.board.activations) :
    looked (tunnelPlane issuer) x c = expired (tunnelPlane issuer) c.timer x := by
  have hwoken : x.isWoken (tunnelPlane issuer) c.state = false := by
    rw [Waiter.isWoken, Bool.and_eq_false_iff]
    exact .inr (decide_eq_false hw)
  rw [looked, check_of_waiting hx, glance, if_neg (by simp [hwoken])]

/-- One who is woken is told what the moment decides. -/
theorem looked_of_woken (hx : x.ended = none) (hr : x.restarts = 0) {c : World Refusal Coordinator}
    (hw : x.seen < c.state.board.activations) (hk : LooksAlike x.id 2 c.state) (ht : c.timer < x.deadline) :
    looked (tunnelPlane issuer) x c = { x with seen := c.state.board.activations, ended := decided x.id c.state } := by
  have hwoken : x.isWoken (tunnelPlane issuer) c.state = true := by
    rw [Waiter.isWoken, Bool.and_eq_true]
    exact ⟨decide_eq_true hr, decide_eq_true hw⟩
  have hglance : (glance (tunnelPlane issuer) c.now x c.state).1 =
      { x with seen := c.state.board.activations, ended := decided x.id c.state } := by
    rw [glance, if_pos hwoken, ← ending_look c.now hk]
    rfl
  rw [looked, check_of_waiting hx, hglance]
  exact expired_of_lt ht

theorem mem_of_wakes {n : Nat} {c : World Refusal Coordinator} (h : c ∈ wakes n cs) : c ∈ cs := by
  induction cs generalizing n with
  | nil => cases h
  | cons d cs ih =>
    rw [wakes] at h
    split at h
    · rcases List.mem_cons.1 h with rfl | h
      · exact List.mem_cons_self
      · exact List.mem_cons_of_mem _ (ih h)
    · exact List.mem_cons_of_mem _ (ih h)

/-- A turn comes at a check, and finds the tunnels that the check finds. -/
theorem check_of_mem_turns {c : World Refusal Coordinator} (h : c ∈ turns (tunnelPlane issuer) older cs) :
    ∃ c₀ ∈ cs, c.timer = c₀.timer ∧ OnlyLooked c₀.state c.state := by
  induction cs generalizing older with
  | nil => cases h
  | cons d cs ih =>
    rcases List.mem_cons.1 h with rfl | h
    · exact ⟨d, List.mem_cons_self, rfl, onlyLooked_checkAll older d.now d.timer d.state⟩
    · obtain ⟨c₀, hc₀, hc⟩ := ih h
      exact ⟨c₀, List.mem_cons_of_mem _ hc₀, hc⟩

/-- No turn comes before the time at which the checks begin. -/
theorem lt_timer_of_mem_turns (h : Leads issuer w cs v) {last : Nat} (hw : last < w.timer) :
    ∀ c ∈ turns (tunnelPlane issuer) older cs, last < c.timer := by
  intro c hc
  obtain ⟨c₀, hc₀, hsame, -⟩ := check_of_mem_turns hc
  exact Nat.lt_of_lt_of_le hw (hsame ▸ h.timer_le c₀ hc₀)

section Wakes

variable {last n : Nat} {c : World Refusal Coordinator}

theorem wakesUntil_cons_of_woken (hw : n < c.state.board.activations) (ht : c.timer ≤ last) :
    wakesUntil last n (c :: cs) = c.state :: wakesUntil last c.state.board.activations cs := by
  rw [wakesUntil, wakes, if_pos hw, List.filter_cons_of_pos (by simpa using ht), List.map_cons]
  rfl

theorem wakesUntil_cons_of_not_woken (hw : ¬ n < c.state.board.activations) :
    wakesUntil last n (c :: cs) = wakesUntil last n cs := by
  rw [wakesUntil, wakes, if_neg hw]
  rfl

theorem wakesUntil_eq_nil (h : ∀ c ∈ cs, last < c.timer) : wakesUntil last n cs = [] := by
  rw [wakesUntil, List.map_eq_nil_iff, List.filter_eq_nil_iff]
  intro c hc
  simpa using h c (mem_of_wakes hc)

end Wakes

/-- One who waits between the checks before its time is up ends, if at all, with what the first moment tells at which it
is woken that tells anything; it gives up once its time is up. -/
theorem ended_of_leads (h : Leads issuer w cs v) {last : Nat} (hx : x.ended = none) (hr : x.restarts = 0)
    (hseen : x.seen = w.state.board.activations) (hlast : x.deadline = last + 1) (ht : w.timer ≤ last)
    (hsteady : Steady x.id (wakesUntil last x.seen (turns (tunnelPlane issuer) older cs))) :
    (((turns (tunnelPlane issuer) older cs).foldl (looked (tunnelPlane issuer)) x).ended.getD
        (.refused (.tunnel (.notActiveInTime x.id)))) =
      verdict x.id (wakesUntil last x.seen (turns (tunnelPlane issuer) older cs)) := by
  induction h generalizing x older with
  | done =>
    rw [turns, List.foldl_nil, hx]
    rfl
  | @check w c v cs hf hrest ih =>
    have hlooked : OnlyLooked c.state (checkAll (tunnelPlane issuer) c.now c.timer older c.state).2 :=
      onlyLooked_checkAll older c.now c.timer c.state
    have hsettled : (settle (tunnelPlane issuer) c).state.board = c.state.board :=
      (onlyLooked_checkAll c.waiters c.now c.timer c.state).board
    rw [turns] at hsteady ⊢
    generalize hturn :
      { c with state := (checkAll (tunnelPlane issuer) c.now c.timer older c.state).2 } = turn at hsteady ⊢
    have hboard : turn.state.board = c.state.board := by rw [← hturn]; exact hlooked.board
    have htimer : turn.timer = c.timer := by rw [← hturn]
    rw [List.foldl_cons]
    by_cases hw : x.seen < turn.state.board.activations
    · -- What activates a tunnel takes no time, so the time is not up.
      have hstill : c.timer = w.timer := hf.still (by rw [← hseen, ← hboard]; exact hw)
      have hle : turn.timer ≤ last := by omega
      rw [wakesUntil_cons_of_woken hw hle] at hsteady ⊢
      obtain ⟨hk, hsteady⟩ := hsteady
      rw [looked_of_woken hx hr hw hk (by omega)]
      cases hd : decided x.id turn.state with
      | some o =>
        rw [verdict_cons_of_some hd, foldl_looked_of_ended rfl]
        rfl
      | none =>
        rw [verdict_cons_of_none hd]
        have hseen' : turn.state.board.activations = (settle (tunnelPlane issuer) c).state.board.activations := by
          rw [hsettled, hboard]
        exact @ih { x with seen := _, ended := none } _ rfl hr hseen' hlast (hstill ▸ ht) (hsteady hd)
    · rw [wakesUntil_cons_of_not_woken hw] at hsteady ⊢
      rw [looked_of_not_woken hx hw, htimer]
      by_cases hd : x.deadline ≤ c.timer
      · have hlate : last < (settle (tunnelPlane issuer) c).timer := by
          change last < c.timer
          omega
        rw [wakesUntil_eq_nil (lt_timer_of_mem_turns hrest hlate), expired, if_pos ⟨by rw [hx]; rfl, hd⟩,
          foldl_looked_of_ended rfl]
        rfl
      · rw [expired_of_lt (by omega)]
        have hkept : x.seen = c.state.board.activations := by
          have hmono : w.state.board.activations ≤ c.state.board.activations := hf.board.activations
          rw [hboard] at hw
          omega
        exact ih hx hr (hkept.trans (by rw [hsettled])) hlast (by change c.timer ≤ last; omega) hsteady

end Looks

end Script

end EdgeFleet
