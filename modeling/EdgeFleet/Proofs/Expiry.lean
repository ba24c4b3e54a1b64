import EdgeFleet.Proofs.Handover
import EdgeFleet.Proofs.Neighbours
/-!
# When open tunnels expire

A tunnel that is opened may stay open for a term, and every use of it adds one. Its deadline is the latest
end of its terms (`isLatest_of_run`), and a sweep closes exactly the tunnels whose deadline lies before the
moment of the sweep, in whatever order it visits them.
-/

namespace EdgeFleet

/-- The deadline of a phase that has one. -/
def Phase.deadline? : Phase → Option Instant
  | .active deadline => some deadline
  | _ => none

theorem Phase.isOver_iff {p : Phase} {moment : Instant} :
    p.isOver moment = true ↔ ∃ d, p.deadline? = some d ∧ d < moment := by
  cases p <;> simp [isOver, deadline?]

namespace Tunnel

theorem closed_closed (t : Tunnel) : t.closed.closed = t.closed := by
  simp [closed]

end Tunnel

namespace TunnelBoard

variable {b b' : TunnelBoard} {id : EnvironmentId} {t : Tunnel} {now moment : Instant}

/-! ## Closing several tunnels -/

theorem tunnel?_foldl_close (l : List EnvironmentId) (b : TunnelBoard) (i : EnvironmentId) :
    (l.foldl close b).tunnel? i = if i ∈ l then (b.tunnel? i).map Tunnel.closed else b.tunnel? i := by
  induction l generalizing b with
  | nil => simp
  | cons j l ih =>
    rw [List.foldl_cons, ih, tunnel?_close]
    by_cases hij : i = j
    · -- A tunnel that is visited again is closed already.
      subst hij
      by_cases hi : i ∈ l <;> simp [hi, Function.comp_def, Tunnel.closed_closed]
    · simp [hij]

theorem port?_foldl_close (l : List EnvironmentId) (b : TunnelBoard) (i : EnvironmentId) :
    (l.foldl close b).pool.port? i =
      if i ∈ l ∧ ((b.tunnel? i).bind Tunnel.port).isSome = true then none else b.pool.port? i := by
  induction l generalizing b with
  | nil => simp
  | cons j l ih =>
    rw [List.foldl_cons, ih, tunnel?_close, port?_close]
    by_cases hij : i = j
    · subst hij
      cases b.tunnel? i with
      | none => simp
      | some t => cases hp : t.port <;> simp [hp, Tunnel.closed]
    · simp [hij]

theorem eq_of_parts (ht : ∀ i, b'.tunnel? i = b.tunnel? i) (hp : b'.pool = b.pool) (hk : b'.keepAlive = b.keepAlive)
    (ha : b'.activations = b.activations) : b' = b := by
  have htunnels : b'.tunnels = b.tunnels := Table.ext_get? ht
  cases b
  cases b'
  simp_all

/-- Closing tunnels leaves the range, the keep-alive and the count of activations. -/
theorem foldl_close_rest (l : List EnvironmentId) (b : TunnelBoard) :
    (l.foldl close b).pool.range = b.pool.range ∧ (l.foldl close b).keepAlive = b.keepAlive ∧
      (l.foldl close b).activations = b.activations := by
  induction l generalizing b with
  | nil => exact ⟨rfl, rfl, rfl⟩
  | cons j l ih =>
    obtain ⟨hr, hk, ha⟩ := ih (b.close j)
    refine ⟨hr.trans (b.range_close j), hk.trans (AgreeBut.close b j).keepAlive, ha.trans ?_⟩
    unfold close
    cases b.tunnel? j <;> rfl

/-- In whatever order tunnels are closed, the board is the same in the end. -/
theorem foldl_close_perm {l l' : List EnvironmentId} (h : l'.Perm l) (b : TunnelBoard) :
    l'.foldl close b = l.foldl close b := by
  obtain ⟨hr, hk, ha⟩ := foldl_close_rest l b
  obtain ⟨hr', hk', ha'⟩ := foldl_close_rest l' b
  refine eq_of_parts (fun i => ?_) ?_ (hk'.trans hk.symm) (ha'.trans ha.symm)
  · simp only [tunnel?_foldl_close, h.mem_iff]
  · refine PortPool.ext_port? (hr'.trans hr.symm) (fun i => ?_)
    simp only [port?_foldl_close, h.mem_iff]

/-! ## Deadlines -/

/-- The deadline of an environment's tunnel, if it is open. -/
def deadlineOf? (b : TunnelBoard) (id : EnvironmentId) : Option Instant := (b.tunnel? id).bind (·.phase.deadline?)

theorem status_eq_active_iff : b.status id = .active ↔ ∃ d, b.deadlineOf? id = some d := by
  unfold status deadlineOf?
  cases b.tunnel? id with
  | none => simp
  | some t => cases hp : t.phase <;> simp [hp, Phase.status, Phase.deadline?]

theorem mem_overdue : id ∈ b.overdue moment ↔ ∃ d, b.deadlineOf? id = some d ∧ d < moment := by
  unfold overdue deadlineOf?
  rw [Table.mem_keys_iff, Table.contains, Table.get?_filter]
  change ((b.tunnel? id).filter _).isSome = true ↔ _
  cases b.tunnel? id with
  | none => simp
  | some t => simp [Option.isSome_filter, Phase.isOver_iff]

theorem nodup_overdue (b : TunnelBoard) (moment : Instant) : (b.overdue moment).Nodup := Table.nodup_keys _

/-- The visit of a sweep to one environment: its tunnel is closed and noted if it is still overdue. -/
def visit (moment : Instant) (seen : List EnvironmentId × TunnelBoard) (id : EnvironmentId) :
    List EnvironmentId × TunnelBoard :=
  if (seen.2.tunnel? id).any (fun t => t.phase.isOver moment) then (seen.1 ++ [id], seen.2.close id) else seen

/-- Visiting environments whose tunnels are overdue closes all of them: none is closed by the visit to
another one. -/
theorem foldl_visit {l : List EnvironmentId} (hl : l.Nodup) {b : TunnelBoard} (hb : ∀ id ∈ l, id ∈ b.overdue moment)
    (noted : List EnvironmentId) : l.foldl (visit moment) (noted, b) = (noted ++ l, l.foldl close b) := by
  induction l generalizing b noted with
  | nil => simp
  | cons id l ih =>
    obtain ⟨hid, hl⟩ := List.nodup_cons.1 hl
    have hover : (b.tunnel? id).any (fun t => t.phase.isOver moment) = true := by
      obtain ⟨d, hd, hlt⟩ := mem_overdue.1 (hb id List.mem_cons_self)
      obtain ⟨t, ht, hp⟩ := Option.bind_eq_some_iff.1 hd
      rw [ht]
      exact Phase.isOver_iff.2 ⟨d, hp, hlt⟩
    have hrest : ∀ i ∈ l, i ∈ (b.close id).overdue moment := by
      intro i hi
      have hne : i ≠ id := fun e => hid (e ▸ hi)
      have hsame : (b.close id).deadlineOf? i = b.deadlineOf? i := by
        unfold deadlineOf?
        rw [tunnel?_close, if_neg hne]
      rw [mem_overdue, hsame, ← mem_overdue]
      exact hb i (List.mem_cons_of_mem id hi)
    have hvisit : visit moment (noted, b) id = (noted ++ [id], b.close id) := if_pos hover
    rw [List.foldl_cons, hvisit, ih hl hrest, List.foldl_cons, List.append_assoc]
    rfl

/-- Whether the tunnel of an environment has no deadline but one that it had before. -/
def Lapses (id : EnvironmentId) (b b' : TunnelBoard) : Prop :=
  ∀ d, b'.deadlineOf? id = some d → b.deadlineOf? id = some d

namespace Lapses

theorem of_tunnel? (h : b'.tunnel? id = b.tunnel? id) : Lapses id b b' := by
  intro d hd
  unfold deadlineOf? at hd ⊢
  rwa [← h]

theorem of_idle (h : b'.deadlineOf? id = none) : Lapses id b b' := by
  intro d hd
  rw [h] at hd
  cases hd

theorem close (b : TunnelBoard) (id i : EnvironmentId) : Lapses i b (b.close id) := by
  by_cases hi : i = id
  · apply of_idle
    unfold deadlineOf?
    rw [tunnel?_close, if_pos hi]
    cases b.tunnel? id <;> rfl
  · exact of_tunnel? ((b.tunnel?_close id i).trans (if_neg hi))

theorem drop (b : TunnelBoard) (id i : EnvironmentId) : Lapses i b (b.drop id) := by
  by_cases hi : i = id
  · apply of_idle
    unfold deadlineOf?
    rw [tunnel?_drop, if_pos hi]
    rfl
  · exact of_tunnel? ((b.tunnel?_drop id i).trans (if_neg hi))

/-- Taking up a tunnel gives it no deadline. -/
theorem refers (h : b.Refers now id t) (hk : b'.tunnel? id = some t) : Lapses id b b' := by
  rcases h with ht | ⟨-, -, rfl⟩
  · exact of_tunnel? (hk.trans ht.symm)
  · apply of_idle
    unfold deadlineOf?
    rw [hk]
    rfl

theorem sweep (b : TunnelBoard) (moment : Instant) (i : EnvironmentId) : Lapses i b (b.sweep moment).2 := by
  have hall : ∀ (l : List EnvironmentId) (b : TunnelBoard), Lapses i b (l.foldl TunnelBoard.close b) := by
    intro l
    induction l with
    | nil => intro b d hd; exact hd
    | cons j l ih => intro b d hd; exact close b j i d (ih _ d hd)
  exact hall _ b

end Lapses

/-! ## Sweeps of a board -/

theorem tunnel?_sweep (b : TunnelBoard) (moment : Instant) (i : EnvironmentId) :
    (b.sweep moment).2.tunnel? i =
      if i ∈ b.overdue moment then (b.tunnel? i).map Tunnel.closed else b.tunnel? i :=
  tunnel?_foldl_close _ b i

theorem port?_sweep (b : TunnelBoard) (moment : Instant) (i : EnvironmentId) :
    (b.sweep moment).2.pool.port? i =
      if i ∈ b.overdue moment ∧ ((b.tunnel? i).bind Tunnel.port).isSome = true then none else b.pool.port? i :=
  port?_foldl_close _ b i

theorem range_sweep (b : TunnelBoard) (moment : Instant) : (b.sweep moment).2.pool.range = b.pool.range :=
  (foldl_close_rest _ b).1

/-- The port of a tunnel that a sweep closes can be lent again. -/
theorem Backed.isFree_sweep {port : UInt16} (h : b.Backed) (hid : id ∈ b.overdue moment)
    (hp : (b.tunnel? id).bind Tunnel.port = some port) : (b.sweep moment).2.pool.isFree port = true := by
  refine PortPool.isFree_iff.2 ⟨?_, fun i hi => ?_⟩
  · rw [range_sweep]
    exact h.pool.inRange (h.lent hp)
  · -- Whoever is lent the port afterwards was lent it before, and that was this environment alone.
    rw [port?_sweep] at hi
    split at hi
    · cases hi
    · rename_i hkept
      have hsame := h.pool.injective hi (h.lent hp)
      exact hkept ⟨hsame ▸ hid, by rw [hsame, hp]; rfl⟩

/-- After a sweep nothing is overdue, at its moment or at an earlier one. -/
theorem overdue_sweep (b : TunnelBoard) {earlier : Instant} (h : earlier ≤ moment) :
    (b.sweep moment).2.overdue earlier = [] := by
  refine List.eq_nil_iff_forall_not_mem.2 (fun id hid => ?_)
  obtain ⟨d, hd, hlt⟩ := mem_overdue.1 hid
  -- The deadline was there before, so the sweep would have closed the tunnel.
  have hover : id ∈ b.overdue moment :=
    mem_overdue.2 ⟨d, Lapses.sweep b moment id d hd, Int.lt_of_lt_of_le hlt h⟩
  have hidle : (b.sweep moment).2.deadlineOf? id = none := by
    unfold deadlineOf?
    rw [tunnel?_sweep, if_pos hover]
    cases b.tunnel? id <;> rfl
  rw [hidle] at hd
  cases hd

end TunnelBoard

namespace Coordinator

open Attempt
open TunnelBoard (Lapses)

variable {issuer : Issuer} {now moment : Instant} {id : EnvironmentId} {s s₀ : Coordinator} {ends : List Instant}

/-! ## The terms of a tunnel -/

/-- The end of a term of some seconds, at most the last instant. -/
def termEnd (now : Instant) (seconds : Nat) : Instant := min ⟨now.nanos + seconds * 1000000000⟩ .latest

/-- The ends of an environment's terms after a call, for those before it: a call that opens the tunnel
begins with one term anew, and one that keeps it alive adds a term. -/
def Call.terms (id : EnvironmentId) (now : Instant) (call : Call) (s : Coordinator) (ends : List Instant) :
    List Instant :=
  match call with
  | activate i =>
    if i = id ∧ ((Coordinator.activate now i).run s).1 = .done () then [termEnd now s.board.keepAlive] else ends
  | keepAlive i seconds =>
    if i = id ∧ ((Coordinator.keepAlive now i seconds).run s).1 = .done true then termEnd now seconds :: ends else ends
  | _ => ends

/-- The state that some calls lead to, with the ends of an environment's terms. -/
def history (issuer : Issuer) (id : EnvironmentId) (s₀ : Coordinator) (calls : List (Instant × Call)) :
    Coordinator × List Instant :=
  calls.foldl (fun (s, ends) (now, call) => (((call.step issuer now).run s).2, call.terms id now s ends)) (s₀, [])

/-- The ends of an environment's terms after some calls: of the one since its tunnel was last opened, and
of those by which it was kept alive since then. -/
def termsAfter (issuer : Issuer) (id : EnvironmentId) (s₀ : Coordinator) (calls : List (Instant × Call)) :
    List Instant :=
  (history issuer id s₀ calls).2

/-- Whether an instant is the latest of some. -/
def IsLatest (d : Instant) (ends : List Instant) : Prop := d ∈ ends ∧ ∀ u ∈ ends, u ≤ d

theorem isLatest_singleton (d : Instant) : IsLatest d [d] := by
  refine ⟨List.mem_singleton_self d, fun u hu => ?_⟩
  rw [List.mem_singleton.1 hu]
  exact Int.le_refl d.nanos

/-- The later of the latest end and another one is the latest of all. -/
theorem IsLatest.cons {d : Instant} (h : IsLatest d ends) (u : Instant) : IsLatest (max d u) (u :: ends) := by
  constructor
  · change (if d ≤ u then u else d) ∈ u :: ends
    split
    · exact List.mem_cons_self
    · exact List.mem_cons_of_mem u h.1
  · intro v hv
    rw [Instant.le_iff, Instant.nanos_max]
    rcases List.mem_cons.1 hv with rfl | hv
    · exact Int.le_max_right _ _
    · exact Int.le_trans (h.2 v hv) (Int.le_max_left _ _)

theorem IsLatest.lt_iff {d : Instant} (h : IsLatest d ends) : d < moment ↔ ∀ u ∈ ends, u < moment :=
  ⟨fun hd u hu => Int.lt_of_le_of_lt (h.2 u hu) hd, fun hall => hall d h.1⟩

/-! ## What a call does to a deadline -/

theorem lapses_require (issuer : Issuer) (now : Instant) (id : EnvironmentId) (s : Coordinator) :
    Lapses id s.board ((require issuer now id).run s).2.board := by
  have hr := requiring issuer now id s
  generalize (require issuer now id).run s = r at hr
  cases hr with
  | unknown | unread | standing => exact .of_tunnel? rfl
  | exhausted _ ht => exact .refers ht (s.board.tunnel?_keep_self id _)
  | @cutOff t port b _ ht => exact .refers ht (b.tunnel?_keep_self id t)
  | forgotten =>
    apply TunnelBoard.Lapses.of_idle
    unfold TunnelBoard.deadlineOf?
    rw [board_withBoard, TunnelBoard.tunnel?_drop_self]
    rfl
  | asked =>
    apply TunnelBoard.Lapses.of_idle
    unfold TunnelBoard.deadlineOf?
    rw [board_withBoard, TunnelBoard.tunnel?_keep_self]
    rfl

/-- Opening a tunnel gives it the end of a new term as its deadline. -/
theorem isLatest_activate (h : ∀ d, s.board.deadlineOf? id = some d → IsLatest d ends) (d : Instant)
    (hd : ((activate now id).run s).2.board.deadlineOf? id = some d) :
    IsLatest d ((Call.activate id).terms id now s ends) := by
  have hr := activating now id s
  change IsLatest d (if id = id ∧ ((activate now id).run s).1 = .done () then [termEnd now s.board.keepAlive] else ends)
  generalize (activate now id).run s = r at hr hd ⊢
  cases hr with
  | unknown | unread =>
    rw [if_neg (by simp)]
    exact h d hd
  | exhausted _ _ ht =>
    rw [if_neg (by simp)]
    exact h d (Lapses.refers ht (s.board.tunnel?_keep_self id _) d hd)
  | forgotten =>
    unfold TunnelBoard.deadlineOf? at hd
    rw [board_withBoard, TunnelBoard.tunnel?_drop_self] at hd
    cases hd
  | @opened t port b _ _ _ hr =>
    have hkept : (b.keep id (t.opened now b.keepAlive port)).tunnel? id = some (t.opened now b.keepAlive port) :=
      b.tunnel?_keep_self id _
    have hdeadline : (b.keep id (t.opened now b.keepAlive port)).deadlineOf? id = some (termEnd now b.keepAlive) := by
      unfold TunnelBoard.deadlineOf?
      rw [hkept]
      rfl
    rw [if_pos ⟨rfl, rfl⟩, ← (TunnelBoard.AgreeBut.reserve hr).keepAlive]
    cases hdeadline.symm.trans hd
    exact isLatest_singleton _

/-- Keeping a tunnel alive moves its deadline no further than to the end of the new term, and never
back. -/
theorem isLatest_keepAlive {seconds : Nat} (h : ∀ d, s.board.deadlineOf? id = some d → IsLatest d ends) (d : Instant)
    (hd : ((keepAlive now id seconds).run s).2.board.deadlineOf? id = some d) :
    IsLatest d ((Call.keepAlive id seconds).terms id now s ends) := by
  have hr := extending now id seconds s
  change IsLatest d
    (if id = id ∧ ((keepAlive now id seconds).run s).1 = .done true then termEnd now seconds :: ends else ends)
  generalize (keepAlive now id seconds).run s = r at hr hd ⊢
  cases hr with
  | unknown | unread | inactive =>
    rw [if_neg (by simp)]
    exact h d hd
  | @extended t deadline _ ht hp =>
    have hbefore : s.board.deadlineOf? id = some deadline := by
      unfold TunnelBoard.deadlineOf?
      rw [ht, Option.bind_some, hp]
      rfl
    have hafter : (s.board.keep id (t.used deadline now seconds)).deadlineOf? id =
        some (max deadline (termEnd now seconds)) := by
      unfold TunnelBoard.deadlineOf?
      rw [TunnelBoard.tunnel?_keep_self]
      rfl
    rw [if_pos ⟨rfl, rfl⟩]
    cases hafter.symm.trans hd
    exact (h deadline hbefore).cons _

/-- Every other call leaves a tunnel the deadline that it has, or none. -/
theorem lapses_step {call : Call} (hactivate : call ≠ .activate id) (hkeep : ∀ seconds, call ≠ .keepAlive id seconds) :
    Lapses id s.board ((call.step issuer now).run s).2.board := by
  by_cases hsubject : ∃ i, i ≠ id ∧ call.subject? = some i
  · obtain ⟨i, hi, hc⟩ := hsubject
    exact .of_tunnel? ((agreeBut_step hc).tunnel hi.symm)
  · have hown : ∀ i, call.subject? = some i → i = id := fun i hc => by
      by_contra hi
      exact hsubject ⟨i, hi, hc⟩
    have hacting := acting issuer now call s
    generalize ((call.step issuer now).run s).2.board = b at hacting
    cases hacting with
    | rests | sets => exact .of_tunnel? rfl
    | requires i =>
      cases hown i rfl
      exact lapses_require issuer now id s
    | @awaits i =>
      cases hown i rfl
      exact lapses_require issuer now id (s.looked id)
    | activates i => exact absurd (congrArg _ (hown i rfl)) hactivate
    | prolongs i seconds => exact absurd (by rw [hown i rfl]) (hkeep seconds)
    | stops i => exact .close s.board i id
    | drops i => exact .drop s.board i id
    | sweeps _ moment => exact .sweep s.board moment id

/-- Every call leaves the latest end of the terms as the deadline of an open tunnel. -/
theorem isLatest_step (h : ∀ d, s.board.deadlineOf? id = some d → IsLatest d ends) (call : Call) (d : Instant)
    (hd : ((call.step issuer now).run s).2.board.deadlineOf? id = some d) : IsLatest d (call.terms id now s ends) := by
  by_cases hactivate : call = .activate id
  · subst hactivate
    exact isLatest_activate h d hd
  · by_cases hkeep : ∃ seconds, call = .keepAlive id seconds
    · obtain ⟨seconds, rfl⟩ := hkeep
      rw [Call.step, snd_run_ignored] at hd
      exact isLatest_keepAlive h d hd
    · have hsame : call.terms id now s ends = ends := by
        cases call with
        | activate i => exact if_neg (fun hc => hactivate (congrArg _ hc.1))
        | keepAlive i seconds => exact if_neg (fun hc => hkeep ⟨seconds, by rw [hc.1]⟩)
        | _ => rfl
      rw [hsame]
      exact h d (lapses_step hactivate (fun seconds hc => hkeep ⟨seconds, hc⟩) d hd)

/-- In every run from a coordinator without open tunnels: the state that the history tells is the one
reached, and the deadline of an open tunnel is the latest end of its terms. -/
theorem isLatest_of_run (id : EnvironmentId) {calls : List (Instant × Call)}
    (h : Run (Call.step issuer) (fun _ _ _ => True) s₀ calls s)
    (hs₀ : ∀ d, s₀.board.deadlineOf? id ≠ some d) :
    (history issuer id s₀ calls).1 = s ∧
      ∀ d, s.board.deadlineOf? id = some d → IsLatest d (termsAfter issuer id s₀ calls) := by
  induction h with
  | nil => exact ⟨rfl, fun d hd => absurd hd (hs₀ d)⟩
  | @snoc calls s now call _ _ ih =>
    have hsnoc : history issuer id s₀ (calls ++ [(now, call)]) =
        (((call.step issuer now).run s).2, call.terms id now s (termsAfter issuer id s₀ calls)) := by
      unfold termsAfter
      rw [history, List.foldl_append]
      rw [← ih.1]
      rfl
    unfold termsAfter
    rw [hsnoc]
    exact ⟨rfl, isLatest_step ih.2 call⟩

/-! ## Sweeps -/

/-- What a sweep at a moment does to a coordinator and tells, by the ends of the terms of every
environment. -/
structure Swept (terms : EnvironmentId → List Instant) (moment : Instant) (s : Coordinator) (ids : List EnvironmentId)
    (s' : Coordinator) : Prop where
  latest : ∀ {id}, s.board.status id = .active → ∃ d, IsLatest d (terms id)
  nodup : ids.Nodup
  mem_iff : ∀ id, id ∈ ids ↔ s.board.status id = .active ∧ ∃ d, IsLatest d (terms id) ∧ d < moment
  /-- What is told is closed: the port that the tunnel held is free, and its credentials are dropped. -/
  closed : ∀ {id}, id ∈ ids → s'.board.status id = .idle ∧
    (s'.board.tunnel? id).bind Tunnel.port = none ∧ (s'.board.tunnel? id).bind Tunnel.credentials = none ∧
    s'.board.pool.port? id = none ∧
    ∃ port, (s.board.tunnel? id).bind Tunnel.port = some port ∧ s'.board.pool.isFree port = true
  others : ∀ {id}, id ∉ ids →
    s'.board.tunnel? id = s.board.tunnel? id ∧ s'.board.pool.port? id = s.board.pool.port? id
  rest : s'.census = s.census ∧ s'.jobs = s.jobs ∧ s'.board.pool.range = s.board.pool.range
  /-- Visited in any order, with a second look at each, the tunnels are closed alike. -/
  visited : ∀ {order : List EnvironmentId}, order.Perm ids →
    order.foldl (TunnelBoard.visit moment) ([], s.board) = (order, s'.board)
  again : ∀ {earlier}, earlier ≤ moment → (sweepAt earlier).run s' = (.done [], s')

/-- A sweep closes an open tunnel exactly if the latest end of its terms lies before the moment. -/
theorem swept_of_latest {terms : EnvironmentId → List Instant} (hb : s.board.Backed)
    (hsound : ∀ {id t}, s.board.tunnel? id = some t → t.Sound)
    (hlatest : ∀ id d, s.board.deadlineOf? id = some d → IsLatest d (terms id)) (moment : Instant) :
    Swept terms moment s (s.board.overdue moment) (s.withBoard (s.board.sweep moment).2) where
  latest {id} hid := by
    obtain ⟨d, hd⟩ := TunnelBoard.status_eq_active_iff.1 hid
    exact ⟨d, hlatest id d hd⟩
  nodup := s.board.nodup_overdue moment
  mem_iff id := by
    rw [TunnelBoard.mem_overdue, TunnelBoard.status_eq_active_iff]
    constructor
    · rintro ⟨d, hd, hlt⟩
      exact ⟨⟨d, hd⟩, d, hlatest id d hd, hlt⟩
    · rintro ⟨⟨d, hd⟩, u, hu, hlt⟩
      -- The latest of the ends is the deadline itself.
      exact ⟨d, hd, (hlatest id d hd).lt_iff.2 (hu.lt_iff.1 hlt)⟩
  closed {id} hid := by
    obtain ⟨d, hd, -⟩ := TunnelBoard.mem_overdue.1 hid
    obtain ⟨t, ht, hp⟩ := Option.bind_eq_some_iff.1 hd
    have hphase : t.phase ≠ .idle := fun hi => by
      rw [hi] at hp
      cases hp
    obtain ⟨port, hport⟩ := Option.isSome_iff_exists.1 ((hsound ht).port.2 hphase)
    have hheld : (s.board.tunnel? id).bind Tunnel.port = some port := by
      rw [ht]
      exact hport
    have hafter : (s.board.sweep moment).2.tunnel? id = some t.closed := by
      rw [TunnelBoard.tunnel?_sweep, if_pos hid, ht]
      rfl
    have hgone : (s.board.sweep moment).2.pool.port? id = none := by
      rw [TunnelBoard.port?_sweep, if_pos ⟨hid, by rw [hheld]; rfl⟩]
    refine ⟨?_, ?_, ?_, hgone, port, hheld, hb.isFree_sweep hid hheld⟩
    · unfold TunnelBoard.status
      rw [board_withBoard, hafter]
      rfl
    · rw [board_withBoard, hafter]
      rfl
    · rw [board_withBoard, hafter]
      rfl
  others {id} hid := by
    rw [board_withBoard, TunnelBoard.tunnel?_sweep, TunnelBoard.port?_sweep, if_neg hid, if_neg (fun hc => hid hc.1)]
    exact ⟨rfl, rfl⟩
  rest := ⟨rfl, rfl, s.board.range_sweep moment⟩
  visited {order} hperm := by
    have hover : ∀ id ∈ order, id ∈ s.board.overdue moment := fun id hid => hperm.mem_iff.1 hid
    rw [TunnelBoard.foldl_visit (hperm.nodup_iff.2 (s.board.nodup_overdue moment)) hover []]
    exact congrArg (Prod.mk order) (TunnelBoard.foldl_close_perm hperm s.board)
  again {earlier} hle := by
    have hsweep : (s.board.sweep moment).2.sweep earlier = ([], (s.board.sweep moment).2) := by
      rw [TunnelBoard.sweep, s.board.overdue_sweep hle]
      rfl
    change (Outcome.done ((s.board.sweep moment).2.sweep earlier).1,
      s.withBoard ((s.board.sweep moment).2.sweep earlier).2) = _
    rw [hsweep]

/-- In every run from a coordinator without tunnels, a sweep at any moment tells and closes, each once, the
open tunnels of which the latest end of their terms lies before the moment, and leaves all others. The
order of its visits does not matter, and another sweep at that moment or an earlier one closes nothing. A
new keep-alive leaves all tunnels and the ends of their terms as they are. -/
theorem swept_of_run (range : PortRange) (keepAlive : Nat) (census : Census) (jobs : JobBoard)
    {calls : List (Instant × Call)}
    (h : Run (Call.step issuer) (fun _ _ _ => True) ⟨census, .empty range keepAlive, jobs⟩ calls s) (moment : Instant) :
    (∃ ids s', (sweepAt moment).run s = (.done ids, s') ∧
      Swept (fun id => termsAfter issuer id ⟨census, .empty range keepAlive, jobs⟩ calls) moment s ids s') ∧
    ∀ now seconds, (((Call.setKeepAlive seconds).step issuer now).run s).2.board.tunnels = s.board.tunnels ∧
      ∀ id, termsAfter issuer id ⟨census, .empty range keepAlive, jobs⟩ (calls ++ [(now, .setKeepAlive seconds)]) =
        termsAfter issuer id ⟨census, .empty range keepAlive, jobs⟩ calls := by
  have hbacked := backed_after h (TunnelBoard.backed_empty range keepAlive)
  have hissued := issued_after h (TunnelBoard.issued_empty issuer range keepAlive)
  have hlatest := fun id => (isLatest_of_run id h nofun).2
  refine ⟨⟨_, _, rfl, swept_of_latest hbacked hissued.tunnel hlatest moment⟩, fun now seconds => ⟨rfl, fun id => ?_⟩⟩
  unfold termsAfter
  rw [history, List.foldl_append]
  rfl

/-- A tunnel that was kept alive longer than the keep-alive says is closed once that term is over. -/
theorem swept_after_use : ∃ s s',
    Run (Call.step hourly) (fun _ _ _ => True) (knowing ⟨7⟩)
      [(.ofSeconds 10, .activate ⟨7⟩), (.ofSeconds 20, .keepAlive ⟨7⟩ 600), (.ofSeconds 30, .keepAlive ⟨7⟩ 5)] s ∧
    (sweepAt (.ofSeconds 620)).run s = (.done [], s) ∧
    (sweepAt (.ofSeconds 621)).run s = (.done [⟨7⟩], s') ∧
    Swept (fun id => termsAfter hourly id (knowing ⟨7⟩)
      [(.ofSeconds 10, .activate ⟨7⟩), (.ofSeconds 20, .keepAlive ⟨7⟩ 600), (.ofSeconds 30, .keepAlive ⟨7⟩ 5)])
      (.ofSeconds 621) s [⟨7⟩] s' := by
  obtain ⟨s, hrun, hbefore, hafter⟩ : ∃ s,
      Run (Call.step hourly) (fun _ _ _ => True) (knowing ⟨7⟩)
        [(.ofSeconds 10, .activate ⟨7⟩), (.ofSeconds 20, .keepAlive ⟨7⟩ 600), (.ofSeconds 30, .keepAlive ⟨7⟩ 5)] s ∧
      (sweepAt (.ofSeconds 620)).run s = (.done [], s) ∧ ((sweepAt (.ofSeconds 621)).run s).1 = .done [⟨7⟩] :=
    ⟨_, ((Run.nil.snoc _ _ trivial).snoc _ _ trivial).snoc _ _ trivial, by decide +kernel, by decide +kernel⟩
  obtain ⟨ids, s', hsweep, hswept⟩ := (swept_of_run _ _ _ _ hrun (.ofSeconds 621)).1
  rw [hsweep] at hafter
  cases hafter
  exact ⟨s, s', hrun, hbefore, hsweep, hswept⟩

end Coordinator

end EdgeFleet
