import EdgeFleet.Proofs.Tunnels
import Mathlib.Logic.Relation
/-!
# Changes of a board of tunnels

What a step of the coordinator does to the board is a sequence of `Change`s, so what every change
keeps is kept by every step. A step that is cut off between lending a port and keeping it `Strands` the
port; the change that such a step ends with is set apart from all others.
-/

namespace EdgeFleet

namespace TunnelBoard

/-- One change of the board by a step. Only a step that `strands` a port ends with a port lent that its
tunnel does not hold. -/
inductive Change (issuer : Issuer) (known : EnvironmentId → Bool) (strands : Prop) (b : TunnelBoard) :
    TunnelBoard → Prop
  | begin {id : EnvironmentId} (now : Instant) (hk : known id = true) (ht : b.tunnel? id = none) :
      Change issuer known strands b (b.keep id (.fresh now))
  | lend {id : EnvironmentId} {t : Tunnel} {port : UInt16} {b' : TunnelBoard} (hs : strands)
      (ht : b.tunnel? id = some t) (hr : b.reserve? id t = some (port, b')) : Change issuer known strands b b'
  | ask {id : EnvironmentId} {t : Tunnel} {port : UInt16} {b' : TunnelBoard} {now : Instant} {c : Credentials}
      (ht : b.tunnel? id = some t) (hp : t.phase ≠ .required) (hr : b.reserve? id t = some (port, b'))
      (hc : t.credentialsAt? issuer now id = some c) : Change issuer known strands b (b'.keep id (t.asked port c))
  | activate {id : EnvironmentId} {t : Tunnel} {port : UInt16} {b' : TunnelBoard} (now : Instant) (seconds : Nat)
      (ht : b.tunnel? id = some t) (hr : b.reserve? id t = some (port, b')) :
      Change issuer known strands b (b'.keep id (t.opened now seconds port))
  | use {id : EnvironmentId} {t : Tunnel} {deadline : Instant} (now : Instant) (seconds : Nat)
      (ht : b.tunnel? id = some t) (hp : t.phase = .active deadline) :
      Change issuer known strands b (b.keep id (t.used deadline now seconds))
  | close (id : EnvironmentId) : Change issuer known strands b (b.close id)
  | drop (id : EnvironmentId) : Change issuer known strands b (b.drop id)
  | count : Change issuer known strands b { b with activations := b.activations + 1 }
  | setKeepAlive (seconds : Nat) : Change issuer known strands b { b with keepAlive := seconds }

/-- Any number of changes, one after the other. -/
abbrev Changes (issuer : Issuer) (known : EnvironmentId → Bool) (strands : Prop) :
    TunnelBoard → TunnelBoard → Prop :=
  Relation.ReflTransGen (Change issuer known strands)

variable {issuer : Issuer} {known : EnvironmentId → Bool} {strands : Prop} {b b' : TunnelBoard}
  {id : EnvironmentId} {t : Tunnel} {now : Instant}

/-- What every change keeps is kept by any number of them. -/
theorem Changes.inv {I : TunnelBoard → Prop} (hc : ∀ b b', I b → Change issuer known strands b b' → I b')
    (h : Changes issuer known strands b b') (hb : I b) : I b' := by
  induction h with
  | refl => exact hb
  | tail _ hs ih => exact hc _ _ ih hs

/-- A change is one also where more steps strand a port. -/
theorem Change.imp {strands' : Prop} (h : Change issuer known strands b b') (hs : strands → strands') :
    Change issuer known strands' b b' := by
  cases h with
  | begin now hk ht => exact .begin now hk ht
  | lend h ht hr => exact .lend (hs h) ht hr
  | ask ht hp hr hc => exact .ask ht hp hr hc
  | activate now seconds ht hr => exact .activate now seconds ht hr
  | use now seconds ht hp => exact .use now seconds ht hp
  | close id => exact .close id
  | drop id => exact .drop id
  | count => exact .count
  | setKeepAlive seconds => exact .setKeepAlive seconds

theorem Changes.imp {strands' : Prop} (h : Changes issuer known strands b b') (hs : strands → strands') :
    Changes issuer known strands' b b' := by
  induction h with
  | refl => exact .refl
  | tail _ hc ih => exact ih.tail (hc.imp hs)

/-- Taking up a tunnel keeps it. -/
theorem Refers.changes (h : b.Refers now id t) (hk : known id = true) :
    Changes issuer known strands b (b.keep id t) := by
  rcases h with ht | ⟨hn, -, rfl⟩
  · rw [keep_of_tunnel? ht]
  · exact .single (.begin now hk hn)

theorem changes_sweep (b : TunnelBoard) (moment : Instant) : Changes issuer known strands b (b.sweep moment).2 := by
  have h : ∀ (ids : List EnvironmentId) (b : TunnelBoard),
      Changes issuer known strands b (ids.foldl TunnelBoard.close b) := by
    intro ids
    induction ids with
    | nil => intro b; exact .refl
    | cons id ids ih => intro b; exact .head (.close id) (ih _)
  exact h _ b

end TunnelBoard

namespace Coordinator

open Attempt
open TunnelBoard (Changes)

variable {issuer : Issuer} {strands : Prop} {s : Coordinator}

/-- Whether an environment is known, however many look-ups are left. -/
def knows (s : Coordinator) (id : EnvironmentId) : Bool := s.census.known.contains id

/-- Whether a step that asks for a tunnel without a port, and ends in some outcome, is cut off after it
took the tunnel up: the port that it was lent is then left with nobody who holds it. -/
def Strands (s : Coordinator) (now : Instant) (id : EnvironmentId) (o : Outcome TunnelError Unit) : Prop :=
  (s.board.tunnel? id).bind Tunnel.port = none ∧ (now.isReadable = true ∨ (s.board.tunnel? id).isSome = true) ∧
    o = .crashed

/-- A step that took up a tunnel without a port strands the port that it was lent, if it is cut off. -/
theorem strands_of_refers {now : Instant} {id : EnvironmentId} {t : Tunnel} (ht : s.board.Refers now id t)
    (hp : t.port = none) : s.Strands now id .crashed := by
  rcases ht with ht | ⟨hn, hc, -⟩
  · exact ⟨by rw [ht]; exact hp, .inr (by rw [ht]; rfl), rfl⟩
  · exact ⟨by rw [hn]; rfl, .inl hc, rfl⟩

theorem changes_require (issuer : Issuer) (now : Instant) (id : EnvironmentId) (s : Coordinator) :
    Changes issuer s.knows (s.Strands now id ((require issuer now id).run s).1) s.board
      ((require issuer now id).run s).2.board := by
  have hr := requiring issuer now id s
  generalize (require issuer now id).run s = r at hr
  have hask : ∀ {t : Tunnel} {port : UInt16} {b : TunnelBoard} {c : Credentials}, s.sees id = true →
      s.board.Refers now id t → t.phase ≠ .required → s.board.reserve? id t = some (port, b) →
      t.credentialsAt? issuer now id = some c →
      Changes issuer s.knows (s.Strands now id r.1) s.board (b.keep id (t.asked port c)) := by
    intro t port b c hs ht hp hr hc
    apply (ht.changes (contains_of_sees hs)).tail
    rw [← TunnelBoard.keep_keep b id t]
    exact .ask (by simp) hp (by rw [TunnelBoard.reserve?_keep, hr]; rfl) hc
  cases hr with
  | unknown | unread | standing => exact .refl
  | exhausted hs ht => exact ht.changes (contains_of_sees hs)
  | @cutOff t port b hs ht hp hr hc =>
    cases hport : t.port with
    | some q =>
      -- The port that it was cut off with is the one that the tunnel held before.
      rw [TunnelBoard.reserve?_of_port hport] at hr
      cases hr
      exact ht.changes (contains_of_sees hs)
    | none =>
      -- The port was lent just now, and the tunnel that is kept does not hold it.
      apply (ht.changes (contains_of_sees hs)).tail
      exact .lend (strands_of_refers ht hport) (s.board.tunnel?_keep_self id t)
        (by rw [TunnelBoard.reserve?_keep, hr]; rfl)
  | forgotten hs ht hp hr hc => exact (hask hs ht hp hr hc).tail (.drop id)
  | asked hs ht hp hr hc => exact hask hs ht hp hr hc

theorem changes_activate (now : Instant) (id : EnvironmentId) :
    Changes issuer s.knows strands s.board ((activate now id).run s).2.board := by
  have hr := activating now id s
  generalize (activate now id).run s = r at hr
  have hopen : ∀ {t : Tunnel} {port : UInt16} {b : TunnelBoard}, s.sees id = true → s.board.Refers now id t →
      s.board.reserve? id t = some (port, b) →
      Changes issuer s.knows strands s.board (b.keep id (t.opened now b.keepAlive port)) := by
    intro t port b hs ht hr
    apply (ht.changes (contains_of_sees hs)).tail
    rw [← TunnelBoard.keep_keep b id t]
    exact .activate now b.keepAlive (by simp) (by rw [TunnelBoard.reserve?_keep, hr]; rfl)
  cases hr with
  | unknown | unread => exact .refl
  | exhausted hs _ ht => exact ht.changes (contains_of_sees hs)
  | forgotten hs _ ht hr => exact (hopen hs ht hr).tail (.drop id)
  | opened hs _ ht hr => exact (hopen hs ht hr).tail .count

theorem changes_keepAlive (now : Instant) (id : EnvironmentId) (seconds : Nat) :
    Changes issuer s.knows strands s.board ((keepAlive now id seconds).run s).2.board := by
  have hr := extending now id seconds s
  generalize (keepAlive now id seconds).run s = r at hr
  cases hr with
  | unknown | inactive | unread => exact .refl
  | extended _ ht hp => exact .single (.use now seconds ht hp)

theorem changes_stop (id : EnvironmentId) : Changes issuer s.knows strands s.board ((stop id).run s).2.board := by
  rw [run_stop]
  cases s.sees id with
  | true => exact .single (.close id)
  | false => exact .refl

theorem changes_sweep (now : Instant) : Changes issuer s.knows strands s.board ((sweep now).run s).2.board := by
  unfold sweep
  cases hc : now.isReadable with
  | false => rw [run_bind_crashed (run_clock_of_not_isReadable hc s)]
  | true =>
    rw [run_bind_done (run_clock_of_isReadable hc s)]
    exact TunnelBoard.changes_sweep s.board now

/-- One who waits asks for the tunnel if it is idle, and does nothing else. -/
theorem run_await (issuer : Issuer) (now : Instant) (id : EnvironmentId) (s : Coordinator) :
    (await issuer now id).run s =
      if s.sees id = true ∧ s.board.status id = .idle then (require issuer now id).run (s.looked id)
      else (if s.sees id then .done () else .refused (.unknownEnvironment id), s.looked id) := by
  unfold await
  cases hs : s.sees id with
  | false => rw [run_bind_refused (run_status_of_not_sees hs)]; rfl
  | true =>
    rw [run_bind_done (run_status_of_sees hs)]
    by_cases hi : s.board.status id = .idle
    · rw [if_pos hi, if_pos ⟨rfl, hi⟩]
    · rw [if_neg hi, if_neg (fun h => hi h.2)]
      rfl

theorem changes_await (issuer : Issuer) (now : Instant) (id : EnvironmentId) (s : Coordinator) :
    Changes issuer s.knows (s.Strands now id ((await issuer now id).run s).1) s.board
      ((await issuer now id).run s).2.board := by
  have hk : (s.looked id).knows = s.knows := by
    funext i
    rw [knows, known_looked]
    rfl
  rw [run_await]
  split
  · rw [← hk]
    exact changes_require issuer now id (s.looked id)
  · exact .refl

/-- A look leaves the board alone. -/
theorem board_run_look (now : Instant) (id : EnvironmentId) (s : Coordinator) :
    ((look now id).run s).2.board = s.board := by
  unfold look
  cases hs : s.sees id with
  | false => rw [run_bind_refused (run_status_of_not_sees hs)]; rfl
  | true =>
    rw [run_bind_done (run_status_of_sees hs)]
    split
    · change ((some <$> details now id : Step _).run (s.looked id)).2.board = s.board
      rw [run_map, snd_run_details]
      rfl
    · rfl

end Coordinator

end EdgeFleet
