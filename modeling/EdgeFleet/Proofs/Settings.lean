import EdgeFleet.Proofs.Expiry
import EdgeFleet.Proofs.Persistence
/-!
# Settings that are applied and settings that are stored

The settings are kept three times: in their row, with the service, and as the keep-alive of the tunnels.
The service keeps what it was told, and the row keeps it clamped to 31 bits. A service that is started
anew over the row therefore applies the stored form of the settings (`Settings.stored`), whatever
happened since the last start; it is the same only where neither number needs to be clamped.
-/

namespace EdgeFleet

namespace Settings

/-- The settings that the row of some settings reads back as. -/
def stored (s : Settings) : Settings := ⟨clamped s.checkInInterval, clamped s.keepAliveSeconds⟩

theorem stored_eq_self_iff {s : Settings} :
    s.stored = s ↔ s.checkInInterval.toNat ≤ 0x7fffffff ∧ s.keepAliveSeconds.toNat ≤ 0x7fffffff := by
  rw [← clamped_eq_self_iff, ← clamped_eq_self_iff]
  constructor
  · intro h
    exact ⟨congrArg checkInInterval h, congrArg keepAliveSeconds h⟩
  · rintro ⟨hcheckIn, hkeepAlive⟩
    unfold stored
    rw [hcheckIn, hkeepAlive]

end Settings

namespace SettingsRow

/-- What is written reads back. -/
theorem toSettings_ofSettings (s : Settings) : (ofSettings s).toSettings = .ok s.stored := by
  obtain ⟨checkIn, hcheckIn, echeckIn⟩ := Figure.readInt32_ofSeconds s.checkInInterval
  obtain ⟨keepAlive, hkeepAlive, ekeepAlive⟩ := Figure.readInt32_ofSeconds s.keepAliveSeconds
  unfold ofSettings toSettings
  simp only [hcheckIn, hkeepAlive, inColumn, readTime]
  change Except.ok _ = _
  rw [echeckIn, ekeepAlive]
  rfl

/-- Whatever row is read, its settings need no clamping. -/
theorem stored_of_toSettings {r : SettingsRow} {s : Settings} (h : r.toSettings = .ok s) : s.stored = s := by
  unfold toSettings at h
  obtain ⟨checkIn, -, h⟩ := bind_eq_ok_iff.1 h
  obtain ⟨keepAlive, -, h⟩ := bind_eq_ok_iff.1 h
  obtain ⟨_, -, h⟩ := bind_eq_ok_iff.1 h
  cases h
  unfold Settings.stored
  rw [clamped_secondsOf, clamped_secondsOf]

end SettingsRow

namespace Database

open Attempt

variable {d : Database} {settings : Settings}

/-! ## The row of settings -/

/-- What is read of a table of settings. -/
def readSettings : Option (Table Int SettingsRow) → Outcome StoreError (Option Settings)
  | none => .refused (.database (.noTable .query .settings))
  | some t => match t.get? settingsId with
    | none => .done none
    | some row => match row.toSettings with
      | .ok settings => .done (some settings)
      | .error fault => .refused (.database fault)

/-- The settings that a database answers; they depend on the table of settings alone. -/
def answered (d : Database) : Outcome StoreError Settings := (readSettings d.settings).rename id (·.getD .standard)

theorem answered_congr {d' : Database} (h : d'.settings = d.settings) : d'.answered = d.answered := by
  unfold answered
  rw [h]

theorem run_storedSettings? (d : Database) : storedSettings?.run d = (readSettings d.settings, d) := by
  unfold storedSettings?
  rw [run_bind_done (run_view _ d)]
  cases d.settings with
  | none => rfl
  | some t =>
    rw [run_bind_done (run_orRefuse_some _ t d)]
    unfold readSettings
    dsimp only
    cases t.get? settingsId with
    | none => rfl
    | some row =>
      dsimp only
      cases row.toSettings <;> rfl

theorem run_currentSettings (d : Database) : currentSettings.run d = (d.answered, d) := by
  unfold currentSettings answered
  rw [run_bind, run_storedSettings?]
  cases readSettings d.settings <;> rfl

/-- Settings that are answered need no clamping. -/
theorem stored_of_answered (h : d.answered = .done settings) : settings.stored = settings := by
  obtain ⟨settings?, hread, rfl⟩ := Outcome.rename_eq_done_iff.1 h
  unfold readSettings at hread
  split at hread
  · cases hread
  · split at hread
    · cases hread
      rfl
    · split at hread
      · rename_i hrow
        cases hread
        exact SettingsRow.stored_of_toSettings hrow
      · cases hread

/-- The database with settings in their row. -/
def withSettings (d : Database) (settings : Settings) : Database :=
  { d with settings := d.settings.map (·.insert settingsId (.ofSettings settings)) }

/-- What was put into the row is answered in its stored form. -/
theorem answered_withSettings {t : Table Int SettingsRow} (ht : d.settings = some t) (settings : Settings) :
    (d.withSettings settings).answered = .done settings.stored := by
  unfold answered withSettings
  rw [ht, Option.map_some, readSettings, Table.get?_insert_eq, if_pos rfl]
  dsimp only
  rw [SettingsRow.toSettings_ofSettings]
  rfl

/-- Storing settings puts them into their row, or ends otherwise and leaves the database. -/
theorem run_updateSettingsAt (now : Instant) (settings : Settings) (d : Database) :
    (∃ t, d.settings = some t ∧ (updateSettingsAt now settings).run d = (.done (), d.withSettings settings)) ∨
      ∃ o, o ≠ .done () ∧ (updateSettingsAt now settings).run d = (o, d) := by
  unfold updateSettingsAt updateSettings
  cases hc : now.isReadable with
  | false =>
    rw [run_bind_crashed (run_clock_of_not_isReadable hc d)]
    exact .inr ⟨.crashed, nofun, rfl⟩
  | true =>
    rw [run_bind_done (run_clock_of_isReadable hc d)]
    have hread := run_storedSettings? d
    cases ht : d.settings with
    | none =>
      rw [ht] at hread
      rw [run_bind_refused hread]
      exact .inr ⟨.refused _, nofun, rfl⟩
    | some t =>
      rcases hr : readSettings d.settings with settings? | err | _ <;> rw [hr] at hread
      · rw [run_bind_done hread]
        exact .inl ⟨t, rfl, rfl⟩
      · rw [run_bind_refused hread]
        exact .inr ⟨.refused err, nofun, rfl⟩
      · rw [run_bind_crashed hread]
        exact .inr ⟨.crashed, nofun, rfl⟩

/-- Writes to the environments leave the settings. -/
theorem rowWrites_settings (table : Option (Table Int SettingsRow)) : RowWrites (fun d => d.settings = table) where
  put _ _ hd := hd
  replace _ _ hd := hd
  erase _ _ hd := hd

end Database

namespace Coordinator

open Attempt

/-- The keep-alive is left as it is by every call but the one that sets it. -/
theorem keepAlive_step (issuer : Issuer) (now : Instant) {call : Call} (h : ∀ seconds, call ≠ .setKeepAlive seconds)
    (s : Coordinator) : ((call.step issuer now).run s).2.board.keepAlive = s.board.keepAlive := by
  cases hs : call.subject? with
  | some id => exact (agreeBut_step hs).keepAlive
  | none =>
    have hacting := acting issuer now call s
    generalize ((call.step issuer now).run s).2.board = b at hacting
    cases hacting with
    | rests => rfl
    | sweeps _ moment => exact (TunnelBoard.foldl_close_rest _ _).2.1
    | sets seconds => exact absurd rfl (h seconds)
    | _ => cases hs

end Coordinator

namespace Service

open Attempt

variable {s s' s₀ : Service} {settings : Settings} {now : Instant}

/-! ## Loading and changing settings -/

theorem run_loadSettings (h : s.registry.store.refusals.lookup .settings = none)
    (ha : s.registry.store.database.answered = .done settings) : loadSettings.run s = (.done (), s.apply settings) := by
  have hread : (onSettings Gateway.settings).run s = (.done settings, s) := by
    unfold onSettings Gateway.settings
    rw [run_within, Gateway.run_call_of_none h, Database.run_currentSettings, ha]
    rfl
  exact run_bind_done hread

/-- Settings that are loaded are those that the database answers. -/
theorem of_run_loadSettings (h : loadSettings.run s = (.done (), s')) : ∃ settings g,
    s.registry.store.database.answered = .done settings ∧ g.database = s.registry.store.database ∧
      s' = (s.withStore g).apply settings := by
  obtain ⟨settings, u, hread, h⟩ := run_bind_eq_done h
  unfold onSettings Gateway.settings at hread
  rw [run_within] at hread
  rcases Gateway.run_call .settings Database.currentSettings s.registry.store with ⟨err, hc⟩ | hc
  · rw [hc] at hread
    cases hread
  · rw [hc, Database.run_currentSettings] at hread
    obtain ⟨ho, rfl⟩ := Prod.mk.inj hread
    obtain ⟨x, hx, rfl⟩ := Outcome.rename_eq_done_iff.1 ho
    cases h
    exact ⟨x, _, hx, rfl, rfl⟩

/-- What changing the settings comes to. -/
inductive Changing (s : Service) (settings : Settings) : Outcome ServiceError Unit × Service → Prop
  /-- The call of the store is refused or cut off, and only the refusals of the store tell of it. -/
  | kept {o : Outcome ServiceError Unit} {g : Gateway} (ho : o ≠ .done ())
      (hg : g.database = s.registry.store.database) : Changing s settings (o, s.withStore g)
  | changed {g : Gateway} (ht : s.registry.store.database.settings.isSome = true)
      (hg : g.database = s.registry.store.database.withSettings settings) :
      Changing s settings (.done (), (s.withStore g).apply settings)

theorem changing (now : Instant) (settings : Settings) (s : Service) :
    Changing s settings ((updateSettings now settings).run s) := by
  unfold updateSettings Gateway.updateSettings
  have hstore : (onSettings (Gateway.call .updateSettings (Database.updateSettingsAt now settings))).run s = _ :=
    run_within _ _ _ _ s
  rcases Gateway.run_call .updateSettings (Database.updateSettingsAt now settings) s.registry.store with
    ⟨err, hc⟩ | hc <;>
    rw [hc] at hstore
  · rw [run_bind_refused hstore]
    exact .kept nofun rfl
  · rcases Database.run_updateSettingsAt now settings s.registry.store.database with ⟨t, ht, hr⟩ | ⟨o, ho, hr⟩ <;>
      rw [hr] at hstore
    · rw [run_bind_done hstore]
      exact .changed (by rw [ht]; rfl) rfl
    · cases o with
      | done => exact absurd rfl ho
      | refused err =>
        rw [run_bind_refused hstore]
        exact .kept nofun rfl
      | crashed =>
        rw [run_bind_crashed hstore]
        exact .kept nofun rfl

/-! ## Settings through every event -/

/-- Whether the stored form of the settings is what the database answers, and the keep-alive of the tunnels
is that of the settings. -/
structure Agrees (s : Service) : Prop where
  answered : s.registry.store.database.answered = .done s.settings.stored
  applied : s.board.keepAlive = s.settings.keepAliveSeconds.toNat

theorem agrees_apply (h : s.registry.store.database.answered = .done settings.stored) : (s.apply settings).Agrees :=
  ⟨h, rfl⟩

/-- A service that was started applies the settings that the database answers. -/
theorem agrees_of_start (h : start.run s = (.done (), s')) : s'.Agrees := by
  obtain ⟨_, u, -, hload⟩ := run_bind_eq_done h
  obtain ⟨settings, g, ha, hg, rfl⟩ := of_run_loadSettings hload
  refine agrees_apply ?_
  rw [Database.stored_of_answered ha, ← ha]
  exact congrArg Database.answered hg

/-- What the service applies of its settings. -/
def Applies (settings : Settings) (n : Nat) (s : Service) : Prop := s.settings = settings ∧ s.board.keepAlive = n

variable {n : Nat}

theorem keeps_applies_onRegistry {α : Type} (x : Registry.Step α) : Keeps (Applies settings n) (onRegistry x) :=
  fun _ hs => hs

theorem keeps_applies_withIssuer {α : Type} {x : Issuer → Coordinator.Step α}
    (hx : ∀ issuer c, ((x issuer).run c).2.board.keepAlive = c.board.keepAlive) :
    Keeps (Applies settings n) (withIssuer x) :=
  fun s hs => ⟨hs.1, (hx s.issuer s.coordinator).trans hs.2⟩

theorem keeps_applies_call (now : Instant) (call : Coordinator.Call) (h : ∀ seconds, call ≠ .setKeepAlive seconds) :
    Keeps (Applies settings n) (withIssuer (fun issuer => call.step issuer now)) :=
  keeps_applies_withIssuer (fun issuer c => Coordinator.keepAlive_step issuer now h c)

/-- So does a call whose answer is looked at. -/
theorem keeps_applies_onTunnels {α : Type} (now : Instant) (call : Coordinator.Call) {x : Coordinator.Step α}
    (h : ∀ seconds, call ≠ .setKeepAlive seconds) (hx : ∀ issuer, call.step issuer now = x.ignored) :
    Keeps (Applies settings n) (onTunnels x) := by
  refine keeps_applies_withIssuer (x := fun _ => x) (fun issuer c => ?_)
  rw [← snd_run_ignored, ← hx issuer]
  exact Coordinator.keepAlive_step issuer now h c

theorem keeps_applies_details (now : Instant) (id : EnvironmentId) :
    Keeps (Applies settings n) (onTunnels (Coordinator.details now id)) :=
  keeps_applies_onTunnels now (.details id) nofun (fun _ => rfl)

theorem keeps_applies_advanceTunnel (now : Instant) (id : EnvironmentId) :
    Keeps (Applies settings n) (onTunnels (advanceTunnel now id)) := by
  refine keeps_applies_withIssuer (x := fun _ => advanceTunnel now id) (fun issuer c => ?_)
  rcases snd_run_advanceTunnel issuer now id c with h | ⟨call, hc, h⟩
  · rw [h]
    rfl
  · rw [h, Coordinator.keepAlive_step issuer now (by rintro seconds rfl; cases hc)]
    rfl

theorem keeps_applies_get (id : EnvironmentId) : Keeps (Applies settings n) (Service.get id) := by
  refine (keeps_applies_onRegistry _).bind (fun e? => ?_)
  cases e? with
  | none => exact keeps_refuse _
  | some e => exact keeps_pure e

/-- What is applied is left as it is by every event but those that set it. -/
theorem keeps_applies (now : Instant) {event : Event} (hr : event ≠ .restart)
    (hs : ∀ settings, event ≠ .updateSettings settings) (hk : ∀ seconds, event ≠ .coordinate (.setKeepAlive seconds)) :
    Keeps (Applies settings n) (event.step now) := by
  cases event with
  | create e => exact (keeps_create keeps_applies_onRegistry e).ignored
  | get id => exact (keeps_applies_get id).ignored
  | list => exact (keeps_applies_onRegistry _).ignored
  | update id e => exact (keeps_applies_onRegistry _).ignored
  | delete id =>
    refine (keeps_applies_onRegistry _).bind (fun _ => keeps_change (fun u hu => ⟨hu.1, ?_⟩))
    exact (TunnelBoard.AgreeBut.drop u.board id).keepAlive.trans hu.2
  | poll edgeId agent =>
    refine Keeps.ignored ((keeps_view _).bind (fun owner => ?_))
    cases owner with
    | none => exact keeps_refuse _
    | some id =>
      refine ((keeps_applies_onRegistry _).renamed _).bind
        (fun e => (keeps_applies_advanceTunnel now id).bind (fun _ => ?_))
      exact (keeps_applies_details now id).bind (fun d => (keeps_view _).bind (fun _ => keeps_pure _))
  | recordActivity id =>
    refine ((keeps_view _).bind (fun seconds => ?_)).ignored
    exact keeps_applies_onTunnels now (.keepAlive id seconds) nofun (fun _ => rfl)
  | requireTunnel id =>
    exact ((keeps_applies_call now (.require id) nofun).bind (fun _ => keeps_applies_details now id)).ignored
  | stopTunnel id => exact keeps_applies_call now (.stop id) nofun
  | await id =>
    refine ((keeps_applies_get id).bind (fun e => (keeps_view _).bind (fun x => ?_))).ignored
    exact (keeps_applies_call now (.await id) nofun).bind (fun _ => keeps_pure _)
  | attachJob id job => exact keeps_attachJob (fun _ hs _ => hs)
  | detachJob job => exact keeps_change (fun _ hs => hs)
  | acknowledgeJob id job => exact Keeps.ignored (fun _ hs => hs)
  | updateSettings settings => exact absurd rfl (hs settings)
  | coordinate call => exact keeps_applies_call now call (fun seconds hc => hk seconds (congrArg _ hc))
  | rebuild => exact keeps_applies_onRegistry _
  | restart => exact absurd rfl hr
  | refuseNext method error => exact keeps_change (fun _ hs => hs)

theorem Agrees.updateSettings (h : s.Agrees) (now : Instant) (settings : Settings) :
    ((Service.updateSettings now settings).run s).2.Agrees := by
  have hc := changing now settings s
  generalize (Service.updateSettings now settings).run s = r at hc
  cases hc with
  | kept ho hg => exact ⟨(congrArg Database.answered hg).trans h.answered, h.applied⟩
  | changed ht hg =>
    obtain ⟨t, ht⟩ := Option.isSome_iff_exists.1 ht
    exact agrees_apply ((congrArg Database.answered hg).trans (Database.answered_withSettings ht settings))

/-- The settings agree with the row through every event but one that sets the keep-alive past the service. -/
theorem keeps_agrees (now : Instant) {event : Event} (hk : ∀ seconds, event ≠ .coordinate (.setKeepAlive seconds)) :
    Keeps Agrees (event.step now) := by
  intro s h
  have hkept := (Database.rowWrites_settings s.registry.store.database.settings).kept
  by_cases hs : ∃ settings, event = .updateSettings settings
  · obtain ⟨settings, rfl⟩ := hs
    exact h.updateSettings now settings
  · have hs' : ∀ settings, event ≠ .updateSettings settings := fun settings he => hs ⟨settings, he⟩
    by_cases hr : event = .restart
    · subst hr
      have hstore := keeps_start (J := fun d => d.settings = s.registry.store.database.settings) s.restarted rfl
      rw [Event.step, snd_run_ignored, run_restart]
      rcases hstart : start.run s.restarted with ⟨_ | _ | _, fresh⟩ <;> rw [hstart] at hstore
      · exact agrees_of_start hstart
      · exact ⟨(Database.answered_congr hstore).trans h.answered, h.applied⟩
      · exact ⟨(Database.answered_congr hstore).trans h.answered, h.applied⟩
    · obtain ⟨hsettings, happlied⟩ : Applies s.settings s.board.keepAlive _ := keeps_applies now hr hs' hk s ⟨rfl, rfl⟩
      have hrow := keeps_stores_of_ne_updateSettings hkept now hs' s rfl
      refine ⟨?_, ?_⟩
      · rw [Database.answered_congr hrow, hsettings]
        exact h.answered
      · rw [happlied, hsettings]
        exact h.applied

/-- From any start, in every run of events, refused or cut off as they may be, of which none sets the
keep-alive of the tunnels past the service: the keep-alive is that of the settings, and a service that is
built over the same settings applies their stored form. That is the settings themselves exactly if neither
number has more than 31 bits. Changing the settings puts them into the row, the service and the tunnels,
or ends without a trace in any of the three. -/
theorem settings_of_run {store : Gateway} {range : PortRange} {keepAlive : Nat} {issuer : Issuer}
    {enrollment : EnrollmentConfig}
    (hstart : start.run (assemble (.blank store) range keepAlive issuer enrollment) = (.done (), s₀))
    {events : List (Instant × Event)}
    (h : Run Event.step (fun _ _ event => ∀ seconds, event ≠ .coordinate (.setKeepAlive seconds)) s₀ events s) :
    s.board.keepAlive = s.settings.keepAliveSeconds.toNat ∧
      (∀ u : Service, u.registry.store.database.settings = s.registry.store.database.settings →
        u.registry.store.refusals.lookup .settings = none →
          loadSettings.run u = (.done (), u.apply s.settings.stored)) ∧
      (s.settings.stored = s.settings ↔
        s.settings.checkInInterval.toNat ≤ 0x7fffffff ∧ s.settings.keepAliveSeconds.toNat ≤ 0x7fffffff) ∧
      ∀ now settings, Changing s settings ((updateSettings now settings).run s) := by
  have hagrees : s.Agrees := by
    refine h.inv Agrees (agrees_of_start hstart) (fun s now event hs hk => ?_)
    exact keeps_agrees now hk s hs
  refine ⟨hagrees.applied, fun u hu hl => ?_, Settings.stored_eq_self_iff, fun now settings => changing now settings s⟩
  exact run_loadSettings hl ((Database.answered_congr hu).trans hagrees.answered)

/-- Where one change of the settings is refused and the next is done, a service that is built over the same
settings applies those of the second. -/
theorem settings_of_second_change : ∃ s,
    start.run (overFresh Coordinator.hourly) = (.done (), overFresh Coordinator.hourly) ∧
    Run Event.step (fun _ _ event => ∀ seconds, event ≠ .coordinate (.setKeepAlive seconds))
      (overFresh Coordinator.hourly)
      [(.ofSeconds 10, .refuseNext .updateSettings (.database .full)), (.ofSeconds 20, .updateSettings ⟨15, 90⟩),
        (.ofSeconds 30, .updateSettings ⟨7, 60⟩)] s ∧
    s.settings = ⟨7, 60⟩ ∧ s.board.keepAlive = 60 ∧
    loadSettings.run s.restarted = (.done (), s.restarted.apply ⟨7, 60⟩) ∧
    Changing s ⟨8, 61⟩ ((updateSettings (.ofSeconds 40) ⟨8, 61⟩).run s) := by
  obtain ⟨s, hrun, hsettings, hrefusals⟩ : ∃ s,
      Run Event.step (fun _ _ event => ∀ seconds, event ≠ .coordinate (.setKeepAlive seconds))
        (overFresh Coordinator.hourly)
        [(.ofSeconds 10, .refuseNext .updateSettings (.database .full)), (.ofSeconds 20, .updateSettings ⟨15, 90⟩),
          (.ofSeconds 30, .updateSettings ⟨7, 60⟩)] s ∧
      s.settings = ⟨7, 60⟩ ∧ s.restarted.registry.store.refusals.lookup .settings = none :=
    ⟨_, ((Run.nil.snoc _ _ nofun).snoc _ _ nofun).snoc _ _ nofun, by decide +kernel, by decide +kernel⟩
  have hstart : start.run (overFresh Coordinator.hourly) = (.done (), overFresh Coordinator.hourly) := by decide +kernel
  obtain ⟨hkeepAlive, hload, -, hchange⟩ := settings_of_run hstart hrun
  rw [hsettings] at hkeepAlive hload
  exact ⟨s, hstart, hrun, hsettings, hkeepAlive, hload s.restarted rfl hrefusals, hchange _ _⟩

/-- A service applies numbers of 32 bits that a service started anew over the same row does not. -/
theorem restart_clamps_settings : ∃ s fresh,
    start.run (overFresh Coordinator.hourly) = (.done (), overFresh Coordinator.hourly) ∧
    Run Event.step (fun _ _ event => ∃ settings, event = .updateSettings settings) (overFresh Coordinator.hourly)
      [(.ofSeconds 10, .updateSettings ⟨3000000000, 3000000000⟩)] s ∧
    s.settings = ⟨3000000000, 3000000000⟩ ∧ s.board.keepAlive = 3000000000 ∧
    start.run s.restarted = (.done (), fresh) ∧
    fresh.settings = ⟨2147483647, 2147483647⟩ ∧ fresh.board.keepAlive = 2147483647 :=
  ⟨_, _, by decide +kernel, Run.nil.snoc _ _ ⟨_, rfl⟩, by decide +kernel, by decide +kernel,
    Prod.ext (by decide +kernel) rfl, by decide +kernel, by decide +kernel⟩

end Service

end EdgeFleet
