import EdgeFleet.Proofs.Persistence
/-!
# What a failing store leaves of a registry

The operations of the registry are told here over any store, of which nothing is known but that a call that it
refuses leaves the rows as they were. An operation that is refused then leaves the rows and every index as
they were; a refused poll leaves at most the contact with its environment. Over the gateway these operations
are those of the registry itself, so the indices are safe there too.
-/

namespace EdgeFleet

/-- The calls of a store of environments. -/
structure EnvironmentStore (σ : Type) where
  environment? : EnvironmentId → Attempt σ StoreError (Option Environment)
  insert : Environment → Attempt σ StoreError Environment
  save : Environment → Attempt σ StoreError Environment
  delete : EnvironmentId → Attempt σ StoreError Unit
  all : Attempt σ StoreError (List Environment)

namespace EnvironmentStore

variable {σ ρ : Type}

/-- The store that a registry reaches. -/
def gateway : EnvironmentStore Gateway :=
  ⟨Gateway.environment?, Gateway.insert, Gateway.save, Gateway.delete, Gateway.all⟩

/-- A database that is read, and refuses to be written. -/
def readOnly (err : StoreError) : EnvironmentStore Database :=
  ⟨Database.environment?, fun _ => .refuse err, fun _ => .refuse err, fun _ => .refuse err, Database.all⟩

/-- Whether reads leave the rows of a store as they were, and writes that are refused do. -/
structure Spares (S : EnvironmentStore σ) (rows : σ → ρ) : Prop where
  environment? : ∀ id s, rows ((S.environment? id).run s).2 = rows s
  all : ∀ s, rows (S.all.run s).2 = rows s
  insert : ∀ {e s err}, ((S.insert e).run s).1 = .refused err → rows ((S.insert e).run s).2 = rows s
  save : ∀ {e s err}, ((S.save e).run s).1 = .refused err → rows ((S.save e).run s).2 = rows s
  delete : ∀ {id s err}, ((S.delete id).run s).1 = .refused err → rows ((S.delete id).run s).2 = rows s

theorem readOnly_spares (err : StoreError) : (readOnly err).Spares Database.environments where
  environment? id d := congrArg _ (Database.keeps_environment? (J := (· = d)) id d rfl)
  all d := congrArg _ (Database.keeps_all (J := (· = d)) d rfl)
  insert _ := rfl
  save _ := rfl
  delete _ := rfl

end EnvironmentStore

/-- The indices of a registry beside a store of any kind, which is used in place of the registry's own. -/
structure Hosted (σ : Type) where
  indices : Registry
  store : σ

namespace Hosted

open Attempt

variable {σ ρ α β : Type} {S : EnvironmentStore σ} {rows : σ → ρ} {h : Hosted σ} {err : RegistryError}

abbrev Step (σ α : Type) : Type := Attempt (Hosted σ) RegistryError α

def onIndices (x : Registry.Step α) : Step σ α := x.within indices (fun r h => { h with indices := r }) id

def onStoreAs (error : StoreError → RegistryError) (x : Attempt σ StoreError α) : Step σ α :=
  x.within store (fun s h => { h with store := s }) error

def onStore (x : Attempt σ StoreError α) : Step σ α := onStoreAs .ofStore x

/-! ## The operations over any store -/

def rebuild (S : EnvironmentStore σ) : Step σ Unit := do
  let es ← onStoreAs .storeUnavailable S.all
  onIndices (Attempt.change (·.reindex es))

def recordPoll (S : EnvironmentStore σ) (now : Instant) (id : EnvironmentId) (agent : Option Agent) :
    Step σ Environment := do
  match ← onStore (S.environment? id) with
  | none => Attempt.refuse (.notFound id)
  | some e =>
    let now ← Attempt.clock now
    onIndices (Attempt.change (·.hear now id))
    match agent.filter (fun a => a ≠ e.agent) with
    | some agent =>
      let e ← onStore (S.save { e with agent, lastCheckIn := Int64.ofInt now.seconds })
      onIndices (Attempt.view (·.overlay e))
    | none => onIndices (Attempt.view (·.overlay e))

def create (S : EnvironmentStore σ) (e : Environment) : Step σ Environment := do
  let e := e.normalize
  onIndices (Registry.guard (·.conflict? e (fun _ => false)))
  let stored ← onStore (S.insert e)
  onIndices (Attempt.change (·.enterNew stored))
  pure stored

def update (S : EnvironmentStore σ) (id : EnvironmentId) (e : Environment) : Step σ Environment := do
  let e := { e with id }.normalize
  match ← onStore (S.environment? id) with
  | none => Attempt.refuse (.notFound id)
  | some previous =>
    onIndices (Registry.guard (·.conflict? e (fun existing => existing = id)))
    let stored ← onStore (S.save e)
    onIndices (Attempt.change (fun r =>
      ((r.rebind id previous.boundEdgeId? e.boundEdgeId?).note id).seed id stored.lastCheckIn))
    onIndices (Attempt.view (·.overlay stored))

def delete (S : EnvironmentStore σ) (id : EnvironmentId) : Step σ Unit := do
  onStore (S.delete id)
  onIndices (Attempt.change (·.forget id))

/-! ## The registry's own operations -/

/-- A step of the registry, with the store beside it in place of its own. -/
def hosted (x : Registry.Step α) : Step Gateway α :=
  x.within (fun h => h.indices.withStore h.store) (fun r h => ⟨r.withStore h.indices.store, r.store⟩) id

/-- A sequence of steps is the sequence of what stands for them. -/
theorem hosted_bind {x : Registry.Step α} {y : Step Gateway α} {f : α → Registry.Step β} {g : α → Step Gateway β}
    (hx : hosted x = y) (hf : ∀ a, hosted (f a) = g a) : hosted (x >>= f) = y >>= g := by
  obtain rfl : (fun a => hosted (f a)) = g := funext hf
  subst hx
  funext h
  change (hosted (x >>= f)).run h = (hosted x >>= fun a => hosted (f a)).run h
  rw [run_bind]
  unfold hosted
  rw [run_within, run_within, run_bind]
  rcases x.run (h.indices.withStore h.store) with ⟨_ | _ | _, r⟩ <;> rfl

theorem hosted_onStoreAs (error : StoreError → RegistryError) (x : Gateway.Step α) :
    hosted (Registry.onStoreAs error x) = onStoreAs error x := by
  funext h
  change (hosted (Registry.onStoreAs error x)).run h = (onStoreAs error x).run h
  unfold hosted onStoreAs Registry.onStoreAs
  rw [run_within, run_within, run_within, Outcome.rename_id]
  rfl

/-- A change of the indices that has nothing to do with the store. -/
theorem hosted_change {f : Registry → Registry} (hf : ∀ r g, f (r.withStore g) = (f r).withStore g) :
    hosted (change f) = onIndices (change f) := by
  funext h
  change (hosted (change f)).run h = (onIndices (change f)).run h
  unfold hosted onIndices
  rw [run_within, run_within, run_change, run_change, hf]
  have hsame : (f h.indices).withStore h.indices.store = f h.indices := (hf _ _).symm
  change (_, (⟨(f h.indices).withStore h.indices.store, h.store⟩ : Hosted Gateway)) = _
  rw [hsame]

theorem hosted_view {f : Registry → α} (hf : ∀ r g, f (r.withStore g) = f r) :
    hosted (view f) = onIndices (view f) := by
  funext h
  change (hosted (view f)).run h = (onIndices (view f)).run h
  unfold hosted onIndices
  rw [run_within, run_within, run_view, run_view, hf]
  rfl

theorem hosted_clock (now : Instant) : hosted (clock now) = clock now := by
  unfold clock
  split <;> rfl

theorem hosted_guard {reason : Registry → Option RegistryError} (hr : ∀ r g, reason (r.withStore g) = reason r) :
    hosted (Registry.guard reason) = onIndices (Registry.guard reason) := by
  funext h
  change (hosted (Registry.guard reason)).run h = (onIndices (Registry.guard reason)).run h
  unfold hosted onIndices
  rw [run_within, run_within, Registry.run_guard, Registry.run_guard, hr]
  rfl

/-- Building the indices anew does not look at the store. -/
theorem reindex_withStore (es : List Environment) (r : Registry) (g : Gateway) :
    (r.withStore g).reindex es = (r.reindex es).withStore g := by
  have henter : ∀ (r : Registry) (e : Environment), (r.withStore g).enter e = (r.enter e).withStore g := by
    intro r e
    simp only [Registry.enter]
    cases e.boundEdgeId? with
    | none => rfl
    | some edgeId =>
      change (if (r.owner? edgeId).isSome = true then _ else _) =
        Registry.withStore (if (r.owner? edgeId).isSome = true then _ else _) g
      split <;> rfl
  have hfold : ∀ r : Registry, es.foldl Registry.enter (r.withStore g) = (es.foldl Registry.enter r).withStore g := by
    induction es with
    | nil => exact fun _ => rfl
    | cons e es ih =>
      intro r
      rw [List.foldl_cons, List.foldl_cons, henter, ih]
  exact hfold { r with edgeIndex := ∅, known := ∅ }

theorem enterNew_withStore (e : Environment) (r : Registry) (g : Gateway) :
    (r.withStore g).enterNew e = (r.enterNew e).withStore g := by
  simp only [Registry.enterNew]
  cases e.boundEdgeId? <;> rfl

theorem rebind_withStore (id : EnvironmentId) (old new : Option String) (r : Registry) (g : Gateway) :
    (r.withStore g).rebind id old new = (r.rebind id old new).withStore g := by
  unfold Registry.rebind
  split
  · rfl
  · cases old with
    | none => cases new <;> rfl
    | some edgeId =>
      have howner : (r.withStore g).owner? edgeId = r.owner? edgeId := rfl
      dsimp only
      rw [howner]
      by_cases hown : r.owner? edgeId = some id
      · simp only [if_pos hown]
        cases new <;> rfl
      · simp only [if_neg hown]
        cases new <;> rfl

theorem hosted_rebuild : hosted Registry.rebuild = rebuild .gateway :=
  hosted_bind (hosted_onStoreAs _ _) (fun es => hosted_change (reindex_withStore es))

theorem hosted_recordPoll (now : Instant) (id : EnvironmentId) (agent : Option Agent) :
    hosted (Registry.recordPoll now id agent) = recordPoll .gateway now id agent := by
  refine hosted_bind (hosted_onStoreAs _ _) (fun e? => ?_)
  cases e? with
  | none => rfl
  | some e =>
    refine hosted_bind (hosted_clock now) (fun now => hosted_bind (hosted_change (fun _ _ => rfl)) (fun _ => ?_))
    cases agent.filter (fun a => a ≠ e.agent) with
    | none => exact hosted_view (fun _ _ => rfl)
    | some agent => exact hosted_bind (hosted_onStoreAs _ _) (fun _ => hosted_view (fun _ _ => rfl))

theorem hosted_create (e : Environment) : hosted (Registry.create e) = create .gateway e := by
  refine hosted_bind (hosted_guard (fun _ _ => rfl)) (fun _ => hosted_bind (hosted_onStoreAs _ _) (fun stored => ?_))
  exact hosted_bind (hosted_change (enterNew_withStore stored)) (fun _ => rfl)

theorem hosted_update (id : EnvironmentId) (e : Environment) :
    hosted (Registry.update id e) = update .gateway id e := by
  refine hosted_bind (hosted_onStoreAs _ _) (fun previous => ?_)
  cases previous with
  | none => rfl
  | some previous =>
    refine hosted_bind (hosted_guard (fun _ _ => rfl)) (fun _ => hosted_bind (hosted_onStoreAs _ _) (fun stored => ?_))
    refine hosted_bind (hosted_change (fun r g => ?_)) (fun _ => hosted_view (fun _ _ => rfl))
    rw [rebind_withStore]
    rfl

theorem hosted_delete (id : EnvironmentId) : hosted (Registry.delete id) = delete .gateway id :=
  hosted_bind (hosted_onStoreAs _ _) (fun _ => hosted_change (fun _ _ => rfl))

/-! ## What a refused operation leaves -/

/-- Whether the indices and the rows are what they were. -/
def Intact (rows : σ → ρ) (h h' : Hosted σ) : Prop := h'.indices = h.indices ∧ rows h'.store = rows h.store

/-- Whether all but the last contact with an environment is what it was. -/
structure IntactBut (id : EnvironmentId) (rows : σ → ρ) (h h' : Hosted σ) : Prop where
  edgeIndex : h'.indices.edgeIndex = h.indices.edgeIndex
  known : h'.indices.known = h.indices.known
  heartbeat? : ∀ i, i ≠ id → h'.indices.heartbeat? i = h.indices.heartbeat? i
  rows : rows h'.store = rows h.store

theorem Intact.but {h' : Hosted σ} (hi : Intact rows h h') (id : EnvironmentId) : IntactBut id rows h h' := by
  obtain ⟨hindices, hrows⟩ := hi
  exact ⟨congrArg _ hindices, congrArg _ hindices, fun i _ => congrArg (·.heartbeat? i) hindices, hrows⟩

/-- Whether a step leaves the indices and the rows as they were, however it ends. -/
def Reads (rows : σ → ρ) (x : Step σ α) : Prop := ∀ h₀, Keeps (Intact rows h₀) x

/-- Whether a step does where it is refused. -/
def Safe (rows : σ → ρ) (x : Step σ α) : Prop :=
  ∀ h₀ h err, Intact rows h₀ h → (x.run h).1 = .refused err → Intact rows h₀ (x.run h).2

theorem Reads.safe {x : Step σ α} (hx : Reads rows x) : Safe rows x := fun h₀ h _ hh _ => hx h₀ h hh

/-- After what only reads, a step may begin that is safe. -/
theorem Reads.bind_safe {x : Step σ α} {f : α → Step σ β} (hx : Reads rows x) (hf : ∀ a, Safe rows (f a)) :
    Safe rows (x >>= f) := by
  intro h₀ h err hh hr
  have hread := hx h₀ h hh
  rcases he : x.run h with ⟨a | _ | _, h'⟩ <;> rw [he] at hread
  · rw [run_bind_done he] at hr ⊢
    exact hf a h₀ h' err hread hr
  · rw [run_bind_refused he]
    exact hread
  · rw [run_bind_crashed he]
    exact hread

/-- A step that is safe may go on with what is never refused. -/
theorem Safe.bind {x : Step σ α} {f : α → Step σ β} (hx : Safe rows x)
    (hf : ∀ a h err, ((f a).run h).1 ≠ .refused err) : Safe rows (x >>= f) := by
  intro h₀ h err hh hr
  rcases he : x.run h with ⟨a | _ | _, h'⟩
  · rw [run_bind_done he] at hr
    exact absurd hr (hf a h' err)
  · have hsafe := hx h₀ h _ hh (congrArg Prod.fst he)
    rw [he] at hsafe
    rw [run_bind_refused he]
    exact hsafe
  · rw [run_bind_crashed he] at hr
    cases hr

theorem run_onStoreAs (error : StoreError → RegistryError) (x : Attempt σ StoreError α) (h : Hosted σ) :
    (onStoreAs error x).run h =
      ((x.run h.store).1.rename error (fun a => a), { h with store := (x.run h.store).2 }) := rfl

theorem reads_onStoreAs {x : Attempt σ StoreError α} (hx : ∀ s, rows (x.run s).2 = rows s)
    (error : StoreError → RegistryError) : Reads rows (onStoreAs error x) :=
  fun _ h hh => ⟨hh.1, (hx h.store).trans hh.2⟩

theorem safe_onStoreAs {x : Attempt σ StoreError α}
    (hx : ∀ {s err}, (x.run s).1 = .refused err → rows (x.run s).2 = rows s)
    (error : StoreError → RegistryError) : Safe rows (onStoreAs error x) := by
  intro h₀ h err hh hr
  obtain ⟨_, he, -⟩ := Outcome.rename_eq_refused_iff.1 hr
  exact ⟨hh.1, (hx he).trans hh.2⟩

theorem reads_guard (reason : Registry → Option RegistryError) : Reads rows (onIndices (Registry.guard reason)) := by
  intro h₀ h hh
  have hrun : (onIndices (Registry.guard reason)).run h = _ := run_within _ _ _ _ h
  rw [hrun, Registry.run_guard]
  exact hh

/-- Noting something in the indices is not refused. -/
theorem answers_noted {f : Registry → Registry} {x : Step σ α} (hx : ∀ h err, (x.run h).1 ≠ .refused err) (h : Hosted σ)
    (err : RegistryError) : ((onIndices (change f) >>= fun _ => x).run h).1 ≠ .refused err :=
  hx { h with indices := f h.indices } err

theorem answers_view (f : Registry → α) (h : Hosted σ) (err : RegistryError) :
    ((onIndices (view f)).run h).1 ≠ .refused err := nofun

section Spares

variable (hS : S.Spares rows)
include hS

theorem safe_rebuild : Safe rows (rebuild S) :=
  (reads_onStoreAs hS.all _).safe.bind nofun

theorem safe_create (e : Environment) : Safe rows (create S e) := by
  refine (reads_guard _).bind_safe (fun _ => ?_)
  exact (safe_onStoreAs hS.insert _).bind (fun _ => answers_noted nofun)

theorem safe_update (id : EnvironmentId) (e : Environment) : Safe rows (update S id e) := by
  refine (reads_onStoreAs (hS.environment? id) _).bind_safe (fun previous => ?_)
  cases previous with
  | none => exact fun _ _ _ hh _ => hh
  | some previous =>
    refine (reads_guard _).bind_safe (fun _ => ?_)
    exact (safe_onStoreAs hS.save _).bind (fun _ => answers_noted (answers_view _))

theorem safe_delete (id : EnvironmentId) : Safe rows (delete S id) :=
  (safe_onStoreAs hS.delete _).bind nofun

/-- Storing what an agent says of itself, if it is news. -/
theorem safe_noteAgent (agent : Option Agent) (record : Agent → Environment) (e : Environment) :
    Safe rows (match agent with
      | some a => onStore (S.save (record a)) >>= fun e => onIndices (view (·.overlay e))
      | none => onIndices (view (·.overlay e))) := by
  cases agent with
  | none => exact fun _ _ _ hh _ => hh
  | some a => exact (safe_onStoreAs hS.save _).bind (fun _ => answers_view _)

/-- A poll notes the contact before it stores what the agent says, and only once the environment is read. -/
theorem refused_recordPoll {now : Instant} {id : EnvironmentId} {agent : Option Agent}
    (hr : ((recordPoll S now id agent).run h).1 = .refused err) :
    rows ((recordPoll S now id agent).run h).2.store = rows h.store ∧
      (((recordPoll S now id agent).run h).2.indices = h.indices ∨
        (∃ e, ((S.environment? id).run h.store).1 = .done (some e)) ∧
          ((recordPoll S now id agent).run h).2.indices = h.indices.hear now id) := by
  have hread := hS.environment? id h.store
  have hcall := run_onStoreAs .ofStore (S.environment? id) h
  unfold recordPoll onStore at hr ⊢
  rcases hs : (S.environment? id).run h.store with ⟨(_ | e) | _ | _, s⟩ <;> rw [hs] at hcall hread
  · rw [run_bind_done hcall]
    exact ⟨hread, .inl rfl⟩
  · rw [run_bind_done hcall] at hr ⊢
    dsimp only at hr ⊢
    cases hc : now.isReadable with
    | false =>
      rw [run_bind_crashed (run_clock_of_not_isReadable hc _)] at hr
      cases hr
    | true =>
      have hheard : (onIndices (change (·.hear now id))).run { h with store := s } =
          (.done (), ⟨h.indices.hear now id, s⟩) := rfl
      rw [run_bind_done (run_clock_of_isReadable hc _), run_bind_done hheard] at hr ⊢
      obtain ⟨hindices, hrows⟩ := safe_noteAgent hS (agent.filter (fun a => a ≠ e.agent)) _ e
        ⟨h.indices.hear now id, s⟩ _ err ⟨rfl, rfl⟩ hr
      exact ⟨hrows.trans hread, .inr ⟨⟨e, rfl⟩, hindices⟩⟩
  · rw [run_bind_refused hcall]
    exact ⟨hread, .inl rfl⟩
  · rw [run_bind_crashed hcall] at hr
    cases hr

/-- A refused poll leaves at most the contact with its environment, and not even that if there is no record. -/
theorem intactBut_of_refused_recordPoll {now : Instant} {id : EnvironmentId} {agent : Option Agent}
    (hr : ((recordPoll S now id agent).run h).1 = .refused err) :
    IntactBut id rows h ((recordPoll S now id agent).run h).2 ∧
      ((∀ e, ((S.environment? id).run h.store).1 ≠ .done (some e)) →
        Intact rows h ((recordPoll S now id agent).run h).2) := by
  obtain ⟨hrows, hsame | ⟨⟨e, he⟩, hheard⟩⟩ := refused_recordPoll hS hr
  · exact ⟨Intact.but ⟨hsame, hrows⟩ id, fun _ => ⟨hsame, hrows⟩⟩
  · refine ⟨⟨by rw [hheard]; rfl, by rw [hheard]; rfl, fun i hi => ?_, hrows⟩, fun hnone => absurd he (hnone e)⟩
    rw [hheard]
    exact Table.get?_insert_of_ne _ _ hi

end Spares

/-- Whether a step that is refused leaves the indices and the rows of a state as they were. -/
def Spared (rows : σ → ρ) (h : Hosted σ) (x : Step σ α) : Prop :=
  ∀ err, (x.run h).1 = .refused err → Intact rows h (x.run h).2

theorem Safe.spared {x : Step σ α} (hx : Safe rows x) (h : Hosted σ) : Spared rows h x :=
  fun err hr => hx h h err ⟨rfl, rfl⟩ hr

/-- Whether the operations over the gateway are those of the registry. -/
structure Mirrors : Prop where
  rebuild : hosted Registry.rebuild = rebuild .gateway
  recordPoll : ∀ now id agent, hosted (Registry.recordPoll now id agent) = recordPoll .gateway now id agent
  create : ∀ e, hosted (Registry.create e) = create .gateway e
  update : ∀ id e, hosted (Registry.update id e) = update .gateway id e
  delete : ∀ id, hosted (Registry.delete id) = delete .gateway id

/-- From any state of the indices and over any store whose refused calls leave the rows as they were, every
operation that is refused leaves the rows and the indices as they were. Only a poll may leave the contact with
its environment, if there is a record of that. So it is with the registry, whose operations are these over its
gateway. -/
theorem intact_of_refused (hS : S.Spares rows) (h : Hosted σ) :
    Spared rows h (rebuild S) ∧ (∀ e, Spared rows h (create S e)) ∧ (∀ id e, Spared rows h (update S id e)) ∧
    (∀ id, Spared rows h (delete S id)) ∧
    (∀ now id agent err, ((recordPoll S now id agent).run h).1 = .refused err →
      IntactBut id rows h ((recordPoll S now id agent).run h).2 ∧
        ((∀ e, ((S.environment? id).run h.store).1 ≠ .done (some e)) →
          Intact rows h ((recordPoll S now id agent).run h).2)) ∧
    Mirrors :=
  ⟨(safe_rebuild hS).spared h, fun e => (safe_create hS e).spared h, fun id e => (safe_update hS id e).spared h,
    fun id => (safe_delete hS id).spared h, fun _ _ _ _ hr => intactBut_of_refused_recordPoll hS hr,
    hosted_rebuild, hosted_recordPoll, hosted_create, hosted_update, hosted_delete⟩

/-- Over a database that cannot be written, an edge id can be neither given out nor taken away, and a poll leaves the
contact alone. -/
theorem intact_of_readOnly : ∃ h h₁ h₂ h₃ : Hosted Database,
    (create (.readOnly (.database .full)) (Service.edge ⟨0⟩ "B")).run h =
      (.refused (.storeUnavailable (.database .full)), h₁) ∧
    Intact Database.environments h h₁ ∧
    (delete (.readOnly (.database .full)) ⟨1⟩).run h = (.refused (.storeUnavailable (.database .full)), h₂) ∧
    Intact Database.environments h h₂ ∧
    (recordPoll (.readOnly (.database .full)) (.ofSeconds 30) ⟨1⟩ (some ⟨"linux", "2"⟩)).run h =
      (.refused (.storeUnavailable (.database .full)), h₃) ∧
    IntactBut ⟨1⟩ Database.environments h h₃ ∧ h.indices.owner? "A" = some ⟨1⟩ ∧
    h.indices.heartbeat? ⟨1⟩ = some 0 ∧ h₃.indices.heartbeat? ⟨1⟩ = some 30 := by
  let r := ((Registry.create (Service.edge ⟨0⟩ "A")).run (.blank (.clear .fresh))).2
  obtain ⟨-, hcreate, -, hdelete, hpoll, -⟩ :=
    intact_of_refused (EnvironmentStore.readOnly_spares (.database .full)) ⟨r, r.store.database⟩
  have hcreated : ((create (.readOnly (.database .full)) (Service.edge ⟨0⟩ "B")).run ⟨r, r.store.database⟩).1 =
      .refused (.storeUnavailable (.database .full)) := by decide +kernel
  have hdeleted : ((delete (.readOnly (.database .full)) ⟨1⟩).run ⟨r, r.store.database⟩).1 =
      .refused (.storeUnavailable (.database .full)) := by decide +kernel
  have hpolled : ((recordPoll (.readOnly (.database .full)) (.ofSeconds 30) ⟨1⟩ (some ⟨"linux", "2"⟩)).run
      ⟨r, r.store.database⟩).1 = .refused (.storeUnavailable (.database .full)) := by decide +kernel
  exact ⟨⟨r, r.store.database⟩, _, _, _, Prod.ext hcreated rfl, hcreate _ _ hcreated, Prod.ext hdeleted rfl,
    hdelete _ _ hdeleted, Prod.ext hpolled rfl, (hpoll _ _ _ _ hpolled).1, by decide +kernel, by decide +kernel,
    by decide +kernel⟩

end Hosted

end EdgeFleet
