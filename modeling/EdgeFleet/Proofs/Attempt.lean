import EdgeFleet.Time.Clock
/-!
# Steps and runs

How compound steps run, taken apart from the outside in: what a sequence answered tells what each
of its parts answered. A `Run` is a list of operations carried out one after the other, each at an
instant of its own. Whatever every operation keeps holds after every run, so an invariant is proved
for one operation at a time.
-/

namespace EdgeFleet

/-! ## Reading in sequence -/

section Reading

variable {ε ε' α β : Type} {x : Except ε α}

theorem bind_eq_ok_iff {f : α → Except ε β} {b : β} : x >>= f = .ok b ↔ ∃ a, x = .ok a ∧ f a = .ok b := by
  cases x <;> simp [bind, Except.bind]

theorem mapError_eq_ok_iff {f : ε → ε'} {a : α} : x.mapError f = .ok a ↔ x = .ok a := by
  cases x with
  | ok b => exact ⟨fun h => congrArg _ (Except.ok.inj h), fun h => congrArg _ (Except.ok.inj h)⟩
  | error e => constructor <;> intro h <;> cases h

theorem map_eq_ok_iff {f : α → β} {b : β} : x.map f = .ok b ↔ ∃ a, x = .ok a ∧ f a = b := by
  cases x <;> simp [Except.map]

end Reading

namespace Outcome

variable {ε ε' α β : Type}

@[simp] theorem rename_done (f : ε → ε') (g : α → β) (a : α) : (done a).rename f g = done (g a) := rfl

@[simp] theorem rename_refused (f : ε → ε') (g : α → β) (e : ε) : (refused e).rename f g = refused (f e) := rfl

@[simp] theorem rename_crashed (f : ε → ε') (g : α → β) : (crashed : Outcome ε α).rename f g = crashed := rfl

@[simp] theorem rename_id (o : Outcome ε α) : o.rename id id = o := by cases o <;> rfl

theorem rename_eq_done_iff {f : ε → ε'} {o : Outcome ε α} {g : α → β} {b : β} :
    o.rename f g = done b ↔ ∃ a, o = done a ∧ g a = b := by
  cases o <;> simp

theorem rename_eq_refused_iff {f : ε → ε'} {o : Outcome ε α} {g : α → β} {e' : ε'} :
    o.rename f g = refused e' ↔ ∃ e, o = refused e ∧ f e = e' := by
  cases o <;> simp

theorem rename_eq_crashed_iff {f : ε → ε'} {o : Outcome ε α} {g : α → β} :
    o.rename f g = crashed ↔ o = crashed := by
  cases o <;> simp

/-- A check that refuses was passed where there is an answer. -/
theorem ite_refused_eq_done_iff {p : Prop} [Decidable p] {e : ε} {o : Outcome ε α} {a : α} :
    (if p then refused e else o) = done a ↔ ¬p ∧ o = done a := by
  by_cases h : p <;> simp [h]

theorem ite_crashed_eq_done_iff {p : Prop} [Decidable p] {o : Outcome ε α} {a : α} :
    (if p then crashed else o) = done a ↔ ¬p ∧ o = done a := by
  by_cases h : p <;> simp [h]

end Outcome

namespace Attempt

variable {σ τ ε ε' α β : Type}

/-! ## Running compound steps -/

theorem run_bind_done {x : Attempt σ ε α} {f : α → Attempt σ ε β} {s s' : σ} {a : α}
    (h : x.run s = (.done a, s')) : (x >>= f).run s = (f a).run s' := by
  rw [run_bind, h]

theorem run_bind_refused {x : Attempt σ ε α} {f : α → Attempt σ ε β} {s s' : σ} {e : ε}
    (h : x.run s = (.refused e, s')) : (x >>= f).run s = (.refused e, s') := by
  rw [run_bind, h]

theorem run_bind_crashed {x : Attempt σ ε α} {f : α → Attempt σ ε β} {s s' : σ}
    (h : x.run s = (.crashed, s')) : (x >>= f).run s = (.crashed, s') := by
  rw [run_bind, h]

/-- A sequence that answers is one whose parts answer. -/
theorem run_bind_eq_done {x : Attempt σ ε α} {f : α → Attempt σ ε β} {s s' : σ} {b : β}
    (h : (x >>= f).run s = (.done b, s')) : ∃ a t, x.run s = (.done a, t) ∧ (f a).run t = (.done b, s') := by
  rcases hx : x.run s with ⟨a | _ | _, t⟩
  · rw [run_bind_done hx] at h
    exact ⟨a, t, rfl, h⟩
  · rw [run_bind_refused hx] at h
    cases h
  · rw [run_bind_crashed hx] at h
    cases h

/-- A sequence is refused where one of its parts is. -/
theorem run_bind_eq_refused {x : Attempt σ ε α} {f : α → Attempt σ ε β} {s : σ} {e : ε}
    (h : ((x >>= f).run s).1 = .refused e) :
    (x.run s).1 = .refused e ∨ ∃ a t, x.run s = (.done a, t) ∧ ((f a).run t).1 = .refused e := by
  rcases hx : x.run s with ⟨a | _ | _, t⟩
  · rw [run_bind_done hx] at h
    exact .inr ⟨a, t, rfl, h⟩
  · rw [run_bind_refused hx] at h
    cases h
    exact .inl rfl
  · rw [run_bind_crashed hx] at h
    cases h

@[simp] theorem run_map (f : α → β) (x : Attempt σ ε α) (s : σ) :
    (f <$> x).run s = ((x.run s).1.rename id f, (x.run s).2) := by
  change (x >>= fun a => pure (f a)).run s = _
  rw [run_bind]
  rcases hx : x.run s with ⟨_ | _ | _, s'⟩ <;> simp

@[simp] theorem run_within (part : σ → τ) (restore : τ → σ → σ) (error : ε → ε') (x : Attempt τ ε α) (s : σ) :
    (x.within part restore error).run s =
      ((x.run (part s)).1.rename error id, restore (x.run (part s)).2 s) := rfl

@[simp] theorem run_renamed (error : ε → ε') (x : Attempt σ ε α) (s : σ) :
    (x.renamed error).run s = ((x.run s).1.rename error id, (x.run s).2) := rfl

@[simp] theorem run_orRefuse_some (e : ε) (a : α) (s : σ) : (orRefuse e (some a)).run s = (.done a, s) := rfl

@[simp] theorem run_orRefuse_none (e : ε) (s : σ) :
    (orRefuse e (none : Option α)).run s = (.refused e, s) := rfl

@[simp] theorem run_ofExcept_ok (a : α) (s : σ) :
    (ofExcept (.ok a : Except ε α)).run s = (.done a, s) := rfl

/-- The same step, whatever it answers. -/
def ignored (x : Attempt σ ε α) : Attempt σ ε Unit := (fun _ => ()) <$> x

@[simp] theorem snd_run_ignored (x : Attempt σ ε α) (s : σ) : (x.ignored.run s).2 = (x.run s).2 := by
  unfold ignored
  rw [run_map]

/-- The clock is read without touching the state. -/
@[simp] theorem snd_run_clock (now : Instant) (s : σ) : ((clock now : Attempt σ ε Instant).run s).2 = s := by
  unfold clock
  split <;> rfl

/-! ## What a step keeps -/

/-- Whether a step leaves a property of the state as it was, however it ends. -/
def Keeps (I : σ → Prop) (x : Attempt σ ε α) : Prop := ∀ s, I s → I (x.run s).2

variable {I : σ → Prop}

theorem Keeps.of_eq {x : Attempt σ ε α} (h : ∀ s, (x.run s).2 = s) : Keeps I x := by
  intro s hs
  rwa [h]

theorem keeps_pure (a : α) : Keeps I (pure a : Attempt σ ε α) := fun _ hs => hs

theorem keeps_refuse (e : ε) : Keeps I (refuse e : Attempt σ ε α) := fun _ hs => hs

theorem keeps_view (f : σ → α) : Keeps I (view f : Attempt σ ε α) := fun _ hs => hs

theorem keeps_orRefuse (e : ε) (a? : Option α) : Keeps I (orRefuse e a? : Attempt σ ε α) := by
  cases a? <;> exact fun _ hs => hs

theorem keeps_ofExcept (x : Except ε α) : Keeps I (ofExcept x : Attempt σ ε α) := by
  cases x <;> exact fun _ hs => hs

theorem keeps_clock (now : Instant) : Keeps I (clock now : Attempt σ ε Instant) := .of_eq (snd_run_clock now)

theorem keeps_change {f : σ → σ} (h : ∀ s, I s → I (f s)) : Keeps I (change f : Attempt σ ε Unit) := h

/-- What the first part of a sequence leaves, the second may turn into something else; if there is none, it was
that already. -/
theorem holds_bind {I J : σ → Prop} {x : Attempt σ ε α} {f : α → Attempt σ ε β} {s : σ} (hx : J (x.run s).2)
    (hJ : ∀ u, J u → I u) (hf : ∀ a u, J u → I ((f a).run u).2) : I ((x >>= f).run s).2 := by
  rw [run_bind]
  rcases he : x.run s with ⟨a | _ | _, u⟩ <;> rw [he] at hx
  · exact hf a u hx
  · exact hJ u hx
  · exact hJ u hx

/-- A sequence keeps what both of its parts keep; the second part may rely on what the first one answers. -/
theorem Keeps.bind_of {x : Attempt σ ε α} {f : α → Attempt σ ε β} {P : α → Prop} (hx : Keeps I x)
    (hP : ∀ s s' a, x.run s = (.done a, s') → P a) (hf : ∀ a, P a → Keeps I (f a)) : Keeps I (x >>= f) := by
  intro s hs
  have h := hx s hs
  rw [run_bind]
  rcases he : x.run s with ⟨a | _ | _, s'⟩ <;> rw [he] at h
  · exact hf a (hP s s' a he) s' h
  · exact h
  · exact h

theorem Keeps.bind {x : Attempt σ ε α} {f : α → Attempt σ ε β} (hx : Keeps I x) (hf : ∀ a, Keeps I (f a)) :
    Keeps I (x >>= f) :=
  hx.bind_of (P := fun _ => True) (fun _ _ _ _ => trivial) (fun a _ => hf a)

theorem Keeps.map {x : Attempt σ ε α} (hx : Keeps I x) (f : α → β) : Keeps I (f <$> x) := by
  intro s hs
  rw [run_map]
  exact hx s hs

theorem Keeps.ignored {x : Attempt σ ε α} (hx : Keeps I x) : Keeps I x.ignored := hx.map _

theorem Keeps.renamed {x : Attempt σ ε α} (hx : Keeps I x) (error : ε → ε') : Keeps I (x.renamed error) :=
  fun s hs => hx s hs

/-- A step on a part keeps what is known of the whole, if it keeps that of the part with the rest
held fixed. -/
theorem Keeps.within {part : σ → τ} {restore : τ → σ → σ} {x : Attempt τ ε α} {J : τ → Prop}
    (hx : Keeps J x) (hd : ∀ s, I s → J (part s)) (hu : ∀ s t, I s → J t → I (restore t s)) (error : ε → ε') :
    Keeps I (x.within part restore error) := by
  intro s hs
  exact hu s _ hs (hx _ (hd s hs))

end Attempt

/-! ## Runs -/

variable {σ ε ω : Type}

/-- The operations `ops`, each carried out where it was allowed, lead from the state `s₀` to the
state reached. Operations that are refused or cut off are part of a run like any other. -/
inductive Run (step : Instant → ω → Attempt σ ε Unit) (allowed : σ → Instant → ω → Prop) (s₀ : σ) :
    List (Instant × ω) → σ → Prop
  | nil : Run step allowed s₀ [] s₀
  | snoc {ops : List (Instant × ω)} {s : σ} (now : Instant) (op : ω) : Run step allowed s₀ ops s →
      allowed s now op → Run step allowed s₀ (ops ++ [(now, op)]) ((step now op).run s).2

variable {step : Instant → ω → Attempt σ ε Unit} {allowed : σ → Instant → ω → Prop} {s₀ : σ}

/-- The state that operations lead to, carried out one after the other. -/
def after (step : Instant → ω → Attempt σ ε Unit) (s₀ : σ) (ops : List (Instant × ω)) : σ :=
  ops.foldl (fun s op => ((step op.1 op.2).run s).2) s₀

theorem after_append (step : Instant → ω → Attempt σ ε Unit) (s₀ : σ) (ops more : List (Instant × ω)) :
    after step s₀ (ops ++ more) = after step (after step s₀ ops) more :=
  List.foldl_append

/-- What holds at the start and is kept by every operation holds after every run. -/
theorem Run.inv (I : σ → Prop) (h0 : I s₀)
    (hstep : ∀ s now op, I s → allowed s now op → I ((step now op).run s).2)
    {ops s} (h : Run step allowed s₀ ops s) : I s := by
  induction h with
  | nil => exact h0
  | snoc now op _ ha ih => exact hstep _ now op ih ha

theorem Run.after_eq {ops s} (h : Run step allowed s₀ ops s) : after step s₀ ops = s := by
  induction h with
  | nil => rfl
  | snoc now op _ _ ih => rw [after_append, ih]; rfl

theorem Run.imp {allowed' : σ → Instant → ω → Prop} {ops s} (h : Run step allowed s₀ ops s)
    (ha : ∀ s now op, allowed s now op → allowed' s now op) : Run step allowed' s₀ ops s := by
  induction h with
  | nil => exact .nil
  | snoc now op _ hs ih => exact ih.snoc now op (ha _ _ _ hs)

/-- A run is allowed what is true of all of its operations. -/
theorem Run.and_of_forall {P : Instant → ω → Prop} {ops s} (h : Run step allowed s₀ ops s)
    (hp : ∀ op ∈ ops, P op.1 op.2) : Run step (fun s now op => allowed s now op ∧ P now op) s₀ ops s := by
  induction h with
  | nil => exact .nil
  | snoc now op _ ha ih =>
    exact (ih (fun q hq => hp q (by simp [hq]))).snoc now op ⟨ha, hp (now, op) (by simp)⟩

end EdgeFleet
