import ProcessMonitor.Lib.Signals

/-!
# Threads under a mutex that leave a resource behind

Threads run calls under a mutex, as in `Signals` and without signals. Some changes of the shared
state are faults in some states (`fault f w`): they use what is not there. A call may read the
state before it takes the mutex, and what it has read then does not hold any more.

* `Comes`: code that from this state gets to a fault by reading and by taking the mutex alone.
* `Spared`: code that makes no fault while it holds the mutex, provided that it does not come to one
  from the state in which it takes it, and that does not come to one either right after it has
  released it, where no call does. `Spared.bind` is its rule for sequencing.
* `never_faulty`: if the calls are spared, no thread is ever about to make a fault in a run in which
  the mutex is released only in states from which no thread and no call comes to one (`Harmless`).
  `faulty_of_comes` says that from other states they do.
-/

namespace Faults

open Prog Signals

variable {σ κ α β : Type} (fault : (σ → σ) → σ → Bool)

/-! ## Code -/

/-- Code that comes to a fault, if the state stays as it is and the mutex is free. With `true`, it
holds the mutex. -/
def Comes : Bool → Prog σ α → σ → Prop
  | false, .lock k, w => Comes true k w
  | h, .get k, w => Comes h (k w) w
  | _, .modify f _, w => fault f w = true
  | _, _, _ => False

/-- The weakest precondition of a run without faults that ends with `Q`: `some w` for a holder of
the mutex in the state `w`, `none` outside. In the states with `calm` no call comes to a fault. -/
def Spared (calm : σ → Prop) : Prog σ α → Option σ → (α → Option σ → Prop) → Prop
  | .ret a, h, Q => Q a h
  | .lock k, h, Q => h = none ∧ ∀ w, ¬ Comes fault true k w → Spared calm k (some w) Q
  | .unlock _, none, _ => False
  | .unlock k, some w, Q => (calm w → ¬ Comes fault false k w) ∧ Spared calm k none Q
  | .get k, none, Q => ∀ w, Spared calm (k w) none Q
  | .get k, some w, Q => Spared calm (k w) (some w) Q
  | .modify _ _, none, _ => False
  | .modify f k, some w, Q => fault f w = false ∧ Spared calm k (some (f w)) Q
  | .choose _, none, _ => False
  | .choose k, some w, Q => ∀ b, Spared calm (k b) (some w) Q
  | .await _ _, _, _ => False

variable {fault}

/-- What comes to a fault does so before what comes after it. -/
lemma Comes.bind {p : Prog σ α} {b : Bool} {w : σ} (h : Comes fault b p w) (f : α → Prog σ β) :
    Comes fault b (p >>= f) w := by
  induction p generalizing b with
  | lock k ih =>
      cases b with
      | false => exact ih h
      | true => exact h.elim
  | get k ih => cases b <;> exact ih w h
  | modify g k _ => cases b <;> exact h
  | _ => cases b <;> exact h.elim

/-- Code that comes to a fault before what does not, comes to one of its own. -/
lemma Comes.of_bind {p : Prog σ α} {b : Bool} {w : σ} {f : α → Prog σ β}
    (h : Comes fault b (p >>= f) w) (hf : ∀ a b w, ¬ Comes fault b (f a) w) :
    Comes fault b p w := by
  induction p generalizing b with
  | ret a => exact (hf a b w h).elim
  | lock k ih =>
      cases b with
      | false => exact ih h
      | true => exact h.elim
  | get k ih => cases b <;> exact ih w h
  | modify g k _ => cases b <;> exact h
  | _ => cases b <;> exact h.elim

/-- The rule of sequencing, before what does not come to a fault. -/
lemma Spared.bind {calm : σ → Prop} {p : Prog σ α} {h : Option σ} {f : α → Prog σ β}
    {Q : β → Option σ → Prop} (hp : Spared fault calm p h fun a h' => Spared fault calm (f a) h' Q)
    (hf : ∀ a b w, ¬ Comes fault b (f a) w) : Spared fault calm (p >>= f) h Q := by
  induction p generalizing h with
  | ret a => exact hp
  | lock k ih =>
      refine ⟨hp.1, ?_⟩
      intro w hw
      exact ih (hp.2 w fun hcomes => hw (hcomes.bind f))
  | unlock k ih =>
      cases h with
      | none => exact hp
      | some w => exact ⟨fun hcalm hcomes => hp.1 hcalm (hcomes.of_bind hf), ih hp.2⟩
  | get k ih =>
      cases h with
      | none => exact fun w => ih w (hp w)
      | some w => exact ih w hp
  | modify g k ih =>
      cases h with
      | none => exact hp
      | some w => exact ⟨hp.1, ih hp.2⟩
  | choose k ih =>
      cases h with
      | none => exact hp
      | some w => exact fun b => ih b (hp b)
  | await r k ih => exact hp

/-- The rule of consequence. -/
lemma Spared.mono {calm : σ → Prop} {p : Prog σ α} {h : Option σ} {Q R : α → Option σ → Prop}
    (hp : Spared fault calm p h Q) (hR : ∀ a h', Q a h' → R a h') : Spared fault calm p h R := by
  induction p generalizing h with
  | ret a => exact hR a h hp
  | lock k ih => exact ⟨hp.1, fun w hw => ih (hp.2 w hw)⟩
  | unlock k ih =>
      cases h with
      | none => exact hp
      | some w => exact ⟨hp.1, ih hp.2⟩
  | get k ih =>
      cases h with
      | none => exact fun w => ih w (hp w)
      | some w => exact ih w hp
  | modify g k ih =>
      cases h with
      | none => exact hp
      | some w => exact ⟨hp.1, ih hp.2⟩
  | choose k ih =>
      cases h with
      | none => exact hp
      | some w => exact fun b => ih b (hp b)
  | await r k ih => exact hp

/-! ## Threads -/

section threads

variable (fault) (code : κ → Prog σ Unit)

/-- The threads under a schedule. -/
def threads : Machine (Threads σ κ Empty) (Event κ Empty) Unit := machine code fun e => e.elim

/-- The thread is about to make a fault. -/
def faultyAt (s : Threads σ κ Empty) (t : ℕ) : Bool :=
  match s.stack t with
  | ⟨_, .modify f _⟩ :: _ => fault f s.world
  | _ => false

/-- Some thread is about to make a fault. -/
def Faulty (s : Threads σ κ Empty) : Prop := ∃ t, faultyAt fault s t = true

/-- No call comes to a fault. -/
def Calm (w : σ) : Prop := ∀ c, ¬ Comes fault false (code c) w

/-- No thread and no call comes to a fault. -/
structure Clear (s : Threads σ κ Empty) : Prop where
  frames : ∀ t f rest, s.stack t = f :: rest → ¬ Comes fault false f.code s.world
  calm : Calm fault code s.world

/-- The step releases the mutex. -/
def releases (s : Threads σ κ Empty) : Event κ Empty → Bool
  | .step t _ =>
      s.owner == some t &&
        match s.stack t with
        | ⟨_, .unlock _⟩ :: _ => true
        | _ => false
  | _ => false

/-- If the step releases the mutex, no thread and no call comes to a fault. -/
def Harmless (s : Threads σ κ Empty) (e : Event κ Empty) : Prop :=
  releases s e = true → Clear fault code s

/-- What the thread knows of the state: all of it while it holds the mutex. -/
def held (s : Threads σ κ Empty) (t : ℕ) : Option σ :=
  if s.owner = some t then some s.world else none

/-- The thread is idle, or in one call, which is spared. -/
def SparedAt (s : Threads σ κ Empty) (t : ℕ) : Prop :=
  (s.stack t = [] ∧ s.owner ≠ some t) ∨
    ∃ c p, s.stack t = [⟨c, p⟩] ∧ Spared fault (Calm fault code) p (held s t) Free

/-- All threads are spared, and nobody comes to a fault while the mutex is free. -/
structure Sound (s : Threads σ κ Empty) : Prop where
  spared : ∀ t, SparedAt fault code s t
  clear : s.owner = none → Clear fault code s

variable {fault code} {s s' : Threads σ κ Empty} {t : ℕ}

/-- Then no thread is about to make a fault. -/
lemma Sound.not_faulty (h : Sound fault code s) : ¬ Faulty fault s := by
  rintro ⟨t, ht⟩
  rw [faultyAt] at ht
  rcases h.spared t with ⟨hnil, -⟩ | ⟨c, p, hstack, hp⟩
  · rw [hnil] at ht
    cases ht
  · rw [hstack] at ht
    cases p with
    | modify f k =>
        rw [held] at hp
        split_ifs at hp
        · have hfault : fault f s.world = false := hp.1
          rw [show fault f s.world = true from ht] at hfault
          cases hfault
        · exact hp
    | _ => cases ht

/-- A step of another thread leaves it what the thread knows. -/
lemma held_eq_of_stepOf (h : StepOf t s s') {u : ℕ} (hu : u ≠ t) : held s' u = held s u := by
  have htu : some t ≠ some u := fun heq => hu (Option.some.inj heq).symm
  have howner : s'.owner = some u ↔ s.owner = some u := by
    rcases h.owner_eq with hsame | ⟨hnone, hsome⟩ | ⟨hsome, hnone⟩
    · rw [hsame]
    · rw [hsome, hnone]
      exact iff_of_false htu (by simp)
    · rw [hsome, hnone]
      exact iff_of_false (by simp) htu
  rw [held, held]
  by_cases hs : s.owner = some u
  · rw [if_pos hs, if_pos (howner.mpr hs)]
    exact congrArg some (h.world_eq.resolve_right fun heq => htu (heq.symm.trans hs))
  · rw [if_neg hs, if_neg (mt howner.mp hs)]

/-- The threads after a step of one. -/
lemma Sound.of_stepOf (h : Sound fault code s) (hstep : StepOf t s s')
    (ht : SparedAt fault code s' t) (hclear : s'.owner = none → Clear fault code s') :
    Sound fault code s' := by
  refine ⟨fun u => ?_, hclear⟩
  by_cases hu : u = t
  · rw [hu]
    exact ht
  · have howner : s'.owner = some u → s.owner = some u := by
      intro heq
      have hheld := held_eq_of_stepOf hstep hu
      rw [held, held, if_pos heq] at hheld
      by_contra hne
      rw [if_neg hne] at hheld
      cases hheld
    rw [SparedAt, hstep.stack_eq u hu, held_eq_of_stepOf hstep hu]
    exact (h.spared u).imp_left fun hidle => ⟨hidle.1, fun heq => hidle.2 (howner heq)⟩

/-- A thread outside the mutex goes on to other code that does not come to a fault. -/
lemma Sound.setStack_outside (h : Sound fault code s) (howner : s.owner ≠ some t)
    {frames : List (Frame σ κ Empty)}
    (hframes : frames = [] ∨ ∃ c p, frames = [⟨c, p⟩] ∧
      Spared fault (Calm fault code) p none Free ∧
        (Clear fault code s → ¬ Comes fault false p s.world)) :
    Sound fault code (s.setStack t frames) := by
  refine h.of_stepOf (stepOf_setStack s t frames) ?_ ?_
  · rw [SparedAt, s.stack_setStack_self, held,
      if_neg (show (s.setStack t frames).owner ≠ some t from howner)]
    rcases hframes with rfl | ⟨c, p, rfl, hp, -⟩
    · exact Or.inl ⟨rfl, howner⟩
    · exact Or.inr ⟨c, p, rfl, hp⟩
  · intro hfree
    have hclear := h.clear hfree
    refine ⟨fun u f rest hf => ?_, hclear.calm⟩
    by_cases hu : u = t
    · rw [hu, s.stack_setStack_self] at hf
      rcases hframes with rfl | ⟨c, p, rfl, -, hp⟩
      · cases hf
      · rw [← (List.cons.inj hf).1]
        exact hp hclear
    · rw [s.stack_setStack_ne hu] at hf
      exact hclear.frames u f rest hf

/-- A thread that holds the mutex goes on to other code. -/
lemma Sound.setStack_inside (h : Sound fault code s) (howner : s.owner = some t)
    {c : κ ⊕ Empty} {p : Prog σ Unit} {w : σ}
    (hp : Spared fault (Calm fault code) p (some w) Free) :
    Sound fault code { s.setStack t [⟨c, p⟩] with world := w } := by
  refine h.of_stepOf (t := t) ⟨fun _ hu => s.stack_setStack_ne hu _, Or.inl rfl,
    Or.inr howner⟩ ?_ ?_
  · refine Or.inr ⟨c, p, s.stack_setStack_self t _, ?_⟩
    have hheld : held { s.setStack t [⟨c, p⟩] with world := w } t = some w := if_pos howner
    rw [hheld]
    exact hp
  · intro hfree
    rw [show s.owner = none from hfree] at howner
    cases howner

/-- **A step of a thread outside the mutex.** -/
lemma Sound.threadStep_outside (h : Sound fault code s) (howner : s.owner ≠ some t) (ok : Bool) :
    Sound fault code (s.threadStep t ok) := by
  unfold Threads.threadStep
  rcases h.spared t with ⟨hnil, -⟩ | ⟨c, p, hstack, hp⟩
  · rw [hnil]
    exact h
  · rw [held, if_neg howner] at hp
    rw [hstack]
    cases p with
    | ret a => exact h.setStack_outside howner (Or.inl rfl)
    | lock k =>
        by_cases hfree : s.owner = none
        · simp only [if_pos hfree]
          have hcomes : ¬ Comes fault true k s.world :=
            (h.clear hfree).frames t ⟨c, .lock k⟩ [] hstack
          refine h.of_stepOf (t := t) ⟨fun _ hu => s.stack_setStack_ne hu _,
            Or.inr (Or.inl ⟨hfree, rfl⟩), Or.inl rfl⟩ ?_ fun hnone => by cases hnone
          refine Or.inr ⟨c, k, s.stack_setStack_self t _, ?_⟩
          rw [held, if_pos rfl]
          exact hp.2 s.world hcomes
        · simp only [if_neg hfree]
          exact h
    | unlock k => exact hp.elim
    | get k =>
        refine h.setStack_outside howner (Or.inr ⟨c, k s.world, rfl, hp s.world, ?_⟩)
        intro hclear
        exact hclear.frames t ⟨c, .get k⟩ [] hstack
    | modify f k => exact hp.elim
    | choose k => exact hp.elim
    | await r k => exact hp.elim

/-- **A step of the thread that holds the mutex.** -/
lemma Sound.threadStep_inside (h : Sound fault code s) (howner : s.owner = some t) (ok : Bool)
    (hclear : Harmless fault code s (.step t ok)) : Sound fault code (s.threadStep t ok) := by
  unfold Threads.threadStep
  rcases h.spared t with ⟨-, hne⟩ | ⟨c, p, hstack, hp⟩
  · exact absurd howner hne
  · rw [held, if_pos howner] at hp
    rw [hstack]
    cases p with
    | ret a => cases hp
    | lock k => exact absurd hp.1 (by simp)
    | unlock k =>
        simp only [if_pos howner]
        have hbefore : Clear fault code s := hclear (by simp [releases, howner, hstack])
        refine h.of_stepOf (t := t) ⟨fun _ hu => s.stack_setStack_ne hu _,
          Or.inr (Or.inr ⟨howner, rfl⟩), Or.inl rfl⟩ ?_ fun _ => ⟨?_, hbefore.calm⟩
        · refine Or.inr ⟨c, k, s.stack_setStack_self t _, ?_⟩
          rw [held, if_neg (by simp)]
          exact hp.2
        · -- the others are where they were, and this one is behind its release
          intro u f rest hf
          by_cases hu : u = t
          · obtain rfl : (⟨c, k⟩ : Frame σ κ Empty) = f := by
              have hself := s.stack_setStack_self t [⟨c, k⟩]
              rw [hu] at hf
              exact (List.cons.inj (hself.symm.trans hf)).1
            exact hp.1 hbefore.calm
          · exact hbefore.frames u f rest ((s.stack_setStack_ne hu _).symm.trans hf)
    | get k => exact h.setStack_inside howner hp
    | modify f k => exact h.setStack_inside howner hp.2
    | choose k => exact h.setStack_inside howner (hp ok)
    | await r k => exact hp.elim

/-- **One step of a schedule.** -/
lemma Sound.step (hcode : ∀ c, Spared fault (Calm fault code) (code c) none Free)
    (h : Sound fault code s) (e : Event κ Empty) (he : Harmless fault code s e) :
    Sound fault code ((threads code).step s e).1 := by
  cases e with
  | call t c =>
      show Sound fault code (if (s.stack t).isEmpty then s.setStack t [⟨.inl c, code c⟩] else s)
      split_ifs with hempty
      · have howner : s.owner ≠ some t := by
          rcases h.spared t with ⟨-, hne⟩ | ⟨c', p, hstack, -⟩
          · exact hne
          · rw [hstack] at hempty
            cases hempty
        exact h.setStack_outside howner
          (Or.inr ⟨.inl c, code c, rfl, hcode c, fun hclear => hclear.calm c⟩)
      · exact h
  | signal t i => exact i.elim
  | step t ok =>
      by_cases howner : s.owner = some t
      · exact h.threadStep_inside howner ok he
      · exact h.threadStep_outside howner ok

/-- **No faults on harmless runs** of spared calls, from a state in which no call comes to one. -/
theorem never_faulty (hcode : ∀ c, Spared fault (Calm fault code) (code c) none Free) {w : σ}
    (hw : Calm fault code w) {events : List (Event κ Empty)}
    (h : ∀ x ∈ (threads code).trace (Threads.idle w) events, Harmless fault code x.1 x.2) :
    ∀ s ∈ (threads code).states (Threads.idle w) events, ¬ Faulty fault s := by
  have hidle : Sound fault code (Threads.idle w) := by
    refine ⟨fun _ => Or.inl ⟨rfl, by simp [Threads.idle]⟩, fun _ => ⟨?_, hw⟩⟩
    intro _ f rest hf
    exact absurd hf.symm (List.cons_ne_nil f rest)
  have hall := (threads code).states_of_trace (I := Sound fault code)
    (fun s e hs he => hs.step hcode e he) hidle h
  intro s hs
  exact (hall s hs).not_faulty

/-! ## Releases that are not harmless -/

/-- A thread that reads. -/
lemma threadStep_get {c : κ ⊕ Empty} {k : σ → Prog σ Unit} {rest : List (Frame σ κ Empty)}
    (hstack : s.stack t = ⟨c, .get k⟩ :: rest) (ok : Bool) :
    s.threadStep t ok = s.setStack t (⟨c, k s.world⟩ :: rest) := by
  rw [Threads.threadStep, hstack]

variable (code)

/-- **A step that releases the mutex** leaves the state, and the threads that are elsewhere. -/
lemma step_of_releases {e : Event κ Empty} (h : releases s e = true) :
    ((threads code).step s e).1.owner = none ∧ ((threads code).step s e).1.world = s.world ∧
      ∀ u, (∀ c k rest, s.stack u ≠ ⟨c, .unlock k⟩ :: rest) →
        ((threads code).step s e).1.stack u = s.stack u := by
  cases e with
  | call t c => cases h
  | signal t i => exact i.elim
  | step t ok =>
      rw [releases, Bool.and_eq_true, beq_iff_eq] at h
      obtain ⟨howner, htop⟩ := h
      cases hstack : s.stack t with
      | nil =>
          rw [hstack] at htop
          cases htop
      | cons f rest =>
          obtain ⟨c, p⟩ := f
          rw [hstack] at htop
          cases p with
          | unlock k =>
              have hstep : ((threads code).step s (.step t ok)).1 =
                  { s.setStack t (⟨c, k⟩ :: rest) with owner := none } := by
                show s.threadStep t ok = _
                rw [Threads.threadStep, hstack]
                exact if_pos howner
              rw [hstep]
              refine ⟨rfl, rfl, fun u hu => s.stack_setStack_ne ?_ _⟩
              rintro rfl
              exact hu c k rest hstack
          | _ => cases htop

/-- A thread that holds the mutex and comes to a fault makes one. -/
lemma faulty_of_comes_held {c : κ ⊕ Empty} {p : Prog σ Unit} {rest : List (Frame σ κ Empty)}
    (hstack : s.stack t = ⟨c, p⟩ :: rest) (hcomes : Comes fault true p s.world) :
    ∃ n, Faulty fault ((threads code).run s (List.replicate n (.step t true))).1 := by
  induction p generalizing s with
  | modify f k _ =>
      refine ⟨0, t, ?_⟩
      show faultyAt fault s t = true
      rw [faultyAt, hstack]
      exact hcomes
  | get k ih =>
      have hstep := threadStep_get hstack true
      obtain ⟨n, hn⟩ := ih s.world (s := s.threadStep t true)
        (by rw [hstep, s.stack_setStack_self]) (by rw [hstep]; exact hcomes)
      exact ⟨n + 1, hn⟩
  | _ => exact hcomes.elim

/-- **A thread that comes to a fault** makes one, if nobody else takes a step. -/
lemma faulty_of_comes {c : κ ⊕ Empty} {p : Prog σ Unit} {rest : List (Frame σ κ Empty)}
    (howner : s.owner = none) (hstack : s.stack t = ⟨c, p⟩ :: rest)
    (hcomes : Comes fault false p s.world) :
    ∃ n, Faulty fault ((threads code).run s (List.replicate n (.step t true))).1 := by
  induction p generalizing s with
  | lock k _ =>
      have hstep : s.threadStep t true =
          { s.setStack t (⟨c, k⟩ :: rest) with owner := some t } := by
        rw [Threads.threadStep, hstack]
        exact if_pos howner
      obtain ⟨n, hn⟩ := faulty_of_comes_held code (s := s.threadStep t true)
        (by rw [hstep]; exact s.stack_setStack_self t _) (by rw [hstep]; exact hcomes)
      exact ⟨n + 1, hn⟩
  | modify f k _ =>
      refine ⟨0, t, ?_⟩
      show faultyAt fault s t = true
      rw [faultyAt, hstack]
      exact hcomes
  | get k ih =>
      have hstep := threadStep_get hstack true
      obtain ⟨n, hn⟩ := ih s.world (s := s.threadStep t true) (by rw [hstep]; exact howner)
        (by rw [hstep, s.stack_setStack_self]) (by rw [hstep]; exact hcomes)
      exact ⟨n + 1, hn⟩
  | _ => exact hcomes.elim

end threads

end Faults
