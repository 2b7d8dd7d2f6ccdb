import ProcessMonitor.Lib.Signals

/-!
# A part of the state that is changed under the mutex only

Threads run calls under one mutex that is not recursive, as in `Signals` and without signals. A
part of the shared state, `part w`, is changed by holders of the mutex alone; the rest is changed at
any time.

* `Keeps`: code that leaves the part alone while it does not hold the mutex and keeps the invariant
  `J` at every step. It may ask for a mutex that it holds: there it waits for itself, and what comes
  behind that is never run. `Keeps.bind` is its rule for sequencing.
* `sound_run`: if the calls keep `J`, all states of a run have it, and a call that may not return
  (`returns c` does not hold) never gets to its end.
* `selfLocked_of_asksTwice`: a call that takes the mutex and asks for it again at once waits for
  itself from the moment it holds the mutex.
* `frozen_run`: from such a moment on no run changes the part, and no call comes to its end that
  still has to take the mutex.
-/

namespace Protected

open Prog Signals

variable {σ τ κ α β : Type} (J : σ → Prop) (part : σ → τ)

/-! ## Code -/

/-- The weakest precondition of code that keeps `J`, and the part outside the mutex, and that ends
with `Q` if it gets to its end: `some x` for a holder of the mutex who knows the part, `none`
outside. -/
def Keeps : Prog σ α → Option τ → (α → Option τ → Prop) → Prop
  | .ret a, h, Q => Q a h
  | .lock k, none, Q => ∀ w, J w → Keeps k (some (part w)) Q
  | .lock _, some _, _ => True
  | .unlock _, none, _ => False
  | .unlock k, some _, Q => Keeps k none Q
  | .get k, none, Q => ∀ w, J w → Keeps (k w) none Q
  | .get k, some x, Q => ∀ w, J w → part w = x → Keeps (k w) (some x) Q
  | .modify f k, none, Q => (∀ w, J w → J (f w) ∧ part (f w) = part w) ∧ Keeps k none Q
  | .modify f k, some x, Q => ∀ w, J w → part w = x → J (f w) ∧ Keeps k (some (part (f w))) Q
  | .choose k, h, Q => ∀ b, Keeps (k b) h Q
  | .await _ k, h, Q => Keeps k h Q

/-- The end of a call: the mutex is free, and the call may return. -/
def Done (returns : Prop) (_ : Unit) (h : Option τ) : Prop := h = none ∧ returns

/-- Code that takes the mutex before it ends. -/
def AsksFirst : Prog σ α → Prop
  | .ret _ => False
  | .lock _ => True
  | .unlock _ => False
  | .get k => ∀ w, AsksFirst (k w)
  | .modify _ k => AsksFirst k
  | .choose k => ∀ b, AsksFirst (k b)
  | .await _ k => AsksFirst k

/-- Code that does nothing but read before it takes the mutex, and then asks for it again. -/
def AsksTwice : Prog σ α → Prop
  | .lock (.lock _) => True
  | .get k => ∀ w, AsksTwice (k w)
  | _ => False

variable {J part}

/-- The rule of consequence. -/
lemma Keeps.mono {p : Prog σ α} {h : Option τ} {Q R : α → Option τ → Prop}
    (hp : Keeps J part p h Q) (hR : ∀ a h', Q a h' → R a h') : Keeps J part p h R := by
  induction p generalizing h with
  | ret a => exact hR a h hp
  | lock k ih =>
      cases h with
      | none => exact fun w hw => ih (hp w hw)
      | some x => trivial
  | unlock k ih =>
      cases h with
      | none => exact hp
      | some x => exact ih hp
  | get k ih =>
      cases h with
      | none => exact fun w hw => ih w (hp w hw)
      | some x => exact fun w hw hx => ih w (hp w hw hx)
  | modify f k ih =>
      cases h with
      | none => exact ⟨hp.1, ih hp.2⟩
      | some x => exact fun w hw hx => ⟨(hp w hw hx).1, ih (hp w hw hx).2⟩
  | choose k ih => exact fun b => ih b (hp b)
  | await r k ih => exact ih hp

/-- The rule of sequencing. -/
lemma Keeps.bind {p : Prog σ α} {f : α → Prog σ β} {h : Option τ} {Q : β → Option τ → Prop}
    (hp : Keeps J part p h fun a h' => Keeps J part (f a) h' Q) : Keeps J part (p >>= f) h Q := by
  induction p generalizing h with
  | ret a => exact hp
  | lock k ih =>
      cases h with
      | none => exact fun w hw => ih (hp w hw)
      | some x => trivial
  | unlock k ih =>
      cases h with
      | none => exact hp
      | some x => exact ih hp
  | get k ih =>
      cases h with
      | none => exact fun w hw => ih w (hp w hw)
      | some x => exact fun w hw hx => ih w (hp w hw hx)
  | modify g k ih =>
      cases h with
      | none => exact ⟨hp.1, ih hp.2⟩
      | some x => exact fun w hw hx => ⟨(hp w hw hx).1, ih (hp w hw hx).2⟩
  | choose k ih => exact fun b => ih b (hp b)
  | await r k ih => exact ih hp

/-! ## Threads -/

section threads

variable (J part) (code : κ → Prog σ Unit) (returns : κ → Prop)

/-- The threads under a schedule. -/
def threads : Machine (Threads σ κ Empty) (Event κ Empty) Unit := machine code fun e => e.elim

/-- What the thread knows of the part: all of it while it holds the mutex. -/
def known (s : Threads σ κ Empty) (t : ℕ) : Option τ :=
  if s.owner = some t then some (part s.world) else none

/-- The thread is idle, or in one call, which keeps `J`. -/
def KeepsAt (s : Threads σ κ Empty) (t : ℕ) : Prop :=
  (s.stack t = [] ∧ s.owner ≠ some t) ∨
    ∃ c p, s.stack t = [⟨.inl c, p⟩] ∧ Keeps J part p (known part s t) (Done (returns c))

/-- The invariant holds, and all threads keep it. -/
structure Sound (s : Threads σ κ Empty) : Prop where
  state : J s.world
  keeps : ∀ t, KeepsAt J part returns s t

/-- The thread asks for the mutex that it holds. -/
structure SelfLocked (s : Threads σ κ Empty) (t : ℕ) : Prop where
  owner : s.owner = some t
  asks : ∃ c k, s.stack t = [⟨.inl c, .lock k⟩]

/-- The thread has not taken the mutex in its call, or is in none. -/
def Behind (s : Threads σ κ Empty) (t : ℕ) : Prop :=
  s.stack t = [] ∨ ∃ c p, s.stack t = [⟨.inl c, p⟩] ∧ AsksFirst p

/-- What remains from `s` to `s'`: the part, the owner of the mutex, and that the threads which were
behind do not come to the end of a call that takes the mutex. -/
structure Frozen (s s' : Threads σ κ Empty) : Prop where
  part_eq : part s'.world = part s.world
  owner_eq : s'.owner = s.owner
  behind : ∀ u, Behind s u → ∀ c p, s'.stack u = [⟨.inl c, p⟩] → AsksFirst (code c) → AsksFirst p

/-- What a step of the thread `t` leaves of the others. -/
structure Beside (t : ℕ) (s s' : Threads σ κ Empty) : Prop where
  stack_eq : ∀ u, u ≠ t → s'.stack u = s.stack u
  owner_eq : s'.owner = s.owner ∨ (s.owner = none ∧ s'.owner = some t) ∨
    (s.owner = some t ∧ s'.owner = none)
  part_eq : part s'.world = part s.world ∨ s.owner = some t

variable {J part code returns} {s s' : Threads σ κ Empty} {t : ℕ}

/-- A step of another thread leaves it whether the thread holds the mutex. -/
lemma Beside.owner_iff (h : Beside part t s s') {u : ℕ} (hu : u ≠ t) :
    s'.owner = some u ↔ s.owner = some u := by
  have htu : some t ≠ some u := fun heq => hu (Option.some.inj heq).symm
  rcases h.owner_eq with hsame | ⟨hnone, hsome⟩ | ⟨hsome, hnone⟩
  · rw [hsame]
  · rw [hsome, hnone]
    exact iff_of_false htu (by simp)
  · rw [hsome, hnone]
    exact iff_of_false (by simp) htu

/-- A step of another thread leaves it what the thread knows. -/
lemma Beside.known_eq (h : Beside part t s s') {u : ℕ} (hu : u ≠ t) :
    known part s' u = known part s u := by
  unfold known
  by_cases hs : s.owner = some u
  · rw [if_pos hs, if_pos ((h.owner_iff hu).mpr hs)]
    have htu : s.owner ≠ some t := fun heq => hu (Option.some.inj (hs.symm.trans heq))
    exact congrArg some (h.part_eq.resolve_right htu)
  · rw [if_neg hs, if_neg (mt (h.owner_iff hu).mp hs)]

/-- The threads after a step of one. -/
lemma Sound.of_beside (h : Sound J part returns s) (hstep : Beside part t s s')
    (hstate : J s'.world) (ht : KeepsAt J part returns s' t) : Sound J part returns s' := by
  refine ⟨hstate, fun u => ?_⟩
  by_cases hu : u = t
  · rw [hu]
    exact ht
  · unfold KeepsAt
    rw [hstep.stack_eq u hu, hstep.known_eq hu]
    exact (h.keeps u).imp_left fun hidle => ⟨hidle.1, mt (hstep.owner_iff hu).mp hidle.2⟩

/-- The thread goes on to other code and changes the state. -/
lemma Sound.go (h : Sound J part returns s) {c : κ} {p : Prog σ Unit} {w : σ} (owner : Option ℕ)
    (hw : J w)
    (howner : owner = s.owner ∨ (s.owner = none ∧ owner = some t) ∨
      (s.owner = some t ∧ owner = none))
    (hpart : part w = part s.world ∨ s.owner = some t)
    (hp : Keeps J part p (if owner = some t then some (part w) else none) (Done (returns c))) :
    Beside part t s { s.setStack t [⟨.inl c, p⟩] with world := w, owner := owner } ∧
      Sound J part returns { s.setStack t [⟨.inl c, p⟩] with world := w, owner := owner } := by
  have hstep : Beside part t s { s.setStack t [⟨.inl c, p⟩] with world := w, owner := owner } :=
    ⟨fun u hu => s.stack_setStack_ne hu _, howner, hpart⟩
  exact ⟨hstep, h.of_beside hstep hw (Or.inr ⟨c, p, s.stack_setStack_self t _, hp⟩)⟩

/-- The thread stays where it is. -/
lemma Sound.stay (h : Sound J part returns s) (t : ℕ) :
    Beside part t s s ∧ Sound J part returns s :=
  ⟨⟨fun _ _ => rfl, Or.inl rfl, Or.inl rfl⟩, h⟩

/-- **A step of a thread** keeps the invariant and leaves the other threads what they know. -/
lemma Sound.threadStep (h : Sound J part returns s) (t : ℕ) (ok : Bool) :
    Beside part t s (s.threadStep t ok) ∧ Sound J part returns (s.threadStep t ok) := by
  unfold Threads.threadStep
  rcases h.keeps t with ⟨hnil, -⟩ | ⟨c, p, hstack, hp⟩
  · rw [hnil]
    exact h.stay t
  · rw [hstack]
    unfold known at hp
    cases p with
    | ret a =>
        have howner : s.owner ≠ some t := by
          intro heq
          rw [if_pos heq] at hp
          exact Option.some_ne_none _ hp.1
        have hstep : Beside part t s (s.setStack t []) :=
          ⟨fun u hu => s.stack_setStack_ne hu _, Or.inl rfl, Or.inl rfl⟩
        exact ⟨hstep, h.of_beside hstep h.state (Or.inl ⟨s.stack_setStack_self t _, howner⟩)⟩
    | lock k =>
        by_cases hfree : s.owner = none
        · simp only [if_pos hfree]
          rw [if_neg (by simp [hfree])] at hp
          refine h.go (some t) h.state (Or.inr (Or.inl ⟨hfree, rfl⟩)) (Or.inl rfl) ?_
          rw [if_pos rfl]
          exact hp s.world h.state
        · simp only [if_neg hfree]
          exact h.stay t
    | unlock k =>
        by_cases howner : s.owner = some t
        · simp only [if_pos howner]
          rw [if_pos howner] at hp
          refine h.go none h.state (Or.inr (Or.inr ⟨howner, rfl⟩)) (Or.inl rfl) ?_
          rw [if_neg (by simp)]
          exact hp
        · rw [if_neg howner] at hp
          exact hp.elim
    | get k =>
        refine h.go s.owner h.state (Or.inl rfl) (Or.inl rfl) ?_
        split_ifs at hp ⊢
        · exact hp s.world h.state rfl
        · exact hp s.world h.state
    | modify f k =>
        by_cases howner : s.owner = some t
        · rw [if_pos howner] at hp
          obtain ⟨hJ, hk⟩ := hp s.world h.state rfl
          refine h.go s.owner hJ (Or.inl rfl) (Or.inr howner) ?_
          rw [if_pos howner]
          exact hk
        · rw [if_neg howner] at hp
          obtain ⟨hJ, hpart⟩ := hp.1 s.world h.state
          refine h.go s.owner hJ (Or.inl rfl) (Or.inl hpart) ?_
          rw [if_neg howner]
          exact hp.2
    | choose k => exact h.go s.owner h.state (Or.inl rfl) (Or.inl rfl) (hp ok)
    | await r k =>
        by_cases hr : r s.world = true
        · simp only [if_pos hr]
          exact h.go s.owner h.state (Or.inl rfl) (Or.inl rfl) hp
        · simp only [if_neg hr]
          exact h.stay t

/-- An idle thread does not hold the mutex. -/
lemma Sound.owner_ne_of_idle (h : Sound J part returns s) (hidle : s.stack t = []) :
    s.owner ≠ some t := by
  rcases h.keeps t with ⟨-, hne⟩ | ⟨c, p, hstack, -⟩
  · exact hne
  · rw [hidle] at hstack
    cases hstack

section calls

variable (hcode : ∀ c, Keeps J part (code c) none (Done (returns c)))
include hcode

/-- A thread begins a call. -/
lemma Sound.call (h : Sound J part returns s) (c : κ) (hidle : s.stack t = []) :
    Beside part t s (s.setStack t [⟨.inl c, code c⟩]) ∧
      Sound J part returns (s.setStack t [⟨.inl c, code c⟩]) := by
  refine h.go s.owner h.state (Or.inl rfl) (Or.inl rfl) ?_
  rw [if_neg (h.owner_ne_of_idle hidle)]
  exact hcode c

/-- **A step** keeps the invariant, if the calls do. -/
lemma Sound.step (h : Sound J part returns s) (e : Event κ Empty) :
    Sound J part returns ((threads code).step s e).1 := by
  cases e with
  | call t c =>
      simp only [threads, machine, List.isEmpty_iff]
      split_ifs with hidle
      · exact (h.call hcode c hidle).2
      · exact h
  | signal t i => exact i.elim
  | step t ok => exact (h.threadStep t ok).2

end calls

/-- A call that has come to its end may return. -/
lemma Sound.returns_of_ret (h : Sound J part returns s) {c : κ} {a : Unit}
    (hstack : s.stack t = [⟨.inl c, .ret a⟩]) : returns c := by
  rcases h.keeps t with ⟨hnil, -⟩ | ⟨c', p, hstack', hp⟩
  · rw [hnil] at hstack
    cases hstack
  · rw [hstack'] at hstack
    cases hstack
    exact hp.2

/-- No thread is in a call. -/
lemma sound_idle {w : σ} (hw : J w) : Sound J part returns (Threads.idle w : Threads σ κ Empty) :=
  ⟨hw, fun _ => Or.inl ⟨rfl, by simp [Threads.idle]⟩⟩

/-- **The invariant rule.** If the calls keep `J`, all states of a run have it, and no call comes to
its end that may not return. -/
theorem sound_run (hcode : ∀ c, Keeps J part (code c) none (Done (returns c))) {w : σ} (hw : J w)
    (events : List (Event κ Empty)) :
    ∀ s ∈ Threads.idle w :: (threads code).states (Threads.idle w) events,
      Sound J part returns s :=
  List.forall_mem_cons.mpr ⟨sound_idle hw,
    (threads code).states_invariant (I := Sound J part returns) (fun _ e h => h.step hcode e)
      (sound_idle hw) events⟩

/-! ## A thread that waits for itself -/

/-- The threads in calls that ask twice: they have not taken the mutex, or wait for themselves. -/
def Twice (code : κ → Prog σ Unit) (s : Threads σ κ Empty) : Prop :=
  ∀ t c p, s.stack t = [⟨.inl c, p⟩] → AsksTwice (code c) →
    (s.owner = some t ∧ ∃ k, p = .lock k) ∨ (s.owner ≠ some t ∧ AsksTwice p)

/-- A step of one thread keeps this, if it keeps it for that thread. -/
lemma Twice.of_beside (h : Twice code s) (hstep : Beside part t s s')
    (ht : ∀ c p, s'.stack t = [⟨.inl c, p⟩] → AsksTwice (code c) →
      (s'.owner = some t ∧ ∃ k, p = .lock k) ∨ (s'.owner ≠ some t ∧ AsksTwice p)) :
    Twice code s' := by
  intro u c p hstack htwice
  by_cases hu : u = t
  · subst hu
    exact ht c p hstack htwice
  · rw [hstep.stack_eq u hu] at hstack
    rw [ne_eq, hstep.owner_iff hu]
    exact h u c p hstack htwice

/-- A thread stays in its call until it has ended. -/
lemma call_eq_of_threadStep {c c' : κ} {p q : Prog σ Unit} {ok : Bool}
    (hq : s.stack t = [⟨.inl c, q⟩]) (hp : (s.threadStep t ok).stack t = [⟨.inl c', p⟩]) :
    c' = c := by
  have hgo {owner : Option ℕ} {w : σ} {k : Prog σ Unit}
      (h : ({ s.setStack t [⟨.inl c, k⟩] with owner := owner, world := w } :
        Threads σ κ Empty).stack t = [⟨.inl c', p⟩]) : c' = c := by
    rw [show Threads.stack _ t = _ from s.stack_setStack_self t _] at h
    cases h
    rfl
  unfold Threads.threadStep at hp
  rw [hq] at hp
  cases q with
  | ret a =>
      simp only [Threads.stack_setStack_self] at hp
      cases hp
  | lock k =>
      simp only at hp
      split_ifs at hp
      · exact hgo hp
      · rw [hq] at hp
        cases hp
        rfl
  | unlock k =>
      simp only at hp
      split_ifs at hp
      · exact hgo hp
      · rw [hq] at hp
        cases hp
        rfl
  | await r k =>
      simp only at hp
      split_ifs at hp
      · exact hgo hp
      · rw [hq] at hp
        cases hp
        rfl
  | _ => exact hgo hp

/-- A step of a thread keeps it. -/
lemma Twice.threadStep (h : Twice code s) (hs : Sound J part returns s) (t : ℕ) (ok : Bool) :
    Twice code (s.threadStep t ok) := by
  refine h.of_beside (hs.threadStep t ok).1 ?_
  intro c p hstack htwice
  rcases hs.keeps t with ⟨hnil, -⟩ | ⟨c', q, hq, -⟩
  · unfold Threads.threadStep at hstack
    rw [hnil] at hstack
    rw [hnil] at hstack
    cases hstack
  · obtain rfl := call_eq_of_threadStep hq hstack
    have hbefore := h t c q hq htwice
    unfold Threads.threadStep at hstack ⊢
    rw [hq] at hstack ⊢
    obtain ⟨howner, k, rfl⟩ | ⟨howner, hasks⟩ := hbefore
    · -- it waits for itself
      simp only [howner, reduceCtorEq, if_false] at hstack ⊢
      rw [hq] at hstack
      cases hstack
      exact Or.inl ⟨trivial, k, rfl⟩
    · cases q with
      | lock k =>
          by_cases hfree : s.owner = none
          · simp only [if_pos hfree, Threads.stack_setStack_self] at hstack ⊢
            cases hstack
            cases p with
            | lock k => exact Or.inl ⟨trivial, k, rfl⟩
            | _ => exact hasks.elim
          · simp only [if_neg hfree] at hstack ⊢
            rw [hq] at hstack
            cases hstack
            exact Or.inr ⟨howner, hasks⟩
      | get k =>
          simp only [Threads.stack_setStack_self] at hstack
          cases hstack
          exact Or.inr ⟨howner, hasks s.world⟩
      | _ => exact hasks.elim

section calls

variable (hcode : ∀ c, Keeps J part (code c) none (Done (returns c)))
include hcode

/-- A step keeps `Twice`. -/
lemma Twice.step (h : Twice code s) (hs : Sound J part returns s) (e : Event κ Empty) :
    Twice code ((threads code).step s e).1 := by
  cases e with
  | call t c =>
      simp only [threads, machine, List.isEmpty_iff]
      split_ifs with hidle
      · refine h.of_beside (hs.call hcode c hidle).1 ?_
        intro c' p hstack htwice
        rw [s.stack_setStack_self] at hstack
        cases hstack
        exact Or.inr ⟨hs.owner_ne_of_idle hidle, htwice⟩
      · exact h
  | signal t i => exact i.elim
  | step t ok => exact h.threadStep hs t ok

/-- **A call that asks twice waits for itself** from the moment it holds the mutex. -/
theorem selfLocked_of_asksTwice {w : σ} (hw : J w) (events : List (Event κ Empty)) :
    ∀ s ∈ Threads.idle w :: (threads code).states (Threads.idle w) events, ∀ t c p,
      s.stack t = [⟨.inl c, p⟩] → AsksTwice (code c) → s.owner = some t → SelfLocked s t := by
  have hidle : Sound J part returns (Threads.idle w : Threads σ κ Empty) ∧
      Twice code (Threads.idle w) := ⟨sound_idle hw, fun t c p hstack => by cases hstack⟩
  have hrun := (threads code).states_invariant
    (I := fun s => Sound J part returns s ∧ Twice code s)
    (fun s e h => ⟨h.1.step hcode e, h.2.step hcode h.1 e⟩) hidle events
  intro s hs t c p hstack htwice howner
  have h : Twice code s := by
    rcases List.mem_cons.mp hs with rfl | hmem
    · exact hidle.2
    · exact (hrun s hmem).2
  rcases h t c p hstack htwice with ⟨-, k, rfl⟩ | ⟨hne, -⟩
  · exact ⟨howner, c, k, hstack⟩
  · exact absurd howner hne

end calls

/-! ## From then on -/

/-- Nothing has happened. -/
lemma Frozen.refl (s : Threads σ κ Empty) : Frozen part code s s := by
  refine ⟨rfl, rfl, ?_⟩
  rintro u (hidle | ⟨c', q, hq, hasks⟩) c p hstack -
  · rw [hidle] at hstack
    cases hstack
  · rw [hq] at hstack
    cases hstack
    exact hasks

/-- A thread that has not taken the mutex does not take it while it is not free. -/
lemma asksFirst_threadStep {c : κ} {p q : Prog σ Unit} {ok : Bool} (hbusy : s.owner ≠ none)
    (hq : s.stack t = [⟨.inl c, q⟩]) (hasks : AsksFirst q)
    (hp : (s.threadStep t ok).stack t = [⟨.inl c, p⟩]) : AsksFirst p := by
  unfold Threads.threadStep at hp
  rw [hq] at hp
  cases q with
  | ret a => exact hasks.elim
  | unlock k => exact hasks.elim
  | lock k =>
      simp only [if_neg hbusy, hq] at hp
      cases hp
      exact hasks
  | get k =>
      simp only [Threads.stack_setStack_self] at hp
      cases hp
      exact hasks s.world
  | modify f k =>
      rw [show Threads.stack _ t = _ from s.stack_setStack_self t _] at hp
      cases hp
      exact hasks
  | choose k =>
      simp only [Threads.stack_setStack_self] at hp
      cases hp
      exact hasks ok
  | await r k =>
      simp only at hp
      split_ifs at hp
      · rw [s.stack_setStack_self] at hp
        cases hp
        exact hasks
      · rw [hq] at hp
        cases hp
        exact hasks

/-- **Nobody gets past it**: a step of any thread leaves the part and the mutex as they are. -/
lemma SelfLocked.threadStep (hs : SelfLocked s t) (h : Sound J part returns s) (v : ℕ) (ok : Bool) :
    part (s.threadStep v ok).world = part s.world ∧ (s.threadStep v ok).owner = s.owner := by
  obtain ⟨howner, c, k, hstack⟩ := hs
  by_cases hv : v = t
  · have hstay : s.threadStep v ok = s := by
      unfold Threads.threadStep
      rw [hv, hstack]
      simp only [howner, reduceCtorEq, if_false]
    rw [hstay]
    exact ⟨rfl, rfl⟩
  · have hne : s.owner ≠ some v := by
      rw [howner]
      exact fun heq => hv (Option.some.inj heq).symm
    obtain ⟨-, howner', hpart⟩ := (h.threadStep v ok).1
    refine ⟨hpart.resolve_right hne, ?_⟩
    rcases howner' with hsame | ⟨hnone, -⟩ | ⟨hsome, -⟩
    · exact hsame
    · rw [howner] at hnone
      cases hnone
    · exact absurd hsome hne

/-- The thread itself does not move. -/
lemma SelfLocked.stack_step (hs : SelfLocked s t) (h : Sound J part returns s)
    (e : Event κ Empty) : ((threads code).step s e).1.stack t = s.stack t := by
  obtain ⟨howner, c, k, hstack⟩ := hs
  cases e with
  | call v c' =>
      simp only [threads, machine, List.isEmpty_iff]
      split_ifs with hidle
      · refine s.stack_setStack_ne ?_ _
        rintro rfl
        rw [hidle] at hstack
        cases hstack
      · rfl
  | signal v i => exact i.elim
  | step v ok =>
      by_cases hv : t = v
      · subst hv
        unfold threads machine Threads.threadStep
        simp only [hstack, howner, reduceCtorEq, if_false]
      · exact (h.threadStep v ok).1.stack_eq t hv

/-- The thread goes on waiting for itself. -/
lemma SelfLocked.stays (hs : SelfLocked s t) (h : Sound J part returns s) (e : Event κ Empty) :
    SelfLocked ((threads code).step s e).1 t := by
  obtain ⟨c, k, hstack⟩ := hs.asks
  refine ⟨?_, c, k, (hs.stack_step h e).trans hstack⟩
  cases e with
  | call v c' =>
      simp only [threads, machine]
      split_ifs <;> exact hs.owner
  | signal v i => exact i.elim
  | step v ok => exact (hs.threadStep h v ok).2.trans hs.owner

/-- A step after it changes nothing of what is frozen. -/
lemma Frozen.step (h : Frozen part code s s') (hs : SelfLocked s' t)
    (hsound : Sound J part returns s') (e : Event κ Empty) :
    Frozen part code s ((threads code).step s' e).1 := by
  cases e with
  | call v c =>
      simp only [threads, machine, List.isEmpty_iff]
      split_ifs with hidle
      · refine ⟨h.part_eq, h.owner_eq, ?_⟩
        intro u hu c' p hstack hasks
        by_cases huv : u = v
        · subst huv
          rw [s'.stack_setStack_self] at hstack
          cases hstack
          exact hasks
        · rw [s'.stack_setStack_ne huv] at hstack
          exact h.behind u hu c' p hstack hasks
      · exact h
  | signal v i => exact i.elim
  | step v ok =>
      obtain ⟨hpart, howner⟩ := hs.threadStep hsound v ok
      refine ⟨hpart.trans h.part_eq, howner.trans h.owner_eq, ?_⟩
      intro u hu c p hstack hasks
      change (s'.threadStep v ok).stack u = [⟨.inl c, p⟩] at hstack
      by_cases huv : u = v
      · subst huv
        rcases hsound.keeps u with ⟨hnil, -⟩ | ⟨c', q, hq, -⟩
        · unfold Threads.threadStep at hstack
          rw [hnil] at hstack
          rw [hnil] at hstack
          cases hstack
        · obtain rfl := call_eq_of_threadStep hq hstack
          have hbusy : s'.owner ≠ none := by
            rw [hs.owner]
            simp
          exact asksFirst_threadStep hbusy hq (h.behind u hu c q hq hasks) hstack
      · rw [(hsound.threadStep v ok).1.stack_eq u huv] at hstack
        exact h.behind u hu c p hstack hasks

/-- **From then on nothing changes.** Once a thread waits for the mutex that it holds, it does so in
all states to come, in the same call; the part stays the same, and no call that still had to take
the mutex comes to its end. -/
theorem frozen_run (hcode : ∀ c, Keeps J part (code c) none (Done (returns c)))
    (h : Sound J part returns s) (hs : SelfLocked s t) (events : List (Event κ Empty)) :
    ∀ s' ∈ s :: (threads code).states s events,
      (Sound J part returns s' ∧ SelfLocked s' t) ∧ s'.stack t = s.stack t ∧
        Frozen part code s s' := by
  have hstep : ∀ (s' : Threads σ κ Empty) (e : Event κ Empty),
      (Sound J part returns s' ∧ SelfLocked s' t) ∧ s'.stack t = s.stack t ∧
          Frozen part code s s' →
        (Sound J part returns ((threads code).step s' e).1 ∧
            SelfLocked ((threads code).step s' e).1 t) ∧
          ((threads code).step s' e).1.stack t = s.stack t ∧
          Frozen part code s ((threads code).step s' e).1 := by
    rintro s' e ⟨⟨hsound, hlocked⟩, hstack, hfrozen⟩
    exact ⟨⟨hsound.step hcode e, hlocked.stays hsound e⟩,
      (hlocked.stack_step hsound e).trans hstack, hfrozen.step hlocked hsound e⟩
  have hnow : (Sound J part returns s ∧ SelfLocked s t) ∧ s.stack t = s.stack t ∧
      Frozen part code s s := ⟨⟨h, hs⟩, rfl, .refl s⟩
  exact List.forall_mem_cons.mpr ⟨hnow, (threads code).states_invariant hstep hnow events⟩

end threads

end Protected
