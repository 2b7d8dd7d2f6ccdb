import ProcessMonitor.Lib.LockProg
import ProcessMonitor.Lib.Machine

/-!
# Threads that signals interrupt, under one mutex

Any number of threads run calls under a mutex that is not recursive. A signal may interrupt a thread
at any point: its handler runs on top of what the thread was doing, on the same stack, and the
interrupted code waits for it.

* `Guarded`: the code of one call changes the state only with the mutex held, so that it keeps what
  it has read while it holds it, and it returns with the mutex released. `guarded_bind` is its rule
  for sequencing.
* `Quiet`: a handler that finds this state returns without asking for the mutex; `Asks` code does
  ask for it, which is a breach in a thread that holds it (`bad_of_asks`).
* `never_bad`: if the codes are guarded and the handlers quiet where they interrupt a holder of the
  mutex, no thread asks for the mutex it holds and no call returns with it.

`takes c w` says in which states a call may take the mutex, and `interrupts i w` in which states a
handler may interrupt the thread that holds it; a run whose steps keep to both is `Allowed`.
-/

namespace Signals

open Prog

variable {σ κ ι α β : Type}

/-! ## Code that keeps to the mutex -/

/-- The weakest precondition of a disciplined run that ends with `Q`, the state being changed by
nobody else while the mutex is held: `some w` for a holder in the state `w`, `none` outside. -/
def Guarded (takes : σ → Bool) : Prog σ α → Option σ → (α → Option σ → Prop) → Prop
  | .ret a, h, Q => Q a h
  | .lock k, h, Q => h = none ∧ ∀ w, takes w = true → Guarded takes k (some w) Q
  | .unlock k, h, Q => h ≠ none ∧ Guarded takes k none Q
  | .get k, none, Q => ∀ w, Guarded takes (k w) none Q
  | .get k, some w, Q => Guarded takes (k w) (some w) Q
  | .modify _ _, none, _ => False
  | .modify f k, some w, Q => Guarded takes k (some (f w)) Q
  | .choose k, h, Q => ∀ b, Guarded takes (k b) h Q
  | .await _ k, h, Q => Guarded takes k h Q

/-- The mutex is free at the end. -/
def Free (_ : α) (h : Option σ) : Prop := h = none

/-- The rule of sequencing. -/
lemma guarded_bind (takes : σ → Bool) (p : Prog σ α) (f : α → Prog σ β) (h : Option σ)
    (Q : β → Option σ → Prop) :
    Guarded takes (p >>= f) h Q ↔
      Guarded takes p h fun a h' => Guarded takes (f a) h' Q := by
  induction p generalizing h with
  | ret a => rfl
  | lock k ih => exact and_congr_right fun _ => forall₂_congr fun w _ => ih (some w)
  | unlock k ih => exact and_congr_right fun _ => ih none
  | get k ih =>
      cases h with
      | none => exact forall_congr' fun w => ih w none
      | some w => exact ih w (some w)
  | modify g k ih =>
      cases h with
      | none => exact Iff.rfl
      | some w => exact ih (some (g w))
  | choose k ih => exact forall_congr' fun b => ih b h
  | await r k ih => exact ih h

/-- The rule of consequence. -/
lemma Guarded.mono {takes : σ → Bool} {p : Prog σ α} {h : Option σ} {Q R : α → Option σ → Prop}
    (hp : Guarded takes p h Q) (hR : ∀ a h', Q a h' → R a h') : Guarded takes p h R := by
  induction p generalizing h with
  | ret a => exact hR a h hp
  | lock k ih => exact ⟨hp.1, fun w hw => ih (hp.2 w hw)⟩
  | unlock k ih => exact ⟨hp.1, ih hp.2⟩
  | get k ih =>
      cases h with
      | none => exact fun w => ih w (hp w)
      | some w => exact ih w hp
  | modify g k ih =>
      cases h with
      | none => exact hp
      | some w => exact ih hp
  | choose k ih => exact fun b => ih b (hp b)
  | await r k ih => exact ih hp

/-- Code that returns from this state after reading alone. -/
def Quiet : Prog σ α → σ → Prop
  | .ret _, _ => True
  | .get k, w => Quiet (k w) w
  | .choose k, w => ∀ b, Quiet (k b) w
  | _, _ => False

/-- Code that from this state comes to ask for the mutex after reading alone. -/
def Asks : Prog σ α → σ → Prop
  | .lock _, _ => True
  | .get k, w => Asks (k w) w
  | _, _ => False

/-- What asks for the mutex does so before what comes after it. -/
lemma Asks.bind {p : Prog σ α} {w : σ} (h : Asks p w) (f : α → Prog σ β) : Asks (p >>= f) w := by
  induction p with
  | lock k _ => trivial
  | get k ih => exact ih w h
  | _ => exact h.elim

/-! ## The threads -/

/-- What is being run, a call or the handler of a signal, and the code left of it. -/
structure Frame (σ κ ι : Type) where
  origin : κ ⊕ ι
  code : Prog σ Unit

/-- The shared state, the holder of the mutex, and the stack of each thread, the innermost frame
first. -/
structure Threads (σ κ ι : Type) where
  world : σ
  owner : Option ℕ
  stack : ℕ → List (Frame σ κ ι)

/-- A call begins, a signal arrives, or a thread takes a step; `ok` is the outcome of a call that
the environment decides. -/
inductive Event (κ ι : Type)
  | call (t : ℕ) (c : κ)
  | signal (t : ℕ) (i : ι)
  | step (t : ℕ) (ok : Bool)

namespace Threads

/-- No thread is in a call. -/
def idle (w : σ) : Threads σ κ ι := ⟨w, none, fun _ => []⟩

variable (s : Threads σ κ ι)

/-- The thread `t` continues with these frames. -/
def setStack (t : ℕ) (frames : List (Frame σ κ ι)) : Threads σ κ ι :=
  { s with stack := Function.update s.stack t frames }

@[simp] lemma stack_setStack_self (t : ℕ) (frames : List (Frame σ κ ι)) :
    (s.setStack t frames).stack t = frames := by
  simp only [setStack, Function.update_self]

lemma stack_setStack_ne {t u : ℕ} (h : u ≠ t) (frames : List (Frame σ κ ι)) :
    (s.setStack t frames).stack u = s.stack u := by
  simp only [setStack, Function.update_of_ne h]

/-- The next step of a thread. It stays where it is when it has to wait. -/
def threadStep (t : ℕ) (ok : Bool) : Threads σ κ ι :=
  match s.stack t with
  | [] => s
  | f :: rest =>
      let go (p : Prog σ Unit) := s.setStack t (⟨f.origin, p⟩ :: rest)
      match f.code with
      | .ret _ => s.setStack t rest
      | .lock k => if s.owner = none then { go k with owner := some t } else s
      | .unlock k => if s.owner = some t then { go k with owner := none } else s
      | .get k => go (k s.world)
      | .modify g k => { go k with world := g s.world }
      | .choose k => go (k ok)
      | .await r k => if r s.world then go k else s

/-- The thread asks for the mutex it holds, or returns from its last frame with it. -/
def badAt (t : ℕ) : Bool :=
  s.owner == some t &&
    match s.stack t with
    | ⟨_, .lock _⟩ :: _ => true
    | [⟨_, .ret _⟩] => true
    | _ => false

/-- Some thread breaches the discipline. -/
def Bad : Prop := ∃ t, s.badAt t = true

end Threads

section runs

variable (code : κ → Prog σ Unit) (handler : ι → Prog σ Unit)

/-- The threads under a schedule; a thread in a call begins no other. -/
def machine : Machine (Threads σ κ ι) (Event κ ι) Unit where
  step s
    | .call t c => (if (s.stack t).isEmpty then s.setStack t [⟨.inl c, code c⟩] else s, ())
    | .signal t i => (s.setStack t (⟨.inr i, handler i⟩ :: s.stack t), ())
    | .step t ok => (s.threadStep t ok, ())

variable (takes : κ ⊕ ι → σ → Bool) (interrupts : ι → σ → Bool)

/-- The step keeps to `takes` and `interrupts`. -/
def Allowed (s : Threads σ κ ι) : Event κ ι → Bool
  | .call _ _ => true
  | .signal t i => s.owner != some t || interrupts i s.world
  | .step t _ =>
      match s.stack t with
      | ⟨c, .lock _⟩ :: _ => s.owner != none || takes c s.world
      | _ => true

/-! ## What the steps keep -/

/-- A frame outside the mutex. -/
def Outside (f : Frame σ κ ι) : Prop := Guarded (takes f.origin) f.code none Free

/-- The frames of the thread that holds the mutex: one holds it, those inside it are quiet. -/
def Holding : List (Frame σ κ ι) → σ → Prop
  | [], _ => False
  | f :: rest, w =>
      (Guarded (takes f.origin) f.code (some w) Free ∧ ∀ g ∈ rest, Outside takes g) ∨
        (Quiet f.code w ∧ Holding rest w)

/-- The frames of a thread are as they should be. -/
structure Sound (s : Threads σ κ ι) (t : ℕ) : Prop where
  outside : s.owner ≠ some t → ∀ f ∈ s.stack t, Outside takes f
  inside : s.owner = some t → Holding takes (s.stack t) s.world

variable {takes} {s s' : Threads σ κ ι} {t : ℕ}

/-- A thread whose frames are as they should be breaches nothing. -/
lemma Sound.not_badAt (h : Sound takes s t) : s.badAt t = false := by
  rw [Threads.badAt, Bool.and_eq_false_iff]
  by_cases howner : s.owner = some t
  · right
    have hholding := h.inside howner
    revert hholding
    cases s.stack t with
    | nil => exact False.elim
    | cons f rest =>
        obtain ⟨c, p⟩ := f
        rintro (⟨hguarded, -⟩ | ⟨hquiet, hrest⟩)
        · cases p with
          | lock k => exact absurd hguarded.1 (by simp)
          | ret a => cases hguarded
          | _ => rfl
        · cases p with
          | lock k => exact hquiet.elim
          | ret a =>
              cases rest with
              | nil => exact hrest.elim
              | cons g rest => rfl
          | _ => rfl
  · left
    rw [beq_eq_false_iff_ne]
    exact howner

/-- What a step of the thread `t` leaves of the others. -/
structure StepOf (t : ℕ) (s s' : Threads σ κ ι) : Prop where
  stack_eq : ∀ u, u ≠ t → s'.stack u = s.stack u
  owner_eq : s'.owner = s.owner ∨ (s.owner = none ∧ s'.owner = some t) ∨
    (s.owner = some t ∧ s'.owner = none)
  world_eq : s'.world = s.world ∨ s.owner = some t

/-- The frames of the others stay as they should be. -/
lemma StepOf.sound (h : StepOf t s s') {u : ℕ} (hu : u ≠ t) (hs : Sound takes s u) :
    Sound takes s' u := by
  have htu : some t ≠ some u := fun heq => hu (Option.some.inj heq).symm
  constructor
  · intro howner
    rw [h.stack_eq u hu]
    refine hs.outside ?_
    intro heq
    rcases h.owner_eq with hsame | ⟨hnone, -⟩ | ⟨hsome, -⟩
    · exact howner (hsame.trans heq)
    · rw [heq] at hnone
      cases hnone
    · exact htu (hsome.symm.trans heq)
  · intro howner
    rcases h.owner_eq with hsame | ⟨-, hsome⟩ | ⟨-, hnone⟩
    · rw [hsame] at howner
      have hworld : s'.world = s.world :=
        h.world_eq.resolve_right fun heq => htu (heq.symm.trans howner)
      rw [h.stack_eq u hu, hworld]
      exact hs.inside howner
    · exact absurd (hsome.symm.trans howner) htu
    · rw [howner] at hnone
      cases hnone

/-- A step that changes the stack alone. -/
lemma stepOf_setStack (s : Threads σ κ ι) (t : ℕ) (frames : List (Frame σ κ ι)) :
    StepOf t s (s.setStack t frames) :=
  ⟨fun _ hu => s.stack_setStack_ne hu frames, Or.inl rfl, Or.inl rfl⟩

/-- The frames after such a step, outside the mutex. -/
lemma sound_setStack_outside {frames : List (Frame σ κ ι)} (howner : s.owner ≠ some t)
    (hframes : ∀ f ∈ frames, Outside takes f) : Sound takes (s.setStack t frames) t where
  outside _ := by
    rw [s.stack_setStack_self]
    exact hframes
  inside h := absurd h howner

/-- The frames after such a step, holding the mutex. -/
lemma sound_setStack_inside {frames : List (Frame σ κ ι)} (howner : s.owner = some t)
    (hframes : Holding takes frames s.world) : Sound takes (s.setStack t frames) t where
  outside h := absurd howner h
  inside _ := by
    rw [s.stack_setStack_self]
    exact hframes

/-- **A step of a thread outside the mutex.** -/
lemma Sound.threadStep_outside (h : Sound takes s t) (howner : s.owner ≠ some t) (ok : Bool)
    (hallowed : Allowed takes interrupts s (.step t ok) = true) :
    StepOf t s (s.threadStep t ok) ∧ Sound takes (s.threadStep t ok) t := by
  have hframes := h.outside howner
  rw [Allowed] at hallowed
  unfold Threads.threadStep
  cases hstack : s.stack t with
  | nil => exact ⟨⟨fun _ _ => rfl, Or.inl rfl, Or.inl rfl⟩, h⟩
  | cons f rest =>
      rw [hstack] at hframes hallowed
      obtain ⟨hf, hrest⟩ := List.forall_mem_cons.mp hframes
      obtain ⟨c, p⟩ := f
      -- the frame goes on outside the mutex
      have hgo {p' : Prog σ Unit} (hp' : Guarded (takes c) p' none Free) :
          StepOf t s (s.setStack t (⟨c, p'⟩ :: rest)) ∧
            Sound takes (s.setStack t (⟨c, p'⟩ :: rest)) t :=
        ⟨stepOf_setStack s t _,
          sound_setStack_outside howner (List.forall_mem_cons.mpr ⟨hp', hrest⟩)⟩
      cases p with
      | ret a => exact ⟨stepOf_setStack s t rest, sound_setStack_outside howner hrest⟩
      | lock k =>
          by_cases hfree : s.owner = none
          · simp only [if_pos hfree]
            have htakes : takes c s.world = true := by simpa [hfree] using hallowed
            have hholding : Holding takes (⟨c, k⟩ :: rest) s.world :=
              Or.inl ⟨hf.2 s.world htakes, hrest⟩
            refine ⟨⟨fun u hu => s.stack_setStack_ne hu _, Or.inr (Or.inl ⟨hfree, rfl⟩),
              Or.inl rfl⟩, ⟨fun hne => absurd rfl hne, ?_⟩⟩
            intro _
            show Holding takes ((s.setStack t (⟨c, k⟩ :: rest)).stack t) s.world
            rw [s.stack_setStack_self]
            exact hholding
          · simp only [if_neg hfree]
            exact ⟨⟨fun _ _ => rfl, Or.inl rfl, Or.inl rfl⟩, h⟩
      | unlock k => exact absurd rfl hf.1
      | get k => exact hgo (hf s.world)
      | modify g k => exact hf.elim
      | choose k => exact hgo (hf ok)
      | await r k =>
          by_cases hr : r s.world = true
          · simp only [if_pos hr]
            exact hgo hf
          · simp only [if_neg hr]
            exact ⟨⟨fun _ _ => rfl, Or.inl rfl, Or.inl rfl⟩, h⟩

/-- **A step of the thread that holds the mutex.** -/
lemma Sound.threadStep_inside (h : Sound takes s t) (howner : s.owner = some t) (ok : Bool) :
    StepOf t s (s.threadStep t ok) ∧ Sound takes (s.threadStep t ok) t := by
  have hholding := h.inside howner
  unfold Threads.threadStep
  cases hstack : s.stack t with
  | nil =>
      rw [hstack] at hholding
      exact hholding.elim
  | cons f rest =>
      rw [hstack] at hholding
      obtain ⟨c, p⟩ := f
      have hkeep {frames : List (Frame σ κ ι)} (hframes : Holding takes frames s.world) :
          StepOf t s (s.setStack t frames) ∧ Sound takes (s.setStack t frames) t :=
        ⟨stepOf_setStack s t _, sound_setStack_inside howner hframes⟩
      rcases hholding with ⟨hf, hrest⟩ | ⟨hquiet, hrest⟩
      · -- the innermost frame is the one that holds the mutex
        cases p with
        | ret a => cases hf
        | lock k => exact absurd hf.1 (by simp)
        | unlock k =>
            simp only [if_pos howner]
            refine ⟨⟨fun u hu => s.stack_setStack_ne hu _, Or.inr (Or.inr ⟨howner, rfl⟩),
              Or.inl rfl⟩, ⟨?_, fun heq => by cases heq⟩⟩
            intro _
            show ∀ g ∈ (s.setStack t (⟨c, k⟩ :: rest)).stack t, Outside takes g
            rw [s.stack_setStack_self]
            exact List.forall_mem_cons.mpr ⟨hf.2, hrest⟩
        | get k => exact hkeep (Or.inl ⟨hf, hrest⟩)
        | modify g k =>
            refine ⟨⟨fun u hu => s.stack_setStack_ne hu _, Or.inl rfl, Or.inr howner⟩,
              ⟨fun hne => absurd howner hne, ?_⟩⟩
            intro _
            show Holding takes ((s.setStack t (⟨c, k⟩ :: rest)).stack t) (g s.world)
            rw [s.stack_setStack_self]
            exact Or.inl ⟨hf, hrest⟩
        | choose k => exact hkeep (Or.inl ⟨hf ok, hrest⟩)
        | await r k =>
            by_cases hr : r s.world = true
            · simp only [if_pos hr]
              exact hkeep (Or.inl ⟨hf, hrest⟩)
            · simp only [if_neg hr]
              exact ⟨⟨fun _ _ => rfl, Or.inl rfl, Or.inl rfl⟩, h⟩
      · -- it is a quiet handler
        cases p with
        | ret a => exact hkeep hrest
        | get k => exact hkeep (Or.inr ⟨hquiet, hrest⟩)
        | choose k => exact hkeep (Or.inr ⟨hquiet ok, hrest⟩)
        | _ => exact hquiet.elim

/-- **One step of a schedule** keeps the frames of all threads as they should be. -/
lemma sound_step (hcode : ∀ c, Guarded (takes (.inl c)) (code c) none Free)
    (hhandler : ∀ i, Guarded (takes (.inr i)) (handler i) none Free)
    (hquiet : ∀ i w, interrupts i w = true → Quiet (handler i) w)
    (h : ∀ t, Sound takes s t) (e : Event κ ι) (hallowed : Allowed takes interrupts s e = true) :
    ∀ t, Sound takes ((machine code handler).step s e).1 t := by
  -- the step is one of a thread `t`, whose own frames remain to be looked at
  have hothers {s' : Threads σ κ ι} {t : ℕ} (hstep : StepOf t s s') (ht : Sound takes s' t) :
      ∀ u, Sound takes s' u := by
    intro u
    by_cases hu : u = t
    · rw [hu]
      exact ht
    · exact hstep.sound hu (h u)
  cases e with
  | call t c =>
      show ∀ u, Sound takes
        (if (s.stack t).isEmpty then s.setStack t [⟨.inl c, code c⟩] else s) u
      split_ifs with hempty
      · have howner : s.owner ≠ some t := by
          intro heq
          have hholding := (h t).inside heq
          rw [List.isEmpty_iff.mp hempty] at hholding
          exact hholding
        exact hothers (stepOf_setStack s t _)
          (sound_setStack_outside howner (by simpa [Outside] using hcode c))
      · exact h
  | signal t i =>
      refine hothers (stepOf_setStack s t (⟨.inr i, handler i⟩ :: s.stack t)) ?_
      by_cases howner : s.owner = some t
      · have hinterrupts : interrupts i s.world = true := by
          simpa [Allowed, howner] using hallowed
        exact sound_setStack_inside howner (Or.inr ⟨hquiet i _ hinterrupts, (h t).inside howner⟩)
      · exact sound_setStack_outside howner
          (List.forall_mem_cons.mpr ⟨hhandler i, (h t).outside howner⟩)
  | step t ok =>
      by_cases howner : s.owner = some t
      · obtain ⟨hstep, ht⟩ := (h t).threadStep_inside howner ok
        exact hothers hstep ht
      · obtain ⟨hstep, ht⟩ := (h t).threadStep_outside interrupts howner ok hallowed
        exact hothers hstep ht

/-- **The discipline holds on every allowed run** of guarded calls and handlers that are quiet where
they interrupt the holder of the mutex. -/
theorem never_bad (hcode : ∀ c, Guarded (takes (.inl c)) (code c) none Free)
    (hhandler : ∀ i, Guarded (takes (.inr i)) (handler i) none Free)
    (hquiet : ∀ i w, interrupts i w = true → Quiet (handler i) w) (w : σ)
    {events : List (Event κ ι)}
    (h : ∀ x ∈ (machine code handler).trace (Threads.idle w) events,
      Allowed takes interrupts x.1 x.2 = true) :
    ∀ s ∈ (machine code handler).states (Threads.idle w) events, ¬ s.Bad := by
  have hidle : ∀ t, Sound takes (Threads.idle w) t := fun t =>
    ⟨fun _ f hf => absurd hf List.not_mem_nil, fun howner => by cases howner⟩
  have hstep : ∀ s e, (∀ t, Sound takes s t) → Allowed takes interrupts s e = true →
      ∀ t, Sound takes ((machine code handler).step s e).1 t := by
    intro s e hs he
    exact sound_step code handler interrupts hcode hhandler hquiet hs e he
  have hall := (machine code handler).states_of_trace hstep hidle h
  intro s hs hbad
  obtain ⟨t, ht⟩ := hbad
  rw [(hall s hs t).not_badAt] at ht
  cases ht

/-- **A holder of the mutex that asks for it** comes to a breach. -/
lemma bad_of_asks {s : Threads σ κ ι} {t : ℕ} (howner : s.owner = some t) {c : κ ⊕ ι}
    {p : Prog σ Unit} {rest : List (Frame σ κ ι)} (hstack : s.stack t = ⟨c, p⟩ :: rest)
    (hasks : Asks p s.world) :
    ∃ n, ((machine code handler).run s (List.replicate n (.step t true))).1.Bad := by
  induction p generalizing s with
  | lock k _ =>
      refine ⟨0, t, ?_⟩
      show s.badAt t = true
      rw [Threads.badAt, howner, hstack, beq_self_eq_true]
      rfl
  | get k ih =>
      have hstep : s.threadStep t true = s.setStack t (⟨c, k s.world⟩ :: rest) := by
        rw [Threads.threadStep, hstack]
      have hnext : (s.threadStep t true).stack t = ⟨c, k s.world⟩ :: rest := by
        rw [hstep, s.stack_setStack_self]
      obtain ⟨n, hn⟩ := ih s.world (s := s.threadStep t true) (by rw [hstep]; exact howner) hnext
        (by rw [hstep]; exact hasks)
      exact ⟨n + 1, hn⟩
  | _ => exact hasks.elim

/-- The same for a thread that takes the mutex and asks for it again. -/
lemma bad_of_lock_asks {s : Threads σ κ ι} {t : ℕ} (howner : s.owner = none) {c : κ ⊕ ι}
    {k : Prog σ Unit} {rest : List (Frame σ κ ι)} (hstack : s.stack t = ⟨c, .lock k⟩ :: rest)
    (hasks : Asks k s.world) :
    ∃ n, ((machine code handler).run s (List.replicate n (.step t true))).1.Bad := by
  have hstep : s.threadStep t true =
      { s.setStack t (⟨c, k⟩ :: rest) with owner := some t } := by
    rw [Threads.threadStep, hstack]
    exact if_pos howner
  have hnext : (s.threadStep t true).stack t = ⟨c, k⟩ :: rest := by
    rw [hstep]
    exact s.stack_setStack_self t _
  obtain ⟨n, hn⟩ := bad_of_asks code handler (s := s.threadStep t true) (by rw [hstep]) hnext
    (by rw [hstep]; exact hasks)
  exact ⟨n + 1, hn⟩

end runs

end Signals
