import ProcessMonitor.Lib.LockProg
import ProcessMonitor.Lib.Machine

/-!
# A pool of threads

Any number of threads (one for each `ℕ`), each running the code of an operation of its choice,
interleaved at locked sections with each other and with the steps `env` of an environment that
runs no code of the pool. A schedule is a list of labels (`Sched`); a label that is not enabled
changes nothing, so every list is a schedule.

`step_between` keeps every thread between two sections, and `step_cases` says what one step can
do to the shared state; what holds over all schedules is then a matter of the sections of `S`.

`Pool.Called` remembers besides which operation each thread has called last, for what is said about
the steps of one operation; its sections `S op` are then those of that operation.
-/

/-- The shared state and what each thread has left to do; `ret` is a thread that is free. -/
structure Pool (σ α : Type) where
  world : σ
  prog : ℕ → Prog σ α

/-- What the scheduler chooses. -/
inductive Sched (ι ε : Type)
  /-- Thread `t`, if it is free, begins an operation. -/
  | call (t : ℕ) (op : ι)
  /-- Thread `t` takes its next step, calls that may fail succeeding when `ok`. -/
  | go (t : ℕ) (ok : Bool)
  /-- A step of the environment. -/
  | env (e : ε)

namespace Pool

variable {σ α ι ε : Type}

/-- Thread `t` continues with `p`. -/
def setProg (s : Pool σ α) (t : ℕ) (p : Prog σ α) : Pool σ α :=
  { s with prog := Function.update s.prog t p }

/-- One scheduled step. -/
def step (code : ι → Prog σ α) (env : ε → σ → σ) (s : Pool σ α) : Sched ι ε → Pool σ α
  | .call t op =>
      match s.prog t with
      | .ret _ => s.setProg t (code op)
      | _ => s
  | .go t ok =>
      match (s.prog t).next ok s.world with
      | some (w, p) => ({ s with world := w } : Pool σ α).setProg t p
      | none => s
  | .env e => { s with world := env e s.world }

/-- The pool as a machine without outputs. -/
def machine (code : ι → Prog σ α) (env : ε → σ → σ) : Machine (Pool σ α) (Sched ι ε) Unit :=
  ⟨fun s l => (s.step code env l, ())⟩

/-- All threads are between two sections. -/
def AllBetween (keep : σ → σ → Prop) (S : Prog σ α → Prop) (s : Pool σ α) : Prop :=
  ∀ t, Prog.Between keep S (s.prog t)

/-- Replacing one thread's code by code between two sections keeps them all there. -/
lemma AllBetween.setProg {keep : σ → σ → Prop} {S : Prog σ α → Prop} {s : Pool σ α}
    (h : AllBetween keep S s) (t : ℕ) {p : Prog σ α} (hp : Prog.Between keep S p) :
    AllBetween keep S (s.setProg t p) := by
  intro u
  by_cases hu : u = t
  · subst hu
    simpa [Pool.setProg] using hp
  · simpa [Pool.setProg, Function.update_of_ne hu] using h u

section rules

variable {keep : σ → σ → Prop} {S : Prog σ α → Prop} (hrefl : ∀ w, keep w w)
  (code : ι → Prog σ α) (env : ε → σ → σ)
include hrefl

/-- **Threads stay between sections**: if the operations begin between two sections and every
section of `S` that starts from a state with `J` ends between two sections. -/
lemma step_between {J : σ → Prop} (hcode : ∀ op, Prog.Between keep S (code op))
    (hsec : ∀ p ok w w' p', J w → S p → p.next ok w = some (w', p') → Prog.Between keep S p')
    {s : Pool σ α} (hJ : J s.world) (hs : AllBetween keep S s) (l : Sched ι ε) :
    AllBetween keep S (s.step code env l) := by
  cases l with
  | call t op =>
      simp only [step]
      split
      · exact hs.setProg t (hcode op)
      · exact hs
  | go t ok =>
      simp only [step]
      split
      · rename_i w p hnext
        have hp : Prog.Between keep S p := by
          rcases (hs t).next hrefl hnext with hS | ⟨-, hb⟩
          · exact hsec _ _ _ _ _ hJ hS hnext
          · exact hb
        exact AllBetween.setProg (s := { s with world := w }) hs t hp
      · exact hs
  | env e => exact hs

/-- **What one step can do**: the environment's step, a step along `keep`, or a section of `S`. -/
lemma step_cases {s : Pool σ α} (hs : AllBetween keep S s) (l : Sched ι ε) :
    (∃ e, l = .env e ∧ (s.step code env l).world = env e s.world) ∨
    keep s.world (s.step code env l).world ∨
    ∃ t ok w' p', l = .go t ok ∧ S (s.prog t) ∧ (s.prog t).next ok s.world = some (w', p') ∧
      (s.step code env l).world = w' := by
  cases l with
  | call t op =>
      refine Or.inr (Or.inl ?_)
      simp only [step]
      split <;> exact hrefl _
  | go t ok =>
      right
      simp only [step]
      split
      · rename_i w p hnext
        rcases (hs t).next hrefl hnext with hS | ⟨hk, -⟩
        · exact Or.inr ⟨t, ok, w, p, rfl, hS, hnext, rfl⟩
        · exact Or.inl hk
      · exact Or.inl (hrefl _)
  | env e => exact Or.inl ⟨e, rfl, rfl⟩

end rules

/-- A step of a thread that can take one. -/
lemma world_step_go (code : ι → Prog σ α) (env : ε → σ → σ) {s : Pool σ α} {t : ℕ} {ok : Bool}
    {w : σ} {p : Prog σ α} (h : (s.prog t).next ok s.world = some (w, p)) :
    (s.step code env (.go t ok)).world = w := by
  simp [step, h, setProg]

/-! ## The operation behind a step -/

/-- A pool with the operation that each thread has called last. -/
structure Called (σ α ι : Type) where
  pool : Pool σ α
  op : ℕ → Option ι

namespace Called

/-- One scheduled step. -/
def step (code : ι → Prog σ α) (env : ε → σ → σ) (s : Called σ α ι) (l : Sched ι ε) :
    Called σ α ι where
  pool := s.pool.step code env l
  op :=
    match l with
    | .call t op =>
        match s.pool.prog t with
        | .ret _ => Function.update s.op t (some op)
        | _ => s.op
    | _ => s.op

/-- The pool with its history as a machine without outputs. -/
def machine (code : ι → Prog σ α) (env : ε → σ → σ) : Machine (Called σ α ι) (Sched ι ε) Unit :=
  ⟨fun s l => (s.step code env l, ())⟩

/-- Every thread that has called an operation is between two sections of it; the others are
free. -/
def AllBetween (keep : σ → σ → Prop) (S : ι → Prog σ α → Prop) (s : Called σ α ι) : Prop :=
  ∀ t, match s.op t with
    | some op => Prog.Between keep (S op) (s.pool.prog t)
    | none => ∃ a, s.pool.prog t = .ret a

/-- Replacing the code and the operation of one thread. -/
lemma AllBetween.setProg {keep : σ → σ → Prop} {S : ι → Prog σ α → Prop} {s : Called σ α ι}
    (h : s.AllBetween keep S) {t : ℕ} {p : Prog σ α} {op : ι} {ops : ℕ → Option ι}
    (hop : ops t = some op) (hops : ∀ u, u ≠ t → ops u = s.op u)
    (hp : Prog.Between keep (S op) p) (w : σ) :
    AllBetween keep S ⟨({ s.pool with world := w } : Pool σ α).setProg t p, ops⟩ := by
  intro u
  by_cases hu : u = t
  · subst hu
    simpa [Pool.setProg, hop] using hp
  · simpa [Pool.setProg, Function.update_of_ne hu, hops u hu] using h u

section rules

variable {keep : σ → σ → Prop} {S : ι → Prog σ α → Prop} (hrefl : ∀ w, keep w w)
  (code : ι → Prog σ α) (env : ε → σ → σ)
include hrefl

/-- **Threads stay between the sections of their operation.** -/
lemma step_between {J : σ → Prop} (hcode : ∀ op, Prog.Between keep (S op) (code op))
    (hsec : ∀ op p ok w w' p', J w → S op p → p.next ok w = some (w', p') →
      Prog.Between keep (S op) p')
    {s : Called σ α ι} (hJ : J s.pool.world) (hs : s.AllBetween keep S) (l : Sched ι ε) :
    (s.step code env l).AllBetween keep S := by
  cases l with
  | call t op =>
      simp only [step, Pool.step]
      split
      · exact hs.setProg (Function.update_self ..) (fun u hu => Function.update_of_ne hu _ _)
          (hcode op) s.pool.world
      · exact hs
  | go t ok =>
      simp only [step, Pool.step]
      split
      · rename_i w p hnext
        have ht := hs t
        split at ht
        · rename_i op hop
          refine hs.setProg hop (fun _ _ => rfl) ?_ w
          rcases ht.next hrefl hnext with hS | ⟨-, hb⟩
          · exact hsec _ _ _ _ _ _ hJ hS hnext
          · exact hb
        · obtain ⟨a, ha⟩ := ht
          rw [ha] at hnext
          simp [Prog.next] at hnext
      · exact hs
  | env e => exact hs

/-- **What a step of a thread can do**: nothing, a step along `keep`, or a section of the operation
it has called. -/
lemma go_cases {s : Called σ α ι} (hs : s.AllBetween keep S) (t : ℕ) (ok : Bool) :
    keep s.pool.world (s.step code env (.go t ok)).pool.world ∨
    ∃ op w' p', s.op t = some op ∧ S op (s.pool.prog t) ∧
      (s.pool.prog t).next ok s.pool.world = some (w', p') ∧
      (s.step code env (.go t ok)).pool.world = w' := by
  simp only [step, Pool.step]
  split
  · rename_i w p hnext
    have ht := hs t
    split at ht
    · rename_i op hop
      rcases ht.next hrefl hnext with hS | ⟨hk, -⟩
      · exact Or.inr ⟨op, w, p, hop, hS, hnext, rfl⟩
      · exact Or.inl hk
    · obtain ⟨a, ha⟩ := ht
      rw [ha] at hnext
      simp [Prog.next] at hnext
  · exact Or.inl (hrefl _)

end rules

end Called

end Pool
