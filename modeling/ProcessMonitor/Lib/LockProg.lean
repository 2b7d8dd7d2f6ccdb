import Mathlib.Logic.Relation
import Mathlib.Tactic

/-!
# Programs that share a state under one mutex

`Prog σ α` is the code of a thread as a tree of its visible steps: taking and releasing the
mutex, reading and changing the shared state `σ`, an outcome the environment decides, and waiting
for a condition. It is a monad, so that a C function is written in `do` notation line by line.
Several meanings are given to the same tree.

* **The mutex is not recursive** (`Cfg.Step`, `Cfg.Bad`, `Safe`). `Safe p h Q` is the weakest
  precondition of "never locks twice, never unlocks what it does not hold, and ends with `Q`";
  `safe_bind` is its rule for sequencing, and `safe_iff_neverBad` says that it is exactly the
  absence of a bad configuration in every run, the other threads changing `σ` at will.
* **Results on all paths** (`Ends`), for a mutex of either kind: the thread gets to its end, with
  `Q` there, if the others let it. `Yields` is what they do for that: a thread that yields gives
  the mutex back each time it has got it.
* **The mutex is recursive, threads interleave at locked sections** (`lockedSection`, `next`).
  A step of a thread is a whole section, or one step outside; `Between` describes a thread
  between two sections and `Between.next` is its step rule.
* **One thread alone** (`run`), tied to the interleaved meaning by `run_of_next`; in `runAwait` the
  thread gets past a wait only if the condition holds by then.
-/

/-- The code of a thread: a tree of its visible steps. -/
inductive Prog (σ α : Type) : Type
  /-- Return. -/
  | ret (a : α)
  /-- Take the mutex. -/
  | lock (k : Prog σ α)
  /-- Release the mutex. -/
  | unlock (k : Prog σ α)
  /-- Read the shared state. -/
  | get (k : σ → Prog σ α)
  /-- Change the shared state. -/
  | modify (f : σ → σ) (k : Prog σ α)
  /-- A call whose success the environment decides. -/
  | choose (k : Bool → Prog σ α)
  /-- Wait until a condition on the shared state holds. -/
  | await (r : σ → Bool) (k : Prog σ α)

namespace Prog

variable {σ α β : Type}

/-! ## Sequencing -/

/-- Run a program, then another that depends on its result. -/
protected def bind (p : Prog σ α) (f : α → Prog σ β) : Prog σ β :=
  match p with
  | .ret a => f a
  | .lock k => .lock (k.bind f)
  | .unlock k => .unlock (k.bind f)
  | .get k => .get fun w => (k w).bind f
  | .modify g k => .modify g (k.bind f)
  | .choose k => .choose fun b => (k b).bind f
  | .await r k => .await r (k.bind f)

instance : Monad (Prog σ) where
  pure := .ret
  bind := Prog.bind

@[simp] lemma pure_eq (a : α) : (pure a : Prog σ α) = .ret a := rfl
@[simp] lemma ret_bind (a : α) (f : α → Prog σ β) : (.ret a : Prog σ α) >>= f = f a := rfl
@[simp] lemma lock_bind (k : Prog σ α) (f : α → Prog σ β) :
    (.lock k : Prog σ α) >>= f = .lock (k >>= f) := rfl
@[simp] lemma unlock_bind (k : Prog σ α) (f : α → Prog σ β) :
    (.unlock k : Prog σ α) >>= f = .unlock (k >>= f) := rfl
@[simp] lemma get_bind (k : σ → Prog σ α) (f : α → Prog σ β) :
    (.get k : Prog σ α) >>= f = .get fun w => k w >>= f := rfl
@[simp] lemma modify_bind (g : σ → σ) (k : Prog σ α) (f : α → Prog σ β) :
    (.modify g k : Prog σ α) >>= f = .modify g (k >>= f) := rfl
@[simp] lemma choose_bind (k : Bool → Prog σ α) (f : α → Prog σ β) :
    (.choose k : Prog σ α) >>= f = .choose fun b => k b >>= f := rfl
@[simp] lemma await_bind (r : σ → Bool) (k : Prog σ α) (f : α → Prog σ β) :
    (.await r k : Prog σ α) >>= f = .await r (k >>= f) := rfl

/-- Take the mutex, as a statement. -/
def acquire : Prog σ Unit := .lock (.ret ())
/-- Release the mutex, as a statement. -/
def release : Prog σ Unit := .unlock (.ret ())
/-- The shared state, as an expression. -/
def read : Prog σ σ := .get .ret
/-- Change the shared state, as a statement. -/
def update (f : σ → σ) : Prog σ Unit := .modify f (.ret ())
/-- Whether a call succeeds. -/
def outcome : Prog σ Bool := .choose .ret
/-- Wait for a condition, as a statement. -/
def wait (r : σ → Bool) : Prog σ Unit := .await r (.ret ())

@[simp] lemma acquire_bind (f : Unit → Prog σ β) : acquire >>= f = .lock (f ()) := rfl
@[simp] lemma release_bind (f : Unit → Prog σ β) : release >>= f = .unlock (f ()) := rfl
@[simp] lemma read_bind (f : σ → Prog σ β) : read >>= f = .get f := rfl
@[simp] lemma update_bind (g : σ → σ) (f : Unit → Prog σ β) :
    update g >>= f = .modify g (f ()) := rfl
@[simp] lemma outcome_bind (f : Bool → Prog σ β) : outcome >>= f = .choose f := rfl
@[simp] lemma wait_bind (r : σ → Bool) (f : Unit → Prog σ β) :
    wait r >>= f = .await r (f ()) := rfl

/-! ## A mutex that is not recursive -/

/-- A thread that runs under a mutex: the shared state, the code left, and whether the thread
holds the mutex. -/
structure Cfg (σ α : Type) where
  world : σ
  prog : Prog σ α
  held : Bool

/-- A step of the thread, or of the others, which may change the shared state at will. A thread
that asks for a mutex it holds has no step: it waits for itself. -/
inductive Cfg.Step : Cfg σ α → Cfg σ α → Prop
  | env (w w' : σ) (p : Prog σ α) (h : Bool) : Step ⟨w, p, h⟩ ⟨w', p, h⟩
  | lock (w : σ) (k : Prog σ α) : Step ⟨w, .lock k, false⟩ ⟨w, k, true⟩
  | unlock (w : σ) (k : Prog σ α) : Step ⟨w, .unlock k, true⟩ ⟨w, k, false⟩
  | get (w : σ) (k : σ → Prog σ α) (h : Bool) : Step ⟨w, .get k, h⟩ ⟨w, k w, h⟩
  | modify (w : σ) (f : σ → σ) (k : Prog σ α) (h : Bool) :
      Step ⟨w, .modify f k, h⟩ ⟨f w, k, h⟩
  | choose (w : σ) (k : Bool → Prog σ α) (b h : Bool) : Step ⟨w, .choose k, h⟩ ⟨w, k b, h⟩
  | await (w : σ) (r : σ → Bool) (k : Prog σ α) (h : Bool) (hr : r w = true) :
      Step ⟨w, .await r k, h⟩ ⟨w, k, h⟩

/-- Any number of steps. -/
def Cfg.Reaches : Cfg σ α → Cfg σ α → Prop := Relation.ReflTransGen Cfg.Step

/-- A breach of the lock discipline: the thread is about to take a mutex it holds, to release
one it does not hold, or to return with the mutex held. -/
def Cfg.Bad (c : Cfg σ α) : Prop :=
  match c.prog, c.held with
  | .lock _, true => True
  | .unlock _, false => True
  | .ret _, true => True
  | _, _ => False

/-- The weakest precondition of a disciplined run that ends with `Q`: `h` says whether the mutex
is held, and `Q` reads the result and whether the mutex is held at the end. -/
def Safe : Prog σ α → Bool → (α → Bool → Prop) → Prop
  | .ret a, h, Q => Q a h
  | .lock k, h, Q => h = false ∧ Safe k true Q
  | .unlock k, h, Q => h = true ∧ Safe k false Q
  | .get k, h, Q => ∀ w, Safe (k w) h Q
  | .modify _ k, h, Q => Safe k h Q
  | .choose k, h, Q => ∀ b, Safe (k b) h Q
  | .await r k, h, Q => (∃ w, r w = true) → Safe k h Q

/-- The rule of sequencing. -/
lemma safe_bind (p : Prog σ α) (f : α → Prog σ β) (h : Bool) (Q : β → Bool → Prop) :
    Safe (p >>= f) h Q ↔ Safe p h fun a h' => Safe (f a) h' Q := by
  induction p generalizing h with
  | ret a => rfl
  | lock k ih => exact and_congr_right fun _ => ih true
  | unlock k ih => exact and_congr_right fun _ => ih false
  | get k ih => exact forall_congr' fun w => ih w h
  | modify g k ih => exact ih h
  | choose k ih => exact forall_congr' fun b => ih b h
  | await r k ih => exact imp_congr_right fun _ => ih h

/-- The rule of consequence. -/
lemma Safe.mono {p : Prog σ α} {h : Bool} {Q Q' : α → Bool → Prop} (hp : Safe p h Q)
    (hQ : ∀ a h', Q a h' → Q' a h') : Safe p h Q' := by
  induction p generalizing h with
  | ret a => exact hQ a h hp
  | lock k ih => exact ⟨hp.1, ih hp.2⟩
  | unlock k ih => exact ⟨hp.1, ih hp.2⟩
  | get k ih => exact fun w => ih w (hp w)
  | modify g k ih => exact ih hp
  | choose k ih => exact fun b => ih b (hp b)
  | await r k ih => exact fun hr => ih (hp hr)

/-- The mutex is free at the end. -/
def Released (_ : α) (h : Bool) : Prop := h = false

/-- A safe configuration steps to safe configurations. -/
lemma Safe.step {c c' : Cfg σ α} (hs : Safe c.prog c.held Released) (hst : Cfg.Step c c') :
    Safe c'.prog c'.held Released := by
  cases hst with
  | env w w' p h => exact hs
  | lock w k => exact hs.2
  | unlock w k => exact hs.2
  | get w k h => exact hs w
  | modify w f k h => exact hs
  | choose w k b h => exact hs b
  | await w r k h hr => exact hs ⟨w, hr⟩

/-- A safe configuration is not bad. -/
lemma Safe.not_bad {c : Cfg σ α} (hs : Safe c.prog c.held Released) : ¬ c.Bad := by
  obtain ⟨w, p, h⟩ := c
  cases p <;> cases h <;> simp_all [Safe, Cfg.Bad, Released]

/-- No run of the thread among others breaches the lock discipline. -/
def NeverBad (w : σ) (p : Prog σ α) (h : Bool) : Prop :=
  ∀ c, Cfg.Reaches ⟨w, p, h⟩ c → ¬ c.Bad

/-- A thread that never breaches the discipline does not breach it now. -/
lemma NeverBad.here {w : σ} {p : Prog σ α} {h : Bool} (hno : NeverBad w p h) :
    ¬ Cfg.Bad ⟨w, p, h⟩ := hno _ .refl

/-- Nor does it after one step, taken from a state the others have changed to `w'`. -/
lemma NeverBad.after {w w' w'' : σ} {p p' : Prog σ α} {h h' : Bool} (hno : NeverBad w p h)
    (hst : Cfg.Step ⟨w', p, h⟩ ⟨w'', p', h'⟩) : NeverBad w'' p' h' := by
  intro c hc
  have henv : Cfg.Reaches ⟨w, p, h⟩ ⟨w', p, h⟩ := .single (.env w w' p h)
  exact hno c ((henv.tail hst).trans hc)

/-- A safe thread never breaches the discipline. -/
lemma Safe.neverBad {p : Prog σ α} {h : Bool} (hs : Safe p h Released) (w : σ) :
    NeverBad w p h := by
  intro c hc
  have hsafe : Safe c.prog c.held Released := by
    induction hc with
    | refl => exact hs
    | tail _ hst ih => exact ih.step hst
  exact hsafe.not_bad

/-- A thread that never breaches the discipline is safe. -/
lemma NeverBad.safe {w : σ} {p : Prog σ α} {h : Bool} (hno : NeverBad w p h) :
    Safe p h Released := by
  induction p generalizing w h with
  | ret a =>
      cases h with
      | false => rfl
      | true => exact absurd trivial hno.here
  | lock k ih =>
      cases h with
      | false => exact ⟨rfl, ih (hno.after (.lock w k))⟩
      | true => exact absurd trivial hno.here
  | unlock k ih =>
      cases h with
      | false => exact absurd trivial hno.here
      | true => exact ⟨rfl, ih (hno.after (.unlock w k))⟩
  | get k ih => exact fun w₁ => ih w₁ (hno.after (.get w₁ k h))
  | modify f k ih => exact ih (hno.after (.modify w f k h))
  | choose k ih => exact fun b => ih b (hno.after (.choose w k b h))
  | await r k ih => exact fun ⟨w₁, hr⟩ => ih (hno.after (.await w₁ r k h hr))

/-- **Safety is the absence of bad configurations**, from any shared state and with the other
threads changing it at will. -/
theorem safe_iff_neverBad (w : σ) (p : Prog σ α) (h : Bool) :
    Safe p h Released ↔ NeverBad w p h :=
  ⟨fun hs => hs.neverBad w, fun hno => hno.safe⟩

/-! ## Getting to the end -/

/-- The weakest precondition of a run that gets to its end and has `Q` there, whatever state the
others leave at each read and whatever the environment decides. `d` says how often the mutex is
held: a thread that takes it again stops there, unless the mutex is recursive. `granted` says
whether the thread gets what it waits for, the mutex or a condition, and it waits for a condition
in vain if it holds the mutex, which the others may need to bring the condition about. -/
def Ends (recursive : Bool) (granted : Prop) : Prog σ α → ℕ → (α → ℕ → Prop) → Prop
  | .ret a, d, Q => Q a d
  | .lock k, d, Q =>
      (d = 0 ∧ granted ∨ 0 < d ∧ recursive = true) ∧ Ends recursive granted k (d + 1) Q
  | .unlock k, d, Q => 0 < d ∧ Ends recursive granted k (d - 1) Q
  | .get k, d, Q => ∀ w, Ends recursive granted (k w) d Q
  | .modify _ k, d, Q => Ends recursive granted k d Q
  | .choose k, d, Q => ∀ b, Ends recursive granted (k b) d Q
  | .await _ k, d, Q => (d = 0 ∧ granted) ∧ Ends recursive granted k d Q

/-- The thread gives the mutex back each time it has got it: granted the mutex whenever it asks for
it, the thread gets to its end, with the mutex released. A thread that does not yield may keep the
mutex for good. -/
def Yields (recursive : Bool) (p : Prog σ α) : Prop := Ends recursive True p 0 fun _ d => d = 0

section ends

variable {recursive : Bool} {granted : Prop}

/-- The rule of sequencing. -/
lemma ends_bind (p : Prog σ α) (f : α → Prog σ β) (d : ℕ) (Q : β → ℕ → Prop) :
    Ends recursive granted (p >>= f) d Q ↔
      Ends recursive granted p d fun a d' => Ends recursive granted (f a) d' Q := by
  induction p generalizing d with
  | ret a => rfl
  | lock k ih => exact and_congr_right fun _ => ih (d + 1)
  | unlock k ih => exact and_congr_right fun _ => ih (d - 1)
  | get k ih => exact forall_congr' fun w => ih w d
  | modify g k ih => exact ih d
  | choose k ih => exact forall_congr' fun b => ih b d
  | await r k ih => exact and_congr_right fun _ => ih d

/-- The rule of consequence, for two postconditions that hold together. -/
lemma Ends.mono₂ {p : Prog σ α} {d : ℕ} {Q Q' R : α → ℕ → Prop}
    (hp : Ends recursive granted p d Q) (hp' : Ends recursive granted p d Q')
    (hR : ∀ a d', Q a d' → Q' a d' → R a d') : Ends recursive granted p d R := by
  induction p generalizing d with
  | ret a => exact hR a d hp hp'
  | lock k ih => exact ⟨hp.1, ih hp.2 hp'.2⟩
  | unlock k ih => exact ⟨hp.1, ih hp.2 hp'.2⟩
  | get k ih => exact fun w => ih w (hp w) (hp' w)
  | modify g k ih => exact ih hp hp'
  | choose k ih => exact fun b => ih b (hp b) (hp' b)
  | await r k ih => exact ⟨hp.1, ih hp.2 hp'.2⟩

/-- The rule of consequence. -/
lemma Ends.mono {p : Prog σ α} {d : ℕ} {Q R : α → ℕ → Prop} (hp : Ends recursive granted p d Q)
    (hR : ∀ a d', Q a d' → R a d') : Ends recursive granted p d R :=
  hp.mono₂ hp fun a d' h _ => hR a d' h

/-- There is a run: nothing false holds at the end. -/
lemma not_ends_false [Nonempty σ] (p : Prog σ α) (d : ℕ) :
    ¬ Ends recursive granted p d fun _ _ => False := by
  induction p generalizing d with
  | ret a => exact id
  | lock k ih => exact fun h => ih (d + 1) h.2
  | unlock k ih => exact fun h => ih (d - 1) h.2
  | get k ih => exact fun h => ih (Classical.arbitrary σ) d (h _)
  | modify g k ih => exact ih d
  | choose k ih => exact fun h => ih true d (h true)
  | await r k ih => exact fun h => ih d h.2

end ends

/-! ## A recursive mutex, threads interleaved at locked sections -/

/-- Run on, from inside a locked section at depth `d`, to the release that ends it; `ok` is the
outcome of the calls the environment decides. `none` when the section does not end, because the
thread returns or waits with the mutex held. -/
def lockedSection (ok : Bool) : ℕ → Prog σ α → σ → Option (σ × Prog σ α)
  | _, .ret _, _ => none
  | d, .lock k, w => lockedSection ok (d + 1) k w
  | d, .unlock k, w => if d ≤ 1 then some (w, k) else lockedSection ok (d - 1) k w
  | d, .get k, w => lockedSection ok d (k w) w
  | d, .modify f k, w => lockedSection ok d k (f w)
  | d, .choose k, w => lockedSection ok d (k ok) w
  | _, .await _ _, _ => none

/-- The next step of a thread: a whole locked section, or one step outside. -/
def next (ok : Bool) : Prog σ α → σ → Option (σ × Prog σ α)
  | .ret _, _ => none
  | .lock k, w => lockedSection ok 1 k w
  | .unlock k, w => some (w, k)
  | .get k, w => some (w, k w)
  | .modify f k, w => some (f w, k)
  | .choose k, w => some (w, k ok)
  | .await r k, w => if r w then some (w, k) else none

/-- A thread that is not inside a locked section: its steps outside change the state only along
`keep`, and the sections it can enter begin with the code `S`. -/
inductive Between (keep : σ → σ → Prop) (S : Prog σ α → Prop) : Prog σ α → Prop
  | ret (a : α) : Between keep S (.ret a)
  | enter {k : Prog σ α} (h : S (.lock k)) : Between keep S (.lock k)
  | get {k : σ → Prog σ α} (h : ∀ w, Between keep S (k w)) : Between keep S (.get k)
  | modify {f : σ → σ} {k : Prog σ α} (hf : ∀ w, keep w (f w)) (h : Between keep S k) :
      Between keep S (.modify f k)
  | choose {k : Bool → Prog σ α} (h : ∀ b, Between keep S (k b)) : Between keep S (.choose k)
  | await {r : σ → Bool} {k : Prog σ α} (h : Between keep S k) : Between keep S (.await r k)

/-- The rule of consequence for the sections. -/
lemma Between.mono {keep : σ → σ → Prop} {S S' : Prog σ α → Prop} (hS : ∀ p, S p → S' p)
    {p : Prog σ α} (h : Between keep S p) : Between keep S' p := by
  induction h with
  | ret a => exact .ret a
  | enter hk => exact .enter (hS _ hk)
  | get _ ih => exact .get ih
  | modify hf _ ih => exact .modify hf ih
  | choose _ ih => exact .choose ih
  | await _ ih => exact .await ih

/-- **The step rule**: a thread between two sections runs a section of `S`, or takes a step along
`keep` and is still between two sections. -/
lemma Between.next {keep : σ → σ → Prop} {S : Prog σ α → Prop} (hrefl : ∀ w, keep w w)
    {p p' : Prog σ α} {w w' : σ} {ok : Bool} (hp : Between keep S p)
    (h : p.next ok w = some (w', p')) :
    S p ∨ keep w w' ∧ Between keep S p' := by
  cases hp with
  | ret a => simp [Prog.next] at h
  | enter hS => exact Or.inl hS
  | get hk =>
      simp only [Prog.next, Option.some.injEq, Prod.mk.injEq] at h
      obtain ⟨rfl, rfl⟩ := h
      exact Or.inr ⟨hrefl w, hk w⟩
  | modify hf hk =>
      simp only [Prog.next, Option.some.injEq, Prod.mk.injEq] at h
      obtain ⟨rfl, rfl⟩ := h
      exact Or.inr ⟨hf w, hk⟩
  | choose hk =>
      simp only [Prog.next, Option.some.injEq, Prod.mk.injEq] at h
      obtain ⟨rfl, rfl⟩ := h
      exact Or.inr ⟨hrefl w, hk ok⟩
  | await hk =>
      simp only [Prog.next] at h
      split at h
      · simp only [Option.some.injEq, Prod.mk.injEq] at h
        obtain ⟨rfl, rfl⟩ := h
        exact Or.inr ⟨hrefl w, hk⟩
      · exact absurd h (by simp)

/-! ## One thread alone -/

/-- The whole run of one thread that nobody else competes with: the mutex is always free for it
and what it waits for happens; `pause` is what happens besides while it waits. -/
def run (ok : Bool) (pause : σ → σ) : Prog σ α → σ → σ × α
  | .ret a, w => (w, a)
  | .lock k, w => run ok pause k w
  | .unlock k, w => run ok pause k w
  | .get k, w => run ok pause (k w) w
  | .modify f k, w => run ok pause k (f w)
  | .choose k, w => run ok pause (k ok) w
  | .await _ k, w => run ok pause k (pause w)

/-- The run of a sequence. -/
lemma run_bind (ok : Bool) (pause : σ → σ) (p : Prog σ α) (f : α → Prog σ β) (w : σ) :
    (p >>= f).run ok pause w = (f (p.run ok pause w).2).run ok pause (p.run ok pause w).1 := by
  induction p generalizing w with
  | ret a => rfl
  | lock k ih => exact ih w
  | unlock k ih => exact ih w
  | get k ih => exact ih w w
  | modify g k ih => exact ih (g w)
  | choose k ih => exact ih ok w
  | await r k ih => exact ih (pause w)

/-- The run goes through the locked section. -/
lemma run_lockedSection {ok : Bool} {pause : σ → σ} {p p' : Prog σ α} {w w' : σ} {d : ℕ}
    (h : lockedSection ok d p w = some (w', p')) : p.run ok pause w = p'.run ok pause w' := by
  induction p generalizing d w with
  | ret a => simp [lockedSection] at h
  | lock k ih => exact ih h
  | unlock k ih =>
      simp only [lockedSection] at h
      split at h
      · simp only [Option.some.injEq, Prod.mk.injEq] at h
        obtain ⟨rfl, rfl⟩ := h
        rfl
      · exact ih h
  | get k ih => exact ih w h
  | modify f k ih => exact ih h
  | choose k ih => exact ih ok h
  | await r k ih => simp [lockedSection] at h

/-- **The run alone goes through the sections of the interleaved reading.** -/
lemma run_of_next {ok : Bool} {pause : σ → σ} {k p' : Prog σ α} {w w' : σ}
    (h : (Prog.lock k).next ok w = some (w', p')) :
    (Prog.lock k).run ok pause w = p'.run ok pause w' := run_lockedSection h

/-- The same where a wait has to be long enough: `none` when the condition waited for does not hold
after the pause. -/
def runAwait (ok : Bool) (pause : σ → σ) : Prog σ α → σ → Option (σ × α)
  | .ret a, w => some (w, a)
  | .lock k, w => runAwait ok pause k w
  | .unlock k, w => runAwait ok pause k w
  | .get k, w => runAwait ok pause (k w) w
  | .modify f k, w => runAwait ok pause k (f w)
  | .choose k, w => runAwait ok pause (k ok) w
  | .await r k, w => if r (pause w) then runAwait ok pause k (pause w) else none

/-- The run goes through the locked section. -/
lemma runAwait_lockedSection {ok : Bool} {pause : σ → σ} {p p' : Prog σ α} {w w' : σ} {d : ℕ}
    (h : lockedSection ok d p w = some (w', p')) :
    p.runAwait ok pause w = p'.runAwait ok pause w' := by
  induction p generalizing d w with
  | ret a => simp [lockedSection] at h
  | lock k ih => exact ih h
  | unlock k ih =>
      simp only [lockedSection] at h
      split at h
      · simp only [Option.some.injEq, Prod.mk.injEq] at h
        obtain ⟨rfl, rfl⟩ := h
        rfl
      · exact ih h
  | get k ih => exact ih w h
  | modify f k ih => exact ih h
  | choose k ih => exact ih ok h
  | await r k ih => simp [lockedSection] at h

/-- The same for a thread that is about to enter a section. -/
lemma runAwait_of_next {ok : Bool} {pause : σ → σ} {k p' : Prog σ α} {w w' : σ}
    (h : (Prog.lock k).next ok w = some (w', p')) :
    (Prog.lock k).runAwait ok pause w = p'.runAwait ok pause w' := runAwait_lockedSection h

end Prog
