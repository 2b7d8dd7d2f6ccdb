import ProcessMonitor.Lib.Pool

/-!
# Invariants that every change keeps

Some properties of the shared state are kept by each single change that a program makes, so that it
does not matter how the threads interleave nor who holds the mutex. `Prog.Preserves` is the weakest
precondition of code of which every change keeps `I` and whose results have `Q`, and
`Prog.Preserves.bind` is its rule for sequencing.

`Pool.Called.preserves_states`: if the operations of a pool are such, and the environment keeps `I`,
then every state of the run has `I`, and what an operation has returned has its `Q`.
-/

namespace Prog

variable {σ α β : Type}

/-- Every change in the code keeps `I`, and its result has `Q`. -/
def Preserves (I : σ → Prop) (Q : α → Prop) : Prog σ α → Prop
  | .ret a => Q a
  | .lock k => Preserves I Q k
  | .unlock k => Preserves I Q k
  | .get k => ∀ w, I w → Preserves I Q (k w)
  | .modify f k => (∀ w, I w → I (f w)) ∧ Preserves I Q k
  | .choose k => ∀ b, Preserves I Q (k b)
  | .await _ k => Preserves I Q k

/-- What code that has ended has returned. -/
def result : Prog σ α → Option α
  | .ret a => some a
  | _ => none

lemma eq_ret_of_result {p : Prog σ α} {a : α} (h : p.result = some a) : p = .ret a := by
  cases p with
  | ret b => exact congrArg Prog.ret (Option.some.inj h)
  | _ => cases h

namespace Preserves

variable {I : σ → Prop} {Q : α → Prop}

/-- The rule of sequencing. -/
lemma bind {p : Prog σ α} {f : α → Prog σ β} {R : β → Prop}
    (hp : Preserves I (fun a => Preserves I R (f a)) p) : Preserves I R (p >>= f) := by
  induction p with
  | ret a => exact hp
  | lock k ih => exact ih hp
  | unlock k ih => exact ih hp
  | get k ih => exact fun w hw => ih w (hp w hw)
  | modify g k ih => exact ⟨hp.1, ih hp.2⟩
  | choose k ih => exact fun b => ih b (hp b)
  | await r k ih => exact ih hp

/-- The rule of consequence. -/
lemma mono {p : Prog σ α} {R : α → Prop} (hp : Preserves I Q p) (hR : ∀ a, Q a → R a) :
    Preserves I R p := by
  induction p with
  | ret a => exact hR a hp
  | lock k ih => exact ih hp
  | unlock k ih => exact ih hp
  | get k ih => exact fun w hw => ih w (hp w hw)
  | modify g k ih => exact ⟨hp.1, ih hp.2⟩
  | choose k ih => exact fun b => ih b (hp b)
  | await r k ih => exact ih hp

/-- A locked section is such code, run to its end. -/
lemma lockedSection {ok : Bool} {d : ℕ} {p p' : Prog σ α} {w w' : σ} (hp : Preserves I Q p)
    (hw : I w) (h : lockedSection ok d p w = some (w', p')) : I w' ∧ Preserves I Q p' := by
  induction p generalizing d w with
  | ret a => cases h
  | lock k ih => exact ih hp hw h
  | unlock k ih =>
      unfold Prog.lockedSection at h
      split_ifs at h
      · obtain ⟨rfl, rfl⟩ := Prod.mk.inj (Option.some.inj h)
        exact ⟨hw, hp⟩
      · exact ih hp hw h
  | get k ih => exact ih w (hp w hw) hw h
  | modify f k ih => exact ih hp.2 (hp.1 w hw) h
  | choose k ih => exact ih ok (hp ok) hw h
  | await r k ih => cases h

/-- **A step of a thread** keeps the invariant, and what is left of the code is such code. -/
lemma next {ok : Bool} {p p' : Prog σ α} {w w' : σ} (hp : Preserves I Q p) (hw : I w)
    (h : p.next ok w = some (w', p')) : I w' ∧ Preserves I Q p' := by
  cases p with
  | ret a => cases h
  | lock k => exact lockedSection hp hw h
  | unlock k =>
      obtain ⟨rfl, rfl⟩ := Prod.mk.inj (Option.some.inj h)
      exact ⟨hw, hp⟩
  | get k =>
      obtain ⟨rfl, rfl⟩ := Prod.mk.inj (Option.some.inj h)
      exact ⟨hw, hp w hw⟩
  | modify f k =>
      obtain ⟨rfl, rfl⟩ := Prod.mk.inj (Option.some.inj h)
      exact ⟨hp.1 w hw, hp.2⟩
  | choose k =>
      obtain ⟨rfl, rfl⟩ := Prod.mk.inj (Option.some.inj h)
      exact ⟨hw, hp ok⟩
  | await r k =>
      simp only [Prog.next] at h
      split_ifs at h
      obtain ⟨rfl, rfl⟩ := Prod.mk.inj (Option.some.inj h)
      exact ⟨hw, hp⟩

end Preserves

end Prog

namespace Pool.Called

open Prog

variable {σ α ι ε : Type} (I : σ → Prop) (Q : ι → α → Prop)

/-- The invariant holds, and what each thread has left to do preserves it. -/
structure AllPreserve (s : Called σ α ι) : Prop where
  state : I s.pool.world
  prog : ∀ {t op}, s.op t = some op → Preserves I (Q op) (s.pool.prog t)
  free : ∀ {t}, s.op t = none → ∃ a, s.pool.prog t = .ret a

variable {I Q} {code : ι → Prog σ α} {env : ε → σ → σ}

/-- What an operation has returned. -/
lemma AllPreserve.result {s : Called σ α ι} (h : s.AllPreserve I Q) {t : ℕ} {op : ι} {a : α}
    (hop : s.op t = some op) (hret : s.pool.prog t = .ret a) : Q op a := by
  have hprog := h.prog hop
  rwa [hret] at hprog

/-- **A step** of the pool keeps it. -/
lemma AllPreserve.step (hcode : ∀ op, Preserves I (Q op) (code op))
    {s : Called σ α ι} (h : s.AllPreserve I Q) {l : Sched ι ε}
    (henv : ∀ e, l = .env e → I (env e s.pool.world)) : (s.step code env l).AllPreserve I Q := by
  cases l with
  | call t op =>
      simp only [Called.step, Pool.step]
      cases hprog : s.pool.prog t with
      | ret a =>
          refine ⟨h.state, fun {u op'} hop => ?_, fun {u} hop => ?_⟩ <;> by_cases hu : u = t
          · subst hu
            obtain rfl : op = op' := by simpa using hop
            simpa [Pool.setProg] using hcode op
          · simp only [Function.update_of_ne hu] at hop
            simpa [Pool.setProg, Function.update_of_ne hu] using h.prog hop
          · subst hu
            simp at hop
          · simp only [Function.update_of_ne hu] at hop
            simpa [Pool.setProg, Function.update_of_ne hu] using h.free hop
      | _ => exact h
  | go t ok =>
      simp only [Called.step, Pool.step]
      split
      · rename_i w p hnext
        cases hop : s.op t with
        | none =>
            obtain ⟨a, ha⟩ := h.free hop
            rw [ha] at hnext
            cases hnext
        | some op =>
            obtain ⟨hw, hp⟩ := (h.prog hop).next h.state hnext
            refine ⟨hw, fun {u op'} hop' => ?_, fun {u} hop' => ?_⟩ <;> by_cases hu : u = t
            · subst hu
              obtain rfl : op = op' := Option.some.inj (hop.symm.trans hop')
              simpa [Pool.setProg] using hp
            · simpa [Pool.setProg, Function.update_of_ne hu] using h.prog hop'
            · subst hu
              rw [hop] at hop'
              cases hop'
            · simpa [Pool.setProg, Function.update_of_ne hu] using h.free hop'
      · exact h
  | env e => exact ⟨henv e rfl, h.prog, h.free⟩

/-- **The rule of preserved invariants**, for runs in which each step of the environment has `C`,
under which it keeps the invariant. -/
theorem preserves_states {C : Called σ α ι → Sched ι ε → Prop}
    (hcode : ∀ op, Preserves I (Q op) (code op))
    (henv : ∀ s e, C s (.env e) → I s.pool.world → I (env e s.pool.world)) {s : Called σ α ι}
    (hs : s.AllPreserve I Q) {schedule : List (Sched ι ε)}
    (hC : ∀ x ∈ (machine code env).trace s schedule, C x.1 x.2) :
    ∀ s' ∈ s :: (machine code env).states s schedule, s'.AllPreserve I Q := by
  have hstep (s : Called σ α ι) (l : Sched ι ε) (h : s.AllPreserve I Q) (hl : C s l) :
      (s.step code env l).AllPreserve I Q :=
    h.step hcode fun e he => henv s e (he ▸ hl) h.state
  exact List.forall_mem_cons.mpr ⟨hs, (machine code env).states_of_trace hstep hs hC⟩

end Pool.Called
