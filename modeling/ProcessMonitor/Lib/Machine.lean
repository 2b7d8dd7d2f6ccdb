import Mathlib.Tactic

/-!
# Machines and their runs

A `Machine σ ι ο` is a total step function on states `σ` that reads an input `ι` and gives an
output `ο`. A system that cannot take a step stays where it is, so that every list of inputs is
a run: a schedule of a concurrent system is an input list like any other.

* `run`: the final state and the outputs; `states`: the states after each step; `trace`: each
  step with the state it started from.
* `states_invariant`: what one step keeps, a run keeps; `states_of_trace`: what the steps with a
  condition keep, a run of such steps keeps; `trace_of_trace`: and the states that its steps start
  from have it; `outputs_of_trace`: and what they give.
* `run_trace_invariant`: what every step keeps of the state and the steps so far.
* `run_simulation`: two machines whose steps agree through a relation give the same outputs.
* `run_picks`: a machine of which some steps are those of another one, and the others nothing to it,
  gives the outputs of that one's run on the inputs picked. `run_picked`: the same where the state
  and the input tell which input of the other machine a step is meant to be.
* `run_outputs_of_forall`, `run_outputs_invariant`: what every step keeps of the state and the
  outputs so far.
* `run_count`: a measure that goes up in certain steps counts them.
* `run_budget`: outputs that are paid for come no more often than the first state can pay.
* `run_history`: outputs of which each is the next one of a law follow the law.
* `states_iff_trace`: where a property of states is kept by exactly the steps with `C`, it holds
  after every step of a run exactly when all steps of the run have `C`; `outputs_iff_trace`: the
  same for a property of outputs.
-/

/-- A step function with inputs and outputs. -/
structure Machine (σ ι ο : Type) where
  step : σ → ι → σ × ο

namespace Machine

variable {σ τ ι ο : Type} (M : Machine σ ι ο)

/-- The run on a list of inputs: the last state and the outputs. -/
def run : σ → List ι → σ × List ο
  | s, [] => (s, [])
  | s, i :: is => ((run (M.step s i).1 is).1, (M.step s i).2 :: (run (M.step s i).1 is).2)

/-- The states after each step of the run. -/
def states : σ → List ι → List σ
  | _, [] => []
  | s, i :: is => (M.step s i).1 :: states (M.step s i).1 is

/-- The steps of the run, each with the state it starts from. -/
def trace : σ → List ι → List (σ × ι)
  | _, [] => []
  | s, i :: is => (s, i) :: trace (M.step s i).1 is

@[simp] lemma run_nil (s : σ) : M.run s [] = (s, []) := rfl

@[simp] lemma run_cons (s : σ) (i : ι) (is : List ι) :
    M.run s (i :: is) =
      ((M.run (M.step s i).1 is).1, (M.step s i).2 :: (M.run (M.step s i).1 is).2) := rfl

/-- A run goes on from where its first part ends. -/
lemma run_append (s : σ) (is js : List ι) :
    M.run s (is ++ js) =
      ((M.run (M.run s is).1 js).1, (M.run s is).2 ++ (M.run (M.run s is).1 js).2) := by
  induction is generalizing s with
  | nil => rfl
  | cons i is ih => rw [List.cons_append, run_cons, run_cons, ih, List.cons_append]

/-- The last state of a run is one of its states. -/
lemma run_mem_states (s : σ) (is : List ι) : (M.run s is).1 ∈ s :: M.states s is := by
  induction is generalizing s with
  | nil => simp
  | cons i is ih => exact List.mem_cons_of_mem s (ih (M.step s i).1)

/-- **The invariant rule.** What one step keeps, all states of a run have. -/
theorem states_invariant {I : σ → Prop} (hstep : ∀ s i, I s → I (M.step s i).1) {s : σ}
    (hs : I s) (is : List ι) : ∀ s' ∈ M.states s is, I s' := by
  induction is generalizing s with
  | nil => simp [states]
  | cons i is ih =>
      intro s' hs'
      rcases List.mem_cons.mp hs' with rfl | h
      · exact hstep s i hs
      · exact ih (hstep s i hs) s' h

/-- What one step keeps, the last state of a run has. -/
theorem run_invariant {I : σ → Prop} (hstep : ∀ s i, I s → I (M.step s i).1) {s : σ} (hs : I s)
    (is : List ι) : I (M.run s is).1 := by
  rcases List.mem_cons.mp (M.run_mem_states s is) with h | h
  · rw [h]
    exact hs
  · exact M.states_invariant hstep hs is _ h

/-- The steps of a run start from states with the invariant. -/
theorem trace_invariant {I : σ → Prop} (hstep : ∀ s i, I s → I (M.step s i).1) {s : σ}
    (hs : I s) (is : List ι) : ∀ x ∈ M.trace s is, I x.1 := by
  induction is generalizing s with
  | nil => simp [trace]
  | cons i is ih =>
      intro x hx
      rcases List.mem_cons.mp hx with rfl | h
      · exact hs
      · exact ih (hstep s i hs) x h

/-- **The conditional invariant rule.** What the steps with `C` keep, all states have of a run whose
steps all have `C`. -/
theorem states_of_trace {I : σ → Prop} {C : σ → ι → Prop}
    (hstep : ∀ s i, I s → C s i → I (M.step s i).1) {s : σ} (hs : I s) {is : List ι}
    (h : ∀ x ∈ M.trace s is, C x.1 x.2) : ∀ s' ∈ M.states s is, I s' := by
  induction is generalizing s with
  | nil => simp [states]
  | cons i is ih =>
      rw [trace, List.forall_mem_cons] at h
      have hfirst := hstep s i hs h.1
      intro s' hs'
      rcases List.mem_cons.mp hs' with rfl | hmem
      · exact hfirst
      · exact ih hfirst h.2 s' hmem

/-- The steps of such a run start from states with it. -/
theorem trace_of_trace {I : σ → Prop} {C : σ → ι → Prop}
    (hstep : ∀ s i, I s → C s i → I (M.step s i).1) {s : σ} (hs : I s) {is : List ι}
    (h : ∀ x ∈ M.trace s is, C x.1 x.2) : ∀ x ∈ M.trace s is, I x.1 := by
  induction is generalizing s with
  | nil => simp [trace]
  | cons i is ih =>
      rw [trace, List.forall_mem_cons] at h ⊢
      exact ⟨hs, ih (hstep s i hs h.1) h.2⟩

/-- **The conditional rule of outputs.** If the steps with `C` give outputs with `Q` where the state
has what they keep, a run of such steps gives no others. -/
theorem outputs_of_trace {I : σ → Prop} {C : σ → ι → Prop} {Q : ο → Prop}
    (hstep : ∀ s i, I s → C s i → I (M.step s i).1 ∧ Q (M.step s i).2) {s : σ} (hs : I s)
    {is : List ι} (h : ∀ x ∈ M.trace s is, C x.1 x.2) : ∀ o ∈ (M.run s is).2, Q o := by
  induction is generalizing s with
  | nil => simp
  | cons i is ih =>
      rw [trace, List.forall_mem_cons] at h
      obtain ⟨hkept, hfirst⟩ := hstep s i hs h.1
      rw [run_cons, List.forall_mem_cons]
      exact ⟨hfirst, ih hkept h.2⟩

/-- **Exactly the good steps show it.** Let `I` be kept by the steps with `C`. If from a state with
`I` a step gives an output with `Q` exactly when it has `C`, all outputs of a run have `Q` exactly
when all its steps have `C`. -/
theorem outputs_iff_trace {I : σ → Prop} {C : σ → ι → Prop} {Q : ο → Prop}
    (hI : ∀ s i, I s → C s i → I (M.step s i).1)
    (hQ : ∀ s i, I s → (Q (M.step s i).2 ↔ C s i)) {s : σ} (hs : I s) (is : List ι) :
    (∀ o ∈ (M.run s is).2, Q o) ↔ ∀ x ∈ M.trace s is, C x.1 x.2 := by
  induction is generalizing s with
  | nil => simp [trace]
  | cons i is ih =>
      rw [run_cons, trace, List.forall_mem_cons, List.forall_mem_cons, hQ s i hs]
      exact and_congr_right fun hc => ih (hI s i hs hc)

/-- The inputs of the steps are those of the run. -/
lemma mem_of_mem_trace {s : σ} {is : List ι} {x : σ × ι} (h : x ∈ M.trace s is) : x.2 ∈ is := by
  induction is generalizing s with
  | nil => cases h
  | cons i is ih =>
      rcases List.mem_cons.mp h with rfl | hmem
      · exact List.mem_cons_self ..
      · exact List.mem_cons_of_mem i (ih hmem)

/-- The last step of a run is one of its steps. -/
lemma mem_trace_concat (s : σ) (is : List ι) (i : ι) :
    ((M.run s is).1, i) ∈ M.trace s (is ++ [i]) := by
  induction is generalizing s with
  | nil => simp [trace]
  | cons j is ih => exact List.mem_cons_of_mem _ (ih (M.step s j).1)

/-- **The rule of steps so far.** What every step keeps of the steps so far, each with the state it
started from, and of the state, a run keeps. -/
theorem run_trace_invariant {J : List (σ × ι) → σ → Prop}
    (hstep : ∀ past s i, J past s → J (past ++ [(s, i)]) (M.step s i).1) {past : List (σ × ι)}
    {s : σ} (hs : J past s) (is : List ι) : J (past ++ M.trace s is) (M.run s is).1 := by
  induction is generalizing past s with
  | nil =>
      rw [trace, List.append_nil]
      exact hs
  | cons i is ih =>
      have hrest := ih (hstep past s i hs)
      rwa [List.append_assoc, List.singleton_append] at hrest

/-- **The simulation rule.** Two machines on the same inputs whose steps keep a relation, the
first giving the outputs of the second translated by `f`, have runs that end related, with the
outputs of the second translated. -/
theorem run_simulation_map {ο' : Type} (N : Machine τ ι ο') (f : ο' → ο) {R : σ → τ → Prop}
    (hstep : ∀ s t i, R s t →
      R (M.step s i).1 (N.step t i).1 ∧ (M.step s i).2 = f (N.step t i).2)
    {s : σ} {t : τ} (hst : R s t) (is : List ι) :
    R (M.run s is).1 (N.run t is).1 ∧ (M.run s is).2 = (N.run t is).2.map f := by
  induction is generalizing s t with
  | nil => exact ⟨hst, rfl⟩
  | cons i is ih =>
      obtain ⟨hR, hout⟩ := hstep s t i hst
      obtain ⟨hR', hout'⟩ := ih hR
      exact ⟨hR', by rw [run_cons, run_cons, hout, hout', List.map_cons]⟩

/-- The simulation rule for machines with the same outputs. -/
theorem run_simulation (N : Machine τ ι ο) {R : σ → τ → Prop}
    (hstep : ∀ s t i, R s t → R (M.step s i).1 (N.step t i).1 ∧ (M.step s i).2 = (N.step t i).2)
    {s : σ} {t : τ} (hst : R s t) (is : List ι) :
    R (M.run s is).1 (N.run t is).1 ∧ (M.run s is).2 = (N.run t is).2 := by
  have h := M.run_simulation_map N id hstep hst is
  rwa [List.map_id] at h

/-- **The rule of picked steps.** Let `f` pick from some outputs an input and an output of another
machine. If the steps with such outputs are the other machine's steps on these inputs, with these
outputs, and the rest leave it where it is, then what is picked from a run is a run of the other
machine. -/
theorem run_picks {κ ο' : Type} (N : Machine τ κ ο') {f : ο → Option (κ × ο')} {R : σ → τ → Prop}
    (hnone : ∀ s t i, R s t → f (M.step s i).2 = none → R (M.step s i).1 t)
    (hsome : ∀ s t i k b, R s t → f (M.step s i).2 = some (k, b) →
      R (M.step s i).1 (N.step t k).1 ∧ b = (N.step t k).2) {s : σ} {t : τ} (hst : R s t)
    (is : List ι) :
    R (M.run s is).1 (N.run t (((M.run s is).2.filterMap f).map Prod.fst)).1 ∧
      ((M.run s is).2.filterMap f).map Prod.snd =
        (N.run t (((M.run s is).2.filterMap f).map Prod.fst)).2 := by
  induction is generalizing s t with
  | nil => exact ⟨hst, rfl⟩
  | cons i is ih =>
      rw [run_cons]
      cases hf : f (M.step s i).2 with
      | none =>
          rw [List.filterMap_cons_none hf]
          exact ih (hnone s t i hst hf)
      | some kb =>
          obtain ⟨k, b⟩ := kb
          obtain ⟨hR, hb⟩ := hsome s t i k b hst hf
          obtain ⟨hlast, houts⟩ := ih hR
          rw [List.filterMap_cons_some hf, List.map_cons, List.map_cons, run_cons]
          exact ⟨hlast, congrArg₂ List.cons hb houts⟩

/-- What holds between a state and the next one holds between the first and the last of a run. -/
lemma run_later {later : σ → σ → Prop} (hrefl : ∀ s, later s s)
    (htrans : ∀ {s s' s''}, later s s' → later s' s'' → later s s'')
    (hlater : ∀ s i, later s (M.step s i).1) (s : σ) (is : List ι) : later s (M.run s is).1 := by
  induction is generalizing s with
  | nil => exact hrefl s
  | cons i is ih => exact htrans (hlater s i) (ih (M.step s i).1)

/-- **The rule of picked inputs.** Let `pick` tell which steps are meant to be steps of another
machine, and on which inputs, and let `view` be the other machine's state. If such steps do to it
what the other machine does and show its outputs as any later state names them, and the others do
and show nothing, then the run is a run of the other machine on the inputs picked. -/
theorem run_picked {κ ο' β : Type} (N : Machine τ κ ο') (view : σ → τ) (later : σ → σ → Prop)
    (named : σ → ο' → Option β) {I : σ → Prop} {pick : σ → ι → Option κ} {shown : ο → Option β}
    (hI : ∀ s i, I s → I (M.step s i).1) (hrefl : ∀ s, later s s)
    (htrans : ∀ {s s' s''}, later s s' → later s' s'' → later s s'')
    (hlater : ∀ s i, later s (M.step s i).1)
    (hnone : ∀ s i, I s → pick s i = none →
      view (M.step s i).1 = view s ∧ shown (M.step s i).2 = none)
    (hsome : ∀ s i k, I s → pick s i = some k → view (M.step s i).1 = (N.step (view s) k).1 ∧
      ∀ s', later s s' → shown (M.step s i).2 = named s' (N.step (view s) k).2)
    {s : σ} (hs : I s) (is : List ι) :
    let picked := (M.trace s is).filterMap fun x => pick x.1 x.2
    view (M.run s is).1 = (N.run (view s) picked).1 ∧
      (M.run s is).2.filterMap shown =
        (N.run (view s) picked).2.filterMap (named (M.run s is).1) := by
  induction is generalizing s with
  | nil => exact ⟨rfl, rfl⟩
  | cons i is ih =>
      obtain ⟨hview, houts⟩ := ih (hI s i hs)
      simp only [run_cons, trace]
      cases hpick : pick s i with
      | none =>
          obtain ⟨hsame, hno⟩ := hnone s i hs hpick
          simp only [List.filterMap_cons, hpick, hno]
          rw [← hsame]
          exact ⟨hview, houts⟩
      | some k =>
          obtain ⟨hstep, hshown⟩ := hsome s i k hs hpick
          have hfirst := hshown _ (M.run_later hrefl htrans hlater s (i :: is))
          rw [run_cons] at hfirst
          simp only [List.filterMap_cons, hpick, run_cons]
          rw [← hstep]
          exact ⟨hview, by rw [hfirst, houts]⟩

/-- **The rule of outputs so far.** What every step on an input with `C` keeps of the outputs so far
and the state, a run on such inputs keeps. -/
theorem run_outputs_of_forall {J : List ο → σ → Prop} {C : ι → Prop}
    (hstep : ∀ os s i, C i → J os s → J (os ++ [(M.step s i).2]) (M.step s i).1) {os : List ο}
    {s : σ} (hs : J os s) {is : List ι} (h : ∀ i ∈ is, C i) :
    J (os ++ (M.run s is).2) (M.run s is).1 := by
  induction is generalizing os s with
  | nil =>
      rw [run_nil, List.append_nil]
      exact hs
  | cons i is ih =>
      rw [List.forall_mem_cons] at h
      have hrest := ih (hstep os s i h.1 hs) h.2
      rwa [List.append_assoc, List.singleton_append] at hrest

/-- The same for steps on any inputs. -/
theorem run_outputs_invariant {J : List ο → σ → Prop}
    (hstep : ∀ os s i, J os s → J (os ++ [(M.step s i).2]) (M.step s i).1) {os : List ο} {s : σ}
    (hs : J os s) (is : List ι) : J (os ++ (M.run s is).2) (M.run s is).1 :=
  M.run_outputs_of_forall (C := fun _ => True) (fun os s i _ => hstep os s i) hs fun _ _ => trivial

/-- **Exactly the good steps keep it.** Let `P` be a property that, from a state with it and with
`I`, a step keeps exactly when it meets `C`, and let such steps keep `I` too. Then `P` holds after
every step of a run exactly when every step of the run meets `C`. -/
theorem states_iff_trace {I P : σ → Prop} {C : σ → ι → Prop}
    (hI : ∀ s i, I s → C s i → I (M.step s i).1)
    (hP : ∀ s i, I s → P s → (P (M.step s i).1 ↔ C s i)) {s : σ} (hs : I s) (hp : P s)
    (is : List ι) :
    (∀ s' ∈ M.states s is, P s') ↔ ∀ x ∈ M.trace s is, C x.1 x.2 := by
  induction is generalizing s with
  | nil => simp [states, trace]
  | cons i is ih =>
      simp only [states, trace, List.forall_mem_cons]
      rw [hP s i hs hp]
      refine and_congr_right fun hc => ?_
      exact ih (hI s i hs hc) ((hP s i hs hp).mpr hc)

/-- **The counting rule.** A measure that goes up by one in the steps with `c`, and stays in the
others, tells how many steps of a run had it. -/
theorem run_count {I : σ → Prop} {f : σ → ℤ} {c : σ → ι → Bool}
    (hI : ∀ s i, I s → I (M.step s i).1)
    (hstep : ∀ s i, I s → f (M.step s i).1 = f s + if c s i then 1 else 0) {s : σ} (hs : I s)
    (is : List ι) :
    f (M.run s is).1 = f s + ((M.trace s is).countP fun x => c x.1 x.2 : ℕ) := by
  induction is generalizing s with
  | nil => simp [trace]
  | cons i is ih =>
      rw [run_cons, ih (hI s i hs), hstep s i hs, trace, List.countP_cons]
      split_ifs <;> push_cast <;> ring

/-- **The budget rule.** Where every step that gives an output with `p` pays for it from a budget,
a run gives no more of them than the budget it starts with. -/
theorem run_budget {I : σ → Prop} {p : ο → Bool} {b : σ → ℕ}
    (hI : ∀ s i, I s → I (M.step s i).1)
    (hstep : ∀ s i, I s →
      (if p (M.step s i).2 then 1 else 0) + b (M.step s i).1 ≤ b s) {s : σ}
    (hs : I s) (is : List ι) : (M.run s is).2.countP p ≤ b s := by
  induction is generalizing s with
  | nil => simp
  | cons i is ih =>
      have hfirst := hstep s i hs
      have hrest := ih (hI s i hs)
      rw [run_cons, List.countP_cons]
      omega

/-- **The history rule.** Let `f` pick some of the outputs, and let `J k` be what holds when `k` of
them have been given. If a step gives the one whose turn it is or none, the outputs picked from a
run are those of a law, one after another. -/
theorem run_history {α : Type} {f : ο → Option α} {law : ℕ → α} {J : ℕ → σ → Prop}
    (hnone : ∀ k s i, J k s → f (M.step s i).2 = none → J k (M.step s i).1)
    (hsome : ∀ k s i a, J k s → f (M.step s i).2 = some a → a = law k ∧ J (k + 1) (M.step s i).1)
    {k : ℕ} {s : σ} (hs : J k s) (is : List ι) :
    ∀ j a, ((M.run s is).2.filterMap f)[j]? = some a → a = law (k + j) := by
  induction is generalizing k s with
  | nil => simp
  | cons i is ih =>
      intro j a hj
      rw [run_cons] at hj
      cases hf : f (M.step s i).2 with
      | none =>
          rw [List.filterMap_cons_none hf] at hj
          exact ih (hnone k s i hs hf) j a hj
      | some b =>
          obtain ⟨hb, hnext⟩ := hsome k s i b hs hf
          rw [List.filterMap_cons_some hf] at hj
          cases j with
          | zero => exact (Option.some.inj hj).symm.trans hb
          | succ j =>
              rw [List.getElem?_cons_succ] at hj
              rw [ih hnext j a hj, Nat.add_right_comm, Nat.add_assoc]

end Machine
