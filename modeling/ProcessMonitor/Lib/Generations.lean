import Mathlib.Data.Set.Function
import Mathlib.Logic.Function.Basic
import Mathlib.Tactic

/-!
# A log in generations

The newest records of a log stand in its current generation. When that is full it becomes the
newest of the kept generations, at most `keep` of them, and the oldest one goes.

* `push` writes a record; `all_push`: nothing goes but whole generations, the oldest first.
* `Filled`, `filled_push`: a kept generation is full and was not before its last record, and nothing
  has gone while there were at most `keep` rotations.
* `rename`, `renameChain`: the kept generations under names `name 0`, `name 1`, … of a store, the
  newest first. The chain of renames from the oldest name down moves each of them up by one
  (`renameChain_name_succ`), so that `rotateStore` does in the store what `rotate` does
  (`holds_rotateStore`).
-/

/-- The records that are gone, the kept generations with the newest first, the current one, and how
often the log was rotated. -/
structure Generations (α : Type) where
  lost : List α
  kept : List (List α)
  current : List α
  rotations : ℕ

namespace Generations

variable {α : Type} (keep : ℕ) (full : List α → Bool) (g : Generations α)

/-- A log without records. -/
def empty : Generations α := ⟨[], [], [], 0⟩

/-- The records that are still there, the oldest first. -/
def present : List α := g.kept.reverse.flatten ++ g.current

/-- All records ever written. -/
def all : List α := g.lost ++ g.present

/-- The current generation becomes the newest kept one. -/
def rotate : Generations α where
  lost := g.lost ++ ((g.current :: g.kept).drop keep).reverse.flatten
  kept := (g.current :: g.kept).take keep
  current := []
  rotations := g.rotations + 1

/-- A record at the end of the current generation. -/
def write (r : α) : Generations α := { g with current := g.current ++ [r] }

/-- Write a record, and rotate when the current generation is full. -/
def push (r : α) : Generations α :=
  if full (g.write r).current then (g.write r).rotate keep else g.write r

/-- A rotation loses nothing but what it counts as lost. -/
lemma all_rotate : (g.rotate keep).all = g.all := by
  have hsplit : (g.current :: g.kept).reverse =
      ((g.current :: g.kept).drop keep).reverse ++ ((g.current :: g.kept).take keep).reverse := by
    rw [← List.reverse_append, List.take_append_drop]
  have hflat := congrArg List.flatten hsplit
  rw [List.reverse_cons, List.flatten_append, List.flatten_append, List.flatten_singleton] at hflat
  simp only [all, present, rotate, List.append_nil]
  rw [List.append_assoc, ← hflat]

/-- **A record is written behind the others**, lost or not. -/
lemma all_push (r : α) : (g.push keep full r).all = g.all ++ [r] := by
  have hwrite : (g.write r).all = g.all ++ [r] := by
    simp only [all, present, write, List.append_assoc]
  unfold push
  split_ifs
  · rw [all_rotate, hwrite]
  · exact hwrite

/-- What is there is what was written, less what is lost. -/
lemma present_eq_drop : g.present = g.all.drop g.lost.length := by
  rw [all, List.drop_left]

/-- What each generation is like. -/
structure Filled (g : Generations α) : Prop where
  current : full g.current = false
  kept : ∀ c ∈ g.kept, full c = true ∧ ∃ init r, c = init ++ [r] ∧ full init = false
  length_kept : g.kept.length ≤ keep
  lost : g.rotations ≤ keep → g.lost = [] ∧ g.kept.length = g.rotations

variable {keep full g}

lemma filled_empty (hempty : full [] = false) : (empty : Generations α).Filled keep full where
  current := hempty
  kept _ h := absurd h List.not_mem_nil
  length_kept := Nat.zero_le _
  lost _ := ⟨rfl, rfl⟩

/-- **A record keeps each generation as it should be.** -/
lemma filled_push (hempty : full [] = false) (h : g.Filled keep full) (r : α) :
    (g.push keep full r).Filled keep full := by
  unfold push
  split_ifs with hfull
  · refine ⟨hempty, ?_, ?_, ?_⟩
    · intro c hc
      rcases List.mem_cons.mp (List.mem_of_mem_take hc) with rfl | hmem
      · exact ⟨hfull, g.current, r, rfl, h.current⟩
      · exact h.kept c hmem
    · exact List.length_take_le _ _
    · intro hle
      have hlt : g.rotations < keep := hle
      obtain ⟨hlost, hlength⟩ := h.lost hlt.le
      have hfits : ((g.write r).current :: g.kept).length ≤ keep := by
        rw [List.length_cons, hlength]
        exact hlt
      constructor
      · show g.lost ++ (((g.write r).current :: g.kept).drop keep).reverse.flatten = []
        rw [hlost, List.drop_eq_nil_of_le hfits]
        rfl
      · show (((g.write r).current :: g.kept).take keep).length = g.rotations + 1
        rw [List.take_of_length_le hfits, List.length_cons, hlength]
  · exact ⟨Bool.eq_false_iff.mpr hfull, h.kept, h.length_kept, h.lost⟩

end Generations

/-! ## Generations under names -/

section names

variable {K V : Type} [DecidableEq K]

/-- Give the content under `old` the name `new`; nothing happens when there is none. -/
def rename (f : K → Option V) (old new : K) : K → Option V :=
  match f old with
  | some c => Function.update (Function.update f old none) new (some c)
  | none => f

/-- The new name has what the old one had, where something was there or neither had anything. -/
lemma rename_new {f : K → Option V} {old new : K} (h : f old = none → f new = none) :
    rename f old new new = f old := by
  unfold rename
  cases hf : f old with
  | none => exact h hf
  | some c => exact Function.update_self ..

/-- The old name is free. -/
lemma rename_old (f : K → Option V) {old new : K} (hne : old ≠ new) :
    rename f old new old = none := by
  unfold rename
  cases hf : f old with
  | none => exact hf
  | some c => simp only [Function.update_of_ne hne, Function.update_self]

/-- Other names keep what they have. -/
lemma rename_of_ne (f : K → Option V) {old new k : K} (hold : k ≠ old) (hnew : k ≠ new) :
    rename f old new k = f k := by
  unfold rename
  cases hf : f old with
  | none => rfl
  | some c => simp only [Function.update_of_ne hnew, Function.update_of_ne hold]

variable (name : ℕ → K)

/-- Rename `name (n - 1)` to `name n`, and so on down to `name 0` to `name 1`. -/
def renameChain : ℕ → (K → Option V) → K → Option V
  | 0, f => f
  | n + 1, f => renameChain n (rename f (name n) (name (n + 1)))

/-- Names outside the chain keep what they have. -/
lemma renameChain_of_ne {n : ℕ} {k : K} (h : ∀ i ≤ n, k ≠ name i) (f : K → Option V) :
    renameChain name n f k = f k := by
  induction n generalizing f with
  | zero => rfl
  | succ n ih =>
      rw [renameChain, ih fun i hi => h i (by omega)]
      exact rename_of_ne f (h n (by omega)) (h (n + 1) le_rfl)

section chain

variable {name} {n : ℕ} {f : K → Option V} (hname : Set.InjOn name (Set.Iic n))
  (hfree : ∀ i < n, f (name i) = none → f (name (i + 1)) = none)
include hname hfree

/-- **The chain moves each generation up by one.** -/
lemma renameChain_name_succ {i : ℕ} (hi : i < n) :
    renameChain name n f (name (i + 1)) = f (name i) := by
  -- the induction is on the length of the chain, from the oldest name down
  induction n generalizing f with
  | zero => omega
  | succ n ih =>
      have hne {j k : ℕ} (hj : j ≤ n + 1) (hk : k ≤ n + 1) (hjk : j ≠ k) : name j ≠ name k :=
        fun heq => hjk (hname hj hk heq)
      rw [renameChain]
      by_cases hlast : i = n
      · subst hlast
        rw [renameChain_of_ne name fun j hj => hne le_rfl (by omega) (by omega)]
        exact rename_new (hfree i hi)
      · have hin : i < n := by omega
        -- the names below `n` are as they were, and `name n` has become free
        have hbelow {j : ℕ} (hj : j < n) :
            rename f (name n) (name (n + 1)) (name j) = f (name j) :=
          rename_of_ne f (hne (by omega) (by omega) (by omega)) (hne (by omega) le_rfl (by omega))
        have hfree' : ∀ j < n, rename f (name n) (name (n + 1)) (name j) = none →
            rename f (name n) (name (n + 1)) (name (j + 1)) = none := by
          intro j hj hnone
          rw [hbelow hj] at hnone
          by_cases hjn : j + 1 = n
          · rw [hjn]
            exact rename_old f (hne (by omega) le_rfl (by omega))
          · rw [hbelow (by omega)]
            exact hfree j (by omega) hnone
        rw [ih (hname.mono (Set.Iic_subset_Iic.mpr (Nat.le_succ n))) hfree' hin]
        exact hbelow hin

end chain

end names

/-! ## The generations in a store -/

section store

variable {K β : Type} [DecidableEq K]

/-- Write at the end of what is under a name, which may be nothing yet. -/
def extend (f : K → Option (List β)) (k : K) (text : List β) : K → Option (List β) :=
  Function.update f k (some ((f k).getD [] ++ text))

lemma extend_self (f : K → Option (List β)) (k : K) (text : List β) :
    extend f k text k = some ((f k).getD [] ++ text) := Function.update_self ..

lemma extend_of_ne (f : K → Option (List β)) {k k' : K} (h : k' ≠ k) (text : List β) :
    extend f k text k' = f k' := Function.update_of_ne h ..

variable (name : ℕ → K) (current : K) (keep : ℕ)

/-- The store has the kept generations under their names and the current one under its own. -/
structure Holds (f : K → Option (List β)) (g : Generations (List β)) : Prop where
  kept : ∀ i < keep, f (name i) = g.kept[i]?.map List.flatten
  current : f current = some g.current.flatten

/-- The renames of a rotation, and a new current file. -/
def rotateStore (f : K → Option (List β)) : K → Option (List β) :=
  extend (rename (renameChain name (keep - 1) f) current (name 0)) current []

variable {name current keep} {f : K → Option (List β)} {g : Generations (List β)}
  (hcurrent : ∀ i < keep, name i ≠ current)
include hcurrent

/-- A record at the end of the current file. -/
lemma Holds.write (h : Holds name current keep f g) (r : List β) :
    Holds name current keep (extend f current r) (g.write r) := by
  constructor
  · intro i hi
    rw [extend_of_ne f (hcurrent i hi)]
    exact h.kept i hi
  · rw [extend_self, h.current, Option.getD_some, Generations.write, List.flatten_append,
      List.flatten_singleton]

/-- **The renames of a rotation are the rotation.** -/
lemma holds_rotateStore (hname : Set.InjOn name (Set.Iio keep)) (hkeep : 0 < keep)
    (h : Holds name current keep f g) :
    Holds name current keep (rotateStore name current keep f) (g.rotate keep) := by
  have hne {i j : ℕ} (hi : i < keep) (hj : j < keep) (hij : i ≠ j) : name i ≠ name j :=
    fun heq => hij (hname hi hj heq)
  -- no generation has a name unless the newer ones have theirs
  have hfree : ∀ i < keep - 1, f (name i) = none → f (name (i + 1)) = none := by
    intro i hi hnone
    rw [h.kept i (by omega), Option.map_eq_none_iff, List.getElem?_eq_none_iff] at hnone
    rw [h.kept (i + 1) (by omega), Option.map_eq_none_iff, List.getElem?_eq_none_iff]
    omega
  have hchain : renameChain name (keep - 1) f current = f current :=
    renameChain_of_ne name (fun i hi => (hcurrent i (by omega)).symm) f
  constructor
  · intro i hi
    rw [rotateStore, extend_of_ne _ (hcurrent i hi), Generations.rotate,
      List.getElem?_take_of_lt hi]
    cases i with
    | zero =>
        have hsome : renameChain name (keep - 1) f current = some g.current.flatten := by
          rw [hchain, h.current]
        have hnew : rename (renameChain name (keep - 1) f) current (name 0) (name 0) =
            renameChain name (keep - 1) f current := by
          refine rename_new ?_
          intro hnone
          rw [hsome] at hnone
          cases hnone
        rw [hnew, hsome]
        rfl
    | succ i =>
        have hchained : Set.InjOn name (Set.Iic (keep - 1)) := by
          refine hname.mono ?_
          intro j hj
          have hle : j ≤ keep - 1 := hj
          show j < keep
          omega
        rw [rename_of_ne _ (hcurrent _ hi) (hne hi hkeep (Nat.succ_ne_zero i)),
          renameChain_name_succ hchained hfree (by omega), h.kept i (by omega),
          List.getElem?_cons_succ]
  · rw [rotateStore, extend_self, rename_old _ (hcurrent 0 hkeep).symm]
    rfl

end store
