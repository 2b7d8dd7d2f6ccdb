import Mathlib.Tactic

/-!
# Handles

Numbers that a system hands out and takes back: file descriptors, or the addresses of blocks of
memory. An `Issued` table tells what each number stands for at the moment. The system may hand out
any number that stands for nothing, so that a number kept for too long may come to stand for
something else.

`Owned` says that each number in use is with one holder, who knows what it stands for. It is kept
when a holder obtains a number (`Owned.opened`), gives it back (`Owned.closed`) or hands it to
another (`Owned.moved`); and as long as it holds nobody uses a number that has been given back
(`Owned.holds`), and what no holder has is not in use (`Owned.eq_none`).
-/

namespace Handles

variable {ι κ : Type}

/-- What each number stands for. -/
abbrev Issued (κ : Type) : Type := ℕ → Option κ

namespace Issued

/-- No number is in use. -/
def empty : Issued κ := fun _ => none

variable (T : Issued κ)

/-- The number `n` stands for `k` from now on. -/
def opened (n : ℕ) (k : κ) : Issued κ := Function.update T n (some k)

/-- The number `n` is given back. -/
def closed (n : ℕ) : Issued κ := Function.update T n none

@[simp] lemma opened_self (n : ℕ) (k : κ) : T.opened n k n = some k := Function.update_self ..

lemma opened_ne {m n : ℕ} (h : m ≠ n) (k : κ) : T.opened n k m = T m :=
  Function.update_of_ne h _ _

@[simp] lemma closed_self (n : ℕ) : T.closed n n = none := Function.update_self ..

lemma closed_ne {m n : ℕ} (h : m ≠ n) : T.closed n m = T m := Function.update_of_ne h _ _

variable {T}

/-- What a number does not stand for, it does not stand for when another thing is opened. -/
lemma opened_ne_some {m n : ℕ} {k k' : κ} (h : T m ≠ some k) (hk : k' ≠ k) :
    T.opened n k' m ≠ some k := by
  by_cases hmn : m = n
  · rw [hmn, opened_self]
    exact fun heq => hk (Option.some.inj heq)
  · rwa [opened_ne _ hmn]

/-- Nor when something is closed. -/
lemma closed_ne_some {m n : ℕ} {k : κ} (h : T m ≠ some k) : T.closed n m ≠ some k := by
  by_cases hmn : m = n
  · rw [hmn, closed_self]
    simp
  · rwa [closed_ne _ hmn]

end Issued

/-- Each number in use is with one holder, who knows what it stands for. -/
structure Owned (own : ι → Option (ℕ × κ)) (T : Issued κ) : Prop where
  holds : ∀ {i n k}, own i = some (n, k) → T n = some k
  unique : ∀ {i j n k k'}, own i = some (n, k) → own j = some (n, k') → i = j
  covered : ∀ {n k}, T n = some k → ∃ i, own i = some (n, k)

namespace Owned

variable {own : ι → Option (ℕ × κ)} {T : Issued κ} {i j : ι} {n : ℕ} {k : κ}

/-- Nobody holds anything. -/
lemma empty : Owned (fun _ : ι => none) (Issued.empty : Issued κ) :=
  ⟨fun h => (by cases h), fun h => (by cases h), fun h => (by cases h)⟩

/-- The same holders, told otherwise. -/
lemma congr (h : Owned own T) {own' : ι → Option (ℕ × κ)} (heq : ∀ i, own' i = own i) :
    Owned own' T := by
  rwa [show own' = own from funext heq]

/-- What no holder has is not in use. -/
lemma eq_none (h : Owned own T) (hno : ∀ i k, own i ≠ some (n, k)) : T n = none := by
  cases hT : T n with
  | none => rfl
  | some k =>
      obtain ⟨i, hi⟩ := h.covered hT
      exact absurd hi (hno i k)

/-- **A holder obtains a number** that is not in use. -/
theorem opened (h : Owned own T) (hfree : T n = none) (hi : own i = none)
    {own' : ι → Option (ℕ × κ)} (hself : own' i = some (n, k))
    (hother : ∀ j, j ≠ i → own' j = own j) : Owned own' (T.opened n k) := by
  -- a number that another holds is another number
  have hne {j : ι} {m : ℕ} {k' : κ} (hj : own j = some (m, k')) : m ≠ n := by
    rintro rfl
    rw [h.holds hj] at hfree
    cases hfree
  refine ⟨fun {j m k'} hj => ?_, fun {j j' m k' k''} hj hj' => ?_, fun {m k'} hm => ?_⟩
  · by_cases hji : j = i
    · rw [hji, hself] at hj
      obtain ⟨rfl, rfl⟩ := Prod.mk.inj (Option.some.inj hj)
      exact T.opened_self ..
    · rw [hother j hji] at hj
      rw [T.opened_ne (hne hj)]
      exact h.holds hj
  · by_cases hji : j = i
    · by_cases hji' : j' = i
      · rw [hji, hji']
      · rw [hji, hself] at hj
        rw [hother j' hji'] at hj'
        exact absurd (Prod.mk.inj (Option.some.inj hj)).1.symm (hne hj')
    · by_cases hji' : j' = i
      · rw [hji', hself] at hj'
        rw [hother j hji] at hj
        exact absurd (Prod.mk.inj (Option.some.inj hj')).1.symm (hne hj)
      · rw [hother j hji] at hj
        rw [hother j' hji'] at hj'
        exact h.unique hj hj'
  · by_cases hmn : m = n
    · subst hmn
      rw [T.opened_self] at hm
      exact ⟨i, by rw [hself, Option.some.inj hm]⟩
    · rw [T.opened_ne hmn] at hm
      obtain ⟨j, hj⟩ := h.covered hm
      have hji : j ≠ i := by
        rintro rfl
        rw [hi] at hj
        cases hj
      exact ⟨j, by rw [hother j hji, hj]⟩

/-- **A holder gives its number back.** -/
theorem closed (h : Owned own T) (hi : own i = some (n, k)) {own' : ι → Option (ℕ × κ)}
    (hself : own' i = none) (hother : ∀ j, j ≠ i → own' j = own j) :
    Owned own' (T.closed n) := by
  have hdrop {j : ι} {x : ℕ × κ} (hj : own' j = some x) : j ≠ i ∧ own j = some x := by
    have hji : j ≠ i := by
      rintro rfl
      rw [hself] at hj
      cases hj
    exact ⟨hji, by rw [← hother j hji, hj]⟩
  refine ⟨fun {j m k'} hj => ?_, fun hj hj' => ?_, fun {m k'} hm => ?_⟩
  · obtain ⟨hji, hj⟩ := hdrop hj
    have hmn : m ≠ n := by
      rintro rfl
      exact hji (h.unique hj hi)
    rw [T.closed_ne hmn]
    exact h.holds hj
  · exact h.unique (hdrop hj).2 (hdrop hj').2
  · by_cases hmn : m = n
    · rw [hmn, T.closed_self] at hm
      cases hm
    · rw [T.closed_ne hmn] at hm
      obtain ⟨j, hj⟩ := h.covered hm
      have hji : j ≠ i := by
        rintro rfl
        rw [hi] at hj
        exact hmn (Prod.mk.inj (Option.some.inj hj)).1.symm
      exact ⟨j, by rw [hother j hji, hj]⟩

/-- **A holder hands its number** to one that has none. -/
theorem moved (h : Owned own T) {x : ℕ × κ} (hi : own i = some x) (hj : own j = none)
    {own' : ι → Option (ℕ × κ)} (hgiver : own' i = none) (htaker : own' j = some x)
    (hother : ∀ l, l ≠ i → l ≠ j → own' l = own l) : Owned own' T := by
  -- who has a number now, and who had it before
  have hback {l : ι} {y : ℕ × κ} (hl : own' l = some y) :
      (l = j ∧ y = x) ∨ (l ≠ j ∧ l ≠ i ∧ own l = some y) := by
    by_cases hlj : l = j
    · rw [hlj, htaker] at hl
      exact Or.inl ⟨hlj, (Option.some.inj hl).symm⟩
    · have hli : l ≠ i := by
        rintro rfl
        rw [hgiver] at hl
        cases hl
      exact Or.inr ⟨hlj, hli, by rw [← hother l hli hlj, hl]⟩
  refine ⟨fun {l m k'} hl => ?_, fun {l l' m k' k''} hl hl' => ?_, fun {m k'} hm => ?_⟩
  · rcases hback hl with ⟨-, rfl⟩ | ⟨-, -, hl⟩
    · exact h.holds hi
    · exact h.holds hl
  · rcases hback hl with ⟨rfl, rfl⟩ | ⟨-, hli, hl⟩
    · rcases hback hl' with ⟨rfl, -⟩ | ⟨-, hli', hl'⟩
      · rfl
      · exact absurd (h.unique hl' hi) hli'
    · rcases hback hl' with ⟨rfl, rfl⟩ | ⟨-, -, hl'⟩
      · exact absurd (h.unique hl hi) hli
      · exact h.unique hl hl'
  · obtain ⟨l, hl⟩ := h.covered hm
    by_cases hli : l = i
    · rw [hli, hi] at hl
      exact ⟨j, by rw [htaker, Option.some.inj hl]⟩
    · have hlj : l ≠ j := by
        rintro rfl
        rw [hj] at hl
        cases hl
      exact ⟨l, by rw [hother l hli hlj, hl]⟩

end Owned

end Handles
