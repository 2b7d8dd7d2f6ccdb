import Mathlib.Tactic
import ProcessMonitor.Lib.Slots

/-!
# Tickets

A list whose elements come at its end and leave from anywhere gives each element a new position
whenever an earlier one leaves. `Tickets` names the elements by numbers that never change: the
tickets in the order of the list (`held`), and the next one to be given out. `getElem?_held_iff`
says where the element of a ticket stands: at its `rank`, the number of earlier tickets held.
-/

/-- The tickets of the elements of a list. -/
structure Tickets where
  held : List ℕ
  next : ℕ
  increasing : held.Pairwise (· < ·)
  lt_next : ∀ k ∈ held, k < next

namespace Tickets

/-- No tickets are held and none has been given out. -/
def empty : Tickets := ⟨[], 0, List.Pairwise.nil, by simp⟩

variable (s : Tickets)

/-- An element comes at the end. -/
def issue : Tickets where
  held := s.held ++ [s.next]
  next := s.next + 1
  increasing := by
    rw [List.pairwise_append]
    refine ⟨s.increasing, List.pairwise_singleton _ _, fun a ha b hb => ?_⟩
    rw [List.mem_singleton.mp hb]
    exact s.lt_next a ha
  lt_next := by
    intro k hk
    rcases List.mem_append.mp hk with h | h
    · exact (s.lt_next k h).trans (Nat.lt_succ_self _)
    · rw [List.mem_singleton.mp h]
      exact Nat.lt_succ_self _

/-- The element at a position leaves. -/
def retire (i : ℕ) : Tickets where
  held := s.held.eraseIdx i
  next := s.next
  increasing := s.increasing.sublist (List.eraseIdx_sublist _ _)
  lt_next := fun k hk => s.lt_next k (List.mem_of_mem_eraseIdx hk)

/-- The number of tickets held that are earlier than `k`. -/
def rank (k : ℕ) : ℕ := s.held.countP (· < k)

/-- No ticket is held twice. -/
lemma nodup_held : s.held.Nodup := s.increasing.imp fun h => h.ne

/-- In an increasing list, an element stands behind all that are smaller. -/
lemma getElem?_increasing_iff {l : List ℕ} (h : l.Pairwise (· < ·)) (i k : ℕ) :
    l[i]? = some k ↔ k ∈ l ∧ i = l.countP (· < k) := by
  induction l generalizing i with
  | nil => simp
  | cons a l ih =>
      rw [List.pairwise_cons] at h
      obtain ⟨ha, hl⟩ := h
      by_cases hk : k = a
      · -- nothing in the list is smaller than its head
        subst hk
        have hzero : l.countP (· < k) = 0 := by
          rw [List.countP_eq_zero]
          intro b hb
          simpa using (ha b hb).le
        have hnot : k ∉ l := fun hmem => lt_irrefl k (ha k hmem)
        cases i with
        | zero => simp [hzero]
        | succ i =>
            rw [List.getElem?_cons_succ, ih hl i]
            simp [hnot, hzero]
      · cases i with
        | zero =>
            have hne : a ≠ k := fun e => hk e.symm
            rw [List.getElem?_cons_zero, List.countP_cons]
            simp only [Option.some.injEq, hne, false_iff, List.mem_cons, hk, false_or]
            rintro ⟨hmem, hcount⟩
            have hlt : decide (a < k) = true := by simpa using ha k hmem
            rw [if_pos hlt] at hcount
            omega
        | succ i =>
            rw [List.getElem?_cons_succ, ih hl i, List.countP_cons, List.mem_cons]
            simp only [hk, false_or]
            refine and_congr_right fun hmem => ?_
            have hlt : decide (a < k) = true := by simpa using ha k hmem
            rw [if_pos hlt, Nat.add_right_cancel_iff]

/-- **Where the element of a ticket stands.** -/
lemma getElem?_held_iff (i k : ℕ) : s.held[i]? = some k ↔ k ∈ s.held ∧ i = s.rank k :=
  getElem?_increasing_iff s.increasing i k

/-- A new ticket stands behind all others. -/
lemma rank_issue_next : s.issue.rank s.next = s.held.length := by
  have hall : s.held.countP (· < s.next) = s.held.length := by
    rw [List.countP_eq_length]
    intro k hk
    simpa using s.lt_next k hk
  simp [rank, issue, List.countP_append, hall]

section issue

variable {s : Tickets} {k : ℕ} (hk : k < s.next)
include hk

/-- A new ticket does not change the rank of an old one. -/
lemma rank_issue : s.issue.rank k = s.rank k := by
  have hlt : decide (s.next < k) = false := by simpa using hk.le
  simp [rank, issue, List.countP_append, hlt]

/-- An old ticket is held after a new one is given out if it was before. -/
lemma mem_held_issue : k ∈ s.issue.held ↔ k ∈ s.held := by
  simp only [issue, List.mem_append, List.mem_singleton, hk.ne, or_false]

end issue

/-- The tickets held when the list is cut at the one that leaves. -/
lemma held_retire_split {s : Tickets} {l₁ l₂ : List ℕ} {j : ℕ} (hl : s.held = l₁ ++ j :: l₂) :
    (s.retire l₁.length).held = l₁ ++ l₂ := by
  change s.held.eraseIdx l₁.length = l₁ ++ l₂
  rw [hl, List.eraseIdx_append_of_length_le le_rfl, Nat.sub_self, List.eraseIdx_cons_zero]

section retire

variable {s : Tickets} {i j : ℕ} (hj : s.held[i]? = some j)
include hj

/-- The ranks go down by one behind the ticket that leaves. -/
lemma rank_retire (k : ℕ) : (s.retire i).rank k + (if j < k then 1 else 0) = s.rank k := by
  obtain ⟨l₁, l₂, hl, rfl⟩ := Slots.exists_split_of_getElem? hj
  rw [rank, rank, held_retire_split hl, hl, List.countP_append, List.countP_append,
    List.countP_cons]
  simp only [decide_eq_true_eq]
  omega

/-- All tickets but the one that leaves are still held. -/
lemma mem_held_retire (k : ℕ) : k ∈ (s.retire i).held ↔ k ∈ s.held ∧ k ≠ j := by
  obtain ⟨l₁, l₂, hl, rfl⟩ := Slots.exists_split_of_getElem? hj
  have hnd := s.nodup_held
  rw [hl, List.nodup_middle, List.nodup_cons] at hnd
  rw [held_retire_split hl, hl]
  constructor
  · intro hk
    refine ⟨?_, fun e => hnd.1 (e ▸ hk)⟩
    rcases List.mem_append.mp hk with h | h
    · exact List.mem_append_left _ h
    · exact List.mem_append_right _ (List.mem_cons_of_mem _ h)
  · rintro ⟨hk, hne⟩
    rw [List.mem_append, List.mem_cons] at hk
    rcases hk with h | rfl | h
    · exact List.mem_append_left _ h
    · exact absurd rfl hne
    · exact List.mem_append_right _ h

end retire

end Tickets
