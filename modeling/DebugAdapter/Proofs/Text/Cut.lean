import Mathlib.Data.List.Basic
import Mathlib.Data.List.TakeWhile

/-!
# Lists cut at the first element of a kind

A list that has an element is in one way a front without the element, the element, and what follows
it.
-/

namespace DebugAdapter

variable {α : Type} [DecidableEq α] {c : α} {front rest text : List α}

theorem takeWhile_ne_append (h : c ∉ front) : (front ++ c :: rest).takeWhile (· ≠ c) = front := by
  have hfront : ∀ d ∈ front, decide (d ≠ c) = true := by
    intro d hd
    apply decide_eq_true
    rintro rfl
    exact h hd
  rw [List.takeWhile_append_of_pos hfront, List.takeWhile_cons_of_neg (by simp), List.append_nil]

theorem dropWhile_ne_append (h : c ∉ front) :
    (front ++ c :: rest).dropWhile (· ≠ c) = c :: rest := by
  have hsplit := List.takeWhile_append_dropWhile (p := (· ≠ c)) (l := front ++ c :: rest)
  rw [takeWhile_ne_append h] at hsplit
  exact List.append_cancel_left hsplit

theorem takeWhile_ne_of_not_mem (h : c ∉ text) : text.takeWhile (· ≠ c) = text := by
  rw [List.takeWhile_eq_self_iff]
  intro d hd
  apply decide_eq_true
  rintro rfl
  exact h hd

theorem dropWhile_ne_of_not_mem (h : c ∉ text) : text.dropWhile (· ≠ c) = [] := by
  have hsplit := List.takeWhile_append_dropWhile (p := (· ≠ c)) (l := text)
  rw [takeWhile_ne_of_not_mem h] at hsplit
  exact List.append_right_eq_self.1 hsplit

/-- A list has one first element of a kind. -/
theorem eq_of_append_cons_eq {front' rest' : List α} (h : c ∉ front) (h' : c ∉ front')
    (heq : front ++ c :: rest = front' ++ c :: rest') : front = front' ∧ rest = rest' := by
  have hfront := congrArg (List.takeWhile (· ≠ c)) heq
  rw [takeWhile_ne_append h, takeWhile_ne_append h'] at hfront
  subst hfront
  exact ⟨rfl, (List.cons.inj (List.append_cancel_left heq)).2⟩

end DebugAdapter
