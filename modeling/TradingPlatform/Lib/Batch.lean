/-
  TradingPlatform.Lib.Batch

  A queue that is served in batches of bounded size, for any element type: a
  pass looks at the first elements, and those of them that do not stay leave.
  Who stays may be another question at every pass.

  Against a fixed set to keep, a pass that no other element outstays serves one
  element more (`leaving_pass_lt`), and a pass that every one of the set outstays
  leaves the set in place (`filter_pass`).
-/

import Mathlib.Data.List.Basic

namespace Batch

variable {α : Type _} (stays : α → Bool) (size : ℕ)

/-- One pass over the queue. -/
def pass (queue : List α) : List α := (queue.take size).filter stays ++ queue.drop size

/-- How many of the queue are not to be kept. -/
def leaving (keep : α → Bool) (queue : List α) : ℕ := queue.countP fun a => !keep a

section Pass

variable {stays size} {keep : α → Bool} {front : List α}

/-- Behind a whole batch nothing changes. -/
theorem pass_append (hlong : size ≤ front.length) (back : List α) :
    pass stays size (front ++ back) = pass stays size front ++ back := by
  rw [pass, pass, List.take_append_of_le_length hlong, List.drop_append_of_le_length hlong,
    List.append_assoc]

theorem pass_sublist (queue : List α) : (pass stays size queue).Sublist queue := by
  conv_rhs => rw [← List.take_append_drop size queue]
  exact List.filter_sublist.append_right _

/-- What outstays a pass is still in the queue. -/
theorem filter_pass (hkeep : ∀ a ∈ front, keep a = true → stays a = true) :
    (pass stays size front).filter keep = front.filter keep := by
  rw [pass, List.filter_append, List.filter_filter]
  conv_rhs => rw [← List.take_append_drop size front, List.filter_append]
  refine congrArg (· ++ _) (List.filter_congr fun a ha => ?_)
  rw [Bool.eq_iff_iff, Bool.and_eq_true]
  exact ⟨And.left, fun h => ⟨h, hkeep a (List.mem_of_mem_take ha) h⟩⟩

/-- A batch that is not full of elements to keep loses one of the others. -/
theorem leaving_pass_lt (hlong : size ≤ front.length)
    (hroom : (front.filter keep).length < size)
    (hkeep : ∀ a ∈ front, stays a = true → keep a = true) :
    leaving keep (pass stays size front) < leaving keep front := by
  have hstaying : leaving keep ((front.take size).filter stays) = 0 := by
    rw [leaving, List.countP_eq_zero]
    intro a ha
    obtain ⟨htake, hstays⟩ := List.mem_filter.mp ha
    simp [hkeep a (List.mem_of_mem_take htake) hstays]
  have hfound : 0 < leaving keep (front.take size) := by
    rw [leaving, List.countP_pos_iff]
    by_contra hnone
    push Not at hnone
    have hall : (front.take size).filter keep = front.take size :=
      List.filter_eq_self.mpr fun a ha => by simpa using hnone a ha
    have hle : ((front.take size).filter keep).length ≤ (front.filter keep).length :=
      ((List.take_sublist size front).filter keep).length_le
    rw [hall, List.length_take_of_le hlong] at hle
    omega
  have hsplit : leaving keep front =
      leaving keep (front.take size) + leaving keep (front.drop size) := by
    rw [leaving, leaving, leaving, ← List.countP_append, List.take_append_drop]
  have hpass : leaving keep (pass stays size front) =
      leaving keep ((front.take size).filter stays) + leaving keep (front.drop size) :=
    List.countP_append
  omega

theorem leaving_add_length_filter (keep : α → Bool) (queue : List α) :
    leaving keep queue + (queue.filter keep).length = queue.length := by
  rw [leaving, ← List.countP_eq_length_filter,
    List.length_eq_countP_add_countP (p := keep) (l := queue), Nat.add_comm]
  simp only [Bool.not_eq_true, Bool.decide_eq_false]

end Pass

end Batch
