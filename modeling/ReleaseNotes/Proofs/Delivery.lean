import Mathlib.Data.List.TakeDrop
import ReleaseNotes.Output.Sink

/-! What an output has taken in the end. However small its pieces are, it takes all that it has room for, and
writing fails exactly where that is not everything. -/
namespace ReleaseNotes

namespace Sink

/-- How many of so many bytes are taken in all. -/
def accepts (sink : Sink) (offered : Nat) : Nat :=
  if sink.chunk = some 0 then 0 else within sink.room offered

theorem within_eq_elim (bound : Option Nat) (n : Nat) : within bound n = bound.elim n (min · n) := by
  cases bound <;> rfl

theorem accepts_le (sink : Sink) (offered : Nat) : sink.accepts offered ≤ offered := by
  unfold accepts
  split
  · exact Nat.zero_le _
  · exact within_le _ _

theorem accepts_zero (sink : Sink) : sink.accepts 0 = 0 :=
  Nat.le_zero.mp (sink.accepts_le 0)

theorem accepts_of_takes_eq_zero {sink : Sink} {offered : Nat} (stuck : sink.takes offered = 0) :
    sink.accepts offered = 0 := by
  unfold accepts
  split
  · rfl
  · rename_i opened
    cases bound : sink.chunk with
    | none => simpa [takes, bound, within] using stuck
    | some most =>
      have positive : most ≠ 0 := fun zero => opened (by rw [bound, zero])
      simp only [takes, bound, within] at stuck ⊢
      omega

/-- However little is taken at first, with what is taken of the rest it makes up what is taken in all. -/
theorem add_accepts {sink : Sink} {offered n : Nat} (moves : n ≠ 0) (atMost : n ≤ sink.takes offered) :
    n + (sink.after n).accepts (offered - n) = sink.accepts offered := by
  have opened : sink.chunk ≠ some 0 := by
    intro shut
    rw [takes, shut, within, Nat.zero_min] at atMost
    exact moves (Nat.le_zero.mp atMost)
  have inRoom : n ≤ within sink.room offered := Nat.le_trans atMost (within_le _ _)
  unfold accepts after
  rw [if_neg opened, if_neg opened]
  cases room : sink.room with
  | none =>
    simp only [room, within, Option.map_none] at *
    omega
  | some most =>
    simp only [room, within, Option.map_some] at *
    omega

section Step

variable {sink : Sink} {bytes : List UInt8} {n : Nat}

theorem take_append_accepted (moves : n ≠ 0) (atMost : n ≤ sink.takes bytes.length) :
    bytes.take n ++ (bytes.drop n).take ((sink.after n).accepts (bytes.drop n).length) =
      bytes.take (sink.accepts bytes.length) := by
  rw [List.length_drop, ← List.take_add, add_accepts moves atMost]

theorem accepts_drop_iff (moves : n ≠ 0) (atMost : n ≤ sink.takes bytes.length) :
    (sink.after n).accepts (bytes.drop n).length = (bytes.drop n).length ↔
      sink.accepts bytes.length = bytes.length := by
  have all := add_accepts moves atMost
  have atOnce : n ≤ bytes.length := Nat.le_trans atMost (sink.takes_le bytes.length)
  rw [List.length_drop]
  omega

theorem outcome_of_stuck (given : bytes ≠ []) (stuck : sink.takes bytes.length = 0) (flushed : Option WriteError) :
    (⟨bytes.take (sink.accepts bytes.length),
      if sink.accepts bytes.length = bytes.length then flushed else some sink.refusalError⟩ : Delivery) =
      ⟨[], some sink.refusalError⟩ := by
  have nothing : sink.accepts bytes.length = 0 := accepts_of_takes_eq_zero stuck
  have some : 0 ≠ bytes.length := fun empty => given (List.length_eq_zero_iff.mp empty.symm)
  rw [nothing, List.take_zero, if_neg some]

end Step

/-- The bytes taken are the first ones, as many as are accepted, and an error says that there were more. -/
theorem writeAll_eq (sink : Sink) (bytes : List UInt8) :
    sink.writeAll bytes = ⟨bytes.take (sink.accepts bytes.length),
      if sink.accepts bytes.length = bytes.length then none else some sink.refusalError⟩ := by
  fun_induction writeAll sink bytes with
  | case1 sink => simp [accepts_zero]
  | case2 sink bytes given n stuck => exact (outcome_of_stuck given stuck none).symm
  | case3 sink bytes given n moves rest ih =>
    simp only [rest, ih, take_append_accepted moves (Nat.le_refl n), accepts_drop_iff moves (Nat.le_refl n)]
    rfl

def flushError (sink : Sink) : Option WriteError :=
  if sink.flushFails then some (.failed sink.flushFailure) else none

/-- The outcome is that of the flush if all bytes were taken, and else the error of the output. -/
theorem deliver_eq (sink : Sink) (bytes : List UInt8) :
    sink.deliver bytes = ⟨bytes.take (sink.accepts bytes.length),
      if sink.accepts bytes.length = bytes.length then sink.flushError else some sink.refusalError⟩ := by
  rw [deliver, writeAll_eq]
  by_cases all : sink.accepts bytes.length = bytes.length
  · cases fails : sink.flushFails <;> simp [all, flushError, fails]
  · simp [all]

/-- An output that takes all it is offered, in pieces of any size. -/
structure Works (sink : Sink) : Prop where
  opened : sink.chunk ≠ some 0
  unbounded : sink.room = none
  flushes : sink.flushFails = false

/-- An output on which every attempt to write fails. -/
def Refuses (sink : Sink) : Prop :=
  ∀ offered, sink.takes offered = 0

theorem Works.deliver_eq {sink : Sink} (works : sink.Works) (bytes : List UInt8) :
    sink.deliver bytes = ⟨bytes, none⟩ := by
  have all : sink.accepts bytes.length = bytes.length := by
    rw [accepts, if_neg works.opened, works.unbounded, within]
  have flushed : sink.flushError = none := by simp [flushError, works.flushes]
  rw [Sink.deliver_eq, all, List.take_length, if_pos rfl, flushed]

theorem Refuses.deliver_eq {sink : Sink} (refuses : sink.Refuses) {bytes : List UInt8}
    (given : bytes ≠ []) : sink.deliver bytes = ⟨[], some sink.refusalError⟩ := by
  rw [Sink.deliver_eq]
  exact outcome_of_stuck given (refuses _) sink.flushError

end Sink

end ReleaseNotes
