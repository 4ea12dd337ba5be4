import ReleaseNotes.Text.Basic

/-! Writing to an output that may take the bytes in pieces, stop taking them, or fail when it is
flushed. All bytes are offered until they are taken or the output takes none, and only then is it
flushed. -/
namespace ReleaseNotes

/-- How an output shows that it takes no more. -/
inductive Refusal where
  /-- It fails, and says why. -/
  | full
  /-- It takes zero bytes. -/
  | nothing
  deriving DecidableEq, Repr

/-- An output; a bound that is absent is no bound. What it says when it fails is its own affair. -/
structure Sink where
  /-- The most it takes at once. -/
  chunk : Option Nat := none
  /-- The most it still takes in all. -/
  room : Option Nat := none
  refusal : Refusal := .full
  flushFails : Bool := false
  /-- Its own error where it fails to take more. -/
  failure : Text := "disk full".toList
  /-- Its own error where it fails to flush. -/
  flushFailure : Text := "flush failed".toList
  deriving DecidableEq, Repr

inductive WriteError where
  /-- The output failed, with an error of its own. -/
  | failed (cause : Text)
  | nothingTaken
  deriving DecidableEq, Repr

def WriteError.cause : WriteError → Text
  | .failed cause => cause
  | .nothingTaken => "failed to write whole buffer".toList

def WriteError.message (error : WriteError) : Text :=
  "Failed to write payload: ".toList ++ error.cause

/-- What came of writing: the bytes taken, and the error if there was one. -/
structure Delivery where
  taken : List UInt8
  error : Option WriteError
  deriving DecidableEq, Repr

namespace Sink

/-- A number under a bound that may be absent. -/
def within (bound : Option Nat) (n : Nat) : Nat :=
  match bound with
  | some most => min most n
  | none => n

/-- How many of the bytes on offer are taken at once. -/
def takes (sink : Sink) (offered : Nat) : Nat :=
  within sink.chunk (within sink.room offered)

def after (sink : Sink) (taken : Nat) : Sink :=
  { sink with room := sink.room.map (· - taken) }

theorem within_le (bound : Option Nat) (n : Nat) : within bound n ≤ n := by
  cases bound with
  | none => exact Nat.le_refl n
  | some most => exact Nat.min_le_right most n

theorem takes_le (sink : Sink) (offered : Nat) : sink.takes offered ≤ offered :=
  Nat.le_trans (within_le _ _) (within_le _ _)

def refusalError (sink : Sink) : WriteError :=
  match sink.refusal with
  | .full => .failed sink.failure
  | .nothing => .nothingTaken

/-- Offers the bytes until all are taken or none is. -/
def writeAll (sink : Sink) (bytes : List UInt8) : Delivery :=
  if bytes = [] then ⟨[], none⟩
  else
    let n := sink.takes bytes.length
    if n = 0 then ⟨[], some sink.refusalError⟩
    else
      let rest := (sink.after n).writeAll (bytes.drop n)
      ⟨bytes.take n ++ rest.taken, rest.error⟩
termination_by bytes.length
decreasing_by
  rename_i some positive
  have : 0 < bytes.length := List.length_pos_iff.mpr some
  have : 0 < sink.takes bytes.length := Nat.pos_of_ne_zero positive
  simp only [List.length_drop]
  omega

def deliver (sink : Sink) (bytes : List UInt8) : Delivery :=
  let written := sink.writeAll bytes
  match written.error with
  | some _ => written
  | none =>
    if sink.flushFails then { written with error := some (.failed sink.flushFailure) } else written

@[simp] theorem writeAll_nil (sink : Sink) : sink.writeAll [] = ⟨[], none⟩ := by
  rw [writeAll]; simp

end Sink

end ReleaseNotes
