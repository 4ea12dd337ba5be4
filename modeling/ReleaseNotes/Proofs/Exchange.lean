import ReleaseNotes.Proofs.Delivery
import ReleaseNotes.Release.Json

/-! What passes between the program and an output. Within its bounds the output takes as many of the bytes on
offer as it pleases, however few and however many at other times, and the end is the same: the bytes that have
reached it, the error, and whether it was asked to flush. -/
namespace ReleaseNotes

inductive Request where
  | write (offered : List UInt8)
  | flush
  deriving DecidableEq, Repr

/-- Bytes on their way to an output, with what it is asked in order and what comes of that. The output refuses
only where its bounds leave it nothing to take. -/
inductive Exchange : Sink → List UInt8 → List Request → Delivery → Prop where
  | flushed (sink : Sink) : Exchange sink [] [.flush] ⟨[], sink.flushError⟩
  | refused {sink : Sink} {bytes : List UInt8} (given : bytes ≠ [])
      (stuck : sink.takes bytes.length = 0) :
      Exchange sink bytes [.write bytes] ⟨[], some sink.refusalError⟩
  | taken {sink : Sink} {bytes : List UInt8} {n : Nat} {requests : List Request} {delivery : Delivery}
      (moves : n ≠ 0) (atMost : n ≤ sink.takes bytes.length)
      (rest : Exchange (sink.after n) (bytes.drop n) requests delivery) :
      Exchange sink bytes (.write bytes :: requests) ⟨bytes.take n ++ delivery.taken, delivery.error⟩

namespace Sink

theorem taken_eq_iff (sink : Sink) (bytes : List UInt8) :
    (sink.deliver bytes).taken = bytes ↔ sink.accepts bytes.length = bytes.length := by
  have atMost := sink.accepts_le bytes.length
  rw [deliver_eq, List.take_eq_self_iff]
  omega

theorem error_eq (sink : Sink) (bytes : List UInt8) :
    (sink.deliver bytes).error =
      if (sink.deliver bytes).taken = bytes then sink.flushError else some sink.refusalError := by
  simp only [taken_eq_iff]
  rw [deliver_eq]

theorem error_eq_none_iff (sink : Sink) (bytes : List UInt8) :
    (sink.deliver bytes).error = none ↔ (sink.deliver bytes).taken = bytes ∧ sink.flushFails = false := by
  rw [error_eq]
  by_cases all : (sink.deliver bytes).taken = bytes <;> simp [all, flushError]

theorem deliver_withChunk {sink : Sink} {chunk : Option Nat} (opened : sink.chunk ≠ some 0)
    (positive : chunk ≠ some 0) (bytes : List UInt8) :
    { sink with chunk := chunk }.deliver bytes = sink.deliver bytes := by
  have same : { sink with chunk := chunk }.accepts bytes.length = sink.accepts bytes.length := by
    rw [accepts, accepts, if_neg opened, if_neg positive]
  rw [deliver_eq, deliver_eq, same]
  rfl

end Sink

namespace Exchange

/-- Whatever the output takes at a time, in the end it has what the program delivers to it. -/
theorem delivery_eq {sink : Sink} {bytes : List UInt8} {requests : List Request} {delivery : Delivery}
    (exchange : Exchange sink bytes requests delivery) : delivery = sink.deliver bytes := by
  rw [Sink.deliver_eq]
  induction exchange with
  | flushed sink => simp [Sink.accepts_zero]
  | refused given stuck => exact (Sink.outcome_of_stuck given stuck _).symm
  | taken moves atMost rest ih =>
    simp only [ih, Sink.take_append_accepted moves atMost, Sink.accepts_drop_iff moves atMost]
    rfl

theorem exists_offers {sink : Sink} {bytes : List UInt8} {requests : List Request} {delivery : Delivery}
    (exchange : Exchange sink bytes requests delivery) :
    ∃ offers : List (List UInt8),
      requests = offers.map .write ++ if delivery.taken = bytes then [.flush] else [] := by
  induction exchange with
  | flushed sink => exact ⟨[], rfl⟩
  | @refused sink bytes given stuck => exact ⟨[bytes], by simp [given.symm]⟩
  | @taken sink bytes n requests delivery moves atMost rest ih =>
    obtain ⟨offers, requested⟩ := ih
    have whole : bytes.take n ++ bytes.drop n = bytes := List.take_append_drop n bytes
    have complete : bytes.take n ++ delivery.taken = bytes ↔ delivery.taken = bytes.drop n := by
      constructor
      · intro all
        exact List.append_cancel_left (all.trans whole.symm)
      · intro same
        rw [same, whole]
    exact ⟨bytes :: offers, by simp [requested, complete]⟩

end Exchange

/-- The program's own way: each time the output takes all that it can. -/
theorem exists_exchange (sink : Sink) (bytes : List UInt8) :
    ∃ requests, Exchange sink bytes requests (sink.deliver bytes) := by
  suffices some : ∃ requests delivery, Exchange sink bytes requests delivery by
    obtain ⟨requests, delivery, exchange⟩ := some
    exact ⟨requests, exchange.delivery_eq ▸ exchange⟩
  fun_induction Sink.writeAll sink bytes with
  | case1 sink => exact ⟨_, _, .flushed sink⟩
  | case2 sink bytes given n stuck => exact ⟨_, _, .refused given stuck⟩
  | case3 sink bytes given n moves rest ih =>
    obtain ⟨requests, delivery, exchange⟩ := ih
    exact ⟨_, _, .taken moves (Nat.le_refl n) exchange⟩

namespace Document

open Text

variable (document : Document)

/-- Of the text of a document an output gets the first bytes, as many as it has room for, in pieces of any
size; only one that takes nothing at once gets none. Writing succeeds if those are all the bytes and the flush
goes well. An output that fails, in taking more or in its flush, has its own error reported, and one that
takes nothing more the error for that; if the bytes are not all taken it was not asked to flush. -/
theorem deliver_render (style : Style) (sink : Sink) :
    let bytes := utf8 (document.render style)
    let delivery := sink.deliver bytes
    delivery.taken = bytes.take
      (if sink.chunk = some 0 then 0 else sink.room.elim bytes.length (min · bytes.length)) ∧
    (delivery.error = none ↔ delivery.taken = bytes ∧ sink.flushFails = false) ∧
    (delivery.taken = bytes → sink.flushFails = true → delivery.error = some (.failed sink.flushFailure)) ∧
    (delivery.taken ≠ bytes → sink.refusal = .full → delivery.error = some (.failed sink.failure)) ∧
    (delivery.taken ≠ bytes → sink.refusal = .nothing → delivery.error = some .nothingTaken) ∧
    (∀ cause, (WriteError.failed cause).message = "Failed to write payload: ".toList ++ cause) ∧
    WriteError.nothingTaken.message = "Failed to write payload: failed to write whole buffer".toList ∧
    (∃ requests, Exchange sink bytes requests delivery) ∧
    (∀ requests other, Exchange sink bytes requests other → other = delivery ∧
      ∃ offers : List (List UInt8),
        requests = offers.map .write ++ if delivery.taken = bytes then [.flush] else []) ∧
    ∀ chunk, sink.chunk ≠ some 0 → chunk ≠ some 0 →
      { sink with chunk := chunk }.deliver bytes = delivery := by
  intro bytes delivery
  have error : delivery.error = if delivery.taken = bytes then sink.flushError else some sink.refusalError :=
    sink.error_eq bytes
  refine ⟨?_, sink.error_eq_none_iff bytes, fun all fails => ?_, fun some full => ?_, fun some nothing => ?_,
    fun _ => rfl, rfl, exists_exchange sink bytes, fun requests other exchange => ?_,
    fun chunk opened positive => ?_⟩
  · have delivered := sink.deliver_eq bytes
    rw [Sink.accepts, Sink.within_eq_elim] at delivered
    exact congrArg Delivery.taken delivered
  · rw [error, if_pos all, Sink.flushError, if_pos fails]
  · rw [error, if_neg some, Sink.refusalError, full]
  · rw [error, if_neg some, Sink.refusalError, nothing]
  · obtain rfl : other = delivery := exchange.delivery_eq
    exact ⟨rfl, exchange.exists_offers⟩
  · exact Sink.deliver_withChunk opened positive bytes

def accented : Document where
  version := "é".toList
  tag := []
  date := []
  sourceRepo := []
  changelog := {}

/-- Outputs with room for the first byte of a character of two, one that then takes nothing and one that fails,
and an output that gets all bytes one by one and does not flush. -/
theorem deliver_render_cut :
    let bytes := utf8 (accented.render .compact)
    let cut := utf8 "\x7b\"version\": \"".toList ++ [0xC3]
    let short : Sink := { chunk := some 3, room := some 14, refusal := .nothing }
    let full : Sink := { short with refusal := .full, failure := "quota exceeded".toList }
    let slow : Sink := { chunk := some 1, flushFails := true, flushFailure := "broken pipe".toList }
    short.deliver bytes = ⟨cut, some .nothingTaken⟩ ∧
    WriteError.nothingTaken.message = "Failed to write payload: failed to write whole buffer".toList ∧
    (∀ requests other, Exchange short bytes requests other → .flush ∉ requests) ∧
    full.deliver bytes = ⟨cut, some (.failed "quota exceeded".toList)⟩ ∧
    slow.deliver bytes = ⟨bytes, some (.failed "broken pipe".toList)⟩ ∧
    { slow with chunk := some 7 }.deliver bytes = slow.deliver bytes := by
  intro bytes cut short full slow
  obtain ⟨taken, -, -, -, refused, -, message, -, exchanges, -⟩ := accented.deliver_render .compact short
  obtain ⟨takenFull, -, -, failed, -⟩ := accented.deliver_render .compact full
  obtain ⟨all, -, flushed, -, -, -, -, -, -, sameChunk⟩ := accented.deliver_render .compact slow
  have part : (short.deliver bytes).taken = cut := taken.trans (by decide +kernel)
  have partFull : (full.deliver bytes).taken = cut := takenFull.trans (by decide +kernel)
  have notAll : cut ≠ bytes := by decide +kernel
  have complete : (slow.deliver bytes).taken = bytes := all.trans (List.take_length ..)
  have notAllShort : (short.deliver bytes).taken ≠ bytes := by rwa [part]
  have notAllFull : (full.deliver bytes).taken ≠ bytes := by rwa [partFull]
  refine ⟨congrArg₂ Delivery.mk part (refused notAllShort rfl), message, fun requests other exchange => ?_,
    congrArg₂ Delivery.mk partFull (failed notAllFull rfl), congrArg₂ Delivery.mk complete (flushed complete rfl),
    sameChunk _ (by decide) (by decide)⟩
  obtain ⟨offers, requested⟩ := (exchanges requests other exchange).2
  rw [requested, if_neg notAllShort]
  simp

end Document

end ReleaseNotes
