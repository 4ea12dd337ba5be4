import ReleaseNotes.Proofs.Decoding
import ReleaseNotes.Proofs.Json.Reader
import ReleaseNotes.Proofs.Json.Writer

/-! Documents come back from their text: whatever the style, the text of a document is JSON for one value
only, and that value is read back as the document. -/
namespace ReleaseNotes

open Json

theorem numbersSpelled_textList (texts : List Text) : NumbersSpelled (textList texts).tokens := by
  apply numbersSpelled_array.mpr
  intro v member
  obtain ⟨text, -, rfl⟩ := List.mem_map.mp member
  simp [Value.tokens]

namespace Sections

theorem numbersSpelled_toValue (sections : Sections) : NumbersSpelled sections.toValue.tokens := by
  apply numbersSpelled_object.mpr
  intro member listed
  obtain ⟨⟨s, entries⟩, -, rfl⟩ := List.mem_map.mp listed
  exact numbersSpelled_textList entries

end Sections

namespace Document

theorem numbersSpelled_toValue (document : Document) : NumbersSpelled document.toValue.tokens := by
  have changelog := document.changelog.numbersSpelled_toValue
  apply numbersSpelled_object.mpr
  simp [Value.tokens, changelog]

theorem writtenAs_render (style : Style) (document : Document) :
    document.toValue.WrittenAs (document.render style) := by
  have numbers := document.numbersSpelled_toValue
  cases style with
  | compact => exact written_write pads_spaced 0 document.toValue numbers
  | pretty =>
    have lineFeed : Padding ['\n'] := by simp [Padding, isPad]
    have written := (written_write pads_indented 0 document.toValue numbers).append (.nil lineFeed)
    rwa [List.append_nil] at written

theorem read_render (style : Style) (document : Document) :
    Json.read (document.render style) = some document.toValue :=
  read_eq_some_iff.mpr (document.writtenAs_render style)

/-- The text of a document is JSON for its value and for no other, a reader finds that value in it, and
the value is read back as the document. So no two documents share a text. -/
theorem render_round_trip (style : Style) :
    (∀ document : Document,
      (∀ v : Value, v.WrittenAs (document.render style) ↔ v = document.toValue) ∧
      Json.read (document.render style) = some document.toValue ∧
      ofValue document.toValue = .ok document) ∧
    Function.Injective (render style) := by
  constructor
  · intro document
    refine ⟨fun v => ?_, document.read_render style, document.ofValue_toValue⟩
    constructor
    · intro written
      exact written.unique (document.writtenAs_render style)
    · rintro rfl
      exact document.writtenAs_render style
  · intro a b same
    have read := a.read_render style
    rw [same, b.read_render style] at read
    have value : b.toValue = a.toValue := Option.some.inj read
    have back := a.ofValue_toValue
    rw [← value, b.ofValue_toValue] at back
    exact (Except.ok.inj back).symm

end Document

end ReleaseNotes
