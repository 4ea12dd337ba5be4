import ReleaseNotes.Text.Slice

/-! The bytes at which a text may be cut. Between two of them there is always a part to cut out, and where
every character is ASCII they are all bytes up to the length of the text. -/
namespace ReleaseNotes.Text

/-- A byte at which a character of the text begins, or the byte behind its last one. -/
def IsBoundary (n : Nat) (text : Text) : Prop :=
  ∃ front rest, text = front ++ rest ∧ size front = n

theorem isBoundary_size (text : Text) : IsBoundary (size text) text :=
  ⟨text, [], (List.append_nil text).symm, rfl⟩

theorem IsBoundary.le_size {n : Nat} {text : Text} (boundary : IsBoundary n text) : n ≤ size text := by
  obtain ⟨front, rest, rfl, rfl⟩ := boundary
  rw [size_append]
  exact Nat.le_add_right _ _

theorem eq_nil_of_size_eq_zero {text : Text} (nothing : size text = 0) : text = [] := by
  cases text with
  | nil => rfl
  | cons c rest =>
    have positive := c.utf8Size_pos
    rw [size_cons] at nothing
    omega

theorem exists_slice {start stop : Nat} {text : Text} (first : IsBoundary start text)
    (last : IsBoundary stop text) (ordered : start ≤ stop) :
    ∃ part, slice? start stop text = some part := by
  obtain ⟨before, rest, rfl, rfl⟩ := first
  obtain ⟨upto, after, whole, rfl⟩ := last
  rcases List.append_eq_append_iff.mp whole with ⟨part, rfl, rfl⟩ | ⟨excess, rfl, rfl⟩
  · refine ⟨part, ?_⟩
    rw [size_append]
    exact slice?_append before part _
  · -- The later boundary stands in front of the earlier one, so the two are one.
    rw [size_append] at ordered
    have nothing : size excess = 0 := by omega
    obtain rfl := eq_nil_of_size_eq_zero nothing
    exact ⟨[], by simpa using slice?_append upto [] _⟩

theorem utf8Size_of_ascii {c : Char} (ascii : c.toNat ≤ 127) : c.utf8Size = 1 :=
  Char.utf8Size_eq_one_iff.mpr (UInt32.le_iff_toNat_le.mpr ascii)

theorem size_of_ascii {text : Text} (ascii : ∀ c ∈ text, c.toNat ≤ 127) : size text = text.length := by
  induction text with
  | nil => rfl
  | cons c rest ih =>
    rw [size_cons, utf8Size_of_ascii (ascii c (by simp)), ih fun d member => ascii d (by simp [member]),
      List.length_cons, Nat.add_comm]

end ReleaseNotes.Text
