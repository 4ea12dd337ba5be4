import ReleaseNotes.Text.Basic

/-! Texts cut at a byte of their UTF-8 form. A byte within a character is no place to cut. -/
namespace ReleaseNotes.Text

/-- The number of bytes of a text in UTF-8. -/
def size : Text → Nat
  | [] => 0
  | c :: text => c.utf8Size + size text

/-- The text up to a byte and the text from there. -/
def splitAt? : Nat → Text → Option (Text × Text)
  | 0, text => some ([], text)
  | _ + 1, [] => none
  | stop + 1, c :: text =>
    if c.utf8Size ≤ stop + 1 then
      (splitAt? (stop + 1 - c.utf8Size) text).map fun (front, rest) => (c :: front, rest)
    else none

/-- The text between two bytes. -/
def slice? (start stop : Nat) (text : Text) : Option Text := do
  let (_, rest) ← splitAt? start text
  let (part, _) ← splitAt? (stop - start) rest
  return part

@[simp] theorem size_nil : size [] = 0 := rfl

@[simp] theorem size_cons (c : Char) (text : Text) : size (c :: text) = c.utf8Size + size text := rfl

theorem size_append (front rest : Text) : size (front ++ rest) = size front + size rest := by
  induction front with
  | nil => simp
  | cons c front ih =>
    rw [List.cons_append, size_cons, size_cons, ih]
    omega

theorem length_utf8 (text : Text) : (utf8 text).length = size text := by
  induction text with
  | nil => rfl
  | cons c text ih => simp_all [utf8]

theorem splitAt?_size_append (front rest : Text) :
    splitAt? (size front) (front ++ rest) = some (front, rest) := by
  induction front with
  | nil => cases rest <;> rfl
  | cons c front ih =>
    obtain ⟨n, positive⟩ := Nat.exists_eq_succ_of_ne_zero (Nat.ne_of_gt c.utf8Size_pos)
    have tail : c.utf8Size + size front - c.utf8Size = size front := by omega
    have stop : c.utf8Size + size front = n + size front + 1 := by omega
    rw [stop] at tail
    simp only [size_cons, List.cons_append, stop, splitAt?, tail, ih, Option.map_some]
    rw [if_pos (by omega)]

theorem slice?_append (before part after : Text) :
    slice? (size before) (size before + size part) (before ++ (part ++ after)) = some part := by
  simp [slice?, splitAt?_size_append]

end ReleaseNotes.Text
