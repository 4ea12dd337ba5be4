import ReleaseNotes.Proofs.Attribution

/-! The number of a pull request in a link. It is read behind the first `/pull/` with a digit behind it, and
what is read is the number that the whole run of digits there writes in decimal, if it is in bounds. -/
namespace ReleaseNotes

open Text

namespace Text

theorem toNat_of_isAsciiDigit {c : Char} (ascii : isAsciiDigit c = true) :
    48 ≤ c.toNat ∧ c.toNat ≤ 57 := by
  simpa [isAsciiDigit, Char.isDigit, UInt32.le_iff_toNat_le] using ascii

theorem isDigit_of_isAsciiDigit {c : Char} (ascii : isAsciiDigit c = true) : isDigit c = true := by
  have bounds := toNat_of_isAsciiDigit ascii
  have table : digitRanges = (0x30, 0x39) :: digitRanges.tail := rfl
  rw [isDigit, table]
  simp [Ranges.has]
  omega

theorem isAsciiDigit_of_mem_ofNat {n : Nat} : ∀ c ∈ ofNat n, isAsciiDigit c = true :=
  fun _ member => Nat.isDigit_of_mem_toDigits (by decide) (by decide) member

theorem ofNat_ne_nil (n : Nat) : ofNat n ≠ [] :=
  Nat.toDigits_ne_nil

theorem decimalValue_ofNat (n : Nat) : decimalValue (ofNat n) = n :=
  Nat.ofDigitChars_toDigits (by decide) (by decide)

theorem decimalValue_append_digit (front : Text) (c : Char) :
    decimalValue (front ++ [c]) = 10 * decimalValue front + (c.toNat - '0'.toNat) := by
  simp [decimalValue]

theorem decimalValue_zeros_append (zeros : Nat) (text : Text) :
    decimalValue (List.replicate zeros '0' ++ text) = decimalValue text := by
  have none : Nat.ofDigitChars 10 (List.replicate zeros '0') 0 = 0 := by
    simp [Nat.ofDigitChars_replicate_zero]
  exact (Nat.ofDigitChars_append 0).trans (by rw [none]; rfl)

theorem ofNat_digit {c : Char} (ascii : isAsciiDigit c = true) : ofNat (c.toNat - '0'.toNat) = [c] := by
  have bounds := toNat_of_isAsciiDigit ascii
  have small : c.toNat - '0'.toNat < 10 := by simp; omega
  rw [ofNat, Nat.toDigits_of_lt_base small, List.singleton_inj, ← Char.toNat_inj,
    Nat.toNat_digitChar_of_lt_ten small]
  simp
  omega

/-- ASCII digits are the numeral of their value behind some number of zeros. -/
theorem digits_iff_zeros_numeral {digits : Text} (given : digits ≠ []) (n : Nat) :
    (∀ c ∈ digits, isAsciiDigit c = true) ∧ decimalValue digits = n ↔
      ∃ zeros, digits = List.replicate zeros '0' ++ ofNat n := by
  constructor
  · rintro ⟨ascii, rfl⟩
    -- Digit by digit from the front: the numeral so far takes one more, or is a zero and joins the others.
    induction digits using List.reverseRecOn with
    | nil => contradiction
    | append_singleton front c ih =>
      have digit : isAsciiDigit c = true := ascii c (by simp)
      have last := ofNat_digit digit
      by_cases alone : front = []
      · subst alone
        have value : decimalValue ([] ++ [c]) = c.toNat - '0'.toNat := by simp [decimalValue]
        exact ⟨0, by rw [value, last]; rfl⟩
      · obtain ⟨zeros, shape⟩ := ih alone fun d member => ascii d (by simp [member])
        rw [decimalValue_append_digit]
        rcases Nat.eq_zero_or_pos (decimalValue front) with nothing | positive
        · rw [nothing] at shape ⊢
          refine ⟨zeros + 1, ?_⟩
          rw [shape, Nat.mul_zero, Nat.zero_add, last, List.replicate_succ']
          rfl
        · have bounds := toNat_of_isAsciiDigit digit
          have small : c.toNat - '0'.toNat < 10 := by simp; omega
          have joined : ofNat (decimalValue front) ++ ofNat (c.toNat - '0'.toNat) =
              ofNat (10 * decimalValue front + (c.toNat - '0'.toNat)) :=
            Nat.toDigits_append_toDigits (by decide) positive small
          refine ⟨zeros, ?_⟩
          rw [← joined, last, ← List.append_assoc, ← shape]
  · rintro ⟨zeros, rfl⟩
    refine ⟨fun c member => ?_, by rw [decimalValue_zeros_append, decimalValue_ofNat]⟩
    rcases List.mem_append.mp member with zero | inNumeral
    · rw [List.eq_of_mem_replicate zero]
      rfl
    · exact isAsciiDigit_of_mem_ofNat c inNumeral

end Text

namespace Item

/-- The text has `/pull/` with a digit behind it. -/
def HasPull (text : Text) : Prop :=
  ∃ before digit after, text = before ++ "/pull/".toList ++ digit :: after ∧ isDigit digit = true

theorem letters_pull : "/pull/".toList = ['/', 'p', 'u', 'l', 'l', '/'] := by
  decide

/-- If a text without one is followed by `/pull/`, none begins within the text: the two could only share a
slash, and behind that one stands a letter. -/
theorem length_le_of_pull {front before rest after : Text} {digit : Char} (quiet : ¬HasPull front)
    (same : front ++ "/pull/".toList ++ rest = before ++ "/pull/".toList ++ digit :: after)
    (decimal : isDigit digit = true) : front.length ≤ before.length := by
  by_contra shorter
  obtain ⟨between, rfl, tail⟩ : ∃ between, front = before ++ between ∧
      "/pull/".toList ++ digit :: after = between ++ ("/pull/".toList ++ rest) := by
    rw [List.append_assoc, List.append_assoc] at same
    rcases List.append_eq_append_iff.mp same with ⟨between, whole, -⟩ | ⟨between, whole, tail⟩
    · have longer := congrArg List.length whole
      rw [List.length_append] at longer
      omega
    · exact ⟨between, whole, tail⟩
  have letter : isDigit 'p' = false := by decide
  have slash : isDigit '/' = false := by decide
  rw [letters_pull] at tail
  -- Each of the shorter texts between puts the second slash at a letter or the digit.
  rcases between with _ | ⟨a, _ | ⟨b, _ | ⟨c, _ | ⟨d, _ | ⟨e, _ | ⟨f, _ | ⟨g, more⟩⟩⟩⟩⟩⟩⟩
  · simp at shorter
  all_goals simp at tail
  · obtain ⟨-, -, -, -, -, rfl, -⟩ := tail
    simp [letter] at decimal
  · obtain ⟨-, -, -, -, -, -, rfl, -⟩ := tail
    simp [slash] at decimal
  · obtain ⟨rfl, rfl, rfl, rfl, rfl, rfl, rfl, -⟩ := tail
    exact quiet ⟨before, digit, more, by simp [letters_pull], decimal⟩

theorem pullDigits?_here {digit : Char} (decimal : isDigit digit = true) (after : Text) :
    pullDigits? ("/pull/".toList ++ digit :: after) = some ((digit :: after).takeWhile isDigit) := by
  have found : dropWord? id "/pull/".toList ("/pull/".toList ++ digit :: after) = some (digit :: after) :=
    dropWord?_append (List.map_id _) _
  rw [letters_pull, List.cons_append] at found ⊢
  rw [pullDigits?, letters_pull, found]
  simp [decimal]

theorem pullDigits?_later {c : Char} {rest : Text}
    (notHere : ∀ digit after, c :: rest = "/pull/".toList ++ digit :: after → isDigit digit = false) :
    pullDigits? (c :: rest) = pullDigits? rest := by
  rw [pullDigits?]
  split
  · rename_i digit after found
    obtain ⟨front, whole, same⟩ := dropWord?_eq_some_iff.mp found
    rw [List.map_id] at same
    rw [notHere digit after (same ▸ whole), if_neg Bool.false_ne_true]
  · rfl

theorem pullDigits?_cons (c : Char) (rest : Text) :
    (∃ digit after, c :: rest = "/pull/".toList ++ digit :: after ∧ isDigit digit = true ∧
      pullDigits? (c :: rest) = some ((digit :: after).takeWhile isDigit)) ∨
    ((∀ digit after, c :: rest = "/pull/".toList ++ digit :: after → isDigit digit = false) ∧
      pullDigits? (c :: rest) = pullDigits? rest) := by
  by_cases here : ∃ digit after, c :: rest = "/pull/".toList ++ digit :: after ∧ isDigit digit = true
  · obtain ⟨digit, after, whole, decimal⟩ := here
    exact .inl ⟨digit, after, whole, decimal, whole ▸ pullDigits?_here decimal after⟩
  · push Not at here
    have notHere : ∀ digit after, c :: rest = "/pull/".toList ++ digit :: after → isDigit digit = false :=
      fun digit after whole => Bool.eq_false_iff.mpr (here digit after whole)
    exact .inr ⟨notHere, pullDigits?_later notHere⟩

theorem pullDigits?_isSome_iff {text : Text} : (pullDigits? text).isSome = true ↔ HasPull text := by
  induction text with
  | nil => simp [pullDigits?, HasPull]
  | cons c rest ih =>
    rcases pullDigits?_cons c rest with ⟨digit, after, whole, decimal, taken⟩ | ⟨notHere, passed⟩
    · rw [taken]
      exact iff_of_true rfl ⟨[], digit, after, whole, decimal⟩
    · rw [passed, ih]
      constructor
      · rintro ⟨before, digit, after, rfl, decimal⟩
        exact ⟨c :: before, digit, after, rfl, decimal⟩
      · rintro ⟨before, digit, after, whole, decimal⟩
        cases before with
        | nil => simp [notHere digit after whole] at decimal
        | cons d before =>
          obtain ⟨-, behind⟩ := List.cons.inj whole
          exact ⟨before, digit, after, behind, decimal⟩

instance (text : Text) : Decidable (HasPull text) :=
  decidable_of_iff _ pullDigits?_isSome_iff

/-- The digits behind the first `/pull/` that has any are taken, as many as there are. -/
theorem pullDigits?_of_first {before after : Text} {digit : Char} (decimal : isDigit digit = true)
    (first : ∀ front other rest, before ++ "/pull/".toList ++ digit :: after =
      front ++ "/pull/".toList ++ other :: rest → isDigit other = true →
        before.length ≤ front.length) :
    pullDigits? (before ++ "/pull/".toList ++ digit :: after) =
      some ((digit :: after).takeWhile isDigit) := by
  induction before with
  | nil => exact pullDigits?_here decimal after
  | cons c before ih =>
    have later := ih fun front other rest same isOther => by
      have lengths := first (c :: front) other rest (congrArg (c :: ·) same) isOther
      exact Nat.le_of_succ_le_succ lengths
    rw [List.cons_append, List.cons_append, pullDigits?_later, later]
    intro other rest same
    by_contra isOther
    rw [Bool.not_eq_false] at isOther
    have lengths := first [] other rest same isOther
    simp at lengths

/-- The first `/pull/` with a digit behind it: what stands in front of it, all the digits behind it, and the
rest of the text. -/
structure FirstPull (text before digits after : Text) : Prop where
  whole : text = before ++ "/pull/".toList ++ digits ++ after
  given : digits ≠ []
  decimal : ∀ c ∈ digits, isDigit c = true
  longest : ∀ c, after.head? = some c → isDigit c = false
  first : ∀ front other rest, text = front ++ "/pull/".toList ++ other :: rest → isDigit other = true →
    before.length ≤ front.length

theorem FirstPull.taken {text before digits after : Text} (found : FirstPull text before digits after) :
    pullDigits? text = some digits := by
  obtain ⟨digit, more, rfl⟩ := List.exists_cons_of_ne_nil found.given
  have whole : text = before ++ "/pull/".toList ++ digit :: (more ++ after) := by
    rw [found.whole, List.append_assoc, List.cons_append]
  have run : (digit :: (more ++ after)).span isDigit = (digit :: more, after) :=
    span_eq_iff.mpr ⟨rfl, found.decimal, found.longest⟩
  rw [List.span_eq_takeWhile_dropWhile] at run
  have taken : pullDigits? (before ++ "/pull/".toList ++ digit :: (more ++ after)) =
      some ((digit :: (more ++ after)).takeWhile isDigit) :=
    pullDigits?_of_first (found.decimal digit (by simp)) fun front other rest same =>
      found.first front other rest (whole ▸ same)
  rw [whole, taken]
  exact congrArg some (Prod.mk.inj run).1

theorem exists_firstPull {text digits : Text} (found : pullDigits? text = some digits) :
    ∃ before after, FirstPull text before digits after := by
  induction text with
  | nil => contradiction
  | cons c rest ih =>
    rcases pullDigits?_cons c rest with ⟨digit, after, whole, decimal, taken⟩ | ⟨notHere, passed⟩
    · obtain rfl := Option.some.inj (taken.symm.trans found)
      obtain ⟨split, inside, boundary⟩ :=
        span_eq_iff.mp (List.span_eq_takeWhile_dropWhile isDigit (digit :: after))
      refine ⟨[], (digit :: after).dropWhile isDigit, ?_, by simp [decimal], inside, boundary, by simp⟩
      rw [whole, List.nil_append, List.append_assoc, ← split]
    · obtain ⟨before, after, inRest⟩ := ih (passed.symm.trans found)
      refine ⟨c :: before, after, by rw [inRest.whole]; rfl, inRest.given, inRest.decimal, inRest.longest, ?_⟩
      intro front other tail whole isOther
      cases front with
      | nil => simp [notHere other tail whole] at isOther
      | cons d front =>
        obtain ⟨-, behind⟩ := List.cons.inj whole
        exact Nat.succ_le_succ (inRest.first front other tail behind isOther)

theorem pullNumber?_of_not_hasPull {link : Text} (quiet : ¬HasPull link) : pullNumber? link = none := by
  have none : pullDigits? link = none := by
    rwa [← pullDigits?_isSome_iff, Option.not_isSome_iff_eq_none] at quiet
  rw [pullNumber?, none]
  rfl

theorem pullNumber?_eq_some_iff {link digits : Text} (found : pullDigits? link = some digits) (n : Nat) :
    pullNumber? link = some n ↔
      (∀ c ∈ digits, isAsciiDigit c = true) ∧ decimalValue digits = n ∧ n < pullBound := by
  rw [pullNumber?, found]
  simp only [Option.bind_eq_bind, Option.bind_some]
  rw [Option.ite_none_right_eq_some, Bool.and_eq_true, List.all_eq_true, decide_eq_true_eq,
    Option.some.injEq]
  constructor
  · rintro ⟨⟨ascii, fits⟩, rfl⟩
    exact ⟨ascii, rfl, fits⟩
  · rintro ⟨ascii, rfl, fits⟩
    exact ⟨⟨ascii, fits⟩, rfl⟩

theorem pullNumber?_append {front : Text} (quiet : ¬HasPull front) {n : Nat} (fits : n < pullBound) :
    pullNumber? (front ++ "/pull/".toList ++ ofNat n) = some n := by
  have ascii := isAsciiDigit_of_mem_ofNat (n := n)
  have found : FirstPull (front ++ "/pull/".toList ++ ofNat n) front (ofNat n) [] :=
    { whole := (List.append_nil _).symm
      given := ofNat_ne_nil n
      decimal := fun c member => isDigit_of_isAsciiDigit (ascii c member)
      longest := by simp
      first := fun _ _ _ same isOther => length_le_of_pull quiet same isOther }
  exact (pullNumber?_eq_some_iff found.taken n).mpr ⟨ascii, decimalValue_ofNat n, fits⟩

/-- The number of an item is the one its link writes behind the first `/pull/` with a digit behind it: none if
there is no such place, and else the value of the whole run of digits there, if all of them are ASCII and the
value fits into 64 bits. Zeros in front do not count, and no later place does. -/
theorem pull_exact {line : Text} {item : Item} (read : Item.parse? line = some item) :
    (¬HasPull item.link → item.pull = none) ∧
    (HasPull item.link → ∃ before digits after, FirstPull item.link before digits after) ∧
    ∀ before digits after, FirstPull item.link before digits after → ∀ n,
      (item.pull = some n ↔
        (∀ c ∈ digits, isAsciiDigit c = true) ∧ decimalValue digits = n ∧ n < UInt64.size) ∧
      ((∀ c ∈ digits, isAsciiDigit c = true) ∧ decimalValue digits = n ↔
        ∃ zeros, digits = List.replicate zeros '0' ++ ofNat n) := by
  have number : item.pull = pullNumber? item.link := by
    obtain ⟨a, -, rfl⟩ := Attribution.parse?_eq_some_iff.mp read
    rfl
  rw [number]
  refine ⟨pullNumber?_of_not_hasPull, fun has => ?_, fun before digits after found n => ?_⟩
  · obtain ⟨digits, taken⟩ := Option.isSome_iff_exists.mp (pullDigits?_isSome_iff.mpr has)
    obtain ⟨before, after, found⟩ := exists_firstPull taken
    exact ⟨before, digits, after, found⟩
  · exact ⟨pullNumber?_eq_some_iff found.taken n, digits_iff_zeros_numeral found.given n⟩

/-- A run of digits that is out of bounds behind its zeros, between two places that do not count. -/
theorem pull_outOfBounds :
    let line := "fix: a by @b in https://c/pull/d/pull/0018446744073709551616/pull/7".toList
    ∃ item before after, Item.parse? line = some item ∧
      FirstPull item.link before "0018446744073709551616".toList after ∧ item.pull = none := by
  intro line
  obtain ⟨item, read⟩ := Option.isSome_iff_exists.mp (by decide +kernel : (Item.parse? line).isSome = true)
  have link : item.link = "https://c/pull/d/pull/0018446744073709551616/pull/7".toList := by
    have same : (Item.parse? line).map (·.link) =
        some "https://c/pull/d/pull/0018446744073709551616/pull/7".toList := by decide +kernel
    simpa [read] using same
  obtain ⟨before, after, found⟩ : ∃ before after,
      FirstPull item.link before "0018446744073709551616".toList after := by
    apply exists_firstPull
    rw [link]
    decide +kernel
  refine ⟨item, before, after, read, found, Option.eq_none_iff_forall_ne_some.mpr fun n number => ?_⟩
  obtain ⟨-, value, fits⟩ := (((pull_exact read).2.2 before _ after found n).1).mp number
  rw [← value] at fits
  revert fits
  decide +kernel

end Item

end ReleaseNotes
