import Mathlib.Data.List.Chain
import ReleaseNotes.Proofs.Json.Token
import ReleaseNotes.Proofs.Trimmed

/-! From a JSON text to its tokens. Each reader takes one thing off the front of a text and is shown to
read exactly what the grammar lets stand there. -/
namespace ReleaseNotes.Json

def readUnit? (text : Text) : Option (Nat × Text) :=
  (codeUnit? (text.take 4)).map (·, text.drop 4)

/-- The low surrogate that has to follow a high one. -/
def readLow? : Text → Option (Nat × Text)
  | '\\' :: 'u' :: rest => (readUnit? rest).filter (isLowSurrogate ·.1)
  | _ => none

def readEscape? : Text → Option (Char × Text)
  | [] => none
  | 'u' :: rest =>
    match readUnit? rest with
    | none => none
    | some (unit, rest) =>
      if isHighSurrogate unit then (readLow? rest).map fun (low, rest) => (ofSurrogates unit low, rest)
      else if isLowSurrogate unit then none
      else some (Char.ofNat unit, rest)
  | letter :: rest => (letterEscapes.lookup letter).map (·, rest)

def readChar? : Text → Option (Char × Text)
  | [] => none
  | '\\' :: rest => readEscape? rest
  | c :: rest => if 0x20 ≤ c.toNat ∧ c ≠ '"' then some (c, rest) else none

theorem length_of_codeUnit? {digits : Text} {unit : Nat} (read : codeUnit? digits = some unit) :
    digits.length = 4 := by
  unfold codeUnit? at read
  split at read
  · rfl
  · contradiction

theorem readUnit?_eq_some_iff {text rest : Text} {unit : Nat} :
    readUnit? text = some (unit, rest) ↔
      ∃ digits, codeUnit? digits = some unit ∧ text = digits ++ rest := by
  constructor
  · intro read
    obtain ⟨found, digits, same⟩ := Option.map_eq_some_iff.mp read
    obtain ⟨rfl, rfl⟩ := Prod.mk.inj same
    exact ⟨text.take 4, digits, (List.take_append_drop 4 text).symm⟩
  · rintro ⟨digits, read, rfl⟩
    have four := length_of_codeUnit? read
    rw [readUnit?, ← four, List.take_left, List.drop_left, read]
    rfl

theorem readLow?_eq_some_iff {text rest : Text} {low : Nat} :
    readLow? text = some (low, rest) ↔
      ∃ digits, codeUnit? digits = some low ∧ isLowSurrogate low = true ∧
        text = '\\' :: 'u' :: digits ++ rest := by
  constructor
  · intro read
    unfold readLow? at read
    split at read
    · obtain ⟨unit, inside⟩ := Option.filter_eq_some_iff.mp read
      obtain ⟨digits, found, rfl⟩ := readUnit?_eq_some_iff.mp unit
      exact ⟨digits, found, inside, rfl⟩
    · contradiction
  · rintro ⟨digits, found, inside, rfl⟩
    apply Option.filter_eq_some_iff.mpr
    exact ⟨readUnit?_eq_some_iff.mpr ⟨digits, found, rfl⟩, inside⟩

theorem readEscape?_sound {text rest : Text} {c : Char} (read : readEscape? text = some (c, rest)) :
    ∃ spelling, CharSpelling c ('\\' :: spelling) ∧ text = spelling ++ rest := by
  unfold readEscape? at read
  split at read
  · contradiction
  · rename_i behind
    split at read
    · contradiction
    · rename_i unit more first
      obtain ⟨digits, found, rfl⟩ := readUnit?_eq_some_iff.mp first
      split at read
      · rename_i high
        obtain ⟨⟨low, tail⟩, second, same⟩ := Option.map_eq_some_iff.mp read
        obtain ⟨rfl, rfl⟩ := Prod.mk.inj same
        obtain ⟨others, lowFound, inside, rfl⟩ := readLow?_eq_some_iff.mp second
        exact ⟨'u' :: digits ++ '\\' :: 'u' :: others, .pair found high lowFound inside, by simp⟩
      · rename_i notHigh
        split at read
        · contradiction
        · rename_i notLow
          obtain ⟨rfl, rfl⟩ := Prod.mk.inj (Option.some.inj read)
          exact ⟨'u' :: digits, .unit found (by simpa using notHigh) (by simpa using notLow), rfl⟩
  · rename_i letter behind _
    obtain ⟨found, listed, same⟩ := Option.map_eq_some_iff.mp read
    obtain ⟨rfl, rfl⟩ := Prod.mk.inj same
    exact ⟨[letter], .letter listed, rfl⟩

theorem readChar?_sound {text rest : Text} {c : Char} (read : readChar? text = some (c, rest)) :
    ∃ spelling, CharSpelling c spelling ∧ text = spelling ++ rest := by
  unfold readChar? at read
  split at read
  · contradiction
  · obtain ⟨spelling, spelled, rfl⟩ := readEscape?_sound read
    exact ⟨_, spelled, rfl⟩
  · rename_i found behind unslashed
    obtain ⟨⟨printed, unquoted⟩, same⟩ := Option.ite_none_right_eq_some.mp read
    obtain ⟨rfl, rfl⟩ := Prod.mk.inj (Option.some.inj same)
    exact ⟨[found], .plain printed unquoted unslashed, rfl⟩

theorem readChar?_complete {spelling : Text} {c : Char} (spelled : CharSpelling c spelling)
    (rest : Text) : readChar? (spelling ++ rest) = some (c, rest) := by
  cases spelled with
  | plain printed unquoted unslashed =>
    rw [List.singleton_append, readChar?.eq_3 _ _ unslashed]
    exact if_pos ⟨printed, unquoted⟩
  | @letter letter _ listed =>
    have known : letter ≠ 'u' := by
      rintro rfl
      have unlisted : letterEscapes.lookup 'u' = none := by decide
      rw [unlisted] at listed
      contradiction
    simp [readChar?, readEscape?, listed]
  | @unit digits unit found notHigh notLow =>
    have first : readUnit? (digits ++ rest) = some (unit, rest) :=
      readUnit?_eq_some_iff.mpr ⟨digits, found, rfl⟩
    simp [readChar?, readEscape?, first, notHigh, notLow]
  | @pair digits others high low found isHigh lowFound inside =>
    have first : readUnit? (digits ++ '\\' :: 'u' :: others ++ rest) =
        some (high, '\\' :: 'u' :: others ++ rest) :=
      readUnit?_eq_some_iff.mpr ⟨digits, found, by simp⟩
    have second : readLow? ('\\' :: 'u' :: others ++ rest) = some (low, rest) :=
      readLow?_eq_some_iff.mpr ⟨others, lowFound, inside, rfl⟩
    simp_all [readChar?, readEscape?]

namespace CharSpelling

theorem length_pos {c : Char} {spelling : Text} (spelled : CharSpelling c spelling) :
    0 < spelling.length := by
  cases spelled <;> simp

/-- A quote inside a string is always escaped, so the first one that is not closes it. -/
theorem head?_ne_quote {c : Char} {spelling : Text} (spelled : CharSpelling c spelling) (rest : Text) :
    (spelling ++ rest).head? ≠ some '"' := by
  cases spelled with
  | plain _ unquoted => simpa using unquoted
  | letter | unit | pair => simp

end CharSpelling

theorem length_lt_of_readChar? {text rest : Text} {c : Char} (read : readChar? text = some (c, rest)) :
    rest.length < text.length := by
  obtain ⟨spelling, spelled, rfl⟩ := readChar?_sound read
  have given := spelled.length_pos
  rw [List.length_append]
  omega

/-- The text of a string and what follows its closing quote, from behind the opening one. -/
def readQuoting? (text : Text) : Option (Text × Text) :=
  if text.head? = some '"' then some ([], text.tail)
  else
    match _read : readChar? text with
    | none => none
    | some (c, rest) => (readQuoting? rest).map fun (inner, behind) => (c :: inner, behind)
termination_by text.length
decreasing_by exact length_lt_of_readChar? _read

theorem readQuoting?_of_closed (behind : Text) : readQuoting? ('"' :: behind) = some ([], behind) := by
  simp [readQuoting?]

theorem readQuoting?_of_open {text : Text} (opened : text.head? ≠ some '"') :
    readQuoting? text = (readChar? text).bind fun (c, rest) =>
      (readQuoting? rest).map fun (inner, behind) => (c :: inner, behind) := by
  rw [readQuoting?, if_neg opened]
  split
  · rename_i unread
    rw [unread, Option.bind_none]
  · rename_i c rest read
    rw [read, Option.bind_some]

theorem readQuoting?_sound {text inner behind : Text} (read : readQuoting? text = some (inner, behind)) :
    ∃ quoting, Quoting inner quoting ∧ text = quoting ++ '"' :: behind := by
  induction text using readQuoting?.induct generalizing inner with
  | case1 text closed =>
    obtain ⟨rest, rfl⟩ := List.head?_eq_some_iff.mp closed
    rw [readQuoting?_of_closed] at read
    obtain ⟨rfl, rfl⟩ := Prod.mk.inj (Option.some.inj read)
    exact ⟨[], .nil, rfl⟩
  | case2 text opened unread =>
    rw [readQuoting?_of_open opened, unread] at read
    contradiction
  | case3 text opened c rest first ih =>
    rw [readQuoting?_of_open opened, first] at read
    obtain ⟨⟨more, tail⟩, second, same⟩ := Option.map_eq_some_iff.mp read
    obtain ⟨rfl, rfl⟩ := Prod.mk.inj same
    obtain ⟨quoting, quoted, rfl⟩ := ih second
    obtain ⟨spelling, spelled, rfl⟩ := readChar?_sound first
    exact ⟨spelling ++ quoting, .cons spelled quoted, (List.append_assoc ..).symm⟩

theorem readQuoting?_complete {inner quoting : Text} (quoted : Quoting inner quoting) (behind : Text) :
    readQuoting? (quoting ++ '"' :: behind) = some (inner, behind) := by
  induction quoted with
  | nil => exact readQuoting?_of_closed behind
  | @cons c text spelling rest spelled _ ih =>
    rw [List.append_assoc, readQuoting?_of_open (spelled.head?_ne_quote _),
      readChar?_complete spelled, Option.bind_some]
    exact Option.map_eq_some_iff.mpr ⟨_, ih, rfl⟩

def isNumberChar (c : Char) : Bool :=
  c.isDigit || ['-', '+', '.', 'e', 'E'].contains c

/-- The tokens that are spelled by one word only. -/
def literals : List (Token × Text) :=
  [(.null, "null".toList), (.bool true, "true".toList), (.bool false, "false".toList)]

theorem not_isPad_of_isNumberChar {c : Char} (inNumber : isNumberChar c = true) : isPad c = false := by
  rw [Bool.eq_false_iff]
  intro pad
  simp only [isPad, List.contains_eq_mem, List.mem_cons, List.not_mem_nil, or_false,
    decide_eq_true_eq] at pad
  rcases pad with rfl | rfl | rfl | rfl <;> contradiction

/-- The token at the front of a text. A number goes on for as long as it can. -/
def readToken? : Text → Option (Token × Text)
  | [] => none
  | c :: rest =>
    match Mark.ofChar? c with
    | some mark => some (.mark mark, rest)
    | none =>
      if c = '"' then (readQuoting? rest).map fun (inner, behind) => (.string inner, behind)
      else if isNumberChar c then
        let spelling := (c :: rest).takeWhile isNumberChar
        if isNumber spelling then some (.number spelling, (c :: rest).dropWhile isNumberChar) else none
      else literals.findSome? fun (token, word) => (Text.dropWord? id word (c :: rest)).map (token, ·)

theorem spelled_of_mem_literals {token : Token} {word : Text} (listed : (token, word) ∈ literals) :
    TokenSpelling token word := by
  simp only [literals, List.mem_cons, Prod.mk.injEq, List.not_mem_nil, or_false] at listed
  rcases listed with ⟨rfl, rfl⟩ | ⟨rfl, rfl⟩ | ⟨rfl, rfl⟩
  · exact .null
  · exact .true
  · exact .false

theorem readToken?_sound {text rest : Text} {token : Token}
    (read : readToken? text = some (token, rest)) :
    ∃ spelling, TokenSpelling token spelling ∧ text = spelling ++ rest := by
  unfold readToken? at read
  split at read
  · contradiction
  · rename_i c behind
    split at read
    · rename_i mark found
      obtain ⟨rfl, rfl⟩ := Prod.mk.inj (Option.some.inj read)
      exact ⟨[c], Mark.char_of_ofChar? found ▸ .mark mark, rfl⟩
    · split at read
      · rename_i opened
        obtain ⟨⟨inner, tail⟩, inside, same⟩ := Option.map_eq_some_iff.mp read
        obtain ⟨rfl, rfl⟩ := Prod.mk.inj same
        obtain ⟨quoting, quoted, rfl⟩ := readQuoting?_sound inside
        exact ⟨'"' :: quoting ++ ['"'], .string quoted, by simp [opened]⟩
      · split at read
        · obtain ⟨well, same⟩ := Option.ite_none_right_eq_some.mp read
          obtain ⟨rfl, rfl⟩ := Prod.mk.inj (Option.some.inj same)
          exact ⟨_, .number well, List.takeWhile_append_dropWhile.symm⟩
        · obtain ⟨⟨found, word⟩, listed, hit⟩ := List.exists_of_findSome?_eq_some read
          obtain ⟨tail, dropped, same⟩ := Option.map_eq_some_iff.mp hit
          obtain ⟨rfl, rfl⟩ := Prod.mk.inj same
          obtain ⟨front, whole, spelled⟩ := Text.dropWord?_eq_some_iff.mp dropped
          rw [List.map_id] at spelled
          exact ⟨word, spelled_of_mem_literals listed, spelled ▸ whole⟩

section Numbers

theorem isNumberChar_of_isDigit {c : Char} (digit : c.isDigit = true) : isNumberChar c = true := by
  simp [isNumberChar, digit]

theorem isNumberChar_of_isDigits {digits : Text} (only : isDigits digits = true) :
    ∀ c ∈ digits, isNumberChar c = true := by
  intro c member
  have all := (Bool.and_eq_true_iff.mp only).2
  exact isNumberChar_of_isDigit (List.all_eq_true.mp all c member)

theorem mem_dropSign (signs : List Char) {text : Text} {c : Char} (member : c ∈ text) :
    c ∈ signs ∨ c ∈ dropSign signs text := by
  cases text with
  | nil => contradiction
  | cons first rest =>
    rw [dropSign]
    split
    · rename_i sign
      rcases List.mem_cons.mp member with rfl | behind
      · exact .inl (List.contains_iff_mem.mp sign)
      · exact .inr behind
    · exact .inr member

theorem isNumberChar_of_isFraction {text : Text} (fraction : isFraction text = true) :
    ∀ c ∈ text, isNumberChar c = true := by
  intro c member
  unfold isFraction at fraction
  split at fraction
  · rcases List.mem_cons.mp member with rfl | behind
    · decide
    · exact isNumberChar_of_isDigits fraction c behind
  · rw [eq_of_beq fraction] at member
    contradiction

theorem isNumberChar_of_isExponent {text : Text} (exponent : isExponent text = true) :
    ∀ c ∈ text, isNumberChar c = true := by
  intro c member
  unfold isExponent at exponent
  split at exponent
  · rename_i letter rest
    obtain ⟨marked, digits⟩ := Bool.and_eq_true_iff.mp exponent
    rcases List.mem_cons.mp member with rfl | behind
    · rcases Bool.or_eq_true_iff.mp marked with small | large
      · rw [eq_of_beq small]; decide
      · rw [eq_of_beq large]; decide
    · rcases mem_dropSign ['+', '-'] behind with sign | digit
      · simp only [List.mem_cons, List.not_mem_nil, or_false] at sign
        rcases sign with rfl | rfl <;> decide
      · exact isNumberChar_of_isDigits digits c digit
  · contradiction

theorem isNumberChar_of_isNumber {text : Text} (number : isNumber text = true) :
    ∀ c ∈ text, isNumberChar c = true := by
  intro c member
  simp only [isNumber, List.span_eq_takeWhile_dropWhile, Bool.and_eq_true] at number
  obtain ⟨⟨-, fraction⟩, exponent⟩ := number
  rcases mem_dropSign ['-'] member with sign | unsigned
  · rw [List.mem_singleton.mp sign]; decide
  · rw [← List.takeWhile_append_dropWhile (p := Char.isDigit) (l := dropSign _ _)] at unsigned
    rcases List.mem_append.mp unsigned with whole | rest
    · exact isNumberChar_of_isDigit (List.mem_takeWhile_imp whole)
    · rw [← List.takeWhile_append_dropWhile (p := fun c => c != 'e' && c != 'E')
        (l := List.dropWhile _ _)] at rest
      rcases List.mem_append.mp rest with inFraction | inExponent
      · exact isNumberChar_of_isFraction fraction c inFraction
      · exact isNumberChar_of_isExponent exponent c inExponent

theorem ne_nil_of_isNumber {text : Text} (number : isNumber text = true) : text ≠ [] := by
  rintro rfl
  contradiction

/-- What a token begins with, which no padding does, and which only a number shares with numbers. -/
theorem exists_first_of_spelling {token : Token} {spelling : Text}
    (spelled : TokenSpelling token spelling) :
    ∃ c more, spelling = c :: more ∧ isPad c = false ∧
      (isNumberChar c = true → ∃ number, token = .number number) := by
  cases spelled with
  | mark mark =>
    refine ⟨mark.char, [], rfl, by cases mark <;> decide, fun inNumber => ?_⟩
    cases mark <;> contradiction
  | null => exact ⟨'n', "ull".toList, rfl, by decide, fun inNumber => absurd inNumber (by decide)⟩
  | true => exact ⟨'t', "rue".toList, rfl, by decide, fun inNumber => absurd inNumber (by decide)⟩
  | false => exact ⟨'f', "alse".toList, rfl, by decide, fun inNumber => absurd inNumber (by decide)⟩
  | number well =>
    obtain ⟨c, more, rfl⟩ := List.exists_cons_of_ne_nil (ne_nil_of_isNumber well)
    have inNumber := isNumberChar_of_isNumber well c List.mem_cons_self
    exact ⟨c, more, rfl, not_isPad_of_isNumberChar inNumber, fun _ => ⟨_, rfl⟩⟩
  | string quoted => exact ⟨'"', _, rfl, by decide, fun inNumber => absurd inNumber (by decide)⟩

theorem unmarked_of_isNumberChar {c : Char} (inNumber : isNumberChar c = true) :
    Mark.ofChar? c = none ∧ c ≠ '"' := by
  constructor
  · cases found : Mark.ofChar? c with
    | none => rfl
    | some mark =>
      obtain rfl := Mark.char_of_ofChar? found
      cases mark <;> contradiction
  · rintro rfl
    contradiction

end Numbers

/-- That a token ends in front of a text: only a number could run on into it. -/
def Token.EndsBefore (rest : Text) : Token → Prop
  | .number _ => ∀ c, rest.head? = some c → isNumberChar c = false
  | _ => True

theorem readToken?_complete {token : Token} {spelling rest : Text}
    (spelled : TokenSpelling token spelling) (ends : token.EndsBefore rest) :
    readToken? (spelling ++ rest) = some (token, rest) := by
  cases spelled with
  | mark mark => simp [readToken?]
  | null => rfl
  | true => rfl
  | false => rfl
  | number well =>
    obtain ⟨c, more, rfl⟩ := List.exists_cons_of_ne_nil (ne_nil_of_isNumber well)
    have chars := isNumberChar_of_isNumber well
    have first := chars c List.mem_cons_self
    obtain ⟨unmarked, unquoted⟩ := unmarked_of_isNumberChar first
    -- The run of number characters stops where the token does.
    have cut : (c :: (more ++ rest)).span isNumberChar = (c :: more, rest) :=
      Text.span_eq_iff.mpr ⟨rfl, chars, ends⟩
    rw [List.span_eq_takeWhile_dropWhile, Prod.mk.injEq] at cut
    simp only [List.cons_append, readToken?, unmarked, if_neg unquoted, if_pos first, cut, if_pos well]
  | string quoted =>
    have unmarked : Mark.ofChar? '"' = none := by decide
    simp [readToken?, unmarked, readQuoting?_complete quoted]

theorem length_lt_of_readToken? {text rest : Text} {token : Token}
    (read : readToken? (text.dropWhile isPad) = some (token, rest)) : rest.length < text.length := by
  obtain ⟨spelling, spelled, whole⟩ := readToken?_sound read
  obtain ⟨c, more, rfl, -⟩ := exists_first_of_spelling spelled
  have within := (List.dropWhile_suffix isPad (l := text)).length_le
  simp only [whole, List.length_append, List.length_cons] at within
  omega

def scan (text : Text) : Option (List Token) :=
  if text.dropWhile isPad = [] then some []
  else
    match _read : readToken? (text.dropWhile isPad) with
    | none => none
    | some (token, rest) => (scan rest).map (token :: ·)
termination_by text.length
decreasing_by exact length_lt_of_readToken? _read

theorem scan_of_padding {gap : Text} (padding : Padding gap) : scan gap = some [] := by
  rw [scan, if_pos (List.dropWhile_eq_nil_iff.mpr padding)]

theorem scan_of_solid {text : Text} (solid : text.dropWhile isPad ≠ []) :
    scan text = (readToken? (text.dropWhile isPad)).bind fun (token, rest) =>
      (scan rest).map (token :: ·) := by
  rw [scan, if_neg solid]
  split
  · rename_i unread
    rw [unread, Option.bind_none]
  · rename_i token rest read
    rw [read, Option.bind_some]

theorem scan_sound {text : Text} {tokens : List Token} (scanned : scan text = some tokens) :
    Written tokens text := by
  induction text using scan.induct generalizing tokens with
  | case1 text blank =>
    have padding : Padding text := List.dropWhile_eq_nil_iff.mp blank
    obtain rfl : [] = tokens := Option.some.inj ((scan_of_padding padding).symm.trans scanned)
    exact .nil padding
  | case2 text solid unread =>
    rw [scan_of_solid solid, unread] at scanned
    contradiction
  | case3 text solid token rest read ih =>
    rw [scan_of_solid solid, read] at scanned
    obtain ⟨more, behind, rfl⟩ := Option.map_eq_some_iff.mp scanned
    obtain ⟨spelling, spelled, whole⟩ := readToken?_sound read
    have padding : Padding (text.takeWhile isPad) := fun _ => List.mem_takeWhile_imp
    rw [← List.takeWhile_append_dropWhile (p := isPad) (l := text), whole]
    exact .cons padding spelled (ih behind)

/-- Two numbers in a row are no two tokens without padding between them; any other two are. -/
def Apart : Token → Token → Prop
  | .number _, .number _ => False
  | _, _ => True

theorem Written.endsBefore {tokens : List Token} {rest : Text} (written : Written tokens rest)
    {token : Token} (apart : ∀ next, tokens.head? = some next → Apart token next) :
    token.EndsBefore rest := by
  cases token with
  | mark | null | bool | string => trivial
  | number number =>
    intro c first
    by_contra inNumber
    rw [Bool.not_eq_false] at inNumber
    -- The character is padding, or the first of the next token, and then that is a number too.
    cases written with
    | nil padding =>
      have pad := padding c (List.mem_of_head? first)
      rw [not_isPad_of_isNumberChar inNumber] at pad
      contradiction
    | @cons gap spelling _ next _ padding spelled _ =>
      cases gap with
      | nil =>
        obtain ⟨d, more, rfl, -, only⟩ := exists_first_of_spelling spelled
        obtain rfl : d = c := Option.some.inj first
        obtain ⟨other, rfl⟩ := only inNumber
        exact apart _ rfl
      | cons d gap =>
        obtain rfl : d = c := Option.some.inj first
        have pad := padding d List.mem_cons_self
        rw [not_isPad_of_isNumberChar inNumber] at pad
        contradiction

theorem scan_complete {tokens : List Token} {text : Text} (written : Written tokens text)
    (apart : tokens.IsChain Apart) : scan text = some tokens := by
  induction written with
  | nil padding => exact scan_of_padding padding
  | @cons gap spelling rest token tokens padding spelled behind ih =>
    obtain ⟨apartHere, apartBehind⟩ := List.isChain_cons.mp apart
    have read := readToken?_complete spelled (behind.endsBefore apartHere)
    obtain ⟨c, more, rfl, solid, -⟩ := exists_first_of_spelling spelled
    have cut : (gap ++ (c :: more ++ rest)).dropWhile isPad = c :: more ++ rest := by
      rw [List.dropWhile_append_of_pos padding, List.cons_append, List.dropWhile_cons, solid]
      rfl
    rw [scan_of_solid (by rw [cut]; exact List.cons_ne_nil _ _), cut, read, Option.bind_some]
    exact Option.map_eq_some_iff.mpr ⟨tokens, ih apartBehind, rfl⟩

end ReleaseNotes.Json
