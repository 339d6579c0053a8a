import TypedScript.Proofs.Lexer.Literals
import TypedScript.Proofs.Lexer.LongestMatch
import TypedScript.Proofs.Lexer.Respelled
import TypedScript.Proofs.Lexer.Strings

/-! A string literal with which nothing is wrong has been put together from what its characters and
escapes stand for. None of its escapes by a code is passed over, save those for surrogates. -/

namespace TypedScript

open Text

theorem standsForHex_of_hexValue? {value : Nat} {digit : Char} (h : hexValue? digit = some value) :
    StandsForHex value digit := by
  let Reads (c : Char) : Prop := ∀ value ∈ hexValue? c, StandsForHex value c
  have inRange {first last : Char} (le : (first ≤ digit && digit ≤ last) = true)
      (all : ∀ n ∈ List.range' first.toNat (last.toNat + 1 - first.toNat), Reads (Char.ofNat n)) :
      Reads digit := by
    simp only [Bool.and_eq_true, decide_eq_true_eq] at le
    have first_le : first.toNat ≤ digit.toNat := le.1
    have le_last : digit.toNat ≤ last.toNat := le.2
    exact of_range all first_le (by omega)
  refine (?_ : Reads digit) value h
  unfold hexValue? at h
  split at h
  · exact inRange ‹_› (by decide)
  split at h
  · exact inRange ‹_› (by decide)
  split at h
  · exact inRange ‹_› (by decide)
  · cases h

theorem StandsForHex.lt {value : Nat} {digit : Char} (h : StandsForHex value digit) : value < 16 := by
  rcases h with small | capital
  · exact (List.getElem?_eq_some_iff.1 small).1
  · exact (List.getElem?_eq_some_iff.1 capital).1

namespace SpellsHex

variable {digits : List Char} {number : Nat}

theorem of_digits (all : ∀ c ∈ digits, (hexValue? c).isSome) : ∃ number, SpellsHex digits number := by
  suffices ∃ values, List.Forall₂ StandsForHex values digits by
    obtain ⟨values, stands⟩ := this
    exact ⟨_, values, stands, rfl⟩
  induction digits with
  | nil => exact ⟨[], .nil⟩
  | cons digit digits ih =>
    obtain ⟨first, others⟩ := List.forall_mem_cons.1 all
    obtain ⟨value, read⟩ := Option.isSome_iff_exists.1 first
    obtain ⟨values, stands⟩ := ih others
    exact ⟨value :: values, .cons (standsForHex_of_hexValue? read) stands⟩

theorem isSome (h : SpellsHex digits number) : ∀ c ∈ digits, (hexValue? c).isSome := by
  induction digits generalizing number with
  | nil => exact fun _ mem => nomatch mem
  | cons digit digits ih =>
    obtain ⟨value, low, read, spells, -⟩ := h.of_cons
    exact List.forall_mem_cons.2 ⟨by rw [read]; rfl, ih spells⟩

theorem no_backslash (h : SpellsHex digits number) : '\\' ∉ digits :=
  fun mem => nomatch h.isSome _ mem

theorem lt (h : SpellsHex digits number) : number < 16 ^ digits.length := by
  induction digits generalizing number with
  | nil => rw [h.of_nil]; exact Nat.one_pos
  | cons digit digits ih =>
    obtain ⟨value, low, read, spells, rfl⟩ := h.of_cons
    have small := (standsForHex_of_hexValue? read).lt
    calc value * 16 ^ digits.length + low
        < value * 16 ^ digits.length + 16 ^ digits.length := Nat.add_lt_add_left (ih spells) _
      _ = (value + 1) * 16 ^ digits.length := (Nat.succ_mul _ _).symm
      _ ≤ 16 * 16 ^ digits.length := Nat.mul_le_mul_right _ small
      _ = 16 ^ (digits.length + 1) := (Nat.pow_succ').symm

end SpellsHex

def IsSurrogate (code : Nat) : Prop := 0xd800 ≤ code ∧ code ≤ 0xdfff

instance (code : Nat) : Decidable (IsSurrogate code) := inferInstanceAs (Decidable (_ ∧ _))

theorem charOfCode?_eq {code : Nat} (le : code ≤ 0x10ffff) :
    (∃ c : Char, c.toNat = code ∧ charOfCode? code = some c) ∨
      IsSurrogate code ∧ charOfCode? code = none := by
  by_cases valid : code.isValidChar
  · exact .inl ⟨Char.ofNatAux code valid, rfl, dif_pos valid⟩
  · have none : charOfCode? code = none := dif_neg valid
    unfold Nat.isValidChar at valid
    exact .inr ⟨⟨by omega, by omega⟩, none⟩

namespace Escape

/-- How a code is written in an escape, from behind the backslash on. -/
inductive Coded : (code : Nat) → (written : List Char) → Prop
  | two {code : Nat} {digits : List Char} : digits.length = 2 → SpellsHex digits code →
      Coded code ('x' :: digits)
  | four {code : Nat} {digits : List Char} : digits.length = 4 → SpellsHex digits code →
      Coded code ('u' :: digits)
  | braced {code : Nat} {digits : List Char} : digits ≠ [] → SpellsHex digits code →
      code ≤ 0x10ffff → Coded code ('u' :: '\x7b' :: (digits ++ ['\x7d']))

theorem Coded.le {code : Nat} {written : List Char} (h : Coded code written) : code ≤ 0x10ffff := by
  cases h with
  | two length spells | four length spells =>
    have := spells.lt
    rw [length] at this
    omega
  | braced _ _ le => exact le

theorem hexDigits_isSome {count before code : Nat} {chars : List Char}
    (read : hexDigits count before chars = some code) :
    ∃ digits rest, chars = digits ++ rest ∧ digits.length = count ∧
      ∀ c ∈ digits, (hexValue? c).isSome := by
  fun_induction hexDigits count before chars with
  | case1 before chars => exact ⟨[], chars, rfl, rfl, fun _ mem => nomatch mem⟩
  | case2 => cases read
  | case3 count before c rest digit is ih =>
    obtain ⟨digits, rest, rfl, length, all⟩ := ih read
    exact ⟨c :: digits, rest, rfl, congrArg (· + 1) length,
      List.forall_mem_cons.2 ⟨by rw [is]; rfl, all⟩⟩
  | case4 => cases read

theorem fixed_eq {count : Nat} {chars : List Char} (fine : (fixed count chars).complaint = none) :
    ∃ digits rest code, chars = digits ++ rest ∧ digits.length = count ∧ SpellsHex digits code ∧
      fixed count chars = { char := charOfCode? code, length := count } := by
  unfold fixed at fine ⊢
  split at fine
  case h_1 code read =>
    obtain ⟨digits, rest, rfl, rfl, all⟩ := hexDigits_isSome read
    obtain ⟨number, spells⟩ := SpellsHex.of_digits all
    have same : number = code := by
      rw [spells.hexDigits 0 rest, Nat.zero_mul, Nat.zero_add] at read
      exact Option.some.inj read
    exact ⟨digits, rest, code, rfl, rfl, same ▸ spells, rfl⟩
  case h_2 => cases fine

theorem braced_eq {chars : List Char} (fine : (braced chars).complaint = none) :
    ∃ digits rest code, chars = digits ++ '\x7d' :: rest ∧ digits ≠ [] ∧ SpellsHex digits code ∧
      code ≤ 0x10ffff ∧
      braced chars = { char := charOfCode? code, length := digits.length + 1 } := by
  unfold braced at fine ⊢
  dsimp only at fine ⊢
  split at fine
  case isTrue => cases fine
  case isFalse right =>
    simp only [Bool.or_eq_true, Bool.not_eq_true', decide_eq_true_eq, not_or, Bool.not_eq_false,
      beq_iff_eq, Nat.not_lt] at right
    obtain ⟨⟨closed, some⟩, le⟩ := right
    have all : ∀ c ∈ hexRun chars, (hexValue? c).isSome := List.all_eq_true.1 List.all_takeWhile
    obtain ⟨code, spells⟩ := SpellsHex.of_digits all
    have run : hexRun chars ++ chars.drop (hexRun chars).length = chars :=
      List.prefix_iff_eq_append.1 (List.takeWhile_prefix _)
    rw [← List.head?_drop] at closed
    obtain ⟨rest, behind⟩ := List.head?_eq_some_iff.1 closed
    rw [behind] at run
    rw [spells.valueOfHex] at le ⊢
    refine ⟨hexRun chars, rest, code, run.symm, ?_, spells, le, ?_⟩
    · exact fun none => some (by rw [none]; rfl)
    · simp [← List.head?_drop, closed, some, le]

theorem unicode_eq {chars : List Char} (fine : (unicode chars).complaint = none) :
    ∃ written rest code, chars = written ++ rest ∧ Coded code ('u' :: written) ∧
      unicode chars = { char := charOfCode? code, length := written.length } := by
  unfold unicode at fine ⊢
  split at fine
  case h_1 rest =>
    obtain ⟨digits, rest, code, rfl, some, spells, le, read⟩ := braced_eq fine
    refine ⟨'\x7b' :: (digits ++ ['\x7d']), rest, code, by simp, .braced some spells le, ?_⟩
    simp [read]
  case h_2 =>
    obtain ⟨digits, rest, code, rfl, length, spells, read⟩ := fixed_eq fine
    exact ⟨digits, rest, code, rfl, .four length spells, by rw [read, length]⟩

inductive StandsFor : (kept written behind : List Char) → Prop
  | char {c : Char} {written behind : List Char} : Spells c written behind →
      StandsFor [c] written behind
  | lineEnd {lineEnd behind : List Char} : lineEnd ∈ lineEnds → StandsFor [] lineEnd behind
  | surrogate {code : Nat} {written behind : List Char} : Coded code written → IsSurrogate code →
      StandsFor [] written behind

theorem Coded.standsFor {code : Nat} {written behind : List Char} (h : Coded code written) :
    StandsFor (charOfCode? code).toList written behind := by
  rcases charOfCode?_eq h.le with ⟨c, rfl, is⟩ | ⟨surrogate, is⟩
  · rw [is]
    refine .char ?_
    cases h with
    | two length spells => exact .two length spells
    | four length spells => exact .four length spells
    | braced some spells _ => exact .braced some spells
  · rw [is]
    exact .surrogate h surrogate

theorem inString_standsFor {chars : List Char} (ne : chars ≠ [])
    (fine : (inString chars).complaint = none) :
    ∃ written rest, chars = written ++ rest ∧ (inString chars).length = written.length ∧
      StandsFor (inString chars).char.toList written rest := by
  fun_cases inString chars with
  | case1 => exact absurd rfl ne
  | case2 rest digit =>
    exact ⟨['0'], rest, rfl, rfl,
      .char (.itself (by decide) (by decide) (by decide) (fun _ => digit) rfl)⟩
  | case3 rest noDigit => exact ⟨['0'], rest, rfl, rfl, .char (.nul (Bool.eq_false_iff.2 noDigit))⟩
  | case4 rest => exact ⟨['b'], rest, rfl, rfl, .char (.letter (by decide))⟩
  | case5 rest => exact ⟨['t'], rest, rfl, rfl, .char (.letter (by decide))⟩
  | case6 rest => exact ⟨['n'], rest, rfl, rfl, .char (.letter (by decide))⟩
  | case7 rest => exact ⟨['v'], rest, rfl, rfl, .char (.letter (by decide))⟩
  | case8 rest => exact ⟨['f'], rest, rfl, rfl, .char (.letter (by decide))⟩
  | case9 rest => exact ⟨['r'], rest, rfl, rfl, .char (.letter (by decide))⟩
  | case10 rest e =>
    obtain ⟨digits, behind, code, rfl, length, spells, read⟩ := fixed_eq fine
    have e_eq : e = { char := charOfCode? code, length := 2 } := read
    rw [e_eq]
    exact ⟨'x' :: digits, behind, rfl, congrArg (· + 1) length.symm, (Coded.two length spells).standsFor⟩
  | case11 rest e =>
    obtain ⟨written, behind, code, rfl, coded, read⟩ := unicode_eq fine
    have e_eq : e = { char := charOfCode? code, length := written.length } := read
    rw [e_eq]
    exact ⟨'u' :: written, behind, rfl, rfl, coded.standsFor⟩
  | case12 rest =>
    split
    case isTrue feed =>
      obtain ⟨rest, rfl⟩ := List.head?_eq_some_iff.1 feed
      exact ⟨['\r', '\n'], rest, rfl, rfl, .lineEnd (by decide)⟩
    case isFalse => exact ⟨['\r'], rest, rfl, rfl, .lineEnd (by decide)⟩
  | case13 c rest lineBreak =>
    have ends : [c] ∈ lineEnds := by
      simp only [isLineBreak, Bool.or_eq_true, beq_iff_eq] at lineBreak
      rcases lineBreak with ((rfl | rfl) | rfl) | rfl <;> decide
    rw [if_pos lineBreak]
    exact ⟨[c], rest, rfl, rfl, .lineEnd ends⟩
  | case14 c rest noBreak zero b t n v f r x u =>
    have noLetter : c ∉ letters.map Prod.fst := by simpa [letters] using ⟨b, t, n, v, f, r⟩
    rw [if_neg noBreak]
    exact ⟨[c], rest, rfl, rfl,
      .char (.itself noLetter x u (fun is => absurd is zero) (Bool.eq_false_iff.2 noBreak))⟩

theorem Coded.no_backslash {code : Nat} {written : List Char} (h : Coded code written) :
    ∃ c others, written = c :: others ∧ '\\' ∉ others := by
  cases h with
  | two _ spells | four _ spells => exact ⟨_, _, rfl, spells.no_backslash⟩
  | braced _ spells _ => exact ⟨_, _, rfl, by simpa using spells.no_backslash⟩

theorem Spells.single_or_coded {c : Char} {written behind : List Char} (h : Spells c written behind) :
    (∃ d, written = [d] ∧ d ≠ 'x' ∧ d ≠ 'u') ∨ Coded c.toNat written := by
  cases h with
  | @letter d c _ mem =>
    have all : ∀ entry ∈ letters, entry.1 ≠ 'x' ∧ entry.1 ≠ 'u' := by decide
    exact .inl ⟨d, rfl, all (d, c) mem⟩
  | nul => exact .inl ⟨'0', rfl, by decide⟩
  | itself _ noTwo noCode => exact .inl ⟨c, rfl, noTwo, noCode⟩
  | two length spells => exact .inr (.two length spells)
  | four length spells => exact .inr (.four length spells)
  | braced some spells =>
    have valid : c.toNat.isValidChar := c.valid
    unfold Nat.isValidChar at valid
    exact .inr (.braced some spells (by omega))

theorem StandsFor.no_backslash {kept written behind : List Char}
    (h : StandsFor kept written behind) : ∃ c others, written = c :: others ∧ '\\' ∉ others := by
  cases h with
  | char spells =>
    rcases spells.single_or_coded with ⟨d, rfl, -⟩ | coded
    · exact ⟨d, [], rfl, List.not_mem_nil⟩
    · exact coded.no_backslash
  | lineEnd ends =>
    simp only [lineEnds, List.mem_cons, List.not_mem_nil, or_false] at ends
    rcases ends with rfl | rfl | rfl | rfl | rfl <;> exact ⟨_, _, rfl, by decide⟩
  | surrogate coded _ => exact coded.no_backslash

theorem StandsFor.congr {kept written behind other : List Char} (h : StandsFor kept written behind)
    (same : other.head?.any Char.isDigit = behind.head?.any Char.isDigit) :
    StandsFor kept written other := by
  cases h with
  | char spells =>
    refine .char ?_
    cases spells with
    | letter mem => exact .letter mem
    | nul alone => exact .nul (same.trans alone)
    | itself noLetter noTwo noCode zero noBreak =>
      exact .itself noLetter noTwo noCode (fun is => same.trans (zero is)) noBreak
    | two length spells => exact .two length spells
    | four length spells => exact .four length spells
    | braced some spells => exact .braced some spells
  | lineEnd ends => exact .lineEnd ends
  | surrogate coded surrogate => exact .surrogate coded surrogate

theorem StandsFor.coded {kept written behind : List Char} (h : StandsFor kept written behind)
    (byCode : written.head? = some 'x' ∨ written.head? = some 'u') :
    ∃ code, Coded code written ∧
      ((∃ c : Char, c.toNat = code ∧ kept = [c]) ∨ IsSurrogate code ∧ kept = []) := by
  cases h with
  | char spells =>
    rcases spells.single_or_coded with ⟨d, rfl, noTwo, noCode⟩ | coded
    · rcases byCode with is | is
      · exact absurd (Option.some.inj is) noTwo
      · exact absurd (Option.some.inj is) noCode
    · exact ⟨_, coded, .inl ⟨_, rfl, rfl⟩⟩
  | lineEnd ends =>
    have none : ∀ lineEnd ∈ lineEnds, ¬(lineEnd.head? = some 'x' ∨ lineEnd.head? = some 'u') := by
      decide
    exact absurd byCode (none _ ends)
  | surrogate coded surrogate => exact ⟨_, coded, .inr ⟨surrogate, rfl⟩⟩

end Escape

/-- What is written between two quotes, and the value that it is read as. -/
inductive Decoded (quote : Char) : (value written : List Char) → Prop
  | nil : Decoded quote [] []
  | raw {c : Char} {value written : List Char} : c ≠ quote → c ≠ '\\' → c ≠ '\r' → c ≠ '\n' →
      Decoded quote value written → Decoded quote (c :: value) (c :: written)
  | escape {kept spelling value written : List Char} : Escape.StandsFor kept spelling written →
      Decoded quote value written → Decoded quote (kept ++ value) ('\\' :: (spelling ++ written))

namespace Decoded

variable {quote : Char} {value written : List Char}

theorem split (h : Decoded quote value written) {before behind : List Char}
    (here : written = before ++ '\\' :: behind) (unescaped : endsEscaping before = false) :
    ∃ kept spelling after first last, behind = spelling ++ after ∧
      Escape.StandsFor kept spelling after ∧ Decoded quote first before ∧ Decoded quote last after ∧
      value = first ++ (kept ++ last) := by
  induction h generalizing before with
  | nil => simp at here
  | @raw c value written noQuote noEscape noReturn noFeed decoded ih =>
    cases before with
    | nil => exact absurd (List.cons.inj here).1 noEscape
    | cons d before =>
      obtain ⟨rfl, further⟩ := List.cons.inj here
      rw [endsEscaping_cons noEscape] at unescaped
      obtain ⟨kept, spelling, after, first, last, rfl, stands, front, back, rfl⟩ := ih further unescaped
      exact ⟨kept, spelling, after, c :: first, last, rfl, stands,
        .raw noQuote noEscape noReturn noFeed front, back, rfl⟩
  | @escape kept spelling value written stands decoded ih =>
    obtain ⟨c, others, rfl, plain⟩ := stands.no_backslash
    match before with
    | [] =>
      exact ⟨kept, c :: others, written, [], value, (List.cons.inj here).2.symm, stands, .nil, decoded,
        rfl⟩
    | [d] =>
      obtain ⟨rfl, -⟩ := List.cons.inj here
      cases unescaped
    | d :: e :: before =>
      simp only [List.cons_append, List.cons.injEq] at here
      obtain ⟨rfl, rfl, here⟩ := here
      rw [endsEscaping_pair] at unescaped
      -- The escape that is looked for lies behind this one, in whose spelling there is no backslash.
      obtain ⟨between, rfl, further⟩ : ∃ between, before = others ++ between ∧
          written = between ++ '\\' :: behind := by
        rcases List.append_eq_append_iff.1 here with ⟨between, eq, further⟩ | ⟨between, eq, further⟩
        · exact ⟨between, eq, further⟩
        · cases between with
          | nil => exact ⟨[], by simpa using eq.symm, further.symm⟩
          | cons f between =>
            obtain ⟨rfl, -⟩ := List.cons.inj further
            exact absurd (by simp [eq]) plain
      rw [endsEscaping_append (endsEscaping_of_plain plain)] at unescaped
      obtain ⟨inner, spelling, after, first, last, rfl, stands', front, back, rfl⟩ :=
        ih further unescaped
      have alike : between.head?.any Char.isDigit = written.head?.any Char.isDigit := by
        rw [further]
        cases between <;> rfl
      have escaped : Decoded quote (kept ++ first) ('\\' :: ((c :: others) ++ between)) :=
        .escape (stands.congr alike) front
      exact ⟨inner, spelling, after, kept ++ first, last, rfl, stands', escaped, back, by simp⟩

theorem of_stringBody (quotes : quote = '\'' ∨ quote = '"') {offset : Nat} {chars : List Char}
    (closed : (stringBody quote 0 offset chars).closed = true)
    (fine : (stringBody quote 0 offset chars).complaint = none) :
    ∃ written rest, chars = written ++ quote :: rest ∧
      (stringBody quote 0 offset chars).length = written.length + 1 ∧
      Decoded quote (stringBody quote 0 offset chars).value written := by
  have noDigit : quote.isDigit = false := by rcases quotes with rfl | rfl <;> rfl
  induction length : chars.length using Nat.strong_induction_on generalizing chars offset with
  | _ length ih =>
    subst length
    cases chars with
    | nil => cases closed
    | cons c rest =>
      rw [stringBody] at closed fine ⊢
      by_cases lineEnds : (c == '\r' || c == '\n') = true
      · rw [if_pos lineEnds] at closed
        cases closed
      rw [if_neg lineEnds] at closed fine ⊢
      by_cases ends : (c == quote) = true
      · rw [if_pos ends]
        exact ⟨[], rest, by rw [beq_iff_eq.1 ends]; rfl, rfl, .nil⟩
      rw [if_neg ends] at closed fine ⊢
      by_cases escapes : (c == '\\') = true
      · rw [if_pos escapes] at closed fine ⊢
        obtain ⟨wrong, fine⟩ := orElse_eq_none.1 fine
        have some : rest ≠ [] := by
          rintro rfl
          cases closed
        obtain ⟨spelling, behind, rfl, taken, stands⟩ :=
          Escape.inString_standsFor some (Option.map_eq_none_iff.1 wrong)
        simp only [taken, stringBody_skip] at closed fine ⊢
        obtain ⟨written, rest, rfl, length, decoded⟩ :=
          ih behind.length (by simp only [List.length_cons, List.length_append]; omega) closed fine rfl
        refine ⟨'\\' :: (spelling ++ written), rest, ?_, ?_, .escape (stands.congr ?_) decoded⟩
        · rw [beq_iff_eq.1 escapes, List.cons_append, List.append_assoc]
        · simp only [Body.cons, length, List.length_cons, List.length_append]
          omega
        · cases written with
          | nil => exact noDigit.symm
          | cons d written => rfl
      · rw [if_neg escapes] at closed fine ⊢
        obtain ⟨written, rest, rfl, length, decoded⟩ := ih _ (Nat.lt_succ_self _) closed fine rfl
        refine ⟨c :: written, rest, rfl, congrArg (· + 1) length, .raw ?_ ?_ ?_ ?_ decoded⟩
        · simpa using ends
        · simpa using escapes
        · exact fun is => lineEnds (by rw [is]; rfl)
        · exact fun is => lineEnds (by rw [is]; rfl)

end Decoded

theorem readPrivateName_kind (rest : List Char) : (readPrivateName rest).kind ≠ .stringLiteral := by
  unfold readPrivateName
  dsimp only
  split <;> rintro ⟨⟩

theorem readChunk_kind (starts : Bool) (rest : List Char) :
    (readChunk starts rest).kind ≠ .stringLiteral := by
  cases starts <;> simp only [readChunk] <;> split <;> decide

theorem readNumber_kind (chars : List Char) : (readNumber chars).kind ≠ .stringLiteral := by
  unfold readNumber
  dsimp only
  split <;> rintro ⟨⟩

theorem readWord_kind (chars : List Char) : (readWord chars).kind ≠ .stringLiteral := by
  unfold readWord
  dsimp only
  split
  · decide
  split
  · decide
  cases reserved : Kind.ofReserved? (String.ofList (readLetters true 0 0 chars).chars) with
  | none => decide
  | some k =>
    rintro rfl
    exact absurd (Kind.ofReserved_isKeyword reserved).1 (by decide)

/-- An escape by a code stands in the characters, with `before` in front of its backslash and `behind`
after that. -/
structure EscapeAt (chars before behind : List Char) : Prop where
  split : chars = before ++ '\\' :: behind
  unescaped : endsEscaping before = false
  byCode : behind.head? = some 'x' ∨ behind.head? = some 'u'

/-- The escape behind `before` has a code, and there is the character with that code in the value,
between what is in front of the escape and what is behind it. Only of a surrogate there is nothing. -/
def Contributes (quote : Char) (value before behind : List Char) : Prop :=
  ∃ code spelling after first last, (behind = spelling ++ after ∧ Escape.Coded code spelling) ∧
    (Decoded quote first before ∧ Decoded quote last after) ∧
    ((∃ c : Char, c.toNat = code ∧ value = first ++ c :: last) ∨
      IsSurrogate code ∧ value = first ++ last)

theorem Decoded.contributes {quote : Char} {value written before behind : List Char}
    (h : Decoded quote value written) (here : EscapeAt written before behind) :
    Contributes quote value before behind := by
  obtain ⟨kept, spelling, after, first, last, rfl, stands, front, back, rfl⟩ :=
    h.split here.split here.unescaped
  obtain ⟨c, others, rfl, -⟩ := stands.no_backslash
  obtain ⟨code, coded, ⟨d, is, rfl⟩ | ⟨surrogate, rfl⟩⟩ := stands.coded here.byCode
  · exact ⟨code, _, after, first, last, ⟨rfl, coded⟩, ⟨front, back⟩, .inl ⟨d, is, rfl⟩⟩
  · exact ⟨code, _, after, first, last, ⟨rfl, coded⟩, ⟨front, back⟩, .inr ⟨surrogate, rfl⟩⟩

/-- The characters are a string, from one quote to the other, and the value is what it is decoded to. -/
structure DecodedString (quote : Char) (chars written value : List Char) : Prop where
  quotes : quote = '\'' ∨ quote = '"'
  chars_eq : chars = quote :: (written ++ [quote])
  decoded : Decoded quote value written
  contributes : ∀ before behind, EscapeAt written before behind →
    Contributes quote value before behind

namespace DecodedString

variable {quote : Char} {chars written value : List Char}

theorem coded (h : DecodedString quote chars written value) {before behind : List Char}
    (here : EscapeAt chars before behind) :
    ∃ code spelling, Escape.Coded code spelling ∧ spelling <+: behind := by
  have noEscape : quote ≠ '\\' := by rcases h.quotes with rfl | rfl <;> decide
  have noLetter : quote ≠ 'x' ∧ quote ≠ 'u' := by rcases h.quotes with rfl | rfl <;> decide
  obtain ⟨split, unescaped, byCode⟩ := here
  rw [h.chars_eq] at split
  cases before with
  | nil => exact absurd (List.cons.inj split).1 noEscape
  | cons d before =>
    obtain ⟨rfl, further⟩ := List.cons.inj split
    rw [endsEscaping_cons noEscape] at unescaped
    -- The backslash is not the closing quote, nor is the letter behind it.
    obtain ⟨inner, rfl, rfl⟩ : ∃ inner, written = before ++ '\\' :: inner ∧
        behind = inner ++ [quote] := by
      rcases List.append_eq_append_iff.1 further with ⟨between, eq, rest⟩ | ⟨between, eq, rest⟩
      · cases between with
        | nil => exact absurd (List.cons.inj rest).1 noEscape
        | cons e between => simp at rest
      · cases between with
        | nil => exact absurd (List.cons.inj rest).1.symm noEscape
        | cons e between =>
          obtain ⟨rfl, rfl⟩ := List.cons.inj rest
          exact ⟨between, eq, rfl⟩
    have byCode : inner.head? = some 'x' ∨ inner.head? = some 'u' := by
      cases inner with
      | nil =>
        rcases byCode with is | is
        · exact absurd (Option.some.inj is) noLetter.1
        · exact absurd (Option.some.inj is) noLetter.2
      | cons e inner => exact byCode
    obtain ⟨code, spelling, after, first, last, ⟨rfl, coded⟩, -⟩ :=
      h.contributes before inner ⟨rfl, unescaped, byCode⟩
    exact ⟨code, spelling, coded, by simp⟩

end DecodedString

theorem readString_decoded {quote : Char} {rest : List Char} (quotes : quote = '\'' ∨ quote = '"')
    (fine : (readString quote rest).complaint = none) :
    ∃ written behind value, rest = written ++ quote :: behind ∧
      (readString quote rest).length = written.length + 2 ∧
      (readString quote rest).value = String.ofList value ∧ Decoded quote value written := by
  obtain ⟨fine, closed⟩ := orElse_eq_none.1 fine
  have closed : (stringBody quote 0 1 rest).closed = true := by
    by_contra isOpen
    rw [if_neg isOpen] at closed
    cases closed
  obtain ⟨written, behind, eq, length, decoded⟩ := Decoded.of_stringBody quotes closed fine
  exact ⟨written, behind, _, eq, congrArg (· + 1) length, rfl, decoded⟩

namespace Lexer

theorem lexemeAt_string {frame : Frame} {chars : List Char}
    (string : (lexemeAt frame chars).kind = .stringLiteral) :
    ∃ quote rest, (quote = '\'' ∨ quote = '"') ∧ chars = quote :: rest ∧
      lexemeAt frame chars = readString quote rest := by
  cases chars with
  | nil => cases string
  | cons c rest =>
    unfold lexemeAt readToken at string ⊢
    dsimp only at string ⊢
    split at string
    case isTrue quotes =>
      rw [if_pos quotes]
      exact ⟨c, rest, by simpa using quotes, rfl, rfl⟩
    split at string
    · exact absurd string (readChunk_kind true rest)
    split at string
    · exact absurd string (readPrivateName_kind rest)
    split at string
    · exact absurd string (readNumber_kind _)
    split at string
    · exact absurd string (readWord_kind _)
    split at string
    · rename_i kind length read
      have fits : Punctuation.Fits c rest (kind, length) := by
        split at read
        · exact Punctuation.readSplit?_fits read
        · exact Punctuation.read?_fits read
      have spelled := fits.text
      rw [show kind = .stringLiteral from string] at spelled
      cases spelled
    · cases string

/-- A string with which nothing is wrong is decoded, and each of its escapes by a code contributes its
character, unless the code is a surrogate. An escape without a code, with digits missing or a number
past the last code, is an error in any string. -/
theorem scan_escapes (l : Lexer) (string : l.scan.token.kind = .stringLiteral) :
    let t := l.scan.token
    let chars := (l.slice t.start t.stop).toList
    (l.scan.error = none → ∃ quote written value, DecodedString quote chars written value ∧
      t.value = String.ofList value) ∧
    ∀ before behind, EscapeAt chars before behind →
      (∀ code spelling, Escape.Coded code spelling → ¬spelling <+: behind) → l.scan.error ≠ none := by
  obtain ⟨⟨kind, value, stop⟩, -, complaint⟩ := l.scan_lexeme
  obtain ⟨quote, rest, quotes, here, read⟩ := lexemeAt_string (kind.symm.trans string)
  rw [read] at value stop complaint
  intro t chars
  have decodes (clean : l.scan.error = none) :
      ∃ quote written value, DecodedString quote chars written value ∧
        t.value = String.ofList value := by
    obtain ⟨written, behind, decoded, rfl, length, value_eq, decodes⟩ :=
      readString_decoded quotes (complaint clean)
    refine ⟨quote, written, decoded, ⟨quotes, ?_, decodes, fun _ _ => decodes.contributes⟩,
      value.trans value_eq⟩
    have cut : chars = (l.text.drop t.start).take (written.length + 2) := by
      rw [← slice_toList, ← length, ← stop]
    rw [cut, here, List.append_cons, ← List.cons_append, List.take_left' (by simp)]
  refine ⟨decodes, fun before behind escape none clean => ?_⟩
  obtain ⟨quote, written, value, decoded, -⟩ := decodes clean
  obtain ⟨code, spelling, coded, starts⟩ := decoded.coded escape
  exact none code spelling coded starts

theorem scan_escapes_each :
    let l := ofText "'\\x41\\u0062\\u\x7b1f600\x7d\\\\x'".toList
    let t := l.scan.token
    t.kind = .stringLiteral ∧ l.scan.error = none ∧ t.value = "Ab😀\\x" ∧
      ∃ quote written value, DecodedString quote (l.slice t.start t.stop).toList written value ∧
        t.value = String.ofList value := by
  intro l t
  have string : t.kind = .stringLiteral := by decide +kernel
  have clean : l.scan.error = none := by decide +kernel
  exact ⟨string, clean, by decide +kernel, (scan_escapes l string).1 clean⟩

/-- Two surrogates are left out without an error, where the character that they stand for together would
be expected. -/
theorem scan_escapes_differ : ¬∀ l : Lexer, l.scan.token.kind = .stringLiteral →
    l.scan.error = none → ∀ quote written before behind,
      (l.slice l.scan.token.start l.scan.token.stop).toList = quote :: (written ++ [quote]) →
      EscapeAt written before behind →
      ∃ first c last, l.scan.token.value = String.ofList (first ++ c :: last) := by
  intro contributes
  let l := ofText "'\\uD83D\\uDE00'".toList
  obtain ⟨first, c, last, value⟩ := contributes l (by decide +kernel) (by decide +kernel)
    '\'' "\\uD83D\\uDE00".toList [] "uD83D\\uDE00".toList (by decide +kernel)
    ⟨by decide +kernel, by decide +kernel, by decide +kernel⟩
  have none : l.scan.token.value = String.ofList [] := by decide +kernel
  simp [none] at value

end Lexer

end TypedScript
