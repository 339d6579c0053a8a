import TypedScript.Proofs.Lexer.Bounds

/-! What of a token depends on the characters after it. A token that nothing is wrong with is read again
from its own characters, whatever stood behind them, with a space or the end of the text there. -/

namespace TypedScript

open Text

def Spaced (chars : List Char) : Prop := chars = [] ∨ ∃ rest, chars = ' ' :: rest

variable {p a b : List Char}

theorem Spaced.head_ne (hb : Spaced b) {c : Char} (ne : c ≠ ' ') : b.head? ≠ some c := by
  rcases hb with rfl | ⟨r, rfl⟩ <;> simp [ne.symm]

theorem Spaced.head_any (hb : Spaced b) {q : Char → Bool} (h : q ' ' = false) :
    b.head?.any q = false := by
  rcases hb with rfl | ⟨r, rfl⟩ <;> simp [h]

theorem takeWhile_respace {q : Char → Bool} (h : q ' ' = false) (hb : Spaced b)
    (le : ((p ++ a).takeWhile q).length ≤ p.length) :
    (p ++ b).takeWhile q = (p ++ a).takeWhile q := by
  induction p with
  | nil =>
    rw [List.nil_append, List.eq_nil_of_length_eq_zero (Nat.le_zero.1 le)]
    rcases hb with rfl | ⟨r, rfl⟩ <;> simp [h]
  | cons c p ih =>
    simp only [List.cons_append, List.takeWhile_cons] at le ⊢
    split
    · rename_i fits
      rw [if_pos fits] at le
      rw [ih (Nat.le_of_succ_le_succ le)]
    · rfl

namespace Escape

theorem hexDigits_respace {count : Nat} (value : Nat) (le : count ≤ p.length) :
    hexDigits count value (p ++ b) = hexDigits count value (p ++ a) := by
  induction p generalizing count value with
  | nil =>
    obtain rfl := Nat.le_zero.1 le
    rfl
  | cons c p ih =>
    cases count with
    | zero => rfl
    | succ count =>
      simp only [List.cons_append, hexDigits]
      cases hexValue? c with
      | none => rfl
      | some digit => exact ih _ (Nat.le_of_succ_le_succ le)

theorem fixed_respace {count : Nat} (fine : (fixed count (p ++ a)).complaint = none)
    (le : (fixed count (p ++ a)).length ≤ p.length) :
    fixed count (p ++ b) = fixed count (p ++ a) := by
  have digits : ∃ code, hexDigits count 0 (p ++ a) = some code := by
    cases h : hexDigits count 0 (p ++ a) with
    | none => simp [fixed, h] at fine
    | some code => exact ⟨code, rfl⟩
  obtain ⟨code, digits⟩ := digits
  have le : count ≤ p.length := by simpa [fixed, digits] using le
  simp only [fixed, hexDigits_respace (a := a) (b := b) 0 le, digits]

theorem braced_respace (hb : Spaced b) (fine : (braced (p ++ a)).complaint = none)
    (le : (braced (p ++ a)).length ≤ p.length) : braced (p ++ b) = braced (p ++ a) := by
  have closed : ((p ++ a)[(hexRun (p ++ a)).length]? == some '\x7d') = true := by
    cases h : ((p ++ a)[(hexRun (p ++ a)).length]? == some '\x7d') with
    | true => rfl
    | false => simp [braced, h] at fine
  have lt : (hexRun (p ++ a)).length < p.length := by
    have : (braced (p ++ a)).length = (hexRun (p ++ a)).length + 1 := by
      unfold braced
      dsimp only
      rw [closed]
      split <;> rfl
    omega
  have run : hexRun (p ++ b) = hexRun (p ++ a) :=
    takeWhile_respace (by decide) hb (Nat.le_of_lt lt)
  have mark : (p ++ b)[(hexRun (p ++ a)).length]? = (p ++ a)[(hexRun (p ++ a)).length]? := by
    rw [List.getElem?_append_left lt, List.getElem?_append_left lt]
  simp only [braced, run, mark]

theorem unicode_of_ne {c : Char} (h : c ≠ '\x7b') (rest : List Char) :
    unicode (c :: rest) = fixed 4 (c :: rest) := by
  unfold unicode
  split
  · rename_i eq
    exact absurd (List.cons.inj eq).1 h
  · rfl

theorem unicode_respace (hb : Spaced b) (fine : (unicode (p ++ a)).complaint = none)
    (le : (unicode (p ++ a)).length ≤ p.length) : unicode (p ++ b) = unicode (p ++ a) := by
  cases p with
  | nil =>
    -- An escape that is complete has a character at least.
    refine absurd le (Nat.not_le.2 ?_)
    rw [List.nil_append] at fine ⊢
    unfold unicode at fine ⊢
    split at fine
    · simp
    · cases h : hexDigits 4 0 a with
      | none => simp [fixed, h] at fine
      | some code => simp [fixed, h]
  | cons c p =>
    by_cases brace : c = '\x7b'
    · subst brace
      simp only [List.cons_append, unicode, List.length_cons] at fine le ⊢
      rw [braced_respace hb fine (by omega)]
    · simp only [List.cons_append, unicode_of_ne brace] at fine le ⊢
      exact fixed_respace (p := c :: p) fine le

theorem inString_pos (c : Char) (rest : List Char) : 0 < (inString (c :: rest)).length := by
  unfold inString
  dsimp only
  split
  case h_1 => split <;> exact Nat.one_pos
  case h_10 => split <;> simp
  case h_11 => split <;> exact Nat.one_pos
  all_goals exact Nat.succ_pos _

theorem inString_congr {c : Char} (notHex : c ≠ 'x') (notUnicode : c ≠ 'u') {chars chars' : List Char}
    (head : chars.head? = chars'.head?) : inString (c :: chars) = inString (c :: chars') := by
  unfold inString
  dsimp only
  rw [head]
  split <;> first | rfl | contradiction

theorem inString_respace (hb : Spaced b) (fine : (inString (p ++ a)).complaint = none)
    (lt : (inString (p ++ a)).length < p.length) : inString (p ++ b) = inString (p ++ a) := by
  cases p with
  | nil => exact absurd lt (Nat.not_lt_zero _)
  | cons c p =>
    by_cases hex : c = 'x'
    · subst hex
      simp only [List.cons_append, inString, List.length_cons] at fine lt ⊢
      rw [fixed_respace fine (by omega)]
    by_cases unicode : c = 'u'
    · subst unicode
      simp only [List.cons_append, inString, List.length_cons] at fine lt ⊢
      rw [unicode_respace hb fine (by omega)]
    · refine inString_congr hex unicode ?_
      cases p with
      | nil =>
        have := inString_pos c a
        simp only [List.cons_append, List.nil_append, List.length_cons, List.length_nil] at lt
        omega
      | cons => rfl

end Escape

theorem stringBody_skip_lt {quote : Char} {skip offset : Nat} {chars : List Char}
    (closed : (stringBody quote skip offset chars).closed = true) :
    skip < (stringBody quote skip offset chars).length := by
  induction chars generalizing skip offset with
  | nil => cases skip <;> cases closed
  | cons c rest ih =>
    cases skip with
    | succ skip => exact Nat.succ_lt_succ (@ih skip (offset + 1) closed)
    | zero =>
      unfold stringBody at closed ⊢
      split <;> rename_i lineBreak
      · rw [if_pos lineBreak] at closed
        cases closed
      · split
        · exact Nat.one_pos
        · split <;> exact Nat.succ_pos _

theorem orElse_eq_none {α : Type} {x y : Option α} :
    (x <|> y) = none ↔ x = none ∧ y = none := by
  simp

theorem stringBody_respace {quote : Char} {skip offset : Nat} (hb : Spaced b)
    (closed : (stringBody quote skip offset (p ++ a)).closed = true)
    (fine : (stringBody quote skip offset (p ++ a)).complaint = none)
    (le : (stringBody quote skip offset (p ++ a)).length ≤ p.length) :
    stringBody quote skip offset (p ++ b) = stringBody quote skip offset (p ++ a) := by
  induction p generalizing skip offset with
  | nil =>
    have := stringBody_skip_lt closed
    exact absurd le (by simp only [List.length_nil]; omega)
  | cons c p ih =>
    cases skip with
    | succ skip =>
      simp only [List.cons_append, stringBody] at closed fine le ⊢
      rw [@ih _ (offset + 1) closed fine (Nat.le_of_succ_le_succ le)]
    | zero =>
      simp only [List.cons_append, stringBody] at closed fine le ⊢
      by_cases lineBreak : (c == '\r' || c == '\n') = true
      · rw [if_pos lineBreak] at closed
        cases closed
      by_cases quoted : (c == quote) = true
      · simp only [lineBreak, quoted, Bool.false_eq_true, if_true, if_false]
      by_cases escapes : (c == '\\') = true
      · simp only [lineBreak, quoted, escapes, Bool.false_eq_true, if_true, if_false]
          at closed fine le ⊢
        obtain ⟨known, fine⟩ := orElse_eq_none.1 fine
        have le := Nat.le_of_succ_le_succ le
        have lt := stringBody_skip_lt closed
        have same : Escape.inString (p ++ b) = Escape.inString (p ++ a) :=
          Escape.inString_respace hb (by simpa using known) (Nat.lt_of_lt_of_le lt le)
        rw [same, @ih _ (offset + 1) closed fine le]
      · simp only [lineBreak, quoted, escapes, Bool.false_eq_true, if_false] at closed fine le ⊢
        rw [@ih _ (offset + 1) closed fine (Nat.le_of_succ_le_succ le)]

theorem readString_respace {quote : Char} (hb : Spaced b)
    (fine : (readString quote (p ++ a)).complaint = none)
    (le : (readString quote (p ++ a)).length ≤ p.length + 1) :
    readString quote (p ++ b) = readString quote (p ++ a) := by
  obtain ⟨fine, closed⟩ := orElse_eq_none.1 fine
  have closed : (stringBody quote 0 1 (p ++ a)).closed = true := by simpa using closed
  simp only [readString, stringBody_respace hb closed fine (Nat.le_of_succ_le_succ le)]

theorem Chunk.read_pos {chars : List Char} (ends : (read chars).ending ≠ .missing) :
    0 < (read chars).length := by
  unfold read at ends ⊢
  split at ends
  · exact absurd rfl ends
  all_goals exact Nat.succ_pos _

theorem Chunk.one_lt_read {c : Char} {rest : List Char} (tick : c ≠ '\x60')
    (ends : (read (c :: rest)).ending ≠ .missing) : 1 < (read (c :: rest)).length := by
  have more (raw : List Char) {count : Nat} (pos : 0 < count) {k : Chunk}
      (ends : (k.cons raw count).ending ≠ .missing) (is : k = read rest ∨ 1 < count) :
      1 < (k.cons raw count).length := by
    simp only [Chunk.cons]
    rcases is with rfl | long
    · have := read_pos ends
      omega
    · omega
  unfold read at ends ⊢
  split at ends
  case h_1 eq => cases eq
  case h_2 eq => exact absurd (List.cons.inj eq).1 tick
  case h_3 => exact Nat.one_lt_two
  case h_4 => exact more _ Nat.two_pos ends (.inr Nat.one_lt_two)
  case h_5 => exact more _ Nat.two_pos ends (.inr Nat.one_lt_two)
  case h_6 eq =>
    obtain ⟨-, rfl⟩ := List.cons.inj eq
    exact more _ Nat.one_pos ends (.inl rfl)
  case h_7 eq =>
    obtain ⟨-, rfl⟩ := List.cons.inj eq
    exact more _ Nat.one_pos ends (.inl rfl)

theorem Chunk.read_respace (ends : (read (p ++ a)).ending ≠ .missing)
    (le : (read (p ++ a)).length ≤ p.length) : read (p ++ b) = read (p ++ a) := by
  induction p using Chunk.read.induct with
  | case1 => exact absurd (Chunk.read_pos ends) (Nat.not_lt.2 le)
  | case2 => rfl
  | case3 => rfl
  | case4 c rest ih =>
    simp only [List.cons_append, read] at ends le ⊢
    rw [ih ends (Nat.le_of_add_le_add_right le)]
  | case5 rest ih =>
    simp only [List.cons_append, read] at ends le ⊢
    rw [ih ends (Nat.le_of_add_le_add_right le)]
  | case6 rest other ih =>
    cases rest with
    | nil => exact absurd (Chunk.one_lt_read (by decide) ends) (Nat.not_lt.2 le)
    | cons d tail =>
      have plain (more : List Char) :
          read ('\r' :: d :: (tail ++ more)) = (read (d :: (tail ++ more))).cons ['\n'] 1 := by
        rw [read]
        exact fun r eq => other tail (by rw [(List.cons.inj eq).1])
      simp only [List.cons_append, plain] at ends le ih ⊢
      rw [ih ends (Nat.le_of_add_le_add_right le)]
  | case7 c rest tick dollar backslash crlf cr ih =>
    cases rest with
    | nil => exact absurd (Chunk.one_lt_read tick ends) (Nat.not_lt.2 le)
    | cons d tail =>
      have plain (more : List Char) :
          read (c :: d :: (tail ++ more)) = (read (d :: (tail ++ more))).cons [c] 1 := by
        rw [read]
        · exact tick
        · exact fun r is eq => dollar tail is (by rw [(List.cons.inj eq).1])
        · exact fun _ _ is _ => backslash d tail is rfl
        · exact fun _ is _ => cr is
        · exact cr
      simp only [List.cons_append, plain] at ends le ih ⊢
      rw [ih ends (Nat.le_of_add_le_add_right le)]

theorem readChunk_respace {starts : Bool} (fine : (readChunk starts (p ++ a)).complaint = none)
    (le : (readChunk starts (p ++ a)).length ≤ p.length + 1) :
    readChunk starts (p ++ b) = readChunk starts (p ++ a) := by
  have ends : (Chunk.read (p ++ a)).ending ≠ .missing := fun missing => by
    simp [readChunk, missing] at fine
  simp only [readChunk, Chunk.read_respace ends (Nat.le_of_succ_le_succ le)]

theorem readLetters_skip_le {first : Bool} {skip offset : Nat} {chars : List Char}
    (le : skip ≤ chars.length) : skip ≤ (readLetters first skip offset chars).length := by
  induction chars generalizing skip offset with
  | nil => exact Nat.le_trans le (Nat.zero_le _)
  | cons c rest ih =>
    cases skip with
    | zero => exact Nat.zero_le _
    | succ skip => exact Nat.succ_le_succ (@ih skip (offset + 1) (Nat.le_of_succ_le_succ le))

theorem readLetters_spaced (hb : Spaced b) (first : Bool) (offset : Nat) :
    readLetters first 0 offset b = {} := by
  have blank : fitsName first ' ' = false := by cases first <;> decide
  rcases hb with rfl | ⟨r, rfl⟩
  · rfl
  · simp [readLetters, blank]

theorem Escape.complaint_of_char {chars : List Char} (h : (unicode chars).char.isSome) :
    (unicode chars).complaint = none := by
  unfold unicode at h ⊢
  split at h
  · simp only [braced] at h ⊢
    split at h
    · cases h
    · rename_i fine
      rw [if_neg fine]
  · simp only [fixed] at h ⊢
    split at h
    · rfl
    · cases h

theorem readLetters_escape (first : Bool) (offset : Nat) (rest : List Char) :
    readLetters first 0 offset ('\\' :: 'u' :: rest) =
      match (Escape.unicode rest).char.filter (fitsName first) with
      | some letter =>
        let w := readLetters false ((Escape.unicode rest).length + 1) (offset + 1) ('u' :: rest)
        { w with chars := letter :: w.chars, length := w.length + 1, escaped := true }
      | none =>
        { length := (Escape.unicode rest).length + 2
          complaint := some ⟨(Escape.unicode rest).complaint.getD .invalidUnicodeEscape, offset,
            offset + 2 + (Escape.unicode rest).length⟩ } := rfl

theorem one_lt_readLetters {first : Bool} {offset : Nat} (rest : List Char) :
    1 < (readLetters first 0 offset ('\\' :: 'u' :: rest)).length := by
  rw [readLetters_escape]
  dsimp only
  split
  · have : (Escape.unicode rest).length + 1 ≤ _ :=
      @readLetters_skip_le false _ (offset + 1) ('u' :: rest)
        (Nat.succ_le_succ (Escape.unicode_length_le rest))
    simp only
    omega
  · simp only
    omega

theorem readLetters_respace {first : Bool} {skip offset : Nat} (hb : Spaced b)
    (enough : skip ≤ p.length)
    (fine : (readLetters first skip offset (p ++ a)).complaint = none)
    (all : (readLetters first skip offset (p ++ a)).length = p.length) :
    readLetters first skip offset (p ++ b) = readLetters first skip offset (p ++ a) := by
  induction p generalizing first skip offset with
  | nil =>
    obtain rfl := Nat.le_zero.1 enough
    rw [List.nil_append, readLetters_spaced hb]
    cases a with
    | nil => rfl
    | cons c rest =>
      simp only [List.nil_append, readLetters] at all ⊢
      split at all
      · split at all <;> simp at all
      · rename_i escape
        rw [if_neg escape]
        split at all
        · simp at all
        · rename_i fits
          rw [if_neg fits]
  | cons c p ih =>
    cases skip with
    | succ skip =>
      simp only [List.cons_append, readLetters] at fine all ⊢
      rw [ih (Nat.le_of_succ_le_succ enough) fine (Nat.succ.inj all)]
    | zero =>
      -- Where no escape starts, the name is as long as what follows the character.
      have further (plain : ∀ more, p ++ more = p ++ a ∨ p ++ more = p ++ b →
          ¬(c == '\\' && (p ++ more).head? == some 'u') = true) :
          readLetters first 0 offset (c :: (p ++ b)) =
            readLetters first 0 offset (c :: (p ++ a)) := by
        simp only [List.cons_append, readLetters, if_neg (plain a (.inl rfl))] at fine all
        simp only [readLetters, if_neg (plain a (.inl rfl)), if_neg (plain b (.inr rfl))]
        split
        · rename_i fits
          rw [if_pos fits] at fine all
          rw [ih (Nat.zero_le _) fine (Nat.succ.inj all)]
        · rfl
      cases p with
      | nil =>
        refine further fun more is escape => ?_
        obtain ⟨rfl, u⟩ : c = '\\' ∧ more.head? = some 'u' := by simpa using escape
        rcases is with is | is <;> obtain rfl : more = _ := is
        · obtain ⟨rest, rfl⟩ := List.head?_eq_some_iff.1 u
          have := @one_lt_readLetters first offset rest
          simp only [List.cons_append, List.nil_append, List.length_singleton] at all
          omega
        · exact hb.head_ne (by decide) u
      | cons d tail =>
        by_cases escape : (c == '\\' && d == 'u') = true
        · obtain ⟨rfl, rfl⟩ : c = '\\' ∧ d = 'u' := by simpa using escape
          simp only [List.cons_append, readLetters_escape] at fine all ⊢
          split at fine
          · rename_i letter known
            simp only [known, List.length_cons] at all
            have le : (Escape.unicode (tail ++ a)).length ≤ tail.length := by
              have : (Escape.unicode (tail ++ a)).length + 1 ≤ _ :=
                @readLetters_skip_le false _ (offset + 1) ('u' :: (tail ++ a))
                  (Nat.succ_le_succ (Escape.unicode_length_le (tail ++ a)))
              omega
            have some : (Escape.unicode (tail ++ a)).char.isSome := by
              obtain ⟨some, -⟩ := Option.filter_eq_some_iff.1 known
              simp [some]
            have same : Escape.unicode (tail ++ b) = Escape.unicode (tail ++ a) :=
              Escape.unicode_respace hb (Escape.complaint_of_char some) le
            have := @ih false ((Escape.unicode (tail ++ a)).length + 1) (offset + 1)
              (Nat.succ_le_succ le) fine (Nat.succ.inj all)
            simp only [List.cons_append] at this
            simp only [same, known, this]
          · cases fine
        · exact further fun more _ => by simpa using escape

theorem readWord_respace (hb : Spaced b) (fine : (readWord (p ++ a)).complaint = none)
    (all : (readWord (p ++ a)).length = p.length) : readWord (p ++ b) = readWord (p ++ a) := by
  simp only [readWord, readLetters_respace hb (Nat.zero_le _) fine all]

theorem readPrivateName_respace (hb : Spaced b)
    (fine : (readPrivateName (p ++ a)).complaint = none)
    (all : (readPrivateName (p ++ a)).length = p.length + 1) :
    readPrivateName (p ++ b) = readPrivateName (p ++ a) := by
  unfold readPrivateName at fine all
  dsimp only at fine all
  split at fine
  · exact absurd (orElse_eq_none.1 fine).2 nofun
  · rename_i named
    rw [if_neg named] at all
    simp only [readPrivateName, readLetters_respace hb (Nat.zero_le _) fine (Nat.succ.inj all)]

theorem digitRun_respace {base : Nat} (hb : Spaced b)
    (le : (digitRun base (p ++ a)).length ≤ p.length) :
    digitRun base (p ++ b) = digitRun base (p ++ a) :=
  takeWhile_respace (by simp [isDigitOf, hexValue?]) hb le

theorem fractionPart_of_ne {c : Char} (h : c ≠ '.') (rest : List Char) :
    fractionPart (c :: rest) = [] := by
  unfold fractionPart
  split
  · rename_i eq
    exact absurd (List.cons.inj eq).1 h
  · rfl

theorem fractionPart_respace (hb : Spaced b)
    (le : (fractionPart (p ++ a)).length ≤ p.length) :
    fractionPart (p ++ b) = fractionPart (p ++ a) := by
  cases p with
  | nil =>
    rw [List.nil_append, List.eq_nil_of_length_eq_zero (Nat.le_zero.1 le)]
    rcases hb with rfl | ⟨r, rfl⟩ <;> rfl
  | cons c p =>
    by_cases dot : c = '.'
    · subst dot
      exact congrArg ('.' :: ·) (digitRun_respace hb (Nat.le_of_succ_le_succ le))
    · simp only [List.cons_append, fractionPart_of_ne dot]

theorem exponentPart_unmarked {e : Char} (mark : ¬(e == 'e' || e == 'E') = true)
    (rest : List Char) : exponentPart (e :: rest) = ([], none) := by
  simp only [exponentPart, if_neg mark]

theorem exponentPart_marked {e : Char} (mark : (e == 'e' || e == 'E') = true)
    (rest : List Char) : exponentPart (e :: rest) =
      match rest with
      | sign :: digits =>
        if sign == '+' || sign == '-' then ([e, sign], some (digitRun 10 digits))
        else ([e], some (digitRun 10 rest))
      | [] => ([e], some []) :=
  if_pos mark

theorem exponentPart_respace (hb : Spaced b)
    (le : ((exponentPart (p ++ a)).1 ++ (exponentPart (p ++ a)).2.getD []).length ≤ p.length) :
    exponentPart (p ++ b) = exponentPart (p ++ a) := by
  cases p with
  | nil =>
    have nothing : exponentPart a = ([], none) := by
      cases a with
      | nil => rfl
      | cons e rest =>
        by_cases mark : (e == 'e' || e == 'E') = true
        · rw [List.nil_append, exponentPart_marked mark] at le
          split at le
          · split at le <;> simp at le
          · simp at le
        · exact exponentPart_unmarked mark rest
    rw [List.nil_append, List.nil_append, nothing]
    rcases hb with rfl | ⟨r, rfl⟩ <;> rfl
  | cons e p =>
    by_cases mark : (e == 'e' || e == 'E') = true
    · rw [List.cons_append, exponentPart_marked mark] at le
      rw [List.cons_append, List.cons_append, exponentPart_marked mark, exponentPart_marked mark]
      cases p with
      | nil =>
        have bare (more : List Char) (digits : digitRun 10 more = [])
            (unsigned : ¬(more.head?.any fun c => c == '+' || c == '-') = true) :
            exponentPart (e :: more) = ([e], some []) := by
          rw [exponentPart_marked mark]
          cases more with
          | nil => rfl
          | cons sign rest =>
            dsimp only
            rw [if_neg (by simpa using unsigned), digits]
        rw [← exponentPart_marked mark, ← exponentPart_marked mark, List.nil_append,
          List.nil_append]
        have blank : digitRun 10 b = [] ∧ ¬(b.head?.any fun c => c == '+' || c == '-') = true := by
          rcases hb with rfl | ⟨r, rfl⟩
          · exact ⟨rfl, by simp⟩
          · exact ⟨by simp [digitRun, isDigitOf, hexValue?], by simp⟩
        rw [bare b blank.1 blank.2]
        cases a with
        | nil => rw [bare [] rfl (by simp)]
        | cons sign rest =>
          simp only [List.nil_append] at le
          split at le
          · simp at le
          · rename_i unsigned
            rw [bare (sign :: rest) (by simpa using le) (by simpa using unsigned)]
      | cons sign digits =>
        simp only [List.cons_append] at le ⊢
        split
        · rename_i signed
          rw [if_pos signed] at le
          rw [digitRun_respace hb (by simpa using le)]
        · rename_i unsigned
          rw [if_neg unsigned] at le
          have := digitRun_respace (p := sign :: digits) (a := a) hb (by simpa using le)
          rw [List.cons_append, List.cons_append] at this
          rw [this]
    · rw [List.cons_append, List.cons_append, exponentPart_unmarked mark, exponentPart_unmarked mark]

theorem Numeral.decimal_respace (hb : Spaced b) (le : (decimal (p ++ a)).chars.length ≤ p.length) :
    decimal (p ++ b) = decimal (p ++ a) := by
  simp only [decimal, List.length_append] at le
  have dropped {n : Nat} (h : n ≤ p.length) (more : List Char) :
      (p ++ more).drop n = p.drop n ++ more := List.drop_append_of_le_length h
  have whole : digitRun 10 (p ++ b) = digitRun 10 (p ++ a) := digitRun_respace hb (by omega)
  have fraction : fractionPart ((p ++ b).drop (digitRun 10 (p ++ a)).length) =
      fractionPart ((p ++ a).drop (digitRun 10 (p ++ a)).length) := by
    rw [dropped (by omega), dropped (by omega)]
    rw [dropped (by omega)] at le
    exact fractionPart_respace hb (by rw [List.length_drop]; omega)
  have exponent : exponentPart ((p ++ b).drop ((digitRun 10 (p ++ a)).length +
        (fractionPart ((p ++ a).drop (digitRun 10 (p ++ a)).length)).length)) =
      exponentPart ((p ++ a).drop ((digitRun 10 (p ++ a)).length +
        (fractionPart ((p ++ a).drop (digitRun 10 (p ++ a)).length)).length)) := by
    generalize (digitRun 10 (p ++ a)).length = n at le
    generalize (fractionPart ((p ++ a).drop n)).length = m at le
    rw [dropped (by omega), dropped (by omega)]
    rw [dropped (by omega)] at le
    refine exponentPart_respace hb ?_
    rw [List.length_append, List.length_drop]
    omega
  simp only [decimal, whole, fraction, exponent]

theorem Numeral.read_of_ne {c : Char} (h : c ≠ '0') (rest : List Char) :
    read (c :: rest) = decimal (c :: rest) := by
  unfold read
  split
  · rename_i eq
    exact absurd (List.cons.inj eq).1 h
  · rfl

theorem Numeral.read_zero (mark : Char) (rest : List Char) :
    read ('0' :: mark :: rest) =
      match announcedBase? [mark] with
      | some (base, flags) => .based base flags mark rest
      | none => .decimal ('0' :: mark :: rest) := rfl

theorem Numeral.read_respace (hb : Spaced b) (ne : p ≠ [])
    (le : (read (p ++ a)).chars.length ≤ p.length) : read (p ++ b) = read (p ++ a) := by
  obtain ⟨c, p, rfl⟩ := List.exists_cons_of_ne_nil ne
  by_cases zero : c = '0'
  · subst zero
    cases p with
    | nil =>
      have decimalB : read ('0' :: b) = decimal ('0' :: b) := by
        rcases hb with rfl | ⟨r, rfl⟩ <;> rfl
      have decimalA : read ('0' :: a) = decimal ('0' :: a) := by
        cases a with
        | nil => rfl
        | cons mark rest =>
          simp only [List.cons_append, List.nil_append, read_zero] at le ⊢
          split at le
          · simp [based] at le
          · rfl
      simp only [List.cons_append, List.nil_append, decimalA, decimalB] at le ⊢
      exact decimal_respace (p := ['0']) hb le
    | cons mark rest =>
      have decimal := decimal_respace (p := '0' :: mark :: rest) (a := a) hb
      simp only [List.cons_append, read_zero] at le decimal ⊢
      split
      · rename_i base flags based
        simp only [based, Numeral.based, List.length_cons] at le
        have run : (digitRun base (rest ++ a)).length ≤ rest.length := by omega
        simp only [Numeral.based, digitRun_respace hb run]
      · rename_i none
        rw [none] at le
        exact decimal le
  · rw [List.cons_append, read_of_ne zero] at le
    rw [List.cons_append, List.cons_append, read_of_ne zero, read_of_ne zero]
    exact decimal_respace (p := c :: p) hb le

theorem readNumber_respace (hb : Spaced b) (ne : p ≠ [])
    (all : (readNumber (p ++ a)).length = p.length) : readNumber (p ++ b) = readNumber (p ++ a) := by
  have dropped {n : Nat} (h : n ≤ p.length) (more : List Char) :
      (p ++ more).drop n = p.drop n ++ more := List.drop_append_of_le_length h
  have long : (readNumber (p ++ a)).length = (Numeral.read (p ++ a)).chars.length +
      if ((p ++ a).drop (Numeral.read (p ++ a)).chars.length).head? = some 'n' then 1 else 0 := by
    unfold readNumber
    dsimp only
    split <;> rfl
  have le : (Numeral.read (p ++ a)).chars.length ≤ p.length := by omega
  have suffix : ((p ++ b).drop (Numeral.read (p ++ a)).chars.length).head? = some 'n' ↔
      ((p ++ a).drop (Numeral.read (p ++ a)).chars.length).head? = some 'n' := by
    rw [dropped le] at long ⊢
    rw [dropped le]
    cases left : p.drop (Numeral.read (p ++ a)).chars.length with
    | cons => rfl
    | nil =>
      have := List.drop_eq_nil_iff.1 left
      rw [left] at long
      have noSuffix : ¬a.head? = some 'n' := fun suffix => by
        rw [List.nil_append, if_pos suffix] at long
        omega
      exact iff_of_false (hb.head_ne (by decide)) noSuffix
  simp only [readNumber, Numeral.read_respace hb ne le, suffix]

namespace Punctuation

theorem read?_respace {c : Char} {m : Kind × Nat} (hb : Spaced b) (read : read? c (p ++ a) = some m)
    (all : m.2 = p.length + 1) : read? c (p ++ b) = some m := by
  have spelled : m.1.text?.map String.toList = some (c :: p) := by
    rw [(read?_fits read).text, all, List.take_succ_cons, List.take_left]
  unfold read? at read
  split at read
  case h_26 => cases read
  all_goals
    first
    | unfold afterDot at read | unfold afterQuestion at read | unfold afterLess at read
    | unfold afterGreater at read | unfold afterEquals at read | unfold afterExclamation at read
    | unfold afterPlus at read | unfold afterMinus at read | unfold afterAsterisk at read
    | unfold assignable at read | unfold afterAmpersand at read | unfold afterBar at read
    | skip
  all_goals try split at read
  all_goals try split at read
  all_goals
    cases read
    cases spelled
    rcases hb with rfl | ⟨r, rfl⟩ <;> rfl

end Punctuation

theorem one_lt_readNumber {d : Char} (digit : isDigit d = true) (rest : List Char) :
    1 < (readNumber ('.' :: d :: rest)).length := by
  have ten := isDigitOf_ten digit
  have run : 0 < (digitRun 10 (d :: rest)).length := by
    simp [digitRun, ten]
  have two : 1 < (Numeral.read ('.' :: d :: rest)).chars.length := by
    rw [Numeral.read_of_ne (by decide)]
    have whole : digitRun 10 ('.' :: d :: rest) = [] := by simp [digitRun, isDigitOf, hexValue?]
    simp only [Numeral.decimal, whole, List.nil_append, List.length_nil, List.drop_zero,
      fractionPart, List.cons_append, List.length_cons, List.length_append]
    omega
  unfold readNumber
  dsimp only
  split
  · exact Nat.lt_succ_of_lt two
  · exact two

theorem one_lt_readWord (rest : List Char) : 1 < (readWord ('\\' :: 'u' :: rest)).length :=
  one_lt_readLetters rest

theorem readToken_respace {c : Char} (hb : Spaced b)
    (fine : (readToken false c (p ++ a)).complaint = none)
    (all : (readToken false c (p ++ a)).length = p.length + 1) :
    readToken false c (p ++ b) = readToken false c (p ++ a) := by
  -- What the second character decides about the kind of token it decides with the space as well.
  have second {q : Char → Bool} (notSpace : q ' ' = false)
      (longer : ∀ d rest, a = d :: rest → q d = true → p = [] → False) :
      (p ++ b).head?.any q = (p ++ a).head?.any q := by
    cases p with
    | cons => rfl
    | nil =>
      rw [List.nil_append, hb.head_any notSpace]
      cases a with
      | nil => rfl
      | cons d rest => exact (Bool.eq_false_iff.2 fun h => longer d rest rfl h rfl).symm
  have isU (chars : List Char) : (chars.head? == some 'u') = chars.head?.any (· == 'u') := by
    cases chars <;> simp
  have le := Nat.le_of_eq all
  unfold readToken at fine all le ⊢
  split
  · rename_i quoted
    rw [if_pos quoted] at fine le
    exact readString_respace hb fine le
  rename_i unquoted
  rw [if_neg unquoted] at fine all le
  split
  · rename_i tick
    rw [if_pos tick] at fine le
    exact readChunk_respace fine le
  rename_i noTick
  rw [if_neg noTick] at fine all
  split
  · rename_i hash
    rw [if_pos hash] at fine all
    exact readPrivateName_respace hb fine all
  rename_i noHash
  rw [if_neg noHash] at fine all
  have number : (isDigit c || (c == '.' && (p ++ b).head?.any isDigit)) =
      (isDigit c || (c == '.' && (p ++ a).head?.any isDigit)) := by
    by_cases dot : c = '.'
    · subst dot
      rw [second (by decide) fun d rest starts digit empty => ?_]
      subst starts empty
      rw [List.nil_append, if_pos (by simp [digit])] at all
      have := one_lt_readNumber digit rest
      rw [all] at this
      exact absurd this (Nat.lt_irrefl 1)
    · rw [beq_false_of_ne dot, Bool.false_and, Bool.false_and]
  rw [number]
  split
  · rename_i isNumber
    rw [if_pos isNumber] at all
    exact readNumber_respace (p := c :: p) hb (List.cons_ne_nil _ _) all
  rename_i notNumber
  rw [if_neg notNumber] at fine all
  have word : (isNameStart c || (c == '\\' && (p ++ b).head? == some 'u')) =
      (isNameStart c || (c == '\\' && (p ++ a).head? == some 'u')) := by
    by_cases backslash : c = '\\'
    · subst backslash
      rw [isU, isU, second (by decide) fun d rest starts u empty => ?_]
      obtain rfl : d = 'u' := by simpa using u
      subst starts empty
      rw [List.nil_append, if_pos (by simp)] at all
      have := one_lt_readWord rest
      rw [all] at this
      exact absurd this (Nat.lt_irrefl 1)
    · rw [beq_false_of_ne backslash, Bool.false_and, Bool.false_and]
  rw [word]
  split
  · rename_i isWord
    rw [if_pos isWord] at fine all
    exact readWord_respace (p := c :: p) hb fine all
  rename_i notWord
  rw [if_neg notWord] at fine all
  simp only [Bool.false_eq_true, if_false] at fine all ⊢
  cases read : Punctuation.read? c (p ++ a) with
  | none => simp [read] at fine
  | some m =>
    rw [read] at all
    rw [Punctuation.read?_respace hb read all]

end TypedScript
