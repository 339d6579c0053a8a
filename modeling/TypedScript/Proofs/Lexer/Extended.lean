import TypedScript.Proofs.Lexer.Bounds

/-! What is read of characters that have a semicolon after them, on a line of its own. It is what is
read without the semicolon, or something is wrong either way; only the blanks before the end of the
characters go on to the semicolon. -/

namespace TypedScript

open Text

/-- What comes after a type in the texts of declarations. -/
def semiLine : List Char := ['\n', ';']

variable {chars rest : List Char}

theorem takeWhile_semiLine {p : Char → Bool} (h : p '\n' = false) (chars : List Char) :
    (chars ++ semiLine).takeWhile p = chars.takeWhile p := by
  induction chars with
  | nil => simp [semiLine, h]
  | cons c rest ih => simp only [List.cons_append, List.takeWhile_cons, ih]

namespace Escape

theorem hexDigits_append (count value : Nat) (chars : List Char) :
    hexDigits count value (chars ++ semiLine) = hexDigits count value chars := by
  induction chars generalizing count value with
  | nil =>
    cases count with
    | zero => rfl
    | succ count => rfl
  | cons c rest ih =>
    cases count with
    | zero => rfl
    | succ count =>
      simp only [List.cons_append, hexDigits]
      cases hexValue? c with
      | none => rfl
      | some digit => exact ih ..

theorem hexRun_append (chars : List Char) : hexRun (chars ++ semiLine) = hexRun chars :=
  takeWhile_semiLine rfl chars

theorem fixed_append (count : Nat) (chars : List Char) :
    fixed count (chars ++ semiLine) = fixed count chars := by
  simp only [fixed, hexDigits_append, hexRun_append]

theorem braced_append (chars : List Char) : braced (chars ++ semiLine) = braced chars := by
  have mark : ((chars ++ semiLine)[(hexRun chars).length]? == some '\x7d') =
      (chars[(hexRun chars).length]? == some '\x7d') := by
    rcases Nat.lt_or_eq_of_le (hexRun_length_le chars) with lt | eq
    · rw [List.getElem?_append_left lt]
    · rw [List.getElem?_append_right (Nat.le_of_eq eq.symm), eq, Nat.sub_self]
      simp [semiLine]
  simp only [braced, hexRun_append, mark]

theorem unicode_append (chars : List Char) : unicode (chars ++ semiLine) = unicode chars := by
  cases chars with
  | nil => rfl
  | cons c rest =>
    by_cases brace : c = '\x7b'
    · subst brace
      simp only [List.cons_append, unicode, braced_append]
    · have other (tail : List Char) : unicode (c :: tail) = fixed 4 (c :: tail) := by
        unfold unicode
        split
        · simp_all
        · rfl
      rw [List.cons_append, other, other, ← List.cons_append, fixed_append]

theorem inString_append (h : chars ≠ []) (h' : chars ≠ ['\r']) :
    inString (chars ++ semiLine) = inString chars := by
  obtain ⟨c, rest, rfl⟩ := List.exists_cons_of_ne_nil h
  have digit : (rest ++ semiLine).head?.any isDigit = rest.head?.any isDigit := by
    cases rest <;> rfl
  simp only [List.cons_append, inString, digit, fixed_append, unicode_append]
  split <;> try rfl
  cases rest with
  | nil => exact absurd rfl h'
  | cons => rfl

end Escape

theorem stringBody_semiLine {quote : Char} (ne : quote ≠ ';') (skip offset : Nat) :
    (stringBody quote skip offset semiLine).closed = false := by
  match skip with
  | 0 => rfl
  | 1 => simp [stringBody, semiLine, Body.cons, ne.symm]
  | skip + 2 => simp [stringBody, semiLine, Body.cons]

theorem stringBody_append {quote : Char} (ne : quote ≠ ';') (skip offset : Nat)
    (chars : List Char) :
    ((stringBody quote skip offset chars).closed = true →
      stringBody quote skip offset (chars ++ semiLine) = stringBody quote skip offset chars) ∧
    ((stringBody quote skip offset chars).closed = false →
      (stringBody quote skip offset (chars ++ semiLine)).closed = false) := by
  induction chars generalizing skip offset with
  | nil => exact ⟨by simp [stringBody], fun _ => stringBody_semiLine ne skip offset⟩
  | cons c rest ih =>
    have cons (kept : List Char) (b : Body) : (b.cons kept).closed = b.closed := rfl
    cases skip with
    | succ skip =>
      simp only [List.cons_append, stringBody, cons]
      exact ⟨fun closed => by rw [(ih skip (offset + 1)).1 closed], (ih skip (offset + 1)).2⟩
    | zero =>
      simp only [List.cons_append, stringBody]
      split
      · exact ⟨by simp, fun _ => rfl⟩
      · split
        · exact ⟨fun _ => rfl, by simp⟩
        · split
          · by_cases short : rest = [] ∨ rest = ['\r']
            · have open_ (skip : Nat) :
                  (stringBody quote skip (offset + 1) rest).closed = false := by
                rcases short with rfl | rfl
                · rfl
                · cases skip <;> simp [stringBody, Body.cons]
              have open' (skip : Nat) :
                  (stringBody quote skip (offset + 1) (rest ++ semiLine)).closed = false := by
                rcases short with rfl | rfl
                · exact stringBody_semiLine ne _ _
                · cases skip with
                  | zero => simp [stringBody]
                  | succ skip => exact stringBody_semiLine ne skip (offset + 1 + 1)
              simp only [cons, open_, open']
              exact ⟨by simp, fun _ => trivial⟩
            · rw [not_or] at short
              simp only [Escape.inString_append short.1 short.2, cons]
              exact ⟨fun closed => by rw [(ih _ (offset + 1)).1 closed], (ih _ (offset + 1)).2⟩
          · simp only [cons]
            exact ⟨fun closed => by rw [(ih 0 (offset + 1)).1 closed], (ih 0 (offset + 1)).2⟩

theorem readString_append {quote : Char} (ne : quote ≠ ';') (rest : List Char) :
    readString quote (rest ++ semiLine) = readString quote rest ∨
      (readString quote rest).complaint.isSome ∧
        (readString quote (rest ++ semiLine)).complaint.isSome := by
  have body := stringBody_append ne 0 1 rest
  cases closed : (stringBody quote 0 1 rest).closed with
  | true => exact .inl (by simp only [readString, body.1 closed])
  | false => exact .inr (by simp [readString, closed, body.2 closed])

theorem Chunk.read_append (chars : List Char) :
    ((Chunk.read chars).ending ≠ .missing →
      Chunk.read (chars ++ semiLine) = Chunk.read chars) ∧
    ((Chunk.read chars).ending = .missing →
      (Chunk.read (chars ++ semiLine)).ending = .missing) := by
  have cons (raw : List Char) (count : Nat) (k : Chunk) :
      (k.cons raw count).ending = k.ending := rfl
  induction chars using Chunk.read.induct with
  | case1 => exact ⟨fun ne => absurd rfl ne, fun _ => rfl⟩
  | case2 => exact ⟨fun _ => rfl, nofun⟩
  | case3 => exact ⟨fun _ => rfl, nofun⟩
  | case4 c rest ih =>
    simp only [List.cons_append, Chunk.read, cons]
    exact ⟨fun ends => by rw [ih.1 ends], ih.2⟩
  | case5 rest ih =>
    simp only [List.cons_append, Chunk.read, cons]
    exact ⟨fun ends => by rw [ih.1 ends], ih.2⟩
  | case6 rest other ih =>
    have plain (tail : List Char) (h : ∀ r, tail = '\n' :: r → False) :
        Chunk.read ('\r' :: tail) = (Chunk.read tail).cons ['\n'] 1 := by
      rw [Chunk.read]
      exact h
    cases rest with
    | nil => exact ⟨fun ends => absurd rfl ends, fun _ => rfl⟩
    | cons d tail =>
      have other' : ∀ r, d :: tail ++ semiLine = '\n' :: r → False := fun r eq =>
        other tail (by rw [(List.cons.inj eq).1])
      rw [List.cons_append, plain _ other, plain _ other', cons, cons]
      exact ⟨fun ends => by rw [ih.1 ends], ih.2⟩
  | case7 c rest tick dollar backslash crlf cr ih =>
    have plain (tail : List Char) (h : ∀ r, c = '$' → tail = '\x7b' :: r → False)
        (h' : ∀ d r, c = '\\' → tail = d :: r → False) :
        Chunk.read (c :: tail) = (Chunk.read tail).cons [c] 1 := by
      rw [Chunk.read]
      · exact tick
      · exact h
      · exact h'
      · exact fun _ is _ => cr is
      · exact cr
    by_cases escapes : c = '\\'
    · cases rest with
      | nil =>
        subst escapes
        exact ⟨fun ends => absurd rfl ends, fun _ => rfl⟩
      | cons d tail => exact absurd rfl (backslash d tail escapes)
    · have opens : ∀ r, c = '$' → rest ++ semiLine = '\x7b' :: r → False := by
        cases rest with
        | nil => exact fun r _ eq => absurd (List.cons.inj eq).1 (by decide)
        | cons d tail => exact fun r is eq => dollar tail is (by rw [(List.cons.inj eq).1])
      rw [List.cons_append, plain _ dollar backslash, plain _ opens fun _ _ is => absurd is escapes,
        cons, cons]
      exact ⟨fun ends => by rw [ih.1 ends], ih.2⟩

theorem readChunk_append (starts : Bool) (rest : List Char) :
    readChunk starts (rest ++ semiLine) = readChunk starts rest ∨
      (readChunk starts rest).complaint.isSome ∧
        (readChunk starts (rest ++ semiLine)).complaint.isSome := by
  have chunk := Chunk.read_append rest
  by_cases missing : (Chunk.read rest).ending = .missing
  · exact .inr (by simp [readChunk, missing, chunk.2 missing])
  · exact .inl (by simp only [readChunk, chunk.1 missing])

theorem regularExpressionBody_append (inClass : Bool) (chars : List Char) :
    ((regularExpressionBody inClass chars).closed = true →
      regularExpressionBody inClass (chars ++ semiLine) = regularExpressionBody inClass chars) ∧
    ((regularExpressionBody inClass chars).closed = false →
      (regularExpressionBody inClass (chars ++ semiLine)).closed = false) := by
  have newline : isLineBreak '\n' = true := rfl
  have last (inClass : Bool) :
      (regularExpressionBody inClass ['\\']).closed = false ∧
        (regularExpressionBody inClass (['\\'] ++ semiLine)).closed = false := by
    cases inClass <;> exact ⟨rfl, rfl⟩
  induction inClass, chars using regularExpressionBody.induct with
  | case1 inClass => exact ⟨by rintro ⟨⟩, fun _ => by simp [semiLine, regularExpressionBody, newline]⟩
  | case2 inClass c rest breaks =>
    simp only [List.cons_append, regularExpressionBody, breaks, if_true]
    exact ⟨by rintro ⟨⟩, fun _ => trivial⟩
  | case3 inClass c rest breaks ih =>
    simp only [List.cons_append, regularExpressionBody, breaks]
    exact ⟨fun closed => by rw [ih.1 closed], ih.2⟩
  | case4 inClass c rest other breaks =>
    have ne : c ≠ '\\' := by rintro rfl; cases breaks
    rw [List.cons_append, regularExpressionBody_cons ne, regularExpressionBody_cons ne, if_pos breaks,
      if_pos breaks]
    exact ⟨by rintro ⟨⟩, fun _ => rfl⟩
  | case5 inClass c rest other breaks slash =>
    have ne : c ≠ '\\' := by rintro rfl; simp at slash
    rw [List.cons_append, regularExpressionBody_cons ne, regularExpressionBody_cons ne, if_neg breaks,
      if_neg breaks, if_pos slash, if_pos slash, takeWhile_semiLine (by decide)]
    exact ⟨fun _ => rfl, by rintro ⟨⟩⟩
  | case6 inClass c rest other breaks slash inner ih =>
    by_cases ne : c = '\\'
    · cases rest with
      | nil =>
        subst ne
        exact ⟨fun closed => absurd closed (by simp [(last inClass).1]), fun _ => (last inClass).2⟩
      | cons d tail => exact absurd rfl (other d tail ne)
    · rw [List.cons_append, regularExpressionBody_cons ne, regularExpressionBody_cons ne, if_neg breaks,
        if_neg breaks, if_neg slash, if_neg slash]
      exact ⟨fun closed => congrArg (Reach.after 1) (ih.1 closed), ih.2⟩

theorem readRegularExpression_append {chars : List Char} (ne : chars ≠ []) :
    readRegularExpression (chars ++ semiLine) = readRegularExpression chars ∨
      (readRegularExpression chars).complaint.isSome ∧
        (readRegularExpression (chars ++ semiLine)).complaint.isSome := by
  obtain ⟨c, rest, rfl⟩ := List.exists_cons_of_ne_nil ne
  have body := regularExpressionBody_append false rest
  cases closed : (regularExpressionBody false rest).closed with
  | true =>
    have le := regularExpressionBody_length_le false rest
    have taken : (c :: (rest ++ semiLine)).take ((regularExpressionBody false rest).length + 1) =
        (c :: rest).take ((regularExpressionBody false rest).length + 1) := by
      simp [List.take_append_of_le_length le]
    exact .inl (by simp [readRegularExpression, body.1 closed, taken, closed])
  | false => exact .inr (by simp [readRegularExpression, closed, body.2 closed])

theorem digitRun_append (base : Nat) (chars : List Char) :
    digitRun base (chars ++ semiLine) = digitRun base chars :=
  takeWhile_semiLine (by simp [isDigitOf, hexValue?]) chars

theorem fractionPart_append (chars : List Char) :
    fractionPart (chars ++ semiLine) = fractionPart chars := by
  cases chars with
  | nil => rfl
  | cons c rest =>
    by_cases dot : c = '.'
    · subst dot
      exact congrArg (List.cons '.') (digitRun_append 10 rest)
    · have none (tail : List Char) : fractionPart (c :: tail) = [] := by
        unfold fractionPart
        split
        · rename_i eq
          exact absurd (List.cons.inj eq).1 dot
        · rfl
      rw [List.cons_append, none, none]

theorem exponentPart_append (chars : List Char) :
    exponentPart (chars ++ semiLine) = exponentPart chars := by
  rcases chars with _ | ⟨e, _ | ⟨sign, digits⟩⟩
  · rfl
  · simp [exponentPart, semiLine, digitRun, isDigitOf, hexValue?]
  · have again := digitRun_append 10 (sign :: digits)
    simp only [List.cons_append] at again
    simp only [List.cons_append, exponentPart, digitRun_append, again]

theorem drop_append_semiLine {n : Nat} (le : n ≤ chars.length) :
    (chars ++ semiLine).drop n = chars.drop n ++ semiLine :=
  List.drop_append_of_le_length le

theorem Numeral.decimal_append (chars : List Char) :
    Numeral.decimal (chars ++ semiLine) = Numeral.decimal chars := by
  have whole := (digitRun_isPrefix 10 chars).length_le
  have fraction := (isPrefix_append_drop (digitRun_isPrefix 10 chars)
    (fractionPart_isPrefix (chars.drop (digitRun 10 chars).length))).length_le
  rw [List.length_append] at fraction
  simp only [Numeral.decimal, digitRun_append, drop_append_semiLine whole, fractionPart_append,
    drop_append_semiLine fraction, exponentPart_append]

theorem Numeral.read_append {chars : List Char} (ne : chars ≠ []) :
    Numeral.read (chars ++ semiLine) = Numeral.read chars := by
  rcases chars with _ | ⟨c, _ | ⟨mark, rest⟩⟩
  · exact absurd rfl ne
  · by_cases zero : c = '0'
    · subst zero
      exact decimal_append ['0']
    · have decimal (tail : List Char) : Numeral.read (c :: tail) = Numeral.decimal (c :: tail) := by
        unfold Numeral.read
        split
        · rename_i eq
          exact absurd (List.cons.inj eq).1 zero
        · rfl
      rw [List.cons_append, decimal, decimal, ← List.cons_append, decimal_append]
  · by_cases zero : c = '0'
    · subst zero
      have announced : announcedBase? (mark :: (rest ++ semiLine)) =
          announcedBase? (mark :: rest) := rfl
      have all := decimal_append ('0' :: mark :: rest)
      simp only [List.cons_append] at all
      simp only [List.cons_append, Numeral.read, announced, Numeral.based, digitRun_append, all]
    · have decimal (tail : List Char) : Numeral.read (c :: tail) = Numeral.decimal (c :: tail) := by
        unfold Numeral.read
        split
        · rename_i eq
          exact absurd (List.cons.inj eq).1 zero
        · rfl
      rw [List.cons_append, decimal, decimal, ← List.cons_append, decimal_append]

theorem readNumber_append {chars : List Char} (ne : chars ≠ []) :
    readNumber (chars ++ semiLine) = readNumber chars := by
  have le := (Numeral.read_isPrefix chars).length_le
  have mark : ((chars ++ semiLine).drop (Numeral.read chars).chars.length).head? = some 'n' ↔
      (chars.drop (Numeral.read chars).chars.length).head? = some 'n' := by
    rw [drop_append_semiLine le]
    cases chars.drop (Numeral.read chars).chars.length <;> simp [semiLine]
  simp only [readNumber, Numeral.read_append ne, mark]

theorem readLetters_append {skip : Nat} (first : Bool) (offset : Nat) {chars : List Char}
    (le : skip ≤ chars.length) :
    readLetters first skip offset (chars ++ semiLine) = readLetters first skip offset chars := by
  induction chars generalizing first skip offset with
  | nil =>
    obtain rfl := Nat.le_zero.1 le
    cases first <;> simp [readLetters, semiLine, fitsName, isNameStart, isNamePart, isAscii]
  | cons c rest ih =>
    cases skip with
    | succ skip =>
      simp only [List.cons_append, readLetters, ih _ _ (Nat.le_of_succ_le_succ le)]
    | zero =>
      have escapes : ((rest ++ semiLine).head? == some 'u') = (rest.head? == some 'u') := by
        cases rest <;> rfl
      simp only [List.cons_append, readLetters, escapes]
      split
      · rename_i escape
        obtain ⟨d, tail, rfl⟩ : ∃ d tail, rest = d :: tail := by
          cases rest with
          | nil => simp at escape
          | cons d tail => exact ⟨d, tail, rfl⟩
        simp only [List.cons_append, List.tail_cons, Escape.unicode_append]
        have longEnough : (Escape.unicode tail).length + 1 ≤ (d :: tail).length :=
          Nat.succ_le_succ (Escape.unicode_length_le tail)
        have more := ih false (offset + 1) longEnough
        simp only [List.cons_append] at more
        simp only [more]
      · simp only [ih _ _ (Nat.zero_le _)]

theorem readWord_append (chars : List Char) :
    readWord (chars ++ semiLine) = readWord chars := by
  simp only [readWord, readLetters_append true 0 (Nat.zero_le _)]

theorem readPrivateName_append (rest : List Char) :
    readPrivateName (rest ++ semiLine) = readPrivateName rest := by
  simp only [readPrivateName, readLetters_append true 1 (Nat.zero_le _)]

namespace Punctuation

theorem afterLess_append (rest : List Char) : afterLess (rest ++ semiLine) = afterLess rest := by
  rcases rest with _ | ⟨a, _ | ⟨b, tail⟩⟩
  · rfl
  · by_cases h : a = '<' <;> by_cases h' : a = '=' <;> simp [afterLess, semiLine, h, h']
  · by_cases h : a = '<' <;> by_cases h' : a = '=' <;> by_cases k : b = '=' <;>
      simp [afterLess, semiLine, h, h', k]

theorem afterGreater_append (rest : List Char) :
    afterGreater (rest ++ semiLine) = afterGreater rest := by
  rcases rest with _ | ⟨a, _ | ⟨b, _ | ⟨c, tail⟩⟩⟩
  · rfl
  · by_cases h : a = '>' <;> by_cases h' : a = '=' <;> simp [afterGreater, semiLine, h, h']
  · by_cases h : a = '>' <;> by_cases h' : a = '=' <;> by_cases k : b = '>' <;>
      by_cases k' : b = '=' <;> simp [afterGreater, semiLine, h, h', k, k']
  · by_cases h : a = '>' <;> by_cases h' : a = '=' <;> by_cases k : b = '>' <;>
      by_cases k' : b = '=' <;> by_cases l : c = '=' <;>
        simp [afterGreater, semiLine, h, h', k, k', l]

theorem afterEquals_append (rest : List Char) :
    afterEquals (rest ++ semiLine) = afterEquals rest := by
  rcases rest with _ | ⟨a, _ | ⟨b, tail⟩⟩
  · rfl
  · by_cases h : a = '=' <;> by_cases h' : a = '>' <;> simp [afterEquals, semiLine, h, h']
  · by_cases h : a = '=' <;> by_cases h' : a = '>' <;> by_cases k : b = '=' <;>
      simp [afterEquals, semiLine, h, h', k]

theorem afterExclamation_append (rest : List Char) :
    afterExclamation (rest ++ semiLine) = afterExclamation rest := by
  rcases rest with _ | ⟨a, _ | ⟨b, tail⟩⟩
  · rfl
  · by_cases h : a = '=' <;> simp [afterExclamation, semiLine, h]
  · by_cases h : a = '=' <;> by_cases k : b = '=' <;> simp [afterExclamation, semiLine, h, k]

theorem afterQuestion_append (rest : List Char) :
    afterQuestion (rest ++ semiLine) = afterQuestion rest := by
  have newline : isDigit '\n' = false := rfl
  rcases rest with _ | ⟨a, _ | ⟨b, tail⟩⟩
  · rfl
  · by_cases h : a = '?' <;> by_cases h' : a = '.' <;>
      simp [afterQuestion, semiLine, newline, h, h']
  · by_cases h' : a = '.'
    · subst h'
      rfl
    · by_cases h : a = '?' <;> by_cases k : b = '=' <;>
        simp [afterQuestion, semiLine, h, h', k]

theorem afterDot_append (rest : List Char) : afterDot (rest ++ semiLine) = afterDot rest := by
  rcases rest with _ | ⟨a, _ | ⟨b, tail⟩⟩
  · rfl
  · by_cases h : a = '.' <;> simp [afterDot, semiLine, h]
  · by_cases h : a = '.' <;> by_cases k : b = '.' <;> simp [afterDot, semiLine, h, k]

theorem afterPlus_append (rest : List Char) : afterPlus (rest ++ semiLine) = afterPlus rest := by
  rcases rest with _ | ⟨a, tail⟩
  · rfl
  · by_cases h : a = '+' <;> by_cases h' : a = '=' <;> simp [afterPlus, semiLine, h, h']

theorem afterMinus_append (rest : List Char) :
    afterMinus (rest ++ semiLine) = afterMinus rest := by
  rcases rest with _ | ⟨a, tail⟩
  · rfl
  · by_cases h : a = '-' <;> by_cases h' : a = '=' <;> simp [afterMinus, semiLine, h, h']

theorem afterAsterisk_append (rest : List Char) :
    afterAsterisk (rest ++ semiLine) = afterAsterisk rest := by
  rcases rest with _ | ⟨a, _ | ⟨b, tail⟩⟩
  · rfl
  · by_cases h : a = '*' <;> by_cases h' : a = '=' <;> simp [afterAsterisk, semiLine, h, h']
  · by_cases h : a = '*' <;> by_cases h' : a = '=' <;> by_cases k : b = '=' <;>
      simp [afterAsterisk, semiLine, h, h', k]

theorem afterAmpersand_append (rest : List Char) :
    afterAmpersand (rest ++ semiLine) = afterAmpersand rest := by
  rcases rest with _ | ⟨a, _ | ⟨b, tail⟩⟩
  · rfl
  · by_cases h : a = '&' <;> by_cases h' : a = '=' <;> simp [afterAmpersand, semiLine, h, h']
  · by_cases h : a = '&' <;> by_cases h' : a = '=' <;> by_cases k : b = '=' <;>
      simp [afterAmpersand, semiLine, h, h', k]

theorem afterBar_append (rest : List Char) : afterBar (rest ++ semiLine) = afterBar rest := by
  rcases rest with _ | ⟨a, _ | ⟨b, tail⟩⟩
  · rfl
  · by_cases h : a = '|' <;> by_cases h' : a = '=' <;> simp [afterBar, semiLine, h, h']
  · by_cases h : a = '|' <;> by_cases h' : a = '=' <;> by_cases k : b = '=' <;>
      simp [afterBar, semiLine, h, h', k]

theorem assignable_append (plain assigning : Kind) (rest : List Char) :
    assignable plain assigning (rest ++ semiLine) = assignable plain assigning rest := by
  rcases rest with _ | ⟨a, tail⟩
  · rfl
  · by_cases h : a = '=' <;> simp [assignable, semiLine, h]

theorem read?_append (c : Char) (rest : List Char) :
    read? c (rest ++ semiLine) = read? c rest := by
  simp only [read?, afterDot_append, afterQuestion_append, afterLess_append, afterGreater_append,
    afterEquals_append, afterExclamation_append, afterPlus_append, afterMinus_append,
    afterAsterisk_append, afterAmpersand_append, afterBar_append, assignable_append]

theorem readSplit?_append (c : Char) (rest : List Char) :
    readSplit? c (rest ++ semiLine) = readSplit? c rest := by
  simp only [readSplit?, read?_append]

end Punctuation

/-- The same lexeme, or something is wrong with both. -/
def Lexeme.Agrees (x y : Lexeme) : Prop := y = x ∨ x.complaint.isSome ∧ y.complaint.isSome

theorem readToken_append (splitsAngles : Bool) (c : Char) (rest : List Char) :
    (readToken splitsAngles c rest).Agrees (readToken splitsAngles c (rest ++ semiLine)) := by
  have digit : (rest ++ semiLine).head?.any isDigit = rest.head?.any isDigit := by
    cases rest <;> rfl
  have escape : ((rest ++ semiLine).head? == some 'u') = (rest.head? == some 'u') := by
    cases rest <;> rfl
  have number := readNumber_append (List.cons_ne_nil c rest)
  have word := readWord_append (c :: rest)
  rw [List.cons_append] at number word
  unfold readToken
  rw [digit, escape, number, word, readPrivateName_append, Punctuation.readSplit?_append,
    Punctuation.read?_append]
  split
  · rename_i quote
    exact readString_append (by rintro rfl; simp at quote) rest
  · split
    · exact readChunk_append true rest
    · exact .inl rfl

theorem BlockComment.read_append (chars : List Char) :
    ((read chars).closed = true → read (chars ++ semiLine) = read chars) ∧
    ((read chars).closed = false → (read (chars ++ semiLine)).closed = false) := by
  induction chars with
  | nil => exact ⟨nofun, fun _ => rfl⟩
  | cons c rest ih =>
    have mark : (rest ++ semiLine).head? = some '/' ↔ rest.head? = some '/' := by
      cases rest <;> simp [semiLine]
    simp only [List.cons_append, read, mark]
    split
    · exact ⟨fun _ => rfl, nofun⟩
    · exact ⟨fun closed => by rw [ih.1 closed], ih.2⟩

theorem BlockComment.length_le (chars : List Char) : (read chars).length ≤ chars.length := by
  induction chars with
  | nil => exact Nat.le_refl _
  | cons c rest ih =>
    unfold read
    split
    · rename_i ends
      obtain ⟨after, rfl⟩ := List.head?_eq_some_iff.1 ends.2
      simp [length]
    · simp only [length, List.length_cons] at ih ⊢
      omega

namespace Trivia

def Extended (n stop : Nat) (x y : Trivia) : Prop :=
  x.unclosed.isSome ∧ y.unclosed.isSome ∨
    x.unclosed = none ∧ y.unclosed = none ∧
      (x.stop < stop ∧ y.stop = x.stop + n ∧ y.lineBreak = x.lineBreak ∨
        x.stop = stop ∧ y.stop = stop + n + 1 ∧ y.lineBreak = true)

theorem Extended.more {n stop : Nat} {x y : Trivia} (h : Extended n stop x y) (breaks : Bool)
    (cs cs' : List Comment) :
    Extended n stop { x with lineBreak := x.lineBreak || breaks, comments := cs }
      { y with lineBreak := y.lineBreak || breaks, comments := cs' } := by
  rcases h with unclosed | ⟨closed, closed', ⟨before, stops, same⟩ | ⟨ends, stops, broken⟩⟩
  · exact .inl unclosed
  · exact .inr ⟨closed, closed', .inl ⟨before, stops, by simp only [same]⟩⟩
  · exact .inr ⟨closed, closed', .inr ⟨ends, stops, by simp only [broken, Bool.true_or]⟩⟩

theorem readFrom_append {skip : Nat} (n offset : Nat) {chars : List Char}
    (le : skip ≤ chars.length) :
    Extended n (offset + chars.length) (readFrom skip offset chars)
      (readFrom skip (offset + n) (chars ++ semiLine)) := by
  have further (offset : Nat) (c : Char) (rest : List Char) :
      offset + (c :: rest).length = offset + 1 + rest.length := by
    rw [List.length_cons]
    omega
  have moved (offset : Nat) : offset + n + 1 = offset + 1 + n := by omega
  induction chars generalizing skip offset with
  | nil =>
    obtain rfl := Nat.le_zero.1 le
    refine .inr ⟨rfl, ?_⟩
    simp [readFrom, semiLine, isLineBreak, isBlank]
  | cons c rest ih =>
    rw [further, List.cons_append]
    cases skip with
    | succ skip =>
      rw [readFrom, readFrom, moved]
      exact ih _ (Nat.le_of_succ_le_succ le)
    | zero =>
      have slash : (rest ++ semiLine).head? = some '/' ↔ rest.head? = some '/' := by
        cases rest <;> simp [semiLine]
      have star : (rest ++ semiLine).head? = some '*' ↔ rest.head? = some '*' := by
        cases rest <;> simp [semiLine]
      simp only [readFrom, slash, star, moved]
      split
      · simpa only [Bool.or_true] using (ih (offset + 1) (Nat.zero_le _)).more true _ _
      · split
        · exact ih (offset + 1) (Nat.zero_le _)
        · split
          · rename_i opens
            obtain ⟨body, rfl⟩ := List.head?_eq_some_iff.1 opens.2
            have said : lineCommentText (body ++ semiLine) = lineCommentText body :=
              takeWhile_semiLine rfl body
            simp only [List.cons_append, List.tail_cons, said]
            refine ih (offset + 1) ?_
            have := (List.takeWhile_sublist (fun c => !isLineBreak c) (l := body)).length_le
            simp only [lineCommentText, List.length_cons] at *
            omega
          · split
            · rename_i opens
              obtain ⟨body, rfl⟩ := List.head?_eq_some_iff.1 opens.2
              have block := BlockComment.read_append body
              simp only [List.cons_append, List.tail_cons]
              by_cases closed : (BlockComment.read body).closed = true
              · have fits := BlockComment.length_le body
                simp only [block.1 closed, closed, if_true]
                exact (ih (offset + 1) (by simp only [List.length_cons]; omega)).more _ _ _
              · exact .inl (by simp [closed, block.2 (Bool.not_eq_true _ ▸ closed)])
            · refine .inr ⟨rfl, rfl, .inl ⟨?_, ?_, rfl⟩⟩
              · simp only; omega
              · rfl

end Trivia

theorem blockCommentLength_append (chars : List Char) :
    blockCommentLength (chars ++ semiLine) = blockCommentLength chars ∨
      blockCommentLength chars = chars.length ∧
        blockCommentLength (chars ++ semiLine) = chars.length + 2 := by
  fun_induction blockCommentLength chars with
  | case1 => exact .inr ⟨rfl, rfl⟩
  | case2 => exact .inl rfl
  | case3 c rest other ih =>
    have other' : ∀ tail, c = '*' → rest ++ semiLine = '/' :: tail → False := by
      intro tail is eq
      cases rest with
      | nil => cases eq
      | cons d rest => cases eq; exact other rest is rfl
    rw [List.cons_append, blockCommentLength]
    · simpa only [List.length_cons, Nat.add_right_cancel_iff, Nat.add_right_comm _ 1 2] using ih
    · exact other'

theorem blockCommentLength_le (chars : List Char) : blockCommentLength chars ≤ chars.length := by
  fun_induction blockCommentLength chars <;> simp_all

theorem triviaLengthFrom_all {skip : Nat} {chars : List Char} (le : chars.length ≤ skip) :
    triviaLengthFrom skip chars = chars.length := by
  induction chars generalizing skip with
  | nil => cases skip <;> rfl
  | cons c rest ih =>
    obtain ⟨skip, rfl⟩ := Nat.exists_eq_add_of_le' (Nat.le_trans (Nat.le_add_left 1 _) le)
    rw [triviaLengthFrom, ih (Nat.le_of_succ_le_succ le), List.length_cons]

theorem triviaLengthFrom_dark {c : Char} {rest : List Char}
    (dark : ¬(isLineBreak c || isBlank c) = true) (line : ¬(c = '/' ∧ rest.head? = some '/'))
    (block : ¬(c = '/' ∧ rest.head? = some '*')) : triviaLengthFrom 0 (c :: rest) = 0 := by
  unfold triviaLengthFrom
  rw [if_neg dark]
  split
  · exact absurd ⟨rfl, rfl⟩ line
  · exact absurd ⟨rfl, rfl⟩ block
  · rfl

theorem triviaLengthFrom_append {skip : Nat} {chars : List Char} (le : skip ≤ chars.length) :
    triviaLengthFrom skip (chars ++ semiLine) = triviaLengthFrom skip chars ∨
      triviaLengthFrom skip chars = chars.length ∧
        chars.length ≤ triviaLengthFrom skip (chars ++ semiLine) := by
  have further {a b n : Nat} (h : a = b ∨ b = n ∧ n ≤ a) :
      a + 1 = b + 1 ∨ b + 1 = n + 1 ∧ n + 1 ≤ a + 1 := by omega
  induction chars generalizing skip with
  | nil =>
    obtain rfl := Nat.le_zero.1 le
    exact .inr ⟨rfl, Nat.zero_le _⟩
  | cons c rest ih =>
    rw [List.cons_append, List.length_cons]
    cases skip with
    | succ skip => exact further (ih (Nat.le_of_succ_le_succ le))
    | zero =>
      by_cases blank : (isLineBreak c || isBlank c) = true
      · simp only [triviaLengthFrom, blank, if_true]
        exact further (ih (Nat.zero_le _))
      · rcases rest with _ | ⟨d, body⟩
        · exact .inl (by simp [triviaLengthFrom, blank, semiLine])
        · by_cases line : c = '/' ∧ d = '/'
          · obtain ⟨rfl, rfl⟩ := line
            have said : lineCommentText (body ++ semiLine) = lineCommentText body :=
              takeWhile_semiLine rfl body
            have := (List.takeWhile_sublist (fun c => !isLineBreak c) (l := body)).length_le
            have measured (tail : List Char) : triviaLengthFrom 0 ('/' :: '/' :: tail) =
                triviaLengthFrom ((lineCommentText tail).length + 1) ('/' :: tail) + 1 := rfl
            rw [List.cons_append, measured, measured, said]
            refine further (ih ?_)
            simp only [lineCommentText, List.length_cons] at *
            omega
          · by_cases block : c = '/' ∧ d = '*'
            · obtain ⟨rfl, rfl⟩ := block
              have measured (tail : List Char) : triviaLengthFrom 0 ('/' :: '*' :: tail) =
                  triviaLengthFrom (blockCommentLength tail + 1) ('*' :: tail) + 1 := rfl
              rw [List.cons_append, measured, measured]
              rcases blockCommentLength_append body with same | ⟨all, all'⟩
              · have := blockCommentLength_le body
                rw [same]
                exact further (ih (by simp only [List.length_cons]; omega))
              · refine .inr ?_
                rw [all, all', triviaLengthFrom_all (by simp),
                  triviaLengthFrom_all (by simp [semiLine])]
                simp
            · have noLine (tail : List Char) : ¬(c = '/' ∧ (d :: tail).head? = some '/') := by
                simpa using line
              have noBlock (tail : List Char) : ¬(c = '/' ∧ (d :: tail).head? = some '*') := by
                simpa using block
              refine .inl ?_
              rw [List.cons_append, triviaLengthFrom_dark blank (noLine _) (noBlock _),
                triviaLengthFrom_dark blank (noLine _) (noBlock _)]

theorem charAfter_append (chars : List Char) :
    ((chars ++ semiLine)[triviaLength (chars ++ semiLine)]? == some '.') =
      (chars[triviaLength chars]? == some '.') := by
  have past {n : Nat} (le : chars.length ≤ n) :
      ((chars ++ semiLine)[n]? == some '.') = (chars[n]? == some '.') := by
    rw [List.getElem?_append_right le, List.getElem?_eq_none le]
    match n - chars.length with
    | 0 => rfl
    | 1 => rfl
    | n + 2 => rfl
  rcases triviaLengthFrom_append (Nat.zero_le chars.length) with same | ⟨all, more⟩
  · rw [triviaLength, triviaLength, same]
    rcases Nat.lt_or_ge (triviaLengthFrom 0 chars) chars.length with lt | ge
    · rw [List.getElem?_append_left lt]
    · exact past ge
  · rw [triviaLength, triviaLength, all, past more, List.getElem?_eq_none more,
      List.getElem?_eq_none (Nat.le_refl _)]

end TypedScript
