import TypedScript.Proofs.Lexer.Current

/-! Marks and reserved words are read by the longest match: a token of a fixed spelling is written with
that spelling, and no longer mark could have been read in its place. -/

namespace TypedScript

open Text

def Kind.punctuation : List Kind := [
  .openBraceToken, .closeBraceToken, .openParenToken, .closeParenToken, .openBracketToken,
  .closeBracketToken, .dotToken, .dotDotDotToken, .semicolonToken, .commaToken, .questionDotToken,
  .lessThanToken, .greaterThanToken, .lessThanEqualsToken, .greaterThanEqualsToken,
  .equalsEqualsToken, .exclamationEqualsToken, .equalsEqualsEqualsToken,
  .exclamationEqualsEqualsToken, .equalsGreaterThanToken, .plusToken, .minusToken, .asteriskToken,
  .asteriskAsteriskToken, .slashToken, .percentToken, .plusPlusToken, .minusMinusToken,
  .lessThanLessThanToken, .greaterThanGreaterThanToken, .greaterThanGreaterThanGreaterThanToken,
  .ampersandToken, .barToken, .caretToken, .exclamationToken, .tildeToken,
  .ampersandAmpersandToken, .barBarToken, .questionToken, .colonToken, .atToken,
  .questionQuestionToken, .equalsToken, .plusEqualsToken, .minusEqualsToken, .asteriskEqualsToken,
  .asteriskAsteriskEqualsToken, .slashEqualsToken, .percentEqualsToken,
  .lessThanLessThanEqualsToken, .greaterThanGreaterThanEqualsToken,
  .greaterThanGreaterThanGreaterThanEqualsToken, .ampersandEqualsToken, .barEqualsToken,
  .caretEqualsToken, .barBarEqualsToken, .ampersandAmpersandEqualsToken,
  .questionQuestionEqualsToken]

theorem Kind.mem_punctuation {k : Kind} (mark : k.isPunctuation = true) : k ∈ punctuation := by
  revert mark
  cases k <;> decide

/-- No mark that the characters start with is longer than `length`. -/
def LongestMark (chars : List Char) (length : Nat) : Prop :=
  ∀ k : Kind, k.isPunctuation = true → ∀ word, k.text? = some word → word.toList <+: chars →
    word.length ≤ length

def marksFrom : Char → List (List Char)
  | '<' => [['<'], ['<', '='], ['<', '<'], ['<', '<', '=']]
  | '>' => [['>'], ['>', '='], ['>', '>'], ['>', '>', '='], ['>', '>', '>'], ['>', '>', '>', '=']]
  | '=' => [['='], ['=', '='], ['=', '=', '='], ['=', '>']]
  | '!' => [['!'], ['!', '='], ['!', '=', '=']]
  | '?' => [['?'], ['?', '.'], ['?', '?'], ['?', '?', '=']]
  | '.' => [['.'], ['.', '.', '.']]
  | '+' => [['+'], ['+', '+'], ['+', '=']]
  | '-' => [['-'], ['-', '-'], ['-', '=']]
  | '*' => [['*'], ['*', '*'], ['*', '='], ['*', '*', '=']]
  | '&' => [['&'], ['&', '&'], ['&', '='], ['&', '&', '=']]
  | '|' => [['|'], ['|', '|'], ['|', '='], ['|', '|', '=']]
  | '/' => [['/'], ['/', '=']]
  | '%' => [['%'], ['%', '=']]
  | '^' => [['^'], ['^', '=']]
  | c => [[c]]

theorem Kind.mem_marksFrom {k : Kind} (mark : k.isPunctuation = true) {word : String}
    (spelled : k.text? = some word) : ∃ c, word.toList.head? = some c ∧ word.toList ∈ marksFrom c := by
  have all : ∀ k ∈ punctuation, k.text?.all fun word =>
      word.toList.head?.any fun c => (marksFrom c).contains word.toList := by decide +kernel
  have found := all k (k.mem_punctuation mark)
  rw [spelled] at found
  obtain ⟨c, first, mem⟩ := (Option.any_eq_true _ _).1 found
  exact ⟨c, first, List.contains_iff_mem.1 mem⟩

theorem LongestMark.of_words {c : Char} {rest : List Char} {length : Nat} (words : List (List Char))
    (all : ∀ word ∈ marksFrom c, word ∈ words)
    (longest : ∀ word ∈ words, word <+: c :: rest → word.length ≤ length) :
    LongestMark (c :: rest) length := by
  intro k punctuation word spelled starts
  obtain ⟨d, first, mem⟩ := k.mem_marksFrom punctuation spelled
  rw [← String.length_toList]
  generalize word.toList = mark at starts first mem
  cases mark with
  | nil => exact Nat.zero_le length
  | cons _ mark =>
    obtain ⟨rfl, -⟩ := List.cons_prefix_cons.1 starts
    obtain rfl := Option.some.inj first
    exact longest _ (all _ mem) starts

namespace Punctuation

theorem single_longest {c : Char} (rest : List Char) (alone : marksFrom c = [[c]]) :
    LongestMark (c :: rest) 1 := by
  refine .of_words [[c]] (fun word mem => alone ▸ mem) fun word mem _ => ?_
  rw [List.mem_singleton.1 mem]
  exact Nat.le_refl 1

theorem angle_longest {c : Char} {rest : List Char} {m : Kind × Nat}
    (h : ∃ word, m.1.text?.map String.toList = some word ∧ m.2 = word.length ∧
      LongestAt angleOperators (c :: rest) word)
    (all : ∀ word ∈ marksFrom c, word ∈ angleOperators) :
    LongestMark (c :: rest) m.2 := by
  obtain ⟨word, -, length, longest⟩ := h
  rw [length]
  exact .of_words angleOperators all longest.longest

theorem afterEquals_longest (rest : List Char) :
    LongestMark ('=' :: rest) (afterEquals rest).2 := by
  refine .of_words [['='], ['=', '='], ['=', '=', '='], ['=', '>']] (fun _ => id) ?_
  unfold afterEquals
  split
  case h_1 => simp
  case h_2 noEquals => simp [notAhead noEquals]
  case h_3 => simp
  case h_4 _ noEquals noGreater => simp [notAhead noEquals, notAhead noGreater]

theorem afterExclamation_longest (rest : List Char) :
    LongestMark ('!' :: rest) (afterExclamation rest).2 := by
  refine .of_words [['!'], ['!', '='], ['!', '=', '=']] (fun _ => id) ?_
  unfold afterExclamation
  split
  case h_1 => simp
  case h_2 noEquals => simp [notAhead noEquals]
  case h_3 _ noEquals => simp [notAhead noEquals]

theorem afterDot_longest (rest : List Char) : LongestMark ('.' :: rest) (afterDot rest).2 := by
  refine .of_words [['.'], ['.', '.', '.']] (fun _ => id) ?_
  unfold afterDot
  split
  case h_1 => simp
  case h_2 noDots =>
    have noDots : ¬['.', '.'] <+: rest := by
      rintro ⟨tail, rfl⟩
      exact noDots tail rfl
    simp [noDots]

theorem afterPlus_longest (rest : List Char) : LongestMark ('+' :: rest) (afterPlus rest).2 := by
  refine .of_words [['+'], ['+', '+'], ['+', '=']] (fun _ => id) ?_
  unfold afterPlus
  split
  case h_1 => simp
  case h_2 => simp
  case h_3 noPlus noEquals => simp [notAhead noPlus, notAhead noEquals]

theorem afterMinus_longest (rest : List Char) : LongestMark ('-' :: rest) (afterMinus rest).2 := by
  refine .of_words [['-'], ['-', '-'], ['-', '=']] (fun _ => id) ?_
  unfold afterMinus
  split
  case h_1 => simp
  case h_2 => simp
  case h_3 noMinus noEquals => simp [notAhead noMinus, notAhead noEquals]

theorem afterAsterisk_longest (rest : List Char) :
    LongestMark ('*' :: rest) (afterAsterisk rest).2 := by
  refine .of_words [['*'], ['*', '*'], ['*', '='], ['*', '*', '=']] (fun _ => id) ?_
  unfold afterAsterisk
  split
  case h_1 => simp
  case h_2 noEquals => simp [notAhead noEquals]
  case h_3 => simp
  case h_4 _ noAsterisk noEquals => simp [notAhead noAsterisk, notAhead noEquals]

theorem afterAmpersand_longest (rest : List Char) :
    LongestMark ('&' :: rest) (afterAmpersand rest).2 := by
  refine .of_words [['&'], ['&', '&'], ['&', '='], ['&', '&', '=']] (fun _ => id) ?_
  unfold afterAmpersand
  split
  case h_1 => simp
  case h_2 noEquals => simp [notAhead noEquals]
  case h_3 => simp
  case h_4 _ noAmpersand noEquals => simp [notAhead noAmpersand, notAhead noEquals]

theorem afterBar_longest (rest : List Char) : LongestMark ('|' :: rest) (afterBar rest).2 := by
  refine .of_words [['|'], ['|', '|'], ['|', '='], ['|', '|', '=']] (fun _ => id) ?_
  unfold afterBar
  split
  case h_1 => simp
  case h_2 noEquals => simp [notAhead noEquals]
  case h_3 => simp
  case h_4 _ noBar noEquals => simp [notAhead noBar, notAhead noEquals]

theorem assignable_longest {c : Char} (plain assigning : Kind) (rest : List Char)
    (all : marksFrom c = [[c], [c, '=']]) :
    LongestMark (c :: rest) (assignable plain assigning rest).2 := by
  refine .of_words [[c], [c, '=']] (fun word mem => all ▸ mem) ?_
  unfold assignable
  split
  case h_1 => simp
  case h_2 noEquals => simp [notAhead noEquals]

/-- What a question mark stands alone before: else it would take the dot of a number. -/
def StartsFraction (rest : List Char) : Prop :=
  ∃ digit tail, rest = '.' :: digit :: tail ∧ isDigit digit = true

theorem afterQuestion_alone {rest : List Char} (fraction : StartsFraction rest) :
    afterQuestion rest = (.questionToken, 1) := by
  obtain ⟨digit, tail, rfl, isDigit⟩ := fraction
  simp [afterQuestion, isDigit]

theorem afterQuestion_longest {rest : List Char} (other : ¬StartsFraction rest) :
    LongestMark ('?' :: rest) (afterQuestion rest).2 := by
  refine .of_words [['?'], ['?', '.'], ['?', '?'], ['?', '?', '=']] (fun _ => id) ?_
  unfold afterQuestion
  split
  case h_1 => simp
  case h_2 noEquals => simp [notAhead noEquals]
  case h_3 tail =>
    have noDigit : tail.head?.any isDigit = false := by
      cases tail with
      | nil => rfl
      | cons digit tail =>
        exact Bool.eq_false_iff.2 fun isDigit => other ⟨digit, tail, rfl, isDigit⟩
    simp [noDigit]
  case h_4 _ noQuestion noDot => simp [notAhead noQuestion, notAhead noDot]

theorem read?_longest {c : Char} {rest : List Char} {m : Kind × Nat} (h : read? c rest = some m) :
    (c = '?' ∧ StartsFraction rest ∧ m = (.questionToken, 1)) ∨ LongestMark (c :: rest) m.2 := by
  unfold read? at h
  split at h
  case h_26 => cases h
  all_goals cases h
  case h_12 => exact .inr (afterDot_longest rest)
  case h_13 =>
    by_cases fraction : StartsFraction rest
    · exact .inl ⟨rfl, fraction, afterQuestion_alone fraction⟩
    · exact .inr (afterQuestion_longest fraction)
  case h_14 => exact .inr (angle_longest (afterLess_longest rest) (by decide))
  case h_15 => exact .inr (angle_longest (afterGreater_longest rest) (by decide))
  case h_16 => exact .inr (afterEquals_longest rest)
  case h_17 => exact .inr (afterExclamation_longest rest)
  case h_18 => exact .inr (afterPlus_longest rest)
  case h_19 => exact .inr (afterMinus_longest rest)
  case h_20 => exact .inr (afterAsterisk_longest rest)
  case h_21 => exact .inr (assignable_longest _ _ rest rfl)
  case h_22 => exact .inr (assignable_longest _ _ rest rfl)
  case h_23 => exact .inr (assignable_longest _ _ rest rfl)
  case h_24 => exact .inr (afterAmpersand_longest rest)
  case h_25 => exact .inr (afterBar_longest rest)
  all_goals exact .inr (single_longest rest rfl)

end Punctuation

/-- The word is read with an escape behind it that has no place in a name, up to where that ends. -/
def BreaksOff (chars word : List Char) (length : Nat) : Prop :=
  ∃ tail, chars = word ++ '\\' :: 'u' :: tail ∧
    (Escape.unicode tail).char.filter isNamePart = none ∧
    length = word.length + 2 + (Escape.unicode tail).length

theorem readLetters_unescaped (first : Bool) (offset : Nat) (chars : List Char)
    (unescaped : (readLetters first 0 offset chars).escaped = false) :
    let w := readLetters first 0 offset chars
    w.length = w.chars.length ∨
      (w.chars ≠ [] ∨ first = false → BreaksOff chars w.chars w.length) ∧ w.complaint ≠ none := by
  induction chars generalizing first offset with
  | nil => exact .inl rfl
  | cons c rest ih =>
    unfold readLetters at unescaped ⊢
    by_cases escape : (c == '\\' && rest.head? == some 'u') = true
    · simp only [escape, ↓reduceIte] at unescaped ⊢
      split at unescaped
      · cases unescaped
      · rename_i noLetter
        refine .inr ⟨?_, Option.some_ne_none _⟩
        -- Nothing has been taken here, so a letter stands before it: the escape would continue a name.
        rintro (taken | rfl)
        · exact absurd rfl taken
        · obtain ⟨rfl, escapes⟩ : c = '\\' ∧ rest.head? = some 'u' := by simpa using escape
          obtain ⟨tail, rfl⟩ := List.head?_eq_some_iff.1 escapes
          exact ⟨tail, rfl, noLetter, by simp only [List.tail_cons, List.length_nil]; omega⟩
    · simp only [escape, Bool.false_eq_true, ↓reduceIte] at unescaped ⊢
      by_cases fits : fitsName first c = true
      · simp only [fits, ↓reduceIte] at unescaped ⊢
        rcases ih false (offset + 1) unescaped with plain | ⟨breaks, complains⟩
        · exact .inl (congrArg (· + 1) plain)
        · obtain ⟨tail, chars_eq, noLetter, length⟩ := breaks (.inr rfl)
          refine .inr ⟨fun _ => ⟨tail, congrArg (c :: ·) chars_eq, noLetter, ?_⟩, complains⟩
          rw [length, List.length_cons]
          omega
      · simp only [fits, Bool.false_eq_true, ↓reduceIte]
        exact .inl rfl

theorem Kind.ofReserved_isKeyword {word : String} {k : Kind} (h : ofReserved? word = some k) :
    k.isKeyword = true ∧ k.isPunctuation = false := by
  have all : ∀ k ∈ reserved, k.isKeyword = true ∧ k.isPunctuation = false := by decide
  exact all k (List.mem_of_find?_eq_some h)

theorem readWord_spelled {chars : List Char} {word : String}
    (spelled : (readWord chars).kind.text? = some word) :
    let x := readWord chars
    (x.kind.isKeyword = true ∧ x.kind.isPunctuation = false) ∧
      (chars.take x.length = word.toList ∨
        BreaksOff chars word.toList x.length ∧ x.complaint ≠ none) := by
  unfold readWord at spelled ⊢
  dsimp only at spelled ⊢
  split at spelled
  · cases spelled
  · rename_i notEmpty
    split at spelled
    · cases spelled
    · rename_i notEscaped
      have unescaped := Bool.eq_false_iff.2 notEscaped
      rw [if_neg notEmpty, if_neg notEscaped]
      cases reserved : Kind.ofReserved? (String.ofList (readLetters true 0 0 chars).chars) with
      | none =>
        rw [reserved] at spelled
        cases spelled
      | some k =>
        rw [reserved, Option.getD_some, Kind.text_ofReserved reserved, Option.some.injEq] at spelled
        subst spelled
        rw [Option.getD_some, String.toList_ofList]
        refine ⟨Kind.ofReserved_isKeyword reserved, ?_⟩
        rcases readLetters_unescaped true 0 chars unescaped with plain | ⟨breaks, complains⟩
        · rw [plain]
          exact .inl (List.prefix_iff_eq_take.1 (readLetters_isPrefix true 0 chars unescaped)).symm
        · exact .inr ⟨breaks (.inl fun none => notEmpty (List.isEmpty_iff.2 none)), complains⟩

/-- The mark `word` is what a frame takes of the characters: an angle bracket by itself if the frame
splits them, a question mark by itself before a fraction, and else the longest mark. -/
structure Frame.TakesMark (f : Frame) (chars : List Char) (word : String) : Prop where
  angle : f.splitsAngles = true → StartsAngle chars → word.length = 1
  alone : ∀ rest, chars = '?' :: rest → Punctuation.StartsFraction rest → word = "?"
  longest : ¬(f.splitsAngles = true ∧ StartsAngle chars) →
    (∀ rest, chars = '?' :: rest → ¬Punctuation.StartsFraction rest) →
    LongestMark chars word.length

theorem Frame.takesMark_read? {f : Frame} {c : Char} {rest : List Char} {m : Kind × Nat}
    {word : String} (joined : f.splitsAngles = true → ¬StartsAngle (c :: rest))
    (read : Punctuation.read? c rest = some m) (spelled : m.1.text? = some word)
    (length : m.2 = word.length) : f.TakesMark (c :: rest) word := by
  rcases Punctuation.read?_longest read with ⟨rfl, fraction, rfl⟩ | longest
  · refine ⟨fun splits angle => absurd angle (joined splits), fun _ _ _ => ?_,
      fun _ whole => absurd fraction (whole rest rfl)⟩
    exact (Option.some.inj spelled).symm
  · refine ⟨fun splits angle => absurd angle (joined splits), ?_, fun _ _ => length ▸ longest⟩
    rintro _ ⟨⟩ fraction
    obtain rfl : (Kind.questionToken, 1) = m :=
      Option.some.inj ((congrArg some (Punctuation.afterQuestion_alone fraction)).symm.trans read)
    exact (Option.some.inj spelled).symm

theorem Frame.takesMark_angle {f : Frame} {chars : List Char} {word : String}
    (splits : f.splitsAngles = true) (angle : StartsAngle chars) (single : word.length = 1) :
    f.TakesMark chars word where
  angle _ _ := single
  alone := by
    rintro rest rfl
    rcases angle with angle | angle <;> cases angle
  longest joined := absurd ⟨splits, angle⟩ joined

theorem Frame.takesMark {f : Frame} {c : Char} {rest : List Char} {m : Kind × Nat} {word : String}
    (read : (if f.splitsAngles then Punctuation.readSplit? c rest
      else Punctuation.read? c rest) = some m)
    (spelled : m.1.text? = some word) (length : m.2 = word.length) :
    f.TakesMark (c :: rest) word := by
  split at read
  · rename_i splits
    unfold Punctuation.readSplit? at read
    split at read
    · cases read
      exact takesMark_angle splits (.inl rfl) length.symm
    · cases read
      exact takesMark_angle splits (.inr rfl) length.symm
    · rename_i notLess notGreater
      refine takesMark_read? (fun _ angle => ?_) read spelled length
      rcases angle with angle | angle
      · exact notLess (Option.some.inj angle)
      · exact notGreater (Option.some.inj angle)
  · rename_i joins
    exact takesMark_read? (fun splits => absurd splits joins) read spelled length

theorem Punctuation.Fits.taken {c : Char} {rest : List Char} {m : Kind × Nat} {word : String}
    (fits : Fits c rest m) (spelled : m.1.text? = some word) :
    (c :: rest).take m.2 = word.toList ∧ m.2 = word.length := by
  have taken : (c :: rest).take m.2 = word.toList := by
    have text := fits.text
    rw [spelled] at text
    exact (Option.some.inj text).symm
  refine ⟨taken, ?_⟩
  rw [← String.length_toList, ← taken, List.length_take_of_le fits.length_le]

theorem readPrivateName_unspelled (rest : List Char) : (readPrivateName rest).kind.text? = none := by
  unfold readPrivateName
  dsimp only
  split <;> rfl

theorem readChunk_unspelled (starts : Bool) (rest : List Char) :
    (readChunk starts rest).kind.text? = none := by
  cases starts <;> simp only [readChunk] <;> split <;> rfl

theorem readNumber_unspelled (chars : List Char) : (readNumber chars).kind.text? = none := by
  unfold readNumber
  dsimp only
  split <;> rfl

namespace Lexer

theorem lexemeAt_spelled (f : Frame) {chars : List Char} {word : String}
    (spelled : (lexemeAt f chars).kind.text? = some word) :
    let x := lexemeAt f chars
    (chars.take x.length = word.toList ∨ x.kind.isKeyword = true ∧
      BreaksOff chars word.toList x.length ∧ x.complaint ≠ none) ∧
    (x.kind.isPunctuation = true → chars.take x.length = word.toList ∧ f.TakesMark chars word) := by
  cases chars with
  | nil => cases spelled
  | cons c rest =>
    unfold lexemeAt readToken at spelled ⊢
    dsimp only at spelled ⊢
    split at spelled
    · cases spelled
    split at spelled
    · cases (readChunk_unspelled true rest).symm.trans spelled
    split at spelled
    · cases (readPrivateName_unspelled rest).symm.trans spelled
    split at spelled
    · cases (readNumber_unspelled _).symm.trans spelled
    split at spelled
    · rename_i noString noChunk noName noNumber isWord
      rw [if_neg noString, if_neg noChunk, if_neg noName, if_neg noNumber, if_pos isWord]
      obtain ⟨⟨keyword, notMark⟩, written⟩ := readWord_spelled spelled
      exact ⟨written.imp_right fun breaks => ⟨keyword, breaks⟩,
        fun mark => absurd mark (Bool.eq_false_iff.1 notMark)⟩
    · rename_i noString noChunk noName noNumber noWord
      rw [if_neg noString, if_neg noChunk, if_neg noName, if_neg noNumber, if_neg noWord]
      split at spelled
      · rename_i kind length read
        have fits : Punctuation.Fits c rest (kind, length) := by
          split at read
          · exact Punctuation.readSplit?_fits read
          · exact Punctuation.read?_fits read
        obtain ⟨taken, long⟩ := fits.taken spelled
        exact ⟨.inl taken, fun _ => ⟨taken, Frame.takesMark read spelled long⟩⟩
      · cases spelled

variable (l : Lexer)

theorem accept_complains {c : Cursor} {x : Lexeme} {value : String} {flags : TokenFlags}
    (complains : x.complaint ≠ none) : (l.accept c x value flags).error ≠ none := by
  obtain ⟨complaint, wrong⟩ := Option.ne_none_iff_exists'.1 complains
  simp only [accept, locate, wrong]
  cases l.error <;> exact Option.some_ne_none _

theorem scan_lexemeAt : ∃ start,
    let x := lexemeAt l.frames.current (l.text.drop start)
    (l.scan.token.start = start ∧ l.scan.token.stop = start + x.length) ∧
      l.scan.token.kind = x.kind ∧ (x.complaint ≠ none → l.scan.error ≠ none) := by
  unfold scan
  dsimp only
  split
  · rw [l.cursor.rest_eq]
    exact ⟨l.offset, ⟨rfl, rfl⟩, rfl, l.accept_complains⟩
  · rw [l.skipTrivia.1.cursor.rest_eq]
    exact ⟨l.skipTrivia.1.offset, ⟨rfl, rfl⟩, rfl, l.skipTrivia.1.accept_complains⟩

/-- A token of a fixed spelling is written with it, and a mark is the longest that the frame takes
there. Only a reserved word may be written with more: with an escape behind it that does not belong
in a name, which is an error. -/
theorem scan_longest {word : String} (spelled : l.scan.token.kind.text? = some word) :
    let t := l.scan.token
    let chars := l.text.drop t.start
    (l.slice t.start t.stop = word ∨ t.kind.isKeyword = true ∧
      BreaksOff chars word.toList (t.stop - t.start) ∧ l.scan.error ≠ none) ∧
    (t.kind.isPunctuation = true →
      l.slice t.start t.stop = word ∧ l.frames.current.TakesMark chars word) := by
  obtain ⟨start, ⟨start_eq, stop_eq⟩, kind, complains⟩ := l.scan_lexemeAt
  rw [kind] at spelled
  have slice_eq (length : Nat) (taken : (l.text.drop start).take length = word.toList) :
      l.slice start (start + length) = word :=
    String.toList_inj.1 ((l.slice_toList start length).trans taken)
  obtain ⟨written, mark⟩ := lexemeAt_spelled l.frames.current spelled
  dsimp only
  rw [kind, start_eq, stop_eq, Nat.add_sub_cancel_left]
  refine ⟨?_, fun isMark => ⟨slice_eq _ (mark isMark).1, (mark isMark).2⟩⟩
  rcases written with taken | ⟨keyword, breaks, complained⟩
  · exact .inl (slice_eq _ taken)
  · exact .inr ⟨keyword, breaks, complains complained⟩

theorem scan_longest_alone :
    let l := (ofText "a ?.5 >>>= b".toList).scan
    let m := l.scan.scan
    let n : Lexer := { m with frames := m.frames.push .typePosition }
    (l.scan.token.kind.text? = some "?" ∧
      l.slice l.scan.token.start l.scan.token.stop = "?" ∧
      l.frames.current.TakesMark (l.text.drop l.scan.token.start) "?") ∧
    (m.scan.token.kind.text? = some ">>>=" ∧
      m.slice m.scan.token.start m.scan.token.stop = ">>>=" ∧
      m.frames.current.TakesMark (m.text.drop m.scan.token.start) ">>>=") ∧
    (n.scan.token.kind.text? = some ">" ∧
      n.slice n.scan.token.start n.scan.token.stop = ">" ∧
      n.frames.current.TakesMark (n.text.drop n.scan.token.start) ">") := by
  intro l m n
  have question : l.scan.token.kind = .questionToken := by decide +kernel
  have assignment : m.scan.token.kind = .greaterThanGreaterThanGreaterThanEqualsToken := by
    decide +kernel
  have greater : n.scan.token.kind = .greaterThanToken := by decide +kernel
  have alone : l.scan.token.kind.text? = some "?" := by rw [question]; rfl
  have joined : m.scan.token.kind.text? = some ">>>=" := by rw [assignment]; rfl
  have split : n.scan.token.kind.text? = some ">" := by rw [greater]; rfl
  exact ⟨⟨alone, (scan_longest l alone).2 (by rw [question]; rfl)⟩,
    ⟨joined, (scan_longest m joined).2 (by rw [assignment]; rfl)⟩,
    ⟨split, (scan_longest n split).2 (by rw [greater]; rfl)⟩⟩

/-- The token of a reserved word takes in an escape that breaks off. -/
theorem scan_longest_differs : ¬∀ (l : Lexer) (word : String), l.frames.current = .statement →
    l.scan.token.kind.text? = some word →
      l.slice l.scan.token.start l.scan.token.stop = word := by
  intro same
  let l := ofText "if\\u0020".toList
  have read : l.frames.current = .statement ∧ l.scan.token.kind.text? = some "if" ∧
      l.slice l.scan.token.start l.scan.token.stop = "if\\u0020" := by
    decide +kernel
  have slice : l.slice l.scan.token.start l.scan.token.stop = "if" := same l "if" read.1 read.2.1
  exact absurd (read.2.2.symm.trans slice) (by decide)

end Lexer

end TypedScript
