import TypedScript.Lexer.Basic

/-! How far the readers of tokens go. A token lies inside the text, and only the one at the end of
the text is empty. -/

namespace TypedScript

open Text

theorem Escape.hexDigits_length_le {count value code : Nat} {chars : List Char}
    (h : hexDigits count value chars = some code) : count ≤ chars.length := by
  induction count generalizing value chars with
  | zero => exact Nat.zero_le _
  | succ count ih =>
    cases chars with
    | nil => simp [hexDigits] at h
    | cons c rest =>
      simp only [hexDigits] at h
      split at h
      · have := ih h
        simp only [List.length_cons]
        omega
      · simp at h

theorem Escape.hexRun_length_le (chars : List Char) : (hexRun chars).length ≤ chars.length :=
  (List.takeWhile_sublist _).length_le

theorem Escape.fixed_length_le (count : Nat) (chars : List Char) :
    (fixed count chars).length ≤ chars.length := by
  unfold fixed
  split
  · exact hexDigits_length_le ‹_›
  · have := hexRun_length_le chars
    simp only
    omega

theorem Escape.braced_length_le (chars : List Char) : (braced chars).length ≤ chars.length := by
  have run := hexRun_length_le chars
  have closed : chars[(hexRun chars).length]? = some '\x7d' →
      (hexRun chars).length + 1 ≤ chars.length := fun h => (List.getElem?_eq_some_iff.1 h).1
  unfold braced
  simp only [beq_iff_eq]
  split <;> split <;> simp_all

theorem Escape.unicode_length_le (chars : List Char) : (unicode chars).length ≤ chars.length := by
  unfold unicode
  split
  · simpa using braced_length_le _
  · exact fixed_length_le 4 _

theorem stringBody_length_le (quote : Char) (skip offset : Nat) (chars : List Char) :
    (stringBody quote skip offset chars).length ≤ chars.length := by
  fun_induction stringBody quote skip offset chars with
  | case5 _ _ _ _ _ _ _ b _ ih => simpa [b, Body.cons] using ih
  | _ => simp_all [Body.cons]

theorem Chunk.read_length_le (chars : List Char) : (Chunk.read chars).length ≤ chars.length := by
  fun_induction Chunk.read chars <;> simp_all [Chunk.cons]

theorem regularExpressionBody_cons {c : Char} (other : c ≠ '\\') (inClass : Bool)
    (rest : List Char) :
    regularExpressionBody inClass (c :: rest) =
      if isLineBreak c then {}
      else if c == '/' && !inClass then
        { length := (rest.takeWhile isNamePart).length + 1, closed := true }
      else
        (regularExpressionBody (if c == '[' then true else if c == ']' then false else inClass)
          rest).after 1 := by
  rw [regularExpressionBody]
  exact fun _ _ is _ => other is

theorem regularExpressionBody_length_le (inClass : Bool) (chars : List Char) :
    (regularExpressionBody inClass chars).length ≤ chars.length := by
  fun_induction regularExpressionBody inClass chars with
  | case5 => simpa using (List.takeWhile_sublist _).length_le
  | _ => simp_all [Reach.after]

theorem readRegularExpression_length_le (c : Char) (rest : List Char) :
    (readRegularExpression (c :: rest)).length ≤ rest.length + 1 := by
  simpa [readRegularExpression] using regularExpressionBody_length_le false rest

theorem readChunk_length_le (starts : Bool) (rest : List Char) :
    (readChunk starts rest).length ≤ rest.length + 1 := by
  simpa [readChunk] using Chunk.read_length_le rest

theorem readString_length_le (quote : Char) (rest : List Char) :
    (readString quote rest).length ≤ rest.length + 1 := by
  simpa [readString] using stringBody_length_le quote 0 1 rest

theorem readLetters_length_le (first : Bool) (skip offset : Nat) (chars : List Char) :
    (readLetters first skip offset chars).length ≤ chars.length := by
  fun_induction readLetters first skip offset chars with
  | case1 => simp
  | case2 _ _ _ _ _ w ih => simpa [w] using ih
  | case3 _ _ _ _ _ _ _ _ w ih => simpa [w] using ih
  | case4 first offset c rest h e _ =>
    cases rest with
    | nil => simp at h
    | cons u rest =>
      have := Escape.unicode_length_le rest
      simp only [List.tail_cons, List.length_cons, e]
      omega
  | case5 _ _ _ _ _ _ w ih => simpa [w] using ih
  | case6 => simp

theorem readLetters_pos {c : Char} {rest : List Char}
    (h : isNameStart c ∨ c = '\\' ∧ rest.head? = some 'u') :
    0 < (readLetters true 0 0 (c :: rest)).length := by
  unfold readLetters
  dsimp only
  split
  · split <;> simp
  · split
    · simp
    · simp_all [fitsName]

theorem readWord_length_le (chars : List Char) : (readWord chars).length ≤ chars.length :=
  readLetters_length_le true 0 0 chars

theorem readPrivateName_length_le (rest : List Char) :
    (readPrivateName rest).length ≤ rest.length + 1 := by
  have := readLetters_length_le true 0 1 rest
  unfold readPrivateName
  dsimp only
  split <;> simpa

theorem digitRun_isPrefix (base : Nat) (chars : List Char) : digitRun base chars <+: chars :=
  List.takeWhile_prefix _

theorem fractionPart_isPrefix (chars : List Char) : fractionPart chars <+: chars := by
  unfold fractionPart
  split
  · exact (List.prefix_cons_inj _).2 (digitRun_isPrefix 10 _)
  · exact List.nil_prefix

theorem exponentPart_isPrefix (chars : List Char) :
    (exponentPart chars).1 ++ (exponentPart chars).2.getD [] <+: chars := by
  unfold exponentPart
  split
  · split
    · split
      · split <;> simpa using digitRun_isPrefix 10 _
      · simp
    · exact List.nil_prefix
  · exact List.nil_prefix

theorem isPrefix_append_drop {a b l : List Char} (ha : a <+: l) (hb : b <+: l.drop a.length) :
    a ++ b <+: l := by
  obtain ⟨t, rfl⟩ := ha
  simpa using hb

theorem Numeral.decimal_isPrefix (chars : List Char) : (decimal chars).chars <+: chars := by
  have whole := digitRun_isPrefix 10 chars
  have fraction := fractionPart_isPrefix (chars.drop (digitRun 10 chars).length)
  have exponent := exponentPart_isPrefix
    (chars.drop ((digitRun 10 chars).length +
      (fractionPart (chars.drop (digitRun 10 chars).length)).length))
  have number := isPrefix_append_drop whole fraction
  have := isPrefix_append_drop number (by simpa using exponent)
  simpa [decimal, List.append_assoc] using this

theorem Numeral.read_isPrefix (chars : List Char) : (Numeral.read chars).chars <+: chars := by
  unfold Numeral.read
  split
  · split
    · simpa [Numeral.based, List.prefix_cons_iff] using digitRun_isPrefix _ _
    · exact decimal_isPrefix _
  · exact decimal_isPrefix _

theorem readNumber_length_le (chars : List Char) : (readNumber chars).length ≤ chars.length := by
  have := (Numeral.read_isPrefix chars).length_le
  unfold readNumber
  dsimp only
  split
  · rename_i h
    rcases Nat.lt_or_ge (Numeral.read chars).chars.length chars.length with lt | ge
    · exact lt
    · simp [List.drop_eq_nil_of_le ge] at h
  · exact this

/-- The mark is where the text, which starts with `c`, continues. -/
structure Punctuation.Fits (c : Char) (rest : List Char) (m : Kind × Nat) : Prop where
  pos : 0 < m.2
  length_le : m.2 ≤ rest.length + 1
  text : m.1.text?.map String.toList = some ((c :: rest).take m.2)

namespace Punctuation

theorem single_fits {c : Char} {kind : Kind} (rest : List Char)
    (is : kind.text?.map String.toList = some [c]) : Fits c rest (kind, 1) :=
  ⟨Nat.one_pos, Nat.succ_pos rest.length, is⟩

theorem afterLess_fits (rest : List Char) : Fits '<' rest (afterLess rest) := by
  unfold afterLess
  split <;> constructor <;> simp <;> decide

theorem afterGreater_fits (rest : List Char) : Fits '>' rest (afterGreater rest) := by
  unfold afterGreater
  split <;> constructor <;> simp <;> decide

theorem afterEquals_fits (rest : List Char) : Fits '=' rest (afterEquals rest) := by
  unfold afterEquals
  split <;> constructor <;> simp <;> decide

theorem afterExclamation_fits (rest : List Char) : Fits '!' rest (afterExclamation rest) := by
  unfold afterExclamation
  split <;> constructor <;> simp <;> decide

theorem afterQuestion_fits (rest : List Char) : Fits '?' rest (afterQuestion rest) := by
  unfold afterQuestion
  split
  all_goals try split
  all_goals constructor <;> simp
  all_goals decide

theorem afterDot_fits (rest : List Char) : Fits '.' rest (afterDot rest) := by
  unfold afterDot
  split <;> constructor <;> simp <;> decide

theorem afterPlus_fits (rest : List Char) : Fits '+' rest (afterPlus rest) := by
  unfold afterPlus
  split <;> constructor <;> simp <;> decide

theorem afterMinus_fits (rest : List Char) : Fits '-' rest (afterMinus rest) := by
  unfold afterMinus
  split <;> constructor <;> simp <;> decide

theorem afterAsterisk_fits (rest : List Char) : Fits '*' rest (afterAsterisk rest) := by
  unfold afterAsterisk
  split <;> constructor <;> simp <;> decide

theorem afterAmpersand_fits (rest : List Char) : Fits '&' rest (afterAmpersand rest) := by
  unfold afterAmpersand
  split <;> constructor <;> simp <;> decide

theorem afterBar_fits (rest : List Char) : Fits '|' rest (afterBar rest) := by
  unfold afterBar
  split <;> constructor <;> simp <;> decide

theorem assignable_fits {c : Char} {plain assigning : Kind} (rest : List Char)
    (hp : plain.text?.map String.toList = some [c])
    (ha : assigning.text?.map String.toList = some [c, '=']) :
    Fits c rest (assignable plain assigning rest) := by
  unfold assignable
  split <;> constructor <;> simp_all

theorem read?_fits {c : Char} {rest : List Char} {m : Kind × Nat} (h : read? c rest = some m) :
    Fits c rest m := by
  unfold read? at h
  split at h
  case h_26 => cases h
  all_goals cases h
  case h_12 => exact afterDot_fits rest
  case h_13 => exact afterQuestion_fits rest
  case h_14 => exact afterLess_fits rest
  case h_15 => exact afterGreater_fits rest
  case h_16 => exact afterEquals_fits rest
  case h_17 => exact afterExclamation_fits rest
  case h_18 => exact afterPlus_fits rest
  case h_19 => exact afterMinus_fits rest
  case h_20 => exact afterAsterisk_fits rest
  case h_21 => exact assignable_fits rest (by decide) (by decide)
  case h_22 => exact assignable_fits rest (by decide) (by decide)
  case h_23 => exact assignable_fits rest (by decide) (by decide)
  case h_24 => exact afterAmpersand_fits rest
  case h_25 => exact afterBar_fits rest
  all_goals exact single_fits rest (by decide)

theorem readSplit?_fits {c : Char} {rest : List Char} {m : Kind × Nat}
    (h : readSplit? c rest = some m) : Fits c rest m := by
  unfold readSplit? at h
  split at h
  · cases h
    exact single_fits rest (by decide)
  · cases h
    exact single_fits rest (by decide)
  · exact read?_fits h

end Punctuation

/-- The token is at the start of the characters, and takes some of them. -/
structure Lexeme.Fits (chars : List Char) (x : Lexeme) : Prop where
  pos : 0 < x.length
  length_le : x.length ≤ chars.length
  notEnd : x.kind ≠ .endOfFileToken
  text : ∀ word, x.kind.text? = some word → word.toList <+: chars

theorem Lexeme.Fits.ofMark {c : Char} {rest : List Char} {kind : Kind} {length : Nat}
    (h : Punctuation.Fits c rest (kind, length)) : Fits (c :: rest) { kind, length } where
  pos := h.pos
  length_le := h.length_le
  notEnd := by
    rintro rfl
    exact nomatch h.text
  text word hw := by
    have := h.text
    simp only [hw, Option.map_some, Option.some.injEq] at this
    exact this ▸ List.take_prefix _ _

theorem readLetters_isPrefix (first : Bool) (offset : Nat) (chars : List Char)
    (h : (readLetters first 0 offset chars).escaped = false) :
    (readLetters first 0 offset chars).chars <+: chars := by
  induction chars generalizing first offset with
  | nil => simp [readLetters]
  | cons c rest ih =>
    unfold readLetters at h ⊢
    by_cases escape : (c == '\\' && rest.head? == some 'u') = true
    · simp only [escape, ↓reduceIte] at h ⊢
      split at h
      · simp at h
      · exact List.nil_prefix
    · simp only [escape, Bool.false_eq_true, ↓reduceIte] at h ⊢
      by_cases fits : fitsName first c = true
      · simp only [fits, ↓reduceIte] at h ⊢
        exact (List.prefix_cons_inj c).2 (ih false (offset + 1) h)
      · simp only [fits, Bool.false_eq_true, ↓reduceIte]
        exact List.nil_prefix

theorem Kind.text_ofReserved {word : String} {k : Kind} (h : ofReserved? word = some k) :
    k.text? = some word := by
  have := List.find?_some (p := fun k : Kind => k.text? == some word) h
  exact beq_iff_eq.1 this

theorem Kind.ofReserved_ne_end {word : String} : ofReserved? word ≠ some .endOfFileToken :=
  fun h => nomatch text_ofReserved h

theorem readWord_fits {c : Char} {rest : List Char}
    (h : isNameStart c ∨ c = '\\' ∧ rest.head? = some 'u') :
    (readWord (c :: rest)).Fits (c :: rest) where
  pos := readLetters_pos h
  length_le := readWord_length_le _
  notEnd := by
    unfold readWord
    dsimp only
    split
    · simp
    · split
      · simp
      · cases hk : Kind.ofReserved? _ with
        | none => simp
        | some k =>
          rintro rfl
          exact Kind.ofReserved_ne_end hk
  text word hw := by
    unfold readWord at hw
    dsimp only at hw
    split at hw
    · exact nomatch hw
    · split at hw
      · exact nomatch hw
      · rename_i escaped
        cases hk : Kind.ofReserved?
            (String.ofList (readLetters true 0 0 (c :: rest)).chars) with
        | none =>
          rw [hk] at hw
          exact nomatch hw
        | some k =>
          rw [hk, Option.getD_some, Kind.text_ofReserved hk, Option.some.injEq] at hw
          subst hw
          simpa using readLetters_isPrefix true 0 (c :: rest) (by simpa using escaped)

theorem readPrivateName_fits (c : Char) (rest : List Char) :
    (readPrivateName rest).Fits (c :: rest) where
  pos := by
    unfold readPrivateName
    dsimp only
    split <;> simp
  length_le := readPrivateName_length_le rest
  notEnd := by
    unfold readPrivateName
    dsimp only
    split <;> simp
  text word hw := by
    unfold readPrivateName at hw
    dsimp only at hw
    split at hw <;> exact nomatch hw

theorem readString_fits (quote c : Char) (rest : List Char) :
    (readString quote rest).Fits (c :: rest) where
  pos := by simp [readString]
  length_le := readString_length_le quote rest
  notEnd := by simp [readString]
  text _ hw := nomatch hw

theorem readChunk_fits (starts : Bool) (c : Char) (rest : List Char) :
    (readChunk starts rest).Fits (c :: rest) where
  pos := by simp [readChunk]
  length_le := readChunk_length_le starts rest
  notEnd := by cases starts <;> simp only [readChunk] <;> split <;> simp
  text word hw := by
    cases starts <;> simp only [readChunk] at hw <;> split at hw <;> exact nomatch hw

theorem readRegularExpression_fits (c : Char) (rest : List Char) :
    (readRegularExpression (c :: rest)).Fits (c :: rest) where
  pos := by simp [readRegularExpression]
  length_le := readRegularExpression_length_le c rest
  notEnd := by simp [readRegularExpression]
  text _ hw := nomatch hw

theorem isDigitOf_ten {c : Char} (h : isDigit c) : isDigitOf 10 c := by
  simp only [isDigit, Char.isDigit, Bool.and_eq_true, decide_eq_true_eq] at h
  have low : '0' ≤ c := h.1
  have high : c ≤ '9' := h.2
  have : c.toNat ≤ 57 := by simpa [Char.le_def, UInt32.le_iff_toNat_le] using high
  simp only [isDigitOf, hexValue?, low, high, decide_true, Bool.and_self, ↓reduceIte,
    decide_eq_true_eq]
  omega

theorem Numeral.read_ne_nil {c : Char} {rest : List Char}
    (h : isDigit c ∨ c = '.' ∧ rest.head?.any isDigit) : (Numeral.read (c :: rest)).chars ≠ [] := by
  have decimal : (Numeral.decimal (c :: rest)).chars ≠ [] := by
    rcases h with digit | ⟨rfl, -⟩
    · simp [Numeral.decimal, digitRun, isDigitOf_ten digit]
    · have : isDigitOf 10 '.' = false := by decide
      simp [Numeral.decimal, digitRun, this, fractionPart]
  unfold Numeral.read
  split
  · split
    · simp [Numeral.based]
    · exact decimal
  · exact decimal

theorem readNumber_fits {c : Char} {rest : List Char}
    (h : isDigit c ∨ c = '.' ∧ rest.head?.any isDigit) :
    (readNumber (c :: rest)).Fits (c :: rest) where
  pos := by
    have := List.length_pos_iff.2 (Numeral.read_ne_nil h)
    unfold readNumber
    dsimp only
    split
    · exact Nat.succ_pos _
    · exact this
  length_le := readNumber_length_le _
  notEnd := by
    unfold readNumber
    dsimp only
    split <;> simp
  text word hw := by
    unfold readNumber at hw
    dsimp only at hw
    split at hw <;> exact nomatch hw

theorem readToken_fits (splitsAngles : Bool) (c : Char) (rest : List Char) :
    (readToken splitsAngles c rest).Fits (c :: rest) := by
  unfold readToken
  split
  · exact readString_fits c c rest
  split
  · exact readChunk_fits true c rest
  split
  · exact readPrivateName_fits c rest
  split
  · exact readNumber_fits (by simp_all)
  split
  · exact readWord_fits (by simp_all)
  · dsimp only
    split
    · rename_i h
      split at h
      · exact .ofMark (Punctuation.readSplit?_fits h)
      · exact .ofMark (Punctuation.read?_fits h)
    · exact ⟨Nat.one_pos, by simp, by simp, fun _ h => nomatch h⟩

end TypedScript
