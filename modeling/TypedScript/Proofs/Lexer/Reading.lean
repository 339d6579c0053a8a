import TypedScript.Proofs.Lexer.Bounds

/-! Tokens where they lie in a text, and texts read as chains of tokens. The same characters may be
read in several ways, as the frames and the parser ask for; a chain says which readings were taken. -/

namespace TypedScript

open Text

/-- The ways to read a token off the characters at which it starts. -/
inductive Lexeme.IsAt : List Char → Lexeme → Prop
  | plain (frame : Frame) (chars : List Char) : IsAt chars (Lexer.lexemeAt frame chars)
  | chunk (rest : List Char) : IsAt ('\x7d' :: rest) (readChunk false rest)
  | slash (rest : List Char) : IsAt ('/' :: rest) (readRegularExpression ('/' :: rest))

theorem Lexeme.IsAt.fits {chars : List Char} {x : Lexeme} (h : x.IsAt chars) (ne : chars ≠ []) :
    x.Fits chars := by
  cases h with
  | plain frame =>
    cases chars with
    | nil => contradiction
    | cons c rest => exact readToken_fits frame.splitsAngles c rest
  | chunk rest => exact readChunk_fits false '\x7d' rest
  | slash rest => exact readRegularExpression_fits '/' rest

theorem Lexeme.IsAt.ofNil {x : Lexeme} (h : x.IsAt []) :
    x.kind = .endOfFileToken ∧ x.length = 0 := by
  cases h
  exact ⟨rfl, rfl⟩

/-- The token is one reading of the text where it starts. -/
structure Token.Read (text : List Char) (t : Token) : Prop where
  start_le : t.start ≤ text.length
  lexeme : ∃ x : Lexeme, x.IsAt (text.drop t.start) ∧ t.kind = x.kind ∧
    t.stop = t.start + x.length
  soft : t.soft ≠ none → t.kind = .identifier

namespace Token.Read

variable {text : List Char} {t : Token}

theorem fits (h : t.Read text) (ne : t.kind ≠ .endOfFileToken) :
    ∃ x : Lexeme, x.Fits (text.drop t.start) ∧ t.kind = x.kind ∧ t.stop = t.start + x.length := by
  obtain ⟨x, read, kind, stop⟩ := h.lexeme
  refine ⟨x, read.fits ?_, kind, stop⟩
  intro nil
  rw [nil] at read
  exact ne (kind.trans read.ofNil.1)

theorem lt (h : t.Read text) (ne : t.kind ≠ .endOfFileToken) : t.start < t.stop := by
  obtain ⟨x, fits, -, stop⟩ := h.fits ne
  have := fits.pos
  omega

theorem start_le_stop (h : t.Read text) : t.start ≤ t.stop := by
  obtain ⟨x, -, -, stop⟩ := h.lexeme
  omega

theorem stop_le (h : t.Read text) : t.stop ≤ text.length := by
  obtain ⟨x, read, kind, stop⟩ := h.lexeme
  by_cases ne : text.drop t.start = []
  · rw [ne] at read
    have := read.ofNil.2
    have := h.start_le
    omega
  · have := (read.fits ne).length_le
    have := h.start_le
    simp only [List.length_drop] at *
    omega

theorem spelled (h : t.Read text) {word : String} (hw : t.kind.text? = some word) :
    word.toList <+: text.drop t.start := by
  have ne : t.kind ≠ .endOfFileToken := by
    intro h
    rw [h] at hw
    exact nomatch hw
  obtain ⟨x, fits, kind, -⟩ := h.fits ne
  exact fits.text word (kind ▸ hw)

theorem chunkAt (h : t.Read text) (brace : t.kind = .closeBraceToken) :
    (readChunk false (text.drop t.start).tail).IsAt (text.drop t.start) := by
  have spelling : t.kind.text? = some "\x7d" := by rw [brace]; rfl
  obtain ⟨rest, eq⟩ := h.spelled spelling
  have rest_eq : text.drop t.start = '\x7d' :: rest := eq.symm
  rw [rest_eq]
  exact .chunk rest

theorem slash_ahead (h : t.Read text) (slash : t.kind = .slashToken ∨ t.kind = .slashEqualsToken) :
    ∃ rest, text.drop t.start = '/' :: rest := by
  rcases slash with slash | slash
  · have spelling : t.kind.text? = some "/" := by rw [slash]; rfl
    obtain ⟨rest, eq⟩ := h.spelled spelling
    exact ⟨rest, eq.symm⟩
  · have spelling : t.kind.text? = some "/=" := by rw [slash]; rfl
    obtain ⟨rest, eq⟩ := h.spelled spelling
    exact ⟨'=' :: rest, eq.symm⟩

theorem slashAt (h : t.Read text) (slash : t.kind = .slashToken ∨ t.kind = .slashEqualsToken) :
    (readRegularExpression (text.drop t.start)).IsAt (text.drop t.start) := by
  obtain ⟨rest, rest_eq⟩ := h.slash_ahead slash
  rw [rest_eq]
  exact .slash rest

theorem notEnd_of_soft_ne (h : t.Read text) (soft : t.soft ≠ none) :
    t.kind ≠ .endOfFileToken := by
  rw [h.soft soft]
  simp

theorem notEnd_of_soft (h : t.Read text) {word : SoftKeyword} (soft : t.isSoft word) :
    t.kind ≠ .endOfFileToken := by
  have soft : t.soft = some word := by simpa [isSoft] using soft
  exact h.notEnd_of_soft_ne (by simp [soft])

end Token.Read

theorem Trivia.readFrom_stop (skip offset : Nat) (chars : List Char) :
    offset ≤ (readFrom skip offset chars).stop ∧
      (readFrom skip offset chars).stop ≤ offset + chars.length := by
  fun_induction readFrom skip offset chars <;> simp_all +zetaDelta <;> omega

/-- Nothing but blanks, line breaks and comments lies between the two offsets. -/
def Gap (text : List Char) (a b : Nat) : Prop :=
  b = a ∨ b = (Trivia.read a (text.drop a)).stop

theorem Gap.le {text : List Char} {a b : Nat} (h : Gap text a b) : a ≤ b := by
  rcases h with rfl | rfl
  · exact Nat.le_refl _
  · exact (Trivia.readFrom_stop 0 a _).1

/-- From the offset `a` on the tokens follow each other, up to the offset `b` of the next one. -/
inductive Chain (text : List Char) : Nat → List Token → Nat → Prop
  | nil (a : Nat) : Chain text a [] a
  | cons {t : Token} {ts : List Token} {a b : Nat} : t.Read text → t.kind ≠ .endOfFileToken →
      Gap text t.stop a → Chain text a ts b → Chain text t.start (t :: ts) b

namespace Chain

variable {text : List Char} {ts us : List Token} {a b c : Nat}

theorem append (h : Chain text a ts b) (k : Chain text b us c) : Chain text a (ts ++ us) c := by
  induction h with
  | nil => exact k
  | cons read ne gap _ ih => exact .cons read ne gap (ih k)

theorem eq_of_nil (h : Chain text a [] b) : b = a := by
  cases h
  rfl

theorem le (h : Chain text a ts b) : a ≤ b := by
  induction h with
  | nil => exact Nat.le_refl _
  | cons read _ gap _ ih => exact Nat.le_trans read.start_le_stop (Nat.le_trans gap.le ih)

theorem lt (h : Chain text a ts b) (ne : ts ≠ []) : a < b := by
  cases h with
  | nil => contradiction
  | cons read notEnd gap rest =>
    exact Nat.lt_of_lt_of_le (read.lt notEnd) (Nat.le_trans gap.le rest.le)

theorem read_of_mem (h : Chain text a ts b) {t : Token} (mem : t ∈ ts) :
    t.Read text ∧ t.kind ≠ .endOfFileToken := by
  induction h with
  | nil => cases mem
  | cons read ne _ _ ih =>
    cases mem with
    | head => exact ⟨read, ne⟩
    | tail _ mem => exact ih mem

end Chain

namespace Lexer

variable (l : Lexer)

@[simp] theorem text_accept (c : Cursor) (x : Lexeme) (value : String) (flags : TokenFlags) :
    (l.accept c x value flags).text = c.text := rfl

@[simp] theorem offset_accept (c : Cursor) (x : Lexeme) (value : String) (flags : TokenFlags) :
    (l.accept c x value flags).offset = c.offset + x.length := rfl

theorem accept_read {c : Cursor} {x : Lexeme} (value : String) (flags : TokenFlags)
    (le : c.offset ≤ c.text.length) (read : x.IsAt c.rest) :
    (l.accept c x value flags).token.Read c.text where
  start_le := le
  lexeme := ⟨x, c.rest_eq ▸ read, rfl, rfl⟩
  soft := by
    intro soft
    simp only [accept, ne_eq, ite_eq_right_iff, Bool.and_eq_true, Classical.not_imp] at soft
    exact beq_iff_eq.1 soft.1.1

theorem slice_toList (start length : Nat) :
    (l.slice start (start + length)).toList = (l.text.drop start).take length := by
  rw [slice, String.toList_ofList, List.drop_take, Nat.add_sub_cancel_left]

@[simp] theorem text_skipTrivia : l.skipTrivia.1.text = l.text := rfl

theorem skipTrivia_gap : Gap l.text l.offset l.skipTrivia.1.offset := by
  have := (Trivia.readFrom_stop 0 l.offset l.cursor.rest).1
  refine .inr ?_
  simp only [skipTrivia, offset, text, Cursor.advance, Trivia.read, ← l.cursor.rest_eq] at *
  omega

theorem skipTrivia_offset_le (le : l.offset ≤ l.text.length) :
    l.skipTrivia.1.offset ≤ l.text.length := by
  have := Trivia.readFrom_stop 0 l.offset l.cursor.rest
  simp only [skipTrivia, offset, text, Cursor.advance, Trivia.read, l.cursor.rest_eq,
    List.length_drop] at *
  omega

variable {l} in
theorem scan_eq (skips : l.frames.current.preservesSpace = false) :
    l.scan = l.skipTrivia.1.accept l.skipTrivia.1.cursor
      (lexemeAt l.frames.current l.skipTrivia.1.cursor.rest)
      (lexemeAt l.frames.current l.skipTrivia.1.cursor.rest).value
      { afterLineBreak := l.skipTrivia.2 } := by
  simp only [scan, skips]
  rfl

theorem scan_spec (le : l.offset ≤ l.text.length) :
    l.scan.token.Read l.text ∧ l.scan.text = l.text ∧ l.scan.offset = l.scan.token.stop ∧
      Gap l.text l.offset l.scan.token.start := by
  unfold scan
  dsimp only
  split
  · exact ⟨accept_read _ _ _ le (.plain _ _), rfl, rfl, .inl rfl⟩
  · exact ⟨accept_read _ _ _ (l.skipTrivia_offset_le le) (.plain _ _), rfl, rfl,
      l.skipTrivia_gap⟩

theorem reread_spec (read : l.token.Read l.text) {x : Lexeme}
    (readAt : x.IsAt (l.text.drop l.token.start)) (value : String) (flags : TokenFlags) :
    let reread := l.accept (l.cursor.seek l.token.start) x value flags
    reread.token.Read l.text ∧ reread.text = l.text ∧ reread.offset = reread.token.stop ∧
      reread.token.start = l.token.start :=
  have read := l.accept_read value flags (c := l.cursor.seek l.token.start) read.start_le readAt
  ⟨read, rfl, rfl, rfl⟩

theorem rescanAngles_spec (read : l.token.Read l.text) (offset : l.offset = l.token.stop) :
    l.rescanAngles.token.Read l.text ∧ l.rescanAngles.text = l.text ∧
      l.rescanAngles.offset = l.rescanAngles.token.stop ∧
      l.rescanAngles.token.start = l.token.start := by
  unfold rescanAngles
  split
  · exact l.reread_spec read (.plain _ _) _ _
  · exact ⟨read, rfl, offset, rfl⟩

theorem rescanTemplate_spec (read : l.token.Read l.text)
    (brace : l.token.kind = .closeBraceToken) :
    l.rescanTemplate.token.Read l.text ∧ l.rescanTemplate.text = l.text ∧
      l.rescanTemplate.offset = l.rescanTemplate.token.stop ∧
      l.rescanTemplate.token.start = l.token.start := by
  exact l.reread_spec read (read.chunkAt brace) _ _

theorem rescanSlash_spec (read : l.token.Read l.text)
    (slash : l.token.kind = .slashToken ∨ l.token.kind = .slashEqualsToken) :
    l.rescanSlash.token.Read l.text ∧ l.rescanSlash.text = l.text ∧
      l.rescanSlash.offset = l.rescanSlash.token.stop ∧
      l.rescanSlash.token.start = l.token.start := by
  exact l.reread_spec read (read.slashAt slash) _ _

theorem skipShebang_eq : ∃ cursor, l.skipShebang = { l with cursor } ∧ cursor.text = l.text := by
  unfold skipShebang
  split <;> exact ⟨_, rfl, rfl⟩

theorem skipShebang_offset_le (atStart : l.cursor = .atStart l.text) :
    l.skipShebang.offset ≤ l.text.length := by
  unfold skipShebang
  split
  · rename_i rest offset chars
    have text : l.text = '#' :: '!' :: rest := by rw [← chars, atStart]; rfl
    have le : (lineCommentText rest).length ≤ rest.length :=
      (List.takeWhile_sublist _).length_le
    simp only [Lexer.offset, Cursor.advance, offset, text, List.length_cons]
    omega
  · simp only [Lexer.offset, atStart, Cursor.atStart]
    omega

end Lexer

def angleOperators : List (List Char) :=
  ["<", "<=", "<<", "<<=", ">", ">=", ">>", ">>=", ">>>", ">>>="].map String.toList

/-- Of the words the longest one with which the characters start. -/
structure LongestAt (words : List (List Char)) (chars word : List Char) : Prop where
  mem : word ∈ words
  starts : word <+: chars
  longest : ∀ other ∈ words, other <+: chars → other.length ≤ word.length

/-- What is read in a frame: brackets by themselves, or operators of them. -/
def Frame.angles (f : Frame) : List (List Char) :=
  if f.splitsAngles then [['<'], ['>']] else angleOperators

/-- The kind and the length are those of the longest that the frame has at the characters. -/
def Frame.Reads (f : Frame) (chars : List Char) (kind : Kind) (length : Nat) : Prop :=
  ∃ word, kind.text?.map String.toList = some word ∧ length = word.length ∧
    LongestAt f.angles chars word

theorem notAhead {c : Char} {word rest : List Char} (h : ∀ tail, rest = c :: tail → False) :
    ¬c :: word <+: rest := by
  rintro ⟨tail, rfl⟩
  exact h _ rfl

namespace Punctuation

theorem afterLess_longest (rest : List Char) :
    ∃ word, (afterLess rest).1.text?.map String.toList = some word ∧
      (afterLess rest).2 = word.length ∧ LongestAt angleOperators ('<' :: rest) word := by
  unfold afterLess
  split
  case h_1 => exact ⟨_, rfl, rfl, by decide, by simp, by simp [angleOperators]⟩
  case h_2 noEquals =>
    exact ⟨_, rfl, rfl, by decide, by simp, by simp [angleOperators, notAhead noEquals]⟩
  case h_3 => exact ⟨_, rfl, rfl, by decide, by simp, by simp [angleOperators]⟩
  case h_4 noBoth noLess noEquals =>
    exact ⟨_, rfl, rfl, by decide, by simp,
      by simp [angleOperators, notAhead noLess, notAhead noEquals]⟩

theorem afterGreater_longest (rest : List Char) :
    ∃ word, (afterGreater rest).1.text?.map String.toList = some word ∧
      (afterGreater rest).2 = word.length ∧ LongestAt angleOperators ('>' :: rest) word := by
  unfold afterGreater
  split
  case h_1 => exact ⟨_, rfl, rfl, by decide, by simp, by simp [angleOperators]⟩
  case h_2 noEquals =>
    exact ⟨_, rfl, rfl, by decide, by simp, by simp [angleOperators, notAhead noEquals]⟩
  case h_3 => exact ⟨_, rfl, rfl, by decide, by simp, by simp [angleOperators]⟩
  case h_4 noBoth noGreater noEquals =>
    exact ⟨_, rfl, rfl, by decide, by simp,
      by simp [angleOperators, notAhead noGreater, notAhead noEquals]⟩
  case h_5 => exact ⟨_, rfl, rfl, by decide, by simp, by simp [angleOperators]⟩
  case h_6 noAssign noThree noTwoAssign noGreater noEquals =>
    exact ⟨_, rfl, rfl, by decide, by simp,
      by simp [angleOperators, notAhead noGreater, notAhead noEquals]⟩

end Punctuation

namespace Lexer

variable (f : Frame) (rest : List Char)

theorem lexemeAt_less : lexemeAt f ('<' :: rest) =
    let m := if f.splitsAngles then (.lessThanToken, 1) else Punctuation.afterLess rest
    { kind := m.1, length := m.2 } := by
  cases splits : f.splitsAngles <;> simp only [lexemeAt, splits] <;> rfl

theorem lexemeAt_greater : lexemeAt f ('>' :: rest) =
    let m := if f.splitsAngles then (.greaterThanToken, 1) else Punctuation.afterGreater rest
    { kind := m.1, length := m.2 } := by
  cases splits : f.splitsAngles <;> simp only [lexemeAt, splits] <;> rfl

theorem lexemeAt_reads {c : Char} (angle : c = '<' ∨ c = '>') :
    f.Reads (c :: rest) (lexemeAt f (c :: rest)).kind (lexemeAt f (c :: rest)).length := by
  unfold Frame.Reads Frame.angles
  rcases angle with rfl | rfl
  · rw [lexemeAt_less]
    cases f.splitsAngles with
    | true => exact ⟨_, rfl, rfl, by decide, by simp, by simp⟩
    | false => exact Punctuation.afterLess_longest rest
  · rw [lexemeAt_greater]
    cases f.splitsAngles with
    | true => exact ⟨_, rfl, rfl, by decide, by simp, by simp⟩
    | false => exact Punctuation.afterGreater_longest rest

end Lexer

end TypedScript
