import TypedScript.Proofs.Lexer.Current
import TypedScript.Proofs.Lexer.Extended

/-! Two lexers side by side: one reads a text by itself, the other one reads it where it stands inside
another text. Their tokens are the same up to where they stand, until one of them is at its end and
the other one at the semicolon after the text. -/

namespace TypedScript

open Text

/-- What stands around a text: something before it, and after it nothing or a semicolon on a line of
its own. -/
structure Host where
  before : List Char
  after : List Char
  ends : after = [] ∨ after = semiLine

namespace Host

variable (h : Host)

/-- How much further on the text stands. -/
def shift : Nat := h.before.length

def around (text : List Char) : List Char := h.before ++ (text ++ h.after)

theorem around_drop {text : List Char} {n : Nat} (le : n ≤ text.length) :
    (h.around text).drop (n + h.shift) = text.drop n ++ h.after := by
  rw [around, Nat.add_comm, ← List.drop_drop, shift, List.drop_left, List.drop_append_of_le_length le]

end Host

structure Token.Moved (n : Nat) (t u : Token) : Prop where
  kind : u.kind = t.kind
  value : u.value = t.value
  flags : u.flags = t.flags
  soft : u.soft = t.soft
  start : u.start = t.start + n
  stop : u.stop = t.stop + n

structure Lexer.AtEnd (l : Lexer) : Prop where
  rest : l.cursor.rest = []
  error : l.error = none
  soft : l.token.soft = none
  kind : l.token.kind = .endOfFileToken ∨ l.token.kind = .semicolonToken

namespace Lexer

variable (h : Host) (l m : Lexer)

structure AtSameRest : Prop where
  text : m.text = h.around l.text
  offset : m.offset = l.offset + h.shift
  le : l.offset ≤ l.text.length
  error : l.error = none
  error' : m.error = none

/-- Both are at the same token. -/
structure AtSameToken : Prop extends AtSameRest h l m where
  token : l.token.Moved h.shift m.token
  read : l.token.Read l.text
  stop : l.offset = l.token.stop
  inside : h.after = [] ∨ l.token.kind ≠ .endOfFileToken

/-- One of them is at its end, and the other one at the semicolon. -/
structure AtEnds : Prop where
  after : h.after = semiLine
  left : l.AtEnd
  kind : l.token.kind = .endOfFileToken
  right : m.AtEnd
  kind' : m.token.kind = .semicolonToken

inductive ScanOutcome : Prop
  | failed : l.error.isSome → m.error.isSome → ScanOutcome
  | here : AtSameToken h l m → ScanOutcome
  | ended : AtEnds h l m → ScanOutcome

variable {h l m}

theorem AtSameRest.rest (f : AtSameRest h l m) : m.cursor.rest = l.cursor.rest ++ h.after := by
  have text : m.cursor.text = h.around l.cursor.text := f.text
  have offset : m.cursor.offset = l.cursor.offset + h.shift := f.offset
  rw [m.cursor.rest_eq, l.cursor.rest_eq, text, offset]
  exact h.around_drop f.le

theorem AtSameToken.ahead (here : AtSameToken h l m) :
    m.text.drop m.token.start = l.text.drop l.token.start ++ h.after := by
  rw [here.text, here.token.start, h.around_drop here.read.start_le]

theorem AtSameToken.ne_nil (here : AtSameToken h l m) (after : h.after = semiLine) :
    l.text.drop l.token.start ≠ [] := by
  have ne := here.inside.resolve_left (by rw [after]; exact List.cons_ne_nil _ _)
  have := here.read.lt ne
  have := here.read.stop_le
  rw [Ne, List.drop_eq_nil_iff]
  omega

end Lexer

theorem Lexeme.Agrees.refl (x : Lexeme) : x.Agrees x := .inl rfl

namespace Lexer

variable {h : Host} {l m : Lexer}

theorem lexemeAt_append (frame : Frame) {chars : List Char} (ne : chars ≠ []) :
    (lexemeAt frame chars).Agrees (lexemeAt frame (chars ++ semiLine)) := by
  obtain ⟨c, rest, rfl⟩ := List.exists_cons_of_ne_nil ne
  exact readToken_append frame.splitsAngles c rest

theorem lexemeAt_after (h : Host) (frame : Frame) {chars : List Char}
    (ne : h.after = [] ∨ chars ≠ []) :
    (lexemeAt frame chars).Agrees (lexemeAt frame (chars ++ h.after)) := by
  rcases h.ends with after | after
  · rw [after, List.append_nil]
    exact .refl _
  · rw [after] at ne ⊢
    exact lexemeAt_append frame (ne.resolve_left (List.cons_ne_nil _ _))

theorem AtSameRest.accept {c d : Cursor} {x y : Lexeme} {value value' : String} {flags flags' : TokenFlags}
    (f : AtSameRest h { l with cursor := c } { m with cursor := d }) (agrees : x.Agrees y)
    (read : x.IsAt c.rest) (inside : h.after = [] ∨ c.rest ≠ [])
    (same : y = x → value' = value ∧ flags' = flags) :
    ScanOutcome h (l.accept c x value flags) (m.accept d y value' flags') := by
  have error : l.error = none := f.error
  have error' : m.error = none := f.error'
  rcases agrees with rfl | ⟨wrong, wrong'⟩
  · obtain ⟨rfl, rfl⟩ := same rfl
    cases complaint : y.complaint with
    | some e =>
      exact .failed (by simp [Lexer.accept, locate, error, complaint])
        (by simp [Lexer.accept, locate, error', complaint])
    | none =>
      have token := l.accept_read value' flags' f.le read
      have offset : d.offset = c.offset + h.shift := f.offset
      refine .here { text := f.text, offset := ?_, le := token.stop_le, error := ?_, error' := ?_,
                     token := ⟨rfl, rfl, rfl, rfl, offset, ?_⟩, read := token, stop := rfl,
                     inside := inside.imp_right fun ne => (read.fits ne).notEnd }
      · change d.offset + y.length = c.offset + y.length + h.shift
        omega
      · simp [Lexer.accept, locate, error, complaint]
      · simp [Lexer.accept, locate, error', complaint]
      · change d.offset + y.length = c.offset + y.length + h.shift
        omega
  · obtain ⟨e, wrong⟩ := Option.isSome_iff_exists.1 wrong
    obtain ⟨e', wrong'⟩ := Option.isSome_iff_exists.1 wrong'
    exact .failed (by simp [Lexer.accept, locate, error, wrong])
      (by simp [Lexer.accept, locate, error', wrong'])

end Lexer

theorem Trivia.readFrom_shift (n skip offset : Nat) (chars : List Char) :
    (readFrom skip (offset + n) chars).stop = (readFrom skip offset chars).stop + n ∧
      (readFrom skip (offset + n) chars).lineBreak = (readFrom skip offset chars).lineBreak ∧
      (readFrom skip (offset + n) chars).unclosed.isSome =
        (readFrom skip offset chars).unclosed.isSome := by
  have moved (offset : Nat) : offset + n + 1 = offset + 1 + n := by omega
  fun_induction readFrom skip offset chars with
  | case1 => exact ⟨rfl, rfl, rfl⟩
  | case2 offset skip c rest ih =>
    rw [readFrom, moved]
    exact ih
  | case3 offset c rest breaks after ih =>
    simp only [readFrom, breaks, moved, if_true]
    exact ⟨ih.1, trivial, ih.2.2⟩
  | case4 offset c rest breaks blank ih =>
    simp only [readFrom, if_neg breaks, blank, moved, if_true]
    exact ih
  | case5 offset c rest breaks blank line text length after comment ih =>
    simp only [readFrom, if_neg breaks, if_neg blank, if_pos line, moved]
    exact ih
  | case6 offset c rest breaks blank line opens block length after comment ih =>
    simp only [readFrom, if_neg breaks, if_neg blank, if_neg line, if_pos opens, moved]
    refine ⟨ih.1, congrArg (· || _) ih.2.1, ?_⟩
    change (if block.closed then _ else _ : Option Nat).isSome = _
    cases block.closed
    · rfl
    · exact ih.2.2
  | case7 offset c rest breaks blank line opens =>
    simp only [readFrom, if_neg breaks, if_neg blank, if_neg line, if_neg opens]
    exact ⟨trivial, trivial, trivial⟩

theorem Trivia.read_after (h : Host) (offset : Nat) (chars : List Char) :
    let x := read offset chars
    let y := read (offset + h.shift) (chars ++ h.after)
    x.unclosed.isSome ∧ y.unclosed.isSome ∨
      x.unclosed = none ∧ y.unclosed = none ∧
        ((h.after = [] ∨ x.stop < offset + chars.length) ∧ y.stop = x.stop + h.shift ∧
            y.lineBreak = x.lineBreak ∨
          h.after = semiLine ∧ x.stop = offset + chars.length ∧
            y.stop = offset + chars.length + h.shift + 1) := by
  intro x y
  rcases h.ends with after | after
  · have shifted := readFrom_shift h.shift 0 offset chars
    have eq : y = readFrom 0 (offset + h.shift) chars := by
      simp only [y, after, List.append_nil, read]
    rw [← eq] at shifted
    cases unclosed : x.unclosed with
    | some => exact .inl ⟨rfl, by rw [shifted.2.2]; exact Option.isSome_of_eq_some unclosed⟩
    | none =>
      refine .inr ⟨rfl, ?_, .inl ⟨.inl after, shifted.1, shifted.2.1⟩⟩
      rw [← Option.not_isSome_iff_eq_none, shifted.2.2]
      change ¬x.unclosed.isSome
      simp [unclosed]
  · have extended : Extended h.shift (offset + chars.length) x y := by
      simp only [x, y, after]
      exact readFrom_append _ _ (Nat.zero_le _)
    rcases extended with wrong | ⟨none, none', ⟨lt, stop, same⟩ | ⟨ends, stop, -⟩⟩
    · exact .inl wrong
    · exact .inr ⟨none, none', .inl ⟨.inr lt, stop, same⟩⟩
    · exact .inr ⟨none, none', .inr ⟨after, ends, stop⟩⟩

namespace Lexer

variable {h : Host} {l m : Lexer}

theorem accept_error {c : Cursor} {x : Lexeme} {value : String} {flags : TokenFlags}
    (wrong : l.error.isSome) : (l.accept c x value flags).error.isSome := by
  obtain ⟨e, wrong⟩ := Option.isSome_iff_exists.1 wrong
  simp [Lexer.accept, locate, wrong]

theorem accept_atEnd {c : Cursor} {x : Lexeme} {value : String} {flags : TokenFlags}
    (rest : c.rest.drop x.length = []) (error : l.error = none) (complaint : x.complaint = none)
    (kind : x.kind = .endOfFileToken ∨ x.kind = .semicolonToken) :
    (l.accept c x value flags).AtEnd := by
  refine ⟨rest, by simp [Lexer.accept, locate, error, complaint], ?_, kind⟩
  rcases kind with kind | kind <;> simp [Lexer.accept, kind]

theorem lexemeAt_semicolon (frame : Frame) :
    lexemeAt frame [';'] = { kind := .semicolonToken, length := 1 } := by
  cases splits : frame.splitsAngles <;> simp only [lexemeAt, splits] <;> rfl

theorem AtSameRest.scan (f : AtSameRest h l m) (same : m.frames.current = l.frames.current)
    (skips : l.frames.current.preservesSpace = false) : ScanOutcome h l.scan m.scan := by
  have rest : m.cursor.rest = l.cursor.rest ++ h.after := f.rest
  have offset : m.cursor.offset = l.cursor.offset + h.shift := f.offset
  have error : l.error = none := f.error
  have error' : m.error = none := f.error'
  have left : l.cursor.rest.length = l.text.length - l.offset := by
    rw [l.cursor.rest_eq, List.length_drop]
    rfl
  have le : l.cursor.offset ≤ l.text.length := f.le
  have trivia := Trivia.read_after h l.cursor.offset l.cursor.rest
  rw [scan_eq skips, scan_eq (same ▸ skips), same]
  rw [← offset, ← rest] at trivia
  rcases trivia with
    ⟨wrong, wrong'⟩ | ⟨closed, closed', ⟨inside, stop, breaks⟩ | ⟨after, stop, stop'⟩⟩
  · refine .failed (accept_error ?_) (accept_error ?_)
    · simpa [skipTrivia, error] using wrong
    · simpa [skipTrivia, error'] using wrong'
  · have from_ := (Trivia.readFrom_stop 0 l.cursor.offset l.cursor.rest).1
    have sameRest : AtSameRest h l.skipTrivia.1 m.skipTrivia.1 := by
      refine ⟨f.text, ?_, l.skipTrivia_offset_le le, ?_, ?_⟩
      · simp only [skipTrivia, Lexer.offset, Cursor.advance, Trivia.read] at *
        omega
      · simp [skipTrivia, error, closed]
      · simp [skipTrivia, error', closed']
    have ahead : h.after = [] ∨ l.skipTrivia.1.cursor.rest ≠ [] := by
      refine inside.imp_right fun inside => ?_
      rw [Ne, l.skipTrivia.1.cursor.rest_eq, List.drop_eq_nil_iff]
      simp only [skipTrivia, Cursor.advance, Lexer.text, Lexer.offset, Trivia.read] at *
      omega
    refine AtSameRest.accept (l := l.skipTrivia.1) (m := m.skipTrivia.1) sameRest ?_ (.plain _ _) ahead
      fun eq => ⟨by rw [eq], by simp only [skipTrivia, breaks]⟩
    rw [sameRest.rest]
    exact lexemeAt_after h _ ahead
  · have nothing : l.skipTrivia.1.cursor.rest = [] := by
      rw [l.skipTrivia.1.cursor.rest_eq, List.drop_eq_nil_iff]
      simp only [skipTrivia, Cursor.advance, Lexer.text, Lexer.offset, Trivia.read] at *
      omega
    have mark : m.skipTrivia.1.cursor.rest = [';'] := by
      have passed : m.skipTrivia.1.cursor.rest =
          (l.cursor.rest ++ semiLine).drop (l.cursor.rest.length + 1) := by
        change m.cursor.rest.drop _ = _
        rw [rest, after]
        congr 1
        simp only [Trivia.read, rest, after] at stop' ⊢
        omega
      rw [passed, ← List.drop_drop, List.drop_left]
      rfl
    have fine : l.skipTrivia.1.error = none := by simp [skipTrivia, error, closed]
    have fine' : m.skipTrivia.1.error = none := by simp [skipTrivia, error', closed']
    rw [nothing, mark, lexemeAt_semicolon]
    exact .ended ⟨after, accept_atEnd (by rw [nothing]; rfl) fine rfl (.inl rfl), rfl,
      accept_atEnd (by rw [mark]; rfl) fine' rfl (.inr rfl), rfl⟩

theorem AtSameToken.reread {x y : Lexeme} (here : AtSameToken h l m) (agrees : x.Agrees y)
    (read : x.IsAt (l.text.drop l.token.start)) (inside : h.after = [] ∨ l.text.drop l.token.start ≠ [])
    {value value' : String} (same : y = x → value' = value) :
    ScanOutcome h (l.accept (l.cursor.seek l.token.start) x value l.token.flags)
      (m.accept (m.cursor.seek m.token.start) y value' m.token.flags) := by
  refine AtSameRest.accept ?_ agrees read inside fun eq => ⟨same eq, here.token.flags⟩
  exact ⟨here.text, here.token.start, here.read.start_le, here.error, here.error'⟩

theorem AtSameToken.ahead_ne (here : AtSameToken h l m) :
    h.after = [] ∨ l.text.drop l.token.start ≠ [] := by
  rcases h.ends with after | after
  · exact .inl after
  · exact .inr (here.ne_nil after)

theorem AtSameToken.rescanTemplate (here : AtSameToken h l m) (brace : l.token.kind = .closeBraceToken) :
    ScanOutcome h l.rescanTemplate m.rescanTemplate := by
  have ne : l.text.drop l.token.start ≠ [] := by
    have spelling : l.token.kind.text? = some "\x7d" := by rw [brace]; rfl
    obtain ⟨rest, eq⟩ := here.read.spelled spelling
    rw [← eq]
    exact List.cons_ne_nil _ _
  refine here.reread ?_ (here.read.chunkAt brace) (.inr ne) fun eq => congrArg Lexeme.value eq
  have tail : (m.cursor.seek m.token.start).rest.tail =
      (l.cursor.seek l.token.start).rest.tail ++ h.after := by
    change (m.text.drop m.token.start).tail = (l.text.drop l.token.start).tail ++ h.after
    rw [here.ahead, List.tail_append_of_ne_nil ne]
  rw [tail]
  rcases h.ends with after | after
  · rw [after, List.append_nil]
    exact .refl _
  · rw [after]
    exact readChunk_append false _

theorem AtSameToken.rescanSlash (here : AtSameToken h l m)
    (slash : l.token.kind = .slashToken ∨ l.token.kind = .slashEqualsToken) :
    ScanOutcome h l.rescanSlash m.rescanSlash := by
  refine here.reread ?_ (here.read.slashAt slash) here.ahead_ne fun eq =>
    congrArg Lexeme.value eq
  change Lexeme.Agrees _ (readRegularExpression (m.text.drop m.token.start))
  rw [here.ahead]
  rcases h.ends with after | after
  · rw [after, List.append_nil]
    exact .refl _
  · rw [after]
    exact readRegularExpression_append (here.ne_nil after)

theorem lexemeAt_fine (frame : Frame) {chars : List Char} (angle : StartsAngle chars) :
    (lexemeAt frame chars).complaint = none := by
  cases chars with
  | nil => rcases angle with angle | angle <;> cases angle
  | cons c rest =>
    rcases angle with angle | angle <;> cases angle
    · rw [lexemeAt_less]
    · rw [lexemeAt_greater]

theorem AtSameToken.under (here : AtSameToken h l m) {frames frames' : FrameStack}
    (same : frames'.current = frames.current) : AtSameToken h (l.under frames) (m.under frames') := by
  unfold Lexer.under rescanAngles
  by_cases angle : l.token.kind.isAngle = true
  · have starts := here.read.isAngle_iff.1 angle
    have agrees : (lexemeAt frames.current (l.text.drop l.token.start)).Agrees
        (lexemeAt frames'.current (m.text.drop m.token.start)) := by
      rw [here.ahead, same]
      exact lexemeAt_after h _ here.ahead_ne
    have fine : (lexemeAt frames.current (l.text.drop l.token.start)).complaint = none :=
      lexemeAt_fine _ starts
    have moved : AtSameToken h { l with frames } { m with frames := frames' } := { here with }
    have value : lexemeAt frames'.current (m.text.drop m.token.start) =
        lexemeAt frames.current (l.text.drop l.token.start) → m.token.value = l.token.value :=
      fun _ => here.token.value
    have reread := moved.reread agrees (.plain _ _) here.ahead_ne value
    rw [if_pos angle, if_pos (by rw [here.token.kind]; exact angle)]
    cases reread with
    | failed wrong => exact absurd wrong (by simp [Lexer.accept, locate, here.error, fine])
    | here here => exact here
    | ended ended =>
      have kind : (lexemeAt frames.current (l.text.drop l.token.start)).kind = .endOfFileToken :=
        ended.kind
      have still := (lexemeAt_isAngle frames.current starts).1
      rw [kind] at still
      cases still
  · rw [if_neg angle, if_neg (by rw [here.token.kind]; exact angle)]
    exact { here with }

theorem AtEnd.under (at_ : l.AtEnd) (frames : FrameStack) : l.under frames = { l with frames } := by
  unfold Lexer.under rescanAngles
  rcases at_.kind with kind | kind <;> rw [if_neg] <;> simp [kind] <;> rfl

theorem AtEnd.reframed (at_ : l.AtEnd) (frames : FrameStack) : (l.under frames).AtEnd := by
  rw [at_.under]
  exact ⟨at_.rest, at_.error, at_.soft, at_.kind⟩

theorem AtEnds.under (ended : AtEnds h l m) (frames frames' : FrameStack) :
    AtEnds h (l.under frames) (m.under frames') := by
  refine ⟨ended.after, ended.left.reframed frames, ?_, ended.right.reframed frames', ?_⟩
  · rw [ended.left.under]
    exact ended.kind
  · rw [ended.right.under]
    exact ended.kind'

theorem AtEnd.scan (at_ : l.AtEnd) : l.scan.AtEnd ∧ l.scan.token.kind = .endOfFileToken := by
  have rest := at_.rest
  have none : Trivia.read l.cursor.offset l.cursor.rest = { stop := l.cursor.offset } := by
    rw [rest]
    rfl
  have here : (if l.frames.current.preservesSpace then (l, false) else l.skipTrivia).1.cursor.rest = [] ∧
      (if l.frames.current.preservesSpace then (l, false) else l.skipTrivia).1.error = Option.none := by
    split
    · exact ⟨rest, at_.error⟩
    · rw [rest] at none
      simp [skipTrivia, none, Cursor.advance, rest, at_.error]
  unfold Lexer.scan
  dsimp only
  rw [here.1]
  exact ⟨accept_atEnd (by rw [here.1]; rfl) here.2 rfl (.inl rfl), rfl⟩

theorem AtSameToken.charAfterTrivia (here : AtSameToken h l m) :
    (m.charAfterTrivia? m.token.stop == some '.') = (l.charAfterTrivia? l.token.stop == some '.') := by
  have le := here.read.stop_le
  have ahead : m.text.drop m.token.stop = l.text.drop l.token.stop ++ h.after := by
    rw [here.text, here.token.stop, h.around_drop le]
  have char (l : Lexer) (offset : Nat) : l.charAfterTrivia? offset =
      (l.text.drop offset)[triviaLength (l.text.drop offset)]? := by
    rw [List.getElem?_drop]
    rfl
  rw [char, char, ahead]
  generalize l.text.drop l.token.stop = chars
  rcases h.ends with after | after
  · rw [after, List.append_nil]
  · rw [after, charAfter_append]

end Lexer

end TypedScript
