import TypedScript.Proofs.Lexer.Respaced
import TypedScript.Proofs.Tiling

/-! The tokens of a text, written again with one space between them. Where nothing is wrong with the
text, the same tokens are read. -/

namespace TypedScript

open Text

/-- The characters that make up a token of the text. -/
def Token.written (text : List Char) (t : Token) : List Char := (text.take t.stop).drop t.start

/-- What reading a token gives, wherever it stands: its kind, its value, the soft keyword that it may
be, and its characters. -/
def Token.reading (text : List Char) (t : Token) :
    Kind × String × Option SoftKeyword × List Char :=
  (t.kind, t.value, t.soft, t.written text)

namespace Lexer

def scannedFor : Nat → Lexer → Lexer
  | 0, l => l
  | fuel + 1, l =>
    let l := l.scan
    if l.token.kind == .endOfFileToken then l else scannedFor fuel l

/-- The lexer when the tokens have been read and the end of the text after them. -/
def scanned (l : Lexer) : Lexer := l.scannedFor (l.text.length + 1)

/-- The tokens' characters, joined by single spaces. -/
def respaced (l : Lexer) : List Char := [' '].intercalate (l.tokens.map (·.written l.text))

inductive Scans : Lexer → List Token → Lexer → Prop
  | atEnd {l : Lexer} : l.scan.token.kind = .endOfFileToken → Scans l [] l.scan
  | token {l m : Lexer} {ts : List Token} : l.scan.token.kind ≠ .endOfFileToken →
      Scans l.scan ts m → Scans l (l.scan.token :: ts) m

theorem scans_of_le {fuel : Nat} {l : Lexer} (le : l.offset ≤ l.text.length)
    (enough : l.text.length < l.offset + fuel) :
    Scans l (l.tokensFor fuel) (l.scannedFor fuel) := by
  induction fuel generalizing l with
  | zero => omega
  | succ fuel ih =>
    obtain ⟨read, text, offset, gap⟩ := l.scan_spec le
    unfold tokensFor scannedFor
    by_cases last : l.scan.token.kind = .endOfFileToken
    · simp only [last, beq_self_eq_true, if_true]
      exact .atEnd last
    · simp only [beq_false_of_ne last, Bool.false_eq_true, if_false]
      have := gap.le
      have := read.lt last
      have := read.stop_le
      exact .token last (ih (by rw [offset, text]; omega) (by rw [offset, text]; omega))

theorem ofText_scans (text : List Char) :
    Scans (ofText text) (ofText text).tokens (ofText text).scanned :=
  scans_of_le (Nat.zero_le _) (by simp [Lexer.text, ofText, offset, Cursor.atStart])

theorem Scans.unique {l m m' : Lexer} {ts ts' : List Token} (h : Scans l ts m)
    (h' : Scans l ts' m') : ts = ts' ∧ m = m' := by
  induction h generalizing ts' with
  | atEnd last =>
    cases h' with
    | atEnd => exact ⟨rfl, rfl⟩
    | token more => exact absurd last more
  | token more _ ih =>
    cases h' with
    | atEnd last => exact absurd last more
    | token _ rest =>
      obtain ⟨rfl, rfl⟩ := ih rest
      exact ⟨rfl, rfl⟩

end Lexer

theorem Commented.dark {text : List Char} {a b : Nat} {cs : List Comment}
    (h : Commented text a cs b) : ¬StartsTrivia (text.drop b) := by
  induction h with
  | stop dark => exact dark
  | blank _ _ _ ih | line _ _ _ _ ih | block _ _ _ ih => exact ih

theorem StartsTrivia.respace {w a b : List Char} (hb : Spaced b) (ne : w ≠ [])
    (h : StartsTrivia (w ++ b)) : StartsTrivia (w ++ a) := by
  obtain ⟨c, p, rfl⟩ := List.exists_cons_of_ne_nil ne
  have second {d : Char} (notSpace : d ≠ ' ') (start : ['/', d] <+: c :: (p ++ b)) :
      ['/', d] <+: c :: (p ++ a) := by
    obtain ⟨rfl, tail, next⟩ := List.cons_prefix_cons.1 start
    cases p with
    | nil => exact absurd (congrArg List.head? next.symm) (hb.head_ne notSpace)
    | cons e p =>
      obtain ⟨rfl, -⟩ := List.cons.inj next
      exact ⟨p ++ a, rfl⟩
  rcases h with ⟨d, first, blank⟩ | line | block
  · exact .inl ⟨d, first, blank⟩
  · exact .inr (.inl (second (by decide) line))
  · exact .inr (.inr (second (by decide) block))

namespace Lexer

def softOf (x : Lexeme) : Option SoftKeyword :=
  if x.kind == .identifier && !x.flags.escaped then SoftKeyword.ofText? x.value else none

structure Took (l : Lexer) (x : Lexeme) (chars : List Char) : Prop where
  here : l.text.drop l.token.start = chars
  offset_eq : l.offset = l.token.start + x.length
  stop_eq : l.token.stop = l.token.start + x.length
  kind : l.token.kind = x.kind
  value : l.token.value = x.value
  soft : l.token.soft = softOf x

theorem Took.reading {l : Lexer} {x : Lexeme} {w rest : List Char} (h : l.Took x (w ++ rest))
    (length : x.length = w.length) : l.token.reading l.text = (x.kind, x.value, softOf x, w) := by
  have written : l.token.written l.text = w := by
    rw [Token.written, List.drop_take, h.here, h.stop_eq, length, Nat.add_sub_cancel_left,
      List.take_left]
  rw [Token.reading, written, h.kind, h.value, h.soft]

theorem Took.rest_eq {l : Lexer} {x : Lexeme} {w rest : List Char} (h : l.Took x (w ++ rest))
    (length : x.length = w.length) : l.cursor.rest = rest := by
  have := h.here
  rw [l.cursor.rest_eq]
  change l.text.drop l.offset = rest
  rw [h.offset_eq, length, ← List.drop_drop, h.here, List.drop_left]

structure Plain (l : Lexer) : Prop where
  frame : l.frames.current = .statement
  collecting : (l.collecting && !l.speculating) = true
  fine : l.error = none

theorem scan_statement {l : Lexer} (frame : l.frames.current = .statement) :
    l.scan = l.skipTrivia.1.accept l.skipTrivia.1.cursor
      (lexemeAt .statement l.skipTrivia.1.cursor.rest)
      (lexemeAt .statement l.skipTrivia.1.cursor.rest).value
      { afterLineBreak := l.skipTrivia.2 } := by
  rw [scan_eq (by rw [frame]; rfl), frame]

theorem scan_took {l : Lexer} (frame : l.frames.current = .statement) :
    l.scan.Took (lexemeAt .statement l.skipTrivia.1.cursor.rest) l.skipTrivia.1.cursor.rest := by
  rw [scan_statement frame]
  exact ⟨l.skipTrivia.1.cursor.rest_eq.symm, rfl, rfl, rfl, rfl, rfl⟩

theorem error_scan {l : Lexer} (frame : l.frames.current = .statement) :
    l.scan.error = none ↔ l.error = none ∧
      (Trivia.read l.offset l.cursor.rest).unclosed = none ∧
      (lexemeAt .statement l.skipTrivia.1.cursor.rest).complaint = none := by
  rw [scan_statement frame]
  change ((l.error <|> _) <|> _) = none ↔ _
  rw [orElse_eq_none, orElse_eq_none, Option.map_eq_none_iff, Option.map_eq_none_iff, and_assoc]
  rfl

theorem Plain.scan {l : Lexer} (plain : l.Plain) (fine : l.scan.error = none) :
    l.scan.Plain ∧ ¬StartsTrivia l.skipTrivia.1.cursor.rest ∧
      (lexemeAt .statement l.skipTrivia.1.cursor.rest).complaint = none := by
  have skips : l.frames.current.preservesSpace = false := by rw [plain.frame]; rfl
  obtain ⟨ds, -, commented⟩ := scan_commented plain.collecting skips fine
  refine ⟨⟨by rw [frames_scan, plain.frame], l.scan_collecting.trans plain.collecting, fine⟩, ?_,
    ((error_scan plain.frame).1 fine).2.2⟩
  have text : l.scan.text = l.text := by rw [scan_statement plain.frame]; rfl
  rw [← (scan_took plain.frame).here, text]
  exact commented.dark

theorem skipTrivia_rest {l : Lexer} {sep chars : List Char} (rest : l.cursor.rest = sep ++ chars)
    (space : sep = [] ∨ sep = [' ']) (dark : ¬StartsTrivia chars) :
    l.skipTrivia.1.cursor.rest = chars ∧
      (Trivia.read l.offset l.cursor.rest).unclosed = none := by
  have read : Trivia.read l.cursor.offset l.cursor.rest =
      { stop := l.cursor.offset + sep.length } := by
    rw [rest]
    rcases space with rfl | rfl
    · exact Trivia.read_settled _ dark
    · have blank : isLineBreak ' ' = false ∧ isBlank ' ' = true := by decide
      have settled := Trivia.read_settled (l.cursor.offset + 1) dark
      rw [Trivia.read] at settled
      simp [Trivia.read, Trivia.readFrom, blank, settled]
  refine ⟨?_, by rw [offset, read]⟩
  change (l.cursor.advance ((Trivia.read l.cursor.offset l.cursor.rest).stop - _)).rest = chars
  rw [read]
  simp [Cursor.advance, rest]

theorem lexemeAt_respace {chars : List Char} (ne : chars ≠ [])
    (fine : (lexemeAt .statement chars).complaint = none) :
    ∃ w a, w ≠ [] ∧ chars = w ++ a ∧ (lexemeAt .statement chars).length = w.length ∧
      ∀ rest, Spaced rest → lexemeAt .statement (w ++ rest) = lexemeAt .statement chars := by
  obtain ⟨c, tail, rfl⟩ := List.exists_cons_of_ne_nil ne
  have fits := readToken_fits false c tail
  obtain ⟨n, length⟩ := Nat.exists_eq_add_of_lt fits.pos
  rw [Nat.zero_add] at length
  have le : n ≤ tail.length := by
    have := fits.length_le
    rw [length, List.length_cons] at this
    omega
  have taken : (tail.take n).length = n := List.length_take_of_le le
  refine ⟨c :: tail.take n, tail.drop n, List.cons_ne_nil _ _, ?_, ?_, fun rest spaced => ?_⟩
  · rw [List.cons_append, List.take_append_drop]
  · rw [List.length_cons, taken]
    exact length
  · have := readToken_respace (p := tail.take n) (a := tail.drop n) (c := c) spaced
    rw [List.take_append_drop, taken] at this
    exact this fine length

theorem scan_respaced {l m : Lexer} (plain : l.Plain) (fine : l.scan.error = none)
    (more : l.scan.token.kind ≠ .endOfFileToken) (plain' : m.Plain) {sep rest : List Char}
    (space : sep = [] ∨ sep = [' ']) (spaced : Spaced rest)
    (chars : m.cursor.rest = sep ++ (l.scan.token.written l.scan.text ++ rest)) :
    m.scan.Plain ∧ m.scan.cursor.rest = rest ∧
      m.scan.token.reading m.scan.text = l.scan.token.reading l.scan.text ∧
      m.scan.token.kind ≠ .endOfFileToken := by
  obtain ⟨-, dark, complaint⟩ := plain.scan fine
  have took := scan_took plain.frame
  generalize l.skipTrivia.1.cursor.rest = here at dark complaint took
  have ne : here ≠ [] := by
    rintro rfl
    exact more took.kind
  obtain ⟨w, a, notEmpty, rfl, length, again⟩ := lexemeAt_respace ne complaint
  have reading := took.reading length
  have written : l.scan.token.written l.scan.text = w := congrArg (·.2.2.2) reading
  rw [written] at chars
  have dark' : ¬StartsTrivia (w ++ rest) := fun h => dark (h.respace spaced notEmpty)
  obtain ⟨there, closed⟩ := skipTrivia_rest chars space dark'
  have took' := scan_took plain'.frame
  rw [there, again rest spaced] at took'
  have fine' : m.scan.error = none :=
    (error_scan plain'.frame).2 ⟨plain'.fine, closed, by rw [there, again rest spaced, complaint]⟩
  refine ⟨(plain'.scan fine').1, took'.rest_eq length, ?_, ?_⟩
  · rw [took'.reading length, reading]
  · rw [took'.kind, ← took.kind]
    exact more

theorem scan_atEnd {l : Lexer} (plain : l.Plain) (rest : l.cursor.rest = []) :
    l.scan.token.kind = .endOfFileToken ∧ l.scan.error = none := by
  obtain ⟨there, closed⟩ := @skipTrivia_rest _ [] _ rest (.inl rfl) (by simp [StartsTrivia])
  refine ⟨?_, (error_scan plain.frame).2 ⟨plain.fine, closed, by rw [there]; rfl⟩⟩
  rw [(scan_took plain.frame).kind, there]
  rfl

/-- Slices, each after a space. -/
def spread (slices : List (List Char)) : List Char := slices.flatMap (' ' :: ·)

theorem spaced_spread (slices : List (List Char)) : Spaced (spread slices) := by
  cases slices with
  | nil => exact .inl rfl
  | cons w ws => exact .inr ⟨w ++ spread ws, rfl⟩

theorem intercalate_space (w : List Char) (ws : List (List Char)) :
    [' '].intercalate (w :: ws) = w ++ spread ws := by
  induction ws generalizing w with
  | nil => simp [spread]
  | cons v vs ih => simp [ih, spread]

theorem Scans.fine_of_fine {l m : Lexer} {ts : List Token} (h : Scans l ts m)
    (frame : l.frames.current = .statement) (fine : m.error = none) : l.scan.error = none := by
  induction h with
  | atEnd => exact fine
  | @token l m ts _ _ ih =>
    have frame' : l.scan.frames.current = .statement := by rw [frames_scan, frame]
    exact ((error_scan frame').1 (ih frame' fine)).1

theorem text_scan (l : Lexer) : l.scan.text = l.text := by
  unfold scan
  dsimp only
  split <;> rfl

theorem Scans.respaced {l last : Lexer} {ts : List Token} (h : Scans l ts last) (plain : l.Plain)
    (fine : last.error = none) {m : Lexer} (plain' : m.Plain)
    (chars : m.cursor.rest = spread (ts.map (·.written l.text))) :
    ∃ us last', Scans m us last' ∧ last'.error = none ∧
      us.map (·.reading m.text) = ts.map (·.reading l.text) := by
  induction h generalizing m with
  | @atEnd l isEnd =>
    obtain ⟨isEnd', fine'⟩ := scan_atEnd plain' chars
    exact ⟨[], m.scan, .atEnd isEnd', fine', rfl⟩
  | @token l last ts more rest ih =>
    have here := (Scans.token more rest).fine_of_fine plain.frame fine
    simp only [List.map_cons, text_scan] at chars ih ⊢
    obtain ⟨ready, left, reading, more'⟩ :=
      scan_respaced plain here more plain' (.inr rfl) (spaced_spread _)
        (chars.trans (by rw [text_scan]; rfl))
    obtain ⟨us, last', scans, fine', readings⟩ := ih (plain.scan here).1 fine ready left
    rw [text_scan, text_scan] at reading
    rw [text_scan] at readings
    exact ⟨m.scan.token :: us, last', .token more' scans, fine',
      by rw [List.map_cons, reading, readings]⟩

theorem Scans.intercalated {l last : Lexer} {ts : List Token} (h : Scans l ts last)
    (plain : l.Plain) (fine : last.error = none) {m : Lexer} (plain' : m.Plain)
    (chars : m.cursor.rest = [' '].intercalate (ts.map (·.written l.text))) :
    ∃ us last', Scans m us last' ∧ last'.error = none ∧
      us.map (·.reading m.text) = ts.map (·.reading l.text) := by
  have here := h.fine_of_fine plain.frame fine
  cases h with
  | atEnd isEnd =>
    obtain ⟨isEnd', fine'⟩ := scan_atEnd plain' chars
    exact ⟨[], m.scan, .atEnd isEnd', fine', rfl⟩
  | @token _ _ ts more rest =>
    rw [List.map_cons, intercalate_space] at chars
    obtain ⟨ready, left, reading, more'⟩ :=
      scan_respaced plain here more plain' (.inl rfl) (spaced_spread _)
        (chars.trans (by rw [text_scan]; rfl))
    obtain ⟨us, last', scans, fine', readings⟩ :=
      rest.respaced (plain.scan here).1 fine ready (by rw [left, text_scan])
    rw [text_scan, text_scan] at reading readings
    exact ⟨m.scan.token :: us, last', .token more' scans, fine',
      by rw [List.map_cons, List.map_cons, reading, readings]⟩

/-- A text that nothing is wrong with has the tokens of its respaced text: the same kinds, values,
soft keywords and characters, and nothing is wrong with that text either. -/
theorem tokens_respaced (text : List Char) (fine : (ofText text).scanned.error = none) :
    let l := ofText text
    let m := ofText l.respaced
    m.scanned.error = none ∧ m.tokens.map (·.reading m.text) = l.tokens.map (·.reading l.text) := by
  intro l m
  obtain ⟨us, last', scans, fine', readings⟩ :=
    (ofText_scans text).intercalated ⟨rfl, rfl, rfl⟩ fine (m := m) ⟨rfl, rfl, rfl⟩ rfl
  obtain ⟨rfl, rfl⟩ := scans.unique (ofText_scans l.respaced)
  exact ⟨fine', readings⟩

theorem tokens_respaced_conditional :
    let text := "a/*?*/?.5:'b'// c".toList
    (ofText text).scanned.error = none ∧ (ofText text).respaced = "a ? .5 : 'b'".toList ∧
      (ofText "a ? .5 : 'b'".toList).tokens.map (·.reading "a ? .5 : 'b'".toList) =
        (ofText text).tokens.map (·.reading text) := by
  intro text
  have fine : (ofText text).scanned.error = none := by decide +kernel
  have respaced : (ofText text).respaced = "a ? .5 : 'b'".toList := by decide +kernel
  refine ⟨fine, respaced, ?_⟩
  have := (tokens_respaced text fine).2
  rwa [respaced] at this

end Lexer

end TypedScript
