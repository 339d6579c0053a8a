import TypedScript.Proofs.Lexer.Extended
import TypedScript.Proofs.Lexer.Reading

/-! Looking past blanks and comments without reading on finds what reading on finds: both pass over the
same characters, and a token is on a new line if there is a line break among them. -/

namespace TypedScript

open Text

theorem BlockComment.read_measured (chars : List Char) :
    (read chars).length = blockCommentLength chars ∧
      (chars.take (blockCommentLength chars)).any isLineBreak =
        (read chars).text.any isLineBreak := by
  fun_induction blockCommentLength chars with
  | case1 => exact ⟨rfl, rfl⟩
  | case2 rest => exact ⟨rfl, rfl⟩
  | case3 c rest other ih =>
    have goesOn : ¬(c = '*' ∧ rest.head? = some '/') := by
      rintro ⟨rfl, slash⟩
      obtain ⟨tail, rfl⟩ := List.head?_eq_some_iff.1 slash
      exact other tail rfl rfl
    rw [read, if_neg goesOn]
    refine ⟨?_, ?_⟩
    · rw [← ih.1]
      simp only [length, List.length_cons, Nat.add_right_comm]
    · rw [List.take_succ_cons, List.any_cons, List.any_cons, ih.2]

theorem any_take_lineCommentText (chars : List Char) :
    (chars.take (lineCommentText chars).length).any isLineBreak = false := by
  have taken : lineCommentText chars = chars.take (lineCommentText chars).length :=
    List.prefix_iff_eq_take.1 (List.takeWhile_prefix _)
  rw [← taken, List.any_eq_false]
  intro c mem
  simpa using List.all_eq_true.1 (List.all_takeWhile (p := fun c => !isLineBreak c)) c mem

theorem le_triviaLengthFrom {skip : Nat} {chars : List Char} (le : skip ≤ chars.length) :
    skip ≤ triviaLengthFrom skip chars := by
  induction skip generalizing chars with
  | zero => exact Nat.zero_le _
  | succ skip ih =>
    cases chars with
    | nil => cases le
    | cons c rest => exact Nat.succ_le_succ (ih (Nat.le_of_succ_le_succ le))

theorem any_take_comment {mark : Char} {body : List Char} {count : Nat}
    (dark : isLineBreak mark = false) (le : count ≤ body.length) :
    let further := triviaLengthFrom (count + 1) (mark :: body)
    (('/' :: mark :: body).take (further + 1)).any isLineBreak =
      ((body.take count).any isLineBreak ||
        (((mark :: body).take further).drop (count + 1)).any isLineBreak) := by
  intro further
  have reaches : count + 1 ≤ further := le_triviaLengthFrom (Nat.succ_le_succ le)
  have inside : ((mark :: body).take further).take (count + 1) = mark :: body.take count := by
    rw [List.take_take, Nat.min_eq_left reaches, List.take_succ_cons]
  calc (('/' :: mark :: body).take (further + 1)).any isLineBreak
      = ((mark :: body).take further).any isLineBreak := rfl
    _ = ((mark :: body.take count) ++ ((mark :: body).take further).drop (count + 1)).any
          isLineBreak := by rw [← inside, List.take_append_drop]
    _ = _ := by rw [List.any_append, List.any_cons, dark, Bool.false_or]

theorem triviaLengthFrom_blank {c : Char} (rest : List Char)
    (blank : (isLineBreak c || isBlank c) = true) :
    triviaLengthFrom 0 (c :: rest) = triviaLengthFrom 0 rest + 1 := by
  simp only [triviaLengthFrom, blank, if_true]

namespace Trivia

theorem readFrom_measured (skip offset : Nat) (chars : List Char) :
    (readFrom skip offset chars).stop = offset + triviaLengthFrom skip chars ∧
      (readFrom skip offset chars).lineBreak =
        ((chars.take (triviaLengthFrom skip chars)).drop skip).any isLineBreak := by
  fun_induction readFrom skip offset chars with
  | case1 skip offset => cases skip <;> exact ⟨rfl, rfl⟩
  | case2 skip offset c rest ih =>
    rw [triviaLengthFrom, ih.1, ih.2, Nat.add_right_comm]
    exact ⟨rfl, rfl⟩
  | case3 offset c rest lineBreak after ih =>
    rw [triviaLengthFrom_blank rest (by simp [lineBreak])]
    refine ⟨by simp only [after, ih.1]; omega, ?_⟩
    rw [List.drop_zero, List.take_succ_cons, List.any_cons, lineBreak, Bool.true_or]
  | case4 offset c rest lineBreak blank ih =>
    rw [triviaLengthFrom_blank rest (by simp [blank])]
    refine ⟨by rw [ih.1]; omega, ?_⟩
    rw [List.drop_zero] at ih ⊢
    rw [List.take_succ_cons, List.any_cons, ih.2, Bool.eq_false_iff.2 lineBreak, Bool.false_or]
  | case5 offset c rest _ _ line text length after comment ih =>
    obtain ⟨rfl, slash⟩ := line
    obtain ⟨body, rfl⟩ := List.head?_eq_some_iff.1 slash
    have measured : triviaLengthFrom 0 ('/' :: '/' :: body) =
      triviaLengthFrom ((lineCommentText body).length + 1) ('/' :: body) + 1 := rfl
    have le : (lineCommentText body).length ≤ body.length := (List.takeWhile_sublist _).length_le
    rw [measured, List.drop_zero, any_take_comment rfl le, any_take_lineCommentText, Bool.false_or]
    exact ⟨by simp only [after, ih.1, Nat.add_right_comm _ 1]; rfl, ih.2⟩
  | case6 offset c rest _ _ _ block b length after comment ih =>
    obtain ⟨rfl, star⟩ := block
    obtain ⟨body, rfl⟩ := List.head?_eq_some_iff.1 star
    obtain ⟨same, said⟩ := BlockComment.read_measured body
    have measured : triviaLengthFrom 0 ('/' :: '*' :: body) =
      triviaLengthFrom (blockCommentLength body + 1) ('*' :: body) + 1 := rfl
    have length_eq : length - 1 = blockCommentLength body + 1 := congrArg (· + 1) same
    rw [length_eq] at ih
    rw [measured, List.drop_zero, any_take_comment rfl (blockCommentLength_le body), said, ← ih.2]
    exact ⟨by simp only [after, length_eq, ih.1, Nat.add_right_comm _ 1]; rfl,
      by simp only [after, length_eq, b, Bool.or_comm]; rfl⟩
  | case7 offset c rest lineBreak blank line block =>
    rw [triviaLengthFrom_dark (by simp_all) line block]
    exact ⟨rfl, rfl⟩

end Trivia

theorem announcedBase?_afterLineBreak {chars : List Char} {base : Nat} {flags : TokenFlags}
    (h : announcedBase? chars = some (base, flags)) : flags.afterLineBreak = false := by
  unfold announcedBase? at h
  split at h
  · repeat' split at h
    all_goals cases h
    all_goals rfl
  · cases h

theorem readNumber_afterLineBreak (chars : List Char) :
    (readNumber chars).flags.afterLineBreak = false := by
  have read : (Numeral.read chars).flags.afterLineBreak = false := by
    unfold Numeral.read
    split
    · split
      · rename_i announced
        exact (announcedBase?_afterLineBreak announced :)
      · rfl
    · rfl
  unfold readNumber
  dsimp only
  split <;> exact read

theorem readToken_afterLineBreak (splitsAngles : Bool) (c : Char) (rest : List Char) :
    (readToken splitsAngles c rest).flags.afterLineBreak = false := by
  unfold readToken
  split
  · rfl
  split
  · rfl
  split
  · unfold readPrivateName
    dsimp only
    split <;> rfl
  split
  · exact readNumber_afterLineBreak _
  split
  · rfl
  · dsimp only
    split <;> rfl

namespace Lexer

theorem lexemeAt_afterLineBreak (frame : Frame) (chars : List Char) :
    (lexemeAt frame chars).flags.afterLineBreak = false := by
  cases chars with
  | nil => rfl
  | cons c rest => exact readToken_afterLineBreak _ c rest

variable (l : Lexer)

theorem skipTrivia_measured : l.skipTrivia.1.offset = l.afterTrivia l.offset ∧
    l.skipTrivia.2 = l.lineBreakBetween l.offset (l.afterTrivia l.offset) := by
  have rest : l.cursor.rest = l.text.drop l.offset := l.cursor.rest_eq
  obtain ⟨stop, lineBreak⟩ := Trivia.readFrom_measured 0 l.offset l.cursor.rest
  rw [rest] at stop lineBreak
  refine ⟨?_, ?_⟩
  · change l.offset + ((Trivia.readFrom 0 l.offset l.cursor.rest).stop - l.offset) = _
    rw [rest, stop, Nat.add_sub_cancel_left]
    rfl
  · have between : (l.text.take (l.afterTrivia l.offset)).drop l.offset =
        (l.text.drop l.offset).take (triviaLength (l.text.drop l.offset)) := by
      rw [List.drop_take, afterTrivia, Nat.add_sub_cancel_left]
    change (Trivia.readFrom 0 l.offset l.cursor.rest).lineBreak = _
    rw [rest, lineBreak, lineBreakBetween, between]
    rfl

/-- Looking ahead agrees with reading on, whatever there is before the next token, as long as blanks
are passed over: the token starts where looking past the trivia comes to, its first character is the
one that is seen there, with none at the end of the text only, and it is on a new line if and only if
a line break is seen on the way. -/
theorem scan_peeked (skips : l.frames.current.preservesSpace = false) :
    let t := l.scan.token
    t.start = l.afterTrivia l.offset ∧
      l.charAfterTrivia? l.offset = (l.slice t.start t.stop).toList.head? ∧
      (t.kind = .endOfFileToken ↔ l.charAfterTrivia? l.offset = none) ∧
      (t.flags.afterLineBreak = true ↔ l.lineBreakBetween l.offset t.start = true) := by
  obtain ⟨start, lineBreak⟩ := l.skipTrivia_measured
  let m := l.skipTrivia
  let x := lexemeAt l.frames.current m.1.cursor.rest
  have rest : m.1.cursor.rest = l.text.drop (l.afterTrivia l.offset) :=
    start ▸ m.1.cursor.rest_eq
  have seen : l.charAfterTrivia? l.offset = m.1.cursor.rest.head? := by
    rw [rest, List.head?_drop]
    rfl
  rw [scan_eq skips]
  change m.1.offset = _ ∧ _ = (l.slice m.1.offset (m.1.offset + x.length)).toList.head? ∧
    (x.kind = _ ↔ _) ∧ ((m.2 || x.flags.afterLineBreak) = true ↔ l.lineBreakBetween _ m.1.offset = _)
  rw [lexemeAt_afterLineBreak, Bool.or_false, slice_toList, start, ← rest, seen, ← lineBreak]
  have fits (ne : m.1.cursor.rest ≠ []) : x.Fits m.1.cursor.rest :=
    (Lexeme.IsAt.plain l.frames.current _).fits ne
  dsimp only [x] at fits ⊢
  generalize m.1.cursor.rest = chars at fits
  refine ⟨rfl, ?_, ?_, Iff.rfl⟩
  · cases chars with
    | nil => rfl
    | cons c tail =>
      have pos := (fits (List.cons_ne_nil c tail)).pos
      rw [List.head?_take, if_neg (Nat.ne_of_gt pos)]
  · cases chars with
    | nil => exact iff_of_true rfl rfl
    | cons c tail =>
      exact iff_of_false (fits (List.cons_ne_nil c tail)).notEnd fun none => nomatch none

theorem scan_peeked_open :
    let l := (ofText "a /*/ **/ // b\n.c /*\u2028*".toList).scan
    let m := l.scan.scan
    (l.frames.current.preservesSpace = false ∧ m.frames.current.preservesSpace = false) ∧
      (l.afterTrivia l.offset = 15 ∧ l.scan.token.start = l.afterTrivia l.offset) ∧
      (l.charAfterTrivia? l.offset = some '.' ∧
        l.charAfterTrivia? l.offset =
          (l.slice l.scan.token.start l.scan.token.stop).toList.head?) ∧
      (m.charAfterTrivia? m.offset = none ∧
        (m.scan.token.kind = .endOfFileToken ↔ m.charAfterTrivia? m.offset = none)) ∧
      (m.lineBreakBetween m.offset m.scan.token.start = true ∧
        (m.scan.token.flags.afterLineBreak = true ↔
          m.lineBreakBetween m.offset m.scan.token.start = true)) := by
  intro l m
  have skips : l.frames.current.preservesSpace = false ∧ m.frames.current.preservesSpace = false := by
    decide +kernel
  have seen : l.afterTrivia l.offset = 15 ∧ l.charAfterTrivia? l.offset = some '.' ∧
      m.charAfterTrivia? m.offset = none ∧
      m.lineBreakBetween m.offset m.scan.token.start = true := by
    decide +kernel
  obtain ⟨start, first, -, -⟩ := scan_peeked l skips.1
  obtain ⟨-, -, ends, lineBreak⟩ := scan_peeked m skips.2
  exact ⟨skips, ⟨seen.1, start⟩, ⟨seen.2.1, first⟩, ⟨seen.2.2.1, ends⟩, ⟨seen.2.2.2, lineBreak⟩⟩

end Lexer

end TypedScript
