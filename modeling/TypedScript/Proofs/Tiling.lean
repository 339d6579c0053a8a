import Mathlib.Data.Nat.Find
import Mathlib.Logic.Function.Iterate
import TypedScript.Proofs.Lexer.Comments

/-! Scanning a text to its end. Whatever the characters and the innermost frame, each call of the
lexer moves on or is at the end, and what it passes over between two tokens is space. -/

namespace TypedScript

open Text

/-- From `a` on to `b` there are only blanks, line breaks and comments, of which the last may be one
that the end of the text leaves open. -/
inductive Skippable (text : List Char) : Nat → Nat → Prop
  | none (a : Nat) : Skippable text a a
  | blank {a b : Nat} {c : Char} {rest : List Char} :
      text.drop a = c :: rest → (isLineBreak c || isBlank c) = true →
      Skippable text (a + 1) b → Skippable text a b
  | line {a b : Nat} {body rest : List Char} :
      text.drop a = '/' :: '/' :: (body ++ rest) → (∀ c ∈ body, isLineBreak c = false) →
      (∀ c, rest.head? = some c → isLineBreak c = true) →
      Skippable text (a + (body.length + 2)) b → Skippable text a b
  | block {a b : Nat} {body rest : List Char} :
      text.drop a = '/' :: '*' :: (body ++ '*' :: '/' :: rest) →
      ¬['*', '/'] <:+: body ++ ['*'] → Skippable text (a + (body.length + 4)) b →
      Skippable text a b
  | open {a : Nat} {body : List Char} :
      text.drop a = '/' :: '*' :: body → ¬['*', '/'] <:+: body → Skippable text a text.length

theorem BlockComment.read_open {chars : List Char} (isOpen : (read chars).closed = false) :
    (read chars).text = chars ∧ ¬['*', '/'] <:+: chars := by
  induction chars with
  | nil => exact ⟨rfl, fun part => by simpa using part.length_le⟩
  | cons c chars ih =>
    unfold read at isOpen ⊢
    split at isOpen
    case isTrue => cases isOpen
    case isFalse goesOn =>
      obtain ⟨all, none⟩ := ih isOpen
      rw [if_neg goesOn]
      refine ⟨congrArg (c :: ·) all, fun part => ?_⟩
      rcases List.infix_cons_iff.1 part with start | later
      · obtain ⟨rfl, tail, rfl⟩ := List.cons_prefix_cons.1 start
        exact goesOn ⟨rfl, rfl⟩
      · exact none later

namespace Trivia

theorem readFrom_nil (skip offset : Nat) : (readFrom skip offset []).stop = offset := by
  cases skip <;> rfl

theorem readFrom_past {skip : Nat} (offset : Nat) {chars : List Char} (le : chars.length ≤ skip) :
    (readFrom skip offset chars).stop = offset + chars.length := by
  induction chars generalizing skip offset with
  | nil => exact readFrom_nil skip offset
  | cons c rest ih =>
    obtain ⟨skip, rfl⟩ := Nat.exists_eq_add_of_le' (Nat.le_trans (Nat.le_add_left 1 _) le)
    rw [readFrom, ih _ (Nat.le_of_succ_le_succ le), List.length_cons]
    omega

theorem read_open (offset : Nat) {rest : List Char}
    (isOpen : (BlockComment.read rest).closed = false) :
    (read offset ('/' :: '*' :: rest)).stop = offset + (rest.length + 2) := by
  have slash : isLineBreak '/' = false ∧ isBlank '/' = false := by decide
  have past := readFrom_past (offset + 1 + 1) (Nat.le_refl rest.length)
  simp [read, readFrom, slash, BlockComment.length, isOpen, (BlockComment.read_open isOpen).1, past]
  omega

theorem read_skippable (text : List Char) (count a : Nat) (le : text.length ≤ a + count) :
    Skippable text a (read a (text.drop a)).stop := by
  induction count generalizing a with
  | zero =>
    rw [List.drop_eq_nil_of_le (by omega)]
    exact .none a
  | succ count ih =>
    cases here : text.drop a with
    | nil => exact .none a
    | cons c rest =>
      have further (whole : List Char) {rest : List Char} (is : text.drop a = whole ++ rest) :
          rest = text.drop (a + whole.length) := by
        rw [← List.drop_drop, is, List.drop_left]
      by_cases blank : (isLineBreak c || isBlank c) = true
      · obtain rfl : rest = text.drop (a + 1) := further [c] here
        rw [(read_blank a _ blank).1]
        exact .blank here blank (ih (a + 1) (by omega))
      · by_cases line : c = '/' ∧ rest.head? = some '/'
        · obtain ⟨rfl, slash⟩ := line
          obtain ⟨tail, rfl⟩ := List.head?_eq_some_iff.1 slash
          obtain ⟨rest, whole, dark, ends⟩ := lineCommentText_append tail
          generalize said : lineCommentText tail = body at whole dark
          subst whole
          rw [(read_line a body rest said).1]
          obtain rfl := further ('/' :: '/' :: body) here
          exact .line here dark ends (ih _ (by omega))
        · by_cases block : c = '/' ∧ rest.head? = some '*'
          · obtain ⟨rfl, star⟩ := block
            obtain ⟨tail, rfl⟩ := List.head?_eq_some_iff.1 star
            cases ended : (BlockComment.read tail).closed with
            | true =>
              obtain ⟨rest, whole, first⟩ := BlockComment.read_closed ended
              have said : BlockComment.read tail = ⟨(BlockComment.read tail).text, true⟩ := by
                rw [← ended]
              generalize (BlockComment.read tail).text = body at whole first said
              subst whole
              have rest_eq : rest = text.drop (a + (body.length + 4)) := by
                simpa using further ('/' :: '*' :: (body ++ ['*', '/'])) (by simpa using here)
              rw [(read_block a body rest said).1, rest_eq]
              exact .block (rest_eq ▸ here) first (ih _ (by omega))
            | false =>
              have last : a + (tail.length + 2) = text.length := by
                have := congrArg List.length here
                simp only [List.length_drop, List.length_cons] at this
                omega
              rw [read_open a ended, last]
              exact .open here (BlockComment.read_open ended).2
          · rw [(read_dark blank line block a).1]
            exact .none a

end Trivia

theorem Gap.skippable {text : List Char} {a b : Nat} (h : Gap text a b) : Skippable text a b := by
  rcases h with rfl | rfl
  · exact .none b
  · exact Trivia.read_skippable text text.length a (Nat.le_add_left _ _)

namespace Lexer

variable {l : Lexer}

@[simp] theorem frames_scan : l.scan.frames = l.frames := by
  unfold scan
  dsimp only
  split <;> rfl

theorem scan_start_of_preservesSpace (h : l.frames.current.preservesSpace = true) :
    l.scan.token.start = l.offset := by
  unfold scan
  dsimp only
  rw [if_pos h]
  rfl

/-- A lexer between two calls. -/
structure Ready (text : List Char) (frames : FrameStack) (l : Lexer) : Prop where
  text_eq : l.text = text
  frames_eq : l.frames = frames
  offset_le : l.offset ≤ text.length

/-- What one call does that finds the lexer at the offset `a`. -/
structure Scanned (text : List Char) (frame : Frame) (a : Nat) (l : Lexer) : Prop where
  le_start : a ≤ l.token.start
  offset_eq : l.offset = l.token.stop
  skipped : Skippable text a l.token.start
  start_eq : frame.preservesSpace = true → l.token.start = a
  nonempty : l.token.kind ≠ .endOfFileToken → l.token.start < l.token.stop
  stop_le : l.token.stop ≤ text.length
  atEnd : l.token.kind = .endOfFileToken →
    l.token.start = text.length ∧ l.token.stop = text.length

namespace Ready

variable {text : List Char} {frames : FrameStack}

theorem scanned (h : l.Ready text frames) : l.scan.Scanned text frames.current l.offset := by
  obtain ⟨rfl, rfl, le⟩ := h
  obtain ⟨read, -, offset, gap⟩ := l.scan_spec le
  exact ⟨gap.le, offset, gap.skippable, scan_start_of_preservesSpace, read.lt, read.stop_le,
    read.stop_of_end⟩

theorem scan (h : l.Ready text frames) : l.scan.Ready text frames := by
  have scanned := h.scanned
  obtain ⟨rfl, rfl, le⟩ := h
  exact ⟨(l.scan_spec le).2.1, frames_scan, scanned.offset_eq ▸ scanned.stop_le⟩

theorem iterate (h : l.Ready text frames) (n : Nat) : (Lexer.scan^[n] l).Ready text frames := by
  induction n with
  | zero => exact h
  | succ n ih =>
    rw [Function.iterate_succ_apply']
    exact ih.scan

theorem le_offset (h : l.Ready text frames) {n : Nat}
    (more : ∀ k < n, (Lexer.scan^[k + 1] l).token.kind ≠ .endOfFileToken) :
    n ≤ (Lexer.scan^[n] l).offset := by
  induction n with
  | zero => exact Nat.zero_le _
  | succ n ih =>
    have before := ih fun k lt => more k (Nat.lt_succ_of_lt lt)
    have last := more n (Nat.lt_succ_self n)
    rw [Function.iterate_succ_apply'] at last ⊢
    have scanned := (h.iterate n).scanned
    have := scanned.le_start
    have := scanned.nonempty last
    have := scanned.offset_eq
    omega

theorem exists_end (h : l.Ready text frames) :
    ∃ n ≤ text.length, (Lexer.scan^[n + 1] l).token.kind = .endOfFileToken := by
  refine Classical.byContradiction fun none => ?_
  have := h.le_offset (n := text.length + 1) fun k lt isEnd =>
    none ⟨k, Nat.le_of_lt_succ lt, isEnd⟩
  have := (h.iterate (text.length + 1)).offset_le
  omega

end Ready

/-- The tokens tile the text: one call after the other finds a token behind space, each at least a
character long and none before the last one has ended, until some call, at most the one after as
many as there are characters, finds the empty token at the end of the text. -/
theorem scan_tiles (text : List Char) (frames : FrameStack) :
    let l : Lexer := { ofText text with frames }
    ∃ n ≤ text.length,
      (∀ k ≤ n, (scan^[k + 1] l).Scanned text frames.current (scan^[k] l).offset) ∧
        (∀ k < n, (scan^[k + 1] l).token.kind ≠ .endOfFileToken) ∧
        (scan^[n + 1] l).token.kind = .endOfFileToken := by
  intro l
  have ready : l.Ready text frames := ⟨rfl, rfl, Nat.zero_le _⟩
  have ends := ready.exists_end
  classical
  let n := Nat.find ends
  obtain ⟨le, last⟩ : n ≤ text.length ∧ _ := Nat.find_spec ends
  refine ⟨n, le, fun k _ => ?_, fun k lt isEnd => ?_, last⟩
  · rw [Function.iterate_succ_apply']
    exact (ready.iterate k).scanned
  · exact Nat.find_min ends lt ⟨Nat.le_trans (Nat.le_of_lt lt) le, isEnd⟩

end Lexer

end TypedScript
