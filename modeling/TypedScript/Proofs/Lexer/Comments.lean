import TypedScript.Proofs.Lexer.Current

/-! Comments in the gaps of a text. A lexer that is never set back takes note of each comment between
the tokens that it passes over, once and in order, however often it reads its current token again. -/

namespace TypedScript

open Text

def StartsTrivia (chars : List Char) : Prop :=
  (∃ c, chars.head? = some c ∧ (isLineBreak c || isBlank c) = true) ∨
    ['/', '/'] <+: chars ∨ ['/', '*'] <+: chars

inductive Commented (text : List Char) : Nat → List Comment → Nat → Prop
  | stop {a : Nat} : ¬StartsTrivia (text.drop a) → Commented text a [] a
  | blank {a b : Nat} {cs : List Comment} {c : Char} {rest : List Char} :
      text.drop a = c :: rest → (isLineBreak c || isBlank c) = true →
      Commented text (a + 1) cs b → Commented text a cs b
  | line {a b : Nat} {cs : List Comment} {body rest : List Char} :
      text.drop a = '/' :: '/' :: (body ++ rest) → (∀ c ∈ body, isLineBreak c = false) →
      (∀ c, rest.head? = some c → isLineBreak c = true) →
      Commented text (a + (body.length + 2)) cs b →
      Commented text a (⟨.singleLine, .ofList body, ⟨a, a + (body.length + 2)⟩⟩ :: cs) b
  | block {a b : Nat} {cs : List Comment} {body rest : List Char} :
      text.drop a = '/' :: '*' :: (body ++ '*' :: '/' :: rest) →
      ¬['*', '/'] <:+: body ++ ['*'] → Commented text (a + (body.length + 4)) cs b →
      Commented text a (⟨.multiLine, .ofList body, ⟨a, a + (body.length + 4)⟩⟩ :: cs) b

/-- From `a` on to `b` the tokens lie one after the other, with gaps around them that hold just these
comments. -/
inductive Interleaved (text : List Char) : Nat → List Token → List Comment → Nat → Prop
  | gap {a b : Nat} {cs : List Comment} : Commented text a cs b → Interleaved text a [] cs b
  | token {a b : Nat} {t : Token} {ts : List Token} {cs ds : List Comment} :
      Commented text a cs t.start → t.Read text → t.kind ≠ .endOfFileToken →
      Interleaved text t.stop ts ds b → Interleaved text a (t :: ts) (cs ++ ds) b

/-- The comment is written in the text with its marks around what it says. -/
def Comment.Quotes (text : List Char) (c : Comment) : Prop :=
  (text.take c.extent.stop).drop c.extent.start = match c.kind with
    | .singleLine => '/' :: '/' :: c.text.toList
    | .multiLine => '/' :: '*' :: (c.text.toList ++ ['*', '/'])

namespace Commented

variable {text : List Char} {a b : Nat} {cs : List Comment}

theorem le (h : Commented text a cs b) : a ≤ b := by
  induction h <;> omega

theorem of_end (h : Commented text text.length cs b) : cs = [] ∧ b = text.length := by
  have none : text.drop text.length = [] := List.drop_length
  cases h with
  | stop => exact ⟨rfl, rfl⟩
  | blank here | line here | block here => rw [none] at here; cases here

theorem ordered (h : Commented text a cs b) :
    (∀ c ∈ cs, a ≤ c.extent.start ∧ c.extent.start < c.extent.stop ∧ c.extent.stop ≤ b) ∧
      cs.Pairwise fun c d => c.extent.stop ≤ d.extent.start := by
  have later {a m b : Nat} {cs : List Comment} (c : Comment) (starts : a = c.extent.start)
      (lt : c.extent.start < c.extent.stop) (stops : c.extent.stop = m) (rest : Commented text m cs b)
      (ih : (∀ d ∈ cs, m ≤ d.extent.start ∧ d.extent.start < d.extent.stop ∧ d.extent.stop ≤ b) ∧
        cs.Pairwise fun c d => c.extent.stop ≤ d.extent.start) :
      (∀ d ∈ c :: cs, a ≤ d.extent.start ∧ d.extent.start < d.extent.stop ∧ d.extent.stop ≤ b) ∧
        (c :: cs).Pairwise fun c d => c.extent.stop ≤ d.extent.start := by
    have := rest.le
    refine ⟨fun d mem => ?_, List.pairwise_cons.2 ⟨fun d mem => stops ▸ (ih.1 d mem).1, ih.2⟩⟩
    rcases List.mem_cons.1 mem with rfl | mem
    · omega
    · have := ih.1 d mem
      omega
  induction h with
  | stop => simp
  | blank _ _ _ ih => exact ⟨fun c mem => ⟨by have := (ih.1 c mem).1; omega, (ih.1 c mem).2⟩, ih.2⟩
  | line _ _ _ rest ih => exact later _ rfl (by simp only; omega) rfl rest ih
  | block _ _ rest ih => exact later _ rfl (by simp only; omega) rfl rest ih

theorem quotes (h : Commented text a cs b) : ∀ c ∈ cs, c.Quotes text := by
  have written {a : Nat} {rest : List Char} (whole : List Char) (here : text.drop a = whole ++ rest) :
      (text.take (a + whole.length)).drop a = whole := by
    rw [List.drop_take, here, Nat.add_sub_cancel_left, List.take_left]
  induction h with
  | stop => simp
  | blank _ _ _ ih => exact ih
  | @line a b cs body rest here _ _ _ ih =>
    refine List.forall_mem_cons.2 ⟨?_, ih⟩
    simpa [Comment.Quotes] using written ('/' :: '/' :: body) (by simpa using here)
  | @block a b cs body rest here _ _ ih =>
    refine List.forall_mem_cons.2 ⟨?_, ih⟩
    simpa [Comment.Quotes] using written ('/' :: '*' :: (body ++ ['*', '/'])) (by simpa using here)

end Commented

namespace Interleaved

variable {text : List Char} {a b : Nat} {ts : List Token} {cs ds : List Comment}

theorem le (h : Interleaved text a ts cs b) : a ≤ b := by
  induction h with
  | gap gap => exact gap.le
  | token gap read _ _ ih => exact Nat.le_trans gap.le (Nat.le_trans read.start_le_stop ih)

theorem snoc {t : Token} (h : Interleaved text a ts cs t.start) (read : t.Read text)
    (ne : t.kind ≠ .endOfFileToken) (gap : Commented text t.stop ds b) :
    Interleaved text a (ts ++ [t]) (cs ++ ds) b := by
  generalize start : t.start = m at h
  induction h with
  | gap before =>
    subst start
    exact .token before read ne (.gap gap)
  | @token _ _ _ _ cs' _ before read' ne' _ ih =>
    rw [List.append_assoc]
    exact .token before read' ne' (ih start)

theorem ordered (h : Interleaved text a ts cs b) :
    (∀ c ∈ cs, a ≤ c.extent.start ∧ c.extent.start < c.extent.stop ∧ c.extent.stop ≤ b) ∧
      cs.Pairwise fun c d => c.extent.stop ≤ d.extent.start := by
  induction h with
  | gap gap => exact gap.ordered
  | @token a b t ts cs ds gap read _ rest ih =>
    have := read.start_le_stop
    have := rest.le
    have := gap.le
    obtain ⟨inGap, gapOrdered⟩ := gap.ordered
    refine ⟨fun c mem => ?_, List.pairwise_append.2 ⟨gapOrdered, ih.2, fun c mem d mem' => ?_⟩⟩
    · rcases List.mem_append.1 mem with mem | mem
      · have := inGap c mem
        omega
      · have := ih.1 c mem
        omega
    · have := inGap c mem
      have := ih.1 d mem'
      omega

theorem apart (h : Interleaved text a ts cs b) :
    ∀ c ∈ cs, ∀ t ∈ ts, c.extent.stop ≤ t.start ∨ t.stop ≤ c.extent.start := by
  have after {a b : Nat} {ts : List Token} {cs : List Comment} (h : Interleaved text a ts cs b) :
      ∀ t ∈ ts, a ≤ t.start := by
    induction h with
    | gap => simp
    | token gap read _ _ ih =>
      refine List.forall_mem_cons.2 ⟨gap.le, fun t mem => ?_⟩
      exact Nat.le_trans gap.le (Nat.le_trans read.start_le_stop (ih t mem))
  induction h with
  | gap => simp
  | @token a b t ts cs ds gap read _ rest ih =>
    intro c mem u mem'
    rcases List.mem_append.1 mem with mem | mem <;> rcases List.mem_cons.1 mem' with rfl | mem'
    · exact .inl (gap.ordered.1 c mem).2.2
    · refine .inl (Nat.le_trans (gap.ordered.1 c mem).2.2 ?_)
      exact Nat.le_trans read.start_le_stop (after rest u mem')
    · exact .inr (rest.ordered.1 c mem).1
    · exact ih c mem u mem'

theorem quotes (h : Interleaved text a ts cs b) : ∀ c ∈ cs, c.Quotes text := by
  induction h with
  | gap gap => exact gap.quotes
  | token gap _ _ _ ih => exact List.forall_mem_append.2 ⟨gap.quotes, ih⟩

end Interleaved

theorem BlockComment.read_closed {chars : List Char} (closed : (read chars).closed = true) :
    ∃ rest, chars = (read chars).text ++ '*' :: '/' :: rest ∧
      ¬['*', '/'] <:+: (read chars).text ++ ['*'] := by
  induction chars with
  | nil => cases closed
  | cons c chars ih =>
    unfold read at closed ⊢
    split at closed
    case isTrue ends =>
      obtain ⟨rfl, slash⟩ := ends
      obtain ⟨rest, rfl⟩ := List.head?_eq_some_iff.1 slash
      rw [if_pos (by simp)]
      exact ⟨rest, rfl, fun part => by simpa using part.length_le⟩
    case isFalse goesOn =>
      obtain ⟨rest, whole, first⟩ := ih closed
      rw [if_neg goesOn]
      refine ⟨rest, congrArg (c :: ·) whole, fun part => ?_⟩
      rcases List.infix_cons_iff.1 part with start | later
      · -- A mark at the very start would have been taken.
        obtain ⟨rfl, start⟩ := List.cons_prefix_cons.1 start
        refine goesOn ⟨rfl, ?_⟩
        rw [whole]
        generalize (read chars).text = text at start
        cases text with
        | nil => simp at start
        | cons d text => simpa [eq_comm] using start
      · exact first later

namespace Trivia

theorem readFrom_skip (skip offset : Nat) (chars : List Char) (le : skip ≤ chars.length) :
    readFrom skip offset chars = read (offset + skip) (chars.drop skip) := by
  induction skip generalizing offset chars with
  | zero => rfl
  | succ skip ih =>
    cases chars with
    | nil => simp at le
    | cons c rest =>
      rw [readFrom, ih _ _ (by simpa using le)]
      simp [Nat.add_assoc, Nat.add_comm 1]

theorem lineCommentText_append (chars : List Char) :
    ∃ rest, chars = lineCommentText chars ++ rest ∧
      (∀ c ∈ lineCommentText chars, isLineBreak c = false) ∧
      ∀ c, rest.head? = some c → isLineBreak c = true := by
  refine ⟨chars.dropWhile fun c => !isLineBreak c, List.takeWhile_append_dropWhile.symm,
    fun c mem => by simpa using List.all_eq_true.1 List.all_takeWhile c mem, fun c first => ?_⟩
  simpa [first] using List.head?_dropWhile_not (fun c => !isLineBreak c) chars

theorem read_blank (offset : Nat) {c : Char} (rest : List Char)
    (blank : (isLineBreak c || isBlank c) = true) :
    let after := read (offset + 1) rest
    let here := read offset (c :: rest)
    here.stop = after.stop ∧ here.unclosed = after.unclosed ∧ here.comments = after.comments := by
  by_cases lineBreak : isLineBreak c = true
  · simp [read, readFrom, lineBreak]
  · have blank : isBlank c = true := by simpa [lineBreak] using blank
    simp [read, readFrom, lineBreak, blank]

theorem read_line (offset : Nat) (body rest : List Char)
    (said : lineCommentText (body ++ rest) = body) :
    let after := read (offset + (body.length + 2)) rest
    let here := read offset ('/' :: '/' :: (body ++ rest))
    here.stop = after.stop ∧ here.unclosed = after.unclosed ∧
      here.comments =
        ⟨.singleLine, .ofList body, ⟨offset, offset + (body.length + 2)⟩⟩ :: after.comments := by
  have after : readFrom (body.length + 1) (offset + 1) ('/' :: (body ++ rest)) =
      read (offset + (body.length + 2)) rest := by
    rw [readFrom_skip _ _ _ (by simp), List.drop_succ_cons, List.drop_left]
    congr 1
    omega
  have slash : isLineBreak '/' = false ∧ isBlank '/' = false := by decide
  simp [read, readFrom, slash, said, after]

theorem read_block (offset : Nat) (body rest : List Char)
    (said : BlockComment.read (body ++ '*' :: '/' :: rest) = ⟨body, true⟩) :
    let after := read (offset + (body.length + 4)) rest
    let here := read offset ('/' :: '*' :: (body ++ '*' :: '/' :: rest))
    here.stop = after.stop ∧ here.unclosed = after.unclosed ∧
      here.comments =
        ⟨.multiLine, .ofList body, ⟨offset, offset + (body.length + 4)⟩⟩ :: after.comments := by
  have after : readFrom (body.length + 3) (offset + 1) ('*' :: (body ++ '*' :: '/' :: rest)) =
      read (offset + (body.length + 4)) rest := by
    rw [readFrom_skip _ _ _ (by simp), List.drop_succ_cons, List.drop_append]
    congr 1
    · omega
    · simp
  have slash : isLineBreak '/' = false ∧ isBlank '/' = false := by decide
  simp [read, readFrom, slash, said, BlockComment.length, after]

theorem closed_of_unclosed {offset : Nat} {rest : List Char}
    (closed : (read offset ('/' :: '*' :: rest)).unclosed = none) :
    (BlockComment.read rest).closed = true := by
  have slash : isLineBreak '/' = false ∧ isBlank '/' = false := by decide
  cases ended : (BlockComment.read rest).closed with
  | true => rfl
  | false => simp [read, readFrom, slash, ended] at closed

section

variable {c : Char} {rest : List Char} (dark : ¬(isLineBreak c || isBlank c) = true)
  (noLine : ¬(c = '/' ∧ rest.head? = some '/')) (noBlock : ¬(c = '/' ∧ rest.head? = some '*'))

include dark noLine noBlock

theorem read_dark (offset : Nat) :
    (read offset (c :: rest)).stop = offset ∧ (read offset (c :: rest)).comments = [] := by
  have dark : isLineBreak c = false ∧ isBlank c = false := by simpa using dark
  simp [read, readFrom, dark, noLine, noBlock]

theorem not_startsTrivia : ¬StartsTrivia (c :: rest) := by
  rintro (⟨d, first, blank⟩ | line | block)
  · cases first
    exact dark blank
  · obtain ⟨rfl, tail, rfl⟩ := List.cons_prefix_cons.1 line
    exact noLine ⟨rfl, rfl⟩
  · obtain ⟨rfl, tail, rfl⟩ := List.cons_prefix_cons.1 block
    exact noBlock ⟨rfl, rfl⟩

end

theorem read_commented (text : List Char) (count a : Nat) (le : text.length ≤ a + count)
    (closed : (read a (text.drop a)).unclosed = none) :
    Commented text a (read a (text.drop a)).comments (read a (text.drop a)).stop := by
  induction count generalizing a with
  | zero =>
    have nil : text.drop a = [] := List.drop_eq_nil_of_le le
    rw [nil]
    exact .stop (by simp [nil, StartsTrivia])
  | succ count ih =>
    cases here : text.drop a with
    | nil => exact .stop (by simp [here, StartsTrivia])
    | cons c rest =>
      have further (whole : List Char) {rest : List Char} (is : text.drop a = whole ++ rest) :
          rest = text.drop (a + whole.length) := by
        rw [← List.drop_drop, is, List.drop_left]
      rw [here] at closed
      by_cases blank : (isLineBreak c || isBlank c) = true
      · obtain ⟨stop, unclosed, comments⟩ := read_blank a rest blank
        obtain rfl : rest = text.drop (a + 1) := further [c] here
        rw [stop, comments]
        exact .blank here blank (ih (a + 1) (by omega) (unclosed ▸ closed))
      · by_cases line : c = '/' ∧ rest.head? = some '/'
        · obtain ⟨rfl, slash⟩ := line
          obtain ⟨tail, rfl⟩ := List.head?_eq_some_iff.1 slash
          obtain ⟨rest, whole, dark, ends⟩ := lineCommentText_append tail
          generalize said : lineCommentText tail = body at whole dark
          subst whole
          obtain ⟨stop, unclosed, comments⟩ := read_line a body rest said
          obtain rfl := further ('/' :: '/' :: body) here
          rw [stop, comments]
          exact .line here dark ends (ih _ (by omega) (unclosed ▸ closed))
        · by_cases block : c = '/' ∧ rest.head? = some '*'
          · obtain ⟨rfl, star⟩ := block
            obtain ⟨tail, rfl⟩ := List.head?_eq_some_iff.1 star
            have ended := closed_of_unclosed closed
            obtain ⟨rest, whole, first⟩ := BlockComment.read_closed ended
            have said : BlockComment.read tail = ⟨(BlockComment.read tail).text, true⟩ := by
              rw [← ended]
            generalize (BlockComment.read tail).text = body at whole first said
            subst whole
            obtain ⟨stop, unclosed, comments⟩ := read_block a body rest said
            have rest_eq : rest = text.drop (a + (body.length + 4)) := by
              simpa using further ('/' :: '*' :: (body ++ ['*', '/'])) (by simpa using here)
            rw [rest_eq] at stop unclosed comments closed ⊢
            rw [stop, comments]
            exact .block (rest_eq ▸ here) first (ih _ (by omega) (unclosed ▸ closed))
          · obtain ⟨stop, comments⟩ := read_dark blank line block a
            rw [stop, comments]
            exact .stop (here ▸ not_startsTrivia blank line block)

end Trivia

theorem Trivia.read_settled (offset : Nat) {chars : List Char} (h : ¬StartsTrivia chars) :
    Trivia.read offset chars = { stop := offset } := by
  cases chars with
  | nil => rfl
  | cons c rest =>
    have dark : ¬(isLineBreak c || isBlank c) = true := fun blank => h (.inl ⟨c, rfl, blank⟩)
    have noLine : ¬(c = '/' ∧ rest.head? = some '/') := by
      rintro ⟨rfl, slash⟩
      obtain ⟨tail, rfl⟩ := List.head?_eq_some_iff.1 slash
      exact h (.inr (.inl ⟨tail, rfl⟩))
    have noBlock : ¬(c = '/' ∧ rest.head? = some '*') := by
      rintro ⟨rfl, star⟩
      obtain ⟨tail, rfl⟩ := List.head?_eq_some_iff.1 star
      exact h (.inr (.inr ⟨tail, rfl⟩))
    have dark : isLineBreak c = false ∧ isBlank c = false := by simpa using dark
    simp [Trivia.read, Trivia.readFrom, dark, noLine, noBlock]

theorem Gap.stop_eq {text : List Char} {a b : Nat} (h : Gap text a b)
    (dark : ¬StartsTrivia (text.drop b)) : (Trivia.read a (text.drop a)).stop = b := by
  rcases h with rfl | rfl
  · rw [Trivia.read_settled _ dark]
  · rfl

theorem Token.Read.stop_of_end {text : List Char} {t : Token} (h : t.Read text)
    (last : t.kind = .endOfFileToken) : t.start = text.length ∧ t.stop = text.length := by
  obtain ⟨x, read, kind, stop⟩ := h.lexeme
  have nil : text.drop t.start = [] := by
    cases chars : text.drop t.start with
    | nil => rfl
    | cons c rest =>
      rw [chars] at read
      exact absurd (kind.symm.trans last) (read.fits (by simp)).notEnd
  rw [nil] at read
  have := List.drop_eq_nil_iff.1 nil
  have := h.start_le
  have := read.ofNil.2
  omega

namespace Lexer

/-- The current token, unless that is the end of the text. -/
def consumable (l : Lexer) : List Token :=
  if l.token.kind = .endOfFileToken then [] else [l.token]

/-- From the first lexer on to the second the tokens are consumed one after the other, each with a
gap after it. In between the current token may be read again. -/
inductive Passes : Lexer → List Token → Lexer → Prop
  | refl (l : Lexer) : Passes l [] l
  | scan {l m : Lexer} {ts : List Token} : Passes l ts m →
      m.frames.current.preservesSpace = false → m.scan.error = none →
      Passes l (ts ++ m.consumable) m.scan.takeError.2
  | under {l m : Lexer} {ts : List Token} (frames : FrameStack) : Passes l ts m →
      Passes l ts (m.under frames)
  | rescanTemplate {l m : Lexer} {ts : List Token} : Passes l ts m →
      m.token.kind = .closeBraceToken → Passes l ts m.rescanTemplate.takeError.2
  | rescanSlash {l m : Lexer} {ts : List Token} : Passes l ts m →
      m.token.kind = .slashToken ∨ m.token.kind = .slashEqualsToken →
      Passes l ts m.rescanSlash.takeError.2

theorem Passes.trans {l m n : Lexer} {ts us : List Token} (h : Passes l ts m) (k : Passes m us n) :
    Passes l (ts ++ us) n := by
  induction k with
  | refl => simpa using h
  | scan _ skips fine ih =>
    rw [← List.append_assoc]
    exact .scan ih skips fine
  | under frames _ ih => exact .under frames ih
  | rescanTemplate _ brace ih => exact .rescanTemplate ih brace
  | rescanSlash _ slash ih => exact .rescanSlash ih slash

structure Past (text : List Char) (a : Nat) (ts : List Token) (l : Lexer) : Prop where
  text_eq : l.text = text
  read : l.token.Read text
  offset_eq : l.offset = l.token.stop
  collecting : (l.collecting && !l.speculating) = true
  interleaved : Interleaved text a ts l.comments l.token.start

theorem scan_commented {l : Lexer} (collecting : (l.collecting && !l.speculating) = true)
    (skips : l.frames.current.preservesSpace = false) (fine : l.scan.error = none) :
    ∃ ds, l.scan.comments = l.comments ++ ds ∧
      Commented l.text l.offset ds l.scan.token.start := by
  let m := l.skipTrivia
  let x := lexemeAt l.frames.current m.1.cursor.rest
  have scanned : l.scan = m.1.accept m.1.cursor x x.value { afterLineBreak := m.2 } := by
    unfold scan
    dsimp only
    rw [skips]
    rfl
  let trivia := Trivia.read l.offset (l.text.drop l.offset)
  have read : Trivia.read l.cursor.offset l.cursor.rest = trivia := by
    rw [l.cursor.rest_eq]
    rfl
  have noneOf {α : Type} {x y : Option α} (h : (x <|> y) = none) : x = none ∧ y = none := by
    cases x with
    | none => exact ⟨rfl, h⟩
    | some => cases h
  have closed : trivia.unclosed = none := by
    have gapFine : m.1.error = none := (noneOf ((congrArg Lexer.error scanned).symm.trans fine)).1
    have unclosed := (noneOf (x := l.error) gapFine).2
    rw [read] at unclosed
    exact Option.map_eq_none_iff.1 unclosed
  refine ⟨trivia.comments, ?_, ?_⟩
  · rw [scanned]
    change (if l.collecting && !l.speculating then _ else _) = _
    rw [if_pos collecting, read]
  · have start : l.scan.token.start = trivia.stop := by
      rw [scanned]
      change l.cursor.offset + ((Trivia.read l.cursor.offset l.cursor.rest).stop - l.cursor.offset) = _
      have := (Trivia.readFrom_stop 0 l.offset (l.text.drop l.offset)).1
      rw [read]
      exact Nat.add_sub_cancel' this
    rw [start]
    exact Trivia.read_commented l.text _ l.offset (Nat.le_add_left _ _) closed

theorem scan_collecting (l : Lexer) :
    (l.scan.collecting && !l.scan.speculating) = (l.collecting && !l.speculating) := by
  unfold scan
  dsimp only
  split <;> rfl

namespace Past

variable {text : List Char} {a : Nat} {ts : List Token} {l : Lexer}

theorem first (text_eq : l.text = text) (le : l.offset ≤ text.length) (fresh : l.comments = [])
    (collecting : (l.collecting && !l.speculating) = true)
    (skips : l.frames.current.preservesSpace = false) (fine : l.scan.error = none) :
    l.scan.takeError.2.Past text l.offset [] := by
  subst text_eq
  obtain ⟨read, text, offset, -⟩ := l.scan_spec le
  obtain ⟨ds, comments, gap⟩ := scan_commented collecting skips fine
  refine ⟨text, read, offset, l.scan_collecting.trans collecting, ?_⟩
  change Interleaved _ _ _ l.scan.comments _
  rw [comments, fresh]
  exact .gap gap

theorem scan (h : l.Past text a ts) (skips : l.frames.current.preservesSpace = false)
    (fine : l.scan.error = none) : l.scan.takeError.2.Past text a (ts ++ l.consumable) := by
  obtain ⟨rfl, read, offset, collecting, interleaved⟩ := h
  obtain ⟨read', text, offset', -⟩ := l.scan_spec (offset ▸ read.stop_le)
  obtain ⟨ds, comments, gap⟩ := scan_commented collecting skips fine
  refine ⟨text, read', offset', l.scan_collecting.trans collecting, ?_⟩
  change Interleaved _ _ _ l.scan.comments l.scan.token.start
  rw [comments]
  rw [offset] at gap
  unfold consumable
  split
  · -- Nothing is left to be passed over.
    rename_i last
    obtain ⟨start, stop⟩ := read.stop_of_end last
    rw [stop] at gap
    obtain ⟨rfl, last⟩ := gap.of_end
    rw [last, ← start]
    simpa using interleaved
  · rename_i more
    exact interleaved.snoc read more gap

theorem reread {m : Lexer} (h : l.Past text a ts)
    (again : m.token.Read l.text ∧ m.text = l.text ∧ m.offset = m.token.stop ∧
      m.token.start = l.token.start)
    (collecting : (m.collecting && !m.speculating) = (l.collecting && !l.speculating))
    (comments : m.comments = l.comments) : m.Past text a ts := by
  obtain ⟨rfl, -, -, collects, interleaved⟩ := h
  obtain ⟨read, text, offset, start⟩ := again
  exact ⟨text, read, offset, collecting.trans collects, by rwa [comments, start]⟩

theorem under (h : l.Past text a ts) (frames : FrameStack) : (l.under frames).Past text a ts := by
  refine h.reread (rescanAngles_spec { l with frames } (h.text_eq ▸ h.read) h.offset_eq) ?_ ?_
  · unfold Lexer.under rescanAngles
    split <;> rfl
  · unfold Lexer.under rescanAngles
    split <;> rfl

end Past

theorem Passes.past {text : List Char} {a : Nat} {ts us : List Token} {l m : Lexer}
    (h : Passes l us m) (start : l.Past text a ts) : m.Past text a (ts ++ us) := by
  induction h with
  | refl => simpa using start
  | scan _ skips fine ih =>
    rw [← List.append_assoc]
    exact ih.scan skips fine
  | under frames _ ih => exact ih.under frames
  | @rescanTemplate m us _ brace ih =>
    exact ih.reread (m.rescanTemplate_spec (ih.text_eq ▸ ih.read) brace) rfl rfl
  | @rescanSlash m us _ slash ih =>
    exact ih.reread (m.rescanSlash_spec (ih.text_eq ▸ ih.read) slash) rfl rfl

end Lexer

end TypedScript
