import TypedScript.Grammar.Declaration
import TypedScript.Proofs.Lexer.Respaced
import TypedScript.Proofs.Parser.LexerChange

/-! A word that is spelled in another way, as long as before. What is read after it is the same. -/

namespace TypedScript

open Text

def lineBreak? (c : Char) : Option Char := if isLineBreak c then some c else none

theorem isLineBreak_eq_isSome (c : Char) : isLineBreak c = (lineBreak? c).isSome := by
  unfold lineBreak?
  split <;> simp_all

theorem beq_lineBreak {c d : Char} (isBreak : isLineBreak d = true) :
    (c == d) = (lineBreak? c == some d) := by
  unfold lineBreak?
  split
  · rfl
  · rename_i other
    refine beq_eq_false_iff_ne.2 ?_
    rintro rfl
    exact other isBreak

theorem LineCount.pass_congr {n : LineCount} {c c' : Char} {next next' : Option Char}
    (same : lineBreak? c = lineBreak? c') (ahead : next.map lineBreak? = next'.map lineBreak?) :
    n.pass c next = n.pass c' next' := by
  have feed (next : Option Char) :
      (next == some '\n') = (next.map lineBreak? == some (some '\n')) := by
    cases next with
    | none => rfl
    | some c => exact beq_lineBreak (c := c) (d := '\n') rfl
  have carriage (c : Char) : (c == '\r') = (lineBreak? c == some '\r') := beq_lineBreak rfl
  simp only [pass, isLineBreak_eq_isSome, feed, carriage, same, ahead]

theorem LineCount.walk_congr (count : Nat) {n : LineCount} {chars others : List Char}
    (same : chars.map lineBreak? = others.map lineBreak?) :
    walk count n chars = walk count n others := by
  induction count generalizing n chars others with
  | zero => simp [walk]
  | succ count ih =>
    cases chars with
    | nil =>
      cases others with
      | nil => rfl
      | cons => simp at same
    | cons c chars =>
      cases others with
      | nil => simp at same
      | cons d others =>
        obtain ⟨first, rest⟩ := List.cons.inj same
        have ahead : chars.head?.map lineBreak? = others.head?.map lineBreak? := by
          rw [← List.head?_map, ← List.head?_map, rest]
        rw [walk, walk, LineCount.pass_congr first ahead, ih rest]

/-- The same place of another text. -/
def Cursor.inText (c : Cursor) (text : List Char) : Cursor := ⟨text, c.offset, text.drop c.offset, rfl⟩

def LineCursor.inText (l : LineCursor) (text : List Char) : LineCursor :=
  { l with cursor := l.cursor.inText text }

theorem LineCursor.goTo_inText {l : LineCursor} {text : List Char}
    (same : l.cursor.text.map lineBreak? = text.map lineBreak?) (offset : Nat) :
    (l.inText text).goTo offset = (l.goTo offset).inText text := by
  have forward {l : LineCursor} (same : l.cursor.text.map lineBreak? = text.map lineBreak?) :
      (l.inText text).forward offset = (l.forward offset).inText text := by
    have rest : l.cursor.rest.map lineBreak? = (text.drop l.cursor.offset).map lineBreak? := by
      rw [l.cursor.rest_eq, List.map_drop, same, List.map_drop]
    have walks : (l.inText text).count.walk (offset - l.cursor.offset) (l.inText text).cursor.rest =
        l.count.walk (offset - l.cursor.offset) l.cursor.rest :=
      (LineCount.walk_congr _ rest).symm
    unfold LineCursor.forward
    have offset_eq : (l.inText text).cursor.offset = l.cursor.offset := rfl
    rw [offset_eq, walks]
    exact congrArg (LineCursor.mk · _ _) (Cursor.ext rfl rfl)
  unfold LineCursor.goTo
  have offset_eq : (l.inText text).cursor.offset = l.cursor.offset := rfl
  rw [offset_eq]
  split
  · have start : LineCursor.atStart (l.inText text).cursor.text =
      (LineCursor.atStart l.cursor.text).inText text := rfl
    rw [start]
    exact forward same
  · exact forward same

theorem LineCursor.text_goTo (l : LineCursor) (offset : Nat) :
    (l.goTo offset).cursor.text = l.cursor.text := by
  unfold LineCursor.goTo
  split <;> rfl

theorem beq_of_class {p : Char → Bool} {c : Char} (h : p c = true) (d : Char) (no : p d = false) :
    (c == d) = false :=
  beq_eq_false_iff_ne.2 fun same => by
    rw [same, no] at h
    cases h

theorem of_range {P : Char → Prop} {first count : Nat}
    (h : ∀ n ∈ List.range' first count, P (Char.ofNat n)) {c : Char} (le : first ≤ c.toNat)
    (lt : c.toNat < first + count) : P c := by
  have here := h c.toNat (List.mem_range'_1.2 ⟨le, lt⟩)
  rwa [Char.ofNat_toNat] at here

theorem isLineBreak_of_class {p : Char → Bool} {c : Char} (h : p c = true)
    (none : [p '\n', p '\r', p '\u2028', p '\u2029'] = [false, false, false, false]) :
    isLineBreak c = false := by
  simp only [List.cons.injEq] at none
  obtain ⟨feed, carriage, line, paragraph, -⟩ := none
  have ne := beq_of_class h
  rw [isLineBreak, ne _ feed, ne _ carriage, ne _ line, ne _ paragraph]
  rfl

theorem isLineBreak_of_isNamePart {c : Char} (part : isNamePart c = true) : isLineBreak c = false :=
  isLineBreak_of_class part (by decide +kernel)

theorem isLineBreak_of_hexValue? {c : Char} (digit : (hexValue? c).isSome) : isLineBreak c = false :=
  isLineBreak_of_class (p := fun c => (hexValue? c).isSome) digit (by decide)

namespace Escape

theorem hexDigits_unbroken {count value code : Nat} {chars : List Char}
    (h : hexDigits count value chars = some code) : ∀ c ∈ chars.take count, isLineBreak c = false := by
  induction count generalizing value chars with
  | zero => simp
  | succ count ih =>
    cases chars with
    | nil => simp
    | cons c chars =>
      rw [hexDigits] at h
      split at h
      · rename_i digit
        rw [List.take_succ_cons, List.forall_mem_cons]
        exact ⟨isLineBreak_of_hexValue? (by rw [digit]; rfl), ih h⟩
      · cases h

theorem fixed_unbroken {count : Nat} {chars : List Char} {letter : Char}
    (h : (fixed count chars).char = some letter) :
    ∀ c ∈ chars.take (fixed count chars).length, isLineBreak c = false := by
  unfold fixed at h ⊢
  split at h
  · exact hexDigits_unbroken ‹_›
  · cases h

theorem braced_unbroken {chars : List Char} {letter : Char} (h : (braced chars).char = some letter) :
    ∀ c ∈ chars.take (braced chars).length, isLineBreak c = false := by
  have digits : ∀ c ∈ hexRun chars, isLineBreak c = false := fun c mem =>
    isLineBreak_of_hexValue? (List.all_eq_true.1 List.all_takeWhile c mem)
  have run : chars.take (hexRun chars).length = hexRun chars :=
    (List.prefix_iff_eq_take.1 (List.takeWhile_prefix _)).symm
  unfold braced at h ⊢
  dsimp only at h ⊢
  split at h
  · cases h
  · rename_i wrong
    have closed : (chars[(hexRun chars).length]? == some '\x7d') = true := by
      cases is : chars[(hexRun chars).length]? == some '\x7d' with
      | true => rfl
      | false =>
        rw [is] at wrong
        exact absurd rfl wrong
    rw [if_neg wrong, if_pos closed, List.take_add_one, beq_iff_eq.1 closed, run]
    intro c mem
    rcases List.mem_append.1 mem with mem | mem
    · exact digits c mem
    · cases List.mem_singleton.1 mem
      decide

theorem unicode_unbroken {chars : List Char} {letter : Char} (h : (unicode chars).char = some letter) :
    ∀ c ∈ chars.take (unicode chars).length, isLineBreak c = false := by
  unfold unicode at h ⊢
  split at h
  · rw [List.take_succ_cons, List.forall_mem_cons]
    exact ⟨by decide, braced_unbroken h⟩
  · exact fixed_unbroken h

end Escape

theorem readLetters_unbroken {first : Bool} {skip offset : Nat} {chars : List Char}
    (fine : (readLetters first skip offset chars).complaint = none) :
    ∀ c ∈ (chars.take (readLetters first skip offset chars).length).drop skip,
      isLineBreak c = false := by
  induction chars generalizing first skip offset with
  | nil => simp
  | cons d chars ih =>
    cases skip with
    | succ skip => exact ih fine
    | zero =>
      rw [List.drop_zero]
      by_cases escape : (d == '\\' && chars.head? == some 'u') = true
      · obtain ⟨rfl, u⟩ : d = '\\' ∧ chars.head? = some 'u' := by simpa using escape
        obtain ⟨tail, rfl⟩ := List.head?_eq_some_iff.1 u
        rw [readLetters_escape] at fine ⊢
        split at fine
        · rename_i letter known
          have inside := Escape.unicode_unbroken (Option.filter_eq_some_iff.1 known).1
          dsimp only
          rw [List.take_succ_cons, List.forall_mem_cons]
          refine ⟨by decide, fun c mem => ?_⟩
          rw [← List.take_append_drop ((Escape.unicode tail).length + 1) (List.take ..)] at mem
          rcases List.mem_append.1 mem with mem | mem
          · rw [List.take_take, Nat.min_comm, ← List.take_take] at mem
            rcases List.mem_cons.1 (List.mem_of_mem_take mem) with rfl | mem
            · decide
            · exact inside c mem
          · exact ih fine c mem
        · cases fine
      · rw [readLetters, if_neg escape] at fine ⊢
        split at fine
        · rename_i fits
          have part : isNamePart d = true := by
            cases first with
            | true => exact isNamePart_of_isNameStart fits
            | false => exact fits
          rw [if_pos fits, List.take_succ_cons, List.forall_mem_cons]
          exact ⟨isLineBreak_of_isNamePart part, ih fine⟩
        · rename_i fits
          rw [if_neg fits]
          simp

theorem isDigit_of_isNameStart {c : Char} (h : isNameStart c = true) : isDigit c = false := by
  have digits : ∀ n ∈ List.range' 48 10, isNameStart (Char.ofNat n) = false := by decide
  cases digit : isDigit c with
  | false => rfl
  | true =>
    have range : 48 ≤ c.toNat ∧ c.toNat ≤ 57 := by
      simpa [isDigit, Char.isDigit, UInt32.le_iff_toNat_le] using digit
    have none : isNameStart c = false :=
      of_range (P := fun c => isNameStart c = false) digits range.1 (Nat.lt_succ_of_le range.2)
    rw [h] at none
    cases none

theorem isBlank_of_isNamePart {c : Char} (h : isNamePart c = true) : isBlank c = false := by
  have wide : ∀ n ∈ List.range' 0x2000 11, isNamePart (Char.ofNat n) = false := by decide +kernel
  have none := beq_of_class h
  have range : (0x2000 ≤ c.toNat && c.toNat ≤ 0x200a) = false := by
    cases inside : (0x2000 ≤ c.toNat && c.toNat ≤ 0x200a : Bool) with
    | false => rfl
    | true =>
      have inside : 0x2000 ≤ c.toNat ∧ c.toNat ≤ 0x200a := by simpa using inside
      have none : isNamePart c = false :=
        of_range (P := fun c => isNamePart c = false) wide inside.1 (Nat.lt_succ_of_le inside.2)
      rw [h] at none
      cases none
  unfold isBlank
  rw [range, none ' ' (by decide +kernel), none '\t' (by decide +kernel), none '\x0b' (by decide +kernel),
    none '\x0c' (by decide +kernel), none '\u00a0' (by decide +kernel),
    none '\u1680' (by decide +kernel), none '\u202f' (by decide +kernel),
    none '\u205f' (by decide +kernel), none '\u3000' (by decide +kernel),
    none '\ufeff' (by decide +kernel)]
  rfl

def StartsName (c : Char) (rest : List Char) : Prop :=
  isNameStart c = true ∨ c = '\\' ∧ rest.head? = some 'u'

namespace StartsName

variable {c : Char} {rest : List Char}

theorem ofKind (named : (readWord (c :: rest)).kind = .identifier) : StartsName c rest := by
  by_cases escape : (c == '\\' && rest.head? == some 'u') = true
  · exact .inr (by simpa using escape)
  · cases is : isNameStart c with
    | true => exact .inl is
    | false =>
      have none : readLetters true 0 0 (c :: rest) = {} := by
        rw [readLetters, if_neg escape, fitsName, if_pos rfl, is]
        rfl
      rw [readWord, none] at named
      cases named

variable (h : StartsName c rest)
include h

theorem readToken (splitsAngles : Bool) :
    TypedScript.readToken splitsAngles c rest = readWord (c :: rest) := by
  rcases h with start | ⟨rfl, u⟩
  · have part := isNamePart_of_isNameStart start
    have ne := beq_of_class part
    simp only [TypedScript.readToken, ne '\'' (by decide +kernel), ne '"' (by decide +kernel),
      ne '\x60' (by decide +kernel), ne '#' (by decide +kernel), ne '.' (by decide +kernel),
      isDigit_of_isNameStart start, start]
    rfl
  · unfold TypedScript.readToken
    rw [if_neg (by decide), if_neg (by decide), if_neg (by decide), if_neg (by simp; decide),
      if_pos (by rw [u]; rfl)]

theorem readTrivia (offset : Nat) : Trivia.read offset (c :: rest) = { stop := offset } := by
  have dark : isLineBreak c = false ∧ isBlank c = false ∧ c ≠ '/' := by
    rcases h with start | ⟨rfl, -⟩
    · have part := isNamePart_of_isNameStart start
      exact ⟨isLineBreak_of_isNamePart part, isBlank_of_isNamePart part,
        beq_eq_false_iff_ne.1 (beq_of_class part '/' (by decide +kernel))⟩
    · decide
  obtain ⟨lineBreak, blank, slash⟩ := dark
  simp [Trivia.read, Trivia.readFrom, lineBreak, blank, slash]

end StartsName

theorem Lexer.scan_here {l : Lexer}
    (dark : Trivia.read l.cursor.offset l.cursor.rest = { stop := l.cursor.offset }) :
    let x := lexemeAt l.frames.current l.cursor.rest
    l.scan = l.accept l.cursor x x.value {} := by
  have skips : l.skipTrivia = (l, false) := by
    have stays : l.cursor.advance (l.cursor.offset - l.cursor.offset) = l.cursor :=
      Cursor.ext rfl (by simp [Cursor.advance])
    unfold skipTrivia
    rw [dark]
    dsimp only
    rw [stays]
    simp
  unfold scan
  rw [skips]
  dsimp only
  split <;> rfl

theorem readLetters_of_length {first : Bool} {offset : Nat} {chars : List Char}
    (none : (readLetters first 0 offset chars).length = 0) : readLetters first 0 offset chars = {} := by
  cases chars with
  | nil => rfl
  | cons c rest =>
    rw [readLetters] at none ⊢
    split at none
    · dsimp only at none
      split at none <;> cases none
    · rename_i plain
      rw [if_neg plain]
      split at none
      · cases none
      · rename_i other
        rw [if_neg other]

theorem readLetters_parts {first : Bool} {offset : Nat} {chars rest : List Char}
    (starts : first = true → ∀ c ∈ chars.head?, isNameStart c = true)
    (parts : ∀ c ∈ chars, isNamePart c = true)
    (le : (readLetters first 0 offset (chars ++ rest)).length ≤ chars.length) :
    readLetters first 0 offset (chars ++ rest) = { chars, length := chars.length } := by
  induction chars generalizing first offset with
  | nil => exact readLetters_of_length (Nat.le_zero.1 le)
  | cons c chars ih =>
    have part := parts c List.mem_cons_self
    have plain : ¬(c == '\\' && (chars ++ rest).head? == some 'u') = true := by
      rw [beq_of_class part '\\' (by decide +kernel)]
      exact Bool.false_ne_true
    have fits : fitsName first c = true := by
      cases first with
      | true => exact starts rfl c rfl
      | false => exact part
    rw [List.cons_append, readLetters, if_neg plain, if_pos fits] at le ⊢
    rw [@ih false (offset + 1) (absurd · Bool.false_ne_true)
      (fun c mem => parts c (List.mem_cons_of_mem _ mem)) (Nat.le_of_succ_le_succ le)]
    rfl

theorem SoftKeyword.starts (k : SoftKeyword) :
    ∃ c cs, k.text.toList = c :: cs ∧ isNameStart c = true := by
  cases k <;> exact ⟨_, _, rfl, by decide⟩

theorem SoftKeyword.parts (k : SoftKeyword) : ∀ c ∈ k.text.toList, isNamePart c = true :=
  List.all_eq_true.1 (by cases k <;> decide)

/-- A text with a soft keyword in it, and a name that is written with as many characters and is to
stand in its place. It is no keyword, neither a reserved nor a soft one. -/
structure Respelling where
  before : List Char
  word : SoftKeyword
  spelling : List Char
  after : List Char
  length_eq : spelling.length = word.text.toList.length
  whole : (readWord (spelling ++ after)).length = spelling.length
  fine : (readWord (spelling ++ after)).complaint = none
  unreserved : (readWord (spelling ++ after)).kind = .identifier
  plain : SoftKeyword.ofText? (readWord (spelling ++ after)).value = none

/-- A name that is spelled in another way. -/
def Token.spelled (t : Token) (value : String) (escaped : Bool) : Token :=
  { t with value, flags := { t.flags with escaped }, soft := none }

namespace Respelling

variable (r : Respelling)

def text : List Char := r.before ++ r.word.text.toList ++ r.after

def other : List Char := r.before ++ r.spelling ++ r.after

/-- The name that is read there instead of the word. -/
def name : String := (readWord (r.spelling ++ r.after)).value

def escaped : Bool := (readWord (r.spelling ++ r.after)).flags.escaped

def start : Nat := r.before.length

def stop : Nat := r.before.length + r.word.text.toList.length

theorem start_lt_stop : r.start < r.stop := by
  have : 0 < r.word.text.toList.length := by cases r.word <;> decide
  simp only [start, stop]
  omega

theorem drop_text : r.text.drop r.stop = r.after := by
  rw [text, List.drop_left']
  simp [stop]

theorem drop_other : r.other.drop r.stop = r.after := by
  rw [other, List.drop_left']
  simp [stop, r.length_eq]

theorem unbroken : ∀ c ∈ r.spelling, isLineBreak c = false := by
  have all := readLetters_unbroken r.fine
  have whole : (readLetters true 0 0 (r.spelling ++ r.after)).length = r.spelling.length := r.whole
  rwa [whole, List.take_left, List.drop_zero] at all

theorem breaks : r.text.map lineBreak? = r.other.map lineBreak? := by
  have unbroken {chars : List Char} (all : ∀ c ∈ chars, isLineBreak c = false) :
      chars.map lineBreak? = List.replicate chars.length none := by
    refine List.eq_replicate_iff.2 ⟨List.length_map _, fun x mem => ?_⟩
    obtain ⟨c, here, rfl⟩ := List.mem_map.1 mem
    rw [lineBreak?, all c here]
    rfl
  have word : ∀ c ∈ r.word.text.toList, isLineBreak c = false := fun c mem =>
    isLineBreak_of_isNamePart (r.word.parts c mem)
  simp only [text, other, List.map_append, unbroken word, unbroken r.unbroken, r.length_eq]

/-- The token at the place of the word. Where it is and what kind of token it is stays. -/
def respellToken (t : Token) : Token :=
  if t.start = r.start then t.spelled r.name r.escaped else t

/-- The lexer with the text spelled in the other way, and the token of the word with it. -/
def respell (l : Lexer) : Lexer :=
  { l with
    cursor := l.cursor.inText r.other
    lines := l.lines.inText r.other
    token := r.respellToken l.token }

/-- The lexer has read the word. -/
structure Read (l : Lexer) : Prop where
  text : l.cursor.text = r.text
  lines : l.lines.cursor.text = r.text
  offset : r.stop ≤ l.cursor.offset

/-- It has read on. -/
structure Passed (l : Lexer) : Prop extends r.Read l where
  token : r.stop ≤ l.token.start
  ordered : l.token.start ≤ l.token.stop

variable {r} {l m : Lexer}

theorem respellToken_of_le {t : Token} (le : r.stop ≤ t.start) : r.respellToken t = t :=
  if_neg fun same => by have := r.start_lt_stop; omega

namespace Read

variable (h : r.Read l)
include h

theorem drop_eq {offset : Nat} (le : r.stop ≤ offset) :
    r.other.drop offset = l.cursor.text.drop offset := by
  rw [h.text, ← Nat.add_sub_cancel' le, ← List.drop_drop, ← List.drop_drop, r.drop_text, r.drop_other]

theorem rest_eq : (r.respell l).cursor.rest = l.cursor.rest :=
  (h.drop_eq h.offset).trans l.cursor.rest_eq.symm

theorem accept {cursor : Cursor} (x : Lexeme) (value : String) (flags : TokenFlags)
    (text : cursor.text = r.text) (le : r.stop ≤ cursor.offset) :
    (r.respell l).accept (cursor.inText r.other) x value flags =
        r.respell (l.accept cursor x value flags) ∧
      r.Passed (l.accept cursor x value flags) := by
  have first : (l.lines.inText r.other).goTo cursor.offset =
      (l.lines.goTo cursor.offset).inText r.other :=
    LineCursor.goTo_inText (by rw [h.lines, r.breaks]) _
  have second : ((l.lines.goTo cursor.offset).inText r.other).goTo (cursor.offset + x.length) =
      ((l.lines.goTo cursor.offset).goTo (cursor.offset + x.length)).inText r.other :=
    LineCursor.goTo_inText (by rw [LineCursor.text_goTo, h.lines, r.breaks]) _
  have advanced : (cursor.inText r.other).advance x.length = (cursor.advance x.length).inText r.other :=
    Cursor.ext rfl rfl
  refine ⟨?_, ⟨text, ?_, Nat.le_add_right_of_le le⟩, le, Nat.le_add_right _ _⟩
  · have offset : (cursor.inText r.other).offset = cursor.offset := rfl
    have same (t : Token) (at_ : t.start = cursor.offset) : r.respellToken t = t :=
      respellToken_of_le (by rw [at_]; exact le)
    simp only [Lexer.accept, Lexer.locate, respell, offset, first, second, advanced]
    rw [same _ rfl]
    rfl
  · simp only [Lexer.accept, Lexer.locate, LineCursor.text_goTo, h.lines]

theorem skipTrivia :
    (r.respell l).skipTrivia = (r.respell l.skipTrivia.1, l.skipTrivia.2) ∧ r.Read l.skipTrivia.1 := by
  refine ⟨?_, h.text, h.lines, Nat.le_add_right_of_le h.offset⟩
  have read : Trivia.read (r.respell l).cursor.offset (r.respell l).cursor.rest =
      Trivia.read l.cursor.offset l.cursor.rest := by rw [h.rest_eq]; rfl
  have advanced (count : Nat) :
      (r.respell l).cursor.advance count = (l.cursor.advance count).inText r.other :=
    Cursor.ext rfl rfl
  have offset : (r.respell l).cursor.offset = l.cursor.offset := rfl
  unfold Lexer.skipTrivia
  dsimp only
  rw [read, offset, advanced]
  rfl

theorem scan : (r.respell l).scan = r.respell l.scan ∧ r.Passed l.scan := by
  have reads {l : Lexer} (h : r.Read l) (flags : TokenFlags) :
      let x := Lexer.lexemeAt l.frames.current l.cursor.rest
      (r.respell l).accept (r.respell l).cursor
          (Lexer.lexemeAt l.frames.current (r.respell l).cursor.rest)
          (Lexer.lexemeAt l.frames.current (r.respell l).cursor.rest).value flags =
          r.respell (l.accept l.cursor x x.value flags) ∧
        r.Passed (l.accept l.cursor x x.value flags) := by
    rw [h.rest_eq]
    exact h.accept _ _ _ h.text h.offset
  have frames : (r.respell l).frames = l.frames := rfl
  obtain ⟨skips, skipped⟩ := h.skipTrivia
  unfold Lexer.scan
  rw [frames, skips]
  dsimp only
  by_cases keeps : l.frames.current.preservesSpace = true
  · simp only [keeps, if_true]
    exact reads h _
  · simp only [keeps]
    exact reads skipped _

end Read

namespace Passed

variable (h : r.Passed l)
include h

theorem token_eq : (r.respell l).token = l.token := respellToken_of_le h.token

theorem reread {x y : Lexeme} (same : y = x) (value : String) (flags : TokenFlags) :
    (r.respell l).accept ((r.respell l).cursor.seek l.token.start) y value flags =
        r.respell (l.accept (l.cursor.seek l.token.start) x value flags) ∧
      r.Passed (l.accept (l.cursor.seek l.token.start) x value flags) := by
  rw [same]
  exact @Read.accept _ _ h.toRead (l.cursor.seek l.token.start) x value flags h.text h.token

theorem seek_rest :
    ((r.respell l).cursor.seek l.token.start).rest = (l.cursor.seek l.token.start).rest :=
  h.drop_eq h.token

theorem rescanAngles :
    (r.respell l).rescanAngles = r.respell l.rescanAngles ∧ r.Passed l.rescanAngles := by
  have frames : (r.respell l).frames = l.frames := rfl
  unfold Lexer.rescanAngles
  rw [h.token_eq, frames]
  split
  · exact h.reread (by rw [h.seek_rest]) _ _
  · exact ⟨rfl, h⟩

theorem rescanTemplate :
    (r.respell l).rescanTemplate = r.respell l.rescanTemplate ∧ r.Passed l.rescanTemplate := by
  unfold Lexer.rescanTemplate
  rw [h.token_eq]
  dsimp only
  rw [h.seek_rest]
  exact h.reread rfl _ _

theorem rescanSlash : (r.respell l).rescanSlash = r.respell l.rescanSlash ∧ r.Passed l.rescanSlash := by
  unfold Lexer.rescanSlash
  rw [h.token_eq]
  dsimp only
  rw [h.seek_rest]
  exact h.reread rfl _ _

theorem charAfterTrivia?_eq :
    (r.respell l).charAfterTrivia? l.token.stop = l.charAfterTrivia? l.token.stop := by
  have after : r.stop ≤ l.token.stop := Nat.le_trans h.token h.ordered
  have char {i : Nat} (le : r.stop ≤ i) : (r.respell l).charAt? i = l.charAt? i := by
    have dropped := congrArg (·[0]?) (h.drop_eq le)
    simp only [List.getElem?_drop, Nat.add_zero] at dropped
    exact dropped
  have skipped : (r.respell l).afterTrivia l.token.stop = l.afterTrivia l.token.stop :=
    congrArg (l.token.stop + triviaLength ·) (h.drop_eq after)
  rw [Lexer.charAfterTrivia?, Lexer.charAfterTrivia?, skipped]
  exact char (Nat.le_add_right_of_le after)

end Passed

theorem preserves : Lexer.PreservesReading r.respell r.Passed where
  token h := h.token_eq
  ahead h := h.charAfterTrivia?_eq
  frames _ := rfl
  error _ := rfl
  clear h := ⟨rfl, ⟨⟨h.text, h.lines, h.offset⟩, h.token, h.ordered⟩⟩
  scan h := h.scan
  rescanAngles {l} h frames :=
    Passed.rescanAngles (l := { l with frames }) ⟨⟨h.text, h.lines, h.offset⟩, h.token, h.ordered⟩
  rescanTemplate h := h.rescanTemplate
  rescanSlash h := h.rescanSlash
  restore h _ := ⟨rfl, ⟨⟨h.text, h.lines, h.offset⟩, h.token, h.ordered⟩⟩
  speculate h := ⟨rfl, ⟨⟨h.text, h.lines, h.offset⟩, h.token, h.ordered⟩⟩
  resume _ h := ⟨rfl, ⟨⟨h.text, h.lines, h.offset⟩, h.token, h.ordered⟩⟩

/-- The word is the current token. -/
structure AtWord (r : Respelling) (l : Lexer) : Prop extends r.Read l where
  start : l.token.start = r.start
  stop : l.token.stop = r.stop
  kind : l.token.kind = .identifier
  value : l.token.value = r.word.text
  soft : l.token.soft = some r.word

theorem AtWord.token_eq (h : r.AtWord l) : (r.respell l).token = l.token.spelled r.name r.escaped :=
  if_pos h.start

theorem scan_name {c : Char} {rest : List Char} (ahead : l.cursor.rest = c :: rest)
    (starts : StartsName c rest) :
    l.scan = l.accept l.cursor (readWord (c :: rest)) (readWord (c :: rest)).value {} := by
  have lexeme : Lexer.lexemeAt l.frames.current l.cursor.rest = readWord (c :: rest) := by
    rw [ahead]
    exact starts.readToken l.frames.current.splitsAngles
  rw [Lexer.scan_here (by rw [ahead, starts.readTrivia]), lexeme]

theorem readWord_word
    (le : (readWord (r.word.text.toList ++ r.after)).length ≤ r.word.text.toList.length)
    (named : (readWord (r.word.text.toList ++ r.after)).kind = .identifier) :
    readWord (r.word.text.toList ++ r.after) =
      { kind := .identifier, length := r.word.text.toList.length, value := r.word.text } := by
  obtain ⟨c, cs, word, start⟩ := r.word.starts
  have starts : ∀ c ∈ r.word.text.toList.head?, isNameStart c = true := by
    rw [word]
    rintro _ ⟨⟩
    exact start
  have letters : readLetters true 0 0 (r.word.text.toList ++ r.after) =
    { chars := r.word.text.toList, length := r.word.text.toList.length } :=
    readLetters_parts (fun _ => starts) r.word.parts le
  unfold readWord at named ⊢
  rw [letters] at named ⊢
  dsimp only at named ⊢
  rw [named, String.ofList_toList]

theorem readWord_name : readWord (r.spelling ++ r.after) =
    { kind := .identifier, length := r.word.text.toList.length, value := r.name,
      flags := { escaped := r.escaped } } := by
  have parts : readWord (r.spelling ++ r.after) =
    { kind := (readWord (r.spelling ++ r.after)).kind
      length := (readWord (r.spelling ++ r.after)).length
      value := r.name
      flags := { escaped := r.escaped }
      complaint := (readWord (r.spelling ++ r.after)).complaint } := rfl
  rw [parts, r.unreserved, r.whole, r.fine, r.length_eq]

theorem scan_word (text : l.cursor.text = r.text) (lines : l.lines.cursor.text = r.text)
    (offset : l.cursor.offset = r.start) (at_ : r.AtWord l.scan) :
    (r.respell l).scan = r.respell l.scan := by
  have ahead : l.cursor.rest = r.word.text.toList ++ r.after := by
    rw [l.cursor.rest_eq, text, offset, Respelling.text, List.append_assoc]
    exact List.drop_left' rfl
  have ahead' : (r.respell l).cursor.rest = r.spelling ++ r.after := by
    have dropped : (r.respell l).cursor.rest = r.other.drop l.cursor.offset := rfl
    rw [dropped, offset, other, List.append_assoc]
    exact List.drop_left' rfl
  obtain ⟨c, cs, word, start⟩ := r.word.starts
  obtain ⟨d, ds, name⟩ : ∃ d ds, r.spelling = d :: ds := List.exists_cons_of_length_pos (by
    rw [r.length_eq, word]
    exact Nat.zero_lt_succ _)
  have read := scan_name (ahead.trans (by rw [word, List.cons_append])) (.inl start)
  have read' := scan_name (ahead'.trans (by rw [name, List.cons_append])) (.ofKind (by
    rw [← List.cons_append, ← name]
    exact r.unreserved))
  rw [← List.cons_append, ← word] at read
  rw [← List.cons_append, ← name, readWord_name] at read'
  have le : (readWord (r.word.text.toList ++ r.after)).length ≤ r.word.text.toList.length := by
    have stop := at_.stop
    rw [read] at stop
    change l.cursor.offset + (readWord (r.word.text.toList ++ r.after)).length = r.stop at stop
    rw [offset, Respelling.stop, Respelling.start] at stop
    omega
  have named : (readWord (r.word.text.toList ++ r.after)).kind = .identifier := by
    have kind := at_.kind
    rwa [read] at kind
  rw [readWord_word le named] at read
  have lined (n : Nat) : (l.lines.inText r.other).goTo n = (l.lines.goTo n).inText r.other :=
    LineCursor.goTo_inText (by rw [lines, r.breaks]) n
  have linedOn (n m : Nat) : ((l.lines.goTo n).inText r.other).goTo m =
      ((l.lines.goTo n).goTo m).inText r.other :=
    LineCursor.goTo_inText (by rw [LineCursor.text_goTo, lines, r.breaks]) m
  have advanced (n : Nat) : (l.cursor.inText r.other).advance n = (l.cursor.advance n).inText r.other :=
    Cursor.ext rfl rfl
  have plain : SoftKeyword.ofText? r.name = none := r.plain
  have same : (l.cursor.inText r.other).offset = l.cursor.offset := rfl
  rw [read', read]
  simp only [Lexer.accept, Lexer.locate, respell, same, lined, linedOn, advanced, respellToken, offset,
    plain, ite_self, if_true]
  rfl

end Respelling

end TypedScript
