import Mathlib.Data.List.Forall2
import Mathlib.Data.Nat.Digits.Defs
import Mathlib.Tactic.Ring
import TypedScript.Lexer.Basic

/-! A string literal is read as what has been written in it, however each of its characters has been
spelled. -/

namespace TypedScript

open Text

def smallDigits : List Char :=
  ['0', '1', '2', '3', '4', '5', '6', '7', '8', '9', 'a', 'b', 'c', 'd', 'e', 'f']

def capitalDigits : List Char :=
  ['0', '1', '2', '3', '4', '5', '6', '7', '8', '9', 'A', 'B', 'C', 'D', 'E', 'F']

def StandsForHex (value : Nat) (digit : Char) : Prop :=
  smallDigits[value]? = some digit ∨ capitalDigits[value]? = some digit

instance (value : Nat) (digit : Char) : Decidable (StandsForHex value digit) :=
  inferInstanceAs (Decidable (_ ∨ _))

theorem StandsForHex.hexValue? {value : Nat} {digit : Char} (h : StandsForHex value digit) :
    hexValue? digit = some value := by
  have read {digits : List Char} (all : digits.map Text.hexValue? = (List.range 16).map some)
      (stands : digits[value]? = some digit) : Text.hexValue? digit = some value := by
    have same : (digits.map Text.hexValue?)[value]? = ((List.range 16).map some)[value]? := by
      rw [all]
    rw [List.getElem?_map, List.getElem?_map, stands, Option.map_some] at same
    obtain ⟨_, at_value, is⟩ := Option.map_eq_some_iff.1 same.symm
    obtain ⟨_, rfl⟩ := List.getElem?_eq_some_iff.1 at_value
    rw [← is, List.getElem_range]
  exact h.elim (read (by decide)) (read (by decide))

/-- The digits, the highest first, stand for the number. -/
def SpellsHex (digits : List Char) (number : Nat) : Prop :=
  ∃ values, List.Forall₂ StandsForHex values digits ∧ Nat.ofDigits 16 values.reverse = number

namespace SpellsHex

variable {digits : List Char} {number : Nat}

theorem of_nil (h : SpellsHex [] number) : number = 0 := by
  obtain ⟨values, ⟨⟩, rfl⟩ := h
  rfl

theorem of_cons {digit : Char} (h : SpellsHex (digit :: digits) number) :
    ∃ value low, hexValue? digit = some value ∧ SpellsHex digits low ∧
      number = value * 16 ^ digits.length + low := by
  obtain ⟨values, all, rfl⟩ := h
  obtain _ | @⟨value, _, values, _, stands, all⟩ := all
  refine ⟨value, Nat.ofDigits 16 values.reverse, stands.hexValue?, ⟨values, all, rfl⟩, ?_⟩
  rw [List.reverse_cons, Nat.ofDigits_append, Nat.ofDigits_singleton, List.length_reverse,
    all.length_eq]
  ring

theorem hexDigits (h : SpellsHex digits number) (before : Nat) (rest : List Char) :
    Escape.hexDigits digits.length before (digits ++ rest) =
      some (before * 16 ^ digits.length + number) := by
  induction digits generalizing number before with
  | nil => simp [Escape.hexDigits, h.of_nil]
  | cons digit digits ih =>
    obtain ⟨value, low, stands, spells, rfl⟩ := h.of_cons
    simp only [List.length_cons, List.cons_append, Escape.hexDigits, stands, ih spells]
    ring_nf

theorem foldl (h : SpellsHex digits number) (before : Nat) :
    digits.foldl (fun value c => value * 16 + (hexValue? c).getD 0) before =
      before * 16 ^ digits.length + number := by
  induction digits generalizing number before with
  | nil => simp [h.of_nil]
  | cons digit digits ih =>
    obtain ⟨value, low, stands, spells, rfl⟩ := h.of_cons
    simp only [List.foldl_cons, List.length_cons, stands, Option.getD_some, ih spells]
    ring

theorem valueOfHex (h : SpellsHex digits number) : Escape.valueOfHex digits = number := by
  rw [Escape.valueOfHex, h.foldl, Nat.zero_mul, Nat.zero_add]

theorem hexRun (h : SpellsHex digits number) (rest : List Char) :
    Escape.hexRun (digits ++ '\x7d' :: rest) = digits := by
  induction digits generalizing number with
  | nil => rfl
  | cons digit digits ih =>
    obtain ⟨value, low, stands, spells, -⟩ := h.of_cons
    rw [Escape.hexRun, List.cons_append, List.takeWhile_cons_of_pos (by rw [stands]; rfl)]
    exact congrArg (digit :: ·) (ih spells)

end SpellsHex

theorem charOfCode?_toNat (c : Char) : charOfCode? c.toNat = some c := by
  have valid : c.toNat.isValidChar := c.valid
  rw [charOfCode?, dif_pos valid]
  rfl

namespace Escape

theorem fixed_spelled {digits : List Char} {c : Char} (h : SpellsHex digits c.toNat)
    (rest : List Char) :
    fixed digits.length (digits ++ rest) = { char := some c, length := digits.length } := by
  unfold fixed
  simp only [h.hexDigits, Nat.zero_mul, Nat.zero_add, charOfCode?_toNat]

theorem braced_spelled {digits : List Char} {c : Char} (ne : digits ≠ [])
    (h : SpellsHex digits c.toNat) (rest : List Char) :
    braced (digits ++ '\x7d' :: rest) = { char := some c, length := digits.length + 1 } := by
  have closed : (digits ++ '\x7d' :: rest)[digits.length]? = some '\x7d' := by simp
  have small : ¬0x10ffff < c.toNat := by
    have valid : c.toNat.isValidChar := c.valid
    unfold Nat.isValidChar at valid
    omega
  unfold braced
  simp only [h.hexRun, closed, h.valueOfHex, charOfCode?_toNat]
  simp [ne, small]

theorem unicode_spelled {digits : List Char} {c : Char} (length : digits.length = 4)
    (h : SpellsHex digits c.toNat) (rest : List Char) :
    unicode (digits ++ rest) = { char := some c, length := 4 } := by
  have read := fixed_spelled h rest
  rw [length] at read
  cases digits with
  | nil => cases length
  | cons digit digits =>
    obtain ⟨value, low, stands, -, -⟩ := h.of_cons
    rw [← read, List.cons_append, unicode]
    rintro _ ⟨⟩
    cases stands

/-- The escapes by a letter, with the characters that they stand for. -/
def letters : List (Char × Char) :=
  [('b', '\x08'), ('t', '\x09'), ('n', '\x0a'), ('v', '\x0b'), ('f', '\x0c'), ('r', '\x0d')]

/-- How a character is written as an escape with `behind` after it: by a letter, by a zero before
which no digit is left over, by itself where that is no other escape, or by its code. -/
inductive Spells : (c : Char) → (written behind : List Char) → Prop
  | letter {letter c : Char} {behind : List Char} : (letter, c) ∈ letters →
      Spells c [letter] behind
  | nul {behind : List Char} : behind.head?.any Char.isDigit = false → Spells '\x00' ['0'] behind
  | itself {c : Char} {behind : List Char} : c ∉ letters.map Prod.fst → c ≠ 'x' → c ≠ 'u' →
      (c = '0' → behind.head?.any Char.isDigit = true) → isLineBreak c = false →
      Spells c [c] behind
  | two {c : Char} {digits behind : List Char} : digits.length = 2 → SpellsHex digits c.toNat →
      Spells c ('x' :: digits) behind
  | four {c : Char} {digits behind : List Char} : digits.length = 4 → SpellsHex digits c.toNat →
      Spells c ('u' :: digits) behind
  | braced {c : Char} {digits behind : List Char} : digits ≠ [] → SpellsHex digits c.toNat →
      Spells c ('u' :: '\x7b' :: (digits ++ ['\x7d'])) behind

theorem Spells.inString {c : Char} {written behind : List Char} (h : Spells c written behind)
    (rest : List Char) (noDigit : rest.head?.any Char.isDigit = false) :
    inString (written ++ (behind ++ rest)) = { char := some c, length := written.length } := by
  have next : (behind ++ rest).head?.any isDigit = behind.head?.any Char.isDigit := by
    cases behind with
    | nil => exact noDigit
    | cons d behind => rfl
  cases h with
  | letter mem =>
    simp only [letters, List.mem_cons, Prod.mk.injEq, List.not_mem_nil, or_false] at mem
    rcases mem with ⟨rfl, rfl⟩ | ⟨rfl, rfl⟩ | ⟨rfl, rfl⟩ | ⟨rfl, rfl⟩ | ⟨rfl, rfl⟩ | ⟨rfl, rfl⟩ <;> rfl
  | nul alone =>
    simp only [List.singleton_append, Escape.inString, next, alone]
    rfl
  | itself noLetter noTwo noCode zero noBreak =>
    simp only [List.singleton_append, Escape.inString]
    split
    case h_1 => simp only [next, zero rfl, if_true, List.length_singleton]
    case h_8 => exact absurd rfl noTwo
    case h_9 => exact absurd rfl noCode
    case h_10 => cases noBreak
    case h_11 => simp [noBreak]
    all_goals exact absurd (by decide) noLetter
  | @two _ digits _ length spells =>
    have read := fixed_spelled spells (behind ++ rest)
    rw [length] at read
    simp only [List.cons_append, Escape.inString, read, List.length_cons, length]
  | @four _ digits _ length spells =>
    have read := unicode_spelled length spells (behind ++ rest)
    simp only [List.cons_append, Escape.inString, read, List.length_cons, length]
  | @braced _ digits _ ne spells =>
    have read := braced_spelled ne spells (behind ++ rest)
    simp only [List.cons_append, List.append_assoc, List.nil_append, Escape.inString, unicode, read,
      List.length_cons, List.length_append, List.length_nil]

end Escape

/-- What ends a line. Behind a backslash it continues the line, and stands for nothing. -/
def lineEnds : List (List Char) := [['\n'], ['\r'], ['\r', '\n'], ['\u2028'], ['\u2029']]

/-- How a value is written between two quotes: each character as it is, or as an escape, and lines
continued anywhere between them. -/
inductive Quoted (quote : Char) : (value written : List Char) → Prop
  | nil : Quoted quote [] []
  | raw {c : Char} {value written : List Char} : c ≠ quote → c ≠ '\\' → c ≠ '\r' → c ≠ '\n' →
      Quoted quote value written → Quoted quote (c :: value) (c :: written)
  | escape {c : Char} {spelling value written : List Char} : Escape.Spells c spelling written →
      Quoted quote value written → Quoted quote (c :: value) ('\\' :: (spelling ++ written))
  | continued {lineEnd value written : List Char} : lineEnd ∈ lineEnds →
      Quoted quote value written → Quoted quote value ('\\' :: (lineEnd ++ written))

theorem Escape.inString_lineEnd {lineEnd rest : List Char} (ends : lineEnd ∈ lineEnds)
    (noFeed : rest.head? ≠ some '\n') :
    inString (lineEnd ++ rest) = { length := lineEnd.length } := by
  simp only [lineEnds, List.mem_cons, List.not_mem_nil, or_false] at ends
  rcases ends with rfl | rfl | rfl | rfl | rfl
  case inr.inl => simp [inString, noFeed]
  all_goals rfl

theorem stringBody_skip (quote : Char) (offset : Nat) (taken rest : List Char) :
    stringBody quote taken.length offset (taken ++ rest) =
      let b := stringBody quote 0 (offset + taken.length) rest
      { b with length := b.length + taken.length } := by
  induction taken generalizing offset with
  | nil => rfl
  | cons c taken ih =>
    rw [List.length_cons, List.cons_append, stringBody, ih, Nat.add_right_comm]
    rfl

theorem stringBody_escape {quote : Char} (other : quote ≠ '\\') {offset : Nat}
    {written rest value : List Char} {char : Option Char} {length : Nat}
    (read : Escape.inString (written ++ rest) = { char, length := written.length })
    (body : stringBody quote 0 (offset + 1 + written.length) rest =
      { value, length, closed := true }) :
    stringBody quote 0 offset ('\\' :: (written ++ rest)) =
      { value := char.toList ++ value, length := length + written.length + 1, closed := true } := by
  have noQuote : ('\\' == quote) = false := beq_eq_false_iff_ne.2 other.symm
  rw [stringBody]
  simp only [noQuote, read, stringBody_skip, body]
  rfl

namespace Quoted

variable {quote : Char} {value written : List Char}

theorem head?_ne (h : Quoted quote value written) : written.head? ≠ some '\n' := by
  cases h with
  | nil => rintro ⟨⟩
  | raw _ _ _ noFeed _ => exact fun feed => noFeed (Option.some.inj feed)
  | escape => rintro ⟨⟩
  | continued => rintro ⟨⟩

theorem stringBody (h : Quoted quote value written) (quotes : quote = '\'' ∨ quote = '"')
    (offset : Nat) (rest : List Char) :
    stringBody quote 0 offset (written ++ quote :: rest) =
      { value, length := written.length + 1, closed := true } := by
  have plain : quote ≠ '\\' ∧ quote ≠ '\r' ∧ quote ≠ '\n' ∧ quote.isDigit = false := by
    rcases quotes with rfl | rfl <;> decide
  obtain ⟨noBackslash, noReturn, noFeed, noDigit⟩ := plain
  -- An escape may look at one character behind it, which is in `written` or the closing quote.
  induction h generalizing offset with
  | nil => simp [TypedScript.stringBody, noReturn, noFeed]
  | @raw c value written noQuote noEscape noReturn noFeed _ ih =>
    simp [TypedScript.stringBody, noQuote, noEscape, noReturn, noFeed, ih, Body.cons]
  | @escape c spelling value written spells _ ih =>
    rw [List.cons_append, List.append_assoc,
      stringBody_escape noBackslash (spells.inString (quote :: rest) noDigit) (ih _)]
    simp only [List.length_cons, List.length_append, Option.toList_some, List.singleton_append]
    congr 1
    omega
  | @continued lineEnd value written ends quoted ih =>
    have next : (written ++ quote :: rest).head? ≠ some '\n' := by
      cases written with
      | nil => exact fun feed => noFeed (Option.some.inj feed)
      | cons c written => exact quoted.head?_ne
    rw [List.cons_append, List.append_assoc,
      stringBody_escape noBackslash (Escape.inString_lineEnd ends next) (ih _)]
    simp only [List.length_cons, List.length_append, Option.toList_none, List.nil_append]
    congr 1
    omega

end Quoted

namespace Lexer

variable {quote : Char} {value written rest : List Char}

theorem lexemeAt_quoted (frame : Frame) (quotes : quote = '\'' ∨ quote = '"')
    (h : Quoted quote value written) (rest : List Char) :
    lexemeAt frame (quote :: (written ++ quote :: rest)) =
      { kind := .stringLiteral
        length := written.length + 2
        value := String.ofList value
        flags := { singleQuoted := quote == '\'' } } := by
  have isQuote : (quote == '\'' || quote == '"') = true := by simpa using quotes
  rw [lexemeAt, readToken, if_pos isQuote, readString, h.stringBody quotes]
  rfl

theorem skipTrivia_quote {l : Lexer} {chars : List Char} (quotes : quote = '\'' ∨ quote = '"')
    (ahead : l.cursor.rest = quote :: chars) :
    l.skipTrivia.1.cursor = l.cursor ∧ l.skipTrivia.1.error = l.error ∧
      l.skipTrivia.2 = false := by
  have here : Trivia.read l.cursor.offset l.cursor.rest = { stop := l.cursor.offset } := by
    rw [ahead]
    rcases quotes with rfl | rfl <;> rfl
  refine ⟨?_, ?_, ?_⟩
  · rw [skipTrivia, here, Nat.sub_self]
    exact Cursor.ext rfl rfl
  · rw [skipTrivia, here]
    change (l.error <|> none) = l.error
    cases l.error <;> rfl
  · rw [skipTrivia, here]

theorem accept_quoted (l : Lexer) (frame : Frame) (quotes : quote = '\'' ∨ quote = '"')
    (h : Quoted quote value written) (ahead : l.cursor.rest = quote :: (written ++ quote :: rest)) :
    let x := lexemeAt frame l.cursor.rest
    let m := l.accept l.cursor x x.value {}
    (m.token.kind = .stringLiteral ∧ m.token.value = String.ofList value) ∧
      (m.token.start = l.offset ∧ m.token.stop = l.offset + written.length + 2 ∧
        m.cursor.rest = rest) ∧
      m.token.flags = { singleQuoted := quote == '\'' } ∧ m.error = l.error := by
  have behind : l.cursor.rest.drop (written.length + 2) = rest := by
    rw [ahead, List.drop_succ_cons, List.drop_append, List.drop_eq_nil_of_le (Nat.le_succ _)]
    simp
  have read := lexemeAt_quoted frame quotes h rest
  rw [← ahead] at read
  simp only [read]
  refine ⟨⟨rfl, rfl⟩, ⟨rfl, rfl, behind⟩, ?_, ?_⟩
  · simp [accept, locate, TokenFlags.union]
  · change (l.error <|> none) = l.error
    cases l.error <;> rfl

/-- A string is one token, up to its closing quote, whatever is ahead behind that: its value is what
has been written, and there is nothing wrong with it. -/
theorem scan_quoted (l : Lexer) (quotes : quote = '\'' ∨ quote = '"')
    (h : Quoted quote value written) (ahead : l.cursor.rest = quote :: (written ++ quote :: rest)) :
    let t := l.scan.token
    (t.kind = .stringLiteral ∧ t.value = String.ofList value) ∧
      (t.start = l.offset ∧ t.stop = l.offset + written.length + 2 ∧ l.scan.cursor.rest = rest) ∧
      t.flags = { singleQuoted := quote == '\'' } ∧ l.scan.error = l.error := by
  unfold scan
  dsimp only
  split
  · exact l.accept_quoted _ quotes h ahead
  · obtain ⟨cursor, error, lineBreak⟩ := skipTrivia_quote quotes ahead
    have offset : l.skipTrivia.1.offset = l.offset := congrArg Cursor.offset cursor
    rw [lineBreak, ← error, ← offset]
    exact l.skipTrivia.1.accept_quoted _ quotes h (cursor ▸ ahead)

theorem scan_quoted_continued :
    let value := ['😀', '\'', '\x00', '0', '1']
    let written := ['\\', 'u', '\x7b', '0', '0', '1', 'f', '6', '0', '0', '\x7d', '\\', '\'', '\\', '0',
      '\\', '\r', '\n', '\\', '0', '1']
    let l := ofText ('\'' :: (written ++ '\'' :: ['1', '\'']))
    let t := l.scan.token
    (Quoted '\'' value written ∧ l.cursor.rest = '\'' :: (written ++ '\'' :: ['1', '\''])) ∧
      (t.kind = .stringLiteral ∧ t.value = String.ofList value) ∧
      (t.start = 0 ∧ t.stop = 23 ∧ l.scan.cursor.rest = ['1', '\'']) ∧
      t.flags = { singleQuoted := true } ∧ l.scan.error = none := by
  intro value written l t
  have code : SpellsHex ['0', '0', '1', 'f', '6', '0', '0'] '😀'.toNat :=
    ⟨[0, 0, 1, 15, 6, 0, 0], by decide, by decide⟩
  have zero : Escape.Spells '0' ['0'] ['1'] :=
    .itself (by decide) (by decide) (by decide) (fun _ => rfl) rfl
  have digits : Quoted '\'' ['0', '1'] ['\\', '0', '1'] :=
    .escape zero (.raw (by decide) (by decide) (by decide) (by decide) .nil)
  have ends : ['\r', '\n'] ∈ lineEnds := by decide
  have continued := Quoted.continued ends digits
  have null := Quoted.escape (.nul rfl) continued
  have mark (behind : List Char) : Escape.Spells '\'' ['\''] behind :=
    .itself (by decide) (by decide) (by decide) (fun zero => nomatch zero) rfl
  have quoted : Quoted '\'' value written :=
    .escape (.braced (List.cons_ne_nil _ _) code) (.escape (mark _) null)
  exact ⟨⟨quoted, rfl⟩, scan_quoted l (.inl rfl) quoted rfl⟩

end Lexer

end TypedScript
