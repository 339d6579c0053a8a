import TypedScript.Proofs.Lexer.LongestMatch
import TypedScript.Proofs.Lexer.Names
import TypedScript.Proofs.Lexer.Peeking

/-! A soft keyword is found in text that has not been read if and only if it would be read there, as
the whole of a word that no backslash follows. -/

namespace TypedScript

open Text

namespace SoftKeyword

theorem isName (k : SoftKeyword) : IsName k.text.toList := by
  obtain ⟨c, others, text, start⟩ := k.starts
  have parts := k.parts
  rw [text] at parts ⊢
  exact ⟨c, others, rfl, start, fun d mem => parts d (.tail c mem)⟩

theorem unreserved (k : SoftKeyword) : Kind.ofReserved? k.text = none := by cases k <;> decide

end SoftKeyword

theorem SpellsName.itself (name : List Char) : SpellsName name name false := by
  induction name with
  | nil => exact .nil
  | cons c name ih => exact .cons .itself ih

structure EndsWord (rest : List Char) : Prop where
  part : ∀ c ∈ rest.head?, isNamePart c = false
  backslash : rest.head? ≠ some '\\'

theorem EndsWord.endsName {rest : List Char} (h : EndsWord rest) : EndsName rest where
  part := h.part
  escape := by
    rintro ⟨tail, rfl⟩
    exact h.backslash rfl

theorem readLetters_stops (first : Bool) (offset : Nat) (chars : List Char)
    (unescaped : (readLetters first 0 offset chars).escaped = false)
    (plain : (readLetters first 0 offset chars).length = (readLetters first 0 offset chars).chars.length)
    (taken : (readLetters first 0 offset chars).chars ≠ [] ∨ first = false) :
    ∀ c ∈ (chars.drop (readLetters first 0 offset chars).length).head?, isNamePart c = false := by
  induction chars generalizing first offset with
  | nil => nofun
  | cons c rest ih =>
    unfold readLetters at unescaped plain taken ⊢
    by_cases escape : (c == '\\' && rest.head? == some 'u') = true
    · -- An escape is taken as a letter, which is none written as itself, or makes the word longer.
      simp only [escape, ↓reduceIte] at unescaped plain
      split at unescaped
      · cases unescaped
      · rename_i noLetter
        simp only [noLetter, List.length_nil] at plain
        omega
    · simp only [escape, Bool.false_eq_true, ↓reduceIte] at unescaped plain taken ⊢
      by_cases fits : fitsName first c = true
      · simp only [fits, ↓reduceIte, List.length_cons, Nat.add_right_cancel_iff] at unescaped plain ⊢
        exact ih false (offset + 1) unescaped plain (.inr rfl)
      · simp only [fits, Bool.false_eq_true, ↓reduceIte] at taken ⊢
        obtain rfl : first = false := taken.resolve_left fun none => none rfl
        rintro d ⟨⟩
        exact Bool.eq_false_iff.2 fits

theorem BreaksOff.take_ne {chars word : List Char} {length : Nat} (h : BreaksOff chars word length) :
    chars.take length ≠ word := by
  obtain ⟨tail, rfl, -, rfl⟩ := h
  intro taken
  have long := congrArg List.length taken
  simp only [List.length_take, List.length_append, List.length_cons] at long
  omega

theorem readNumber_notName (chars : List Char) : (readNumber chars).kind ≠ .identifier := by
  unfold readNumber
  dsimp only
  split <;> nofun

structure Lexeme.IsSoft (x : Lexeme) (word : SoftKeyword) : Prop where
  kind : x.kind = .identifier
  unescaped : x.flags.escaped = false
  value : x.value = word.text

namespace SoftKeyword

variable {k : SoftKeyword}

theorem lexemeAt_text (f : Frame) {rest : List Char} (ends : EndsName rest) :
    Lexer.lexemeAt f (k.text.toList ++ rest) =
      { kind := .identifier, length := k.text.length, value := k.text } := by
  have spells : SpellsName k.text.toList k.text.toList false := .itself _
  obtain ⟨c, others, written, starts⟩ := spells.starts k.isName rest
  have word : readWord (k.text.toList ++ rest) =
      { kind := .identifier, length := k.text.length, value := k.text } := by
    rw [readWord, k.isName.readLetters spells ends]
    simp [k.isName.ne_nil, k.unreserved, String.length_toList]
  rw [written] at word ⊢
  exact (starts.readToken f.splitsAngles).trans word

theorem readWord_soft {chars : List Char} (soft : (readWord chars).IsSoft k) :
    let x := readWord chars
    (∃ rest, chars = k.text.toList ++ rest ∧ x.length = k.text.length ∧
        ∀ c ∈ rest.head?, isNamePart c = false) ∨
      BreaksOff chars k.text.toList x.length ∧ x.complaint ≠ none := by
  obtain ⟨-, unescaped, value⟩ := soft
  have letters : (readLetters true 0 0 chars).chars = k.text.toList := by
    rw [← value]
    exact String.toList_ofList.symm
  have taken : (readLetters true 0 0 chars).chars ≠ [] := by
    rw [letters]
    exact k.isName.ne_nil
  change (∃ rest, _ ∧ (readLetters true 0 0 chars).length = _ ∧ _) ∨
    BreaksOff _ _ (readLetters true 0 0 chars).length ∧ (readLetters true 0 0 chars).complaint ≠ none
  rcases readLetters_unescaped true 0 chars unescaped with plain | ⟨breaks, complains⟩
  · left
    obtain ⟨rest, written⟩ := readLetters_isPrefix true 0 chars unescaped
    have stops := readLetters_stops true 0 chars unescaped plain (.inl taken)
    rw [plain, letters] at stops
    rw [letters] at written plain
    rw [← written, List.drop_left] at stops
    exact ⟨rest, written.symm, plain, stops⟩
  · exact .inr ⟨letters ▸ breaks (.inl taken), complains⟩

end SoftKeyword

namespace Lexer

theorem lexemeAt_name {f : Frame} {chars : List Char} (named : (lexemeAt f chars).kind = .identifier) :
    lexemeAt f chars = readWord chars := by
  cases chars with
  | nil => cases named
  | cons c rest =>
    unfold lexemeAt readToken at named ⊢
    dsimp only at named ⊢
    split at named
    · cases named
    split at named
    · unfold readChunk at named
      dsimp only at named
      split at named <;> cases named
    split at named
    · unfold readPrivateName at named
      dsimp only at named
      split at named <;> cases named
    split at named
    · exact absurd named (readNumber_notName _)
    split at named
    · rename_i noString noChunk noName noNumber isWord
      rw [if_neg noString, if_neg noChunk, if_neg noName, if_neg noNumber, if_pos isWord]
    · split at named
      · rename_i kind length read
        have fits : Punctuation.Fits c rest (kind, length) := by
          split at read
          · exact Punctuation.readSplit?_fits read
          · exact Punctuation.read?_fits read
        obtain rfl : kind = .identifier := named
        cases fits.text
      · cases named

variable (l : Lexer)

/-- Reads the token that is next from `offset` on, outside of types and templates. -/
def scanAt (offset : Nat) : Lexer :=
  ({ l with cursor := l.cursor.seek offset, frames := {} } : Lexer).scan

theorem scanAt_spec (offset : Nat) :
    let x := lexemeAt .statement (l.text.drop (l.afterTrivia offset))
    let m := l.scanAt offset
    (m.token.start = l.afterTrivia offset ∧ m.token.stop = l.afterTrivia offset + x.length) ∧
      (∀ k, m.token.soft = some k ↔ x.IsSoft k) ∧ (x.complaint ≠ none → m.error ≠ none) := by
  let there : Lexer := { l with cursor := l.cursor.seek offset, frames := {} }
  have start : there.skipTrivia.1.offset = l.afterTrivia offset := there.skipTrivia_measured.1
  have rest : there.skipTrivia.1.cursor.rest = l.text.drop (l.afterTrivia offset) :=
    start ▸ there.skipTrivia.1.cursor.rest_eq
  have read : l.scanAt offset = _ := scan_eq (l := there) rfl
  rw [rest] at read
  intro x m
  have soft : m.token.soft =
      if x.kind == .identifier && !x.flags.escaped then SoftKeyword.ofText? x.value else none := by
    simp only [m, read, accept, locate, TokenFlags.union]
    rfl
  refine ⟨?_, fun k => ?_, ?_⟩
  · simp only [m, read]
    exact ⟨start, congrArg (· + x.length) start⟩
  · rw [soft, Option.ite_none_right_eq_some, SoftKeyword.ofText?_eq_some]
    simp only [Bool.and_eq_true, beq_iff_eq, Bool.not_eq_eq_eq_not, Bool.not_true]
    constructor
    · rintro ⟨⟨kind, unescaped⟩, value⟩
      exact ⟨kind, unescaped, value.symm⟩
    · intro soft
      exact ⟨⟨soft.kind, soft.unescaped⟩, soft.value.symm⟩
  · intro complains
    simp only [m, read]
    exact accept_complains _ complains

theorem slice_eq_iff {start length : Nat} {word : String} :
    l.slice start (start + length) = word ↔ (l.text.drop start).take length = word.toList := by
  rw [← String.toList_inj, slice_toList]

theorem charAt?_add (start length : Nat) :
    l.charAt? (start + length) = ((l.text.drop start).drop length).head? := by
  rw [List.drop_drop, List.head?_drop]
  rfl

theorem spells_iff (offset : Nat) (word : String) :
    l.spells offset word = true ↔
      ∃ rest, l.text.drop (l.afterTrivia offset) = word.toList ++ rest ∧ EndsWord rest := by
  unfold spells
  dsimp only
  generalize l.text.drop (l.afterTrivia offset) = chars
  rw [Bool.and_eq_true, List.isPrefixOf_iff_prefix]
  constructor
  · rintro ⟨⟨rest, rfl⟩, ends⟩
    rw [← String.length_toList, List.drop_left] at ends
    refine ⟨rest, rfl, fun c first => ?_, fun backslash => ?_⟩
    · rw [Option.mem_def.1 first] at ends
      simp_all
    · rw [backslash] at ends
      cases ends
  · rintro ⟨rest, rfl, ends⟩
    rw [← String.length_toList, List.drop_left]
    refine ⟨List.prefix_append _ _, ?_⟩
    cases rest with
    | nil => rfl
    | cons c rest =>
      have part : isNamePart c = false := ends.part c rfl
      have other : c ≠ '\\' := fun backslash => ends.backslash (congrArg some backslash)
      simp [part, other]

/-- Looking for a soft keyword in the text agrees with reading on: it is found if and only if the token
that is read there may be that word, is written with its letters alone, and has no backslash behind it.
The token of a soft keyword is always written with its letters alone, unless an escape that has no place
in a name breaks it off, and that is an error. -/
theorem spells_soft (offset : Nat) (k : SoftKeyword) :
    let m := l.scanAt offset
    let t := m.token
    (l.spells offset k.text = true ↔
      t.soft = some k ∧ l.charAt? t.stop ≠ some '\\' ∧ l.slice t.start t.stop = k.text) ∧
    (t.soft = some k → l.slice t.start t.stop = k.text ∨
      BreaksOff (l.text.drop t.start) k.text.toList (t.stop - t.start) ∧ m.error ≠ none) := by
  obtain ⟨⟨start, stop⟩, soft, complains⟩ := l.scanAt_spec offset
  dsimp only at start stop soft complains ⊢
  rw [start, stop, soft, spells_iff, slice_eq_iff, charAt?_add, Nat.add_sub_cancel_left]
  generalize l.text.drop (l.afterTrivia offset) = chars at complains ⊢
  refine ⟨⟨?_, ?_⟩, ?_⟩
  · rintro ⟨rest, rfl, ends⟩
    rw [SoftKeyword.lexemeAt_text .statement ends.endsName]
    dsimp only
    rw [← String.length_toList, List.drop_left, List.take_left]
    exact ⟨⟨rfl, rfl, rfl⟩, ends.backslash, rfl⟩
  · rintro ⟨isSoft, noBackslash, taken⟩
    have word := lexemeAt_name isSoft.kind
    rw [word] at isSoft noBackslash taken
    rcases SoftKeyword.readWord_soft isSoft with ⟨rest, rfl, length, stops⟩ | ⟨breaks, -⟩
    · rw [length, ← String.length_toList, List.drop_left] at noBackslash
      exact ⟨rest, rfl, stops, noBackslash⟩
    · exact absurd taken breaks.take_ne
  · intro isSoft
    have word := lexemeAt_name isSoft.kind
    rw [word] at isSoft complains ⊢
    rcases SoftKeyword.readWord_soft isSoft with ⟨rest, rfl, length, -⟩ | ⟨breaks, complained⟩
    · left
      rw [length, ← String.length_toList, List.take_left]
    · exact .inr ⟨breaks, complains complained⟩

theorem spells_soft_words :
    let l := ofText "/* a */ type<type\\ types".toList
    let k := SoftKeyword.typeWord
    (l.spells 0 k.text = true ∧ (l.scanAt 0).token.soft = some k ∧
        l.slice (l.scanAt 0).token.start (l.scanAt 0).token.stop = k.text) ∧
      ((l.scanAt 13).token.soft = some k ∧ l.spells 13 k.text = false) ∧
      l.spells 18 k.text = false ∧ (l.scanAt 18).token.soft ≠ some k := by
  intro l k
  have found : l.spells 0 k.text = true := by decide +kernel
  have backslash : (l.scanAt 13).token.soft = some k ∧
      l.charAt? (l.scanAt 13).token.stop = some '\\' := by
    decide +kernel
  have longer : l.slice (l.scanAt 18).token.start (l.scanAt 18).token.stop = "types" ∧
      (l.scanAt 18).error = none := by
    decide +kernel
  obtain ⟨soft, -, written⟩ := (spells_soft l 0 k).1.1 found
  refine ⟨⟨found, soft, written⟩, ⟨backslash.1, ?_⟩, ?_, ?_⟩
  · exact Bool.eq_false_iff.2 fun found => ((spells_soft l 13 k).1.1 found).2.1 backslash.2
  · refine Bool.eq_false_iff.2 fun found => ?_
    have written := ((spells_soft l 18 k).1.1 found).2.2
    exact absurd (longer.1.symm.trans written) (by decide)
  · intro soft
    rcases (spells_soft l 18 k).2 soft with written | ⟨-, wrong⟩
    · exact absurd (longer.1.symm.trans written) (by decide)
    · exact wrong longer.2

/-- The token of a soft keyword takes in an escape that breaks it off. -/
theorem spells_soft_differs : ¬∀ (l : Lexer) (offset : Nat) (k : SoftKeyword), offset ≤ l.text.length →
    (l.spells offset k.text = true ↔ (l.scanAt offset).token.soft = some k ∧
      l.charAt? (l.scanAt offset).token.stop ≠ some '\\') := by
  intro same
  let l := ofText "type\\u0020".toList
  have read : (l.scanAt 0).token.soft = some .typeWord ∧
      l.charAt? (l.scanAt 0).token.stop ≠ some '\\' := by
    decide +kernel
  have found : l.spells 0 "type" = true := (same l 0 .typeWord (Nat.zero_le _)).2 read
  exact absurd found (by decide +kernel)

end Lexer

end TypedScript
