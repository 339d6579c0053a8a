import TypedScript.Proofs.Lexer.Escapes

/-! A name is the same name whichever of its characters are written as escapes. What it is written with
decides whether it may be a keyword. -/

namespace TypedScript

open Text

/-- A character starts a name, and whatever follows it goes on with one. -/
def IsName (name : List Char) : Prop :=
  ∃ c others, name = c :: others ∧ isNameStart c = true ∧ ∀ d ∈ others, isNamePart d = true

/-- How a character of a name is written, and whether that is as an escape. -/
inductive SpellsLetter (c : Char) : (written : List Char) → (escaped : Bool) → Prop
  | itself : SpellsLetter c [c] false
  | escape {code : List Char} : Escape.Coded c.toNat ('u' :: code) →
      SpellsLetter c ('\\' :: 'u' :: code) true

/-- How a name is written, and whether any of its characters is as an escape. -/
inductive SpellsName : (name written : List Char) → (escaped : Bool) → Prop
  | nil : SpellsName [] [] false
  | cons {c : Char} {name letter written : List Char} {escaped others : Bool} :
      SpellsLetter c letter escaped → SpellsName name written others →
      SpellsName (c :: name) (letter ++ written) (escaped || others)

/-- No name is continued by the characters, neither by the first of them nor by an escape. -/
structure EndsName (rest : List Char) : Prop where
  part : ∀ c ∈ rest.head?, isNamePart c = false
  escape : ¬['\\', 'u'] <+: rest

theorem IsName.ne_nil {name : List Char} (h : IsName name) : name ≠ [] := by
  obtain ⟨c, others, rfl, -⟩ := h
  exact List.cons_ne_nil c others

theorem Escape.Coded.unicode {c : Char} {code : List Char} (h : Coded c.toNat ('u' :: code))
    (rest : List Char) :
    Escape.unicode (code ++ rest) = { char := some c, length := code.length } := by
  cases h with
  | four length spells => rw [unicode_spelled length spells, length]
  | braced some spells _ =>
    have read := braced_spelled some spells rest
    simp only [List.cons_append, List.append_assoc, List.nil_append, Escape.unicode, read,
      List.length_cons, List.length_append, List.length_nil]

theorem readLetters_skip (first : Bool) (offset : Nat) (taken rest : List Char) :
    readLetters first taken.length offset (taken ++ rest) =
      let w := readLetters first 0 (offset + taken.length) rest
      { w with length := w.length + taken.length } := by
  induction taken generalizing offset with
  | nil => rfl
  | cons c taken ih =>
    rw [List.length_cons, List.cons_append, readLetters, ih, Nat.add_right_comm, Nat.add_assoc]
    rfl

theorem SpellsLetter.readLetters {c : Char} {written : List Char} {escaped first : Bool}
    (h : SpellsLetter c written escaped) (fits : fitsName first c = true) (offset : Nat)
    (rest : List Char) :
    readLetters first 0 offset (written ++ rest) =
      let w := TypedScript.readLetters false 0 (offset + written.length) rest
      { w with
        chars := c :: w.chars
        length := w.length + written.length
        escaped := escaped || w.escaped } := by
  cases h with
  | itself =>
    have part : isNamePart c = true := by
      cases first with
      | true => exact isNamePart_of_isNameStart fits
      | false => exact fits
    have plain : ¬(c == '\\' && rest.head? == some 'u') = true := by
      rw [beq_of_class part '\\' (by decide +kernel)]
      exact Bool.false_ne_true
    rw [List.singleton_append, TypedScript.readLetters, if_neg plain, if_pos fits]
    rfl
  | @escape code coded =>
    have known : (some c).filter (fitsName first) = some c := by rw [Option.filter_some, if_pos fits]
    have skip := readLetters_skip false (offset + 1) ('u' :: code) rest
    rw [List.cons_append, List.cons_append, readLetters_escape, coded.unicode, known]
    dsimp only
    rw [← List.length_cons, ← List.cons_append, skip]
    simp only [List.length_cons, Nat.add_assoc, Nat.add_comm 1, Bool.true_or]

theorem SpellsName.readLetters {name written rest : List Char} {escaped : Bool}
    (h : SpellsName name written escaped) (ends : EndsName rest) {first : Bool}
    (fits : ∀ c ∈ name.head?, fitsName first c = true)
    (parts : ∀ c ∈ name.tail, isNamePart c = true) (offset : Nat) :
    TypedScript.readLetters first 0 offset (written ++ rest) =
      { chars := name, length := written.length, escaped } := by
  induction h generalizing first offset with
  | nil =>
    cases rest with
    | nil => rfl
    | cons c rest =>
      have other : fitsName first c = false := by
        have none := ends.part c rfl
        cases first with
        | true => exact Bool.eq_false_iff.2 fun start => by simp [isNamePart_of_isNameStart start] at none
        | false => exact none
      have plain : ¬(c == '\\' && rest.head? == some 'u') = true := by
        intro escape
        obtain ⟨rfl, u⟩ : c = '\\' ∧ rest.head? = some 'u' := by simpa using escape
        obtain ⟨tail, rfl⟩ := List.head?_eq_some_iff.1 u
        exact ends.escape ⟨tail, rfl⟩
      rw [List.nil_append, TypedScript.readLetters, if_neg plain, if_neg (by simp [other])]
      rfl
  | @cons c name letter written escaped others spells named ih =>
    have continues : TypedScript.readLetters false 0 (offset + letter.length) (written ++ rest) =
        { chars := name, length := written.length, escaped := others } :=
      @ih false (fun d first => parts d (List.mem_of_mem_head? first))
        (fun d mem => parts d (List.mem_of_mem_tail mem)) _
    rw [List.append_assoc, spells.readLetters (fits c rfl), continues]
    simp only [List.length_append, Nat.add_comm]

theorem IsName.readLetters {name written rest : List Char} {escaped : Bool} (isName : IsName name)
    (h : SpellsName name written escaped) (ends : EndsName rest) (offset : Nat) :
    TypedScript.readLetters true 0 offset (written ++ rest) =
      { chars := name, length := written.length, escaped } := by
  obtain ⟨c, others, rfl, start, parts⟩ := isName
  refine h.readLetters ends ?_ parts offset
  rintro _ ⟨⟩
  exact start

theorem SpellsName.starts {name written : List Char} {escaped : Bool} (isName : IsName name)
    (h : SpellsName name written escaped) (rest : List Char) :
    ∃ c others, written ++ rest = c :: others ∧ StartsName c others := by
  obtain ⟨c, others, rfl, start, -⟩ := isName
  cases h with
  | cons spells _ =>
    cases spells with
    | itself => exact ⟨c, _, rfl, .inl start⟩
    | escape _ => exact ⟨'\\', _, rfl, .inr ⟨rfl, rfl⟩⟩

/-- What token a word makes: any name if it has been written with an escape, and otherwise a keyword if
it is reserved, or else a name that may be a soft keyword. -/
structure Token.IsWord (t : Token) (word : String) (escaped : Bool) : Prop where
  value : t.value = word
  byEscape : escaped = true → t.kind = .identifier ∧ t.soft = none
  reserved : escaped = false → ∀ k ∈ Kind.reserved, k.text? = some word → t.kind = k ∧ t.soft = none
  unreserved : escaped = false → (∀ k ∈ Kind.reserved, k.text? ≠ some word) →
    t.kind = .identifier ∧ ∀ soft, t.soft = some soft ↔ soft.text = word

/-- The current token has been read where the lexer was, as all that is written there up to what comes
next, and nothing is wrong with it. -/
structure Lexer.Takes (l m : Lexer) (written rest : List Char) (escaped : Bool) : Prop where
  start : m.token.start = l.offset
  stop : m.token.stop = l.offset + written.length
  rest : m.cursor.rest = rest
  flags : m.token.flags = { escaped }
  error : m.error = l.error

theorem Kind.ofReserved_of_text {k : Kind} {word : String} (mem : k ∈ reserved)
    (spelled : k.text? = some word) : ofReserved? word = some k := by
  have all : ∀ k ∈ reserved, k.text?.bind ofReserved? = some k := by decide +kernel
  rw [← all k mem, spelled, Option.bind_some]

theorem SoftKeyword.ofText?_eq_some {word : String} {soft : SoftKeyword} :
    ofText? word = some soft ↔ soft.text = word := by
  constructor
  · exact fun h => beq_iff_eq.1 (List.find?_some (p := fun k => text k == word) h)
  · rintro rfl
    exact ofText?_text soft

namespace Lexer

variable {l : Lexer} {written rest : List Char} {kind : Kind} {value : String} {escaped : Bool}

theorem accept_takes (ahead : l.cursor.rest = written ++ rest) :
    l.Takes (l.accept l.cursor { kind, length := written.length, value, flags := { escaped } } value {})
      written rest escaped where
  start := rfl
  stop := rfl
  rest := by
    change l.cursor.rest.drop written.length = rest
    rw [ahead, List.drop_left]
  flags := by simp [accept, locate, TokenFlags.union]
  error := by
    change (l.error <|> none) = l.error
    cases l.error <;> rfl

theorem accept_isWord (c : Cursor) (length : Nat)
    (is : kind = if escaped then .identifier else (Kind.ofReserved? value).getD .identifier) :
    (l.accept c { kind, length, value, flags := { escaped } } value {}).token.IsWord value escaped := by
  have soft : (l.accept c { kind, length, value, flags := { escaped } } value {}).token.soft =
      if kind == .identifier && !escaped then SoftKeyword.ofText? value else none := by
    simp [accept, locate, TokenFlags.union]
  refine ⟨rfl, ?_, ?_, ?_⟩
  · rintro rfl
    rw [soft, is]
    exact ⟨rfl, rfl⟩
  · rintro rfl k mem spelled
    rw [Kind.ofReserved_of_text mem spelled] at is
    have other : k ≠ .identifier := by
      rintro rfl
      exact absurd mem (by decide)
    rw [soft, show kind = k from is]
    exact ⟨rfl, by simp [other]⟩
  · rintro rfl none
    have unreserved : Kind.ofReserved? value = Option.none :=
      List.find?_eq_none.2 fun k mem => by simpa using none k mem
    rw [unreserved] at is
    rw [soft, show kind = .identifier from is]
    exact ⟨rfl, fun word => SoftKeyword.ofText?_eq_some⟩

/-- However a name is written, up to characters that do not continue it, it is one token, and so it is
behind a hash. Only a name that is written without an escape may be a keyword, be it a soft one. -/
theorem scan_spelled (l : Lexer) {name : List Char} (isName : IsName name)
    (h : SpellsName name written escaped) (ends : EndsName rest) :
    (l.cursor.rest = written ++ rest → l.Takes l.scan written rest escaped ∧
      l.scan.token.IsWord (String.ofList name) escaped) ∧
    (l.cursor.rest = '#' :: (written ++ rest) → l.Takes l.scan ('#' :: written) rest escaped ∧
      l.scan.token.kind = .privateIdentifier ∧
      l.scan.token.value = String.ofList ('#' :: name)) := by
  constructor
  · intro ahead
    obtain ⟨c, others, written_eq, starts⟩ := h.starts isName rest
    have word : readWord (written ++ rest) =
        { kind := if escaped then .identifier
            else (Kind.ofReserved? (String.ofList name)).getD .identifier
          length := written.length
          value := String.ofList name
          flags := { escaped } } := by
      rw [readWord, isName.readLetters h ends]
      simp [isName.ne_nil]
    have read := Respelling.scan_name (ahead.trans written_eq) starts
    rw [← written_eq, word] at read
    rw [read]
    exact ⟨accept_takes ahead, accept_isWord _ _ rfl⟩
  · intro ahead
    have name : lexemeAt l.frames.current l.cursor.rest =
        { kind := .privateIdentifier
          length := ('#' :: written).length
          value := String.ofList ('#' :: name)
          flags := { escaped } } := by
      rw [ahead, lexemeAt, readToken, if_neg (by decide), if_neg (by decide), if_pos (by decide),
        readPrivateName, isName.readLetters h ends]
      simp [isName.ne_nil]
    have read := scan_here (l := l) (by rw [ahead]; rfl)
    rw [name] at read
    rw [read]
    have hashed : l.cursor.rest = ('#' :: written) ++ rest := ahead
    exact ⟨accept_takes hashed, rfl, rfl⟩

theorem scan_spelled_reserved :
    let name := "class".toList
    let written := "\\u0063la\\u\x7b73\x7ds".toList
    let l := ofText (written ++ ['*'])
    let m := ofText ('#' :: (written ++ ['*']))
    (IsName name ∧ SpellsName name written true ∧ EndsName ['*']) ∧
      (Kind.classKeyword ∈ Kind.reserved ∧ l.Takes l.scan written ['*'] true ∧
        l.scan.token.kind = .identifier ∧ l.scan.token.value = "class") ∧
      m.scan.token.kind = .privateIdentifier ∧ m.scan.token.value = "#class" := by
  intro name written l m
  have parts : ∀ d ∈ "lass".toList, isNamePart d = true := List.all_eq_true.1 (by decide +kernel)
  have isName : IsName name := ⟨'c', "lass".toList, by decide, by decide +kernel, parts⟩
  have four : Escape.Coded 'c'.toNat ['u', '0', '0', '6', '3'] :=
    .four rfl ⟨[0, 0, 6, 3], by decide, by decide⟩
  have digits : SpellsHex ['7', '3'] 's'.toNat := ⟨[7, 3], by decide, by decide⟩
  have braced : Escape.Coded 's'.toNat ['u', '\x7b', '7', '3', '\x7d'] :=
    .braced (by decide) digits (by decide)
  have spells : SpellsName name written true :=
    .cons (.escape four) (.cons .itself (.cons .itself (.cons (.escape braced) (.cons .itself .nil))))
  have last : isNamePart '*' = false := by decide +kernel
  have ends : EndsName ['*'] := ⟨fun _ is => Option.some.inj is ▸ last, by decide⟩
  obtain ⟨takes, word⟩ := (scan_spelled l isName spells ends).1 (by decide +kernel)
  obtain ⟨-, kind, value⟩ := (scan_spelled m isName spells ends).2 (by decide +kernel)
  exact ⟨⟨isName, spells, ends⟩, ⟨by decide, takes, (word.byEscape rfl).1, word.value⟩, kind, value⟩

end Lexer

end TypedScript
