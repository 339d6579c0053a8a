import TypedScript.Proofs.Lexer.Reading

/-! Literals as they are scanned: the stretches of templates, and regular expressions. What a backslash
escapes neither ends them nor opens anything in them. -/

namespace TypedScript

open Text

/-- Whether what comes next is escaped: the characters end with a backslash that is not itself
escaped. -/
def endsEscaping (chars : List Char) : Bool :=
  chars.foldl (fun escaped c => c == '\\' && !escaped) false

theorem endsEscaping_append {before : List Char} (unescaped : endsEscaping before = false)
    (chars : List Char) : endsEscaping (before ++ chars) = endsEscaping chars := by
  unfold endsEscaping at *
  rw [List.foldl_append, unescaped]

theorem endsEscaping_cons {c : Char} (other : c ≠ '\\') (chars : List Char) :
    endsEscaping (c :: chars) = endsEscaping chars :=
  @endsEscaping_append [c] (by simp [endsEscaping, other]) chars

theorem endsEscaping_pair (c : Char) (chars : List Char) :
    endsEscaping ('\\' :: c :: chars) = endsEscaping chars :=
  @endsEscaping_append ['\\', c] (by simp [endsEscaping]) chars

theorem endsEscaping_of_plain {chars : List Char} (plain : '\\' ∉ chars) :
    endsEscaping chars = false := by
  induction chars with
  | nil => rfl
  | cons c chars ih =>
    obtain ⟨other, plain⟩ := List.ne_and_not_mem_of_not_mem_cons plain
    rw [endsEscaping_cons other.symm, ih plain]

namespace Lexer

theorem complaint_of_accept {m : Lexer} {c : Cursor} {x : Lexeme} {value : String}
    {flags : TokenFlags} (clean : (m.accept c x value flags).error = none) : x.complaint = none := by
  simp only [accept, locate] at clean
  cases wrong : x.complaint with
  | none => rfl
  | some complaint =>
    rw [wrong] at clean
    cases before : m.error <;> simp [before] at clean

theorem scan_lexeme (l : Lexer) :
    let t := l.scan.token
    let x := lexemeAt l.frames.current (l.text.drop t.start)
    (t.kind = x.kind ∧ t.value = x.value ∧ t.stop = t.start + x.length) ∧
      l.scan.offset = t.stop ∧ (l.scan.error = none → x.complaint = none) := by
  unfold scan
  dsimp only
  split
  · rw [l.cursor.rest_eq]
    exact ⟨⟨rfl, rfl, rfl⟩, rfl, complaint_of_accept⟩
  · rw [l.skipTrivia.1.cursor.rest_eq]
    exact ⟨⟨rfl, rfl, rfl⟩, rfl, complaint_of_accept⟩

end Lexer

/-- Each line break by a carriage return, alone or with a line feed behind it, as one line feed. -/
def lineFeeds : List Char → List Char
  | [] => []
  | '\r' :: '\n' :: rest => '\n' :: lineFeeds rest
  | '\r' :: rest => '\n' :: lineFeeds rest
  | c :: rest => c :: lineFeeds rest

theorem lineFeeds_cons {c : Char} (other : c ≠ '\r') (rest : List Char) :
    lineFeeds (c :: rest) = c :: lineFeeds rest := by
  rw [lineFeeds]
  · exact fun _ is _ => other is
  · exact other

theorem lineFeeds_return {rest : List Char} (alone : rest.head? ≠ some '\n') :
    lineFeeds ('\r' :: rest) = '\n' :: lineFeeds rest := by
  rw [lineFeeds]
  rintro tail rfl
  exact alone rfl

theorem return_not_mem_lineFeeds (text : List Char) : '\r' ∉ lineFeeds text := by
  fun_induction lineFeeds text with
  | case1 => exact List.not_mem_nil
  | case2 rest ih => simpa using ih
  | case3 rest _ ih => simpa using ih
  | case4 c rest _ other ih => exact List.not_mem_cons_of_ne_of_not_mem (Ne.symm other) ih

/-- A carriage return in the text is escaped. -/
def EscapesReturn (text : List Char) : Prop :=
  ∃ before after, text = before ++ '\r' :: after ∧ endsEscaping before = true

/-- What a text is kept as: with its line breaks as line feeds, but for the carriage returns that are
escaped, which stay what they are. -/
inductive KeptAs : (text raw : List Char) → Prop
  | plain {text : List Char} : ¬EscapesReturn text → KeptAs text (lineFeeds text)
  | escaped {before after raw : List Char} : ¬EscapesReturn before → endsEscaping before = true →
      KeptAs after raw → KeptAs (before ++ '\r' :: after) (lineFeeds before ++ '\r' :: raw)

theorem KeptAs.eq_lineFeeds {text raw : List Char} (h : KeptAs text raw)
    (none : ¬EscapesReturn text) : raw = lineFeeds text := by
  cases h with
  | plain => rfl
  | escaped _ escapes _ => exact absurd ⟨_, _, rfl, escapes⟩ none

theorem KeptAs.behind {kept text raw : List Char} (h : KeptAs text raw) (front : List Char)
    (inside : ¬EscapesReturn front) (unescaped : endsEscaping front = false)
    (feeds : ∀ more, more.head? = text.head? → lineFeeds (front ++ more) = kept ++ lineFeeds more) :
    KeptAs (front ++ text) (kept ++ raw) := by
  have further {more : List Char} (none : ¬EscapesReturn more) : ¬EscapesReturn (front ++ more) := by
    rintro ⟨before, after, eq, escapes⟩
    rcases List.append_eq_append_iff.1 eq with ⟨between, rfl, here⟩ | ⟨between, rfl, here⟩
    · rw [endsEscaping_append unescaped] at escapes
      exact none ⟨between, after, here, escapes⟩
    · cases between with
      | nil =>
        rw [List.append_nil] at unescaped
        exact absurd escapes (Bool.eq_false_iff.1 unescaped)
      | cons c between =>
        obtain ⟨rfl, rfl⟩ := List.cons.inj here
        exact inside ⟨before, between, rfl, escapes⟩
  cases h with
  | plain none =>
    rw [← feeds text rfl]
    exact .plain (further none)
  | @escaped before after raw none escapes kept =>
    have ne : before ≠ [] := by
      rintro rfl
      cases escapes
    have same : before.head? = (before ++ '\r' :: after).head? := by
      obtain ⟨c, rest, rfl⟩ := List.exists_cons_of_ne_nil ne
      rfl
    rw [← List.append_assoc, ← List.append_assoc, ← feeds before same]
    exact .escaped (further none) ((endsEscaping_append unescaped before).trans escapes) kept

theorem not_escapesReturn_of_short {text : List Char} (short : text.length ≤ 2)
    (other : text ≠ ['\\', '\r']) : ¬EscapesReturn text := by
  rintro ⟨before, after, rfl, escapes⟩
  match before with
  | [] => cases escapes
  | [c] =>
    have is : c = '\\' := by simpa [endsEscaping] using escapes
    have last : after = [] := by
      simp only [List.length_append, List.length_cons, List.length_nil] at short
      exact List.eq_nil_of_length_eq_zero (by omega)
    exact other (by rw [is, last]; rfl)
  | c :: d :: before =>
    simp only [List.length_append, List.length_cons] at short
    omega

def chunkEnds : List (List Char) := [['\x60'], ['$', '\x7b']]

/-- The text goes up to the first end of a stretch that is not escaped. -/
structure EndsChunk (chars text ending : List Char) : Prop where
  mem : ending ∈ chunkEnds
  starts : text ++ ending <+: chars
  unescaped : endsEscaping text = false
  first : ∀ before other, other ∈ chunkEnds → before ++ other <+: chars →
    endsEscaping before = false → text.length ≤ before.length

theorem EndsChunk.here {chars ending : List Char} (mem : ending ∈ chunkEnds)
    (starts : ending <+: chars) : EndsChunk chars [] ending :=
  ⟨mem, starts, rfl, fun _ _ _ _ _ => Nat.zero_le _⟩

theorem EndsChunk.cons {c : Char} {chars text ending : List Char} (h : EndsChunk chars text ending)
    (other : c ≠ '\\') (noEnd : ∀ ending ∈ chunkEnds, ¬ending <+: c :: chars) :
    EndsChunk (c :: chars) (c :: text) ending where
  mem := h.mem
  starts := List.cons_prefix_cons.2 ⟨rfl, h.starts⟩
  unescaped := (endsEscaping_cons other text).trans h.unescaped
  first := by
    intro before ending mem starts unescaped
    cases before with
    | nil => exact absurd starts (noEnd ending mem)
    | cons d before =>
      obtain ⟨rfl, further⟩ := List.cons_prefix_cons.1 starts
      rw [endsEscaping_cons other] at unescaped
      exact Nat.succ_le_succ (h.first before ending mem further unescaped)

theorem EndsChunk.pair {c : Char} {chars text ending : List Char} (h : EndsChunk chars text ending) :
    EndsChunk ('\\' :: c :: chars) ('\\' :: c :: text) ending where
  mem := h.mem
  starts := List.cons_prefix_cons.2 ⟨rfl, List.cons_prefix_cons.2 ⟨rfl, h.starts⟩⟩
  unescaped := (endsEscaping_pair c text).trans h.unescaped
  first := by
    intro before ending mem starts unescaped
    match before with
    | [] =>
      simp only [chunkEnds, List.mem_cons, List.not_mem_nil, or_false] at mem
      rcases mem with rfl | rfl <;> cases (List.cons_prefix_cons.1 starts).1
    | [d] =>
      obtain ⟨rfl, -⟩ := List.cons_prefix_cons.1 starts
      cases unescaped
    | d :: e :: before =>
      obtain ⟨rfl, second⟩ := List.cons_prefix_cons.1 starts
      obtain ⟨rfl, further⟩ := List.cons_prefix_cons.1 second
      rw [endsEscaping_pair] at unescaped
      exact Nat.succ_le_succ (Nat.succ_le_succ (h.first before ending mem further unescaped))

def ChunkEnd.mark : ChunkEnd → List Char
  | .closing => ['\x60']
  | .substitution => ['$', '\x7b']
  | .missing => []

theorem Chunk.read_kept {chars : List Char} (ends : (read chars).ending ≠ .missing) :
    ∃ text, EndsChunk chars text (read chars).ending.mark ∧
      (read chars).length = text.length + (read chars).ending.mark.length ∧
      KeptAs text (read chars).raw := by
  have nothing : KeptAs [] [] := .plain (not_escapesReturn_of_short (by simp) (by simp))
  fun_induction read chars with
  | case1 => exact absurd rfl ends
  | case2 rest => exact ⟨[], .here (by decide) (by simp [ChunkEnd.mark]), rfl, nothing⟩
  | case3 rest => exact ⟨[], .here (by decide) (by simp [ChunkEnd.mark]), rfl, nothing⟩
  | case4 c rest ih =>
    obtain ⟨text, ended, length, kept⟩ := ih ends
    refine ⟨'\\' :: c :: text, ended.pair, ?_, ?_⟩
    · simp only [cons, length, List.length_cons]
      omega
    · by_cases isReturn : c = '\r'
      · subst isReturn
        have alone : ¬EscapesReturn ['\\'] := not_escapesReturn_of_short (by simp) (by simp)
        exact .escaped alone rfl kept
      · refine kept.behind ['\\', c] (not_escapesReturn_of_short (by simp) ?_)
          (endsEscaping_pair c []) fun more _ => ?_
        · simpa using isReturn
        · exact (lineFeeds_cons (by decide) _).trans (congrArg _ (lineFeeds_cons isReturn more))
  | case5 rest ih =>
    obtain ⟨text, ended, length, kept⟩ := ih ends
    refine ⟨'\r' :: '\n' :: text, ?_, ?_, ?_⟩
    · exact (ended.cons (by decide) (by simp [chunkEnds])).cons (by decide) (by simp [chunkEnds])
    · simp only [cons, length, List.length_cons]
      omega
    · exact kept.behind ['\r', '\n'] (not_escapesReturn_of_short (by simp) (by simp)) rfl
        fun more _ => rfl
  | case6 rest other ih =>
    obtain ⟨text, ended, length, kept⟩ := ih ends
    refine ⟨'\r' :: text, ended.cons (by decide) (by simp [chunkEnds]), ?_, ?_⟩
    · simp only [cons, length, List.length_cons]
      omega
    · refine kept.behind ['\r'] (not_escapesReturn_of_short (by simp) (by simp)) rfl
        fun more same => lineFeeds_return fun feed => ?_
      obtain ⟨tail, rfl⟩ := List.head?_eq_some_iff.1 (same.symm.trans feed)
      obtain ⟨behind, behind_eq⟩ := ended.starts
      exact other _ behind_eq.symm
  | case7 c rest tick dollar backslash crlf cr ih =>
    obtain ⟨text, ended, length, kept⟩ := ih ends
    have other : c ≠ '\\' := by
      cases rest with
      | nil => exact absurd rfl ends
      | cons d rest => exact fun is => backslash d rest is rfl
    refine ⟨c :: text, ended.cons other ?_, ?_, ?_⟩
    · intro ending mem starts
      simp only [chunkEnds, List.mem_cons, List.not_mem_nil, or_false] at mem
      rcases mem with rfl | rfl
      · exact tick (List.cons_prefix_cons.1 starts).1.symm
      · obtain ⟨is, tail, eq⟩ := List.cons_prefix_cons.1 starts
        exact dollar tail is.symm eq.symm
    · simp only [cons, length, List.length_cons]
      omega
    · exact kept.behind [c] (not_escapesReturn_of_short (by simp) (by simp))
        (endsEscaping_cons other []) fun more _ => lineFeeds_cons cr more

/-- The kind of a stretch by the way in which it is entered and by its end. -/
def chunkKind (starts : Bool) (ending : List Char) : Kind :=
  if ending = ['\x60'] then if starts then .noSubstitutionTemplateLiteral else .templateTail
  else if starts then .templateHead else .templateMiddle

theorem readChunk_kept {starts : Bool} {rest : List Char}
    (fine : (readChunk starts rest).complaint = none) :
    ∃ text ending raw, EndsChunk rest text ending ∧ KeptAs text raw ∧
      readChunk starts rest =
        { kind := chunkKind starts ending
          length := text.length + ending.length + 1
          value := String.ofList raw } := by
  have ends : (Chunk.read rest).ending ≠ .missing := fun missing => by
    simp [readChunk, missing] at fine
  obtain ⟨text, ended, length, kept⟩ := Chunk.read_kept ends
  refine ⟨text, _, _, ended, kept, ?_⟩
  simp only [readChunk, length]
  cases starts <;> cases is : (Chunk.read rest).ending <;>
    first
    | exact absurd is ends
    | rfl

namespace Lexer

/-- How a stretch of a template becomes the current token: it is scanned where a backtick starts it,
or the brace that ends a substitution is read again. -/
inductive ReadsChunk : (starts : Bool) → (l m : Lexer) → Prop
  | scan {l : Lexer} : (l.text.drop l.scan.token.start).head? = some '\x60' →
      ReadsChunk true l l.scan
  | rescan {l : Lexer} : l.token.Read l.text → l.token.kind = .closeBraceToken →
      ReadsChunk false l l.rescanTemplate

/-- The character in front of the stretch. -/
def chunkStart (starts : Bool) : Char := if starts then '\x60' else '\x7d'

theorem ReadsChunk.lexeme {starts : Bool} {l m : Lexer} (h : ReadsChunk starts l m) :
    ∃ rest, l.text.drop m.token.start = chunkStart starts :: rest ∧
      (m.token.kind = (readChunk starts rest).kind ∧ m.token.value = (readChunk starts rest).value ∧
        m.token.stop = m.token.start + (readChunk starts rest).length) ∧
      m.offset = m.token.stop ∧ (m.error = none → (readChunk starts rest).complaint = none) := by
  cases h with
  | scan tick =>
    obtain ⟨rest, here⟩ := List.head?_eq_some_iff.1 tick
    have read := l.scan_lexeme
    dsimp only at read
    rw [here] at read
    exact ⟨rest, here, read⟩
  | rescan current brace =>
    have spelling : l.token.kind.text? = some "\x7d" := by rw [brace]; rfl
    obtain ⟨rest, here⟩ := current.spelled spelling
    have here : l.text.drop l.token.start = '\x7d' :: rest := here.symm
    refine ⟨rest, here, ?_⟩
    have ahead : (l.cursor.seek l.token.start).rest.tail = rest := congrArg List.tail here
    unfold rescanTemplate
    dsimp only
    rw [ahead]
    exact ⟨⟨rfl, rfl, rfl⟩, rfl, complaint_of_accept⟩

/-- The stretch that has become current is `text`, up to `ending`, and kept as `raw`: with its line
breaks as line feeds, and without any carriage return, as long as none is escaped. -/
structure KeepsChunk (starts : Bool) (l m : Lexer) (text ending raw : List Char) : Prop where
  ends : EndsChunk (l.text.drop (m.token.start + 1)) text ending
  slice : (l.slice m.token.start m.token.stop).toList = chunkStart starts :: (text ++ ending)
  offset : m.offset = m.token.stop
  kind : m.token.kind = chunkKind starts ending
  value : m.token.value = String.ofList raw
  kept : KeptAs text raw
  feeds : ¬EscapesReturn text → raw = lineFeeds text ∧ '\r' ∉ raw

/-- A stretch of a template that is read without an error reaches up to the first backtick or `${`
that is not escaped. It is kept as it is written with line feeds for its line breaks, and an escaped
carriage return stays what it is. -/
theorem chunk_kept {starts : Bool} {l m : Lexer} (reads : ReadsChunk starts l m)
    (clean : m.error = none) : ∃ text ending raw, KeepsChunk starts l m text ending raw := by
  obtain ⟨rest, here, ⟨kind, value, stop⟩, offset, complaint⟩ := reads.lexeme
  obtain ⟨text, ending, raw, ended, kept, read⟩ := readChunk_kept (complaint clean)
  rw [read] at kind value stop
  have behind : l.text.drop (m.token.start + 1) = rest := by
    rw [← List.drop_drop, here, List.drop_one, List.tail_cons]
  refine ⟨text, ending, raw, behind ▸ ended, ?_, offset, kind, value, kept, fun none => ?_⟩
  · obtain ⟨tail, rfl⟩ := ended.starts
    rw [stop, slice_toList, here, List.take_succ_cons, ← List.length_append, List.take_left']
    rfl
  · rw [kept.eq_lineFeeds none]
    exact ⟨rfl, return_not_mem_lineFeeds text⟩

theorem chunk_kept_substituted :
    let l := (ofText "`$\x7ba\x7db\r\n\\`\rc`".toList).scan.scan.scan
    ReadsChunk false l l.rescanTemplate ∧ l.rescanTemplate.error = none ∧
      l.rescanTemplate.token.value = "b\n\\`\nc" ∧
      ∃ text ending raw, KeepsChunk false l l.rescanTemplate text ending raw := by
  intro l
  have within : (ofText "`$\x7ba\x7db\r\n\\`\rc`".toList).scan.scan.offset ≤ l.text.length := by
    decide +kernel
  have reads : ReadsChunk false l l.rescanTemplate :=
    .rescan (scan_spec _ within).1 (by decide +kernel)
  have clean : l.rescanTemplate.error = none := by decide +kernel
  exact ⟨reads, clean, by decide +kernel, chunk_kept reads clean⟩

/-- A carriage return behind a backslash is kept, where a line feed would be expected. -/
theorem chunk_kept_differs : ¬∀ (starts : Bool) (l m : Lexer), ReadsChunk starts l m →
    m.error = none → ∀ text ending, EndsChunk (l.text.drop (m.token.start + 1)) text ending →
      m.token.value = String.ofList (lineFeeds text) := by
  intro same
  let l := ofText "`\\\r`".toList
  have ends : EndsChunk (l.text.drop (l.scan.token.start + 1)) ['\\', '\r'] ['\x60'] :=
    EndsChunk.pair (.here (by decide) (List.prefix_refl ['\x60']))
  have value := same true l l.scan (.scan (by decide +kernel)) (by decide +kernel) _ _ ends
  exact absurd value (by decide +kernel)

end Lexer

inductive Bracketed : List Char → Prop
  | nil : Bracketed []
  | plain {c : Char} {rest : List Char} : c ≠ ']' → c ≠ '\\' → isLineBreak c = false →
      Bracketed rest → Bracketed (c :: rest)
  | escape {c : Char} {rest : List Char} : isLineBreak c = false → Bracketed rest →
      Bracketed ('\\' :: c :: rest)

/-- What may stand between slashes. -/
inductive Pattern : List Char → Prop
  | nil : Pattern []
  | plain {c : Char} {rest : List Char} : c ≠ '/' → c ≠ '\\' → c ≠ '[' → isLineBreak c = false →
      Pattern rest → Pattern (c :: rest)
  | escape {c : Char} {rest : List Char} : isLineBreak c = false → Pattern rest →
      Pattern ('\\' :: c :: rest)
  | bracketed {inside rest : List Char} : Bracketed inside → Pattern rest →
      Pattern ('[' :: (inside ++ ']' :: rest))

theorem regularExpressionBody_escape {c : Char} (unbroken : isLineBreak c = false) (inClass : Bool)
    (rest : List Char) :
    regularExpressionBody inClass ('\\' :: c :: rest) =
      (regularExpressionBody inClass rest).after 2 := by
  rw [regularExpressionBody, if_neg (Bool.eq_false_iff.1 unbroken)]

theorem Reach.after_after (r : Reach) (first second : Nat) :
    (r.after first).after second = r.after (first + second) :=
  congrArg (Reach.mk · r.closed) (Nat.add_assoc _ _ _)

theorem Bracketed.read {inside : List Char} (h : Bracketed inside) (rest : List Char) :
    regularExpressionBody true (inside ++ ']' :: rest) =
      (regularExpressionBody false rest).after (inside.length + 1) := by
  induction h with
  | nil => rw [List.nil_append, regularExpressionBody_cons (by decide)]; rfl
  | @plain c inside noClosing noEscape unbroken _ ih =>
    have stays : (if c == '[' then true else if c == ']' then false else true) = true := by
      simp [noClosing]
    rw [List.cons_append, regularExpressionBody_cons noEscape, if_neg (Bool.eq_false_iff.1 unbroken),
      if_neg (by simp), stays, ih, Reach.after_after]
    rfl
  | escape unbroken _ ih =>
    rw [List.cons_append, List.cons_append, regularExpressionBody_escape unbroken, ih,
      Reach.after_after]
    rfl

theorem Pattern.read {body : List Char} (h : Pattern body) (rest : List Char) :
    regularExpressionBody false (body ++ '/' :: rest) =
      { length := body.length + 1 + (rest.takeWhile isNamePart).length, closed := true } := by
  induction h with
  | nil =>
    rw [List.nil_append, regularExpressionBody_cons (by decide), if_neg (by decide), if_pos (by decide)]
    simp [Nat.add_comm]
  | @plain c body noSlash noEscape noOpening unbroken _ ih =>
    have stays : (if c == '[' then true else if c == ']' then false else false) = false := by
      simp [noOpening]
    rw [List.cons_append, regularExpressionBody_cons noEscape, if_neg (Bool.eq_false_iff.1 unbroken),
      if_neg (by simp [noSlash]), stays, ih]
    simp only [Reach.after, List.length_cons, Nat.add_right_comm]
  | escape unbroken _ ih =>
    rw [List.cons_append, List.cons_append, regularExpressionBody_escape unbroken, ih]
    simp only [Reach.after, List.length_cons]
    congr 1
    omega
  | @bracketed inside body brackets _ ih =>
    rw [List.cons_append, List.append_assoc, List.cons_append, regularExpressionBody_cons (by decide),
      if_neg (by decide), if_neg (by decide)]
    change (regularExpressionBody true _).after 1 = _
    rw [brackets.read, ih]
    simp only [Reach.after, List.length_cons, List.length_append]
    congr 1
    omega

def PatternFrom (inClass : Bool) (chars : List Char) : Prop :=
  ∃ body rest, Pattern body ∧
    (inClass = false ∧ chars = body ++ '/' :: rest ∨
      inClass = true ∧ ∃ inside, Bracketed inside ∧ chars = inside ++ ']' :: (body ++ '/' :: rest))

namespace PatternFrom

variable {inClass : Bool} {c : Char} {rest : List Char}

theorem escape (unbroken : isLineBreak c = false) (h : PatternFrom inClass rest) :
    PatternFrom inClass ('\\' :: c :: rest) := by
  obtain ⟨body, behind, pattern, ⟨rfl, rfl⟩ | ⟨rfl, inside, brackets, rfl⟩⟩ := h
  · exact ⟨'\\' :: c :: body, behind, .escape unbroken pattern, .inl ⟨rfl, rfl⟩⟩
  · exact ⟨body, behind, pattern, .inr ⟨rfl, '\\' :: c :: inside, .escape unbroken brackets, rfl⟩⟩

theorem plain (noEscape : c ≠ '\\') (unbroken : isLineBreak c = false)
    (noEnd : (c == '/' && !inClass) = false)
    (h : PatternFrom (if c == '[' then true else if c == ']' then false else inClass) rest) :
    PatternFrom inClass (c :: rest) := by
  obtain ⟨body, behind, pattern, ⟨after, rfl⟩ | ⟨after, inside, brackets, rfl⟩⟩ := h
  · have noOpening : c ≠ '[' := by
      rintro rfl
      cases after
    cases inClass with
    | false =>
      have noSlash : c ≠ '/' := by simpa using noEnd
      exact ⟨c :: body, behind, .plain noSlash noEscape noOpening unbroken pattern, .inl ⟨rfl, rfl⟩⟩
    | true =>
      have closing : c = ']' := by simpa [noOpening] using after
      exact ⟨body, behind, pattern, .inr ⟨rfl, [], .nil, by rw [closing]; rfl⟩⟩
  · cases inClass with
    | false =>
      have opening : c = '[' := by simpa using after
      refine ⟨'[' :: (inside ++ ']' :: body), behind, .bracketed brackets pattern, .inl ⟨rfl, ?_⟩⟩
      simp [opening]
    | true =>
      have noClosing : c ≠ ']' := by
        rintro rfl
        cases after
      exact ⟨body, behind, pattern,
        .inr ⟨rfl, c :: inside, .plain noClosing noEscape unbroken brackets, rfl⟩⟩

theorem of_closed {chars : List Char} (closed : (regularExpressionBody inClass chars).closed = true) :
    PatternFrom inClass chars := by
  fun_induction regularExpressionBody inClass chars with
  | case1 => cases closed
  | case2 => cases closed
  | case3 inClass c rest unbroken ih => exact (ih closed).escape (Bool.eq_false_iff.2 unbroken)
  | case4 => cases closed
  | case5 inClass c rest other unbroken slash =>
    obtain ⟨rfl, rfl⟩ : c = '/' ∧ inClass = false := by simpa using slash
    exact ⟨[], rest, .nil, .inl ⟨rfl, rfl⟩⟩
  | case6 inClass c rest other unbroken noEnd inner ih =>
    have noEscape : c ≠ '\\' := by
      rintro rfl
      cases rest with
      | nil => cases closed
      | cons d rest => exact other d rest rfl rfl
    exact plain noEscape (Bool.eq_false_iff.2 unbroken) (Bool.eq_false_iff.2 noEnd) (ih closed)

end PatternFrom

theorem regularExpressionBody_open {inClass : Bool} {chars : List Char}
    (isOpen : (regularExpressionBody inClass chars).closed = false) :
    (regularExpressionBody inClass chars).length = (lineCommentText chars).length := by
  have unbroken {c : Char} {rest : List Char} (h : ¬isLineBreak c = true) :
      lineCommentText (c :: rest) = c :: lineCommentText rest := by simp [lineCommentText, h]
  have broken {c : Char} {rest : List Char} (h : isLineBreak c = true) :
      lineCommentText (c :: rest) = [] := by simp [lineCommentText, h]
  have backslash : ¬isLineBreak '\\' = true := by decide
  fun_induction regularExpressionBody inClass chars with
  | case1 => rfl
  | case2 inClass c rest breaks => rw [unbroken backslash, broken breaks]; rfl
  | case3 inClass c rest further ih =>
    rw [unbroken backslash, unbroken further]
    exact congrArg (· + 2) (ih isOpen)
  | case4 inClass c rest other breaks => rw [broken breaks]; rfl
  | case5 => cases isOpen
  | case6 inClass c rest other further noEnd inner ih =>
    rw [unbroken further]
    exact congrArg (· + 1) (ih isOpen)

/-- A regular expression is written in the characters, from the slash that opens it on. -/
structure PatternAt (chars body rest : List Char) : Prop where
  split : chars = '/' :: (body ++ '/' :: rest)
  pattern : Pattern body

theorem PatternAt.read {chars body rest : List Char} (h : PatternAt chars body rest) :
    let written := '/' :: (body ++ '/' :: rest.takeWhile isNamePart)
    chars = written ++ rest.dropWhile isNamePart ∧
      (readRegularExpression chars).length = written.length ∧
      (readRegularExpression chars).complaint = none := by
  obtain ⟨rfl, pattern⟩ := h
  intro written
  refine ⟨?_, ?_, ?_⟩
  · simp [written]
  · simp only [readRegularExpression, List.tail_cons, pattern.read, written, List.length_cons,
      List.length_append]
    omega
  · simp [readRegularExpression, pattern.read]

theorem readRegularExpression_open {rest : List Char}
    (none : ∀ body behind, ¬PatternAt ('/' :: rest) body behind) :
    let x := readRegularExpression ('/' :: rest)
    x.length = (lineCommentText ('/' :: rest)).length ∧ x.flags.unterminated = true ∧
      x.complaint = some ⟨.unterminatedRegularExpression, 0, x.length⟩ := by
  have isOpen : (regularExpressionBody false rest).closed = false := by
    refine Bool.eq_false_iff.2 fun closed => ?_
    obtain ⟨body, behind, pattern, ⟨-, rfl⟩ | ⟨within, -⟩⟩ := PatternFrom.of_closed closed
    · exact none body behind ⟨rfl, pattern⟩
    · cases within
  have length := regularExpressionBody_open isOpen
  simp only [readRegularExpression, List.tail_cons, isOpen, length]
  exact ⟨rfl, rfl, rfl⟩

namespace Lexer

/-- What a slash has been read again as: the token is kept as it is written, and the lexer goes on behind
it. -/
structure RereadSlash (l m : Lexer) : Prop where
  kind : m.token.kind = .regularExpressionLiteral
  start : m.token.start = l.token.start
  value : m.token.value = l.slice m.token.start m.token.stop
  offset : m.offset = m.token.stop

/-- The token is the regular expression with the flags that follow it, and nothing is wrong. -/
structure ReadsPattern (l m : Lexer) (body rest : List Char) : Prop where
  slice : (l.slice m.token.start m.token.stop).toList =
    '/' :: (body ++ '/' :: rest.takeWhile isNamePart)
  rest : m.cursor.rest = rest.dropWhile isNamePart
  error : m.error = l.error

/-- The token is the rest of the line, and that it is not closed is recorded, unless something else has
been before. -/
structure ReadsLine (l m : Lexer) : Prop where
  stop : m.token.stop = l.token.start + (lineCommentText (l.text.drop l.token.start)).length
  unterminated : m.token.flags.unterminated = true
  error : m.error =
    (l.error <|> some ⟨.unterminatedRegularExpression, .between m.token.start m.token.stop⟩)

/-- A slash is read again without an error just where a regular expression is written from it on: the
token is that, with the flags behind it. Otherwise it is the rest of the line, which is an error. -/
theorem rescan_slash (l : Lexer) (read : l.token.Read l.text)
    (slash : l.token.kind = .slashToken ∨ l.token.kind = .slashEqualsToken) :
    let m := l.rescanSlash
    let chars := l.text.drop l.token.start
    l.RereadSlash m ∧
      (l.error = none → (m.error = none ↔ ∃ body rest, PatternAt chars body rest)) ∧
      (∀ body rest, PatternAt chars body rest → l.ReadsPattern m body rest) ∧
      ((∀ body rest, ¬PatternAt chars body rest) → l.ReadsLine m) := by
  intro m chars
  have stop : m.token.stop = l.token.start + (readRegularExpression chars).length := rfl
  have flags : m.token.flags = l.token.flags.union (readRegularExpression chars).flags := rfl
  have error : m.error = (l.error <|> (readRegularExpression chars).complaint.map fun c =>
    ⟨c.message, .between (l.token.start + c.start) (l.token.start + c.stop)⟩) := rfl
  have slice : (l.slice m.token.start m.token.stop).toList =
      chars.take (readRegularExpression chars).length := slice_toList l _ _
  have reads (body rest : List Char) (h : PatternAt chars body rest) : l.ReadsPattern m body rest := by
    obtain ⟨chars_eq, length, fine⟩ := h.read
    refine ⟨?_, ?_, ?_⟩
    · rw [slice, length, chars_eq, List.take_left]
    · change chars.drop (readRegularExpression chars).length = _
      rw [length]
      exact (congrArg (List.drop _) chars_eq).trans List.drop_left
    · rw [error, fine]
      cases l.error <;> rfl
  have readsLine (none : ∀ body rest, ¬PatternAt chars body rest) : l.ReadsLine m := by
    obtain ⟨rest, here⟩ : ∃ rest, chars = '/' :: rest := read.slash_ahead slash
    rw [here] at none
    obtain ⟨length, unterminated, complaint⟩ := readRegularExpression_open none
    rw [← here] at length unterminated complaint
    refine ⟨?_, ?_, ?_⟩
    · rw [stop, length]
    · rw [flags, TokenFlags.union, unterminated, Bool.or_true]
    · rw [error, complaint, stop]
      rfl
  refine ⟨⟨rfl, rfl, ?_, rfl⟩, fun clean => ⟨fun fine => ?_, ?_⟩, reads, readsLine⟩
  · exact String.toList_injective (slice ▸ String.toList_ofList)
  · refine Classical.byContradiction fun none => ?_
    have wrong := (readsLine fun body rest h => none ⟨body, rest, h⟩).error
    rw [fine, clean] at wrong
    cases wrong
  · rintro ⟨body, rest, h⟩
    rw [(reads body rest h).error, clean]

theorem rescan_slash_each :
    let l := (ofText "/[/\\]]\\//gi;".toList).scan
    let m := (ofText "/=[/\\\n]/".toList).scan
    ((l.token.kind = .slashToken ∧ l.token.Read l.text) ∧
      l.ReadsPattern l.rescanSlash "[/\\]]\\/".toList "gi;".toList ∧ l.rescanSlash.error = none) ∧
    (m.token.kind = .slashEqualsToken ∧ m.token.Read m.text) ∧
      m.rescanSlash.token.stop = 5 ∧ m.rescanSlash.error ≠ none := by
  intro l m
  have scanned (text : List Char) : (ofText text).scan.token.Read (ofText text).scan.text := by
    obtain ⟨read, same, -⟩ := (ofText text).scan_spec (Nat.zero_le _)
    rwa [same]
  have readL : l.token.Read l.text := scanned _
  have readM : m.token.Read m.text := scanned _
  have slashL : l.token.kind = .slashToken := by decide +kernel
  have slashM : m.token.kind = .slashEqualsToken := by decide +kernel
  have brackets : Bracketed "/\\]".toList :=
    .plain (by decide) (by decide) (by decide) (.escape (by decide) .nil)
  have behind : Pattern "\\/".toList := .escape (by decide) .nil
  have pattern : Pattern "[/\\]]\\/".toList := .bracketed brackets behind
  have written : PatternAt (l.text.drop l.token.start) "[/\\]]\\/".toList "gi;".toList :=
    ⟨by decide +kernel, pattern⟩
  obtain ⟨-, iff, reads, -⟩ := rescan_slash l readL (.inl slashL)
  have clean : l.rescanSlash.error = none := (iff (by decide +kernel)).2 ⟨_, _, written⟩
  have wrong : m.rescanSlash.error ≠ none := by decide +kernel
  obtain ⟨-, iff, -, readsLine⟩ := rescan_slash m readM (.inr slashM)
  have line := readsLine fun body rest h => wrong ((iff (by decide +kernel)).2 ⟨body, rest, h⟩)
  have stop : m.rescanSlash.token.stop = 5 := by
    rw [line.stop]
    decide +kernel
  exact ⟨⟨⟨slashL, readL⟩, reads _ _ written, clean⟩, ⟨slashM, readM⟩, stop, wrong⟩

end Lexer

end TypedScript
