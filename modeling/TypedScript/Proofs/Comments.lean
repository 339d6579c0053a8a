import TypedScript.Proofs.NamesAndRegions
import TypedScript.Proofs.Parser.LexerChange
import TypedScript.SourceFile

/-! The comments of a file are those between its tokens, however often the text between two of them has
been read. Collecting them is only watching: a text is parsed in the same way whether they are collected
or not. -/

namespace TypedScript

open TypedScript.Parser Grammar

section Collected

variable {g : Grammar} {settings : Settings} {s : State}

theorem Parser.Ends.collectWhile {α : Type} {condition : Parser Bool} {p : Parser α}
    {Q : State → Prop}
    (stops : ∀ s, Ends condition settings s fun more t => more = false → Q t) :
    Ends (Parser.collectWhile condition p) settings s fun _ t => Q t := by
  refine Ends.turns (P := fun _ _ => True) (fun found t _ => ?_) settings.turns [] s trivial
  refine (stops t).bind fun more u stopped => ?_
  cases more with
  | true =>
    refine Ends.bind (Q := fun _ _ => True) (fun _ _ _ => trivial) fun x v _ turn w run => ?_
    cases run
    trivial
  | false =>
    intro turn v run
    cases run
    exact stopped rfl

theorem Grammar.fileBody_ends :
    Ends (fileBody g) settings s fun _ t => t.lexer.token.kind = .endOfFileToken := by
  have statements : Ends (Parser.inScope .file (statementsUpTo g .endOfFileToken)) settings s
      fun _ t => t.lexer.token.kind = .endOfFileToken := by
    refine Ends.within (Ends.collectWhile fun t more u run stopped => ?_)
    cases run
    simpa using stopped
  refine statements.bind fun ns t last x u run => ?_
  cases run
  exact last

/-- From the offset on, with these tokens, the comments of the file are all that lie in the gaps. They
come in order, each once, and are written in the text. -/
structure SourceFile.Collects (file : SourceFile) (text : List Char) (start : Nat) (ts : List Token) :
    Prop where
  interleaved : Interleaved text start ts file.comments text.length
  nonempty : ∀ c ∈ file.comments, start ≤ c.extent.start ∧ c.extent.start < c.extent.stop
  ordered : file.comments.Pairwise fun c d => c.extent.stop ≤ d.extent.start
  apart : ∀ c ∈ file.comments, ∀ t ∈ ts, c.extent.stop ≤ t.start ∨ t.stop ≤ c.extent.start
  quotes : ∀ c ∈ file.comments, c.Quotes text

theorem SourceFile.Collects.of_interleaved {file : SourceFile} {text : List Char} {start : Nat}
    {ts : List Token} (h : Interleaved text start ts file.comments text.length) :
    file.Collects text start ts where
  interleaved := h
  nonempty c mem := ⟨(h.ordered.1 c mem).1, (h.ordered.1 c mem).2.1⟩
  ordered := h.ordered.2
  apart := h.apart
  quotes := h.quotes

theorem Parser.of_next {x : Unit} {t : State} (run : next settings s = .ok x t) :
    s.lexer.scan.error = none ∧ t = s.scanned.cleared := by
  rw [next_apply, checkLexical_apply] at run
  split at run
  case h_1 fine =>
    cases run
    exact ⟨fine, rfl⟩
  case h_2 => cases run

/-- The lexer at the first token of a file. -/
def Lexer.atFirst (text : List Char) (options : Options) : Lexer :=
  (State.pastShebang text options).lexer.scan.takeError.2

theorem Lexer.past_atFirst {text : List Char} {options : Options}
    (collects : options.collectComments = true)
    (fine : (State.pastShebang text options).lexer.scan.error = none) :
    (atFirst text options).Past text (State.pastShebang text options).lexer.offset [] := by
  have le := (State.ofText text options).lexer.skipShebang_offset_le rfl
  obtain ⟨cursor, eq, same⟩ := (State.ofText text options).lexer.skipShebang_eq
  unfold atFirst State.pastShebang at *
  rw [eq] at le fine ⊢
  exact .first same le rfl (by simp [State.ofText, collects, Lexer.ofText]) rfl fine

/-- A file is read from its first token on to its end. The comments of it are those before and after
the tokens that its lexer has passed in the end. -/
theorem parse_collects {name : String} {options : Options} {text : List Char} {file : SourceFile}
    (ok : SourceFile.parse name options text = .ok file) (collects : options.collectComments = true) :
    ∃ s ts, Parser.runOn Grammar.file name options text = .ok (file.tree, s) ∧
      (Lexer.atFirst text options).Passes ts s.lexer ∧ s.lexer.token.kind = .endOfFileToken ∧
      file.Collects text (State.pastShebang text options).lexer.offset ts := by
  obtain ⟨fuel, s, runOn, run, comments, -⟩ := SourceFile.of_parse_fileRest ok
  rw [fileRest, bind_apply] at run
  split at run
  case h_1 t first =>
    obtain ⟨stands, -⟩ := Logs.next (Q := fun _ _ => True) trivial _ _
      (State.pastShebang_stands text options) _ t first
    obtain ⟨fine, rfl⟩ := Parser.of_next first
    obtain ⟨-, l, adds, -⟩ := Logs.fileBody _ _ stands _ _ run
    obtain ⟨ts, passes⟩ := adds.passes
    have last := fileBody_ends _ _ run
    have past := passes.past (Lexer.past_atFirst collects fine)
    refine ⟨s, ts, runOn, passes, last, .of_interleaved ?_⟩
    rw [comments, ← (past.read.stop_of_end last).1]
    simpa using past.interleaved
  case h_2 => cases run

theorem parse_collects_arrow :
    ∃ file, SourceFile.parse "a.ts" {} variedText = .ok file ∧
      file.comments.map Comment.text = [" b", " c "] ∧
      ∃ s ts, Parser.runOn Grammar.file "a.ts" {} variedText = .ok (file.tree, s) ∧
        (Lexer.atFirst variedText {}).Passes ts s.lexer ∧ s.lexer.token.kind = .endOfFileToken ∧
        file.Collects variedText (State.pastShebang variedText {}).lexer.offset ts := by
  obtain ⟨file, ok, comments, -, -, -⟩ := SourceFile.of_variedText
  exact ⟨file, ok, comments, parse_collects ok rfl⟩

end Collected

section Uncollected

variable {α : Type}

def Lexer.uncommented (l : Lexer) : Lexer := { l with collecting := false, comments := [] }

def State.uncommented (s : State) : State := { s with lexer := s.lexer.uncommented }

def Options.uncommented (o : Options) : Options := { o with collectComments := false }

namespace Lexer

theorem scan_uncommented (l : Lexer) : l.uncommented.scan = l.scan.uncommented := by
  unfold scan
  have same : l.uncommented.frames = l.frames := rfl
  dsimp only
  rw [same]
  cases l.frames.current.preservesSpace <;> rfl

theorem rescanAngles_uncommented (l : Lexer) :
    l.uncommented.rescanAngles = l.rescanAngles.uncommented := by
  unfold rescanAngles
  have same : l.uncommented.token = l.token := rfl
  rw [same]
  split <;> rfl

theorem skipShebang_uncommented (l : Lexer) :
    l.uncommented.skipShebang = l.skipShebang.uncommented := by
  have same : l.uncommented.cursor = l.cursor := rfl
  rw [skipShebang, skipShebang, same]
  split <;> rfl

theorem restore_uncommented (l m : Lexer) :
    m.uncommented.restore l.uncommented.snapshot = (m.restore l.snapshot).uncommented := by
  simp only [restore, uncommented]
  rfl

theorem PreservesReading.uncommented : PreservesReading Lexer.uncommented fun _ => True where
  token _ := rfl
  ahead _ := rfl
  frames _ := rfl
  error _ := rfl
  clear _ := ⟨rfl, trivial⟩
  scan {l} _ := ⟨l.scan_uncommented, trivial⟩
  rescanAngles {l} _ frames := ⟨rescanAngles_uncommented { l with frames }, trivial⟩
  rescanTemplate _ := ⟨rfl, trivial⟩
  rescanSlash _ := ⟨rfl, trivial⟩
  restore {l m} _ _ := ⟨restore_uncommented l m, trivial⟩
  speculate _ := ⟨rfl, trivial⟩
  resume _ _ := ⟨rfl, trivial⟩

end Lexer

namespace Parser

abbrev CommentInvariant (p : Parser α) : Prop := InvariantUnder Lexer.uncommented (fun _ => True) p

end Parser

namespace Grammar

variable {g : Grammar}

theorem file_commentInvariant (inner : ∀ q, CommentInvariant (g q)) : CommentInvariant (file g) := by
  have statements : SameSteps true g g false true (Parser.inScope .file (statementsUpTo g .endOfFileToken))
    (Parser.inScope .file (statementsUpTo g .endOfFileToken)) := inferInstance
  have shebang : CommentInvariant (modify fun s => { s with lexer := s.lexer.skipShebang }) :=
    fun settings settings' s _ _ => by
    have same : changed Lexer.uncommented { s with lexer := s.lexer.skipShebang } =
        { changed Lexer.uncommented s with lexer := s.lexer.uncommented.skipShebang } :=
      congrArg (fun lexer => { s with lexer }) s.lexer.skipShebang_uncommented.symm
    have both : EqualUpTo Lexer.uncommented (fun _ => True)
        (.ok () { s with lexer := s.lexer.skipShebang }) _ := .ok trivial
    rw [same] at both
    exact both
  exact .bind shebang fun _ => .bind (.next .uncommented) fun _ =>
    .bind (statements.invariantUnder .uncommented inner) fun _ =>
      .looking (fun _ _ => rfl) fun _ => .pure _

theorem standaloneType_commentInvariant (inner : ∀ q, CommentInvariant (g q)) :
    CommentInvariant (standaloneType g) := by
  have sameSteps : SameSteps true g g false true (standaloneType g) (standaloneType g) := by
    unfold standaloneType typeBody
    infer_instance
  exact sameSteps.invariantUnder .uncommented inner

end Grammar

theorem Parser.runOn_uncommented {p : Grammar → Parser α}
    (h : ∀ g : Grammar, (∀ q, CommentInvariant (g q)) → CommentInvariant (p g)) (name : String)
    (options : Options) (text : List Char) :
    Parser.runOn p name options.uncommented text =
      (Parser.runOn p name options text).map fun out => (out.1, out.2.uncommented) := by
  have both := h (.forLength text.length) (withFuel_invariantUnder .uncommented _)
    (.ofText name options text) (.ofText name options.uncommented text) (.ofText text options)
    ⟨rfl, rfl, rfl, rfl⟩ trivial
  have same : State.ofText text options.uncommented =
    changed Lexer.uncommented (.ofText text options) := rfl
  rw [Parser.runOn, Parser.runOn, same]
  generalize p (.forLength text.length) (.ofText name options text) (.ofText text options) = r at both
  generalize p (.forLength text.length) (.ofText name options.uncommented text)
    (changed Lexer.uncommented (.ofText text options)) = r' at both
  cases both <;> rfl

/-- Whether comments are collected or not, a file is parsed to the same tree with the same
diagnostics, or fails with the same one, and so is a type by itself. Without collecting there are no
comments. -/
theorem parse_uncommented (name : String) (options : Options) (text : List Char) :
    SourceFile.parse name { options with collectComments := false } text =
      (SourceFile.parse name { options with collectComments := true } text).map
        (fun file => { file with comments := [] }) ∧
    StandaloneType.parse name { options with collectComments := false } text =
      StandaloneType.parse name { options with collectComments := true } text := by
  have file := Parser.runOn_uncommented (fun _ => Grammar.file_commentInvariant) name
    { options with collectComments := true } text
  have type := Parser.runOn_uncommented (fun _ => Grammar.standaloneType_commentInvariant) name
    { options with collectComments := true } text
  change Parser.runOn Grammar.file name { options with collectComments := false } text = _ at file
  change Parser.runOn Grammar.standaloneType name { options with collectComments := false } text = _
    at type
  constructor
  · rw [SourceFile.parse, file, SourceFile.parse]
    cases Parser.runOn Grammar.file name { options with collectComments := true } text <;> rfl
  · rw [StandaloneType.parse, type, StandaloneType.parse]
    cases Parser.runOn Grammar.standaloneType name { options with collectComments := true } text <;>
      rfl

/-- What is in a comment does make a difference where looking ahead reads a division as a regular
expression, which may go on into the comment. Here the comment ends the lookahead. With a blank in its
place the parenthesis is taken for one of parameters. -/
theorem parse_blanked_differs :
    let before := "type T = C extends (\x7b [x as infer U extends X ? Y : A<B>/1".toList
    let after := "]: v \x7d extends '/]:w\x7d:' ? P : Q) ? R : S;".toList
    ((SourceFile.parse "a.ts" {} (before ++ "/*)*/".toList ++ after)).toOption.map fun file =>
        (file.comments, file.diagnostics)) =
      some ([⟨.multiLine, ")", ⟨before.length, before.length + 5⟩⟩], []) ∧
    ¬∃ file, SourceFile.parse "a.ts" {} (before ++ ' ' :: after) = .ok file := by
  intro before after
  have fails : (SourceFile.parse "a.ts" {} (before ++ ' ' :: after)).toBool = false := by
    decide +kernel
  refine ⟨by decide +kernel, ?_⟩
  rintro ⟨file, ok⟩
  rw [ok] at fails
  cases fails

end Uncollected

end TypedScript
