import TypedScript.Proofs.Grammar.Rule
import TypedScript.Proofs.Lexer.Current
import TypedScript.SourceFile

/-! Whole texts: what is laid out by a file, and by a type by itself. Trees lie well in their texts:
every node stands on tokens and encloses its constituents, which follow each other. -/

namespace TypedScript

open TypedScript.Parser Grammar
open Position (Laid)

/-- The tokens of the text follow each other, and everything in the tree lies well among them. -/
def Node.LiesIn (root : Node) (text : List Char) : Prop :=
  ∃ ts a b, Chain text a ts b ∧ ∀ n, root.Within n → n.WellPlaced text ts

theorem Layout.liesIn {text : List Char} {ts : List Token} {a b : Nat} {n : Node}
    (h : Layout ts [n]) (chain : Chain text a ts b) : n.LiesIn text :=
  ⟨ts, a, b, chain, h.wellPlaced chain n List.mem_cons_self⟩

theorem Layout.file {text : List Char} {ts : List Token} {a b : Nat} {statements : List Node}
    {info : NodeInfo} (h : Layout ts statements) (chain : Chain text a ts b)
    (extent : info.extent = ⟨0, text.length⟩) :
    (Node.mk info (.sourceFile statements)).LiesIn text := by
  have children : (Node.mk info (.sourceFile statements)).children = statements :=
    Field.map_selves "statements" statements
  refine ⟨ts, a, b, chain, fun n within => ?_⟩
  cases within with
  | inside mem within => exact h.wellPlaced chain _ (children ▸ mem) n within
  | self =>
    have stop := h.stop_le (e := text.length) fun t mem =>
      have read := (chain.read_of_mem mem).1
      ⟨read.start_le_stop, read.stop_le⟩
    refine
      { start_le_stop := ?_
        stop_le := ?_
        stands := .file extent
        enclosed := fun c mem => ?_
        ordered := by rw [children]; exact (h.ordered chain).2 }
    · simp [Node.start, Node.stop, Node.info, extent]
    · simp [Node.stop, Node.info, extent]
    · have stop : c.info.extent.stop ≤ text.length := stop c (children ▸ mem)
      simp [Extent.encloses, Node.info.eq_1, extent, stop]

structure State.Fresh (s : State) (text : List Char) : Prop where
  offset_le : s.lexer.offset ≤ text.length
  text : s.lexer.text = text
  stop : s.lexer.token.stop = 0
  depth : s.depth = 0
  absorbed : s.absorbed = []

theorem State.Fresh.next {s : State} {text : List Char} (h : s.Fresh text) (settings : Settings) :
    (∃ t c, Parser.next settings s = .ok () t ∧ t.At c ∧ c.text = text ∧ t.depth = 0 ∧
        t.absorbed = []) ∨
      ∃ e t, Parser.next settings s = .error (.fatal e) t := by
  obtain ⟨read, same, offset, gap⟩ := s.lexer.scan_spec (h.text ▸ h.offset_le)
  have prevEnd : s.lexer.token.stop ≤ s.lexer.scan.token.start := h.stop ▸ Nat.zero_le _
  obtain ⟨c, at_, same', -⟩ := State.At.of_read s.scanned (same ▸ read) offset prevEnd
  rw [next_apply, checkLexical_apply]
  cases s.scanned.lexer.error with
  | none =>
    exact .inl ⟨_, c, rfl, at_.alike ⟨rfl, rfl, rfl, rfl⟩ rfl, same'.trans (same.trans h.text),
      h.depth, h.absorbed⟩
  | some error => exact .inr ⟨_, _, rfl⟩

/-- Where the first token of a file is looked for. -/
def State.pastShebang (text : List Char) (options : Options) : State :=
  { State.ofText text options with lexer := (State.ofText text options).lexer.skipShebang }

theorem State.fresh_pastShebang (text : List Char) (options : Options) :
    (pastShebang text options).Fresh text := by
  have shebang : (pastShebang text options).lexer.text = text ∧
      (pastShebang text options).lexer.token.stop = 0 := by
    simp only [pastShebang, Lexer.skipShebang]
    split <;> exact ⟨rfl, rfl⟩
  have le := (State.ofText text options).lexer.skipShebang_offset_le rfl
  exact ⟨le, shebang.1, shebang.2, rfl, rfl⟩

structure Parser.Opens (p : Grammar → Parser Node) (text : List Char) (options : Options) (s : State)
    (body : Grammar → Parser Node) : Prop where
  fresh : s.Fresh text
  reached : s.lexer.Reached text []
  opens : ∀ g settings, p g settings (.ofText text options) = (next >>= fun _ => body g) settings s
  runs : ∀ (g : Grammar) (c : Position), c.text = text →
    Runs g 0 c (body g) fun n _ => n.LiesIn text

namespace Grammar

theorem file_apply (g : Grammar) (settings : Settings) (s : State) :
    file g settings s = fileRest g settings { s with lexer := s.lexer.skipShebang } := rfl

variable (text : List Char) (options : Options)

theorem opens_file : ∃ s body, Parser.Opens file text options s body := by
  refine ⟨.pastShebang text options, fileBody, ?_, .startPastShebang _, fun _ _ => rfl,
    fun g c same => ?_⟩
  · exact State.fresh_pastShebang text options
  · refine (Parses.inScope .file (Parses.statementsUpTo .endOfFileToken) c).bind
      fun statements d laid => .looking fun s at_ => .pure ?_
    obtain ⟨ts, reads, layout⟩ := laid.reads
    refine layout.file (same ▸ reads.chain) ?_
    rw [at_.text, reads.text, same]

theorem opens_standaloneType : ∃ s body, Parser.Opens standaloneType text options s body := by
  refine ⟨.ofText text options, typeBody, ⟨Nat.zero_le _, rfl, rfl, rfl, rfl⟩, .start _,
    fun _ _ => rfl, fun g c same => ?_⟩
  refine (Parses.annotatedType c).bind fun type d h => .asking (.isAt _) ?_
  obtain ⟨ts, reads, layout⟩ := h.reads
  dsimp only
  split
  · exact .pure (layout.liesIn (same ▸ reads.chain))
  · exact .failingHere ..

end Grammar

/-- What a parser of whole texts comes to with that much fuel. -/
def Parser.runWith (fuel : Nat) (p : Grammar → Parser Node) (name : String) (options : Options)
    (text : List Char) : EStateM.Result Failure State Node :=
  p (.withFuel fuel) (.ofText name options text) (.ofText text options)

theorem Parser.runWith_of_runOn {p : Grammar → Parser Node} {name : String} {options : Options}
    {text : List Char} {x : Node} {s : State} (h : Parser.runOn p name options text = .ok (x, s)) :
    runWith (16 * (text.length + 2)) p name options text = .ok x s := by
  unfold Parser.runOn at h
  dsimp only at h
  split at h
  · cases h
    assumption
  · cases h

theorem SourceFile.of_parse {name : String} {options : Options} {text : List Char}
    {file : SourceFile} (h : SourceFile.parse name options text = .ok file) :
    ∃ s, Parser.runOn Grammar.file name options text = .ok (file.tree, s) ∧
      file.comments = s.lexer.comments ∧ file.diagnostics = s.diagnostics.sort.items := by
  unfold SourceFile.parse at h
  cases run : Parser.runOn Grammar.file name options text with
  | error e => rw [run] at h; cases h
  | ok x => rw [run] at h; cases h; exact ⟨x.2, rfl, rfl, rfl⟩

theorem SourceFile.of_parse_fileRest {name : String} {options : Options} {text : List Char}
    {file : SourceFile} (h : SourceFile.parse name options text = .ok file) :
    ∃ fuel s, Parser.runOn Grammar.file name options text = .ok (file.tree, s) ∧
      fileRest (withFuel fuel) (.ofText name options text) (.pastShebang text options) =
        .ok file.tree s ∧
      file.comments = s.lexer.comments ∧ file.diagnostics = s.diagnostics.sort.items := by
  obtain ⟨s, run, known⟩ := of_parse h
  exact ⟨_, s, run, runWith_of_runOn run, known⟩

theorem StandaloneType.of_parse {name : String} {options : Options} {text : List Char}
    {type : StandaloneType} (h : StandaloneType.parse name options text = .ok type) :
    ∃ s, Parser.runOn Grammar.standaloneType name options text = .ok (type.tree, s) ∧
      type.diagnostics = s.diagnostics.sort.items := by
  unfold StandaloneType.parse at h
  cases run : Parser.runOn Grammar.standaloneType name options text with
  | error e => rw [run] at h; cases h
  | ok x => rw [run] at h; cases h; exact ⟨x.2, rfl, rfl⟩

theorem Parser.Opens.ends {p : Grammar → Parser Node} {text : List Char} {options : Options}
    {s : State} {body : Grammar → Parser Node} (h : Opens p text options s body) {g : Grammar}
    (sound : g.Sound) (settings : Settings) :
    Ends (p g) settings (.ofText text options) fun n _ => n.LiesIn text := by
  intro n u ok
  rw [h.opens, bind_apply] at ok
  rcases h.fresh.next settings with ⟨t, c, first, at_, same, -⟩ | ⟨e, t, first⟩
  · rw [first] at ok
    obtain ⟨d, -, -, -, lies⟩ := (h.runs g c same).sound sound settings t at_ n u ok
    exact lies
  · rw [first] at ok
    cases ok

end TypedScript
