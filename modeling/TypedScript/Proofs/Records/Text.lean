import TypedScript.Proofs.Comments
import TypedScript.Proofs.Records.Rule

/-! What is recorded of whole texts: of a file, and of a type by itself. -/

namespace TypedScript

open TypedScript.Parser Grammar
open Position (Keeps)

/-- Of the tokens that follow each other from the offset on to the end of the text, the question marks
with a dot are in the links of the tree. -/
def Node.RecordsFrom (root : Node) (text : List Char) (start : Nat) : Prop :=
  ∃ ts a, Gap text start a ∧ Chain text a ts text.length ∧
    Recorded text (ts.filter (·.is .questionDotToken)) root.links

structure Node.Accepted (root : Node) (text : List Char) (start : Nat) : Prop where
  records : root.RecordsFrom text start
  regular : ∀ n, root.Within n → n.IsRegular text

variable {g : Grammar} [recording : g.Recording] {c d : Position} {settings : Settings} {s : State}
  {text : List Char} {start : Nat}

theorem Position.Keeps.accepted {n : Node} (h : c.Keeps [n] d) (gap : Gap c.text start c.start)
    (last : d.token.kind = .endOfFileToken) : n.Accepted c.text start := by
  obtain ⟨ts, reads, recorded⟩ := h.reads
  have whole : d.start = c.text.length := h.text ▸ (d.read.stop_of_end last).1
  refine ⟨⟨ts, c.start, gap, whole ▸ reads.chain, ?_⟩, h.regular n (List.mem_singleton_self n)⟩
  simpa using recorded

theorem State.Fresh.first (h : s.Fresh text) {t : State} (run : Parser.next settings s = .ok () t) :
    ∃ c, t.At c ∧ c.text = text ∧ Gap text s.lexer.offset c.start := by
  obtain ⟨-, -, -, gap⟩ := s.lexer.scan_spec (h.text ▸ h.offset_le)
  obtain ⟨-, rfl⟩ := Parser.of_next run
  rcases h.next settings with ⟨t, c, first, at_, same, -⟩ | ⟨e, t, first⟩
  · cases run.symm.trans first
    refine ⟨c, at_, same, ?_⟩
    rw [Position.start, ← at_.token, ← h.text]
    exact gap
  · cases run.symm.trans first

theorem Goes.fileBody : Goes c (Grammar.fileBody g) fun n d =>
    c.Keeps [n] d ∧ d.token.kind = .endOfFileToken where
  ends settings s at_ n t run := by
    have kept : Goes c (Grammar.fileBody g) fun n d => c.Keeps [n] d := by
      refine (Records.inScope .file (Records.statementsUpTo .endOfFileToken) c).bind
        fun statements d h => .looking fun _ _ => .pure (h.wrap ?_ rfl (.of_isUnsigned rfl))
      exact (Field.map_selves "statements" statements).symm
    obtain ⟨d, at_, keeps⟩ := kept.ends settings s at_ n t run
    exact ⟨d, at_, keeps, at_.token ▸ fileBody_ends n t run⟩

theorem Goes.standaloneBody : Goes c (do
    let type ← annotatedType g
    unless ← isAt .endOfFileToken do Parser.failHere .unexpectedToken
    return type) fun n d => c.Keeps [n] d ∧ d.token.kind = .endOfFileToken := by
  refine (Records.annotatedType c).bind fun type d h => .asking (.isAt _) ?_
  dsimp only
  split
  · exact .pure ⟨h, beq_iff_eq.1 ‹_›⟩
  · exact .failingHere ..

theorem State.Fresh.accepted (h : s.Fresh text) {p : Parser Node}
    (body : ∀ c, Goes c p fun n d => c.Keeps [n] d ∧ d.token.kind = .endOfFileToken) {n : Node} {t : State}
    (run : (Parser.next >>= fun _ => p) settings s = .ok n t) : n.Accepted text s.lexer.offset := by
  rw [bind_apply] at run
  split at run
  case h_1 u first =>
    obtain ⟨c, at_, rfl, gap⟩ := h.first first
    obtain ⟨d, -, keeps, last⟩ := (body c).ends settings u at_ n t run
    exact keeps.accepted gap last
  case h_2 => cases run

theorem SourceFile.accepted {name : String} {options : Options} {text : List Char} {file : SourceFile}
    (ok : SourceFile.parse name options text = .ok file) :
    file.tree.Accepted text (State.pastShebang text options).lexer.offset := by
  obtain ⟨fuel, s, -, run, -⟩ := SourceFile.of_parse_fileRest ok
  exact (State.fresh_pastShebang text options).accepted (fun _ => .fileBody) run

theorem StandaloneType.accepted {name : String} {options : Options} {text : List Char}
    {type : StandaloneType} (ok : StandaloneType.parse name options text = .ok type) :
    type.tree.Accepted text 0 := by
  obtain ⟨s, run, -⟩ := StandaloneType.of_parse ok
  have fresh : (State.ofText text options).Fresh text := ⟨Nat.zero_le _, rfl, rfl, rfl, rfl⟩
  exact fresh.accepted (fun _ => .standaloneBody) (runWith_of_runOn run)

def SourceFile.contents (file : SourceFile) : List Node := file.tree.children.flatMap Node.children

theorem SourceFile.within_of_mem_contents {file : SourceFile} {n : Node}
    (mem : n ∈ file.contents) : file.tree.Within n := by
  obtain ⟨statement, top, below⟩ := List.mem_flatMap.1 mem
  exact .inside top (.inside below (.self n))

theorem SourceFile.of_contents (name : String) (options : Options) (text : List Char)
    (see : List Node → Bool)
    (shown : (SourceFile.parse name options text).toOption.any (see ·.contents) = true) :
    ∃ file, SourceFile.parse name options text = .ok file ∧ see file.contents = true := by
  cases parsed : SourceFile.parse name options text with
  | error e => rw [parsed] at shown; cases shown
  | ok file => exact ⟨file, rfl, by rwa [parsed] at shown⟩

theorem SourceFile.of_seen (name : String) (options : Options) (text : List Char) (see : Node → Bool)
    (shown : (SourceFile.parse name options text).toOption.any (·.contents.any see) = true) :
    ∃ file n, SourceFile.parse name options text = .ok file ∧ file.tree.Within n ∧ see n = true := by
  obtain ⟨file, ok, shown⟩ := SourceFile.of_contents name options text (·.any see) shown
  obtain ⟨n, mem, seen⟩ := List.any_eq_true.1 shown
  exact ⟨file, n, ok, SourceFile.within_of_mem_contents mem, seen⟩

end TypedScript
