import TypedScript.Proofs.Concluding.Declaration
import TypedScript.Proofs.Diagnostic.Order
import TypedScript.Proofs.Grammar.Rule
import TypedScript.Proofs.Grammar.Text

/-! Statements come to an end and report what is in the text, and so does the grammar as a whole: one
unit of fuel is enough for each step down and two for each character. -/

namespace TypedScript

open TypedScript.Parser Grammar

variable {g : Grammar} {h : Nat} {c : Position}

namespace Concluding

instance expressionStatement : Concluding g (h + 1) (Grammar.expressionStatement g) := by
  unfold Grammar.expressionStatement; infer_instance

instance ifStatement : Concluding g h (Grammar.ifStatement g) := by
  unfold Grammar.ifStatement; infer_instance

instance returnStatement : Concluding g h (Grammar.returnStatement g) := by
  refine ⟨fun c => .asking .start (.looking fun s _ => .reading fun settings => ?_)⟩
  dsimp only
  split <;> exact at_ c

instance throwStatement : Concluding g h (Grammar.throwStatement g) := by
  unfold Grammar.throwStatement; infer_instance

instance emptyStatement : Concluding g h Grammar.emptyStatement := by
  unfold Grammar.emptyStatement; infer_instance

instance statementRule : Concluding g (h + 1) (Grammar.statement g) := by
  refine ⟨fun c => .asking .start (.asking .kind ?_)⟩
  split <;> exact at_ c

instance rule (q : Production) : Concluding g q.height (Grammar.rule g q) := by
  cases q with
  | statement => exact inferInstanceAs (Concluding g 1 (Parser.guarded (Grammar.statement g)))
  | _ => dsimp only [Grammar.rule, Production.height]; infer_instance

end Concluding

theorem Grammar.concludesBelow_withFuel (fuel : Nat) :
    (withFuel fuel).ConcludesBelow fuel := by
  refine ⟨sound_withFuel fuel, ?_⟩
  induction fuel with
  | zero => exact fun _ _ _ lt => absurd lt (Nat.not_lt_zero _)
  | succ fuel ih =>
    exact fun q c ready lt =>
      Concluding.at_ (p := rule (withFuel fuel) q) c fuel ⟨sound_withFuel fuel, ih⟩ (Nat.le_of_lt_succ lt)

variable {α : Type} {s t : State} {text : List Char}

def Parser.ReportsInside (text : List Char) : EStateM.Result Failure State α → Prop
  | .ok _ t => t.DiagnosticsInside text
  | .error e _ => e.Inside text

theorem Parser.Concluded.reportsInside {c : Position} {x : EStateM.Result Failure State α}
    (h : Concluded c x) : ReportsInside c.text x := by
  cases x with
  | ok => exact h.1.noted
  | error => exact h.2

namespace Parser

theorem reportsInside_next (fresh : s.Fresh text) (tidy : s.Tidy text) (settings : Settings) :
    ReportsInside text (next settings s) ∧
      ∀ u t, next settings s = .ok u t → ∃ c, t.At c ∧ c.text = text ∧ t.Tidy text := by
  obtain ⟨read, same, offset, -⟩ := s.lexer.scan_spec (fresh.text ▸ fresh.offset_le)
  have prevEnd : s.lexer.token.stop ≤ s.lexer.scan.token.start := fresh.stop ▸ Nat.zero_le _
  obtain ⟨c, at_, same', -⟩ := State.At.of_read s.scanned (same ▸ read) offset prevEnd
  have here : c.text = text := same'.trans (same.trans fresh.text)
  have errs : s.lexer.ErrsInside := fun e mem => fresh.text ▸ tidy.pending e mem
  have scanned : s.scanned.Tidy c.text :=
    here ▸ tidy.relex rfl (errs.scan (fresh.text ▸ fresh.offset_le)) (same.trans fresh.text)
  have out := @ConcludingAt.checkLexical c settings _ c scanned at_ (.refl c)
  rw [next_apply]
  refine ⟨here ▸ out.reportsInside, fun u t ran => ?_⟩
  rw [ran] at out
  obtain ⟨tidy, d, at_, reaches⟩ := out
  exact ⟨d, at_, reaches.text.trans here, here ▸ tidy⟩

theorem reportsInside_concluding (fresh : s.Fresh text) (tidy : s.Tidy text) (name : String)
    (options : Options) {body : Grammar → Parser α} (concluding : ∀ g, Concluding g 2 (body g)) :
    ReportsInside text
    ((next >>= fun _ => body (.forLength text.length)) (.ofText name options text) s) := by
  obtain ⟨told, begun⟩ := reportsInside_next fresh tidy (.ofText name options text)
  rw [bind_apply]
  cases ran : next (.ofText name options text) s with
  | error e t =>
    rw [ran] at told
    exact told
  | ok u t =>
    obtain ⟨c, at_, same, tidy⟩ := begun u t ran
    have turns : c.text.length < (Settings.ofText name options text).turns := by
      rw [same]
      exact Nat.lt_add_of_pos_right (by decide)
    have room : c.room 2 ≤ 16 * (text.length + 2) := by
      simp only [Position.room, same]
      omega
    have below : (Grammar.forLength text.length).ConcludesBelow (16 * (text.length + 2)) :=
      concludesBelow_withFuel _
    have out := (concluding _).anywhere c _ below room _ t turns at_ (same ▸ tidy)
    have told := out.reportsInside
    rwa [same] at told

theorem reportsInside_file (name : String) (options : Options) (text : List Char) :
    ReportsInside text
    (file (.forLength text.length) (.ofText name options text) (.ofText text options)) := by
  have statements (g : Grammar) : Concluding g 2 (fileBody g) := by
    unfold fileBody; infer_instance
  have tidy : (State.pastShebang text options).Tidy text := by
    refine ⟨fun _ mem => absurd mem List.not_mem_nil, ?_⟩
    simp only [State.pastShebang, Lexer.skipShebang]
    split <;> rintro _ ⟨⟩
  exact reportsInside_concluding (State.fresh_pastShebang text options) tidy name options statements

theorem reportsInside_standaloneType (name : String) (options : Options) (text : List Char) :
    ReportsInside text (standaloneType (.forLength text.length) (.ofText name options text)
      (.ofText text options)) := by
  have type (g : Grammar) : Concluding g 2 (do
      let type ← annotatedType g
      unless ← isAt .endOfFileToken do failHere .unexpectedToken
      return type) := by
    infer_instance
  have fresh : (State.ofText text options).Fresh text := ⟨Nat.zero_le _, rfl, rfl, rfl, rfl⟩
  have tidy : (State.ofText text options).Tidy text := ⟨nofun, nofun⟩
  exact reportsInside_concluding fresh tidy name options type

theorem ReportsInside.runOn {p : Grammar → Parser α} {name : String} {options : Options} {text : List Char}
    (h : ReportsInside text (p (.forLength text.length) (.ofText name options text)
      (.ofText text options))) :
    (∀ e, Parser.runOn p name options text = .error e → e.Inside text) ∧
      ∀ x s, Parser.runOn p name options text = .ok (x, s) → s.DiagnosticsInside text := by
  unfold Parser.runOn
  dsimp only
  cases ran : p (.forLength text.length) (.ofText name options text) (.ofText text options) with
  | ok x s =>
    rw [ran] at h
    refine ⟨nofun, fun y t eq => ?_⟩
    cases eq
    exact h
  | error e s =>
    rw [ran] at h
    refine ⟨fun d eq => ?_, fun y t eq => ?_⟩
    · cases eq
      exact h
    · cases eq

end Parser

namespace SourceFile

variable {name : String} {options : Options} {e : Failure} {file : SourceFile}

theorem inside_of_parse_error (h : parse name options text = .error e) : e.Inside text := by
  refine (Parser.reportsInside_file name options text).runOn.1 e ?_
  unfold parse at h
  cases run : Parser.runOn Grammar.file name options text with
  | error d => rw [run] at h; cases h; rfl
  | ok x => rw [run] at h; cases h

theorem inside_of_parse (h : parse name options text = .ok file) :
    ∀ d ∈ file.diagnostics, d.Inside text := by
  obtain ⟨s, run, -, sorted⟩ := of_parse h
  intro d mem
  exact (Parser.reportsInside_file name options text).runOn.2 _ s run d
    (s.diagnostics.sort_perm.mem_iff.1 (sorted ▸ mem))

end SourceFile

namespace StandaloneType

variable {name : String} {options : Options} {e : Failure} {type : StandaloneType}

theorem inside_of_parse_error (h : parse name options text = .error e) : e.Inside text := by
  refine (Parser.reportsInside_standaloneType name options text).runOn.1 e ?_
  unfold parse at h
  cases run : Parser.runOn Grammar.standaloneType name options text with
  | error d => rw [run] at h; cases h; rfl
  | ok x => rw [run] at h; cases h

theorem inside_of_parse (h : parse name options text = .ok type) :
    ∀ d ∈ type.diagnostics, d.Inside text := by
  obtain ⟨s, run, sorted⟩ := of_parse h
  intro d mem
  exact (Parser.reportsInside_standaloneType name options text).runOn.2 _ s run d
    (s.diagnostics.sort_perm.mem_iff.1 (sorted ▸ mem))

end StandaloneType

end TypedScript
