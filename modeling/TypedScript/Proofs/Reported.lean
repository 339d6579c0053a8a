import TypedScript.Proofs.Diagnostic.Order
import TypedScript.Proofs.Grammar.Text
import TypedScript.Proofs.Remarks.Rule

/-! What is left of a parse: what is reported of a text, beside its tree, and where the parser has come
back to. -/

namespace TypedScript

open TypedScript.Parser Grammar

variable {g : Grammar}

theorem FullReport.fileRest : FullReport g (Grammar.fileRest g) := by
  refine fun c => .quiet .next fun _ => (inScope _ (statementsUpTo _)).and fun statements => ?_
  refine .look (fun s t v like => by rw [like.lexer, like.context]; rfl) fun s _ => .pure ?_
  have own (info : NodeInfo) : (Node.mk info (.sourceFile statements)).ownRemarks = [] := rfl
  simp [remarksWithin_mk, own]

theorem FullReport.standaloneType : FullReport g (Grammar.standaloneType g) := by
  refine fun c => .quiet .next fun _ => annotatedType.and fun type => .quiet (.isAt _) fun _ => ?_
  dsimp only
  split
  · exact .pure (by simp)
  · exact .failingHere ..

/-- The diagnostics of a finished text: those that its tree gives rise to, each once, among others
that do not show in it. They come in the order of the text. -/
structure Node.Explains (tree : Node) (file : String) (ds : List Diagnostic) : Prop where
  perm : (ds.filter fun d => treeCodes.contains d.code).Perm (tree.remarks.map (·.diagnostic file))
  ordered : ds.Pairwise fun a b => a.start ≤ b.start

theorem Remark.explains {tree : Node} {file : String} {ds : Diagnostics} {l : List Remark}
    (items : ds.items = l.map (·.diagnostic file)) (known : counted l = tree.remarksWithin) :
    tree.Explains file ds.sort.items where
  perm := by
    refine (ds.sort_perm.filter _).trans ?_
    rw [items, List.filter_map]
    exact (Multiset.coe_eq_coe.1 known).map _
  ordered := by
    have placed : ∀ d ∈ ds.items, d.file = some file := fun d mem => by
      rw [items] at mem
      obtain ⟨r, -, rfl⟩ := List.mem_map.1 mem
      rfl
    exact Diagnostics.sort_starts placed

theorem FullReport.explains {fuel : Nat} {p : Parser Node} (h : FullReport (withFuel fuel) p)
    {settings : Settings} {s t : State} {tree : Node} (fresh : s.diagnostics.items = [])
    (run : p settings s = .ok tree t) : tree.Explains settings.file t.diagnostics.sort.items := by
  obtain ⟨l, items, known⟩ :=
    ((h s.context).reportsFaithfully (reportsFaithfully_withFuel fuel) settings s rfl).notes tree t run
  refine Remark.explains (l := l) (by rw [items, fresh, List.nil_append]) ?_
  simpa using known

/-- Whatever has been reported of a text can be told from its tree. -/
theorem parse_explains (name : String) (options : Options) (text : List Char) :
    (∀ file, SourceFile.parse name options text = .ok file →
      file.tree.Explains name file.diagnostics) ∧
    ∀ type, StandaloneType.parse name options text = .ok type →
      type.tree.Explains name type.diagnostics := by
  refine ⟨fun file ok => ?_, fun type ok => ?_⟩
  · obtain ⟨s, run, -, diagnostics⟩ := SourceFile.of_parse ok
    rw [diagnostics]
    have run := runWith_of_runOn run
    rw [runWith, file_apply] at run
    exact FullReport.fileRest.explains rfl run
  · obtain ⟨s, run, diagnostics⟩ := StandaloneType.of_parse ok
    rw [diagnostics]
    exact FullReport.standaloneType.explains rfl (runWith_of_runOn run)

def SourceFile.reportedOn (name : String) (options : Options) (text : List Char) :
    Option (List Nat) :=
  (Parser.runOn Grammar.file name options text).toOption.map fun x =>
    x.2.diagnostics.items.map Diagnostic.code

theorem SourceFile.of_reportedOn {name : String} {options : Options} {text : List Char}
    {codes : List Nat} (h : reportedOn name options text = some codes) :
    ∃ file, SourceFile.parse name options text = .ok file ∧
      (file.diagnostics.map Diagnostic.code).Perm codes := by
  unfold reportedOn at h
  cases run : Parser.runOn Grammar.file name options text with
  | error e => rw [run] at h; cases h
  | ok x =>
    rw [run] at h
    cases h
    exact ⟨_, by rw [SourceFile.parse, run]; rfl, x.2.diagnostics.sort_perm.map _⟩

theorem parse_explains_class :
    ∃ file, SourceFile.parse "a.ts" {} "declare class A { #a; #a; m(): readonly A {} }".toList =
        .ok file ∧
      (file.diagnostics.map Diagnostic.code).Perm [2300, 1354, 1183] ∧
      file.tree.Explains "a.ts" file.diagnostics := by
  have codes : SourceFile.reportedOn "a.ts" {}
      "declare class A { #a; #a; m(): readonly A {} }".toList = some [2300, 1354, 1183] := by
    decide +kernel
  obtain ⟨file, ok, perm⟩ := SourceFile.of_reportedOn codes
  exact ⟨file, ok, perm, (parse_explains ..).1 file ok⟩

def Node.restThenOptional (n : Node) : Bool :=
  match n.shape with
  | .tupleType [first, second] => (elementRole first).isRest && (elementRole second).isOptional
  | _ => false

/-- A rest is in order after a rest, even if it is marked as optional, too. -/
theorem parse_explains_differs :
    ¬∀ (name : String) (options : Options) (text : List Char) (file : SourceFile),
      SourceFile.parse name options text = .ok file →
      ∀ (n e : Node) (earlier later : List Node), file.tree.Within n →
        n.shape = .tupleType (earlier ++ e :: later) → (elementRole e).isOptional = true →
        earlier.any (fun x => (elementRole x).isRest) = true →
        ∃ d ∈ file.diagnostics, d.code = 1266 := by
  intro claim
  have tuple : (SourceFile.parse "a.ts" {} "type T = [...a: A[], ...b?: B];".toList).toOption.map
      (fun file => (file.tree.children.flatMap Node.children).any Node.restThenOptional) =
        some true := by
    decide +kernel
  have codes : SourceFile.reportedOn "a.ts" {} "type T = [...a: A[], ...b?: B];".toList =
      some [] := by
    decide +kernel
  obtain ⟨file, ok, perm⟩ := SourceFile.of_reportedOn codes
  rw [ok] at tuple
  obtain ⟨n, inside, is⟩ := List.any_eq_true.1 (Option.some.inj tuple)
  obtain ⟨statement, top, below⟩ := List.mem_flatMap.1 inside
  have within : file.tree.Within n := .inside top (.inside below (.self n))
  unfold Node.restThenOptional at is
  split at is
  · rename_i first second shape
    obtain ⟨rest, optional⟩ := Bool.and_eq_true_iff.1 is
    obtain ⟨d, mem, -⟩ := claim "a.ts" {} _ file ok n second [first] [] within shape optional
      (by simp [rest])
    have none : file.diagnostics = [] := by simpa using perm.eq_nil
    rw [none] at mem
    cases mem
  · cases is

theorem AnyReport.keeps {α : Type} {fuel : Nat} {p : Parser α} (h : AnyReport (withFuel fuel) p)
    (settings : Settings) (s : State) : Leaves p settings s s.Keeps :=
  ((h s.context).reportsFaithfully (reportsFaithfully_withFuel fuel) settings s rfl).keeps

theorem State.Keeps.skipShebang (s : State) :
    s.Keeps { s with lexer := s.lexer.skipShebang } := by
  have same : s.lexer.skipShebang.frames = s.lexer.frames ∧
      s.lexer.skipShebang.speculating = s.lexer.speculating := by
    unfold Lexer.skipShebang
    split <;> exact ⟨rfl, rfl⟩
  exact ⟨same.1, same.2, rfl, rfl, rfl⟩

/-- Every construct, every parser that is made of the steps of the grammar, and the parsers of whole
texts, from any state and on any way out. -/
theorem grammar_keeps (fuel : Nat) (settings : Settings) (s : State) :
    (∀ q, Leaves (withFuel fuel q) settings s s.Keeps) ∧
    (∀ {α : Type} (p : Parser α), AnyReport (withFuel fuel) p → Leaves p settings s s.Keeps) ∧
    Leaves (file (withFuel fuel)) settings s s.Keeps ∧
    Leaves (standaloneType (withFuel fuel)) settings s s.Keeps := by
  refine ⟨fun q => (reportsFaithfully_withFuel fuel q settings s).keeps, fun p h => h.keeps settings s, ?_,
    FullReport.standaloneType.anyReport.keeps settings s⟩
  refine .ofEq (file_apply _ settings s).symm ?_
  exact (FullReport.fileRest.anyReport.keeps settings _).mono fun t => (State.Keeps.skipShebang s).trans

def Parser.endsFatally {α : Type} : EStateM.Result Failure State α → Bool
  | .error (.fatal _) _ => true
  | _ => false

theorem Parser.Leaves.failing {α : Type} {p : Parser α} {settings : Settings} {s : State}
    {R : State → Prop} (h : Leaves p settings s R) (failed : endsFatally (p settings s) = true) :
    ∃ d t, p settings s = .error (.fatal d) t ∧ R t := by
  cases run : p settings s with
  | ok => rw [run] at failed; cases failed
  | error e t =>
    cases e with
    | fatal d => exact ⟨d, t, rfl, h.fatal run⟩
    | outOfFuel => rw [run] at failed; cases failed

theorem grammar_keeps_block :
    let settings := Settings.ofText "a.ts" {} "\x7b class A \x7b m(): B<C<".toList
    let s := State.ofText "\x7b class A \x7b m(): B<C<".toList {}
    ∃ d t, (next >>= fun _ => block (withFuel 40)) settings s = .error (.fatal d) t ∧ s.Keeps t :=
  ((grammar_keeps 40 _ _).2.1 (next >>= fun _ => block (withFuel 40))
    (NoReport.next.anyReport.bind fun _ => FullReport.block.anyReport)).failing (by decide +kernel)

end TypedScript
