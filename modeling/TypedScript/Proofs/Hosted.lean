import TypedScript.Proofs.Limit
import TypedScript.Proofs.Parser.Returns
import TypedScript.Proofs.Shifted.Rule

/-! A type is the same wherever it stands: by itself, in an alias or after the name of a variable. -/

namespace TypedScript

open TypedScript.Parser Grammar

theorem Lexer.scan_space {l : Lexer} {rest : List Char}
    (skips : l.frames.current.preservesSpace = false) (ahead : l.cursor.rest = ' ' :: rest) :
    l.scan = { l with cursor := l.cursor.advance 1 }.scan := by
  have read : Trivia.read l.cursor.offset l.cursor.rest =
      Trivia.read (l.cursor.advance 1).offset (l.cursor.advance 1).rest := by
    change _ = Trivia.read (l.cursor.offset + 1) (l.cursor.rest.drop 1)
    rw [ahead]
    rfl
  have le := (Trivia.readFrom_stop 0 (l.cursor.advance 1).offset (l.cursor.advance 1).rest).1
  have skipped : l.skipTrivia = { l with cursor := l.cursor.advance 1 }.skipTrivia := by
    simp only [skipTrivia, read]
    congr 2
    refine Cursor.ext rfl ?_
    simp only [Cursor.advance, Trivia.read] at le ⊢
    omega
  rw [scan_eq skips, scan_eq (l := { l with cursor := l.cursor.advance 1 }) skips, skipped]

theorem Grammar.standaloneType_ok {g : Grammar} {settings : Settings} {s t : State} {type : Node}
    (run : standaloneType g settings s = .ok type t) :
    ∃ u, next settings s = .ok () u ∧ annotatedType g settings u = .ok type t ∧
      t.lexer.token.kind = .endOfFileToken := by
  rw [standaloneType, bind_apply] at run
  cases first : next settings s with
  | error e u => rw [first] at run; cases run
  | ok x u =>
    rw [first] at run
    dsimp only at run
    rw [typeBody, bind_apply] at run
    cases found : annotatedType g settings u with
    | error e v => rw [found] at run; cases run
    | ok y v =>
      rw [found] at run
      change (if (v.lexer.token.kind == .endOfFileToken) = true then _ else _ : Parser Node) settings v = _
        at run
      split at run
      · cases run
        exact ⟨u, rfl, found, beq_iff_eq.1 ‹_›⟩
      · cases run

theorem Diagnostics.sort_shift {name : String} {ds es : Diagnostics} (n : Nat)
    (placed : ∀ d ∈ ds.items, d.file = some name ∧ d.span.isSome)
    (moved : es.items = ds.items.map (.shift n)) :
    es.sort.items = ds.sort.items.map (.shift n) := by
  have same (a : Diagnostic) (ha : a ∈ ds.items) (b : Diagnostic) (hb : b ∈ ds.items) :
      a.sortsBefore b = (a.shift n).sortsBefore (b.shift n) := by
    have start (d : Diagnostic) (mem : d ∈ ds.items) : (d.shift n).start = d.start + n := by
      obtain ⟨span, is⟩ := Option.isSome_iff_exists.1 (placed d mem).2
      simp [Diagnostic.start, Diagnostic.shift, is, Span.shift]
    have file : a.file = b.file := (placed a ha).1.trans (placed b hb).1.symm
    have file' : (a.shift n).file = (b.shift n).file := file
    rw [Diagnostic.sortsBefore, Diagnostic.sortsBefore, if_pos file, if_pos file', start a ha, start b hb]
    simp
  rw [sort, sort, moved, List.map_mergeSort same]

section

variable {name : String} {options : Options} {text : List Char} {type : Node} {s : State} {h : Host}

def Settings.hosted (name : String) (options : Options) (h : Host) (text : List Char) : Settings :=
  .ofText name (options.limitedTo (options.maxRecursionDepth + 1)) (h.around text)

theorem Settings.hosted_file (name : String) (options : Options) (h : Host) (text : List Char) :
    (hosted name options h text).file = (ofText name options text).file := rfl

theorem Settings.hosted_options (name : String) (options : Options) (h : Host) (text : List Char) :
    (hosted name options h text).options =
      (ofText name options text).options.limitedTo
        ((ofText name options text).options.maxRecursionDepth + 1) := rfl

theorem Settings.two_le_turns (name : String) (options : Options) (text : List Char) :
    2 ≤ (ofText name options text).turns := Nat.le_add_left _ _

theorem Settings.turns_hosted (name : String) (options : Options) (h : Host)
    (after : h.after = semiLine) (text : List Char) :
    (ofText name options text).turns + 2 ≤ (hosted name options h text).turns := by
  have := congrArg List.length after
  simp only [Settings.hosted, Settings.ofText, Host.around, List.length_append, semiLine,
    List.length_cons, List.length_nil] at this ⊢
  omega

def Pairing.hosting (name : String) (options : Options) {h : Host} (after : h.after = semiLine)
    (text : List Char) (scopes : List Scope) : Pairing where
  host := h
  settings := .ofText name options text
  settings' := .hosted name options h text
  levels := 1
  file := Settings.hosted_file name options h text
  options := Settings.hosted_options name options h text
  turns := Settings.two_le_turns name options text
  turns' := Settings.turns_hosted name options h after text
  outer := []
  outer' := []
  below := []
  below' := scopes

theorem Pairing.hosting_opens (after : h.after = semiLine) {t : State} {scopes : List Scope} {n : Nat}
    {x : Lexeme} (upto : t.Upto (h.around text) { ambient := options.ambient } 1 scopes n x)
    (blank : ∃ before, h.before = before ++ [' '] ∧ before.length = n + x.length) {u : State}
    (first : next (.ofText name options text) (.ofText text options) = .ok () u) :
    Returns (.hosted name options h text) t next fun _ v =>
      (Pairing.hosting name options after text scopes).Ready ⟨false, false⟩ .either ⟨[], [], 0⟩ u v := by
  obtain ⟨before, split, length⟩ := blank
  have shift : h.shift = n + x.length + 1 := by
    rw [Host.shift, split, List.length_append, length]
    rfl
  have skips : t.lexer.frames.current.preservesSpace = false := by
    rw [upto.lexer.frames]
    rfl
  have ahead : t.lexer.cursor.rest = ' ' :: (text ++ h.after) := by
    have offset : t.lexer.cursor.offset = before.length := upto.lexer.offset.trans length.symm
    have whole : t.lexer.cursor.text = before ++ ' ' :: (text ++ h.after) := by
      refine upto.lexer.text.trans ?_
      rw [Host.around, split, List.append_assoc]
      rfl
    rw [t.lexer.cursor.rest_eq, offset, whole, List.drop_left]
  have sameRest : Lexer.AtSameRest h (State.ofText text options).lexer
      { t.lexer with cursor := t.lexer.cursor.advance 1 } := by
    refine ⟨upto.lexer.text, ?_, Nat.zero_le _, rfl, upto.lexer.error⟩
    change t.lexer.offset + 1 = 0 + h.shift
    rw [upto.lexer.offset, shift, Nat.zero_add]
  have reaches : Lexer.ScanOutcome h (State.ofText text options).scanned.lexer t.scanned.lexer := by
    change Lexer.ScanOutcome h _ t.lexer.scan
    rw [Lexer.scan_space skips ahead]
    exact sameRest.scan (congrArg FrameStack.current upto.lexer.frames) rfl
  have aligned : (hosting name options after text scopes).Aligned ⟨[], [], 0⟩
      (State.ofText text options).scanned t.scanned := by
    refine { frames := ?_, frames' := ?_, prevEnd := fun k => ?_, diagnostics := upto.diagnostics,
             placed := fun d mem => absurd mem List.not_mem_nil, context := upto.context,
             depth := rfl, depth' := upto.depth, scopes := ⟨[], rfl, rfl, upto.scopes⟩ }
    · exact (Lexer.Onward.scan _).frames
    · exact (Lexer.Onward.scan _).frames.trans upto.lexer.frames
    · change max t.lexer.token.stop (k + h.shift) = max 0 k + h.shift
      rw [upto.lexer.stop, shift]
      omega
  have met := Relates.reaching (m := ⟨false, false⟩) (R := fun _ _ => True) trivial aligned reaches
  rw [next_apply] at first
  change EndTogether _ _ _ _ (checkLexical (.ofText name options text) _) _ at met
  rw [first] at met
  generalize run : checkLexical _ t.scanned = r at met
  cases met with
  | @ok _ y _ v _ aligned place =>
    exact ⟨y, v, run, { aligned with
      within := ⟨rfl, rfl⟩, closed := fun closed => absurd closed Bool.false_ne_true, place }⟩
  | resultAtEnd loose => cases loose

structure State.PastType (h : Host) (s t : State) : Prop where
  atEnd : t.lexer.AtEnd
  kind : t.lexer.token.kind = .semicolonToken
  diagnostics : t.diagnostics.sort.items = s.diagnostics.sort.items.map (.shift h.shift)

theorem Pairing.hosting_type (after : h.after = semiLine) {scopes : List Scope} {u v : State}
    (ready : (hosting name options after text scopes).Ready ⟨false, false⟩ .either ⟨[], [], 0⟩ u v)
    {fuel : Nat} (more : Nat)
    (found : annotatedType (withFuel fuel) (.ofText name options text) u = .ok type s)
    (last : s.lexer.token.kind = .endOfFileToken) :
    Returns (.hosted name options h text) v (annotatedType (withFuel (more + fuel + 2)))
      fun y t => y = type.shift h.shift ∧ s.PastType h t := by
  obtain ⟨g, left, right⟩ := Pair.exists_withFuel (hosting name options after text scopes) more fuel
  have met := Relates.annotatedType g _ _ _ ready
  rw [left, right] at met
  change EndTogether _ _ _ _ (annotatedType _ (.ofText name options text) u) _ at met
  rw [found] at met
  generalize run : annotatedType _ _ v = r at met
  cases met with
  | @ok _ y _ t same aligned place =>
    have ended : Lexer.AtEnds h s.lexer t.lexer := by
      refine place.resolve_left fun here => ?_
      exact here.inside.elim (fun none => List.cons_ne_nil _ _ (after.symm.trans none)) fun ne => ne last
    exact ⟨y, t, run, same, ended.right, ended.kind',
      Diagnostics.sort_shift _ aligned.placed aligned.diagnostics⟩
  | resultAtEnd loose => cases loose

end

theorem Parser.Returns.file {g : Grammar} {settings : Settings} {text : List Char} {options : Options}
    {x : Lexeme} {P : Node → Diagnostics → Prop} (turns : 2 ≤ settings.turns)
    (plain : State.pastShebang text options = .ofText text options) (follows : x.Follows text 0 0)
    (ne : x.kind ≠ .endOfFileToken)
    (h : ∀ t : State, t.Upto text { ambient := options.ambient } 0 [⟨.file, []⟩] 0 x →
      Returns settings t (g .statement) fun n u =>
        P n u.diagnostics ∧ u.lexer.token.kind = .endOfFileToken) :
    Returns settings (.ofText text options) (Grammar.file g) fun tree t =>
      ∃ info n, tree = .mk info (.sourceFile [n]) ∧ P n t.diagnostics := by
  have start : (State.pastShebang text options).Upto text { ambient := options.ambient } 0 [] 0
      { kind := .unknown, length := 0 } := by
    rw [plain]
    exact ⟨⟨rfl, rfl, rfl, rfl, rfl, rfl, rfl, rfl, rfl⟩, Nat.le_refl _, rfl, rfl, rfl, rfl⟩
  have asks (t : State) {k : Kind} (is : t.lexer.token.kind = k) {P : Bool → State → Prop}
      (h : P (k != .endOfFileToken) t) :
      Returns settings t (return !(← Parser.isAtAny
        [.endOfFileToken, .endOfFileToken]) : Parser Bool) P := by
    refine .isAtAny is (.pure ?_)
    cases k <;> exact h
  have statements (t : State) (upto : t.Upto text { ambient := options.ambient } 0 [⟨.file, []⟩] 0 x) :
      Returns settings t (statementsUpTo g .endOfFileToken) fun ns u =>
        ∃ n, ns = [n] ∧ P n u.diagnostics := by
    refine .collectOne turns (asks t upto.lexer.kind ⟨bne_iff_ne.2 ne, ?_⟩)
    refine (h t upto).mono fun n u ⟨holds, kind⟩ => asks u kind ⟨rfl, n, rfl, holds⟩
  change Returns settings (State.pastShebang text options) (Parser.next >>= fun _ => fileBody g) _
  refine .bind (.next start follows) fun _ t upto => ?_
  refine .bind (P := fun ns u => ∃ n, ns = [n] ∧ P n u.diagnostics) (.inScope .file (statements _ ?_)) ?_
  · exact { upto with scopes := by rw [ScopeTracker.enter_scopes, upto.scopes] }
  · rintro _ u ⟨n, rfl, holds⟩
    exact .look (.pure ⟨_, n, rfl, holds⟩)

theorem State.PastType.ends {h : Host} {s t : State} (past : s.PastType h t)
    (settings : Settings) : Returns settings t next fun _ u =>
      u.diagnostics.sort.items = s.diagnostics.sort.items.map (.shift h.shift) ∧
        u.lexer.token.kind = .endOfFileToken := by
  have scanned := past.atEnd.scan
  have fine : t.scanned.lexer.error = none := scanned.1.error
  refine ⟨(), t.scanned.cleared, ?_, past.diagnostics, scanned.2⟩
  rw [next_apply, checkLexical_apply, fine]

theorem Parser.Returns.declarationOr {g : Grammar} {settings : Settings} {s : State} {d : DeclarationStart}
    {otherwise : Parser Node} {P : State → Prop} {Q : Node → State → Prop}
    (starts : Returns settings s declarationStart? fun found t => found = some d ∧ P t)
    (h : ∀ t, P t → Returns settings t (declarationOf g d) Q) :
    Returns settings s (Grammar.declarationOr g otherwise) Q := by
  rw [Grammar.declarationOr, declaration?, bind_assoc]
  refine .bind starts ?_
  rintro _ t ⟨rfl, holds⟩
  dsimp only
  rw [map_eq_pure_bind, bind_assoc]
  refine .bind (h t holds) fun n u done => ?_
  rw [pure_bind]
  exact .pure done

/-- An alias around a type. -/
def aliasHost : Host := ⟨"type A = ".toList, semiLine, .inr rfl⟩

/-- A variable around its type. -/
def annotationHost : Host := ⟨"let v: ".toList, semiLine, .inr rfl⟩

theorem Parser.first_token {name : String} {options : Options} {text : List Char} {u : State}
    (first : next (.ofText name options text) (.ofText text options) = .ok () u) :
    u.lexer.token = (Lexer.ofText text).scan.token := by
  rw [next_apply, checkLexical_apply] at first
  split at first
  · cases first
    rfl
  · cases first

section

variable {name : String} {options : Options} {text : List Char} {type : Node} {s u : State}
  {fuel : Nat} (more : Nat)
  (first : next (.ofText name options text) (.ofText text options) = .ok () u)
  (found : annotatedType (withFuel fuel) (.ofText name options text) u = .ok type s)
  (last : s.lexer.token.kind = .endOfFileToken)
include first found last

theorem aliasHost_typeAlias (plain : (Lexer.ofText text).scan.token.isSoft .intrinsicWord = false)
    {t : State} (upto : t.Upto (aliasHost.around text) { ambient := options.ambient } 1
      [⟨.file, []⟩] 0 { kind := .identifier, length := 4, value := "type" }) (start : Nat) :
    Returns (.hosted name options aliasHost text) t (typeAlias (withFuel (more + fuel + 2)) start {})
      fun n v => ((∃ info name, n = .mk info (.typeAlias name none (type.shift aliasHost.shift))) ∧
        v.diagnostics.sort.items = s.diagnostics.sort.items.map (.shift aliasHost.shift)) ∧
          v.lexer.token.kind = .endOfFileToken := by
  have second : Lexeme.Follows (aliasHost.around text) 4 5
      { kind := .identifier, length := 1, value := "A" } := ⟨rfl, by decide, rfl, rfl, rfl⟩
  have third : Lexeme.Follows (aliasHost.around text) 6 7 { kind := .equalsToken, length := 1 } :=
    ⟨rfl, by decide, rfl, rfl, rfl⟩
  refine .bind (.expectSoft (.next upto second) upto.lexer.soft) fun _ t upto => ?_
  refine .bind (.identifier (.next upto third) upto.lexer.kind) fun name t named => ?_
  refine .bind (.declareName (by decide) named.2 name) fun _ t declared => ?_
  obtain ⟨scopes, upto⟩ := declared
  refine .bind (P := fun types v => types = none ∧ v = t)
    (.isAt upto.lexer.kind (.pure ⟨rfl, rfl⟩)) ?_
  rintro _ _ ⟨rfl, rfl⟩
  have opens := Pairing.hosting_opens rfl upto ⟨"type A =".toList, rfl, rfl⟩ first
  refine .bind (.expect opens upto.lexer.kind) fun _ v ready => ?_
  have ordinary : v.lexer.token.isSoft .intrinsicWord = false := by
    rcases ready.place.cases with here | ended
    · rw [Token.isSoft, here.token.soft, first_token first]
      exact plain
    · exact ended.right.isSoft _
  refine .bind (P := fun intrinsic w => intrinsic = none ∧ w = v)
    (.isAtSoft rfl ?_) ?_
  · rw [← Token.isSoft, ordinary]
    exact .pure ⟨rfl, rfl⟩
  rintro _ _ ⟨rfl, rfl⟩
  refine .bind (Pairing.hosting_type rfl ready more found last) ?_
  rintro _ w ⟨rfl, past⟩
  refine .bind (.semicolon (past.ends _) past.kind) ?_
  rintro _ w ⟨diagnostics, kind⟩
  refine (Returns.finish _ _ _ _).mono ?_
  rintro _ _ ⟨⟨info, rfl⟩, rfl⟩
  exact ⟨⟨⟨info, name, rfl⟩, diagnostics⟩, kind⟩

theorem aliasHost_statement (plain : (Lexer.ofText text).scan.token.isSoft .intrinsicWord = false)
    {t : State} (upto : t.Upto (aliasHost.around text) { ambient := options.ambient } 0
      [⟨.file, []⟩] 0 { kind := .identifier, length := 4, value := "type" }) :
    Returns (.hosted name options aliasHost text) t (withFuel (more + fuel + 3) .statement)
      fun n v => ((∃ info name, n = .mk info (.typeAlias name none (type.shift aliasHost.shift))) ∧
        v.diagnostics.sort.items = s.diagnostics.sort.items.map (.shift aliasHost.shift)) ∧
          v.lexer.token.kind = .endOfFileToken := by
  have second : Lexeme.Follows (aliasHost.around text) 4 5
      { kind := .identifier, length := 1, value := "A" } := ⟨rfl, by decide, rfl, rfl, rfl⟩
  have shallow : t.depth < options.maxRecursionDepth + 1 := by
    rw [upto.depth]
    exact Nat.succ_pos _
  have inside : { t with depth := t.depth + 1 }.Upto (aliasHost.around text)
      { ambient := options.ambient } 1 [⟨.file, []⟩] 0
      { kind := .identifier, length := 4, value := "type" } :=
    { upto with depth := congrArg (· + 1) upto.depth }
  refine .guarded shallow (.start (.kind inside.lexer.kind ?_))
  refine .bind (P := fun lets v => lets = false ∧ v = { t with depth := t.depth + 1 })
    (.isAtSoft inside.lexer.soft (.pure ⟨rfl, rfl⟩)) ?_
  rintro _ _ ⟨rfl, rfl⟩
  have starts : Returns (.hosted name options aliasHost text) { t with depth := t.depth + 1 }
      declarationStart? fun d v => d = some .typeAlias ∧ v.Upto (aliasHost.around text)
        { ambient := options.ambient } 1 [⟨.file, []⟩] 0
        { kind := .identifier, length := 4, value := "type" } := by
    refine .token ?_
    have word : DeclarationStart.ofToken? t.lexer.token = some .typeAlias := by
      rw [DeclarationStart.ofToken?, Token.is, upto.lexer.kind, upto.lexer.soft]
      rfl
    rw [word]
    refine .bind (.nextIs inside second _) ?_
    rintro _ v ⟨rfl, upto⟩
    exact .pure ⟨rfl, upto⟩
  exact .declarationOr starts fun v upto =>
    .start (aliasHost_typeAlias more first found last plain upto _)

theorem annotationHost_variable (deep : 0 < options.maxRecursionDepth) {t : State}
    (upto : t.Upto (annotationHost.around text) { ambient := options.ambient } 1 [⟨.file, []⟩] 4
      { kind := .identifier, length := 1, value := "v" }) :
    Returns (.hosted name options annotationHost text) t
      (variableDeclaration (withFuel (more + fuel + 2)) .letKeyword) fun n v =>
        (∃ info name, n = .mk info
          (.variableDeclaration name false (some (type.shift annotationHost.shift)) none)) ∧
            s.PastType annotationHost v := by
  have third : Lexeme.Follows (annotationHost.around text) 5 5 { kind := .colonToken, length := 1 } :=
    ⟨rfl, by decide, rfl, rfl, rfl⟩
  have shallow : t.depth < options.maxRecursionDepth + 1 := by
    rw [upto.depth]
    omega
  have inside : { t with depth := t.depth + 1 }.Upto (annotationHost.around text)
      { ambient := options.ambient } 2 [⟨.file, []⟩] 4
      { kind := .identifier, length := 1, value := "v" } :=
    { upto with depth := congrArg (· + 1) upto.depth }
  have names : Returns (.hosted name options annotationHost text) t
      (withFuel (more + fuel + 2) .bindingName) fun x v => (∃ info text, x = .mk info (.identifier text)) ∧
        v.Upto (annotationHost.around text) { ambient := options.ambient } 1 [⟨.file, []⟩] 5
          { kind := .colonToken, length := 1 } := by
    refine .guarded shallow (.start (.kind inside.lexer.kind ?_))
    refine (Returns.identifier (.next inside third) inside.lexer.kind).mono ?_
    rintro x v ⟨⟨info, is⟩, upto⟩
    exact ⟨⟨info, _, is⟩, { upto with depth := congrArg (· - 1) upto.depth }⟩
  refine .start (.isAtSoft upto.lexer.soft ?_)
  refine .bind names ?_
  rintro _ t ⟨⟨info, word, rfl⟩, upto⟩
  rw [Node.boundNames]
  refine .bind (P := fun _ v => ∃ scopes, v.Upto (annotationHost.around text)
    { ambient := options.ambient } 1 scopes 5 { kind := .colonToken, length := 1 })
    (.bind (.declareName (by decide) upto _) fun _ v upto => .pure upto) ?_
  rintro _ t ⟨scopes, upto⟩
  refine .onNewLine ?_
  rw [upto.lexer.flags]
  refine .without upto.lexer.kind (by decide) ?_
  have opens := Pairing.hosting_opens rfl upto ⟨"let v:".toList, rfl, rfl⟩ first
  refine .bind (P := fun annotation v => annotation = some (type.shift annotationHost.shift) ∧
    s.PastType annotationHost v) (.bind (.eat opens upto.lexer.kind) ?_) ?_
  · rintro _ v ⟨rfl, ready⟩
    refine .bind (Pairing.hosting_type rfl ready more found last) ?_
    rintro _ w ⟨rfl, past⟩
    exact .pure ⟨rfl, past⟩
  · rintro _ v ⟨rfl, past⟩
    refine .bind (P := fun value w => value = none ∧ w = v)
      (.without past.kind (by decide) (.pure ⟨rfl, rfl⟩)) ?_
    rintro _ _ ⟨rfl, rfl⟩
    refine (Returns.finish _ _ _ _).mono ?_
    rintro _ _ ⟨⟨info, rfl⟩, rfl⟩
    exact ⟨⟨info, _, rfl⟩, past⟩

theorem annotationHost_variables (deep : 0 < options.maxRecursionDepth) {t : State}
    (upto : t.Upto (annotationHost.around text) { ambient := options.ambient } 1 [⟨.file, []⟩] 4
      { kind := .identifier, length := 1, value := "v" }) :
    Returns (.hosted name options annotationHost text) t
      (delimited .variables (variableDeclaration (withFuel (more + fuel + 2)) .letKeyword)) fun list v =>
        (∃ info name, list.elements = [.mk info
          (.variableDeclaration name false (some (type.shift annotationHost.shift)) none)]) ∧
            s.PastType annotationHost v := by
  have goesOn : ListKind.variables.endsAt t.lexer.token = false := by
    rw [ListKind.endsAt, Token.is, upto.lexer.kind]
    rfl
  refine .start (.bind (P := fun x v => (∃ info name, x.1 = [.mk info
    (.variableDeclaration name false (some (type.shift annotationHost.shift)) none)]) ∧
      s.PastType annotationHost v) (.once (Nat.succ_pos _) (.token ?_)) ?_)
  · rw [goesOn, if_neg Bool.false_ne_true]
    refine .bind (annotationHost_variable more first found last deep upto) ?_
    rintro _ v ⟨⟨info, name, rfl⟩, past⟩
    refine .isAt past.kind (.token (.pure ⟨_, rfl, ⟨info, name, rfl⟩, past⟩))
  · rintro ⟨_, comma⟩ v ⟨⟨info, name, rfl⟩, past⟩
    exact .prevEnd (.pure ⟨⟨info, name, rfl⟩, past⟩)

theorem annotationHost_statement (deep : 0 < options.maxRecursionDepth) {t : State}
    (upto : t.Upto (annotationHost.around text) { ambient := options.ambient } 0 [⟨.file, []⟩] 0
      { kind := .identifier, length := 3, value := "let" }) :
    Returns (.hosted name options annotationHost text) t (withFuel (more + fuel + 3) .statement)
      fun n v => ((∃ info info' info'' name, n = .mk info (.variableStatement (.mk info'
          (.variableDeclarationList [.mk info'' (.variableDeclaration name false
            (some (type.shift annotationHost.shift)) none)])))) ∧
        v.diagnostics.sort.items = s.diagnostics.sort.items.map (.shift annotationHost.shift)) ∧
          v.lexer.token.kind = .endOfFileToken := by
  have second : Lexeme.Follows (annotationHost.around text) 3 4
      { kind := .identifier, length := 1, value := "v" } := ⟨rfl, by decide, rfl, rfl, rfl⟩
  have shallow : t.depth < options.maxRecursionDepth + 1 := by
    rw [upto.depth]
    omega
  have inside : { t with depth := t.depth + 1 }.Upto (annotationHost.around text)
      { ambient := options.ambient } 1 [⟨.file, []⟩] 0
      { kind := .identifier, length := 3, value := "let" } :=
    { upto with depth := congrArg (· + 1) upto.depth }
  refine .guarded shallow (.start (.kind inside.lexer.kind ?_))
  refine .bind (P := fun lets v => lets = true ∧ v.Upto (annotationHost.around text)
      { ambient := options.ambient } 1 [⟨.file, []⟩] 0
      { kind := .identifier, length := 3, value := "let" }) (.isAtSoft inside.lexer.soft ?_) ?_
  · exact .nextIs inside second _
  · rintro _ t ⟨rfl, upto⟩
    have word : VariableKeyword.ofToken? t.lexer.token = some .letKeyword := by
      rw [VariableKeyword.ofToken?, Token.isSoft, upto.lexer.kind, upto.lexer.soft]
      rfl
    refine .bind (P := fun n v => (∃ info info' name, n = .mk info
      (.variableDeclarationList [.mk info' (.variableDeclaration name false
        (some (type.shift annotationHost.shift)) none)])) ∧ s.PastType annotationHost v)
      (.start (.token ?_)) ?_
    · rw [word]
      refine .bind (.next upto second) fun _ t upto => ?_
      refine .bind (annotationHost_variables more first found last deep upto) ?_
      rintro ⟨_, comma, extent⟩ v ⟨⟨info, name, rfl⟩, past⟩
      refine (Returns.finish _ _ _ _).mono ?_
      rintro _ _ ⟨⟨info', rfl⟩, rfl⟩
      exact ⟨⟨info', info, name, rfl⟩, past⟩
    · rintro _ v ⟨⟨info, info', name, rfl⟩, past⟩
      refine .bind (.semicolon (past.ends _) past.kind) ?_
      rintro _ w ⟨diagnostics, kind⟩
      refine (Returns.finish _ _ _ _).mono ?_
      rintro _ _ ⟨⟨info'', rfl⟩, rfl⟩
      exact ⟨⟨⟨_, _, _, _, rfl⟩, diagnostics⟩, kind⟩

end

theorem StandaloneType.parse_limited {name : String} {options : Options} {text : List Char}
    {limit : Nat} (le : options.maxRecursionDepth ≤ limit)
    (shallow : Shallow (failuresOn standaloneType name options text)) :
    parse name (options.limitedTo limit) text = parse name options text := by
  obtain ⟨_, _, opens⟩ := opens_standaloneType text options
  simp only [parse, opens.runOn_limitedTo le shallow]

theorem Grammar.annotatedType_deep {fuel : Nat} {settings : Settings} {s t : State} {type : Node}
    (found : annotatedType (withFuel fuel) settings s = .ok type t) :
    s.depth < settings.options.maxRecursionDepth := by
  refine Nat.lt_of_not_le fun deep => ?_
  have fails (u : State) (depth : u.depth = s.depth) :
      Parser.Ends (withFuel fuel .type) settings u fun _ _ => False := by
    intro x v run
    cases fuel with
    | zero => cases run
    | succ fuel =>
      have stops := (guarded_apply settings u (Grammar.type (withFuel fuel))).trans
        (if_pos (depth ▸ deep))
      cases stops.symm.trans run
  have stops : Parser.Ends (annotatedType (withFuel fuel)) settings s fun _ _ => False := by
    unfold annotatedType inType withContext withFrame withFrames
    exact .within (.within (fails _ rfl))
  exact stops _ _ found

/-- A file that is nothing but an alias of this type. -/
def SourceFile.IsAlias (file : SourceFile) (type : Node) : Prop :=
  ∃ info info' name, file.tree = .mk info (.sourceFile [.mk info' (.typeAlias name none type)])

/-- A file that is nothing but a variable of this type. -/
def SourceFile.IsVariable (file : SourceFile) (type : Node) : Prop :=
  ∃ info info₁ info₂ info₃ name, file.tree = .mk info (.sourceFile [.mk info₁ (.variableStatement
    (.mk info₂ (.variableDeclarationList [.mk info₃ (.variableDeclaration name false (some type) none)])))])

theorem SourceFile.parse_of_statement {name : String} {options : Options} {text : List Char}
    {h : Host} {x : Lexeme} {P : Node → Prop} {s : State} {fuel : Nat}
    (enough : fuel + 1 = 16 * ((h.around text).length + 2))
    (plain : State.pastShebang (h.around text) options = .ofText (h.around text) options)
    (follows : x.Follows (h.around text) 0 0) (ne : x.kind ≠ .endOfFileToken)
    (statement : ∀ t : State, t.Upto (h.around text) { ambient := options.ambient } 0 [⟨.file, []⟩] 0 x →
      Returns (.hosted name options h text) t (withFuel (fuel + 1) .statement) fun n v =>
        (P n ∧ v.diagnostics.sort.items = s.diagnostics.sort.items.map (.shift h.shift)) ∧
          v.lexer.token.kind = .endOfFileToken) :
    ∃ file, SourceFile.parse name (options.limitedTo (options.maxRecursionDepth + 1)) (h.around text) =
        .ok file ∧ (∃ info n, file.tree = .mk info (.sourceFile [n]) ∧ P n) ∧
          file.diagnostics = s.diagnostics.sort.items.map (.shift h.shift) := by
  have turns : 2 ≤ (Settings.hosted name options h text).turns := Nat.le_add_left _ _
  obtain ⟨tree, t, run, info, n, is, holds, diagnostics⟩ := Returns.file
    (P := fun n ds => P n ∧ ds.sort.items = s.diagnostics.sort.items.map (.shift h.shift))
    turns plain follows ne statement
  have whole : Parser.runOn Grammar.file name (options.limitedTo (options.maxRecursionDepth + 1))
      (h.around text) = .ok (tree, t) := by
    have run : Grammar.file (withFuel (fuel + 1))
        (.ofText name (options.limitedTo (options.maxRecursionDepth + 1)) (h.around text))
        (.ofText (h.around text) (options.limitedTo (options.maxRecursionDepth + 1))) = .ok tree t := run
    unfold Parser.runOn
    dsimp only
    rw [forLength, ← enough, run]
  refine ⟨⟨name, tree, t.lexer.comments, t.diagnostics.sort.items, .ofText (h.around text)⟩, ?_,
    ⟨info, n, is, holds⟩, diagnostics⟩
  rw [SourceFile.parse, whole]
  rfl

/-- A type means the same by itself, in an alias and after the name of a variable: what is accepted by
itself, without being given up anywhere for its nesting, is accepted there too where one more level is
allowed, as the same tree with the same diagnostics further on. Only the word `intrinsic` is another
type in an alias. -/
theorem parse_hosted (name : String) (options : Options) (text : List Char) (limit : Nat)
    (x : StandaloneType) (parsed : StandaloneType.parse name options text = .ok x)
    (shallow : Shallow (failuresOn standaloneType name options text))
    (deeper : options.maxRecursionDepth < limit)
    (ordinary : (Lexer.ofText text).scan.token.isSoft .intrinsicWord = false) :
    (∃ file, SourceFile.parse name (options.limitedTo limit) (aliasHost.around text) = .ok file ∧
      file.IsAlias (x.tree.shift aliasHost.shift) ∧
      file.diagnostics = x.diagnostics.map (.shift aliasHost.shift)) ∧
    ∃ file, SourceFile.parse name (options.limitedTo limit) (annotationHost.around text) = .ok file ∧
      file.IsVariable (x.tree.shift annotationHost.shift) ∧
      file.diagnostics = x.diagnostics.map (.shift annotationHost.shift) := by
  obtain ⟨limit, rfl⟩ := Nat.exists_eq_add_of_le' (Nat.succ_le_of_lt (Nat.zero_lt_of_lt deeper))
  rw [← StandaloneType.parse_limited (Nat.le_of_lt_succ deeper) shallow] at parsed
  obtain ⟨s, run, diagnostics⟩ := StandaloneType.of_parse parsed
  obtain ⟨u, first, found, last⟩ := standaloneType_ok (runWith_of_runOn run)
  have deep : 0 < (options.limitedTo limit).maxRecursionDepth :=
    Nat.zero_lt_of_lt (annotatedType_deep found)
  rw [diagnostics]
  constructor
  · have more : 173 + 16 * (text.length + 2) + 3 = 16 * ((aliasHost.around text).length + 2) := by
      have length : (aliasHost.around text).length = 9 + (text.length + 2) := by
        rw [Host.around, List.length_append, List.length_append]
        rfl
      omega
    obtain ⟨file, parsed, ⟨info, n, tree, info', name, is⟩, same⟩ :=
      SourceFile.parse_of_statement more rfl ⟨rfl, by decide, rfl, rfl, rfl⟩ Kind.noConfusion
        fun t upto => aliasHost_statement 173 first found last ordinary upto
    exact ⟨file, parsed, ⟨info, info', name, is ▸ tree⟩, same⟩
  · have more : 141 + 16 * (text.length + 2) + 3 = 16 * ((annotationHost.around text).length + 2) := by
      have length : (annotationHost.around text).length = 7 + (text.length + 2) := by
        rw [Host.around, List.length_append, List.length_append]
        rfl
      omega
    obtain ⟨file, parsed, ⟨info, n, tree, info₁, info₂, info₃, name, is⟩, same⟩ :=
      SourceFile.parse_of_statement more rfl ⟨rfl, by decide, rfl, rfl, rfl⟩ Kind.noConfusion
        fun t upto => annotationHost_statement 141 first found last deep upto
    exact ⟨file, parsed, ⟨info, info₁, info₂, info₃, name, is ▸ tree⟩, same⟩

theorem parse_hosted_conditional :
    let text := "A<<B>() => B>[] extends infer C ? [C?, C] : never".toList
    ∃ x, StandaloneType.parse "t.ts" {} text = .ok x ∧
      (∃ file, SourceFile.parse "t.ts" (Options.limitedTo {} 300) (aliasHost.around text) = .ok file ∧
        file.IsAlias (x.tree.shift aliasHost.shift) ∧
        file.diagnostics = x.diagnostics.map (.shift aliasHost.shift)) ∧
      ∃ file, SourceFile.parse "t.ts" (Options.limitedTo {} 300) (annotationHost.around text) = .ok file ∧
        file.IsVariable (x.tree.shift annotationHost.shift) ∧
        file.diagnostics = x.diagnostics.map (.shift annotationHost.shift) := by
  intro text
  have accepted : (StandaloneType.parse "t.ts" {} text).toOption.isSome = true := by decide +kernel
  cases parsed : StandaloneType.parse "t.ts" {} text with
  | error e =>
    rw [parsed] at accepted
    cases accepted
  | ok x =>
    exact ⟨x, rfl, parse_hosted "t.ts" {} text 300 x parsed (by decide +kernel) (by decide)
      (by decide +kernel)⟩

end TypedScript
