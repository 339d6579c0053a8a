import TypedScript.Proofs.Makes.Rule
import TypedScript.Proofs.Records.Text

/-! Lists with commas between the elements: how they are read from one state to another, what stands in
the brackets of an array literal, where lists without brackets end, and what comes behind an ellipsis. In
every signature a rest parameter is the last one, with no comma after it. Patterns and index signatures take
an ellipsis anywhere. -/

namespace TypedScript

open TypedScript.Parser Grammar

variable {α : Type}

/-- From one state to another these elements have been read, and commas: one between each two of them, and
the one with this span, if there is one, behind the last. No element starts where the list ends. -/
inductive ListKind.Run (kind : ListKind) (element : Parser α) (settings : Settings) :
    State → List α → Option Span → State → Prop
  | none {s : State} : kind.endsAt s.lexer.token = true → Run kind element settings s [] .none s
  | last {s t : State} {x : α} : kind.endsAt s.lexer.token = false →
      element settings s = .ok x t → t.lexer.token.kind ≠ .commaToken →
      (kind.isOpenEnded || kind.endsAt t.lexer.token) = true →
      Run kind element settings s [x] .none t
  | trailing {s t u : State} {x : α} : kind.endsAt s.lexer.token = false →
      element settings s = .ok x t → t.lexer.token.kind = .commaToken →
      next settings t = .ok () u →
      (kind.endsAt u.lexer.token || kind.endsAfterComma u.lexer.token) = true →
      Run kind element settings s [x] (some t.lexer.token.span) u
  | more {s t u v : State} {x : α} {xs : List α} {comma : Option Span} :
      kind.endsAt s.lexer.token = false →
      element settings s = .ok x t → t.lexer.token.kind = .commaToken →
      next settings t = .ok () u →
      (kind.endsAt u.lexer.token || kind.endsAfterComma u.lexer.token) = false →
      Run kind element settings u xs comma v → Run kind element settings s (x :: xs) comma v

namespace ListKind.Run

variable {kind : ListKind} {element : Parser α} {settings : Settings} {s t : State} {xs : List α}
  {comma : Option Span}

theorem closes (h : kind.Run element settings s xs comma t) {closing : Kind}
    (closed : kind.closing? = some closing) :
    t.lexer.token.kind = closing ∨ t.lexer.token.kind = .endOfFileToken := by
  have ends (t : Token) (h : kind.endsAt t = true) : t.kind = closing ∨ t.kind = .endOfFileToken := by
    rw [endsAt, closed, Bool.or_eq_true] at h
    exact h.symm.imp beq_iff_eq.1 beq_iff_eq.1
  have notOpen : kind.isOpenEnded = false := by rw [isOpenEnded, closed]; rfl
  have after (t : Token) : kind.endsAfterComma t = false := by cases kind <;> first | rfl | cases closed
  induction h with
  | none ended => exact ends _ ended
  | last _ _ _ ended => exact ends _ (by rwa [notOpen, Bool.false_or] at ended)
  | trailing _ _ _ _ ended => exact ends _ (by rwa [after, Bool.or_false] at ended)
  | more _ _ _ _ _ _ ih => exact ih

theorem first (h : kind.Run element settings s xs comma t) :
    (kind.endsAt s.lexer.token = true ∧ s = t) ∨
      ∃ x u, element settings s = .ok x u ∧ (u.lexer.token.kind = .commaToken ∨ u = t) := by
  cases h with
  | none ended => exact .inl ⟨ended, rfl⟩
  | last _ element => exact .inr ⟨_, _, element, .inr rfl⟩
  | trailing _ element is | more _ element is => exact .inr ⟨_, _, element, .inl is⟩

theorem comma_last (h : kind.Run element settings s xs comma t) : ∀ span ∈ comma,
    ∃ c : Token, c.kind = .commaToken ∧ c.span = span ∧ c.stop = t.prevEnd := by
  induction h with
  | none | last => exact nofun
  | trailing _ _ is step _ =>
    rintro _ ⟨⟩
    obtain ⟨-, rfl⟩ := Parser.of_next step
    exact ⟨_, is, rfl, rfl⟩
  | more _ _ _ _ _ _ ih => exact ih

end ListKind.Run

def ListKind.ReadsUpTo (kind : ListKind) (element : Parser α) (settings : Settings) (s : State)
    (xs : List α) (t : State) : Prop :=
  ∀ ys comma u, kind.Run element settings t ys comma u → kind.Run element settings s (xs ++ ys) comma u

theorem ListKind.ReadsUpTo.turn {kind : ListKind} {element : Parser α} {settings : Settings} {s t : State}
    {found : List α} (h : kind.ReadsUpTo element settings s found.reverse t) :
    Parser.Ends (delimitedTurn kind element found) settings t fun turn u => Turn.Holds
      (fun more => kind.ReadsUpTo element settings s more.reverse u)
      (fun all => kind.Run element settings s all.1.reverse all.2 u) turn := by
  refine .delimitedTurn (Q := fun x u => kind.endsAt t.lexer.token = false ∧ element settings t = .ok x u)
    (fun ended => ?_) (fun goesOn x u run => ⟨goesOn, run⟩) (fun x u ⟨goesOn, run⟩ other ended => ?_)
    (fun x u v ⟨goesOn, run⟩ is step ended => ?_)
    fun x u v ⟨goesOn, run⟩ is step more ys comma w rest => ?_
  · simpa using h [] none t (.none ended)
  · simpa using h [x] none u (.last goesOn run other ended)
  · simpa using h [x] _ v (.trailing goesOn run is step ended)
  · simpa using h _ _ _ (.more goesOn run is step more rest)

theorem Grammar.delimited_run {kind : ListKind} {element : Parser α} {settings : Settings} {s : State} :
    Ends (delimited kind element) settings s fun list t =>
      kind.Run element settings s list.elements list.trailingComma t := by
  have start : kind.ReadsUpTo element settings s [].reverse s := fun _ _ _ run => run
  refine .looking rfl (.bind (.loop (I := fun found t => kind.ReadsUpTo element settings s found.reverse t)
    start fun found t readsUpTo => readsUpTo.turn) fun all t run => .looking rfl (.pure run))

/-- Of a list that is read, however its elements are, every comma is accounted for, and it ends at its
closing mark or where the text does. So the elements of an array literal are the entries that are written
in its brackets, with a hole for each elision. -/
theorem delimited_entries :
    (∀ (α : Type) (kind : ListKind) (element : Parser α) (settings : Settings) (s : State)
      (list : Delimited α) (t : State), delimited kind element settings s = .ok list t →
      kind.Run element settings s list.elements list.trailingComma t ∧
      (∀ closing, kind.closing? = some closing →
        t.lexer.token.kind = closing ∨ t.lexer.token.kind = .endOfFileToken) ∧
      ∀ span ∈ list.trailingComma,
        ∃ c : Token, c.kind = .commaToken ∧ c.span = span ∧ c.stop = t.prevEnd) ∧
    ∀ (name : String) (options : Options) (text : List Char),
      (∀ file, SourceFile.parse name options text = .ok file → ∀ n, file.tree.Within n →
        ∀ elements, n.shape = .arrayLiteral elements → n.Spells text elements) ∧
      ∀ type, StandaloneType.parse name options text = .ok type → ∀ n, type.tree.Within n →
        ∀ elements, n.shape = .arrayLiteral elements → n.Spells text elements := by
  refine ⟨fun α kind element settings s list t run => ?_, fun name options text =>
    ⟨fun file ok n within => ?_, fun type ok n within => ?_⟩⟩
  · have ran := delimited_run list t run
    exact ⟨ran, fun _ => ran.closes, ran.comma_last⟩
  · exact ((SourceFile.accepted ok).regular n within).array
  · exact ((StandaloneType.accepted ok).regular n within).array

def Shape.elements? : Shape Node → Option (List Node)
  | .arrayLiteral elements => some elements
  | _ => none

theorem Shape.of_elements? {shape : Shape Node} {elements : List Node}
    (h : shape.elements? = some elements) : shape = .arrayLiteral elements := by
  unfold elements? at h
  split at h <;> cases h
  rfl

theorem delimited_entries_holes :
    let names := "a, b, ]".toList
    let start := (State.ofText names {}).scanned
    let settings := Settings.ofText "a.ts" {} names
    let text := "[, a, , ...b, ,];".toList
    (∃ list t, delimited .arrayElements identifier settings start = .ok list t ∧
      list.elements.length = 2 ∧
      ListKind.arrayElements.Run identifier settings start list.elements list.trailingComma t) ∧
    ∃ file n elements, SourceFile.parse "a.ts" {} text = .ok file ∧ file.tree.Within n ∧
      n.shape = .arrayLiteral elements ∧ elements.length = 5 ∧ n.Spells text elements := by
  intro names start settings text
  refine ⟨?_, ?_⟩
  · have shown : (match delimited .arrayElements identifier settings start with
      | .ok list _ => list.elements.length == 2
      | .error _ _ => false) = true := by decide +kernel
    split at shown
    · rename_i list t run
      exact ⟨list, t, run, beq_iff_eq.1 shown, (delimited_entries.1 _ _ _ _ _ _ _ run).1⟩
    · cases shown
  · obtain ⟨file, n, ok, within, seen⟩ := SourceFile.of_seen "a.ts" {} text
      (·.shape.elements?.any (·.length == 5)) (by decide +kernel)
    obtain ⟨elements, is, long⟩ := (Option.any_eq_true _ _).1 seen
    have is := Shape.of_elements? is
    exact ⟨file, n, elements, ok, within, is, beq_iff_eq.1 long,
      (delimited_entries.2 _ _ _).1 file ok n within elements is⟩

/-- What a clause extends or implements ends with its last type, and the variables of a statement end with
the last of them, unless a comma comes after it and then nothing any more. -/
theorem parse_endsLast (name : String) (options : Options) (text : List Char) :
    (∀ file, SourceFile.parse name options text = .ok file → ∀ n, file.tree.Within n →
      (∀ declarations, n.shape = .variableDeclarationList declarations →
        n.EndsDeclarations text declarations) ∧
      ∀ word types, n.shape = .heritageClause word types →
        ∃ last, types.getLast? = some last ∧ n.stop = last.stop) ∧
    ∀ type, StandaloneType.parse name options text = .ok type → ∀ n, type.tree.Within n →
      (∀ declarations, n.shape = .variableDeclarationList declarations →
        n.EndsDeclarations text declarations) ∧
      ∀ word types, n.shape = .heritageClause word types →
        ∃ last, types.getLast? = some last ∧ n.stop = last.stop := by
  have clause {n : Node} (regular : n.IsRegular text) (proper : n.Proper) :
      ∀ word types, n.shape = .heritageClause word types →
        ∃ last, types.getLast? = some last ∧ n.stop = last.stop := by
    intro word types is
    have fits : n.shape.Fits Slot.Takes := proper _ (.self _)
    rw [is] at fits
    have last := List.getLast?_eq_some_getLast (Slot.Fills.ne_nil fits)
    exact ⟨_, last, regular.heritage word types is _ last⟩
  refine ⟨fun file ok n within => ?_, fun type ok n within => ?_⟩
  · have regular := (SourceFile.accepted ok).regular n within
    exact ⟨regular.declared, clause regular ((SourceFile.proper ok).2.within within)⟩
  · have regular := (StandaloneType.accepted ok).regular n within
    exact ⟨regular.declared, clause regular ((StandaloneType.proper ok).2.within within)⟩

def Shape.types? : Shape Node → Option (List Node)
  | .heritageClause _ types => some types
  | _ => none

theorem Shape.of_types? {shape : Shape Node} {types : List Node} (h : shape.types? = some types) :
    ∃ word, shape = .heritageClause word types := by
  unfold types? at h
  split at h <;> cases h
  exact ⟨_, rfl⟩

def Shape.declarations? : Shape Node → Option (List Node)
  | .variableDeclarationList declarations => some declarations
  | _ => none

theorem Shape.of_declarations? {shape : Shape Node} {declarations : List Node}
    (h : shape.declarations? = some declarations) : shape = .variableDeclarationList declarations := by
  unfold declarations? at h
  split at h <;> cases h
  rfl

theorem parse_endsLast_pairs :
    let clause := "class A extends B, C {}".toList
    let text := "var a, b".toList
    (∃ file n word types last, SourceFile.parse "a.ts" {} clause = .ok file ∧ file.tree.Within n ∧
      n.shape = .heritageClause word types ∧ types.length = 2 ∧
      types.getLast? = some last ∧ n.stop = last.stop) ∧
    ∃ file n declarations, SourceFile.parse "a.ts" {} text = .ok file ∧ file.tree.Within n ∧
      n.shape = .variableDeclarationList declarations ∧ declarations.length = 2 ∧
      n.EndsDeclarations text declarations := by
  intro clause text
  constructor
  · obtain ⟨file, n, ok, within, seen⟩ := SourceFile.of_seen "a.ts" {} clause
      (·.shape.types?.any (·.length == 2)) (by decide +kernel)
    obtain ⟨types, is, long⟩ := (Option.any_eq_true _ _).1 seen
    obtain ⟨word, is⟩ := Shape.of_types? is
    obtain ⟨last, at_, ends⟩ := ((parse_endsLast ..).1 file ok n within).2 word types is
    exact ⟨file, n, word, types, last, ok, within, is, beq_iff_eq.1 long, at_, ends⟩
  · obtain ⟨file, n, ok, within, seen⟩ := SourceFile.of_seen "a.ts" {} text
      (·.shape.declarations?.any (·.length == 2)) (by decide +kernel)
    obtain ⟨declarations, is, long⟩ := (Option.any_eq_true _ _).1 seen
    have is := Shape.of_declarations? is
    exact ⟨file, n, declarations, ok, within, is, beq_iff_eq.1 long,
      ((parse_endsLast ..).1 file ok n within).1 declarations is⟩

/-- At the end of the text a comma may come after the last variable. -/
theorem parse_endsLast_differs :
    ¬∀ (name : String) (options : Options) (text : List Char) (file : SourceFile),
      SourceFile.parse name options text = .ok file → ∀ n, file.tree.Within n →
      ∀ declarations, n.shape = .variableDeclarationList declarations →
        ∀ last ∈ declarations.getLast?, n.stop = last.stop := by
  intro claim
  obtain ⟨file, n, ok, within, seen⟩ := SourceFile.of_seen "a.ts" {} "var a,".toList
    (fun n => (n.shape.declarations?.bind List.getLast?).any (n.stop != ·.stop)) (by decide +kernel)
  obtain ⟨last, found, apart⟩ := (Option.any_eq_true _ _).1 seen
  obtain ⟨declarations, is, at_⟩ := Option.bind_eq_some_iff.1 found
  exact bne_iff_ne.1 apart (claim _ _ _ file ok n within declarations (Shape.of_declarations? is) last at_)

/-- In every signature a rest parameter is the last one, and the list is closed right behind it. -/
theorem parse_closesRest (name : String) (options : Options) (text : List Char) :
    (∀ file, SourceFile.parse name options text = .ok file → ∀ n, file.tree.Within n →
      ∀ s, n.shape.signature? = some s → ClosesRest text s.parameters) ∧
    ∀ type, StandaloneType.parse name options text = .ok type → ∀ n, type.tree.Within n →
      ∀ s, n.shape.signature? = some s → ClosesRest text s.parameters :=
  ⟨fun _ ok n within => ((SourceFile.accepted ok).regular n within).rest,
    fun _ ok n within => ((StandaloneType.accepted ok).regular n within).rest⟩

theorem parse_closesRest_arrow :
    let text := "(a, ...b /* c */) => a;".toList
    ∃ file n s before p, SourceFile.parse "a.ts" {} text = .ok file ∧ file.tree.Within n ∧
      n.shape.signature? = some s ∧ s.parameters = before ++ [p] ∧ isRestParameter p = true ∧
      ∃ t : Token, t.Read text ∧ t.kind = .closeParenToken ∧ Gap text p.stop t.start := by
  intro text
  obtain ⟨file, n, ok, within, seen⟩ := SourceFile.of_seen "a.ts" {} text
    (·.shape.signature?.any (·.parameters.getLast?.any isRestParameter)) (by decide +kernel)
  obtain ⟨s, signed, last⟩ := (Option.any_eq_true _ _).1 seen
  obtain ⟨p, last, rest⟩ := (Option.any_eq_true _ _).1 last
  obtain ⟨before, is⟩ := List.getLast?_eq_some_iff.1 last
  obtain ⟨-, closed⟩ := (parse_closesRest ..).1 file ok n within s signed before p [] is rest
  exact ⟨file, n, s, before, p, ok, within, signed, is, rest, closed⟩

def Shape.spreading? : Shape Node → Option (List Node)
  | .indexSignature parameters _ => some parameters
  | .objectPattern elements | .arrayPattern elements => some elements
  | shape => shape.signature?.map Signature.parameters

/-- A parameter, or an element of a pattern, with an ellipsis. -/
def Node.isRest (n : Node) : Bool :=
  match n.shape with
  | .parameter isRest .. | .bindingElement isRest .. => isRest
  | _ => false

def Node.spreadsTo (n : Node) (stop : Nat) : Bool :=
  (n.children.flatMap Node.children).any fun m =>
    (m.shape.spreading?.bind List.getLast?).any fun p => p.isRest && p.stop == stop

theorem Node.of_spreadsTo {n : Node} {stop : Nat} (h : n.spreadsTo stop = true) :
    ∃ m before p, n.Within m ∧ m.shape.spreading? = some (before ++ [p]) ∧ p.isRest = true ∧
      p.stop = stop := by
  obtain ⟨m, inside, seen⟩ := List.any_eq_true.1 h
  obtain ⟨child, inN, inChild⟩ := List.mem_flatMap.1 inside
  obtain ⟨p, found, seen⟩ := (Option.any_eq_true _ _).1 seen
  obtain ⟨elements, is, last⟩ := Option.bind_eq_some_iff.1 found
  obtain ⟨before, rfl⟩ := List.getLast?_eq_some_iff.1 last
  obtain ⟨rest, stops⟩ := Bool.and_eq_true_iff.1 seen
  exact ⟨m, before, p, .inside inN (.inside inChild (.self m)), is, rest, beq_iff_eq.1 stops⟩

/-- In a pattern a comma may come behind the last element though it has an ellipsis. -/
theorem parse_closesRest_differs :
    ¬∀ (name : String) (options : Options) (text : List Char) (type : StandaloneType),
      StandaloneType.parse name options text = .ok type → ∀ n, type.tree.Within n →
      ∀ elements ∈ n.shape.spreading?, ∀ before p after, elements = before ++ p :: after →
        p.isRest = true →
        after = [] ∧ ¬∃ t : Token, t.Read text ∧ t.kind = .commaToken ∧ Gap text p.stop t.start := by
  intro claim
  let text := "([...a,]: T) => U".toList
  let l : Lexer := { Lexer.ofText text with cursor := (Cursor.atStart text).seek 6 }
  have comma : l.scan.token.kind = .commaToken := by decide +kernel
  obtain ⟨read, -, -, gap⟩ := l.scan_spec (by decide)
  have shown : (StandaloneType.parse "a.ts" {} text).toOption.any (·.tree.spreadsTo 6) = true := by
    decide +kernel
  cases parsed : StandaloneType.parse "a.ts" {} text with
  | error e =>
    rw [parsed] at shown
    cases shown
  | ok type =>
    rw [parsed] at shown
    obtain ⟨m, before, p, inside, is, rest, stop⟩ := Node.of_spreadsTo shown
    have last := claim _ _ _ type parsed m inside _ is before p [] rfl rest
    exact last.2 ⟨l.scan.token, read, comma, stop ▸ gap⟩

end TypedScript
