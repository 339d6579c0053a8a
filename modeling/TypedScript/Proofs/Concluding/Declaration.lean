import TypedScript.Proofs.Concluding.Class
import TypedScript.Proofs.Concluding.Expression
import TypedScript.Proofs.Grammar.Declaration

/-! Declarations, imports and exports come to an end and report what is in the text. -/

namespace TypedScript

open TypedScript.Parser Grammar
open Position (Laid)

variable {g : Grammar} {h : Nat} {c : Position}

theorem ConcludingAt.declaring {a : Position} {m : Bool} {name : Node} {α : Type} {f : Unit → Parser α}
    (laid : Laid a a.start m [name] c) (kind : BindingKind) (rest : ∀ d, ConcludingAt g h d (f ())) :
    ConcludingAt g h c (Grammar.declareName name kind >>= f) := by
  have inside := laid.reaches.text ▸ laid.inside List.mem_cons_self (.self name)
  exact (ConcludingAt.declareName inside kind).followed fun _ => rest

namespace Concluding

instance startsLet : Concluding g h Grammar.startsLet := by
  unfold Grammar.startsLet; infer_instance

instance functionDeclaration (start : Nat) (flags : ModifierFlags) :
    Concluding g h (Grammar.functionDeclaration g start flags) := by
  refine ⟨fun c => (at_ c).followed fun _ d => (at_ d).followed fun asterisk d => ?_⟩
  refine .asking (.isAt _) ?_
  dsimp only
  split
  · exact at_ d
  · exact (at_ d).bind (Parses.identifier d) fun name e laid => .declaring laid _ at_

instance namespaceRest (start : Nat) (flags : ModifierFlags) (nodeFlags : NodeFlags) :
    Concluding g h (Grammar.namespaceRest g start flags nodeFlags) := by
  refine ⟨fun c => (at_ c).moving ((Parses.identifier c).mono fun _ _ laid =>
    ⟨laid.lt rfl, laid⟩) fun name d laid => ?_⟩
  dsimp only
  split
  · exact at_ d
  · exact .declaring laid _ at_

instance externalModule (start : Nat) (flags : ModifierFlags) :
    Concluding g h (Grammar.externalModule g start flags) := by
  unfold Grammar.externalModule
  dsimp only
  infer_instance

instance moduleOrNamespace (start : Nat) (flags : ModifierFlags) :
    Concluding g (h + 1) (Grammar.moduleOrNamespace g start flags) := by
  unfold Grammar.moduleOrNamespace; infer_instance

instance globalAugmentation (start : Nat) (flags : ModifierFlags) :
    Concluding g h (Grammar.globalAugmentation g start flags) := by
  unfold Grammar.globalAugmentation; infer_instance

instance intrinsic? : Concluding g h Grammar.intrinsic? := by
  unfold Grammar.intrinsic?; infer_instance

instance typeAlias (start : Nat) (flags : ModifierFlags) :
    Concluding g h (Grammar.typeAlias g start flags) := by
  refine ⟨fun c => (at_ c).moving ((Advances.runs c).mono fun _ _ lt => ⟨lt, trivial⟩)
    fun _ d _ => (at_ d).bind (Parses.identifier d) fun name e laid => ?_⟩
  refine .declaring laid _ fun e => ?_
  refine (at_ e).followed fun types e => (at_ e).followed fun _ e => (at_ e).followed fun intrinsic e => ?_
  dsimp only
  split <;> exact at_ e

instance interface (start : Nat) (flags : ModifierFlags) :
    Concluding g h (Grammar.interface g start flags) := by
  refine ⟨fun c => (at_ c).moving ((Advances.runs c).mono fun _ _ lt => ⟨lt, trivial⟩)
    fun _ d _ => (at_ d).bind (Parses.identifier d) fun name e laid => ?_⟩
  refine .declaring laid _ fun e => ?_
  refine (at_ e).followed fun types e => ?_
  refine (at_ e).bind (Parses.heritageClauses (by decide) e) fun heritage f laid => ?_
  dsimp only
  split
  · exact .failing (laid.reaches.text ▸ laid.inside (List.mem_of_find?_eq_some ‹_›) (.self _))
  · exact at_ f

instance enumMember : Concluding g 2 (Grammar.enumMember g) := by
  unfold Grammar.enumMember; infer_instance

end Concluding

theorem ConcludingAt.enumeration {start : Nat} (le : start ≤ c.start) (flags : ModifierFlags) :
    ConcludingAt g h c (Grammar.enumeration g start flags) := by
  have members := Concluding.bracketed (g := g) (h := 2) .enumMembers .brace
    Parses.enumMember.isElement
  refine (Concluding.at_ c).moving (((Laid.refl c).expectSoft _).mono fun _ _ laid =>
    ⟨laid.lt rfl, laid⟩) fun _ d laid => .asking (.isAt _) ?_
  dsimp only
  split
  · exact (Concluding.at_ d).bind (Parses.identifier d) fun name e laid =>
      .declaring laid _ Concluding.at_
  · refine .asking (.isAt _) ?_
    split
    · refine .asking .prevEnd (.failing (laid.reaches.text ▸ ?_))
      have lt := laid.start_lt_prevEnd
      exact Span.inside_between (by omega) laid.reaches.prevEnd_le
    · exact Concluding.at_ d

namespace Concluding

instance abstractDeclaration : Concluding g h (Grammar.abstractDeclaration g) := by
  refine ⟨fun c => .asking .start (.asking .tokenSpan ?_)⟩
  refine (at_ c).bind ((Laid.refl c).expectSoft _) fun _ d laid => .asking (.isAtSoft _) ?_
  dsimp only
  split
  · exact .failing (laid.reaches.text ▸ ConcludingAt.tokenSpan_inside c)
  · exact at_ d

instance declarationStart? : Concluding g h Grammar.declarationStart? := by
  refine ⟨fun c => .asking .token ?_⟩
  split <;> exact at_ c

end Concluding

theorem ConcludingAt.declarationOf {d : DeclarationStart} (starts : d.Starts c) :
    ConcludingAt g (h + 1) c (Grammar.declarationOf g d) := by
  refine .asking .start ?_
  cases d with
  | declare => exact .call starts.ready (Nat.succ_pos h)
  | enumeration => exact .enumeration (Nat.le_refl _) _
  | constEnumeration =>
    refine ConcludingAt.next.bind ((Laid.refl c).next starts.ne) fun _ e laid => ?_
    exact .enumeration laid.le _
  | global | abstract | module | «namespace» | typeAlias | interface => exact Concluding.at_ c

namespace Concluding

instance declaration? : Concluding g (h + 1) (Grammar.declaration? g) := by
  refine ⟨fun c => (at_ c).bind .declarationStart? fun found? d ⟨same, starts⟩ => ?_⟩
  subst same
  split
  · exact .pure _
  · rw [map_eq_pure_bind]
    exact (ConcludingAt.declarationOf (starts _ rfl)).followed fun _ e => .pure _

instance declarationOr {otherwise : Parser Node} [Concluding g (h + 1) otherwise] :
    Concluding g (h + 1) (Grammar.declarationOr g otherwise) := by
  refine ⟨fun c => (at_ c).followed fun found? d => ?_⟩
  split <;> exact at_ d

instance declaredDeclaration (start : Nat) : Concluding g 2 (Grammar.declaredDeclaration g start) := by
  refine ⟨fun c => .asking .kind ?_⟩
  split <;> exact at_ c

instance declared : Concluding g h (Grammar.declared g) := by
  unfold Grammar.declared; infer_instance

instance specifier (shape : Bool → Option Node → Node → Shape Node) :
    Concluding g h (Grammar.specifier shape) := by
  unfold Grammar.specifier
  dsimp only
  infer_instance

instance namedBindings : Concluding g h Grammar.namedBindings := by
  have each : Parses g 2 true (Grammar.specifier .importSpecifier) :=
    Parses.specifier fun _ _ _ => by simp
  have list := bracketed (h := h) .specifiers .brace each.isElement
  refine ⟨fun c => .asking .start ((at_ c).followed fun all d => ?_)⟩
  split
  · refine (at_ d).followed fun _ d => ?_
    exact (at_ d).bind (Parses.identifier d) fun name e laid => .declaring laid _ at_
  · refine (list.anywhere d).bind (Parses.bracketed _ _ each.isElement d) fun list e laid => ?_
    refine (ConcludingAt.declareNames laid (fun name mem => ?_) _).followed fun _ f => at_ f
    obtain ⟨n, among, named⟩ := List.mem_filterMap.1 mem
    exact ⟨n, among, Node.within_of_specifierName? named⟩

instance externalModuleReference : Concluding g h Grammar.externalModuleReference := by
  unfold Grammar.externalModuleReference; infer_instance

instance importRest (start : Nat) (flags : ModifierFlags) (clause : Option Node) :
    Concluding g h (Grammar.importRest start flags clause) := by
  unfold Grammar.importRest; infer_instance

instance importNames (start clauseStart : Nat) (flags : ModifierFlags) (typeOnly : Bool)
    (name : Option Node) :
    Concluding g h (Grammar.importNames start clauseStart flags typeOnly name) := by
  unfold Grammar.importNames
  dsimp only
  infer_instance

end Concluding

theorem ConcludingAt.importEquals {a : Position} {m : Bool} {name : Node} (laid : Laid a a.start m [name] c)
    (start : Nat) (flags : ModifierFlags) (typeOnly : Bool) :
    ConcludingAt g h c (Grammar.importEquals start flags typeOnly name) := by
  refine (Concluding.at_ c).bind laid.expect fun _ d laid => ?_
  refine .declaring laid _ fun e => ?_
  dsimp only
  exact Concluding.at_ e

namespace Concluding

instance importDeclaration (start : Nat) (flags : ModifierFlags) :
    Concluding g h (Grammar.importDeclaration start flags) := by
  have rest (clauseStart : Nat) (typeOnly : Bool) (c : Position) : ConcludingAt g h c (do
      if ← Parser.isAt .identifier then
        let name ← Grammar.identifier
        if ← Parser.isAt .equalsToken then Grammar.importEquals start flags typeOnly name
        else
          Grammar.declareName name .imported
          Grammar.importNames start clauseStart flags typeOnly (some name)
      else Grammar.importNames start clauseStart flags typeOnly none) := by
    refine .asking (.isAt _) ?_
    split
    · refine (at_ c).bind (Parses.identifier c) fun name d laid => .asking (.isAt _) ?_
      split
      · exact .importEquals laid start flags typeOnly
      · exact .declaring laid _ at_
    · exact at_ c
  refine ⟨fun c => (at_ c).followed fun _ c => .asking (.isAt _) ?_⟩
  split
  · exact at_ c
  · refine .asking .start ((at_ c).followed fun typeOnly c => ?_)
    dsimp only
    split
    · exact (at_ c).followed fun _ c => rest _ _ c
    · exact rest _ _ c

instance exportClause : Concluding g h Grammar.exportClause := by
  have each : Parses g 2 true (Grammar.specifier .exportSpecifier) :=
    Parses.specifier fun _ _ _ => by simp
  have list := bracketed (h := h) .specifiers .brace each.isElement
  unfold Grammar.exportClause
  infer_instance

instance exportNames (start : Nat) (typeOnly : Bool) :
    Concluding g h (Grammar.exportNames start typeOnly) := by
  unfold Grammar.exportNames
  dsimp only
  infer_instance

instance exportAsNamespace (start : Nat) : Concluding g h (Grammar.exportAsNamespace start) := by
  unfold Grammar.exportAsNamespace; infer_instance

instance exportAssignment (start : Nat) (isEquals : Bool) :
    Concluding g (h + 1) (Grammar.exportAssignment g start isEquals) := by
  unfold Grammar.exportAssignment; infer_instance

instance exportDefault (start : Nat) : Concluding g 2 (Grammar.exportDefault g start) := by
  refine ⟨fun c => .asking .kind ?_⟩
  split <;> exact at_ c

instance exportedDeclaration : Concluding g 2 (Grammar.exportedDeclaration g) := by
  refine ⟨fun c => .asking .start (.asking .kind ?_)⟩
  split <;> exact at_ c

instance exported : Concluding g h (Grammar.exported g) := by
  refine ⟨fun c => .asking .start ((at_ c).moving ((Advances.runs c).mono fun _ _ lt =>
    ⟨lt, trivial⟩) fun _ d _ => .asking .kind ?_)⟩
  split <;> exact at_ d

end Concluding

end TypedScript
