import TypedScript.Proofs.Records.Text

/-! Chains in the trees of texts that are accepted: where the marks of optional chains are, and what is
taken of constructions without an argument list. -/

namespace TypedScript

/-- Every question mark with a dot is recorded in one link, and the links behind it are marked up to the
end of the chain. Only a template with type arguments loses the mark: it may have one before its type
arguments, or a tag that is marked, and is not marked itself, though what is taken of it may be. -/
theorem parse_linked (name : String) (options : Options) (text : List Char) :
    (∀ file, SourceFile.parse name options text = .ok file →
      file.tree.RecordsFrom text (State.pastShebang text options).lexer.offset ∧
      ∀ n, file.tree.Within n → n.IsLinked text) ∧
    ∀ type, StandaloneType.parse name options text = .ok type →
      type.tree.RecordsFrom text 0 ∧ ∀ n, type.tree.Within n → n.IsLinked text := by
  refine ⟨fun file ok => ?_, fun type ok => ?_⟩
  · have accepted := SourceFile.accepted ok
    exact ⟨accepted.records, fun n within => (accepted.regular n within).linked⟩
  · have accepted := StandaloneType.accepted ok
    exact ⟨accepted.records, fun n within => (accepted.regular n within).linked⟩

theorem parse_linked_call :
    let text := "a?.b[c]!.d?.<E>(f);".toList
    ∃ file, SourceFile.parse "a.ts" {} text = .ok file ∧
      (file.contents.all fun n => n.isAsked && n.flags.optionalChain) = true ∧
      file.tree.RecordsFrom text (State.pastShebang text {}).lexer.offset ∧
      ∀ n, file.tree.Within n → n.IsLinked text := by
  intro text
  obtain ⟨file, ok, shown⟩ := SourceFile.of_contents "a.ts" {} text
    (·.all fun n => n.isAsked && n.flags.optionalChain) (by decide +kernel)
  exact ⟨file, ok, shown, (parse_linked ..).1 file ok⟩

/-- A tag with type arguments may be marked. -/
theorem parse_linked_differs :
    ¬∀ (name : String) (options : Options) (text : List Char) (file : SourceFile),
      SourceFile.parse name options text = .ok file → ∀ n, file.tree.Within n →
      ∀ tag ∈ n.tag?, tag.flags.optionalChain = false := by
  intro claim
  obtain ⟨file, n, ok, within, seen⟩ := SourceFile.of_seen "a.ts" {} "a?.b<T>\x60x\x60;".toList
    (fun n => n.tag?.any (·.flags.optionalChain)) (by decide +kernel)
  obtain ⟨tag, is, marked⟩ := (Option.any_eq_true _ _).1 seen
  have unmarked := claim _ _ _ file ok n within tag is
  exact absurd (marked.symm.trans unmarked) (by decide)

/-- Of a construction without an argument list nothing is taken, no property, no element and no call, and
none is said not to be null, unless a question mark with a dot comes right behind it. -/
theorem parse_sparesNew (name : String) (options : Options) (text : List Char) :
    (∀ file, SourceFile.parse name options text = .ok file →
      ∀ n, file.tree.Within n → n.SparesNew) ∧
    ∀ type, StandaloneType.parse name options text = .ok type →
      ∀ n, type.tree.Within n → n.SparesNew :=
  ⟨fun _ ok n within => ((SourceFile.accepted ok).regular n within).sparesNew,
    fun _ ok n within => ((StandaloneType.accepted ok).regular n within).sparesNew⟩

theorem parse_sparesNew_asked :
    let text := "new a.b?.c; new a?.(b);".toList
    ∃ file, SourceFile.parse "a.ts" {} text = .ok file ∧
      (file.contents.all fun n => n.isAsked && n.object?.any Node.isBareNew) = true ∧
      ∀ n, file.tree.Within n → n.SparesNew := by
  intro text
  obtain ⟨file, ok, shown⟩ := SourceFile.of_contents "a.ts" {} text
    (·.all fun n => n.isAsked && n.object?.any Node.isBareNew) (by decide +kernel)
  exact ⟨file, ok, shown, (parse_sparesNew ..).1 file ok⟩

/-- A template does not belong to what is constructed, and a mark may come behind a construction. -/
theorem parse_sparesNew_differs :
    ¬∀ (name : String) (options : Options) (text : List Char) (file : SourceFile),
      SourceFile.parse name options text = .ok file → ∀ n, file.tree.Within n →
      (∀ o ∈ n.object?, o.isBareNew = false) ∧ ∀ tag ∈ n.tag?, tag.isBareNew = false := by
  intro claim
  obtain ⟨file, n, ok, within, seen⟩ := SourceFile.of_seen "a.ts" {} "new a\x60x\x60;".toList
    (fun n => n.tag?.any Node.isBareNew) (by decide +kernel)
  obtain ⟨tag, is, bare⟩ := (Option.any_eq_true _ _).1 seen
  have other := (claim _ _ _ file ok n within).2 tag is
  exact absurd (bare.symm.trans other) (by decide)

end TypedScript
