import TypedScript.Proofs.Scope.Journal

/-! The names that are bound in a scope. Declarations that succeed one after the other bind names of
which no two in one scope are at odds; and what becomes of an outer scope does not depend on what an
inner one keeps to itself. -/

namespace TypedScript

/-- A name as a declaration binds it. -/
structure Bound where
  name : String
  kind : BindingKind
deriving DecidableEq, Repr

namespace Bound

/-- The two may be bound in one scope. -/
def Agrees (a b : Bound) : Prop := a.name = b.name → a.kind.mergesWith b.kind = true

instance (a b : Bound) : Decidable (a.Agrees b) := by
  unfold Agrees
  infer_instance

def leaves (scope : ScopeKind) (b : Bound) : Bool := scope = .block && b.kind = .hoisted

end Bound

/-- No two names in one scope are at odds. -/
def Agreeing (bs : List Bound) : Prop := bs.Pairwise Bound.Agrees

instance (bs : List Bound) : Decidable (Agreeing bs) := by
  unfold Agreeing
  infer_instance

theorem Agreeing.sublist {bs cs : List Bound} (h : Agreeing bs) (sub : cs.Sublist bs) :
    Agreeing cs := List.Pairwise.sublist sub h

namespace Bindings

variable {name other : String} (b : Binding) (bs : Bindings)

@[simp] theorem get?_put_self : (bs.put name b).get? name = some b := by
  induction bs with
  | nil => simp [put, get?]
  | cons entry rest ih =>
    obtain ⟨key, value⟩ := entry
    by_cases eq : key = name
    · simp [put, get?, eq]
    · have ne : (name == key) = false := beq_eq_false_iff_ne.2 (Ne.symm eq)
      simpa [put, get?, eq, List.lookup_cons, ne] using ih

theorem get?_put_of_ne (ne : other ≠ name) : (bs.put name b).get? other = bs.get? other := by
  have apart : (other == name) = false := beq_eq_false_iff_ne.2 ne
  induction bs with
  | nil => simp [put, get?, List.lookup_cons, apart]
  | cons entry rest ih =>
    obtain ⟨key, value⟩ := entry
    by_cases eq : key = name
    · simp [put, get?, eq, List.lookup_cons, apart]
    · simp only [get?] at ih
      simp [put, get?, eq, List.lookup_cons, ih]

/-- What a name has been declared as. -/
def kindsOf (bs : Bindings) (name : String) : List BindingKind :=
  ((bs.get? name).map Binding.kinds).getD []

theorem kinds_getD (span : Span) : ((bs.get? name).getD ⟨[], span⟩).kinds = bs.kindsOf name := by
  unfold kindsOf
  cases bs.get? name <;> rfl

end Bindings

namespace Scope

/-- The scope has just these names in it. -/
def Holds (scope : Scope) (bs : List Bound) : Prop :=
  ∀ name, scope.bindings.kindsOf name = (bs.filter fun b => b.name = name).map Bound.kind

theorem holds_nil (kind : ScopeKind) : Holds { kind } [] := fun _ => rfl

theorem Holds.put {scope : Scope} {bs : List Bound} (h : scope.Holds bs) (b : Bound)
    {binding : Binding} (kinds : binding.kinds = scope.bindings.kindsOf b.name ++ [b.kind]) :
    Holds { scope with bindings := scope.bindings.put b.name binding } (bs ++ [b]) := by
  intro name
  by_cases same : b.name = name
  · subst same
    simp [Bindings.kindsOf, kinds, ← h b.name]
  · simp [Bindings.kindsOf, Bindings.get?_put_of_ne _ _ (Ne.symm same), same, ← h name]

theorem Holds.agrees {scope : Scope} {bs : List Bound} (h : scope.Holds bs) {b : Bound}
    (merges : ∀ k ∈ scope.bindings.kindsOf b.name, k.mergesWith b.kind = true) :
    ∀ a ∈ bs, a.Agrees b := by
  intro a mem same
  refine merges _ ?_
  rw [h b.name]
  exact List.mem_map.2 ⟨a, List.mem_filter.2 ⟨mem, by simpa using same⟩, rfl⟩

end Scope

namespace ScopeTracker

variable {t u : ScopeTracker} {scope : Scope} {scopes : List Scope} {b : Bound} {span : Span}

theorem declare_stays (h : t.declare b.name b.kind span = .ok u) (top : t.scopes = scope :: scopes)
    (stays : b.leaves scope.kind = false) :
    ∃ binding, u.scopes =
        { scope with bindings := scope.bindings.put b.name binding } :: scopes ∧
      binding.kinds = scope.bindings.kindsOf b.name ++ [b.kind] ∧
      ∀ k ∈ scope.bindings.kindsOf b.name, k.mergesWith b.kind = true := by
  have passed : t.passedOver b.kind = 0 := by
    unfold passedOver
    split
    · rename_i hoisted
      have other : scope.kind ≠ .block := by simpa [Bound.leaves, hoisted] using stays
      simp [top, other]
    · rfl
  have target : t.target? b.kind = some (scopes.length, scope) := by
    simp [target?, passed, top]
  have kinds : ((scope.bindings.get? b.name).getD ⟨[], span⟩).kinds =
      scope.bindings.kindsOf b.name := Bindings.kinds_getD ..
  unfold declare at h
  rw [target] at h
  dsimp only at h
  split at h
  · cases h
  · rename_i none
    cases h
    let previous := (scope.bindings.get? b.name).getD ⟨[], span⟩
    refine ⟨{ previous with kinds := previous.kinds ++ [b.kind] }, ?_, by rw [kinds], fun k mem => ?_⟩
    · simp [changeAt, top, previous]
    · have := List.find?_eq_none.1 none k (by rw [kinds]; exact mem)
      simpa using this

theorem declare_leaves (h : t.declare b.name b.kind span = .ok u) (top : t.scopes = scope :: scopes)
    (leaves : b.leaves scope.kind = true) :
    ∃ v : ScopeTracker, ({ t with scopes } : ScopeTracker).declare b.name b.kind span = .ok v ∧
      u.scopes = scope :: v.scopes := by
  obtain ⟨block, hoisted⟩ : scope.kind = .block ∧ b.kind = .hoisted := by
    simpa [Bound.leaves] using leaves
  have passed : t.passedOver b.kind = ({ t with scopes } : ScopeTracker).passedOver b.kind + 1 := by
    simp [passedOver, hoisted, top, block]
  have target : t.target? b.kind = ({ t with scopes } : ScopeTracker).target? b.kind := by
    simp only [target?, passed, top, List.getElem?_cons_succ, List.length_cons]
    congr 1
    funext x
    congr 1
    omega
  unfold declare at h ⊢
  rw [target] at h
  split at h
  · cases h
    exact ⟨_, rfl, top⟩
  · rename_i level found some
    dsimp only at h ⊢
    split at h
    · cases h
    · cases h
      refine ⟨_, rfl, ?_⟩
      obtain ⟨x, there, eq⟩ := Option.map_eq_some_iff.1 some
      have lt : level < scopes.length := by
        have := (List.getElem?_eq_some_iff.1 there).1
        have := congrArg Prod.fst eq
        simp only at *
        omega
      obtain ⟨k, length⟩ : ∃ k, scopes.length - level = k + 1 := ⟨scopes.length - level - 1, by omega⟩
      have outer : scopes.length - 1 - level = k := by omega
      simp only [record_scopes, changeAt, top, List.length_cons, Nat.add_sub_cancel, if_pos lt,
        if_pos (Nat.lt_succ_of_lt lt), length, outer, List.modify_succ_cons]

inductive Binds : List Scope → List Bound → List Scope → Prop
  | nil (scopes : List Scope) : Binds scopes [] scopes
  | cons {t u : ScopeTracker} {b : Bound} {bs : List Bound} {span : Span} {before after : List Scope} :
      t.scopes = before → t.declare b.name b.kind span = .ok u → Binds u.scopes bs after →
      Binds before (b :: bs) after

namespace Binds

variable {before between after : List Scope} {bs cs : List Bound}

theorem single (h : t.declare b.name b.kind span = .ok u) : Binds t.scopes [b] u.scopes :=
  .cons rfl h (.nil _)

theorem append (h : Binds before bs between) (k : Binds between cs after) :
    Binds before (bs ++ cs) after := by
  induction h with
  | nil => exact k
  | cons here declared _ ih => exact .cons here declared (ih k)

theorem inner (h : Binds before bs after) :
    ∀ (scope : Scope) (scopes : List Scope) (held : List Bound), before = scope :: scopes →
      scope.Holds held → Agreeing held →
      ∃ (scope' : Scope) (scopes' : List Scope), after = scope' :: scopes' ∧
        Agreeing (held ++ bs.filter fun b => !b.leaves scope.kind) ∧
        Binds scopes (bs.filter (Bound.leaves scope.kind)) scopes' := by
  induction h with
  | nil => exact fun scope scopes held top _ agree => ⟨scope, scopes, top, by simpa using agree, .nil _⟩
  | @cons t u b bs span before after here declared _ ih =>
    intro scope scopes held top holds agree
    have top : t.scopes = scope :: scopes := here.trans top
    cases leaves : b.leaves scope.kind with
    | false =>
      obtain ⟨binding, next, kinds, merges⟩ := declare_stays declared top leaves
      have agree' : Agreeing (held ++ [b]) :=
        List.pairwise_append.2 ⟨agree, by simp, by simpa using holds.agrees merges⟩
      obtain ⟨scope', scopes', last, agree', outer⟩ := ih _ _ _ next (holds.put b kinds) agree'
      refine ⟨scope', scopes', last, ?_, ?_⟩
      · simpa [leaves] using agree'
      · simpa [leaves] using outer
    | true =>
      obtain ⟨v, outside, next⟩ := declare_leaves declared top leaves
      obtain ⟨scope', scopes', last, agree', outer⟩ := ih _ _ _ next holds agree
      refine ⟨scope', scopes', last, ?_, ?_⟩
      · simpa [leaves] using agree'
      · rw [List.filter_cons_of_pos leaves]
        exact .cons rfl outside outer

theorem within (kind : ScopeKind) {scopes : List Scope}
    (h : Binds ({ kind } :: scopes) bs after) :
    Agreeing (bs.filter fun b => !b.leaves kind) ∧
      Binds scopes (bs.filter (Bound.leaves kind)) after.tail := by
  obtain ⟨scope', scopes', rfl, agree, outer⟩ :=
    h.inner _ _ [] rfl (Scope.holds_nil kind) .nil
  exact ⟨by simpa using agree, outer⟩

end Binds

end ScopeTracker

end TypedScript
