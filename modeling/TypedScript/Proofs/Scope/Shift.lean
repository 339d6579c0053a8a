import TypedScript.Proofs.Scope.Journal
import TypedScript.Proofs.Tree.Shift

/-! Declarations that stand further on. What they come to does not depend on that, nor on the scopes
around, as long as one of the inner ones keeps what is declared in it. -/

namespace TypedScript

variable (n : Nat)

def Binding.shift (b : Binding) : Binding := { b with span := b.span.shift n }

def Bindings.shift (bs : Bindings) : Bindings := bs.map fun entry => (entry.1, entry.2.shift n)

def Scope.shift (s : Scope) : Scope := { s with bindings := s.bindings.shift n }

theorem Bindings.get?_shift (bs : Bindings) (name : String) :
    (bs.shift n).get? name = (bs.get? name).map (.shift n) := by
  induction bs with
  | nil => rfl
  | cons entry rest ih =>
    obtain ⟨key, value⟩ := entry
    simp only [get?, shift, List.map_cons, List.lookup_cons] at ih ⊢
    cases name == key
    · exact ih
    · rfl

theorem Bindings.put_shift (bs : Bindings) (name : String) (b : Binding) :
    (bs.shift n).put name (b.shift n) = Bindings.shift n (bs.put name b) := by
  induction bs with
  | nil => rfl
  | cons entry rest ih =>
    simp only [shift, List.map_cons, put] at ih ⊢
    split
    · rfl
    · rw [ih]
      rfl

namespace ScopeTracker

variable {n : Nat} {t u : ScopeTracker} {own below below' : List Scope}

theorem passedOver_lt (h : t.scopes = own ++ below) (closed : ∃ s ∈ own, s.kind ≠ .block)
    (kind : BindingKind) :
    t.passedOver kind < own.length ∧ t.passedOver kind =
      if kind = .hoisted then (own.takeWhile fun s => s.kind = .block).length else 0 := by
  obtain ⟨s, mem, ne⟩ := closed
  have short : (own.takeWhile fun s => decide (s.kind = .block)).length < own.length := by
    refine Nat.lt_of_le_of_ne (List.takeWhile_sublist _).length_le fun eq => ne ?_
    have all := (List.takeWhile_sublist fun s : Scope => decide (s.kind = .block)).eq_of_length eq
    exact of_decide_eq_true (List.all_eq_true.1 List.all_takeWhile s (all.symm ▸ mem))
  have pos := List.length_pos_of_mem mem
  unfold passedOver
  split
  · rw [h, List.takeWhile_append, if_neg (Nat.ne_of_lt short)]
    exact ⟨short, rfl⟩
  · exact ⟨pos, rfl⟩

/-- What is known of the scopes of two parses: the inner ones are the same further on. -/
structure Aligned (n : Nat) (own below below' : List Scope) (t u : ScopeTracker) : Prop where
  left : t.scopes = own ++ below
  right : u.scopes = own.map (.shift n) ++ below'

theorem changeAt_own {i : Nat} (lt : i < own.length) (f : Bindings → Bindings) :
    changeAt ((own ++ below).length - 1 - i) f (own ++ below) =
      own.modify i (fun s => { s with bindings := f s.bindings }) ++ below := by
  have eq : (own ++ below).length - 1 - ((own ++ below).length - 1 - i) = i := by
    rw [List.length_append]
    omega
  have modified (g : Scope → Scope) : (own ++ below).modify i g = own.modify i g ++ below := by
    clear eq
    induction own generalizing i with
    | nil => exact absurd lt (Nat.not_lt_zero i)
    | cons s own ih =>
      cases i with
      | zero => rfl
      | succ i => exact congrArg (s :: ·) (ih (Nat.lt_of_succ_lt_succ lt))
  rw [changeAt, if_pos (by rw [List.length_append]; omega), eq, modified]

theorem Aligned.declare (h : Aligned n own below below' t u) (closed : ∃ s ∈ own, s.kind ≠ .block)
    (name : String) (kind : BindingKind) (span : Span) :
    (∃ c c', t.declare name kind span = .error c ∧ u.declare name kind (span.shift n) = .error c') ∨
      ∃ t' u' own', t.declare name kind span = .ok t' ∧ u.declare name kind (span.shift n) = .ok u' ∧
        own'.map Scope.kind = own.map Scope.kind ∧ Aligned n own' below below' t' u' := by
  obtain ⟨lt, passed⟩ := passedOver_lt h.left closed kind
  have closed' : ∃ s ∈ own.map (Scope.shift n), s.kind ≠ .block := by
    obtain ⟨s, mem, ne⟩ := closed
    exact ⟨s.shift n, List.mem_map_of_mem mem, ne⟩
  have passed' : u.passedOver kind = t.passedOver kind := by
    rw [(passedOver_lt h.right closed' kind).2, passed, List.takeWhile_map, List.length_map]
    rfl
  obtain ⟨scope, there⟩ : ∃ scope, own[t.passedOver kind]? = some scope :=
    ⟨_, List.getElem?_eq_getElem lt⟩
  have target : t.target? kind = some (t.scopes.length - 1 - t.passedOver kind, scope) := by
    rw [target?, h.left, List.getElem?_append_left lt, there]
    rfl
  have target' : u.target? kind = some (u.scopes.length - 1 - t.passedOver kind, scope.shift n) := by
    rw [target?, passed', h.right, List.getElem?_append_left (by rwa [List.length_map]),
      List.getElem?_map, there]
    rfl
  have found : (scope.shift n).bindings.get? name = (scope.bindings.get? name).map (.shift n) :=
    scope.bindings.get?_shift n name
  have binding : ((scope.shift n).bindings.get? name).getD ⟨[], span.shift n⟩ =
      ((scope.bindings.get? name).getD ⟨[], span⟩).shift n := by
    rw [found]
    cases scope.bindings.get? name <;> rfl
  simp only [ScopeTracker.declare, target, target', binding]
  generalize (scope.bindings.get? name).getD ⟨[], span⟩ = b
  have same : (b.shift n).kinds = b.kinds := rfl
  rw [same]
  cases clash : b.kinds.find? fun k => !k.mergesWith kind with
  | some existing => exact .inl ⟨_, _, rfl, rfl⟩
  | none =>
    let put (b : Binding) (s : Scope) : Scope := { s with bindings := s.bindings.put name b }
    let added : Binding := { b with kinds := b.kinds ++ [kind] }
    have kinds : (own.modify (t.passedOver kind) (put added)).map Scope.kind = own.map Scope.kind := by
      refine List.ext_getElem? fun j => ?_
      simp only [List.getElem?_map, List.getElem?_modify]
      cases own[j]? with
      | none => rfl
      | some s => split <;> rfl
    have moved : (own.map (Scope.shift n)).modify (t.passedOver kind) (put (added.shift n)) =
        (own.modify (t.passedOver kind) (put added)).map (Scope.shift n) := by
      refine List.ext_getElem? fun j => ?_
      simp only [List.getElem?_map, List.getElem?_modify]
      cases own[j]? with
      | none => rfl
      | some s =>
        split
        · simp [put, Scope.shift, Bindings.put_shift]
        · rfl
    refine .inr ⟨_, _, own.modify (t.passedOver kind) (put added), rfl, rfl, kinds, ?_, ?_⟩
    · rw [record_scopes, h.left]
      exact changeAt_own lt _
    · rw [record_scopes, h.right, ← moved]
      exact changeAt_own (by rwa [List.length_map]) _

end ScopeTracker

end TypedScript
