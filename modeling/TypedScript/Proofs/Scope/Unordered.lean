import TypedScript.Proofs.Scope.Journal
import TypedScript.Proofs.Scope.Names

/-! Declarations in any order. Whether all of them succeed is a matter of which names come to stand in
one scope, and that does not depend on which one came first. -/

namespace TypedScript

/-- What is declared, and where. -/
structure Declaration extends Bound where
  span : Span
deriving DecidableEq, Repr

namespace Bound

/-- The level of the scope that the name goes into, among scopes of these kinds. -/
def level? (b : Bound) : List ScopeKind → Option Nat
  | [] => none
  | scope :: around => if b.leaves scope then b.level? around else some around.length

theorem Agrees.symm {a b : Bound} (h : a.Agrees b) : b.Agrees a := by
  intro same
  rw [BindingKind.mergesWith_comm]
  exact h same.symm

end Bound

theorem Agreeing.perm {bs cs : List Bound} (h : bs.Perm cs) : Agreeing bs ↔ Agreeing cs :=
  h.pairwise_iff Bound.Agrees.symm

namespace Bindings

variable {bs : Bindings} {name other : String} {binding : Binding}

/-- All that is bound, each name once for each kind. -/
def bounds (bs : Bindings) : List Bound :=
  bs.flatMap fun entry => entry.2.kinds.map (⟨entry.1, ·⟩)

def Distinct (bs : Bindings) : Prop := (bs.map Prod.fst).Nodup

theorem mem_keys_put : other ∈ (bs.put name binding).map Prod.fst ↔
    other = name ∨ other ∈ bs.map Prod.fst := by
  induction bs with
  | nil => simp [put]
  | cons entry rest ih =>
    unfold put
    split
    · rename_i same
      simp [same]
    · simp only [List.map_cons, List.mem_cons, ih, or_left_comm]

theorem Distinct.put (h : bs.Distinct) : Distinct (bs.put name binding) := by
  induction bs with
  | nil => simp [Distinct, Bindings.put]
  | cons entry rest ih =>
    obtain ⟨fresh, rest'⟩ := List.nodup_cons.1 h
    unfold Bindings.put
    split
    · rename_i same
      exact List.nodup_cons.2 ⟨same ▸ fresh, rest'⟩
    · rename_i ne
      refine List.nodup_cons.2 ⟨fun mem => ?_, ih rest'⟩
      exact (mem_keys_put.1 mem).elim ne fresh

theorem mem_bounds (h : bs.Distinct) {b : Bound} : b ∈ bs.bounds ↔ b.kind ∈ bs.kindsOf b.name := by
  induction bs with
  | nil => simp [bounds, kindsOf, get?]
  | cons entry rest ih =>
    obtain ⟨key, value⟩ := entry
    obtain ⟨fresh, rest'⟩ := List.nodup_cons.1 h
    have here : b ∈ value.kinds.map (Bound.mk key) ↔ b.name = key ∧ b.kind ∈ value.kinds := by
      obtain ⟨name, kind⟩ := b
      constructor
      · intro mem
        obtain ⟨_, there, same⟩ := List.mem_map.1 mem
        cases same
        exact ⟨rfl, there⟩
      · rintro ⟨rfl, there⟩
        exact List.mem_map.2 ⟨kind, there, rfl⟩
    have cons : b ∈ bounds ((key, value) :: rest) ↔
        (b.name = key ∧ b.kind ∈ value.kinds) ∨ b ∈ bounds rest := by
      rw [← here]
      exact List.mem_append
    by_cases same : b.name = key
    · have elsewhere : b ∉ bounds rest := by
        intro mem
        obtain ⟨entry, there, mem⟩ := List.mem_flatMap.1 mem
        obtain ⟨kind, -, rfl⟩ := List.mem_map.1 mem
        exact fresh (List.mem_map.2 ⟨entry, there, same⟩)
      simp [cons, same, elsewhere, kindsOf, get?]
    · have apart : (b.name == key) = false := beq_eq_false_iff_ne.2 same
      simpa [cons, same, kindsOf, get?, List.lookup_cons, apart] using ih rest'

theorem bounds_put {kind : BindingKind} (kinds : binding.kinds = bs.kindsOf name ++ [kind]) :
    (bounds (bs.put name binding)).Perm (bs.bounds ++ [⟨name, kind⟩]) := by
  induction bs with
  | nil => simp_all [put, bounds, kindsOf, get?]
  | cons entry rest ih =>
    obtain ⟨key, value⟩ := entry
    unfold put
    split
    · rename_i same
      obtain rfl : key = name := same
      have kinds : binding.kinds = value.kinds ++ [kind] := by simpa [kindsOf, get?] using kinds
      simp only [bounds, List.flatMap_cons, kinds, List.map_append, List.append_assoc]
      exact .append_left _ List.perm_append_comm
    · rename_i ne
      have apart : (name == key) = false := beq_eq_false_iff_ne.2 (Ne.symm ne)
      have kinds : binding.kinds = kindsOf rest name ++ [kind] := by
        simpa [kindsOf, get?, List.lookup_cons, apart] using kinds
      simp only [bounds, List.flatMap_cons, List.append_assoc]
      exact .append_left _ (ih kinds)

end Bindings

/-- The names in the scope are told apart and merge. -/
structure Scope.Sound (scope : Scope) : Prop where
  distinct : scope.bindings.Distinct
  agree : Agreeing scope.bindings.bounds

namespace ScopeTracker

variable {t u : ScopeTracker} {level : Nat} {scope : Scope} {b : Bound} {span : Span}

def Sound (t : ScopeTracker) : Prop := ∀ scope ∈ t.scopes, scope.Sound

/-- What is bound in the scope of this level. -/
def boundAt (t : ScopeTracker) (level : Nat) : List Bound :=
  (t.scopes.reverse[level]?.map fun scope => scope.bindings.bounds).getD []

/-- Whether a declaration of the name goes into the scope of this level. -/
def goesTo (t : ScopeTracker) (level : Nat) (b : Bound) : Bool :=
  b.level? (t.scopes.map Scope.kind) = some level

/-- The declarations one after the other, up to the first in conflict. -/
def declareAll (t : ScopeTracker) (ds : List Declaration) : Except Conflict ScopeTracker :=
  ds.foldlM (fun t d => t.declare d.name d.kind d.span) t

theorem Sound.boundAt (h : t.Sound) (level : Nat) : Agreeing (t.boundAt level) := by
  unfold ScopeTracker.boundAt
  cases found : t.scopes.reverse[level]? with
  | none => exact .nil
  | some scope => exact (h scope (List.mem_reverse.1 (List.mem_of_getElem? found))).agree

theorem level?_eq (t : ScopeTracker) (b : Bound) :
    b.level? (t.scopes.map Scope.kind) = (t.target? b.kind).map Prod.fst := by
  obtain ⟨scopes, journal, openMarks⟩ := t
  induction scopes with
  | nil => simp [Bound.level?, target?]
  | cons scope around ih =>
    simp only [List.map_cons, Bound.level?]
    split
    · rename_i leaves
      obtain ⟨block, hoisted⟩ : scope.kind = .block ∧ b.kind = .hoisted := by
        simpa [Bound.leaves] using leaves
      rw [ih]
      simp only [target?, passedOver, hoisted, if_true, List.takeWhile_cons, block, decide_true,
        List.length_cons, List.getElem?_cons_succ, Option.map_map]
      congr 1
      funext scope
      simp only [Function.comp]
      omega
    · rename_i stays
      have passed : (⟨scope :: around, journal, openMarks⟩ : ScopeTracker).passedOver b.kind = 0 := by
        unfold passedOver
        split
        · rename_i hoisted
          have other : scope.kind ≠ .block := by simpa [Bound.leaves, hoisted] using stays
          simp [other]
        · rfl
      simp [target?, passed]

theorem goesTo_iff : t.goesTo level b = true ↔ ∃ scope, t.target? b.kind = some (level, scope) := by
  simp [goesTo, level?_eq]

theorem target?_there (h : t.target? b.kind = some (level, scope)) :
    t.scopes.reverse[level]? = some scope := by
  simp only [target?, Option.map_eq_some_iff, Prod.mk.injEq] at h
  obtain ⟨found, there, rfl, rfl⟩ := h
  have lt := (List.getElem?_eq_some_iff.1 there).1
  rw [List.getElem?_reverse (by omega), ← there]
  congr 1
  omega

theorem changeAt_reverse (level l : Nat) (f : Bindings → Bindings) (scopes : List Scope) :
    (changeAt level f scopes).reverse[l]? = scopes.reverse[l]?.map fun scope =>
      if l = level then { scope with bindings := f scope.bindings } else scope := by
  by_cases inside : l < scopes.length
  · rw [List.getElem?_reverse inside, List.getElem?_reverse (by rwa [length_changeAt]),
      length_changeAt]
    unfold changeAt
    split
    · rw [List.getElem?_modify]
      by_cases here : l = level
      · simp [here]
      · have apart : scopes.length - 1 - level ≠ scopes.length - 1 - l := by omega
        simp [here, apart]
    · have apart : l ≠ level := by omega
      simp [apart]
  · rw [List.getElem?_eq_none (by simpa [length_changeAt] using inside),
      List.getElem?_eq_none (by simpa using inside)]
    rfl

theorem declare_ok (h : t.declare b.name b.kind span = .ok u) :
    (t.target? b.kind = none ∧ u = t) ∨ ∃ level scope binding,
      t.target? b.kind = some (level, scope) ∧
      u.scopes = changeAt level (·.put b.name binding) t.scopes ∧
      binding.kinds = scope.bindings.kindsOf b.name ++ [b.kind] ∧
      ∀ k ∈ scope.bindings.kindsOf b.name, k.mergesWith b.kind = true := by
  unfold declare at h
  split at h
  · rename_i none
    cases h
    exact .inl ⟨none, rfl⟩
  · rename_i level scope target
    dsimp only at h
    have kinds : ((scope.bindings.get? b.name).getD ⟨[], span⟩).kinds =
        scope.bindings.kindsOf b.name := Bindings.kinds_getD ..
    split at h
    · cases h
    · rename_i none
      cases h
      refine .inr ⟨level, scope, _, target, record_scopes .., by rw [kinds], fun k mem => ?_⟩
      have := List.find?_eq_none.1 none k (by rw [kinds]; exact mem)
      simpa using this

theorem declare_error {conflict : Conflict} (h : t.declare b.name b.kind span = .error conflict) :
    ∃ level scope, t.target? b.kind = some (level, scope) ∧
      ∃ k ∈ scope.bindings.kindsOf b.name, k.mergesWith b.kind = false := by
  unfold declare at h
  split at h
  · cases h
  · rename_i level scope target
    dsimp only at h
    have kinds : ((scope.bindings.get? b.name).getD ⟨[], span⟩).kinds =
        scope.bindings.kindsOf b.name := Bindings.kinds_getD ..
    split at h
    · rename_i existing found
      refine ⟨level, scope, target, existing, ?_, ?_⟩
      · rw [← kinds]
        exact List.mem_of_find?_eq_some found
      · simpa using List.find?_some found
    · cases h

theorem goesTo_declare (h : t.declare b.name b.kind span = .ok u) (level : Nat) (c : Bound) :
    u.goesTo level c = t.goesTo level c := by
  have kinds : u.scopes.map Scope.kind = t.scopes.map Scope.kind := by
    rcases declare_ok h with ⟨-, rfl⟩ | ⟨_, _, _, -, scopes, -⟩
    · rfl
    · rw [scopes, ← List.reverse_inj, ← List.map_reverse, ← List.map_reverse]
      apply List.ext_getElem?
      intro l
      rw [List.getElem?_map, List.getElem?_map, changeAt_reverse, Option.map_map]
      congr 1
      funext scope
      dsimp only [Function.comp]
      split <;> rfl
  simp only [goesTo, kinds]

theorem boundAt_declare (h : t.declare b.name b.kind span = .ok u) (level : Nat) :
    (u.boundAt level).Perm (t.boundAt level ++ if t.goesTo level b then [b] else []) := by
  rcases declare_ok h with ⟨none, rfl⟩ | ⟨there, scope, binding, target, scopes, kinds, -⟩
  · have nowhere : u.goesTo level b = false := by simp [goesTo, level?_eq, none]
    simp [nowhere]
  · have goes : t.goesTo level b = decide (level = there) := by
      simp [goesTo, level?_eq, target, eq_comm]
    unfold boundAt
    rw [scopes, changeAt_reverse, goes]
    by_cases here : level = there
    · subst here
      simpa [target?_there target] using Bindings.bounds_put kinds
    · simp [here]

namespace Sound

theorem merges_iff (h : t.Sound) (target : t.target? b.kind = some (level, scope)) :
    (∀ k ∈ scope.bindings.kindsOf b.name, k.mergesWith b.kind = true) ↔
      ∀ a ∈ t.boundAt level, a.Agrees b := by
  have there := target?_there target
  have sound := h scope (List.mem_reverse.1 (List.mem_of_getElem? there))
  have bounds : t.boundAt level = scope.bindings.bounds := by simp [ScopeTracker.boundAt, there]
  rw [bounds]
  constructor
  · intro merges a mem same
    exact merges a.kind (same ▸ (Bindings.mem_bounds sound.distinct).1 mem)
  · intro agrees k mem
    exact agrees ⟨b.name, k⟩ ((Bindings.mem_bounds sound.distinct).2 mem) rfl

theorem declare_isOk (h : t.Sound) : (t.declare b.name b.kind span).isOk = true ↔
    ∀ level, t.goesTo level b = true → ∀ a ∈ t.boundAt level, a.Agrees b := by
  cases declared : t.declare b.name b.kind span with
  | ok u =>
    refine iff_of_true rfl fun level goes => ?_
    obtain ⟨scope, target⟩ := goesTo_iff.1 goes
    rcases declare_ok declared with ⟨none, -⟩ | ⟨there, scope', -, target', -, -, merges⟩
    · simp [none] at target
    · obtain ⟨rfl, rfl⟩ : there = level ∧ scope' = scope := by simpa [target'] using target
      exact (h.merges_iff target).1 merges
  | error conflict =>
    obtain ⟨level, scope, target, k, mem, odds⟩ := declare_error declared
    refine iff_of_false Bool.false_ne_true fun agrees => ?_
    have merges := (h.merges_iff target).2 (agrees level (goesTo_iff.2 ⟨scope, target⟩)) k mem
    simp [odds] at merges

theorem declare (h : t.Sound) (declared : t.declare b.name b.kind span = .ok u) : u.Sound := by
  rcases declare_ok declared with ⟨-, rfl⟩ | ⟨level, scope, binding, target, scopes, kinds, merges⟩
  · exact h
  · intro changed mem
    obtain ⟨l, found⟩ := List.mem_iff_getElem?.1 (List.mem_reverse.2 mem)
    rw [scopes, changeAt_reverse, Option.map_eq_some_iff] at found
    obtain ⟨before, there, rfl⟩ := found
    have sound := h before (List.mem_reverse.1 (List.mem_of_getElem? there))
    split
    · rename_i here
      obtain rfl : before = scope := by
        rw [here, target?_there target] at there
        exact (Option.some.inj there).symm
      refine ⟨sound.distinct.put, (Agreeing.perm (Bindings.bounds_put kinds)).2 ?_⟩
      refine List.pairwise_append.2 ⟨sound.agree, List.pairwise_singleton .., fun a mem c single => ?_⟩
      obtain rfl := List.mem_singleton.1 single
      intro same
      exact merges a.kind (same ▸ (Bindings.mem_bounds sound.distinct).1 mem)
    · exact sound

theorem declareAll_isOk (h : t.Sound) (ds : List Declaration) : (t.declareAll ds).isOk = true ↔
    ∀ level, Agreeing (t.boundAt level ++ (ds.map Declaration.toBound).filter (t.goesTo level)) := by
  induction ds generalizing t with
  | nil =>
    refine iff_of_true rfl fun level => ?_
    simpa using h.boundAt level
  | cons d ds ih =>
    cases declared : t.declare d.name d.kind d.span with
    | ok u =>
      have rest : t.declareAll (d :: ds) = u.declareAll ds := by
        simp only [declareAll, List.foldlM_cons, declared]
        rfl
      rw [rest, ih (h.declare declared)]
      refine forall_congr' fun level => Agreeing.perm ?_
      have same : u.goesTo level = t.goesTo level := funext (goesTo_declare declared level)
      rw [same]
      refine ((boundAt_declare declared level).append_right _).trans (.of_eq ?_)
      cases goes : t.goesTo level d.toBound <;> simp [goes]
    | error conflict =>
      have failed : t.declareAll (d :: ds) = .error conflict := by
        simp only [declareAll, List.foldlM_cons, declared]
        rfl
      rw [failed]
      refine iff_of_false Bool.false_ne_true fun agree => ?_
      have odds : (t.declare d.name d.kind d.span).isOk = true := by
        refine h.declare_isOk.2 fun level goes a mem => ?_
        have := (List.pairwise_append.1 (agree level)).2.2 a mem d.toBound
        exact this (by simp [goes])
      simp [declared, Except.isOk, Except.toBool] at odds

end Sound

end ScopeTracker

namespace ScopeSession

variable {start : ScopeTracker} {s s' : ScopeSession} {act : ScopeAct} {acts : List ScopeAct}

/-- The scopes are sound, and so are those that closing a mark can give back. -/
def Sound (s : ScopeSession) : Prop := s.tracker.Sound ∧ ∀ t ∈ s.marked, t.Sound

theorem perform_sound (follows : start.Follows s.marked s.tracker) (h : s.Sound)
    (step : s.perform act = some s') : s'.Sound := by
  obtain ⟨tracker, marked⟩ := s
  obtain ⟨sound, back⟩ := h
  cases act with
  | enter kind =>
    cases step
    refine ⟨fun scope mem => ?_, back⟩
    rw [ScopeTracker.enter_scopes] at mem
    cases mem with
    | head => exact ⟨List.nodup_nil, .nil⟩
    | tail _ mem => exact sound scope mem
  | exit =>
    cases step
    refine ⟨fun scope mem => sound scope ?_, back⟩
    rw [ScopeTracker.exit_scopes] at mem
    exact List.mem_of_mem_tail mem
  | declare name kind span =>
    simp only [perform] at step
    split at step
    · rename_i declared
      cases step
      exact ⟨sound.declare (b := ⟨name, kind⟩) declared, back⟩
    · cases step
      exact ⟨sound, back⟩
  | mark =>
    cases step
    exact ⟨sound, List.forall_mem_cons.2 ⟨sound, back⟩⟩
  | commit =>
    cases marked with
    | nil => cases step
    | cons t marked =>
      cases step
      exact ⟨sound, (List.forall_mem_cons.1 back).2⟩
  | rollback =>
    cases marked with
    | nil => cases step
    | cons t marked =>
      cases step
      obtain ⟨earlier, back⟩ := List.forall_mem_cons.1 back
      refine ⟨?_, back⟩
      rw [follows.rollback]
      exact earlier

theorem run_sound (follows : start.Follows s.marked s.tracker) (h : s.Sound)
    (ran : s.run acts = some s') : s'.Sound := by
  induction acts generalizing s with
  | nil =>
    cases ran
    exact h
  | cons act acts ih =>
    simp only [run, List.foldlM_cons, Option.bind_eq_bind, Option.bind_eq_some_iff] at ran
    obtain ⟨next, step, ran⟩ := ran
    exact ih (perform_follows follows step) (perform_sound follows h step) ran

/-- Wherever a session has got to: declarations all succeed just if no two names that come to stand
in one scope are at odds, those that are there already among them; and so they do in any order.
Those that are there already are never at odds. -/
theorem run_unordered (acts : List ScopeAct) {s : ScopeSession}
    (ran : run { tracker := {} } acts = some s) (ds : List Declaration) :
    ((s.tracker.declareAll ds).isOk = true ↔ ∀ level, Agreeing
      (s.tracker.boundAt level ++ (ds.map Declaration.toBound).filter (s.tracker.goesTo level))) ∧
    (∀ level, Agreeing (s.tracker.boundAt level)) ∧
    ∀ es : List Declaration, es.Perm ds →
      (s.tracker.declareAll es).isOk = (s.tracker.declareAll ds).isOk := by
  have start : Sound { tracker := {} } := ⟨nofun, nofun⟩
  have sound := (run_sound (.unmarked (.refl {})) start ran).1
  refine ⟨sound.declareAll_isOk ds, sound.boundAt, fun es perm => ?_⟩
  rw [Bool.eq_iff_iff, sound.declareAll_isOk, sound.declareAll_isOk]
  exact forall_congr' fun level => Agreeing.perm (((perm.map _).filter _).append_left _)

theorem run_unordered_hoisted : ∃ s, run { tracker := {} }
      [.enter .file, .declare "a" .interfaceType ⟨0, 1⟩, .enter .block,
        .declare "a" .function ⟨2, 1⟩] = some s ∧
    s.tracker.boundAt 0 = [⟨"a", .interfaceType⟩] ∧ s.tracker.boundAt 1 = [⟨"a", .function⟩] ∧
    (∀ level, Agreeing (s.tracker.boundAt level ++
      [⟨"a", .hoisted⟩, ⟨"a", .moduleLike⟩].filter (s.tracker.goesTo level))) ∧
    (s.tracker.declareAll [⟨⟨"a", .moduleLike⟩, ⟨6, 1⟩⟩, ⟨⟨"a", .hoisted⟩, ⟨4, 1⟩⟩]).isOk = true ∧
    (s.tracker.declareAll [⟨⟨"a", .classLike⟩, ⟨6, 1⟩⟩]).isOk = false := by
  cases ran : run { tracker := {} }
      [.enter .file, .declare "a" .interfaceType ⟨0, 1⟩, .enter .block,
        .declare "a" .function ⟨2, 1⟩] with
  | none => cases ran
  | some s =>
    obtain ⟨merging, -, swapped⟩ := run_unordered _ ran
      [⟨⟨"a", .hoisted⟩, ⟨4, 1⟩⟩, ⟨⟨"a", .moduleLike⟩, ⟨6, 1⟩⟩]
    obtain ⟨clashing, -⟩ := run_unordered _ ran [⟨⟨"a", .classLike⟩, ⟨6, 1⟩⟩]
    cases ran
    refine ⟨_, rfl, rfl, rfl, merging.1 rfl, swapped _ (.swap ..), ?_⟩
    exact Bool.eq_false_iff.2 fun ok => absurd (clashing.1 ok 1) (by decide)

end ScopeSession

end TypedScript
