import TypedScript.Scope.Tracker

/-! The journal of the scopes. What has been noted since a mark was set undoes what has been changed
since then, through any session of changes. -/

namespace TypedScript

namespace Bindings

variable {bs : Bindings} {name : String} {old : Binding} (new : Binding)

theorem erase_put (h : bs.get? name = none) : (bs.put name new).erase name = bs := by
  induction bs with
  | nil => simp [put, erase]
  | cons entry rest ih =>
    simp only [get?, List.lookup_eq_none_iff, List.mem_cons, forall_eq_or_imp, bne_iff_ne] at h ih
    have ne : entry.1 ≠ name := Ne.symm h.1
    simp only [erase] at ih
    simp [put, erase, ne, ih h.2]

theorem put_put (h : bs.get? name = some old) : (bs.put name new).put name old = bs := by
  induction bs with
  | nil => cases h
  | cons entry rest ih =>
    obtain ⟨key, value⟩ := entry
    simp only [get?, List.lookup_cons] at h ih
    by_cases eq : key = name
    · subst eq
      simp at h
      simp [put, h]
    · have ne : (name == key) = false := beq_eq_false_iff_ne.2 (Ne.symm eq)
      simp only [ne] at h
      simp [put, eq, ih h]

end Bindings

namespace ScopeTracker

variable {t u v : ScopeTracker} {scopes : List Scope}

theorem length_changeAt (level : Nat) (f : Bindings → Bindings) (scopes : List Scope) :
    (changeAt level f scopes).length = scopes.length := by
  unfold changeAt
  split <;> simp

theorem changeAt_changeAt {level : Nat} {f g : Bindings → Bindings}
    (h : ∀ scope, scopes[scopes.length - 1 - level]? = some scope →
      g (f scope.bindings) = scope.bindings) :
    changeAt level g (changeAt level f scopes) = scopes := by
  rw [changeAt, length_changeAt]
  unfold changeAt
  split
  · rw [List.modify_modify_eq]
    apply List.ext_getElem? 
    intro i
    rw [List.getElem?_modify]
    split
    · rename_i eq
      subst eq
      cases there : scopes[scopes.length - 1 - level]? with
      | none => rfl
      | some scope => simp [h scope there]
    · simp
  · rfl

@[simp] theorem record_scopes (t : ScopeTracker) (x : Undo) : (t.record x).scopes = t.scopes := by
  unfold record
  split <;> rfl

@[simp] theorem enter_scopes (t : ScopeTracker) (kind : ScopeKind) :
    (t.enter kind).scopes = { kind } :: t.scopes := by
  simp [enter]

@[simp] theorem exit_scopes (t : ScopeTracker) : t.exit.scopes = t.scopes.tail := by
  unfold exit
  split
  · rename_i none
    rw [none]
    rfl
  · rename_i scopes
    simp [scopes]

theorem declare_congr (h : u.scopes = t.scopes) (name : String) (kind : BindingKind) (span : Span) :
    (u.declare name kind span).map ScopeTracker.scopes =
      (t.declare name kind span).map ScopeTracker.scopes := by
  have target : u.target? kind = t.target? kind := by simp only [target?, passedOver, h]
  unfold declare
  rw [target]
  split
  · exact congrArg Except.ok h
  · dsimp only
    split
    · rfl
    · simp only [Except.map, record_scopes, h]

theorem length_declare {name : String} {kind : BindingKind} {span : Span}
    (h : t.declare name kind span = .ok u) : u.scopes.length = t.scopes.length := by
  unfold declare at h
  split at h
  · cases h
    rfl
  · dsimp only at h
    split at h
    · cases h
    · cases h
      simp only [record_scopes, length_changeAt]

theorem undo_declared {level : Nat} {scope : Scope} (name : String) (new : Binding)
    (there : scopes[scopes.length - 1 - level]? = some scope) :
    undo (.declared level name (scope.bindings.get? name)) (changeAt level (·.put name new) scopes) =
      scopes := by
  cases previous : scope.bindings.get? name with
  | none =>
    refine changeAt_changeAt fun s same => ?_
    obtain rfl : scope = s := Option.some.inj (there.symm.trans same)
    exact Bindings.erase_put new previous
  | some old =>
    refine changeAt_changeAt fun s same => ?_
    obtain rfl : scope = s := Option.some.inj (there.symm.trans same)
    exact Bindings.put_put new previous

theorem declare_eq {name : String} {kind : BindingKind} {span : Span}
    (h : t.declare name kind span = .ok u) :
    u = t ∨ ∃ scopes x, u = { t with scopes }.record x ∧ undo x scopes = t.scopes := by
  unfold declare at h
  split at h
  · cases h
    exact .inl rfl
  · rename_i level scope target
    dsimp only at h
    split at h
    · cases h
    · cases h
      refine .inr ⟨_, _, rfl, undo_declared name _ ?_⟩
      simp only [target?, Option.map_eq_some_iff, Prod.mk.injEq] at target
      obtain ⟨found, there, rfl, rfl⟩ := target
      have lt := (List.getElem?_eq_some_iff.1 there).1
      rw [← there]
      congr 1
      omega

structure Extends (t u : ScopeTracker) : Prop where
  openMarks : u.openMarks = t.openMarks
  undone : 0 < t.openMarks → ∃ noted, u.journal = noted ++ t.journal ∧
    noted.foldl (fun scopes x => undo x scopes) u.scopes = t.scopes
  unmarked : t.openMarks = 0 → t.journal = [] → u.journal = []

namespace Extends

theorem refl (t : ScopeTracker) : t.Extends t := ⟨rfl, fun _ => ⟨[], rfl, rfl⟩, fun _ => id⟩

theorem trans (h : t.Extends u) (k : u.Extends v) : t.Extends v where
  openMarks := k.openMarks.trans h.openMarks
  undone marked := by
    obtain ⟨earlier, journal, undone⟩ := h.undone marked
    obtain ⟨later, journal', undone'⟩ := k.undone (h.openMarks ▸ marked)
    refine ⟨later ++ earlier, ?_, ?_⟩
    · rw [journal', journal, List.append_assoc]
    · rw [List.foldl_append, undone', undone]
  unmarked none empty := k.unmarked (h.openMarks.trans none) (h.unmarked none empty)

theorem record {x : Undo} (h : undo x scopes = t.scopes) : t.Extends ({ t with scopes }.record x) := by
  unfold ScopeTracker.record
  split
  · rename_i marked
    exact ⟨rfl, fun _ => ⟨[x], rfl, h⟩, fun none => absurd none (Nat.ne_of_gt marked)⟩
  · rename_i unmarked
    exact ⟨rfl, fun marked => absurd marked unmarked, fun _ => id⟩

theorem enter (t : ScopeTracker) (kind : ScopeKind) : t.Extends (t.enter kind) := record rfl

theorem exit (t : ScopeTracker) : t.Extends t.exit := by
  unfold ScopeTracker.exit
  split
  · exact refl t
  · rename_i scopes
    exact record scopes.symm

theorem declare {name : String} {kind : BindingKind} {span : Span}
    (h : t.declare name kind span = .ok u) : t.Extends u := by
  rcases declare_eq h with rfl | ⟨scopes, x, rfl, undone⟩
  · exact refl u
  · exact record undone

theorem rollback (h : t.mark.2.Extends u) : u.rollback t.mark.1 =
    { t with journal := if t.openMarks = 0 then [] else t.journal } := by
  obtain ⟨noted, journal, undone⟩ := h.undone (Nat.succ_pos _)
  have openMarks : u.openMarks = t.openMarks + 1 := h.openMarks
  have length : u.journal.length - t.journal.length = noted.length := by
    have journal : u.journal = noted ++ t.journal := journal
    rw [journal, List.length_append, Nat.add_sub_cancel]
  have journal : u.journal = noted ++ t.journal := journal
  have undone : noted.foldl (fun scopes x => undo x scopes) u.scopes = t.scopes := undone
  simp only [ScopeTracker.rollback, mark, length, release, openMarks, Nat.add_sub_cancel]
  rw [journal, List.take_left, List.drop_left, undone]

theorem commit (h : t.mark.2.Extends u) : t.Extends (u.commit t.mark.1) := by
  obtain ⟨noted, journal, undone⟩ := h.undone (Nat.succ_pos _)
  have openMarks : u.openMarks - 1 = t.openMarks := by
    rw [h.openMarks]
    rfl
  refine ⟨openMarks, fun marked => ⟨noted, ?_, undone⟩, fun none _ => ?_⟩
  · simp only [ScopeTracker.commit, release, openMarks, if_neg (Nat.ne_of_gt marked)]
    exact journal
  · simp only [ScopeTracker.commit, release, openMarks, if_pos none]

theorem rolledBack (h : t.mark.2.Extends u) : t.Extends (u.rollback t.mark.1) := by
  rw [h.rollback]
  exact ⟨rfl, fun marked => ⟨[], by simp [Nat.ne_of_gt marked], rfl⟩, fun none _ => if_pos none⟩

end Extends

end ScopeTracker

inductive ScopeAct
  | enter (kind : ScopeKind)
  | exit
  | declare (name : String) (kind : BindingKind) (span : Span)
  | mark
  | commit
  | rollback
deriving DecidableEq, Repr

structure ScopeSession where
  tracker : ScopeTracker
  marked : List ScopeTracker := []
deriving DecidableEq, Repr

namespace ScopeTracker

/-- With no mark open nothing is noted. -/
def Tidy (t : ScopeTracker) : Prop := t.openMarks = 0 → t.journal = []

/-- From `start` on to a tracker, by way of those that have been marked: from each of them on with
its mark open. -/
inductive Follows (start : ScopeTracker) : List ScopeTracker → ScopeTracker → Prop
  | unmarked {u} : start.Extends u → Follows start [] u
  | marked {marked t u} :
    Follows start marked t → t.mark.2.Extends u → Follows start (t :: marked) u

namespace Follows

variable {start t u : ScopeTracker} {marked : List ScopeTracker}

theorem extend (h : Follows start marked t) (k : t.Extends u) : Follows start marked u := by
  cases h with
  | unmarked before => exact .unmarked (before.trans k)
  | marked before since => exact .marked before (since.trans k)

theorem rollback (h : Follows start (t :: marked) u) : u.rollback t.mark.1 =
    { t with journal := if t.openMarks = 0 then [] else t.journal } := by
  cases h with
  | marked _ since => exact since.rollback

theorem rolledBack (h : Follows start (t :: marked) u) :
    Follows start marked (u.rollback t.mark.1) := by
  cases h with
  | marked before since => exact before.extend since.rolledBack

theorem commit (h : Follows start (t :: marked) u) :
    Follows start marked (u.commit t.mark.1) := by
  cases h with
  | marked before since => exact before.extend since.commit

theorem tidy (tidy : start.Tidy) (h : Follows start marked t) : t.Tidy := by
  cases h with
  | unmarked before =>
    intro none
    have none : start.openMarks = 0 := before.openMarks.symm.trans none
    exact before.unmarked none (tidy none)
  | marked _ since =>
    intro none
    exact absurd (since.openMarks.symm.trans none) (Nat.succ_ne_zero _)

theorem tidy_marked (tidy : start.Tidy) (h : Follows start (t :: marked) u) : t.Tidy := by
  cases h with
  | marked before _ => exact before.tidy tidy

end Follows

end ScopeTracker

namespace ScopeSession

variable {start : ScopeTracker} {s s' : ScopeSession} {act : ScopeAct} {acts : List ScopeAct}

/-- A declaration in conflict is passed over; closing a mark takes one that is open. -/
def perform (s : ScopeSession) : ScopeAct → Option ScopeSession
  | .enter kind => some { s with tracker := s.tracker.enter kind }
  | .exit => some { s with tracker := s.tracker.exit }
  | .declare name kind span =>
    match s.tracker.declare name kind span with
    | .ok tracker => some { s with tracker }
    | .error _ => some s
  | .mark => some ⟨s.tracker.mark.2, s.tracker :: s.marked⟩
  | .commit =>
    match s.marked with
    | [] => none
    | t :: marked => some ⟨s.tracker.commit t.mark.1, marked⟩
  | .rollback =>
    match s.marked with
    | [] => none
    | t :: marked => some ⟨s.tracker.rollback t.mark.1, marked⟩

def run (s : ScopeSession) (acts : List ScopeAct) : Option ScopeSession := acts.foldlM perform s

theorem perform_follows (h : start.Follows s.marked s.tracker) (step : s.perform act = some s') :
    start.Follows s'.marked s'.tracker := by
  obtain ⟨tracker, marked⟩ := s
  cases act with
  | enter kind =>
    cases step
    exact h.extend (.enter tracker kind)
  | exit =>
    cases step
    exact h.extend (.exit tracker)
  | declare name kind span =>
    simp only [perform] at step
    split at step
    · rename_i declared
      cases step
      exact h.extend (.declare declared)
    · cases step
      exact h
  | mark =>
    cases step
    exact .marked h (.refl _)
  | commit =>
    cases marked with
    | nil => cases step
    | cons t marked =>
      cases step
      exact h.commit
  | rollback =>
    cases marked with
    | nil => cases step
    | cons t marked =>
      cases step
      exact h.rolledBack

theorem run_follows (h : start.Follows s.marked s.tracker) (ran : s.run acts = some s') :
    start.Follows s'.marked s'.tracker := by
  induction acts generalizing s with
  | nil =>
    cases ran
    exact h
  | cons act acts ih =>
    simp only [run, List.foldlM_cons, Option.bind_eq_bind, Option.bind_eq_some_iff] at ran
    obtain ⟨next, step, ran⟩ := ran
    exact ih (perform_follows h step) ran

/-- Wherever a session has got to: going back to the mark set last gives the scopes that it was set
in, and of a tidy start the whole tracker; committing and declaring in conflict leave the scopes;
the tracker is still tidy. -/
theorem run_restores (start : ScopeTracker) (acts : List ScopeAct) {s : ScopeSession}
    (ran : run { tracker := start } acts = some s) :
    (∀ t marked, s.marked = t :: marked →
      (s.perform .rollback).map (fun s => s.tracker.scopes) = some t.scopes ∧
      (start.Tidy → s.perform .rollback = some ⟨t, marked⟩) ∧
      (s.perform .commit).map (fun s => s.tracker.scopes) = some s.tracker.scopes) ∧
    (∀ name kind span conflict, s.tracker.declare name kind span = .error conflict →
      s.perform (.declare name kind span) = some s) ∧
    (start.Tidy → s.tracker.Tidy) := by
  have follows := run_follows (.unmarked (.refl start)) ran
  refine ⟨fun t marked eq => ?_, fun name kind span conflict failed => ?_, (follows.tidy ·)⟩
  · rw [eq] at follows
    have back := follows.rollback
    refine ⟨?_, fun tidy => ?_, ?_⟩
    · simp only [perform, eq, Option.map_some, back]
    · have same : (if t.openMarks = 0 then [] else t.journal) = t.journal := by
        split
        · rename_i none
          exact (follows.tidy_marked tidy none).symm
        · rfl
      simp only [perform, eq, back, same]
    · simp only [perform, eq, Option.map_some, ScopeTracker.commit, ScopeTracker.release]
  · simp only [perform, failed]

theorem run_restores_exited : ∃ s, run { tracker := {} }
      [.enter .file, .enter .block, .declare "a" .lexical ⟨0, 1⟩, .mark,
        .declare "b" .function ⟨2, 1⟩, .mark, .enter .block, .declare "c" .lexical ⟨4, 1⟩, .commit,
        .exit, .exit, .declare "a" .classLike ⟨6, 1⟩] = some s ∧
    s.tracker.scopes = [⟨.file, [("a", ⟨[.classLike], ⟨6, 1⟩⟩)]⟩] ∧
    s.perform .rollback =
      some ⟨⟨[⟨.block, [("a", ⟨[.lexical], ⟨0, 1⟩⟩)]⟩, ⟨.file, []⟩], [], 0⟩, []⟩ ∧
    (s.perform .commit).map (fun s => s.tracker.scopes) = some s.tracker.scopes ∧
    s.perform (.declare "a" .lexical ⟨8, 1⟩) = some s ∧ s.tracker.Tidy := by
  cases ran : run { tracker := {} }
      [.enter .file, .enter .block, .declare "a" .lexical ⟨0, 1⟩, .mark,
        .declare "b" .function ⟨2, 1⟩, .mark, .enter .block, .declare "c" .lexical ⟨4, 1⟩, .commit,
        .exit, .exit, .declare "a" .classLike ⟨6, 1⟩] with
  | none => cases ran
  | some s =>
    have start : ScopeTracker.Tidy {} := fun _ => rfl
    obtain ⟨closing, declaring, tidy⟩ := run_restores {} _ ran
    cases ran
    obtain ⟨-, back, kept⟩ := closing _ _ rfl
    exact ⟨_, rfl, rfl, back start, kept, declaring _ _ _ ⟨.classLike, ⟨6, 1⟩⟩ rfl,
      tidy start⟩

end ScopeSession

end TypedScript
