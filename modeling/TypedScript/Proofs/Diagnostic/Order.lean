import TypedScript.Diagnostic.Basic

/-! The order in which diagnostics are handed out. -/

namespace TypedScript

namespace Diagnostic

theorem fileLe_trans {a b c : Option String} (h : fileLe a b) (k : fileLe b c) : fileLe a c := by
  cases a with
  | none => rfl
  | some a =>
    cases b with
    | none => cases h
    | some b =>
      cases c with
      | none => cases k
      | some c =>
        simp only [fileLe, decide_eq_true_eq] at *
        exact String.le_trans h k

theorem fileLe_total (a b : Option String) : fileLe a b ∨ fileLe b a := by
  cases a with
  | none => exact .inl rfl
  | some a =>
    cases b with
    | none => exact .inr rfl
    | some b => simpa only [fileLe, decide_eq_true_eq] using String.le_total a b

theorem fileLe_antisymm {a b : Option String} (h : fileLe a b) (k : fileLe b a) : a = b := by
  cases a with
  | none =>
    cases b with
    | none => rfl
    | some b => cases k
  | some a =>
    cases b with
    | none => cases h
    | some b =>
      simp only [fileLe, decide_eq_true_eq] at *
      exact congrArg some (String.le_antisymm h k)

theorem sortsBefore_trans (a b c : Diagnostic) (h : sortsBefore a b) (k : sortsBefore b c) :
    sortsBefore a c := by
  unfold sortsBefore at *
  by_cases ab : a.file = b.file
  · by_cases bc : b.file = c.file
    · simp only [ab, bc, if_true, decide_eq_true_eq] at *
      exact Nat.le_trans h k
    · rw [if_neg bc] at k
      rw [if_neg (ab ▸ bc), ab]
      exact k
  · rw [if_neg ab] at h
    by_cases bc : b.file = c.file
    · rw [if_neg (bc ▸ ab), ← bc]
      exact h
    · rw [if_neg bc] at k
      have ac : a.file ≠ c.file := fun ac => ab (fileLe_antisymm h (ac ▸ k))
      rw [if_neg ac]
      exact fileLe_trans h k

theorem sortsBefore_total (a b : Diagnostic) : sortsBefore a b ∨ sortsBefore b a := by
  unfold sortsBefore
  by_cases ab : a.file = b.file
  · simpa only [ab, if_true, decide_eq_true_eq] using Nat.le_total a.start b.start
  · rw [if_neg ab, if_neg (Ne.symm ab)]
    exact fileLe_total a.file b.file

end Diagnostic

namespace Diagnostics

theorem sort_perm (ds : Diagnostics) : ds.sort.items.Perm ds.items := List.mergeSort_perm ..

theorem sort_ordered (ds : Diagnostics) :
    ds.sort.items.Pairwise fun a b => a.sortsBefore b = true := by
  refine List.pairwise_mergeSort Diagnostic.sortsBefore_trans (fun a b => ?_) ds.items
  simpa only [Bool.or_eq_true] using Diagnostic.sortsBefore_total a b

theorem sort_starts {ds : Diagnostics} {file : Option String} (h : ∀ d ∈ ds.items, d.file = file) :
    ds.sort.items.Pairwise fun a b => a.start ≤ b.start := by
  refine List.Pairwise.imp_of_mem (fun {a b} left right before => ?_) ds.sort_ordered
  have same : a.file = b.file :=
    (h a (ds.sort_perm.mem_iff.1 left)).trans (h b (ds.sort_perm.mem_iff.1 right)).symm
  simpa only [Diagnostic.sortsBefore, same, if_true, decide_eq_true_eq] using before

end Diagnostics

end TypedScript
