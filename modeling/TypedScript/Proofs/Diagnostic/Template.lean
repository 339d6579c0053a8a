import Mathlib.Data.List.Infix
import Mathlib.Order.Basic
import TypedScript.Diagnostic.Basic

/-! Arguments in messages. A template is read once, and each of its places holds its argument as it is.
Filling the places one number after the other comes to the same for as long as each number, when its turn
comes, stands nowhere but where the template has it: always with one argument, and in the wordings of the
library if no argument holds the place of a later one. -/

namespace TypedScript

namespace Template

def placeAt? (text : List Char) : Option Nat :=
  let index := Nat.ofDigitChars 10 (text.tail.takeWhile Char.isDigit) 0
  if (place index).isPrefixOf text then some index else none

theorem placeAt?_place (index : Nat) (rest : List Char) :
    placeAt? (place index ++ rest) = some index := by
  have digits : (place index ++ rest).tail.takeWhile Char.isDigit = Nat.toDigits 10 index := by
    rw [place, List.cons_append, List.tail_cons, List.append_assoc, List.takeWhile_append_of_pos
      fun c mem => Nat.isDigit_of_mem_toDigits (by decide) (by decide) mem]
    exact List.append_nil _
  rw [placeAt?, digits, Nat.ofDigitChars_toDigits (by decide) (by decide)]
  exact if_pos (List.isPrefixOf_iff_prefix.2 (List.prefix_append _ _))

theorem placeAt?_eq_some_iff {text : List Char} {index : Nat} :
    placeAt? text = some index ↔ place index <+: text := by
  constructor
  · intro found
    rw [placeAt?] at found
    split at found
    · cases found
      exact List.isPrefixOf_iff_prefix.1 ‹_›
    · cases found
  · rintro ⟨rest, rfl⟩
    exact placeAt?_place index rest

theorem place_unique {text : List Char} {i j : Nat} (left : place i <+: text)
    (right : place j <+: text) : i = j := by
  rw [← placeAt?_eq_some_iff] at left right
  exact Option.some.inj (left.symm.trans right)

theorem not_startsWith_place {c : Char} (h : c ≠ '\x7b') (index : Nat) (rest : List Char) :
    ¬place index <+: c :: rest := fun ⟨_, eq⟩ => h (List.cons.inj eq).1.symm

theorem not_mem_tail_place {c : Char} (digit : c.isDigit = false) (close : c ≠ '\x7d')
    (index : Nat) : c ∉ (place index).tail := by
  intro mem
  rcases List.mem_append.1 mem with inside | last
  · have isDigit := Nat.isDigit_of_mem_toDigits (by decide) (by decide) inside
    exact Bool.false_ne_true (digit.symm.trans isDigit)
  · exact close (List.mem_singleton.1 last)

theorem open_not_mem_tail : ∀ index, '\x7b' ∉ (place index).tail :=
  not_mem_tail_place (by decide) (by decide)

theorem place_prefix_append {index : Nat} {c d : Char} {before after : List Char}
    (stops : d ∉ (place index).tail) :
    place index <+: c :: (before ++ d :: after) ↔ place index <+: c :: before := by
  refine ⟨?_, fun found => found.trans (List.prefix_append (c :: before) _)⟩
  rintro ⟨rest, eq⟩
  rcases List.append_eq_append_iff.1 (eq.trans (List.cons_append ..).symm) with
    ⟨more, inside, -⟩ | ⟨more, across, left⟩
  · exact ⟨more, inside.symm⟩
  · cases more with
    | nil => exact ⟨[], by rw [across, List.append_nil, List.append_nil]⟩
    | cons e more =>
      have same : d = e := (List.cons.inj left).1
      refine absurd ?_ stops
      rw [across, same, List.cons_append, List.tail_cons]
      exact List.mem_append_right _ List.mem_cons_self

/-- What stands in a template: a character for itself, or a numbered place. -/
inductive Piece
  | char (c : Char)
  | hole (index : Nat)
deriving DecidableEq, Repr

def piecesFrom : Nat → List Char → List Piece
  | _, [] => []
  | skip + 1, _ :: rest => piecesFrom skip rest
  | 0, c :: rest =>
    match placeAt? (c :: rest) with
    | some index => .hole index :: piecesFrom ((place index).length - 1) rest
    | none => .char c :: piecesFrom 0 rest

def pieces (text : List Char) : List Piece := piecesFrom 0 text

def Piece.subst (σ : Nat → List Char) : Piece → List Char
  | .char c => [c]
  | .hole index => σ index

def subst (σ : Nat → List Char) (ps : List Piece) : List Char := ps.flatMap (Piece.subst σ)

/-- What a place holds: its argument as it is, or itself where there is none. -/
def holds (args : List String) (index : Nat) : List Char :=
  (args[index]?.map String.toList).getD (place index)

/-- The arguments in the places of the template, all at once. -/
def substitute (template : String) (args : List String) : String :=
  String.ofList (subst (holds args) (pieces template.toList))

section

variable (σ : Nat → List Char)

theorem subst_cons (p : Piece) (ps : List Piece) : subst σ (p :: ps) = p.subst σ ++ subst σ ps := rfl

theorem subst_char (c : Char) (ps : List Piece) : subst σ (.char c :: ps) = c :: subst σ ps := rfl

theorem subst_hole (index : Nat) (ps : List Piece) :
    subst σ (.hole index :: ps) = σ index ++ subst σ ps := rfl

end

theorem piecesFrom_append (before after : List Char) :
    piecesFrom before.length (before ++ after) = piecesFrom 0 after := by
  induction before with
  | nil => rfl
  | cons c before ih => exact ih

theorem pieces_place (index : Nat) (rest : List Char) :
    pieces (place index ++ rest) = .hole index :: pieces rest := by
  have found := placeAt?_place index rest
  have passed := piecesFrom_append (place index).tail rest
  rw [place, List.cons_append] at found ⊢
  rw [pieces, piecesFrom, found]
  exact congrArg _ passed

theorem pieces_char {c : Char} {rest : List Char} (h : placeAt? (c :: rest) = none) :
    pieces (c :: rest) = .char c :: pieces rest := by
  rw [pieces, piecesFrom, h]
  rfl

/-- What a text is read as. -/
inductive Reads : List Char → List Piece → Prop
  | nil : Reads [] []
  | hole (index : Nat) {rest : List Char} {ps : List Piece} : Reads rest ps →
      Reads (place index ++ rest) (.hole index :: ps)
  | char {c : Char} {rest : List Char} {ps : List Piece} :
      (∀ index, ¬place index <+: c :: rest) → Reads rest ps → Reads (c :: rest) (.char c :: ps)

theorem pieces_reads (text : List Char) : Reads text (pieces text) := by
  match text with
  | [] => exact .nil
  | c :: rest =>
    match found : placeAt? (c :: rest) with
    | some index =>
      obtain ⟨after, eq⟩ := placeAt?_eq_some_iff.1 found
      have shorter : after.length ≤ rest.length := by
        have lengths := congrArg List.length eq
        simp only [place, List.length_append, List.length_cons] at lengths
        omega
      rw [← eq, pieces_place]
      exact .hole index (pieces_reads after)
    | none =>
      rw [pieces_char found]
      refine .char (fun index starts => ?_) (pieces_reads rest)
      rw [← placeAt?_eq_some_iff, found] at starts
      cases starts
termination_by text.length

namespace Reads

variable {text : List Char} {ps : List Piece}

theorem subst_place (h : Reads text ps) : subst place ps = text := by
  induction h with
  | nil => rfl
  | hole index _ ih => exact congrArg (place index ++ ·) ih
  | char _ _ ih => exact congrArg (_ :: ·) ih

theorem append {d : Char} {after : List Char} {qs : List Piece} (h : Reads text ps)
    (stops : ∀ index, d ∉ (place index).tail) (k : Reads (d :: after) qs) :
    Reads (text ++ d :: after) (ps ++ qs) := by
  induction h with
  | nil => exact k
  | hole index _ ih =>
    rw [List.append_assoc]
    exact .hole index ih
  | char none _ ih =>
    exact .char (fun index => mt (place_prefix_append (stops index)).1 (none index)) ih

end Reads

/-- How often a text occurs in another one. -/
def occurrences (target text : List Char) : Nat := text.tails.countP target.isPrefixOf

variable {index : Nat}

theorem occurrences_cons {c : Char} {rest : List Char} (h : ¬place index <+: c :: rest) :
    occurrences (place index) (c :: rest) = occurrences (place index) rest := by
  rw [occurrences, List.tails_cons]
  exact List.countP_cons_of_neg fun found => h (List.isPrefixOf_iff_prefix.1 found)

theorem occurrences_append_of_not_mem {before : List Char} (after : List Char)
    (h : '\x7b' ∉ before) :
    occurrences (place index) (before ++ after) = occurrences (place index) after := by
  induction before with
  | nil => rfl
  | cons c before ih =>
    have closed := not_startsWith_place (List.ne_of_not_mem_cons h).symm index (before ++ after)
    exact (occurrences_cons closed).trans (ih fun mem => h (List.mem_cons_of_mem _ mem))

theorem occurrences_place (rest : List Char) :
    occurrences (place index) (place index ++ rest) = occurrences (place index) rest + 1 := by
  rw [← occurrences_append_of_not_mem rest (open_not_mem_tail index)]
  exact List.countP_cons_of_pos
    (List.isPrefixOf_iff_prefix.2 (List.prefix_append (place index) rest))

theorem occurrences_place_of_ne {other : Nat} (ne : other ≠ index) (rest : List Char) :
    occurrences (place index) (place other ++ rest) = occurrences (place index) rest := by
  rw [← occurrences_append_of_not_mem rest (open_not_mem_tail other)]
  exact occurrences_cons fun found => ne (place_unique (List.prefix_append (place other) rest) found)

theorem Reads.occurrences_eq {text : List Char} {ps : List Piece} (h : Reads text ps) :
    occurrences (place index) text = ps.count (.hole index) := by
  induction h with
  | nil => rfl
  | hole other _ ih =>
    by_cases same : other = index
    · rw [same, occurrences_place, List.count_cons_self, ih]
    · rw [occurrences_place_of_ne same, ih,
        List.count_cons_of_ne fun eq => same (Piece.hole.inj eq)]
  | char none _ ih =>
    rw [occurrences_cons (none index), ih, List.count_cons_of_ne Piece.noConfusion]

theorem occurrences_append {d : Char} (stops : ∀ index, d ∉ (place index).tail)
    (before after : List Char) : occurrences (place index) (before ++ d :: after) =
      occurrences (place index) before + occurrences (place index) (d :: after) := by
  have first := pieces_reads before
  have second := pieces_reads (d :: after)
  rw [(first.append stops second).occurrences_eq, List.count_append, first.occurrences_eq,
    second.occurrences_eq]

theorem occurrences_append_place (before after : List Char) :
    occurrences (place index) (before ++ (place index ++ after)) =
      occurrences (place index) before + (occurrences (place index) after + 1) := by
  rw [← occurrences_place after]
  exact occurrences_append open_not_mem_tail before _

variable (by' : List Char)

theorem replaceFrom_append (target before after : List Char) :
    replaceFrom target by' before.length (before ++ after) = replace target by' after := by
  induction before with
  | nil => rfl
  | cons c before ih => exact ih

theorem replace_cons {c : Char} {rest : List Char} (h : ¬place index <+: c :: rest) :
    replace (place index) by' (c :: rest) = c :: replace (place index) by' rest :=
  if_neg fun found => h (List.isPrefixOf_iff_prefix.1 found)

theorem replace_append_of_not_mem {before : List Char} (after : List Char)
    (h : '\x7b' ∉ before) : replace (place index) by' (before ++ after) =
      before ++ replace (place index) by' after := by
  induction before with
  | nil => rfl
  | cons c before ih =>
    have closed := not_startsWith_place (List.ne_of_not_mem_cons h).symm index (before ++ after)
    exact (replace_cons by' closed).trans
      (congrArg (c :: ·) (ih fun mem => h (List.mem_cons_of_mem _ mem)))

theorem replace_place (rest : List Char) :
    replace (place index) by' (place index ++ rest) = by' ++ replace (place index) by' rest := by
  rw [← replaceFrom_append by' (place index) (place index).tail rest]
  exact if_pos (List.isPrefixOf_iff_prefix.2 (List.prefix_append (place index) rest))

theorem replace_place_of_ne {other : Nat} (ne : other ≠ index) (rest : List Char) :
    replace (place index) by' (place other ++ rest) =
      place other ++ replace (place index) by' rest := by
  have closed : ¬place index <+: place other ++ rest := fun found =>
    ne (place_unique (List.prefix_append (place other) rest) found)
  exact (replace_cons by' closed).trans (congrArg ('\x7b' :: ·)
    (replace_append_of_not_mem by' rest (open_not_mem_tail other)))

theorem Reads.replace_eq {text : List Char} {ps : List Piece} (h : Reads text ps) :
    replace (place index) by' text = subst (Function.update place index by') ps := by
  induction h with
  | nil => rfl
  | hole other _ ih =>
    by_cases same : other = index
    · rw [same, replace_place, ih, subst_hole, Function.update_self]
    · rw [replace_place_of_ne by' same, ih, subst_hole, Function.update_of_ne same]
  | char none _ ih => rw [replace_cons by' (none index), ih, subst_char]

theorem replace_append_place (before after : List Char) :
    replace (place index) by' (before ++ (place index ++ after)) =
      replace (place index) by' before ++ (by' ++ replace (place index) by' after) := by
  have first := pieces_reads before
  have second := pieces_reads after
  calc replace (place index) by' (before ++ (place index ++ after))
      = subst (Function.update place index by') (pieces before ++ .hole index :: pieces after) :=
        (first.append open_not_mem_tail (.hole index second)).replace_eq by'
    _ = subst (Function.update place index by') (pieces before) ++
        (by' ++ subst (Function.update place index by') (pieces after)) := by
      rw [subst, List.flatMap_append, ← subst, ← subst, subst_hole, Function.update_self]
    _ = _ := by rw [first.replace_eq, second.replace_eq]

section

variable {σ : Nat → List Char} {ps : List Piece}

theorem Piece.subst_update_of_ne {p : Piece} (ne : p ≠ .hole index) :
    p.subst (Function.update σ index by') = p.subst σ := by
  cases p with
  | char c => rfl
  | hole other => exact Function.update_of_ne (fun same => ne (congrArg Piece.hole same)) by' σ

theorem subst_update_of_not_mem (h : .hole index ∉ ps) :
    subst (Function.update σ index by') ps = subst σ ps :=
  List.flatMap_congr fun _ mem => Piece.subst_update_of_ne by' fun own => h (own ▸ mem)

theorem length_subst_update : (subst (Function.update σ index by') ps).length +
    ps.count (.hole index) * (σ index).length =
      (subst σ ps).length + ps.count (.hole index) * by'.length := by
  induction ps with
  | nil => rw [List.count_nil, Nat.zero_mul, Nat.zero_mul]; rfl
  | cons p ps ih =>
    by_cases own : p = .hole index
    · rw [own, List.count_cons_self, subst_hole, subst_hole, Function.update_self,
        List.length_append, List.length_append, Nat.succ_mul, Nat.succ_mul]
      omega
    · rw [List.count_cons_of_ne own, subst_cons, subst_cons, Piece.subst_update_of_ne by' own,
        List.length_append, List.length_append]
      omega

theorem not_mem_of_subst_update (length : by'.length = (σ index).length) (ne : by' ≠ σ index)
    (same : subst (Function.update σ index by') ps = subst σ ps) : .hole index ∉ ps := by
  induction ps with
  | nil => exact List.not_mem_nil
  | cons p ps ih =>
    rw [subst_cons, subst_cons] at same
    by_cases own : p = .hole index
    · subst own
      rw [Piece.subst, Piece.subst, Function.update_self] at same
      exact absurd (List.append_inj_left same length) ne
    · rw [Piece.subst_update_of_ne by' own] at same
      exact List.not_mem_cons_of_ne_of_not_mem (Ne.symm own) (ih (List.append_cancel_left same))

end

theorem replace_eq_self {text : List Char} (none : occurrences (place index) text = 0) :
    replace (place index) by' text = text := by
  have read := pieces_reads text
  rw [read.occurrences_eq] at none
  rw [read.replace_eq, subst_update_of_not_mem by' (List.count_eq_zero.1 none), read.subst_place]

theorem length_replace (text : List Char) : (replace (place index) by' text).length +
    occurrences (place index) text * (place index).length =
      text.length + occurrences (place index) text * by'.length := by
  have read := pieces_reads text
  have lengths := @length_subst_update index by' place (pieces text)
  rwa [← read.replace_eq, ← read.occurrences_eq, read.subst_place] at lengths

theorem occurrences_eq_zero {text : List Char} (length : by'.length = (place index).length)
    (ne : by' ≠ place index) (same : replace (place index) by' text = text) :
    occurrences (place index) text = 0 := by
  have read := pieces_reads text
  rw [read.occurrences_eq]
  refine List.count_eq_zero.2 (not_mem_of_subst_update by' length ne ?_)
  rw [← read.replace_eq, same, read.subst_place]

section

variable {σ : Nat → List Char} (waits : σ index = place index)
include waits

theorem count_le_occurrences (before : List Char) (ps : List Piece) :
    ps.count (.hole index) ≤ occurrences (place index) (before ++ subst σ ps) := by
  induction ps generalizing before with
  | nil => exact Nat.zero_le _
  | cons p ps ih =>
    by_cases own : p = .hole index
    · rw [own, subst_hole, waits, occurrences_append_place, List.count_cons_self]
      exact Nat.le_trans (Nat.succ_le_succ (ih [])) (Nat.le_add_left _ _)
    · rw [List.count_cons_of_ne own, subst_cons, ← List.append_assoc]
      exact ih (before ++ p.subst σ)

theorem replace_subst (before : List Char) (ps : List Piece)
    (nowhereElse : occurrences (place index) (before ++ subst σ ps) = ps.count (.hole index)) :
    replace (place index) by' (before ++ subst σ ps) =
      before ++ subst (Function.update σ index by') ps := by
  -- a place may arise across several pieces, so `before` collects all since the last own one
  induction ps generalizing before with
  | nil => exact replace_eq_self by' nowhereElse
  | cons p ps ih =>
    by_cases own : p = .hole index
    · subst own
      rw [subst_hole, waits, occurrences_append_place, List.count_cons_self] at nowhereElse
      have least : ps.count (.hole index) ≤ occurrences (place index) (subst σ ps) :=
        count_le_occurrences waits [] ps
      have none : occurrences (place index) before = 0 := by omega
      have rest : replace (place index) by' (subst σ ps) =
          subst (Function.update σ index by') ps := ih [] (by rw [List.nil_append]; omega)
      rw [subst_hole, subst_hole, waits, Function.update_self, replace_append_place,
        replace_eq_self by' none, rest]
    · rw [List.count_cons_of_ne own, subst_cons, ← List.append_assoc] at nowhereElse
      rw [subst_cons, subst_cons, Piece.subst_update_of_ne by' own, ← List.append_assoc,
        ← List.append_assoc, ih _ nowhereElse]

theorem occurrences_of_replace (length : by'.length = (place index).length)
    (ne : by' ≠ place index) (before : List Char) (ps : List Piece)
    (same : replace (place index) by' (before ++ subst σ ps) =
      before ++ subst (Function.update σ index by') ps) :
    occurrences (place index) (before ++ subst σ ps) = ps.count (.hole index) := by
  induction ps generalizing before with
  | nil => exact occurrences_eq_zero by' length ne same
  | cons p ps ih =>
    by_cases own : p = .hole index
    · subst own
      rw [subst_hole, subst_hole, waits, Function.update_self, replace_append_place] at same
      have kept : (replace (place index) by' before).length = before.length := by
        have lengths := @length_replace index by' before
        rw [length] at lengths
        omega
      obtain ⟨untouched, behind⟩ := List.append_inj same kept
      rw [subst_hole, waits, occurrences_append_place, List.count_cons_self,
        occurrences_eq_zero by' length ne untouched, Nat.zero_add]
      exact congrArg Nat.succ (ih [] (List.append_cancel_left behind))
    · rw [subst_cons, subst_cons, Piece.subst_update_of_ne by' own, ← List.append_assoc,
        ← List.append_assoc] at same
      rw [List.count_cons_of_ne own, subst_cons, ← List.append_assoc]
      exact ih _ same

theorem replace_subst_iff (ps : List Piece) :
    replace (place index) by' (subst σ ps) = subst (Function.update σ index by') ps ↔
      by' = place index ∨ occurrences (place index) (subst σ ps) = ps.count (.hole index) := by
  constructor
  · intro same
    refine or_iff_not_imp_left.2 fun ne => ?_
    by_cases length : by'.length = (place index).length
    · exact occurrences_of_replace by' waits length ne [] ps same
    · -- then the length of the result tells how often something has been replaced
      have all := @length_replace index by' (subst σ ps)
      have own := @length_subst_update index by' σ ps
      obtain ⟨more, eq⟩ := Nat.exists_eq_add_of_le (count_le_occurrences waits [] ps)
      rw [List.nil_append] at eq
      rw [waits] at own
      rw [same, eq, Nat.add_mul, Nat.add_mul] at all
      have lengths : more * by'.length = more * (place index).length := by omega
      rcases Nat.eq_zero_or_pos more with none | some
      · rw [eq, none, Nat.add_zero]
      · exact absurd (Nat.eq_of_mul_eq_mul_left some lengths) length
  · rintro (same | nowhereElse)
    · have read := pieces_reads (subst σ ps)
      rw [read.replace_eq, same, Function.update_eq_self, read.subst_place, ← waits,
        Function.update_eq_self]
    · exact replace_subst by' waits [] ps nowhereElse

end

theorem fillFrom_concat (first : Nat) (text : List Char) (args : List String) (arg : String) :
    fillFrom first text (args ++ [arg]) =
      replace (place (first + args.length)) arg.toList (fillFrom first text args) := by
  induction args generalizing first text with
  | nil => rfl
  | cons a args ih =>
    rw [List.cons_append, fillFrom, ih, fillFrom, List.length_cons, Nat.add_right_comm,
      Nat.add_assoc]

theorem holds_take_self (args : List String) (n : Nat) : holds (args.take n) n = place n := by
  rw [holds, List.getElem?_take_eq_none (Nat.le_refl n)]
  rfl

section

variable {args : List String} {n : Nat} (lt : n < args.length)
include lt

theorem fillFrom_take_succ (text : List Char) : fillFrom 0 text (args.take (n + 1)) =
    replace (place n) args[n].toList (fillFrom 0 text (args.take n)) := by
  rw [List.take_succ_eq_append_getElem lt, fillFrom_concat, List.length_take_of_le lt.le,
    Nat.zero_add]

theorem holds_take_succ : holds (args.take (n + 1)) =
    Function.update (holds (args.take n)) n args[n].toList := by
  funext i
  rcases Nat.lt_trichotomy i n with before | rfl | behind
  · rw [Function.update_of_ne before.ne, holds, holds, List.getElem?_take_of_lt before,
      List.getElem?_take_of_lt (Nat.lt_succ_of_lt before)]
  · rw [Function.update_self, holds, List.getElem?_take_of_lt (Nat.lt_succ_self i),
      List.getElem?_eq_getElem lt]
    rfl
  · rw [Function.update_of_ne behind.ne', holds, holds,
      List.getElem?_take_eq_none (Nat.succ_le_of_lt behind),
      List.getElem?_take_eq_none behind.le]

theorem fillFrom_take_succ_iff {text : List Char}
    (filled : fillFrom 0 text (args.take n) = subst (holds (args.take n)) (pieces text)) :
    fillFrom 0 text (args.take (n + 1)) = subst (holds (args.take (n + 1))) (pieces text) ↔
      args[n].toList = place n ∨
        occurrences (place n) (subst (holds (args.take n)) (pieces text)) =
          occurrences (place n) text := by
  rw [fillFrom_take_succ lt, holds_take_succ lt, filled, (pieces_reads text).occurrences_eq]
  exact replace_subst_iff _ (holds_take_self args n) (pieces text)

end

theorem subst_holds_nil (text : List Char) : subst (holds []) (pieces text) = text :=
  (pieces_reads text).subst_place

theorem toList_substitute (template : String) (args : List String) :
    (substitute template args).toList = subst (holds args) (pieces template.toList) :=
  String.toList_ofList

theorem fill_eq_substitute_iff {template : String} {args : List String} :
    fill template args = substitute template args ↔
      fillFrom 0 template.toList args = subst (holds args) (pieces template.toList) :=
  String.ofList_inj

/-- When its turn comes, after the arguments before it have been put in, each place occurs as often as in
the template itself; or its argument is the place itself, and nothing changes. -/
def KeepsPlaces (template : String) (args : List String) : Prop :=
  ∀ n (lt : n < args.length), args[n].toList = place n ∨
    occurrences (place n) (substitute template (args.take n)).toList =
      occurrences (place n) template.toList

section

variable {template : String} {args : List String} (keeps : KeepsPlaces template args)
include keeps

theorem fill_take (n : Nat) : fill template (args.take n) = substitute template (args.take n) := by
  rw [fill_eq_substitute_iff]
  induction n with
  | zero => exact (subst_holds_nil template.toList).symm
  | succ n ih =>
    by_cases lt : n < args.length
    · have turn := keeps n lt
      rw [toList_substitute] at turn
      exact (fillFrom_take_succ_iff lt ih).2 turn
    · rw [List.take_of_length_le (by omega)] at ih ⊢
      exact ih

theorem fill_eq_substitute : fill template args = substitute template args := by
  have filled := fill_take keeps args.length
  rwa [List.take_length] at filled

end

/-- Filling the places one number after the other puts the arguments, and as many of the first ones as one
likes, into the places of the template as they are and all at once, if and only if none of them makes the
place of a later one occur where the template has none. -/
theorem fill_substituted (template : String) (args : List String) :
    (∀ n, fill template (args.take n) = substitute template (args.take n)) ↔
      KeepsPlaces template args := by
  refine ⟨fun filled n lt => ?_, fill_take⟩
  have now := fill_eq_substitute_iff.1 (filled n)
  have next := fill_eq_substitute_iff.1 (filled (n + 1))
  rw [toList_substitute]
  exact (fillFrom_take_succ_iff lt now).1 next

/-- The second place is filled in the first argument too. -/
theorem fill_substituted_differs :
    ¬∀ (template : String) (args : List String), fill template args = substitute template args := by
  intro same
  have both := same "'\x7b0\x7d' modifier must precede '\x7b1\x7d' modifier."
    ["\x7b1\x7d", "static"]
  exact absurd both (by decide +kernel)

example : fill "\x7b\x7b0\x7d\x7d" ["1", "x"] = "x" ∧
    substitute "\x7b\x7b0\x7d\x7d" ["1", "x"] = "\x7b1\x7d" := by
  decide +kernel

theorem fill_singleton (template arg : String) :
    fill template [arg] = substitute template [arg] := by
  refine fill_eq_substitute fun n lt => .inr ?_
  obtain rfl : n = 0 := Nat.lt_one_iff.1 lt
  rw [List.take_zero, toList_substitute, subst_holds_nil]

def endsPlaces : List Piece → Bool
  | [] => true
  | .char c :: _ => !c.isDigit && c != '\x7d'
  | .hole _ :: _ => false

def isSealed : List Piece → Bool
  | [] => true
  | .char c :: ps => c != '\x7b' && isSealed ps
  | .hole _ :: ps => endsPlaces ps && isSealed ps

theorem isSealed_template (message : Message) : isSealed (pieces message.template.toList) = true := by
  cases message <;> decide +kernel

section

variable {σ : Nat → List Char} {ps : List Piece}

theorem occurrences_append_subst (ends : endsPlaces ps = true) (before : List Char) :
    occurrences (place index) (before ++ subst σ ps) =
      occurrences (place index) before + occurrences (place index) (subst σ ps) := by
  match ps, ends with
  | [], _ => exact congrArg _ (List.append_nil before)
  | .char c :: ps, ends =>
    rw [endsPlaces, Bool.and_eq_true, Bool.not_eq_true', bne_iff_ne] at ends
    exact occurrences_append (not_mem_tail_place ends.1 ends.2) before _

theorem occurrences_subst (closed : isSealed ps = true) (waits : σ index = place index)
    (plain : ∀ other ≠ index, occurrences (place index) (σ other) = 0) :
    occurrences (place index) (subst σ ps) = ps.count (.hole index) := by
  induction ps with
  | nil => rfl
  | cons p ps ih =>
    cases p with
    | char c =>
      rw [isSealed, Bool.and_eq_true, bne_iff_ne] at closed
      rw [subst_char, occurrences_cons (not_startsWith_place closed.1 index _), ih closed.2,
        List.count_cons_of_ne Piece.noConfusion]
    | hole other =>
      rw [isSealed, Bool.and_eq_true] at closed
      by_cases own : other = index
      · rw [own, subst_hole, waits, occurrences_place, ih closed.2, List.count_cons_self]
      · rw [subst_hole, occurrences_append_subst closed.1, plain other own, ih closed.2,
          Nat.zero_add, List.count_cons_of_ne fun eq => own (Piece.hole.inj eq)]

end

end Template

open Template

theorem Diagnostic.text_of (message : Message) (args : List String)
    (plain : ∀ i j (_ : i < j) (_ : j < args.length),
      occurrences (place j) args[i].toList = 0) :
    (Diagnostic.of message args).text = substitute message.template args := by
  refine fill_eq_substitute fun n lt => .inr ?_
  rw [toList_substitute, (pieces_reads message.template.toList).occurrences_eq]
  refine occurrences_subst (isSealed_template message) (holds_take_self args n) fun i ne => ?_
  rcases Nat.lt_or_gt_of_ne ne with before | behind
  · rw [holds, List.getElem?_take_of_lt before, List.getElem?_eq_getElem (before.trans lt)]
    exact plain i n before lt
  · rw [holds, List.getElem?_take_eq_none behind.le]
    exact (congrArg _ (List.append_nil _)).symm.trans (occurrences_place_of_ne ne [])

end TypedScript
