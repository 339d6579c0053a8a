import TypedScript.Lexer.Lines

/-! Lines and columns are those that are counted from the start of the text, in whatever order they
are asked for. -/

namespace TypedScript

open Text

namespace LineCount

variable (n : LineCount)

theorem walk_offset (count : Nat) (chars : List Char) :
    (walk count n chars).offset = n.offset + min count chars.length := by
  induction count generalizing n chars with
  | zero => simp [walk]
  | succ count ih =>
    cases chars with
    | nil => simp [walk]
    | cons c rest =>
      have pass : (n.pass c rest.head?).offset = n.offset + 1 := by
        unfold LineCount.pass
        dsimp only
        split <;> rfl
      rw [walk, ih, pass, List.length_cons]
      omega

theorem walk_add (first second : Nat) (chars : List Char) :
    walk (first + second) n chars = walk second (walk first n chars) (chars.drop first) := by
  induction first generalizing n chars with
  | zero => simp [walk]
  | succ first ih =>
    cases chars with
    | nil => cases second <;> simp [walk]
    | cons c rest => rw [Nat.add_right_comm, walk, walk, ih, List.drop_succ_cons]

theorem walk_min (count : Nat) (chars : List Char) :
    walk (min count chars.length) n chars = walk count n chars := by
  induction count generalizing n chars with
  | zero => simp [walk]
  | succ count ih =>
    cases chars with
    | nil => simp [walk]
    | cons c rest => rw [List.length_cons, Nat.add_min_add_right, walk, walk, ih]

end LineCount

def placeIn (text : List Char) (offset : Nat) : LineColumn := (LineCount.walk offset {} text).column

structure LineCursor.Counts (l : LineCursor) (text : List Char) : Prop where
  count : l.count = .walk l.cursor.offset {} text
  same : l.cursor.text = text

namespace LineCursor.Counts

variable {l : LineCursor} {text : List Char}

theorem atStart (text : List Char) : (LineCursor.atStart text).Counts text := ⟨rfl, rfl⟩

theorem forward (h : l.Counts text) {offset : Nat} (le : l.cursor.offset ≤ offset) :
    (l.forward offset).Counts text ∧ (l.forward offset).place = placeIn text offset := by
  have reached : l.count.walk (offset - l.cursor.offset) l.cursor.rest = .walk offset {} text := by
    rw [l.cursor.rest_eq, h.same, h.count, ← LineCount.walk_add, Nat.add_sub_cancel' le]
  have fields : (LineCount.walk offset {} text).offset = min offset text.length := by
    rw [LineCount.walk_offset, Nat.zero_add]
  have inside : l.cursor.offset ≤ text.length := by
    have counted := congrArg LineCount.offset h.count
    rw [LineCount.walk_offset] at counted
    simp only [LineCursor.count] at counted
    omega
  have stops : l.cursor.offset + (min offset text.length - l.cursor.offset) =
      min offset text.length := by
    omega
  have count : (l.forward offset).count = .walk offset {} text := by
    simp only [LineCursor.forward, LineCursor.count, Cursor.advance] at reached ⊢
    rw [reached, fields, stops, ← fields]
  have offset_eq : (l.forward offset).cursor.offset = min offset text.length := by
    rw [← fields, ← count]
    rfl
  refine ⟨⟨?_, h.same⟩, congrArg LineCount.column count⟩
  rw [offset_eq, LineCount.walk_min, count]

theorem goTo (h : l.Counts text) (offset : Nat) :
    (l.goTo offset).Counts text ∧ (l.goTo offset).place = placeIn text offset := by
  unfold LineCursor.goTo
  split
  · rw [h.same]
    exact (atStart text).forward (Nat.zero_le _)
  · exact h.forward (by omega)

end LineCursor.Counts

end TypedScript
