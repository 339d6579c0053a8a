import TypedScript.Lexer.Basic
import TypedScript.Proofs.Lexer.Lines
import TypedScript.Text.LineMap

/-! The places that a lexer gives are those of the line map of its text, whatever it has been asked
for and set back to before. -/

namespace TypedScript

open Text

theorem lt_of_mem_lineStartsFrom {offset start : Nat} {text : List Char}
    (mem : start ∈ lineStartsFrom offset text) : offset < start := by
  fun_induction lineStartsFrom offset text with
  | case1 => cases mem
  | case2 offset rest ih =>
    rcases List.mem_cons.1 mem with rfl | mem
    · omega
    · have := ih mem
      omega
  | case3 offset c rest _ _ ih =>
    rcases List.mem_cons.1 mem with rfl | mem
    · omega
    · have := ih mem
      omega
  | case4 offset c rest _ _ ih =>
    have := ih mem
    omega

theorem lineStartsFrom_sorted (offset : Nat) (text : List Char) :
    (lineStartsFrom offset text).Pairwise (· < ·) := by
  fun_induction lineStartsFrom offset text with
  | case1 => exact .nil
  | case2 _ _ ih => exact .cons (fun _ => lt_of_mem_lineStartsFrom) ih
  | case3 _ _ _ _ _ ih => exact .cons (fun _ => lt_of_mem_lineStartsFrom) ih
  | case4 _ _ _ _ _ ih => exact ih

theorem getElem_le_iff_lt_countP {starts : List Nat} (sorted : starts.Pairwise (· < ·))
    (offset line : Nat) (lt : line < starts.length) :
    starts[line] ≤ offset ↔ line < starts.countP (· ≤ offset) := by
  induction starts generalizing line with
  | nil => cases lt
  | cons start starts ih =>
    obtain ⟨first, sorted⟩ := List.pairwise_cons.1 sorted
    by_cases small : start ≤ offset
    · rw [List.countP_cons_of_pos (by simpa using small)]
      cases line with
      | zero => simpa using small
      | succ line => simpa using ih sorted line (Nat.lt_of_succ_lt_succ lt)
    · have large : ∀ later ∈ start :: starts, ¬later ≤ offset := by
        intro later mem
        rcases List.mem_cons.1 mem with rfl | mem
        · exact small
        · have := first later mem
          omega
      have none : (start :: starts).countP (· ≤ offset) = 0 :=
        List.countP_eq_zero.2 fun later mem => by simpa using large later mem
      rw [none]
      exact iff_of_false (large _ (List.getElem_mem lt)) (Nat.not_lt_zero line)

namespace LineCount

theorem pass_break (n : LineCount) {c : Char} {next? : Option Char}
    (lineBreak : isLineBreak c = true) (whole : c = '\r' → next? ≠ some '\n') :
    n.pass c next? = ⟨n.offset + 1, n.line + 1, n.offset + 1⟩ := by
  have ends : (isLineBreak c && !(c == '\r' && next? == some '\n')) = true := by
    simpa [lineBreak, ← Decidable.imp_iff_not_or] using whole
  simp only [pass, ends, if_true]

theorem pass_inside (n : LineCount) {c : Char} (next? : Option Char)
    (inside : isLineBreak c = false) : n.pass c next? = { n with offset := n.offset + 1 } := by
  simp [pass, inside]

structure HasCounted (starts : List Nat) (n w : LineCount) : Prop where
  line : w.line = n.line + starts.countP (· ≤ w.offset)
  lineStart : w.lineStart = (n.lineStart :: starts).getD (starts.countP (· ≤ w.offset)) 0

namespace HasCounted

variable {starts : List Nat} {n w : LineCount}

theorem none (later : ∀ start ∈ starts, w.offset < start) (line : w.line = n.line)
    (lineStart : w.lineStart = n.lineStart) : HasCounted starts n w := by
  have count : starts.countP (· ≤ w.offset) = 0 :=
    List.countP_eq_zero.2 fun start mem => by simpa using later start mem
  refine ⟨?_, ?_⟩
  · rw [count, line, Nat.add_zero]
  · rw [count, lineStart, List.getD_cons_zero]

theorem cons {start : Nat} {m : LineCount} (h : HasCounted starts m w) (le : start ≤ w.offset)
    (line : m.line = n.line + 1) (lineStart : m.lineStart = start) :
    HasCounted (start :: starts) n w := by
  have count : (start :: starts).countP (· ≤ w.offset) = starts.countP (· ≤ w.offset) + 1 :=
    List.countP_cons_of_pos (by simpa using le)
  refine ⟨?_, ?_⟩
  · rw [count, h.line, line, Nat.add_right_comm, Nat.add_assoc]
  · rw [count, h.lineStart, lineStart, List.getD_cons_succ]

end HasCounted

theorem walk_hasCounted (offset : Nat) (chars : List Char) (n : LineCount) (at_ : n.offset = offset)
    (count : Nat) : HasCounted (lineStartsFrom offset chars) n (walk count n chars) := by
  have later {first offset : Nat} (lt : offset < first) (chars : List Char) :
      ∀ start ∈ first :: lineStartsFrom first chars, offset < start :=
    List.forall_mem_cons.2 ⟨lt, fun _ mem => Nat.lt_trans lt (lt_of_mem_lineStartsFrom mem)⟩
  have passed (start line count : Nat) (chars : List Char) :
      start ≤ (walk count ⟨start, line, start⟩ chars).offset := by
    rw [walk_offset]
    exact Nat.le_add_right _ _
  fun_induction lineStartsFrom offset chars generalizing n count with
  | case1 offset => cases count <;> exact .none (fun _ mem => nomatch mem) rfl rfl
  | case2 offset rest ih =>
    subst at_
    -- Between the two halves of the break its line has not ended yet.
    have half : n.pass '\r' (some '\n') = { n with offset := n.offset + 1 } := by simp [pass]
    match count with
    | 0 => exact .none (later (Nat.lt_add_of_pos_right Nat.two_pos) rest) rfl rfl
    | 1 =>
      rw [walk, List.head?_cons, half]
      exact .none (later (Nat.lt_succ_self _) rest) rfl rfl
    | count + 2 =>
      rw [walk, walk, List.head?_cons, half, pass_break _ rfl (by simp)]
      exact .cons (ih ⟨n.offset + 2, n.line + 1, n.offset + 2⟩ rfl count) (passed _ _ _ _) rfl rfl
  | case3 offset c rest whole lineBreak ih =>
    subst at_
    cases count with
    | zero => exact .none (later (Nat.lt_succ_self _) rest) rfl rfl
    | succ count =>
      have whole : c = '\r' → rest.head? ≠ some '\n' := by
        rintro rfl next
        obtain ⟨tail, rfl⟩ := List.head?_eq_some_iff.1 next
        exact whole tail rfl rfl
      rw [walk, n.pass_break lineBreak whole]
      exact .cons (ih ⟨n.offset + 1, n.line + 1, n.offset + 1⟩ rfl count) (passed _ _ _ _) rfl rfl
  | case4 offset c rest whole inside ih =>
    subst at_
    cases count with
    | zero => exact .none (fun _ mem => Nat.lt_of_succ_lt (lt_of_mem_lineStartsFrom mem)) rfl rfl
    | succ count =>
      rw [walk, n.pass_inside _ (by simpa using inside)]
      have counted := ih { n with offset := n.offset + 1 } rfl count
      exact ⟨counted.line, counted.lineStart⟩

end LineCount

namespace LineMap

variable {m : LineMap} {offset : Nat}

/-- A line starts at or before the offset, and it is the last one that does. -/
structure Holds (m : LineMap) (line offset : Nat) : Prop where
  start_le : ∃ start, m.lineStart? line = some start ∧ start ≤ offset
  count_eq : line + 1 = m.starts.toList.countP (· ≤ offset)

theorem bisect_eq (sorted : m.starts.toList.Pairwise (· < ·)) {lo hi : Nat}
    (lt : lo < m.starts.toList.countP (· ≤ offset))
    (le : m.starts.toList.countP (· ≤ offset) ≤ hi) (inside : hi ≤ m.starts.size) :
    m.bisect offset lo hi + 1 = m.starts.toList.countP (· ≤ offset) := by
  have started (line : Nat) (lt : line < m.starts.size) :
      m.starts.getD line 0 ≤ offset ↔ line < m.starts.toList.countP (· ≤ offset) := by
    rw [← Array.getElem_eq_getD 0 (h := lt), ← Array.getElem_toList]
    exact getElem_le_iff_lt_countP sorted offset line lt
  fun_induction bisect m offset lo hi with
  | case1 => omega
  | case2 lo hi _ mid early ih => exact ih ((started mid (by omega)).1 early) le inside
  | case3 lo hi _ mid late ih =>
    rw [started mid (by omega)] at late
    exact ih lt (Nat.le_of_not_lt late) (by omega)

variable (text : List Char) (offset : Nat)

theorem ofText_sorted : (ofText text).starts.toList.Pairwise (· < ·) :=
  .cons (fun _ => lt_of_mem_lineStartsFrom) (lineStartsFrom_sorted 0 text)

theorem ofText_holds : (ofText text).Holds ((ofText text).lineOf offset) offset := by
  have sorted := ofText_sorted text
  have count : (ofText text).lineOf offset + 1 = (ofText text).starts.toList.countP (· ≤ offset) :=
    bisect_eq sorted (by simp [ofText]) List.countP_le_length (Nat.le_refl _)
  have lt : (ofText text).lineOf offset < (ofText text).starts.toList.length := by
    rw [← Nat.succ_le_iff, Nat.succ_eq_add_one, count]
    exact List.countP_le_length
  refine ⟨⟨_, Array.getElem?_eq_getElem lt, ?_⟩, count⟩
  rw [← Array.getElem_toList, getElem_le_iff_lt_countP sorted]
  exact Nat.lt_of_succ_le (Nat.le_of_eq count)

theorem lineColumnOf_eq {text : List Char} {offset : Nat} (le : offset ≤ text.length) :
    (ofText text).lineColumnOf offset = placeIn text offset := by
  have reached : (LineCount.walk offset {} text).offset = offset := by
    rw [LineCount.walk_offset, Nat.zero_add, Nat.min_eq_left le]
  obtain ⟨line, lineStart⟩ := LineCount.walk_hasCounted 0 text {} rfl offset
  rw [reached] at line lineStart
  have ended : (ofText text).lineOf offset = (lineStartsFrom 0 text).countP (· ≤ offset) := by
    have count := (ofText_holds text offset).count_eq
    rw [ofText, List.countP_cons_of_pos (by simp)] at count
    exact Nat.succ.inj count
  simp only [lineColumnOf, placeIn, LineCount.column, reached, line, lineStart, ended, Nat.zero_add]
  simp only [ofText, List.getD_eq_getElem?_getD, Array.getD_eq_getD_getElem?, List.getElem?_toArray]

end LineMap

inductive LexerAct
  | skipShebang
  | scan
  | rescanAngles
  | rescanTemplate
  | rescanSlash
  | setFrames (frames : FrameStack)
  | setSpeculating (value : Bool)
  | setCollecting (value : Bool)
  | takeError
  | takeComments
  | locate (offset : Nat)
  | snapshot
  | restore (slot : Nat)

/-- An offset and the place that has been given for it. -/
structure Located where
  offset : Nat
  place : LineColumn
deriving DecidableEq, Repr

/-- Where a token starts and where it stops. -/
def Token.located (t : Token) : List Located := [⟨t.start, t.startAt⟩, ⟨t.stop, t.stopAt⟩]

structure LexerSession where
  lexer : Lexer
  saved : List Lexer.Snapshot := []
  answers : List Located := []

namespace LexerSession

/-- Goes on to a state in which the ends of the current token can be seen. -/
def goOn (s : LexerSession) (l : Lexer) : LexerSession :=
  { s with lexer := l, answers := s.answers ++ l.token.located }

def perform (s : LexerSession) : LexerAct → LexerSession
  | .skipShebang => s.goOn s.lexer.skipShebang
  | .scan => s.goOn s.lexer.scan
  | .rescanAngles => s.goOn s.lexer.rescanAngles
  | .rescanTemplate => s.goOn s.lexer.rescanTemplate
  | .rescanSlash => s.goOn s.lexer.rescanSlash
  | .setFrames frames => s.goOn { s.lexer with frames }
  | .setSpeculating value => s.goOn { s.lexer with speculating := value }
  | .setCollecting value => s.goOn { s.lexer with collecting := value }
  | .takeError => s.goOn s.lexer.takeError.2
  | .takeComments => s.goOn s.lexer.takeComments.2
  | .locate offset =>
    let (place, lexer) := s.lexer.locate offset
    { s with lexer, answers := s.answers ++ [⟨offset, place⟩] }
  | .snapshot => { s with saved := s.saved ++ [s.lexer.snapshot] }
  | .restore slot =>
    match s.saved[slot]? with
    | some state => s.goOn (s.lexer.restore state)
    | none => s

def run (s : LexerSession) (acts : List LexerAct) : LexerSession := acts.foldl perform s

end LexerSession

structure Lexer.Placed (text : List Char) (l : Lexer) : Prop where
  text_eq : l.text = text
  counts : l.lines.Counts text
  located : ∀ a ∈ l.token.located, a.place = placeIn text a.offset

namespace Lexer.Placed

variable {text : List Char} {l : Lexer}

theorem accept (counts : l.lines.Counts text) {c : Cursor} (same : c.text = text) (x : Lexeme)
    (value : String) (flags : TokenFlags) : (l.accept c x value flags).Placed text := by
  have started := counts.goTo c.offset
  have stopped := started.1.goTo (c.offset + x.length)
  refine ⟨same, stopped.1, fun a mem => ?_⟩
  simp only [Token.located, List.mem_cons, List.not_mem_nil, or_false] at mem
  rcases mem with rfl | rfl
  · exact started.2
  · exact stopped.2

theorem scan (h : l.Placed text) : l.scan.Placed text := by
  unfold Lexer.scan
  dsimp only
  split
  · exact accept h.counts (c := l.cursor) h.text_eq _ _ _
  · exact accept (l := l.skipTrivia.1) h.counts (c := l.skipTrivia.1.cursor) h.text_eq _ _ _

theorem reread (h : l.Placed text) (x : Lexeme) (value : String) (flags : TokenFlags) :
    (l.accept (l.cursor.seek l.token.start) x value flags).Placed text :=
  accept h.counts (c := l.cursor.seek l.token.start) h.text_eq x value flags

theorem rescanAngles (h : l.Placed text) : l.rescanAngles.Placed text := by
  unfold Lexer.rescanAngles
  split
  · exact h.reread _ _ _
  · exact h

theorem skipShebang (h : l.Placed text) : l.skipShebang.Placed text := by
  unfold Lexer.skipShebang
  split
  · exact ⟨h.text_eq, h.counts, h.located⟩
  · exact h

theorem locate (h : l.Placed text) (offset : Nat) :
    (l.locate offset).1 = placeIn text offset ∧ (l.locate offset).2.Placed text :=
  have reached := h.counts.goTo offset
  ⟨reached.2, h.text_eq, reached.1, h.located⟩

theorem restore (h : l.Placed text) (m : Lexer) : (m.restore l.snapshot).Placed text :=
  ⟨h.text_eq, h.counts, h.located⟩

end Lexer.Placed

namespace LexerSession

structure Placed (text : List Char) (s : LexerSession) : Prop where
  lexer : s.lexer.Placed text
  saved : ∀ state ∈ s.saved, ∀ l : Lexer, (l.restore state).Placed text
  answers : ∀ a ∈ s.answers, a.place = placeIn text a.offset

namespace Placed

variable {text : List Char} {s : LexerSession}

theorem goOn (h : s.Placed text) {l : Lexer} (placed : l.Placed text) : (s.goOn l).Placed text :=
  ⟨placed, h.saved, List.forall_mem_append.2 ⟨h.answers, placed.located⟩⟩

theorem perform (h : s.Placed text) (act : LexerAct) : (s.perform act).Placed text := by
  have alike {l : Lexer} (cursor : l.cursor = s.lexer.cursor) (lines : l.lines = s.lexer.lines)
      (token : l.token = s.lexer.token) : (s.goOn l).Placed text := by
    refine h.goOn ⟨?_, lines ▸ h.lexer.counts, token ▸ h.lexer.located⟩
    rw [Lexer.text, cursor]
    exact h.lexer.text_eq
  cases act with
  | skipShebang => exact h.goOn h.lexer.skipShebang
  | scan => exact h.goOn h.lexer.scan
  | rescanAngles => exact h.goOn h.lexer.rescanAngles
  | rescanTemplate => exact h.goOn (h.lexer.reread _ _ _)
  | rescanSlash => exact h.goOn (h.lexer.reread _ _ _)
  | setFrames | setSpeculating | setCollecting | takeError | takeComments => exact alike rfl rfl rfl
  | locate offset =>
    obtain ⟨place, placed⟩ := h.lexer.locate offset
    refine ⟨placed, h.saved, List.forall_mem_append.2 ⟨h.answers, fun a mem => ?_⟩⟩
    rw [List.mem_singleton] at mem
    rw [mem]
    exact place
  | snapshot =>
    refine ⟨h.lexer, List.forall_mem_append.2 ⟨h.saved, fun state mem l => ?_⟩, h.answers⟩
    rw [List.mem_singleton] at mem
    rw [mem]
    exact h.lexer.restore l
  | restore slot =>
    cases there : s.saved[slot]? with
    | none => simpa only [LexerSession.perform, there] using h
    | some state =>
      simp only [LexerSession.perform, there]
      exact h.goOn (h.saved state (List.mem_of_getElem? there) s.lexer)

theorem run (h : s.Placed text) (acts : List LexerAct) : (s.run acts).Placed text := by
  induction acts generalizing s with
  | nil => exact h
  | cons act acts ih => exact ih (h.perform act)

end Placed

/-- Each place that is given for an offset of the text is the one that the line map has for it, in
whatever order tokens are read and read again, states saved and gone back to, and offsets asked for.
The lines of the map start at zero and then further and further on; the one found for an offset has
started there, so that there is no place before the first one to be found, and no later one has. -/
theorem run_located (text : List Char) (acts : List LexerAct) :
    let map := LineMap.ofText text
    (∀ a ∈ (run { lexer := .ofText text } acts).answers, a.offset ≤ text.length →
      a.place = map.lineColumnOf a.offset) ∧
    map.lineStart? 0 = some 0 ∧ map.starts.toList.Pairwise (· < ·) ∧
    ∀ offset, map.Holds (map.lineOf offset) offset := by
  intro map
  have unread : ∀ a ∈ ({} : Token).located, a.place = placeIn text a.offset :=
    List.forall_mem_cons.2 ⟨rfl, List.forall_mem_cons.2 ⟨rfl, fun _ mem => nomatch mem⟩⟩
  have start : Placed text { lexer := .ofText text } :=
    ⟨⟨rfl, .atStart text, unread⟩, fun _ mem => (nomatch mem), fun _ mem => nomatch mem⟩
  refine ⟨fun a mem le => ?_, rfl, LineMap.ofText_sorted text, LineMap.ofText_holds text⟩
  rw [LineMap.lineColumnOf_eq le]
  exact (start.run acts).answers a mem

theorem run_located_break :
    let text := "a\r\nb".toList
    let s := run { lexer := .ofText text }
      [.scan, .snapshot, .locate 2, .scan, .restore 0, .locate 4, .locate 1]
    let map := LineMap.ofText text
    s.answers.map (fun a => (a.offset, a.place)) =
      [(0, ⟨0, 0⟩), (1, ⟨0, 1⟩), (2, ⟨0, 2⟩), (3, ⟨1, 0⟩), (4, ⟨1, 1⟩), (0, ⟨0, 0⟩), (1, ⟨0, 1⟩),
        (4, ⟨1, 1⟩), (1, ⟨0, 1⟩)] ∧
    ⟨0, 2⟩ = map.lineColumnOf 2 ∧ ⟨1, 1⟩ = map.lineColumnOf 4 ∧ map.Holds (map.lineOf 2) 2 := by
  intro text s map
  have answers : s.answers = [⟨0, ⟨0, 0⟩⟩, ⟨1, ⟨0, 1⟩⟩, ⟨2, ⟨0, 2⟩⟩, ⟨3, ⟨1, 0⟩⟩, ⟨4, ⟨1, 1⟩⟩,
      ⟨0, ⟨0, 0⟩⟩, ⟨1, ⟨0, 1⟩⟩, ⟨4, ⟨1, 1⟩⟩, ⟨1, ⟨0, 1⟩⟩] := by
    decide +kernel
  obtain ⟨places, -, -, holds⟩ := run_located text
    [.scan, .snapshot, .locate 2, .scan, .restore 0, .locate 4, .locate 1]
  refine ⟨by rw [answers]; rfl, places ⟨2, ⟨0, 2⟩⟩ ?_ (by decide),
    places ⟨4, ⟨1, 1⟩⟩ ?_ (by decide), holds 2⟩
  · change _ ∈ s.answers
    rw [answers]
    decide
  · change _ ∈ s.answers
    rw [answers]
    decide

end LexerSession

end TypedScript
