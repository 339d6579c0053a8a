import TypedScript.Proofs.Lexer.Lines
import TypedScript.Proofs.Lexer.Reading

/-! The current token is what the innermost frame has it be, in whatever order tokens are read,
frames entered and left, and states saved and gone back to. -/

namespace TypedScript

open Text

def StartsAngle (chars : List Char) : Prop := chars.head? = some '<' ∨ chars.head? = some '>'

theorem Kind.text_of_isAngle {k : Kind} (angle : k.isAngle = true) :
    ∃ word, k.text? = some word ∧ StartsAngle word.toList := by
  unfold isAngle at angle
  split at angle
  case h_11 => cases angle
  all_goals first
    | exact ⟨_, rfl, .inl rfl⟩
    | exact ⟨_, rfl, .inr rfl⟩

namespace Punctuation

theorem afterLess_isAngle (rest : List Char) : (afterLess rest).1.isAngle = true := by
  unfold afterLess
  split <;> rfl

theorem afterGreater_isAngle (rest : List Char) : (afterGreater rest).1.isAngle = true := by
  unfold afterGreater
  split <;> rfl

end Punctuation

theorem Lexer.lexemeAt_isAngle (f : Frame) {chars : List Char} (angle : StartsAngle chars) :
    (lexemeAt f chars).kind.isAngle = true ∧ (lexemeAt f chars).flags = {} := by
  cases chars with
  | nil => rcases angle with h | h <;> cases h
  | cons c rest =>
    rcases angle with h | h <;> cases h
    · rw [lexemeAt_less]
      cases f.splitsAngles with
      | true => exact ⟨rfl, rfl⟩
      | false => exact ⟨Punctuation.afterLess_isAngle rest, rfl⟩
    · rw [lexemeAt_greater]
      cases f.splitsAngles with
      | true => exact ⟨rfl, rfl⟩
      | false => exact ⟨Punctuation.afterGreater_isAngle rest, rfl⟩

theorem Lexeme.IsAt.isAngle_iff {chars : List Char} {x : Lexeme} (h : x.IsAt chars) :
    x.kind.isAngle = true ↔ StartsAngle chars := by
  refine ⟨fun angle => ?_, fun angle => ?_⟩
  · obtain ⟨word, spelling, starts⟩ := Kind.text_of_isAngle angle
    have ne : chars ≠ [] := by
      rintro rfl
      rw [h.ofNil.1] at angle
      cases angle
    obtain ⟨rest, rfl⟩ := (h.fits ne).text word spelling
    rcases starts with starts | starts
    · exact .inl (by rw [List.head?_append, starts]; rfl)
    · exact .inr (by rw [List.head?_append, starts]; rfl)
  · cases h with
    | plain frame => exact (Lexer.lexemeAt_isAngle frame angle).1
    | chunk => rcases angle with angle | angle <;> cases angle
    | slash => rcases angle with angle | angle <;> cases angle

theorem Token.Read.isAngle_iff {text : List Char} {t : Token} (h : t.Read text) :
    t.kind.isAngle = true ↔ StartsAngle (text.drop t.start) := by
  obtain ⟨x, read, kind, -⟩ := h.lexeme
  rw [kind]
  exact read.isAngle_iff

def Token.inFrame (t : Token) (f : Frame) (text : List Char) : Token :=
  let x := Lexer.lexemeAt f (text.drop t.start)
  let stop := t.start + x.length
  { t with kind := x.kind, stop, stopAt := placeIn text stop }

theorem Token.inFrame_inFrame (t : Token) (f f' : Frame) (text : List Char) :
    (t.inFrame f text).inFrame f' text = t.inFrame f' text := rfl

namespace Lexer

/-- With other frames, of which the innermost decides how a current angle bracket is read. -/
def under (l : Lexer) (frames : FrameStack) : Lexer := { l with frames }.rescanAngles

structure Current (l : Lexer) : Prop where
  offset_le : l.offset ≤ l.text.length
  read : l.token = {} ∨ l.token.Read l.text
  counts : l.lines.Counts l.text
  startAt : l.token.startAt = placeIn l.text l.token.start
  stopAt : l.token.stopAt = placeIn l.text l.token.stop
  angles : l.token.kind.isAngle = true →
    l.token.kind = (lexemeAt l.frames.current (l.text.drop l.token.start)).kind ∧
      l.token.stop = l.token.start +
        (lexemeAt l.frames.current (l.text.drop l.token.start)).length

namespace Current

variable {l : Lexer}

theorem alike (h : l.Current) {m : Lexer} (cursor : m.cursor = l.cursor) (token : m.token = l.token)
    (frames : m.frames = l.frames) (lines : m.lines = l.lines) : m.Current := by
  obtain ⟨offset_le, read, counts, startAt, stopAt, angles⟩ := h
  simp only [offset, text, ← cursor, ← token, ← frames, ← lines] at *
  exact ⟨offset_le, read, counts, startAt, stopAt, angles⟩

theorem read_of_kind (h : l.Current) (known : l.token.kind ≠ .unknown) : l.token.Read l.text := by
  rcases h.read with start | read
  · rw [start] at known
    exact absurd rfl known
  · exact read

theorem read_of_isAngle (h : l.Current) (angle : l.token.kind.isAngle = true) :
    l.token.Read l.text :=
  h.read_of_kind fun unknown => by rw [unknown] at angle; cases angle

theorem unread (le : l.offset ≤ l.text.length) (token : l.token = {})
    (lines : l.lines = .atStart l.text) : l.Current := by
  refine ⟨le, .inl token, lines ▸ .atStart l.text, ?_, ?_, ?_⟩
  · rw [token]; rfl
  · rw [token]; rfl
  · rw [token]; exact fun angle => nomatch angle

theorem ofText (text : List Char) (collecting : Bool) :
    Current { Lexer.ofText text with collecting } := unread (Nat.zero_le _) rfl rfl

theorem pastShebang (text : List Char) (collecting : Bool) :
    let l := skipShebang { Lexer.ofText text with collecting }
    l.Current ∧ l.text = text := by
  intro l
  have le : l.offset ≤ text.length := skipShebang_offset_le _ rfl
  obtain ⟨cursor, eq, same⟩ := skipShebang_eq { Lexer.ofText text with collecting }
  have text_eq : l.text = text := (congrArg Lexer.text eq).trans same
  refine ⟨unread (text_eq.symm ▸ le) (congrArg Lexer.token eq) ?_, text_eq⟩
  rw [text_eq]
  exact congrArg Lexer.lines eq

theorem accept (counts : l.lines.Counts l.text) {c : Cursor} {x : Lexeme}
    (same : c.text = l.text) (le : c.offset ≤ c.text.length) (read : x.IsAt c.rest)
    (angles : StartsAngle c.rest → x = lexemeAt l.frames.current c.rest)
    (value : String) (flags : TokenFlags) : (l.accept c x value flags).Current := by
  have token := l.accept_read value flags le read
  have started := counts.goTo c.offset
  have stopped := started.1.goTo (c.offset + x.length)
  refine ⟨?_, .inr token, ?_, ?_, ?_, fun angle => ?_⟩
  · exact token.stop_le
  · rw [text_accept, same]
    exact stopped.1
  · rw [text_accept, same]
    exact started.2
  · rw [text_accept, same]
    exact stopped.2
  · rw [token.isAngle_iff, text_accept] at *
    have starts : StartsAngle c.rest := c.rest_eq ▸ angle
    have x_eq := angles starts
    rw [c.rest_eq] at x_eq
    exact ⟨congrArg Lexeme.kind x_eq, congrArg (c.offset + Lexeme.length ·) x_eq⟩

theorem scan (h : l.Current) : l.scan.Current := by
  unfold Lexer.scan
  dsimp only
  split
  · exact accept h.counts rfl h.offset_le (.plain _ _) (fun _ => rfl) _ _
  · exact accept (l := l.skipTrivia.1) h.counts rfl (l.skipTrivia_offset_le h.offset_le) (.plain _ _)
      (fun _ => rfl) _ _

theorem under (h : l.Current) (frames : FrameStack) : (l.under frames).Current := by
  unfold Lexer.under rescanAngles
  split
  case isTrue angle =>
    have le := (h.read_of_isAngle angle).start_le
    exact accept (l := { l with frames }) (c := l.cursor.seek l.token.start) h.counts rfl le
      (.plain _ _) (fun _ => rfl) _ _
  case isFalse other => exact { h with angles := fun angle => absurd angle other }

theorem reread (h : l.Current) (known : l.token.kind ≠ .unknown)
    (other : l.token.kind.isAngle = false) {x : Lexeme}
    (readAt : l.token.Read l.text → x.IsAt (l.text.drop l.token.start)) (value : String)
    (flags : TokenFlags) : (l.accept (l.cursor.seek l.token.start) x value flags).Current := by
  have read := h.read_of_kind known
  have other : ¬StartsAngle (l.text.drop l.token.start) := by
    rw [← read.isAngle_iff, other]
    exact Bool.false_ne_true
  exact accept (c := l.cursor.seek l.token.start) h.counts rfl read.start_le (readAt read)
    (fun angle => absurd angle other) value flags

theorem rescanTemplate (h : l.Current) (brace : l.token.kind = .closeBraceToken) :
    l.rescanTemplate.Current :=
  h.reread (by simp [brace]) (by rw [brace]; rfl) (fun read => read.chunkAt brace) _ _

theorem rescanSlash (h : l.Current)
    (slash : l.token.kind = .slashToken ∨ l.token.kind = .slashEqualsToken) :
    l.rescanSlash.Current :=
  h.reread (by rcases slash with h | h <;> simp [h]) (by rcases slash with h | h <;> rw [h] <;> rfl)
    (fun read => read.slashAt slash) _ _

theorem restore (h : l.Current) (m : Lexer) : (m.restore l.snapshot).Current :=
  h.alike rfl rfl rfl rfl

theorem reads (h : l.Current) (some : l.token.start < l.token.stop)
    (angle : StartsAngle (l.text.drop l.token.start)) :
    l.frames.current.Reads (l.text.drop l.token.start) l.token.kind
      (l.token.stop - l.token.start) := by
  have read : l.token.Read l.text := h.read.resolve_left fun start => by
    rw [start] at some
    exact Nat.lt_irrefl _ some
  obtain ⟨kind, stop⟩ := h.angles (read.isAngle_iff.2 angle)
  rw [kind, stop, Nat.add_sub_cancel_left]
  generalize l.text.drop l.token.start = chars at angle
  cases chars with
  | nil => rcases angle with h | h <;> cases h
  | cons c rest => exact lexemeAt_reads _ _ (angle.imp Option.some.inj Option.some.inj)

theorem under_token (h : l.Current) (frames : FrameStack) (angle : l.token.kind.isAngle = true) :
    (l.under frames).token = l.token.inFrame frames.current l.text := by
  let x := lexemeAt frames.current (l.text.drop l.token.start)
  let stop := l.token.start + x.length
  let flags := l.token.flags.union x.flags
  let soft :=
    if x.kind == .identifier && !flags.escaped then SoftKeyword.ofText? l.token.value else none
  have accepted : (l.under frames).token =
      ⟨x.kind, l.token.value, l.token.start, stop, (l.lines.goTo l.token.start).place,
        ((l.lines.goTo l.token.start).goTo stop).place, flags, soft⟩ := by
    unfold Lexer.under rescanAngles
    rw [if_pos angle]
    rfl
  have read := h.read_of_isAngle angle
  obtain ⟨still, unflagged⟩ := lexemeAt_isAngle frames.current (read.isAngle_iff.1 angle)
  have started := h.counts.goTo l.token.start
  have stopped := started.1.goTo stop
  have flags_eq : flags = l.token.flags := by
    simp only [flags, x, unflagged, TokenFlags.union, Bool.or_false]
  have soft_eq : soft = l.token.soft := by
    have word : (x.kind == .identifier) = false := beq_false_of_ne fun word => by
      rw [word] at still
      cases still
    have none : l.token.soft = none := Decidable.byContradiction fun some => by
      rw [read.soft some] at angle
      cases angle
    simp only [soft, word, Bool.false_and, Bool.false_eq_true, if_false, none]
  rw [accepted, started.2, stopped.2, ← h.startAt, flags_eq, soft_eq]
  rfl

theorem under_text (frames : FrameStack) : (l.under frames).text = l.text := by
  unfold Lexer.under rescanAngles
  split <;> rfl

theorem under_frames (frames : FrameStack) : (l.under frames).frames = frames := by
  unfold Lexer.under rescanAngles
  split <;> rfl

theorem under_back (h : l.Current) (frames : FrameStack) :
    ((l.under frames).under l.frames).token = l.token := by
  by_cases angle : l.token.kind.isAngle = true
  · have first := h.under_token frames angle
    have starts := (h.read_of_isAngle angle).isAngle_iff.1 angle
    have still : (l.under frames).token.kind.isAngle = true := by
      rw [first]
      exact (lexemeAt_isAngle frames.current starts).1
    rw [(h.under frames).under_token l.frames still, under_text, first, Token.inFrame_inFrame]
    obtain ⟨kind, stop⟩ := h.angles angle
    rw [Token.inFrame, ← kind, ← stop, ← h.stopAt]
  · unfold Lexer.under rescanAngles
    rw [if_neg angle, if_neg angle]

end Current

/-- What can become of a lexer over a text, and the states that have been saved on the way. Tokens
are read on and read again, the frames are changed, and saved states are gone back to, in any
order. -/
inductive Reached (text : List Char) : Lexer → List Snapshot → Prop
  | start (collecting : Bool) : Reached text { ofText text with collecting } []
  | startPastShebang (collecting : Bool) :
      Reached text (skipShebang { ofText text with collecting }) []
  | scan {l : Lexer} {saved : List Snapshot} : Reached text l saved → Reached text l.scan saved
  | rescanTemplate {l : Lexer} {saved : List Snapshot} : Reached text l saved →
      l.token.kind = .closeBraceToken → Reached text l.rescanTemplate saved
  | rescanSlash {l : Lexer} {saved : List Snapshot} : Reached text l saved →
      l.token.kind = .slashToken ∨ l.token.kind = .slashEqualsToken →
      Reached text l.rescanSlash saved
  | under {l : Lexer} {saved : List Snapshot} (frames : FrameStack) : Reached text l saved →
      Reached text (l.under frames) saved
  | takeError {l : Lexer} {saved : List Snapshot} : Reached text l saved →
      Reached text l.takeError.2 saved
  | takeComments {l : Lexer} {saved : List Snapshot} : Reached text l saved →
      Reached text l.takeComments.2 saved
  | speculating {l : Lexer} {saved : List Snapshot} (value : Bool) : Reached text l saved →
      Reached text { l with speculating := value } saved
  | snapshot {l : Lexer} {saved : List Snapshot} : Reached text l saved →
      Reached text l (l.snapshot :: saved)
  | restore {l : Lexer} {saved : List Snapshot} {x : Snapshot} : Reached text l saved → x ∈ saved →
      Reached text (l.restore x) saved

theorem Reached.current {text : List Char} {l : Lexer} {saved : List Snapshot}
    (h : Reached text l saved) :
    (l.Current ∧ l.text = text) ∧
      ∀ x ∈ saved, ∀ m : Lexer, (m.restore x).Current ∧ (m.restore x).text = text := by
  induction h with
  | start collecting => exact ⟨⟨.ofText text collecting, rfl⟩, fun x mem => nomatch mem⟩
  | startPastShebang collecting =>
    exact ⟨Current.pastShebang text collecting, fun x mem => nomatch mem⟩
  | scan _ ih => exact ⟨⟨ih.1.1.scan, (scan_spec _ ih.1.1.offset_le).2.1.trans ih.1.2⟩, ih.2⟩
  | rescanTemplate _ brace ih => exact ⟨⟨ih.1.1.rescanTemplate brace, ih.1.2⟩, ih.2⟩
  | rescanSlash _ slash ih => exact ⟨⟨ih.1.1.rescanSlash slash, ih.1.2⟩, ih.2⟩
  | under frames _ ih =>
    exact ⟨⟨ih.1.1.under frames, (Current.under_text frames).trans ih.1.2⟩, ih.2⟩
  | takeError _ ih | takeComments _ ih | speculating _ _ ih =>
    exact ⟨⟨ih.1.1.alike rfl rfl rfl rfl, ih.1.2⟩, ih.2⟩
  | snapshot _ ih =>
    refine ⟨ih.1, fun x mem m => ?_⟩
    rcases List.mem_cons.1 mem with rfl | mem
    · exact ⟨ih.1.1.restore m, ih.1.2⟩
    · exact ih.2 x mem m
  | restore _ mem ih => exact ⟨ih.2 _ mem _, ih.2⟩

end Lexer

end TypedScript
