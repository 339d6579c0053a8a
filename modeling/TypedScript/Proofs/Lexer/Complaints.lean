import TypedScript.Proofs.Lexer.Extended
import TypedScript.Proofs.Lexer.Reading

/-! Where what is wrong with a token is said to be: among the characters of the token, and with the
end not before the start. So what the lexer has to tell of lies in the text. -/

namespace TypedScript

open Text

theorem eitherOf {α : Type} {x y : Option α} {P : α → Prop} (left : ∀ a ∈ x, P a)
    (right : ∀ a ∈ y, P a) : ∀ a ∈ (x <|> y), P a := by
  cases x with
  | none => exact right
  | some b => exact left

/-- The stretch lies among the first `n` characters. -/
structure Complaint.Within (c : Complaint) (n : Nat) : Prop where
  ordered : c.start ≤ c.stop
  stop_le : c.stop ≤ n

namespace Complaint.Within

variable {c : Complaint} {m n : Nat}

theorem mono (h : c.Within m) (le : m ≤ n) : c.Within n := ⟨h.ordered, Nat.le_trans h.stop_le le⟩

theorem whole (message : Message) {m n : Nat} (le : m ≤ n) : Within ⟨message, 0, m⟩ n :=
  ⟨Nat.zero_le m, le⟩

end Complaint.Within

def Lexeme.ComplainsInside (x : Lexeme) : Prop := ∀ c ∈ x.complaint, c.Within x.length

theorem Escape.inString_length_le (chars : List Char) :
    (inString chars).length ≤ chars.length := by
  fun_cases inString chars with
  | case10 rest => exact Nat.succ_le_succ (fixed_length_le 2 rest)
  | case11 rest => exact Nat.succ_le_succ (unicode_length_le rest)
  | case12 rest =>
    cases rest with
    | nil => simp
    | cons c rest =>
      simp only [List.length_cons]
      split
      · omega
      · omega
  | case13 => split <;> exact Nat.succ_le_succ (Nat.zero_le _)
  | case14 => split <;> exact Nat.succ_le_succ (Nat.zero_le _)
  | _ => simp

theorem stringBody_skip_le {quote : Char} {skip offset : Nat} {chars : List Char}
    (le : skip ≤ chars.length) : skip ≤ (stringBody quote skip offset chars).length := by
  induction chars generalizing skip offset with
  | nil => exact Nat.le_trans le (Nat.zero_le _)
  | cons c rest ih =>
    cases skip with
    | zero => exact Nat.zero_le _
    | succ skip => exact Nat.succ_le_succ (@ih skip (offset + 1) (Nat.le_of_succ_le_succ le))

theorem stringBody_complaint (quote : Char) (skip offset : Nat) (chars : List Char) :
    ∀ c ∈ (stringBody quote skip offset chars).complaint,
      c.Within (offset + (stringBody quote skip offset chars).length) := by
  fun_induction stringBody quote skip offset chars with
  | case2 skip offset c rest ih =>
    exact fun c mem => (ih c mem).mono (by simp only [Body.cons]; omega)
  | case5 offset c rest _ _ _ e b complaint ih =>
    have taken : e.length ≤ (stringBody quote e.length (offset + 1) rest).length :=
      stringBody_skip_le (Escape.inString_length_le rest)
    refine eitherOf (fun c mem => ?_) fun c mem => (ih c mem).mono ?_
    · obtain ⟨m, -, rfl⟩ := Option.map_eq_some_iff.1 mem
      refine ⟨?_, ?_⟩ <;> simp only [b, Body.cons] <;> omega
    · simp only [b, Body.cons]
      omega
  | case6 offset c rest _ _ _ ih =>
    exact fun c mem => (ih c mem).mono (by simp only [Body.cons]; omega)
  | _ => rintro _ ⟨⟩

theorem readString_complaint (quote : Char) (rest : List Char) :
    (readString quote rest).ComplainsInside := by
  refine eitherOf (fun c mem => ?_) fun c mem => ?_
  · refine (stringBody_complaint quote 0 1 rest c mem).mono ?_
    simp only [readString]
    omega
  · split at mem
    · cases mem
    · exact Option.some.inj mem ▸ .whole _ (Nat.le_refl _)

theorem readChunk_complaint (starts : Bool) (rest : List Char) :
    (readChunk starts rest).ComplainsInside := by
  intro c mem
  simp only [readChunk] at mem
  split at mem
  · exact Option.some.inj mem ▸ .whole _ (Nat.le_refl _)
  · cases mem

theorem readRegularExpression_complaint (chars : List Char) :
    (readRegularExpression chars).ComplainsInside := by
  intro c mem
  simp only [readRegularExpression] at mem
  split at mem
  · cases mem
  · exact Option.some.inj mem ▸ .whole _ (Nat.le_refl _)

theorem readLetters_complaint (first : Bool) (skip offset : Nat) (chars : List Char) :
    ∀ c ∈ (readLetters first skip offset chars).complaint,
      c.Within (offset + (readLetters first skip offset chars).length) := by
  fun_induction readLetters first skip offset chars with
  | case2 _ _ _ _ _ w ih | case3 _ _ _ _ _ _ _ _ w ih | case5 _ _ _ _ _ _ w ih =>
    exact fun c mem => (ih c mem).mono (by simp only [w]; omega)
  | case4 first offset c rest _ e =>
    rintro _ ⟨⟩
    exact ⟨by dsimp only; omega, by dsimp only; omega⟩
  | _ => rintro _ ⟨⟩

theorem readWord_complaint (chars : List Char) : (readWord chars).ComplainsInside :=
  fun c mem => (readLetters_complaint true 0 0 chars c mem).mono (Nat.le_of_eq (Nat.zero_add _))

theorem readPrivateName_complaint (rest : List Char) :
    (readPrivateName rest).ComplainsInside := by
  have letters := readLetters_complaint true 0 1 rest
  have length (w : Letters) : 1 + w.length ≤ w.length + 1 := by omega
  unfold readPrivateName
  dsimp only
  split
  · refine eitherOf (fun c mem => (letters c mem).mono (length _)) ?_
    rintro _ ⟨⟩
    exact .whole _ (Nat.le_add_left 1 _)
  · exact fun c mem => (letters c mem).mono (length _)

theorem readNumber_complaint (chars : List Char) : (readNumber chars).ComplainsInside := by
  unfold readNumber
  dsimp only
  split
  all_goals
    intro c mem
    obtain ⟨m, -, rfl⟩ := Option.map_eq_some_iff.1 mem
    exact .whole m (by simp)

theorem readToken_complaint (splitsAngles : Bool) (c : Char) (rest : List Char) :
    (readToken splitsAngles c rest).ComplainsInside := by
  unfold readToken
  split
  · exact readString_complaint c rest
  split
  · exact readChunk_complaint true rest
  split
  · exact readPrivateName_complaint rest
  split
  · exact readNumber_complaint (c :: rest)
  split
  · exact readWord_complaint (c :: rest)
  · dsimp only
    split
    · exact nofun
    · rintro _ ⟨⟩
      exact .whole _ (Nat.le_refl 1)

theorem Lexeme.IsAt.complainsInside {chars : List Char} {x : Lexeme} (h : x.IsAt chars) :
    x.ComplainsInside := by
  cases h with
  | plain frame =>
    cases chars with
    | nil => exact nofun
    | cons c rest => exact readToken_complaint frame.splitsAngles c rest
  | chunk rest => exact readChunk_complaint false rest
  | slash rest => exact readRegularExpression_complaint ('/' :: rest)

theorem Trivia.readFrom_unclosed (skip offset : Nat) (chars : List Char) :
    ∀ stop ∈ (readFrom skip offset chars).unclosed, stop ≤ offset + chars.length := by
  fun_induction readFrom skip offset chars with
  | case6 offset c rest _ _ _ opens block length after comment ih =>
    have fits := BlockComment.length_le rest.tail
    have tail : rest.tail.length + 1 = rest.length := by
      cases rest with
      | nil => simp at opens
      | cons => rfl
    intro stop mem
    dsimp only at mem
    split at mem
    · have := ih stop mem
      simp only [List.length_cons]
      omega
    · cases mem
      simp only [length, block, List.length_cons]
      omega
  | case1 | case7 => rintro _ ⟨⟩
  | case2 _ _ _ _ ih
  | case3 _ _ _ _ _ ih
  | case4 _ _ _ _ _ ih
  | case5 _ _ _ _ _ _ _ _ _ _ ih =>
    intro stop mem
    have := ih stop mem
    simp only [List.length_cons]
    omega

/-- The span ends in the text, or where the text does. -/
def Span.Inside (s : Span) (text : List Char) : Prop := s.stop ≤ text.length

theorem Span.inside_between {text : List Char} {a b : Nat} (ordered : a ≤ b)
    (le : b ≤ text.length) : (between a b).Inside text := by
  rw [Inside, stop_between ordered]
  exact le

def Lexer.ErrsInside (l : Lexer) : Prop := ∀ e ∈ l.error, e.span.Inside l.text

namespace Lexer

variable {l : Lexer}

theorem ErrsInside.accept {c : Cursor} {x : Lexeme} (h : l.ErrsInside) (text : c.text = l.text)
    (le : c.offset ≤ c.text.length) (read : x.IsAt c.rest) (value : String) (flags : TokenFlags) :
    (l.accept c x value flags).ErrsInside := by
  have fits := (accept_read l value flags le read).stop_le
  refine eitherOf (fun e mem => ?_) fun e mem => ?_
  · rw [text_accept, text]
    exact h e mem
  · obtain ⟨w, complaint, rfl⟩ := Option.map_eq_some_iff.1 mem
    obtain ⟨ordered, stop_le⟩ := read.complainsInside w complaint
    refine Span.inside_between (Nat.add_le_add_left ordered _) (Nat.le_trans ?_ fits)
    exact Nat.add_le_add_left stop_le _

theorem ErrsInside.skipTrivia (h : l.ErrsInside) (le : l.offset ≤ l.text.length) :
    l.skipTrivia.1.ErrsInside := by
  refine eitherOf h fun e mem => ?_
  obtain ⟨stop, unclosed, rfl⟩ := Option.map_eq_some_iff.1 mem
  have := Trivia.readFrom_unclosed 0 l.offset l.cursor.rest stop unclosed
  simp only [Span.Inside, Span.stop, Span.empty, text_skipTrivia, l.cursor.rest_eq,
    List.length_drop] at this ⊢
  simp only [offset, text] at this le ⊢
  omega

theorem ErrsInside.scan (h : l.ErrsInside) (le : l.offset ≤ l.text.length) : l.scan.ErrsInside := by
  unfold Lexer.scan
  dsimp only
  split
  · exact h.accept rfl le (.plain _ _) _ _
  · exact (h.skipTrivia le).accept rfl (l.skipTrivia_offset_le le) (.plain _ _) _ _

theorem ErrsInside.rescanAngles (h : l.ErrsInside) (read : l.token.Read l.text) :
    l.rescanAngles.ErrsInside := by
  unfold Lexer.rescanAngles
  split
  · exact h.accept (c := l.cursor.seek l.token.start) rfl read.start_le (.plain _ _) _ _
  · exact h

theorem ErrsInside.rescanTemplate (h : l.ErrsInside) (read : l.token.Read l.text)
    (brace : l.token.kind = .closeBraceToken) : l.rescanTemplate.ErrsInside :=
  h.accept (c := l.cursor.seek l.token.start) rfl read.start_le (read.chunkAt brace) _ _

theorem ErrsInside.rescanSlash (h : l.ErrsInside) (read : l.token.Read l.text)
    (slash : l.token.kind = .slashToken ∨ l.token.kind = .slashEqualsToken) :
    l.rescanSlash.ErrsInside :=
  h.accept (c := l.cursor.seek l.token.start) rfl read.start_le (read.slashAt slash) _ _

end Lexer

end TypedScript
