import TypedScript.Proofs.Grammar.Text
import TypedScript.Proofs.Tree.Visits

/-! Outlines of trees that lie well in their texts: whatever is parsed is visited once, in the order of
the text, and shown in a line of its own. -/

namespace TypedScript

open TypedScript.Parser Grammar

namespace Node

theorem Within.trans {n c d : Node} (h : n.Within c) (k : c.Within d) : n.Within d := by
  induction h with
  | self => exact k
  | inside mem _ ih => exact .inside mem (ih k)

theorem within_field {n : Node} {f : Field Node} (mem : f ∈ n.fields) : n.Within f.node :=
  .inside (List.mem_map_of_mem mem) (.self f.node)

def Lies (root : Node) (text : List Char) (ts : List Token) : Prop :=
  ∀ n, root.Within n → n.WellPlaced text ts

variable {text : List Char} {ts : List Token} {n d : Node}

theorem Lies.within (h : n.Lies text ts) (within : n.Within d) : d.Lies text ts :=
  fun m inside => h m (within.trans inside)

theorem Lies.bounds (h : n.Lies text ts) (within : n.Within d) :
    n.start ≤ d.start ∧ d.start ≤ d.stop ∧ d.stop ≤ n.stop := by
  induction within with
  | self n => exact ⟨Nat.le_refl _, (h n (.self n)).start_le_stop, Nat.le_refl _⟩
  | @inside n c d mem inside ih =>
    obtain ⟨start, ordered, stop⟩ := ih (h.within (.inside mem (.self c)))
    have outer := (h n (.self n)).enclosed c mem
    simp only [Extent.encloses, Bool.and_eq_true, decide_eq_true_eq] at outer
    exact ⟨Nat.le_trans outer.1 start, ordered, Nat.le_trans stop outer.2⟩

theorem within_of_mem_visits {standsAlone : Bool} {v : Visit} (mem : v ∈ n.visits standsAlone) :
    n.Within v.node := by
  induction n using fieldsInduction generalizing standsAlone v with
  | step n ih =>
    rcases mem_visits.1 mem with own | ⟨i, f, get, u, inside, rfl⟩
    · rcases mem_ownVisits.1 own with ⟨rfl, -⟩ | ⟨rfl, -⟩
      · exact .self n
      · exact .self n
    · have mem := List.mem_of_getElem? get
      exact (within_field mem).trans (ih f mem (v := u) inside)

theorem Lies.pairwise_start (h : n.Lies text ts) (standsAlone : Bool) :
    (n.visits standsAlone).Pairwise fun u v => u.node.start ≤ v.node.start := by
  induction n using fieldsInduction generalizing standsAlone with
  | step n ih =>
    have apart : n.fields.zipIdx.Pairwise fun c d => c.1.node.stop ≤ d.1.node.start := by
      have ordered := List.pairwise_map.1 (h n (.self n)).ordered
      rw [← List.zipIdx_map_fst 0 n.shape.fields] at ordered
      exact List.pairwise_map.1 ordered
    rw [visits_eq, List.pairwise_append, List.pairwise_flatMap]
    refine ⟨?_, ⟨fun ⟨f, i⟩ mem => ?_, ?_⟩, fun u own v inside => ?_⟩
    · unfold ownVisits
      split <;> split <;> simp
    · have mem := List.fst_mem_of_mem_zipIdx mem
      exact List.pairwise_map.2 (ih f mem (h.within (within_field mem)) _)
    · refine apart.imp_of_mem fun {c d} left right le u first v second => ?_
      obtain ⟨u, inLeft, rfl⟩ := List.mem_map.1 first
      obtain ⟨v, inRight, rfl⟩ := List.mem_map.1 second
      have left := h.within (within_field (List.fst_mem_of_mem_zipIdx left))
      have right := h.within (within_field (List.fst_mem_of_mem_zipIdx right))
      have before := left.bounds (within_of_mem_visits inLeft)
      have after := right.bounds (within_of_mem_visits inRight)
      calc
        u.node.start ≤ u.node.stop := before.2.1
        _ ≤ c.1.node.stop := before.2.2
        _ ≤ d.1.node.start := le
        _ ≤ v.node.start := after.1
    · have within := within_of_mem_visits
        (visits_eq standsAlone n ▸ List.mem_append_right (n.ownVisits standsAlone) inside)
      rcases mem_ownVisits.1 own with ⟨rfl, -⟩ | ⟨rfl, -⟩
      · exact (h.bounds within).1
      · exact (h.bounds within).1

end Node

/-- How far in a visit is shown, and where its node lies. -/
def Visit.place (depth : Nat) (v : Visit) : Nat × Extent := (depth + v.depth, v.node.info.extent)

/-- Where the nearest line above lies that stands further out, if there is one. -/
def Extent.around (whole : Extent) (above : List (Nat × Extent)) (depth : Nat) : Extent :=
  ((above.reverse.find? fun line => line.1 < depth).map Prod.snd).getD whole

def Extent.Nests (whole : Extent) : List (Nat × Extent) → List (Nat × Extent) → Prop
  | _, [] => True
  | above, line :: lines =>
    (whole.around above line.1).encloses line.2 ∧ Nests whole (above ++ [line]) lines

namespace Extent

variable {whole : Extent} {above : List (Nat × Extent)}

theorem encloses_self (e : Extent) : e.encloses e := by simp [encloses]

theorem encloses_trans {a b c : Extent} (h : a.encloses b) (k : b.encloses c) : a.encloses c := by
  simp only [encloses, Bool.and_eq_true, decide_eq_true_eq] at h k ⊢
  omega

theorem Nests.split {before after : List (Nat × Extent)} {line : Nat × Extent}
    (h : whole.Nests above (before ++ line :: after)) :
    (whole.around (above ++ before) line.1).encloses line.2 := by
  induction before generalizing above with
  | nil => rw [List.append_nil]; exact h.1
  | cons first before ih => rw [List.append_cons]; exact ih h.2

theorem Nests.append {lines more : List (Nat × Extent)} (h : whole.Nests above lines)
    (k : whole.Nests (above ++ lines) more) : whole.Nests above (lines ++ more) := by
  induction lines generalizing above with
  | nil => rwa [List.append_nil] at k
  | cons line lines ih =>
    exact ⟨h.1, ih h.2 (by rwa [List.append_assoc])⟩

theorem around_append {lines : List (Nat × Extent)} {depth : Nat}
    (inner : ∀ line ∈ lines, depth ≤ line.1) :
    whole.around (above ++ lines) depth = whole.around above depth := by
  have none : lines.reverse.find? (fun line => line.1 < depth) = .none := by
    simpa using inner
  rw [around, List.reverse_append, List.find?_append, none, Option.none_or, around]

end Extent

namespace Node

variable {text : List Char} {ts : List Token} {n : Node} {whole : Extent}
  {above : List (Nat × Extent)} {depth : Nat}

theorem le_of_mem_places {standsAlone : Bool} {line : Nat × Extent}
    (mem : line ∈ (n.visits standsAlone).map (Visit.place depth)) : depth ≤ line.1 := by
  obtain ⟨v, -, rfl⟩ := List.mem_map.1 mem
  exact Nat.le_add_right ..

theorem nests_own (around : (whole.around above depth).encloses n.info.extent)
    (standsAlone : Bool) :
    let own := (n.ownVisits standsAlone).map (Visit.place depth)
    whole.Nests above own ∧
      (whole.around (above ++ own) (depth + standsAlone.toNat)).encloses n.info.extent := by
  have self := Extent.encloses_self n.info.extent
  simp only [Extent.around] at around
  cases standsAlone <;> cases name : n.name? <;>
    simp [ownVisits, name, Visit.place, Extent.Nests, Extent.around, around, self]

theorem nests_fields {fs : List (Field Node)}
    (each : ∀ f ∈ fs, ∀ above, (whole.around above depth).encloses f.node.info.extent →
      whole.Nests above ((f.node.visits f.standsAlone).map (Visit.place depth)))
    (around : ∀ f ∈ fs, (whole.around above depth).encloses f.node.info.extent) :
    whole.Nests above
      (fs.flatMap fun f => (f.node.visits f.standsAlone).map (Visit.place depth)) := by
  induction fs generalizing above with
  | nil => exact trivial
  | cons f fs ih =>
    rw [List.flatMap_cons]
    refine (each f List.mem_cons_self _ (around f List.mem_cons_self)).append
      (ih (fun f mem => each f (List.mem_cons_of_mem _ mem)) fun f mem => ?_)
    rw [Extent.around_append fun line mem => le_of_mem_places mem]
    exact around f (List.mem_cons_of_mem _ mem)

theorem Lies.nests (h : n.Lies text ts)
    (around : (whole.around above depth).encloses n.info.extent) (standsAlone : Bool) :
    whole.Nests above ((n.visits standsAlone).map (Visit.place depth)) := by
  induction n using fieldsInduction generalizing above depth standsAlone with
  | step n ih =>
    have under (base i depth : Nat) (v : Visit) :
        (v.under i depth).place base = v.place (base + depth) := by
      simp only [Visit.place, Visit.under, Nat.add_assoc]
    rw [map_visits Visit.place under]
    obtain ⟨own, around⟩ := nests_own around standsAlone
    refine own.append (nests_fields (fun f mem above around => ?_) fun f mem => ?_)
    · exact ih f mem (h.within (within_field mem)) around _
    · exact Extent.encloses_trans around ((h n (.self n)).enclosed _ (List.mem_map_of_mem mem))

end Node

namespace Text

/-- There is no line break in it. -/
def OneLine (s : String) : Prop := '\n' ∉ s.toList

namespace OneLine

theorem ofList {chars : List Char} (h : '\n' ∉ chars) : OneLine (.ofList chars) := by
  rwa [OneLine, String.toList_ofList]

theorem append {s t : String} (h : OneLine s) (k : OneLine t) : OneLine (s ++ t) := by
  simpa [OneLine, String.toList_append] using ⟨h, k⟩

theorem join {ss : List String} (h : ∀ s ∈ ss, OneLine s) : OneLine (String.join ss) := by
  simpa [OneLine, String.toList_join] using h

theorem intercalate {ss : List String} {s : String} (between : OneLine s)
    (h : ∀ s ∈ ss, OneLine s) : OneLine (s.intercalate ss) := by
  induction ss with
  | nil => simp [OneLine]
  | cons s ss ih =>
    cases ss with
    | nil => simpa using h
    | cons t ss =>
      rw [String.intercalate_cons_cons]
      exact ((h s List.mem_cons_self).append between).append
        (ih fun s mem => h s (List.mem_cons_of_mem _ mem))

end OneLine

theorem oneLine_nat (n : Nat) : OneLine (toString n) := by
  intro mem
  rw [Nat.toString_eq_repr, Nat.repr, String.toList_ofList] at mem
  exact absurd (Nat.isDigit_of_mem_toDigits (by decide) (by decide) mem) (by decide)

theorem digitChar_ne_lineBreak (d : Nat) : d.digitChar ≠ '\n' := by
  grind [Nat.digitChar]

theorem lineBreak_not_mem_toDigitsCore {base fuel n : Nat} {digits : List Char}
    (h : '\n' ∉ digits) : '\n' ∉ Nat.toDigitsCore base fuel n digits := by
  induction fuel generalizing n digits with
  | zero => exact h
  | succ fuel ih =>
    have longer : '\n' ∉ (n % base).digitChar :: digits := by
      simp [h, (digitChar_ne_lineBreak _).symm]
    unfold Nat.toDigitsCore
    dsimp only
    split
    · exact longer
    · exact ih longer

theorem oneLine_codePointEscape (c : Char) : OneLine (codePointEscape c) := by
  have digits : OneLine (String.ofList (Nat.toDigits 16 c.toNat)) :=
    .ofList (lineBreak_not_mem_toDigitsCore List.not_mem_nil)
  exact (OneLine.append (.ofList (by decide)) digits).append (.ofList (by decide))

theorem oneLine_escaped (c : Char) : OneLine (escaped c) := by
  by_cases lineBreak : c = '\n'
  · subst lineBreak
    have shown : OneLine (String.ofList ['\\', 'n']) := .ofList (by decide)
    exact shown
  · unfold escaped
    iterate 6
      split
      · exact .ofList (by decide)
    split
    · exact oneLine_codePointEscape c
    · simpa [OneLine, Char.toString] using Ne.symm lineBreak

theorem oneLine_quoted (s : String) : OneLine (quoted s) := by
  have body : OneLine (String.join (s.toList.map escaped)) :=
    .join fun _ mem => by
      obtain ⟨c, -, rfl⟩ := List.mem_map.1 mem
      exact oneLine_escaped c
  exact (OneLine.append (.ofList (by decide)) body).append (.ofList (by decide))

end Text

open Text

theorem Kind.oneLine_name (k : Kind) : OneLine k.name := by
  obtain ⟨chars, is, fine⟩ : ∃ chars, k.name = String.ofList chars ∧ '\n' ∉ chars := by
    cases k <;> exact ⟨_, rfl, by simp⟩
  exact is ▸ .ofList fine

theorem NodeFlags.oneLine_names (f : NodeFlags) : ∀ name ∈ f.names, OneLine name := by
  simp only [names, List.mem_filterMap, List.mem_cons, List.not_mem_nil, or_false, Prod.exists]
  rintro _ ⟨_, _, is, shown⟩
  rcases is with h | h | h | h | h | h | h | h | h
  all_goals
    cases h
    split at shown <;> cases shown
    exact .ofList (by decide)

theorem Extent.oneLine_dotted (e : Extent) : OneLine e.dotted :=
  ((oneLine_nat _).append (.ofList (by decide))).append (oneLine_nat _)

theorem Node.oneLine_line (n : Node) : OneLine n.line := by
  unfold line
  refine ((n.kind.oneLine_name.append (.ofList (by decide))).append
    n.info.extent.oneLine_dotted).append ?_
  split
  · exact .ofList (by decide)
  · have names := OneLine.intercalate (s := " | ") (.ofList (by decide)) n.flags.oneLine_names
    exact (OneLine.append (.ofList (by decide)) names).append (.ofList (by decide))

theorem Visit.oneLine_line (depth : Nat) (v : Visit) : OneLine (v.line depth).indented := by
  refine .append (.ofList ?_) ?_
  · simp [List.mem_replicate]
  · unfold Visit.line
    split
    · exact (v.node.oneLine_line.append (.ofList (by decide))).append (oneLine_quoted _)
    · exact v.node.oneLine_line

/-- The tree is gone over from where it stands as `role`, and shown from `depth` on. -/
structure Node.Toured (role : Role) (depth : Nat) (tree : Node) : Prop where
  /-- Everything is visited that is a statement, an expression, a type or a member where it stands,
  and every name is visited as a name; nothing else is. -/
  reached : ∀ path asName n,
    (∃ depth, ⟨path, depth, asName, n⟩ ∈ tree.visits role.isVisited) ↔
      ∃ r, standing (role, tree) path = some (r, n) ∧ isVisitedAs asName (r, n)
  once : ((tree.visits role.isVisited).map fun v => (v.path, v.asName)).Nodup
  outsideIn : (tree.visits role.isVisited).Pairwise fun u v => ¬ v.Above u
  inOrder : (tree.visits role.isVisited).Pairwise fun u v => u.node.start ≤ v.node.start
  shown : (if role.isVisited then tree.outline depth else tree.outlineInside depth) =
    (tree.visits role.isVisited).map (Visit.line depth)
  oneLine : ∀ v ∈ tree.visits role.isVisited, Text.OneLine (v.line depth).indented
  /-- A line lies inside the nearest one above that stands further out. Where there is none, that is
  the line of the whole tree. -/
  nested : ∀ above line below,
    (tree.visits role.isVisited).map (Visit.place depth) = above ++ line :: below →
      (tree.info.extent.around above line.1).encloses line.2

namespace Node

theorem Lies.toured {tree : Node} {text : List Char} {ts : List Token} (h : tree.Lies text ts)
    (role : Role) (depth : Nat) : tree.Toured role depth where
  reached _ _ _ := exists_mem_visits
  once := List.pairwise_map.2 ((pairwise_before_visits ..).imp fun before => before.ne)
  outsideIn := (pairwise_before_visits ..).imp fun before => before.not_above
  inOrder := h.pairwise_start _
  shown := by
    rw [map_line_visits]
    cases role.isVisited <;> rfl
  oneLine v _ := v.oneLine_line depth
  nested above line below split := by
    have whole : (tree.info.extent.around [] depth).encloses tree.info.extent :=
      Extent.encloses_self _
    have nested := h.nests whole role.isVisited
    rw [split] at nested
    exact nested.split

end Node

theorem Parser.Opens.lies {p : Grammar → Parser Node} {text : List Char} {options : Options}
    (opens : ∃ s body, Opens p text options s body) {name : String} {tree : Node} {s : State}
    (run : runOn p name options text = .ok (tree, s)) : ∃ ts, tree.Lies text ts := by
  obtain ⟨_, _, opens⟩ := opens
  obtain ⟨ts, _, _, -, lies⟩ := opens.ends (Grammar.sound_withFuel (16 * (text.length + 2))) _ _ s
    (runWith_of_runOn run)
  exact ⟨ts, lies⟩

/-- Every tree of every text is gone over so, be it that of a file or of a type by itself. -/
theorem parse_toured (name : String) (options : Options) (text : List Char) :
    (∀ file, SourceFile.parse name options text = .ok file →
      file.tree.Toured .part 1 ∧
        file.tree.fileOutlineText name = String.join (("SourceFile " ++ name ++ "\n") ::
          (file.tree.visits false).map fun v => (v.line 1).indented ++ "\n")) ∧
      ∀ type, StandaloneType.parse name options text = .ok type →
        type.tree.Toured .type 0 ∧
          type.tree.outlineText = String.join
            ((type.tree.visits true).map fun v => (v.line 0).indented ++ "\n") := by
  refine ⟨fun file ok => ?_, fun type ok => ?_⟩
  · obtain ⟨s, run, -⟩ := SourceFile.of_parse ok
    obtain ⟨ts, lies⟩ := Opens.lies (opens_file text options) run
    have toured := lies.toured .part 1
    refine ⟨toured, ?_⟩
    have shown : file.tree.outlineInside 1 = _ := toured.shown
    rw [Node.fileOutlineText, shown, List.map_cons, List.map_map]
    rfl
  · obtain ⟨s, run, -⟩ := StandaloneType.of_parse ok
    obtain ⟨ts, lies⟩ := Opens.lies (opens_standaloneType text options) run
    have toured := lies.toured .type 0
    refine ⟨toured, ?_⟩
    have shown : type.tree.outline 0 = _ := toured.shown
    rw [Node.outlineText, shown, List.map_map]
    rfl

theorem parse_toured_nested :
    (∃ file, SourceFile.parse "a.ts" {}
        "namespace A.B \x7b f<C>([, \x7b g() \x7b return 'i' \x7d \x7d]); \x7d".toList =
          .ok file ∧ file.tree.Toured .part 1) ∧
      ∃ type, StandaloneType.parse "t.ts" {}
        "(this: A) => this is \x7b [k: string]: 1 \x7d".toList = .ok type ∧
          type.tree.Toured .type 0 := by
  constructor
  · have parsed : (SourceFile.parse "a.ts" {}
        "namespace A.B \x7b f<C>([, \x7b g() \x7b return 'i' \x7d \x7d]); \x7d".toList
          ).toBool = true := by
      decide +kernel
    cases ok : SourceFile.parse "a.ts" {}
        "namespace A.B \x7b f<C>([, \x7b g() \x7b return 'i' \x7d \x7d]); \x7d".toList with
    | error e => rw [ok] at parsed; cases parsed
    | ok file => exact ⟨file, rfl, ((parse_toured ..).1 file ok).1⟩
  · have parsed : (StandaloneType.parse "t.ts" {}
        "(this: A) => this is \x7b [k: string]: 1 \x7d".toList).toBool = true := by
      decide +kernel
    cases ok : StandaloneType.parse "t.ts" {}
        "(this: A) => this is \x7b [k: string]: 1 \x7d".toList with
    | error e => rw [ok] at parsed; cases parsed
    | ok type => exact ⟨type, rfl, ((parse_toured ..).2 type ok).1⟩

end TypedScript
