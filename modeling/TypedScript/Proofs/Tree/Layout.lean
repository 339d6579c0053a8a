import TypedScript.Grammar.Import
import TypedScript.Grammar.PrivateName
import TypedScript.Proofs.Lexer.Reading
import TypedScript.Tree.Outline

/-! Trees laid out over the tokens they were read from. Every node takes a run of tokens, from the
start of the first to the end of the last, and its constituents take runs of that run, one after the
other. A hole takes none; it lies where the comma after it starts. -/

namespace TypedScript

/-- The constituents, in the order of the text. -/
def Shape.children (s : Shape Node) : List Node := s.fields.map Field.node

def Node.children (n : Node) : List Node := n.shape.children

inductive Layout : List Token → List Node → Prop
  | nil (ts : List Token) : Layout ts []
  | node {ts us vs : List Token} {first last : Token} {info : NodeInfo} {shape : Shape Node}
      {ns : List Node} : us.head? = some first → us.getLast? = some last →
      info.extent = ⟨first.start, last.stop⟩ → Layout us shape.children → Layout vs ns →
      Layout (ts ++ (us ++ vs)) (.mk info shape :: ns)
  | hole {ts vs : List Token} {comma : Token} {info : NodeInfo} {ns : List Node} :
      comma.kind = .commaToken → info.extent = .empty comma.start → Layout (comma :: vs) ns →
      Layout (ts ++ comma :: vs) (.mk info .omitted :: ns)

namespace Layout

variable {ts us : List Token} {ns ms : List Node}

theorem prepend (ts : List Token) (h : Layout us ms) : Layout (ts ++ us) ms := by
  cases h with
  | nil => exact .nil _
  | node first last extent inside rest =>
    rw [← List.append_assoc]
    exact .node first last extent inside rest
  | hole comma extent rest =>
    rw [← List.append_assoc]
    exact .hole comma extent rest

theorem append (h : Layout ts ns) (k : Layout us ms) : Layout (ts ++ us) (ns ++ ms) := by
  induction h with
  | nil => exact k.prepend _
  | node first last extent inside _ _ ih =>
    simp only [List.append_assoc, List.cons_append]
    exact .node first last extent inside ih
  | hole comma extent _ ih =>
    simp only [List.append_assoc, List.cons_append]
    exact .hole comma extent ih

theorem single {info : NodeInfo} {shape : Shape Node} {first last : Token}
    (head : us.head? = some first) (tail : us.getLast? = some last)
    (extent : info.extent = ⟨first.start, last.stop⟩) (h : Layout us shape.children) :
    Layout us [.mk info shape] := by
  have whole : Layout ([] ++ (us ++ [])) [.mk info shape] := .node head tail extent h (.nil [])
  simpa using whole

end Layout

namespace Chain

variable {text : List Char} {ts us : List Token} {a b : Nat}

theorem split (h : Chain text a (ts ++ us) b) : ∃ m, Chain text a ts m ∧ Chain text m us b := by
  induction ts generalizing a with
  | nil => exact ⟨a, .nil a, h⟩
  | cons t ts ih =>
    cases h with
    | cons read ne gap rest =>
      obtain ⟨m, left, right⟩ := ih rest
      exact ⟨m, .cons read ne gap left, right⟩

theorem bounds_of_mem (h : Chain text a ts b) {t : Token} (mem : t ∈ ts) :
    a ≤ t.start ∧ t.stop ≤ b := by
  obtain ⟨us, vs, rfl⟩ := List.append_of_mem mem
  obtain ⟨m, left, right⟩ := h.split
  cases right with
  | cons _ _ gap rest => exact ⟨left.le, Nat.le_trans gap.le rest.le⟩

theorem start_of_head (h : Chain text a ts b) {first : Token} (head : ts.head? = some first) :
    a = first.start := by
  cases h with
  | nil => cases head
  | cons => exact (Option.some.inj head) ▸ rfl

theorem stop_le_last (h : Chain text a ts b) {last t : Token} (tail : ts.getLast? = some last)
    (mem : t ∈ ts) : t.stop ≤ last.stop := by
  obtain ⟨us, rfl⟩ := List.getLast?_eq_some_iff.1 tail
  obtain ⟨m, left, right⟩ := h.split
  rcases List.mem_append.1 mem with mem | mem
  · have start := right.start_of_head rfl
    have read := (right.read_of_mem (List.mem_singleton_self last)).1.start_le_stop
    have := (left.bounds_of_mem mem).2
    omega
  · exact (List.mem_singleton.1 mem) ▸ Nat.le_refl _

end Chain

/-- The node `d` is `n` or somewhere inside it. -/
inductive Node.Within : Node → Node → Prop
  | self (n : Node) : Within n n
  | inside {n c d : Node} : c ∈ n.children → Within c d → Within n d

inductive Node.Stands (text : List Char) (ts : List Token) : Node → Prop
  | tokens {n : Node} {first last : Token} : first ∈ ts → last ∈ ts → n.start = first.start →
      n.stop = last.stop → Stands text ts n
  | hole {info : NodeInfo} {comma : Token} : comma ∈ ts → comma.kind = .commaToken →
      info.extent = .empty comma.start → Stands text ts (.mk info .omitted)
  | file {info : NodeInfo} {statements : List Node} : info.extent = ⟨0, text.length⟩ →
      Stands text ts (.mk info (.sourceFile statements))

/-- The node lies well among the tokens of its text, and what is inside it lies inside its place,
one thing after the other. -/
structure Node.WellPlaced (text : List Char) (ts : List Token) (n : Node) : Prop where
  start_le_stop : n.start ≤ n.stop
  stop_le : n.stop ≤ text.length
  stands : n.Stands text ts
  enclosed : ∀ c ∈ n.children, n.info.extent.encloses c.info.extent
  ordered : n.children.Pairwise fun c d => c.stop ≤ d.start

theorem Node.Stands.mono {text : List Char} {ts us : List Token} {n : Node}
    (h : n.Stands text ts) (sub : ts ⊆ us) : n.Stands text us := by
  cases h with
  | tokens first last start stop => exact .tokens (sub first) (sub last) start stop
  | hole comma kind extent => exact .hole (sub comma) kind extent
  | file extent => exact .file extent

theorem Node.WellPlaced.mono {text : List Char} {ts us : List Token} {n : Node}
    (h : n.WellPlaced text ts) (sub : ts ⊆ us) : n.WellPlaced text us :=
  { h with stands := h.stands.mono sub }

namespace Layout

variable {text : List Char} {ts : List Token} {ns : List Node} {a b : Nat}

theorem ordered (h : Layout ts ns) (chain : Chain text a ts b) :
    (∀ n ∈ ns, a ≤ n.start) ∧ ns.Pairwise fun m n => m.stop ≤ n.start := by
  induction h generalizing a with
  | nil => simp
  | @node ts us vs first last info shape ns head tail extent _ _ _ ih =>
    obtain ⟨m, left, right⟩ := chain.split
    obtain ⟨k, inner, right⟩ := right.split
    obtain ⟨after, pairwise⟩ := ih right
    have start : (Node.mk info shape).start = m := by
      simp only [Node.start, Node.info, extent, inner.start_of_head head]
    have stop : (Node.mk info shape).stop ≤ k := by
      simp only [Node.stop, Node.info, extent]
      exact (inner.bounds_of_mem (List.mem_of_getLast? tail)).2
    refine ⟨fun n mem => ?_, List.pairwise_cons.2 ⟨fun n mem => ?_, pairwise⟩⟩
    · rcases List.mem_cons.1 mem with rfl | mem
      · exact Nat.le_trans left.le (Nat.le_of_eq start.symm)
      · exact Nat.le_trans left.le (Nat.le_trans inner.le (after n mem))
    · exact Nat.le_trans stop (after n mem)
  | @hole ts vs comma info ns _ extent _ ih =>
    obtain ⟨m, left, right⟩ := chain.split
    obtain ⟨after, pairwise⟩ := ih right
    have start : (Node.mk info .omitted).start = m := by
      simp only [Node.start, Node.info, extent, right.start_of_head rfl, Extent.empty]
    have stop : (Node.mk info .omitted).stop = m := by
      simp only [Node.stop, Node.info, extent, right.start_of_head rfl, Extent.empty]
    refine ⟨fun n mem => ?_, List.pairwise_cons.2 ⟨fun n mem => ?_, pairwise⟩⟩
    · rcases List.mem_cons.1 mem with rfl | mem
      · exact Nat.le_trans left.le (Nat.le_of_eq start.symm)
      · exact Nat.le_trans left.le (after n mem)
    · exact Nat.le_trans (Nat.le_of_eq stop) (after n mem)

theorem stop_le (h : Layout ts ns) {e : Nat} (le : ∀ t ∈ ts, t.start ≤ t.stop ∧ t.stop ≤ e) :
    ∀ n ∈ ns, n.stop ≤ e := by
  induction h with
  | nil => simp
  | @node ts us vs first last info shape ns _ tail extent _ _ _ ih =>
    intro n mem
    rcases List.mem_cons.1 mem with rfl | mem
    · have mem : last ∈ ts ++ (us ++ vs) := by simp [List.mem_of_getLast? tail]
      simp only [Node.stop, Node.info, extent]
      exact (le last mem).2
    · exact ih (fun t mem => le t (by simp [mem])) n mem
  | @hole ts vs comma info ns _ extent _ ih =>
    intro n mem
    rcases List.mem_cons.1 mem with rfl | mem
    · have := le comma (by simp)
      simp only [Node.stop, Node.info, extent, Extent.empty]
      exact Nat.le_trans this.1 this.2
    · exact ih (fun t mem => le t (by simp_all)) n mem

theorem wellPlaced (h : Layout ts ns) (chain : Chain text a ts b) :
    ∀ n ∈ ns, ∀ d, n.Within d → d.WellPlaced text ts := by
  induction h generalizing a b with
  | nil => simp
  | @node ts us vs first last info shape ns head tail extent inside _ ihInside ih =>
    obtain ⟨m, -, right⟩ := chain.split
    obtain ⟨k, inner, right⟩ := right.split
    intro n mem d within
    rcases List.mem_cons.1 mem with rfl | mem
    · cases within with
      | inside child within =>
        exact (ihInside inner _ child d within).mono (by simp)
      | self =>
        have firstMem : first ∈ us := List.mem_of_head? head
        have lastMem : last ∈ us := List.mem_of_getLast? tail
        have start : (Node.mk info shape).start = first.start := by
          simp only [Node.start, Node.info, extent]
        have stop : (Node.mk info shape).stop = last.stop := by
          simp only [Node.stop, Node.info, extent]
        obtain ⟨after, pairwise⟩ := inside.ordered inner
        have within := inside.stop_le (e := last.stop) fun t mem =>
          ⟨(inner.read_of_mem mem).1.start_le_stop, inner.stop_le_last tail mem⟩
        refine
          { start_le_stop := ?_
            stop_le := Nat.le_trans (Nat.le_of_eq stop) (inner.read_of_mem lastMem).1.stop_le
            stands := .tokens (by simp [firstMem]) (by simp [lastMem]) start stop
            enclosed := fun c mem => ?_
            ordered := pairwise }
        · have le := inner.stop_le_last tail firstMem
          have := (inner.read_of_mem firstMem).1.start_le_stop
          omega
        · have left : first.start ≤ c.start := inner.start_of_head head ▸ after c mem
          have right := within c mem
          simp only [Extent.encloses, Node.info, extent, Bool.and_eq_true, decide_eq_true_eq]
          exact ⟨left, right⟩
    · exact (ih right n mem d within).mono (by simp)
  | @hole ts vs comma info ns kind extent _ ih =>
    obtain ⟨m, -, right⟩ := chain.split
    intro n mem d within
    rcases List.mem_cons.1 mem with rfl | mem
    · cases within with
      | inside child => cases child
      | self =>
        have read := (chain.read_of_mem (t := comma) (by simp)).1
        have start : (Node.mk info .omitted).start = comma.start := by
          simp only [Node.start, Node.info, extent, Extent.empty]
        have stop : (Node.mk info .omitted).stop = comma.start := by
          simp only [Node.stop, Node.info, extent, Extent.empty]
        exact
          { start_le_stop := Nat.le_of_eq (start.trans stop.symm)
            stop_le := Nat.le_trans (Nat.le_of_eq stop) read.start_le
            stands := .hole (by simp) kind extent
            enclosed := fun _ mem => nomatch mem
            ordered := .nil }
    · exact (ih right n mem d within).mono (by simp)

end Layout

open Grammar

namespace Node

theorem boundNamesOf_eq (elements : List Node) :
    boundNamesOf elements = elements.flatMap boundNames := by
  induction elements with
  | nil => rfl
  | cons e elements ih => rw [boundNamesOf, ih, List.flatMap_cons]

theorem boundNames_objectPattern (info : NodeInfo) (elements : List Node) :
    (mk info (.objectPattern elements)).boundNames = elements.flatMap boundNames := by
  rw [boundNames, boundNamesOf_eq]

theorem boundNames_arrayPattern (info : NodeInfo) (elements : List Node) :
    (mk info (.arrayPattern elements)).boundNames = elements.flatMap boundNames := by
  rw [boundNames, boundNamesOf_eq]

@[elab_as_elim]
theorem patternInduction {motive : Node → Prop}
    (identifier : ∀ info text, motive (mk info (.identifier text)))
    (objectPattern : ∀ info elements, (∀ e ∈ elements, motive e) →
      motive (mk info (.objectPattern elements)))
    (arrayPattern : ∀ info elements, (∀ e ∈ elements, motive e) →
      motive (mk info (.arrayPattern elements)))
    (element : ∀ info isRest property name initializer, motive name →
      motive (mk info (.bindingElement isRest property name initializer)))
    (other : ∀ n, (∀ info text, n ≠ mk info (.identifier text)) →
      (∀ info elements, n ≠ mk info (.objectPattern elements)) →
      (∀ info elements, n ≠ mk info (.arrayPattern elements)) →
      (∀ info isRest property name initializer,
        n ≠ mk info (.bindingElement isRest property name initializer)) → motive n)
    (n : Node) : motive n :=
  boundNames.induct motive (fun elements => ∀ e ∈ elements, motive e) identifier objectPattern
    arrayPattern element other (by simp)
    (fun _ _ first rest => List.forall_mem_cons.2 ⟨first, rest⟩) n

theorem within_of_mem_boundNames {n b : Node} (mem : b ∈ n.boundNames) : n.Within b := by
  induction n using patternInduction with
  | identifier info text =>
    rw [boundNames] at mem
    exact List.mem_singleton.1 mem ▸ .self _
  | objectPattern info elements ih =>
    rw [boundNames_objectPattern] at mem
    obtain ⟨e, inside, mem⟩ := List.mem_flatMap.1 mem
    exact .inside (by simpa [children, shape, Shape.children, Shape.fields, Field.parts] using inside)
      (ih e inside mem)
  | arrayPattern info elements ih =>
    rw [boundNames_arrayPattern] at mem
    obtain ⟨e, inside, mem⟩ := List.mem_flatMap.1 mem
    exact .inside (by simpa [children, shape, Shape.children, Shape.fields, Field.parts] using inside)
      (ih e inside mem)
  | element info isRest property name initializer ih =>
    rw [boundNames] at mem
    refine .inside ?_ (ih mem)
    simp [children, shape, Shape.children, Shape.fields, Field.part]
  | other n other object array element =>
    obtain ⟨info, shape⟩ := n
    cases shape with
    | identifier text => exact (other _ _ rfl).elim
    | objectPattern elements => exact (object _ _ rfl).elim
    | arrayPattern elements => exact (array _ _ rfl).elim
    | bindingElement => exact (element _ _ _ _ _ rfl).elim
    | _ => cases mem

theorem within_of_memberName? {n name : Node} (is : n.memberName? = some name) : n.Within name := by
  refine .inside ?_ (.self name)
  obtain ⟨info, shape⟩ := n
  unfold memberName? at is
  split at is <;> cases is
  all_goals simp_all [children, Shape.children, Shape.fields, Method.fields, Field.part]

theorem within_of_specifierName? {n name : Node} (is : specifierName? n = some name) :
    n.Within name := by
  refine .inside ?_ (.self name)
  obtain ⟨info, shape⟩ := n
  unfold specifierName? at is
  split at is <;> cases is
  all_goals simp_all [children, Shape.children, Shape.fields, Field.part]

end Node

end TypedScript
