import PathQuery.Proofs.Document.Content
import PathQuery.Proofs.Evaluation.Children
import PathQuery.Proofs.Evaluation.Refinement

/-!
Evaluation of one query on two documents with the same content. Both add the same
elements to their trails, step by step, at alike nodes and with the same paths,
and both fail at the same step or find the same elements.
-/
namespace PathQuery

variable {doc doc' : Document} {t t' s s' : Trail} {id : ElementId}

namespace Trail

/-- An element was reached in the same way on both trails: at alike nodes, and, unless it is a
start, from an element that was, by keys written alike. -/
inductive Paired (doc doc' : Document) (t t' : Trail) : ElementId → Prop
  | root {id : ElementId} {node node' : NodeId}
      (h : t.elements[id]? = some ⟨node, none⟩) (h' : t'.elements[id]? = some ⟨node', none⟩)
      (alike : doc.Alike doc' node node') : Paired doc doc' t t' id
  | child {id parent : ElementId} {key key' : Key} {node node' : NodeId}
      (hp : Paired doc doc' t t' parent) (lt : parent < id)
      (h : t.elements[id]? = some ⟨node, some (parent, key)⟩)
      (h' : t'.elements[id]? = some ⟨node', some (parent, key')⟩)
      (segment : doc.segment (doc.get (t.get parent).node) key =
        doc'.segment (doc'.get (t'.get parent).node) key')
      (alike : doc.Alike doc' node node') : Paired doc doc' t t' id

theorem Paired.lt_size (h : Paired doc doc' t t' id) : id < t.size ∧ id < t'.size := by
  cases h with
  | root h h' =>
    exact ⟨(Array.getElem?_eq_some_iff.mp h).choose, (Array.getElem?_eq_some_iff.mp h').choose⟩
  | child _ _ h h' =>
    exact ⟨(Array.getElem?_eq_some_iff.mp h).choose, (Array.getElem?_eq_some_iff.mp h').choose⟩

theorem size_push_eq (h : t.size = t'.size) (x x' : Element) :
    (t.push x).size = (t'.push x').size := by
  simp only [size, push, Array.size_push] at h ⊢
  rw [h]

theorem Paired.kept (h : Paired doc doc' t t' id) (kept : t.Kept s) (kept' : t'.Kept s') :
    Paired doc doc' s s' id := by
  induction h with
  | root h h' alike => exact .root (kept _ _ h) (kept' _ _ h') alike
  | child hp lt h h' segment alike ih =>
    refine .child ih lt (kept _ _ h) (kept' _ _ h') ?_ alike
    rwa [kept.get_eq hp.lt_size.1, kept'.get_eq hp.lt_size.2]

theorem Paired.alike (h : Paired doc doc' t t' id) :
    doc.Alike doc' (t.get id).node (t'.get id).node := by
  cases h with
  | root h h' alike => rwa [get_eq h, get_eq h']
  | child _ _ h h' _ alike => rwa [get_eq h, get_eq h']

theorem Paired.parent (h : Paired doc doc' t t' id) :
    (t.get id).parent? = (t'.get id).parent? ∧
      ∀ parent ∈ (t.get id).parent?, Paired doc doc' t t' parent := by
  cases h with
  | root h h' =>
    rw [get_eq h, get_eq h']
    exact ⟨rfl, nofun⟩
  | child hp _ h h' =>
    rw [get_eq h, get_eq h']
    refine ⟨rfl, fun parent hparent => ?_⟩
    cases hparent
    exact hp

theorem Paired.segments_eq (h : Paired doc doc' t t' id) :
    t.segments doc id = t'.segments doc' id := by
  induction h with
  | root h h' =>
    rw [segments, segments, get_eq h, get_eq h']
  | child _ lt h h' segment _ ih =>
    rw [segments, segments, get_eq h, get_eq h']
    simp only [lt, ↓reduceDIte, ih, segment]

theorem Paired.path_eq (h : Paired doc doc' t t' id) : t.path doc id = t'.path doc' id := by
  rw [path, path, h.segments_eq]

end Trail

open Trail (Paired)

namespace Walk

/-- Two walks keep their trails and leave them with one size, and both fail with one error or find
the same elements, which are paired. -/
structure Lockstep (doc doc' : Document) (t t' : Trail) (w w' : Walk) : Prop where
  kept : t.Kept w.1
  kept' : t'.Kept w'.1
  size_eq : w.1.size = w'.1.size
  same : w.2 = w'.2
  paired : ∀ ids, w.2 = .ok ids → ∀ id ∈ ids, Paired doc doc' w.1 w'.1 id

variable {ids : List ElementId} {w w' : Walk}

theorem lockstep_ok (size : t.size = t'.size) (h : ∀ id ∈ ids, Paired doc doc' t t' id) :
    Lockstep doc doc' t t' (t, .ok ids) (t', .ok ids) where
  kept := .refl t
  kept' := .refl t'
  size_eq := size
  same := rfl
  paired found hfound := by
    cases hfound
    exact h

theorem lockstep_error (size : t.size = t'.size) (e : EvaluationError) :
    Lockstep doc doc' t t' (t, .error e) (t', .error e) :=
  ⟨.refl t, .refl t', size, rfl, nofun⟩

theorem Lockstep.of_kept (kept : t.Kept s) (kept' : t'.Kept s') (h : Lockstep doc doc' s s' w w') :
    Lockstep doc doc' t t' w w' :=
  ⟨kept.trans h.kept, kept'.trans h.kept', h.size_eq, h.same, h.paired⟩

theorem Lockstep.cases (h : Lockstep doc doc' t t' w w') :
    (∃ s s' e, w = (s, .error e) ∧ w' = (s', .error e) ∧ s.size = s'.size ∧
        t.Kept s ∧ t'.Kept s') ∨
      ∃ s s' ids, w = (s, .ok ids) ∧ w' = (s', .ok ids) ∧ s.size = s'.size ∧
        t.Kept s ∧ t'.Kept s' ∧ ∀ id ∈ ids, Paired doc doc' s s' id := by
  obtain ⟨s, r⟩ := w
  obtain ⟨s', r'⟩ := w'
  obtain ⟨kept, kept', size, same, paired⟩ := h
  obtain rfl : r = r' := same
  cases r with
  | error e => exact .inl ⟨s, s', e, rfl, rfl, size, kept, kept'⟩
  | ok ids => exact .inr ⟨s, s', ids, rfl, rfl, size, kept, kept', paired ids rfl⟩

theorem Lockstep.bind {next next' : Trail → List ElementId → Walk}
    (hnext : ∀ (s s' : Trail) (ids : List ElementId), s.size = s'.size → t.Kept s → t'.Kept s' →
      (∀ id ∈ ids, Paired doc doc' s s' id) → Lockstep doc doc' s s' (next s ids) (next' s' ids)) :
    Lockstep doc doc' t t' w w' → Lockstep doc doc' t t'
      (match w with
        | (t, .error e) => (t, .error e)
        | (t, .ok ids) => next t ids)
      (match w' with
        | (t, .error e) => (t, .error e)
        | (t, .ok ids) => next' t ids) := by
  intro h
  rcases h.cases with
    ⟨s, s', e, rfl, rfl, size, kept, kept'⟩ | ⟨s, s', ids, rfl, rfl, size, kept, kept', paired⟩
  · exact (lockstep_error size e).of_kept kept kept'
  · exact (hnext s s' ids size kept kept' paired).of_kept kept kept'

theorem each_lockstep {walk walk' : ElementId → Trail → Walk}
    (hw : ∀ id (t t' : Trail), t.size = t'.size → Paired doc doc' t t' id →
      Lockstep doc doc' t t' (walk id t) (walk' id t'))
    (size : t.size = t'.size) (h : ∀ id ∈ ids, Paired doc doc' t t' id) :
    Lockstep doc doc' t t' (Walk.each walk ids t) (Walk.each walk' ids t') := by
  induction ids generalizing t t' with
  | nil => exact lockstep_ok size h
  | cons id ids ih =>
    obtain ⟨first, later⟩ := List.forall_mem_cons.mp h
    unfold Walk.each
    refine (hw id t t' size first).bind fun s s' found size kept kept' paired => ?_
    have rest := ih size fun id hid => (later id hid).kept kept kept'
    refine rest.bind fun u u' more size kept kept' paired' => lockstep_ok size fun id hid => ?_
    rcases List.mem_append.mp hid with hid | hid
    · exact (paired id hid).kept kept kept'
    · exact paired' id hid

end Walk

open Walk (Lockstep lockstep_ok lockstep_error)

namespace Evaluation

theorem pushChild_paired (size : t.size = t'.size) (h : Paired doc doc' t t' id)
    {c c' : Key × NodeId} (segment : doc.segment (doc.get (t.get id).node) c.1 =
      doc'.segment (doc'.get (t'.get id).node) c'.1) (alike : doc.Alike doc' c.2 c'.2) :
    Paired doc doc' (t.push ⟨c.2, some (id, c.1)⟩) (t'.push ⟨c'.2, some (id, c'.1)⟩) t.size := by
  have kept := Trail.kept_push t ⟨c.2, some (id, c.1)⟩
  have kept' := Trail.kept_push t' ⟨c'.2, some (id, c'.1)⟩
  have added := Trail.getElem?_push_size t ⟨c.2, some (id, c.1)⟩
  have added' := Trail.getElem?_push_size t' ⟨c'.2, some (id, c'.1)⟩
  rw [← size] at added'
  refine .child (h.kept kept kept') h.lt_size.1 added added' ?_ alike
  rwa [kept.get_eq h.lt_size.1, kept'.get_eq h.lt_size.2]

theorem pushChildren_lockstep (size : t.size = t'.size) (h : Paired doc doc' t t' id)
    {children children' : List (Key × NodeId)}
    (hc : List.Forall₂ (fun c c' => doc.segment (doc.get (t.get id).node) c.1 =
      doc'.segment (doc'.get (t'.get id).node) c'.1 ∧ doc.Alike doc' c.2 c'.2) children children') :
    Lockstep doc doc' t t'
      ((t.pushChildren id children).1, .ok (t.pushChildren id children).2)
      ((t'.pushChildren id children').1, .ok (t'.pushChildren id children').2) := by
  -- The trails change with every element that is added, the node of the parent does not.
  generalize hparent : doc.get (t.get id).node = parent at hc
  generalize hparent' : doc'.get (t'.get id).node = parent' at hc
  induction hc generalizing t t' with
  | nil => exact lockstep_ok size nofun
  | @cons c c' rest rest' first _ ih =>
    have new := pushChild_paired size h (hparent ▸ hparent' ▸ first.1) first.2
    have kept := Trail.kept_push t ⟨c.2, some (id, c.1)⟩
    have kept' := Trail.kept_push t' ⟨c'.2, some (id, c'.1)⟩
    have later := ih (Trail.size_push_eq size _ _) (h.kept kept kept')
      (by rw [kept.get_eq h.lt_size.1, hparent]) (by rw [kept'.get_eq h.lt_size.2, hparent'])
    refine ⟨kept.trans later.kept, kept'.trans later.kept', later.size_eq, ?_, ?_⟩
    · exact congrArg Except.ok (congrArg₂ List.cons size (Except.ok.inj later.same))
    · intro ids hids id hid
      cases hids
      rcases List.mem_cons.mp hid with rfl | hid
      · exact new.kept later.kept later.kept'
      · exact later.paired _ rfl id hid

variable (acyclic : doc.Acyclic) (acyclic' : doc'.Acyclic) (distinct : doc.NamesDistinct)
  (distinct' : doc'.NamesDistinct)

include acyclic acyclic' distinct distinct'

theorem descend_lockstep (error : EvaluationError) (budget : Nat) (size : t.size = t'.size)
    (h : Paired doc doc' t t' id) :
    Lockstep doc doc' t t' (descend doc error budget id t) (descend doc' error budget id t') := by
  induction budget generalizing t t' id with
  | zero => exact lockstep_error size error
  | succ budget ih =>
    have children := h.alike.children acyclic acyclic' distinct distinct'
    have pushed := pushChildren_lockstep size h (children.imp fun _ _ c => ⟨c.1.segment, c.2⟩)
    have below := Walk.each_lockstep (fun _ _ _ => ih) pushed.size_eq (pushed.paired _ rfl)
    simp only [descend]
    rw [← Except.ok.inj pushed.same]
    refine .of_kept pushed.kept pushed.kept' ?_
    refine below.bind fun s s' found size kept kept' paired => ?_
    have self := (h.kept pushed.kept pushed.kept').kept kept kept'
    exact lockstep_ok size (List.forall_mem_cons.mpr ⟨self, paired⟩)

theorem select_lockstep (error : EvaluationError) (budget : Nat) (specifier : Query.Specifier)
    (size : t.size = t'.size) (h : Paired doc doc' t t' id) :
    Lockstep doc doc' t t' (select doc error budget id specifier t)
      (select doc' error budget id specifier t') := by
  cases specifier with
  | parent =>
    obtain ⟨same, paired⟩ := h.parent
    simp only [select, ← same]
    exact lockstep_ok size fun parent hparent => paired parent (Option.mem_toList.mp hparent)
  | children =>
    have children := h.alike.children acyclic acyclic' distinct distinct'
    exact pushChildren_lockstep size h (children.imp fun _ _ c => ⟨c.1.segment, c.2⟩)
  | descendants => exact descend_lockstep acyclic acyclic' distinct distinct' error budget size h
  | literal text =>
    have found := h.alike.lookup acyclic acyclic' distinct distinct' text
    exact pushChildren_lockstep size h (found.imp fun _ _ c => ⟨c.1.segment, c.2⟩)

theorem follow_lockstep (error : EvaluationError) (parts : List Query.Part) (budget : Nat)
    (size : t.size = t'.size) (h : Paired doc doc' t t' id) :
    Lockstep doc doc' t t' (follow doc error parts budget id t)
      (follow doc' error parts budget id t') := by
  induction parts generalizing budget t t' id with
  | nil =>
    cases budget with
    | zero => exact lockstep_error size error
    | succ budget => exact lockstep_ok size (List.forall_mem_singleton.mpr h)
  | cons part rest ih =>
    cases budget with
    | zero => exact lockstep_error size error
    | succ budget =>
      have selects := select_lockstep acyclic acyclic' distinct distinct' error (budget + 1)
        part.specifier size h
      unfold follow
      refine selects.bind fun s s' ids size kept kept' paired => ?_
      refine Walk.each_lockstep (fun id t t' size h => ?_) size paired
      rw [← h.alike.acceptAll_eq]
      split
      · exact ih budget size h
      · exact lockstep_ok size (List.forall_mem_nil _)

end Evaluation

section Select

variable (acyclic : doc.Acyclic) (acyclic' : doc'.Acyclic) (distinct : doc.NamesDistinct)
  (distinct' : doc'.NamesDistinct)

include acyclic acyclic' distinct distinct'

theorem evaluate_lockstep (alike : doc.Alike doc' doc.root doc'.root) (limit : Nat)
    (parts : List Query.Part) (size : t.size = t'.size) :
    Lockstep doc doc' t t' (evaluate doc limit parts t) (evaluate doc' limit parts t') := by
  have added := Trail.getElem?_push_size t ⟨doc.root, none⟩
  have added' := Trail.getElem?_push_size t' ⟨doc'.root, none⟩
  rw [← size] at added'
  have follows := Evaluation.follow_lockstep acyclic acyclic' distinct distinct'
    (.depthExceeded limit) parts (limit + 1) (Trail.size_push_eq size _ _)
    (.root added added' alike)
  simp only [evaluate, Trail.pushRoot, ← size]
  exact follows.of_kept (Trail.kept_push t _) (Trail.kept_push t' _)

end Select

structure SameMatch (doc doc' : Document) (m m' : Match) : Prop where
  path : m.path = m'.path
  kind : (doc.get m.node).kind = (doc'.get m'.node).kind
  alike : doc.Alike doc' m.node m'.node
  json : doc.toJson m.node = doc'.toJson m'.node
  yaml : doc.toYaml m.node = doc'.toYaml m'.node

inductive SameAnswer (doc doc' : Document) :
    Except EvaluationError (List Match) → Except EvaluationError (List Match) → Prop
  | error (e : EvaluationError) : SameAnswer doc doc' (.error e) (.error e)
  | ok {ms ms' : List Match} (h : List.Forall₂ (SameMatch doc doc') ms ms') :
      SameAnswer doc doc' (.ok ms) (.ok ms')

theorem firstByPath_sameMatch (seen : List String) {ms ms' : List Match}
    (h : List.Forall₂ (SameMatch doc doc') ms ms') :
    List.Forall₂ (SameMatch doc doc') (firstByPath seen ms) (firstByPath seen ms') := by
  induction h generalizing seen with
  | nil => exact .nil
  | cons same _ ih =>
    simp only [firstByPath, same.path]
    split
    · exact ih seen
    · exact .cons same (ih _)

theorem select_sameAnswer (acyclic : doc.Acyclic) (acyclic' : doc'.Acyclic)
    (distinct : doc.NamesDistinct) (distinct' : doc'.NamesDistinct)
    (alike : doc.Alike doc' doc.root doc'.root) (parts : List Query.Part) (mode : ResultMode)
    (limit : Nat) :
    SameAnswer doc doc' (PathQuery.select doc parts mode limit)
      (PathQuery.select doc' parts mode limit) := by
  have walks : Lockstep doc doc' .empty .empty _ _ :=
    evaluate_lockstep acyclic acyclic' distinct distinct' alike limit parts rfl
  unfold select
  rcases walks.cases with
    ⟨s, s', e, hs, hs', -⟩ | ⟨s, s', ids, hs, hs', -, -, -, paired⟩
  · rw [hs, hs']
    exact .error e
  · rw [hs, hs']
    have matched : List.Forall₂ (SameMatch doc doc') (ids.map (s.matchAt doc))
        (ids.map (s'.matchAt doc')) := by
      rw [List.forall₂_map_left_iff, List.forall₂_map_right_iff, List.forall₂_same]
      intro id hid
      have same := (paired id hid).alike
      exact ⟨(paired id hid).path_eq, same.kind_eq, same,
        same.toJson_eq acyclic acyclic' distinct distinct', same.toYaml_eq acyclic acyclic'⟩
    cases mode with
    | ordered => exact .ok matched
    | unique => exact .ok (firstByPath_sameMatch [] matched)

/-- The answer to a query depends on the content of the document only. Where the roots of two
documents have the same content, every query fails on both with the same error, or finds as many
matches on both, which agree one by one in their paths, kinds, content, JSON and YAML. So it is with
the documents of a JSON value and of a YAML value with the same content. -/
theorem select_depends_on_content :
    (∀ doc doc' : Document, doc.Acyclic → doc'.Acyclic → doc.NamesDistinct → doc'.NamesDistinct →
      doc.Alike doc' doc.root doc'.root →
      ∀ (parts : List Query.Part) (mode : ResultMode) (limit : Nat),
        SameAnswer doc doc' (select doc parts mode limit) (select doc' parts mode limit)) ∧
    ∀ (v : Json) (y : Yaml), v.NamesDistinct → SameContent v y →
      ∀ (parts : List Query.Part) (mode : ResultMode) (limit : Nat),
        SameAnswer (.ofJson v) (.ofYaml y) (select (.ofJson v) parts mode limit)
          (select (.ofYaml y) parts mode limit) := by
  refine ⟨fun doc doc' acyclic acyclic' distinct distinct' alike parts mode limit => ?_,
    fun v y distinct same parts mode limit => ?_⟩
  · exact select_sameAnswer acyclic acyclic' distinct distinct' alike parts mode limit
  · have sound := Document.ofJson_sound distinct
    have sound' := Document.ofYaml_sound y
    exact select_sameAnswer sound.wellFormed.acyclic sound'.wellFormed.acyclic sound.namesDistinct
      sound'.namesDistinct (Document.ofJson_alike_ofYaml same) parts mode limit

/-- A document with the content of `sharing` in which nothing is shared and the keys are nodes. -/
def Document.spreadOut : Document :=
  ⟨#[.text "a", .bool true, .null, .sequence [1, 2], .text "b", .bool true, .null, .sequence [5, 6],
    .genericMapping [(0, 3), (4, 7)]], 8⟩

theorem Document.spreadOut_wellFormed : spreadOut.WellFormed :=
  wellFormed_of_lt_size (by decide) (by decide)

theorem Document.sharing_alike_spreadOut :
    sharing.Alike spreadOut (root sharing) (root spreadOut) := by
  have item : sharing.Alike spreadOut 2 3 :=
    .sequence rfl rfl (.cons (.scalar rfl rfl) (.cons (.scalar rfl rfl) .nil))
  have item' : sharing.Alike spreadOut 2 7 :=
    .sequence rfl rfl (.cons (.scalar rfl rfl) (.cons (.scalar rfl rfl) .nil))
  exact .toGeneric rfl rfl (.cons rfl (.cons rfl .nil)) (.cons item (.cons item' .nil))

def Json.listed : Json :=
  .object [("list", .array [.object [("key", .string "v")]])]

def Yaml.listed : Yaml :=
  .mapping [(.string "list", .sequence [.mapping [(.string "key", .string "v")]])]

theorem Json.listed_namesDistinct : Json.listed.NamesDistinct := by
  have inner : (Json.object [("key", .string "v")]).NamesDistinct :=
    .object (List.nodup_singleton _) (List.forall_mem_singleton.mpr (.string "v"))
  have items : (Json.array [.object [("key", .string "v")]]).NamesDistinct :=
    .array (List.forall_mem_singleton.mpr inner)
  exact .object (List.nodup_singleton _) (List.forall_mem_singleton.mpr items)

theorem listed_sameContent : SameContent .listed .listed := by
  have inner : SameContent (.object [("key", .string "v")])
      (.mapping [(.string "key", .string "v")]) := .object rfl (.cons (.string "v") .nil)
  exact .object rfl (.cons (.array (.cons inner .nil)) .nil)

theorem select_depends_on_content_listed :
    SameAnswer .sharing .spreadOut (select .sharing [⟨.descendants, []⟩] .unique 8)
        (select .spreadOut [⟨.descendants, []⟩] .unique 8) ∧
      SameAnswer (.ofJson .listed) (.ofYaml .listed)
        (select (.ofJson .listed) [⟨.literal "list", []⟩, ⟨.literal "0", []⟩] .ordered 8)
        (select (.ofYaml .listed) [⟨.literal "list", []⟩, ⟨.literal "0", []⟩] .ordered 8) ∧
      (select (.ofJson .listed) [⟨.literal "list", []⟩, ⟨.literal "0", []⟩] .ordered 8).toOption.map
          (List.map Match.node) = some [2] ∧
      (select (.ofYaml .listed) [⟨.literal "list", []⟩, ⟨.literal "0", []⟩] .ordered 8).toOption.map
          (List.map Match.node) = some [4] := by
  obtain ⟨laidOut, decoded⟩ := select_depends_on_content
  refine ⟨?_, ?_, by decide +kernel, by decide +kernel⟩
  · exact laidOut .sharing .spreadOut Document.sharing_wellFormed.acyclic
      Document.spreadOut_wellFormed.acyclic Document.sharing_namesDistinct
      (Document.namesDistinct_of_lt_size (by decide)) Document.sharing_alike_spreadOut _ .unique 8
  · exact decoded .listed .listed Json.listed_namesDistinct listed_sameContent _ .ordered 8

end PathQuery
