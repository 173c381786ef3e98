import PathQuery.Proofs.Document.Levels
import PathQuery.Proofs.Evaluation.Refinement

/-!
The links of a trail. Evaluation adds one element at a time: one at the root, or
one for a child of an element that is already there. So the links go back to
earlier elements along keys that lead down, and the way up ends at the root. That
holds after any evaluations, failed ones too, and the document may have cycles.
-/
namespace PathQuery

variable {doc : Document} {t t' t'' : Trail} {id : ElementId}

namespace Node

inductive LeadsTo : Node → Key → NodeId → Prop
  | index {items : List NodeId} {i : Nat} {child : NodeId} (h : items[i]? = some child) :
      LeadsTo (.sequence items) (.index i) child
  | name {entries : List (String × NodeId)} {name : String} {child : NodeId}
      (h : (name, child) ∈ entries) : LeadsTo (.mapping entries) (.name name) child
  | entry {entries : List (NodeId × NodeId)} {key child : NodeId} {position : Nat}
      (h : entries[position]? = some (key, child)) :
      LeadsTo (.genericMapping entries) (.entry key position) child

variable {node : Node} {key : Key} {child : NodeId}

theorem leadsTo_of_mem_children (h : (key, child) ∈ node.children) : node.LeadsTo key child := by
  cases node with
  | sequence items =>
    obtain ⟨⟨item, i⟩, hi, heq⟩ := List.mem_map.mp h
    cases heq
    exact .index (List.mem_zipIdx_iff_getElem?.mp hi)
  | mapping entries =>
    obtain ⟨e, he, heq⟩ := List.mem_map.mp h
    cases heq
    exact .name he
  | genericMapping entries =>
    obtain ⟨⟨e, i⟩, hi, heq⟩ := List.mem_map.mp h
    cases heq
    exact .entry (List.mem_zipIdx_iff_getElem?.mp hi)
  | _ => cases h

theorem leadsTo_of_mem_lookup {text : String} (h : (key, child) ∈ doc.lookup node text) :
    node.LeadsTo key child := by
  unfold Document.lookup at h
  split at h
  · next entries =>
    split at h
    · next e hfind =>
      cases List.mem_singleton.mp h
      have hname := List.find?_some hfind
      obtain rfl : e.1 = text := by simpa using hname
      exact .name (List.mem_of_find?_eq_some hfind)
    · cases h
  · next entries =>
    obtain ⟨⟨e, i⟩, hi, heq⟩ := List.mem_map.mp h
    cases heq
    exact .entry (List.mem_zipIdx_iff_getElem?.mp (List.mem_filter.mp hi).1)
  · next items =>
    split at h
    · split at h
      · next index _ item hitem =>
        cases List.mem_singleton.mp h
        exact .index hitem
      · cases h
    · cases h
  all_goals cases h

theorem LeadsTo.mem_children (h : node.LeadsTo key child) : (key, child) ∈ node.children := by
  cases h with
  | @index _ i _ h => exact List.mem_map.mpr ⟨(child, i), List.mem_zipIdx_iff_getElem?.mpr h, rfl⟩
  | @name _ name _ h => exact List.mem_map.mpr ⟨(name, child), h, rfl⟩
  | @entry _ key _ i h =>
    exact List.mem_map.mpr ⟨((key, child), i), List.mem_zipIdx_iff_getElem?.mpr h, rfl⟩

theorem LeadsTo.mem_refs (h : node.LeadsTo key child) :
    child ∈ node.refs ∧ ∀ id position, key = .entry id position → id ∈ node.refs := by
  cases h with
  | index h => exact ⟨List.mem_of_getElem? h, nofun⟩
  | name h => exact ⟨List.mem_map_of_mem h, nofun⟩
  | entry h =>
    have hmem := List.mem_of_getElem? h
    refine ⟨List.mem_flatMap.mpr ⟨_, hmem, by simp⟩, fun id position heq => ?_⟩
    cases heq
    exact List.mem_flatMap.mpr ⟨_, hmem, by simp⟩

end Node

/-- All references, and the root, are in the arena; there may be cycles. -/
structure Document.Closed (doc : Document) : Prop where
  refs_lt : ∀ id, ∀ r ∈ (doc.get id).refs, r < doc.size
  root_lt : doc.root < doc.size

theorem Document.closed_of_lt_size (h : ∀ id < doc.size, ∀ r ∈ (doc.get id).refs, r < doc.size)
    (hroot : doc.root < doc.size) : doc.Closed where
  refs_lt id := by
    by_cases hid : id < doc.size
    · exact h id hid
    · rw [get_of_size_le (Nat.le_of_not_lt hid)]
      exact List.forall_mem_nil _
  root_lt := hroot

theorem Document.Closed.lt_of_reachable (closed : doc.Closed) {id node : NodeId}
    (hid : id < doc.size) (h : Relation.ReflTransGen doc.Refers id node) : node < doc.size := by
  induction h with
  | refl => exact hid
  | tail _ hr _ => exact closed.refs_lt _ _ hr

namespace Trail

inductive Step (doc : Document) (t : Trail) : Trail → Prop
  | root : Step doc t (t.push ⟨doc.root, none⟩)
  | child {parent : ElementId} {key : Key} {node : NodeId} (hp : parent < t.size)
      (leads : (doc.get (t.get parent).node).LeadsTo key node) :
      Step doc t (t.push ⟨node, some (parent, key)⟩)

abbrev Steps (doc : Document) : Trail → Trail → Prop := Relation.ReflTransGen (Step doc)

inductive LinkedAt (doc : Document) (t : Trail) (id : ElementId) : Element → Prop
  | root : LinkedAt doc t id ⟨doc.root, none⟩
  | child {parent : ElementId} {key : Key} {node : NodeId} (lt : parent < id)
      (leads : (doc.get (t.get parent).node).LeadsTo key node) :
      LinkedAt doc t id ⟨node, some (parent, key)⟩

def Linked (doc : Document) (t : Trail) : Prop :=
  ∀ id e, t.elements[id]? = some e → LinkedAt doc t id e

theorem Step.kept (h : Step doc t t') : t.Kept t' := by
  cases h <;> exact kept_push t _

theorem Steps.kept (h : Steps doc t t') : t.Kept t' := by
  induction h with
  | refl => exact .refl t
  | tail _ step ih => exact ih.trans step.kept

theorem LinkedAt.kept {e : Element} (h : LinkedAt doc t id e) (hid : id ≤ t.size)
    (kept : t.Kept t') : LinkedAt doc t' id e := by
  cases h with
  | root => exact .root
  | child lt leads =>
    refine .child lt ?_
    rwa [kept.get_eq (Nat.lt_of_lt_of_le lt hid)]

theorem Linked.push (h : t.Linked doc) {x : Element} (hx : LinkedAt doc t t.size x) :
    (t.push x).Linked doc := by
  intro id e he
  have kept := kept_push t x
  rcases Nat.lt_trichotomy id t.size with lt | rfl | gt
  · have old := Array.getElem?_eq_getElem lt
    obtain rfl : t.elements[id] = e := Option.some.inj ((kept id _ old).symm.trans he)
    exact (h id _ old).kept (Nat.le_of_lt lt) kept
  · obtain rfl : x = e := Option.some.inj ((getElem?_push_size t x).symm.trans he)
    exact hx.kept (Nat.le_refl _) kept
  · obtain ⟨hlt, -⟩ := Array.getElem?_eq_some_iff.mp he
    simp only [Trail.push, Array.size_push] at hlt
    exact absurd gt (Nat.not_lt.mpr (Nat.le_of_lt_succ hlt))

theorem Linked.step (h : t.Linked doc) (hs : Step doc t t') : t'.Linked doc := by
  cases hs with
  | root => exact h.push .root
  | child hp leads => exact h.push (.child hp leads)

theorem Linked.steps (h : t.Linked doc) (hs : Steps doc t t') : t'.Linked doc := by
  induction hs with
  | refl => exact h
  | tail _ step ih => exact ih.step step

theorem Linked.at (h : t.Linked doc) (hid : id < t.size) : LinkedAt doc t id (t.get id) :=
  h id _ (getElem?_of_lt hid)

theorem Linked.parent_lt (h : t.Linked doc) (hid : id < t.size) {parent : ElementId}
    (hp : (t.get id).parent? = some parent) : parent < id := by
  have link := h.at hid
  generalize t.get id = e at link hp
  cases link with
  | root => cases hp
  | child lt =>
    cases hp
    exact lt

/-- An element that is linked stands for the keys on its way. -/
theorem Linked.standsFor (h : t.Linked doc) (distinct : doc.NamesDistinct) (hid : id < t.size) :
    t.StandsFor doc id (t.position id) := by
  induction id using Nat.strongRecOn with
  | _ id ih =>
    have he := getElem?_of_lt hid
    have link := h.at hid
    rw [position]
    generalize t.get id = e at he link
    cases link with
    | root => exact .root he
    | child lt leads =>
      have parent := ih _ lt (Nat.lt_trans lt hid)
      simp only [lt, ↓reduceDIte]
      refine .child parent lt he ?_
      rw [Document.nodeAt?_snoc parent.nodeAt?]
      exact Node.child?_of_mem_children (distinct _) leads.mem_children

theorem linked_empty (doc : Document) : empty.Linked doc := by
  intro id e he
  simp [empty] at he

end Trail

open Trail (Step Steps)

namespace Walk

variable {ids : List ElementId} {w : Walk}

/-- A walk adds elements one after the other, and what it finds is in the trail. -/
structure Adds (doc : Document) (t : Trail) (w : Walk) : Prop where
  steps : Steps doc t w.1
  found : ∀ ids, w.2 = .ok ids → ∀ id ∈ ids, id < w.1.size

theorem adds_ok (h : ∀ id ∈ ids, id < t.size) : Adds doc t (t, .ok ids) where
  steps := .refl
  found found hfound := by
    cases hfound
    exact h

theorem adds_error (doc : Document) (t : Trail) (e : EvaluationError) :
    Adds doc t (t, .error e) := ⟨.refl, nofun⟩

theorem Adds.of_steps (h : Steps doc t t') (hw : Adds doc t' w) : Adds doc t w :=
  ⟨h.trans hw.steps, hw.found⟩

theorem Adds.bind {next : Trail → List ElementId → Walk}
    (hnext : ∀ (s : Trail) (ids : List ElementId), Steps doc t s → (∀ id ∈ ids, id < s.size) →
      Adds doc s (next s ids)) :
    Adds doc t w → Adds doc t
      (match w with
        | (t, .error e) => (t, .error e)
        | (t, .ok ids) => next t ids) := by
  intro h
  obtain ⟨s, r⟩ := w
  cases r with
  | error e => exact (adds_error doc s e).of_steps h.steps
  | ok ids => exact (hnext s ids h.steps (h.found ids rfl)).of_steps h.steps

theorem each_adds {walk : ElementId → Trail → Walk}
    (hw : ∀ (id : ElementId) (t : Trail), t.Linked doc → id < t.size → Adds doc t (walk id t))
    (linked : t.Linked doc) (h : ∀ id ∈ ids, id < t.size) : Adds doc t (Walk.each walk ids t) := by
  induction ids generalizing t with
  | nil => exact adds_ok h
  | cons id ids ih =>
    obtain ⟨first, later⟩ := List.forall_mem_cons.mp h
    unfold Walk.each
    refine (hw id t linked first).bind fun s found steps inside => ?_
    have rest := ih (linked.steps steps) fun id hid => steps.kept.lt_size (later id hid)
    refine rest.bind fun u more steps' inside' => adds_ok fun id hid => ?_
    rcases List.mem_append.mp hid with hid | hid
    · exact steps'.kept.lt_size (inside id hid)
    · exact inside' id hid

end Walk

open Walk (Adds adds_ok adds_error)

namespace Evaluation

theorem pushChildren_adds (hid : id < t.size) {children : List (Key × NodeId)}
    (hc : ∀ c ∈ children, (doc.get (t.get id).node).LeadsTo c.1 c.2) :
    Adds doc t ((t.pushChildren id children).1, .ok (t.pushChildren id children).2) := by
  induction children generalizing t with
  | nil => exact adds_ok (List.forall_mem_nil _)
  | cons c rest ih =>
    obtain ⟨first, later⟩ := List.forall_mem_cons.mp hc
    have step : Step doc t (t.push ⟨c.2, some (id, c.1)⟩) := .child hid first
    have more := ih (step.kept.lt_size hid) (by rwa [step.kept.get_eq hid])
    have new : t.size < (t.push ⟨c.2, some (id, c.1)⟩).size := by simp [Trail.size, Trail.push]
    refine ⟨.head step more.steps, fun ids hids x hx => ?_⟩
    cases hids
    rcases List.mem_cons.mp hx with rfl | hx
    · exact more.steps.kept.lt_size new
    · exact more.found _ rfl x hx

theorem children_adds (hid : id < t.size) :
    Adds doc t ((t.pushChildren id (doc.get (t.get id).node).children).1,
      .ok (t.pushChildren id (doc.get (t.get id).node).children).2) :=
  pushChildren_adds hid fun _ hc => Node.leadsTo_of_mem_children hc

theorem descend_adds (error : EvaluationError) (budget : Nat) (linked : t.Linked doc)
    (hid : id < t.size) : Adds doc t (descend doc error budget id t) := by
  induction budget generalizing t id with
  | zero => exact adds_error doc t error
  | succ budget ih =>
    have pushed : Adds doc t _ := children_adds hid
    have below := Walk.each_adds (fun _ _ => ih) (linked.steps pushed.steps) (pushed.found _ rfl)
    simp only [descend]
    refine .of_steps pushed.steps (below.bind fun s found steps inside => adds_ok ?_)
    have self := steps.kept.lt_size (pushed.steps.kept.lt_size hid)
    exact List.forall_mem_cons.mpr ⟨self, inside⟩

theorem select_adds (error : EvaluationError) (budget : Nat) (specifier : Query.Specifier)
    (linked : t.Linked doc) (hid : id < t.size) :
    Adds doc t (select doc error budget id specifier t) := by
  cases specifier with
  | parent =>
    refine adds_ok fun parent hparent => ?_
    exact Nat.lt_trans (linked.parent_lt hid (Option.mem_toList.mp hparent)) hid
  | children => exact children_adds hid
  | descendants => exact descend_adds error budget linked hid
  | literal text => exact pushChildren_adds hid fun _ hc => Node.leadsTo_of_mem_lookup hc

theorem follow_adds (error : EvaluationError) (parts : List Query.Part) (budget : Nat)
    (linked : t.Linked doc) (hid : id < t.size) : Adds doc t (follow doc error parts budget id t) := by
  induction parts generalizing budget t id with
  | nil =>
    cases budget with
    | zero => exact adds_error doc t error
    | succ budget => exact adds_ok (List.forall_mem_singleton.mpr hid)
  | cons part rest ih =>
    cases budget with
    | zero => exact adds_error doc t error
    | succ budget =>
      have selected := select_adds error (budget + 1) part.specifier linked hid
      unfold follow
      refine selected.bind fun s ids steps inside => ?_
      refine Walk.each_adds (fun id t linked hid => ?_) (linked.steps steps) inside
      split
      · exact ih budget linked hid
      · exact adds_ok (List.forall_mem_nil _)

end Evaluation

theorem evaluate_adds (limit : Nat) (parts : List Query.Part) (linked : t.Linked doc) :
    Adds doc t (evaluate doc limit parts t) := by
  have step : Step doc t (t.push ⟨doc.root, none⟩) := .root
  have inside : t.size < (t.push ⟨doc.root, none⟩).size := by simp [Trail.size, Trail.push]
  have follows := Evaluation.follow_adds (.depthExceeded limit) parts (limit + 1)
    (linked.step step) inside
  exact follows.of_steps (.single step)

theorem Document.Session.steps (h : doc.Session t) : Steps doc .empty t := by
  induction h with
  | start => exact .refl
  | step _ limit parts ih =>
    exact ih.trans (evaluate_adds limit parts ((Trail.linked_empty doc).steps ih)).steps

theorem Document.Session.linked (h : doc.Session t) : t.Linked doc :=
  (Trail.linked_empty doc).steps h.steps

theorem Document.Session.of_evaluate (h : doc.Session t) {limit : Nat} {parts : List Query.Part}
    {ids : List ElementId} (found : evaluate doc limit parts t = (t', .ok ids)) :
    doc.Session t' ∧ ∀ id ∈ ids, id < t'.size := by
  have session := h.step limit parts
  have inside := (evaluate_adds limit parts h.linked).found ids
  rw [found] at session inside
  exact ⟨session, inside rfl⟩

namespace Document

def keyNodeText? (doc : Document) (id : NodeId) : Option String :=
  doc.nodes[id]?.map fun _ => doc.keyNodeText id

/-- A key in a path below a node, if all that is looked up for it is in the arena: nothing for names
and indices, and for an entry its key, its mapping and the keys of the entries before it. -/
def segment? (doc : Document) (parent : NodeId) : Key → Option String
  | .name name => some (Text.quoted name)
  | .index index => some (toString index)
  | .entry key position => do
    let text ← doc.keyNodeText? key
    let node ← doc.nodes[parent]?
    match node with
    | .genericMapping entries =>
      let earlier ← (entries.take position).mapM fun e => doc.keyNodeText? e.1
      some (if text ∈ earlier then s!"{text}#{position}" else text)
    | _ => some text

theorem keyNodeText?_of_lt {id : NodeId} (h : id < doc.size) :
    doc.keyNodeText? id = some (doc.keyNodeText id) := by
  rw [keyNodeText?, getElem?_of_lt h, Option.map_some]

theorem Closed.segment?_eq (closed : doc.Closed) {parent child : NodeId} {key : Key}
    (hp : parent < doc.size) (leads : (doc.get parent).LeadsTo key child) :
    doc.segment? parent key = some (doc.segment (doc.get parent) key) := by
  have refs := closed.refs_lt parent
  obtain ⟨-, keys⟩ := leads.mem_refs
  generalize hnode : doc.get parent = node at leads refs keys
  cases leads with
  | index => rfl
  | name => rfl
  | @entry entries key child position =>
    have inside := refs key (keys key position rfl)
    have earlier : (entries.take position).mapM (fun e => doc.keyNodeText? e.1) =
        some ((entries.take position).map fun e => doc.keyNodeText e.1) := by
      refine mapM_eq_some_map fun e he => keyNodeText?_of_lt (refs e.1 ?_)
      exact List.mem_flatMap.mpr ⟨e, List.mem_of_mem_take he, by simp⟩
    simp only [segment?, keyNodeText?_of_lt inside, getElem?_of_lt hp, hnode, earlier, segment,
      keyText, isShadowed_iff, Option.bind_eq_bind, Option.bind_some]

end Document

namespace Trail

/-- The keys from the root to an element, if the walk up the links takes at most `steps` steps and
all that is looked up on the way is in the trail and in the arena. -/
def segments? (t : Trail) (doc : Document) : Nat → ElementId → Option (List String)
  | 0, _ => none
  | steps + 1, id => do
    let e ← t.elements[id]?
    match e.origin with
    | none => some []
    | some (parent, key) =>
      let above ← t.elements[parent]?
      let here ← doc.segment? above.node key
      let front ← t.segments? doc steps parent
      some (front ++ [here])

def path? (t : Trail) (doc : Document) (id : ElementId) : Option String :=
  (t.segments? doc (id + 1) id).map (".".intercalate ·)

theorem Linked.node_lt (h : t.Linked doc) (closed : doc.Closed) (hid : id < t.size) :
    (t.get id).node < doc.size := by
  have link := h.at hid
  generalize t.get id = e at link
  cases link with
  | root => exact closed.root_lt
  | child _ leads => exact closed.refs_lt _ _ leads.mem_refs.1

theorem Linked.segments?_eq (h : t.Linked doc) (closed : doc.Closed) {steps : Nat}
    (hid : id < t.size) (enough : id < steps) :
    t.segments? doc steps id = some (t.segments doc id) := by
  induction steps generalizing id with
  | zero => exact absurd enough (Nat.not_lt_zero id)
  | succ steps ih =>
    have link := h.at hid
    rw [segments?, segments, getElem?_of_lt hid]
    generalize t.get id = e at link
    cases link with
    | root => rfl
    | @child parent key node lt leads =>
      -- The parent stands in front of the element, so one step less is enough.
      have inside := Nat.lt_trans lt hid
      have front := ih inside (Nat.lt_of_lt_of_le lt (Nat.le_of_lt_succ enough))
      have here := closed.segment?_eq (h.node_lt closed inside) leads
      simp only [getElem?_of_lt inside, here, front, lt, ↓reduceDIte, Option.bind_eq_bind,
        Option.bind_some]

end Trail

/-- After any evaluations on one trail, failed ones too, every element without a link is at the root,
and every other one is linked to an earlier element, from whose node its key leads to its own. So the
walk up the links that gives a path ends, it finds all that it looks up, and so does every walk down
from a node. What an evaluation finds is in the trail. -/
theorem session_links_resolve (doc : Document) (t : Trail) (session : doc.Session t) :
    (∀ id e, t.elements[id]? = some e →
        (e.parent? = none ↔ e.key? = none) ∧ (e.parent? = none → e.node = doc.root) ∧
          ∀ parent key, e.parent? = some parent → e.key? = some key →
            parent < id ∧ (doc.get (t.get parent).node).LeadsTo key e.node) ∧
      (doc.Closed → ∀ id < t.size, t.path? doc id = some (t.path doc id) ∧
        ∀ node, Relation.ReflTransGen doc.Refers (t.get id).node node → node < doc.size) ∧
      ∀ limit parts t' ids, evaluate doc limit parts t = (t', .ok ids) →
        ∀ id ∈ ids, ∃ e, t'.elements[id]? = some e := by
  have linked := session.linked
  refine ⟨fun id e he => ?_, fun closed id hid => ⟨?_, fun node below => ?_⟩,
    fun limit parts t' ids found id hid => ?_⟩
  · cases linked id e he with
    | root => exact ⟨iff_of_true rfl rfl, fun _ => rfl, nofun⟩
    | child lt leads =>
      refine ⟨iff_of_false nofun nofun, nofun, fun parent key hparent hkey => ?_⟩
      cases hparent
      cases hkey
      exact ⟨lt, leads⟩
  · rw [Trail.path?, linked.segments?_eq closed hid (Nat.lt_succ_self id)]
    rfl
  · exact closed.lt_of_reachable (linked.node_lt closed hid) below
  · exact ⟨_, Trail.getElem?_of_lt ((session.of_evaluate found).2 id hid)⟩

def Document.looping : Document :=
  ⟨#[.null, .sequence [1, 2], .genericMapping [(0, 1), (0, 0)]], 1⟩

theorem Document.looping_closed : looping.Closed := closed_of_lt_size (by decide) (by decide)

def Document.loopingTrail : Trail := (evaluate .looping 3 [⟨.descendants, []⟩] .empty).1

theorem session_links_resolve_looping :
    (evaluate .looping 3 [⟨.descendants, []⟩] .empty).2 = .error (.depthExceeded 3) ∧
      ∃ t, evaluate .looping 8 [⟨.children, []⟩, ⟨.literal "null", []⟩] Document.loopingTrail =
          (t, .ok [12, 13]) ∧
        t.elements[13]? = some ⟨0, some (11, .entry 0 1)⟩ ∧
        (Document.get .looping (t.get 11).node).LeadsTo (.entry 0 1) 0 ∧
        t.path? .looping 13 = some (t.path .looping 13) := by
  have finds : evaluate .looping 8 [⟨.children, []⟩, ⟨.literal "null", []⟩]
      Document.loopingTrail = ((evaluate .looping 8 [⟨.children, []⟩, ⟨.literal "null", []⟩]
        Document.loopingTrail).1, .ok [12, 13]) := by rfl
  have session : Document.Session .looping (evaluate .looping 8
      [⟨.children, []⟩, ⟨.literal "null", []⟩] Document.loopingTrail).1 :=
    .step (.step .start 3 [⟨.descendants, []⟩]) 8 _
  obtain ⟨links, resolves, -⟩ := session_links_resolve .looping _ session
  have last : (evaluate .looping 8 [⟨.children, []⟩, ⟨.literal "null", []⟩]
      Document.loopingTrail).1.elements[13]? = some ⟨0, some (11, .entry 0 1)⟩ := by rfl
  refine ⟨rfl, _, finds, last, ((links 13 _ last).2.2 11 _ rfl rfl).2, ?_⟩
  exact (resolves Document.looping_closed 13 (Array.getElem?_eq_some_iff.mp last).choose).1

end PathQuery
