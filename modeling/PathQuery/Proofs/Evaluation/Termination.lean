import PathQuery.Proofs.Document.Growth
import PathQuery.Proofs.Evaluation.Depth
import PathQuery.Proofs.Evaluation.Links

/-!
Documents that grow stay closed and without cycles. So whatever walks down from
a node ends, within as many levels as the place of the node says, and all that
it reads is in the arena: the ways to JSON, to YAML and to text, the descent below
an element, and the canonical paths.
-/
namespace PathQuery

variable {doc : Document} {t t' : Trail} {id : ElementId} {ids : List ElementId}
variable {error : EvaluationError} {budget : Nat}

def Walk.each? (walk? : ElementId → Trail → Option Walk) : List ElementId → Trail → Option Walk
  | [], t => some (t, .ok [])
  | id :: rest, t => do
    match ← walk? id t with
    | (t, .error e) => some (t, .error e)
    | (t, .ok found) =>
      match ← Walk.each? walk? rest t with
      | (t, .error e) => some (t, .error e)
      | (t, .ok more) => some (t, .ok (found ++ more))

def Evaluation.descend? (doc : Document) (error : EvaluationError) :
    Nat → ElementId → Trail → Option Walk
  | 0, _, t => some (t, .error error)
  | budget + 1, id, t => do
    let element ← t.elements[id]?
    let node ← doc.nodes[element.node]?
    let (t, children) := t.pushChildren id node.children
    match ← Walk.each? (descend? doc error budget) children t with
    | (t, .error e) => some (t, .error e)
    | (t, .ok below) => some (t, .ok (id :: below))

structure Trail.Inside (doc : Document) (t : Trail) (id : ElementId) : Prop where
  lt_size : id < t.size
  node_lt : (t.get id).node < doc.size

theorem Trail.Inside.kept (h : t.Inside doc id) (kept : t.Kept t') : t'.Inside doc id where
  lt_size := kept.lt_size h.lt_size
  node_lt := by
    rw [kept.get_eq h.lt_size]
    exact h.node_lt

namespace Walk

/-- A checked walk finds all that it reads and comes out as the plain one, which keeps the elements
of the trail, and succeeds under a condition. -/
structure Reads (t : Trail) (enough : Prop) (w? : Option Walk) (w : Walk) : Prop where
  eq_some : w? = some w
  kept : t.Kept w.1
  succeeds (h : enough) : ∃ ids, w.2 = .ok ids

variable {enough enough' : Prop} {w : Walk} {w? : Option Walk}

theorem Reads.imp (h : Reads t enough w? w) (weaker : enough' → enough) : Reads t enough' w? w :=
  ⟨h.eq_some, h.kept, fun he => h.succeeds (weaker he)⟩

theorem reads_ok (t : Trail) (enough : Prop) (ids : List ElementId) :
    Reads t enough (some (t, .ok ids)) (t, .ok ids) := ⟨rfl, .refl t, fun _ => ⟨ids, rfl⟩⟩

theorem Reads.bind {next? : Trail → List ElementId → Option Walk}
    {next : Trail → List ElementId → Walk}
    (hnext : ∀ s ids, t.Kept s → Reads s enough (next? s ids) (next s ids)) :
    Reads t enough w? w → Reads t enough
      (do
        match ← w? with
        | (t, .error e) => some (t, .error e)
        | (t, .ok ids) => next? t ids)
      (match w with
        | (t, .error e) => (t, .error e)
        | (t, .ok ids) => next t ids) := by
  rintro ⟨rfl, kept, succeeds⟩
  obtain ⟨s, result⟩ := w
  cases result with
  | error e => exact ⟨rfl, kept, succeeds⟩
  | ok ids =>
    have later := hnext s ids kept
    exact ⟨later.eq_some, kept.trans later.kept, later.succeeds⟩

theorem each?_reads {walk? : ElementId → Trail → Option Walk} {walk : ElementId → Trail → Walk}
    (hw : ∀ id (t : Trail), t.Inside doc id →
      Reads t ((t.get id).node < budget) (walk? id t) (walk id t))
    (inside : ∀ id ∈ ids, t.Inside doc id) :
    Reads t (∀ id ∈ ids, (t.get id).node < budget) (each? walk? ids t) (each walk ids t) := by
  induction ids generalizing t with
  | nil => exact reads_ok t _ []
  | cons id ids ih =>
    obtain ⟨first, later⟩ := List.forall_mem_cons.mp inside
    rw [each?, each]
    have here := (hw id t first).imp fun low : ∀ x ∈ id :: ids, (t.get x).node < budget =>
      low id List.mem_cons_self
    refine here.bind fun s found kept => ?_
    have rest := ih fun id hid => (later id hid).kept kept
    refine (rest.imp fun low id hid => ?_).bind fun u more _ => reads_ok u _ _
    rw [kept.get_eq (later id hid).lt_size]
    exact low id (List.mem_cons_of_mem _ hid)

end Walk

theorem inside_pushChildren (wellFormed : doc.WellFormed) (inside : t.Inside doc id) :
    ∀ child ∈ (t.pushChildren id (doc.get (t.get id).node).children).2,
      (t.pushChildren id (doc.get (t.get id).node).children).1.Inside doc child ∧
        ((t.pushChildren id (doc.get (t.get id).node).children).1.get child).node <
          (t.get id).node := by
  intro child hchild
  have adds : Walk.Adds doc t _ := Evaluation.children_adds inside.lt_size
  have added := adds.found _ rfl child hchild
  have nodes := t.map_get_pushChildren id (doc.get (t.get id).node).children
  obtain ⟨c, hc, same⟩ := List.mem_map.mp (nodes ▸ List.mem_map_of_mem hchild)
  have earlier : c.2 < (t.get id).node :=
    wellFormed.refs_lt _ _ (Node.leadsTo_of_mem_children hc).mem_refs.1
  rw [← same]
  refine ⟨⟨added, ?_⟩, earlier⟩
  rw [← same]
  exact earlier.trans inside.node_lt

theorem Evaluation.descend?_reads (wellFormed : doc.WellFormed) (error : EvaluationError)
    (budget : Nat) (inside : t.Inside doc id) :
    Walk.Reads t ((t.get id).node < budget) (descend? doc error budget id t)
      (descend doc error budget id t) := by
  induction budget generalizing t id with
  | zero => exact ⟨rfl, .refl t, fun low => absurd low (Nat.not_lt_zero _)⟩
  | succ budget ih =>
    have children := inside_pushChildren wellFormed inside
    have kept := t.kept_pushChildren id (doc.get (t.get id).node).children
    -- The children have nodes in front of the node of their parent, so one level less is enough.
    have below := Walk.each?_reads (fun id t => ih) fun child hc => (children child hc).1
    have low (h : (t.get id).node < budget + 1) (child) (hc) :=
      Nat.lt_of_lt_of_le (children child hc).2 (Nat.le_of_lt_succ h)
    have whole := (below.imp low).bind fun s found _ => Walk.reads_ok s _ (id :: found)
    simp only [descend?, descend, Trail.getElem?_of_lt inside.lt_size,
      Document.getElem?_of_lt inside.node_lt, Option.bind_eq_bind, Option.bind_some]
    exact ⟨whole.eq_some, kept.trans whole.kept, whole.succeeds⟩

def Document.keyNodeTextWithin? (doc : Document) (levels : Nat) (id : NodeId) : Option String := do
  match ← doc.nodes[id]? with
  | .text s => some (Text.quoted s)
  | _ => doc.textAt? levels id

theorem Document.keyNodeTextWithin?_of_textAt? {id : NodeId} {levels : Nat}
    (inside : id < doc.size) (text : doc.textAt? levels id = some (doc.textAt id)) :
    doc.keyNodeTextWithin? levels id = some (doc.keyNodeText id) := by
  rw [keyNodeTextWithin?, keyNodeText, getElem?_of_lt inside, text]
  cases doc.get id <;> rfl

theorem Document.WellFormed.keyNodeTextWithin?_eq (wellFormed : doc.WellFormed) {id : NodeId}
    {levels : Nat} (inside : id < doc.size) (enough : id < levels) :
    doc.keyNodeTextWithin? levels id = some (doc.keyNodeText id) :=
  keyNodeTextWithin?_of_textAt? inside (wellFormed.textAt?_eq inside enough)

theorem Evaluation.descend?_eq_of_lt (wellFormed : doc.WellFormed) (inside : t.Inside doc id) :
    ∃ (t' : Trail) (below : List ElementId), ∀ (error : EvaluationError) (budget : Nat),
      (t.get id).node < budget → descend? doc error budget id t = some (t', .ok below) := by
  have least := descend?_reads wellFormed (.depthExceeded 0) ((t.get id).node + 1) inside
  obtain ⟨below, success⟩ := least.succeeds (Nat.lt_succ_self _)
  refine ⟨(descend doc (.depthExceeded 0) ((t.get id).node + 1) id t).1, below, ?_⟩
  intro error budget low
  rw [(descend?_reads wellFormed error budget inside).eq_some]
  exact congrArg some (descend_of_ok low (Prod.ext rfl success))

theorem Document.WellFormed.closed (wellFormed : doc.WellFormed) : doc.Closed :=
  closed_of_lt_size
    (fun id hid r hr => (wellFormed.refs_lt id r hr).trans hid) wellFormed.root_lt

/-- Whatever walks down from a node or up from an element ends, and all that it reads is there. The
ways to JSON, to YAML, to text and to a key take as many levels as the place of the node says. So
does the descent below an element, with one answer for all larger budgets; with a smaller one it
fails as it should. -/
structure Document.Readable (doc : Document) : Prop where
  toJson : ∀ id < doc.size, ∀ levels > id, doc.toJson? levels id = some (doc.toJson id)
  toYaml : ∀ id < doc.size, ∀ levels > id, doc.toYaml? levels id = some (doc.toYaml id)
  textAt : ∀ id < doc.size, ∀ levels > id, doc.textAt? levels id = some (doc.textAt id)
  keyNodeText : ∀ id < doc.size, ∀ levels > id,
    doc.keyNodeTextWithin? levels id = some (doc.keyNodeText id)
  descend : ∀ (t : Trail) (id : ElementId), t.Inside doc id →
    (∀ error budget, Evaluation.descend? doc error budget id t =
      some (Evaluation.descend doc error budget id t)) ∧
    ∃ t' below, ∀ error, ∀ budget > (t.get id).node,
      Evaluation.descend? doc error budget id t = some (t', .ok below)
  path : ∀ t : Trail, doc.Session t → ∀ id < t.size, t.path? doc id = some (t.path doc id)

theorem Document.WellFormed.readable (wellFormed : doc.WellFormed) : doc.Readable where
  toJson _ inside _ enough := wellFormed.toJson?_eq inside enough
  toYaml _ inside _ enough := wellFormed.toYaml?_eq inside enough
  textAt _ inside _ enough := wellFormed.textAt?_eq inside enough
  keyNodeText _ inside _ enough := wellFormed.keyNodeTextWithin?_eq inside enough
  descend t id inside := by
    refine ⟨fun error budget => ?_, Evaluation.descend?_eq_of_lt wellFormed inside⟩
    exact (Evaluation.descend?_reads wellFormed error budget inside).eq_some
  path t session id inside := by
    have walk := session.linked.segments?_eq wellFormed.closed inside (Nat.lt_succ_self id)
    rw [Trail.path?, walk]
    rfl

open Document (Growth)
open Document.Growth (Reached Step Steps)

/-- Every document begins as null and becomes what it is by putting in nodes that refer to places
given before and by setting the root to such a place. However it came to be, and however often nodes
are shared, all that a node refers to is in front of it, the root is in the arena, and later steps
change no node. So whatever walks down from a node or up from an element ends. -/
theorem growth_stays_readable :
    (∀ doc, Document.Begun doc → ∃ given, Reached ⟨doc, given⟩) ∧
      ∀ g, Reached g →
        g.doc.WellFormed ∧ (∀ id, g.Knows id ↔ id < g.doc.size) ∧
          (∀ later, Steps g later → g.doc.size ≤ later.doc.size ∧ g.doc.Kept later.doc) ∧
          g.doc.Readable := by
  refine ⟨fun doc begun => begun.reached, fun g reached => ?_⟩
  obtain ⟨wellFormed, knows_iff⟩ := reached.ordered
  exact ⟨wellFormed, knows_iff, fun later steps => steps.kept, wellFormed.readable⟩

def Document.Growth.shared : Growth :=
  (((start.insert (.bool true)).insert (.sequence [0, 1, 1])).insert
    (.genericMapping [(2, 2), (1, 2)])).setRoot 3

theorem growth_stays_readable_shared :
    Reached .shared ∧ Growth.shared.doc.WellFormed ∧
      Growth.shared.doc.textAt? 4 3 =
        some "\x7b\"[null,true,true]\":[null,true,true],\"true\":[null,true,true]\x7d" := by
  have reached : Reached .shared :=
    .tail (.tail (.tail (.single (.insert (.bool true) (by decide)))
      (.insert (.sequence [0, 1, 1]) (by decide)))
      (.insert (.genericMapping [(2, 2), (1, 2)]) (by decide))) (.setRoot 3 (by decide))
  obtain ⟨wellFormed, -, -, readable⟩ := growth_stays_readable.2 .shared reached
  refine ⟨reached, wellFormed, (readable.textAt 3 (by decide) 4 (by decide)).trans ?_⟩
  decide +kernel

end PathQuery
