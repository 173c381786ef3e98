import PathQuery.Evaluation
import Mathlib.Data.Fintype.Card
import Mathlib.Data.Fintype.EquivFin
import Mathlib.Logic.Relation

/-!
Positions of a document: the keys on the way from the root. A key leads to one
child at most, so a position has one node and one canonical path. In a document
without cycles there are finitely many positions below each.
-/
namespace PathQuery

/-- The keys that lead from the root of a document to a place in it. -/
abbrev Position := List Key

namespace Node

def keys : Node → List Key
  | .sequence items => (List.range items.length).map .index
  | .mapping entries => entries.map fun e => .name e.1
  | .genericMapping entries => entries.zipIdx.map fun e => .entry e.1.1 e.2
  | _ => []

def child? : Node → Key → Option NodeId
  | .sequence items, .index i => items[i]?
  | .mapping entries, .name name => (entries.find? fun e => e.1 = name).map Prod.snd
  | .genericMapping entries, .entry key i =>
    (entries[i]?.filter fun e => e.1 = key).map Prod.snd
  | _, _ => none

def NamesDistinct : Node → Prop
  | .mapping entries => (entries.map Prod.fst).Nodup
  | _ => True

instance (node : Node) : Decidable node.NamesDistinct := by
  unfold NamesDistinct
  split <;> infer_instance

theorem keys_eq (node : Node) : node.keys = node.children.map Prod.fst := by
  cases node with
  | sequence items =>
    simp only [keys, children, List.map_map, List.range_eq_range', ← List.zipIdx_map_snd]
    rfl
  | mapping entries => simp [keys, children]
  | genericMapping entries => simp [keys, children]
  | _ => rfl

theorem find?_of_nodup {entries : List (String × NodeId)} (h : (entries.map Prod.fst).Nodup)
    {e : String × NodeId} (he : e ∈ entries) : (entries.find? fun x => x.1 = e.1) = some e := by
  induction entries with
  | nil => cases he
  | cons x rest ih =>
    rw [List.map_cons, List.nodup_cons] at h
    rcases List.mem_cons.mp he with rfl | he
    · simp
    · have hne : x.1 ≠ e.1 := fun hx => h.1 (hx ▸ List.mem_map_of_mem he)
      rw [List.find?_cons_of_neg (by simpa using hne)]
      exact ih h.2 he

theorem child?_of_mem_children {node : Node} (h : node.NamesDistinct) {key : Key} {id : NodeId}
    (hc : (key, id) ∈ node.children) : node.child? key = some id := by
  cases node with
  | sequence items =>
    obtain ⟨⟨item, i⟩, hi, heq⟩ := List.mem_map.mp hc
    cases heq
    exact List.mem_zipIdx_iff_getElem?.mp hi
  | mapping entries =>
    obtain ⟨e, he, heq⟩ := List.mem_map.mp hc
    cases heq
    simp [child?, find?_of_nodup h he]
  | genericMapping entries =>
    obtain ⟨⟨e, i⟩, hi, heq⟩ := List.mem_map.mp hc
    cases heq
    have hi : entries[i]? = some e := List.mem_zipIdx_iff_getElem?.mp hi
    simp [child?, hi, Option.filter]
  | _ => cases hc

theorem mem_refs_of_child? {node : Node} {key : Key} {id : NodeId}
    (h : node.child? key = some id) : id ∈ node.refs := by
  unfold child? at h
  split at h
  · exact List.mem_of_getElem? h
  · obtain ⟨e, he, rfl⟩ := Option.map_eq_some_iff.mp h
    exact List.mem_map_of_mem (List.mem_of_find?_eq_some he)
  · obtain ⟨e, he, rfl⟩ := Option.map_eq_some_iff.mp h
    have hmem := List.mem_of_getElem? (Option.filter_eq_some_iff.mp he).1
    exact List.mem_flatMap.mpr ⟨e, hmem, by simp⟩
  · cases h

theorem exists_child?_of_mem_keys {node : Node} {key : Key} (h : key ∈ node.keys) :
    ∃ id, node.child? key = some id := by
  cases node with
  | sequence items =>
    obtain ⟨i, hi, rfl⟩ := List.mem_map.mp h
    exact ⟨_, List.getElem?_eq_getElem (List.mem_range.mp hi)⟩
  | mapping entries =>
    obtain ⟨e, he, rfl⟩ := List.mem_map.mp h
    have hfind : (entries.find? fun x => x.1 = e.1).isSome :=
      List.find?_isSome.mpr ⟨e, he, by simp⟩
    obtain ⟨x, hx⟩ := Option.isSome_iff_exists.mp hfind
    exact ⟨x.2, by simp [child?, hx]⟩
  | genericMapping entries =>
    obtain ⟨⟨e, i⟩, hi, rfl⟩ := List.mem_map.mp h
    have hi : entries[i]? = some e := List.mem_zipIdx_iff_getElem?.mp hi
    exact ⟨e.2, by simp [child?, hi, Option.filter]⟩
  | _ => cases h

theorem mem_keys_of_child? {node : Node} {key : Key} {id : NodeId}
    (h : node.child? key = some id) : key ∈ node.keys := by
  unfold child? at h
  split at h
  · obtain ⟨hi, -⟩ := List.getElem?_eq_some_iff.mp h
    exact List.mem_map.mpr ⟨_, List.mem_range.mpr hi, rfl⟩
  · obtain ⟨e, he, -⟩ := Option.map_eq_some_iff.mp h
    have hname := List.find?_some he
    refine List.mem_map.mpr ⟨e, List.mem_of_find?_eq_some he, ?_⟩
    simpa using hname
  · obtain ⟨e, he, -⟩ := Option.map_eq_some_iff.mp h
    obtain ⟨hi, hkey⟩ := Option.filter_eq_some_iff.mp he
    refine List.mem_map.mpr ⟨(e, _), List.mem_zipIdx_iff_getElem?.mpr hi, ?_⟩
    simpa using hkey
  · cases h

end Node

namespace Document

def NamesDistinct (doc : Document) : Prop := ∀ id, (doc.get id).NamesDistinct

theorem get_of_size_le {doc : Document} {id : NodeId} (h : doc.size ≤ id) :
    doc.get id = .null := by
  rw [get, Array.getElem?_eq_none h, Option.getD_none]

theorem getElem?_of_lt {doc : Document} {id : NodeId} (h : id < doc.size) :
    doc.nodes[id]? = some (doc.get id) := by
  have hget : doc.nodes[id]? = some doc.nodes[id] := Array.getElem?_eq_getElem h
  rw [get, hget, Option.getD_some]

theorem wellFormed_of_lt_size {doc : Document}
    (h : ∀ id < doc.size, ∀ r ∈ (doc.get id).refs, r < id) (hroot : doc.root < doc.size) :
    doc.WellFormed where
  refs_lt id := by
    by_cases hid : id < doc.size
    · exact h id hid
    · rw [get_of_size_le (Nat.le_of_not_lt hid)]
      exact nofun
  root_lt := hroot

theorem namesDistinct_of_lt_size {doc : Document}
    (h : ∀ id < doc.size, (doc.get id).NamesDistinct) : doc.NamesDistinct := by
  intro id
  by_cases hid : id < doc.size
  · exact h id hid
  · rw [get_of_size_le (Nat.le_of_not_lt hid)]
    trivial

def nodeFrom? (doc : Document) : NodeId → Position → Option NodeId
  | id, [] => some id
  | id, key :: rest => ((doc.get id).child? key).bind fun child => nodeFrom? doc child rest

def nodeAt? (doc : Document) (p : Position) : Option NodeId := doc.nodeFrom? doc.root p

def valueAt (doc : Document) (p : Position) : Node := ((doc.nodeAt? p).map doc.get).getD .null

def keysAt (doc : Document) (p : Position) : List Key := (doc.valueAt p).keys

/-- The positions one step below a position, in the order of its container. -/
def childrenAt (doc : Document) (p : Position) : List Position :=
  (doc.keysAt p).map fun key => p ++ [key]

def segmentsFrom (doc : Document) : NodeId → Position → List String
  | _, [] => []
  | id, key :: rest =>
    doc.segment (doc.get id) key ::
      (((doc.get id).child? key).map fun child => segmentsFrom doc child rest).getD []

def pathAt (doc : Document) (p : Position) : String :=
  ".".intercalate (doc.segmentsFrom doc.root p)

theorem nodeFrom?_append (doc : Document) (id : NodeId) (p q : Position) :
    doc.nodeFrom? id (p ++ q) = (doc.nodeFrom? id p).bind fun n => doc.nodeFrom? n q := by
  induction p generalizing id with
  | nil => rfl
  | cons key p ih =>
    simp only [List.cons_append, nodeFrom?, Option.bind_assoc]
    congr 1
    funext child
    exact ih child

theorem nodeAt?_snoc {doc : Document} {p : Position} {id : NodeId} (h : doc.nodeAt? p = some id)
    (key : Key) : doc.nodeAt? (p ++ [key]) = (doc.get id).child? key := by
  unfold nodeAt? at h ⊢
  rw [nodeFrom?_append, h, Option.bind_some]
  simp [nodeFrom?]

theorem valueAt_eq {doc : Document} {p : Position} {id : NodeId} (h : doc.nodeAt? p = some id) :
    doc.valueAt p = doc.get id := by simp [valueAt, h]

theorem segmentsFrom_append {doc : Document} {id child : NodeId} {p : Position}
    (h : doc.nodeFrom? id p = some child) (q : Position) :
    doc.segmentsFrom id (p ++ q) = doc.segmentsFrom id p ++ doc.segmentsFrom child q := by
  induction p generalizing id with
  | nil => cases h; rfl
  | cons key p ih =>
    obtain ⟨next, hnext, h⟩ := Option.bind_eq_some_iff.mp h
    simp only [List.cons_append, segmentsFrom, hnext, Option.map_some, Option.getD_some, ih h]

/-- One node has another one among its children or its keys. -/
def Refers (doc : Document) (parent child : NodeId) : Prop := child ∈ (doc.get parent).refs

/-- No node is below itself. -/
def Acyclic (doc : Document) : Prop := ∀ id, ¬ Relation.TransGen doc.Refers id id

theorem WellFormed.acyclic {doc : Document} (h : doc.WellFormed) : doc.Acyclic := by
  intro id hid
  have down {a b : NodeId} (hab : Relation.TransGen doc.Refers a b) : b < a := by
    induction hab with
    | single hr => exact h.refs_lt _ _ hr
    | tail _ hr ih => exact (h.refs_lt _ _ hr).trans ih
  exact Nat.lt_irrefl _ (down hid)

theorem not_refers_of_size_le {doc : Document} {parent child : NodeId} (h : doc.size ≤ parent) :
    ¬ doc.Refers parent child := by
  unfold Refers
  rw [get_of_size_le h]
  exact List.not_mem_nil

/-- The arena is finite, so without cycles every walk down the references ends. -/
theorem Acyclic.wellFounded {doc : Document} (h : doc.Acyclic) :
    WellFounded fun child parent => doc.Refers parent child := by
  let below (a b : Fin doc.size) : Prop := Relation.TransGen doc.Refers b.val a.val
  have trans : IsTrans (Fin doc.size) below := ⟨fun _ _ _ hab hbc => hbc.trans hab⟩
  have irrefl : Std.Irrefl below := ⟨fun a => h a.val⟩
  have wf : WellFounded below := Finite.wellFounded_of_trans_of_irrefl below
  have outside (id : NodeId) (hid : doc.size ≤ id) :
      Acc (fun child parent => doc.Refers parent child) id :=
    ⟨_, fun _ hr => absurd hr (not_refers_of_size_le hid)⟩
  have inside (i : Fin doc.size) : Acc (fun child parent => doc.Refers parent child) i.val := by
    induction i using wf.induction with
    | _ i ih =>
      refine ⟨_, fun child hr => ?_⟩
      by_cases hc : child < doc.size
      · exact ih ⟨child, hc⟩ (.single hr)
      · exact outside child (Nat.le_of_not_lt hc)
  refine ⟨fun id => ?_⟩
  by_cases hid : id < doc.size
  · exact inside ⟨id, hid⟩
  · exact outside id (Nat.le_of_not_lt hid)

theorem exists_of_mem_childrenAt {doc : Document} {p q : Position} (h : q ∈ doc.childrenAt p) :
    ∃ key id child, q = p ++ [key] ∧ doc.nodeAt? p = some id ∧
      (doc.get id).child? key = some child := by
  obtain ⟨key, hkey, rfl⟩ := List.mem_map.mp h
  unfold keysAt valueAt at hkey
  cases hp : doc.nodeAt? p with
  | none => rw [hp] at hkey; cases hkey
  | some id =>
    rw [hp] at hkey
    obtain ⟨child, hchild⟩ := Node.exists_child?_of_mem_keys hkey
    exact ⟨key, id, child, rfl, rfl, hchild⟩

theorem Acyclic.wellFounded_childrenAt {doc : Document} (h : doc.Acyclic) :
    WellFounded fun q p => q ∈ doc.childrenAt p := by
  have at_node (id : NodeId) :
      ∀ p, doc.nodeAt? p = some id → Acc (fun q p => q ∈ doc.childrenAt p) p := by
    induction id using h.wellFounded.induction with
    | _ id ih =>
      refine fun p hp => ⟨_, fun q hq => ?_⟩
      obtain ⟨key, id', child, rfl, hp', hchild⟩ := exists_of_mem_childrenAt hq
      cases hp.symm.trans hp'
      refine ih child (Node.mem_refs_of_child? hchild) _ ?_
      rw [nodeAt?_snoc hp, hchild]
  refine ⟨fun p => ⟨_, fun q hq => ?_⟩⟩
  obtain ⟨key, id, child, rfl, hp, hchild⟩ := exists_of_mem_childrenAt hq
  exact at_node child _ (by rw [nodeAt?_snoc hp, hchild])

end Document

end PathQuery
