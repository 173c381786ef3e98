import PathQuery.Proofs.Document.Position

/-!
What the elements of a trail stand for. An element stands for a position when
its links lead back to the root along the keys of the position. Elements are
only added, so an element stands for the same position for ever, and its node,
its keys and its canonical path are those of the position.
-/
namespace PathQuery.Trail

variable {doc : Document} {t t' t'' : Trail} {id : ElementId} {p : Position}

/-- The keys on the way to an element, read through the links to parents. -/
def position (t : Trail) (id : ElementId) : Position :=
  match (t.get id).origin with
  | none => []
  | some (parent, key) => (if _ : parent < id then position t parent else []) ++ [key]
termination_by id

/-- An element is linked to the root along the keys of a position. -/
inductive StandsFor (doc : Document) (t : Trail) : ElementId → Position → Prop
  | root {id : ElementId} (h : t.elements[id]? = some ⟨doc.root, none⟩) : StandsFor doc t id []
  | child {id parent : ElementId} {p : Position} {key : Key} {node : NodeId}
      (hp : StandsFor doc t parent p) (lt : parent < id)
      (h : t.elements[id]? = some ⟨node, some (parent, key)⟩)
      (hn : doc.nodeAt? (p ++ [key]) = some node) : StandsFor doc t id (p ++ [key])

def Kept (t t' : Trail) : Prop :=
  ∀ (id : ElementId) (e : Element), t.elements[id]? = some e → t'.elements[id]? = some e

/-- A trail keeps what it was, and all that is added stands for a position. -/
structure Grows (doc : Document) (t t' : Trail) : Prop where
  kept : t.Kept t'
  added : ∀ id, t.size ≤ id → id < t'.size → ∃ p, t'.StandsFor doc id p

theorem get_eq {e : Element} (h : t.elements[id]? = some e) : t.get id = e := by
  simp [get, h]

theorem getElem?_of_lt (hid : id < t.size) : t.elements[id]? = some (t.get id) := by
  have he := Array.getElem?_eq_getElem hid
  rw [he, get_eq he]

theorem Kept.refl (t : Trail) : t.Kept t := fun _ _ he => he

theorem Kept.trans (h : t.Kept t') (h' : t'.Kept t'') : t.Kept t'' :=
  fun id e he => h' id e (h id e he)

theorem Kept.get_eq (h : t.Kept t') (hid : id < t.size) : t'.get id = t.get id :=
  Trail.get_eq (h id _ (getElem?_of_lt hid))

theorem Kept.lt_size (h : t.Kept t') (hid : id < t.size) : id < t'.size := by
  have he := h id _ (getElem?_of_lt hid)
  exact (Array.getElem?_eq_some_iff.mp he).choose

theorem StandsFor.lt_size (h : t.StandsFor doc id p) : id < t.size := by
  cases h with
  | root h => exact (Array.getElem?_eq_some_iff.mp h).choose
  | child _ _ h _ => exact (Array.getElem?_eq_some_iff.mp h).choose

theorem StandsFor.kept (h : t.StandsFor doc id p) (ht : t.Kept t') : t'.StandsFor doc id p := by
  induction h with
  | root h => exact .root (ht _ _ h)
  | child _ lt h hn ih => exact .child ih lt (ht _ _ h) hn

theorem StandsFor.nodeAt? (h : t.StandsFor doc id p) :
    doc.nodeAt? p = some (t.get id).node := by
  cases h with
  | root h => rw [get_eq h]; rfl
  | child _ _ h hn => rw [hn, get_eq h]

theorem StandsFor.valueAt (h : t.StandsFor doc id p) :
    doc.valueAt p = doc.get (t.get id).node := Document.valueAt_eq h.nodeAt?

theorem StandsFor.position_eq (h : t.StandsFor doc id p) : t.position id = p := by
  induction h with
  | root h => rw [position, get_eq h]
  | child _ lt h _ ih =>
    rw [position, get_eq h]
    simp only [lt, ↓reduceDIte, ih]

theorem StandsFor.segments_eq (h : t.StandsFor doc id p) :
    t.segments doc id = doc.segmentsFrom doc.root p := by
  induction h with
  | root h => rw [segments, get_eq h]; rfl
  | child hp lt h hn ih =>
    rw [segments, get_eq h, Document.segmentsFrom_append hp.nodeAt?]
    simp only [lt, ↓reduceDIte, ih]
    rw [Document.nodeAt?_snoc hp.nodeAt?] at hn
    simp only [Document.segmentsFrom, hn, Option.map_some, Option.getD_some]

theorem StandsFor.path_eq (h : t.StandsFor doc id p) : t.path doc id = doc.pathAt p := by
  rw [path, h.segments_eq, Document.pathAt]

theorem StandsFor.parent (h : t.StandsFor doc id p) :
    List.Forall₂ (t.StandsFor doc) (t.get id).parent?.toList (if p = [] then [] else [p.dropLast]) := by
  cases h with
  | root h => rw [get_eq h]; exact .nil
  | child hp _ h _ =>
    rw [get_eq h, if_neg (List.append_ne_nil_of_right_ne_nil _ (List.cons_ne_nil _ _)),
      List.dropLast_concat]
    exact .cons hp .nil

theorem forall₂_kept {ids : List ElementId} {ps : List Position}
    (h : List.Forall₂ (t.StandsFor doc) ids ps) (ht : t.Grows doc t') :
    List.Forall₂ (t'.StandsFor doc) ids ps := h.imp fun _ _ hs => hs.kept ht.kept

theorem Grows.refl (doc : Document) (t : Trail) : t.Grows doc t :=
  ⟨fun _ _ h => h, fun _ hle hlt => absurd hlt (Nat.not_lt.mpr hle)⟩

theorem Grows.trans (h : t.Grows doc t') (h' : t'.Grows doc t'') : t.Grows doc t'' where
  kept id e he := h'.kept id e (h.kept id e he)
  added id hle hlt := by
    by_cases hid : id < t'.size
    · obtain ⟨p, hp⟩ := h.added id hle hid
      exact ⟨p, hp.kept h'.kept⟩
    · exact h'.added id (Nat.le_of_not_lt hid) hlt

theorem getElem?_push_of_some {e x : Element} (h : t.elements[id]? = some e) :
    (t.push x).elements[id]? = some e := by
  obtain ⟨hlt, -⟩ := Array.getElem?_eq_some_iff.mp h
  simp only [push, Array.getElem?_push_lt hlt]
  rwa [← Array.getElem?_eq_getElem hlt]

theorem getElem?_push_size (t : Trail) (x : Element) :
    (t.push x).elements[t.size]? = some x := Array.getElem?_push_size

theorem kept_push (t : Trail) (x : Element) : t.Kept (t.push x) :=
  fun _ _ he => getElem?_push_of_some he

theorem grows_push {x : Element} (h : (t.push x).StandsFor doc t.size p) :
    t.Grows doc (t.push x) where
  kept := kept_push t x
  added id hle hlt := by
    have hsize : (t.push x).size = t.size + 1 := Array.size_push x
    obtain rfl : id = t.size := by omega
    exact ⟨p, h⟩

theorem kept_pushChildren (t : Trail) (id : ElementId) (children : List (Key × NodeId)) :
    t.Kept (t.pushChildren id children).1 := by
  induction children generalizing t with
  | nil => exact Kept.refl t
  | cons c rest ih => exact (kept_push t _).trans (ih _)

theorem map_get_pushChildren (t : Trail) (id : ElementId) (children : List (Key × NodeId)) :
    (t.pushChildren id children).2.map (t.pushChildren id children).1.get =
      children.map fun c => ⟨c.2, some (id, c.1)⟩ := by
  induction children generalizing t with
  | nil => rfl
  | cons c rest ih =>
    have new := getElem?_push_size t ⟨c.2, some (id, c.1)⟩
    have later := kept_pushChildren (t.pushChild id c.1 c.2).1 id rest
    exact congrArg₂ List.cons (get_eq (later t.size _ new)) (ih _)

theorem pushRoot_spec (doc : Document) (t : Trail) :
    t.Grows doc (t.pushRoot doc.root).1 ∧
      (t.pushRoot doc.root).1.StandsFor doc (t.pushRoot doc.root).2 [] := by
  have h : (t.push ⟨doc.root, none⟩).StandsFor doc t.size [] := .root (getElem?_push_size t _)
  exact ⟨grows_push h, h⟩

theorem pushChild_spec {key : Key} {node : NodeId} (h : t.StandsFor doc id p)
    (hn : doc.nodeAt? (p ++ [key]) = some node) :
    t.Grows doc (t.pushChild id key node).1 ∧
      (t.pushChild id key node).1.StandsFor doc (t.pushChild id key node).2 (p ++ [key]) := by
  have hold := h.kept (kept_push t ⟨node, some (id, key)⟩)
  have hnew := StandsFor.child hold h.lt_size (getElem?_push_size t _) hn
  exact ⟨grows_push hnew, hnew⟩

theorem pushChildren_spec (h : t.StandsFor doc id p) {children : List (Key × NodeId)}
    (hc : ∀ c ∈ children, doc.nodeAt? (p ++ [c.1]) = some c.2) :
    t.Grows doc (t.pushChildren id children).1 ∧
      List.Forall₂ ((t.pushChildren id children).1.StandsFor doc) (t.pushChildren id children).2
        (children.map fun c => p ++ [c.1]) := by
  induction children generalizing t with
  | nil => exact ⟨Grows.refl doc t, .nil⟩
  | cons c rest ih =>
    obtain ⟨hgrow, hnew⟩ := pushChild_spec h (hc c List.mem_cons_self)
    obtain ⟨hgrows, hrest⟩ := ih (h.kept hgrow.kept) fun c hmem => hc c (List.mem_cons_of_mem _ hmem)
    exact ⟨hgrow.trans hgrows, .cons (hnew.kept hgrows.kept) hrest⟩

end PathQuery.Trail
