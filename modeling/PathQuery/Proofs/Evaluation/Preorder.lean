import PathQuery.Proofs.Evaluation.Depth

/-!
The walk down from an element. It visits the positions that extend the position
of the element, each once, in the lexicographic order of the places of their keys,
so every position comes before those below it. Every element found is linked to
the element found for the position one step up.
-/
namespace PathQuery

variable {doc : Document} {t t' : Trail} {id : ElementId} {p q : Position}

namespace Node

theorem nodup_keys {node : Node} (h : node.NamesDistinct) : node.keys.Nodup := by
  cases node with
  | sequence items => exact List.nodup_range.map fun _ _ same => Key.index.inj same
  | mapping entries =>
    have names : (entries.map Prod.fst).Nodup := h
    have keys := names.map (f := Key.name) fun _ _ same => Key.name.inj same
    rwa [List.map_map] at keys
  | genericMapping entries =>
    refine List.pairwise_iff_getElem.mpr fun i j hi hj hij same => ?_
    simp only [keys, List.getElem_map, List.getElem_zipIdx, Key.entry.injEq] at same
    omega
  | _ => exact List.nodup_nil

theorem pairwise_idxOf_keys {node : Node} (h : node.NamesDistinct) :
    node.keys.Pairwise fun a b => node.keys.idxOf a < node.keys.idxOf b := by
  refine List.pairwise_iff_getElem.mpr fun i j hi hj hij => ?_
  rwa [(nodup_keys h).idxOf_getElem, (nodup_keys h).idxOf_getElem]

end Node

namespace Document

/-- The places of keys among those of their containers, on the way down from a node. -/
def placesFrom (doc : Document) : NodeId → Position → List Nat
  | _, [] => []
  | id, key :: rest =>
    (doc.get id).keys.idxOf key ::
      (((doc.get id).child? key).map fun child => placesFrom doc child rest).getD []

def placesAt (doc : Document) (p : Position) : List Nat := doc.placesFrom doc.root p

theorem placesFrom_append {id child : NodeId} (h : doc.nodeFrom? id p = some child)
    (q : Position) : doc.placesFrom id (p ++ q) = doc.placesFrom id p ++ doc.placesFrom child q := by
  induction p generalizing id with
  | nil => cases h; rfl
  | cons key p ih =>
    obtain ⟨next, hnext, h⟩ := Option.bind_eq_some_iff.mp h
    simp only [List.cons_append, placesFrom, hnext, Option.map_some, Option.getD_some, ih h]

theorem placesAt_append {node : NodeId} (h : doc.nodeAt? p = some node) (q : Position) :
    doc.placesAt (p ++ q) = doc.placesAt p ++ doc.placesFrom node q := placesFrom_append h q

theorem placesAt_lt_below {node : NodeId} (h : doc.nodeAt? p = some node) (key : Key)
    (q : Position) : doc.placesAt p < doc.placesAt (p ++ key :: q) := by
  rw [placesAt_append h]
  conv_lhs => rw [← List.append_nil (doc.placesAt p)]
  exact List.append_left_lt (List.nil_lt_cons _ _)

theorem placesAt_lt_beside {node : NodeId} (h : doc.nodeAt? p = some node) {a b : Key}
    (hlt : (doc.get node).keys.idxOf a < (doc.get node).keys.idxOf b) (q r : Position) :
    doc.placesAt (p ++ a :: q) < doc.placesAt (p ++ b :: r) := by
  rw [placesAt_append h, placesAt_append h]
  exact List.append_left_lt (List.cons_lt_cons_iff.mpr (.inl hlt))

theorem valueAt_namesDistinct (distinct : doc.NamesDistinct) (p : Position) :
    (doc.valueAt p).NamesDistinct := by
  unfold valueAt
  cases doc.nodeAt? p with
  | none => trivial
  | some node => exact distinct node

theorem isSome_of_mem_childrenAt (h : q ∈ doc.childrenAt p) : (doc.nodeAt? q).isSome := by
  obtain ⟨key, id, child, rfl, hp, hchild⟩ := exists_of_mem_childrenAt h
  rw [nodeAt?_snoc hp, hchild]
  rfl

theorem prefix_of_mem_subtree (acyclic : doc.Acyclic) (h : q ∈ doc.subtree acyclic p) :
    p <+: q := by
  induction p using acyclic.wellFounded_childrenAt.induction with
  | _ p ih =>
    rw [subtree_eq] at h
    rcases List.mem_cons.mp h with rfl | h
    · exact List.prefix_rfl
    · obtain ⟨c, hc, hq⟩ := List.mem_flatMap.mp h
      obtain ⟨key, -, rfl⟩ := List.mem_map.mp hc
      exact (List.prefix_append p [key]).trans (ih _ hc hq)

theorem mem_subtree_iff (acyclic : doc.Acyclic) (hp : (doc.nodeAt? p).isSome) :
    q ∈ doc.subtree acyclic p ↔ p <+: q ∧ (doc.nodeAt? q).isSome := by
  induction p using acyclic.wellFounded_childrenAt.induction with
  | _ p ih =>
    have below (c : Position) (hc : c ∈ doc.childrenAt p) :
        q ∈ doc.subtree acyclic c ↔ c <+: q ∧ (doc.nodeAt? q).isSome :=
      ih c hc (isSome_of_mem_childrenAt hc)
    -- The induction runs from a position to its children, and the first key behind `p` tells the
    -- child.
    constructor
    · intro h
      refine ⟨prefix_of_mem_subtree acyclic h, ?_⟩
      rw [subtree_eq] at h
      rcases List.mem_cons.mp h with rfl | h
      · exact hp
      · obtain ⟨c, hc, hq⟩ := List.mem_flatMap.mp h
        exact ((below c hc).mp hq).2
    · rintro ⟨⟨r, rfl⟩, hq⟩
      rw [subtree_eq]
      cases r with
      | nil => simp
      | cons key r =>
        have hc := mem_childrenAt_of_isSome hq
        refine List.mem_cons_of_mem _ (List.mem_flatMap.mpr ⟨_, hc, (below _ hc).mpr ⟨?_, hq⟩⟩)
        exact ⟨r, by simp⟩

theorem pairwise_subtree (distinct : doc.NamesDistinct) (acyclic : doc.Acyclic) (p : Position) :
    (doc.subtree acyclic p).Pairwise fun q r => doc.placesAt q < doc.placesAt r := by
  induction p using acyclic.wellFounded_childrenAt.induction with
  | _ p ih =>
    rw [subtree_eq]
    refine .cons (fun q hq => ?_) (List.pairwise_flatMap.mpr ⟨ih, ?_⟩)
    · obtain ⟨c, hc, hq⟩ := List.mem_flatMap.mp hq
      obtain ⟨key, node, child, rfl, hp, -⟩ := exists_of_mem_childrenAt hc
      obtain ⟨r, rfl⟩ := prefix_of_mem_subtree acyclic hq
      rw [List.append_assoc]
      exact placesAt_lt_below hp key r
    · refine List.pairwise_map.mpr ?_
      have inOrder := Node.pairwise_idxOf_keys (valueAt_namesDistinct distinct p)
      refine inOrder.imp_of_mem fun {a b} ha _ hlt q hq r hr => ?_
      obtain ⟨-, node, -, -, hp, -⟩ := exists_of_mem_childrenAt (List.mem_map_of_mem ha)
      obtain ⟨q, rfl⟩ := prefix_of_mem_subtree acyclic hq
      obtain ⟨r, rfl⟩ := prefix_of_mem_subtree acyclic hr
      rw [valueAt_eq hp] at hlt
      simp only [List.append_assoc, List.singleton_append]
      exact placesAt_lt_beside hp hlt q r

theorem nodup_subtree (distinct : doc.NamesDistinct) (acyclic : doc.Acyclic) (p : Position) :
    (doc.subtree acyclic p).Nodup := by
  refine (pairwise_subtree distinct acyclic p).imp fun hlt => ?_
  rintro rfl
  exact List.lt_irrefl _ hlt

end Document

namespace Trail

def IsChild (t : Trail) (child parent : ElementId) : Prop :=
  ∃ node key, t.elements[child]? = some ⟨node, some (parent, key)⟩

theorem IsChild.kept {child parent : ElementId} (h : t.IsChild child parent) (ht : t.Kept t') :
    t'.IsChild child parent := by
  obtain ⟨node, key, he⟩ := h
  exact ⟨node, key, ht _ _ he⟩

theorem IsChild.parent?_eq {child parent : ElementId} (h : t.IsChild child parent) :
    (t.get child).parent? = some parent := by
  obtain ⟨node, key, he⟩ := h
  rw [get_eq he]
  rfl

theorem isChild_pushChildren (t : Trail) (id : ElementId) (children : List (Key × NodeId)) :
    ∀ x ∈ (t.pushChildren id children).2, (t.pushChildren id children).1.IsChild x id := by
  induction children generalizing t with
  | nil => exact fun _ hx => nomatch hx
  | cons c rest ih =>
    intro x hx
    rcases List.mem_cons.mp hx with rfl | hx
    · have new : (t.push ⟨c.2, some (id, c.1)⟩).IsChild t.size id :=
        ⟨c.2, c.1, getElem?_push_size t _⟩
      exact new.kept (kept_pushChildren _ id rest)
    · exact ih _ x hx

end Trail

namespace Walk

variable {starts : List ElementId} {w : Walk}

/-- A walk keeps the trail, and what it finds are starts and children of what it finds. -/
structure Grafts (t : Trail) (starts : List ElementId) (w : Walk) : Prop where
  kept : t.Kept w.1
  grafted : ∀ ids, w.2 = .ok ids → ∀ x ∈ ids, x ∈ starts ∨ ∃ y ∈ ids, w.1.IsChild x y

theorem each_grafts {walk : ElementId → Trail → Walk}
    (hw : ∀ (id : ElementId) (t : Trail), Grafts t [id] (walk id t)) (ids : List ElementId)
    (t : Trail) : Grafts t ids (Walk.each walk ids t) := by
  induction ids generalizing t with
  | nil => exact ⟨Trail.Kept.refl t, by rintro _ ⟨⟩ x hx; cases hx⟩
  | cons id ids ih =>
    have hfirst := hw id t
    unfold Walk.each
    split
    · next s e heq => exact ⟨heq ▸ hfirst.kept, nofun⟩
    · next s first heq =>
      have hrest := ih s
      rw [heq] at hfirst
      split
      · next s' e heq' => exact ⟨hfirst.kept.trans (heq' ▸ hrest.kept), nofun⟩
      · next s' more heq' =>
        rw [heq'] at hrest
        refine ⟨hfirst.kept.trans hrest.kept, ?_⟩
        rintro _ ⟨⟩ x hx
        rcases List.mem_append.mp hx with hx | hx
        · rcases hfirst.grafted first rfl x hx with hstart | ⟨y, hy, hchild⟩
          · exact .inl (List.mem_singleton.mp hstart ▸ List.mem_cons_self)
          · exact .inr ⟨y, List.mem_append_left _ hy, hchild.kept hrest.kept⟩
        · rcases hrest.grafted more rfl x hx with hstart | ⟨y, hy, hchild⟩
          · exact .inl (List.mem_cons_of_mem _ hstart)
          · exact .inr ⟨y, List.mem_append_right _ hy, hchild⟩

end Walk

namespace Evaluation

theorem descend_grafts (doc : Document) (error : EvaluationError) (budget : Nat) (id : ElementId)
    (t : Trail) : Walk.Grafts t [id] (descend doc error budget id t) := by
  induction budget generalizing id t with
  | zero => exact ⟨Trail.Kept.refl t, fun _ h => by cases h⟩
  | succ budget ih =>
    let children := (doc.get (t.get id).node).children
    have pushed := Trail.kept_pushChildren t id children
    have below := Walk.each_grafts ih (t.pushChildren id children).2 (t.pushChildren id children).1
    simp only [descend]
    split
    · next s e heq => exact ⟨pushed.trans (heq ▸ below.kept), fun _ h => by cases h⟩
    · next s found heq =>
      rw [heq] at below
      refine ⟨pushed.trans below.kept, ?_⟩
      rintro _ ⟨⟩ x hx
      rcases List.mem_cons.mp hx with rfl | hx
      · exact .inl (List.mem_singleton_self _)
      · rcases below.grafted found rfl x hx with hstart | ⟨y, hy, hchild⟩
        · have here := Trail.isChild_pushChildren t id children x hstart
          exact .inr ⟨id, List.mem_cons_self, here.kept below.kept⟩
        · exact .inr ⟨y, List.mem_cons_of_mem _ hy, hchild⟩

theorem head?_of_descend {error : EvaluationError} {budget : Nat} {ids : List ElementId}
    (h : descend doc error budget id t = (t', .ok ids)) : ids.head? = some id := by
  cases budget with
  | zero => cases h
  | succ budget =>
    simp only [descend] at h
    split at h
    · cases h
    · cases h
      rfl

end Evaluation

theorem Trail.IsChild.position_eq {child parent : ElementId} (h : t.IsChild child parent)
    (hc : t.StandsFor doc child p) : t.position parent = p.dropLast := by
  have up := hc.parent
  rw [h.parent?_eq] at up
  split at up
  · cases up
  · cases up with
    | cons hparent _ => exact hparent.position_eq

/-- With levels enough, descending from an element finds one element for each position that extends
its position, in the lexicographic order of the places of the keys, so none comes after one below it.
Each is linked to the one found for the position one step up, but the element itself keeps its own
link. -/
theorem descendants_in_preorder (doc : Document) (acyclic : doc.Acyclic)
    (distinct : doc.NamesDistinct) (error : EvaluationError) (budget : Nat) (t : Trail)
    (e : ElementId) (p : Position) (he : t.StandsFor doc e p)
    (enough : ∀ q, (doc.nodeAt? (p ++ q)).isSome → q.length < budget) :
    ∃ t' ids, Evaluation.select doc error budget e .descendants t = (t', .ok ids) ∧
      (∀ q, q ∈ ids.map t'.position ↔ p <+: q ∧ (doc.nodeAt? q).isSome) ∧
      (ids.map t'.position).Nodup ∧
      (ids.map t'.position).Pairwise (fun q r => doc.placesAt q < doc.placesAt r ∧ ¬ r <+: q) ∧
      (∀ x ∈ ids, doc.nodeAt? (t'.position x) = some (t'.get x).node) ∧
      ids.head? = some e ∧ t'.get e = t.get e ∧
      ∀ x ∈ ids, x ≠ e →
        ∃ y ∈ ids, (t'.get x).parent? = some y ∧ t'.position y = (t'.position x).dropLast := by
  have shallow : ¬ doc.DeepBelow budget p := fun ⟨q, hq, hle⟩ =>
    absurd (enough q hq) (Nat.not_lt.mpr hle)
  have walks := Evaluation.descend_failsIff distinct acyclic error budget he
  have finds := Evaluation.descend_finds distinct acyclic error budget he
  have grafts := Evaluation.descend_grafts doc error budget e t
  obtain ⟨ids, hids⟩ := walks.succeeds shallow
  cases hw : Evaluation.descend doc error budget e t with
  | mk t' result =>
    rw [hw] at hids finds grafts
    obtain rfl : result = .ok ids := hids
    obtain ⟨-, found⟩ := Walk.finds_ok.mp finds
    have positions := map_position_of_standsFor found
    have inside : (doc.nodeAt? p).isSome := by simp [he.nodeAt?]
    have ordered := Document.pairwise_subtree distinct acyclic p
    have covers (q : Position) := Document.mem_subtree_iff (q := q) acyclic inside
    refine ⟨t', ids, hw, ?_, ?_, ?_, fun x hx => (standsFor_position found hx).nodeAt?,
      Evaluation.head?_of_descend hw, grafts.kept.get_eq he.lt_size, fun x hx hne => ?_⟩
    · exact positions ▸ covers
    · exact positions ▸ Document.nodup_subtree distinct acyclic p
    · rw [positions]
      refine ordered.imp_of_mem fun {q r} _ hr hlt => ⟨hlt, ?_⟩
      -- A position behind one that it leads to would come before and behind it.
      rintro ⟨s, rfl⟩
      cases s with
      | nil =>
        rw [List.append_nil] at hlt
        exact List.lt_irrefl _ hlt
      | cons key s =>
        obtain ⟨node, hnode⟩ := Option.isSome_iff_exists.mp ((covers r).mp hr).2
        exact List.lt_asymm hlt (Document.placesAt_lt_below hnode key s)
    · obtain ⟨y, hy, hchild⟩ := (grafts.grafted ids rfl x hx).resolve_left (by simpa using hne)
      exact ⟨y, hy, hchild.parent?_eq, hchild.position_eq (standsFor_position found hx)⟩

theorem descendants_in_preorder_sharing :
    ∃ t t' ids, t.StandsFor .sharing 0 [] ∧
      Evaluation.select .sharing (.depthExceeded 2) 3 0 .descendants t = (t', .ok ids) ∧
      ids = [0, 1, 3, 4, 2, 5, 6] ∧ (t'.get 1).node = (t'.get 2).node ∧
      (ids.map t'.position).Nodup ∧
      ∃ y ∈ ids, (t'.get 6).parent? = some y ∧ t'.position y = (t'.position 6).dropLast := by
  let start := (Trail.empty.pushRoot (Document.root .sharing)).1
  have root : start.StandsFor .sharing 0 [] := (Trail.pushRoot_spec .sharing .empty).2
  have run : (Evaluation.select .sharing (.depthExceeded 2) 3 0 .descendants start).2 =
      .ok [0, 1, 3, 4, 2, 5, 6] := by decide
  have same : ((Evaluation.select .sharing (.depthExceeded 2) 3 0 .descendants start).1.get 1).node =
      ((Evaluation.select .sharing (.depthExceeded 2) 3 0 .descendants start).1.get 2).node := by
    decide
  have walks := Evaluation.descend_failsIff Document.sharing_namesDistinct
    Document.sharing_wellFormed.acyclic (.depthExceeded 2) 3 root
  have enough (q : Position) (hq : (Document.nodeAt? .sharing ([] ++ q)).isSome) : q.length < 3 := by
    by_contra deep
    exact absurd (run.symm.trans (walks.fails ⟨q, hq, Nat.not_lt.mp deep⟩)) nofun
  obtain ⟨t', ids, hselect, -, nodup, -, -, -, -, linked⟩ := descendants_in_preorder .sharing
    Document.sharing_wellFormed.acyclic Document.sharing_namesDistinct (.depthExceeded 2) 3 start 0
    [] root enough
  rw [hselect] at run same
  obtain rfl : ids = [0, 1, 3, 4, 2, 5, 6] := Except.ok.inj run
  exact ⟨start, t', _, root, hselect, rfl, same, nodup, linked 6 (by decide) (by decide)⟩

end PathQuery
