import PathQuery.Proofs.Evaluation.Reference
import PathQuery.Proofs.Evaluation.Trail

/-!
Evaluation along a trail finds what the query means. From an element that stands
for a position, every walk adds elements that stand for positions, and finds, in
order, elements for the positions that the reference gives. The limit and the
elements that are already in the trail change nothing about that.
-/
namespace PathQuery

variable {doc : Document} {t t' : Trail} {id : ElementId} {p : Position}

/-- A walk from a trail adds positions to it, and unless it fails finds elements for `ps`. -/
def Walk.Finds (doc : Document) (t : Trail) (w : Walk) (ps : List Position) : Prop :=
  t.Grows doc w.1 ∧ ∀ ids, w.2 = .ok ids → List.Forall₂ (w.1.StandsFor doc) ids ps

namespace Walk

variable {ids : List ElementId} {ps : List Position} {e : EvaluationError}

theorem finds_ok : Finds doc t (t', .ok ids) ps ↔
    t.Grows doc t' ∧ List.Forall₂ (t'.StandsFor doc) ids ps := by
  refine and_congr_right fun _ => ⟨fun h => h ids rfl, fun h ids' hids => ?_⟩
  cases hids
  exact h

theorem finds_error : Finds doc t (t', .error e) ps ↔ t.Grows doc t' :=
  and_iff_left fun _ hids => by cases hids

theorem each_finds {walk : ElementId → Trail → Walk} {f : Position → List Position}
    (hw : ∀ id p (t : Trail), t.StandsFor doc id p → (walk id t).Finds doc t (f p))
    (h : List.Forall₂ (t.StandsFor doc) ids ps) :
    (Walk.each walk ids t).Finds doc t (ps.flatMap f) := by
  induction ids generalizing t ps with
  | nil =>
    cases h
    exact finds_ok.mpr ⟨Trail.Grows.refl doc t, .nil⟩
  | cons id ids ih =>
    obtain ⟨p, ps, hp, hps, rfl⟩ := List.forall₂_cons_left_iff.mp h
    have hfirst := hw id p t hp
    unfold Walk.each
    split
    · next t' e heq => exact finds_error.mpr (finds_error.mp (heq ▸ hfirst))
    · next t' first heq =>
      obtain ⟨grows, found⟩ := finds_ok.mp (heq ▸ hfirst)
      have hrest := ih (Trail.forall₂_kept hps grows)
      split
      · next t'' e heq' =>
        exact finds_error.mpr (grows.trans (finds_error.mp (heq' ▸ hrest)))
      · next t'' more heq' =>
        obtain ⟨grows', found'⟩ := finds_ok.mp (heq' ▸ hrest)
        refine finds_ok.mpr ⟨grows.trans grows', ?_⟩
        exact List.rel_append (Trail.forall₂_kept found grows') found'

end Walk

namespace Evaluation

theorem pushChildren_finds (h : t.StandsFor doc id p) (hd : doc.NamesDistinct)
    {children : List (Key × NodeId)} (hc : children ⊆ (doc.valueAt p).children) :
    t.Grows doc (t.pushChildren id children).1 ∧
      List.Forall₂ ((t.pushChildren id children).1.StandsFor doc) (t.pushChildren id children).2
        ((children.map Prod.fst).map fun key => p ++ [key]) := by
  have lead : ∀ c ∈ children, doc.nodeAt? (p ++ [c.1]) = some c.2 := by
    intro c hmem
    have hchild := hc hmem
    rw [h.valueAt] at hchild
    rw [Document.nodeAt?_snoc h.nodeAt?]
    exact Node.child?_of_mem_children (hd _) hchild
  rw [List.map_map]
  exact Trail.pushChildren_spec h lead

theorem children_finds (h : t.StandsFor doc id p) (hd : doc.NamesDistinct) :
    t.Grows doc (t.pushChildren id (doc.valueAt p).children).1 ∧
      List.Forall₂ ((t.pushChildren id (doc.valueAt p).children).1.StandsFor doc)
        (t.pushChildren id (doc.valueAt p).children).2 (doc.childrenAt p) := by
  have finds := pushChildren_finds h hd (List.Subset.refl _)
  rwa [← Node.keys_eq] at finds

theorem lookup_finds (h : t.StandsFor doc id p) (hd : doc.NamesDistinct) (text : String) :
    t.Grows doc (t.pushChildren id (doc.lookup (doc.valueAt p) text)).1 ∧
      List.Forall₂ ((t.pushChildren id (doc.lookup (doc.valueAt p) text)).1.StandsFor doc)
        (t.pushChildren id (doc.lookup (doc.valueAt p) text)).2
        (((doc.keysAt p).filter (doc.denotes text)).map fun key => p ++ [key]) := by
  have names : (doc.valueAt p).NamesDistinct := h.valueAt ▸ hd _
  have part : doc.lookup (doc.valueAt p) text ⊆ (doc.valueAt p).children := by
    rw [Document.lookup_eq_filter_children names]
    exact List.filter_subset_self _
  rw [Document.keysAt, ← Document.map_fst_lookup names]
  exact pushChildren_finds h hd part

theorem descend_finds (hd : doc.NamesDistinct) (acyclic : doc.Acyclic) (error : EvaluationError)
    (budget : Nat) (h : t.StandsFor doc id p) :
    (descend doc error budget id t).Finds doc t (doc.subtree acyclic p) := by
  induction budget generalizing t id p with
  | zero => exact Walk.finds_error.mpr (Trail.Grows.refl doc t)
  | succ budget ih =>
    obtain ⟨grows, found⟩ := children_finds h hd
    have hbelow := Walk.each_finds (fun id p t hp => ih hp) found
    rw [Document.subtree_eq]
    simp only [descend, ← h.valueAt]
    split
    · next t' e heq => exact Walk.finds_error.mpr (grows.trans (Walk.finds_error.mp (heq ▸ hbelow)))
    · next t' below heq =>
      obtain ⟨grows', found'⟩ := Walk.finds_ok.mp (heq ▸ hbelow)
      exact Walk.finds_ok.mpr ⟨grows.trans grows', .cons (h.kept (grows.trans grows').kept) found'⟩

theorem select_finds (hd : doc.NamesDistinct) (acyclic : doc.Acyclic) (error : EvaluationError)
    (budget : Nat) (specifier : Query.Specifier) (h : t.StandsFor doc id p) :
    (select doc error budget id specifier t).Finds doc t (doc.selectAt acyclic p specifier) := by
  cases specifier with
  | parent => exact Walk.finds_ok.mpr ⟨Trail.Grows.refl doc t, h.parent⟩
  | children =>
    simp only [select, ← h.valueAt]
    exact Walk.finds_ok.mpr (children_finds h hd)
  | descendants => exact descend_finds hd acyclic error budget h
  | literal text =>
    simp only [select, ← h.valueAt]
    exact Walk.finds_ok.mpr (lookup_finds h hd text)

theorem flatMap_filter {α β : Type} (l : List α) (accepts : α → Bool) (f : α → List β) :
    (l.filter accepts).flatMap f = l.flatMap fun x => if accepts x then f x else [] := by
  induction l with
  | nil => rfl
  | cons x l ih => cases hx : accepts x <;> simp [hx, ih]

theorem filtered_finds {walk : ElementId → Trail → Walk} {f : Position → List Position}
    (filters : List Query.Filter)
    (hw : ∀ id p (t : Trail), t.StandsFor doc id p → (walk id t).Finds doc t (f p))
    (id : ElementId) (p : Position) (t : Trail) (h : t.StandsFor doc id p) :
    Walk.Finds doc t
      (if Query.acceptAll filters (doc.get (t.get id).node) then walk id t else (t, .ok []))
      (if Query.acceptAll filters (doc.valueAt p) then f p else []) := by
  rw [← h.valueAt]
  split
  · exact hw id p t h
  · exact Walk.finds_ok.mpr ⟨Trail.Grows.refl doc t, .nil⟩

theorem follow_finds (hd : doc.NamesDistinct) (acyclic : doc.Acyclic) (error : EvaluationError)
    (parts : List Query.Part) (budget : Nat) (h : t.StandsFor doc id p) :
    (follow doc error parts budget id t).Finds doc t (doc.positions acyclic parts p) := by
  induction parts generalizing budget t id p with
  | nil =>
    cases budget with
    | zero => exact Walk.finds_error.mpr (Trail.Grows.refl doc t)
    | succ budget => exact Walk.finds_ok.mpr ⟨Trail.Grows.refl doc t, .cons h .nil⟩
  | cons part rest ih =>
    cases budget with
    | zero => exact Walk.finds_error.mpr (Trail.Grows.refl doc t)
    | succ budget =>
      have hselect := select_finds hd acyclic error (budget + 1) part.specifier h
      rw [Document.positions, flatMap_filter]
      unfold follow
      split
      · next t' e heq => exact Walk.finds_error.mpr (Walk.finds_error.mp (heq ▸ hselect))
      · next t' selected heq =>
        obtain ⟨grows, found⟩ := Walk.finds_ok.mp (heq ▸ hselect)
        have hrest := Walk.each_finds
          (filtered_finds part.filters fun id p t hp => ih budget hp) found
        exact ⟨grows.trans hrest.1, hrest.2⟩

end Evaluation

theorem standsFor_position {ids : List ElementId} {ps : List Position}
    (h : List.Forall₂ (t.StandsFor doc) ids ps) (hid : id ∈ ids) :
    t.StandsFor doc id (t.position id) := by
  induction h with
  | nil => cases hid
  | cons hp _ ih =>
    rcases List.mem_cons.mp hid with rfl | hid
    · rwa [hp.position_eq]
    · exact ih hid

theorem exists_standsFor_of_mem {ids : List ElementId} {ps : List Position}
    (h : List.Forall₂ (t.StandsFor doc) ids ps) (hp : p ∈ ps) : ∃ id ∈ ids, t.StandsFor doc id p := by
  induction h with
  | nil => cases hp
  | cons hhead _ ih =>
    rcases List.mem_cons.mp hp with rfl | hp
    · exact ⟨_, List.mem_cons_self, hhead⟩
    · obtain ⟨id, hid, hstands⟩ := ih hp
      exact ⟨id, List.mem_cons_of_mem _ hid, hstands⟩

theorem map_position_of_standsFor {ids : List ElementId} {ps : List Position}
    (h : List.Forall₂ (t.StandsFor doc) ids ps) : ids.map t.position = ps := by
  induction h with
  | nil => rfl
  | cons hp _ ih => rw [List.map_cons, hp.position_eq, ih]

def Document.matchAt (doc : Document) (p : Position) : Match :=
  ⟨(doc.nodeAt? p).getD 0, doc.pathAt p⟩

theorem Trail.StandsFor.matchAt_eq (h : t.StandsFor doc id p) :
    t.matchAt doc id = doc.matchAt p := by
  rw [Trail.matchAt, Document.matchAt, h.nodeAt?, h.path_eq, Option.getD_some]

theorem map_matchAt_of_standsFor {ids : List ElementId} {ps : List Position}
    (h : List.Forall₂ (t.StandsFor doc) ids ps) :
    ids.map (t.matchAt doc) = ps.map doc.matchAt := by
  induction h with
  | nil => rfl
  | cons hp _ ih => rw [List.map_cons, List.map_cons, ih, hp.matchAt_eq]

theorem map_of_standsFor {ids : List ElementId} {ps : List Position}
    (h : List.Forall₂ (t.StandsFor doc) ids ps) :
    ids.map (fun id => (some (t.get id).node, t.position id, t.path doc id)) =
      ps.map fun p => (doc.nodeAt? p, p, doc.pathAt p) := by
  induction h with
  | nil => rfl
  | cons hp _ ih => rw [List.map_cons, List.map_cons, ih, hp.nodeAt?, hp.position_eq, hp.path_eq]

theorem evaluate_finds (hd : doc.NamesDistinct) (acyclic : doc.Acyclic) (limit : Nat)
    (parts : List Query.Part) (t : Trail) :
    (evaluate doc limit parts t).Finds doc t (doc.positions acyclic parts []) := by
  obtain ⟨grows, hroot⟩ := Trail.pushRoot_spec doc t
  have hfollow := Evaluation.follow_finds hd acyclic (.depthExceeded limit) parts (limit + 1) hroot
  exact ⟨grows.trans hfollow.1, hfollow.2⟩

/-- The trails that evaluations leave, one after the other, whether they succeed or fail. -/
inductive Document.Session (doc : Document) : Trail → Prop
  | start : Session doc .empty
  | step {t : Trail} (h : Session doc t) (limit : Nat) (parts : List Query.Part) :
      Session doc (evaluate doc limit parts t).1

theorem Document.Session.grows (h : doc.Session t) (hd : doc.NamesDistinct)
    (acyclic : doc.Acyclic) : Trail.empty.Grows doc t := by
  induction h with
  | start => exact Trail.Grows.refl doc .empty
  | step _ limit parts ih => exact ih.trans (evaluate_finds hd acyclic limit parts _).1

theorem Document.Session.standsFor (h : doc.Session t) (hd : doc.NamesDistinct)
    (acyclic : doc.Acyclic) (hid : id < t.size) : t.StandsFor doc id (t.position id) := by
  obtain ⟨p, hp⟩ := (h.grows hd acyclic).added id (Nat.zero_le id) hid
  rwa [hp.position_eq]

/-- Whenever evaluation succeeds, its elements are, in order and with repeats, at the positions that
the parts lead to from the root: the nodes, the keys read through the links and the canonical paths
are those of the positions. One position has one path, whatever evaluations led to it. -/
theorem evaluate_refines_positions (doc : Document) (acyclic : doc.Acyclic)
    (distinct : doc.NamesDistinct) (limit : Nat) (parts : List Query.Part) (t t' : Trail)
    (ids : List ElementId) (h : evaluate doc limit parts t = (t', .ok ids)) :
    ids.map (fun id => (some (t'.get id).node, t'.position id, t'.path doc id)) =
        (doc.positions acyclic parts []).map (fun p => (doc.nodeAt? p, p, doc.pathAt p)) ∧
      ∀ limit₂ parts₂ s s' ids₂, evaluate doc limit₂ parts₂ s = (s', .ok ids₂) →
        ∀ id ∈ ids, ∀ id₂ ∈ ids₂, t'.position id = s'.position id₂ →
          t'.path doc id = s'.path doc id₂ := by
  have found := (Walk.finds_ok.mp (h ▸ evaluate_finds distinct acyclic limit parts t)).2
  refine ⟨map_of_standsFor found, fun limit₂ parts₂ s s' ids₂ h₂ id hid id₂ hid₂ same => ?_⟩
  have found₂ := (Walk.finds_ok.mp (h₂ ▸ evaluate_finds distinct acyclic limit₂ parts₂ s)).2
  rw [(standsFor_position found hid).path_eq, (standsFor_position found₂ hid₂).path_eq, same]

/-- A document in which two entries share one sequence. -/
def Document.sharing : Document :=
  ⟨#[.null, .bool true, .sequence [1, 0], .mapping [("a", 2), ("b", 2)]], 3⟩

theorem Document.sharing_wellFormed : sharing.WellFormed :=
  wellFormed_of_lt_size (by decide) (by decide)

theorem Document.sharing_namesDistinct : sharing.NamesDistinct :=
  namesDistinct_of_lt_size (by decide)

def Document.sharedList : Document :=
  ⟨#[.null, .text "x", .sequence [1, 0], .mapping [("a", 2), ("b", 2)]], 3⟩

theorem Document.sharedList_wellFormed : sharedList.WellFormed :=
  wellFormed_of_lt_size (by decide) (by decide)

theorem evaluate_refines_positions_sharedList :
    let parts : List Query.Part := [⟨.descendants, [.negated (.equals "x")]⟩,
      ⟨.literal "0", [.equals "x"]⟩, ⟨.parent, []⟩]
    let found := [(some 2, [.name "a"], "\"a\""), (some 2, [.name "b"], "\"b\"")]
    ∃ t' ids, evaluate .sharedList 8 parts .empty = (t', .ok ids) ∧
      ids.map (fun id => (some (t'.get id).node, t'.position id, t'.path .sharedList id)) = found ∧
      (Document.positions .sharedList Document.sharedList_wellFormed.acyclic parts []).map
        (fun p => (Document.nodeAt? .sharedList p, p, Document.pathAt .sharedList p)) = found := by
  intro parts found
  have finds : evaluate .sharedList 8 parts .empty =
      ((evaluate .sharedList 8 parts .empty).1, .ok [1, 2]) := by rfl
  have shown : [1, 2].map (fun id =>
      (some ((evaluate .sharedList 8 parts .empty).1.get id).node,
        (evaluate .sharedList 8 parts .empty).1.position id,
        (evaluate .sharedList 8 parts .empty).1.path .sharedList id)) = found := by
    decide +kernel
  have refined := (evaluate_refines_positions .sharedList Document.sharedList_wellFormed.acyclic
    (Document.namesDistinct_of_lt_size (by decide)) 8 parts .empty _ _ finds).1
  exact ⟨_, _, finds, shown, refined.symm.trans shown⟩

end PathQuery
