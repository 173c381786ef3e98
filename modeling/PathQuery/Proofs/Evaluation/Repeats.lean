import PathQuery.Proofs.Evaluation.Preorder
import PathQuery.Proofs.Evaluation.Selection

/-!
Where no part steps up and at most one descends, no position is found twice. The
parts before the descent and those behind it lengthen a position by one key each,
so of two routes to one position the stretch that was descended is as long, and as
the positions on a route extend each other, the routes are the same.
-/
namespace PathQuery

variable {doc : Document} {p q r : Position} {parts rest : List Query.Part}

namespace Document

theorem prefix_of_mem_childrenAt (h : q ∈ doc.childrenAt p) : p <+: q := by
  obtain ⟨key, -, rfl⟩ := List.mem_map.mp h
  exact List.prefix_append p [key]

theorem length_of_mem_childrenAt (h : q ∈ doc.childrenAt p) : q.length = p.length + 1 := by
  obtain ⟨key, -, rfl⟩ := List.mem_map.mp h
  exact List.length_append

theorem nodup_childrenAt (distinct : doc.NamesDistinct) (p : Position) :
    (doc.childrenAt p).Nodup :=
  (Node.nodup_keys (valueAt_namesDistinct distinct p)).map fun _ _ same =>
    List.singleton_inj.mp (List.append_cancel_left same)

theorem selectAt_literal_sublist (acyclic : doc.Acyclic) (p : Position) (text : String) :
    (doc.selectAt acyclic p (.literal text)).Sublist (doc.childrenAt p) :=
  List.filter_sublist.map fun key => p ++ [key]

theorem prefix_of_mem_selectAt (acyclic : doc.Acyclic) {specifier : Query.Specifier}
    (down : specifier ≠ .parent) (h : q ∈ doc.selectAt acyclic p specifier) : p <+: q := by
  cases specifier with
  | parent => exact absurd rfl down
  | children => exact prefix_of_mem_childrenAt h
  | descendants => exact prefix_of_mem_subtree acyclic h
  | literal text => exact prefix_of_mem_childrenAt ((selectAt_literal_sublist acyclic p text).mem h)

theorem length_of_mem_selectAt (acyclic : doc.Acyclic) {specifier : Query.Specifier}
    (down : specifier ≠ .parent) (once : specifier ≠ .descendants)
    (h : q ∈ doc.selectAt acyclic p specifier) : q.length = p.length + 1 := by
  cases specifier with
  | parent => exact absurd rfl down
  | children => exact length_of_mem_childrenAt h
  | descendants => exact absurd rfl once
  | literal text => exact length_of_mem_childrenAt ((selectAt_literal_sublist acyclic p text).mem h)

theorem nodup_selectAt (distinct : doc.NamesDistinct) (acyclic : doc.Acyclic) (p : Position)
    (specifier : Query.Specifier) : (doc.selectAt acyclic p specifier).Nodup := by
  cases specifier with
  | parent =>
    by_cases top : p = []
    · simp [selectAt, top]
    · simp [selectAt, top]
  | children => exact nodup_childrenAt distinct p
  | descendants => exact nodup_subtree distinct acyclic p
  | literal text =>
    exact (nodup_childrenAt distinct p).sublist (selectAt_literal_sublist acyclic p text)

theorem prefix_of_mem_positions (acyclic : doc.Acyclic)
    (down : .parent ∉ parts.map Query.Part.specifier) (h : r ∈ doc.positions acyclic parts p) :
    p <+: r := by
  induction parts generalizing p with
  | nil => exact List.mem_singleton.mp h ▸ List.prefix_rfl
  | cons part rest ih =>
    rw [List.map_cons, List.mem_cons, not_or] at down
    obtain ⟨q, hq, -, hr⟩ := (mem_positions_cons acyclic).mp h
    exact (prefix_of_mem_selectAt acyclic (Ne.symm down.1) hq).trans (ih down.2 hr)

theorem length_of_mem_positions (acyclic : doc.Acyclic)
    (down : .parent ∉ parts.map Query.Part.specifier)
    (steps : .descendants ∉ parts.map Query.Part.specifier)
    (h : r ∈ doc.positions acyclic parts p) : r.length = p.length + parts.length := by
  induction parts generalizing p with
  | nil => exact List.mem_singleton.mp h ▸ rfl
  | cons part rest ih =>
    rw [List.map_cons, List.mem_cons, not_or] at down steps
    obtain ⟨q, hq, -, hr⟩ := (mem_positions_cons acyclic).mp h
    have first := length_of_mem_selectAt acyclic (Ne.symm down.1) (Ne.symm steps.1) hq
    have later := ih down.2 steps.2 hr
    rw [List.length_cons]
    omega

theorem length_eq_of_mem_positions (acyclic : doc.Acyclic) {part : Query.Part} {q' : Position}
    (down : .parent ∉ (part :: rest).map Query.Part.specifier)
    (once : ((part :: rest).map Query.Part.specifier).count .descendants ≤ 1)
    (hq : q ∈ doc.selectAt acyclic p part.specifier)
    (hq' : q' ∈ doc.selectAt acyclic p part.specifier)
    (hr : r ∈ doc.positions acyclic rest q) (hr' : r ∈ doc.positions acyclic rest q') :
    q.length = q'.length := by
  rw [List.map_cons, List.mem_cons, not_or] at down
  by_cases descends : part.specifier = .descendants
  · have steps : .descendants ∉ rest.map Query.Part.specifier := by
      rw [List.map_cons, descends, List.count_cons_self] at once
      exact List.count_eq_zero.mp (by omega)
    have length := length_of_mem_positions acyclic down.2 steps hr
    have length' := length_of_mem_positions acyclic down.2 steps hr'
    omega
  · rw [length_of_mem_selectAt acyclic (Ne.symm down.1) descends hq,
      length_of_mem_selectAt acyclic (Ne.symm down.1) descends hq']

theorem nodup_positions (distinct : doc.NamesDistinct) (acyclic : doc.Acyclic)
    (down : .parent ∉ parts.map Query.Part.specifier)
    (once : (parts.map Query.Part.specifier).count .descendants ≤ 1) (p : Position) :
    (doc.positions acyclic parts p).Nodup := by
  induction parts generalizing p with
  | nil => exact List.nodup_singleton p
  | cons part rest ih =>
    have downRest : .parent ∉ rest.map Query.Part.specifier := fun h =>
      down (List.mem_cons_of_mem _ h)
    have onceRest : (rest.map Query.Part.specifier).count .descendants ≤ 1 :=
      Nat.le_trans List.count_le_count_cons once
    have selected := (nodup_selectAt distinct acyclic p part.specifier).filter fun q =>
      Query.acceptAll part.filters (doc.valueAt q)
    refine List.nodup_flatMap.mpr ⟨fun q _ => ih downRest onceRest q, ?_⟩
    refine selected.pairwise_of_forall_ne fun q hq q' hq' apart r hr hr' => apart ?_
    -- Positions that lead to the same one are the front of it, and equally long.
    have length := length_eq_of_mem_positions acyclic down once (List.mem_of_mem_filter hq)
      (List.mem_of_mem_filter hq') hr hr'
    have below := prefix_of_mem_positions acyclic downRest hr
    have below' := prefix_of_mem_positions acyclic downRest hr'
    exact (List.prefix_of_prefix_length_le below below' (Nat.le_of_eq length)).eq_of_length length

end Document

/-- Parts that never step up and descend at most once find no position twice, so all results with
repeats are at different positions. -/
theorem ordered_results_at_distinct_positions (doc : Document) (acyclic : doc.Acyclic)
    (distinct : doc.NamesDistinct) (parts : List Query.Part)
    (down : .parent ∉ parts.map Query.Part.specifier)
    (once : (parts.map Query.Part.specifier).count .descendants ≤ 1) (limit : Nat)
    (t t' : Trail) (ids : List ElementId) (h : evaluate doc limit parts t = (t', .ok ids)) :
    (ids.map t'.position).Nodup ∧
      (t = .empty → select doc parts .ordered limit = .ok (ids.map (t'.matchAt doc))) := by
  have finds := evaluate_finds distinct acyclic limit parts t
  rw [h] at finds
  rw [map_position_of_standsFor (Walk.finds_ok.mp finds).2]
  refine ⟨Document.nodup_positions distinct acyclic down once [], ?_⟩
  rintro rfl
  exact select_ordered_of_evaluate h

theorem ordered_results_at_distinct_positions_sharing :
    ∃ t' ids, evaluate .sharing 4 [⟨.children, []⟩, ⟨.descendants, []⟩, ⟨.children, []⟩] .empty =
        (t', .ok ids) ∧
      ids.map (fun id => (t'.get id).node) = [1, 0, 1, 0] ∧
      (ids.map t'.position).Nodup ∧
      select .sharing [⟨.children, []⟩, ⟨.descendants, []⟩, ⟨.children, []⟩] .ordered 4 =
        .ok (ids.map (t'.matchAt .sharing)) := by
  have run : evaluate .sharing 4 [⟨.children, []⟩, ⟨.descendants, []⟩, ⟨.children, []⟩] .empty =
      ((evaluate .sharing 4 [⟨.children, []⟩, ⟨.descendants, []⟩, ⟨.children, []⟩] .empty).1,
        .ok [5, 6, 9, 10]) := by rfl
  have distinct := ordered_results_at_distinct_positions .sharing Document.sharing_wellFormed.acyclic
    Document.sharing_namesDistinct _ (by decide) (by decide) 4 .empty _ _ run
  exact ⟨_, _, run, by decide, distinct.1, distinct.2 rfl⟩

end PathQuery
