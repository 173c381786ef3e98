import PathQuery.Proofs.Evaluation.Route
import PathQuery.Proofs.Evaluation.Locality

/-!
Descending twice. The second descent finds all that is below a position from the
position itself, and then parts of that again from each position below it. So the
first descent adds nothing but repeats, which come behind what they repeat.
-/
namespace PathQuery

variable {doc : Document} {p q : Position} {filters : List Query.Filter} {back : List Query.Part}

namespace Document

theorem subtree_subset (acyclic : doc.Acyclic) (h : q ∈ doc.subtree acyclic p) :
    doc.subtree acyclic q ⊆ doc.subtree acyclic p := by
  induction p using acyclic.wellFounded_childrenAt.induction with
  | _ p ih =>
    rw [subtree_eq] at h
    rcases List.mem_cons.mp h with rfl | h
    · exact List.Subset.refl _
    · obtain ⟨c, hc, hq⟩ := List.mem_flatMap.mp h
      intro r hr
      rw [subtree_eq]
      exact List.mem_cons_of_mem _ (List.mem_flatMap.mpr ⟨c, hc, ih c hc hq hr⟩)

theorem positions_descendants_subset (acyclic : doc.Acyclic) (h : q ∈ doc.subtree acyclic p) :
    doc.positions acyclic (⟨.descendants, filters⟩ :: back) q ⊆
      doc.positions acyclic (⟨.descendants, filters⟩ :: back) p := by
  intro r hr
  obtain ⟨x, hx, accepted, hr⟩ := (mem_positions_cons acyclic).mp hr
  exact (mem_positions_cons acyclic).mpr ⟨x, subtree_subset acyclic h hx, accepted, hr⟩

def positionsBelow (doc : Document) (acyclic : doc.Acyclic) (filters : List Query.Filter)
    (back : List Query.Part) (p : Position) : List Position :=
  ((doc.childrenAt p).flatMap (doc.subtree acyclic)).flatMap
    (doc.positions acyclic (⟨.descendants, filters⟩ :: back))

theorem positionsBelow_subset (acyclic : doc.Acyclic) (p : Position) :
    doc.positionsBelow acyclic filters back p ⊆
      doc.positions acyclic (⟨.descendants, filters⟩ :: back) p := by
  intro r hr
  obtain ⟨q, hq, hr⟩ := List.mem_flatMap.mp hr
  refine positions_descendants_subset acyclic ?_ hr
  rw [subtree_eq]
  exact List.mem_cons_of_mem p hq

theorem positions_descendants_twice (acyclic : doc.Acyclic) (p : Position) :
    doc.positions acyclic (⟨.descendants, []⟩ :: ⟨.descendants, filters⟩ :: back) p =
      doc.positions acyclic (⟨.descendants, filters⟩ :: back) p ++
        doc.positionsBelow acyclic filters back p := by
  have all : (doc.subtree acyclic p).filter (fun q => Query.acceptAll [] (doc.valueAt q)) =
      doc.subtree acyclic p := List.filter_eq_self.mpr fun _ _ => rfl
  rw [positions, selectAt, all, subtree_eq, List.flatMap_cons, positionsBelow]

theorem Needs.descendants_twice {acyclic : doc.Acyclic} {levels : Nat}
    (h : doc.Needs acyclic (⟨.descendants, filters⟩ :: back) levels p) :
    doc.Needs acyclic (⟨.descendants, []⟩ :: ⟨.descendants, filters⟩ :: back) levels p := by
  cases levels with
  | zero => exact doc.needs_zero acyclic _ p
  | succ levels =>
    exact (needs_cons acyclic _ _ levels p).mpr
      (.inr ⟨p, doc.mem_subtree_self acyclic p, rfl, h.mono (Nat.le_succ levels)⟩)

end Document

theorem firstByPath_descendants_twice (acyclic : doc.Acyclic) (front back : List Query.Part)
    (filters : List Query.Filter) :
    firstByPath [] ((doc.positions acyclic
        (front ++ [⟨.descendants, []⟩, ⟨.descendants, filters⟩] ++ back) []).map doc.matchAt) =
      firstByPath [] ((doc.positions acyclic
        (front ++ [⟨.descendants, filters⟩] ++ back) []).map doc.matchAt) := by
  have repeats (p : Position) (_ : p ∈ doc.positions acyclic front []) :
      (doc.positionsBelow acyclic filters back p).map doc.matchAt ⊆
        (doc.positions acyclic (⟨.descendants, filters⟩ :: back) p).map doc.matchAt :=
    List.map_subset doc.matchAt (Document.positionsBelow_subset acyclic p)
  simp only [List.append_assoc, List.cons_append, List.nil_append, Document.positions_parts_append,
    Document.positions_descendants_twice, List.map_flatMap, List.map_append]
  exact firstByPath_flatMap_repeats repeats [] []

theorem Document.needs_descendants_twice (acyclic : doc.Acyclic) {front : List Query.Part}
    {levels : Nat} (h : doc.Needs acyclic (front ++ [⟨.descendants, filters⟩] ++ back) levels p) :
    doc.Needs acyclic (front ++ [⟨.descendants, []⟩, ⟨.descendants, filters⟩] ++ back) levels p := by
  rw [List.append_assoc, needs_parts_append] at h ⊢
  exact h.imp_right fun ⟨q, hq, deep⟩ => ⟨q, hq, deep.descendants_twice⟩

/-- Without repeats, descending twice finds what descending once finds: the same matches in the same
order, whatever comes before and behind. Where there are levels enough to descend twice, there are
enough to descend once. -/
theorem unique_results_of_descending_twice (doc : Document) (acyclic : doc.Acyclic)
    (distinct : doc.NamesDistinct) (front back : List Query.Part) (filters : List Query.Filter)
    (limit : Nat) (ms : List Match)
    (h : select doc (front ++ [⟨.descendants, []⟩, ⟨.descendants, filters⟩] ++ back) .unique limit =
      .ok ms) :
    select doc (front ++ [⟨.descendants, filters⟩] ++ back) .unique limit = .ok ms ∧
      ∀ limit' ms', select doc (front ++ [⟨.descendants, filters⟩] ++ back) .unique limit' = .ok ms' →
        ms' = ms := by
  obtain ⟨shallow, rfl⟩ := select_unique_of_ok distinct acyclic h
  have once := firstByPath_descendants_twice acyclic front back filters
  constructor
  · rw [once]
    exact select_unique_of_not_needs distinct (mt (Document.needs_descendants_twice acyclic) shallow)
  · intro limit' ms' h'
    rw [once]
    exact (select_unique_of_ok distinct acyclic h').2

theorem unique_results_of_descending_twice_pointed :
    (select .pointed [⟨.children, []⟩, ⟨.descendants, []⟩, ⟨.descendants, [.equals "x"]⟩,
        ⟨.parent, []⟩, ⟨.descendants, []⟩] .ordered 5).toOption.map List.length = some 6 ∧
      select .pointed [⟨.children, []⟩, ⟨.descendants, []⟩, ⟨.descendants, [.equals "x"]⟩,
        ⟨.parent, []⟩, ⟨.descendants, []⟩] .unique 5 =
          .ok [⟨6, "1.5.[true,\"a.b\"]"⟩, ⟨5, "1.5.[true,\"a.b\"].0"⟩] ∧
      select .pointed [⟨.children, []⟩, ⟨.descendants, [.equals "x"]⟩, ⟨.parent, []⟩,
        ⟨.descendants, []⟩] .unique 5 =
          .ok [⟨6, "1.5.[true,\"a.b\"]"⟩, ⟨5, "1.5.[true,\"a.b\"].0"⟩] := by
  have twice : select .pointed ([⟨.children, []⟩] ++
      [⟨.descendants, []⟩, ⟨.descendants, [.equals "x"]⟩] ++ [⟨.parent, []⟩, ⟨.descendants, []⟩])
      .unique 5 = .ok [⟨6, "1.5.[true,\"a.b\"]"⟩, ⟨5, "1.5.[true,\"a.b\"].0"⟩] := by decide +kernel
  have once := unique_results_of_descending_twice .pointed
    (Document.ofYaml_sound _).wellFormed.acyclic Document.pointed_namesDistinct _ _ _ 5 _ twice
  exact ⟨by decide +kernel, twice, once.1⟩

end PathQuery
