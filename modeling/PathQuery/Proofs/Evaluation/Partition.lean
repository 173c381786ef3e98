import PathQuery.Proofs.Evaluation.Locality

/-!
A filter and its negation. Behind the other filters of a part, one of the two accepts
what the other one refuses, so they share out what the part leads to; what is needed
to go on from there is needed behind one of them. Filters are a set: their order and
their repeats change nothing.
-/
namespace PathQuery

variable {doc : Document} {t : Trail} {id : ElementId} {p : Position}
variable {error : EvaluationError} {specifier : Query.Specifier}
variable {filters filters' : List Query.Filter} {f : Query.Filter}

namespace Query

@[simp]
theorem acceptAll_concat (filters : List Filter) (f : Filter) (node : Node) :
    acceptAll (filters ++ [f]) node = (acceptAll filters node && f.accepts node) := by
  simp [acceptAll]

@[simp]
theorem accepts_negated (f : Filter) (node : Node) :
    (Filter.negated f).accepts node = !f.accepts node := rfl

theorem acceptAll_of_same (same : ∀ g, g ∈ filters' ↔ g ∈ filters) :
    acceptAll filters' = acceptAll filters := by
  funext node
  rw [Bool.eq_iff_iff]
  simp only [acceptAll, List.all_eq_true, same]

end Query

theorem Evaluation.follow_of_acceptAll (same : Query.acceptAll filters' = Query.acceptAll filters)
    (front back : List Query.Part) (budget : Nat) :
    follow doc error (front ++ ⟨specifier, filters'⟩ :: back) budget id t =
      follow doc error (front ++ ⟨specifier, filters⟩ :: back) budget id t := by
  cases budget with
  | zero => simp only [follow]
  | succ budget =>
    induction front generalizing budget id t with
    | nil => simp only [List.nil_append, follow, same]
    | cons part front ih =>
      cases budget with
      | zero => simp only [List.cons_append, follow]
      | succ budget => simp only [List.cons_append, follow, ih]

namespace Document

theorem positions_concat_filter (acyclic : doc.Acyclic) (front : List Query.Part) (p : Position) :
    doc.positions acyclic (front ++ [⟨specifier, filters ++ [f]⟩]) p =
      (doc.positions acyclic (front ++ [⟨specifier, filters⟩]) p).filter fun q =>
        f.accepts (doc.valueAt q) := by
  rw [positions_parts_append, positions_parts_append, List.filter_flatMap]
  refine List.flatMap_congr fun q _ => ?_
  simp only [positions, List.flatMap_singleton', List.filter_filter, Query.acceptAll_concat,
    Bool.and_comm]

theorem positions_perm_partition (acyclic : doc.Acyclic) (front back : List Query.Part)
    (p : Position) :
    (doc.positions acyclic (front ++ ⟨specifier, filters⟩ :: back) p).Perm
      (doc.positions acyclic (front ++ ⟨specifier, filters ++ [f]⟩ :: back) p ++
        doc.positions acyclic (front ++ ⟨specifier, filters ++ [.negated f]⟩ :: back) p) := by
  have behind (part : Query.Part) : doc.positions acyclic (front ++ part :: back) p =
      (doc.positions acyclic (front ++ [part]) p).flatMap (doc.positions acyclic back) := by
    rw [List.append_cons, positions_parts_append]
  rw [behind, behind, behind, positions_concat_filter, positions_concat_filter,
    ← List.flatMap_append]
  exact ((List.filter_append_perm (fun q => f.accepts (doc.valueAt q)) _).symm).flatMap_right _

theorem needs_cons_partition (acyclic : doc.Acyclic) (specifier : Query.Specifier)
    (filters : List Query.Filter) (f : Query.Filter) (back : List Query.Part) (levels : Nat)
    (p : Position) : doc.Needs acyclic (⟨specifier, filters⟩ :: back) levels p ↔
      doc.Needs acyclic (⟨specifier, filters ++ [f]⟩ :: back) levels p ∨
        doc.Needs acyclic (⟨specifier, filters ++ [.negated f]⟩ :: back) levels p := by
  cases levels with
  | zero => exact iff_of_true (doc.needs_zero ..) (.inl (doc.needs_zero ..))
  | succ levels =>
    have shared : (∃ q ∈ doc.selectAt acyclic p specifier,
          Query.acceptAll filters (doc.valueAt q) ∧ doc.Needs acyclic back levels q) ↔
        (∃ q ∈ doc.selectAt acyclic p specifier,
          Query.acceptAll (filters ++ [f]) (doc.valueAt q) ∧ doc.Needs acyclic back levels q) ∨
        ∃ q ∈ doc.selectAt acyclic p specifier,
          Query.acceptAll (filters ++ [.negated f]) (doc.valueAt q) ∧
            doc.Needs acyclic back levels q := by
      rw [← exists_or]
      refine exists_congr fun q => ?_
      cases hf : f.accepts (doc.valueAt q) <;> simp [hf]
    rw [needs_cons, needs_cons, needs_cons, shared]
    exact or_or_distrib_left

theorem needs_iff_partition (acyclic : doc.Acyclic) (front back : List Query.Part) (levels : Nat)
    (p : Position) : doc.Needs acyclic (front ++ ⟨specifier, filters⟩ :: back) levels p ↔
      doc.Needs acyclic (front ++ ⟨specifier, filters ++ [f]⟩ :: back) levels p ∨
        doc.Needs acyclic (front ++ ⟨specifier, filters ++ [.negated f]⟩ :: back) levels p := by
  simp only [needs_parts_append, needs_cons_partition acyclic specifier filters f, and_or_left,
    exists_or]
  exact or_or_distrib_left

end Document

theorem map_matchAt_concat_filter (distinct : doc.NamesDistinct) {acyclic : doc.Acyclic}
    {front : List Query.Part} {limit : Nat}
    (shallow : ¬ doc.Needs acyclic (front ++ [⟨specifier, filters⟩]) (limit + 1) [])
    (f : Query.Filter) :
    (doc.positions acyclic (front ++ [⟨specifier, filters ++ [f]⟩]) []).map doc.matchAt =
      ((doc.positions acyclic (front ++ [⟨specifier, filters⟩]) []).map doc.matchAt).filter
        fun m => f.accepts (doc.get m.node) := by
  rw [Document.positions_concat_filter, List.filter_map]
  refine congrArg _ (List.filter_congr fun q hq => ?_)
  have here := nodeAt?_of_mem_positions distinct shallow hq
  rw [Document.valueAt_eq here, Function.comp_apply]

/-- A filter and its negation, behind the other filters of a part, share out the results. There are
results exactly if there are results behind both. Where no part comes behind, these are the results
whose values the filter accepts, and those whose values it refuses, each in order; otherwise they are
together the same results in some order. Only which filters a part has counts: the same filters in
any order, with repeats, lead to the same elements. -/
theorem filter_and_negation_partition_results (doc : Document) (acyclic : doc.Acyclic)
    (distinct : doc.NamesDistinct) (front back : List Query.Part) (specifier : Query.Specifier)
    (filters : List Query.Filter) (f : Query.Filter) (limit : Nat) (t u v : Trail) :
    let parts (filters : List Query.Filter) : List Query.Part :=
      front ++ ⟨specifier, filters⟩ :: back
    ((∃ ms, results doc limit (parts filters) t = .ok ms) ↔
        (∃ yes, results doc limit (parts (filters ++ [f])) u = .ok yes) ∧
          ∃ no, results doc limit (parts (filters ++ [.negated f])) v = .ok no) ∧
      (∀ ms yes no, results doc limit (parts filters) t = .ok ms →
        results doc limit (parts (filters ++ [f])) u = .ok yes →
        results doc limit (parts (filters ++ [.negated f])) v = .ok no →
          (back = [] → yes = ms.filter (fun m => f.accepts (doc.get m.node)) ∧
            no = ms.filter fun m => !f.accepts (doc.get m.node)) ∧
          ms.Perm (yes ++ no)) ∧
      ∀ filters', (∀ g, g ∈ filters' ↔ g ∈ filters ++ [f]) →
        evaluate doc limit (parts filters') t = evaluate doc limit (parts (filters ++ [f])) t := by
  intro parts
  refine ⟨?_, fun ms yes no all accepted refused => ?_, fun filters' same => ?_⟩
  · rw [results_succeeds_iff distinct acyclic, results_succeeds_iff distinct acyclic,
      results_succeeds_iff distinct acyclic, ← not_or]
    exact not_congr (Document.needs_iff_partition acyclic front back _ _)
  · obtain ⟨shallow, rfl⟩ := results_of_ok distinct acyclic all
    obtain ⟨-, rfl⟩ := results_of_ok distinct acyclic accepted
    obtain ⟨-, rfl⟩ := results_of_ok distinct acyclic refused
    constructor
    · rintro rfl
      exact ⟨map_matchAt_concat_filter distinct shallow f,
        map_matchAt_concat_filter distinct shallow (.negated f)⟩
    · rw [← List.map_append]
      exact (Document.positions_perm_partition acyclic front back []).map doc.matchAt
  · exact Evaluation.follow_of_acceptAll (Query.acceptAll_of_same same) front back (limit + 1)

def Document.nested : Document :=
  .ofYaml (.sequence [.string "x", .sequence [.sequence [.string "y"]], .string "x"])

theorem Document.nested_namesDistinct : nested.NamesDistinct :=
  namesDistinct_of_lt_size (by decide +kernel)

theorem filter_and_negation_partition_results_nested :
    results .nested 1 [⟨.children, []⟩] .empty = .ok [⟨1, "0"⟩, ⟨4, "1"⟩, ⟨5, "2"⟩] ∧
      results .nested 1 [⟨.children, [.equals "x"]⟩] .empty = .ok [⟨1, "0"⟩, ⟨5, "2"⟩] ∧
      results .nested 1 [⟨.children, [.negated (.equals "x")]⟩] .empty = .ok [⟨4, "1"⟩] ∧
      results .nested 2 [⟨.children, [.equals "x"]⟩, ⟨.descendants, []⟩] .empty =
        .ok [⟨1, "0"⟩, ⟨5, "2"⟩] ∧
      (¬ ∃ ms, results .nested 2 [⟨.children, []⟩, ⟨.descendants, []⟩] .empty = .ok ms) ∧
      evaluate .nested 1 [⟨.children, [.equals "x", .equals "x"]⟩] .empty =
        evaluate .nested 1 [⟨.children, [.equals "x"]⟩] .empty := by
  have shares (back : List Query.Part) (limit : Nat) := filter_and_negation_partition_results .nested
    (Document.ofYaml_sound _).wellFormed.acyclic Document.nested_namesDistinct [] back .children []
    (.equals "x") limit .empty .empty .empty
  obtain ⟨both, parted, same⟩ := shares [] 1
  have all : results .nested 1 [⟨.children, []⟩] .empty = .ok [⟨1, "0"⟩, ⟨4, "1"⟩, ⟨5, "2"⟩] := by
    decide +kernel
  obtain ⟨⟨yes, accepted⟩, no, refused⟩ := both.mp ⟨_, all⟩
  obtain ⟨rfl, rfl⟩ := (parted _ yes no all accepted refused).1 rfl
  refine ⟨all, accepted, refused, by decide +kernel, fun deep => ?_, same _ (by simp)⟩
  obtain ⟨-, no, found⟩ := (shares [⟨.descendants, []⟩] 2).1.mp deep
  have fails : results .nested 2 [⟨.children, [.negated (.equals "x")]⟩, ⟨.descendants, []⟩] .empty =
      .error (.depthExceeded 2) := by decide +kernel
  cases fails.symm.trans found

end PathQuery
