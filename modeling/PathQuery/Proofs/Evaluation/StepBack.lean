import PathQuery.Proofs.Evaluation.Locality
import PathQuery.Proofs.Evaluation.Lookup

/-!
Stepping into a child and back out. The link of a child leads to the very element
that it was reached from, so behind the two steps there is that element again, once
for each child that was accepted. What comes behind is found that many times.
-/
namespace PathQuery

variable {doc : Document} {t t' : Trail} {id : ElementId} {p : Position}
variable {error : EvaluationError} {part : Query.Part} {back : List Query.Part}

namespace Document

/-- How many children of a node a part selects and accepts. -/
def countAccepted (doc : Document) (part : Query.Part) (node : Node) : Nat :=
  (doc.chosen node part.specifier).countP fun c => Query.acceptAll part.filters (doc.get c.2)

theorem countAccepted_le_one (doc : Document) {node : Node} {text : String}
    (literal : part.specifier = .literal text) (plain : node.isGeneric = false) :
    doc.countAccepted part node ≤ 1 := by
  rw [countAccepted, literal]
  exact List.countP_le_length.trans (length_lookup_le_one plain doc text)

end Document

theorem Walk.each_of_still {walk : ElementId → Trail → Walk} {found : ElementId → List ElementId}
    {ids : List ElementId} (still : ∀ id ∈ ids, walk id t = (t, .ok (found id))) :
    Walk.each walk ids t = (t, .ok (ids.flatMap found)) := by
  induction ids with
  | nil => rfl
  | cons id ids ih =>
    have rest := ih fun x hx => still x (List.mem_cons_of_mem id hx)
    simp only [Walk.each, still id List.mem_cons_self, rest, List.flatMap_cons]

theorem flatMap_ite_singleton {α β : Type} (l : List α) (accepts : α → Bool) (x : β) :
    (l.flatMap fun a => if accepts a then [x] else []) = List.replicate (l.countP accepts) x := by
  rw [← Evaluation.flatMap_filter l accepts fun _ => [x], ← List.map_eq_flatMap, List.map_const',
    List.countP_eq_length_filter]

namespace Evaluation

theorem follow_back {child : ElementId} (h : (t.get child).parent? = some id) (budget : Nat) :
    follow doc error [⟨.parent, []⟩] (budget + 2) child t = (t, .ok [id]) := by
  simp only [follow, select, h]
  rfl

theorem follow_down_and_back (doc : Document) (t : Trail) (id : ElementId)
    (down : part.specifier.StepsDown) (error : EvaluationError) (budget : Nat) :
    ∃ s, follow doc error [part, ⟨.parent, []⟩] (budget + 3) id t =
      (s, .ok (List.replicate (doc.countAccepted part (doc.get (t.get id).node)) id)) := by
  obtain ⟨s, children, selected, elements⟩ := selects_chosen doc t id down error
    (budget + 3)
  have linked (c : ElementId) (hc : c ∈ children) : (s.get c).parent? = some id := by
    have new : s.get c ∈ children.map s.get := List.mem_map_of_mem hc
    rw [elements] at new
    obtain ⟨_, -, heq⟩ := List.mem_map.mp new
    rw [← heq]
    rfl
  -- The step back adds no element, so behind every child the trail is `s` again.
  have still (c : ElementId) (hc : c ∈ children) :
      (if Query.acceptAll part.filters (doc.get (s.get c).node) then
        follow doc error [⟨.parent, []⟩] (budget + 2) c s else (s, .ok [])) =
      (s, .ok (if Query.acceptAll part.filters (doc.get (s.get c).node) then [id] else [])) := by
    rw [follow_back (linked c hc)]
    split <;> rfl
  have counted : children.countP (fun c => Query.acceptAll part.filters (doc.get (s.get c).node)) =
      doc.countAccepted part (doc.get (t.get id).node) := by
    have same := congrArg
      (List.countP fun e : Element => Query.acceptAll part.filters (doc.get e.node)) elements
    rwa [List.countP_map, List.countP_map] at same
  refine ⟨s, ?_⟩
  rw [follow, selected, ← counted, ← flatMap_ite_singleton]
  exact Walk.each_of_still still

end Evaluation

theorem Document.positions_down_and_back (distinct : doc.NamesDistinct) (acyclic : doc.Acyclic)
    (down : part.specifier.StepsDown) (h : t.StandsFor doc id p) :
    doc.positions acyclic [part, ⟨.parent, []⟩] p =
      List.replicate (doc.countAccepted part (doc.get (t.get id).node)) p := by
  obtain ⟨s, found⟩ := Evaluation.follow_down_and_back doc t id down (.depthExceeded 0) 0
  have finds := Evaluation.follow_finds distinct acyclic (.depthExceeded 0) [part, ⟨.parent, []⟩] 3 h
  rw [found] at finds
  obtain ⟨grows, stands⟩ := Walk.finds_ok.mp finds
  rw [← map_position_of_standsFor stands, List.map_replicate, (h.kept grows.kept).position_eq]

theorem Document.positions_front_down_and_back (distinct : doc.NamesDistinct) (acyclic : doc.Acyclic)
    (down : part.specifier.StepsDown) {front : List Query.Part} {ids : List ElementId}
    (found : List.Forall₂ (t.StandsFor doc) ids (doc.positions acyclic front [])) :
    doc.positions acyclic (front ++ [part, ⟨.parent, []⟩]) [] = ids.flatMap fun e =>
      List.replicate (doc.countAccepted part (doc.get (t.get e).node)) (t.position e) := by
  rw [positions_parts_append, ← map_position_of_standsFor found, List.flatMap_map]
  exact List.flatMap_congr fun e he =>
    positions_down_and_back distinct acyclic down (standsFor_position found he)

theorem Document.positions_behind_back (distinct : doc.NamesDistinct) (acyclic : doc.Acyclic)
    (down : part.specifier.StepsDown) {front : List Query.Part} {ids : List ElementId}
    (found : List.Forall₂ (t.StandsFor doc) ids (doc.positions acyclic front []))
    (back : List Query.Part) :
    doc.positions acyclic (front ++ [part, ⟨.parent, []⟩] ++ back) [] = ids.flatMap fun e =>
      (List.replicate (doc.countAccepted part (doc.get (t.get e).node))
        (doc.positions acyclic back (t.position e))).flatten := by
  rw [positions_parts_append, positions_front_down_and_back distinct acyclic down found,
    List.flatMap_assoc]
  exact List.flatMap_congr fun e _ => List.flatMap_replicate

theorem Document.not_needs_behind_back (distinct : doc.NamesDistinct) (acyclic : doc.Acyclic)
    (down : part.specifier.StepsDown) {front : List Query.Part} {ids : List ElementId}
    (found : List.Forall₂ (t.StandsFor doc) ids (doc.positions acyclic front [])) {limit : Nat}
    (shallow : ¬ doc.Needs acyclic (front ++ [part, ⟨.parent, []⟩] ++ back) (limit + 1) [])
    {e : ElementId} (he : e ∈ ids) (some : doc.countAccepted part (doc.get (t.get e).node) ≠ 0) :
    ¬ doc.Needs acyclic back (limit - (front.length + 1)) (t.position e) := by
  intro deep
  have reached : t.position e ∈ doc.positions acyclic (front ++ [part, ⟨.parent, []⟩]) [] := by
    rw [positions_front_down_and_back distinct acyclic down found]
    exact List.mem_flatMap.mpr ⟨e, he, List.mem_replicate.mpr ⟨some, rfl⟩⟩
  have levels : limit - (front.length + 1) =
      limit + 1 - (front ++ [part, ⟨.parent, []⟩]).length := by
    simp only [List.length_append, List.length_cons, List.length_nil]
    omega
  rw [levels] at deep
  exact shallow ((needs_parts_append acyclic _ _ _ _).mpr (.inr ⟨_, reached, deep⟩))

def Walk.matches (doc : Document) (w : Walk) : Except EvaluationError (List Match) :=
  w.2.map fun ids => ids.map (w.1.matchAt doc)

theorem Evaluation.matches_follow (distinct : doc.NamesDistinct) (acyclic : doc.Acyclic)
    {budget : Nat} {ms : List Match} (h : t.StandsFor doc id p)
    (found : (follow doc error back budget id t).matches doc = .ok ms) :
    ms = (doc.positions acyclic back p).map doc.matchAt := by
  have finds := follow_finds distinct acyclic error back budget h
  cases hw : follow doc error back budget id t with
  | mk s r =>
    rw [hw] at found finds
    cases r with
    | error e => cases found
    | ok ids =>
      rw [← map_matchAt_of_standsFor (Walk.finds_ok.mp finds).2]
      exact (Except.ok.inj found).symm

theorem Evaluation.exists_matches_follow (distinct : doc.NamesDistinct) (acyclic : doc.Acyclic)
    {budget : Nat} (h : t.StandsFor doc id p) (shallow : ¬ doc.Needs acyclic back budget p) :
    ∃ ms, (follow doc error back budget id t).matches doc = .ok ms := by
  obtain ⟨ids, hids⟩ := (follow_failsIff distinct acyclic error back budget h).succeeds shallow
  exact ⟨_, by rw [Walk.matches, hids]; rfl⟩

/-- A step into a child, behind other parts, and a step back out lead to the elements that those
parts lead to, each of them once for each child that is accepted; for one text that is once at most,
unless keys are nodes. So what comes behind is found from each of them that many times in a row, with
the levels that are left. -/
theorem results_of_down_and_back (doc : Document) (acyclic : doc.Acyclic)
    (distinct : doc.NamesDistinct) (front back : List Query.Part) (part : Query.Part)
    (down : part.specifier.StepsDown) (limit limit' : Nat) (t t' u : Trail) (ids : List ElementId)
    (ms : List Match) (first : evaluate doc limit front t = (t', .ok ids))
    (whole : results doc limit' (front ++ [part, ⟨.parent, []⟩] ++ back) u = .ok ms) :
    let copies (e : ElementId) : Nat := doc.countAccepted part (doc.get (t'.get e).node)
    (∀ below : ElementId → List Match,
        (∀ e ∈ ids, copies e ≠ 0 →
          ∃ error budget, (Evaluation.follow doc error back budget e t').matches doc = .ok (below e)) →
        ms = ids.flatMap fun e => (List.replicate (copies e) (below e)).flatten) ∧
      (∀ e ∈ ids, copies e ≠ 0 → ∃ found,
        (Evaluation.follow doc (.depthExceeded limit') back (limit' - (front.length + 1)) e t').matches
          doc = .ok found) ∧
      (∀ e ∈ ids, (∃ text, part.specifier = .literal text) →
        (doc.get (t'.get e).node).isGeneric = false → copies e ≤ 1) ∧
      ∀ e ∈ ids, ∀ error budget, ∃ s,
        Evaluation.follow doc error [part, ⟨.parent, []⟩] (budget + 3) e t' =
          (s, .ok (List.replicate (copies e) e)) := by
  intro copies
  have finds := evaluate_finds distinct acyclic limit front t
  rw [first] at finds
  obtain ⟨-, found⟩ := Walk.finds_ok.mp finds
  obtain ⟨shallow, rfl⟩ := results_of_ok distinct acyclic whole
  refine ⟨fun below hbelow => ?_, fun e he some => ?_, fun e _ literal plain => ?_,
    fun e _ error budget => Evaluation.follow_down_and_back doc t' e down error budget⟩
  · rw [Document.positions_behind_back distinct acyclic down found, List.map_flatMap]
    refine List.flatMap_congr fun e he => ?_
    rw [List.map_flatten, List.map_replicate]
    change (List.replicate (copies e) _).flatten = _
    -- From an element without copies nothing is followed, so no walk from it need succeed.
    by_cases none : copies e = 0
    · rw [none]
      rfl
    · obtain ⟨error, budget, run⟩ := hbelow e he none
      rw [Evaluation.matches_follow distinct acyclic (standsFor_position found he) run]
  · exact Evaluation.exists_matches_follow distinct acyclic (standsFor_position found he)
      (Document.not_needs_behind_back distinct acyclic down found shallow he some)
  · obtain ⟨text, literal⟩ := literal
    exact doc.countAccepted_le_one literal plain

def Document.doubled : Document :=
  .ofYaml (.sequence [
    .mapping [(.integer 1, .string "x"), (.real "1.0", .string "x"), (.string "n", .string "a")],
    .mapping [(.integer 1, .string "y"), (.string "n", .string "b")]])

theorem Document.doubled_namesDistinct : doubled.NamesDistinct :=
  namesDistinct_of_lt_size (by decide +kernel)

theorem results_of_down_and_back_doubled :
    let part : Query.Part := ⟨.literal "1", [.equals "x"]⟩
    ∃ t' ms, evaluate .doubled 1 [⟨.children, []⟩] .empty = (t', .ok [1, 2]) ∧
      results .doubled 4 [⟨.children, []⟩, part, ⟨.parent, []⟩, ⟨.literal "n", []⟩] .empty = .ok ms ∧
      Document.countAccepted .doubled part (Document.get .doubled (t'.get 1).node) = 2 ∧
      Document.countAccepted .doubled part (Document.get .doubled (t'.get 2).node) = 0 ∧
      ms = (List.replicate 2 [⟨6, "0.\"n\""⟩]).flatten ∧
      ∃ s, Evaluation.follow .doubled (.depthExceeded 4) [part, ⟨.parent, []⟩] 3 1 t' =
        (s, .ok [1, 1]) := by
  intro part
  let t' := (evaluate .doubled 1 [⟨.children, []⟩] .empty).1
  have first : evaluate .doubled 1 [⟨.children, []⟩] .empty = (t', .ok [1, 2]) := by rfl
  have whole : results .doubled 4 ([⟨.children, []⟩] ++ [part, ⟨.parent, []⟩] ++
      [⟨.literal "n", []⟩]) .empty = .ok [⟨6, "0.\"n\""⟩, ⟨6, "0.\"n\""⟩] := by decide +kernel
  have both : Document.countAccepted .doubled part (Document.get .doubled (t'.get 1).node) = 2 := by
    decide +kernel
  have neither : Document.countAccepted .doubled part (Document.get .doubled (t'.get 2).node) = 0 := by
    decide +kernel
  have name : (Evaluation.follow .doubled (.depthExceeded 4) [⟨.literal "n", []⟩] 2 1 t').matches
      .doubled = .ok [⟨6, "0.\"n\""⟩] := by decide +kernel
  obtain ⟨copied, -, -, back⟩ := results_of_down_and_back .doubled
    (Document.ofYaml_sound _).wellFormed.acyclic Document.doubled_namesDistinct [⟨.children, []⟩]
    [⟨.literal "n", []⟩] part (.literal "1") 1 4 .empty t' .empty _ _ first whole
  have found := copied (fun _ => [⟨6, "0.\"n\""⟩]) fun e he some => ?_
  · simp only [List.flatMap_cons, both, neither, List.flatMap_nil] at found
    have again := back 1 (by decide) (.depthExceeded 4) 0
    simp only [both] at again
    exact ⟨t', _, first, whole, both, neither, found, again⟩
  · rcases List.mem_pair.mp he with rfl | rfl
    · exact ⟨_, _, name⟩
    · exact absurd neither some

end PathQuery
