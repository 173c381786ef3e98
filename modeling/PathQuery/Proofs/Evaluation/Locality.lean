import PathQuery.Proofs.Evaluation.Depth
import PathQuery.Proofs.Evaluation.Identity

/-!
What is below a position does not depend on what is above it. Below a position
the document is the one that has its node as the root, so parts that never step
up go on from there as they would from that root, with the levels that are left.
Their results are those below that root, with the path of the position in front.
-/
namespace PathQuery

variable {doc : Document} {p : Position} {node : NodeId}

namespace Document

section Root

variable (doc : Document) (root : NodeId)

theorem setRoot_foldWithin {α : Type} (step : Node → (NodeId → α) → α) (stop : α) (levels : Nat)
    (id : NodeId) :
    (doc.setRoot root).foldWithin step stop levels id = doc.foldWithin step stop levels id := by
  induction levels generalizing id with
  | zero => rfl
  | succ levels ih => exact congrArg (step (doc.get id)) (funext ih)

theorem setRoot_textAt (id : NodeId) : (doc.setRoot root).textAt id = doc.textAt id := by
  have json : (doc.setRoot root).toJson id = doc.toJson id :=
    doc.setRoot_foldWithin root doc.jsonOf .null (doc.size + 1) id
  exact congrArg (textOf (doc.get id)) json

theorem setRoot_keyNodeText (id : NodeId) :
    (doc.setRoot root).keyNodeText id = doc.keyNodeText id := by
  simp only [keyNodeText, setRoot_textAt]
  rfl

theorem setRoot_segment (parent : Node) (key : Key) :
    (doc.setRoot root).segment parent key = doc.segment parent key := by
  cases key with
  | entry id place =>
    simp only [segment, keyText, isShadowed, setRoot_keyNodeText]
    rfl
  | _ => rfl

theorem setRoot_denotes (text : String) :
    (doc.setRoot root).denotes text = doc.denotes text := by
  funext key
  cases key with
  | entry id place =>
    simp only [denotes, keyMatches, setRoot_textAt]
    rfl
  | _ => rfl

theorem setRoot_nodeFrom? (id : NodeId) (p : Position) :
    (doc.setRoot root).nodeFrom? id p = doc.nodeFrom? id p := by
  induction p generalizing id with
  | nil => rfl
  | cons key p ih =>
    exact congrArg (((doc.get id).child? key).bind ·) (funext ih)

theorem setRoot_segmentsFrom (id : NodeId) (p : Position) :
    (doc.setRoot root).segmentsFrom id p = doc.segmentsFrom id p := by
  induction p generalizing id with
  | nil => rfl
  | cons key p ih =>
    simp only [segmentsFrom, setRoot_segment, ih]
    rfl

end Root

theorem Acyclic.setRoot (h : doc.Acyclic) (root : NodeId) : (doc.setRoot root).Acyclic := h

theorem NamesDistinct.setRoot (h : doc.NamesDistinct) (root : NodeId) :
    (doc.setRoot root).NamesDistinct := h

theorem nodeAt?_append (h : doc.nodeAt? p = some node) (q : Position) :
    doc.nodeAt? (p ++ q) = (doc.setRoot node).nodeAt? q := by
  have below : doc.nodeFrom? doc.root p = some node := h
  rw [nodeAt?, nodeFrom?_append, below, Option.bind_some, nodeAt?, setRoot_nodeFrom?]
  rfl

theorem valueAt_append (h : doc.nodeAt? p = some node) (q : Position) :
    doc.valueAt (p ++ q) = (doc.setRoot node).valueAt q := by
  rw [valueAt, nodeAt?_append h]
  rfl

theorem keysAt_append (h : doc.nodeAt? p = some node) (q : Position) :
    doc.keysAt (p ++ q) = (doc.setRoot node).keysAt q := by
  rw [keysAt, valueAt_append h, keysAt]

theorem childrenAt_append (h : doc.nodeAt? p = some node) (q : Position) :
    doc.childrenAt (p ++ q) = ((doc.setRoot node).childrenAt q).map (p ++ ·) := by
  rw [childrenAt, keysAt_append h, childrenAt, List.map_map]
  simp only [Function.comp_def, List.append_assoc]

theorem subtree_append (acyclic : doc.Acyclic) (h : doc.nodeAt? p = some node) (q : Position) :
    doc.subtree acyclic (p ++ q) =
      ((doc.setRoot node).subtree (acyclic.setRoot node) q).map (p ++ ·) := by
  induction q using (acyclic.setRoot node).wellFounded_childrenAt.induction with
  | _ q ih =>
    rw [subtree_eq, subtree_eq, childrenAt_append h, List.map_cons, List.flatMap_map,
      List.map_flatMap]
    exact congrArg _ (List.flatMap_congr ih)

theorem selectAt_append (acyclic : doc.Acyclic) (h : doc.nodeAt? p = some node) (q : Position)
    {specifier : Query.Specifier} (down : specifier ≠ .parent) :
    doc.selectAt acyclic (p ++ q) specifier =
      ((doc.setRoot node).selectAt (acyclic.setRoot node) q specifier).map (p ++ ·) := by
  cases specifier with
  | parent => exact absurd rfl down
  | children => exact childrenAt_append h q
  | descendants => exact subtree_append acyclic h q
  | literal text =>
    simp only [selectAt, keysAt_append h, setRoot_denotes, List.map_map, Function.comp_def,
      List.append_assoc]

theorem positions_append (acyclic : doc.Acyclic) (h : doc.nodeAt? p = some node)
    {parts : List Query.Part} (down : ∀ part ∈ parts, part.specifier ≠ .parent) (q : Position) :
    doc.positions acyclic parts (p ++ q) =
      ((doc.setRoot node).positions (acyclic.setRoot node) parts q).map (p ++ ·) := by
  induction parts generalizing q with
  | nil => rfl
  | cons part rest ih =>
    have first := selectAt_append acyclic h q (down part List.mem_cons_self)
    have others := ih fun r hr => down r (List.mem_cons_of_mem part hr)
    have accepts : (fun r => Query.acceptAll part.filters (doc.valueAt r)) ∘ (p ++ ·) =
        fun r => Query.acceptAll part.filters ((doc.setRoot node).valueAt r) :=
      funext fun r => congrArg (Query.acceptAll part.filters) (valueAt_append h r)
    rw [positions, first, List.filter_map, accepts, List.flatMap_map, positions, List.map_flatMap]
    exact List.flatMap_congr fun r _ => others r

theorem positions_parts_append (acyclic : doc.Acyclic) (parts rest : List Query.Part)
    (p : Position) : doc.positions acyclic (parts ++ rest) p =
      (doc.positions acyclic parts p).flatMap (doc.positions acyclic rest) := by
  induction parts generalizing p with
  | nil => simp [positions]
  | cons part parts ih =>
    rw [List.cons_append, positions, positions, List.flatMap_assoc]
    exact List.flatMap_congr fun q _ => ih q

theorem needs_parts_append (acyclic : doc.Acyclic) (parts rest : List Query.Part) (levels : Nat)
    (p : Position) : doc.Needs acyclic (parts ++ rest) levels p ↔
      doc.Needs acyclic parts levels p ∨
        ∃ q ∈ doc.positions acyclic parts p, doc.Needs acyclic rest (levels - parts.length) q := by
  induction parts generalizing levels p with
  | nil =>
    cases levels with
    | zero => exact iff_of_true (doc.needs_zero ..) (.inl (doc.needs_zero ..))
    | succ levels => simp [positions, not_needs_nil]
  | cons part parts ih =>
    cases levels with
    | zero => exact iff_of_true (doc.needs_zero ..) (.inl (doc.needs_zero ..))
    | succ levels =>
      have later : (∃ q ∈ doc.positions acyclic (part :: parts) p,
            doc.Needs acyclic rest (levels - parts.length) q) ↔
          ∃ q ∈ doc.selectAt acyclic p part.specifier,
            Query.acceptAll part.filters (doc.valueAt q) ∧
              ∃ r ∈ doc.positions acyclic parts q,
                doc.Needs acyclic rest (levels - parts.length) r := by
        simp only [mem_positions_cons]
        tauto
      rw [List.cons_append, needs_cons, needs_cons, or_assoc, List.length_cons,
        Nat.add_sub_add_right, later]
      simp only [ih, and_or_left, exists_or]

theorem needs_append (acyclic : doc.Acyclic) (h : doc.nodeAt? p = some node)
    {parts : List Query.Part} (down : ∀ part ∈ parts, part.specifier ≠ .parent) (levels : Nat)
    (q : Position) : doc.Needs acyclic parts levels (p ++ q) ↔
      (doc.setRoot node).Needs (acyclic.setRoot node) parts levels q := by
  have reach (i : Nat) : doc.positions acyclic (parts.take i) (p ++ q) =
      ((doc.setRoot node).positions (acyclic.setRoot node) (parts.take i) q).map (p ++ ·) :=
    positions_append acyclic h (fun part hpart => down part (List.mem_of_mem_take hpart)) q
  simp only [Needs, reach, List.mem_map, exists_exists_and_eq_and, List.append_assoc,
    nodeAt?_append h]

theorem segment_ne_empty (doc : Document) (parent : Node) (key : Key) :
    doc.segment parent key ≠ "" := by
  intro h
  refine (keyPieces_piece doc parent key [] ?_).ne_nil rfl
  unfold keyPieces
  rw [h]
  split <;> simp

theorem segmentsFrom_ne_nil (doc : Document) (id : NodeId) (h : p ≠ []) :
    doc.segmentsFrom id p ≠ [] := by
  cases p with
  | nil => exact absurd rfl h
  | cons key p => exact List.cons_ne_nil _ _

theorem pathAt_eq_empty_iff (doc : Document) (p : Position) : doc.pathAt p = "" ↔ p = [] := by
  cases p with
  | nil => exact iff_of_true rfl rfl
  | cons key p =>
    refine iff_of_false ?_ (List.cons_ne_nil key p)
    have here := doc.segment_ne_empty (doc.get doc.root) key
    rw [pathAt, segmentsFrom]
    cases (((doc.get doc.root).child? key).map fun child => doc.segmentsFrom child p).getD [] with
    | nil => simpa using here
    | cons next rest => simp [String.intercalate_cons_cons, here]

end Document

/-- Two paths, one behind the other; the path of the root is empty and needs no dot. -/
def joinPaths (front back : String) : String :=
  if front = "" then back else if back = "" then front else front ++ "." ++ back

theorem Document.pathAt_append (h : doc.nodeAt? p = some node) (q : Position) :
    doc.pathAt (p ++ q) = joinPaths (doc.pathAt p) ((doc.setRoot node).pathAt q) := by
  simp only [joinPaths, pathAt_eq_empty_iff]
  split
  · next hp =>
    subst hp
    obtain rfl : doc.root = node := Option.some.inj h
    rfl
  split
  · next hq => rw [hq, List.append_nil]
  · next hp hq =>
    have segments : (doc.setRoot node).segmentsFrom node q = doc.segmentsFrom node q :=
      doc.setRoot_segmentsFrom node node q
    rw [pathAt, segmentsFrom_append h, String.intercalate_append_of_ne_nil
      (segmentsFrom_ne_nil doc doc.root hp) (segmentsFrom_ne_nil doc node hq), ← segments]
    rfl

/-- A result below the node of another one, as it is found from where that one was found. -/
def Match.under (outer inner : Match) : Match := ⟨inner.node, joinPaths outer.path inner.path⟩

theorem Document.matchAt_append (h : doc.nodeAt? p = some node) (q : Position) :
    doc.matchAt (p ++ q) = (doc.matchAt p).under ((doc.setRoot node).matchAt q) := by
  rw [matchAt, nodeAt?_append h, pathAt_append h]
  rfl

theorem Document.map_matchAt_positions (acyclic : doc.Acyclic) (h : doc.nodeAt? p = some node)
    {parts : List Query.Part} (down : ∀ part ∈ parts, part.specifier ≠ .parent) :
    (doc.positions acyclic parts p).map doc.matchAt =
      (((doc.setRoot node).positions (acyclic.setRoot node) parts []).map
        (doc.setRoot node).matchAt).map (doc.matchAt p).under := by
  have below := positions_append acyclic h down []
  rw [List.append_nil] at below
  rw [below, List.map_map, List.map_map]
  exact List.map_congr_left fun q _ => matchAt_append h q

def results (doc : Document) (limit : Nat) (parts : List Query.Part) (t : Trail) :
    Except EvaluationError (List Match) :=
  let (t, found) := evaluate doc limit parts t
  found.map fun ids => ids.map (t.matchAt doc)

theorem select_ordered_eq_results (doc : Document) (parts : List Query.Part) (limit : Nat) :
    select doc parts .ordered limit = results doc limit parts .empty := rfl

theorem select_unique_eq_results (doc : Document) (parts : List Query.Part) (limit : Nat) :
    select doc parts .unique limit = (results doc limit parts .empty).map (firstByPath []) := by
  unfold select results
  cases evaluate doc limit parts .empty with
  | mk t found => cases found <;> rfl

section Results

variable {parts : List Query.Part} {limit : Nat}

theorem results_of_needs (distinct : doc.NamesDistinct) {acyclic : doc.Acyclic}
    (h : doc.Needs acyclic parts (limit + 1) []) (t : Trail) :
    results doc limit parts t = .error (.depthExceeded limit) := by
  have fails := (evaluate_failsIff distinct acyclic limit parts t).fails h
  simp only [results, fails]
  rfl

theorem results_of_not_needs (distinct : doc.NamesDistinct) {acyclic : doc.Acyclic}
    (h : ¬ doc.Needs acyclic parts (limit + 1) []) (t : Trail) :
    results doc limit parts t = .ok ((doc.positions acyclic parts []).map doc.matchAt) := by
  obtain ⟨ids, hids⟩ := (evaluate_failsIff distinct acyclic limit parts t).succeeds h
  have found := (evaluate_finds distinct acyclic limit parts t).2 ids hids
  rw [← map_matchAt_of_standsFor found]
  simp only [results, hids]
  rfl

theorem results_of_ok (distinct : doc.NamesDistinct) (acyclic : doc.Acyclic) {t : Trail}
    {ms : List Match} (h : results doc limit parts t = .ok ms) :
    ¬ doc.Needs acyclic parts (limit + 1) [] ∧
      ms = (doc.positions acyclic parts []).map doc.matchAt := by
  by_cases deep : doc.Needs acyclic parts (limit + 1) []
  · cases h.symm.trans (results_of_needs distinct deep t)
  · exact ⟨deep, Except.ok.inj (h.symm.trans (results_of_not_needs distinct deep t))⟩

theorem select_unique_of_not_needs (distinct : doc.NamesDistinct) {acyclic : doc.Acyclic}
    (h : ¬ doc.Needs acyclic parts (limit + 1) []) :
    select doc parts .unique limit =
      .ok (firstByPath [] ((doc.positions acyclic parts []).map doc.matchAt)) := by
  rw [select_unique_eq_results, results_of_not_needs distinct h]
  rfl

theorem select_unique_of_ok (distinct : doc.NamesDistinct) (acyclic : doc.Acyclic)
    {ms : List Match} (h : select doc parts .unique limit = .ok ms) :
    ¬ doc.Needs acyclic parts (limit + 1) [] ∧
      ms = firstByPath [] ((doc.positions acyclic parts []).map doc.matchAt) := by
  rw [select_unique_eq_results] at h
  cases found : results doc limit parts .empty with
  | error e =>
    rw [found] at h
    cases h
  | ok all =>
    obtain ⟨shallow, rfl⟩ := results_of_ok distinct acyclic found
    rw [found] at h
    exact ⟨shallow, (Except.ok.inj h).symm⟩

theorem results_fails_iff (distinct : doc.NamesDistinct) (acyclic : doc.Acyclic) (t : Trail) :
    (∃ e, results doc limit parts t = .error e) ↔ doc.Needs acyclic parts (limit + 1) [] := by
  refine ⟨fun ⟨e, he⟩ => ?_, fun h => ⟨_, results_of_needs distinct h t⟩⟩
  by_contra h
  cases he.symm.trans (results_of_not_needs distinct h t)

theorem results_succeeds_iff (distinct : doc.NamesDistinct) (acyclic : doc.Acyclic) (t : Trail) :
    (∃ ms, results doc limit parts t = .ok ms) ↔ ¬ doc.Needs acyclic parts (limit + 1) [] :=
  ⟨fun ⟨_, h⟩ => (results_of_ok distinct acyclic h).1, fun h => ⟨_, results_of_not_needs distinct h t⟩⟩

theorem nodeAt?_of_mem_positions (distinct : doc.NamesDistinct) {acyclic : doc.Acyclic}
    (h : ¬ doc.Needs acyclic parts (limit + 1) []) (hp : p ∈ doc.positions acyclic parts []) :
    doc.nodeAt? p = some (doc.matchAt p).node := by
  obtain ⟨ids, hids⟩ := (evaluate_failsIff distinct acyclic limit parts .empty).succeeds h
  obtain ⟨id, -, stands⟩ := exists_standsFor_of_mem
    ((evaluate_finds distinct acyclic limit parts .empty).2 ids hids) hp
  rw [Document.matchAt, stands.nodeAt?, Option.getD_some]

theorem needs_behind_parts (acyclic : doc.Acyclic) {rest : List Query.Part}
    (down : ∀ part ∈ rest, part.specifier ≠ .parent)
    (h : ¬ doc.Needs acyclic parts (limit + 1) []) (hp : p ∈ doc.positions acyclic parts [])
    (hnode : doc.nodeAt? p = some node) :
    doc.Needs acyclic rest (limit + 1 - parts.length) p ↔
      (doc.setRoot node).Needs (acyclic.setRoot node) rest (limit - parts.length + 1) [] := by
  have fits : parts.length ≤ limit := by
    by_contra beyond
    refine h ⟨parts.length, Nat.le_refl _, p, ?_, .inl (by omega)⟩
    rwa [List.take_length]
  rw [Nat.sub_add_comm fits]
  have below := Document.needs_append acyclic hnode down (limit - parts.length + 1) []
  rwa [List.append_nil] at below

theorem needs_iff_results_fail (distinct : doc.NamesDistinct) (acyclic : doc.Acyclic)
    {rest : List Query.Part} (down : ∀ part ∈ rest, part.specifier ≠ .parent)
    (h : ¬ doc.Needs acyclic parts (limit + 1) []) (t : Trail) :
    doc.Needs acyclic (parts ++ rest) (limit + 1) [] ↔
      ∃ m ∈ (doc.positions acyclic parts []).map doc.matchAt,
        ∃ e, results (doc.setRoot m.node) (limit - parts.length) rest t = .error e := by
  simp only [Document.needs_parts_append, or_iff_right h, List.mem_map, exists_exists_and_eq_and]
  refine exists_congr fun p => and_congr_right fun hp => ?_
  rw [needs_behind_parts acyclic down h hp (nodeAt?_of_mem_positions distinct h hp)]
  exact (results_fails_iff (distinct.setRoot _) (acyclic.setRoot _) t).symm

end Results

/-- Parts that never step up, behind other parts, are evaluated from each of their results as they
would be if its node were the root, with the levels that are left. Evaluation fails if it fails there;
otherwise the results from there are put one behind the other, each with the path of the result that
it was found from in front. -/
theorem evaluate_append_is_local (doc : Document) (acyclic : doc.Acyclic)
    (distinct : doc.NamesDistinct) (parts rest : List Query.Part)
    (down : ∀ part ∈ rest, part.specifier ≠ .parent) (limit : Nat) (t u v : Trail) :
    (∀ e, results doc limit parts t = .error e → results doc limit (parts ++ rest) u = .error e) ∧
      ∀ ms, results doc limit parts t = .ok ms →
        ((∃ e, results doc limit (parts ++ rest) u = .error e) ↔
          ∃ m ∈ ms, ∃ e, results (doc.setRoot m.node) (limit - parts.length) rest v = .error e) ∧
        ∀ below : Match → List Match,
          (∀ m ∈ ms, results (doc.setRoot m.node) (limit - parts.length) rest v = .ok (below m)) →
            results doc limit (parts ++ rest) u = .ok (ms.flatMap fun m => (below m).map m.under) := by
  refine ⟨fun e he => ?_, fun ms hms => ?_⟩
  · have deep := (results_fails_iff distinct acyclic t).mp ⟨e, he⟩
    have deeper := (Document.needs_parts_append acyclic parts rest _ _).mpr (.inl deep)
    rw [← he, results_of_needs distinct deep, results_of_needs distinct deeper]
  obtain ⟨shallow, rfl⟩ := results_of_ok distinct acyclic hms
  have fails := needs_iff_results_fail distinct acyclic down shallow v
  refine ⟨(results_fails_iff distinct acyclic u).trans fails, fun below hbelow => ?_⟩
  -- No walk from a result fails, so there are levels for all parts, and positions give the results.
  have enough : ¬ doc.Needs acyclic (parts ++ rest) (limit + 1) [] := fun deep => by
    obtain ⟨m, hm, e, he⟩ := fails.mp deep
    cases (hbelow m hm).symm.trans he
  rw [results_of_not_needs distinct enough u, Document.positions_parts_append, List.map_flatMap,
    List.flatMap_map]
  refine congrArg Except.ok (List.flatMap_congr fun p hp => ?_)
  obtain ⟨-, found⟩ := results_of_ok (distinct.setRoot _) (acyclic.setRoot _)
    (hbelow _ (List.mem_map_of_mem hp))
  have here := nodeAt?_of_mem_positions distinct shallow hp
  rw [Document.map_matchAt_positions acyclic here down, found]

theorem evaluate_append_is_local_sharing :
    (∃ e, select .sharing [⟨.descendants, []⟩, ⟨.descendants, []⟩, ⟨.literal "1", []⟩] .ordered 2 =
        .error e) ∧
      select .sharing [⟨.descendants, []⟩, ⟨.descendants, []⟩, ⟨.literal "1", []⟩] .ordered 3 =
        .ok [⟨0, "\"a\".1"⟩, ⟨0, "\"b\".1"⟩, ⟨0, "\"a\".1"⟩, ⟨0, "\"b\".1"⟩] := by
  have below (limit : Nat) := evaluate_append_is_local .sharing Document.sharing_wellFormed.acyclic
    Document.sharing_namesDistinct [⟨.descendants, []⟩] [⟨.descendants, []⟩, ⟨.literal "1", []⟩]
    (by decide) limit .empty .empty .empty
  have first : ∀ limit ∈ [2, 3], results .sharing limit [⟨.descendants, []⟩] .empty =
      .ok [⟨3, ""⟩, ⟨2, "\"a\""⟩, ⟨1, "\"a\".0"⟩, ⟨0, "\"a\".1"⟩, ⟨2, "\"b\""⟩, ⟨1, "\"b\".0"⟩,
        ⟨0, "\"b\".1"⟩] := by decide +kernel
  simp only [select_ordered_eq_results]
  constructor
  · have fails := ((below 2).2 _ (first 2 (by decide))).1
    exact fails.mpr ⟨⟨3, ""⟩, List.mem_cons_self, .depthExceeded 1, by decide +kernel⟩
  · have found := ((below 3).2 _ (first 3 (by decide))).2 fun m =>
      if m.node = 3 then [⟨0, "\"a\".1"⟩, ⟨0, "\"b\".1"⟩]
      else if m.node = 2 then [⟨0, "1"⟩] else []
    exact (found (by decide +kernel)).trans (by decide +kernel)

end PathQuery
