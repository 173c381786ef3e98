import PathQuery.Document.Json
import PathQuery.Document.Yaml
import PathQuery.Proofs.Document.Position

/-!
Values made bottom up. Without cycles, no walk down the references meets a node
twice, so it ends within as many levels as there are nodes. The bound on the
levels is then never met, and what is made of a node is made of what is made of
the nodes it refers to.
-/
namespace PathQuery.Document

variable {doc : Document} {id : NodeId}

def EndsWithin (doc : Document) : Nat → NodeId → Prop
  | 0, _ => False
  | levels + 1, id => ∀ r ∈ (doc.get id).refs, doc.EndsWithin levels r

open Classical in
noncomputable def reachable (doc : Document) (id : NodeId) : Finset NodeId :=
  (Finset.range doc.size).filter (Relation.ReflTransGen doc.Refers id)

theorem mem_reachable {x : NodeId} :
    x ∈ doc.reachable id ↔ x < doc.size ∧ Relation.ReflTransGen doc.Refers id x := by
  simp [reachable]

theorem Acyclic.card_reachable_lt (acyclic : doc.Acyclic) {r : NodeId} (h : doc.Refers id r) :
    (doc.reachable r).card < (doc.reachable id).card := by
  apply Finset.card_lt_card
  rw [Finset.ssubset_iff_of_subset]
  · refine ⟨id, mem_reachable.mpr ⟨?_, .refl⟩, fun back => ?_⟩
    · by_contra outside
      exact not_refers_of_size_le (Nat.le_of_not_lt outside) h
    · exact acyclic id (.head' h (mem_reachable.mp back).2)
  · intro x hx
    obtain ⟨inside, below⟩ := mem_reachable.mp hx
    exact mem_reachable.mpr ⟨inside, .head h below⟩

theorem Acyclic.endsWithin_of_size_lt (acyclic : doc.Acyclic) (id : NodeId) {levels : Nat}
    (enough : doc.size < levels) : doc.EndsWithin levels id := by
  -- Each step down leaves fewer nodes to meet, and at first there are no more than in the arena.
  have ends (levels : Nat) : ∀ id, (doc.reachable id).card < levels → doc.EndsWithin levels id := by
    induction levels with
    | zero => exact fun id h => absurd h (Nat.not_lt_zero _)
    | succ levels ih =>
      intro id h r hr
      have fewer := acyclic.card_reachable_lt hr
      exact ih r (by omega)
  apply ends
  have card : (doc.reachable id).card ≤ (Finset.range doc.size).card :=
    Finset.card_le_card fun _ hx => Finset.mem_range.mpr (mem_reachable.mp hx).1
  rw [Finset.card_range] at card
  omega

theorem Acyclic.endsWithin (acyclic : doc.Acyclic) (id : NodeId) :
    doc.EndsWithin (doc.size + 1) id := acyclic.endsWithin_of_size_lt id (Nat.lt_succ_self _)

section Fold

variable {α : Type} {step : Node → (NodeId → α) → α} {stop : α}

/-- A step needs only what was made of the nodes that its node refers to. -/
def UsesRefs (step : Node → (NodeId → α) → α) : Prop :=
  ∀ (node : Node) (f g : NodeId → α), (∀ r ∈ node.refs, f r = g r) → step node f = step node g

theorem foldWithin_eq (uses : UsesRefs step) {levels more : Nat} (h : doc.EndsWithin levels id)
    (hle : levels ≤ more) :
    doc.foldWithin step stop more id = doc.foldWithin step stop levels id := by
  induction levels generalizing more id with
  | zero => exact h.elim
  | succ levels ih =>
    cases more with
    | zero => omega
    | succ more => exact uses _ _ _ fun r hr => ih (h r hr) (by omega)

/-- What is made of a node is one step from what is made of the nodes it refers to. -/
theorem fold_eq (uses : UsesRefs step) (acyclic : doc.Acyclic) (id : NodeId) :
    doc.fold step stop id = step (doc.get id) (doc.fold step stop) := by
  refine uses _ _ _ fun r hr => ?_
  exact (foldWithin_eq uses (acyclic.endsWithin id r hr) (Nat.le_succ _)).symm

end Fold

section Entries

variable {α β : Type} {f g : NodeId → α}

theorem map_mapping_congr {entries : List (String × NodeId)}
    (same : ∀ r ∈ (Node.mapping entries).refs, f r = g r) (entry : String → α → β) :
    (entries.map fun e => entry e.1 (f e.2)) = entries.map fun e => entry e.1 (g e.2) := by
  simp only [Node.refs, List.forall_mem_map] at same
  exact List.map_congr_left fun e he => by rw [same e he]

theorem map_genericMapping_congr {entries : List (NodeId × NodeId)}
    (same : ∀ r ∈ (Node.genericMapping entries).refs, f r = g r) (entry : NodeId → α → α → β) :
    (entries.map fun e => entry e.1 (f e.1) (f e.2)) =
      entries.map fun e => entry e.1 (g e.1) (g e.2) := by
  simp only [Node.refs, List.forall_mem_flatMap, List.forall_mem_cons] at same
  exact List.map_congr_left fun e he => by rw [(same e he).1, (same e he).2.1]

end Entries

theorem usesRefs_jsonOf (doc : Document) : UsesRefs doc.jsonOf := by
  intro node f g same
  cases node with
  | sequence items => exact congrArg Json.array (List.map_congr_left same)
  | mapping entries => exact congrArg objectOf (map_mapping_congr same Prod.mk)
  | genericMapping entries =>
    have keys := map_genericMapping_congr same fun id k _ => textOf (doc.get id) k
    have values := map_genericMapping_congr same fun _ _ v => v
    simp only [jsonOf, keys, values]
  | _ => rfl

theorem usesRefs_yamlOf : UsesRefs yamlOf := by
  intro node f g same
  cases node with
  | sequence items => exact congrArg Yaml.sequence (List.map_congr_left same)
  | mapping entries =>
    exact congrArg yamlMapping (map_mapping_congr same fun name v => (Yaml.string name, v))
  | genericMapping entries =>
    exact congrArg yamlMapping (map_genericMapping_congr same fun _ k v => (k, v))
  | _ => rfl

theorem toJson_eq (acyclic : doc.Acyclic) (id : NodeId) :
    doc.toJson id = doc.jsonOf (doc.get id) doc.toJson := fold_eq (usesRefs_jsonOf doc) acyclic id

theorem toYaml_eq (acyclic : doc.Acyclic) (id : NodeId) :
    doc.toYaml id = yamlOf (doc.get id) doc.toYaml := fold_eq usesRefs_yamlOf acyclic id

end PathQuery.Document
