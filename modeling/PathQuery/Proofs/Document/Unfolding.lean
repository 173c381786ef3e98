import PathQuery.Proofs.Document.Alike
import PathQuery.Proofs.Document.Generic
import PathQuery.Proofs.Document.Tree

/-!
Content and trees. Nodes with the same tree have the same content. The other way
round a mapping whose keys are texts can be a mapping or a generic one, so it holds
where there are no generic mappings.
-/
namespace PathQuery.Document

variable {doc doc' : Document} {id id' : NodeId}

theorem forall₂_of_map_eq_map {α β γ : Type} {R : α → β → Prop} {f : α → γ} {g : β → γ}
    {l : List α} {l' : List β} (same : l.map f = l'.map g)
    (h : ∀ a ∈ l, ∀ b, f a = g b → R a b) : List.Forall₂ R l l' := by
  induction l generalizing l' with
  | nil => rw [List.map_eq_nil_iff.mp same.symm]
           exact .nil
  | cons a l ih =>
    obtain ⟨first, later⟩ := List.forall_mem_cons.mp h
    cases l' with
    | nil => cases same
    | cons b l' =>
      obtain ⟨here, there⟩ := List.cons_eq_cons.mp same
      exact .cons (first b here) (ih there later)

theorem treeOf_of_isScalar {node : Node} (h : node.isScalar) (f g : NodeId → Tree) :
    treeOf node f = treeOf node g := by
  cases node <;> first | rfl | cases h

theorem treeOf_mapping (entries : List (String × NodeId)) (f : NodeId → Tree) :
    treeOf (.mapping entries) f =
      .mapping ((entries.map Prod.fst).zip ((entries.map Prod.snd).map f)) := by
  rw [List.map_map, List.zip_map']
  rfl

theorem treeOf_scalar_injective {node node' : Node} {f g : NodeId → Tree} (h : node.isScalar)
    (same : treeOf node f = treeOf node' g) : node = node' := by
  cases node <;> cases h <;> cases node' <;> cases same <;> rfl

theorem alike_of_treeAt_eq (acyclic : doc.Acyclic) (acyclic' : doc'.Acyclic)
    (same : doc.treeAt id = doc'.treeAt id') : doc.Alike doc' id id' := by
  induction id using acyclic.wellFounded.induction generalizing id' with
  | _ id ih =>
    rw [treeAt_eq acyclic, treeAt_eq acyclic'] at same
    by_cases scalar : (doc.get id).isScalar
    · exact .scalar scalar (treeOf_scalar_injective scalar same)
    -- The top of a tree tells the kind of its node, so nodes of two kinds contradict `same`.
    cases h : doc.get id with
    | sequence items =>
      cases h' : doc'.get id' with
      | sequence items' =>
        rw [h, h'] at same
        have trees : items.map doc.treeAt = items'.map doc'.treeAt := Tree.sequence.inj same
        refine .sequence h h' (forall₂_of_map_eq_map trees fun r hr _ => ?_)
        exact ih r (mem_refs_sequence h r hr)
      | _ => rw [h, h'] at same; cases same
    | mapping entries =>
      cases h' : doc'.get id' with
      | mapping entries' =>
        rw [h, h'] at same
        have trees := Tree.mapping.inj same
        have names : entries.map Prod.fst = entries'.map Prod.fst := by
          simpa only [List.map_map, Function.comp_def] using congrArg (List.map Prod.fst) trees
        have values : (entries.map Prod.snd).map doc.treeAt =
            (entries'.map Prod.snd).map doc'.treeAt := by
          simpa only [List.map_map, Function.comp_def] using congrArg (List.map Prod.snd) trees
        refine .mapping h h' names (forall₂_of_map_eq_map values fun r hr _ => ?_)
        exact ih r (mem_refs_mapping h r hr)
      | _ => rw [h, h'] at same; cases same
    | genericMapping entries =>
      cases h' : doc'.get id' with
      | genericMapping entries' =>
        rw [h, h'] at same
        have trees := Tree.genericMapping.inj same
        have keys : (entries.map Prod.fst).map doc.treeAt =
            (entries'.map Prod.fst).map doc'.treeAt := by
          simpa only [List.map_map, Function.comp_def] using congrArg (List.map Prod.fst) trees
        have values : (entries.map Prod.snd).map doc.treeAt =
            (entries'.map Prod.snd).map doc'.treeAt := by
          simpa only [List.map_map, Function.comp_def] using congrArg (List.map Prod.snd) trees
        obtain ⟨refersKey, refersValue⟩ := mem_refs_genericMapping h
        refine .genericMapping h h' (forall₂_of_map_eq_map keys fun r hr _ => ?_)
          (forall₂_of_map_eq_map values fun r hr _ => ?_)
        · exact ih r (refersKey r hr)
        · exact ih r (refersValue r hr)
      | _ => rw [h, h'] at same; cases same
    | _ => exact absurd rfl (h ▸ scalar)

theorem Alike.treeAt_eq (acyclic : doc.Acyclic) (acyclic' : doc'.Acyclic) (plain : doc.NoGeneric)
    (plain' : doc'.NoGeneric) (h : doc.Alike doc' id id') : doc.treeAt id = doc'.treeAt id' := by
  induction id using acyclic.wellFounded.induction generalizing id' with
  | _ id ih =>
    rw [Document.treeAt_eq acyclic, Document.treeAt_eq acyclic']
    cases h with
    | scalar scalar same =>
      rw [← same]
      exact treeOf_of_isScalar scalar _ _
    | sequence h h' alike =>
      have values := map_eq_map_of_forall₂ alike fun r hr r' hr' =>
        ih r (mem_refs_sequence h r hr) hr'
      rw [h, h']
      exact congrArg Tree.sequence values
    | mapping h h' names values =>
      have values := map_eq_map_of_forall₂ values fun r hr r' hr' =>
        ih r (mem_refs_mapping h r hr) hr'
      rw [h, h', treeOf_mapping, treeOf_mapping, names, values]
    | genericMapping h => exact nomatch h ▸ plain id
    | ofGeneric h => exact nomatch h ▸ plain id
    | toGeneric _ h' => exact nomatch h' ▸ plain' id'

end PathQuery.Document
