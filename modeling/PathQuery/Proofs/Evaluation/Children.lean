import PathQuery.Proofs.Document.Alike
import PathQuery.Proofs.Evaluation.Reference

/-!
What leads down from two nodes with the same content: as many children, alike one
by one, whose keys are written alike in paths and denoted by the same texts. Names
in a mapping never clash, so the texts they become as nodes never get a place
behind them.
-/
namespace PathQuery

variable {doc doc' : Document} {id id' : NodeId}

namespace Node

theorem keys_mapping (entries : List (String × NodeId)) :
    (mapping entries).keys = (entries.map Prod.fst).map .name := by
  rw [List.map_map]
  rfl

@[simp] theorem children_sequence_snd (items : List NodeId) :
    (sequence items).children.map Prod.snd = items := by
  rw [children, List.map_map]
  exact List.zipIdx_map_fst 0 items

@[simp] theorem children_mapping_snd (entries : List (String × NodeId)) :
    (mapping entries).children.map Prod.snd = entries.map Prod.snd := by
  rw [children, List.map_map]
  rfl

@[simp] theorem children_genericMapping_snd (entries : List (NodeId × NodeId)) :
    (genericMapping entries).children.map Prod.snd = entries.map Prod.snd := by
  conv_rhs => rw [← List.zipIdx_map_fst 0 entries, List.map_map]
  rw [children, List.map_map]
  rfl

end Node

namespace Document

/-- Two keys lead down from two nodes in the same way: they are written alike in a path, and the
same texts denote them. -/
structure SameKey (doc doc' : Document) (parent parent' : Node) (key key' : Key) : Prop where
  segment : doc.segment parent key = doc'.segment parent' key'
  denotes : ∀ text, doc.denotes text key = doc'.denotes text key'

theorem SameKey.symm {parent parent' : Node} {key key' : Key}
    (h : SameKey doc doc' parent parent' key key') : SameKey doc' doc parent' parent key' key :=
  ⟨h.segment.symm, fun text => (h.denotes text).symm⟩

theorem Alike.keyNodeText_eq (h : doc.Alike doc' id id')
    (texts : doc.textAt id = doc'.textAt id') : doc.keyNodeText id = doc'.keyNodeText id' := by
  unfold keyNodeText
  rw [texts]
  cases h with
  | scalar _ same => rw [same]
  | _ h h' => rw [h, h']

theorem Alike.keyMatches_eq (h : doc.Alike doc' id id')
    (texts : doc.textAt id = doc'.textAt id') (text : String) :
    doc.keyMatches id text = doc'.keyMatches id' text := by
  unfold keyMatches
  rw [texts]
  cases h with
  | scalar _ same => rw [same]
  | _ h h' => rw [h, h']

theorem segment_genericMapping (doc : Document) (entries : List (NodeId × NodeId)) (key : NodeId)
    (place : Nat) : doc.segment (.genericMapping entries) (.entry key place) =
      if doc.keyNodeText key ∈ ((entries.map Prod.fst).map doc.keyNodeText).take place then
        s!"{doc.keyNodeText key}#{place}"
      else doc.keyNodeText key := by
  rw [List.map_map, ← List.map_take]
  simp only [segment, keyText, isShadowed_iff, Function.comp_def]

theorem sameKeys_genericMapping {entries entries' : List (NodeId × NodeId)}
    (texts : (entries.map Prod.fst).map doc.keyNodeText =
      (entries'.map Prod.fst).map doc'.keyNodeText)
    (matches' : List.Forall₂ (fun key key' => ∀ text,
      doc.keyMatches key text = doc'.keyMatches key' text)
      (entries.map Prod.fst) (entries'.map Prod.fst)) :
    List.Forall₂ (SameKey doc doc' (.genericMapping entries) (.genericMapping entries'))
      (Node.genericMapping entries).keys (Node.genericMapping entries').keys := by
  obtain ⟨length, same⟩ := List.forall₂_iff_get.mp matches'
  simp only [List.length_map] at length same
  refine List.forall₂_iff_get.mpr ⟨by simp [Node.keys, length], fun i hi hi' => ?_⟩
  simp only [Node.keys, List.length_map, List.length_zipIdx] at hi hi'
  have text := congrArg (·[i]?) texts
  simp only [List.getElem?_map, List.getElem?_eq_getElem hi, List.getElem?_eq_getElem hi',
    Option.map_some, Option.some.injEq] at text
  simp only [Node.keys, List.get_eq_getElem, List.getElem_map, List.getElem_zipIdx, Nat.zero_add]
  refine ⟨?_, fun text => ?_⟩
  · rw [segment_genericMapping, segment_genericMapping, texts, text]
  · simpa only [denotes, List.get_eq_getElem, List.getElem_map] using same i hi hi' text

theorem HasTexts.map_keyNodeText {names : List String} {entries : List (NodeId × NodeId)}
    (h : doc.HasTexts names entries) :
    (entries.map Prod.fst).map doc.keyNodeText = names.map Text.quoted := by
  refine (map_eq_map_of_forall₂ h fun name _ key hkey => ?_).symm
  rw [keyNodeText, hkey]

theorem HasTexts.sameKeys {entries : List (String × NodeId)} {entries' : List (NodeId × NodeId)}
    (nodup : (entries.map Prod.fst).Nodup) (h : doc'.HasTexts (entries.map Prod.fst) entries') :
    List.Forall₂ (SameKey doc doc' (.mapping entries) (.genericMapping entries'))
      (Node.mapping entries).keys (Node.genericMapping entries').keys := by
  have texts := h.map_keyNodeText
  have quoted_nodup := nodup.map Text.quoted_injective
  obtain ⟨length, same⟩ := List.forall₂_iff_get.mp h
  simp only [List.length_map] at length same
  refine List.forall₂_iff_get.mpr ⟨by simp [Node.keys, length], fun i hi hi' => ?_⟩
  simp only [Node.keys, List.length_map, List.length_zipIdx] at hi hi'
  have key := same i hi hi'
  simp only [List.get_eq_getElem, List.getElem_map] at key
  simp only [Node.keys, List.get_eq_getElem, List.getElem_map, List.getElem_zipIdx, Nat.zero_add]
  refine ⟨?_, fun text => ?_⟩
  · have written : doc'.keyNodeText entries'[i].1 = Text.quoted entries[i].1 := by
      rw [keyNodeText, key]
    rw [segment_genericMapping, texts, written, if_neg]
    · rfl
    · refine nodup_iff_notMem_take.mp quoted_nodup i _ ?_
      simp [List.getElem?_eq_getElem hi]
  · simp only [denotes, keyMatches, key]

theorem forall₂_of_fst_of_snd {α β γ δ : Type} {K : α → γ → Prop} {V : β → δ → Prop}
    {l : List (α × β)} {l' : List (γ × δ)}
    (keys : List.Forall₂ K (l.map Prod.fst) (l'.map Prod.fst))
    (values : List.Forall₂ V (l.map Prod.snd) (l'.map Prod.snd)) :
    List.Forall₂ (fun e e' => K e.1 e'.1 ∧ V e.2 e'.2) l l' := by
  induction l generalizing l' with
  | nil =>
    cases l' with
    | nil => exact .nil
    | cons e' l' => cases keys
  | cons e l ih =>
    cases l' with
    | nil => cases keys
    | cons e' l' =>
      cases keys with
      | cons key keys =>
        cases values with
        | cons value values => exact .cons ⟨key, value⟩ (ih keys values)

theorem Alike.sameKeys (acyclic : doc.Acyclic) (acyclic' : doc'.Acyclic)
    (distinct : doc.NamesDistinct) (distinct' : doc'.NamesDistinct)
    (h : doc.Alike doc' id id') :
    List.Forall₂ (SameKey doc doc' (doc.get id) (doc'.get id'))
      (doc.get id).keys (doc'.get id').keys := by
  have texts {key key' : NodeId} (alike : doc.Alike doc' key key') :
      doc.textAt key = doc'.textAt key' :=
    alike.textAt_eq (alike.toJson_eq acyclic acyclic' distinct distinct')
  cases h with
  | scalar scalar same =>
    rw [← same, Node.keys_eq, Node.children_of_isScalar scalar]
    exact .nil
  | sequence h h' alike =>
    rw [h, h', Node.keys, Node.keys, alike.length_eq]
    exact List.forall₂_map_left_iff.mpr (List.forall₂_map_right_iff.mpr
      (List.forall₂_same.mpr fun i _ => ⟨rfl, fun text => rfl⟩))
  | mapping h h' names values =>
    rw [h, h', Node.keys_mapping, Node.keys_mapping, names]
    exact List.forall₂_map_left_iff.mpr (List.forall₂_map_right_iff.mpr
      (List.forall₂_same.mpr fun name _ => ⟨rfl, fun text => rfl⟩))
  | genericMapping h h' keys values =>
    rw [h, h']
    refine sameKeys_genericMapping ?_ (keys.imp fun key key' alike text => ?_)
    · exact map_eq_map_of_forall₂ keys fun _ _ _ alike => alike.keyNodeText_eq (texts alike)
    · exact alike.keyMatches_eq (texts alike) text
  -- Where one of the mappings is generic, its keys are texts, compared as names are.
  | toGeneric h h' names values =>
    rw [h, h']
    exact names.sameKeys (names_nodup distinct h)
  | ofGeneric h h' names values =>
    rw [h, h']
    exact (names.sameKeys (names_nodup distinct' h')).flip.imp fun _ _ same => same.symm

theorem Alike.children (acyclic : doc.Acyclic) (acyclic' : doc'.Acyclic)
    (distinct : doc.NamesDistinct) (distinct' : doc'.NamesDistinct)
    (h : doc.Alike doc' id id') :
    List.Forall₂ (fun c c' => SameKey doc doc' (doc.get id) (doc'.get id') c.1 c'.1 ∧
      doc.Alike doc' c.2 c'.2) (doc.get id).children (doc'.get id').children := by
  apply forall₂_of_fst_of_snd
  · rw [← Node.keys_eq, ← Node.keys_eq]
    exact h.sameKeys acyclic acyclic' distinct distinct'
  · cases h with
    | scalar scalar same =>
      rw [← same, Node.children_of_isScalar scalar]
      exact .nil
    | sequence h h' alike => simpa [h, h'] using alike
    | _ h h' _ values => simpa [h, h'] using values

theorem Alike.lookup (acyclic : doc.Acyclic) (acyclic' : doc'.Acyclic)
    (distinct : doc.NamesDistinct) (distinct' : doc'.NamesDistinct)
    (h : doc.Alike doc' id id') (text : String) :
    List.Forall₂ (fun c c' => SameKey doc doc' (doc.get id) (doc'.get id') c.1 c'.1 ∧
      doc.Alike doc' c.2 c'.2)
      (doc.lookup (doc.get id) text) (doc'.lookup (doc'.get id') text) := by
  rw [lookup_eq_filter_children (distinct id), lookup_eq_filter_children (distinct' id')]
  refine List.rel_filter (fun c c' hc => ?_) (h.children acyclic acyclic' distinct distinct')
  simp only [hc.1.denotes text]

end Document

end PathQuery
