import PathQuery.Proofs.Document.Json
import PathQuery.Proofs.Document.Yaml

/-!
Nodes of two documents with the same content. Where the nodes stand in their
arenas, how often one is shared, and whether a mapping has texts or nodes as
keys, all that is not content. Such nodes have the same JSON and the same YAML.
-/
namespace PathQuery

def Node.isScalar : Node → Bool
  | .null => true
  | .bool _ => true
  | .number _ => true
  | .text _ => true
  | .sequence _ => false
  | .mapping _ => false
  | .genericMapping _ => false

theorem Node.children_of_isScalar {node : Node} (h : node.isScalar) : node.children = [] := by
  cases node <;> first | rfl | cases h

namespace Document

/-- The keys of a generic mapping are texts, namely these, in order. -/
def HasTexts (doc : Document) (names : List String) (entries : List (NodeId × NodeId)) : Prop :=
  List.Forall₂ (fun name key => doc.get key = .text name) names (entries.map Prod.fst)

/-- Two nodes have the same content: they are one scalar, or sequences of alike items, or mappings
with the same or alike keys and alike values, in the same order. A mapping and a generic mapping
have the same keys if those of the generic mapping are the texts of the other one. -/
inductive Alike (doc doc' : Document) : NodeId → NodeId → Prop
  | scalar {id id' : NodeId} (h : (doc.get id).isScalar) (same : doc.get id = doc'.get id') :
      Alike doc doc' id id'
  | sequence {id id' : NodeId} {items items' : List NodeId}
      (h : doc.get id = .sequence items) (h' : doc'.get id' = .sequence items')
      (alike : List.Forall₂ (Alike doc doc') items items') : Alike doc doc' id id'
  | mapping {id id' : NodeId} {entries entries' : List (String × NodeId)}
      (h : doc.get id = .mapping entries) (h' : doc'.get id' = .mapping entries')
      (names : entries.map Prod.fst = entries'.map Prod.fst)
      (values : List.Forall₂ (Alike doc doc') (entries.map Prod.snd) (entries'.map Prod.snd)) :
      Alike doc doc' id id'
  | genericMapping {id id' : NodeId} {entries entries' : List (NodeId × NodeId)}
      (h : doc.get id = .genericMapping entries) (h' : doc'.get id' = .genericMapping entries')
      (keys : List.Forall₂ (Alike doc doc') (entries.map Prod.fst) (entries'.map Prod.fst))
      (values : List.Forall₂ (Alike doc doc') (entries.map Prod.snd) (entries'.map Prod.snd)) :
      Alike doc doc' id id'
  | toGeneric {id id' : NodeId} {entries : List (String × NodeId)}
      {entries' : List (NodeId × NodeId)}
      (h : doc.get id = .mapping entries) (h' : doc'.get id' = .genericMapping entries')
      (names : doc'.HasTexts (entries.map Prod.fst) entries')
      (values : List.Forall₂ (Alike doc doc') (entries.map Prod.snd) (entries'.map Prod.snd)) :
      Alike doc doc' id id'
  | ofGeneric {id id' : NodeId} {entries : List (NodeId × NodeId)}
      {entries' : List (String × NodeId)}
      (h : doc.get id = .genericMapping entries) (h' : doc'.get id' = .mapping entries')
      (names : doc.HasTexts (entries'.map Prod.fst) entries)
      (values : List.Forall₂ (Alike doc doc') (entries.map Prod.snd) (entries'.map Prod.snd)) :
      Alike doc doc' id id'

variable {doc doc' : Document} {id id' : NodeId}

theorem map_eq_map_of_forall₂ {α β γ : Type} {R : α → β → Prop} {f : α → γ} {g : β → γ}
    {l : List α} {l' : List β} (h : List.Forall₂ R l l')
    (same : ∀ a ∈ l, ∀ b, R a b → f a = g b) : l.map f = l'.map g := by
  induction h with
  | nil => rfl
  | cons hab _ ih =>
    obtain ⟨first, later⟩ := List.forall_mem_cons.mp same
    rw [List.map_cons, List.map_cons, first _ hab, ih later]

theorem Alike.kind_eq (h : doc.Alike doc' id id') : (doc.get id).kind = (doc'.get id').kind := by
  cases h with
  | scalar _ same => rw [same]
  | _ h h' => rw [h, h']; rfl

theorem accepts_of_not_isScalar {node node' : Node} (h : node.isScalar = false)
    (h' : node'.isScalar = false) (filter : Query.Filter) :
    filter.accepts node = filter.accepts node' := by
  induction filter with
  | negated filter ih => rw [Query.Filter.accepts, Query.Filter.accepts, ih]
  | _ => cases node <;> cases h <;> cases node' <;> cases h' <;> rfl

theorem Alike.get_eq_or (h : doc.Alike doc' id id') : doc.get id = doc'.get id' ∨
    (doc.get id).isScalar = false ∧ (doc'.get id').isScalar = false := by
  cases h with
  | scalar _ same => exact .inl same
  | _ h h' => exact .inr ⟨by rw [h]; rfl, by rw [h']; rfl⟩

theorem Alike.acceptAll_eq (h : doc.Alike doc' id id') (filters : List Query.Filter) :
    Query.acceptAll filters (doc.get id) = Query.acceptAll filters (doc'.get id') := by
  rcases h.get_eq_or with same | ⟨container, container'⟩
  · rw [same]
  · simp only [Query.acceptAll, accepts_of_not_isScalar container container']

section Values

theorem jsonOf_of_isScalar {node : Node} (h : node.isScalar) (f g : NodeId → Json) :
    doc.jsonOf node f = doc'.jsonOf node g := by
  cases node <;> first | rfl | cases h

theorem yamlOf_of_isScalar {node : Node} (h : node.isScalar) (f g : NodeId → Yaml) :
    yamlOf node f = yamlOf node g := by
  cases node <;> first | rfl | cases h

theorem memberNames_of_nodup {taken texts : List String} (position : Nat) (nodup : texts.Nodup)
    (free : ∀ text ∈ texts, text ∉ taken) : memberNames taken position texts = texts := by
  induction texts generalizing taken position with
  | nil => rfl
  | cons text rest ih =>
    obtain ⟨notMem, nodup⟩ := List.nodup_cons.mp nodup
    obtain ⟨first, later⟩ := List.forall_mem_cons.mp free
    have rest_free : ∀ other ∈ rest, other ∉ text :: taken := by
      intro other hother
      rw [List.mem_cons, not_or]
      exact ⟨fun heq => notMem (heq ▸ hother), later other hother⟩
    simp [memberNames, memberName, first, ih (position + 1) nodup rest_free]

theorem toJson_mapping (acyclic : doc.Acyclic) {entries : List (String × NodeId)}
    (h : doc.get id = .mapping entries) : doc.toJson id =
      objectOf ((entries.map Prod.fst).zip ((entries.map Prod.snd).map doc.toJson)) := by
  rw [toJson_eq acyclic, h, List.map_map, List.zip_map']
  rfl

theorem toJson_genericMapping (acyclic : doc.Acyclic) {entries : List (NodeId × NodeId)}
    (h : doc.get id = .genericMapping entries) : doc.toJson id =
      objectOf ((memberNames [] 0 ((entries.map Prod.fst).map doc.textAt)).zip
        ((entries.map Prod.snd).map doc.toJson)) := by
  rw [toJson_eq acyclic, h, List.map_map, List.map_map]
  rfl

theorem toYaml_mapping (acyclic : doc.Acyclic) {entries : List (String × NodeId)}
    (h : doc.get id = .mapping entries) : doc.toYaml id =
      yamlMapping (((entries.map Prod.fst).map .string).zip
        ((entries.map Prod.snd).map doc.toYaml)) := by
  rw [toYaml_eq acyclic, h, List.map_map, List.map_map, List.zip_map']
  rfl

theorem toYaml_genericMapping (acyclic : doc.Acyclic) {entries : List (NodeId × NodeId)}
    (h : doc.get id = .genericMapping entries) : doc.toYaml id =
      yamlMapping (((entries.map Prod.fst).map doc.toYaml).zip
        ((entries.map Prod.snd).map doc.toYaml)) := by
  rw [toYaml_eq acyclic, h, List.map_map, List.map_map, List.zip_map']
  rfl

theorem HasTexts.map_textAt {names : List String} {entries : List (NodeId × NodeId)}
    (h : doc.HasTexts names entries) : (entries.map Prod.fst).map doc.textAt = names := by
  have texts := map_eq_map_of_forall₂ (f := id) (g := doc.textAt) h fun name _ key hkey => by
    rw [textAt, hkey]
    rfl
  rw [← texts, List.map_id]

theorem HasTexts.toJson_eq (acyclic : doc.Acyclic) {names : List String} (nodup : names.Nodup)
    {entries : List (NodeId × NodeId)} (h : doc.get id = .genericMapping entries)
    (texts : doc.HasTexts names entries) : doc.toJson id =
      objectOf (names.zip ((entries.map Prod.snd).map doc.toJson)) := by
  rw [toJson_genericMapping acyclic h, texts.map_textAt,
    memberNames_of_nodup 0 nodup fun _ _ => List.not_mem_nil]

theorem HasTexts.toYaml_eq (acyclic : doc.Acyclic) {names : List String}
    {entries : List (NodeId × NodeId)} (h : doc.get id = .genericMapping entries)
    (texts : doc.HasTexts names entries) : doc.toYaml id =
      yamlMapping ((names.map .string).zip ((entries.map Prod.snd).map doc.toYaml)) := by
  have keys : names.map .string = (entries.map Prod.fst).map doc.toYaml :=
    map_eq_map_of_forall₂ texts fun name _ key hkey => by
      rw [Document.toYaml_eq acyclic, hkey]
      rfl
  rw [toYaml_genericMapping acyclic h, ← keys]

theorem Alike.textAt_eq (h : doc.Alike doc' id id') (json : doc.toJson id = doc'.toJson id') :
    doc.textAt id = doc'.textAt id' := by
  unfold textAt
  rw [json]
  cases h with
  | scalar _ same => rw [same]
  | _ h h' => rw [h, h']; rfl

theorem mem_refs_sequence {items : List NodeId} (h : doc.get id = .sequence items) :
    ∀ r ∈ items, doc.Refers id r := fun r hr => by
  rw [Refers, h]
  exact hr

theorem mem_refs_mapping {entries : List (String × NodeId)} (h : doc.get id = .mapping entries) :
    ∀ r ∈ entries.map Prod.snd, doc.Refers id r := fun r hr => by
  rw [Refers, h]
  exact hr

theorem mem_refs_genericMapping {entries : List (NodeId × NodeId)}
    (h : doc.get id = .genericMapping entries) :
    (∀ r ∈ entries.map Prod.fst, doc.Refers id r) ∧
      ∀ r ∈ entries.map Prod.snd, doc.Refers id r := by
  simp only [Refers, h, Node.refs, List.mem_flatMap, List.forall_mem_map]
  exact ⟨fun e he => ⟨e, he, by simp⟩, fun e he => ⟨e, he, by simp⟩⟩

theorem names_nodup (distinct : doc.NamesDistinct) {entries : List (String × NodeId)}
    (h : doc.get id = .mapping entries) : (entries.map Prod.fst).Nodup := by
  have nodup := distinct id
  rwa [h] at nodup

theorem Alike.toJson_eq (acyclic : doc.Acyclic) (acyclic' : doc'.Acyclic)
    (distinct : doc.NamesDistinct) (distinct' : doc'.NamesDistinct)
    (h : doc.Alike doc' id id') : doc.toJson id = doc'.toJson id' := by
  -- Keys are among the references, so what they are written as is in the hypothesis too.
  induction id using acyclic.wellFounded.induction generalizing id' with
  | _ id ih =>
    cases h with
    | scalar scalar same =>
      rw [Document.toJson_eq acyclic, Document.toJson_eq acyclic', ← same]
      exact jsonOf_of_isScalar scalar _ _
    | sequence h h' alike =>
      have values := map_eq_map_of_forall₂ alike fun r hr r' hr' =>
        ih r (mem_refs_sequence h r hr) hr'
      rw [Document.toJson_eq acyclic, Document.toJson_eq acyclic', h, h']
      exact congrArg Json.array values
    | mapping h h' names values =>
      have values := map_eq_map_of_forall₂ values fun r hr r' hr' =>
        ih r (mem_refs_mapping h r hr) hr'
      rw [toJson_mapping acyclic h, toJson_mapping acyclic' h', names, values]
    | genericMapping h h' keys values =>
      obtain ⟨refersKey, refersValue⟩ := mem_refs_genericMapping h
      have texts := map_eq_map_of_forall₂ keys fun r hr r' hr' =>
        hr'.textAt_eq (ih r (refersKey r hr) hr')
      have values := map_eq_map_of_forall₂ values fun r hr r' hr' => ih r (refersValue r hr) hr'
      rw [toJson_genericMapping acyclic h, toJson_genericMapping acyclic' h', texts, values]
    | toGeneric h h' names values =>
      have values := map_eq_map_of_forall₂ values fun r hr r' hr' =>
        ih r (mem_refs_mapping h r hr) hr'
      rw [toJson_mapping acyclic h, names.toJson_eq acyclic' (names_nodup distinct h) h', values]
    | ofGeneric h h' names values =>
      have values := map_eq_map_of_forall₂ values fun r hr r' hr' =>
        ih r ((mem_refs_genericMapping h).2 r hr) hr'
      rw [toJson_mapping acyclic' h', names.toJson_eq acyclic (names_nodup distinct' h') h, values]

theorem Alike.toYaml_eq (acyclic : doc.Acyclic) (acyclic' : doc'.Acyclic)
    (h : doc.Alike doc' id id') : doc.toYaml id = doc'.toYaml id' := by
  induction id using acyclic.wellFounded.induction generalizing id' with
  | _ id ih =>
    cases h with
    | scalar scalar same =>
      rw [Document.toYaml_eq acyclic, Document.toYaml_eq acyclic', ← same]
      exact yamlOf_of_isScalar scalar _ _
    | sequence h h' alike =>
      have values := map_eq_map_of_forall₂ alike fun r hr r' hr' =>
        ih r (mem_refs_sequence h r hr) hr'
      rw [Document.toYaml_eq acyclic, Document.toYaml_eq acyclic', h, h']
      exact congrArg Yaml.sequence values
    | mapping h h' names values =>
      have values := map_eq_map_of_forall₂ values fun r hr r' hr' =>
        ih r (mem_refs_mapping h r hr) hr'
      rw [toYaml_mapping acyclic h, toYaml_mapping acyclic' h', names, values]
    | genericMapping h h' keys values =>
      obtain ⟨refersKey, refersValue⟩ := mem_refs_genericMapping h
      have keys := map_eq_map_of_forall₂ keys fun r hr r' hr' => ih r (refersKey r hr) hr'
      have values := map_eq_map_of_forall₂ values fun r hr r' hr' => ih r (refersValue r hr) hr'
      rw [toYaml_genericMapping acyclic h, toYaml_genericMapping acyclic' h', keys, values]
    | toGeneric h h' names values =>
      have values := map_eq_map_of_forall₂ values fun r hr r' hr' =>
        ih r (mem_refs_mapping h r hr) hr'
      rw [toYaml_mapping acyclic h, names.toYaml_eq acyclic' h', values]
    | ofGeneric h h' names values =>
      have values := map_eq_map_of_forall₂ values fun r hr r' hr' =>
        ih r ((mem_refs_genericMapping h).2 r hr) hr'
      rw [toYaml_mapping acyclic' h', names.toYaml_eq acyclic h, values]

end Values

end Document

end PathQuery
