import PathQuery.Proofs.Document.Alike

/-!
JSON and YAML values with the same content. A YAML mapping becomes a generic
mapping, and its keys take places of their own, so the documents of such values
are laid out in two ways. Their roots are alike all the same.
-/
namespace PathQuery

/-- A JSON value and a YAML value have the same content. Numbers have if a document holds the same
number for both, and the keys of mappings are texts. -/
inductive SameContent : Json → Yaml → Prop
  | null : SameContent .null .null
  | bool (b : Bool) : SameContent (.bool b) (.bool b)
  | integer {n : JsonNumber} {k : Int} (h : n.toBinary64 = .ofInt k) :
      SameContent (.number n) (.integer k)
  | real {n : JsonNumber} {spelling : String}
      (h : Yaml.realValue? spelling = some n.toBinary64) :
      SameContent (.number n) (.real spelling)
  | string (s : String) : SameContent (.string s) (.string s)
  | array {items : List Json} {items' : List Yaml} (h : List.Forall₂ SameContent items items') :
      SameContent (.array items) (.sequence items')
  | object {members : List (String × Json)} {entries : List (Yaml × Yaml)}
      (names : entries.map Prod.fst = members.map fun m => .string m.1)
      (values : List.Forall₂ SameContent (members.map Prod.snd) (entries.map Prod.snd)) :
      SameContent (.object members) (.mapping entries)

namespace Document

variable {doc doc' d d' : Document} {id id' : NodeId}

theorem forall₂_imp_of_mem {α β : Type} {R S : α → β → Prop} {l : List α} {l' : List β}
    (h : List.Forall₂ R l l') (himp : ∀ a ∈ l, ∀ b ∈ l', R a b → S a b) : List.Forall₂ S l l' := by
  induction h with
  | nil => exact .nil
  | cons hab _ ih =>
    refine .cons (himp _ List.mem_cons_self _ List.mem_cons_self hab) (ih fun a ha b hb => ?_)
    exact himp a (List.mem_cons_of_mem _ ha) b (List.mem_cons_of_mem _ hb)

theorem HasTexts.kept {names : List String} {entries : List (NodeId × NodeId)}
    (h : doc.HasTexts names entries) (kept : doc.Kept d)
    (lt : ∀ key ∈ entries.map Prod.fst, key < doc.size) : d.HasTexts names entries :=
  forall₂_imp_of_mem h fun name _ key hkey htext => by rw [kept key (lt key hkey), htext]

theorem Alike.kept (wellFormed : doc.WellFormed) (wellFormed' : doc'.WellFormed)
    (kept : doc.Kept d) (kept' : doc'.Kept d') (h : doc.Alike doc' id id')
    (lt : id < doc.size) (lt' : id' < doc'.size) : d.Alike d' id id' := by
  -- References lead to earlier nodes, which are in the documents if the node is.
  induction id using Nat.strongRecOn generalizing id' with
  | ind id ih =>
    have below {r : NodeId} (hr : doc.Refers id r) : r < id := wellFormed.refs_lt id r hr
    have below' {r : NodeId} (hr : doc'.Refers id' r) : r < id' := wellFormed'.refs_lt id' r hr
    have all {ids ids' : List NodeId} (alike : List.Forall₂ (doc.Alike doc') ids ids')
        (refers : ∀ r ∈ ids, doc.Refers id r) (refers' : ∀ r ∈ ids', doc'.Refers id' r) :
        List.Forall₂ (d.Alike d') ids ids' :=
      forall₂_imp_of_mem alike fun r hr r' hr' same =>
        ih r (below (refers r hr)) same ((below (refers r hr)).trans lt)
          ((below' (refers' r' hr')).trans lt')
    cases h with
    | scalar scalar same =>
      refine .scalar ?_ ?_
      · rwa [kept id lt]
      · rw [kept id lt, kept' id' lt', same]
    | sequence h h' alike =>
      exact .sequence ((kept id lt).trans h) ((kept' id' lt').trans h')
        (all alike (mem_refs_sequence h) (mem_refs_sequence h'))
    | mapping h h' names values =>
      exact .mapping ((kept id lt).trans h) ((kept' id' lt').trans h') names
        (all values (mem_refs_mapping h) (mem_refs_mapping h'))
    | genericMapping h h' keys values =>
      obtain ⟨refersKey, refersValue⟩ := mem_refs_genericMapping h
      obtain ⟨refersKey', refersValue'⟩ := mem_refs_genericMapping h'
      exact .genericMapping ((kept id lt).trans h) ((kept' id' lt').trans h')
        (all keys refersKey refersKey') (all values refersValue refersValue')
    | toGeneric h h' names values =>
      obtain ⟨refersKey', refersValue'⟩ := mem_refs_genericMapping h'
      exact .toGeneric ((kept id lt).trans h) ((kept' id' lt').trans h')
        (names.kept kept' fun key hkey => (below' (refersKey' key hkey)).trans lt')
        (all values (mem_refs_mapping h) refersValue')
    | ofGeneric h h' names values =>
      obtain ⟨refersKey, refersValue⟩ := mem_refs_genericMapping h
      exact .ofGeneric ((kept id lt).trans h) ((kept' id' lt').trans h')
        (names.kept kept fun key hkey => (below (refersKey key hkey)).trans lt)
        (all values refersValue (mem_refs_mapping h'))

theorem forall₂_kept {ids ids' : List NodeId} (wellFormed : doc.WellFormed)
    (wellFormed' : doc'.WellFormed) (kept : doc.Kept d) (kept' : doc'.Kept d')
    (h : List.Forall₂ (doc.Alike doc') ids ids') (lt : ∀ id ∈ ids, id < doc.size)
    (lt' : ∀ id ∈ ids', id < doc'.size) : List.Forall₂ (d.Alike d') ids ids' :=
  forall₂_imp_of_mem h fun id hid id' hid' same =>
    same.kept wellFormed wellFormed' kept kept' (lt id hid) (lt' id' hid')

theorem alike_insert_scalar {node : Node} (scalar : node.isScalar) :
    (doc.insert node).1.Alike (doc'.insert node).1 (doc.insert node).2 (doc'.insert node).2 := by
  refine .scalar ?_ ?_
  · rwa [get_insert_size]
  · rw [get_insert_size, get_insert_size]

theorem forall_mem_flatMap_pair {P : NodeId → Prop} {entries : List (NodeId × NodeId)} :
    (∀ id ∈ entries.flatMap fun e => [e.1, e.2], P id) ↔
      (∀ id ∈ entries.map Prod.fst, P id) ∧ ∀ id ∈ entries.map Prod.snd, P id := by
  simp only [List.forall_mem_flatMap, List.forall_mem_cons, List.forall_mem_map, List.not_mem_nil,
    false_implies, implies_true, and_true]
  exact ⟨fun h => ⟨fun e he => (h e he).1, fun e he => (h e he).2⟩,
    fun h e he => ⟨h.1 e he, h.2 e he⟩⟩

mutual

theorem insertJson_alike {doc doc' : Document} (hd : doc.WellFormed) (hd' : doc'.WellFormed) :
    ∀ {v : Json} {y : Yaml}, SameContent v y →
      (doc.insertJson v).1.Alike (doc'.insertYaml y).1 (doc.insertJson v).2 (doc'.insertYaml y).2
  | .null, _, same => by
    cases same
    exact alike_insert_scalar rfl
  | .bool _, _, same => by
    cases same
    exact alike_insert_scalar rfl
  | .number n, _, same => by
    cases same with
    | integer h =>
      rw [insertJson, insertYaml, h]
      exact alike_insert_scalar rfl
    | real h =>
      rw [insertJson, insertYaml, h]
      exact alike_insert_scalar rfl
  | .string _, _, same => by
    cases same
    exact alike_insert_scalar rfl
  | .array items, _, same => by
    cases same with
    | @array _ items' same =>
      have alike := insertJsonItems_alike hd hd' same
      have grown := insertJsonItems_grown doc items
      have grown' := insertYamlItems_grown doc' items'
      refine .sequence (get_insert_size _ _) (get_insert_size _ _) ?_
      exact forall₂_kept (grown.wellFormed hd) (grown'.wellFormed hd') (kept_insert _ _)
        (kept_insert _ _) alike (grown.lt_size hd) (grown'.lt_size hd')
  | .object members, _, same => by
    cases same with
    | @object _ entries names values =>
      obtain ⟨texts, alike⟩ := insertJsonMembers_alike hd hd' names values
      have grown := insertJsonMembers_grown doc members
      have grown' := insertYamlEntries_grown doc' entries
      obtain ⟨keys_lt, values_lt⟩ := forall_mem_flatMap_pair.mp (grown'.lt_size hd')
      refine .toGeneric (get_insert_size _ _) (get_insert_size _ _) ?_ ?_
      · rw [map_fst_insertJsonMembers]
        exact texts.kept (kept_insert _ _) keys_lt
      · exact forall₂_kept (grown.wellFormed hd) (grown'.wellFormed hd') (kept_insert _ _)
          (kept_insert _ _) alike (grown.lt_size hd) values_lt

theorem insertJsonItems_alike {doc doc' : Document} (hd : doc.WellFormed) (hd' : doc'.WellFormed) :
    ∀ {items : List Json} {items' : List Yaml}, List.Forall₂ SameContent items items' →
      List.Forall₂ ((doc.insertJsonItems items).1.Alike (doc'.insertYamlItems items').1)
        (doc.insertJsonItems items).2 (doc'.insertYamlItems items').2
  | [], _, same => by
    cases same
    exact .nil
  | item :: rest, _, same => by
    cases same with
    | @cons _ item' _ rest' hfirst hlater =>
      have first := insertJson_grown doc item
      have first' := insertYaml_grown doc' item'
      have hd₁ := first.wellFormed hd
      have hd₁' := first'.wellFormed hd'
      have alike := insertJson_alike hd hd' hfirst
      refine .cons ?_ (insertJsonItems_alike hd₁ hd₁' hlater)
      exact alike.kept hd₁ hd₁' (insertJsonItems_grown _ rest).kept (insertYamlItems_grown _ rest').kept
        (first.lt_size hd _ List.mem_cons_self) (first'.lt_size hd' _ List.mem_cons_self)

theorem insertJsonMembers_alike {doc doc' : Document} (hd : doc.WellFormed)
    (hd' : doc'.WellFormed) : ∀ {members : List (String × Json)} {entries : List (Yaml × Yaml)},
      entries.map Prod.fst = members.map (fun m => .string m.1) →
      List.Forall₂ SameContent (members.map Prod.snd) (entries.map Prod.snd) →
      (doc'.insertYamlEntries entries).1.HasTexts (members.map Prod.fst)
          (doc'.insertYamlEntries entries).2 ∧
        List.Forall₂ ((doc.insertJsonMembers members).1.Alike (doc'.insertYamlEntries entries).1)
          ((doc.insertJsonMembers members).2.map Prod.snd)
          ((doc'.insertYamlEntries entries).2.map Prod.snd)
  | [], [], _, _ => ⟨.nil, .nil⟩
  | [], _ :: _, names, _ => by cases names
  | _ :: _, [], names, _ => by cases names
  | (name, v) :: rest, (k, y) :: rest', names, values => by
    obtain ⟨rfl, hnames⟩ := List.cons.inj names
    cases values with
    | cons hfirst hlater =>
      have first := insertJson_grown doc v
      have key' := insertYaml_grown doc' (.string name)
      have first' := insertYaml_grown (doc'.insertYaml (.string name)).1 y
      have later' := insertYamlEntries_grown ((doc'.insertYaml (.string name)).1.insertYaml y).1 rest'
      have hd₁ := first.wellFormed hd
      have hkey' := key'.wellFormed hd'
      have hd₁' := first'.wellFormed hkey'
      have alike := insertJson_alike hd hkey' hfirst
      obtain ⟨texts, more⟩ := insertJsonMembers_alike hd₁ hd₁' hnames hlater
      have place_lt := key'.lt_size hd' _ List.mem_cons_self
      refine ⟨.cons ?_ texts, .cons ?_ more⟩
      -- The key of the entry went in first, and no later insertion changes it.
      · have kept := later'.kept _ (Nat.lt_of_lt_of_le place_lt first'.size_le)
        exact kept.trans ((first'.kept _ place_lt).trans (get_insert_size doc' (.text name)))
      · exact alike.kept hd₁ hd₁' (insertJsonMembers_grown _ rest).kept later'.kept
          (first.lt_size hd _ List.mem_cons_self) (first'.lt_size hkey' _ List.mem_cons_self)

end

theorem ofJson_alike_ofYaml {v : Json} {y : Yaml} (same : SameContent v y) :
    (ofJson v).Alike (ofYaml y) (ofJson v).root (ofYaml y).root := by
  have alike := insertJson_alike null_wellFormed null_wellFormed same
  have grown := insertJson_grown null v
  have grown' := insertYaml_grown null y
  exact alike.kept (grown.wellFormed null_wellFormed) (grown'.wellFormed null_wellFormed)
    (fun _ _ => rfl) (fun _ _ => rfl) (grown.lt_size null_wellFormed _ List.mem_cons_self)
    (grown'.lt_size null_wellFormed _ List.mem_cons_self)

end Document

end PathQuery
