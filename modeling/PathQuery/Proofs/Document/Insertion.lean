import PathQuery.Proofs.Document.Tree

/-!
Decoded documents are trees, and they are the trees of the values. An insertion
adds one node for each value in a value. Of the places that it adds it gives one
away, and a later node refers to each of the others, just once.
-/
namespace PathQuery

open scoped List

namespace Document

variable {doc d d' : Document} {n m : Nat} {id : NodeId} {ids : List NodeId} {node : Node}

def refs (doc : Document) : List NodeId := doc.nodes.toList.flatMap Node.refs

theorem refs_insert (doc : Document) (node : Node) :
    (doc.insert node).1.refs = doc.refs ++ node.refs := by simp [refs, insert]

/-- `n` nodes were put into `doc`. Each of the new places is referred to by one of them or is one of
those given away, and is so once. -/
structure Planted (doc : Document) (n : Nat) (r : Document × List NodeId) : Prop where
  size_eq : r.1.size = doc.size + n
  refs_perm : r.1.refs ++ r.2 ~ doc.refs ++ List.range' doc.size n

theorem Planted.nil (doc : Document) : doc.Planted 0 (doc, []) := ⟨rfl, .refl _⟩

theorem Planted.cons (h : doc.Planted n (d, [id])) (h' : d.Planted m (d', ids)) :
    doc.Planted (n + m) (d', id :: ids) := by
  have size : d.size = doc.size + n := h.size_eq
  have size' : d'.size = d.size + m := h'.size_eq
  have later := h'.refs_perm
  rw [size] at later
  refine ⟨by rw [size', size, Nat.add_assoc], ?_⟩
  calc d'.refs ++ id :: ids
    _ ~ id :: (d'.refs ++ ids) := List.perm_middle
    _ ~ id :: (d.refs ++ List.range' (doc.size + n) m) := later.cons id
    _ ~ d.refs ++ [id] ++ List.range' (doc.size + n) m := by
      rw [List.append_assoc]
      exact List.perm_middle.symm
    _ ~ doc.refs ++ List.range' doc.size n ++ List.range' (doc.size + n) m :=
      h.refs_perm.append_right _
    _ ~ doc.refs ++ List.range' doc.size (n + m) := by
      rw [List.append_assoc, List.range'_append_1]

theorem Planted.insert (h : doc.Planted n (d, node.refs)) :
    doc.Planted (n + 1) ((d.insert node).1, [(d.insert node).2]) := by
  have size : d.size = doc.size + n := h.size_eq
  refine ⟨by rw [size_insert, size, Nat.add_assoc], ?_⟩
  have last : (d.insert node).2 = doc.size + n := size
  rw [last, refs_insert, List.range'_concat, Nat.one_mul, ← List.append_assoc]
  exact h.refs_perm.append_right _

theorem Grown.treeAt_insert (h : doc.Grown (d, node.refs)) (wellFormed : doc.WellFormed) :
    (d.insert node).1.treeAt (d.insert node).2 = treeOf node d.treeAt := by
  have before : d.WellFormed := h.wellFormed wellFormed
  have behind : (d.insert node).1.WellFormed := before.insert (h.lt_size wellFormed)
  rw [treeAt_eq behind.acyclic, get_insert_size]
  refine usesRefs_treeOf _ _ _ fun r hr => ?_
  exact (kept_insert d node).treeAt_eq before behind (h.lt_size wellFormed r hr)

theorem Grown.treeAt_eq (h : doc.Grown (d, [id])) (h' : d.Grown (d', ids))
    (wellFormed : doc.WellFormed) : d'.treeAt id = d.treeAt id := by
  have before : d.WellFormed := h.wellFormed wellFormed
  exact h'.kept.treeAt_eq before (h'.wellFormed before) (h.lt_size wellFormed id List.mem_cons_self)

mutual

theorem insertJson_planted {doc : Document} (h : doc.WellFormed) : ∀ v : Json,
    doc.Planted v.size ((doc.insertJson v).1, [(doc.insertJson v).2]) ∧
      (doc.insertJson v).1.treeAt (doc.insertJson v).2 = v.tree
  | .null => ⟨(Planted.nil doc).insert, (Grown.nil doc).treeAt_insert h⟩
  | .bool _ => ⟨(Planted.nil doc).insert, (Grown.nil doc).treeAt_insert h⟩
  | .number _ => ⟨(Planted.nil doc).insert, (Grown.nil doc).treeAt_insert h⟩
  | .string _ => ⟨(Planted.nil doc).insert, (Grown.nil doc).treeAt_insert h⟩
  -- A container goes in behind its parts, which are planted by then.
  | .array items => by
    obtain ⟨planted, trees⟩ := insertJsonItems_planted h items
    refine ⟨planted.insert, ((insertJsonItems_grown doc items).treeAt_insert h).trans ?_⟩
    exact congrArg Tree.sequence trees
  | .object members => by
    obtain ⟨planted, trees⟩ := insertJsonMembers_planted h members
    refine ⟨planted.insert, ((insertJsonMembers_grown doc members).treeAt_insert h).trans ?_⟩
    exact congrArg Tree.mapping trees

theorem insertJsonItems_planted {doc : Document} (h : doc.WellFormed) : ∀ items : List Json,
    doc.Planted (Json.sizeItems items) (doc.insertJsonItems items) ∧
      (doc.insertJsonItems items).2.map (doc.insertJsonItems items).1.treeAt = Json.treeItems items
  | [] => ⟨.nil doc, rfl⟩
  | item :: rest => by
    have grown := insertJson_grown doc item
    have tree_eq := grown.treeAt_eq (insertJsonItems_grown _ rest) h
    obtain ⟨first, tree⟩ := insertJson_planted h item
    obtain ⟨later, trees⟩ := insertJsonItems_planted (grown.wellFormed h) rest
    exact ⟨first.cons later, List.cons_eq_cons.mpr ⟨tree_eq.trans tree, trees⟩⟩

theorem insertJsonMembers_planted {doc : Document} (h : doc.WellFormed) :
    ∀ members : List (String × Json),
      doc.Planted (Json.sizeMembers members)
          ((doc.insertJsonMembers members).1, (doc.insertJsonMembers members).2.map Prod.snd) ∧
        ((doc.insertJsonMembers members).2.map fun e =>
          (e.1, (doc.insertJsonMembers members).1.treeAt e.2)) = Json.treeMembers members
  | [] => ⟨.nil doc, rfl⟩
  | (name, v) :: rest => by
    have grown := insertJson_grown doc v
    have tree_eq := grown.treeAt_eq (insertJsonMembers_grown _ rest) h
    obtain ⟨first, tree⟩ := insertJson_planted h v
    obtain ⟨later, trees⟩ := insertJsonMembers_planted (grown.wellFormed h) rest
    refine ⟨first.cons later, List.cons_eq_cons.mpr ⟨?_, trees⟩⟩
    exact congrArg (name, ·) (tree_eq.trans tree)

end

mutual

theorem insertYaml_planted {doc : Document} (h : doc.WellFormed) : ∀ v : Yaml,
    doc.Planted v.size ((doc.insertYaml v).1, [(doc.insertYaml v).2]) ∧
      (doc.insertYaml v).1.treeAt (doc.insertYaml v).2 = v.tree
  | .null => ⟨(Planted.nil doc).insert, (Grown.nil doc).treeAt_insert h⟩
  | .bool _ => ⟨(Planted.nil doc).insert, (Grown.nil doc).treeAt_insert h⟩
  | .integer _ => ⟨(Planted.nil doc).insert, (Grown.nil doc).treeAt_insert h⟩
  | .real _ => ⟨(Planted.nil doc).insert, (Grown.nil doc).treeAt_insert h⟩
  | .string _ => ⟨(Planted.nil doc).insert, (Grown.nil doc).treeAt_insert h⟩
  | .sequence items => by
    obtain ⟨planted, trees⟩ := insertYamlItems_planted h items
    refine ⟨planted.insert, ((insertYamlItems_grown doc items).treeAt_insert h).trans ?_⟩
    exact congrArg Tree.sequence trees
  | .mapping entries => by
    obtain ⟨planted, trees⟩ := insertYamlEntries_planted h entries
    refine ⟨planted.insert, ((insertYamlEntries_grown doc entries).treeAt_insert h).trans ?_⟩
    exact congrArg Tree.genericMapping trees
  | .unresolved => ⟨(Planted.nil doc).insert, (Grown.nil doc).treeAt_insert h⟩

theorem insertYamlItems_planted {doc : Document} (h : doc.WellFormed) : ∀ items : List Yaml,
    doc.Planted (Yaml.sizeItems items) (doc.insertYamlItems items) ∧
      (doc.insertYamlItems items).2.map (doc.insertYamlItems items).1.treeAt = Yaml.treeItems items
  | [] => ⟨.nil doc, rfl⟩
  | item :: rest => by
    have grown := insertYaml_grown doc item
    have tree_eq := grown.treeAt_eq (insertYamlItems_grown _ rest) h
    obtain ⟨first, tree⟩ := insertYaml_planted h item
    obtain ⟨later, trees⟩ := insertYamlItems_planted (grown.wellFormed h) rest
    exact ⟨first.cons later, List.cons_eq_cons.mpr ⟨tree_eq.trans tree, trees⟩⟩

theorem insertYamlEntries_planted {doc : Document} (h : doc.WellFormed) :
    ∀ entries : List (Yaml × Yaml),
      doc.Planted (Yaml.sizeEntries entries) ((doc.insertYamlEntries entries).1,
          (doc.insertYamlEntries entries).2.flatMap fun e => [e.1, e.2]) ∧
        ((doc.insertYamlEntries entries).2.map fun e =>
          ((doc.insertYamlEntries entries).1.treeAt e.1,
            (doc.insertYamlEntries entries).1.treeAt e.2)) = Yaml.treeEntries entries
  | [] => ⟨.nil doc, rfl⟩
  | (k, v) :: rest => by
    have keyGrown := insertYaml_grown doc k
    have valueGrown := insertYaml_grown (doc.insertYaml k).1 v
    have laterGrown := insertYamlEntries_grown ((doc.insertYaml k).1.insertYaml v).1 rest
    have hkey := keyGrown.wellFormed h
    obtain ⟨key, keyTree⟩ := insertYaml_planted h k
    obtain ⟨value, valueTree⟩ := insertYaml_planted hkey v
    obtain ⟨later, trees⟩ := insertYamlEntries_planted (valueGrown.wellFormed hkey) rest
    refine ⟨key.cons (value.cons later), List.cons_eq_cons.mpr ⟨?_, trees⟩⟩
    exact congrArg₂ Prod.mk ((keyGrown.treeAt_eq (valueGrown.cons laterGrown) h).trans keyTree)
      ((valueGrown.treeAt_eq laterGrown hkey).trans valueTree)

end

/-- A document that is one tree of so many values. The first place holds null and stands apart; all
other ones belong to the tree, each referred to from behind and, but for the root, once. -/
structure IsTree (doc : Document) (values : Nat) (tree : Tree) : Prop where
  size_eq : doc.size = values + 1
  first : doc.get 0 = .null
  root : 0 < doc.root ∧ doc.root < doc.size
  treeAt_root : doc.treeAt doc.root = tree
  refs_lt : ∀ id, ∀ r ∈ (doc.get id).refs, 0 < r ∧ r < id
  referred_once : ∀ id < doc.size, id ≠ 0 → id ≠ doc.root → doc.refs.count id = 1

theorem mem_refs_of_mem (h : id ∈ (doc.get n).refs) : id ∈ doc.refs := by
  unfold get at h
  cases hnode : doc.nodes[n]? with
  | none => rw [hnode] at h; cases h
  | some node =>
    rw [hnode] at h
    refine List.mem_flatMap.mpr ⟨node, ?_, h⟩
    exact Array.mem_toList_iff.mpr (Array.mem_of_getElem? hnode)

theorem Planted.isTree {tree : Tree} (h : null.Planted n (d, [id])) (grown : null.Grown (d, [id]))
    (htree : d.treeAt id = tree) : (d.setRoot id).IsTree n tree := by
  have wellFormed : d.WellFormed := grown.wellFormed null_wellFormed
  have size : d.size = 1 + n := h.size_eq
  have lt : id < d.size := grown.lt_size null_wellFormed id List.mem_cons_self
  have perm : d.refs ++ [id] ~ List.range' 1 n := h.refs_perm
  have places {x : NodeId} (hx : x ∈ d.refs ++ [id]) : 1 ≤ x ∧ x < 1 + n :=
    List.mem_range'_1.mp (perm.mem_iff.mp hx)
  refine ⟨size.trans (Nat.add_comm 1 n), grown.kept 0 Nat.zero_lt_one,
    ⟨(places (List.mem_append_right _ (List.mem_singleton_self id))).1, lt⟩, ?_, ?_, ?_⟩
  · have kept : d.Kept (d.setRoot id) := fun _ _ => rfl
    exact (kept.treeAt_eq wellFormed ⟨wellFormed.refs_lt, lt⟩ lt).trans htree
  · intro x r hr
    have inside := List.mem_append_left [id] (mem_refs_of_mem hr)
    exact ⟨(places inside).1, wellFormed.refs_lt x r hr⟩
  · intro x hx pos hne
    have new : x ∈ List.range' 1 n := List.mem_range'_1.mpr ⟨Nat.pos_of_ne_zero pos, size ▸ hx⟩
    have other : x ∉ [id] := mt List.mem_singleton.mp hne
    calc d.refs.count x
      _ = (d.refs ++ [id]).count x := by
        rw [List.count_append, List.count_eq_zero_of_not_mem other, Nat.add_zero]
      _ = (List.range' 1 n).count x := perm.count_eq x
      _ = 1 := List.count_eq_one_of_mem List.nodup_range' new

theorem ofJson_isTree (v : Json) : (ofJson v).IsTree v.size v.tree := by
  obtain ⟨planted, tree⟩ := insertJson_planted null_wellFormed v
  exact planted.isTree (insertJson_grown null v) tree

theorem ofYaml_isTree (v : Yaml) : (ofYaml v).IsTree v.size v.tree := by
  obtain ⟨planted, tree⟩ := insertYaml_planted null_wellFormed v
  exact planted.isTree (insertYaml_grown null v) tree

/-- The documents of JSON values, of YAML values and of JSON lines are trees, those of the values and of
the sequence of the values of the lines that are not blank. -/
theorem decoded_documents_are_trees :
    (∀ v : Json, (ofJson v).IsTree v.size v.tree) ∧
      (∀ v : Yaml, (ofYaml v).IsTree v.size v.tree) ∧
      ∀ text doc, readJsonLines text = .ok doc →
        ∃ values : List Json,
          List.Forall₂ (fun line v => Json.read (String.ofList line) = .ok v)
            (recordsOf (Text.lines text.toList)) values ∧
          doc.IsTree (Json.sizeItems values + 1) (.sequence (Json.treeItems values)) := by
  refine ⟨ofJson_isTree, ofYaml_isTree, fun text doc h => ?_⟩
  obtain ⟨values, reads, rfl⟩ := readJsonLinesWith_eq_ofJson h
  exact ⟨values, reads, ofJson_isTree (.array values)⟩

def twoLines : Document :=
  ⟨#[.null, .number (.finite false 4503599627370496 (-52) (by decide)), .bool true, .null, .mapping [("a", 3)], .sequence [2, 4],
    .sequence [1, 5]], 6⟩

theorem decoded_documents_are_trees_twoLines :
    readJsonLines "1\n \n[true,\x7b\"a\":null\x7d]" = .ok twoLines ∧
      ∃ values : List Json,
        List.Forall₂ (fun line v => Json.read (String.ofList line) = .ok v)
          (recordsOf (Text.lines "1\n \n[true,\x7b\"a\":null\x7d]".toList)) values ∧
        twoLines.IsTree (Json.sizeItems values + 1) (.sequence (Json.treeItems values)) := by
  have answer : (readJsonLines "1\n \n[true,\x7b\"a\":null\x7d]").toOption = some twoLines := by
    decide +kernel
  have read : readJsonLines "1\n \n[true,\x7b\"a\":null\x7d]" = .ok twoLines := by
    cases hread : readJsonLines "1\n \n[true,\x7b\"a\":null\x7d]" with
    | error e => rw [hread] at answer; cases answer
    | ok doc => rw [hread] at answer; exact congrArg Except.ok (Option.some.inj answer)
  exact ⟨read, decoded_documents_are_trees.2.2 _ _ read⟩

end Document

end PathQuery
