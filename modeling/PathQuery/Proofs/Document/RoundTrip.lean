import PathQuery.Proofs.Document.Insertion
import PathQuery.Proofs.Document.Json
import PathQuery.Proofs.Number.Integer

/-!
From a document to JSON and back. The JSON value of a node depends on nothing but
the tree that the node unfolds to. Without generic mappings, and with finite
numbers only, the value has that same tree again, where both zeros are one number;
so the way there and back, and there once more, gives the same value.
-/
namespace PathQuery

open Document (jsonOfNumber objectOf memberNames)

namespace Tree

def top : Tree → Node
  | .null => .null
  | .bool b => .bool b
  | .number x => .number x
  | .text s => .text s
  | .sequence _ => .sequence []
  | .mapping _ => .mapping []
  | .genericMapping _ => .genericMapping []

mutual

def json : Tree → Json
  | .null => .null
  | .bool b => .bool b
  | .number x => jsonOfNumber x
  | .text s => .string s
  | .sequence items => .array (jsonItems items)
  | .mapping entries => objectOf (jsonMembers entries)
  | .genericMapping entries =>
    objectOf ((memberNames [] 0 (keyTexts entries)).zip (jsonValues entries))

def jsonItems : List Tree → List Json
  | [] => []
  | item :: rest => json item :: jsonItems rest

def jsonMembers : List (String × Tree) → List (String × Json)
  | [] => []
  | (name, t) :: rest => (name, json t) :: jsonMembers rest

def keyTexts : List (Tree × Tree) → List String
  | [] => []
  | (k, _) :: rest => Document.textOf k.top (json k) :: keyTexts rest

def jsonValues : List (Tree × Tree) → List Json
  | [] => []
  | (_, v) :: rest => json v :: jsonValues rest

end

variable {t : Tree}

theorem jsonItems_eq (items : List Tree) : jsonItems items = items.map json := by
  induction items with
  | nil => rfl
  | cons item rest ih => rw [jsonItems, ih, List.map_cons]

theorem jsonMembers_eq (entries : List (String × Tree)) :
    jsonMembers entries = entries.map fun e => (e.1, e.2.json) := by
  induction entries with
  | nil => rfl
  | cons e rest ih => rw [jsonMembers, ih, List.map_cons]

theorem keyTexts_eq (entries : List (Tree × Tree)) :
    keyTexts entries = entries.map fun e => Document.textOf e.1.top e.1.json := by
  induction entries with
  | nil => rfl
  | cons e rest ih => rw [keyTexts, ih, List.map_cons]

theorem jsonValues_eq (entries : List (Tree × Tree)) :
    jsonValues entries = entries.map fun e => e.2.json := by
  induction entries with
  | nil => rfl
  | cons e rest ih => rw [jsonValues, ih, List.map_cons]

/-- The same tree, where numbers are the same if they are equal as numbers. -/
inductive Same : Tree → Tree → Prop
  | null : Same .null .null
  | bool (b : Bool) : Same (.bool b) (.bool b)
  | number {x y : Binary64} (h : x.numEq y) : Same (.number x) (.number y)
  | text (s : String) : Same (.text s) (.text s)
  | sequence {items items' : List Tree} (h : List.Forall₂ Same items items') :
      Same (.sequence items) (.sequence items')
  | mapping {entries entries' : List (String × Tree)}
      (names : entries.map Prod.fst = entries'.map Prod.fst)
      (values : List.Forall₂ Same (entries.map Prod.snd) (entries'.map Prod.snd)) :
      Same (.mapping entries) (.mapping entries')
  | genericMapping {entries entries' : List (Tree × Tree)}
      (keys : List.Forall₂ Same (entries.map Prod.fst) (entries'.map Prod.fst))
      (values : List.Forall₂ Same (entries.map Prod.snd) (entries'.map Prod.snd)) :
      Same (.genericMapping entries) (.genericMapping entries')

/-- Without generic mappings, with finite numbers only, and no name twice in a mapping. -/
inductive Plain : Tree → Prop
  | null : Plain .null
  | bool (b : Bool) : Plain (.bool b)
  | number {x : Binary64} (h : x.isFinite = true) : Plain (.number x)
  | text (s : String) : Plain (.text s)
  | sequence {items : List Tree} (h : ∀ t ∈ items, Plain t) : Plain (.sequence items)
  | mapping {entries : List (String × Tree)} (names : (entries.map Prod.fst).Nodup)
      (h : ∀ e ∈ entries, Plain e.2) : Plain (.mapping entries)

end Tree

namespace Json

theorem treeItems_eq (items : List Json) : treeItems items = items.map tree := by
  induction items with
  | nil => rfl
  | cons item rest ih => rw [treeItems, ih, List.map_cons]

theorem treeMembers_eq (members : List (String × Json)) :
    treeMembers members = members.map fun m => (m.1, m.2.tree) := by
  induction members with
  | nil => rfl
  | cons m rest ih => rw [treeMembers, ih, List.map_cons]

end Json

namespace Tree

variable {t : Tree}

theorem Plain.same_tree_json (h : t.Plain) : t.Same t.json.tree ∧ t.json.tree.json = t.json := by
  induction h with
  | null => exact ⟨.null, rfl⟩
  | bool b => exact ⟨.bool b, rfl⟩
  | text s => exact ⟨.text s, rfl⟩
  | number h =>
    obtain ⟨n, hn, heq⟩ := Document.exists_jsonOfNumber h
    rw [json, hn]
    exact ⟨.number heq, (Document.jsonOfNumber_congr heq).symm.trans hn⟩
  | sequence _ ih =>
    rw [json, Json.tree, json, jsonItems_eq, Json.treeItems_eq, jsonItems_eq, List.map_map,
      List.map_map]
    refine ⟨.sequence ?_, ?_⟩
    · rw [List.forall₂_map_right_iff, List.forall₂_same]
      exact fun t ht => (ih t ht).1
    · exact congrArg Json.array (List.map_congr_left fun t ht => (ih t ht).2)
  | @mapping entries names _ ih =>
    -- Without repeats the members of the object are the entries as they are.
    have nodup : ((entries.map fun e => (e.1, e.2.json)).map Prod.fst).Nodup := by
      rwa [List.map_map]
    rw [json, jsonMembers_eq, Document.objectOf_of_nodup nodup, Json.tree, json, jsonMembers_eq,
      Json.treeMembers_eq, List.map_map, List.map_map]
    constructor
    · refine .mapping (by rw [List.map_map]; rfl) ?_
      rw [List.map_map, List.forall₂_map_left_iff, List.forall₂_map_right_iff, List.forall₂_same]
      exact fun e he => (ih e he).1
    · rw [← Document.objectOf_of_nodup nodup]
      exact congrArg objectOf (List.map_congr_left fun e he => congrArg (e.1, ·) (ih e he).2)

end Tree

def Node.isPlain : Node → Bool
  | .number x => x.isFinite
  | .genericMapping _ => false
  | _ => true

namespace Document

variable {doc : Document} {id : NodeId}

theorem textOf_top (node : Node) (tree : NodeId → Tree) (json : Json) :
    textOf (treeOf node tree).top json = textOf node json := by
  cases node <;> rfl

theorem toJson_eq_json_treeAt (acyclic : doc.Acyclic) (id : NodeId) :
    doc.toJson id = (doc.treeAt id).json := by
  induction id using acyclic.wellFounded.induction with
  | _ id ih =>
    have below : doc.jsonOf (doc.get id) doc.toJson =
        doc.jsonOf (doc.get id) fun r => (doc.treeAt r).json :=
      usesRefs_jsonOf doc _ _ _ fun r hr => ih r hr
    rw [toJson_eq acyclic, treeAt_eq acyclic, below]
    cases doc.get id with
    | sequence items =>
      simp only [jsonOf, treeOf, Tree.json, Tree.jsonItems_eq, List.map_map, Function.comp_def]
    | mapping entries =>
      simp only [jsonOf, treeOf, Tree.json, Tree.jsonMembers_eq, List.map_map, Function.comp_def]
    | genericMapping entries =>
      have text (k : NodeId) (json : Json) :
          textOf (doc.treeAt k).top json = textOf (doc.get k) json := by
        rw [treeAt_eq acyclic, textOf_top]
      simp only [jsonOf, treeOf, Tree.json, Tree.keyTexts_eq, Tree.jsonValues_eq, List.map_map,
        Function.comp_def, text]
    | _ => rfl

def Plain (doc : Document) (id : NodeId) : Prop :=
  ∀ r, Relation.ReflTransGen doc.Refers id r → (doc.get r).isPlain = true

theorem plain_of_lt_size (h : ∀ r < doc.size, (doc.get r).isPlain = true) (id : NodeId) :
    doc.Plain id := by
  intro r _
  by_cases hr : r < doc.size
  · exact h r hr
  · rw [get_of_size_le (Nat.le_of_not_lt hr)]
    rfl

theorem Plain.below (h : doc.Plain id) {r : NodeId} (hr : doc.Refers id r) : doc.Plain r :=
  fun x hx => h x (.head hr hx)

theorem Plain.treeAt (acyclic : doc.Acyclic) (distinct : doc.NamesDistinct) (h : doc.Plain id) :
    (doc.treeAt id).Plain := by
  induction id using acyclic.wellFounded.induction with
  | _ id ih =>
    have here := h id .refl
    have below : ∀ r ∈ (doc.get id).refs, (doc.treeAt r).Plain :=
      fun r hr => ih r hr (h.below hr)
    have names := distinct id
    rw [treeAt_eq acyclic]
    cases hnode : doc.get id with
    | null => exact .null
    | bool b => exact .bool b
    | number x =>
      rw [hnode] at here
      exact .number here
    | text s => exact .text s
    | sequence items =>
      rw [hnode] at below
      exact .sequence (List.forall_mem_map.mpr below)
    | mapping entries =>
      rw [hnode] at below names
      simp only [Node.refs, List.forall_mem_map] at below
      refine .mapping ?_ (List.forall_mem_map.mpr below)
      rw [List.map_map]
      exact names
    | genericMapping entries =>
      rw [hnode] at here
      cases here

end Document

open Document in
/-- Below a node without generic mappings, and with finite numbers only, the document of its JSON
value has the tree of the node, and the same JSON value again. A number is cast to a machine integer
if it is an integer of at most fifteen digits, and the cast, which stays within the range, changes
none of these. -/
theorem json_conversion_round_trips :
    (∀ (doc : Document) (id : NodeId), doc.Acyclic → doc.NamesDistinct → doc.Plain id →
      (doc.treeAt id).Same ((ofJson (doc.toJson id)).treeAt (ofJson (doc.toJson id)).root) ∧
        (ofJson (doc.toJson id)).toJson (ofJson (doc.toJson id)).root = doc.toJson id) ∧
      ∀ x : Binary64, x.isFinite = true →
        (jsonOfNumber x = if x.value.isInt ∧ |x.value| < 10 ^ 15
          then .number (.integer x.toInt64) else .number (.real x)) ∧
        (x.value.isInt → |x.value| < 10 ^ 15 →
          x.toInt64 = x.value ∧ -2 ^ 63 < x.toInt64 ∧ x.toInt64 < 2 ^ 63 - 1) := by
  constructor
  · intro doc id acyclic distinct plain
    obtain ⟨same, again⟩ := (plain.treeAt acyclic distinct).same_tree_json
    have value := toJson_eq_json_treeAt acyclic id
    have tree := (ofJson_isTree (doc.toJson id)).treeAt_root
    constructor
    · rw [tree, value]
      exact same
    · rw [toJson_eq_json_treeAt (Begun.ofJson _).wellFormed.acyclic, tree, value]
      exact again
  · intro x hx
    refine ⟨jsonOfNumber_eq hx, fun hint hlt => ?_⟩
    have hvalue := Rat.eq_num_of_isInt hint
    have habs : |x.value.num| < 10 ^ 15 := by
      rw [hvalue] at hlt
      exact_mod_cast hlt
    obtain ⟨hlow, hhigh⟩ := abs_lt.mp habs
    have hcast : x.toInt64 = x.value.num := Binary64.toInt64_eq hx hvalue (by omega) (by omega)
    rw [hcast]
    exact ⟨hvalue.symm, by omega, by omega⟩

def Document.zeroTwice : Document :=
  ⟨#[.null, .number (.zero true), .number (.ofParts false (8 * 10 ^ 15) (-3)),
    .number (.ofParts true (2 ^ 52) (-53)), .sequence [1, 2, 3],
    .mapping [("b", 4), ("a", 4), ("c", 0)]], 5⟩

theorem Document.zeroTwice_wellFormed : Document.zeroTwice.WellFormed :=
  wellFormed_of_lt_size (by decide +kernel) (by decide +kernel)

theorem json_conversion_round_trips_zeroTwice :
    (Document.toJson .zeroTwice 5).text =
        "\x7b\"b\":[0,1000000000000000.0,-0.5],\"a\":[0,1000000000000000.0,-0.5],\"c\":null\x7d" ∧
      (Document.treeAt .zeroTwice 5).Same
        ((Document.ofJson (Document.toJson .zeroTwice 5)).treeAt
          (Document.ofJson (Document.toJson .zeroTwice 5)).root) ∧
      (Document.ofJson (Document.toJson .zeroTwice 5)).toJson
        (Document.ofJson (Document.toJson .zeroTwice 5)).root = Document.toJson .zeroTwice 5 ∧
      (Binary64.ofInt (1 - 10 ^ 15)).toInt64 = (Binary64.ofInt (1 - 10 ^ 15)).value := by
  obtain ⟨same, again⟩ := json_conversion_round_trips.1 .zeroTwice 5
    Document.zeroTwice_wellFormed.acyclic (Document.namesDistinct_of_lt_size (by decide +kernel))
    (Document.plain_of_lt_size (by decide +kernel) 5)
  obtain ⟨-, cast⟩ := json_conversion_round_trips.2 (.ofInt (1 - 10 ^ 15)) (by decide +kernel)
  exact ⟨by decide +kernel, same, again, (cast (by decide +kernel) (by decide +kernel)).1⟩

end PathQuery
