import PathQuery.Proofs.Document.Generic
import PathQuery.Proofs.Evaluation.Depth
import PathQuery.Proofs.Evaluation.Selection
import PathQuery.Proofs.Query.RoundTrip
import PathQuery.Proofs.Text.Digits

/-!
Every position has an address: the texts of its keys, escaped, with a dot between
any two of them. Read as a query it selects by these texts alone, so it leads to
the position. Several keys of a generic mapping can have one text; without such
mappings the position is the only result.
-/
namespace PathQuery

variable {doc : Document} {t : Trail} {id : ElementId} {p : Position}

namespace Query

variable {texts : List String}

def literals (texts : List String) : List Part := texts.map fun text => ⟨.literal text, []⟩

def route (texts : List String) : String :=
  ".".intercalate (texts.map fun text => String.ofList (escape text))

theorem charsOfParts_literals (texts : List String) :
    charsOfParts (literals texts) = ['.'].intercalate (texts.map escape) := by
  induction texts with
  | nil => rfl
  | cons text rest ih =>
    have here : Part.chars ⟨.literal text, []⟩ = escape text := List.append_nil _
    cases rest with
    | nil => simp [literals, charsOfParts, here]
    | cons next rest =>
      simp only [List.map_cons, List.intercalate_cons_cons] at ih ⊢
      rw [← ih]
      simp [literals, charsOfParts, here]

theorem text_literals (texts : List String) : text (literals texts) = route texts := by
  apply String.toList_injective
  rw [text, String.toList_ofList, charsOfParts_literals, route, String.toList_intercalate,
    List.map_map]
  simp [Function.comp_def]

theorem parse_route (h : ∀ text ∈ texts, text ∉ ["", "*", "**"]) :
    parse (route texts) = .ok (literals texts) := by
  have readable : ∀ part ∈ literals texts, part.specifier.Readable := List.forall_mem_map.mpr h
  have last : (literals texts).getLast? ≠ some .bareParent := by
    simp [literals, Part.bareParent]
  rw [← text_literals, parse_text readable, dropBareParent_of_getLast?_ne last]

end Query

namespace Document

def routeText (doc : Document) : Key → String
  | .name name => name
  | .index i => toString i
  | .entry key _ => doc.textAt key

/-- The positions that texts lead to from a position, one step down for each of them. -/
def literalPositions (doc : Document) : List String → Position → List Position
  | [], p => [p]
  | text :: rest, p =>
    (((doc.keysAt p).filter (doc.denotes text)).map fun key => p ++ [key]).flatMap
      (doc.literalPositions rest)

theorem keyMatches_textAt (doc : Document) (id : NodeId) :
    doc.keyMatches id (doc.textAt id) = true := by
  cases hnode : doc.get id with
  | bool b =>
    simp only [keyMatches, textAt, textOf, hnode]
    cases b <;> decide
  | _ => simp [keyMatches, textAt, textOf, hnode]

theorem denotes_routeText {key : Key} (word : ∀ i, key = .index i → i < 2 ^ 64) :
    doc.denotes (doc.routeText key) key = true := by
  cases key with
  | name name => exact decide_eq_true rfl
  | index i => exact decide_eq_true (indexOf?_toString (word i rfl))
  | entry id place => exact doc.keyMatches_textAt id

theorem mem_literalPositions {q : Position} (hq : (doc.nodeAt? (p ++ q)).isSome)
    (words : ∀ i, Key.index i ∈ q → i < 2 ^ 64) :
    p ++ q ∈ doc.literalPositions (q.map doc.routeText) p := by
  induction q generalizing p with
  | nil => simp [literalPositions]
  | cons key q ih =>
    obtain ⟨node, hp, hdown⟩ := exists_nodeAt?_of_append hq
    obtain ⟨child, hchild⟩ : ∃ child, (doc.get node).child? key = some child := by
      cases hc : (doc.get node).child? key with
      | none => simp [nodeFrom?, hc] at hdown
      | some child => exact ⟨child, rfl⟩
    have hkey : key ∈ (doc.keysAt p).filter (doc.denotes (doc.routeText key)) := by
      refine List.mem_filter.mpr ⟨?_, denotes_routeText fun i hi => ?_⟩
      · rw [keysAt, valueAt_eq hp]
        exact Node.mem_keys_of_child? hchild
      · exact words i (hi ▸ List.mem_cons_self)
    rw [List.append_cons] at hq ⊢
    rw [List.map_cons, literalPositions]
    refine List.mem_flatMap.mpr ⟨p ++ [key], List.mem_map_of_mem hkey, ih hq fun i hi => ?_⟩
    exact words i (List.mem_cons_of_mem key hi)

theorem length_lookup_le_one {node : Node} (h : node.isGeneric = false) (doc : Document)
    (text : String) : (doc.lookup node text).length ≤ 1 := by
  cases node with
  | genericMapping entries => cases h
  | sequence items =>
    unfold lookup
    dsimp only
    repeat' split
    all_goals simp
  | mapping entries =>
    unfold lookup
    dsimp only
    split <;> simp
  | _ => exact Nat.zero_le 1

theorem exists_valueAt_eq_get (doc : Document) (p : Position) :
    ∃ id, doc.valueAt p = doc.get id := by
  cases hp : doc.nodeAt? p with
  | none => exact ⟨doc.size, by rw [valueAt, hp, get_of_size_le (Nat.le_refl _)]; rfl⟩
  | some id => exact ⟨id, valueAt_eq hp⟩

theorem length_literalPositions_le_one (hd : doc.NamesDistinct) (plain : doc.NoGeneric)
    (texts : List String) (p : Position) : (doc.literalPositions texts p).length ≤ 1 := by
  induction texts generalizing p with
  | nil => exact Nat.le_refl 1
  | cons text rest ih =>
    obtain ⟨id, hvalue⟩ := doc.exists_valueAt_eq_get p
    have denoted : ((doc.keysAt p).filter (doc.denotes text)).length ≤ 1 := by
      rw [keysAt, hvalue, ← map_fst_lookup (hd id), List.length_map]
      exact length_lookup_le_one (plain id) doc text
    rw [literalPositions]
    cases hkeys : (doc.keysAt p).filter (doc.denotes text) with
    | nil => exact Nat.zero_le 1
    | cons key others =>
      obtain rfl : others = [] := by
        rw [hkeys, List.length_cons] at denoted
        exact List.length_eq_zero_iff.mp (by omega)
      simpa using ih (p ++ [key])

end Document

namespace Evaluation

theorem follow_literals (hd : doc.NamesDistinct) (error : EvaluationError) (texts : List String)
    {budget : Nat} (fits : texts.length < budget) (h : t.StandsFor doc id p) :
    (follow doc error (Query.literals texts) budget id t).Finds doc t
        (doc.literalPositions texts p) ∧
      (follow doc error (Query.literals texts) budget id t).FailsIff error False := by
  induction texts generalizing budget t id p with
  | nil =>
    obtain ⟨budget, rfl⟩ := Nat.exists_eq_succ_of_ne_zero (Nat.ne_zero_of_lt fits)
    exact ⟨Walk.finds_ok.mpr ⟨Trail.Grows.refl doc t, .cons h .nil⟩, Walk.failsIff_ok not_false⟩
  | cons text rest ih =>
    obtain ⟨budget, rfl⟩ := Nat.exists_eq_succ_of_ne_zero (Nat.ne_zero_of_lt fits)
    have step (id p) (t : Trail) (hp : t.StandsFor doc id p) :=
      ih (Nat.lt_of_succ_lt_succ fits) hp
    obtain ⟨grows, found⟩ := lookup_finds h hd text
    have finds := Walk.each_finds (fun id p t hp => (step id p t hp).1) found
    have fails := Walk.each_failsIff (fun id p t hp => (step id p t hp).1.1)
      (fun id p t hp => (step id p t hp).2) found
    simp only [Query.literals, List.map_cons, follow, select, ← h.valueAt]
    exact ⟨⟨grows.trans finds.1, finds.2⟩, fails.congr (by simp)⟩

end Evaluation

theorem evaluate_literals (hd : doc.NamesDistinct) {limit : Nat} {texts : List String}
    (fits : texts.length ≤ limit) (t : Trail) :
    ∃ t' ids, evaluate doc limit (Query.literals texts) t = (t', .ok ids) ∧
      List.Forall₂ (t'.StandsFor doc) ids (doc.literalPositions texts []) := by
  obtain ⟨finds, fails⟩ := Evaluation.follow_literals hd (.depthExceeded limit) texts
    (Nat.lt_succ_of_le fits) (Trail.pushRoot_spec doc t).2
  obtain ⟨ids, hids⟩ := fails.succeeds not_false
  exact ⟨_, ids, Prod.ext rfl hids, finds.2 ids hids⟩

/-- The query that the texts of the keys to a position make, escaped and with a dot between any two
of them, is read as these texts, and leads to the position: its node and its canonical path are among
the results, and are the only result if no node is a generic mapping. Indices are machine words, as
no sequence in memory has more items. -/
theorem position_addressed_by_route (doc : Document) (distinct : doc.NamesDistinct) (p : Position)
    (node : NodeId) (hp : doc.nodeAt? p = some node)
    (words : ∀ i, Key.index i ∈ p → i < 2 ^ 64)
    (plain : ∀ key ∈ p, doc.routeText key ∉ ["", "*", "**"])
    (limit : Nat) (fits : p.length ≤ limit) :
    Query.parse (Query.route (p.map doc.routeText)) = .ok (Query.literals (p.map doc.routeText)) ∧
      ∃ t ids, evaluate doc limit (Query.literals (p.map doc.routeText)) .empty = (t, .ok ids) ∧
        select doc (Query.literals (p.map doc.routeText)) .ordered limit =
          .ok (ids.map (t.matchAt doc)) ∧
        (∃ id ∈ ids, t.position id = p ∧ t.matchAt doc id = ⟨node, doc.pathAt p⟩) ∧
        (doc.NoGeneric → ids.map (t.matchAt doc) = [⟨node, doc.pathAt p⟩]) := by
  refine ⟨Query.parse_route (List.forall_mem_map.mpr plain), ?_⟩
  have room : (p.map doc.routeText).length ≤ limit := by rwa [List.length_map]
  obtain ⟨t, ids, run, found⟩ := evaluate_literals distinct room .empty
  have here : doc.matchAt p = ⟨node, doc.pathAt p⟩ := by
    rw [Document.matchAt, hp, Option.getD_some]
  have reached : p ∈ doc.literalPositions (p.map doc.routeText) [] :=
    Document.mem_literalPositions (p := []) (by simp [hp]) words
  refine ⟨t, ids, run, select_ordered_of_evaluate run, ?_, fun noGeneric => ?_⟩
  · obtain ⟨id, hid, stands⟩ := exists_standsFor_of_mem found reached
    exact ⟨id, hid, stands.position_eq, stands.matchAt_eq.trans here⟩
  · have small := Document.length_literalPositions_le_one distinct noGeneric
      (p.map doc.routeText) []
    obtain ⟨q, alone⟩ :=
      List.length_eq_one_iff.mp (Nat.le_antisymm small (List.length_pos_of_mem reached))
    rw [alone, List.mem_singleton] at reached
    rw [map_matchAt_of_standsFor found, alone, ← reached, List.map_singleton, here]

def Document.pointed : Document :=
  .ofYaml (.mapping [
    (.real "1.5", .mapping [(.sequence [.bool true, .string "a.b"], .sequence [.string "x"])]),
    (.string "1.5", .string "y")])

def Document.quoting : Document :=
  .ofJson (.object [("a.b=\"c\"", .array [.string "x", .array [.null]])])

theorem Document.pointed_namesDistinct : pointed.NamesDistinct :=
  namesDistinct_of_lt_size (by decide +kernel)

theorem Document.quoting_namesDistinct : quoting.NamesDistinct :=
  namesDistinct_of_lt_size (by decide +kernel)

theorem Document.quoting_noGeneric : quoting.NoGeneric := by
  have inserted := insertJson_noGeneric null_noGeneric
    (.object [("a.b=\"c\"", .array [.string "x", .array [.null]])])
  exact inserted

theorem position_addressed_by_route_pointed :
    (Query.parse "1\\.5.[true,\\\"a\\.b\\\"].0" =
        .ok (Query.literals ["1.5", "[true,\"a.b\"]", "0"]) ∧
      ∃ ms, select .pointed (Query.literals ["1.5", "[true,\"a.b\"]", "0"]) .ordered 3 = .ok ms ∧
        ⟨5, "1.5.[true,\"a.b\"].0"⟩ ∈ ms) ∧
    Query.parse "a\\.b\\=\\\"c\\\".1.0" = .ok (Query.literals ["a.b=\"c\"", "1", "0"]) ∧
      select .quoting (Query.literals ["a.b=\"c\"", "1", "0"]) .ordered 3 =
        .ok [⟨2, "\"a.b=\\\"c\\\"\".1.0"⟩] := by
  have pointed := position_addressed_by_route .pointed Document.pointed_namesDistinct
    [.entry 1 0, .entry 4 0, .index 0] 5 (by decide +kernel) (by simp) (by decide +kernel) 3
    (by decide)
  have quoting := position_addressed_by_route .quoting Document.quoting_namesDistinct
    [.name "a.b=\"c\"", .index 1, .index 0] 2 (by decide +kernel) (by simp) (by decide +kernel) 3
    (by decide)
  have texts : [Key.entry 1 0, .entry 4 0, .index 0].map Document.pointed.routeText =
      ["1.5", "[true,\"a.b\"]", "0"] := by decide +kernel
  have path : Document.pointed.pathAt [.entry 1 0, .entry 4 0, .index 0] =
      "1.5.[true,\"a.b\"].0" := by decide +kernel
  rw [texts, path] at pointed
  constructor
  · obtain ⟨read, t, ids, -, run, ⟨id, hid, -, found⟩, -⟩ := pointed
    exact ⟨read, _, run, found ▸ List.mem_map_of_mem hid⟩
  · obtain ⟨read, t, ids, -, run, -, alone⟩ := quoting
    exact ⟨read, run.trans (congrArg Except.ok (alone Document.quoting_noGeneric))⟩

end PathQuery
