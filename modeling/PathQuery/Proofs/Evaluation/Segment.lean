import PathQuery.Proofs.Document.Position
import PathQuery.Proofs.Json.Writer

/-!
The keys in a path. Texts and containers end in a quote or a bracket, and all
other keys are words, except that a number with a fraction has a point. So a key
never looks like another one with a place behind it, and two keys of one node
are written in two ways. Only a number with a fraction can be taken for two keys.
-/
namespace PathQuery

open Text (Word Piece append_cons_inj word_repr toDigits_injective)
open Text.Nesting (Passes)

namespace Text

structure Enclosed (cs : List Char) : Prop where
  piece : Piece cs
  last : ∃ front c, cs = front ++ [c] ∧ ¬ c.isDigit

theorem enclosed_quoted (s : String) : Enclosed (quoted s).toList := by
  have passes := Nesting.quoted_passes s 0
  rw [quoted, String.toList_ofList, quotedChars] at passes ⊢
  exact ⟨⟨by simp, passes⟩, _, '"', rfl, by decide⟩

theorem enclosed_array (items : List Json) : Enclosed (Json.array items).text.toList := by
  rw [Json.text, String.toList_ofList]
  exact ⟨⟨by simp [Json.chars], Json.array_passes items 0⟩,
    ⟨_, ']', by rw [Json.chars], by decide⟩⟩

theorem enclosed_object (members : List (String × Json)) :
    Enclosed (Json.object members).text.toList := by
  rw [Json.text, String.toList_ofList]
  exact ⟨⟨by simp [Json.chars], Json.object_passes members 0⟩,
    ⟨_, '\x7d', by rw [Json.chars], by decide⟩⟩

def mark (n : Nat) : List Char := '#' :: n.repr.toList

theorem passes_mark (n : Nat) : Passes (.outside 0) (mark n) (.outside 0) :=
  .cons (by decide) (word_repr n).piece.passes

theorem repr_toList_injective : Function.Injective fun n : Nat => n.repr.toList := by
  intro m n h
  simp only [Nat.toList_repr] at h
  exact toDigits_injective (by decide) (by decide) h

theorem append_mark_inj {as bs : List Char} {m n : Nat} (h : as ++ mark m = bs ++ mark n) :
    as = bs ∧ m = n := by
  have hrev := congrArg List.reverse h
  simp only [mark, List.reverse_append, List.reverse_cons, List.append_assoc, List.singleton_append]
    at hrev
  have hdigits (k : Nat) : '#' ∉ k.repr.toList.reverse := by
    rw [List.mem_reverse]
    exact (word_repr k).notMem (by decide)
  obtain ⟨hmark, hfront⟩ := append_cons_inj (hdigits m) (hdigits n) hrev
  exact ⟨List.reverse_injective hfront, repr_toList_injective (List.reverse_injective hmark)⟩

theorem Enclosed.ne_append_mark {cs : List Char} (h : Enclosed cs) (as : List Char) (n : Nat) :
    cs ≠ as ++ mark n := by
  intro heq
  obtain ⟨front, c, rfl, hc⟩ := h.last
  obtain ⟨digits, d, hd⟩ :=
    (List.eq_nil_or_concat n.repr.toList).resolve_left (word_repr n).ne_nil
  have hlast : front ++ [c] = (as ++ '#' :: digits) ++ [d] := by simpa [mark, hd] using heq
  obtain rfl : c = d := (List.cons.inj (List.append_inj' hlast rfl).2).1
  have hmem : c ∈ n.repr.toList := by simp [hd]
  rw [Nat.toList_repr] at hmem
  exact hc (Nat.isDigit_of_mem_toDigits (by decide) (by decide) hmem)

theorem piece_append_mark {cs : List Char} (h : Piece cs) (place : Nat) (shadowed : Bool) :
    Piece (cs ++ if shadowed then mark place else []) where
  ne_nil := List.append_ne_nil_of_left_ne_nil h.ne_nil _
  passes := by
    split
    · exact h.passes.append (passes_mark place)
    · rw [List.append_nil]
      exact h.passes

theorem point_notMem_append_mark {cs : List Char} (h : Word cs) (place : Nat) (shadowed : Bool) :
    '.' ∉ cs ++ if shadowed then mark place else [] := by
  have hmark : '.' ∉ mark place := by
    rw [mark, List.mem_cons, not_or]
    exact ⟨by decide, (word_repr place).notMem (by decide)⟩
  rw [List.mem_append, not_or]
  refine ⟨h.notMem (by decide), ?_⟩
  split
  · exact hmark
  · exact List.not_mem_nil

end Text

open Text

namespace Document

/-- A key that is a number but not an integer. -/
def hasFraction (doc : Document) : Key → Bool
  | .entry key _ =>
    match doc.get key with
    | .number x => x.hasFraction
    | _ => false
  | _ => false

theorem exists_toJson_sequence {doc : Document} {id : NodeId} {items : List NodeId}
    (h : doc.get id = .sequence items) : ∃ values, doc.toJson id = .array values := by
  simp only [toJson, fold, foldWithin, h]
  exact ⟨_, rfl⟩

theorem exists_toJson_mapping {doc : Document} {id : NodeId}
    (h : (∃ entries, doc.get id = .mapping entries) ∨
      ∃ entries, doc.get id = .genericMapping entries) :
    ∃ members, doc.toJson id = .object members := by
  rcases h with ⟨entries, h⟩ | ⟨entries, h⟩ <;> simp only [toJson, fold, foldWithin, h] <;>
    exact ⟨_, rfl⟩

theorem keyNodeText_number {doc : Document} {id : NodeId} {x : Binary64}
    (h : doc.get id = .number x) : doc.keyNodeText id = x.text := by
  simp [keyNodeText, textAt, textOf, h]

theorem keyNodeText_cases (doc : Document) (id : NodeId) (place : Nat) :
    Enclosed (doc.keyNodeText id).toList ∨ Word (doc.keyNodeText id).toList ∨
      doc.hasFraction (.entry id place) = true ∧
        ∃ whole part, (doc.keyNodeText id).toList = whole ++ '.' :: part ∧
          Word whole ∧ Word part := by
  cases hnode : doc.get id with
  | null =>
    rw [show doc.keyNodeText id = "null" by simp [keyNodeText, textAt, textOf, hnode]]
    exact .inr (.inl (.of_all (by decide) rfl))
  | bool b =>
    rw [show doc.keyNodeText id = if b then "true" else "false" by
      simp [keyNodeText, textAt, textOf, hnode]]
    cases b <;> exact .inr (.inl (.of_all (by decide) rfl))
  | number x =>
    rw [keyNodeText_number hnode, hasFraction, hnode]
    exact .inr x.text_cases
  | text s =>
    rw [show doc.keyNodeText id = quoted s by simp [keyNodeText, hnode]]
    exact .inl (enclosed_quoted s)
  | sequence items =>
    obtain ⟨values, hjson⟩ := exists_toJson_sequence hnode
    rw [show doc.keyNodeText id = (Json.array values).text by
      simp [keyNodeText, textAt, textOf, hnode, hjson]]
    exact .inl (enclosed_array values)
  | mapping entries =>
    obtain ⟨members, hjson⟩ := exists_toJson_mapping (.inl ⟨entries, hnode⟩)
    rw [show doc.keyNodeText id = (Json.object members).text by
      simp [keyNodeText, textAt, textOf, hnode, hjson]]
    exact .inl (enclosed_object members)
  | genericMapping entries =>
    obtain ⟨members, hjson⟩ := exists_toJson_mapping (.inr ⟨entries, hnode⟩)
    rw [show doc.keyNodeText id = (Json.object members).text by
      simp [keyNodeText, textAt, textOf, hnode, hjson]]
    exact .inl (enclosed_object members)

theorem keyNodeText_ne_append_mark (doc : Document) (id : NodeId) (as : List Char) (n : Nat) :
    (doc.keyNodeText id).toList ≠ as ++ mark n := by
  intro h
  have hmem : '#' ∈ (doc.keyNodeText id).toList := by simp [h, mark]
  rcases doc.keyNodeText_cases id 0 with henc | hword | ⟨-, whole, part, heq, hwhole, hpart⟩
  · exact henc.ne_append_mark as n h
  · exact hword.notMem (by decide) hmem
  · rw [heq, List.mem_append, List.mem_cons] at hmem
    rcases hmem with hmem | hmem | hmem
    · exact hwhole.notMem (by decide) hmem
    · cases hmem
    · exact hpart.notMem (by decide) hmem

theorem segment_entry (doc : Document) (parent : Node) (id : NodeId) (place : Nat) :
    (doc.segment parent (.entry id place)).toList =
      (doc.keyNodeText id).toList ++
        if doc.isShadowed parent place (doc.keyNodeText id) then mark place else [] := by
  unfold segment keyText
  dsimp only
  split
  · simp [mark, toString, String.toList_append]
  · rw [List.append_nil]

theorem isShadowed_iff {doc : Document} {entries : List (NodeId × NodeId)} {place : Nat}
    {text : String} : doc.isShadowed (.genericMapping entries) place text = true ↔
      text ∈ (entries.take place).map fun e => doc.keyNodeText e.1 := by
  simp only [isShadowed, List.any_eq_true, decide_eq_true_eq, List.mem_map]

theorem isShadowed_of_lt {doc : Document} {entries : List (NodeId × NodeId)} {i j : Nat}
    {e : NodeId × NodeId} (hi : entries[i]? = some e) (hlt : i < j) :
    doc.isShadowed (.genericMapping entries) j (doc.keyNodeText e.1) = true := by
  refine isShadowed_iff.mpr (List.mem_map_of_mem ?_)
  refine List.mem_of_getElem? (i := i) ?_
  rw [List.getElem?_take_of_lt hlt, hi]

theorem entry_segment_ne {doc : Document} {entries : List (NodeId × NodeId)} {i j : Nat}
    {e e' : NodeId × NodeId} (hi : entries[i]? = some e) (hlt : i < j) :
    doc.segment (.genericMapping entries) (.entry e.1 i) ≠
      doc.segment (.genericMapping entries) (.entry e'.1 j) := by
  intro h
  have hchars := congrArg String.toList h
  rw [segment_entry, segment_entry] at hchars
  split at hchars <;> split at hchars
  · exact absurd (append_mark_inj hchars).2 (Nat.ne_of_lt hlt)
  · rw [List.append_nil] at hchars
    exact doc.keyNodeText_ne_append_mark e'.1 _ i hchars.symm
  · rw [List.append_nil] at hchars
    exact doc.keyNodeText_ne_append_mark e.1 _ j hchars
  · next hfree =>
    rw [List.append_nil, List.append_nil] at hchars
    rw [← String.toList_injective hchars] at hfree
    exact hfree (isShadowed_of_lt hi hlt)

theorem entry_segment_ne_of_ne {doc : Document} {entries : List (NodeId × NodeId)} {i j : Nat}
    {e e' : NodeId × NodeId} (hi : entries[i]? = some e) (hj : entries[j]? = some e')
    (apart : i ≠ j) :
    doc.segment (.genericMapping entries) (.entry e.1 i) ≠
      doc.segment (.genericMapping entries) (.entry e'.1 j) := by
  rcases Nat.lt_or_gt_of_ne apart with before | behind
  · exact entry_segment_ne hi before
  · exact (entry_segment_ne hj behind).symm

/-- Two keys of one node are written in two ways. -/
theorem segment_injective {doc : Document} {parent : Node} {k k' : Key} (hk : k ∈ parent.keys)
    (hk' : k' ∈ parent.keys) (h : doc.segment parent k = doc.segment parent k') : k = k' := by
  cases parent with
  | sequence items =>
    obtain ⟨i, -, rfl⟩ := List.mem_map.mp hk
    obtain ⟨j, -, rfl⟩ := List.mem_map.mp hk'
    rw [repr_toList_injective (congrArg String.toList h)]
  | mapping entries =>
    obtain ⟨e, -, rfl⟩ := List.mem_map.mp hk
    obtain ⟨e', -, rfl⟩ := List.mem_map.mp hk'
    rw [quoted_injective h]
  | genericMapping entries =>
    obtain ⟨⟨e, i⟩, hi, rfl⟩ := List.mem_map.mp hk
    obtain ⟨⟨e', j⟩, hj, rfl⟩ := List.mem_map.mp hk'
    have hi : entries[i]? = some e := List.mem_zipIdx_iff_getElem?.mp hi
    have hj : entries[j]? = some e' := List.mem_zipIdx_iff_getElem?.mp hj
    -- Equal keys of two entries differ by their places, so segments tell places first.
    obtain rfl : i = j := by
      by_contra apart
      exact entry_segment_ne_of_ne hi hj apart h
    rw [hi] at hj
    cases hj
    rfl
  | _ => cases hk

theorem segment_piece {doc : Document} {key : Key} (h : doc.hasFraction key = false)
    (parent : Node) : Piece (doc.segment parent key).toList := by
  cases key with
  | name name => exact (enclosed_quoted name).piece
  | index i => exact (word_repr i).piece
  | entry id place =>
    rw [segment_entry]
    rcases doc.keyNodeText_cases id place with henc | hword | ⟨hfrac, -⟩
    · exact piece_append_mark henc.piece place _
    · exact piece_append_mark hword.piece place _
    · rw [h] at hfrac
      cases hfrac

theorem splitOn_segment_pieces {doc : Document} {key : Key} (h : doc.hasFraction key = true)
    (parent : Node) : ∀ p ∈ (doc.segment parent key).toList.splitOn '.', Piece p := by
  cases key with
  | name name => cases h
  | index i => cases h
  | entry id place =>
    obtain ⟨x, hnode⟩ : ∃ x, doc.get id = .number x := by
      unfold hasFraction at h
      dsimp only at h
      split at h
      · next x hnode => exact ⟨x, hnode⟩
      · cases h
    rw [segment_entry, keyNodeText_number hnode]
    rcases x.text_cases with hword | ⟨-, whole, part, heq, hwhole, hpart⟩
    · rw [List.splitOn_eq_singleton (point_notMem_append_mark hword place _)]
      simp only [List.mem_singleton, forall_eq]
      exact piece_append_mark hword.piece place _
    · rw [heq, List.append_assoc, List.cons_append, List.splitOn_append_cons_of_beq _ _ BEq.rfl,
        List.splitOn_eq_singleton (hwhole.notMem (by decide)),
        List.splitOn_eq_singleton (point_notMem_append_mark hpart place _)]
      simp only [List.cons_append, List.nil_append, List.mem_cons, List.not_mem_nil, or_false,
        forall_eq_or_imp, forall_eq]
      exact ⟨hwhole.piece, piece_append_mark hpart.piece place _⟩

end Document

end PathQuery
