import PathQuery.Decoding
import PathQuery.Proofs.Document.Decoded
import PathQuery.Proofs.Document.Entries
import PathQuery.Proofs.Document.Fold
import PathQuery.Proofs.Evaluation.Segment

/-!
What becomes of the entries of a generic mapping in JSON. An entry whose text is
taken gets its place behind the text. No other renamed entry has that name, but an
earlier key can be that very text; then the later entry takes the place of the
earlier one. Exactly then entries are lost.
-/
namespace PathQuery

theorem mem_take_iff {α : Type} {l : List α} {a : α} {n : Nat} :
    a ∈ l.take n ↔ ∃ i < n, l[i]? = some a := by
  simp only [List.mem_iff_getElem?, List.getElem?_take]
  constructor
  · rintro ⟨i, hi⟩
    split at hi
    · next hlt => exact ⟨i, hlt, hi⟩
    · cases hi
  · rintro ⟨i, hlt, hi⟩
    exact ⟨i, by rwa [if_pos hlt]⟩

theorem nodup_iff_notMem_take {α : Type} {l : List α} :
    l.Nodup ↔ ∀ (j : Nat) (a : α), l[j]? = some a → a ∉ l.take j := by
  rw [List.nodup_iff_getElem?_ne_getElem?]
  constructor
  · intro h j a hj hmem
    obtain ⟨i, hlt, hi⟩ := mem_take_iff.mp hmem
    exact h i j hlt (List.getElem?_eq_some_iff.mp hj).1 (hi.trans hj.symm)
  · intro h i j hlt hj heq
    have hget := List.getElem?_eq_getElem hj
    exact h j _ hget (mem_take_iff.mpr ⟨i, hlt, heq.trans hget⟩)

theorem lookup_cons_eq {α : Type} (name : String) (m : String × α) (members : List (String × α)) :
    (m :: members).lookup name = if name = m.1 then some m.2 else members.lookup name := by
  obtain ⟨key, value⟩ := m
  rw [List.lookup_cons]
  by_cases h : name = key
  · rw [if_pos h, h, beq_self_eq_true]
  · rw [if_neg h, beq_eq_false_iff_ne.mpr h]

theorem lookup_insertEntry {α : Type} (key name : String) (value : α) (acc : List (String × α)) :
    (insertEntry key value acc).lookup name =
      if name = key then some value else acc.lookup name := by
  induction acc with
  | nil => rw [insertEntry, lookup_cons_eq]
  | cons a rest ih =>
    unfold insertEntry
    split
    · next hkey =>
      rw [lookup_cons_eq, lookup_cons_eq, hkey]
      split <;> rfl
    · next hkey =>
      rw [lookup_cons_eq, lookup_cons_eq, ih]
      split
      · next ha => rw [if_neg (ha ▸ hkey)]
      · rfl

theorem lookup_foldl_insertEntry {α : Type} (name : String) (members acc : List (String × α)) :
    (members.foldl (fun acc m => insertEntry m.1 m.2 acc) acc).lookup name =
      (members.reverse ++ acc).lookup name := by
  induction members generalizing acc with
  | nil => rfl
  | cons m members ih =>
    rw [List.foldl_cons, ih, List.reverse_cons, List.append_assoc, List.singleton_append,
      List.lookup_append, List.lookup_append, lookup_insertEntry, lookup_cons_eq]

namespace Document

variable {doc : Document} {id : NodeId}

theorem mark_inj {a b : String} {i j : Nat} (h : s!"{a}#{i}" = s!"{b}#{j}") : a = b ∧ i = j := by
  have chars (s : String) (n : Nat) : (s!"{s}#{n}").toList = s.toList ++ Text.mark n := by
    simp [Text.mark, toString, String.toList_append]
  have hchars := congrArg String.toList h
  rw [chars, chars] at hchars
  obtain ⟨htext, hplace⟩ := Text.append_mark_inj hchars
  exact ⟨String.toList_injective htext, hplace⟩

theorem length_memberNames (taken : List String) (position : Nat) (texts : List String) :
    (memberNames taken position texts).length = texts.length := by
  induction texts generalizing taken position with
  | nil => rfl
  | cons text rest ih => simp [memberNames, ih]

theorem getElem?_memberNames (taken : List String) (position : Nat) (texts : List String)
    (j : Nat) : (memberNames taken position texts)[j]? = texts[j]?.map
      (memberName (((memberNames taken position texts).take j).reverse ++ taken) (position + j)) := by
  induction texts generalizing taken position j with
  | nil => rfl
  | cons text rest ih =>
    cases j with
    | zero => rfl
    | succ j =>
      simp only [memberNames, List.getElem?_cons_succ, List.take_succ_cons, List.reverse_cons,
        List.append_assoc, List.singleton_append, ih, Nat.add_right_comm position 1 j, Nat.add_assoc]

theorem memberNames_of_getElem? {texts : List String} {j : Nat} {text : String}
    (h : texts[j]? = some text) : (memberNames [] 0 texts)[j]? = some
      (if text ∈ (memberNames [] 0 texts).take j then s!"{text}#{j}" else text) := by
  rw [getElem?_memberNames, h]
  simp [memberName]

theorem exists_text_of_memberNames {texts : List String} {j : Nat} {name : String}
    (h : (memberNames [] 0 texts)[j]? = some name) : ∃ text, texts[j]? = some text ∧
      name = if text ∈ (memberNames [] 0 texts).take j then s!"{text}#{j}" else text := by
  have hj : j < texts.length := by
    rw [← length_memberNames [] 0 texts]
    exact (List.getElem?_eq_some_iff.mp h).1
  have hget := List.getElem?_eq_getElem hj
  exact ⟨_, hget, Option.some.inj (h.symm.trans (memberNames_of_getElem? hget))⟩

theorem mark_mem_take_memberNames {texts : List String} {text : String} {j : Nat} :
    s!"{text}#{j}" ∈ (memberNames [] 0 texts).take j ↔ s!"{text}#{j}" ∈ texts.take j := by
  simp only [mem_take_iff]
  constructor
  · rintro ⟨i, hlt, hi⟩
    obtain ⟨other, hother, heq⟩ := exists_text_of_memberNames hi
    split at heq
    -- The mark of a place stands behind no name of an earlier place.
    · exact absurd (mark_inj heq).2 (Nat.ne_of_gt hlt)
    · exact ⟨i, hlt, heq ▸ hother⟩
  · rintro ⟨i, hlt, hi⟩
    have hname := memberNames_of_getElem? hi
    split at hname
    · next taken =>
      obtain ⟨k, hk, hget⟩ := mem_take_iff.mp taken
      exact ⟨k, hk.trans hlt, hget⟩
    · exact ⟨i, hlt, hname⟩

theorem nodup_memberNames_iff {texts : List String} :
    (memberNames [] 0 texts).Nodup ↔ ∀ (j : Nat) (text : String), texts[j]? = some text →
      text ∈ (memberNames [] 0 texts).take j → s!"{text}#{j}" ∉ texts.take j := by
  rw [nodup_iff_notMem_take]
  constructor
  · intro h j text hj taken
    rw [← mark_mem_take_memberNames]
    refine h j _ ?_
    rw [memberNames_of_getElem? hj, if_pos taken]
  · intro h j name hj
    obtain ⟨text, htext, rfl⟩ := exists_text_of_memberNames hj
    split
    · next taken =>
      rw [mark_mem_take_memberNames]
      exact h j text htext taken
    · next free => exact free

theorem objectOf_eq (members : List (String × Json)) :
    objectOf members = .object (putEntries (fun a b => decide (a = b)) [] members) := by
  simp only [objectOf, putEntries, insertEntry_eq_putEntry]

theorem fresh_iff_nodup {members : List (String × Json)} :
    Fresh (fun a b => decide (a = b)) [] members ↔ (members.map Prod.fst).Nodup := by
  rw [fresh_nil, List.Nodup, List.pairwise_map]
  simp only [decide_eq_false_iff_not, ne_eq]

theorem objectOf_of_nodup {members : List (String × Json)} (h : (members.map Prod.fst).Nodup) :
    objectOf members = .object members := by
  rw [objectOf_eq, putEntries_of_fresh (fresh_iff_nodup.mpr h), List.nil_append]

end Document

open Document in
/-- The members of a generic mapping in JSON are its entries, in order, under the texts of their keys,
where a text that is taken is followed by the place of the entry; unless, for some entry whose text
is taken, that name is the text of an earlier key. Exactly then there are fewer members than entries,
and a name that comes again has the value of the last entry that has it. -/
theorem toJson_keeps_entries_iff (doc : Document) (acyclic : doc.Acyclic) (id : NodeId)
    (entries : List (NodeId × NodeId)) (h : doc.get id = .genericMapping entries) :
    ∃ (names : List String) (members : List (String × Json)),
      names.length = entries.length ∧
      (∀ (j : Nat) (e : NodeId × NodeId), entries[j]? = some e → names[j]? = some
        (if doc.textAt e.1 ∈ names.take j then s!"{doc.textAt e.1}#{j}" else doc.textAt e.1)) ∧
      doc.toJson id = .object members ∧
      (∀ name, members.lookup name =
        (names.zip (entries.map fun e => doc.toJson e.2)).reverse.lookup name) ∧
      (members.length = entries.length ↔
        members = names.zip (entries.map fun e => doc.toJson e.2)) ∧
      (members.length = entries.length ↔
        ∀ (j : Nat) (e : NodeId × NodeId), entries[j]? = some e → doc.textAt e.1 ∈ names.take j →
          ∀ e' ∈ entries.take j, doc.textAt e'.1 ≠ s!"{doc.textAt e.1}#{j}") := by
  let texts := entries.map fun e => doc.textAt e.1
  let values := entries.map fun e => doc.toJson e.2
  let names := memberNames [] 0 texts
  have length : names.length = entries.length := by
    rw [length_memberNames, List.length_map]
  have zipped : (names.zip values).length = entries.length := by
    rw [List.length_zip, length, List.length_map, Nat.min_self]
  have keys : (names.zip values).map Prod.fst = names :=
    List.map_fst_zip (by rw [length, List.length_map])
  have object : doc.toJson id = objectOf (names.zip values) := by
    rw [toJson_eq acyclic, h]
    rfl
  obtain ⟨members, hmembers⟩ : ∃ members, objectOf (names.zip values) = .object members := ⟨_, rfl⟩
  -- Putting the members in keeps each of them exactly if no name comes twice.
  have kept : names.Nodup → members = names.zip values := by
    intro nodup
    rw [objectOf_of_nodup (keys.symm ▸ nodup)] at hmembers
    exact (Json.object.inj hmembers).symm
  have lost : ¬ names.Nodup → members.length < entries.length := by
    intro repeated
    rw [objectOf_eq] at hmembers
    have shorter := length_putEntries_lt (mt fresh_iff_nodup.mp (keys.symm ▸ repeated))
    rw [Json.object.inj hmembers, zipped, List.length_nil, Nat.zero_add] at shorter
    exact shorter
  have whole_iff : members.length = entries.length ↔ names.Nodup := by
    constructor
    · intro hlength
      by_contra repeated
      exact absurd hlength (Nat.ne_of_lt (lost repeated))
    · intro nodup
      rw [kept nodup, zipped]
  refine ⟨names, members, length, fun j e he => ?_, object.trans hmembers, fun name => ?_, ?_, ?_⟩
  · exact memberNames_of_getElem? (by rw [List.getElem?_map, he]; rfl)
  · cases hmembers
    rw [lookup_foldl_insertEntry, List.append_nil]
  · exact ⟨fun hlength => kept (whole_iff.mp hlength), fun heq => by rw [heq, zipped]⟩
  · rw [whole_iff, nodup_memberNames_iff]
    simp only [texts, List.getElem?_map, Option.map_eq_some_iff, ← List.map_take, List.mem_map,
      not_exists, not_and, forall_exists_index, and_imp, forall_apply_eq_imp_iff₂]
    rfl

/-- A document with the keys `true`, `"true#2"` and `"true"`. -/
def Document.overwriting : Document :=
  .ofYaml (.mapping [(.bool true, .string "a"), (.string "true#2", .string "b"),
    (.string "true", .string "c")])

theorem Document.overwriting_root :
    Document.get .overwriting (Document.root .overwriting) =
      .genericMapping [(1, 2), (3, 4), (5, 6)] := by decide

theorem Document.overwriting_texts : Document.textAt .overwriting 1 = "true" ∧
    Document.textAt .overwriting 3 = "true#2" ∧ Document.textAt .overwriting 5 = "true" := by
  decide +kernel

theorem toJson_keeps_entries_iff_overwriting :
    ∃ members, Document.toJson .overwriting (Document.root .overwriting) = .object members ∧
      members.length ≠ 3 := by
  obtain ⟨first, second, third⟩ := Document.overwriting_texts
  obtain ⟨names, members, -, named, object, -, -, whole⟩ := toJson_keeps_entries_iff .overwriting
    (Document.ofYaml_sound _).wellFormed.acyclic _ _ Document.overwriting_root
  have taken : Document.textAt .overwriting 5 ∈ names.take 2 := by
    have hname := named 0 (1, 2) rfl
    rw [List.take_zero, if_neg List.not_mem_nil] at hname
    exact mem_take_iff.mpr ⟨0, by decide, by rw [hname, third, first]⟩
  refine ⟨members, object, fun length => ?_⟩
  refine whole.mp length 2 (5, 6) rfl taken (3, 4) (by simp) ?_
  rw [second, third]
  rfl

theorem exists_entry_lost_in_json :
    (Document.decode .yaml "true: a\n\"true#2\": b\n\"true\": c\n").toOption =
        some .overwriting ∧
      Document.get .overwriting (Document.root .overwriting) =
        .genericMapping [(1, 2), (3, 4), (5, 6)] ∧
      Document.toJson .overwriting (Document.root .overwriting) =
        .object [("true", .string "a"), ("true#2", .string "c")] :=
  ⟨by decide +kernel, Document.overwriting_root, by rfl⟩

end PathQuery
