import PathQuery.Proofs.Document.Generic
import PathQuery.Proofs.Document.RoundTrip

/-!
JSON lines, line by line, whatever reads a line. A text can be read if all its
lines can that are not blank, and its root has an item for each of them, with the
tree that the line has by itself. Otherwise the first line that cannot be read is
the fault, and all lines before it are counted.
-/
namespace PathQuery

theorem Text.lines_eq_splitOn (cs : List Char) :
    lines cs = (cs.splitOn '\n').dropLast.map dropReturn ++
      (cs.splitOn '\n').getLast?.toList.filter (· ≠ []) := by
  have cut : pieces cs = (cs.splitOn '\n').dropLast.map (·, true) ++
      ((cs.splitOn '\n').getLast?.toList.filter (· ≠ [])).map (·, false) := by
    induction cs with
    | nil => rfl
    | cons c cs ih =>
      rw [pieces, List.splitOn, List.splitOnP_cons_eq_if_modifyHead, ← List.splitOn]
      obtain ⟨first, rest, split⟩ := List.exists_cons_of_ne_nil (List.splitOn_ne_nil '\n' cs)
      rw [split] at ih ⊢
      by_cases feed : c = '\n'
      · simp [feed, ih]
      · cases rest with
        | nil => cases first <;> simp_all
        | cons next rest => simp_all
  simp only [lines, cut, List.map_append, List.map_map, Function.comp_def, if_true,
    Bool.false_eq_true, if_false, List.map_id']

namespace Document

variable {doc : Document} {read : String → Except Json.Error Json} {number : Nat} {line : List Char}
variable {lines before after : List (List Char)} {fault : Json.Error}

def Accepted (read : String → Except Json.Error Json) (line : List Char) : Prop :=
  line.all Text.isBlank = true ∨ ∃ v, read (String.ofList line) = .ok v

/-- A line is the first one that is not blank and cannot be read; lines are counted from one. -/
def FirstFault (read : String → Except Json.Error Json) (lines : List (List Char)) (number : Nat)
    (fault : Json.Error) : Prop :=
  ∃ before line after, lines = before ++ line :: after ∧ number = before.length + 1 ∧
    (∀ l ∈ before, Accepted read l) ∧ line.all Text.isBlank = false ∧
    read (String.ofList line) = .error fault

theorem not_accepted_iff : ¬ Accepted read line ↔
    line.all Text.isBlank = false ∧ ∃ fault, read (String.ofList line) = .error fault := by
  rw [Accepted, not_or, Bool.not_eq_true]
  refine and_congr_right fun _ => ?_
  cases read (String.ofList line) with
  | ok v => exact iff_of_false (fun no => no ⟨v, rfl⟩) nofun
  | error e => exact iff_of_true nofun ⟨e, rfl⟩

theorem forall_accepted_or_firstFault (read : String → Except Json.Error Json)
    (lines : List (List Char)) :
    (∀ l ∈ lines, Accepted read l) ∨ ∃ number fault, FirstFault read lines number fault := by
  induction lines with
  | nil => exact .inl nofun
  | cons line rest ih =>
    by_cases first : Accepted read line
    · rcases ih with all | ⟨number, fault, before, bad, after, rfl, rfl, fine, found⟩
      · exact .inl (List.forall_mem_cons.mpr ⟨first, all⟩)
      · exact .inr ⟨_, fault, line :: before, bad, after, rfl, rfl,
          List.forall_mem_cons.mpr ⟨first, fine⟩, found⟩
    · obtain ⟨full, fault, rejected⟩ := not_accepted_iff.mp first
      exact .inr ⟨1, fault, [], line, rest, rfl, rfl, nofun, full, rejected⟩

theorem forall_accepted_iff : (∀ l ∈ lines, Accepted read l) ↔
    ∀ l ∈ recordsOf lines, ∃ v, read (String.ofList l) = .ok v := by
  simp only [recordsOf, List.mem_filter, Accepted, Bool.not_eq_true', and_imp]
  refine forall₂_congr fun l _ => ?_
  cases l.all Text.isBlank <;> simp

theorem insertLines_of_accepted (h : ∀ l ∈ lines, Accepted read l) (doc : Document)
    (number : Nat) : ∃ r, insertLines read doc number lines = .ok r := by
  induction lines generalizing doc number with
  | nil => exact ⟨_, rfl⟩
  | cons line rest ih =>
    obtain ⟨first, later⟩ := List.forall_mem_cons.mp h
    rw [insertLines]
    split
    · exact ih later doc (number + 1)
    next full =>
    obtain ⟨v, hv⟩ := first.resolve_left full
    obtain ⟨r, hr⟩ := ih later (doc.insertJson v).1 (number + 1)
    simp only [hv, hr, Except.map, Except.ok.injEq, exists_eq']

theorem insertLines_of_fault (fine : ∀ l ∈ before, Accepted read l)
    (full : line.all Text.isBlank = false) (rejected : read (String.ofList line) = .error fault)
    (doc : Document) (number : Nat) : insertLines read doc number (before ++ line :: after) =
      .error (.jsonLine (number + before.length) fault) := by
  induction before generalizing doc number with
  | nil => simp [insertLines, full, rejected]
  | cons first before ih =>
    obtain ⟨here, later⟩ := List.forall_mem_cons.mp fine
    have count : number + (before.length + 1) = number + 1 + before.length := by omega
    rw [List.cons_append, insertLines, List.length_cons, count]
    split
    · exact ih later doc (number + 1)
    next nonblank =>
    obtain ⟨v, hv⟩ := here.resolve_left nonblank
    simp only [hv, ih later, Except.map]

theorem readJsonLinesWith_of_accepted {text : String}
    (h : ∀ l ∈ Text.lines text.toList, Accepted read l) :
    ∃ doc, readJsonLinesWith read text = .ok doc := by
  obtain ⟨r, hr⟩ := insertLines_of_accepted h null 1
  exact ⟨_, by rw [readJsonLinesWith, hr]; rfl⟩

theorem readJsonLinesWith_of_firstFault {text : String}
    (h : FirstFault read (Text.lines text.toList) number fault) :
    readJsonLinesWith read text = .error (.jsonLine number fault) := by
  obtain ⟨before, line, after, split, rfl, fine, full, rejected⟩ := h
  rw [readJsonLinesWith, split, insertLines_of_fault fine full rejected, Nat.add_comm 1]
  rfl

theorem readJsonLinesWith_succeeds_iff (read : String → Except Json.Error Json) (text : String) :
    (∃ doc, readJsonLinesWith read text = .ok doc) ↔
      ∀ line ∈ recordsOf (Text.lines text.toList), ∃ v, read (String.ofList line) = .ok v := by
  rw [← forall_accepted_iff]
  refine ⟨fun ⟨doc, success⟩ => ?_, readJsonLinesWith_of_accepted⟩
  rcases forall_accepted_or_firstFault read (Text.lines text.toList) with
    all | ⟨number, fault, first⟩
  · exact all
  · cases success.symm.trans (readJsonLinesWith_of_firstFault first)

theorem readJsonLinesWith_eq_error_iff (read : String → Except Json.Error Json) (text : String)
    (e : DecodeError) : readJsonLinesWith read text = .error e ↔
      ∃ number fault, FirstFault read (Text.lines text.toList) number fault ∧
        e = .jsonLine number fault := by
  refine ⟨fun failure => ?_, fun ⟨number, fault, first, he⟩ => ?_⟩
  · rcases forall_accepted_or_firstFault read (Text.lines text.toList) with
      all | ⟨number, fault, first⟩
    · obtain ⟨doc, success⟩ := readJsonLinesWith_of_accepted all
      cases failure.symm.trans success
    · have same := failure.symm.trans (readJsonLinesWith_of_firstFault first)
      exact ⟨number, fault, first, Except.error.inj same⟩
  · exact he ▸ readJsonLinesWith_of_firstFault first

theorem get_root_ofJson_array (values : List Json) :
    ∃ items, (ofJson (.array values)).get (ofJson (.array values)).root = .sequence items ∧
      items.map (ofJson (.array values)).treeAt = values.map Json.tree := by
  have tree := (ofJson_isTree (.array values)).treeAt_root
  rw [treeAt_eq (Begun.ofJson _).wellFormed.acyclic, Json.tree, Json.treeItems_eq] at tree
  cases root : (ofJson (.array values)).get (ofJson (.array values)).root with
  | sequence items =>
    rw [root] at tree
    exact ⟨items, rfl, Tree.sequence.inj tree⟩
  | _ =>
    rw [root] at tree
    cases tree

theorem readJsonLinesWith_items {text : String} (h : readJsonLinesWith read text = .ok doc) :
    ∃ items, doc.get doc.root = .sequence items ∧
      List.Forall₂
        (fun line item => ∃ record, readJsonWith read (String.ofList line) = .ok record ∧
          doc.treeAt item = record.treeAt record.root)
        (recordsOf (Text.lines text.toList)) items := by
  obtain ⟨values, reads, rfl⟩ := readJsonLinesWith_eq_ofJson h
  obtain ⟨items, root, trees⟩ := get_root_ofJson_array values
  refine ⟨items, root, ?_⟩
  clear h root
  generalize recordsOf (Text.lines text.toList) = records at reads ⊢
  generalize (ofJson (.array values)).treeAt = tree at trees ⊢
  induction reads generalizing items with
  | nil =>
    rw [List.map_eq_nil_iff.mp trees]
    exact .nil
  | @cons line v _ _ success _ ih =>
    obtain ⟨item, rest, rfl, first, later⟩ := List.map_eq_cons_iff.mp trees
    have record : readJsonWith read (String.ofList line) = .ok (ofJson v) := by
      rw [readJsonWith, success]
    exact .cons ⟨_, record, first.trans (ofJson_isTree v).treeAt_root.symm⟩ (ih rest later)

end Document

end PathQuery
