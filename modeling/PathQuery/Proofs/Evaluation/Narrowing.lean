import PathQuery.Proofs.Evaluation.Links
import PathQuery.Proofs.Evaluation.Partition
import PathQuery.Proofs.Evaluation.Selection
import PathQuery.Proofs.Number.Reading
import PathQuery.Proofs.Query.Joining
import PathQuery.Proofs.Query.RoundTrip

/-!
One more filter behind a query. A query that does not end in a dot goes on in its
last part, so a filter behind it joins the filters of that part. The walk stays as
it is, whatever cycles there are, and of what it finds the filter keeps what it
accepts. A text and a number are accepted by their own text.
-/
namespace PathQuery

open Trail (Steps)

namespace Query

variable {compile : String → Option Pattern} {source rest : List Char} {f : Filter}

def Part.narrow (p : Part) (f : Filter) : Part := ⟨p.specifier, p.filters ++ [f]⟩

theorem FiltersOf.concat {filters : List Filter} (h : FiltersOf compile source filters)
    (hf : FilterOf compile rest f) : FiltersOf compile (source ++ rest) (filters ++ [f]) := by
  induction h with
  | nil => simpa using FiltersOf.cons hf .nil
  | cons first _ ih =>
    rw [List.append_assoc]
    exact .cons first ih

theorem PartOf.narrow {part : Part} (h : PartOf compile source part)
    (hf : FilterOf compile rest f) : PartOf compile (source ++ rest) (part.narrow f) := by
  cases h with
  | mk text specifier filters =>
    rw [List.append_assoc]
    exact .mk text specifier (filters.concat hf)

theorem QueryOf.narrow {parts : List Part} (h : QueryOf compile source parts)
    (closed : ¬ EndsOpen source) (hf : FilterOf compile rest f) :
    ∃ front last, parts = front ++ [last] ∧
      QueryOf compile (source ++ rest) (front ++ [last.narrow f]) := by
  induction h with
  | nil => exact absurd (.inl rfl) closed
  | @last source part hpart hs =>
    exact ⟨[], part, rfl, .last (hpart.narrow hf) (List.append_ne_nil_of_left_ne_nil hs _)⟩
  | @cons source later part parts hpart _ ih =>
    obtain ⟨front, last, rfl, narrowed⟩ := ih (mt (hpart.endsOpen_dot_iff later).mpr closed)
    refine ⟨part :: front, last, rfl, ?_⟩
    rw [List.append_assoc, List.cons_append]
    exact .cons hpart narrowed

end Query

variable {doc : Document} {f : Query.Filter} {t : Trail} {id : ElementId}
variable {error : EvaluationError}

/-- One walk leaves the trail of another one, and finds of its elements those with values that a
filter accepts, if the other one finds any. -/
def Walk.Narrows (doc : Document) (f : Query.Filter) (w w' : Walk) : Prop :=
  ∀ t ids, w = (t, .ok ids) →
    w' = (t, .ok (ids.filter fun id => f.accepts (doc.get (t.get id).node)))

theorem Walk.narrows_error (doc : Document) (f : Query.Filter) (t : Trail) (w' : Walk) :
    Walk.Narrows doc f (t, .error error) w' := by
  intro s ids h
  cases h

theorem Walk.narrows_ok {ids : List ElementId} : Walk.Narrows doc f (t, .ok ids)
    (t, .ok (ids.filter fun id => f.accepts (doc.get (t.get id).node))) := by
  intro s found h
  cases h
  rfl

theorem Walk.each_narrows {walk walk' : ElementId → Trail → Walk}
    (adds : ∀ (id : ElementId) (t : Trail), t.Linked doc → id < t.size →
      Walk.Adds doc t (walk id t))
    (narrows : ∀ (id : ElementId) (t : Trail), t.Linked doc → id < t.size →
      Walk.Narrows doc f (walk id t) (walk' id t))
    {ids : List ElementId} (linked : t.Linked doc) (h : ∀ id ∈ ids, id < t.size) :
    Walk.Narrows doc f (Walk.each walk ids t) (Walk.each walk' ids t) := by
  induction ids generalizing t with
  | nil => exact Walk.narrows_ok
  | cons id ids ih =>
    obtain ⟨here, later⟩ := List.forall_mem_cons.mp h
    have first := adds id t linked here
    have narrowed := narrows id t linked here
    intro u all run
    unfold Walk.each at run ⊢
    generalize walk id t = w at first narrowed run
    obtain ⟨s, found⟩ := w
    cases found with
    | error e => cases run
    | ok found =>
      rw [narrowed s found rfl]
      have linked' := linked.steps first.steps
      have inside : ∀ id ∈ ids, id < s.size := fun id hid => first.steps.kept.lt_size (later id hid)
      have rest := Walk.each_adds adds linked' inside
      have rest' := ih linked' inside
      dsimp only at run ⊢
      generalize Walk.each walk ids s = later at rest rest' run
      obtain ⟨u', more⟩ := later
      cases more with
      | error e => cases run
      | ok more =>
        cases run
        rw [rest' u more rfl]
        -- The later walks only add to the trail, so the filter accepts in it what it did before.
        have same : ∀ id ∈ found, u.get id = s.get id :=
          fun id hid => rest.steps.kept.get_eq (first.found found rfl id hid)
        have agree : (found.filter fun id => f.accepts (doc.get (s.get id).node)) =
            found.filter fun id => f.accepts (doc.get (u.get id).node) :=
          List.filter_congr fun id hid => by rw [same id hid]
        dsimp only
        rw [agree, List.filter_append]

namespace Evaluation

theorem follow_nil_narrows (budget : Nat) (filters : List Query.Filter) (id : ElementId)
    (t : Trail) : Walk.Narrows doc f
      (if Query.acceptAll filters (doc.get (t.get id).node) then follow doc error [] budget id t
        else (t, .ok []))
      (if Query.acceptAll (filters ++ [f]) (doc.get (t.get id).node)
        then follow doc error [] budget id t else (t, .ok [])) := by
  rw [Query.acceptAll_concat]
  cases Query.acceptAll filters (doc.get (t.get id).node) with
  | false => exact Walk.narrows_ok
  | true =>
    cases budget with
    | zero => exact Walk.narrows_error doc f t _
    | succ budget =>
      intro s ids run
      cases run
      cases hf : f.accepts (doc.get (t.get id).node) <;> simp [hf, follow]

theorem follow_narrows (front : List Query.Part) (last : Query.Part) (budget : Nat)
    (linked : t.Linked doc) (hid : id < t.size) :
    Walk.Narrows doc f (follow doc error (front ++ [last]) budget id t)
      (follow doc error (front ++ [last.narrow f]) budget id t) := by
  induction front generalizing budget t id with
  | nil =>
    cases budget with
    | zero => exact Walk.narrows_error doc f t _
    | succ budget =>
      have selected := select_adds error (budget + 1) last.specifier linked hid
      simp only [List.nil_append, follow, Query.Part.narrow]
      generalize select doc error (budget + 1) id last.specifier t = w at selected
      obtain ⟨s, found⟩ := w
      cases found with
      | error e => exact Walk.narrows_error doc f s _
      | ok ids =>
        refine Walk.each_narrows ?_ (fun id t _ _ => follow_nil_narrows budget last.filters id t)
          (linked.steps selected.steps) (selected.found ids rfl)
        intro id t linked hid
        split
        · exact follow_adds error [] budget linked hid
        · exact Walk.adds_ok (List.forall_mem_nil _)
  | cons part front ih =>
    cases budget with
    | zero => exact Walk.narrows_error doc f t _
    | succ budget =>
      have selected := select_adds error (budget + 1) part.specifier linked hid
      simp only [List.cons_append, follow]
      generalize select doc error (budget + 1) id part.specifier t = w at selected
      obtain ⟨s, found⟩ := w
      cases found with
      | error e => exact Walk.narrows_error doc f s _
      | ok ids =>
        refine Walk.each_narrows ?_ ?_ (linked.steps selected.steps) (selected.found ids rfl)
        · intro id t linked hid
          split
          · exact follow_adds error (front ++ [last]) budget linked hid
          · exact Walk.adds_ok (List.forall_mem_nil _)
        · intro id t linked hid
          split
          · exact ih budget linked hid
          · exact Walk.narrows_ok

end Evaluation

theorem select_narrow {front : List Query.Part} {last : Query.Part} {limit : Nat}
    {ms : List Match} (h : select doc (front ++ [last]) .ordered limit = .ok ms)
    (f : Query.Filter) : select doc (front ++ [last.narrow f]) .ordered limit =
      .ok (ms.filter fun m => f.accepts (doc.get m.node)) := by
  obtain ⟨t, ids, run, -⟩ := exists_elements_of_select h
  rw [select_ordered_of_evaluate run] at h
  cases h
  have step : Trail.Step doc .empty (Trail.empty.push ⟨doc.root, none⟩) := .root
  have linked := (Trail.linked_empty doc).step step
  have inside : Trail.empty.size < (Trail.empty.push ⟨doc.root, none⟩).size := by
    simp [Trail.size, Trail.push]
  have narrowed := Evaluation.follow_narrows (f := f) front last (limit + 1) linked inside t ids run
  have run' : evaluate doc limit (front ++ [last.narrow f]) .empty = (t, .ok _) := narrowed
  rw [select_ordered_of_evaluate run', List.filter_map]
  rfl

/-- A value is the text, or a number that the text is read as. -/
def Node.SpelledBy (text : String) : Node → Prop
  | .text s => s = text
  | .number x => ∃ y, Binary64.read? text = some y ∧ y.numEq x = true
  | _ => False

theorem accepts_equals_iff {text : String} {node : Node} :
    (Query.Filter.equals text).accepts node = true ↔ node.SpelledBy text := by
  cases node with
  | text s => exact decide_eq_true_iff
  | number x =>
    rw [Query.Filter.accepts, Node.SpelledBy]
    cases Binary64.read? text <;> simp
  | _ => exact iff_of_false Bool.false_ne_true id

instance (text : String) (node : Node) : Decidable (node.SpelledBy text) :=
  decidable_of_iff _ accepts_equals_iff

theorem spelledBy_textAt {id : NodeId} (h : (∃ s, doc.get id = .text s) ∨
    ∃ x, doc.get id = .number x ∧ x ≠ .nan) : (doc.get id).SpelledBy (doc.textAt id) := by
  rcases h with ⟨s, hs⟩ | ⟨x, hx, number⟩
  · rw [Document.textAt, hs]
    rfl
  · rw [Document.textAt, hx]
    exact Binary64.read?_text number

/-- A result that is a text or a number is found again by its own text. Behind a query that has a
part and does not end in a dot, a filter with that text leaves the query readable and evaluation
within its limit, and of the results those stay, in order, that are spelled by the text. -/
theorem scalar_found_by_own_text (doc : Document) (query : String) (parts : List Query.Part)
    (limit : Nat) (ms : List Match) (m : Match) (parsed : Query.parse query = .ok parts)
    (some_part : parts ≠ [])
    (closed : (Query.withScope .bare query.toList).getLast? ≠ some ('.', .bare))
    (found : select doc parts .ordered limit = .ok ms) (hm : m ∈ ms)
    (scalar : (∃ s, doc.get m.node = .text s) ∨ ∃ x, doc.get m.node = .number x ∧ x ≠ .nan) :
    ∃ narrowed again,
      Query.parse (query ++ "=" ++ String.ofList (Query.escape (doc.textAt m.node))) =
          .ok narrowed ∧
        select doc narrowed .ordered limit = .ok again ∧
        again = ms.filter (fun n => (doc.get n.node).SpelledBy (doc.textAt m.node)) ∧
        m ∈ again := by
  have read := Query.parseWith_eq_ok.mp parsed
  have not_open : ¬ Query.EndsOpen query.toList := by
    rintro (empty | last)
    · rw [empty, Query.readParts] at read
      exact some_part (Except.ok.inj read).symm
    · exact closed last
  have filter := Query.filterOf_chars (.equals (doc.textAt m.node))
  obtain ⟨front, last, rfl, narrowed⟩ := (Query.readParts_sound read).narrow not_open filter
  have kept := select_narrow found (.equals (doc.textAt m.node))
  have same (n : Match) : (Query.Filter.equals (doc.textAt m.node)).accepts (doc.get n.node) =
      decide ((doc.get n.node).SpelledBy (doc.textAt m.node)) :=
    Bool.eq_iff_iff.mpr (accepts_equals_iff.trans decide_eq_true_iff.symm)
  simp only [same] at kept
  refine ⟨_, _, ?_, kept, rfl, ?_⟩
  · rw [Query.parse, Query.parseWith_eq_ok]
    have chars : (query ++ "=" ++ String.ofList (Query.escape (doc.textAt m.node))).toList =
        query.toList ++ (Query.Filter.equals (doc.textAt m.node)).chars := by
      simp [Query.Filter.chars]
    rw [chars]
    exact Query.readParts_complete narrowed
  · exact List.mem_filter.mpr ⟨hm, decide_eq_true (spelledBy_textAt scalar)⟩

def Document.halves : Document :=
  ⟨#[.null, .number (.ofParts false (3 * 2 ^ 51) (-52)), .text "1.5", .number (.zero true),
    .text "1.50", .sequence [1, 2, 3, 4, 1]], 5⟩

theorem scalar_found_by_own_text_halves :
    select .halves [⟨.descendants, [.negated (.equals "x")]⟩] .ordered 2 =
        .ok [⟨5, ""⟩, ⟨1, "0"⟩, ⟨2, "1"⟩, ⟨3, "2"⟩, ⟨4, "3"⟩, ⟨1, "4"⟩] ∧
      ∃ narrowed, Query.parse ("**!=x" ++ "=" ++ "1\\.5") = .ok narrowed ∧
        select .halves narrowed .ordered 2 = .ok [⟨1, "0"⟩, ⟨2, "1"⟩, ⟨1, "4"⟩] := by
  have parsed : Query.parse "**!=x" =
      .ok [⟨.descendants, [.negated (.equals "x")]⟩] := by decide +kernel
  have found : select .halves [⟨.descendants, [.negated (.equals "x")]⟩] .ordered 2 =
      .ok [⟨5, ""⟩, ⟨1, "0"⟩, ⟨2, "1"⟩, ⟨3, "2"⟩, ⟨4, "3"⟩, ⟨1, "4"⟩] := by decide +kernel
  obtain ⟨narrowed, again, written, kept, rfl, -⟩ := scalar_found_by_own_text .halves
    "**!=x" _ 2 _ ⟨1, "0"⟩ parsed (by decide) (by decide +kernel) found (by simp)
    (.inr ⟨_, rfl, by decide +kernel⟩)
  have text : String.ofList (Query.escape (Document.textAt .halves 1)) = "1\\.5" := by
    decide +kernel
  rw [text] at written
  refine ⟨found, narrowed, written, kept.trans ?_⟩
  decide +kernel

end PathQuery
