import PathQuery.Proofs.Document.Alike

/-!
How deep the way down from a node is. Where all references go to earlier nodes,
each level below a node has a smaller place, so the JSON, the YAML and the text of
a node come out within as many levels as its place says, and all that is read on
the way is in the arena. How often a node is shared does not matter. Where there are
only no cycles, as many levels as the arena has nodes suffice, and one more.
-/
namespace PathQuery.Document

variable {doc : Document} {id : NodeId} {levels : Nat}

theorem mapM_eq_some_map {α β : Type} {l : List α} {f : α → Option β} {g : α → β}
    (h : ∀ a ∈ l, f a = some (g a)) : l.mapM f = some (l.map g) := by
  induction l with
  | nil => rfl
  | cons a l ih =>
    obtain ⟨first, later⟩ := List.forall_mem_cons.mp h
    rw [List.mapM_cons, first, ih later]
    rfl

section Fold

variable {α : Type} {step? : Node → (NodeId → Option α) → Option α}
variable {step : Node → (NodeId → α) → α} {stop : α}

/-- What a step makes of a node that is in the arena, if it can make something of what is made of
the nodes below in so many levels. -/
def foldWithin? (doc : Document) (step? : Node → (NodeId → Option α) → Option α) :
    Nat → NodeId → Option α
  | 0, _ => none
  | levels + 1, id => do step? (← doc.nodes[id]?) (doc.foldWithin? step? levels)

/-- A step makes what `step` makes where there is something for each reference in the arena. -/
def Meets (doc : Document) (step? : Node → (NodeId → Option α) → Option α)
    (step : Node → (NodeId → α) → α) : Prop :=
  ∀ (node : Node) (f? : NodeId → Option α) (f : NodeId → α),
    (∀ r ∈ node.refs, r < doc.size ∧ f? r = some (f r)) → step? node f? = some (step node f)

theorem Acyclic.foldWithin?_eq (acyclic : doc.Acyclic)
    (closed : ∀ id < doc.size, ∀ r ∈ (doc.get id).refs, r < doc.size) (uses : UsesRefs step)
    (meets : doc.Meets step? step) (inside : id < doc.size) (ends : doc.EndsWithin levels id) :
    doc.foldWithin? step? levels id = some (doc.fold step stop id) := by
  induction levels generalizing id with
  | zero => exact ends.elim
  | succ levels ih =>
    have node : doc.nodes[id]? = some (doc.get id) := getElem?_of_lt inside
    rw [foldWithin?, node, fold_eq uses acyclic]
    refine meets _ _ _ fun r hr => ?_
    have below : r < doc.size := closed id inside r hr
    exact ⟨below, ih below (ends r hr)⟩

theorem WellFormed.endsWithin (wellFormed : doc.WellFormed) (enough : id < levels) :
    doc.EndsWithin levels id := by
  induction levels generalizing id with
  | zero => exact absurd enough (Nat.not_lt_zero id)
  | succ levels ih =>
    intro r hr
    have earlier : r < id := wellFormed.refs_lt id r hr
    exact ih (Nat.lt_of_lt_of_le earlier (Nat.le_of_lt_succ enough))

theorem WellFormed.foldWithin?_eq (wellFormed : doc.WellFormed) (uses : UsesRefs step)
    (meets : doc.Meets step? step) (inside : id < doc.size) (enough : id < levels) :
    doc.foldWithin? step? levels id = some (doc.fold step stop id) := by
  refine wellFormed.acyclic.foldWithin?_eq (fun id hid r hr => ?_) uses meets inside
    (wellFormed.endsWithin enough)
  exact (wellFormed.refs_lt id r hr).trans hid

end Fold

def textWith? (doc : Document) (json? : NodeId → Option Json) (id : NodeId) : Option String := do
  let node ← doc.nodes[id]?
  if node.isScalar then some (textOf node .null) else (json? id).map (textOf node)

def jsonOf? (doc : Document) (node : Node) (json? : NodeId → Option Json) : Option Json :=
  match node with
  | .sequence items => (items.mapM json?).map .array
  | .mapping entries =>
    (entries.mapM fun e => (json? e.2).map (e.1, ·)).map objectOf
  | .genericMapping entries => do
    let texts ← entries.mapM fun e => doc.textWith? json? e.1
    let values ← entries.mapM fun e => json? e.2
    some (objectOf ((memberNames [] 0 texts).zip values))
  | scalar => some (doc.jsonOf scalar fun _ => .null)

def yamlOf? (node : Node) (yaml? : NodeId → Option Yaml) : Option Yaml :=
  match node with
  | .sequence items => (items.mapM yaml?).map .sequence
  | .mapping entries =>
    (entries.mapM fun e => (yaml? e.2).map (.string e.1, ·)).map yamlMapping
  | .genericMapping entries =>
    (entries.mapM fun e : NodeId × NodeId => do some (← yaml? e.1, ← yaml? e.2)).map yamlMapping
  | scalar => some (yamlOf scalar fun _ => .null)

def toJson? (doc : Document) : Nat → NodeId → Option Json := doc.foldWithin? doc.jsonOf?

def toYaml? (doc : Document) : Nat → NodeId → Option Yaml := doc.foldWithin? yamlOf?

def textAt? (doc : Document) (levels : Nat) (id : NodeId) : Option String :=
  doc.textWith? (doc.toJson? levels) id

theorem textWith?_eq {json? : NodeId → Option Json} {json : Json} (inside : id < doc.size)
    (value : json? id = some json) :
    doc.textWith? json? id = some (textOf (doc.get id) json) := by
  have node : doc.nodes[id]? = some (doc.get id) := getElem?_of_lt inside
  rw [textWith?, node, value]
  cases doc.get id <;> rfl

theorem jsonOf?_meets (doc : Document) : doc.Meets doc.jsonOf? doc.jsonOf := by
  intro node f? f below
  cases node with
  | sequence items =>
    have values : items.mapM f? = some (items.map f) :=
      mapM_eq_some_map fun r hr => (below r hr).2
    rw [jsonOf?, values]
    rfl
  | mapping entries =>
    simp only [Node.refs, List.forall_mem_map] at below
    have members : (entries.mapM fun e => (f? e.2).map (e.1, ·)) =
        some (entries.map fun e => (e.1, f e.2)) :=
      mapM_eq_some_map fun e he => by rw [(below e he).2, Option.map_some]
    rw [jsonOf?, members]
    rfl
  | genericMapping entries =>
    simp only [Node.refs, List.forall_mem_flatMap, List.forall_mem_cons] at below
    have texts : (entries.mapM fun e => doc.textWith? f? e.1) =
        some (entries.map fun e => textOf (doc.get e.1) (f e.1)) :=
      mapM_eq_some_map fun e he => textWith?_eq (below e he).1.1 (below e he).1.2
    have values : (entries.mapM fun e => f? e.2) = some (entries.map fun e => f e.2) :=
      mapM_eq_some_map fun e he => (below e he).2.1.2
    rw [jsonOf?, texts, values]
    rfl
  | _ => rfl

theorem yamlOf?_meets (doc : Document) : doc.Meets yamlOf? yamlOf := by
  intro node f? f below
  cases node with
  | sequence items =>
    have values : items.mapM f? = some (items.map f) :=
      mapM_eq_some_map fun r hr => (below r hr).2
    rw [yamlOf?, values]
    rfl
  | mapping entries =>
    simp only [Node.refs, List.forall_mem_map] at below
    have members : (entries.mapM fun e => (f? e.2).map (Yaml.string e.1, ·)) =
        some (entries.map fun e => (.string e.1, f e.2)) :=
      mapM_eq_some_map fun e he => by rw [(below e he).2, Option.map_some]
    rw [yamlOf?, members]
    rfl
  | genericMapping entries =>
    simp only [Node.refs, List.forall_mem_flatMap, List.forall_mem_cons] at below
    have members : (entries.mapM fun e : NodeId × NodeId => do some (← f? e.1, ← f? e.2)) =
        some (entries.map fun e => (f e.1, f e.2)) :=
      mapM_eq_some_map fun e he => by
        rw [(below e he).1.2, (below e he).2.1.2]
        rfl
    rw [yamlOf?, members]
    rfl
  | _ => rfl

theorem WellFormed.toJson?_eq (wellFormed : doc.WellFormed) (inside : id < doc.size)
    (enough : id < levels) : doc.toJson? levels id = some (doc.toJson id) :=
  wellFormed.foldWithin?_eq (usesRefs_jsonOf doc) (jsonOf?_meets doc) inside enough

theorem WellFormed.toYaml?_eq (wellFormed : doc.WellFormed) (inside : id < doc.size)
    (enough : id < levels) : doc.toYaml? levels id = some (doc.toYaml id) :=
  wellFormed.foldWithin?_eq usesRefs_yamlOf (yamlOf?_meets doc) inside enough

theorem Acyclic.textAt?_eq (acyclic : doc.Acyclic)
    (closed : ∀ id < doc.size, ∀ r ∈ (doc.get id).refs, r < doc.size) (inside : id < doc.size)
    (ends : doc.EndsWithin levels id) : doc.textAt? levels id = some (doc.textAt id) :=
  textWith?_eq inside
    (acyclic.foldWithin?_eq closed (usesRefs_jsonOf doc) (jsonOf?_meets doc) inside ends)

theorem WellFormed.textAt?_eq (wellFormed : doc.WellFormed) (inside : id < doc.size)
    (enough : id < levels) : doc.textAt? levels id = some (doc.textAt id) :=
  textWith?_eq inside (wellFormed.toJson?_eq inside enough)

end PathQuery.Document
