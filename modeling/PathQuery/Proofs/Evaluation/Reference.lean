import PathQuery.Proofs.Document.Position

/-!
What a query means, said of positions alone: there are no elements and no trail,
and no limit on the depth. Cycles would make the positions below a position
infinitely many, so the document has none.
-/
namespace PathQuery.Document

/-- Whether a text denotes a key: names are the text, indices its number, and the keys of a generic
mapping are compared as nodes. -/
def denotes (doc : Document) (text : String) : Key → Bool
  | .name name => name = text
  | .index i => indexOf? text = some i
  | .entry key _ => doc.keyMatches key text

/-- A position and all positions below it, each before those below it. -/
def subtree (doc : Document) (acyclic : doc.Acyclic) (p : Position) : List Position :=
  p :: (doc.childrenAt p).attach.flatMap fun q => subtree doc acyclic q.val
termination_by acyclic.wellFounded_childrenAt.wrap p
decreasing_by exact q.property

def selectAt (doc : Document) (acyclic : doc.Acyclic) (p : Position) :
    Query.Specifier → List Position
  | .parent => if p = [] then [] else [p.dropLast]
  | .children => doc.childrenAt p
  | .descendants => doc.subtree acyclic p
  | .literal text => ((doc.keysAt p).filter (doc.denotes text)).map fun key => p ++ [key]

def positions (doc : Document) (acyclic : doc.Acyclic) : List Query.Part → Position → List Position
  | [], p => [p]
  | part :: rest, p =>
    ((doc.selectAt acyclic p part.specifier).filter fun q =>
      Query.acceptAll part.filters (doc.valueAt q)).flatMap (positions doc acyclic rest)

theorem subtree_eq (doc : Document) (acyclic : doc.Acyclic) (p : Position) :
    doc.subtree acyclic p = p :: (doc.childrenAt p).flatMap (doc.subtree acyclic) := by
  rw [subtree, List.flatMap_subtype (g := doc.subtree acyclic) fun _ _ => rfl, List.unattach_attach]

theorem filter_zipIdx_snd {α : Type} (l : List α) (n k : Nat) :
    ((l.zipIdx n).filter fun e => e.2 = n + k) = (l[k]?.map fun x => (x, n + k)).toList := by
  induction l generalizing n k with
  | nil => rfl
  | cons x l ih =>
    cases k with
    | zero =>
      have later : ((l.zipIdx (n + 1)).filter fun e => e.2 = n) = [] := by
        refine List.filter_eq_nil_iff.mpr fun e he => ?_
        have hle := List.le_snd_of_mem_zipIdx he
        simp only [decide_eq_true_eq]
        omega
      simp [List.zipIdx_cons, later]
    | succ k =>
      have step := ih (n + 1) k
      rw [show n + 1 + k = n + (k + 1) by omega] at step
      simp [List.zipIdx_cons, step]

theorem filter_name_of_nodup {entries : List (String × NodeId)} (h : (entries.map Prod.fst).Nodup)
    (text : String) : (entries.filter fun e => e.1 = text) =
      (entries.find? fun e => e.1 = text).toList := by
  induction entries with
  | nil => rfl
  | cons e rest ih =>
    rw [List.map_cons, List.nodup_cons] at h
    by_cases he : e.1 = text
    · have later : (rest.filter fun e => e.1 = text) = [] := by
        refine List.filter_eq_nil_iff.mpr fun x hx => ?_
        have hne : x.1 ≠ e.1 := fun heq => h.1 (heq ▸ List.mem_map_of_mem hx)
        simpa [← he] using hne
      simp [he, later]
    · simp [he, ih h.2]

/-- Looking a text up selects the children whose key it denotes, in the order of the container. -/
theorem lookup_eq_filter_children {node : Node} (h : node.NamesDistinct) (doc : Document)
    (text : String) : doc.lookup node text = node.children.filter fun c => doc.denotes text c.1 := by
  cases node with
  | sequence items =>
    simp only [lookup, Node.children, List.filter_map]
    cases hi : indexOf? text with
    | none =>
      have none_denoted : (items.zipIdx.filter
          ((fun c : Key × NodeId => doc.denotes text c.1) ∘ fun item => (.index item.2, item.1))) =
          [] := List.filter_eq_nil_iff.mpr fun e _ => by simp [denotes, hi]
      rw [none_denoted]
      rfl
    | some i =>
      -- The text denotes one index, so the filter leaves the item at that place.
      have step := filter_zipIdx_snd items 0 i
      rw [Nat.zero_add] at step
      have same : ((fun c : Key × NodeId => doc.denotes text c.1) ∘
          fun item : NodeId × Nat => ((.index item.2 : Key), item.1)) = fun e => decide (e.2 = i) := by
        funext e
        simp [denotes, hi, eq_comm]
      rw [same, step]
      cases hitem : items[i]? <;> simp [hitem]
  | mapping entries =>
    simp only [lookup, Node.children, List.filter_map]
    have same : ((fun c : Key × NodeId => doc.denotes text c.1) ∘
        fun e : String × NodeId => ((.name e.1 : Key), e.2)) = fun e => decide (e.1 = text) := rfl
    rw [same, filter_name_of_nodup h]
    cases hfind : entries.find? fun e => e.1 = text with
    | none => rfl
    | some e =>
      have hname := List.find?_some hfind
      have hname : e.1 = text := by simpa using hname
      simp [hname]
  | genericMapping entries =>
    simp only [lookup, Node.children, List.filter_map]
    rfl
  | _ => rfl

theorem map_fst_lookup {node : Node} (h : node.NamesDistinct) (doc : Document) (text : String) :
    (doc.lookup node text).map Prod.fst = node.keys.filter (doc.denotes text) := by
  rw [lookup_eq_filter_children h, Node.keys_eq, List.filter_map]
  rfl

end PathQuery.Document
