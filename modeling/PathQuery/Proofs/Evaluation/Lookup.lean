import PathQuery.Proofs.Evaluation.Route

/-!
Steps down by a text and by a wildcard. The text selects the same children under
the same keys, in the same order, and leaves out those whose keys do not accept it.
Every key accepts its own text.
-/
namespace PathQuery

variable {doc : Document} {t : Trail} {id : ElementId} {specifier : Query.Specifier}

inductive Query.Specifier.StepsDown : Specifier → Prop
  | children : StepsDown .children
  | literal (text : String) : StepsDown (.literal text)

namespace Document

def chosen (doc : Document) (node : Node) : Query.Specifier → List (Key × NodeId)
  | .children => node.children
  | .literal text => doc.lookup node text
  | .parent => []
  | .descendants => []

/-- A key accepts a text: a name that is the text, an index that it spells, or a node that it
denotes. -/
def Accepts (doc : Document) (text : String) : Key → Prop
  | .name name => name = text
  | .index i => SpellsIndex text i
  | .entry key _ => doc.keyMatches key text = true

theorem denotes_iff_accepts (text : String) (key : Key) :
    doc.denotes text key = true ↔ doc.Accepts text key := by
  cases key with
  | name name => exact decide_eq_true_iff
  | index i => exact decide_eq_true_iff.trans (indexOf?_eq_some_iff text i)
  | entry key _ => exact Iff.rfl

instance (text : String) : DecidablePred (doc.Accepts text) := fun key =>
  decidable_of_iff _ (denotes_iff_accepts text key)

theorem chosen_literal {node : Node} (h : node.NamesDistinct) (text : String) :
    doc.chosen node (.literal text) = node.children.filter fun c => doc.Accepts text c.1 := by
  refine (lookup_eq_filter_children h doc text).trans (List.filter_congr fun c _ => ?_)
  rw [Bool.eq_iff_iff, denotes_iff_accepts, decide_eq_true_iff]

end Document

namespace Evaluation

/-- A specifier selects children of an element: it adds an element for each of them, in order, which
holds its node and is linked to the element by its key. -/
def Selects (doc : Document) (t : Trail) (id : ElementId) (specifier : Query.Specifier)
    (children : List (Key × NodeId)) : Prop :=
  ∀ error budget, ∃ s ids, select doc error budget id specifier t = (s, .ok ids) ∧
    ids.map s.get = children.map fun c => ⟨c.2, some (id, c.1)⟩

theorem selects_chosen (doc : Document) (t : Trail) (id : ElementId) (down : specifier.StepsDown) :
    Selects doc t id specifier (doc.chosen (doc.get (t.get id).node) specifier) := by
  intro error budget
  refine ⟨_, _, ?_, t.map_get_pushChildren id (doc.chosen (doc.get (t.get id).node) specifier)⟩
  cases down <;> rfl

end Evaluation

/-- From any element, the wildcard selects the children of its node, and a text those of them whose
keys accept it, in the same order. Each child is among those that the text of its own key selects;
indices are machine words, as no sequence in memory has more items. -/
theorem literal_selects_accepted_children (doc : Document) (distinct : doc.NamesDistinct)
    (t : Trail) (id : ElementId) :
    let children := (doc.get (t.get id).node).children
    Evaluation.Selects doc t id .children children ∧
      (∀ text, Evaluation.Selects doc t id (.literal text)
        (children.filter fun c => doc.Accepts text c.1)) ∧
      ∀ c ∈ children, (∀ i, c.1 = .index i → i < 2 ^ 64) →
        ∃ found, Evaluation.Selects doc t id (.literal (doc.routeText c.1)) found ∧ c ∈ found := by
  intro children
  have byText (text : String) : Evaluation.Selects doc t id (.literal text)
      (children.filter fun c => doc.Accepts text c.1) := by
    rw [← Document.chosen_literal (distinct _)]
    exact Evaluation.selects_chosen doc t id (.literal text)
  refine ⟨Evaluation.selects_chosen doc t id .children, byText, fun c hc word => ⟨_, byText _, ?_⟩⟩
  have own : doc.Accepts (doc.routeText c.1) c.1 :=
    (Document.denotes_iff_accepts _ _).mp (Document.denotes_routeText word)
  exact List.mem_filter.mpr ⟨hc, decide_eq_true own⟩

def Document.switches : Document :=
  .ofYaml (.mapping [(.bool true, .string "a"), (.string "on", .string "b"),
    (.sequence [.real "1.5"], .string "c")])

theorem Document.switches_namesDistinct : switches.NamesDistinct :=
  namesDistinct_of_lt_size (by decide +kernel)

theorem literal_selects_accepted_children_switches :
    let start := (Trail.empty.pushRoot (Document.root .switches)).1
    Evaluation.Selects .switches start 0 (.literal "on") [(.entry 1 0, 2), (.entry 3 1, 4)] ∧
      ∃ found, Evaluation.Selects .switches start 0 (.literal "[1.5]") found ∧
        (.entry 6 2, 7) ∈ found := by
  intro start
  obtain ⟨-, byText, own⟩ := literal_selects_accepted_children .switches
    Document.switches_namesDistinct start 0
  have both : (Document.get .switches (start.get 0).node).children.filter (fun c =>
      Document.Accepts .switches "on" c.1) = [(.entry 1 0, 2), (.entry 3 1, 4)] := by decide +kernel
  have text : Document.routeText .switches (.entry 6 2) = "[1.5]" := by decide +kernel
  have selected := own (.entry 6 2, 7) (by decide +kernel) nofun
  rw [text] at selected
  exact ⟨both ▸ byText "on", selected⟩

end PathQuery
