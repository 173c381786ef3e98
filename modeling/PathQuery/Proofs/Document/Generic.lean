import PathQuery.Decoding
import PathQuery.Proofs.Document.Decoded

/-!
Documents without generic mappings. All keys in them are names and indices. A JSON
value has texts as names, so that is what the documents of JSON texts are like.
-/
namespace PathQuery

def Node.isGeneric : Node → Bool
  | .genericMapping _ => true
  | _ => false

namespace Document

variable {doc : Document} {node : Node}

def NoGeneric (doc : Document) : Prop := ∀ id, (doc.get id).isGeneric = false

theorem NoGeneric.insert (h : doc.NoGeneric) (hn : node.isGeneric = false) :
    (doc.insert node).1.NoGeneric :=
  forall_get_insert (P := fun node => node.isGeneric = false) h hn

theorem null_noGeneric : null.NoGeneric := by
  intro id
  cases id <;> rfl

mutual

theorem insertJson_noGeneric {doc : Document} (h : doc.NoGeneric) : ∀ v : Json,
    (doc.insertJson v).1.NoGeneric
  | .null => h.insert rfl
  | .bool _ => h.insert rfl
  | .number _ => h.insert rfl
  | .string _ => h.insert rfl
  | .array items => (insertJsonItems_noGeneric h items).insert rfl
  | .object members => (insertJsonMembers_noGeneric h members).insert rfl

theorem insertJsonItems_noGeneric {doc : Document} (h : doc.NoGeneric) : ∀ items : List Json,
    (doc.insertJsonItems items).1.NoGeneric
  | [] => h
  | item :: rest => insertJsonItems_noGeneric (insertJson_noGeneric h item) rest

theorem insertJsonMembers_noGeneric {doc : Document} (h : doc.NoGeneric) :
    ∀ members : List (String × Json), (doc.insertJsonMembers members).1.NoGeneric
  | [] => h
  | (_, v) :: rest => insertJsonMembers_noGeneric (insertJson_noGeneric h v) rest

end

theorem ofJson_noGeneric (v : Json) : (ofJson v).NoGeneric :=
  insertJson_noGeneric null_noGeneric v

theorem readJsonWith_noGeneric {read : String → Except Json.Error Json} {text : String}
    (h : readJsonWith read text = .ok doc) : doc.NoGeneric := by
  unfold readJsonWith at h
  split at h
  · cases h
    exact ofJson_noGeneric _
  · cases h

theorem readJsonLinesWith_noGeneric {read : String → Except Json.Error Json} {text : String}
    (h : readJsonLinesWith read text = .ok doc) : doc.NoGeneric := by
  obtain ⟨values, -, rfl⟩ := readJsonLinesWith_eq_ofJson h
  exact ofJson_noGeneric _

theorem decode_noGeneric {format : InputFormat} {text : String}
    (json : format = .json ∨ format = .jsonl) (h : decode format text = .ok doc) :
    doc.NoGeneric := by
  rcases json with rfl | rfl
  · exact readJsonWith_noGeneric h
  · exact readJsonLinesWith_noGeneric h

end Document

end PathQuery
