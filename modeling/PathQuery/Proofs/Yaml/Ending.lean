import PathQuery.Proofs.Document.Entries
import PathQuery.Proofs.Number.Decimal
import PathQuery.Rendering
import Mathlib.Data.List.DropRight

/-!
How a value ends when it is written as YAML. The last characters are those of its
last leaf: of its last item, or of the value of its last entry, and so on down. A
number, a word, a bracket or a quote there leaves only the final line feed to be
trimmed. A text without quotes can end in white space of its own; then more than
the line feed is lost.
-/
namespace PathQuery

namespace Text

theorem trimEnd_eq_rdropWhile (cs : List Char) : trimEnd cs = cs.rdropWhile isBlank := rfl

theorem trimEnd_append_lineFeed (front : List Char) {c : Char} (hc : isBlank c = false) :
    trimEnd (front ++ [c, '\n']) = front ++ [c] := by
  have feed : isBlank '\n' = true := by decide
  rw [trimEnd_eq_rdropWhile, List.append_cons, List.rdropWhile_concat_pos _ _ _ feed,
    List.rdropWhile_concat_neg _ _ _ (by simp [hc])]

theorem trimEnd_ne_concat (cs front : List Char) {c : Char} (hc : isBlank c = true) :
    trimEnd cs ≠ front ++ [c] := by
  intro h
  have last := List.rdropWhile_last_not isBlank cs (by
    rw [← trimEnd_eq_rdropWhile, h]
    exact List.concat_ne_nil c front)
  simp only [← trimEnd_eq_rdropWhile, h, List.getLast_append_singleton] at last
  exact last hc

theorem isBlank_of_isNumeric {c : Char} (h : Decimal.isNumeric c) : isBlank c = false := by
  have code := Decimal.code_of_isNumeric h
  simp only [isBlank, CharSet.contains, CharSet.containsCode, blanks, CharSet.inRanges,
    ite_eq_left_iff, Bool.or_eq_false_iff, decide_eq_false_iff_not]
  omega

end Text

namespace Yaml

open Text (isBlank trimEnd)

def IsLeaf : Yaml → Prop
  | .sequence items => items = []
  | .mapping entries => entries = []
  | _ => True

/-- The last leaf of a value as it is written: that of the last item, or of the value of the last
entry. -/
inductive LastLeaf : Yaml → Yaml → Prop
  | leaf {v : Yaml} (h : v.IsLeaf) : LastLeaf v v
  | sequence {items : List Yaml} {item leaf : Yaml} (h : LastLeaf item leaf) :
      LastLeaf (.sequence (items ++ [item])) leaf
  | mapping {entries : List (Yaml × Yaml)} {key value leaf : Yaml} (h : LastLeaf value leaf) :
      LastLeaf (.mapping (entries ++ [(key, value)])) leaf

theorem LastLeaf.isLeaf {v leaf : Yaml} (h : v.LastLeaf leaf) : leaf.IsLeaf := by
  induction h with
  | leaf h => exact h
  | sequence _ ih => exact ih
  | mapping _ ih => exact ih

theorem LastLeaf.of_sequence {items : List Yaml} {leaf : Yaml}
    (h : LastLeaf (.sequence items) leaf) :
    leaf = .sequence items ∨ ∃ item ∈ items, item.LastLeaf leaf := by
  cases h with
  | leaf => exact .inl rfl
  | sequence below => exact .inr ⟨_, List.mem_append_right _ (List.mem_singleton_self _), below⟩

theorem LastLeaf.of_mapping {entries : List (Yaml × Yaml)} {leaf : Yaml}
    (h : LastLeaf (.mapping entries) leaf) :
    leaf = .mapping entries ∨ ∃ e ∈ entries, e.2.LastLeaf leaf := by
  cases h with
  | leaf => exact .inl rfl
  | mapping below => exact .inr ⟨_, List.mem_append_right _ (List.mem_singleton_self _), below⟩

theorem exists_lastLeaf : (v : Yaml) → ∃ leaf, v.LastLeaf leaf
  | .sequence items => by
    rcases List.eq_nil_or_concat' items with rfl | ⟨front, item, split⟩
    · exact ⟨_, .leaf rfl⟩
    · have smaller : sizeOf item < sizeOf items := List.sizeOf_lt_of_mem (by simp [split])
      obtain ⟨leaf, h⟩ := exists_lastLeaf item
      exact ⟨leaf, split ▸ .sequence h⟩
  | .mapping entries => by
    rcases List.eq_nil_or_concat' entries with rfl | ⟨front, ⟨key, value⟩, split⟩
    · exact ⟨_, .leaf rfl⟩
    · have smaller : sizeOf value < sizeOf entries := by
        have entry : sizeOf (key, value) < sizeOf entries := List.sizeOf_lt_of_mem (by simp [split])
        rw [Prod.mk.sizeOf_spec] at entry
        omega
      obtain ⟨leaf, h⟩ := exists_lastLeaf value
      exact ⟨leaf, split ▸ .mapping h⟩
  | .null => ⟨_, .leaf trivial⟩
  | .bool _ => ⟨_, .leaf trivial⟩
  | .integer _ => ⟨_, .leaf trivial⟩
  | .real _ => ⟨_, .leaf trivial⟩
  | .string _ => ⟨_, .leaf trivial⟩
  | .unresolved => ⟨_, .leaf trivial⟩
termination_by v => sizeOf v
decreasing_by
  · simp only [Yaml.sequence.sizeOf_spec]
    omega
  · simp only [Yaml.mapping.sizeOf_spec]
    omega

theorem stack_cons (column : Nat) (cs : List Char) {rest : List (List Char)} (h : rest ≠ []) :
    stack column (cs :: rest) =
      cs ++ (if endsLine cs then [] else ['\n']) ++ indentation column ++ stack column rest := by
  cases rest with
  | nil => exact absurd rfl h
  | cons next rest => simp [stack]

theorem suffix_stack (column : Nat) (front : List (List Char)) (cs : List Char) :
    cs <:+ stack column (front ++ [cs]) := by
  induction front with
  | nil => exact List.suffix_rfl
  | cons first front ih =>
    rw [List.cons_append, stack_cons column first (by simp)]
    exact ih.trans (List.suffix_append _ _)

theorem itemChars_append (column : Nat) (items rest : List Yaml) :
    itemChars column (items ++ rest) = itemChars column items ++ itemChars column rest := by
  induction items with
  | nil => simp [itemChars]
  | cons item items ih => simp [itemChars, ih]

theorem entryChars_append (column : Nat) (entries rest : List (Yaml × Yaml)) :
    entryChars column (entries ++ rest) = entryChars column entries ++ entryChars column rest := by
  induction entries with
  | nil => simp [entryChars]
  | cons e entries ih =>
    rw [List.cons_append, entryChars, entryChars, ih]
    split <;> rfl

theorem chars_sequence (column : Nat) {items : List Yaml} (h : items ≠ []) :
    chars column (.sequence items) = stack column (itemChars column items) := by
  obtain ⟨item, rest, rfl⟩ := List.exists_cons_of_ne_nil h
  rw [chars]

theorem chars_mapping (column : Nat) {entries : List (Yaml × Yaml)} (h : entries ≠ []) :
    chars column (.mapping entries) = stack column (entryChars column entries) := by
  obtain ⟨e, rest, rfl⟩ := List.exists_cons_of_ne_nil h
  rw [chars]

theorem exists_suffix_valueChars (column : Nat) (v : Yaml) :
    ∃ column', chars column' v <:+ valueChars column v := by
  unfold valueChars
  split
  · rw [← chars_sequence column (List.cons_ne_nil _ _)]
    exact ⟨column, List.suffix_append _ _⟩
  · rw [← chars_mapping (column + 2) (List.cons_ne_nil _ _)]
    exact ⟨column + 2, List.suffix_append _ _⟩
  · exact ⟨column + 2, List.suffix_cons _ _⟩

theorem exists_suffix_entryChars (column : Nat) (key value : Yaml) :
    ∃ front line column', entryChars column [(key, value)] = front ++ [line] ∧
      chars column' value <:+ line := by
  rw [entryChars, entryChars]
  split
  · obtain ⟨column', h⟩ := exists_suffix_valueChars column value
    refine ⟨[], _, column', rfl, h.trans ?_⟩
    exact (List.suffix_cons _ _).trans (List.suffix_append _ _)
  · refine ⟨[_], _, column + 2, rfl, ?_⟩
    exact (List.suffix_cons _ _).trans (List.suffix_cons _ _)

theorem LastLeaf.suffix_chars {v leaf : Yaml} (h : v.LastLeaf leaf) (column : Nat) :
    ∃ column', chars column' leaf <:+ chars column v := by
  induction h generalizing column with
  | @sequence items item leaf _ ih =>
    obtain ⟨column', below⟩ := ih (column + 2)
    have line : chars (column + 2) item <:+ '-' :: ' ' :: chars (column + 2) item :=
      (List.suffix_cons _ _).trans (List.suffix_cons _ _)
    rw [chars_sequence column (by simp), itemChars_append, itemChars, itemChars]
    exact ⟨column', below.trans (line.trans (suffix_stack column _ _))⟩
  | @mapping entries key value leaf _ ih =>
    obtain ⟨front, line, here, lines, ends⟩ := exists_suffix_entryChars column key value
    obtain ⟨column', below⟩ := ih here
    rw [chars_mapping column (by simp), entryChars_append, lines, ← List.append_assoc]
    exact ⟨column', below.trans (ends.trans (suffix_stack column _ _))⟩
  | leaf => exact ⟨column, List.suffix_rfl⟩

def endsBlank (cs : List Char) : Bool :=
  match cs.reverse with
  | [] => false
  | [c] => isBlank c
  | c :: d :: _ => isBlank (if c = '\n' then d else c)

/-- Whether a text at the end of a value loses more than a final line feed when it is trimmed: it is
written without quotes, and ends in white space that is not one line feed. -/
def losesEnd (s : String) : Bool :=
  match TextStyle.ofText s with
  | .plain => endsBlank s.toList
  | .literal => endsBlank s.toList
  | _ => false

def EndsClean (cs : List Char) : Prop :=
  ∃ c, isBlank c = false ∧ ([c] <:+ cs ∨ [c, '\n'] <:+ cs)

def EndsSpoiled (cs : List Char) : Prop :=
  ∃ c, isBlank c = true ∧ (c ≠ '\n' ∧ [c] <:+ cs ∨ [c, '\n'] <:+ cs)

theorem EndsClean.of_suffix {cs cs' : List Char} (h : EndsClean cs) (hs : cs <:+ cs') :
    EndsClean cs' := by
  obtain ⟨c, hc, last⟩ := h
  exact ⟨c, hc, last.imp (·.trans hs) (·.trans hs)⟩

theorem EndsSpoiled.of_suffix {cs cs' : List Char} (h : EndsSpoiled cs) (hs : cs <:+ cs') :
    EndsSpoiled cs' := by
  obtain ⟨c, hc, last⟩ := h
  exact ⟨c, hc, last.imp (fun l => ⟨l.1, l.2.trans hs⟩) (·.trans hs)⟩

theorem isBlank_of_isLineBreak {c : Char} (h : isLineBreak c) : isBlank c = true := by
  simp only [isLineBreak, Bool.or_eq_true, decide_eq_true_eq] at h
  rcases h with (((rfl | rfl) | rfl) | rfl) | rfl
  all_goals decide

theorem endsLine_concat (front : List Char) (c : Char) :
    endsLine (front ++ [c]) = isLineBreak c := by simp [endsLine]

def completeLine (cs : List Char) : List Char := if endsLine cs then cs else cs ++ ['\n']

theorem completeLine_lineFeed (front : List Char) (c : Char) :
    completeLine (front ++ [c, '\n']) = front ++ [c, '\n'] := by
  have ends : endsLine (front ++ [c, '\n']) = true := by
    rw [List.append_cons, endsLine_concat]
    rfl
  rw [completeLine, if_pos ends]

theorem EndsClean.trimEnd_eq {cs : List Char} (h : EndsClean cs) :
    trimEnd (completeLine cs) ++ ['\n'] = completeLine cs := by
  obtain ⟨c, hc, ⟨front, rfl⟩ | ⟨front, rfl⟩⟩ := h
  · have inside : isLineBreak c = false := by
      by_contra breaks
      rw [isBlank_of_isLineBreak (by simpa using breaks)] at hc
      cases hc
    rw [completeLine, endsLine_concat, inside, if_neg Bool.false_ne_true, List.append_assoc,
      List.singleton_append, Text.trimEnd_append_lineFeed front hc, List.append_assoc,
      List.singleton_append]
  · rw [completeLine_lineFeed, Text.trimEnd_append_lineFeed front hc, List.append_assoc]
    rfl

theorem EndsSpoiled.trimEnd_ne {cs : List Char} (h : EndsSpoiled cs) :
    trimEnd (completeLine cs) ++ ['\n'] ≠ completeLine cs := by
  have beforeFeed {c : Char} (hc : isBlank c = true) (l front : List Char) :
      trimEnd l ++ ['\n'] ≠ front ++ [c] ++ ['\n'] := fun same =>
    Text.trimEnd_ne_concat l front hc (List.append_cancel_right same)
  obtain ⟨c, hc, ⟨hfeed, front, rfl⟩ | ⟨front, rfl⟩⟩ := h
  · unfold completeLine
    split
    · intro same
      have last := congrArg List.getLast? same
      simp only [List.getLast?_append, List.getLast?_singleton, Option.some_or,
        Option.some.injEq] at last
      exact hfeed last.symm
    · exact beforeFeed hc _ front
  · rw [completeLine_lineFeed]
    conv_rhs => rw [List.append_cons]
    exact beforeFeed hc _ front

theorem suffix_indentLines (column : Nat) (lineStart : Bool) (cs : List Char) (c : Char) :
    [c] <:+ indentLines column lineStart (cs ++ [c]) := by
  induction cs generalizing lineStart with
  | nil =>
    simp only [List.nil_append, indentLines]
    split
    · exact List.suffix_rfl
    · exact List.suffix_append _ _
  | cons d cs ih =>
    rw [List.cons_append, indentLines]
    split
    · exact (ih true).trans (List.suffix_cons _ _)
    · exact (ih false).trans ((List.suffix_cons _ _).trans (List.suffix_append _ _))

theorem indentLines_lineFeed (column : Nat) (lineStart : Bool) (cs : List Char) :
    indentLines column lineStart (cs ++ ['\n']) = indentLines column lineStart cs ++ ['\n'] := by
  induction cs generalizing lineStart with
  | nil => rfl
  | cons d cs ih =>
    rw [List.cons_append, indentLines, indentLines]
    split
    · rw [ih, List.cons_append]
    · rw [ih, List.append_assoc, List.cons_append]

theorem ending_of_endsBlank {cs written : List Char} (hcs : cs ≠ [])
    (one : ∀ front c, cs = front ++ [c] → [c] <:+ written)
    (two : ∀ front c, cs = front ++ [c, '\n'] → [c, '\n'] <:+ written)
    (feed : cs = ['\n'] → ['\n', '\n'] <:+ written) :
    (endsBlank cs = false → EndsClean written) ∧ (endsBlank cs = true → EndsSpoiled written) := by
  rcases List.eq_nil_or_concat' cs with rfl | ⟨front, c, rfl⟩
  · exact absurd rfl hcs
  have last := one front c rfl
  by_cases hc : c = '\n'
  · subst hc
    rcases List.eq_nil_or_concat' front with rfl | ⟨front, d, rfl⟩
    · exact ⟨nofun, fun _ => ⟨'\n', by decide, .inr (feed rfl)⟩⟩
    · have blank : endsBlank (front ++ [d] ++ ['\n']) = isBlank d := by simp [endsBlank]
      have last := two front d (List.append_assoc ..)
      rw [blank]
      exact ⟨fun h => ⟨d, h, .inr last⟩, fun h => ⟨d, h, .inr last⟩⟩
  · have blank : endsBlank (front ++ [c]) = isBlank c := by
      unfold endsBlank
      rw [List.reverse_concat]
      cases front.reverse <;> simp [hc]
    rw [blank]
    exact ⟨fun h => ⟨c, h, .inl last⟩, fun h => ⟨c, h, .inl ⟨hc, last⟩⟩⟩

theorem lineFeed_notMem_of_plain {s : String} (h : TextStyle.ofText s = .plain) :
    '\n' ∉ s.toList ∧ s.toList ≠ [] := by
  unfold TextStyle.ofText at h
  dsimp only at h
  split at h
  · split at h <;> cases h
  · next hfeed =>
    refine ⟨by simpa using hfeed, fun empty => ?_⟩
    obtain rfl : s = "" := String.toList_inj.mp empty
    exact absurd h (by decide +kernel)

theorem lineFeed_mem_of_literal {s : String} (h : TextStyle.ofText s = .literal) :
    '\n' ∈ s.toList := by
  unfold TextStyle.ofText at h
  dsimp only at h
  split at h
  · next hfeed => simpa using hfeed
  · split at h
    · cases h
    · split at h <;> cases h

theorem textChars_ending (column : Nat) (s : String) :
    (losesEnd s = false → EndsClean (textChars column s)) ∧
      (losesEnd s = true → EndsSpoiled (textChars column s)) := by
  cases style : TextStyle.ofText s with
  | plain =>
    obtain ⟨feed, hne⟩ := lineFeed_notMem_of_plain style
    simp only [losesEnd, textChars, style]
    refine ending_of_endsBlank hne (fun front c h => ?_) (fun front c h => ?_) fun h => ?_
    · exact h ▸ List.suffix_append _ _
    · exact h ▸ List.suffix_append _ _
    · simp [h] at feed
  | literal =>
    have hne := List.ne_nil_of_mem (lineFeed_mem_of_literal style)
    simp only [losesEnd, textChars, style]
    have lines (cs : List Char) : cs <:+ literalHeader s.toList ++ '\n' :: cs :=
      (List.suffix_cons _ _).trans (List.suffix_append _ _)
    refine ending_of_endsBlank hne (fun front c h => ?_) (fun front c h => ?_) fun h => ?_
    · exact (h ▸ suffix_indentLines column true front c).trans (lines _)
    · obtain ⟨before, above⟩ := suffix_indentLines column true front c
      have block : indentLines column true (front ++ [c, '\n']) = before ++ [c, '\n'] := by
        rw [List.append_cons, indentLines_lineFeed, ← above, List.append_assoc]
        rfl
      exact (h ▸ block ▸ List.suffix_append _ _).trans (lines _)
    · rw [h]
      exact List.suffix_append _ _
  | single =>
    simp only [losesEnd, textChars, style]
    exact ⟨fun _ => ⟨'\'', by decide, .inl (List.suffix_append _ _)⟩, nofun⟩
  | double =>
    simp only [losesEnd, textChars, style]
    exact ⟨fun _ => ⟨'"', by decide, .inl (List.suffix_append _ _)⟩, nofun⟩

theorem endsClean_of_isNumeric {cs : List Char} (hne : cs ≠ [])
    (numeric : ∀ c ∈ cs, Decimal.isNumeric c) : EndsClean cs := by
  rcases List.eq_nil_or_concat' cs with rfl | ⟨front, c, rfl⟩
  · exact absurd rfl hne
  · have last : Text.isBlank c = false := Text.isBlank_of_isNumeric (numeric c (by simp))
    exact ⟨c, last, .inl (List.suffix_append _ _)⟩

theorem endsClean_of_word {cs : List Char} (h : Text.Word cs) : EndsClean cs :=
  endsClean_of_isNumeric h.ne_nil fun c hc => Decimal.isNumeric_of_isBare (h.bare c hc)

theorem realText_numeric (x : Binary64) :
    (realText x).toList ≠ [] ∧ ∀ c ∈ (realText x).toList, Decimal.isNumeric c := by
  cases x with
  | nan => exact ⟨by decide, List.all_eq_true.mp rfl⟩
  | infinite negative => cases negative <;> exact ⟨by decide, List.all_eq_true.mp rfl⟩
  | finite s m e _ =>
    refine ⟨?_, fun c hc => Binary64.isNumeric_of_mem_floatText hc⟩
    rw [realText, Binary64.floatText, String.toList_ofList]
    exact List.append_ne_nil_of_right_ne_nil _ (Decimal.floating_ne_nil _ _)

theorem IsLeaf.endsClean {leaf : Yaml} (h : leaf.IsLeaf) (column : Nat)
    (spelled : ∀ spelling, leaf = .real spelling → ∃ x, spelling = realText x)
    (keeps : ∀ s, leaf = .string s → losesEnd s = false) : EndsClean (chars column leaf) := by
  cases leaf with
  | null | unresolved =>
    rw [chars]
    exact endsClean_of_word (.of_all (by decide) rfl)
  | bool b =>
    rw [chars]
    cases b <;> exact endsClean_of_word (.of_all (by decide) rfl)
  | integer n =>
    rw [chars]
    exact endsClean_of_word (Text.word_toString n)
  | real spelling =>
    obtain ⟨x, rfl⟩ := spelled spelling rfl
    rw [chars]
    exact endsClean_of_isNumeric (realText_numeric x).1 (realText_numeric x).2
  | string s =>
    rw [chars]
    exact (textChars_ending column s).1 (keeps s rfl)
  | sequence items =>
    obtain rfl : items = [] := h
    rw [chars]
    exact ⟨']', by decide, .inl ⟨['['], rfl⟩⟩
  | mapping entries =>
    obtain rfl : entries = [] := h
    rw [chars]
    exact ⟨'\x7d', by decide, .inl ⟨['\x7b'], rfl⟩⟩

/-- The text that a value ends with, if it ends with one, loses nothing when it is trimmed. -/
def KeepsEnd (v : Yaml) : Prop := ∀ s, v.LastLeaf (.string s) → losesEnd s = false

theorem toList_text (v : Yaml) : v.text.toList = completeLine (chars (rootColumn v) v) := by
  simp only [text, completeLine, String.toList_ofList]

theorem trimEnd_text_iff {v : Yaml}
    (spelled : ∀ spelling, v.LastLeaf (.real spelling) → ∃ x, spelling = realText x) :
    trimEnd v.text.toList ++ ['\n'] = v.text.toList ↔ v.KeepsEnd := by
  rw [toList_text]
  constructor
  · intro whole s last
    by_contra loses
    obtain ⟨column, ends⟩ := last.suffix_chars (rootColumn v)
    rw [chars] at ends
    have spoiled := (textChars_ending column s).2 (by simpa using loses)
    exact (spoiled.of_suffix ends).trimEnd_ne whole
  · intro keeps
    obtain ⟨leaf, last⟩ := exists_lastLeaf v
    obtain ⟨column, ends⟩ := last.suffix_chars (rootColumn v)
    have clean : EndsClean (chars column leaf) :=
      last.isLeaf.endsClean column (fun spelling h => spelled spelling (h ▸ last))
        fun s h => keeps s (h ▸ last)
    exact (clean.of_suffix ends).trimEnd_eq

theorem keepsEnd_string {s : String} : (Yaml.string s).KeepsEnd ↔ losesEnd s = false :=
  ⟨fun keeps => keeps s (.leaf trivial), fun h _ last => by cases last; exact h⟩

theorem text_string (s : String) :
    (Yaml.string s).text = String.ofList (completeLine (textChars 2 s)) := by
  rw [text, rootColumn, chars]
  rfl

end Yaml

end PathQuery
