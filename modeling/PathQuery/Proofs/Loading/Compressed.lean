import PathQuery.Loading
import PathQuery.Proofs.Gzip.Stored

/-!
Loading compressed and plain files. The name of a file and `.gz` behind it stand
for the same format, and only the longer one says that the file is compressed. No
text starts like compressed data, so a stream is taken for what it is.
-/
namespace PathQuery

variable {cs name part : List Char}

section Names

theorem pathParts_of_notMem (h : '/' ∉ part) : pathParts part = [part] :=
  List.splitOnP_eq_singleton fun c hc => by
    simpa using fun slash : c = '/' => h (slash ▸ hc)

theorem pathParts_append_cons (front : List Char) (h : '/' ∉ part) :
    pathParts (front ++ '/' :: part) = pathParts front ++ [part] := by
  rw [← pathParts_of_notMem h]
  exact List.splitOnP_append_cons front part rfl

theorem exists_pathParts (cs : List Char) : ∃ before last,
    (last = [] → cs = [] ∨ cs.getLast? = some '/') ∧
      ∀ tail, '/' ∉ tail → pathParts (cs ++ tail) = before ++ [last ++ tail] := by
  by_cases slash : '/' ∈ cs
  · obtain ⟨back, front, reversed, h⟩ := List.eq_append_cons_of_mem (List.mem_reverse.mpr slash)
    obtain rfl : cs = front.reverse ++ '/' :: back.reverse := by
      rw [← List.reverse_reverse cs, reversed]
      simp
    refine ⟨pathParts front.reverse, back.reverse, fun none => .inr (by simp [none]), ?_⟩
    intro tail htail
    rw [List.append_assoc, List.cons_append]
    exact pathParts_append_cons _ (by simp [h, htail])
  · exact ⟨[], cs, .inl, fun tail h => pathParts_of_notMem (by simp [slash, h])⟩

theorem fileName?_append {before : List (List Char)} {last tail : List Char}
    (parts : pathParts (cs ++ tail) = before ++ [last ++ tail]) {c : Char}
    (ends : tail.getLast? = some c) (hc : c ≠ '.') :
    fileName? (cs ++ tail) = some (last ++ tail) := by
  have final : (last ++ tail).getLast? = some c := by
    rw [List.getLast?_append, ends, Option.some_or]
  have proper : ∀ dots : List Char, dots.getLast?.all (· = '.') → last ++ tail ≠ dots := by
    rintro dots hdots rfl
    rw [final] at hdots
    exact hc (of_decide_eq_true hdots)
  have here : (List.filter (fun p => p ≠ [] ∧ p ≠ ['.']) [last ++ tail]).getLast? =
      some (last ++ tail) := by
    simp only [List.filter_cons, List.filter_nil]
    rw [if_pos (decide_eq_true ⟨proper [] rfl, proper ['.'] rfl⟩)]
    rfl
  rw [fileName?, parts, List.filter_append, List.getLast?_append, here]
  exact if_neg (proper ['.', '.'] rfl)

theorem eq_append_of_extension? {e : List Char} (h : extension? name = some e) :
    ∃ stem, name = stem ++ '.' :: e := by
  have split := List.takeWhile_append_dropWhile (p := (· ≠ '.')) (l := name.reverse)
  unfold extension? at h
  dsimp only at h
  split at h
  · cases h
  next long =>
  obtain rfl := Option.some.inj h
  cases rest : name.reverse.dropWhile (· ≠ '.') with
  | nil =>
    rw [rest, List.append_nil] at split
    rw [split, List.reverse_reverse] at long
    omega
  | cons c front =>
    have point : c = '.' := by
      have stops := List.head?_dropWhile_not (fun x => decide (x ≠ '.')) name.reverse
      rw [rest] at stops
      simpa using stops
    rw [rest, point] at split
    have whole := congrArg List.reverse split.symm
    rw [List.reverse_reverse, List.reverse_append, List.reverse_cons, List.append_assoc] at whole
    exact ⟨front.reverse, whole⟩

/-- A path to a file whose name does not end in `.gz`, in whatever case. The last part of the path
has at least one character; that its name has no such ending is said of the part that the name is
taken from. -/
structure PlainName (path : String) : Prop where
  last : ∃ c, path.toList.getLast? = some c ∧ c ≠ '/'
  ending : ∀ name, fileName? path.toList = some name → hasEnding (lowerCase name) ".gz" = false

variable {path : String}

theorem hasEnding_iff {ending : String} :
    hasEnding cs ending = true ↔ ending.toList <:+ cs := List.isSuffixOf_iff_suffix

theorem exists_of_hasEnding_gz (h : hasEnding (lowerCase cs) ".gz" = true) :
    ∃ front tail c, cs = front ++ tail ∧ lowerCase tail = ['.', 'g', 'z'] ∧ '/' ∉ tail ∧
      tail.getLast? = some c ∧ c ≠ '.' := by
  obtain ⟨low, split⟩ := hasEnding_iff.mp h
  obtain ⟨front, tail, whole, -, letters⟩ := List.map_eq_append_iff.mp split.symm
  have lower : tail.map Char.toLower = ['.', 'g', 'z'] := letters
  have final := congrArg List.getLast? lower
  rw [List.getLast?_map] at final
  obtain ⟨c, ends, hc⟩ := Option.map_eq_some_iff.mp final
  refine ⟨front, tail, c, whole, letters, fun slash => ?_, ends, ?_⟩
  · have mem := List.mem_map_of_mem (f := Char.toLower) slash
    rw [lower] at mem
    revert mem
    decide
  · rintro rfl
    revert hc
    decide

theorem PlainName.namesCompressed (h : PlainName path) : namesCompressed path = false := by
  unfold PathQuery.namesCompressed
  split
  · next e found =>
    obtain ⟨name, hname, hext⟩ := Option.bind_eq_some_iff.mp found
    obtain ⟨stem, rfl⟩ := eq_append_of_extension? hext
    refine decide_eq_false fun gz => Bool.false_ne_true ?_
    rw [← h.ending _ hname, hasEnding_iff, lowerCase, List.map_append, List.map_cons]
    rw [lowerCase] at gz
    rw [gz]
    exact ⟨lowerCase stem, rfl⟩
  · rfl

theorem PlainName.hasEnding_path (h : PlainName path) :
    hasEnding (lowerCase path.toList) ".gz" = false := by
  by_contra gz
  obtain ⟨front, tail, c, whole, letters, slash, ends, hc⟩ :=
    exists_of_hasEnding_gz (Bool.not_eq_false _ ▸ gz)
  obtain ⟨before, last, -, parts⟩ := exists_pathParts front
  have name := h.ending (last ++ tail) (whole ▸ fileName?_append (parts tail slash) ends hc)
  have refuted : hasEnding (lowerCase (last ++ tail)) ".gz" = true := by
    rw [hasEnding_iff, lowerCase, List.map_append, ← lowerCase, ← lowerCase, letters]
    exact List.suffix_append _ _
  exact Bool.false_ne_true (name.symm.trans refuted)

theorem toList_append_gz (path : String) :
    (path ++ ".gz").toList = path.toList ++ ['.', 'g', 'z'] := String.toList_append

theorem PlainName.namesCompressed_gz (h : PlainName path) :
    PathQuery.namesCompressed (path ++ ".gz") = true := by
  obtain ⟨c, ends, slash⟩ := h.last
  obtain ⟨before, last, empty, parts⟩ := exists_pathParts path.toList
  have nonempty : last ≠ [] := fun none => by
    rcases empty none with nil | final
    · rw [nil] at ends
      cases ends
    · exact slash (Option.some.inj (ends.symm.trans final))
  have name := fileName?_append (parts ['.', 'g', 'z'] (by decide)) (c := 'z') rfl (by decide)
  have extension : extension? (last ++ ['.', 'g', 'z']) = some ['g', 'z'] := by
    have long := List.length_pos_iff.mpr nonempty
    simp [extension?]
    omega
  rw [PathQuery.namesCompressed, toList_append_gz, name, Option.bind_some, extension]
  rfl

theorem PlainName.ofFileName_gz (h : PlainName path) :
    InputFormat.ofFileName (path ++ ".gz") = .ofFileName path := by
  have whole : lowerCase (path ++ ".gz").toList = lowerCase path.toList ++ ['.', 'g', 'z'] := by
    rw [toList_append_gz, lowerCase, List.map_append]
    rfl
  have ends : hasEnding (lowerCase path.toList ++ ['.', 'g', 'z']) ".gz" = true :=
    hasEnding_iff.mpr (List.suffix_append _ _)
  have stem : (lowerCase path.toList ++ ['.', 'g', 'z']).take
      ((lowerCase path.toList ++ ['.', 'g', 'z']).length - 3) = lowerCase path.toList := by
    simp
  simp only [InputFormat.ofFileName, whole, ends, stem, h.hasEnding_path, if_true,
    Bool.false_eq_true, if_false]

end Names

section Magic

variable {bytes : List UInt8}

theorem exists_of_bind_eq_ok {ε α β : Type} {x : Except ε α} {f : α → Except ε β} {b : β}
    (h : x.bind f = .ok b) : ∃ a, x = .ok a ∧ f a = .ok b := by
  cases x with
  | error e => cases h
  | ok a => exact ⟨a, rfl, h⟩

theorem decode_of_hasMagic (h : Gzip.hasMagic bytes = true) :
    Utf8.decode bytes = .error ⟨1, some 1⟩ := by
  have start : bytes.take 2 = [0x1f, 0x8b] := by simpa [Gzip.hasMagic] using h
  obtain ⟨rest, rfl⟩ : ∃ rest, bytes = 0x1f :: 0x8b :: rest :=
    ⟨bytes.drop 2, by rw [← List.take_append_drop 2 bytes, start]; rfl⟩
  have second : Utf8.decodeFrom 1 (0x8b :: rest) = .error ⟨1, some 1⟩ := by
    rw [Utf8.decodeFrom.eq_def]
    rfl
  rw [Utf8.decode, Utf8.decodeFrom_one (by decide), second]
  rfl

theorem hasMagic_of_decode {text : String} (h : Utf8.decode bytes = .ok text) :
    Gzip.hasMagic bytes = false := by
  by_contra magic
  cases h.symm.trans (decode_of_hasMagic (Bool.not_eq_false _ ▸ magic))

theorem hasMagic_of_decompressText {text : String} (h : Gzip.decompressText bytes = .ok text) :
    Gzip.hasMagic bytes = true := by
  obtain ⟨content, unpacked, -⟩ := exists_of_bind_eq_ok h
  obtain ⟨rest, behind, -⟩ := exists_of_bind_eq_ok unpacked
  obtain ⟨⟨start, rest⟩, first, read⟩ := exists_of_bind_eq_ok behind
  have long : ¬bytes.length < 10 := fun short => by
    rw [Gzip.takePart, if_pos short] at first
    cases first
  rw [Gzip.takePart, if_neg long] at first
  obtain ⟨rfl, -⟩ := Prod.mk.inj (Except.ok.inj first)
  dsimp only at read
  split at read
  · cases read
  next signed =>
  have three : (bytes.take 10).take 3 = [0x1f, 0x8b, 8] := not_not.mp signed
  have two := congrArg (List.take 2) three
  rw [List.take_take, List.take_take] at two
  simpa [Gzip.hasMagic] using two

end Magic

/-- No text is taken for compressed data, and every text can be compressed. A
stream is loaded alike as its text and as compressed data, whichever
compressed data the text is read from. So is a file, its compressed form
under the name with `.gz` behind it: with a given format or none, both are
decoded in the same format, and an error differs in the path only. -/
theorem gzip_is_transparent :
    (∀ bytes text, Utf8.decode bytes = .ok text → Gzip.hasMagic bytes = false) ∧
      ∀ text, (∃ packed, Gzip.decompressText packed = .ok text) ∧
        ∀ packed, Gzip.decompressText packed = .ok text →
          (∀ format, Document.load format (Utf8.encode text) =
              (Document.decode format text).mapError (.decode none) ∧
            Document.load format packed =
              (Document.decode format text).mapError (.decode none)) ∧
          ∀ path, PlainName path → ∀ format : Option InputFormat,
            Document.loadFile path format (some (Utf8.encode text)) =
              (Document.decode (format.getD (.ofFileName path)) text).mapError
                (.decode (some path)) ∧
            Document.loadFile (path ++ ".gz") format (some packed) =
              (Document.decode (format.getD (.ofFileName path)) text).mapError
                (.decode (some (path ++ ".gz"))) := by
  refine ⟨fun bytes text => hasMagic_of_decode, fun text => ⟨?_, fun packed unpacks => ?_⟩⟩
  · exact Gzip.exists_decompressText_eq text
  refine ⟨fun format => ⟨?_, ?_⟩, fun path plain format => ⟨?_, ?_⟩⟩
  · have plain := Utf8.decode_encode text
    simp only [Document.load, hasMagic_of_decode plain, plain, Bool.false_eq_true, if_false]
    rfl
  · simp only [Document.load, hasMagic_of_decompressText unpacks, unpacks, if_true]
    rfl
  · simp only [Document.loadFile, plain.namesCompressed, Utf8.decode_encode, Bool.false_eq_true,
      if_false]
    rfl
  · simp only [Document.loadFile, plain.namesCompressed_gz, plain.ofFileName_gz, unpacks, if_true]
    rfl

theorem gzip_is_transparent_fixedCodes :
    let packed := [0x1f, 0x8b, 8, 0, 0, 0, 0, 0, 2, 3, 0x8b, 0x36, 0x8c, 0xe5, 2, 0,
      0x1f, 0x12, 0x21, 0xf7, 4, 0, 0, 0]
    Gzip.decompressText packed = .ok "[1]\n" ∧ PlainName "logs.gz/Day.JSON" ∧
      Document.loadFile "logs.gz/Day.JSON.gz" none (some packed) =
        (Document.decode .json "[1]\n").mapError (.decode (some "logs.gz/Day.JSON.gz")) := by
  intro packed
  have unpacks : Gzip.decompressText packed = .ok "[1]\n" := by decide +kernel
  have plain : PlainName "logs.gz/Day.JSON" := by
    refine ⟨⟨'N', by decide, by decide⟩, fun name h => ?_⟩
    have found : fileName? "logs.gz/Day.JSON".toList = some "Day.JSON".toList := by decide
    obtain rfl := Option.some.inj (found.symm.trans h)
    decide
  exact ⟨unpacks, plain,
    ((gzip_is_transparent.2 "[1]\n").2 packed unpacks |>.2 "logs.gz/Day.JSON" plain none).2⟩

end PathQuery
