import ConversionRelay.Proofs.Container.Compilation
import ConversionRelay.Proofs.FileTree
import ConversionRelay.Proofs.Json.LineBreaks
/-!
The routes by which an export is loaded.

A text, bytes in UTF-8 and a file with these bytes are decoded in different ways, which come to the
same as long as the text does not begin with a byte order mark: line breaks do not matter to what is
read, and bytes that hold no zero are not taken for another encoding. A mark is dropped where bytes
are decoded, but refused where a text is read, and a file is read as a text.

Main statement: bytes and the file that holds them are loaded as the same export unless they begin
with a byte order mark (`Export.load_agrees_unless_marked`). A file that begins with one is loaded
as the empty export, whatever stands behind the mark (`Export.load_marked_file`).
-/
namespace ConversionRelay

open Json

/-- The code point that announces an encoding. -/
def Text.byteOrderMark : CodePoint := .ofCode 0xfeff

section Decoding

variable {bytes : List UInt8} {text rest : Text}

/-- The bytes of a marked text in UTF-8 begin with the mark of UTF-8, and no others do. -/
theorem Text.decodeUtf8_mark (lone : LoneSurrogate) (behind : List UInt8) :
    decodeUtf8 lone (0xef :: 0xbb :: 0xbf :: behind) =
      (decodeUtf8From lone 3 0 behind).map (byteOrderMark :: ·) := by
  cases lone <;> rfl

theorem Json.encodingByZeros_of_noZero (noZero : ∀ b ∈ bytes, b ≠ 0) :
    encodingByZeros bytes = .utf8 := by
  unfold encodingByZeros
  split
  · rename_i a b c d more
    rw [if_neg (noZero a (by simp)), if_neg (noZero b (by simp))]
  · rename_i a b
    rw [if_neg (noZero a (by simp)), if_neg (noZero b (by simp))]
  · rfl

/-- Valid UTF-8 without zeros and without a mark is recognised as such. -/
theorem Json.recognise_of_unmarked (valid : Text.decodeUtf8 .refused bytes = .ok text)
    (noZero : ∀ b ∈ bytes, b ≠ 0) (unmarked : text.head? ≠ some Text.byteOrderMark) :
    recognise bytes = (.utf8, bytes) := by
  have unannounced : byteOrderMarks.find? (fun mark => mark.1.isPrefixOf bytes) = none := by
    apply List.find?_eq_none.mpr
    intro mark member begins
    obtain ⟨behind, rfl⟩ := List.isPrefixOf_iff_prefix.mp begins
    simp only [byteOrderMarks, List.mem_cons, List.not_mem_nil, or_false] at member
    rcases member with rfl | rfl | rfl | rfl | rfl
    · exact noZero 0 (by simp) rfl
    · exact noZero 0 (by simp) rfl
    · cases valid
    · cases valid
    · apply unmarked
      rw [List.cons_append, List.cons_append, List.cons_append, List.nil_append,
        Text.decodeUtf8_mark] at valid
      cases others : Text.decodeUtf8From .refused 3 0 behind with
      | error problem =>
        rw [others] at valid
        cases valid
      | ok rest =>
        rw [others] at valid
        cases valid
        rfl
  rw [recognise, unannounced, encodingByZeros_of_noZero noZero]

theorem Json.decodeBytes_of_unmarked (valid : Text.decodeUtf8 .refused bytes = .ok text)
    (noZero : ∀ b ∈ bytes, b ≠ 0) (unmarked : text.head? ≠ some Text.byteOrderMark) :
    decodeBytes bytes = .ok text := by
  rw [decodeBytes, recognise_of_unmarked valid noZero unmarked]
  exact Text.decodeUtf8_of_encodeUtf8 (Text.encodeUtf8_of_decodeUtf8 valid)

theorem Json.decodeBytes_of_marked
    (encodes : Text.encodeUtf8 (Text.byteOrderMark :: rest) = .ok bytes) :
    decodeBytes bytes = .ok rest := by
  have chars := Text.chars_of_encodeUtf8 encodes
  rw [Text.encodeUtf8_of_all_char chars] at encodes
  cases encodes
  have recognised (behind : List UInt8) :
      recognise (0xef :: 0xbb :: 0xbf :: behind) = (.utf8, behind) := rfl
  have mark : Text.utf8Bytes Text.byteOrderMark = [0xef, 0xbb, 0xbf] := by decide
  rw [List.flatMap_cons, mark, decodeBytes]
  exact Text.decodeUtf8From_utf8Bytes .kept (List.forall_mem_cons.mp chars).2 0

end Decoding

section Marks

/-- A text that begins with a mark is malformed. -/
theorem Json.parse_marked (rest : Text) :
    ∃ problem, parse (Text.byteOrderMark :: rest) = .error (.malformed problem) := by
  rw [parse, parseWithin]
  exact ⟨_, if_pos rfl⟩

theorem Json.parse_unmarked {text : Text} (unmarked : text.head? ≠ some Text.byteOrderMark) :
    parse text = parseDecoded .standard text := by
  rw [parse, parseWithin]
  exact if_neg unmarked

/-- A mark that was not dropped when bytes were decoded is no value. -/
theorem Json.parseDecoded_marked (rest : Text) :
    ∃ problem,
      parseDecoded .standard (Text.byteOrderMark :: rest) = .error (.malformed problem) := by
  have noSpace : skipSpace (Text.byteOrderMark :: rest) = Text.byteOrderMark :: rest :=
    skipSpace_of_opens rest (by decide)
  have scalar (steps room : Nat) :
      readValue .standard (steps + 1) room (Text.byteOrderMark :: rest) =
        readScalar .standard (Text.byteOrderMark :: rest) :=
    readValue_scalar _ _ _ _ (by decide)
  have noValue : readScalar .standard (Text.byteOrderMark :: rest) =
      failAt .expectingValue (Text.byteOrderMark :: rest) := rfl
  rw [parseDecoded, readDocument, noSpace, scalar, noValue]
  exact ⟨_, rfl⟩

/-- An export does not depend on who refuses a mark. -/
theorem Export.ofRead_parseDecoded (text : Text) :
    ofRead (parseDecoded .standard text) = ofRead (parse text) := by
  by_cases marked : text.head? = some Text.byteOrderMark
  · obtain ⟨rest, rfl⟩ := List.head?_eq_some_iff.mp marked
    obtain ⟨problem, decoded⟩ := parseDecoded_marked rest
    obtain ⟨problem', read⟩ := parse_marked rest
    rw [decoded, read]
    rfl
  · rw [parse_unmarked marked]

end Marks

section Loading

/-- An export does not depend on the line breaks of the text that spells it. -/
theorem Export.ofRead_plainLineBreaks (text : Text) :
    ofRead (parse (Text.plainLineBreaks text)) = ofRead (parse text) := by
  have alike := parse_plainLineBreaks text
  generalize parse text = read, parse (Text.plainLineBreaks text) = read' at alike ⊢
  cases alike <;> rfl

variable {files : FileTree} {file text : Text} {bytes : List UInt8}

theorem FileTree.contains_of_read {path : FilePath} (holds : read path files = .ok bytes) :
    contains path files = .ok true := by
  unfold read at holds
  unfold contains
  split at holds
  · rename_i is
    rw [is]
  · cases holds
  · cases holds

/-- A file that holds the encoding of a text is loaded as the export that the text spells. -/
theorem Export.load_file_outcome (encodes : Text.encodeUtf8 text = .ok bytes)
    (holds : FileTree.read (.ofText file) files = .ok bytes) : ∃ lines,
      (load files (.file file)).outcomeBehind [] = (ofRead (parse text), lines) := by
  have reads : FileTree.readText (.ofText file) files = .ok (Text.plainLineBreaks text) := by
    rw [FileTree.readText, holds, Except.bind, Text.decodeUtf8_of_encodeUtf8 encodes]
  obtain ⟨lines, loads⟩ := ofReading_outcome (parse (Text.plainLineBreaks text)) []
  rw [ofRead_plainLineBreaks] at loads
  refine ⟨lines, ?_⟩
  have looks : (Logged.ofExcept (files.contains (.ofText file))).outcomeBehind [] =
      (.ok true, []) := by
    rw [FileTree.contains_of_read holds, Logged.outcomeBehind_ofExcept]
  have opens : (Logged.ofExcept (files.readText (.ofText file))).outcomeBehind [] =
      (.ok (Text.plainLineBreaks text), []) := by
    rw [reads, Logged.outcomeBehind_ofExcept]
  rw [load, ofFile, Logged.outcomeBehind_bind_ok looks, if_pos rfl,
    Logged.outcomeBehind_bind_ok opens]
  exact loads

/-- A text is loaded as the export that it spells. -/
theorem Export.load_text_outcome (files : FileTree) (text : Text) :
    (load files (.text text)).outcome.1 = ofRead (parse text) := by
  obtain ⟨lines, loads⟩ := ofReading_outcome (parse text) []
  exact congrArg Prod.fst loads

/-- A text is too much for the reader: collections lie too deep in it, or an integer is too long. -/
def Json.BeyondLimits (text : Text) : Prop :=
  (∃ collection, parse text = .error (.tooDeep collection)) ∨
    ∃ count, parse text = .error (.tooManyDigits count)

/-- A text that is not too much for the reader spells an export, be it well formed or not. -/
theorem Export.spells_of_not_beyondLimits (within : ¬BeyondLimits text) :
    ∃ found, ofRead (parse text) = .ok found := by
  cases reading : parse text with
  | ok document => exact ⟨_, rfl⟩
  | error problem =>
    cases problem with
    | malformed problem => exact ⟨_, rfl⟩
    | tooDeep collection => exact absurd (.inl ⟨collection, reading⟩) within
    | tooManyDigits count => exact absurd (.inr ⟨count, reading⟩) within

/-- Bytes are loaded as the export that the text spells that they are decoded to. -/
theorem Export.load_bytes_outcome (files : FileTree) (decodes : decodeBytes bytes = .ok text) :
    (load files (.bytes bytes)).outcome.1 = ofRead (parse text) := by
  obtain ⟨lines, loads⟩ := ofReading_outcome (parseDecoded .standard text) []
  rw [← ofRead_parseDecoded]
  rw [load, ofBytes, decodes]
  exact congrArg Prod.fst loads

end Loading

section Routes

namespace Export

/-- Valid UTF-8 without zeros is loaded as the same export from bytes and from a file that holds
them, unless it begins with a byte order mark or is too much for the reader. In the latter case both
fail alike. Bytes that begin with a mark are loaded as the text behind it, but a file that does is
loaded as the empty export. -/
theorem load_agrees_unless_marked {files : FileTree} {file text : Text} {bytes : List UInt8}
    (valid : Text.decodeUtf8 .refused bytes = .ok text) (noZero : ∀ b ∈ bytes, b ≠ 0)
    (holds : FileTree.read (.ofText file) files = .ok bytes) :
    let ofBytes := (load files (.bytes bytes)).outcome.1
    let ofFile := (load files (.file file)).outcome.1
    (text.head? ≠ some Text.byteOrderMark →
      ofBytes = ofFile ∧ (¬BeyondLimits text → ∃ found, ofFile = .ok found)) ∧
      ∀ rest, text = Text.byteOrderMark :: rest →
        ofBytes = (load files (.text rest)).outcome.1 ∧ ofFile = .ok empty := by
  have encodes := Text.encodeUtf8_of_decodeUtf8 valid
  obtain ⟨lines, loads⟩ := load_file_outcome encodes holds
  have fromFile : (load files (.file file)).outcome.1 = ofRead (parse text) :=
    congrArg Prod.fst loads
  constructor
  · intro unmarked
    rw [fromFile]
    constructor
    · exact load_bytes_outcome files (decodeBytes_of_unmarked valid noZero unmarked)
    · exact spells_of_not_beyondLimits
  · rintro rest rfl
    obtain ⟨problem, refused⟩ := parse_marked rest
    refine ⟨?_, by rw [fromFile, refused, ofRead]⟩
    rw [load_text_outcome]
    exact load_bytes_outcome files (decodeBytes_of_marked encodes)

/-- A document of an export with tags that say nothing. -/
def blankTags (count : Nat) : Value :=
  .object [("tag", .array (List.replicate count (.object [])))]

theorem legible_blankTags (count : Nat) :
    Legible Limits.standard Limits.standard.nesting (blankTags count) := by
  refine .object 985 _ (List.forall_mem_singleton.mpr (.array 984 _ ?_))
  intro tag member
  rw [List.eq_of_mem_replicate member]
  exact .object 983 _ (List.forall_mem_nil _)

/-- An export with two tags is loaded alike from bytes and from a file. -/
theorem load_agrees_two_tags :
    let document := blankTags 2
    let bytes := (print .line document).flatMap Text.utf8Bytes
    let files : FileTree := ⟨[], [[("export.json", .file bytes)]]⟩
    ∃ found : Export, found.tags = [[], []] ∧
      (load files (.bytes bytes)).outcome.1 = .ok found ∧
      (load files (.file "export.json")).outcome.1 = .ok found := by
  intro document bytes files
  have encodes : Text.encodeUtf8 (print .line document) = .ok bytes :=
    Text.encodeUtf8_of_all_char (by decide +kernel)
  have noZero : ∀ b ∈ bytes, b ≠ 0 := by decide +kernel
  have holds : FileTree.read (.ofText "export.json") files = .ok bytes := rfl
  have unmarked : (print .line document).head? ≠ some Text.byteOrderMark := by decide +kernel
  have loads : (load files (.bytes bytes)).outcome.1 = .ok (resolved document) := by
    rw [load_bytes_outcome files (decodeBytes_of_unmarked
      (Text.decodeUtf8_of_encodeUtf8 encodes) noZero unmarked),
      parse_print rfl rfl (legible_blankTags _)]
    rfl
  obtain ⟨agrees, _⟩ :=
    load_agrees_unless_marked (Text.decodeUtf8_of_encodeUtf8 encodes) noZero holds
  exact ⟨resolved document, rfl, loads, (agrees unmarked).1.symm.trans loads⟩

/-- A mark in front of an export with a tag makes its file load as the empty export. -/
theorem load_marked_file :
    let document := blankTags 1
    let bytes := (Text.byteOrderMark :: print .line document).flatMap Text.utf8Bytes
    let files : FileTree := ⟨[], [[("export.json", .file bytes)]]⟩
    Text.decodeUtf8 .refused bytes = .ok (Text.byteOrderMark :: print .line document) ∧
      (∀ b ∈ bytes, b ≠ 0) ∧ FileTree.read (.ofText "export.json") files = .ok bytes ∧
      (∃ found : Export, found.tags = [[]] ∧
        (load files (.bytes bytes)).outcome.1 = .ok found) ∧
      (load files (.file "export.json")).outcome.1 = .ok empty ∧
      (load files (.bytes bytes)).outcome.1 ≠ (load files (.file "export.json")).outcome.1 := by
  intro document bytes files
  have encodes : Text.encodeUtf8 (Text.byteOrderMark :: print .line document) = .ok bytes :=
    Text.encodeUtf8_of_all_char (by decide +kernel)
  have noZero : ∀ b ∈ bytes, b ≠ 0 := by decide +kernel
  have holds : FileTree.read (.ofText "export.json") files = .ok bytes := rfl
  have fromBytes : (load files (.bytes bytes)).outcome.1 = .ok (resolved document) := by
    rw [load_bytes_outcome files (decodeBytes_of_marked encodes),
      parse_print rfl rfl (legible_blankTags _)]
    rfl
  have fromFile : (load files (.file "export.json")).outcome.1 = .ok empty := by
    obtain ⟨lines, loads⟩ := load_file_outcome encodes holds
    obtain ⟨problem, refused⟩ := parse_marked (print .line document)
    rw [refused] at loads
    exact congrArg Prod.fst loads
  refine ⟨Text.decodeUtf8_of_encodeUtf8 encodes, noZero, holds, ⟨_, rfl, fromBytes⟩, fromFile, ?_⟩
  rw [fromBytes, fromFile]
  intro same
  cases congrArg tags (Except.ok.inj same)

end Export

end Routes

end ConversionRelay
