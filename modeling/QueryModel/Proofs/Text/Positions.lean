import Mathlib.Data.List.Basic
import QueryModel.Text.Span

/-!
# Positions in a text

Positions count bytes, and the searches in `Text.Span` work on characters and add up their sizes.
Every search is described in the same way: the text falls into three parts, the middle one is what
was searched for, and the position is the size of the first (`findBytes_eq_some`,
`keyInLines?_eq_some`).  Such a position lies within the text and between whole characters, and the
bytes from there on are those of the middle part (`Span.shows_of_parts`).

Lines are searched one after the other with their positions added up.  That is the same as searching
the text, because lines keep their line feeds (`flatten_lines`).
-/

namespace QueryModel.Text

/-! ## Sizes -/

theorem byteSize_cons (c : Char) (cs : List Char) :
    byteSize (c :: cs) = c.utf8Size + byteSize cs := rfl

theorem byteSize_append (cs ds : List Char) : byteSize (cs ++ ds) = byteSize cs + byteSize ds := by
  induction cs with
  | nil => exact (Nat.zero_add _).symm
  | cons c cs ih => rw [List.cons_append, byteSize_cons, byteSize_cons, ih, Nat.add_assoc]

theorem byteSize_quote (cs : List Char) : byteSize (cs ++ ['"']) = byteSize cs + 1 :=
  byteSize_append cs ['"']

theorem utf8ByteSize_ofList (cs : List Char) : (String.ofList cs).utf8ByteSize = byteSize cs := by
  induction cs with
  | nil => rfl
  | cons c cs ih =>
    have parts : String.ofList (c :: cs) = String.singleton c ++ String.ofList cs := by
      rw [String.singleton_eq_ofList, ← String.ofList_append, List.singleton_append]
    rw [parts, String.utf8ByteSize_append, String.utf8ByteSize_singleton, ih, byteSize_cons]

theorem utf8ByteSize_eq (s : String) : s.utf8ByteSize = byteSize s.toList := by
  rw [← utf8ByteSize_ofList, String.ofList_toList]

/-- Dropping the bytes of the first part leaves the second. -/
theorem dropBytes_append (before rest : List Char) :
    dropBytes (byteSize before) (before ++ rest) = rest := by
  induction before with
  | nil => cases rest <;> rfl
  | cons c before ih =>
    obtain ⟨n, size⟩ : ∃ n, byteSize (c :: before) = n + 1 :=
      Nat.exists_eq_succ_of_ne_zero (by
        have positive := c.utf8Size_pos
        rw [byteSize_cons]
        omega)
    have rest : n + 1 - c.utf8Size = byteSize before := by
      rw [← size, byteSize_cons, Nat.add_sub_cancel_left]
    rw [size, List.cons_append, dropBytes, rest, ih]

theorem dropBytes_parts (before part after : List Char) :
    dropBytes (byteSize before + byteSize part) (before ++ part ++ after) = after := by
  rw [← byteSize_append, dropBytes_append]

/-! ## Stretches -/

/-- A stretch lies within a text and between whole characters, and its bytes are those of `part`. -/
structure Span.Shows (span : Span) (src part : String) : Prop where
  inside : span.offset + span.length ≤ src.utf8ByteSize
  start : String.Pos.Raw.IsValid src ⟨span.offset⟩
  stop : String.Pos.Raw.IsValid src ⟨span.offset + span.length⟩
  bytes : src.toUTF8.extract span.offset (span.offset + span.length) = part.toUTF8

/-- A stretch shows `part`, with a double quote on either side. -/
structure Span.ShowsQuoted (span : Span) (src part : String) : Prop
    extends span.Shows src part where
  notFirst : 0 < span.offset
  quotes : (⟨span.offset - 1, span.length + 2⟩ : Span).Shows src ("\"" ++ part ++ "\"")

theorem isValid_append (before after : String) :
    String.Pos.Raw.IsValid (before ++ after) ⟨before.utf8ByteSize⟩ :=
  String.Pos.Raw.isValid_iff_exists_append.mpr ⟨before, after, rfl, rfl⟩

theorem extract_append (before after : String) :
    (before ++ after).toUTF8.extract before.utf8ByteSize (before ++ after).utf8ByteSize =
      after.toUTF8 := by
  simp only [String.toUTF8_eq_toByteArray, ← String.size_toByteArray, String.toByteArray_append]
  exact ByteArray.extract_append_eq_right rfl ByteArray.size_append

/-- A part of a text is shown by the stretch that starts behind what comes before it. -/
theorem Span.shows_of_parts (before part after : String) :
    (⟨before.utf8ByteSize, part.utf8ByteSize⟩ : Span).Shows (before ++ part ++ after) part := by
  constructor
  · simp only [String.utf8ByteSize_append]
    omega
  · rw [String.append_assoc]
    exact isValid_append before (part ++ after)
  · have stop := isValid_append (before ++ part) after
    rwa [String.utf8ByteSize_append] at stop
  · simp only [String.toUTF8_eq_toByteArray, String.toByteArray_append, ← String.size_toByteArray]
    have fromPart := ByteArray.extract_append_size_add (a := before.toByteArray)
      (b := part.toByteArray ++ after.toByteArray) (i := 0) (j := part.toByteArray.size)
    rw [Nat.add_zero] at fromPart
    rw [ByteArray.append_assoc, fromPart, ByteArray.extract_append_eq_left rfl]

/-- Where a text falls into parts, a stretch of the size of a part shows it. -/
theorem Span.shows_of_toList {src part : String} {before after : List Char} {offset : Nat}
    (parts : src.toList = before ++ part.toList ++ after) (starts : offset = byteSize before) :
    (⟨offset, byteSize part.toList⟩ : Span).Shows src part := by
  have whole : src = String.ofList before ++ part ++ String.ofList after := by
    rw [← String.toList_inj, parts]
    simp
  have shows := Span.shows_of_parts (String.ofList before) part (String.ofList after)
  rwa [← whole, utf8ByteSize_ofList, utf8ByteSize_eq, ← starts] at shows

theorem Span.showsQuoted_of_toList {src part : String} {before after : List Char} {offset : Nat}
    (parts : src.toList = before ++ inQuotes part.toList ++ after)
    (starts : offset = byteSize before) :
    (⟨offset + 1, byteSize part.toList⟩ : Span).ShowsQuoted src part := by
  have quoted : ("\"" ++ part ++ "\"").toList = inQuotes part.toList := by
    simp [inQuotes]
  have size : byteSize ("\"" ++ part ++ "\"").toList = byteSize part.toList + 2 := by
    rw [quoted, inQuotes, byteSize_quote]
    exact congrArg (· + 1) (Nat.add_comm 1 _)
  have inner : src.toList = before ++ ['"'] ++ part.toList ++ '"' :: after := by
    rw [parts, inQuotes]
    simp
  refine ⟨Span.shows_of_toList inner ?_, Nat.succ_pos offset, ?_⟩
  · rw [starts, byteSize_quote]
  · show (⟨offset, byteSize part.toList + 2⟩ : Span).Shows src _
    rw [← size]
    exact Span.shows_of_toList (by rw [parts, quoted]) starts

/-! ## Searches -/

/-- What is found stands at the position that is given. -/
theorem findBytes_eq_some {needle cs : List Char} {position : Nat}
    (found : findBytes needle cs = some position) :
    ∃ before after, cs = before ++ needle ++ after ∧ position = byteSize before := by
  induction cs generalizing position with
  | nil =>
    rw [findBytes] at found
    split at found
    next isEmpty =>
      cases found
      exact ⟨[], [], by simpa using isEmpty, rfl⟩
    next => cases found
  | cons c cs ih =>
    rw [findBytes] at found
    split at found
    next isPrefix =>
      cases found
      obtain ⟨after, whole⟩ := List.isPrefixOf_iff_prefix.mp isPrefix
      exact ⟨[], after, whole.symm, rfl⟩
    next =>
      obtain ⟨position, inRest, rfl⟩ := Option.map_eq_some_iff.mp found
      obtain ⟨before, after, rfl, rfl⟩ := ih inRest
      exact ⟨c :: before, after, rfl, Nat.add_comm _ _⟩

/-- Lines keep their line feeds, so together they are the text. -/
theorem flatten_lines (cs : List Char) : (lines cs).flatten = cs := by
  induction cs with
  | nil => rfl
  | cons c cs ih =>
    rw [lines]
    split
    next => rw [List.flatten_cons, ih, List.singleton_append]
    next =>
      split
      next noLines =>
        rw [noLines] at ih
        rw [← ih]
        rfl
      next line rest theLines =>
        rw [theLines, List.flatten_cons] at ih
        rw [List.flatten_cons, List.cons_append, ih]

theorem append_of_assigns {line written : List Char} (assigned : assigns line written = true) :
    ∃ rest, line = written ++ rest := by
  rw [assigns] at assigned
  split at assigned
  next rest isPrefix => exact ⟨rest, (List.append_eq_of_isPrefixOf?_eq_some isPrefix).symm⟩
  next => cases assigned

theorem keyInLine?_eq_some {key line : List Char} {position : Nat}
    (found : keyInLine? key line = some position) :
    ∃ before after, line = before ++ key ++ after ∧ position = byteSize before := by
  have whole : line.takeWhile isBlank ++ trimStart line = line := List.takeWhile_append_dropWhile
  have indent : byteSize line - byteSize (trimStart line) = byteSize (line.takeWhile isBlank) := by
    have sizes := byteSize_append (line.takeWhile isBlank) (trimStart line)
    rw [whole] at sizes
    omega
  simp only [keyInLine?, indent] at found
  split at found
  next bare =>
    obtain ⟨rest, trimmed⟩ := append_of_assigns bare
    cases found
    refine ⟨_, rest, ?_, rfl⟩
    rw [List.append_assoc, ← trimmed, whole]
  next =>
    split at found
    next quoted =>
      obtain ⟨rest, trimmed⟩ := append_of_assigns quoted
      cases found
      -- the opening quote belongs to what comes before the key
      refine ⟨line.takeWhile isBlank ++ ['"'], '"' :: rest, ?_, (byteSize_quote _).symm⟩
      calc line = line.takeWhile isBlank ++ trimStart line := whole.symm
        _ = line.takeWhile isBlank ++ ['"'] ++ key ++ '"' :: rest := by
          rw [trimmed, inQuotes]
          simp
    next => cases found

/-- A key that is found in a line stands in the text, at an offset that counts the lines before. -/
theorem keyInLines?_eq_some {key : List Char} {offset position : Nat} {ls : List (List Char)}
    (found : keyInLines? key offset ls = some position) :
    ∃ before after, ls.flatten = before ++ key ++ after ∧ position = offset + byteSize before := by
  induction ls generalizing offset with
  | nil => cases found
  | cons line rest ih =>
    rw [keyInLines?] at found
    split at found
    next inLine here =>
      cases found
      obtain ⟨before, after, rfl, rfl⟩ := keyInLine?_eq_some here
      exact ⟨before, after ++ rest.flatten, by simp, rfl⟩
    next =>
      obtain ⟨before, after, whole, rfl⟩ := ih found
      refine ⟨line ++ before, after, by simp [whole], ?_⟩
      rw [byteSize_append, Nat.add_assoc]

/-- Where a key is found, the text falls into what comes before it, the key and the rest. -/
theorem keySpan_eq_some {src key : String} {span : Span} (found : keySpan src key = some span) :
    ∃ before after, src.toList = before ++ key.toList ++ after ∧
      span = ⟨byteSize before, byteSize key.toList⟩ := by
  obtain ⟨position, inLines, rfl⟩ := Option.map_eq_some_iff.mp found
  obtain ⟨before, after, whole, rfl⟩ := keyInLines?_eq_some inLines
  rw [flatten_lines] at whole
  exact ⟨before, after, whole, by rw [Nat.zero_add]⟩

/-- The search for a value starts between whole characters, with the bytes that are left. -/
theorem slice_of_keySpan {src key : String} {span : Span} (found : keySpan src key = some span) :
    String.Pos.Raw.IsValid src ⟨span.offset + span.length⟩ ∧
      (String.ofList (dropBytes (span.offset + span.length) src.toList)).toUTF8 =
        src.toUTF8.extract (span.offset + span.length) src.utf8ByteSize := by
  obtain ⟨before, after, parts, rfl⟩ := keySpan_eq_some found
  refine ⟨(Span.shows_of_toList parts rfl).stop, ?_⟩
  have whole : src = String.ofList (before ++ key.toList) ++ String.ofList after := by
    rw [← String.ofList_append, ← parts, String.ofList_toList]
  have cut : byteSize before + byteSize key.toList =
      (String.ofList (before ++ key.toList)).utf8ByteSize := by
    rw [utf8ByteSize_ofList, byteSize_append]
  have sliced := extract_append (String.ofList (before ++ key.toList)) (String.ofList after)
  rw [← whole, ← cut] at sliced
  rw [parts, dropBytes_parts, sliced]

/-- Where a value is found, the text falls into what comes before it, the value in quotes and the
rest. -/
theorem valueSpan_eq_some {src key value : String} {span : Span}
    (found : valueSpan src key value = some span) :
    ∃ before after, src.toList = before ++ inQuotes value.toList ++ after ∧
      span = ⟨byteSize before + 1, byteSize value.toList⟩ := by
  obtain ⟨keyAt, keyFound, found⟩ := Option.bind_eq_some_iff.mp found
  obtain ⟨position, valueFound, same⟩ := Option.bind_eq_some_iff.mp found
  obtain ⟨beforeKey, afterKey, whole, rfl⟩ := keySpan_eq_some keyFound
  rw [whole, dropBytes_parts] at valueFound
  obtain ⟨between, after, rfl, rfl⟩ := findBytes_eq_some valueFound
  cases same
  refine ⟨beforeKey ++ key.toList ++ between, after, by simp [whole], ?_⟩
  simp only [byteSize_append]

end QueryModel.Text
