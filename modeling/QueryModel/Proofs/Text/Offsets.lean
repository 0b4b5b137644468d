import Mathlib.Data.List.Basic
import QueryModel.Proofs.Text.Positions

/-!
# Lines and columns

`byteOffset` adds up the sizes of lines, and lines are made of characters.  Here the same is said
with bytes alone: a line starts behind as many line feeds as there are lines before it
(`lineStart`), and a byte stands in the line that the line feeds before it count (`lineAt`).  The
two meet because no other character has the byte of a line feed in it
(`lineFeed_notMem_utf8EncodeChar`), so a count of line feeds is right in the middle of a character
too.

From there on only positions are compared.  Every byte is found by its line and its column, and a
line and a column are refused exactly when they lead behind the end (`byteOffset_exact`).
-/

namespace QueryModel.Text

/-! ## Bytes -/

/-- The bytes of a text in UTF-8. -/
def bytes (src : String) : List UInt8 := src.toUTF8.data.toList

/-- The byte that ends a line. -/
def lineFeed : UInt8 := 10

/-- The number of bytes up to and with the `n`-th line feed, or of all bytes if there are fewer line
feeds. -/
def startAfter : Nat → List UInt8 → Nat
  | 0, _ => 0
  | _ + 1, [] => 0
  | n + 1, b :: bs => (if b = lineFeed then startAfter n bs else startAfter (n + 1) bs) + 1

/-- Where a line starts.  Lines are counted from one. -/
def lineStart (src : String) (line : Nat) : Nat := startAfter (line - 1) (bytes src)

/-- The line of the byte at a position. -/
def lineAt (src : String) (position : Nat) : Nat := 1 + ((bytes src).take position).count lineFeed

/-- The column of the byte at a position.  Columns are counted from one. -/
def columnAt (src : String) (position : Nat) : Nat :=
  1 + (position - lineStart src (lineAt src position))

theorem bytes_eq_flatMap (src : String) : bytes src = src.toList.flatMap String.utf8EncodeChar := by
  have encoded : src.toByteArray = src.toList.utf8Encode := by
    rw [← String.toByteArray_ofList, String.ofList_toList]
  rw [bytes, String.toUTF8_eq_toByteArray, encoded, List.utf8Encode, List.toList_data_toByteArray]

theorem length_bytes (src : String) : (bytes src).length = src.utf8ByteSize := by
  rw [bytes, String.toUTF8_eq_toByteArray, Array.length_toList]
  exact src.size_toByteArray

theorem lineFeed_ne_ofNat {n : Nat} (small : n < 256) (other : n ≠ 10) :
    lineFeed ≠ UInt8.ofNat n := by
  intro same
  have value := congrArg UInt8.toNat same
  rw [UInt8.toNat_ofNat_of_lt' small] at value
  exact other value.symm

/-- Only the line feed itself is written with its byte.  The bytes of a character of several bytes
are 128 or more. -/
theorem lineFeed_notMem_utf8EncodeChar {c : Char} (other : c ≠ '\n') :
    lineFeed ∉ String.utf8EncodeChar c := by
  have value : c.val.toNat ≠ 10 := fun same => other (Char.toNat_inj.mp same)
  rw [String.utf8EncodeChar]
  simp only [apply_ite (lineFeed ∈ ·), List.mem_cons, List.not_mem_nil, or_false]
  split
  next single => exact lineFeed_ne_ofNat (by omega) value
  next =>
    have continues (n : Nat) : lineFeed ≠ UInt8.ofNat (n % 64 + 128) :=
      lineFeed_ne_ofNat (by omega) (by omega)
    split
    next => exact not_or_intro (lineFeed_ne_ofNat (by omega) (by omega)) (continues _)
    next =>
      split
      next =>
        exact not_or_intro (lineFeed_ne_ofNat (by omega) (by omega))
          (not_or_intro (continues _) (continues _))
      next =>
        exact not_or_intro (lineFeed_ne_ofNat (by omega) (by omega))
          (not_or_intro (continues _) (not_or_intro (continues _) (continues _)))

theorem startAfter_append {part : List UInt8} (noFeed : lineFeed ∉ part) (n : Nat)
    (rest : List UInt8) :
    startAfter (n + 1) (part ++ rest) = part.length + startAfter (n + 1) rest := by
  induction part with
  | nil => exact (Nat.zero_add _).symm
  | cons b bs ih =>
    obtain ⟨notHere, notLater⟩ := not_or.mp (mt List.mem_cons.mpr noFeed)
    rw [List.cons_append, startAfter, if_neg (Ne.symm notHere), ih notLater, List.length_cons]
    omega

/-- A byte stands in or behind the line that the line feeds before it lead to. -/
theorem startAfter_count_take_le (bs : List UInt8) (position : Nat) :
    startAfter ((bs.take position).count lineFeed) bs ≤ position := by
  induction bs generalizing position with
  | nil => simp [startAfter]
  | cons b bs ih =>
    cases position with
    | zero => exact Nat.le_refl 0
    | succ position =>
      rw [List.take_succ_cons]
      by_cases feed : b = lineFeed
      · rw [feed, List.count_cons_self, startAfter, if_pos rfl]
        exact Nat.succ_le_succ (ih position)
      · rw [List.count_cons_of_ne feed]
        have later := ih position
        -- without a line feed before the position, its line starts at zero
        cases counted : (bs.take position).count lineFeed with
        | zero => exact Nat.zero_le _
        | succ n =>
          rw [counted] at later
          rw [startAfter, if_neg feed]
          exact Nat.succ_le_succ later

theorem startAfter_of_count_lt {bs : List UInt8} {n : Nat} (few : bs.count lineFeed < n) :
    startAfter n bs = bs.length := by
  induction bs generalizing n with
  | nil => cases n <;> rfl
  | cons b bs ih =>
    obtain ⟨n, rfl⟩ : ∃ m, n = m + 1 := Nat.exists_eq_succ_of_ne_zero (by omega)
    rw [startAfter, List.length_cons]
    split
    next feed =>
      rw [feed, List.count_cons_self] at few
      rw [ih (Nat.lt_of_succ_lt_succ few)]
    next other =>
      rw [List.count_cons_of_ne other] at few
      rw [ih few]

/-! ## Lines of characters -/

/-- The first lines of a text start with its first character, and one line less is left to take if
that is a line feed. -/
theorem flatten_take_lines_cons (c : Char) (cs : List Char) (n : Nat) :
    ((lines (c :: cs)).take (n + 1)).flatten =
      c :: if c = '\n' then ((lines cs).take n).flatten else ((lines cs).take (n + 1)).flatten := by
  rw [lines]
  split
  next => rfl
  next =>
    cases lines cs with
    | nil => simp
    | cons line rest => rfl

theorem byteSize_take_lines (cs : List Char) (n : Nat) :
    byteSize ((lines cs).take n).flatten = startAfter n (cs.flatMap String.utf8EncodeChar) := by
  induction cs generalizing n with
  | nil => cases n <;> rfl
  | cons c cs ih =>
    cases n with
    | zero => rw [startAfter, List.take_zero, List.flatten_nil, byteSize, List.foldr_nil]
    | succ n =>
      rw [flatten_take_lines_cons, byteSize_cons, List.flatMap_cons]
      split
      next feed =>
        subst feed
        rw [ih]
        exact Nat.add_comm _ _
      next other =>
        rw [ih, startAfter_append (lineFeed_notMem_utf8EncodeChar other),
          String.length_utf8EncodeChar]

/-! ## Offsets -/

theorem byteOffset_eq (src : String) (line column : Nat) :
    byteOffset src line column =
      if line = 0 ∨ src.utf8ByteSize < lineStart src line + (column - 1) then none
      else some (min (lineStart src line + (column - 1)) (src.utf8ByteSize - 1)) := by
  have start : byteSize ((lines src.toList).take (line - 1)).flatten = lineStart src line := by
    rw [byteSize_take_lines, lineStart, bytes_eq_flatMap]
  simp only [byteOffset, start, ← utf8ByteSize_eq]
  by_cases noLine : line = 0
  · simp [noLine]
  · by_cases inside : lineStart src line + (column - 1) ≤ src.utf8ByteSize
    · simp [noLine, inside, Nat.not_lt.mpr inside]
    · simp [noLine, inside, Nat.lt_of_not_le inside]

theorem lineStart_lineAt_le (src : String) (position : Nat) :
    lineStart src (lineAt src position) ≤ position := by
  rw [lineStart, lineAt, Nat.add_sub_cancel_left]
  exact startAfter_count_take_le (bytes src) position

theorem byteOffset_lineAt {src : String} {position : Nat} (inside : position < src.utf8ByteSize) :
    byteOffset src (lineAt src position) (columnAt src position) = some position := by
  have started := lineStart_lineAt_le src position
  have line : lineAt src position ≠ 0 := by
    rw [lineAt]
    omega
  have there : lineStart src (lineAt src position) + (columnAt src position - 1) = position := by
    rw [columnAt]
    omega
  rw [byteOffset_eq, there, if_neg (by omega), Nat.min_eq_left (by omega)]

theorem lt_of_byteOffset_eq_some {src : String} {line column offset : Nat}
    (found : byteOffset src line column = some offset) :
    offset < src.utf8ByteSize ∨ src = "" ∧ offset = 0 := by
  rw [byteOffset_eq] at found
  split at found
  next => cases found
  next =>
    cases found
    rcases Nat.eq_zero_or_pos src.utf8ByteSize with noBytes | someBytes
    · exact .inr ⟨String.utf8ByteSize_eq_zero_iff.mp noBytes, by omega⟩
    · exact .inl (by omega)

theorem byteOffset_eq_none_iff {src : String} {line column : Nat} :
    byteOffset src line column = none ↔
      line = 0 ∨ src.utf8ByteSize < lineStart src line + (max column 1 - 1) := by
  have columns : max column 1 - 1 = column - 1 := by omega
  rw [byteOffset_eq, columns]
  split
  next refused => exact iff_of_true rfl refused
  next accepted => exact iff_of_false (by simp) accepted

/-- Every byte of a text is found by its line and its column.  Whatever is found lies in the text,
and is zero if the text is empty.  Nothing is found exactly for line zero and for columns that lead
behind the end of the text, where column zero counts as column one and lines past the last start at
the end. -/
theorem byteOffset_exact (src : String) :
    (∀ position < src.utf8ByteSize,
      lineStart src (lineAt src position) ≤ position ∧
        byteOffset src (lineAt src position) (columnAt src position) = some position) ∧
    (∀ line column offset, byteOffset src line column = some offset →
      offset < src.utf8ByteSize ∨ src = "" ∧ offset = 0) ∧
    (∀ line column, byteOffset src line column = none ↔
      line = 0 ∨ src.utf8ByteSize < lineStart src line + (max column 1 - 1)) ∧
    ∀ line, (bytes src).count lineFeed + 1 < line → lineStart src line = src.utf8ByteSize := by
  refine ⟨fun position inside => ?_, fun _ _ _ => lt_of_byteOffset_eq_some,
    fun _ _ => byteOffset_eq_none_iff, fun line past => ?_⟩
  · exact ⟨lineStart_lineAt_le src position, byteOffset_lineAt inside⟩
  · rw [lineStart, startAfter_of_count_lt (by omega), length_bytes]

/-- A byte in the middle of a character, the end of the text, and a line past the last. -/
theorem byteOffset_exact_secondLine :
    byteOffset "ä\n€x" 2 2 = some 4 ∧ byteOffset "ä\n€x" 2 5 = some 6 ∧
      byteOffset "ä\n€x" 2 6 = none ∧ lineStart "ä\n€x" 9 = 7 ∧
      byteOffset "ä\n€x" 9 0 = some 6 := by
  obtain ⟨inverts, -, refuses, past⟩ := byteOffset_exact "ä\n€x"
  have line : lineAt "ä\n€x" 4 = 2 := by decide +kernel
  have column : columnAt "ä\n€x" 4 = 2 := by decide +kernel
  have found := (inverts 4 (by decide +kernel)).2
  rw [line, column] at found
  refine ⟨found, by decide +kernel, (refuses 2 6).mpr (by decide +kernel), ?_, by decide +kernel⟩
  exact past 9 (by decide +kernel)

end QueryModel.Text
