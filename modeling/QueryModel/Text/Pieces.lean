import QueryModel.Text.Blank

/-!
# Cutting text into pieces

Splitting, trimming, joining and measuring, on lists of characters.  Splitting at `n`
separators gives `n + 1` pieces, some of which may be empty.
-/

namespace QueryModel.Text

/-- The pieces of a text between the characters that `isSeparator` accepts. -/
def splitWhere (isSeparator : Char → Bool) : List Char → List (List Char)
  | [] => [[]]
  | c :: cs =>
    if isSeparator c then
      [] :: splitWhere isSeparator cs
    else
      match splitWhere isSeparator cs with
      | [] => [[c]]
      | piece :: pieces => (c :: piece) :: pieces

theorem splitWhere_eq_splitOnP (isSeparator : Char → Bool) (cs : List Char) :
    splitWhere isSeparator cs = cs.splitOnP isSeparator := by
  induction cs with
  | nil => rfl
  | cons c cs ih =>
    rw [splitWhere, List.splitOnP_cons_eq_if_modifyHead, ih]
    split
    · rfl
    · obtain ⟨piece, rest, pieces⟩ :=
        List.exists_cons_of_ne_nil (List.splitOnP_ne_nil isSeparator cs)
      rw [pieces]
      rfl

/-- Cuts a text at its last separator.  The separator belongs to neither half. -/
def splitLast? (separator : Char) : List Char → Option (List Char × List Char)
  | [] => none
  | c :: cs =>
    match splitLast? separator cs with
    | some (before, after) => some (c :: before, after)
    | none => if c = separator then some ([], cs) else none

/-- The text without the characters at its end that `p` accepts. -/
def dropEndWhile (p : Char → Bool) (cs : List Char) : List Char :=
  (cs.reverse.dropWhile p).reverse

/-- The text without white space at its start. -/
def trimStart (cs : List Char) : List Char := cs.dropWhile isBlank

/-- The text without white space at both ends. -/
def trim (cs : List Char) : List Char := dropEndWhile isBlank (trimStart cs)

/-- Texts joined by dots. -/
def dotted (pieces : List String) : String := String.intercalate "." pieces

/-- The number of bytes of a text in UTF-8. -/
def byteSize (cs : List Char) : Nat := cs.foldr (fun c size => c.utf8Size + size) 0

/-- Whether a text ends with another. -/
def endsWith (s suffix : String) : Bool := suffix.toList.isSuffixOf s.toList

end QueryModel.Text
