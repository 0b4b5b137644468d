import QueryModel.Text.Case

/-!
# Singular forms

The element type of a list field is named after the singular of the field.
Singular forms follow three tables, in this order.

* Uncountable words have no other form.
* Irregular plurals map to their singular.
* Rules replace endings.  Later rules are more special than earlier ones, so the
  last rule that applies wins.

Rules ignore case.  The long s, which folds to `s`, counts as an `s`, and the
Kelvin sign counts as a `k`.  What a rule keeps keeps its case, what it writes is
in lower case.
-/

namespace QueryModel

open Text

/-- The words with one form. -/
def uncountables : List String :=
  ["equipment", "information", "rice", "money", "species", "series", "fish", "sheep"]

/-- The irregular plurals with their singulars. -/
def irregulars : List (String × String) :=
  [("people", "person"), ("men", "man"), ("geese", "goose"), ("children", "child"),
   ("sexes", "sex"), ("moves", "move")]

/-- The character that a character stands for when case is ignored. -/
def foldChar (c : Char) : Char :=
  if c = '\u017f' then 's' else if c = '\u212a' then 'k' else c.toLower

/-- A condition on one character of a word. -/
inductive CharTest
  /-- This character, in either case. -/
  | is (c : Char)
  /-- Any character but these, in either case. -/
  | noneOf (cs : List Char)
deriving DecidableEq, Repr

/-- Whether a character passes the test. -/
def CharTest.accepts : CharTest → Char → Bool
  | .is c, d => foldChar d == c
  | .noneOf cs, d => !cs.contains (foldChar d)

/-- Whether the characters pass the tests one by one, and none is left over. -/
def acceptsAll : List CharTest → List Char → Bool
  | [], [] => true
  | t :: ts, c :: cs => t.accepts c && acceptsAll ts cs
  | _, _ => false

/-- A rule for the end of a word: after `kept`, the letters `dropped` at the end
of the word become `written`. -/
structure EndingRule where
  /-- What stands before the dropped letters and is kept. -/
  kept : List CharTest
  /-- The letters at the end of the word that the rule takes away. -/
  dropped : List CharTest
  /-- The letters the rule puts there. -/
  written : List Char
  /-- Whether the kept part starts the word. -/
  wholeWord : Bool
  /-- Whether the first kept letter is repeated before the written ones. -/
  repeatsFirst : Bool
deriving DecidableEq, Repr

/-- The word after the rule, if the rule applies. -/
def EndingRule.singular? (r : EndingRule) (word : List Char) : Option (List Char) :=
  let stemSize := word.length - r.dropped.length
  let keptStart := stemSize - r.kept.length
  let kept := (word.take stemSize).drop keptStart
  if (!r.wholeWord || keptStart == 0) && acceptsAll r.kept kept &&
      acceptsAll r.dropped (word.drop stemSize) then
    let echo := if r.repeatsFirst then kept.take 1 else []
    some (word.take stemSize ++ echo ++ r.written)
  else
    none

/-- The tests for the letters of a text. -/
def letters (s : String) : List CharTest := s.toList.map .is

/-- The rule that turns `dropped` into `written` after `kept`. -/
def ending (kept dropped written : String) : EndingRule :=
  { kept := letters kept, dropped := letters dropped, written := written.toList,
    wholeWord := false, repeatsFirst := false }

/-- The rules that turn `dropped` into `written` after any of `kept`. -/
def endings (kept : List String) (dropped written : String) : List EndingRule :=
  kept.map fun k => ending k dropped written

/-- The rule that turns `dropped` into `written` after any character but
those of `excluded`. -/
def endingExcept (excluded dropped written : String) : EndingRule :=
  { ending "" dropped written with kept := [.noneOf excluded.toList] }

/-- A rule for singular forms. -/
inductive SingularRule
  /-- A rule for the end of a word. -/
  | ending (r : EndingRule)
  /-- A word that starts with `kept` and `dropped` loses the latter. -/
  | start (kept dropped : List CharTest)
deriving DecidableEq, Repr

/-- The word after the rule, if the rule applies. -/
def SingularRule.singular? : SingularRule → List Char → Option (List Char)
  | .ending r, word => r.singular? word
  | .start kept dropped, word =>
    let size := kept.length + dropped.length
    if acceptsAll (kept ++ dropped) (word.take size) then
      some (word.take kept.length ++ word.drop size)
    else
      none

/-- The rules, from general to special. -/
def singularRules : List SingularRule :=
  (endings [""] "s" "" ++
    endings ["s", "si", "u"] "s" "s" ++
    endings ["n"] "ews" "ews" ++
    endings ["t", "i"] "a" "um" ++
    [{ ending "analy" "ses" "sis" with repeatsFirst := true }] ++
    endings ["ba", "diagno", "parenthe", "progno", "synop", "the"] "ses" "sis" ++
    [{ ending "analy" "ses" "sis" with wholeWord := true },
      { ending "analy" "sis" "sis" with wholeWord := true },
      endingExcept "f" "ves" "fe"] ++
    endings ["hive", "tive"] "s" "" ++
    endings ["l", "r"] "ves" "f" ++
    [endingExcept "aeiouy" "ies" "y", ending "qu" "ies" "y"] ++
    endings ["s"] "eries" "eries" ++
    endings ["m"] "ovies" "ovie" ++
    endings ["x", "ch", "ss", "sh"] "es" "" ++
    endings ["m", "|", "l"] "ice" "ouse" ++
    endings ["bus", "o"] "es" "" ++
    endings ["shoe"] "s" "" ++
    endings ["cris", "ax", "test"] "is" "is" ++
    endings ["cris", "ax", "test"] "es" "is" ++
    endings ["octop", "vir"] "i" "us" ++
    endings ["octop", "vir"] "us" "us" ++
    endings ["alias", "status"] "es" "" ++
    endings ["alias", "status"] "" "").map .ending ++
  [.start (letters "ox") (letters "en")] ++
  (endings ["vert", "ind"] "ices" "ex" ++
    endings ["matr"] "ices" "ix" ++
    endings ["quiz"] "zes" "").map .ending

/-- The singular of a word by the rules: the last one that applies. -/
def singularByRule (word : List Char) : List Char :=
  (singularRules.reverse.findSome? (·.singular? word)).getD word

/-- The singular of a word. -/
def singularize (word : String) : String :=
  let lowered := String.ofList (lower word.toList)
  if uncountables.contains lowered then
    word
  else
    match irregulars.lookup lowered with
    | some singular => singular
    | none => String.ofList (singularByRule word.toList)

end QueryModel
