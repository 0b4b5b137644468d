import QueryModel.Json.Token

/-!
# Drafts of JSON text

A draft is the tree of a JSON text as far as the text can be read.  Where the
text breaks, the draft has a cut, and nothing after the cut is kept.  A reader
that walks the draft in the order of the text meets a problem of its own before
the cut if the text holds it before the break.  So one draft tells which problem
of a text comes first, whatever the reader looks for.

Arrays and objects record how they close.  A list whose separator is wrong ends
there with a fault.  A fault after a comma is a cut in the place of the item.

`Draft.skip` and `Draft.fault` are the first faults of a value that is skipped or
read whole.  `Draft.limit` bounds the nesting of what is read.  Skipped values
may nest to any depth.
-/

namespace QueryModel.Json

/-- The tree of a text as far as it can be read. -/
inductive Draft
  /-- The null value. -/
  | null
  /-- A Boolean. -/
  | bool (b : Bool)
  /-- A number. -/
  | number (n : Reading Number)
  /-- A text. -/
  | text (s : Reading String)
  /-- An array, and how it closes. -/
  | array (items : List Draft) (closing : Reading Unit)
  /-- An object, and how it closes. -/
  | object (members : List (Reading String × Draft)) (closing : Reading Unit)
  /-- The place where the text breaks.  `first` is the fault for a reader that
  looks at the first character only.  It differs from `whole` where a word is cut
  short. -/
  | cut (first whole : Fault)

instance : Inhabited Draft := ⟨.null⟩

namespace Draft

/-- A break that shows at the first character. -/
def cutAt (fault : Fault) : Draft := .cut fault fault

/-- A closing with a fault. -/
def unclosed (fault : Fault) : Reading Unit := .broken fault fault

/-! ## From tokens -/

/-- A part of a draft and the tokens after it. -/
structure Parsed (α : Type) (bound : Nat) where
  /-- The part. -/
  part : α
  /-- The tokens after it. -/
  rest : List Token
  /-- No tokens are gained. -/
  fits : rest.length ≤ bound

/-- A part at which the text breaks: no tokens follow. -/
def Parsed.last {α : Type} {bound : Nat} (part : α) : Parsed α bound := ⟨part, [], Nat.zero_le _⟩

/-- The items of an array and its closing, or the same for an object. -/
abbrev Contents (α : Type) := List α × Reading Unit

/-- The fault of tokens that lack a separator or a closing bracket. -/
def separatorFault : List Token → Fault
  | [] => .truncated
  | _ => .malformed

mutual

/-- The value at the start of the tokens. -/
def parseValue (ts : List Token) : Parsed Draft ts.length :=
  match ts with
  | [] => .last (cutAt .truncated)
  | .null :: rest => ⟨.null, rest, by simp⟩
  | .bool b :: rest => ⟨.bool b, rest, by simp⟩
  | .number n :: rest => ⟨.number n, rest, by simp⟩
  | .text s :: rest => ⟨.text s, rest, by simp⟩
  | .leftBracket :: rest =>
    let p := parseArray rest
    ⟨.array p.part.1 p.part.2, p.rest, by have := p.fits; simp; omega⟩
  | .leftBrace :: rest =>
    let p := parseObject rest
    ⟨.object p.part.1 p.part.2, p.rest, by have := p.fits; simp; omega⟩
  | .stray fault :: _ => .last (.cut .malformed fault)
  | _ => .last (cutAt .malformed)
termination_by (ts.length, 0)

/-- The contents of an array after its opening bracket. -/
def parseArray (ts : List Token) : Parsed (Contents Draft) ts.length :=
  match ts with
  | [] => .last ([], unclosed .truncated)
  | .rightBracket :: rest => ⟨([], .ok ()), rest, by simp⟩
  | t :: rest => parseItems (t :: rest)
termination_by (ts.length, 2)

/-- One or more items of an array. -/
def parseItems (ts : List Token) : Parsed (Contents Draft) ts.length :=
  let p := parseValue ts
  match h : p.rest with
  | .rightBracket :: rest =>
    ⟨([p.part], .ok ()), rest, by have := p.fits; rw [h] at this; simp at this; omega⟩
  | .comma :: .rightBracket :: _ => .last ([p.part, cutAt .malformed], .ok ())
  | .comma :: rest =>
    have : rest.length < ts.length := by have := p.fits; rw [h] at this; simp at this; omega
    let q := parseItems rest
    ⟨(p.part :: q.part.1, q.part.2), q.rest, by have := q.fits; omega⟩
  | other => .last ([p.part], unclosed (separatorFault other))
termination_by (ts.length, 1)

/-- The contents of an object after its opening brace. -/
def parseObject (ts : List Token) : Parsed (Contents (Reading String × Draft)) ts.length :=
  match ts with
  | [] => .last ([], unclosed .truncated)
  | .rightBrace :: rest => ⟨([], .ok ()), rest, by simp⟩
  | t :: rest => parseMembers (t :: rest)
termination_by (ts.length, 2)

/-- One or more members of an object. -/
def parseMembers (ts : List Token) : Parsed (Contents (Reading String × Draft)) ts.length :=
  match ts with
  | .text key :: .colon :: rest =>
    let p := parseValue rest
    match h : p.rest with
    | .rightBrace :: rest' =>
      ⟨([(key, p.part)], .ok ()), rest',
        by have := p.fits; rw [h] at this; simp at this ⊢; omega⟩
    | .comma :: rest' =>
      have : rest'.length < rest.length := by have := p.fits; rw [h] at this; simp at this; omega
      let q := parseMembers rest'
      ⟨((key, p.part) :: q.part.1, q.part.2), q.rest, by have := q.fits; simp; omega⟩
    | other => .last ([(key, p.part)], unclosed (separatorFault other))
  | .text key :: rest => .last ([(key, cutAt (separatorFault rest))], .ok ())
  | [] => .last ([(.broken .truncated .truncated, cutAt .truncated)], .ok ())
  | _ => .last ([(.broken .malformed .malformed, cutAt .malformed)], .ok ())
termination_by (ts.length, 1)

end

/-- The draft of a text, and whether more than blanks follow the value. -/
def ofText (s : String) : Draft × Bool :=
  let p := parseValue (tokens s.toList)
  (p.part, !p.rest.isEmpty)

/-! ## Faults -/

/-- The fault of a lexeme that is read. -/
def readFault {α : Type} (r : Reading α) : Option Fault :=
  match r.read with
  | .ok _ => none
  | .error fault => some fault

mutual

/-- The first fault of a value that is skipped. -/
def skip : Draft → Option Fault
  | .null => none
  | .bool _ => none
  | .number n => n.skip
  | .text s => s.skip
  | .array items closing => (skipItems items).or closing.skip
  | .object members closing => (skipMembers members).or closing.skip
  | .cut _ whole => some whole

/-- The first fault of skipped items. -/
def skipItems : List Draft → Option Fault
  | [] => none
  | item :: items => item.skip.or (skipItems items)

/-- The first fault of skipped members. -/
def skipMembers : List (Reading String × Draft) → Option Fault
  | [] => none
  | (key, value) :: rest => (key.skip.or value.skip).or (skipMembers rest)

end

mutual

/-- The first fault of a value that is read whole. -/
def fault : Draft → Option Fault
  | .null => none
  | .bool _ => none
  | .number n => readFault n
  | .text s => readFault s
  | .array items closing => (faultItems items).or (readFault closing)
  | .object members closing => (faultMembers members).or (readFault closing)
  | .cut _ whole => some whole

/-- The first fault of items that are read. -/
def faultItems : List Draft → Option Fault
  | [] => none
  | item :: items => item.fault.or (faultItems items)

/-- The first fault of members that are read. -/
def faultMembers : List (Reading String × Draft) → Option Fault
  | [] => none
  | (key, value) :: rest => ((readFault key).or value.fault).or (faultMembers rest)

end

/-! ## Nesting -/

mutual

/-- The draft in which arrays and objects below the given depth cannot be read.
Skipping them is not affected. -/
def limit (depth : Nat) : Draft → Draft
  | .array items closing =>
    match depth with
    | 0 => .array [] (.mk (.error .malformed) ((skipItems items).or closing.skip))
    | d + 1 => .array (limitItems d items) closing
  | .object members closing =>
    match depth with
    | 0 => .object [] (.mk (.error .malformed) ((skipMembers members).or closing.skip))
    | d + 1 => .object (limitMembers d members) closing
  | .null => .null
  | .bool b => .bool b
  | .number n => .number n
  | .text s => .text s
  | .cut first whole => .cut first whole

/-- Limits every item. -/
def limitItems (depth : Nat) : List Draft → List Draft
  | [] => []
  | item :: items => limit depth item :: limitItems depth items

/-- Limits every member. -/
def limitMembers (depth : Nat) : List (Reading String × Draft) → List (Reading String × Draft)
  | [] => []
  | (key, value) :: rest => (key, limit depth value) :: limitMembers depth rest

end

/-- How deep arrays and objects may nest in what is read. -/
def maxDepth : Nat := 127

/-! ## Values -/

mutual

/-- The value of a draft without faults. -/
def value : Draft → Json
  | .null => .null
  | .bool b => .bool b
  | .number n =>
    match n.read with
    | .ok n => .number n
    | .error _ => .null
  | .text s =>
    match s.read with
    | .ok s => .text s
    | .error _ => .null
  | .array items _ => .array (valueItems items)
  | .object members _ => .object (valueMembers members)
  | .cut _ _ => .null

/-- The values of items. -/
def valueItems : List Draft → List Json
  | [] => []
  | item :: items => item.value :: valueItems items

/-- The values of members whose key can be read. -/
def valueMembers : List (Reading String × Draft) → List (String × Json)
  | [] => []
  | (key, value) :: rest =>
    match key.read with
    | .ok key => (key, value.value) :: valueMembers rest
    | .error _ => valueMembers rest

end

end Draft

mutual

/-- A value as the draft of its text. -/
def draft : Json → Draft
  | .null => .null
  | .bool b => .bool b
  | .number n => .number (.ok n)
  | .text s => .text (.ok s)
  | .array items => .array (draftItems items) (.ok ())
  | .object members => .object (draftMembers members) (.ok ())

/-- Values as drafts. -/
def draftItems : List Json → List Draft
  | [] => []
  | item :: items => item.draft :: draftItems items

/-- Members as drafts. -/
def draftMembers : List (String × Json) → List (Reading String × Draft)
  | [] => []
  | (key, value) :: rest => (.ok key, value.draft) :: draftMembers rest

end

/-- The value of a text, or the fault at which the text breaks. -/
def ofText (s : String) : Except Fault Json :=
  let (draft, more) := Draft.ofText s
  match draft.fault with
  | some fault => .error fault
  | none => if more then .error .malformed else .ok draft.value

end QueryModel.Json
