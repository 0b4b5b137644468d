import QueryModel.Proofs.Json.Values

/-!
# From texts to drafts

The parser turns tokens into a draft and what follows it.  `Parsed.Gives` states the outcome, and
there is one lemma for each way to go on: an item or a member is the last one, or a comma and
another one follow.  So the tokens of a value are parsed as the draft of the value, whatever
follows them (`Json.parses`).

The reader looks no deeper than a limit.  A draft that nests no deeper is read as it is.
-/

namespace QueryModel.Json

/-! ## Parsing -/

namespace Draft

/-- A part was parsed, and some tokens follow it. -/
def Parsed.Gives {α : Type} {bound : Nat} (p : Parsed α bound) (part : α)
    (rest : List Token) : Prop := p.part = part ∧ p.rest = rest

variable {ts rest : List Token} {d : Draft} {key : Reading String}

theorem parseValue_number (n : Reading Number) :
    (parseValue (.number n :: rest)).Gives (.number n) rest := by
  rw [parseValue]
  exact ⟨rfl, rfl⟩

theorem parseValue_text (s : Reading String) :
    (parseValue (.text s :: rest)).Gives (.text s) rest := by
  rw [parseValue]
  exact ⟨rfl, rfl⟩

/-- A value before a closing bracket is the last item. -/
theorem parseItems_last (first : (parseValue ts).Gives d (.rightBracket :: rest)) :
    (parseItems ts).Gives ([d], .ok ()) rest := by
  obtain ⟨rfl, follows⟩ := first
  rw [parseItems]
  split
  next h =>
    cases h.symm.trans follows
    exact ⟨rfl, rfl⟩
  all_goals exact absurd follows (by simp_all)

/-- A value before a comma is followed by other items.  A bracket right after the comma is excluded,
since the parser would report it there. -/
theorem parseItems_next {t : Token} {more : List Draft} {closing : Reading Unit}
    (first : (parseValue ts).Gives d (.comma :: t :: rest)) (another : t ≠ .rightBracket)
    {after : List Token} (others : (parseItems (t :: rest)).Gives (more, closing) after) :
    (parseItems ts).Gives (d :: more, closing) after := by
  obtain ⟨rfl, follows⟩ := first
  obtain ⟨part, after⟩ := others
  rw [parseItems]
  split
  next h => exact absurd follows (by simp_all)
  next h => exact absurd follows (by simp_all)
  next h =>
    cases h.symm.trans follows
    exact ⟨congrArg (fun q => ((parseValue ts).part :: q.1, q.2)) part, after⟩
  next => exact absurd follows (by simp_all)

/-- A member before a closing brace is the last one. -/
theorem parseMembers_last (first : (parseValue ts).Gives d (.rightBrace :: rest)) :
    (parseMembers (.text key :: .colon :: ts)).Gives ([(key, d)], .ok ()) rest := by
  obtain ⟨rfl, follows⟩ := first
  rw [parseMembers]
  split
  next h =>
    cases h.symm.trans follows
    exact ⟨rfl, rfl⟩
  all_goals exact absurd follows (by simp_all)

/-- A member before a comma is followed by other members. -/
theorem parseMembers_next {more : List (Reading String × Draft)} {closing : Reading Unit}
    (first : (parseValue ts).Gives d (.comma :: rest)) {after : List Token}
    (others : (parseMembers rest).Gives (more, closing) after) :
    (parseMembers (.text key :: .colon :: ts)).Gives ((key, d) :: more, closing) after := by
  obtain ⟨rfl, follows⟩ := first
  obtain ⟨part, after⟩ := others
  rw [parseMembers]
  split
  next h => exact absurd follows (by simp_all)
  next h =>
    cases h.symm.trans follows
    exact ⟨congrArg (fun q => ((key, (parseValue ts).part) :: q.1, q.2)) part, after⟩
  next => exact absurd follows (by simp_all)

theorem parseArray_empty : (parseArray (.rightBracket :: rest)).Gives ([], .ok ()) rest := by
  rw [parseArray]
  exact ⟨rfl, rfl⟩

/-- An array that does not close at once is parsed as its items. -/
theorem parseArray_items {t : Token} {contents : Contents Draft} {after : List Token}
    (another : t ≠ .rightBracket) (parsed : (parseItems (t :: rest)).Gives contents after) :
    (parseArray (t :: rest)).Gives contents after := by
  rw [parseArray]
  · exact parsed
  · exact fun same => another same

theorem parseValue_array {items : List Draft} {closing : Reading Unit}
    (parsed : (parseArray ts).Gives (items, closing) rest) :
    (parseValue (.leftBracket :: ts)).Gives (.array items closing) rest := by
  obtain ⟨part, rfl⟩ := parsed
  rw [parseValue]
  exact ⟨congrArg (fun q => Draft.array q.1 q.2) part, rfl⟩

theorem parseObject_empty : (parseObject (.rightBrace :: rest)).Gives ([], .ok ()) rest := by
  rw [parseObject]
  exact ⟨rfl, rfl⟩

theorem parseObject_members {contents : Contents (Reading String × Draft)} {after : List Token}
    (parsed : (parseMembers (.text key :: rest)).Gives contents after) :
    (parseObject (.text key :: rest)).Gives contents after := by
  rw [parseObject]
  · exact parsed
  · simp

theorem parseValue_object {members : List (Reading String × Draft)} {closing : Reading Unit}
    (parsed : (parseObject ts).Gives (members, closing) rest) :
    (parseValue (.leftBrace :: ts)).Gives (.object members closing) rest := by
  obtain ⟨part, rfl⟩ := parsed
  rw [parseValue]
  exact ⟨congrArg (fun q => Draft.object q.1 q.2) part, rfl⟩

end Draft

/-! ## Tokens of values -/

/-- Pieces with commas between them. -/
def separated : List (List Token) → List Token
  | [] => []
  | [piece] => piece
  | piece :: next :: pieces => piece ++ .comma :: separated (next :: pieces)

mutual

/-- The tokens of a value. -/
def lexemes : Json → List Token
  | .null => [.null]
  | .bool b => [.bool b]
  | .number n => [.number (.ok n)]
  | .text s => [.text (.ok s)]
  | .array items => .leftBracket :: (separated (itemLexemes items) ++ [.rightBracket])
  | .object members => .leftBrace :: (separated (memberLexemes members) ++ [.rightBrace])

def itemLexemes : List Json → List (List Token)
  | [] => []
  | item :: items => item.lexemes :: itemLexemes items

def memberLexemes : List (String × Json) → List (List Token)
  | [] => []
  | (key, value) :: rest => (.text (.ok key) :: .colon :: value.lexemes) :: memberLexemes rest

end

/-- The first token of the first piece comes first. -/
theorem separated_first (t : Token) (ts : List Token) (pieces : List (List Token)) :
    ∃ rest, separated ((t :: ts) :: pieces) = t :: rest := by
  cases pieces with
  | nil => exact ⟨_, rfl⟩
  | cons next pieces => exact ⟨_, rfl⟩

/-- No value starts with a closing bracket. -/
theorem itemLexemes_first (item : Json) (items : List Json) :
    ∃ t rest, separated (itemLexemes (item :: items)) = t :: rest ∧ t ≠ .rightBracket := by
  have first : ∃ t ts, item.lexemes = t :: ts ∧ t ≠ .rightBracket := by
    cases item <;> exact ⟨_, _, rfl, by simp⟩
  obtain ⟨t, ts, starts, another⟩ := first
  obtain ⟨rest, same⟩ := separated_first t ts (itemLexemes items)
  exact ⟨t, rest, by rw [itemLexemes, starts, same], another⟩

/-- The tokens of a value are parsed as the draft of the value, whatever follows. -/
def Parses (j : Json) : Prop :=
  ∀ rest, (Draft.parseValue (j.lexemes ++ rest)).Gives j.draft rest

/-- The lexemes of items up to the closing bracket are parsed as the drafts of the items. -/
theorem gives_items {item : Json} {items : List Json} {r : List Token}
    (each : ∀ i ∈ item :: items, Parses i) :
    (Draft.parseItems (separated (itemLexemes (item :: items)) ++ .rightBracket :: r)).Gives
      (draftItems (item :: items), .ok ()) r := by
  induction items generalizing item with
  | nil => exact Draft.parseItems_last (each item List.mem_cons_self _)
  | cons next items ih =>
    -- after a comma the parser looks for a closing bracket, which no value starts with
    obtain ⟨first, others⟩ := List.forall_mem_cons.mp each
    obtain ⟨t, ts, starts, another⟩ := itemLexemes_first next items
    have onward := ih others
    rw [starts] at onward
    rw [itemLexemes, itemLexemes, separated, ← itemLexemes, starts, List.append_assoc]
    exact Draft.parseItems_next (first _) another onward

/-- The lexemes of members up to the closing brace are parsed as the drafts of the members. -/
theorem gives_members {key : String} {value : Json} {members : List (String × Json)}
    {r : List Token} (each : ∀ m ∈ (key, value) :: members, Parses m.2) :
    (Draft.parseMembers (separated (memberLexemes ((key, value) :: members)) ++
      .rightBrace :: r)).Gives (draftMembers ((key, value) :: members), .ok ()) r := by
  induction members generalizing key value with
  | nil => exact Draft.parseMembers_last (each (key, value) List.mem_cons_self _)
  | cons next members ih =>
    obtain ⟨nextKey, nextValue⟩ := next
    obtain ⟨first, others⟩ := List.forall_mem_cons.mp each
    rw [memberLexemes, memberLexemes, separated, ← memberLexemes, List.append_assoc]
    exact Draft.parseMembers_next (first _) (ih others)

/-- Every value is parsed back from its lexemes. -/
theorem parses (j : Json) : j.Parses := by
  induction j using inductionOn with
  | null =>
    intro rest
    rw [lexemes, List.singleton_append, Draft.parseValue]
    exact ⟨rfl, rfl⟩
  | bool b =>
    intro rest
    rw [lexemes, List.singleton_append, Draft.parseValue]
    exact ⟨rfl, rfl⟩
  | number n => exact fun _ => Draft.parseValue_number _
  | text s => exact fun _ => Draft.parseValue_text _
  | array items ih =>
    intro rest
    rw [lexemes, List.cons_append, List.append_assoc, List.singleton_append]
    refine Draft.parseValue_array ?_
    cases items with
    | nil => exact Draft.parseArray_empty
    | cons item items =>
      have parsed := gives_items (r := rest) ih
      obtain ⟨t, ts, starts, another⟩ := itemLexemes_first item items
      rw [starts] at parsed ⊢
      exact Draft.parseArray_items another parsed
  | object members ih =>
    intro rest
    rw [lexemes, List.cons_append, List.append_assoc, List.singleton_append]
    refine Draft.parseValue_object ?_
    cases members with
    | nil => exact Draft.parseObject_empty
    | cons m members =>
      obtain ⟨key, value⟩ := m
      have parsed := gives_members (r := rest) ih
      obtain ⟨ts, starts⟩ := separated_first _ _ (memberLexemes members)
      rw [memberLexemes, starts] at parsed ⊢
      exact Draft.parseObject_members parsed

/-- A text with the tokens of a value has the draft of the value. -/
theorem ofText_lexemes {s : String} {j : Json} (same : tokens s.toList = j.lexemes) :
    Draft.ofText s = (j.draft, false) := by
  obtain ⟨part, rest⟩ := j.parses []
  rw [List.append_nil] at part rest
  rw [Draft.ofText, same, part, rest]
  rfl

/-! ## Nesting -/

namespace Draft

mutual

/-- How deep arrays and objects nest. -/
def nesting : Draft → Nat
  | .array items _ => 1 + nestingItems items
  | .object members _ => 1 + nestingMembers members
  | .null => 0
  | .bool _ => 0
  | .number _ => 0
  | .text _ => 0
  | .cut _ _ => 0

def nestingItems : List Draft → Nat
  | [] => 0
  | item :: items => Nat.max item.nesting (nestingItems items)

def nestingMembers : List (Reading String × Draft) → Nat
  | [] => 0
  | (_, value) :: rest => Nat.max value.nesting (nestingMembers rest)

end

mutual

/-- The depth limit cuts nothing off a draft that nests no deeper. -/
theorem limit_eq_self : (d : Draft) → (depth : Nat) → d.nesting ≤ depth → d.limit depth = d
  | .array items closing, 0, shallow => by simp [nesting] at shallow
  | .array items closing, depth + 1, shallow => by
    rw [limit, limitItems_eq_self items depth (by rw [nesting] at shallow; omega)]
  | .object members closing, 0, shallow => by simp [nesting] at shallow
  | .object members closing, depth + 1, shallow => by
    rw [limit, limitMembers_eq_self members depth (by rw [nesting] at shallow; omega)]
  | .null, _, _ => rfl
  | .bool _, _, _ => rfl
  | .number _, _, _ => rfl
  | .text _, _, _ => rfl
  | .cut _ _, _, _ => rfl

theorem limitItems_eq_self : (items : List Draft) → (depth : Nat) → nestingItems items ≤ depth →
    limitItems depth items = items
  | [], _, _ => rfl
  | item :: items, depth, shallow => by
    obtain ⟨first, others⟩ := Nat.max_le.mp shallow
    rw [limitItems, limit_eq_self item depth first, limitItems_eq_self items depth others]

theorem limitMembers_eq_self : (members : List (Reading String × Draft)) → (depth : Nat) →
    nestingMembers members ≤ depth → limitMembers depth members = members
  | [], _, _ => rfl
  | (key, value) :: rest, depth, shallow => by
    obtain ⟨first, others⟩ := Nat.max_le.mp shallow
    rw [limitMembers, limit_eq_self value depth first, limitMembers_eq_self rest depth others]

end

end Draft

end QueryModel.Json
