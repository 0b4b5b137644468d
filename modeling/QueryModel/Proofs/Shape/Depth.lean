import QueryModel.Build.Operation

/-!
# Building to a depth

Flattening ends because the chain grows, and nesting ends because names are taken.
Both recursions are cut here at a depth, which makes them structural.  What happens
at the cut is a parameter (`Cut`).

At a depth that suffices the cut is never met, whatever it is: `flattenWithin_eq`
counts the fragments off the chain, and `shapeWithin_eq` counts the free names.  An
error at the cut would be the result of the whole run, so a run that is the same for
every cut goes no deeper.  `depth_bounded` states the bounds for all that is built
from selections.

The cut forms can also be evaluated.  `exists_shape` uses this to show that a shape is
built for a given selection.
-/

namespace QueryModel

/-- What happens where a run would go deeper than it may. -/
structure Cut where
  /-- In place of flattening a selection. -/
  level : List String → Selection → Build Level := fun _ _ => .ok {}
  /-- In place of building a shape. -/
  shape : Context → String → Selection → Build Shape := fun c name _ => .error (c.taken name)

/-! ## Flattening -/

/-- What spreads contribute in order, where `expand` says what each of them does. -/
def gather (expand : String → Build Level) : List String → Build Level
  | [] => .ok {}
  | spread :: rest => do
    let first ← expand spread
    let later ← gather expand rest
    return first ++ later

namespace Settings

/-- What one spread contributes, where `flatten` is used for its fragment. -/
def expand (s : Settings) (path : String) (chain : List String)
    (flatten : List String → Selection → Build Level) (spread : String) : Build Level :=
  if chain.contains spread = false then
    match s.fragment? spread with
    | none => .error (.unknownFragment spread path)
    | some f => flatten (spread :: chain) f.selection
  else .ok {}

/-- The level of a selection when flattening nests no deeper than a depth. -/
def flattenWithin (s : Settings) (path : String) (cut : Cut) :
    Nat → List String → Selection → Build Level
  | 0, chain, sel => cut.level chain sel
  | depth + 1, chain, sel => do
    return sel.level ++
      (← gather (s.expand path chain (s.flattenWithin path cut depth)) sel.spreads)

/-- Expansions nest no deeper than there are fragments off the chain. -/
theorem gather_expand_eq {s : Settings} {path : String} {cut : Cut} {depth : Nat}
    {chain spreads : List String} (enough : s.unexpanded chain ≤ depth) :
    gather (s.expand path chain (s.flattenWithin path cut depth)) spreads =
      s.contributions path chain spreads := by
  fun_induction Settings.contributions s path chain spreads generalizing depth with
  | case1 => rfl
  | case2 chain spread rest fresh missing =>
    rw [gather, expand, if_pos fresh, missing]
    rfl
  | case3 chain spread rest fresh f found fewer ihInner ihLater =>
    rw [gather, expand, if_pos fresh, found, ihLater enough]
    -- the chain is longer inside, so one level of depth less suffices there
    obtain ⟨below, rfl⟩ := Nat.exists_eq_add_one_of_ne_zero (n := depth) (by omega)
    have fits : s.unexpanded (spread :: chain) ≤ below := by omega
    have inside := ihInner fits
    simp only [flattenWithin]
    rw [show f.selection.spreads = f.fragmentSpreads from rfl, inside]
    cases s.contributions path (spread :: chain) f.fragmentSpreads with
    | error e => rfl
    | ok inner => rfl
  | case4 chain spread rest known ih =>
    rw [gather, expand, if_neg known, ih enough]
    cases s.contributions path chain rest with
    | error e => rfl
    | ok level => rfl

end Settings

namespace Context

theorem flattenWithin_eq (c : Context) (cut : Cut) (chain : List String) (sel : Selection) :
    c.settings.flattenWithin c.pathText cut (1 + c.settings.unexpanded chain) chain sel =
      c.flatten chain sel := by
  rw [Nat.add_comm, Settings.flattenWithin, Settings.gather_expand_eq (Nat.le_refl _), flatten]

/-! ## Shapes -/

/-- The shape of a selection, as far as shapes nest to a depth. -/
def shapeWithin (c : Context) (chain : List String) (name : String) (sel : Selection)
    (depth : Nat) (cut : Cut := {}) : Build Shape :=
  match depth with
  | 0 => cut.shape c name sel
  | depth + 1 => do
    let level ←
      c.settings.flattenWithin c.pathText cut (1 + c.settings.unexpanded chain) chain sel
    let inner := c.reserve name
    let fields ← inner.fieldMembers [] (mergeFields level.fields) fun m _ _ =>
      (inner.push m.first.responseName).shapeWithin chain m.shapeName m.nested depth cut
    let members ← inner.inlineMembers fields level.inlines fun i _ _ =>
      (inner.push i.shapeName).shapeWithin chain i.shapeName i.selection depth cut
    return .ofMembers c.settings name members

/-- Shapes nest no deeper than there are free names. -/
theorem shapeWithin_eq {c : Context} {chain : List String} {name : String} {sel : Selection}
    {depth : Nat} {cut : Cut} (enough : c.freeNames name sel < depth) :
    c.shapeWithin chain name sel depth cut = c.shape chain name sel := by
  induction depth generalizing c name sel with
  | zero => cases enough
  | succ depth ih =>
    rw [shape_eq, shapeWithin, flattenWithin_eq]
    cases flattened : c.flatten chain sel with
    | error e => rfl
    | ok level =>
      have sameFields : (fun (m : MergedField) (_ : m ∈ mergeFields level.fields)
          (_ : (c.reserve name).isReserved m.shapeName = false) =>
          ((c.reserve name).push m.first.responseName).shapeWithin chain m.shapeName m.nested
            depth cut) = fun m _ _ =>
          ((c.reserve name).push m.first.responseName).shape chain m.shapeName m.nested := by
        funext m membership free
        have := freeNames_field_lt flattened membership free
        exact ih (by omega)
      have sameInlines : (fun (i : InlineFragment) (_ : i ∈ level.inlines)
          (_ : (c.reserve name).isReserved i.shapeName = false) =>
          ((c.reserve name).push i.shapeName).shapeWithin chain i.shapeName i.selection
            depth cut) = fun i _ _ =>
          ((c.reserve name).push i.shapeName).shape chain i.shapeName i.selection := by
        funext i membership free
        have := freeNames_inline_lt flattened membership free
        exact ih (by omega)
      show (Context.fieldMembers _ _ _ _ >>= _) = (Context.fieldMembers _ _ _ _ >>= _)
      rw [sameFields, sameInlines]

theorem exists_shape {c : Context} {chain : List String} {name : String} {sel : Selection}
    {depth : Nat} (enough : c.freeNames name sel < depth)
    (made : (c.shapeWithin chain name sel depth).isOk = true) :
    ∃ shape, c.shape chain name sel = .ok shape := by
  rw [← shapeWithin_eq enough]
  exact Build.isOk_iff.mp made

/-- A shape that can be evaluated within some depth is built and passes the checks that the
evaluated one passes. -/
theorem exists_shape_passing {c : Context} {name : String} {sel : Selection} {depth : Nat}
    (chain : List String) (check : Shape → Bool) (enough : c.freeNames name sel < depth)
    (passes : (c.shapeWithin chain name sel depth).toOption.any check = true) :
    ∃ shape, c.shape chain name sel = .ok shape ∧ check shape = true := by
  rw [shapeWithin_eq enough] at passes
  cases built : c.shape chain name sel with
  | error e =>
    rw [built] at passes
    cases passes
  | ok shape =>
    rw [built] at passes
    exact ⟨shape, rfl, passes⟩

/-- An operation has a type when all its parts can be evaluated. -/
theorem exists_operationType {c : Context} {o : Operation} {kind : OperationKind} (name : String)
    {depth : Nat} (ofKind : OperationKind.ofWord? o.operationType = some kind)
    (named : operationTypeName o.operationName o.filePath kind c.settings.semanticNames = name)
    (packaged : (c.settings.operationPackage o).isOk = true)
    (documented : (c.settings.operationDocument o).isOk = true)
    (typed : ((c.reserve name).variablesType? o.parameters).isOk = true)
    (enough : (c.reserve name).freeNames dataTypeName ⟨o.fields, [], []⟩ < depth)
    (made : ((c.reserve name).shapeWithin [] dataTypeName ⟨o.fields, [], []⟩ depth).isOk = true) :
    ∃ type, c.operationType o = .ok type := by
  subst named
  obtain ⟨package, packaged⟩ := Build.isOk_iff.mp packaged
  obtain ⟨document, documented⟩ := Build.isOk_iff.mp documented
  obtain ⟨parameters, typed⟩ := Build.isOk_iff.mp typed
  obtain ⟨data, built⟩ := exists_shape enough made
  exact ⟨_, operationType_eq_ok.mpr
    ⟨kind, package, document, parameters, data, ofKind, packaged, documented, typed, built, rfl⟩⟩

end Context

/-! ## A sample

The later modules look at the shape of one selection, which declares a field twice
and spreads a fragment that spreads itself. -/

/-- A field without a selection. -/
def Field.leaf (name typeName : String) : Field :=
  { responseName := name, fieldName := name, typeName, description := none, isDeprecated := none,
    deprecationReason := none, fields := none, fragmentSpreads := none, inlineFragments := none,
    conditions := none }

/-- A field with fields below it. -/
def Field.holding (name typeName : String) (fields : List Field) : Field :=
  { leaf name typeName with fields := some fields }

namespace Sample

/-- A fragment that spreads itself. -/
def fragment : Fragment :=
  { fragmentName := "Entity", source := "", typeCondition := "Node", possibleTypes := []
    fields := [.leaf "id" "ID!"], fragmentSpreads := ["Entity"]
    inlineFragments := [⟨"Droid", none, [.leaf "model" "String"], none⟩]
    fragmentsReferenced := [], filePath := none }

def context : Context :=
  { settings := .ofConfig {} { fragments := [fragment] } "", reserved := ["HeroQuery"] }

def selection : Selection :=
  { fields := [.holding "hero" "Character!" [.leaf "id" "ID!",
        .holding "friends" "[[Character!]]!" [.leaf "height" "Float"]],
      .holding "hero" "Character!" [.leaf "name" "String!"]]
    spreads := ["Entity"] }

theorem exists_shape_selection : ∃ shape, context.shape [] "Data" selection = .ok shape := by
  have few : context.freeNames "Data" selection < 20 := by decide +kernel
  exact Context.exists_shape few (by decide +kernel)

end Sample

namespace Context

/-! ## Bounds for all that is built -/

/-- There are no more free names than candidates. -/
theorem freeNames_le (c : Context) (name : String) (sel : Selection) :
    c.freeNames name sel ≤ (c.candidates sel).eraseDups.length := by
  refine (nodup_eraseDups _).length_le_of_subset ?_
  intro n free
  rw [List.mem_eraseDups] at free ⊢
  exact (List.mem_filter.mp free).1

/-- The shape of a selection, as far as shapes nest no deeper than there are candidates
for their names. -/
def shapeBounded (cut : Cut) : ShapeBuilder := fun c chain name sel =>
  c.shapeWithin chain name sel (1 + (c.candidates sel).eraseDups.length) cut

theorem shapeBounded_eq (cut : Cut) (c : Context) (chain : List String) (name : String)
    (sel : Selection) : shapeBounded cut c chain name sel = c.shape chain name sel := by
  have few := c.freeNames_le name sel
  exact shapeWithin_eq (by omega)

/-- Flattening nests no deeper than one level more than there are fragments off the chain,
and shapes nest no deeper than one level more than there are candidates for their names.
Fragments and operations are built within these bounds. -/
theorem depth_bounded (c : Context) (cut : Cut) :
    (∀ chain sel, c.settings.flattenWithin c.pathText cut (1 + c.settings.unexpanded chain) chain
      sel = c.flatten chain sel) ∧
    (∀ chain name sel, c.shapeWithin chain name sel (1 + (c.candidates sel).eraseDups.length) cut =
      c.shape chain name sel) ∧
    (∀ f, c.fragmentTypeWith (shapeBounded cut) f = c.fragmentType f) ∧
    ∀ o, c.operationTypeWith (shapeBounded cut) o = c.operationType o := by
  have same : shapeBounded cut = shape := by
    funext c chain name sel
    exact shapeBounded_eq cut c chain name sel
  refine ⟨c.flattenWithin_eq cut, shapeBounded_eq cut c, ?_, ?_⟩
  · intro f
    rw [same, fragmentType]
  · intro o
    rw [same, operationType]

end Context

/-- The selection of the sample nests three deep, so a cut below the second level is met. -/
example : (match Sample.context.shapeWithin [] "Data" Sample.selection 2
      { shape := fun _ name _ => .error (.packagePath name) } with
    | .error e => some e
    | .ok _ => none) = some (.packagePath "Friend") := by
  decide +kernel

end QueryModel
