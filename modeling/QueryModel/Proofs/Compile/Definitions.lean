import QueryModel.Proofs.Compile.Isolation
import QueryModel.Proofs.Shape.Assembly

/-!
# Definitions of fragments and the documents of operations

The type of a fragment has a definition, which is the text of the fragment.  The document of
an operation holds the texts of the fragments that the operation refers to.  The two are
looked up in different ways.

* Documents look in the settings, where the last fragment of a name counts
  (`fragment?_ofConfig`).
* A fragment has a type when it is the first one that builds its class
  (`keeps_fragment_iff`).

So a document that repeats the name of a fragment can send one text and give another as the
definition.  `sendsDefinitions_iff` says exactly when this does not happen, and
`not_sendsDefinitions_detailsTwice` is a document where it does.
-/

namespace QueryModel

open Text

/-! ## The last fragment of a name -/

theorem lookup_map_key {α : Type} (key : α → String) (name : String) (l : List α) :
    (l.map fun x => (key x, x)).lookup name = l.find? (key · == name) := by
  induction l with
  | nil => rfl
  | cons x rest ih =>
    simp only [List.map_cons, List.lookup_cons, List.find?_cons, ih, Bool.beq_comm (a := name)]

namespace Document

/-- The last fragment of a name. -/
def lastFragment? (d : Document) (name : String) : Option Fragment :=
  d.fragments.reverse.find? (·.fragmentName == name)

end Document

theorem Settings.fragment?_ofConfig (config : Config) (d : Document) (base name : String) :
    (ofConfig config d base).fragment? name = d.lastFragment? name := by
  show ((Dict.empty.insertAll _).get? name) = _
  rw [Dict.get?_insertAll, Dict.get?_empty, Option.or_none, ← List.map_reverse, lookup_map_key]
  rfl

theorem Settings.fragmentSource_eq_ok {config : Config} {d : Document} {base : String}
    {o : Operation} {name text : String} :
    (ofConfig config d base).fragmentSource o name = .ok text ↔
      ∃ last, d.lastFragment? name = some last ∧ last.source = text := by
  rw [fragmentSource, fragment?_ofConfig]
  cases d.lastFragment? name with
  | none => simp
  | some last => simp

/-! ## Fragments with types -/

/-- What the type of a fragment takes from the fragment. -/
theorem Context.fragmentType_eq_ok {c : Context} {f : Fragment} {t : FragmentType}
    (built : c.fragmentType f = .ok t) :
    t.definition = f.source ∧
      (GeneratedType.fragment t).className =
        ⟨c.settings.fragmentsPackage, capitalize f.fragmentName⟩ := by
  obtain ⟨shape, shaped, made⟩ := Build.bind_eq_ok.mp built
  cases made
  refine ⟨rfl, ?_⟩
  show ClassName.mk c.settings.fragmentsPackage shape.name = _
  rw [name_of_shape shaped]

theorem Item.build_fragment {c : Context} {f : Fragment} {t : GeneratedType} :
    (Item.fragment f).build c = .ok (some t) ↔
      ∃ type, c.fragmentType f = .ok type ∧ t = .fragment type := by
  constructor
  · intro built
    obtain ⟨type, makes, made⟩ := Build.bind_eq_ok.mp built
    cases made
    exact ⟨type, makes, rfl⟩
  · rintro ⟨type, makes, rfl⟩
    exact Build.bind_eq_ok.mpr ⟨type, makes, rfl⟩

theorem Item.class?_fragment {c : Context} {f : Fragment} {n : ClassName} :
    (Item.fragment f).class? c = some n ↔
      (∃ t, c.fragmentType f = .ok t) ∧
        n = ⟨c.settings.fragmentsPackage, capitalize f.fragmentName⟩ := by
  rw [class?_eq_some]
  constructor
  · rintro ⟨t, built, rfl⟩
    obtain ⟨type, makes, rfl⟩ := build_fragment.mp built
    exact ⟨⟨type, makes⟩, (Context.fragmentType_eq_ok makes).2⟩
  · rintro ⟨⟨type, makes⟩, rfl⟩
    exact ⟨.fragment type, build_fragment.mpr ⟨type, makes, rfl⟩,
      (Context.fragmentType_eq_ok makes).2⟩

namespace Document

/-- An item of a document has an outcome with a type. -/
def Keeps (d : Document) (config : Config) (base : String) (i : Item) (t : GeneratedType) : Prop :=
  ∃ before after outcome,
    d.items (.ofConfig config d base) = before ++ i :: after ∧
    (d.outcomes config base)[before.length]? = some outcome ∧ outcome.generated = some t

/-- Whether a fragment builds the class of a name. -/
def claims (c : Context) (name : String) (f : Fragment) : Bool :=
  capitalize f.fragmentName == capitalize name && (c.fragmentType f).isOk

/-- The first fragment that builds the class of a name. -/
def claimant? (d : Document) (c : Context) (name : String) : Option Fragment :=
  d.fragments.find? (claims c name)

theorem claims_iff {c : Context} {name : String} {f : Fragment} :
    claims c name f = true ↔
      capitalize f.fragmentName = capitalize name ∧ ∃ t, c.fragmentType f = .ok t := by
  rw [claims, Bool.and_eq_true, beq_iff_eq, Build.isOk_iff]

variable {d : Document} {config : Config} {base : String}

theorem keeps_iff {i : Item} {t : GeneratedType} :
    d.Keeps config base i t ↔
      ∃ before after, d.items (.ofConfig config d base) = before ++ i :: after ∧
        i.build { settings := .ofConfig config d base } = .ok (some t) ∧
        t.className ∉ Item.classes { settings := .ofConfig config d base } before := by
  constructor
  · rintro ⟨before, after, outcome, split, place, generated⟩
    rw [outcomes, Compilation.outcomes_ofDocument, split, Item.getElem?_outcomes,
      Option.some.injEq] at place
    rw [← place] at generated
    exact ⟨before, after, split, Item.generated_outcome.mp generated⟩
  · rintro ⟨before, after, split, generated⟩
    refine ⟨before, after, _, split, ?_, Item.generated_outcome.mpr generated⟩
    rw [outcomes, Compilation.outcomes_ofDocument, split, Item.getElem?_outcomes]

theorem mem_classes_fragments {c : Context} {fragments : List Fragment} {name : String} :
    ⟨c.settings.fragmentsPackage, capitalize name⟩ ∈ Item.classes c (fragments.map .fragment) ↔
      ∃ f ∈ fragments, claims c name f = true := by
  constructor
  · intro taken
    obtain ⟨item, inItems, builds⟩ := Item.mem_classes.mp taken
    obtain ⟨f, membership, rfl⟩ := List.mem_map.mp inItems
    obtain ⟨isBuilt, same⟩ := Item.class?_fragment.mp builds
    exact ⟨f, membership, claims_iff.mpr ⟨(ClassName.mk.inj same).2.symm, isBuilt⟩⟩
  · rintro ⟨f, membership, claimed⟩
    obtain ⟨same, isBuilt⟩ := claims_iff.mp claimed
    refine Item.mem_classes.mpr ⟨.fragment f, List.mem_map_of_mem membership, ?_⟩
    exact Item.class?_fragment.mpr ⟨isBuilt, by rw [same]⟩

/-- Fragments come first among the items. -/
theorem exists_items_eq_append {s : Settings} {before : List Item} {f : Fragment} :
    (∃ after, d.items s = before ++ .fragment f :: after) ↔
      ∃ earlier later, d.fragments = earlier ++ f :: later ∧ before = earlier.map .fragment := by
  let others := (d.declarations.filter (·.isGenerated)).map Item.declaration ++
    ((if s.scalars.isEmpty then [] else [.scalars]) ++ d.operations.map .operation)
  have whole : d.items s = d.fragments.map .fragment ++ others := by
    rw [items, List.append_assoc, List.append_assoc]
  have noFragment : Item.fragment f ∉ others := by
    simp only [others]
    split <;> simp
  rw [whole]
  constructor
  · rintro ⟨after, split⟩
    rcases List.append_eq_append_iff.mp split with ⟨more, _, later⟩ | ⟨more, fragments, later⟩
    · rw [later] at noFragment
      simp at noFragment
    · cases more with
      | nil =>
        rw [List.nil_append] at later
        rw [← later] at noFragment
        simp at noFragment
      | cons first more =>
        cases (List.cons.inj later).1
        obtain ⟨earlier, rest, whole, rfl, tail⟩ := List.map_eq_append_iff.mp fragments
        obtain ⟨g, later, rfl, same, _⟩ := List.map_eq_cons_iff.mp tail
        cases same
        exact ⟨earlier, later, whole, rfl⟩
  · rintro ⟨earlier, later, fragments, rfl⟩
    refine ⟨later.map .fragment ++ others, ?_⟩
    rw [fragments, List.map_append, List.map_cons, List.append_assoc, List.cons_append]

/-- A fragment has a type exactly when it is the first one that builds its class. -/
theorem keeps_fragment_iff {f : Fragment} {t : FragmentType} :
    d.Keeps config base (.fragment f) (.fragment t) ↔
      d.claimant? { settings := .ofConfig config d base } f.fragmentName = some f ∧
        ({ settings := .ofConfig config d base } : Context).fragmentType f = .ok t := by
  rw [keeps_iff, claimant?, List.find?_eq_some_iff_append]
  constructor
  · rintro ⟨before, after, split, built, fresh⟩
    obtain ⟨type, makes, same⟩ := Item.build_fragment.mp built
    cases same
    obtain ⟨earlier, later, fragments, rfl⟩ := exists_items_eq_append.mp ⟨after, split⟩
    rw [(Context.fragmentType_eq_ok makes).2, mem_classes_fragments] at fresh
    refine ⟨⟨claims_iff.mpr ⟨rfl, t, makes⟩, earlier, later, fragments, ?_⟩, makes⟩
    intro g isEarlier
    simpa using fun claimed => fresh ⟨g, isEarlier, claimed⟩
  · rintro ⟨⟨_, earlier, later, fragments, others⟩, makes⟩
    obtain ⟨after, split⟩ := exists_items_eq_append.mpr ⟨earlier, later, fragments, rfl⟩
    refine ⟨_, after, split, Item.build_fragment.mpr ⟨t, makes, rfl⟩, ?_⟩
    rw [(Context.fragmentType_eq_ok makes).2, mem_classes_fragments]
    rintro ⟨g, isEarlier, claimed⟩
    have unclaimed := others g isEarlier
    rw [claimed] at unclaimed
    cases unclaimed

/-- Where an operation and a fragment it refers to both have types, the operation sends the
text that is the definition of the fragment. -/
def SendsDefinitions (d : Document) (config : Config) (base : String) : Prop :=
  ∀ f t o u, d.Keeps config base (.fragment f) (.fragment t) →
    d.Keeps config base (.operation o) (.operation u) →
    f.fragmentName ∈ o.fragmentsReferenced →
    (Settings.ofConfig config d base).fragmentSource o f.fragmentName = .ok t.definition

/-- Operations send the definitions of fragments exactly when, for every name that an
operation with a type refers to, the first fragment that builds the class of the name has
another name or the text of the last fragment of the name. -/
theorem sendsDefinitions_iff (d : Document) (config : Config) (base : String) :
    d.SendsDefinitions config base ↔
      ∀ o u, d.Keeps config base (.operation o) (.operation u) →
        ∀ name ∈ o.fragmentsReferenced, ∀ first last,
          d.claimant? { settings := .ofConfig config d base } name = some first →
          first.fragmentName = name → d.lastFragment? name = some last →
            first.source = last.source := by
  constructor
  · rintro sends o u keepsOperation name refers first last claimant rfl found
    obtain ⟨_, t, makes⟩ := claims_iff.mp (List.find?_some claimant)
    have keeps := keeps_fragment_iff.mpr ⟨claimant, makes⟩
    obtain ⟨sent, foundAgain, text⟩ :=
      Settings.fragmentSource_eq_ok.mp (sends first t o u keeps keepsOperation refers)
    rw [found, Option.some.injEq] at foundAgain
    rw [foundAgain, text, (Context.fragmentType_eq_ok makes).1]
  · intro agrees f t o u keeps keepsOperation refers
    obtain ⟨claimant, makes⟩ := keeps_fragment_iff.mp keeps
    obtain ⟨last, found⟩ : ∃ last, d.lastFragment? f.fragmentName = some last := by
      apply Option.isSome_iff_exists.mp
      rw [lastFragment?, List.find?_isSome]
      exact ⟨f, List.mem_reverse.mpr (List.mem_of_find?_eq_some claimant), by simp⟩
    refine Settings.fragmentSource_eq_ok.mpr ⟨last, found, ?_⟩
    rw [(Context.fragmentType_eq_ok makes).1]
    exact (agrees o u keepsOperation _ refers f last claimant rfl found).symm

end Document

namespace Sample

def detailsByName : Fragment :=
  { fragment with
    fragmentName := "Details", source := "fragment Details on Character { name }"
    fields := [.leaf "name" "String!"], fragmentSpreads := [], inlineFragments := [] }

def detailsById : Fragment :=
  { detailsByName with
    source := "fragment Details on Character { id }", fields := [.leaf "id" "ID!"] }

def hero : Operation :=
  { unknownKind with
    operationName := "Hero", operationType := "query", source := "query Hero { hero }"
    fields := [.leaf "hero" "String"]
    filePath := "src/main/graphql/com/example/Hero.graphql", fragmentsReferenced := ["Details"] }

/-- A document that repeats the name of a fragment. -/
def detailsTwice : Document :=
  { operations := [hero], fragments := [detailsByName, detailsById] }

def detailsContext : Context := { settings := .ofConfig {} detailsTwice "com.example" }

theorem exists_detailsType : ∃ t, detailsContext.fragmentType detailsByName = .ok t := by
  have few : detailsContext.freeNames "Details" detailsByName.selection < 20 := by decide +kernel
  have isBuilt : ∃ shape,
      detailsContext.shape ["Details"] "Details" detailsByName.selection = .ok shape :=
    Context.exists_shape few (by decide +kernel)
  obtain ⟨shape, built⟩ := isBuilt
  exact ⟨_, Build.bind_eq_ok.mpr ⟨shape, built, rfl⟩⟩

theorem exists_heroType :
    ∃ u, detailsContext.operationType hero = .ok u ∧
      (GeneratedType.operation u).className = ⟨"com.example", "HeroQuery"⟩ := by
  have few : (detailsContext.reserve "HeroQuery").freeNames "Data" ⟨hero.fields, [], []⟩ < 20 := by
    decide +kernel
  have isBuilt : ∃ shape, (detailsContext.reserve "HeroQuery").shape [] "Data"
      ⟨hero.fields, [], []⟩ = .ok shape :=
    Context.exists_shape few (by decide +kernel)
  obtain ⟨data, built⟩ := isBuilt
  have packaged : detailsContext.settings.operationPackage hero = .ok "com.example" := rfl
  have documented : detailsContext.settings.operationDocument hero =
      .ok "query Hero { hero }\n\nfragment Details on Character { id }" := rfl
  have typed : (detailsContext.reserve "HeroQuery").variablesType? hero.parameters = .ok none :=
    rfl
  exact ⟨_, Context.operationType_eq_ok.mpr
    ⟨.query, _, _, _, data, rfl, packaged, documented, typed, built, rfl⟩, rfl⟩

theorem not_sendsDefinitions_detailsTwice : ¬ detailsTwice.SendsDefinitions {} "com.example" := by
  intro sends
  obtain ⟨t, makes⟩ := exists_detailsType
  obtain ⟨u, makesHero, named⟩ := exists_heroType
  have keeps : detailsTwice.Keeps {} "com.example" (.fragment detailsByName) (.fragment t) := by
    refine Document.keeps_fragment_iff.mpr ⟨?_, makes⟩
    exact List.find?_cons_of_pos (Document.claims_iff.mpr ⟨rfl, t, makes⟩)
  have keepsHero : detailsTwice.Keeps {} "com.example" (.operation hero) (.operation u) := by
    refine Document.keeps_iff.mpr
      ⟨[.fragment detailsByName, .fragment detailsById, .scalars], [], rfl,
        Build.bind_eq_ok.mpr ⟨u, makesHero, rfl⟩, ?_⟩
    rw [named]
    intro taken
    obtain ⟨item, membership, builds⟩ := Item.mem_classes.mp taken
    have fromFragment : ∀ f, (Item.fragment f).class? detailsContext ≠
        some ⟨"com.example", "HeroQuery"⟩ := by
      intro f builds
      have same := (ClassName.mk.inj (Item.class?_fragment.mp builds).2).1
      exact absurd same (by decide)
    simp only [List.mem_cons, List.not_mem_nil, or_false] at membership
    rcases membership with rfl | rfl | rfl
    · exact fromFragment _ builds
    · exact fromFragment _ builds
    · revert builds
      decide
  have sent := sends detailsByName t hero u keeps keepsHero (List.mem_singleton_self _)
  rw [(Context.fragmentType_eq_ok makes).1] at sent
  have actual : (Settings.ofConfig {} detailsTwice "com.example").fragmentSource hero "Details" =
      .ok "fragment Details on Character { id }" := rfl
  exact absurd (Except.ok.inj (actual.symm.trans sent)) (by decide)

end Sample

end QueryModel
