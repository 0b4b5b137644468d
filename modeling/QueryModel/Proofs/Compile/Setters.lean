import QueryModel.Model.Generated

/-!
# Setters

Shapes, input types and operations have builders.  All of them are folds that add a setter for
every member, and `Slot` is what such a fold is told about a member.  A default value is set on the
last setter.  The fold over the fields of an input object sets it right after adding the setter, so
every field gets its own (`Builder.adds_defaultValue`).
-/

namespace QueryModel

/-- What a builder is told about a member of its type. -/
structure Slot where
  name : String
  type : ResolvedType
  defaultValue : Option Json

def Property.slot (p : Property) : Slot := ⟨p.name, p.type, none⟩

def InputMember.slot (m : InputMember) : Slot := ⟨m.name, m.type, m.defaultValue⟩

def VariableMember.slot (v : VariableMember) : Slot := ⟨v.name, v.type, none⟩

/-- The setter that is added for a member. -/
def Slot.setter (slot : Slot) : Setter :=
  { name := slot.name
    type := slot.type.unwrapOptional
    required := !slot.type.isOptional && !slot.type.isPrimitive
    defaultValue := slot.defaultValue }

namespace Builder

variable {α : Type} {step : Builder → α → Builder} {slot : α → Slot}

/-- A step of a fold adds the setter of a member. -/
structure Adds (step : Builder → α → Builder) (slot : α → Slot) : Prop where
  target : ∀ b x, (step b x).target = b.target
  setters : ∀ b x, (step b x).setters = b.setters ++ [(slot x).setter]

theorem target_foldl (adds : Adds step slot) (b : Builder) (xs : List α) :
    (xs.foldl step b).target = b.target := by
  induction xs generalizing b with
  | nil => rfl
  | cons x xs ih => rw [List.foldl_cons, ih, adds.target]

/-- Each element adds one setter, behind those that are there. -/
theorem setters_foldl (adds : Adds step slot) (b : Builder) (xs : List α) :
    (xs.foldl step b).setters = b.setters ++ xs.map fun x => (slot x).setter := by
  induction xs generalizing b with
  | nil => simp
  | cons x xs ih => simp [ih, adds.setters]

theorem adds_setter {name : α → String} {type : α → ResolvedType} :
    Adds (fun b x => b.setter (name x) (type x)) fun x => ⟨name x, type x, none⟩ :=
  ⟨fun _ _ => rfl, fun _ _ => rfl⟩

/-- The default value goes to the setter that was just added. -/
theorem adds_defaultValue :
    Adds (fun b (f : InputMember) => (b.setter f.name f.type).defaultValue f.defaultValue)
      InputMember.slot := by
  have opened : ∀ (b : Builder) (f : InputMember),
      (b.setter f.name f.type).defaultValue f.defaultValue =
        { b with setters := b.setters ++ [f.slot.setter] } := by
    intro b f
    simp [setter, defaultValue, Slot.setter, InputMember.slot]
  constructor
  · intro b f
    rw [opened]
  · intro b f
    rw [opened]

/-- The references of a builder. -/
def refs (b : Builder) : List TypeRef := b.setters.map (·.type.base)

theorem refs_foldl (adds : Adds step slot) (target : String) (xs : List α) :
    (xs.foldl step { target }).refs = xs.map fun x => (slot x).type.base := by
  have bare (x : α) : (slot x).setter.type.base = (slot x).type.base := by
    show (slot x).type.unwrapOptional.base = _
    rw [Wrapped.unwrapOptional]
    split <;> rfl
  simp [refs, setters_foldl adds, bare]

end Builder

end QueryModel
