import SchemaClosure.Declaration.Basic

namespace SchemaClosure.Declaration

def object (name : String) : Declaration := { name, attributes := [.serializableObject false] }

def enumeration (name underlyingType : String) : Declaration :=
  { name, kind := .enumType, underlyingType := some underlyingType }

inductive Edit where
  | addAttribute (mark : Attribute)
  | addParameter (parameter : GenericParameter)
  | addField (field : Field)
  | addProperty (property : Property)
  | addConstructor (constructor : Constructor)
  | addInterface (interface : TypeRef)
  | addMethod (name : String)
  | setBase (base : TypeRef)
  | setAccessibility (accessibility : Accessibility)
  | nestIn (containingType : String)
  | markAbstract
  | markExternal
  deriving DecidableEq, Repr

/-- Additions go to the end, so members and attributes stand in the order of the edits. -/
def edit (declaration : Declaration) : Edit → Declaration
  | .addAttribute mark => { declaration with attributes := declaration.attributes ++ [mark] }
  | .addParameter parameter => { declaration with parameters := declaration.parameters ++ [parameter] }
  | .addField field => { declaration with fields := declaration.fields ++ [field] }
  | .addProperty property => { declaration with properties := declaration.properties ++ [property] }
  | .addConstructor constructor => { declaration with constructors := declaration.constructors ++ [constructor] }
  | .addInterface interface => { declaration with interfaces := declaration.interfaces ++ [interface] }
  | .addMethod name => { declaration with methods := declaration.methods ++ [name] }
  | .setBase base => { declaration with base := some base }
  | .setAccessibility accessibility => { declaration with accessibility }
  | .nestIn containingType => { declaration with containingType := some containingType }
  | .markAbstract => { declaration with isAbstract := true }
  | .markExternal => { declaration with isExternal := true }

/-- What no edit changes. -/
def outline (declaration : Declaration) : Declaration where
  name := declaration.name
  kind := declaration.kind
  namespaceName := declaration.namespaceName
  underlyingType := declaration.underlyingType

/-- Edits that build a declaration from its outline. -/
def edits (declaration : Declaration) : List Edit :=
  declaration.attributes.map .addAttribute ++ declaration.parameters.map .addParameter ++ declaration.fields.map .addField ++
    declaration.properties.map .addProperty ++ declaration.constructors.map .addConstructor ++
    declaration.interfaces.map .addInterface ++ declaration.methods.map .addMethod ++ declaration.base.toList.map .setBase ++
    declaration.containingType.toList.map .nestIn ++ [.setAccessibility declaration.accessibility] ++
    (if declaration.isAbstract then [.markAbstract] else []) ++ if declaration.isExternal then [.markExternal] else []

variable {declaration other : Declaration}

theorem outline_edit (declaration : Declaration) (step : Edit) : (declaration.edit step).outline = declaration.outline := by
  cases step <;> rfl

theorem outline_foldl_edit (steps : List Edit) (declaration : Declaration) :
    (steps.foldl edit declaration).outline = declaration.outline := by
  induction steps generalizing declaration with
  | nil => rfl
  | cons step steps ih => rw [List.foldl_cons, ih, outline_edit]

/-- Additions of one kind, one after another, are one addition of them all. -/
theorem foldl_edit_map {α : Type} (add : α → Edit) (addAll : Declaration → List α → Declaration)
    (hnil : ∀ declaration, addAll declaration [] = declaration)
    (hcons : ∀ declaration first rest, addAll (declaration.edit (add first)) rest = addAll declaration (first :: rest))
    (items : List α) (declaration : Declaration) : (items.map add).foldl edit declaration = addAll declaration items := by
  induction items generalizing declaration with
  | nil => exact (hnil declaration).symm
  | cons first rest ih => rw [List.map_cons, List.foldl_cons, ih, hcons]

theorem foldl_edits (declaration : Declaration) : declaration.edits.foldl edit declaration.outline = declaration := by
  simp only [edits, List.foldl_append]
  rw [foldl_edit_map .addAttribute (fun built all => { built with attributes := built.attributes ++ all }) (by simp) (by simp [edit]),
    foldl_edit_map .addParameter (fun built all => { built with parameters := built.parameters ++ all }) (by simp) (by simp [edit]),
    foldl_edit_map .addField (fun built all => { built with fields := built.fields ++ all }) (by simp) (by simp [edit]),
    foldl_edit_map .addProperty (fun built all => { built with properties := built.properties ++ all }) (by simp) (by simp [edit]),
    foldl_edit_map .addConstructor (fun built all => { built with constructors := built.constructors ++ all }) (by simp) (by simp [edit]),
    foldl_edit_map .addInterface (fun built all => { built with interfaces := built.interfaces ++ all }) (by simp) (by simp [edit]),
    foldl_edit_map .addMethod (fun built all => { built with methods := built.methods ++ all }) (by simp) (by simp [edit])]
  obtain ⟨name, kind, isAbstract, accessibility, namespaceName, containingType, isExternal, parameters, attributes, base, interfaces,
    fields, properties, constructors, methods, underlyingType⟩ := declaration
  cases isAbstract <;> cases isExternal <;> cases base <;> cases containingType <;> rfl

/-- **What can be built by edits:** everything that has the same outline. -/
theorem exists_foldl_edit_iff : (∃ steps : List Edit, steps.foldl edit declaration.outline = other) ↔ other.outline = declaration.outline := by
  constructor
  · rintro ⟨steps, rfl⟩
    rw [outline_foldl_edit]
    rfl
  · intro h
    exact ⟨other.edits, h ▸ foldl_edits other⟩

end SchemaClosure.Declaration
