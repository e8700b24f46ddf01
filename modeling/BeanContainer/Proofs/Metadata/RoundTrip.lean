/-
This file shows that a table of metadata can be written as a text and read again. Only its empty lists
of groups come back as lists of texts, and a table that was read comes back as it was.
-/

import BeanContainer.Metadata.Json
import BeanContainer.Proofs.Annotations.Reread

namespace BeanContainer

namespace AnnotationDescriptor

def reread (descriptor : AnnotationDescriptor) : AnnotationDescriptor :=
  { descriptor with attributes := AttributeValue.rereadAttributes descriptor.attributes }

/-- A marker is read back up to its empty lists of groups. -/
theorem ofJson?_toJson {descriptor : AnnotationDescriptor} {depth : Nat}
    (wellFormed : (AttributeValue.nested descriptor.attributes).WellFormed)
    (fits : descriptor.attributes.toJson.fits (depth + 1) = true) :
    ofJson? depth descriptor.toJson = some descriptor.reread := by
  have attributes := Attributes.ofJson?_toJson wellFormed fits
  have metaTypes : Json.texts? (.array (descriptor.metaTypes.names.map .string)) =
      some descriptor.metaTypes.names := AttributeValue.texts?_map_string _
  have fields : descriptor.toJson.fields? fieldNames =
      some [some (.string descriptor.typeName), some descriptor.attributes.toJson,
        some (.array (descriptor.metaTypes.names.map .string))] := rfl
  rw [ofJson?, fields]
  simp only [Option.bind_eq_bind, Option.bind_some, Json.text?, Json.optional, attributes, metaTypes,
    NameSet.ofList_names]
  rfl

/-- A marker comes back unchanged just if it holds no empty list of groups. -/
theorem reread_eq_self_iff (descriptor : AnnotationDescriptor) :
    descriptor.reread = descriptor ↔
      AttributeValue.attributesHaveEmptyArray descriptor.attributes = false := by
  rw [← AttributeValue.rereadAttributes_eq_self_iff]
  exact ⟨fun same => congrArg attributes same, fun same => by rw [reread, same]⟩

/-- A list of markers is read back, each up to its empty lists of groups. -/
theorem listOfJson?_toJson {descriptors : List AnnotationDescriptor} {depth : Nat}
    (wellFormed : ∀ descriptor ∈ descriptors,
      (AttributeValue.nested descriptor.attributes).WellFormed)
    (fits : ∀ descriptor ∈ descriptors, descriptor.attributes.toJson.fits (depth + 1) = true) :
    listOfJson? depth (.array (descriptors.map toJson)) = some (descriptors.map reread) := by
  change (descriptors.map toJson).mapM (ofJson? depth) = _
  rw [List.mapM_map]
  exact mapM_eq_some fun descriptor member =>
    ofJson?_toJson (wellFormed descriptor member) (fits descriptor member)

end AnnotationDescriptor

/-- The entry of a class is read back, with its markers reread. -/
theorem ClassEntry.ofJson?_toJson {entry : ClassEntry} {depth : Nat}
    (wellFormed : ∀ descriptor ∈ entry.annotations,
      (AttributeValue.nested descriptor.attributes).WellFormed)
    (fits : ∀ descriptor ∈ entry.annotations,
      descriptor.attributes.toJson.fits (depth + 1) = true) :
    ofJson? depth entry.toJson =
      some { entry with annotations := entry.annotations.map (·.reread) } := by
  have annotations := AnnotationDescriptor.listOfJson?_toJson wellFormed fits
  have fields : entry.toJson.fields? fieldNames =
      some [some (.string entry.className),
        some (.array (entry.annotations.map AnnotationDescriptor.toJson)),
        some (.bool entry.isInterface), some (.bool entry.isAbstract), some (.bool entry.isFinal)] :=
    rfl
  rw [ofJson?, fields]
  simp only [Option.bind_eq_bind, Option.bind_some, Json.text?, Json.bool?, Json.optional, annotations]
  rfl

/-- A return type is read back, and so is its absence. -/
theorem MethodEntry.returnTypeOfJson?_toJson (returnTypeName : Option String) :
    returnTypeOfJson? (match returnTypeName with
      | some typeName => .string typeName
      | none => .null) = some returnTypeName := by
  cases returnTypeName <;> rfl

/-- The entry of a method is read back, with its markers reread. -/
theorem MethodEntry.ofJson?_toJson {entry : MethodEntry} {depth : Nat}
    (wellFormed : ∀ descriptor ∈ entry.annotations,
      (AttributeValue.nested descriptor.attributes).WellFormed)
    (fits : ∀ descriptor ∈ entry.annotations,
      descriptor.attributes.toJson.fits (depth + 1) = true) :
    ofJson? depth entry.toJson =
      some { entry with annotations := entry.annotations.map (·.reread) } := by
  have annotations := AnnotationDescriptor.listOfJson?_toJson wellFormed fits
  have returnType := returnTypeOfJson?_toJson entry.returnTypeName
  have fields : entry.toJson.fields? fieldNames =
      some [some (.string entry.methodName), some (.string entry.declaringClassName),
        some (match entry.returnTypeName with
          | some typeName => .string typeName
          | none => .null),
        some (.array (entry.annotations.map AnnotationDescriptor.toJson)),
        some (.bool entry.isStatic), some (.bool entry.isFinal), some (.bool entry.isPrivate)] := rfl
  rw [ofJson?, fields]
  simp only [Option.bind_eq_bind, Option.bind_some, Json.text?, Json.bool?, Json.optional, annotations,
    returnType]
  rfl

namespace MetadataTable

/-- The descriptors of all classes and methods. -/
def descriptors (table : MetadataTable) : List AnnotationDescriptor :=
  table.classes.flatMap (·.annotations) ++ table.methods.flatMap (·.annotations)

/-- The attributes of every descriptor are in ascending name order, at every depth. -/
def WellFormed (table : MetadataTable) : Prop :=
  ∀ descriptor ∈ table.descriptors, (AttributeValue.nested descriptor.attributes).WellFormed

/-- Some list of groups in the table is empty, at any depth. -/
def hasEmptyArray (table : MetadataTable) : Bool :=
  table.descriptors.any fun descriptor =>
    AttributeValue.attributesHaveEmptyArray descriptor.attributes

/-- The table with its empty lists of groups turned into empty lists of texts. -/
def reread (table : MetadataTable) : MetadataTable where
  classes := table.classes.map fun entry =>
    { entry with annotations := entry.annotations.map (·.reread) }
  methods := table.methods.map fun entry =>
    { entry with annotations := entry.annotations.map (·.reread) }

/-- The markers of a table are those of its classes and those of its methods. -/
theorem forall_descriptors_iff (table : MetadataTable) (Holds : AnnotationDescriptor → Prop) :
    (∀ descriptor ∈ table.descriptors, Holds descriptor) ↔
      (∀ entry ∈ table.classes, ∀ descriptor ∈ entry.annotations, Holds descriptor) ∧
        ∀ entry ∈ table.methods, ∀ descriptor ∈ entry.annotations, Holds descriptor := by
  simp only [descriptors, List.mem_append, List.mem_flatMap]
  constructor
  · intro all
    exact ⟨fun entry member descriptor listed => all descriptor (Or.inl ⟨entry, member, listed⟩),
      fun entry member descriptor listed => all descriptor (Or.inr ⟨entry, member, listed⟩)⟩
  · rintro ⟨inClasses, inMethods⟩ descriptor (⟨entry, member, listed⟩ | ⟨entry, member, listed⟩)
    · exact inClasses entry member descriptor listed
    · exact inMethods entry member descriptor listed

/-- A table is read back with all its markers reread. -/
theorem ofJson?_toJson {table : MetadataTable} {depth : Nat} (wellFormed : table.WellFormed)
    (fits : ∀ descriptor ∈ table.descriptors,
      descriptor.attributes.toJson.fits (depth + 1) = true) :
    ofJson? depth table.toJson = some table.reread := by
  obtain ⟨classesWellFormed, methodsWellFormed⟩ := (forall_descriptors_iff _ _).mp wellFormed
  obtain ⟨classesFit, methodsFit⟩ := (forall_descriptors_iff _ _).mp fits
  have classes : (table.classes.map (·.toJson)).mapM (ClassEntry.ofJson? depth) =
      some table.reread.classes := by
    rw [List.mapM_map]
    exact mapM_eq_some fun entry member =>
      ClassEntry.ofJson?_toJson (classesWellFormed entry member) (classesFit entry member)
  have methods : (table.methods.map (·.toJson)).mapM (MethodEntry.ofJson? depth) =
      some table.reread.methods := by
    rw [List.mapM_map]
    exact mapM_eq_some fun entry member =>
      MethodEntry.ofJson?_toJson (methodsWellFormed entry member) (methodsFit entry member)
  have fields : table.toJson.fields? fieldNames =
      some [some (.array (table.classes.map (·.toJson))),
        some (.array (table.methods.map (·.toJson)))] := rfl
  rw [ofJson?, fields]
  simp only [Option.bind_eq_bind, Option.bind_some, Json.items?, Json.optional, classes, methods]
  rfl

/-- A table comes back unchanged just if no marker in it holds an empty list of groups. -/
theorem reread_eq_self_iff (table : MetadataTable) :
    table.reread = table ↔ table.hasEmptyArray = false := by
  have settled (list : List AnnotationDescriptor) :
      list.map (·.reread) = list ↔ ∀ descriptor ∈ list,
        AttributeValue.attributesHaveEmptyArray descriptor.attributes = false := by
    simp only [map_eq_self_iff, AnnotationDescriptor.reread_eq_self_iff]
  obtain ⟨classes, methods⟩ := table
  have ofClasses : classes.map (fun entry =>
      { entry with annotations := entry.annotations.map (·.reread) }) = classes ↔
        ∀ entry ∈ classes, entry.annotations.map (·.reread) = entry.annotations := by
    rw [map_eq_self_iff]
    exact forall₂_congr fun entry _ => ⟨fun same => congrArg ClassEntry.annotations same,
      fun same => by rw [same]⟩
  have ofMethods : methods.map (fun entry =>
      { entry with annotations := entry.annotations.map (·.reread) }) = methods ↔
        ∀ entry ∈ methods, entry.annotations.map (·.reread) = entry.annotations := by
    rw [map_eq_self_iff]
    exact forall₂_congr fun entry _ => ⟨fun same => congrArg MethodEntry.annotations same,
      fun same => by rw [same]⟩
  have noEmptyArray := forall_descriptors_iff ⟨classes, methods⟩ fun descriptor =>
    AttributeValue.attributesHaveEmptyArray descriptor.attributes = false
  rw [reread, MetadataTable.mk.injEq, ofClasses, ofMethods]
  simp only [settled, hasEmptyArray, List.any_eq_false, Bool.not_eq_true]
  exact noEmptyArray.symm

/-- A list is plain if what is written of each item is. -/
theorem itemsPlain_map {Item : Type} {encode : Item → Json} {items : List Item}
    (plain : ∀ item ∈ items, (encode item).IsPlain) : Json.ItemsPlain (items.map encode) := by
  induction items with
  | nil => trivial
  | cons item rest inductionHypothesis =>
      exact ⟨plain item List.mem_cons_self,
        inductionHypothesis fun other member => plain other (List.mem_cons_of_mem _ member)⟩

/-- What is written of a table is plain. -/
theorem toJson_isPlain (table : MetadataTable) : table.toJson.IsPlain := by
  have descriptors (list : List AnnotationDescriptor) :
      Json.ItemsPlain (list.map (·.toJson)) := itemsPlain_map fun descriptor _ =>
    ⟨trivial, AttributeValue.membersToJson_membersPlain _,
      AttributeValue.itemsPlain_map_string _, trivial⟩
  refine ⟨itemsPlain_map fun entry _ => ?_, itemsPlain_map fun entry _ => ?_, trivial⟩
  · exact ⟨trivial, descriptors _, trivial, trivial, trivial, trivial⟩
  · refine ⟨trivial, trivial, ?_, descriptors _, trivial, trivial, trivial, trivial⟩
    cases entry.returnTypeName <;> trivial

/-- A table fits just if the attributes of each marker do, six levels down. -/
theorem fits_toJson_iff {table : MetadataTable} {levels : Nat} :
    table.toJson.fits (levels + 6) = true ↔
      ∀ descriptor ∈ table.descriptors, descriptor.attributes.toJson.fits (levels + 1) = true := by
  have ofMethod (entry : MethodEntry) : entry.toJson.fits (levels + 4) = true ↔
      ∀ descriptor ∈ entry.annotations, descriptor.attributes.toJson.fits (levels + 1) = true := by
    cases entry with
    | mk _ _ returnTypeName =>
        cases returnTypeName <;> simp [MethodEntry.toJson, Json.fits, AnnotationDescriptor.toJson]
  rw [forall_descriptors_iff]
  simp [toJson, Json.fits, ClassEntry.toJson, AnnotationDescriptor.toJson, ofMethod]

/-- A list that may be missing is made of items that were read. -/
theorem exists_of_mem_optional {Item : Type} {field : Option Json} {decode : Json → Option Item}
    {list : List Item} {item : Item}
    (found : Json.optional field [] (fun value => do (← value.items?).mapM decode) = some list)
    (member : item ∈ list) : ∃ source, decode source = some item := by
  cases field with
  | none =>
      cases found
      cases member
  | some value =>
      obtain ⟨items, _, found⟩ := Option.bind_eq_some_iff.mp found
      obtain ⟨source, _, same⟩ := exists_of_mem_mapM found member
      exact ⟨source, same⟩

/-- What holds of a descriptor that was read. -/
structure IsReading (depth : Nat) (descriptor : AnnotationDescriptor) : Prop where
  wellFormed : (AttributeValue.nested descriptor.attributes).WellFormed
  noEmptyArray : AttributeValue.attributesHaveEmptyArray descriptor.attributes = false
  fits : descriptor.attributes.toJson.fits (depth + 1) = true

/-- A marker that was read has well-formed attributes within the limit. -/
theorem isReading_of_descriptor {depth : Nat} {source : Json} {descriptor : AnnotationDescriptor}
    (found : AnnotationDescriptor.ofJson? depth source = some descriptor) :
    IsReading depth descriptor := by
  obtain ⟨fields, _, found⟩ := Option.bind_eq_some_iff.mp found
  split at found
  · rename_i _ attributesField _ _
    obtain ⟨typeName, _, found⟩ := Option.bind_eq_some_iff.mp found
    obtain ⟨attributes, attributesFound, found⟩ := Option.bind_eq_some_iff.mp found
    obtain ⟨metaTypes, _, found⟩ := Option.bind_eq_some_iff.mp found
    cases found
    cases attributesField with
    | none =>
        cases attributesFound
        exact ⟨⟨List.Pairwise.nil, trivial⟩, rfl, rfl⟩
    | some value =>
        obtain ⟨wellFormed, noEmptyArray, fits⟩ := Attributes.isReading_of_ofJson? attributesFound
        exact ⟨wellFormed, noEmptyArray, fits⟩
  · cases found

/-- The markers of a class that was read have well-formed attributes within the limit. -/
theorem isReading_of_class {depth : Nat} {source : Json} {entry : ClassEntry}
    (found : ClassEntry.ofJson? depth source = some entry) :
    ∀ descriptor ∈ entry.annotations, IsReading depth descriptor := by
  obtain ⟨fields, _, found⟩ := Option.bind_eq_some_iff.mp found
  split at found
  · obtain ⟨className, _, found⟩ := Option.bind_eq_some_iff.mp found
    obtain ⟨annotations, annotationsFound, found⟩ := Option.bind_eq_some_iff.mp found
    obtain ⟨isInterface, _, found⟩ := Option.bind_eq_some_iff.mp found
    obtain ⟨isAbstract, _, found⟩ := Option.bind_eq_some_iff.mp found
    obtain ⟨isFinal, _, found⟩ := Option.bind_eq_some_iff.mp found
    cases found
    intro descriptor member
    obtain ⟨source, read⟩ := exists_of_mem_optional annotationsFound member
    exact isReading_of_descriptor read
  · cases found

/-- The markers of a method that was read have well-formed attributes within the limit. -/
theorem isReading_of_method {depth : Nat} {source : Json} {entry : MethodEntry}
    (found : MethodEntry.ofJson? depth source = some entry) :
    ∀ descriptor ∈ entry.annotations, IsReading depth descriptor := by
  obtain ⟨fields, _, found⟩ := Option.bind_eq_some_iff.mp found
  split at found
  · obtain ⟨methodName, _, found⟩ := Option.bind_eq_some_iff.mp found
    obtain ⟨declaringClassName, _, found⟩ := Option.bind_eq_some_iff.mp found
    obtain ⟨returnTypeName, _, found⟩ := Option.bind_eq_some_iff.mp found
    obtain ⟨annotations, annotationsFound, found⟩ := Option.bind_eq_some_iff.mp found
    obtain ⟨isStatic, _, found⟩ := Option.bind_eq_some_iff.mp found
    obtain ⟨isFinal, _, found⟩ := Option.bind_eq_some_iff.mp found
    obtain ⟨isPrivate, _, found⟩ := Option.bind_eq_some_iff.mp found
    cases found
    intro descriptor member
    obtain ⟨source, read⟩ := exists_of_mem_optional annotationsFound member
    exact isReading_of_descriptor read
  · cases found

/-- All markers of a table that was read have well-formed attributes within the limit. -/
theorem isReading_of_ofJson? {table : MetadataTable} {depth : Nat} {source : Json}
    (found : ofJson? depth source = some table) :
    ∀ descriptor ∈ table.descriptors, IsReading depth descriptor := by
  obtain ⟨fields, _, found⟩ := Option.bind_eq_some_iff.mp found
  split at found
  · obtain ⟨classes, classesFound, found⟩ := Option.bind_eq_some_iff.mp found
    obtain ⟨methods, methodsFound, found⟩ := Option.bind_eq_some_iff.mp found
    cases found
    refine (forall_descriptors_iff _ _).mpr ⟨fun entry member => ?_, fun entry member => ?_⟩
    · obtain ⟨source, read⟩ := exists_of_mem_optional classesFound member
      exact isReading_of_class read
    · obtain ⟨source, read⟩ := exists_of_mem_optional methodsFound member
      exact isReading_of_method read
  · cases found

/-- Within the depth that a reader takes, a table comes back from its text with its empty lists of
groups turned into empty lists of texts. A table that was read comes back as it was, and groups of
attributes can be asked for as before. -/
theorem table_reread (table : MetadataTable) :
    (table.WellFormed → table.toJson.fits nestingLimit = true →
      ofText table.toText = .ok table.reread ∧
        (ofText table.toText = .ok table ↔ table.hasEmptyArray = false)) ∧
      (∀ text, ofText text = .ok table → ofText table.toText = .ok table) ∧
      ∀ (attributes : Attributes) (name : String),
        Attributes.nestedArray (AttributeValue.rereadAttributes attributes) name =
          (attributes.nestedArray name).map (List.map AttributeValue.rereadAttributes) := by
  have comesBack (wellFormed : table.WellFormed) (fits : table.toJson.fits nestingLimit = true) :
      ofText table.toText = .ok table.reread := by
    have decoded : ofJson? attributeNesting table.toJson = some table.reread :=
      ofJson?_toJson wellFormed (fits_toJson_iff.mp fits)
    unfold ofText toText
    rw [Json.read_write table.toJson_isPlain, Option.bind_eq_bind, Option.bind_some, decoded]
  refine ⟨fun wellFormed fits => ⟨comesBack wellFormed fits, ?_⟩, fun text found => ?_, ?_⟩
  · rw [comesBack wellFormed fits, Except.ok.injEq, reread_eq_self_iff]
  · unfold ofText at found
    split at found
    · rename_i read
      cases found
      obtain ⟨source, _, decoded⟩ := Option.bind_eq_some_iff.mp read
      have reading := isReading_of_ofJson? decoded
      have noEmptyArray : table.hasEmptyArray = false :=
        List.any_eq_false.mpr fun descriptor member => by
          simp [(reading descriptor member).noEmptyArray]
      have settled := comesBack (fun descriptor member => (reading descriptor member).wellFormed)
        (fits_toJson_iff.mpr fun descriptor member => (reading descriptor member).fits)
      rwa [(reread_eq_self_iff table).mpr noEmptyArray] at settled
    · cases found
  · exact Attributes.nestedArray_rereadAttributes

/-- A class with an empty list of groups beside another list, and one inside a group of that. -/
def filteredTable : MetadataTable where
  classes := [{
    className := "shop.Cart"
    annotations := [{
      typeName := "shop.Filter"
      attributes := [("excludes", .nestedArray []),
        ("includes", .nestedArray [[("name", .string "cart"), ("tags", .nestedArray [])]])] }] }]

/-- The table comes back changed the first time and unchanged from then on. -/
theorem filteredTable_reread :
    filteredTable.WellFormed ∧ filteredTable.toJson.fits nestingLimit = true ∧
      ofText filteredTable.toText = .ok filteredTable.reread ∧
      ofText filteredTable.toText ≠ .ok filteredTable ∧
      ofText filteredTable.reread.toText = .ok filteredTable.reread := by
  have wellFormed : filteredTable.WellFormed := by
    intro descriptor member
    obtain rfl := List.mem_singleton.mp member
    simp only [AttributeValue.WellFormed, AttributeValue.AllWellFormed,
      AttributeValue.ElementsWellFormed, Keyed.Ascending]
    decide +kernel
  have fits : filteredTable.toJson.fits nestingLimit = true := rfl
  obtain ⟨comesBack, _, _⟩ := table_reread filteredTable
  obtain ⟨found, exactly⟩ := comesBack wellFormed fits
  refine ⟨wellFormed, fits, found, ?_, (table_reread filteredTable.reread).2.1 _ found⟩
  intro same
  cases exactly.mp same

end MetadataTable

end BeanContainer
