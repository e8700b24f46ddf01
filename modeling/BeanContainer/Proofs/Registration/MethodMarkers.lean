/-
This file says which methods of a model that was read from a table end up as definitions. The model
takes in every method that carries the bean marker, be it through another marker, but only a method
with the bean marker itself makes a bean.
-/

import BeanContainer.Proofs.Registration.Additions

namespace BeanContainer

open ScopedProxy Relation

/-! The methods of a table. -/

/-- A view has the attributes of the markers that it was made of, and of no others. -/
theorem AnnotationView.attributes_ofDescriptors_ne_none_iff {descriptors : List AnnotationDescriptor}
    {typeName : String} :
    (ofDescriptors descriptors).attributes typeName ≠ none ↔
      ∃ descriptor ∈ descriptors, descriptor.typeName = typeName := by
  unfold ofDescriptors
  simp [List.find?_eq_none]

/-- The table has a method of this name that is declared by the class and carries the bean marker
itself. -/
def MetadataTable.Marks (table : MetadataTable) (className methodName : String) : Prop :=
  ∃ entry ∈ table.methods, entry.declaringClassName = className ∧ entry.methodName = methodName ∧
    ∃ marker ∈ entry.annotations, marker.typeName = AnnotationType.bean

namespace ConfigurationModel

/-- A class has the methods that the table declares for it and that carry the bean marker in any
way. -/
theorem mem_beanMethodsOf_iff {table : MetadataTable} {className : String}
    {method : MethodMetadata} :
    method ∈ beanMethodsOf table className ↔
      ∃ entry ∈ table.methods, entry.declaringClassName = className ∧ entry.metadata = method ∧
        method.annotations.isAnnotated AnnotationType.bean = true := by
  unfold beanMethodsOf MetadataTable.methodsOf
  simp only [List.mem_filter, List.mem_map, beq_iff_eq]
  constructor
  · rintro ⟨⟨entry, ⟨listed, declared⟩, same⟩, annotated⟩
    exact ⟨entry, listed, declared, same, annotated⟩
  · rintro ⟨entry, listed, declared, same, annotated⟩
    exact ⟨⟨entry, ⟨listed, declared⟩, same⟩, annotated⟩

/-- The classes of the model have just the methods that the table declares for their names. -/
def DeclaredIn (model : ConfigurationModel) (table : MetadataTable) : Prop :=
  ∀ configuration ∈ model.classes,
    configuration.beanMethods.map BeanMethod.metadata = beanMethodsOf table configuration.className

/-- A model without classes takes nothing from outside a table. -/
theorem empty_declaredIn (table : MetadataTable) : DeclaredIn {} table := List.forall_mem_nil _

/-- A class that is added with its methods from the table keeps the model within the table. -/
theorem DeclaredIn.addClass {model : ConfigurationModel} {table : MetadataTable}
    (declared : model.DeclaredIn table) (metadata : ClassMetadata) :
    (model.addClass metadata (beanMethodsOf table metadata.className)).DeclaredIn table := by
  intro configuration member
  obtain before | added := List.mem_append.mp member
  · exact declared configuration before
  · rw [List.mem_singleton.mp added]
    simp [ConfigurationClass.className, Function.comp_def]

/-- All methods of a model come from the table that it was read from. -/
theorem ofTable_declaredIn (table : MetadataTable) : (ofTable table).DeclaredIn table := by
  refine List.foldlRecOn (motive := fun model => DeclaredIn model table) _ _
    (empty_declaredIn table) fun model declared metadata _ => ?_
  dsimp only
  split
  · exact declared.addClass metadata
  · exact declared

/-- A direct marker puts the method into the model. -/
theorem exists_method_of_marks {table : MetadataTable} {configuration : ConfigurationClass}
    (member : configuration ∈ (ofTable table).classes) {methodName : String}
    (marks : table.Marks configuration.className methodName) :
    ∃ method ∈ configuration.beanMethods, method.name = methodName ∧
      method.metadata.annotations.attributes AnnotationType.bean ≠ none := by
  obtain ⟨entry, listed, declared, named, marker, carried, isBean⟩ := marks
  have annotated : entry.metadata.annotations.isAnnotated AnnotationType.bean = true := by
    apply List.any_eq_true.mpr
    exact ⟨marker.typeName, List.mem_map_of_mem carried, by simp [isBean]⟩
  have declaredHere : entry.metadata ∈ beanMethodsOf table configuration.className :=
    mem_beanMethodsOf_iff.mpr ⟨entry, listed, declared, rfl, annotated⟩
  rw [← ofTable_declaredIn table configuration member] at declaredHere
  obtain ⟨method, ofClass, same⟩ := List.mem_map.mp declaredHere
  refine ⟨method, ofClass, ?_, ?_⟩
  · rw [BeanMethod.name, same]
    exact named
  · rw [same]
    exact AnnotationView.attributes_ofDescriptors_ne_none_iff.mpr ⟨marker, carried, isBean⟩

/-- A method with the bean marker itself is marked in the table. -/
theorem marks_of_attributes {table : MetadataTable} {configuration : ConfigurationClass}
    (member : configuration ∈ (ofTable table).classes) {method : BeanMethod}
    (declared : method ∈ configuration.beanMethods)
    (marked : method.metadata.annotations.attributes AnnotationType.bean ≠ none) :
    table.Marks configuration.className method.name := by
  have declaredHere := List.mem_map_of_mem (f := BeanMethod.metadata) declared
  rw [ofTable_declaredIn table configuration member] at declaredHere
  obtain ⟨entry, listed, ofClass, same, _⟩ := mem_beanMethodsOf_iff.mp declaredHere
  rw [← same] at marked
  refine ⟨entry, listed, ofClass, ?_,
    AnnotationView.attributes_ofDescriptors_ne_none_iff.mp marked⟩
  rw [BeanMethod.name, ← same]
  rfl

end ConfigurationModel

/-! Definitions that methods make. -/

/-- Some definition says that its bean is made by a method of this name of the class. -/
def Registry.MakesFrom (registry : Registry) (className methodName : String) : Prop :=
  ∃ name definition metadata, registry.definition? name = some definition ∧
    definition.factoryMethodName = some methodName ∧ definition.metadata = some metadata ∧
      metadata.className = className

/-- A bean that a method makes is still made in every extension. -/
theorem Registry.Extends.makesFrom {first last : Registry} (extends_ : Extends first last)
    {className methodName : String} (makes : first.MakesFrom className methodName) :
    last.MakesFrom className methodName := by
  obtain ⟨name, definition, metadata, known, made⟩ := makes
  exact ⟨name, definition, metadata, extends_.definition? known, made⟩

/-- The methods that make beans are those from before and those of the added definitions. -/
theorem Registry.Adds.makesFrom_iff {first last : Registry}
    {added : List (String × BeanDefinition)} (adds : Adds first added last)
    {className methodName : String} :
    last.MakesFrom className methodName ↔
      first.MakesFrom className methodName ∨
        ∃ entry ∈ added, entry.2.factoryMethodName = some methodName ∧
          ∃ metadata, entry.2.metadata = some metadata ∧ metadata.className = className := by
  unfold MakesFrom
  constructor
  · rintro ⟨name, definition, metadata, known, made, ofClass, sameClass⟩
    obtain before | new := (adds.definition?_eq_some_iff name definition).mp known
    · exact Or.inl ⟨name, definition, metadata, before, made, ofClass, sameClass⟩
    · exact Or.inr ⟨_, new, made, metadata, ofClass, sameClass⟩
  · rintro (⟨name, definition, metadata, known, facts⟩ | ⟨entry, new, made, metadata, facts⟩)
    · exact ⟨name, definition, metadata,
        (adds.definition?_eq_some_iff name definition).mpr (Or.inl known), facts⟩
    · exact ⟨entry.1, entry.2, metadata, adds.definition? new, made, facts⟩

namespace BeanMethod

variable {scopes : ScopeResolver} {registry left : Registry}

/-- An overload is skipped in favour of a bean that a method of its name makes. -/
theorem makesFrom_of_isOverridden {configuration : ConfigurationClass} {methodName beanName : String}
    (overridden : isOverridden configuration methodName beanName registry = true) :
    registry.MakesFrom configuration.className methodName := by
  unfold isOverridden at overridden
  cases known : registry.definition? beanName with
  | none => simp [known] at overridden
  | some definition =>
      cases ofClass : definition.metadata with
      | none => simp [known, ofClass] at overridden
      | some metadata =>
          simp only [known, ofClass, Bool.and_eq_true, beq_iff_eq] at overridden
          exact ⟨beanName, definition, metadata, known, overridden.1, ofClass, overridden.2⟩

/-- What a method makes is a product of it, with or without a proxy in front. -/
theorem made_isProduct {entry : ConfigurationClass × BeanMethod} {bean : ScopedBean}
    (makes : Makes entry bean) : IsProduct entry.1 entry.2 bean.made := by
  unfold ScopedBean.made underlying
  split
  · exact makes.product
  · exact makes.product.hidden

/-- Every method with a direct marker has made a bean, or another of its name and class has. -/
theorem registerAll_makesFrom {methods : List (ConfigurationClass × BeanMethod)}
    {products : List (Option BeanDefinitionHolder)}
    (fixedNames : registry.allowOverriding = false)
    (done : (registerAll scopes methods).run registry = .ok products left)
    {entry : ConfigurationClass × BeanMethod} (member : entry ∈ methods)
    (marked : entry.2.metadata.annotations.attributes AnnotationType.bean ≠ none) :
    left.MakesFrom entry.1.className entry.2.name := by
  induction methods generalizing registry products with
  | nil => contradiction
  | cons first rest inductionHypothesis =>
      obtain ⟨product, middle, later, begun, ended, rfl⟩ := run_mapM_cons_eq_ok_iff.mp done
      have fixedBetween := (register_extends begun fixedNames).fixedNames
      obtain rfl | further := List.mem_cons.mp member
      · apply (registerAll_extends ended fixedBetween).makesFrom
        cases product with
        | none =>
            obtain ⟨rfl, unmarked | ⟨beanName, _, overridden⟩⟩ := register_eq_none_iff.mp begun
            · contradiction
            · exact makesFrom_of_isOverridden overridden
        | some holder =>
            obtain ⟨scope, plain, _, derives, product, registered⟩ := register_eq_some begun
            have adds := Registry.registerScoped_adds fixedNames registered
            have makes : Makes entry ⟨scope.proxyMode, plain⟩ := ⟨product, derives⟩
            have made := made_isProduct makes
            exact adds.makesFrom_iff.mpr (Or.inr ⟨_, ScopedBean.made_mem_entries _,
              made.factoryMethodName, _, made.metadata, rfl⟩)
      · exact inductionHypothesis fixedBetween ended further

end BeanMethod

namespace DefinitionReader

variable {Memory : Type} {reader : DefinitionReader Memory} {table : MetadataTable}
  {registration : RegistrationState Memory} {left : LoadingState Memory}
  {holders : List BeanDefinitionHolder} {configuration : ConfigurationClass}

/-- Apart from their names the classes of the model stay what they were when it was read. -/
theorem exists_of_contents_eq {first second : ConfigurationModel}
    (same : second.classes.map ConfigurationClass.contents =
      first.classes.map ConfigurationClass.contents)
    (member : configuration ∈ first.classes) :
    ∃ other ∈ second.classes, other.metadata = configuration.metadata ∧
      other.beanMethods = configuration.beanMethods := by
  have listed := List.mem_map_of_mem (f := ConfigurationClass.contents) member
  rw [← same] at listed
  obtain ⟨other, member, sameContents⟩ := List.mem_map.mp listed
  exact ⟨other, member, congrArg Prod.fst sameContents, congrArg Prod.snd sameContents⟩

/-- The definition of a class names no method, be it hidden or not. -/
theorem makesFrom_of_nameConfigurations {configurations : List ConfigurationClass}
    {state last : LoadingState Memory} (fixedNames : state.registration.registry.allowOverriding = false)
    (done : (configurations.mapM reader.nameConfiguration).run state = .ok holders last)
    {className methodName : String}
    (makes : last.registration.registry.MakesFrom className methodName) :
    state.registration.registry.MakesFrom className methodName := by
  obtain ⟨⟨classBeans, ofClasses, adds⟩, _⟩ := nameConfigurations_adds fixedNames done
  obtain before | ⟨entry, added, isMade, _⟩ := adds.makesFrom_iff.mp makes
  · exact before
  · obtain ⟨bean, member, inBean⟩ := List.mem_flatMap.mp added
    obtain ⟨_, _, classDefinition⟩ := exists_left_of_forall₂ ofClasses member
    rw [ScopedBean.eq_made_of_method inBean isMade, ScopedBean.made,
      (classDefinition.underlying _).factoryMethodName] at isMade
    contradiction

/-- Loading adds no definition that a method makes but those of the methods with a direct marker. -/
theorem marks_of_makesFrom (fixedNames : registration.registry.allowOverriding = false)
    (loaded : reader.loadModel.run ⟨registration, .ofTable table⟩ = .ok holders left)
    {className methodName : String}
    (makes : left.registration.registry.MakesFrom className methodName) :
    registration.registry.MakesFrom className methodName ∨ table.Marks className methodName := by
  obtain ⟨_, named, _, registry, naming, methods, _, rfl⟩ := loadModel_eq_ok_iff.mp loaded
  obtain ⟨⟨_, _, namingAdds⟩, same⟩ := nameConfigurations_adds fixedNames naming
  obtain ⟨makers, methodBeans, listed, made, methodsAdd⟩ :=
    BeanMethod.registerAll_adds namingAdds.fixedNames methods
  obtain onClassOrBefore | ⟨entry, added, isMade, metadata, ofClass, sameClass⟩ :=
    methodsAdd.makesFrom_iff.mp makes
  · exact Or.inl (makesFrom_of_nameConfigurations fixedNames naming onClassOrBefore)
  · right
    obtain ⟨bean, member, inBean⟩ := List.mem_flatMap.mp added
    obtain ⟨maker, madeListed, making⟩ := exists_left_of_forall₂ made member
    have product := BeanMethod.made_isProduct making
    have isBean := ScopedBean.eq_made_of_method inBean isMade
    rw [isBean] at isMade ofClass
    obtain rfl := Option.some.inj (product.metadata.symm.trans ofClass)
    obtain rfl := Option.some.inj (product.factoryMethodName.symm.trans isMade)
    obtain ⟨configuration, ofModel, declared⟩ := List.mem_flatMap.mp (listed.subset madeListed)
    obtain ⟨method, ofConfiguration, rfl⟩ := List.mem_map.mp declared
    obtain ⟨before, ofTable, sameMetadata, sameMethods⟩ := exists_of_contents_eq same.symm ofModel
    obtain ⟨attributes, _, marked, _⟩ := making.derives
    have direct : method.metadata.annotations.attributes AnnotationType.bean ≠ none := by
      rw [marked]
      exact Option.some_ne_none attributes
    rw [← sameMethods] at ofConfiguration
    have marks := ConfigurationModel.marks_of_attributes ofTable ofConfiguration direct
    rwa [ConfigurationClass.className, sameMetadata, sameClass] at marks

/-- Loading makes the bean of each method with a direct marker, if none of its name and class is
there. -/
theorem makesFrom_of_marks (fixedNames : registration.registry.allowOverriding = false)
    (loaded : reader.loadModel.run ⟨registration, .ofTable table⟩ = .ok holders left)
    (member : configuration ∈ (ConfigurationModel.ofTable table).classes) {methodName : String}
    (marks : table.Marks configuration.className methodName) :
    left.registration.registry.MakesFrom configuration.className methodName := by
  obtain ⟨_, named, _, registry, naming, methods, _, rfl⟩ := loadModel_eq_ok_iff.mp loaded
  obtain ⟨⟨_, _, namingAdds⟩, same⟩ := nameConfigurations_adds fixedNames naming
  obtain ⟨method, declared, rfl, direct⟩ := ConfigurationModel.exists_method_of_marks member marks
  obtain ⟨now, ofModel, sameMetadata, sameMethods⟩ := exists_of_contents_eq same member
  rw [← sameMethods] at declared
  have listed : (now, method) ∈ named.model.methods :=
    List.mem_flatMap.mpr ⟨now, ofModel, List.mem_map_of_mem declared⟩
  have makes := BeanMethod.registerAll_makesFrom namingAdds.fixedNames methods listed direct
  rwa [ConfigurationClass.className, sameMetadata] at makes

/-- When a model that was read from a table has been loaded, a method of one of its classes has a
definition exactly if it had one before, or a method of its name and class carries the bean marker
itself. -/
theorem loadModel_makesFrom_iff {Memory : Type} (reader : DefinitionReader Memory)
    (table : MetadataTable) {registration : RegistrationState Memory} {left : LoadingState Memory}
    {holders : List BeanDefinitionHolder}
    (fixedNames : registration.registry.allowOverriding = false)
    (loaded : reader.loadModel.run ⟨registration, .ofTable table⟩ = .ok holders left)
    {configuration : ConfigurationClass}
    (member : configuration ∈ (ConfigurationModel.ofTable table).classes) (methodName : String) :
    left.registration.registry.MakesFrom configuration.className methodName ↔
      registration.registry.MakesFrom configuration.className methodName ∨
        table.Marks configuration.className methodName := by
  constructor
  · exact marks_of_makesFrom fixedNames loaded
  · rintro (before | marks)
    · obtain ⟨_, named, _, registry, naming, methods, _, rfl⟩ := loadModel_eq_ok_iff.mp loaded
      have namingExtends := nameConfigurations_extends naming fixedNames
      have methodsExtend := BeanMethod.registerAll_extends methods namingExtends.fixedNames
      exact methodsExtend.makesFrom (namingExtends.makesFrom before)
    · exact makesFrom_of_marks fixedNames loaded member marks

/-- The cart of the shop is declared with this marker. -/
def cartTable (marker : AnnotationDescriptor) : MetadataTable where
  classes := [{ className := "shop.Config", annotations := [.configuration none true] }]
  methods :=
    [{ methodName := "cart"
       declaringClassName := "shop.Config"
       returnTypeName := some "shop.Cart"
       annotations := [marker] }]

def namingReader : DefinitionReader MetaTypeCache := { generator := Naming.byAnnotations }

def cartModel (marker : AnnotationDescriptor) : LoadingState MetaTypeCache :=
  ⟨⟨.empty, {}⟩, .ofTable (cartTable marker)⟩

/-- With the bean marker the cart is made. -/
theorem marked_cart_made :
    ∃ holders left, namingReader.loadModel.run (cartModel (.bean [])) = .ok holders left ∧
      ∃ configuration ∈ (cartModel (.bean [])).model.classes,
        left.registration.registry.MakesFrom configuration.className "cart" := by
  have loads : (namingReader.loadModel.run' (cartModel (.bean []))).isSome = true := by
    decide +kernel
  obtain ⟨holders, once⟩ := Option.isSome_iff_exists.mp loads
  obtain ⟨left, loaded⟩ := run'_eq_some_iff.mp once
  have classes : (cartModel (.bean [])).model.classes.map ConfigurationClass.className =
      ["shop.Config"] := by
    decide +kernel
  obtain ⟨configuration, single, named⟩ := List.map_eq_singleton_iff.mp classes
  have member : configuration ∈ (cartModel (.bean [])).model.classes := by
    rw [single]
    exact List.mem_singleton.mpr rfl
  refine ⟨holders, left, loaded, configuration, member, ?_⟩
  apply (loadModel_makesFrom_iff namingReader (cartTable (.bean [])) rfl loaded member "cart").mpr
  rw [named]
  exact Or.inr ⟨_, List.mem_singleton.mpr rfl, rfl, rfl, _, List.mem_singleton.mpr rfl, rfl⟩

/-- The marker carries the bean marker. -/
def producesMarker : AnnotationDescriptor :=
  ({ typeName := "shop.Produces" } : AnnotationDescriptor).withMetaType AnnotationType.bean

/-- With a marker that only carries the bean marker the cart belongs to the model, and loading
succeeds without making it. -/
theorem carried_marker_makes_nothing :
    (cartModel producesMarker).registration.registry.allowOverriding = false ∧
      ∃ holders left, namingReader.loadModel.run (cartModel producesMarker) = .ok holders left ∧
        ∃ configuration ∈ (cartModel producesMarker).model.classes,
          ∃ method ∈ configuration.beanMethods, method.name = "cart" ∧
            ¬ left.registration.registry.MakesFrom configuration.className method.name := by
  have loads : (namingReader.loadModel.run' (cartModel producesMarker)).isSome = true := by
    decide +kernel
  obtain ⟨holders, once⟩ := Option.isSome_iff_exists.mp loads
  obtain ⟨left, loaded⟩ := run'_eq_some_iff.mp once
  have classes : (cartModel producesMarker).model.classes.map (fun configuration =>
      configuration.beanMethods.map BeanMethod.name) = [["cart"]] := by
    decide +kernel
  obtain ⟨configuration, single, methods⟩ := List.map_eq_singleton_iff.mp classes
  obtain ⟨method, declared, named⟩ := List.map_eq_singleton_iff.mp methods
  refine ⟨rfl, holders, left, loaded, configuration, ?_, method, ?_, named, ?_⟩
  · rw [single]
    exact List.mem_singleton.mpr rfl
  · rw [declared]
    exact List.mem_singleton.mpr rfl
  · intro makes
    obtain ⟨_, _, _, known, _⟩ | ⟨entry, listed, _, _, marker, carried, isBean⟩ :=
      marks_of_makesFrom rfl loaded makes
    · exact nomatch known
    · obtain rfl := List.mem_singleton.mp listed
      obtain rfl := List.mem_singleton.mp carried
      have different : producesMarker.typeName ≠ AnnotationType.bean := by decide
      exact different isBean

end DefinitionReader

end BeanContainer
