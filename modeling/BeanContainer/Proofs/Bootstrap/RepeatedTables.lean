/-
This file compares a start with one to which a table is added that it has already. The components of
the table are skipped, but its configuration classes and bean methods come up again.
-/

import BeanContainer.Proofs.Bootstrap.FailFast
import BeanContainer.Proofs.Bootstrap.Lookups
import BeanContainer.Proofs.Bootstrap.RepeatedModels

namespace BeanContainer

/-! Tables. -/

namespace MetadataTable

variable {part table : MetadataTable}

/-- Every entry of the part is one of the table. -/
structure Within (part table : MetadataTable) : Prop where
  classes : part.classes ⊆ table.classes
  methods : part.methods ⊆ table.methods

/-- A table lies within every table that it is merged into. -/
theorem within_merge (first second : MetadataTable) : second.Within (first.merge second) :=
  ⟨List.subset_append_right _ _, List.subset_append_right _ _⟩

/-- A table has no class that the table around it has not. -/
theorem Within.allClasses (within : part.Within table) : part.allClasses ⊆ table.allClasses :=
  List.map_subset _ within.classes

/-- A table has no bean method that the table around it has not. -/
theorem Within.beanMethodsOf (within : part.Within table) (className : String) :
    ConfigurationModel.beanMethodsOf part className ⊆
      ConfigurationModel.beanMethodsOf table className :=
  List.filter_subset _ (List.map_subset _ (List.filter_subset _ within.methods))

/-- Merged tables have the classes of both, one table after the other. -/
theorem allClasses_merge (first second : MetadataTable) :
    (first.merge second).allClasses = first.allClasses ++ second.allClasses :=
  List.map_append

/-- Merged tables have the bean methods of both, one table after the other. -/
theorem beanMethodsOf_merge (first second : MetadataTable) (className : String) :
    ConfigurationModel.beanMethodsOf (first.merge second) className =
      ConfigurationModel.beanMethodsOf first className ++
        ConfigurationModel.beanMethodsOf second className := by
  simp [ConfigurationModel.beanMethodsOf, methodsOf, merge]

/-- The bean methods of a class are methods of the table. -/
theorem beanMethodsOf_subset {className : String} :
    ConfigurationModel.beanMethodsOf table className ⊆ table.methods.map MethodEntry.metadata :=
  fun _ declared =>
    List.map_subset _ (List.filter_subset_self _) (List.filter_subset_self _ declared)

/-- A table contains the classes that it lists. -/
theorem contains_iff (className : String) :
    table.contains className = true ↔ ∃ entry ∈ table.classes, entry.className = className := by
  unfold contains class?
  rw [Option.isSome_map, List.find?_isSome]
  simp only [beq_iff_eq]

/-- Merging a table into itself makes no class present. -/
theorem Within.contains_merge (within : part.Within table) (className : String) :
    (table.merge part).contains className = table.contains className := by
  rw [Bool.eq_iff_iff, contains_iff, contains_iff]
  constructor
  · rintro ⟨entry, listed, named⟩
    obtain ofTable | again := List.mem_append.mp listed
    · exact ⟨entry, ofTable, named⟩
    · exact ⟨entry, within.classes again, named⟩
  · rintro ⟨entry, listed, named⟩
    exact ⟨entry, List.mem_append_left _ listed, named⟩

/-- Merging a table into itself makes no class a configuration. -/
theorem Within.isConfiguration_merge (within : part.Within table) :
    ConfigurationModel.isConfiguration (table.merge part) =
      ConfigurationModel.isConfiguration table := by
  funext metadata
  have again := within.beanMethodsOf metadata.className
  rw [ConfigurationModel.isConfiguration, ConfigurationModel.isConfiguration, beanMethodsOf_merge]
  cases methods : ConfigurationModel.beanMethodsOf table metadata.className with
  | nil =>
      rw [methods] at again
      rw [List.subset_nil.mp again]
      rfl
  | cons method rest => rfl

end MetadataTable

/-! The model. -/

namespace ConfigurationModel

/-- The model of a table depends on its outlines only. -/
theorem ofTable_congr {first second : MetadataTable}
    (same : (ofTable first).classes.map ConfigurationClass.outline =
      (ofTable second).classes.map ConfigurationClass.outline) :
    ofTable first = ofTable second := by
  have gathered (table : MetadataTable) : ofTable table =
      ((table.allClasses.filter (isConfiguration table)).map (outlineOf table)).foldl
        (fun model outline => model.addClass outline.metadata outline.methods) {} := by
    rw [List.foldl_map, List.foldl_filter, ofTable_eq_foldl]
    rfl
  rw [outlines_ofTable, outlines_ofTable] at same
  rw [gathered, gathered, same]

end ConfigurationModel

namespace BootstrapInput

variable {input : BootstrapInput} {table : MetadataTable}

def addTable (input : BootstrapInput) (table : MetadataTable) : BootstrapInput :=
  { input with table := input.table.merge table }

/-- A configuration class of the table. -/
def RepeatsClass (input : BootstrapInput) (table : MetadataTable) (metadata : ClassMetadata) :
    Prop :=
  metadata ∈ table.allClasses ∧ ConfigurationModel.isConfiguration input.table metadata = true

/-- A bean method of the table, or of one of its classes. -/
def RepeatsMethod (input : BootstrapInput) (table : MetadataTable) (metadata : ClassMetadata)
    (method : MethodMetadata) : Prop :=
  metadata ∈ input.table.allClasses ∧
      method ∈ ConfigurationModel.beanMethodsOf table metadata.className ∨
    metadata ∈ table.allClasses ∧
      method ∈ ConfigurationModel.beanMethodsOf input.table metadata.className

/-- The repetition of a table, with classes that are added to the model otherwise. -/
def repetition (within : table.Within input.table) (added : List ClassOutline) : Repetition where
  classes := input.table.allClasses.filter (ConfigurationModel.isConfiguration input.table)
  methods metadata := ConfigurationModel.beanMethodsOf input.table metadata.className
  classesAgain := table.allClasses.filter (ConfigurationModel.isConfiguration input.table)
  methodsAgain metadata := ConfigurationModel.beanMethodsOf table metadata.className
  added := added
  classesAgain_subset := List.filter_subset _ within.allClasses
  methodsAgain_subset metadata := within.beanMethodsOf metadata.className

variable (within : table.Within input.table)

/-- A method comes up again just if the added table declares it for a class that comes up again as
well. -/
theorem repeatsMethod_iff (added : List ClassOutline) (metadata : ClassMetadata)
    (method : MethodMetadata) :
    (repetition within added).RepeatsMethod metadata method ↔
      input.RepeatsMethod table metadata method := by
  have taken (declared : method ∈
      ConfigurationModel.beanMethodsOf input.table metadata.className) :
      ConfigurationModel.isConfiguration input.table metadata = true := by
    simp [ConfigurationModel.isConfiguration, List.ne_nil_of_mem declared]
  unfold Repetition.RepeatsMethod RepeatsMethod repetition
  dsimp only
  rw [List.mem_filter, List.mem_filter]
  constructor
  · rintro (⟨⟨listed, _⟩, again⟩ | ⟨⟨listed, _⟩, declared⟩)
    · exact Or.inl ⟨listed, again⟩
    · exact Or.inr ⟨listed, declared⟩
  · rintro (⟨listed, again⟩ | ⟨listed, declared⟩)
    · exact Or.inl ⟨⟨listed, taken (within.beanMethodsOf _ again)⟩, again⟩
    · exact Or.inr ⟨⟨listed, taken declared⟩, declared⟩

/-- The outlines of the merged tables are those of the longer model. -/
theorem outlines_ofTable_merge (added : List ClassOutline) :
    (ConfigurationModel.ofTable (input.table.merge table)).classes.map
        ConfigurationClass.outline ++ added = (repetition within added).twice := by
  have longer : ConfigurationModel.outlineOf (input.table.merge table) =
      (repetition within added).longer := by
    funext metadata
    rw [ConfigurationModel.outlineOf, MetadataTable.beanMethodsOf_merge]
    rfl
  rw [ConfigurationModel.outlines_ofTable, MetadataTable.allClasses_merge,
    within.isConfiguration_merge, List.filter_append, List.map_append, longer]
  rfl

/-- The table puts nothing into the model but what comes up again. -/
theorem outlines_addTable :
    ∃ added, input.outlines = (repetition within added).once ∧
      (input.addTable table).outlines = (repetition within added).twice := by
  have sameNames (className : String) :
      className ∈ (ConfigurationModel.ofTable input.table).classNames ↔
        className ∈ (ConfigurationModel.ofTable (input.table.merge table)).classNames := by
    rw [ConfigurationModel.classNames_ofTable, ConfigurationModel.classNames_ofTable,
      MetadataTable.allClasses_merge, within.isConfiguration_merge, List.filter_append,
      List.map_append, List.mem_append]
    refine (or_iff_left_of_imp fun again => ?_).symm
    exact List.map_subset _ (List.filter_subset _ within.allClasses) again
  obtain ⟨added, begun, likewise⟩ := outlines_addConfigurations input.configurations sameNames
  refine ⟨added, ?_, ?_⟩
  · rw [outlines, assembled, begun, ConfigurationModel.outlines_ofTable]
    rfl
  · rw [← outlines_ofTable_merge within added]
    exact likewise

/-- A table without configuration classes and bean methods leaves the model as it is. -/
theorem model_addTable (within : table.Within input.table)
    (noClass : ∀ metadata, ¬input.RepeatsClass table metadata)
    (noMethod : ∀ metadata method, ¬input.RepeatsMethod table metadata method) :
    (input.addTable table).model = input.model := by
  have noneAgain : (repetition within []).classesAgain = [] := by
    refine List.eq_nil_iff_forall_not_mem.mpr fun metadata again => ?_
    exact noClass metadata (List.mem_filter.mp again)
  have noMethods : ∀ metadata ∈ (repetition within []).classes,
      (repetition within []).methodsAgain metadata = [] := by
    refine fun metadata listed => List.eq_nil_iff_forall_not_mem.mpr fun method again => ?_
    exact noMethod metadata method (Or.inl ⟨(List.mem_filter.mp listed).1, again⟩)
  have sameTable : ConfigurationModel.ofTable (input.table.merge table) =
      ConfigurationModel.ofTable input.table := by
    apply ConfigurationModel.ofTable_congr
    have twice := outlines_ofTable_merge within []
    rw [List.append_nil, Repetition.twice_eq_once noneAgain noMethods] at twice
    rw [twice, ConfigurationModel.outlines_ofTable]
    exact List.append_nil _
  funext names
  exact congrArg (fun model => withComponentNames names
    (input.configurations.foldl addConfiguration model)) sameTable

/-- The check finds the same problems just if it finds none in what comes up again. -/
theorem problems_addTable_iff (within : table.Within input.table) :
    (input.addTable table).outlines.flatMap ClassOutline.problems =
        input.outlines.flatMap ClassOutline.problems ↔
      (∀ metadata, input.RepeatsClass table metadata →
        metadata.isFullConfiguration = true → metadata.isFinal = false) ∧
      ∀ metadata method, input.RepeatsMethod table metadata method →
        metadata.isFullConfiguration = true → method.isStatic = false →
          method.isOverridable = true := by
  obtain ⟨added, once, twice⟩ := outlines_addTable within
  rw [once, twice, Repetition.problems_twice_eq_iff, Repetition.Flawless]
  simp only [repeatsMethod_iff, ClassOutline.methodProblems_eq_nil_iff]
  refine and_congr_left' (forall_congr' fun metadata => ?_)
  rw [RepeatsClass, ← List.mem_filter]
  rfl

/-- A table that is added again makes no class present. -/
theorem isPresent_addTable (within : table.Within input.table) :
    (input.addTable table).isPresent = input.isPresent := by
  funext className
  exact congrArg (input.knownClasses.contains className || ·) (within.contains_merge className)

end BootstrapInput

namespace Bootstrap

/-- Components whose names are noted already or come before are skipped. -/
theorem registerComponents_append {classes again : List ClassMetadata} {names : SortedMap String}
    (known : ∀ metadata ∈ again, names.contains metadata.className = true ∨
      metadata.className ∈ classes.map ClassMetadata.className) :
    registerComponents (classes ++ again) names = registerComponents classes names := by
  induction classes generalizing names with
  | nil =>
      induction again with
      | nil => rfl
      | cons metadata rest skipRest =>
          obtain ⟨here, later⟩ := List.forall_mem_cons.mp known
          have present := here.resolve_right List.not_mem_nil
          rw [List.nil_append]
          unfold registerComponents
          rw [if_pos present]
          exact skipRest later
  | cons metadata rest inductionHypothesis =>
      rw [List.cons_append, registerComponents, registerComponents]
      split
      · rename_i present
        apply inductionHypothesis
        intro other member
        obtain noted | listed := known other member
        · exact Or.inl noted
        · obtain same | later := List.mem_cons.mp listed
          · exact Or.inl (same ▸ present)
          · exact Or.inr later
      · apply bind_congr
        intro holder
        apply inductionHypothesis
        intro other member
        rw [SortedMap.contains_insert, Bool.or_eq_true, beq_iff_eq]
        obtain noted | listed := known other member
        · exact Or.inl (Or.inr noted)
        · obtain same | later := List.mem_cons.mp listed
          · exact Or.inl (Or.inl same)
          · exact Or.inr later

/-- A table that is added again changes nothing of the components. -/
theorem componentFactory_addTable {input : BootstrapInput} {table : MetadataTable}
    (within : table.Within input.table) :
    componentFactory (input.addTable table) = componentFactory input := by
  have same : (input.addTable table).allComponents = input.allComponents ++
      table.allClasses.filter fun metadata =>
        metadata.annotations.isAnnotated AnnotationType.component := by
    unfold BootstrapInput.allComponents BootstrapInput.addTable
    dsimp only
    rw [MetadataTable.allClasses_merge, List.filter_append, List.append_assoc]
  have skipped : registerComponents (input.addTable table).allComponents ∅ =
      registerComponents input.allComponents ∅ := by
    rw [same]
    apply registerComponents_append
    intro metadata again
    refine Or.inr (List.mem_map_of_mem (List.mem_append_right _ ?_))
    exact List.filter_subset _ within.allClasses again
  unfold componentFactory
  rw [BootstrapInput.isPresent_addTable within, skipped]
  rfl

/-- A patient start succeeds with what was loaded and all problems that were found. -/
theorem collected_eq_ok_iff {work : Except DefinitionError BeanFactory} {found : List Problem}
    {context : Context} :
    collected work found = .ok context ↔
      ∃ factory, work = .ok factory ∧
        context = { factory, problems := found.map fun problem => (Severity.error, problem) } := by
  cases work with
  | error cause => exact iff_of_false nofun nofun
  | ok given =>
      constructor
      · intro started
        cases started
        exact ⟨given, rfl, rfl⟩
      · rintro ⟨_, same, rfl⟩
        cases same
        rfl

variable {input : BootstrapInput}

/-- The factory is loaded just if the components are accepted and then the outlines can be
loaded. -/
theorem loadedFactory_eq_ok_iff {factory : BeanFactory} :
    loadedFactory input = .ok factory ↔
      ∃ prepared noted, componentFactory input = .ok (prepared, noted) ∧
        ∃ registry, Loads noted input.outlines prepared.registry registry ∧
          factory = { prepared with registry } := by
  simp only [← loadModel_outlines_iff]
  unfold loadedFactory
  cases componentFactory input with
  | error cause => exact iff_of_false nofun nofun
  | ok components =>
      obtain ⟨prepared, noted⟩ := components
      dsimp only [bind, Except.bind]
      constructor
      · intro done
        split at done
        · contradiction
        · rename_i loaded loading
          cases done
          exact ⟨prepared, noted, rfl, loaded.2, loading⟩
      · rintro ⟨_, _, same, holders, loading⟩
        cases same
        rw [loading]
        rfl

/-- A start succeeds if the components are registered, the classes are loaded, and no problem ends
it. -/
theorem outcome_outlines_iff {context : Context} :
    outcome input = .ok context ↔
      ∃ prepared noted registry, componentFactory input = .ok (prepared, noted) ∧
        Loads noted input.outlines prepared.registry registry ∧
        (input.failFast = true → input.outlines.flatMap ClassOutline.problems = []) ∧
        context =
          { factory := { prepared with registry }
            problems := (input.outlines.flatMap ClassOutline.problems).map fun problem =>
              (Severity.error, problem) } := by
  have found {prepared : BeanFactory} {noted : SortedMap String}
      (components : componentFactory input = .ok (prepared, noted)) :
      problemsFound input = input.outlines.flatMap ClassOutline.problems := by
    unfold problemsFound
    rw [components]
    exact input.problems_model noted
  have treated : outcome input = .ok context ↔
      collected (loadedFactory input) (problemsFound input) = .ok context ∧
        (input.failFast = true → problemsFound input = []) := by
    cases treatment : input.failFast with
    | false =>
        rw [outcome_collecting treatment]
        exact (and_iff_left nofun).symm
    | true =>
        rw [outcome_failFast treatment, stopped_eq_ok_iff]
        refine and_congr_right fun started => ?_
        rw [problems_of_collected started, List.map_eq_nil_iff]
        exact ⟨fun none _ => none, fun unstopped => unstopped rfl⟩
  rw [treated, collected_eq_ok_iff]
  constructor
  · rintro ⟨⟨_, done, rfl⟩, unstopped⟩
    obtain ⟨prepared, noted, components, registry, loads, rfl⟩ := loadedFactory_eq_ok_iff.mp done
    rw [found components] at unstopped ⊢
    exact ⟨prepared, noted, registry, components, loads, unstopped, rfl⟩
  · rintro ⟨prepared, noted, registry, components, loads, unstopped, rfl⟩
    rw [found components]
    exact ⟨⟨_, loadedFactory_eq_ok_iff.mpr ⟨prepared, noted, components, registry, loads, rfl⟩,
      rfl⟩, unstopped⟩

/-! The start with the table once more. -/

/-- The noted names are those of the components. -/
theorem contains_of_componentFactory (fixedNames : input.allowOverriding = false)
    {prepared : BeanFactory} {noted : SortedMap String}
    (components : componentFactory input = .ok (prepared, noted)) (className : String) :
    noted.contains className = true ↔
      className ∈ input.allComponents.map ClassMetadata.className := by
  obtain ⟨_, _, _, infrastructure, registered, rfl⟩ := componentFactory_eq_ok_iff.mp components
  rw [fixedNames] at infrastructure
  have noneNoted (className : String) : (∅ : SortedMap String).contains className = true ↔
      className ∈ ([] : List String) :=
    iff_of_false Bool.false_ne_true List.not_mem_nil
  have noted := (registerComponents_adds
    (Registry.registerInfrastructure_adds infrastructure).fixedNames noneNoted registered).2
  rw [noted]
  exact or_iff_right List.not_mem_nil

/-- In a started container no product is a proxy itself. -/
theorem outcome_productsUnproxied {context : Context} (started : outcome input = .ok context) :
    context.factory.registry.ProductsUnproxied :=
  .of_placements (outcome_places (fun _ => rfl) (fun _ _ ofClass => ofClass.unproxied)
    (fun _ _ _ product => product.unproxied) started)

/-- A table that adds nothing to the model shows in no step of the start. -/
theorem run_addTable {table : MetadataTable} (within : table.Within input.table)
    (sameModel : (input.addTable table).model = input.model) :
    run (input.addTable table) = run input := by
  unfold run
  rw [componentFactory_addTable within, sameModel]
  rfl

/-- The start that has the table once more ends with the same factory or fails. -/
theorem outcome_addTable_iff {table : MetadataTable} (within : table.Within input.table)
    (fixedNames : input.allowOverriding = false) {again : Context} :
    outcome (input.addTable table) = .ok again ↔
      ∃ context, outcome input = .ok context ∧
        (∀ metadata, input.RepeatsClass table metadata →
          metadata.className ∈ input.allComponents.map ClassMetadata.className) ∧
        (∀ metadata (method : BeanMethod), input.RepeatsMethod table metadata method.metadata →
          ∀ beanName definition, method.DerivesName beanName →
            context.factory.registry.definition? beanName = some definition →
              definition.proxyTarget? = none) ∧
        again =
          { factory := context.factory
            problems := ((input.addTable table).outlines.flatMap ClassOutline.problems).map
              fun problem => (Severity.error, problem) } := by
  obtain ⟨added, once, twice⟩ := BootstrapInput.outlines_addTable within
  have sameMode : (input.addTable table).failFast = input.failFast := rfl
  rw [outcome_outlines_iff, componentFactory_addTable within, sameMode, twice]
  have unproxied_iff (registry : Registry) :
      (BootstrapInput.repetition within added).Unproxied registry ↔
        ∀ metadata (method : BeanMethod), input.RepeatsMethod table metadata method.metadata →
          ∀ beanName definition, method.DerivesName beanName →
            registry.definition? beanName = some definition → definition.proxyTarget? = none := by
    simp only [Repetition.Unproxied, BootstrapInput.repeatsMethod_iff]
  constructor
  · rintro ⟨prepared, noted, registry, components, loads, unstopped, rfl⟩
    have fixedAfter := (componentFactory_ok fixedNames components).1
    have started (loads : Loads noted (BootstrapInput.repetition within added).once
        prepared.registry registry) :=
      outcome_outlines_iff.mpr ⟨prepared, noted, registry, components, once ▸ loads,
        fun failFast => once ▸ Repetition.problems_twice_eq_nil_iff.mp (unstopped failFast), rfl⟩
    obtain ⟨loadsOnce, known, unproxied⟩ := (Repetition.loads_twice_iff fixedAfter
      fun loads => outcome_productsUnproxied (started loads)).mp loads
    refine ⟨_, started loadsOnce, ?_, (unproxied_iff registry).mp unproxied, rfl⟩
    intro metadata repeats
    rw [← contains_of_componentFactory fixedNames components]
    exact known metadata (List.mem_filter.mpr repeats)
  · rintro ⟨_, started, known, unproxied, rfl⟩
    obtain ⟨prepared, noted, registry, components, loads, unstopped, rfl⟩ :=
      outcome_outlines_iff.mp started
    have fixedAfter := (componentFactory_ok fixedNames components).1
    rw [once] at loads unstopped
    refine ⟨prepared, noted, registry, components, ?_,
      fun failFast => Repetition.problems_twice_eq_nil_iff.mpr (unstopped failFast), rfl⟩
    refine (Repetition.loads_twice_iff fixedAfter fun _ => outcome_productsUnproxied started).mpr
      ⟨loads, ?_, (unproxied_iff registry).mpr unproxied⟩
    intro metadata repeats
    rw [contains_of_componentFactory fixedNames components]
    exact known metadata (List.mem_filter.mp repeats)

end Bootstrap

namespace ContainerBuilder

/-- A table that is added once more is harmless if it has no configuration classes and bean methods.
Where no name may be bound anew, the start succeeds once more just if all its configuration classes
are components and the beans of its methods are not behind proxies. The container then is the same
apart from the problems, of which those that come up again are listed again. -/
theorem build_addTable_again (builder : ContainerBuilder) (table : MetadataTable)
    (shared : ContainerProperties) :
    let once := builder.addTable table
    let twice := once.addTable table
    let input := once.input shared
    ((∀ metadata, ¬input.RepeatsClass table metadata) →
      (∀ metadata method, ¬input.RepeatsMethod table metadata method) →
        twice.build shared = once.build shared) ∧
    (input.allowOverriding = false →
      ((∃ again, (twice.build shared).1 = .ok again) ↔
        ∃ context, (once.build shared).1 = .ok context ∧
          (∀ metadata, input.RepeatsClass table metadata →
            metadata.className ∈ input.allComponents.map ClassMetadata.className) ∧
          ∀ metadata (method : BeanMethod), input.RepeatsMethod table metadata method.metadata →
            ∀ beanName definition, method.DerivesName beanName →
              context.factory.registry.definition? beanName = some definition →
                definition.proxyTarget? = none) ∧
      ∀ context again, (once.build shared).1 = .ok context → (twice.build shared).1 = .ok again →
        again.factory = context.factory ∧
        (again.problems = context.problems ↔
          (∀ metadata, input.RepeatsClass table metadata →
            metadata.isFullConfiguration = true → metadata.isFinal = false) ∧
          ∀ metadata method, input.RepeatsMethod table metadata method →
            metadata.isFullConfiguration = true → method.isStatic = false →
              method.isOverridable = true)) := by
  intro once twice input
  have within : table.Within input.table := MetadataTable.within_merge builder.table table
  have sameInput : twice.input shared = input.addTable table := rfl
  refine ⟨fun noClass noMethod => ?_, fun fixedNames => ⟨?_, fun context again built rebuilt => ?_⟩⟩
  · have sameRun := Bootstrap.run_addTable within
      (BootstrapInput.model_addTable within noClass noMethod)
    unfold build
    rw [sameInput, sameRun]
    rfl
  · simp only [build_eq_ok_iff, sameInput, Bootstrap.outcome_addTable_iff within fixedNames]
    constructor
    · rintro ⟨_, context, built, known, unproxied, _⟩
      exact ⟨context, built, known, unproxied⟩
    · rintro ⟨context, built, known, unproxied⟩
      exact ⟨_, context, built, known, unproxied, rfl⟩
  · rw [build_eq_ok_iff] at built rebuilt
    obtain ⟨_, likewise, _, _, rfl⟩ :=
      (Bootstrap.outcome_addTable_iff within fixedNames).mp rebuilt
    obtain rfl := Except.ok.inj (built.symm.trans likewise)
    obtain ⟨_, _, _, _, _, _, rfl⟩ := Bootstrap.outcome_outlines_iff.mp built
    refine ⟨rfl, Iff.trans ?_ (BootstrapInput.problems_addTable_iff within)⟩
    exact List.map_inj_right fun first second same => (Prod.mk.inj same).2

/-- A method of the shop makes a cart. -/
def shopTable (annotations : List AnnotationDescriptor) : MetadataTable where
  classes := [{ className := "shop.Config", annotations := annotations }]
  methods :=
    [{ methodName := "cart"
       declaringClassName := "shop.Config"
       returnTypeName := some "shop.Cart"
       annotations := [.bean []] }]

def tillTable : MetadataTable where
  classes := [{ className := "shop.Till", annotations := [.component none] }]

/-- The table of the till may come in twice, and so may that of a shop that is a component. -/
theorem shop_table_added_again :
    let shared : ContainerProperties := { systemTier := fun _ => none }
    let table := shopTable [.component none, .configuration none true]
    let shop := ({} : ContainerBuilder).addTable table
    ((shop.addTable tillTable).addTable tillTable).build shared =
        (shop.addTable tillTable).build shared ∧
      ∃ context again, (shop.build shared).1 = .ok context ∧
        ((shop.addTable table).build shared).1 = .ok again ∧
        context.userBeanNames = ["config", "cart"] ∧ again.factory = context.factory ∧
        again.problems = context.problems := by
  intro shared table shop
  constructor
  · apply (build_addTable_again shop tillTable shared).1
    · rintro metadata ⟨listed, belongs⟩
      obtain rfl := List.mem_singleton.mp listed
      revert belongs
      decide +kernel
    · rintro metadata method (⟨_, declared⟩ | ⟨listed, declared⟩)
      · contradiction
      · obtain rfl := List.mem_singleton.mp listed
        have noMethods : ConfigurationModel.beanMethodsOf (shop.addTable tillTable).table
            "shop.Till" = [] := by
          decide +kernel
        exact List.not_mem_nil (noMethods ▸ declared)
  · have seen : (shop.build shared).1.toOption.map (fun context =>
        (context.userBeanNames, (context.factory.registry.definition? "cart").map
          BeanDefinition.proxyTarget?)) = some (["config", "cart"], some none) := by
      decide +kernel
    obtain ⟨context, built, view⟩ := exists_of_seen seen
    obtain ⟨names, plain⟩ := Prod.mk.inj view
    obtain ⟨succeeds, same⟩ := (build_addTable_again {} table shared).2 (by decide +kernel)
    have theClass {metadata : ClassMetadata} (listed : metadata ∈ table.allClasses) :=
      List.mem_singleton.mp listed
    have theMethod {className : String} {metadata : MethodMetadata}
        (declared : metadata ∈ ConfigurationModel.beanMethodsOf table className) :=
      List.mem_singleton.mp (MetadataTable.beanMethodsOf_subset declared)
    have known (metadata : ClassMetadata)
        (repeats : (shop.input shared).RepeatsClass table metadata) :
        metadata.className ∈ (shop.input shared).allComponents.map ClassMetadata.className := by
      obtain rfl := theClass repeats.1
      decide +kernel
    have unproxied (metadata : ClassMetadata) (method : BeanMethod)
        (repeats : (shop.input shared).RepeatsMethod table metadata method.metadata)
        (beanName : String) (definition : BeanDefinition) (derives : method.DerivesName beanName)
        (found : context.factory.registry.definition? beanName = some definition) :
        definition.proxyTarget? = none := by
      obtain ⟨declaration, configuration⟩ := method
      obtain rfl : declaration = _ := repeats.elim (fun first => theMethod first.2) fun second =>
        theMethod second.2
      obtain rfl : "cart" = beanName := derives.unique ⟨_, [], rfl, rfl, rfl⟩
      rw [found] at plain
      exact Option.some.inj plain
    obtain ⟨again, rebuilt⟩ := succeeds.mpr ⟨context, built, known, unproxied⟩
    obtain ⟨sameFactory, sameProblems⟩ := same context again built rebuilt
    refine ⟨context, again, built, rebuilt, names, sameFactory, sameProblems.mpr ⟨?_, ?_⟩⟩
    · rintro metadata ⟨listed, _⟩ _
      obtain rfl := theClass listed
      rfl
    · rintro metadata method (⟨_, declared⟩ | ⟨_, declared⟩) _ _ <;>
        obtain rfl := theMethod declared <;>
        rfl

/-- The shop without annotations is refused when it comes up again. -/
theorem config_table_refused_again :
    let shared : ContainerProperties := { systemTier := fun _ => none }
    let shop := ({} : ContainerBuilder).addTable (shopTable [])
    (∃ context, (shop.build shared).1 = .ok context ∧
        context.userBeanNames = ["config", "cart"]) ∧
      ∃ cause, ((shop.addTable (shopTable [])).build shared).1 = .error cause := by
  intro shared shop
  have seen : (shop.build shared).1.toOption.map Context.userBeanNames =
      some ["config", "cart"] := by
    decide +kernel
  have unseen : ((shop.addTable (shopTable [])).build shared).1.toOption.isNone = true := by
    decide +kernel
  exact ⟨exists_of_seen seen, exists_of_unseen unseen⟩

end ContainerBuilder

end BeanContainer
