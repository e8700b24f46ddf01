/-
This file says which classes a start takes in and in which order: first the components, of which only
the first of each name counts, and then the classes of the model that are no components.
-/

import BeanContainer.Proofs.Bootstrap.Phases
import BeanContainer.Proofs.Registration.Additions

namespace BeanContainer

/-! Classes whose names are new. -/

/-- The classes that come first under their names and whose names are not known before. -/
def newcomers (known : List String) : List ClassMetadata → List ClassMetadata
  | [] => []
  | metadata :: rest =>
      if metadata.className ∈ known then newcomers known rest
      else metadata :: newcomers (metadata.className :: known) rest

/-- The newcomers have the names that are not known yet. -/
theorem mem_classNames_newcomers_iff {known : List String} {classes : List ClassMetadata}
    {className : String} :
    className ∈ (newcomers known classes).map ClassMetadata.className ↔
      className ∈ classes.map ClassMetadata.className ∧ className ∉ known := by
  induction classes generalizing known with
  | nil => simp [newcomers]
  | cons metadata rest inductionHypothesis =>
      unfold newcomers
      by_cases old : metadata.className ∈ known
      · rw [if_pos old, inductionHypothesis, List.map_cons, List.mem_cons]
        constructor
        · rintro ⟨listed, unknown⟩
          exact ⟨Or.inr listed, unknown⟩
        · rintro ⟨rfl | listed, unknown⟩
          · contradiction
          · exact ⟨listed, unknown⟩
      · rw [if_neg old, List.map_cons, List.mem_cons, inductionHypothesis, List.map_cons,
          List.mem_cons, List.mem_cons]
        by_cases here : className = metadata.className
        · simp [here, old]
        · simp [here]

/-- The newcomers keep the order of their list. -/
theorem newcomers_sublist (known : List String) (classes : List ClassMetadata) :
    List.Sublist (newcomers known classes) classes := by
  induction classes generalizing known with
  | nil => exact List.nil_sublist []
  | cons metadata rest inductionHypothesis =>
      unfold newcomers
      split
      · exact (inductionHypothesis known).cons metadata
      · exact (inductionHypothesis _).cons_cons metadata

/-- Of each name there is one newcomer only. -/
theorem nodup_classNames_newcomers (known : List String) (classes : List ClassMetadata) :
    ((newcomers known classes).map ClassMetadata.className).Nodup := by
  induction classes generalizing known with
  | nil => exact List.nodup_nil
  | cons metadata rest inductionHypothesis =>
      unfold newcomers
      split
      · exact inductionHypothesis known
      · rw [List.map_cons, List.nodup_cons, mem_classNames_newcomers_iff]
        exact ⟨fun again => again.2 List.mem_cons_self, inductionHypothesis _⟩

/-! The model. -/

namespace ConfigurationModel

def classNames (model : ConfigurationModel) : List String :=
  model.classes.map ConfigurationClass.className

/-- The class carries the configuration marker, or the table declares a bean method for it. -/
def isConfiguration (table : MetadataTable) (metadata : ClassMetadata) : Bool :=
  metadata.annotations.isAnnotated AnnotationType.configuration ||
    !(beanMethodsOf table metadata.className).isEmpty

def takeIn (table : MetadataTable) (model : ConfigurationModel) (metadata : ClassMetadata) :
    ConfigurationModel :=
  if isConfiguration table metadata then
    model.addClass metadata (beanMethodsOf table metadata.className)
  else model

/-- A model is read from a table class by class. -/
theorem ofTable_eq_foldl (table : MetadataTable) :
    ofTable table = table.allClasses.foldl (takeIn table) {} := rfl

/-- A model has the names of its classes, in order. -/
theorem classNames_eq (model : ConfigurationModel) :
    model.classNames =
      (model.classes.map ConfigurationClass.metadata).map ClassMetadata.className := by
  rw [List.map_map]
  rfl

/-- Of the classes that come in the model takes the configurations, in order. -/
theorem metadata_foldl_takeIn (table : MetadataTable) (classes : List ClassMetadata)
    (model : ConfigurationModel) :
    (classes.foldl (takeIn table) model).classes.map ConfigurationClass.metadata =
      model.classes.map ConfigurationClass.metadata ++ classes.filter (isConfiguration table) := by
  induction classes generalizing model with
  | nil => simp
  | cons metadata rest inductionHypothesis =>
      rw [List.foldl_cons, inductionHypothesis, takeIn]
      by_cases taken : isConfiguration table metadata = true
      · rw [if_pos taken, List.filter_cons_of_pos taken, addClass, List.map_append,
          List.append_assoc]
        rfl
      · rw [if_neg taken, List.filter_cons_of_neg taken]

/-- A model that is read from a table holds the configurations of the table. -/
theorem metadata_ofTable (table : MetadataTable) :
    (ofTable table).classes.map ConfigurationClass.metadata =
      table.allClasses.filter (isConfiguration table) := by
  rw [ofTable_eq_foldl, metadata_foldl_takeIn]
  rfl

/-- A model that is read from a table has the names of its configurations. -/
theorem classNames_ofTable (table : MetadataTable) :
    (ofTable table).classNames =
      (table.allClasses.filter (isConfiguration table)).map ClassMetadata.className := by
  rw [classNames_eq, metadata_ofTable]

/-- A full configuration is a configuration in any table. -/
theorem isConfiguration_of_full {table : MetadataTable} {metadata : ClassMetadata}
    (full : metadata.isFullConfiguration = true) : isConfiguration table metadata = true := by
  rw [ClassMetadata.isFullConfiguration, Bool.and_eq_true] at full
  rw [isConfiguration, full.1, Bool.true_or]

/-- A class is a configuration by its own marker or by that of one of its methods. -/
theorem isConfiguration_iff {table : MetadataTable} {metadata : ClassMetadata} :
    isConfiguration table metadata = true ↔
      metadata.annotations.isAnnotated AnnotationType.configuration = true ∨
        ∃ method ∈ table.methodsOf metadata.className,
          method.annotations.isAnnotated AnnotationType.bean = true := by
  unfold isConfiguration beanMethodsOf
  simp

end ConfigurationModel

namespace BootstrapInput

/-- The model before it is told the names of the components. -/
def assembled (input : BootstrapInput) : ConfigurationModel :=
  input.configurations.foldl addConfiguration (.ofTable input.table)

/-- An explicit configuration is added unless a class of its name is there. -/
theorem metadata_addConfiguration (model : ConfigurationModel)
    (configuration : ExplicitConfiguration) :
    (addConfiguration model configuration).classes.map ConfigurationClass.metadata =
      if configuration.metadata.className ∈ model.classNames then
        model.classes.map ConfigurationClass.metadata
      else model.classes.map ConfigurationClass.metadata ++ [configuration.metadata] := by
  have present : (model.classes.any fun present =>
      present.className == configuration.metadata.className) = true ↔
        configuration.metadata.className ∈ model.classNames := by
    simp [ConfigurationModel.classNames]
  unfold addConfiguration
  by_cases known : configuration.metadata.className ∈ model.classNames
  · rw [if_pos (present.mpr known), if_pos known]
  · rw [if_neg fun found => known (present.mp found), if_neg known, ConfigurationModel.addClass,
      List.map_append]
    rfl

/-- An explicit configuration adds its name unless it is there. -/
theorem classNames_addConfiguration (model : ConfigurationModel)
    (configuration : ExplicitConfiguration) :
    (addConfiguration model configuration).classNames =
      if configuration.metadata.className ∈ model.classNames then model.classNames
      else model.classNames ++ [configuration.metadata.className] := by
  rw [ConfigurationModel.classNames_eq, metadata_addConfiguration]
  split
  · rw [← ConfigurationModel.classNames_eq]
  · rw [List.map_append, ← ConfigurationModel.classNames_eq]
    rfl

/-- The names of the model are those from before and those of the explicit configurations. -/
theorem mem_addConfigurations_iff {configurations : List ExplicitConfiguration}
    {model : ConfigurationModel} {className : String} :
    className ∈ (configurations.foldl addConfiguration model).classNames ↔
      className ∈ model.classNames ∨
        ∃ configuration ∈ configurations, configuration.metadata.className = className := by
  induction configurations generalizing model with
  | nil => simp
  | cons configuration rest inductionHypothesis =>
      rw [List.foldl_cons, inductionHypothesis, classNames_addConfiguration]
      by_cases known : configuration.metadata.className ∈ model.classNames
      · rw [if_pos known]
        by_cases here : configuration.metadata.className = className
        · simp [← here, known]
        · simp [here]
      · rw [if_neg known, List.mem_append, List.mem_singleton, or_assoc]
        simp [eq_comm]

/-- Only the first explicit configuration class of a name is taken in, and only where the model has no
class of that name. -/
theorem mem_metadata_addConfigurations_iff {configurations : List ExplicitConfiguration}
    {model : ConfigurationModel} {metadata : ClassMetadata} :
    metadata ∈ (configurations.foldl addConfiguration model).classes.map
        ConfigurationClass.metadata ↔
      metadata ∈ model.classes.map ConfigurationClass.metadata ∨
        metadata.className ∉ model.classNames ∧
          ∃ configuration, configurations.find? (fun configuration =>
              configuration.metadata.className == metadata.className) = some configuration ∧
            configuration.metadata = metadata := by
  induction configurations generalizing model with
  | nil => simp
  | cons configuration rest inductionHypothesis =>
      rw [List.foldl_cons, inductionHypothesis, metadata_addConfiguration,
        classNames_addConfiguration, List.find?_cons]
      by_cases here : configuration.metadata.className = metadata.className
      · rw [beq_iff_eq.mpr here, here]
        by_cases known : metadata.className ∈ model.classNames
        · simp [known]
        · simp [known, eq_comm]
      · have other : metadata ≠ configuration.metadata := by
          rintro rfl
          exact here rfl
        rw [beq_false_of_ne here]
        by_cases known : configuration.metadata.className ∈ model.classNames
        · simp [known]
        · simp [known, other, Ne.symm here]

/-- Where no class is listed twice in the table, none is in the assembled model. -/
theorem nodup_assembled {input : BootstrapInput}
    (distinct : (input.table.classes.map ClassEntry.className).Nodup) :
    input.assembled.classNames.Nodup := by
  have fromTable : (ConfigurationModel.ofTable input.table).classNames.Nodup := by
    rw [ConfigurationModel.classNames_ofTable]
    have all : (input.table.allClasses.map ClassMetadata.className).Nodup := by
      rw [MetadataTable.allClasses, List.map_map]
      exact distinct
    exact all.sublist (List.filter_sublist.map _)
  refine List.foldlRecOn (motive := fun model => (ConfigurationModel.classNames model).Nodup) _ _
    fromTable fun model nodup configuration _ => ?_
  rw [classNames_addConfiguration]
  split
  · exact nodup
  · rename_i new
    exact List.nodup_append.mpr ⟨nodup, List.pairwise_singleton _ _, fun name listed other isNew same =>
      new (List.mem_singleton.mp isNew ▸ same ▸ listed)⟩

/-- The input names the class as a component or configuration class, explicitly or in its table. -/
def Brings (input : BootstrapInput) (className : String) : Prop :=
  (∃ metadata ∈ input.components, metadata.className = className) ∨
  (∃ metadata ∈ input.table.allClasses, metadata.className = className ∧
    metadata.annotations.isAnnotated AnnotationType.component = true) ∨
  (∃ metadata ∈ input.table.allClasses, metadata.className = className ∧
    (metadata.annotations.isAnnotated AnnotationType.configuration = true ∨
      ∃ method ∈ input.table.methodsOf className,
        method.annotations.isAnnotated AnnotationType.bean = true)) ∨
  ∃ configuration ∈ input.configurations, configuration.metadata.className = className

/-- A class comes in as a component or with the model. -/
theorem brings_iff {input : BootstrapInput} {className : String} :
    input.Brings className ↔
      className ∈ input.allComponents.map ClassMetadata.className ∨
        className ∈ input.assembled.classNames := by
  have components : className ∈ input.allComponents.map ClassMetadata.className ↔
      (∃ metadata ∈ input.components, metadata.className = className) ∨
        ∃ metadata ∈ input.table.allClasses, metadata.className = className ∧
          metadata.annotations.isAnnotated AnnotationType.component = true := by
    simp only [allComponents, List.map_append, List.mem_append, List.mem_map, List.mem_filter,
      and_assoc, and_comm]
  have ofTable : className ∈ (ConfigurationModel.ofTable input.table).classNames ↔
      ∃ metadata ∈ input.table.allClasses, metadata.className = className ∧
        (metadata.annotations.isAnnotated AnnotationType.configuration = true ∨
          ∃ method ∈ input.table.methodsOf className,
            method.annotations.isAnnotated AnnotationType.bean = true) := by
    rw [ConfigurationModel.classNames_ofTable, List.mem_map]
    simp only [List.mem_filter, ConfigurationModel.isConfiguration_iff]
    constructor
    · rintro ⟨metadata, ⟨listed, taken⟩, rfl⟩
      exact ⟨metadata, listed, rfl, taken⟩
    · rintro ⟨metadata, listed, rfl, taken⟩
      exact ⟨metadata, ⟨listed, taken⟩, rfl⟩
  rw [components, assembled, mem_addConfigurations_iff, ofTable, or_assoc, Brings]

/-- The classes of the model that are no components, in the order of the model. -/
def remaining (input : BootstrapInput) : List ClassMetadata :=
  (input.assembled.classes.map ConfigurationClass.metadata).filter fun metadata =>
    metadata.className ∉ input.allComponents.map ClassMetadata.className

/-- The remaining classes are those of the model that are no components. -/
theorem mem_remaining_iff {input : BootstrapInput} {className : String} :
    className ∈ input.remaining.map ClassMetadata.className ↔
      className ∈ input.assembled.classNames ∧
        className ∉ input.allComponents.map ClassMetadata.className := by
  unfold remaining ConfigurationModel.classNames
  rw [List.mem_map, List.mem_map]
  constructor
  · rintro ⟨metadata, member, rfl⟩
    obtain ⟨ofModel, new⟩ := List.mem_filter.mp member
    obtain ⟨configuration, listed, rfl⟩ := List.mem_map.mp ofModel
    exact ⟨⟨configuration, listed, rfl⟩, of_decide_eq_true new⟩
  · rintro ⟨⟨configuration, listed, rfl⟩, new⟩
    exact ⟨configuration.metadata,
      List.mem_filter.mpr ⟨List.mem_map_of_mem listed, decide_eq_true new⟩, rfl⟩

/-- The bean methods of the model, each with its class. -/
def methods (input : BootstrapInput) : List (ClassMetadata × BeanMethod) :=
  input.assembled.classes.flatMap fun configuration =>
    configuration.beanMethods.map fun method => (configuration.metadata, method)

/-! What the loading phase finds. -/

def named (names : SortedMap String) (configuration : ConfigurationClass) : ConfigurationClass :=
  match names.get? configuration.className with
  | some beanName => { configuration with beanName := some beanName }
  | none => configuration

/-- The components give their names to the classes of the model. -/
theorem classes_model (input : BootstrapInput) (names : SortedMap String) :
    (input.model names).classes = input.assembled.classes.map (named names) := rfl

/-- A name changes nothing of what a class contains. -/
@[simp] theorem contents_named (names : SortedMap String) (configuration : ConfigurationClass) :
    (named names configuration).contents = configuration.contents := by
  unfold named
  split <;> rfl

/-- A class stays without a name just if none is noted for it. -/
theorem isNone_named {names : SortedMap String} {configuration : ConfigurationClass}
    (nameless : configuration.beanName = none) :
    (named names configuration).beanName.isNone = !names.contains configuration.className := by
  unfold named SortedMap.contains
  split <;> simp_all

/-- The names of the components change nothing of what the model contains. -/
theorem contents_model (input : BootstrapInput) (names : SortedMap String) :
    (input.model names).classes.map ConfigurationClass.contents =
      input.assembled.classes.map ConfigurationClass.contents := by
  rw [classes_model, List.map_map]
  apply List.map_congr_left
  intro configuration _
  exact contents_named names configuration

/-- The names of the components leave the classes of the model in place. -/
theorem metadata_model (input : BootstrapInput) (names : SortedMap String) :
    (input.model names).classes.map ConfigurationClass.metadata =
      input.assembled.classes.map ConfigurationClass.metadata := by
  have same := congrArg (List.map Prod.fst) (input.contents_model names)
  rwa [List.map_map, List.map_map] at same

/-- The classes that loading has to name are the remaining ones. -/
theorem unnamed_model (input : BootstrapInput) {names : SortedMap String}
    (noted : ∀ className, names.contains className = true ↔
      className ∈ input.allComponents.map ClassMetadata.className) :
    (input.model names).unnamed.map ConfigurationClass.metadata = input.remaining := by
  have nameless := (fresh_addConfigurations input.table input.configurations).nameless
  have sameMetadata : ConfigurationClass.metadata ∘ named names = ConfigurationClass.metadata := by
    funext configuration
    exact congrArg Prod.fst (contents_named names configuration)
  rw [ConfigurationModel.unnamed, classes_model, remaining, List.filter_map, List.filter_map,
    List.map_map, sameMetadata]
  apply congrArg (List.map ConfigurationClass.metadata)
  apply List.filter_congr
  intro configuration member
  dsimp only [Function.comp_apply]
  rw [isNone_named (nameless configuration member), Bool.eq_iff_iff, Bool.not_eq_true',
    ← Bool.not_eq_true, noted, decide_eq_true_iff]
  rfl

/-- The methods of the model do not depend on the names of its classes. -/
theorem methods_of_contents_eq {input : BootstrapInput} {model : ConfigurationModel}
    (same : model.classes.map ConfigurationClass.contents =
      input.assembled.classes.map ConfigurationClass.contents) :
    model.methods.map (fun entry => (entry.1.metadata, entry.2)) = input.methods := by
  have fromContents (model : ConfigurationModel) :
      (model.classes.flatMap fun configuration =>
        configuration.beanMethods.map fun method => (configuration.metadata, method)) =
      (model.classes.map ConfigurationClass.contents).flatMap fun contents =>
        contents.2.map fun method => (contents.1, method) := by
    rw [List.flatMap_map]
    rfl
  rw [methods, fromContents, ← same, ← fromContents, ConfigurationModel.methods, List.map_flatMap]
  simp only [List.map_map, Function.comp_def]

end BootstrapInput

end BeanContainer
