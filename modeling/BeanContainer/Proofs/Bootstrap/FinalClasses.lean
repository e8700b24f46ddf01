/-
This file compares the classes that a start registers with those that it checks. It registers the
components and the classes of its model, but it checks the model only, and a component that is given
explicitly does not become part of the model.
-/

import BeanContainer.Proofs.Bootstrap.Accounts
import BeanContainer.Proofs.Bootstrap.FailFast

namespace BeanContainer

/-! The classes that are checked. -/

namespace BootstrapInput

variable {input : BootstrapInput} {className : String} {metadata : ClassMetadata}

/-- The model has a final full class of this name. It stands in the table, or it is the first
explicit configuration class of the name where the table has none. -/
def ChecksFinal (input : BootstrapInput) (className : String) : Prop :=
  (∃ metadata ∈ input.table.allClasses, metadata.className = className ∧
    metadata.isFullConfiguration = true ∧ metadata.isFinal = true) ∨
  (∀ metadata ∈ input.table.allClasses, metadata.className = className →
      ConfigurationModel.isConfiguration input.table metadata = false) ∧
    ∃ configuration, input.configurations.find? (fun configuration =>
        configuration.metadata.className == className) = some configuration ∧
      configuration.metadata.isFullConfiguration = true ∧ configuration.metadata.isFinal = true

/-- The start complains of a final class just if it is a full configuration of its model. -/
theorem checksFinal_iff :
    input.ChecksFinal className ↔
      ∃ metadata ∈ input.assembled.classes.map ConfigurationClass.metadata,
        metadata.className = className ∧ metadata.isFullConfiguration = true ∧
          metadata.isFinal = true := by
  constructor
  · rintro (⟨metadata, listed, named, full, final⟩ | ⟨untaken, configuration, first, full, final⟩)
    · refine ⟨metadata, mem_metadata_addConfigurations_iff.mpr (Or.inl ?_), named, full, final⟩
      rw [ConfigurationModel.metadata_ofTable]
      exact List.mem_filter.mpr ⟨listed, ConfigurationModel.isConfiguration_of_full full⟩
    -- A name that the table leaves free goes to the first explicit configuration class that has it.
    · obtain rfl : configuration.metadata.className = className := by
        simpa using List.find?_some first
      refine ⟨configuration.metadata, mem_metadata_addConfigurations_iff.mpr
        (Or.inr ⟨?_, configuration, first, rfl⟩), rfl, full, final⟩
      rw [ConfigurationModel.classNames_ofTable]
      intro present
      obtain ⟨other, taken, same⟩ := List.mem_map.mp present
      obtain ⟨listed, isConfiguration⟩ := List.mem_filter.mp taken
      rw [untaken other listed same] at isConfiguration
      contradiction
  · rintro ⟨metadata, ofModel, rfl, full, final⟩
    obtain fromTable | ⟨new, configuration, first, rfl⟩ :=
      mem_metadata_addConfigurations_iff.mp ofModel
    · rw [ConfigurationModel.metadata_ofTable] at fromTable
      exact Or.inl ⟨metadata, (List.mem_filter.mp fromTable).1, rfl, full, final⟩
    · rw [ConfigurationModel.classNames_ofTable] at new
      refine Or.inr ⟨fun other listed same => ?_, configuration, first, full, final⟩
      by_contra taken
      have present := List.mem_filter.mpr ⟨listed, Bool.eq_true_of_not_eq_false taken⟩
      exact new (same ▸ List.mem_map_of_mem present)

/-- Whatever is registered and does not come in as an explicit component has come from the model or
from the table, and a full class of the table belongs to the model as well. -/
theorem checksFinal_of_registered (registered : metadata ∈ Roster.classes input)
    (implicit : metadata ∉ input.components) (full : metadata.isFullConfiguration = true)
    (final : metadata.isFinal = true) : input.ChecksFinal metadata.className := by
  obtain component | ofModel := List.mem_append.mp registered
  · obtain explicit | ofTable := List.mem_append.mp ((newcomers_sublist _ _).subset component)
    · contradiction
    · exact Or.inl ⟨metadata, (List.mem_filter.mp ofTable).1, rfl, full, final⟩
  · exact checksFinal_iff.mpr ⟨metadata, (List.mem_filter.mp ofModel).1, rfl, full, final⟩

end BootstrapInput

/-- A start that collects its problems reports just the final full classes of its model. -/
theorem Bootstrap.reports_iff {input : BootstrapInput} {context : Context}
    (patient : input.failFast = false) (started : outcome input = .ok context) (className : String) :
    (∃ entry ∈ context.problems, entry.2.location = { resource := className }) ↔
      input.ChecksFinal className := by
  obtain ⟨_, names, _, _, _, _, components, _⟩ := outcome_eq_ok_iff.mp started
  have found : problemsFound input = (input.model names).problems := by
    unfold problemsFound
    rw [components]
  rw [outcome_collecting patient] at started
  rw [problems_of_collected started, found, BootstrapInput.checksFinal_iff,
    ← input.metadata_model names, ← ConfigurationModel.reports_iff]
  simp only [List.mem_map, exists_exists_and_eq_and]

/-! The classes that are registered. -/

namespace ContainerBuilder

/-- The bean is made of a class of this name, which is full and final. -/
def HoldsFinal (registry : Registry) (name className : String) : Prop :=
  ∃ definition metadata, registry.definition? name = some definition ∧
    definition.factoryMethodName = none ∧ definition.metadata = some metadata ∧
      metadata.className = className ∧ metadata.isFullConfiguration = true ∧ metadata.isFinal = true

/-- What is seen of a bean: the method that makes it, and the name of its class if that is full and
final. -/
def seenOf (registry : Registry) (name : String) : Option (Option String × Option String) :=
  (registry.definition? name).map fun definition =>
    (definition.factoryMethodName,
      (definition.metadata.filter fun metadata =>
        metadata.isFullConfiguration && metadata.isFinal).map ClassMetadata.className)

/-- What can be seen of a definition is enough to tell that it holds a final class. -/
theorem holdsFinal_of_seen {registry : Registry} {name className : String}
    (seen : seenOf registry name = some (none, some className)) :
    HoldsFinal registry name className := by
  obtain ⟨definition, known, view⟩ := Option.map_eq_some_iff.mp seen
  obtain ⟨unmade, classView⟩ := Prod.mk.inj view
  obtain ⟨metadata, filtered, named⟩ := Option.map_eq_some_iff.mp classView
  obtain ⟨ofClass, fullAndFinal⟩ := Option.filter_eq_some_iff.mp filtered
  rw [Bool.and_eq_true] at fullAndFinal
  exact ⟨definition, metadata, known, unmade, ofClass, named, fullAndFinal⟩

/-- Of the final full classes that are registered, only an explicit component escapes the check, and
only where the model has no final full class of its name. -/
theorem build_reports_final_iff (builder : ContainerBuilder) (shared : ContainerProperties)
    {context : Context} (fixedNames : (builder.input shared).allowOverriding = false)
    (patient : (builder.input shared).failFast = false)
    (built : (builder.build shared).1 = .ok context) {name : String} {definition : BeanDefinition}
    {metadata : ClassMetadata}
    (known : context.factory.registry.definition? name = some definition)
    (unmade : definition.factoryMethodName = none) (ofClass : definition.metadata = some metadata)
    (full : metadata.isFullConfiguration = true) (final : metadata.isFinal = true) :
    (∃ entry ∈ context.problems, entry.2.location = { resource := metadata.className }) ↔
      metadata ∉ builder.components ∨
        (builder.input shared).ChecksFinal metadata.className := by
  have started := build_eq_ok_iff.mp built
  rw [Bootstrap.reports_iff patient started]
  constructor
  · exact Or.inr
  · rintro (implicit | checked)
    · obtain ⟨roster, fits⟩ := Bootstrap.outcome_fits fixedNames started
      exact BootstrapInput.checksFinal_of_registered (fits.mem_classes known unmade ofClass)
        implicit full final
    · exact checked

/-- As an explicit configuration class the shop is checked. -/
theorem final_configuration_checked :
    let shared : ContainerProperties := { systemTier := fun _ => none }
    ∃ context, ((finalShop.withFailFast false).build shared).1 = .ok context ∧
      HoldsFinal context.factory.registry "config" "shop.Config" ∧
      ∃ entry ∈ context.problems, entry.2.location = { resource := "shop.Config" } := by
  intro shared
  have seen : ((finalShop.withFailFast false).build shared).1.toOption.map
      (fun context => seenOf context.factory.registry "config") =
        some (some (none, some "shop.Config")) := by
    decide +kernel
  obtain ⟨context, built, view⟩ := exists_of_seen seen
  have holds := holdsFinal_of_seen view
  refine ⟨context, built, holds, ?_⟩
  obtain ⟨definition, metadata, known, unmade, ofClass, named, full, final⟩ := holds
  have reported := (build_reports_final_iff _ shared rfl rfl built known unmade ofClass full
    final).mpr (Or.inl List.not_mem_nil)
  rwa [named] at reported

/-- Here the shop comes in as a component. -/
def finalComponent : ContainerBuilder :=
  let shop : ClassMetadata :=
    { className := "shop.Config"
      annotations := .ofDescriptors [.configuration none true]
      isFinal := true }
  { ({} : ContainerBuilder).addComponent shop with
    allowOverriding := some false, failFast := some false }

/-- An explicit component that is a final full configuration is registered without a problem. -/
theorem final_component_unchecked :
    let shared : ContainerProperties := { systemTier := fun _ => none }
    ∃ context, (finalComponent.build shared).1 = .ok context ∧
      HoldsFinal context.factory.registry "config" "shop.Config" ∧ context.problems = [] := by
  intro shared
  have seen : (finalComponent.build shared).1.toOption.map
      (fun context => (seenOf context.factory.registry "config", context.problems.isEmpty)) =
        some (some (none, some "shop.Config"), true) := by
    decide +kernel
  obtain ⟨context, built, view⟩ := exists_of_seen seen
  obtain ⟨facts, unreported⟩ := Prod.mk.inj view
  exact ⟨context, built, holdsFinal_of_seen facts, List.isEmpty_iff.mp unreported⟩

end ContainerBuilder

end BeanContainer
