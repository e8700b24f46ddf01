/-
This file lists the definitions of a started container in the order of their registration, and shows
that each class which the input brings has exactly one definition among them.
-/

import BeanContainer.Proofs.Bootstrap.Assembly
import BeanContainer.Proofs.Bootstrap.Outcome

namespace BeanContainer

open ScopedProxy

/-! The infrastructure. -/

namespace Registry

variable {registry left : Registry}

/-- Supplying beans that are lacking adds their definitions in order. -/
theorem supply_adds {source : Option SourceLocation} {beans : List InfrastructureBean}
    (fixedNames : registry.allowOverriding = false) (lacks : Lacks registry beans) :
    registry.Adds (beans.map fun bean => (bean.beanName, bean.definition source))
      (registry.supply source beans) where
  fixedNames := (allowOverriding_supply registry source beans).trans fixedNames
  names := by
    rw [names_supply lacks, List.map_map]
    rfl
  definition?_eq_some_iff name definition := by
    rw [definition?_supply_eq_some_iff lacks, List.mem_map]
    simp only [Prod.mk.injEq, eq_comm]

/-- An empty registry receives all that is enabled. -/
theorem registerInfrastructure_adds {source : Option SourceLocation} {isPresent : String → Bool}
    {holders : List BeanDefinitionHolder}
    (done : (registerInfrastructure source isPresent).run .empty = .ok holders left) :
    Adds .empty ((InfrastructureBean.all.filter (·.isEnabled isPresent)).map fun bean =>
      (bean.beanName, bean.definition source)) left := by
  obtain ⟨_, _, rfl⟩ := registerInfrastructure_eq_ok_iff.mp done
  -- Nothing is there yet, so all that is enabled is missing.
  have all : InfrastructureBean.missing isPresent .empty =
      InfrastructureBean.all.filter (·.isEnabled isPresent) :=
    List.filter_eq_self.mpr fun _ _ => rfl
  rw [← all]
  exact supply_adds rfl (lacks_missing isPresent .empty)

end Registry

namespace Bootstrap

/-! The components. -/

/-- Each component whose name is new adds one bean, and its name is noted. -/
theorem registerComponents_adds {classes : List ClassMetadata} {names noted : SortedMap String}
    {known : List String} {state left : RegistrationState MetaTypeCache}
    (fixedNames : state.registry.allowOverriding = false)
    (agree : ∀ className, names.contains className = true ↔ className ∈ known)
    (done : (registerComponents classes names).run state = .ok noted left) :
    (∃ beans : List ScopedBean,
        List.Forall₂ (fun metadata bean => IsClassDefinition metadata bean.holder.definition)
          (newcomers known classes) beans ∧
        state.registry.Adds (beans.flatMap ScopedBean.entries) left.registry) ∧
      ∀ className, noted.contains className = true ↔
        className ∈ known ∨ className ∈ classes.map ClassMetadata.className := by
  induction classes generalizing state names known with
  | nil =>
      cases done
      exact ⟨⟨[], .nil, .refl fixedNames⟩, by simpa using agree⟩
  | cons metadata rest inductionHypothesis =>
      unfold registerComponents at done
      unfold newcomers
      by_cases old : metadata.className ∈ known
      · rw [if_pos ((agree _).mpr old)] at done
        rw [if_pos old]
        obtain ⟨added, noted⟩ := inductionHypothesis fixedNames agree done
        refine ⟨added, fun className => ?_⟩
        rw [noted, List.map_cons, List.mem_cons]
        by_cases here : className = metadata.className
        · simp [here, old]
        · simp [here]
      · rw [if_neg fun present => old ((agree _).mp present)] at done
        rw [if_neg old]
        obtain ⟨holder, middle, begun, ended⟩ := run_bind_eq_ok_iff.mp done
        -- The noted names stay in step with the known ones, which decide about the classes to come.
        obtain ⟨bean, ofClass, adds⟩ :=
          DefinitionReader.registerComponent_adds fixedNames begun
        have agreeNow (className : String) :
            (names.insert metadata.className holder.beanName).contains className = true ↔
              className ∈ metadata.className :: known := by
          rw [SortedMap.contains_insert, Bool.or_eq_true, beq_iff_eq, agree, List.mem_cons]
        obtain ⟨⟨beans, ofClasses, further⟩, noted⟩ :=
          inductionHypothesis adds.fixedNames agreeNow ended
        refine ⟨⟨bean :: beans, .cons ofClass ofClasses, adds.trans further⟩, fun className => ?_⟩
        rw [noted, List.map_cons, List.mem_cons, List.mem_cons]
        exact or_assoc.trans or_left_comm

end Bootstrap

/-! All beans of a started container. -/

/-- The beans besides the infrastructure, in the order of their registration. -/
structure Roster where
  components : List ScopedBean
  configurations : List ScopedBean
  products : List ScopedBean

namespace Roster

def ofClasses (roster : Roster) : List ScopedBean := roster.components ++ roster.configurations

def all (roster : Roster) : List ScopedBean := roster.ofClasses ++ roster.products

/-- The classes that have a bean of their own. -/
def classes (input : BootstrapInput) : List ClassMetadata :=
  newcomers [] input.allComponents ++ input.remaining

def infrastructure (input : BootstrapInput) : List (String × BeanDefinition) :=
  (InfrastructureBean.all.filter (·.isEnabled input.isPresent)).map fun bean =>
    (bean.beanName, bean.definition none)

def IsOfClass (metadata : ClassMetadata) (bean : ScopedBean) : Prop :=
  IsClassDefinition metadata bean.holder.definition

def IsOfMethod (maker : ClassMetadata × BeanMethod) (bean : ScopedBean) : Prop :=
  ∃ configuration : ConfigurationClass, configuration.metadata = maker.1 ∧
    IsProduct configuration maker.2 bean.holder.definition

/-- The registry holds the infrastructure and then just the beans of the roster. -/
structure Fits (roster : Roster) (input : BootstrapInput) (registry : Registry) : Prop where
  components : List.Forall₂ IsOfClass (newcomers [] input.allComponents) roster.components
  configurations : List.Forall₂ IsOfClass input.remaining roster.configurations
  products : ∃ makers, List.Sublist makers input.methods ∧
    List.Forall₂ IsOfMethod makers roster.products
  adds : Registry.Adds .empty (infrastructure input ++ roster.all.flatMap ScopedBean.entries)
    registry

end Roster

namespace Bootstrap

/-- The beans that methods add have their makers among the methods of the start, in order. -/
theorem registerAll_makers {input : BootstrapInput} {model : ConfigurationModel}
    {scopes : ScopeResolver} {registry left : Registry}
    {products : List (Option BeanDefinitionHolder)}
    (same : model.classes.map ConfigurationClass.contents =
      input.assembled.classes.map ConfigurationClass.contents)
    (fixedNames : registry.allowOverriding = false)
    (done : (BeanMethod.registerAll scopes model.methods).run registry = .ok products left) :
    ∃ beans makers, List.Sublist makers input.methods ∧
      List.Forall₂ Roster.IsOfMethod makers beans ∧
      registry.Adds (beans.flatMap ScopedBean.entries) left := by
  obtain ⟨makers, beans, listed, made, adds⟩ := BeanMethod.registerAll_adds fixedNames done
  refine ⟨beans, makers.map fun entry => (entry.1.metadata, entry.2), ?_, ?_, adds⟩
  · rw [← BootstrapInput.methods_of_contents_eq same]
    exact listed.map _
  · rw [List.forall₂_map_left_iff]
    exact made.imp fun entry bean makes => ⟨entry.1, rfl, makes.product⟩

/-- Each phase adds its beans after those of the phase before. -/
theorem outcome_fits {input : BootstrapInput} {context : Context}
    (fixedNames : input.allowOverriding = false) (started : outcome input = .ok context) :
    ∃ roster : Roster, roster.Fits input context.factory.registry := by
  obtain ⟨factory, names, _, _, last, holders, components, _, loading, rfl⟩ :=
    outcome_eq_ok_iff.mp started
  obtain ⟨_, prepared, registered, infrastructure, begun, rfl⟩ :=
    componentFactory_eq_ok_iff.mp components
  rw [fixedNames] at infrastructure
  have preparedAdds := Registry.registerInfrastructure_adds infrastructure
  have noneNoted (className : String) : (∅ : SortedMap String).contains className = true ↔
      className ∈ ([] : List String) :=
    iff_of_false Bool.false_ne_true List.not_mem_nil
  obtain ⟨⟨componentBeans, ofComponents, componentsAdd⟩, noted⟩ :=
    registerComponents_adds preparedAdds.fixedNames noneNoted begun
  obtain ⟨left, loaded, rfl⟩ := loadModel_eq_ok_iff.mp loading
  obtain ⟨_, named, _, registry, naming, methods, _, rfl⟩ :=
    DefinitionReader.loadModel_eq_ok_iff.mp loaded
  obtain ⟨⟨configurationBeans, ofConfigurations, configurationsAdd⟩, same⟩ :=
    DefinitionReader.nameConfigurations_adds componentsAdd.fixedNames naming
  obtain ⟨methodBeans, makers, listed, made, methodsAdd⟩ :=
    registerAll_makers (same.trans (input.contents_model names)) configurationsAdd.fixedNames methods
  refine ⟨⟨componentBeans, configurationBeans, methodBeans⟩, ofComponents, ?_,
    ⟨makers, listed, made⟩, ?_⟩
  -- A class that is noted as a component has its name already, so just the others are registered.
  · rw [← input.unnamed_model (by simpa using noted), List.forall₂_map_left_iff]
    exact ofConfigurations
  · have adds := ((preparedAdds.trans componentsAdd).trans configurationsAdd).trans methodsAdd
    rw [Roster.all, Roster.ofClasses, List.flatMap_append, List.flatMap_append,
      ← List.append_assoc, ← List.append_assoc]
    exact adds

end Bootstrap

end BeanContainer
