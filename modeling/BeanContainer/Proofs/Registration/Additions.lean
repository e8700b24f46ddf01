/-
This file says which definitions a successful registration adds, and in which order. Where no name
may be bound anew, what is added comes after what was there, and the target of a proxy comes directly
before the proxy.
-/

import BeanContainer.Proofs.Registration.Models
import Mathlib.Data.List.Forall2

namespace BeanContainer

open ScopedProxy Relation

/-- Each item of the second list has its partner in the first. -/
theorem exists_left_of_forall₂ {First Second : Type} {related : First → Second → Prop}
    {firsts : List First} {seconds : List Second} (all : List.Forall₂ related firsts seconds)
    {second : Second} (member : second ∈ seconds) : ∃ first ∈ firsts, related first second := by
  induction all with
  | nil => contradiction
  | cons here _ inductionHypothesis =>
      obtain rfl | later := List.mem_cons.mp member
      · exact ⟨_, List.mem_cons_self, here⟩
      · obtain ⟨first, listed, there⟩ := inductionHypothesis later
        exact ⟨first, List.mem_cons_of_mem _ listed, there⟩

/-- A bean as it enters the registry: by itself, or behind a proxy. -/
structure ScopedBean where
  mode : ScopedProxyMode
  holder : BeanDefinitionHolder

namespace ScopedBean

variable {bean : ScopedBean} {name : String} {definition : BeanDefinition}

def beanName (bean : ScopedBean) : String := bean.holder.beanName

/-- The name of the definition by which the bean is made. -/
def madeName (bean : ScopedBean) : String :=
  if bean.mode = .no then bean.beanName else targetName bean.beanName

/-- The definition by which the bean is made. -/
def made (bean : ScopedBean) : BeanDefinition := underlying bean.mode bean.holder.definition

/-- The definitions that the registry holds for the bean, in the order of their registration. -/
def entries (bean : ScopedBean) : List (String × BeanDefinition) :=
  if bean.mode = .no then [(bean.beanName, bean.holder.definition)]
  else
    [(targetName bean.beanName, hidden bean.holder.definition),
      (bean.beanName, (shown bean.mode bean.holder).definition)]

/-- The definition that was made is among the entries of its bean, hidden or not. -/
theorem made_mem_entries (bean : ScopedBean) : (bean.madeName, bean.made) ∈ bean.entries := by
  unfold madeName made underlying entries
  split <;> simp

/-- The definition that is shown under the bean name is among the entries of the bean. -/
theorem shown_mem_entries (bean : ScopedBean) :
    (bean.beanName, (shown bean.mode bean.holder).definition) ∈ bean.entries := by
  unfold entries shown
  split <;> simp

/-- Besides the definition by which the bean is made there is only a proxy. -/
theorem mem_entries (member : (name, definition) ∈ bean.entries) :
    name = bean.madeName ∧ definition = bean.made ∨
      ∃ target beanName byClass, definition = proxyOf target beanName byClass := by
  unfold entries at member
  unfold madeName made underlying
  split at member
  · rename_i plain
    rw [if_pos plain, if_pos plain]
    exact Or.inl (Prod.mk.inj (List.mem_singleton.mp member))
  · rename_i proxied
    rw [if_neg proxied, if_neg proxied]
    obtain target | proxy := List.mem_cons.mp member
    · exact Or.inl (Prod.mk.inj target)
    · have same := (Prod.mk.inj (List.mem_singleton.mp proxy)).2
      unfold shown at same
      rw [if_neg proxied] at same
      exact Or.inr ⟨_, _, _, same⟩

/-- A proxy is not made by a method. -/
theorem eq_made_of_method {entry : String × BeanDefinition} (member : entry ∈ bean.entries)
    {methodName : String} (byMethod : entry.2.factoryMethodName = some methodName) :
    entry.2 = bean.made := by
  obtain ⟨_, same⟩ | ⟨_, _, _, isProxy⟩ := mem_entries member
  · exact same
  · rw [isProxy] at byMethod
    cases byMethod

end ScopedBean

/-! What a registration adds. -/

/-- The last registry holds what the first one does and then the given definitions, and no name may
be bound anew in it. -/
structure Registry.Adds (first : Registry) (added : List (String × BeanDefinition))
    (last : Registry) : Prop where
  fixedNames : last.allowOverriding = false
  names : last.names = first.names ++ added.map Prod.fst
  definition?_eq_some_iff : ∀ name definition, last.definition? name = some definition ↔
    first.definition? name = some definition ∨ (name, definition) ∈ added

namespace Registry

variable {first middle last : Registry} {name : String} {definition : BeanDefinition}
  {holder visible : BeanDefinitionHolder} {mode : ScopedProxyMode}

/-- A registry in which no name may be bound anew adds nothing to itself. -/
theorem Adds.refl (fixedNames : first.allowOverriding = false) : Adds first [] first where
  fixedNames := fixedNames
  names := (List.append_nil _).symm
  definition?_eq_some_iff _ _ := by simp

/-- What is added later comes behind what was added before. -/
theorem Adds.trans {added further : List (String × BeanDefinition)} (begun : Adds first added middle)
    (ended : Adds middle further last) : Adds first (added ++ further) last where
  fixedNames := ended.fixedNames
  names := by rw [ended.names, begun.names, List.map_append, List.append_assoc]
  definition?_eq_some_iff name definition := by
    rw [ended.definition?_eq_some_iff, begun.definition?_eq_some_iff, List.mem_append, or_assoc]

/-- A free name adds its definition and nothing else. -/
theorem Adds.bind (fixedNames : first.allowOverriding = false)
    (free : first.bindingFault? name = none) (definition : BeanDefinition) :
    Adds first [(name, definition)] (first.bind name definition) := by
  have absent : first.contains name = false :=
    (Bool.or_eq_false_iff.mp (isNameInUse_of_free fixedNames free)).1
  refine ⟨fixedNames, by simp [Registry.bind, absent], fun other given => ?_⟩
  rw [definition?_bind_eq_some_iff absent, List.mem_singleton, Prod.mk.injEq]

/-- The bindings of aliases add nothing. -/
theorem Adds.connect {aliases : List String} {added : List (String × BeanDefinition)}
    (adds : Adds first added middle)
    (connections : ReflTransGen (Connection name aliases) middle last) : Adds first added last := by
  have kept := Connection.kept connections
  have fixedNames := (Connection.allowOverriding_eq connections).trans adds.fixedNames
  refine ⟨fixedNames, kept.1.trans adds.names, fun other given => ?_⟩
  rw [← adds.definition?_eq_some_iff, definition?, kept.2, definition?]

/-- A holder adds its own definition and nothing else, whatever aliases it has. -/
theorem registerHolder_adds (fixedNames : first.allowOverriding = false)
    {registered : BeanDefinition} (done : (registerHolder holder).run first = .ok registered last) :
    Adds first [(holder.beanName, holder.definition)] last := by
  have left : first.leftBy (registerHolder holder) = last := by rw [leftBy, done]
  obtain ⟨cause, fault, _⟩ | ⟨free, connections⟩ := registerHolder_leftBy holder first
  · rw [registerHolder, EStateM.run_bind, register_run, fault] at done
    contradiction
  · rw [left] at connections
    exact (Adds.bind fixedNames free holder.definition).connect connections

/-- A bean under its scope adds its entries, the hidden target ahead of the proxy. -/
theorem registerScoped_adds (fixedNames : first.allowOverriding = false)
    (done : (registerScoped mode holder).run first = .ok visible last) :
    Adds first (ScopedBean.entries ⟨mode, holder⟩) last := by
  obtain ⟨_, before, registered, held, begun⟩ := registerScoped_eq_ok done
  unfold ScopedBean.entries ScopedBean.beanName
  obtain ⟨plain, rfl⟩ | ⟨proxied, free, rfl⟩ := begun
  · unfold shown at held
    rw [if_pos plain] at held ⊢
    exact registerHolder_adds fixedNames held
  · have hides := Adds.bind fixedNames free (hidden holder.definition)
    have fronts := registerHolder_adds hides.fixedNames held
    rw [beanName_shown] at fronts
    rw [if_neg proxied]
    exact hides.trans fronts

/-! What is found of an added bean. -/

variable {added : List (String × BeanDefinition)} {bean : ScopedBean}

/-- What was added can be looked up. -/
theorem Adds.definition? (adds : Adds first added last) (member : (name, definition) ∈ added) :
    last.definition? name = some definition :=
  (adds.definition?_eq_some_iff name definition).mpr (Or.inr member)

/-- The known names are those from before and those that were added. -/
theorem Adds.contains_iff (adds : Adds first added last) (name : String) :
    last.contains name = true ↔ first.contains name = true ∨ name ∈ added.map Prod.fst := by
  simp only [contains, Option.isSome_iff_exists, adds.definition?_eq_some_iff, exists_or,
    List.mem_map, Prod.exists, exists_and_right, exists_eq_right]

/-- A name that was unknown and not added is still unknown. -/
theorem Adds.contains_eq_false (adds : Adds first added last)
    (absent : first.contains name = false) (unlisted : name ∉ added.map Prod.fst) :
    last.contains name = false := by
  refine Bool.eq_false_iff.mpr fun known => ?_
  obtain before | new := (adds.contains_iff name).mp known
  · rw [absent] at before
    contradiction
  · exact unlisted new

/-- The definition that was made is found behind the name of its bean. -/
theorem Adds.unproxied? (adds : Adds first added last)
    (listed : ∀ entry ∈ bean.entries, entry ∈ added)
    (unproxied : bean.holder.definition.proxyTarget? = none) :
    last.unproxied? bean.beanName = some bean.made := by
  have shownDefinition := adds.definition? (listed _ bean.shown_mem_entries)
  have madeDefinition := adds.definition? (listed _ bean.made_mem_entries)
  unfold Registry.unproxied?
  rw [shownDefinition]
  unfold shown ScopedBean.made ScopedBean.madeName underlying at *
  by_cases plain : bean.mode = .no
  · simp [plain, unproxied]
  · simp only [if_neg plain] at madeDefinition ⊢
    simp only [proxyTarget?_proxyOf]
    exact madeDefinition

end Registry

/-! Classes. -/

namespace DefinitionReader

variable {Memory : Type} {reader : DefinitionReader Memory}

/-- A component adds one bean of its class. -/
theorem registerComponent_adds {metadata : ClassMetadata} {name : Option String}
    {holder : BeanDefinitionHolder} {state left : RegistrationState Memory}
    (fixedNames : state.registry.allowOverriding = false)
    (done : (reader.registerComponent metadata name).run state = .ok holder left) :
    ∃ bean : ScopedBean, IsClassDefinition metadata bean.holder.definition ∧
      state.registry.Adds bean.entries left.registry := by
  obtain ⟨component, prepared, read, done⟩ := run_bind_eq_ok_iff.mp done
  obtain ⟨registry, registered, rfl⟩ := RegistrationM.onRegistry_eq_ok_iff.mp done
  have kept := reader.readComponent_keepsRegistry metadata name state
  rw [read] at kept
  rw [kept] at registered
  exact ⟨⟨component.proxyMode, component.holder⟩, readComponent_ok read,
    Registry.registerScoped_adds fixedNames registered⟩

/-- A configuration class adds one bean of itself. -/
theorem registerConfiguration_adds {configuration : ConfigurationClass}
    {holder : BeanDefinitionHolder} {state left : RegistrationState Memory}
    (fixedNames : state.registry.allowOverriding = false)
    (done : (reader.registerConfiguration configuration).run state = .ok holder left) :
    ∃ bean : ScopedBean, IsClassDefinition configuration.metadata bean.holder.definition ∧
      state.registry.Adds bean.entries left.registry := by
  obtain ⟨scope, resolved, resolving, done⟩ := run_bind_eq_ok_iff.mp done
  obtain ⟨definition, read, reading, done⟩ := run_bind_eq_ok_iff.mp done
  obtain ⟨beanName, named, naming, done⟩ := run_bind_eq_ok_iff.mp done
  obtain ⟨registry, registered, rfl⟩ := RegistrationM.onRegistry_eq_ok_iff.mp done
  have sameResolved := (RegistrationM.ofExcept_eq_ok_iff.mp resolving).2
  obtain ⟨updated, sameRead⟩ := RegistrationM.ofExcept_eq_ok_iff.mp reading
  have kept := RegistrationM.KeepsRegistry.generateName reader.generator definition read
  rw [naming, sameRead, sameResolved] at kept
  rw [kept] at registered
  exact ⟨⟨scope.proxyMode, { definition, beanName }⟩, isClassDefinition_of_update updated,
    Registry.registerScoped_adds fixedNames registered⟩

end DefinitionReader

/-- A class of a model apart from the name under which it is registered. -/
def ConfigurationClass.contents (configuration : ConfigurationClass) :
    ClassMetadata × List BeanMethod :=
  (configuration.metadata, configuration.beanMethods)

/-- A bean name changes nothing of what the classes of the model contain. -/
theorem ConfigurationModel.contents_setBeanName (model : ConfigurationModel) (id : Nat)
    (beanName : String) :
    (model.setBeanName id beanName).classes.map ConfigurationClass.contents =
      model.classes.map ConfigurationClass.contents := by
  apply List.ext_getElem?
  intro place
  rw [List.getElem?_map, List.getElem?_map, getElem?_setBeanName]
  split
  · rw [Option.map_map]
    rfl
  · rfl

namespace DefinitionReader

variable {Memory : Type} {reader : DefinitionReader Memory} {state left : LoadingState Memory}

/-- Naming a class adds one bean of it and keeps the contents of the model. -/
theorem nameConfiguration_adds {configuration : ConfigurationClass} {holder : BeanDefinitionHolder}
    (fixedNames : state.registration.registry.allowOverriding = false)
    (done : (reader.nameConfiguration configuration).run state = .ok holder left) :
    (∃ bean : ScopedBean, IsClassDefinition configuration.metadata bean.holder.definition ∧
        state.registration.registry.Adds bean.entries left.registration.registry) ∧
      left.model.classes.map ConfigurationClass.contents =
        state.model.classes.map ConfigurationClass.contents := by
  have renamed := (nameConfiguration_ok done).2
  obtain ⟨named, _, begun, rest⟩ := run_bind_eq_ok_iff.mp done
  obtain ⟨registration, registered, rfl⟩ := LoadingM.onRegistration_eq_ok_iff.mp begun
  cases rest
  refine ⟨registerConfiguration_adds fixedNames registered, ?_⟩
  rw [renamed, ConfigurationModel.contents_setBeanName]

/-- Each class adds one bean, and apart from the names the model stays what it was. -/
theorem nameConfigurations_adds {configurations : List ConfigurationClass}
    {holders : List BeanDefinitionHolder}
    (fixedNames : state.registration.registry.allowOverriding = false)
    (done : (configurations.mapM reader.nameConfiguration).run state = .ok holders left) :
    (∃ beans : List ScopedBean,
        List.Forall₂ (fun configuration bean =>
          IsClassDefinition configuration.metadata bean.holder.definition) configurations beans ∧
        state.registration.registry.Adds (beans.flatMap ScopedBean.entries)
          left.registration.registry) ∧
      left.model.classes.map ConfigurationClass.contents =
        state.model.classes.map ConfigurationClass.contents := by
  induction configurations generalizing state holders with
  | nil =>
      cases done
      exact ⟨⟨[], .nil, .refl fixedNames⟩, rfl⟩
  | cons first rest inductionHypothesis =>
      obtain ⟨holder, middle, later, begun, ended, rfl⟩ := run_mapM_cons_eq_ok_iff.mp done
      obtain ⟨⟨bean, ofClass, adds⟩, same⟩ := nameConfiguration_adds fixedNames begun
      obtain ⟨⟨beans, ofClasses, further⟩, sameLater⟩ := inductionHypothesis adds.fixedNames ended
      exact ⟨⟨bean :: beans, .cons ofClass ofClasses, adds.trans further⟩, sameLater.trans same⟩

end DefinitionReader

/-! Bean methods. -/

/-- The bean is made by the method, which gives it its name. -/
structure BeanMethod.Makes (entry : ConfigurationClass × BeanMethod) (bean : ScopedBean) : Prop where
  product : IsProduct entry.1 entry.2 bean.holder.definition
  derives : entry.2.DerivesName bean.beanName

namespace BeanMethod

variable {scopes : ScopeResolver} {registry left : Registry}

/-- Some of the methods add a bean each, in the order of the methods. -/
theorem registerAll_adds {methods : List (ConfigurationClass × BeanMethod)}
    {products : List (Option BeanDefinitionHolder)}
    (fixedNames : registry.allowOverriding = false)
    (done : (registerAll scopes methods).run registry = .ok products left) :
    ∃ makers beans, List.Sublist makers methods ∧ List.Forall₂ Makes makers beans ∧
      registry.Adds (beans.flatMap ScopedBean.entries) left := by
  unfold registerAll at done
  induction methods generalizing registry products with
  | nil =>
      cases done
      exact ⟨[], [], .slnil, .nil, .refl fixedNames⟩
  | cons entry rest inductionHypothesis =>
      obtain ⟨product, middle, later, begun, ended, rfl⟩ := run_mapM_cons_eq_ok_iff.mp done
      cases product with
      | none =>
          obtain ⟨rfl, _⟩ := register_eq_none_iff.mp begun
          obtain ⟨makers, beans, listed, made, adds⟩ := inductionHypothesis fixedNames ended
          exact ⟨makers, beans, listed.cons entry, made, adds⟩
      | some holder =>
          obtain ⟨scope, plain, _, derives, product, registered⟩ := register_eq_some begun
          have adds := Registry.registerScoped_adds fixedNames registered
          obtain ⟨makers, beans, listed, made, further⟩ := inductionHypothesis adds.fixedNames ended
          exact ⟨entry :: makers, ⟨scope.proxyMode, plain⟩ :: beans, listed.cons_cons entry,
            .cons ⟨product, derives⟩ made, adds.trans further⟩

end BeanMethod

end BeanContainer
