/-
This file shows that the beans which the loading of a model returns account for all that it changes.
Where no name may be bound anew, each of them stands under a name of its own that was free before,
and the only other names that are taken are those of the targets behind their proxies.
-/

import BeanContainer.Proofs.Configuration.Findings
import BeanContainer.Proofs.Registration.Additions
import BeanContainer.Proofs.Registration.Overloads
import BeanContainer.Proofs.Registration.RepeatedClasses

namespace BeanContainer

open ScopedProxy

/-- The names that are taken for the bean: a proxy has its target registered ahead of it. -/
def BeanDefinitionHolder.takenNames (holder : BeanDefinitionHolder) : List String :=
  if holder.definition.proxyTarget?.isSome then [targetName holder.beanName, holder.beanName]
  else [holder.beanName]

/-- The names that are taken for all the beans, in the order in which they are taken. -/
def takenNames (holders : List BeanDefinitionHolder) : List String :=
  holders.flatMap BeanDefinitionHolder.takenNames

/-- Two lists of beans take the names of both. -/
theorem takenNames_append (holders others : List BeanDefinitionHolder) :
    takenNames (holders ++ others) = takenNames holders ++ takenNames others :=
  List.flatMap_append

/-- A bean takes its own name. -/
theorem beanName_mem_takenNames (holder : BeanDefinitionHolder) :
    holder.beanName ∈ holder.takenNames := by
  unfold BeanDefinitionHolder.takenNames
  split <;> simp

/-- The names of the beans are among the taken ones, in their order. -/
theorem beanNames_sublist_takenNames (holders : List BeanDefinitionHolder) :
    (holders.map BeanDefinitionHolder.beanName).Sublist (takenNames holders) := by
  induction holders with
  | nil => exact .slnil
  | cons holder rest inductionHypothesis =>
      have first := List.singleton_sublist.mpr (beanName_mem_takenNames holder)
      exact first.append inductionHypothesis

namespace ScopedBean

/-- A bean has an entry under its name, and in front of it one for the target behind a proxy. -/
theorem fst_entries (bean : ScopedBean) :
    bean.entries.map Prod.fst =
      if bean.mode = .no then [bean.beanName] else [targetName bean.beanName, bean.beanName] := by
  unfold entries
  split <;> rfl

/-- The bean that is shown takes the names of all entries that were made for it. -/
theorem takenNames_shown (bean : ScopedBean)
    (unproxied : bean.holder.definition.proxyTarget? = none) :
    (shown bean.mode bean.holder).takenNames = bean.entries.map Prod.fst := by
  unfold BeanDefinitionHolder.takenNames entries shown beanName
  split <;> simp [unproxied]

/-- A bean has no two entries of one name. -/
theorem nodup_entries (bean : ScopedBean) : (bean.entries.map Prod.fst).Nodup := by
  rw [fst_entries]
  split
  · simp
  · simp [(Registry.ne_targetName bean.beanName).symm]

end ScopedBean

/-- The last registry holds what the first one does and then these beans, and all the names that are
taken for them are new and taken once. -/
structure Registry.Gains (first : Registry) (holders : List BeanDefinitionHolder)
    (last : Registry) : Prop extends Extends first last where
  names : last.names = first.names ++ takenNames holders
  contains_iff : ∀ name,
    last.contains name = true ↔ first.contains name = true ∨ name ∈ takenNames holders
  fresh : ∀ name ∈ takenNames holders, first.contains name = false
  distinct : (takenNames holders).Nodup
  held : ∀ holder ∈ holders, last.definition? holder.beanName = some holder.definition

namespace Registry

variable {first middle last : Registry} {mode : ScopedProxyMode}
  {holder visible : BeanDefinitionHolder} {holders others : List BeanDefinitionHolder}

/-- Nothing is gained where nothing is registered. -/
theorem Gains.refl (fixedNames : first.allowOverriding = false) : Gains first [] first where
  fixedNames := fixedNames
  definition? := id
  names := (List.append_nil _).symm
  contains_iff _ := by simp [takenNames]
  fresh _ member := by contradiction
  distinct := List.nodup_nil
  held _ member := by contradiction

/-- What is gained in two stages is gained in the whole. -/
theorem Gains.trans (begun : Gains first holders middle) (ended : Gains middle others last) :
    Gains first (holders ++ others) last where
  toExtends := begun.toExtends.trans ended.toExtends
  names := by rw [ended.names, begun.names, takenNames_append, List.append_assoc]
  contains_iff name := by
    rw [ended.contains_iff, begun.contains_iff, takenNames_append, List.mem_append, or_assoc]
  fresh name member := by
    rw [takenNames_append, List.mem_append] at member
    obtain early | late := member
    · exact begun.fresh name early
    · have unknown := ended.fresh name late
      rw [Bool.eq_false_iff, ne_eq, begun.contains_iff, not_or] at unknown
      exact Bool.eq_false_iff.mpr unknown.1
  distinct := by
    rw [takenNames_append]
    refine List.nodup_append.mpr ⟨begun.distinct, ended.distinct, ?_⟩
    rintro name early _ late rfl
    have unknown := ended.fresh name late
    rw [(begun.contains_iff name).mpr (Or.inr early)] at unknown
    contradiction
  held holder member := by
    obtain early | late := List.mem_append.mp member
    · exact ended.definition? (begun.held holder early)
    · exact ended.held holder late

/-- Each name that a bean takes was free. -/
theorem free_of_taken (bean : ScopedBean)
    (done : (registerScoped bean.mode bean.holder).run first = .ok visible last) {name : String}
    (taken : name ∈ bean.entries.map Prod.fst) : first.bindingFault? name = none := by
  have free := free_of_registerScoped done
  obtain ⟨_, _, _, _, begun⟩ := registerScoped_eq_ok done
  rw [ScopedBean.fst_entries] at taken
  obtain ⟨plain, _⟩ | ⟨proxied, targetFree, _⟩ := begun
  · rw [if_pos plain] at taken
    rwa [List.mem_singleton.mp taken]
  · rw [if_neg proxied] at taken
    obtain rfl | later := List.mem_cons.mp taken
    · exact targetFree
    · rwa [List.mem_singleton.mp later]

/-- A bean that is registered is all that its registry gains. -/
theorem registerScoped_gains (fixedNames : first.allowOverriding = false)
    (unproxied : holder.definition.proxyTarget? = none)
    (done : (registerScoped mode holder).run first = .ok visible last) :
    Gains first [visible] last := by
  let bean : ScopedBean := ⟨mode, holder⟩
  have adds : Adds first bean.entries last := registerScoped_adds fixedNames done
  obtain ⟨rfl, held, _⟩ := registerScoped_ok done
  have ofHolder : (shown mode holder).takenNames = bean.entries.map Prod.fst :=
    bean.takenNames_shown unproxied
  have taken : takenNames [shown mode holder] = bean.entries.map Prod.fst := by
    rw [takenNames, List.flatMap_singleton, ofHolder]
  refine ⟨⟨adds.fixedNames, fun known => ?_⟩, ?_, fun name => ?_, fun name member => ?_, ?_, ?_⟩
  · exact (adds.definition?_eq_some_iff _ _).mpr (Or.inl known)
  · rw [taken]
    exact adds.names
  · rw [taken]
    exact adds.contains_iff name
  · have free := free_of_taken bean done (taken ▸ member)
    exact (Bool.or_eq_false_iff.mp (isNameInUse_of_free fixedNames free)).1
  · rw [taken]
    exact bean.nodup_entries
  · intro other member
    rw [List.mem_singleton.mp member, beanName_shown]
    exact held

end Registry

namespace DefinitionReader

variable {Memory : Type} {reader : DefinitionReader Memory}

/-- A configuration class that is registered is all that the registry gains. -/
theorem registerConfiguration_gains {configuration : ConfigurationClass}
    {holder : BeanDefinitionHolder} {state left : RegistrationState Memory}
    (fixedNames : state.registry.allowOverriding = false)
    (done : (reader.registerConfiguration configuration).run state = .ok holder left) :
    state.registry.Gains [holder] left.registry := by
  obtain ⟨_, _, _, _, updated, _, registered⟩ := registerConfiguration_eq_ok done
  exact Registry.registerScoped_gains fixedNames (isClassDefinition_of_update updated).unproxied
    registered

variable {state left : LoadingState Memory} {holders : List BeanDefinitionHolder}

/-- A class that is named is all that the registry gains. -/
theorem nameConfiguration_gains {configuration : ConfigurationClass} {holder : BeanDefinitionHolder}
    (fixedNames : state.registration.registry.allowOverriding = false)
    (done : (reader.nameConfiguration configuration).run state = .ok holder left) :
    state.registration.registry.Gains [holder] left.registration.registry := by
  obtain ⟨named, _, begun, rest⟩ := run_bind_eq_ok_iff.mp done
  obtain ⟨registration, registered, rfl⟩ := LoadingM.onRegistration_eq_ok_iff.mp begun
  cases rest
  exact registerConfiguration_gains fixedNames registered

/-- The classes that are named are all that the registry gains. -/
theorem nameConfigurations_gains {configurations : List ConfigurationClass}
    (fixedNames : state.registration.registry.allowOverriding = false)
    (done : (configurations.mapM reader.nameConfiguration).run state = .ok holders left) :
    state.registration.registry.Gains holders left.registration.registry := by
  induction configurations generalizing state holders with
  | nil =>
      cases done
      exact .refl fixedNames
  | cons first rest inductionHypothesis =>
      obtain ⟨holder, middle, later, begun, ended, rfl⟩ := run_mapM_cons_eq_ok_iff.mp done
      have gains := nameConfiguration_gains fixedNames begun
      exact gains.trans (inductionHypothesis gains.fixedNames ended)

end DefinitionReader

/-- A method that makes no bean changes nothing. -/
theorem BeanMethod.registerAll_gains {scopes : ScopeResolver}
    {methods : List (ConfigurationClass × BeanMethod)} {products : List (Option BeanDefinitionHolder)}
    {registry left : Registry} (fixedNames : registry.allowOverriding = false)
    (done : (registerAll scopes methods).run registry = .ok products left) :
    registry.Gains (products.filterMap id) left := by
  unfold registerAll at done
  induction methods generalizing registry products with
  | nil =>
      cases done
      exact .refl fixedNames
  | cons entry rest inductionHypothesis =>
      obtain ⟨product, middle, later, begun, ended, rfl⟩ := run_mapM_cons_eq_ok_iff.mp done
      cases product with
      | none =>
          obtain ⟨rfl, _⟩ := register_eq_none_iff.mp begun
          have gains := inductionHypothesis fixedNames ended
          exact gains
      | some holder =>
          obtain ⟨_, _, _, _, product, registered⟩ := register_eq_some begun
          have gains := Registry.registerScoped_gains fixedNames product.unproxied registered
          exact gains.trans (inductionHypothesis gains.fixedNames ended)

namespace DefinitionReader

variable {Memory : Type} {reader : DefinitionReader Memory} {state left : LoadingState Memory}
  {holders : List BeanDefinitionHolder}

/-- The beans that loading returns are all that the registry gains. -/
theorem loadModel_gains (fixedNames : state.registration.registry.allowOverriding = false)
    (done : reader.loadModel.run state = .ok holders left) :
    state.registration.registry.Gains holders left.registration.registry := by
  obtain ⟨classes, named, products, registry, begun, ended, rfl, rfl⟩ := loadModel_eq_ok_iff.mp done
  have gains := nameConfigurations_gains fixedNames begun
  exact gains.trans (BeanMethod.registerAll_gains gains.fixedNames ended)

/-- Loading leaves the classes as they are, but each with a name. -/
theorem loadModel_names_classes (numbered : state.model.Numbered)
    (fixedNames : state.registration.registry.allowOverriding = false)
    (done : reader.loadModel.run state = .ok holders left) :
    left.model.classes.map ConfigurationClass.contents =
        state.model.classes.map ConfigurationClass.contents ∧
      ∀ configuration ∈ left.model.classes, configuration.beanName.isSome = true := by
  obtain ⟨classes, named, products, registry, begun, ended, rfl, rfl⟩ := loadModel_eq_ok_iff.mp done
  refine ⟨(nameConfigurations_adds fixedNames begun).2, fun configuration member => ?_⟩
  obtain ⟨_, _, _, same, _⟩ := nameUnnamed_ok numbered fixedNames begun member
  rw [same]
  rfl

/-- Where no name may be bound anew, loading a model leaves no class without a name, and what it
returns accounts for all that it has registered: the beans have different names, none of which was
registered before, each of them stands under its name, and the names that have come to the order of
names are those of the beans and those of the targets behind proxies. -/
theorem loadModel_accounts {registration : RegistrationState Memory} {table : MetadataTable}
    {changes : List ModelChange} (fixedNames : registration.registry.allowOverriding = false)
    (done : reader.loadModel.run ⟨registration, .changed table changes⟩ = .ok holders left) :
    let before := registration.registry
    let after := left.registration.registry
    (left.model.classes.map ConfigurationClass.contents =
        (ConfigurationModel.changed table changes).classes.map ConfigurationClass.contents ∧
      ∀ configuration ∈ left.model.classes, configuration.beanName.isSome = true) ∧
    (holders.map BeanDefinitionHolder.beanName).Nodup ∧
    (∀ holder ∈ holders, before.contains holder.beanName = false ∧
      after.definition? holder.beanName = some holder.definition) ∧
    after.names = before.names ++ takenNames holders ∧ (takenNames holders).Nodup ∧
    ∀ name ∈ takenNames holders, before.contains name = false := by
  intro before after
  have gains : before.Gains holders after := loadModel_gains fixedNames done
  have numbered := (ConfigurationModel.placed_changed table changes).1
  refine ⟨loadModel_names_classes numbered fixedNames done,
    gains.distinct.sublist (beanNames_sublist_takenNames holders), fun holder member => ⟨?_, ?_⟩,
    gains.names, gains.distinct, gains.fresh⟩
  · exact gains.fresh _ (List.mem_flatMap.mpr ⟨holder, member, beanName_mem_takenNames holder⟩)
  · exact gains.held holder member

/-- The cart is behind a proxy, and the second of two methods for the desk makes no bean. -/
theorem shop_accounted_for :
    let desk : MethodMetadata :=
      { (BeanMethod.cartMethod .no).metadata with methodName := "desk" }
    let changes : List ModelChange :=
      [.addClass BeanMethod.shopMetadata [(BeanMethod.cartMethod .targetClass).metadata, desk, desk]]
    let registry := Registry.empty.run [.register "lamp" {}]
    ∃ holders left,
      BeanMethod.shopReader.loadModel.run ⟨⟨registry, {}⟩, .changed {} changes⟩ =
          .ok holders left ∧
        (∀ configuration ∈ left.model.classes, configuration.beanName.isSome = true) ∧
        holders.map BeanDefinitionHolder.beanName = ["config", "cart", "desk"] ∧
        left.registration.registry.names =
          ["lamp", "config", "scopedTarget.cart", "cart", "desk"] := by
  intro desk changes registry
  have made : (BeanMethod.shopReader.loadModel.run' ⟨⟨registry, {}⟩, .changed {} changes⟩).map
      (fun holders => (holders.map BeanDefinitionHolder.beanName, takenNames holders)) =
      some (["config", "cart", "desk"], ["config", "scopedTarget.cart", "cart", "desk"]) := by
    decide +kernel
  obtain ⟨holders, once, shown⟩ := Option.map_eq_some_iff.mp made
  obtain ⟨left, done⟩ := run'_eq_some_iff.mp once
  obtain ⟨beanNames, taken⟩ := Prod.mk.inj shown
  have fixedNames : registry.allowOverriding = false := by decide +kernel
  have listed : registry.names = ["lamp"] := by decide +kernel
  obtain ⟨⟨_, named⟩, _, _, names, _⟩ := loadModel_accounts fixedNames done
  refine ⟨holders, left, done, named, beanNames, ?_⟩
  rw [names, taken]
  exact congrArg (· ++ ["config", "scopedTarget.cart", "cart", "desk"]) listed

end DefinitionReader

end BeanContainer
