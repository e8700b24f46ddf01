/-
This file shows that a start accounts for each class exactly once, by whatever ways the class comes
in, and says in which order the names of all definitions stand.
-/

import BeanContainer.Proofs.Bootstrap.Roster
import Mathlib.Data.List.Nodup

namespace BeanContainer

open ScopedProxy

namespace Registry

/-- The definition under the name is made of a class of this name, and not by a method. -/
def HoldsClass (registry : Registry) (name className : String) : Prop :=
  ∃ definition metadata, registry.definition? name = some definition ∧
    definition.factoryMethodName = none ∧ definition.metadata = some metadata ∧
      metadata.className = className

/-- The bean of this name is made by the method of the class, behind a proxy or not. -/
def HasProduct (registry : Registry) (name : String) (maker : ClassMetadata × BeanMethod) : Prop :=
  ∃ definition, registry.unproxied? name = some definition ∧ definition.metadata = some maker.1 ∧
    definition.factoryMethodName = some maker.2.name ∧
      definition.factoryMethodMetadata = some maker.2.metadata

/-- The names that a bean takes up: that of its target, if it is behind a proxy, and then its own. -/
def namesOf (registry : Registry) (beanName : String) : List String :=
  match (registry.definition? beanName).bind BeanDefinition.proxyTarget? with
  | some _ => [targetName beanName, beanName]
  | none => [beanName]

end Registry

namespace ScopedBean

/-- The name of the class of which the bean is made. -/
def className? (bean : ScopedBean) : Option String :=
  bean.holder.definition.metadata.map ClassMetadata.className

/-- A definition keeps its class metadata behind a proxy. -/
theorem metadata_made (bean : ScopedBean) :
    bean.made.metadata = bean.holder.definition.metadata := by
  unfold made underlying
  split <;> rfl

/-- A definition keeps its factory method behind a proxy. -/
theorem factoryMethodName_made (bean : ScopedBean) :
    bean.made.factoryMethodName = bean.holder.definition.factoryMethodName := by
  unfold made underlying
  split <;> rfl

/-- A proxy is not made of a class. -/
theorem eq_of_metadata {bean : ScopedBean} {name : String} {definition : BeanDefinition}
    {metadata : ClassMetadata} (member : (name, definition) ∈ bean.entries)
    (ofClass : definition.metadata = some metadata) :
    name = bean.madeName ∧ definition = bean.made := by
  obtain same | ⟨_, _, _, isProxy⟩ := mem_entries member
  · exact same
  · rw [isProxy] at ofClass
    cases ofClass

end ScopedBean

namespace Roster

variable {roster : Roster} {input : BootstrapInput} {registry : Registry} {bean : ScopedBean}
  {name className : String}

/-- A bean of a class tells the name of that class. -/
theorem IsOfClass.className? {metadata : ClassMetadata} (ofClass : IsOfClass metadata bean) :
    bean.className? = some metadata.className := by
  rw [ScopedBean.className?, IsClassDefinition.metadata ofClass]
  rfl

/-- The beans of a roster stand for the classes of the start, one for each. -/
theorem Fits.ofClasses (fits : roster.Fits input registry) :
    List.Forall₂ IsOfClass (classes input) roster.ofClasses :=
  List.rel_append fits.components fits.configurations

/-- No bean of a roster was a proxy when it was made. -/
theorem Fits.unproxied (fits : roster.Fits input registry) (member : bean ∈ roster.all) :
    bean.holder.definition.proxyTarget? = none := by
  obtain ofClass | product := List.mem_append.mp member
  · obtain ⟨_, _, classDefinition⟩ := exists_left_of_forall₂ fits.ofClasses ofClass
    exact IsClassDefinition.unproxied classDefinition
  · obtain ⟨makers, _, made⟩ := fits.products
    obtain ⟨_, _, _, _, isProduct⟩ := exists_left_of_forall₂ made product
    exact isProduct.unproxied

/-- The entries of each bean of the roster are among those that the start adds. -/
theorem mem_added (input : BootstrapInput) (member : bean ∈ roster.all) :
    ∀ entry ∈ bean.entries,
      entry ∈ infrastructure input ++ roster.all.flatMap ScopedBean.entries := by
  intro entry inBean
  exact List.mem_append_right _ (List.mem_flatMap.mpr ⟨bean, member, inBean⟩)

/-- Behind the name of each bean stands the definition that was made for it. -/
theorem Fits.unproxied? (fits : roster.Fits input registry) (member : bean ∈ roster.all) :
    registry.unproxied? bean.beanName = some bean.made :=
  fits.adds.unproxied? (mem_added input member) (fits.unproxied member)

/-! The order of the names. -/

/-- Each bean of the roster takes the names of its entries. -/
theorem Fits.namesOf (fits : roster.Fits input registry) (member : bean ∈ roster.all) :
    registry.namesOf bean.beanName = bean.entries.map Prod.fst := by
  have known := fits.adds.definition? (mem_added input member _ bean.shown_mem_entries)
  have proxied := proxyTarget?_shown bean.mode (fits.unproxied member)
  unfold Registry.namesOf ScopedBean.entries
  rw [known, Option.bind_some]
  by_cases plain : bean.mode = .no
  · rw [proxied.mpr plain, if_pos plain]
    rfl
  · rw [if_neg plain]
    cases target : (shown bean.mode bean.holder).definition.proxyTarget? with
    | none => exact absurd (proxied.mp target) plain
    | some _ => rfl

/-- The names are those of the infrastructure and then those of the roster, bean by bean. -/
theorem Fits.names (fits : roster.Fits input registry) :
    registry.names = (infrastructure input).map Prod.fst ++
      (roster.all.map ScopedBean.beanName).flatMap registry.namesOf := by
  rw [fits.adds.names, List.map_append, List.map_flatMap, List.flatMap_map]
  have same : roster.all.flatMap (fun bean => bean.entries.map Prod.fst) =
      roster.all.flatMap fun bean => registry.namesOf bean.beanName :=
    List.flatMap_congr fun bean member => (fits.namesOf member).symm
  rw [same]
  rfl

/-! The definitions that are made of classes. -/

/-- Whatever is made of a class is made by the bean of that class. -/
theorem Fits.exists_bean (fits : roster.Fits input registry) {definition : BeanDefinition}
    {metadata : ClassMetadata} (known : registry.definition? name = some definition)
    (unmade : definition.factoryMethodName = none) (ofClass : definition.metadata = some metadata) :
    ∃ bean ∈ roster.ofClasses, bean.madeName = name ∧
      bean.holder.definition.metadata = some metadata := by
  obtain before | added := (fits.adds.definition?_eq_some_iff name definition).mp known
  · exact nomatch before
  -- Of all that is added, the infrastructure and the proxies know no class, and a bean that a method
  -- makes names the method.
  · obtain basic | added := List.mem_append.mp added
    · obtain ⟨infrastructureBean, _, same⟩ := List.mem_map.mp basic
      rw [← (Prod.mk.inj same).2] at ofClass
      cases ofClass
    · obtain ⟨bean, member, inBean⟩ := List.mem_flatMap.mp added
      obtain ⟨rfl, rfl⟩ := ScopedBean.eq_of_metadata inBean ofClass
      obtain classBean | product := List.mem_append.mp member
      · exact ⟨bean, classBean, rfl, by rw [← bean.metadata_made, ofClass]⟩
      · obtain ⟨makers, _, made⟩ := fits.products
        obtain ⟨_, _, _, _, isProduct⟩ := exists_left_of_forall₂ made product
        rw [bean.factoryMethodName_made, isProduct.factoryMethodName] at unmade
        contradiction

/-- A definition of a class that no method made is one of a class of the start. -/
theorem Fits.mem_classes (fits : roster.Fits input registry) {definition : BeanDefinition}
    {metadata : ClassMetadata} (known : registry.definition? name = some definition)
    (unmade : definition.factoryMethodName = none) (ofClass : definition.metadata = some metadata) :
    metadata ∈ classes input := by
  obtain ⟨bean, member, _, same⟩ := fits.exists_bean known unmade ofClass
  obtain ⟨given, listed, isOfClass⟩ := exists_left_of_forall₂ fits.ofClasses member
  rw [IsClassDefinition.metadata isOfClass] at same
  exact Option.some.inj same ▸ listed

/-- The names that hold a class are those of the beans made for it. -/
theorem Fits.holdsClass_iff (fits : roster.Fits input registry) :
    registry.HoldsClass name className ↔
      ∃ bean ∈ roster.ofClasses, bean.madeName = name ∧ bean.className? = some className := by
  constructor
  · rintro ⟨definition, metadata, known, unmade, ofClass, rfl⟩
    obtain ⟨bean, member, named, same⟩ := fits.exists_bean known unmade ofClass
    refine ⟨bean, member, named, ?_⟩
    rw [ScopedBean.className?, same]
    rfl
  · rintro ⟨bean, member, rfl, sameClass⟩
    obtain ⟨metadata, _, ofClass⟩ := exists_left_of_forall₂ fits.ofClasses member
    have inAll : bean ∈ roster.all := List.mem_append_left _ member
    have known := fits.adds.definition? (mem_added input inAll _ bean.made_mem_entries)
    rw [IsOfClass.className? ofClass] at sameClass
    refine ⟨bean.made, metadata, known, ?_, ?_, Option.some.inj sameClass⟩
    · rw [bean.factoryMethodName_made]
      exact IsClassDefinition.factoryMethodName ofClass
    · rw [bean.metadata_made]
      exact IsClassDefinition.metadata ofClass

/-! The classes that the input brings. -/

/-- Beans of classes tell the names of the classes. -/
theorem map_className? {classes : List ClassMetadata} {beans : List ScopedBean}
    (ofClasses : List.Forall₂ IsOfClass classes beans) :
    beans.map ScopedBean.className? = (classes.map ClassMetadata.className).map some := by
  induction ofClasses with
  | nil => rfl
  | cons ofClass _ inductionHypothesis =>
      rw [List.map_cons, IsOfClass.className? ofClass, inductionHypothesis]
      rfl

/-- The classes of a start are those that it is brought. -/
theorem mem_classes_iff :
    className ∈ (classes input).map ClassMetadata.className ↔ input.Brings className := by
  rw [classes, List.map_append, List.mem_append, mem_classNames_newcomers_iff,
    BootstrapInput.mem_remaining_iff, BootstrapInput.brings_iff]
  by_cases component : className ∈ input.allComponents.map ClassMetadata.className
  · simp [component]
  · simp [component]

/-- No class comes up twice in a start, by whatever ways it comes in. -/
theorem nodup_classes (distinct : (input.table.classes.map ClassEntry.className).Nodup) :
    ((classes input).map ClassMetadata.className).Nodup := by
  rw [classes, List.map_append]
  apply List.nodup_append.mpr
  refine ⟨nodup_classNames_newcomers _ _, ?_, ?_⟩
  · have ofModel := BootstrapInput.nodup_assembled distinct
    rw [ConfigurationModel.classNames_eq] at ofModel
    exact ofModel.sublist (List.filter_sublist.map _)
  · intro name component other left same
    rw [mem_classNames_newcomers_iff] at component
    rw [← same, BootstrapInput.mem_remaining_iff] at left
    exact left.2 component.1

/-- A class that the start is brought has exactly one definition. -/
theorem Fits.existsUnique_holdsClass (fits : roster.Fits input registry)
    (distinct : (input.table.classes.map ClassEntry.className).Nodup)
    (brings : input.Brings className) : ∃! name, registry.HoldsClass name className := by
  have sameNames := map_className? fits.ofClasses
  have nodup : (roster.ofClasses.map ScopedBean.className?).Nodup := by
    rw [sameNames]
    exact (nodup_classes distinct).map fun _ _ => Option.some.inj
  have listed : some className ∈ roster.ofClasses.map ScopedBean.className? := by
    rw [sameNames]
    exact List.mem_map_of_mem (mem_classes_iff.mpr brings)
  obtain ⟨bean, member, sameClass⟩ := List.mem_map.mp listed
  refine ⟨bean.madeName, fits.holdsClass_iff.mpr ⟨bean, member, rfl, sameClass⟩, ?_⟩
  intro name holds
  obtain ⟨other, otherMember, rfl, otherClass⟩ := fits.holdsClass_iff.mp holds
  rw [List.inj_on_of_nodup_map nodup otherMember member (otherClass.trans sameClass.symm)]

/-- Only a class that the start is brought has a definition. -/
theorem Fits.brings_of_holdsClass (fits : roster.Fits input registry)
    (holds : registry.HoldsClass name className) : input.Brings className := by
  obtain ⟨bean, member, _, sameClass⟩ := fits.holdsClass_iff.mp holds
  have listed := List.mem_map_of_mem (f := ScopedBean.className?) member
  rw [map_className? fits.ofClasses, sameClass] at listed
  obtain ⟨_, ofClass, same⟩ := List.mem_map.mp listed
  rw [Option.some.inj same] at ofClass
  exact mem_classes_iff.mp ofClass

/-! The beans under their names. -/

/-- Partners stay partners when they are looked at from the other side. -/
theorem forall₂_map_flip {First Second Third : Type} {related : First → Second → Prop}
    {other : Third → First → Prop} {view : Second → Third} {firsts : List First}
    {seconds : List Second} (all : List.Forall₂ related firsts seconds)
    (each : ∀ first, ∀ second ∈ seconds, related first second → other (view second) first) :
    List.Forall₂ other (seconds.map view) firsts := by
  induction all with
  | nil => exact .nil
  | cons here _ inductionHypothesis =>
      refine .cons (each _ _ List.mem_cons_self here) (inductionHypothesis ?_)
      intro first second member
      exact each first second (List.mem_cons_of_mem _ member)

/-- A bean of a class registers the class under its name. -/
theorem Fits.hasClass (fits : roster.Fits input registry) {metadata : ClassMetadata}
    (member : bean ∈ roster.all) (ofClass : IsOfClass metadata bean) :
    registry.HasClass bean.beanName metadata :=
  ⟨bean.made, fits.unproxied? member, IsClassDefinition.underlying ofClass bean.mode⟩

/-- A bean of a method registers the product of the method under its name. -/
theorem Fits.hasProduct (fits : roster.Fits input registry) {maker : ClassMetadata × BeanMethod}
    (member : bean ∈ roster.all) (ofMethod : IsOfMethod maker bean) :
    registry.HasProduct bean.beanName maker := by
  obtain ⟨configuration, sameMetadata, product⟩ := ofMethod
  refine ⟨bean.made, fits.unproxied? member, ?_, ?_, ?_⟩
  · rw [bean.metadata_made, product.metadata, sameMetadata]
  · rw [bean.factoryMethodName_made, product.factoryMethodName]
  · unfold ScopedBean.made underlying
    split
    · exact product.factoryMethodMetadata
    · exact product.hidden.factoryMethodMetadata

end Roster

namespace ContainerBuilder

/-- Where no name may be bound anew and the table has no class twice, each class that the input
brings has exactly one definition, and no other class has one. The names of the infrastructure come
first, then those of the components, of the other configuration classes and of the beans that methods
make, and a target stands directly before its proxy. -/
theorem build_accounts_for_classes (builder : ContainerBuilder) (shared : ContainerProperties)
    {context : Context} (distinct : (builder.table.classes.map ClassEntry.className).Nodup)
    (fixedNames : (builder.input shared).allowOverriding = false)
    (built : (builder.build shared).1 = .ok context) :
    let input := builder.input shared
    let registry := context.factory.registry
    (∀ className, (∃ name, registry.HoldsClass name className) ↔ input.Brings className) ∧
      (∀ className, input.Brings className → ∃! name, registry.HoldsClass name className) ∧
      ∃ components configurations products,
        registry.names =
            (InfrastructureBean.all.filter (·.isEnabled input.isPresent)).map (·.beanName) ++
              (components ++ configurations ++ products).flatMap registry.namesOf ∧
          List.Forall₂ registry.HasClass components (newcomers [] input.allComponents) ∧
          List.Forall₂ registry.HasClass configurations input.remaining ∧
          ∃ makers, List.Sublist makers input.methods ∧
            List.Forall₂ registry.HasProduct products makers := by
  intro input registry
  obtain ⟨roster, fits⟩ := Bootstrap.outcome_fits fixedNames (build_eq_ok_iff.mp built)
  refine ⟨fun className => ⟨?_, ?_⟩, fun className => fits.existsUnique_holdsClass distinct, ?_⟩
  · rintro ⟨name, holds⟩
    exact fits.brings_of_holdsClass holds
  · intro brings
    exact (fits.existsUnique_holdsClass distinct brings).exists
  · obtain ⟨makers, listed, made⟩ := fits.products
    refine ⟨roster.components.map ScopedBean.beanName,
      roster.configurations.map ScopedBean.beanName, roster.products.map ScopedBean.beanName,
      ?_, ?_, ?_, makers, listed, ?_⟩
    · rw [← List.map_append, ← List.map_append]
      have names := fits.names
      rw [Roster.infrastructure, List.map_map] at names
      exact names
    · exact Roster.forall₂_map_flip fits.components fun metadata bean member ofClass =>
        fits.hasClass (List.mem_append_left _ (List.mem_append_left _ member)) ofClass
    · exact Roster.forall₂_map_flip fits.configurations fun metadata bean member ofClass =>
        fits.hasClass (List.mem_append_left _ (List.mem_append_right _ member)) ofClass
    · exact Roster.forall₂_map_flip made fun maker bean member ofMethod =>
        fits.hasProduct (List.mem_append_right _ member) ofMethod

/-- The cart comes in as a component twice, and the shop as a configuration class twice. -/
def mixedShop : ContainerBuilder :=
  let cart : ClassMetadata :=
    { className := "shop.Cart"
      annotations := .ofDescriptors [.component none, .scope "session" .targetClass] }
  let shop : ClassMetadata :=
    { className := "shop.Config", annotations := .ofDescriptors [.configuration none true] }
  let table : MetadataTable :=
    { classes :=
        [{ className := "shop.Config" },
          { className := "shop.Cart", annotations := [.component none] }]
      methods :=
        [{ methodName := "till"
           declaringClassName := "shop.Config"
           annotations := [.bean []] }] }
  let builder :=
    ((({} : ContainerBuilder).addComponent cart).addTable table).addConfiguration shop []
  { builder with allowOverriding := some false, failFast := some false }

/-- A component behind a proxy, a configuration class and its method are all accounted for. -/
theorem mixed_shop_accounts :
    let shared : ContainerProperties := { systemTier := fun _ => none }
    ∃ context, (mixedShop.build shared).1 = .ok context ∧
      context.userBeanNames = ["scopedTarget.cart", "cart", "config", "till"] ∧
      ∀ className ∈ ["shop.Cart", "shop.Config"],
        ∃! name, context.factory.registry.HoldsClass name className := by
  intro shared
  have seen : (mixedShop.build shared).1.toOption.map (fun context => context.userBeanNames) =
      some ["scopedTarget.cart", "cart", "config", "till"] := by
    decide +kernel
  have distinct : (mixedShop.table.classes.map ClassEntry.className).Nodup := by decide
  obtain ⟨context, built, names⟩ := exists_of_seen seen
  obtain ⟨_, once, _⟩ := build_accounts_for_classes mixedShop shared distinct rfl built
  refine ⟨context, built, names, ?_⟩
  intro className listed
  apply once className
  obtain rfl | listed := List.mem_cons.mp listed
  · exact Or.inl ⟨_, List.mem_cons_self, rfl⟩
  · rw [List.mem_singleton.mp listed]
    exact Or.inr (Or.inr (Or.inr ⟨_, List.mem_cons_self, rfl⟩))

end ContainerBuilder

end BeanContainer
