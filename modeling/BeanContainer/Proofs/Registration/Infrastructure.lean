/-
This file says what a call does that registers the infrastructure: which beans are missing, which of
them it registers, and that it registers none of them twice, whatever else happens between two calls
as long as no definition is removed.
-/

import BeanContainer.Proofs.Registration.WriteOnce
import Mathlib.Data.List.TakeWhile

namespace BeanContainer

open Relation

namespace InfrastructureBean

/-- No two beans of the infrastructure share a name. -/
theorem beanNames_nodup : (all.map beanName).Nodup := by decide +kernel

/-- No bean of the infrastructure has a blank name. -/
theorem isBlank_beanName : ∀ bean ∈ all, Text.isBlank bean.beanName = false := by decide +kernel

/-- What is enabled and has no definition yet, in the fixed order. -/
def missing (isPresent : String → Bool) (registry : Registry) : List InfrastructureBean :=
  (all.filter (·.isEnabled isPresent)).filter fun bean => !registry.contains bean.beanName

def holder (bean : InfrastructureBean) (source : Option SourceLocation) : BeanDefinitionHolder :=
  { definition := bean.definition source, beanName := bean.beanName }

/-- A bean is missing if it is enabled and its name has no definition. -/
theorem mem_missing_iff {isPresent : String → Bool} {registry : Registry}
    {bean : InfrastructureBean} :
    bean ∈ missing isPresent registry ↔
      (bean ∈ all ∧ bean.isEnabled isPresent = true) ∧ registry.contains bean.beanName = false := by
  rw [missing, List.mem_filter, List.mem_filter, Bool.not_eq_true']

end InfrastructureBean

namespace Registry

open InfrastructureBean

variable {registry : Registry} {source : Option SourceLocation} {bean : InfrastructureBean}
  {beans rest : List InfrastructureBean}

/-! Beans that are new to a registry. -/

/-- None of these beans has a definition yet, and each has a name of its own. -/
structure Lacks (registry : Registry) (beans : List InfrastructureBean) : Prop where
  distinct : (beans.map beanName).Nodup
  absent : ∀ bean ∈ beans, registry.contains bean.beanName = false

/-- The missing beans have different names, none of them known. -/
theorem lacks_missing (isPresent : String → Bool) (registry : Registry) :
    Lacks registry (missing isPresent registry) where
  distinct :=
    beanNames_nodup.sublist ((List.filter_sublist.trans List.filter_sublist).map beanName)
  absent _ listed := (mem_missing_iff.mp listed).2

/-- What is lacking is so in part as well. -/
theorem Lacks.sublist (lacks : Lacks registry beans) (fewer : List.Sublist rest beans) :
    Lacks registry rest where
  distinct := lacks.distinct.sublist (fewer.map beanName)
  absent bean listed := lacks.absent bean (fewer.subset listed)

/-- A bean that is supplied leaves the others lacking. -/
theorem Lacks.bind (lacks : Lacks registry (bean :: rest)) (definition : BeanDefinition) :
    Lacks (registry.bind bean.beanName definition) rest := by
  obtain ⟨distinct, absent⟩ := lacks
  rw [List.map_cons, List.nodup_cons] at distinct
  refine ⟨distinct.2, fun other listed => ?_⟩
  rw [contains_bind, absent other (List.mem_cons_of_mem _ listed), Bool.or_false, beq_eq_false_iff_ne]
  rintro same
  exact distinct.1 (same ▸ List.mem_map_of_mem listed)

/-- The registry with these beans bound one after the other. -/
def supply (registry : Registry) (source : Option SourceLocation)
    (beans : List InfrastructureBean) : Registry :=
  beans.foldl (fun registry bean => registry.bind bean.beanName (bean.definition source)) registry

/-- Supplying beans leaves the permission alone. -/
theorem allowOverriding_supply (registry : Registry) (source : Option SourceLocation)
    (beans : List InfrastructureBean) :
    (registry.supply source beans).allowOverriding = registry.allowOverriding := by
  induction beans generalizing registry with
  | nil => rfl
  | cons bean rest inductionHypothesis => exact inductionHypothesis _

/-- The supplied beans come to the end of the order, in the order of the list. -/
theorem names_supply (lacks : Lacks registry beans) :
    (registry.supply source beans).names = registry.names ++ beans.map beanName := by
  induction beans generalizing registry with
  | nil => exact (List.append_nil _).symm
  | cons bean rest inductionHypothesis =>
      have added : (registry.bind bean.beanName (bean.definition source)).names =
          registry.names ++ [bean.beanName] := by
        rw [Registry.bind, lacks.absent bean List.mem_cons_self]
        rfl
      refine (inductionHypothesis (lacks.bind _)).trans ?_
      rw [added, List.append_assoc, List.singleton_append, List.map_cons]

/-- A definition is an earlier one or that of a supplied bean. -/
theorem definition?_supply_eq_some_iff (lacks : Lacks registry beans) (name : String)
    (definition : BeanDefinition) :
    (registry.supply source beans).definition? name = some definition ↔
      registry.definition? name = some definition ∨
        ∃ bean ∈ beans, name = bean.beanName ∧ definition = bean.definition source := by
  induction beans generalizing registry with
  | nil => simp [supply]
  | cons bean rest inductionHypothesis =>
      refine (inductionHypothesis (lacks.bind _)).trans ?_
      rw [definition?_bind_eq_some_iff (lacks.absent bean List.mem_cons_self),
        List.exists_mem_cons_iff, or_assoc]

/-- The known names are those from before and those of the supplied beans. -/
theorem contains_supply_iff (lacks : Lacks registry beans) (name : String) :
    (registry.supply source beans).contains name = true ↔
      registry.contains name = true ∨ name ∈ beans.map beanName := by
  simp only [contains, Option.isSome_iff_exists, definition?_supply_eq_some_iff lacks,
    exists_or, List.mem_map]
  refine or_congr_right ⟨?_, ?_⟩
  · rintro ⟨_, bean, listed, rfl, _⟩
    exact ⟨bean, listed, rfl⟩
  · rintro ⟨bean, listed, rfl⟩
    exact ⟨_, bean, listed, rfl, rfl⟩

/-- Each bean that is enabled is there before or is missing. -/
theorem contains_supply_missing (source : Option SourceLocation) {isPresent : String → Bool}
    (registry : Registry) (listed : bean ∈ all) (enabled : bean.isEnabled isPresent = true) :
    (registry.supply source (missing isPresent registry)).contains bean.beanName = true := by
  rw [contains_supply_iff (lacks_missing isPresent registry)]
  cases before : registry.contains bean.beanName with
  | true => exact Or.inl rfl
  | false => exact Or.inr (List.mem_map_of_mem (mem_missing_iff.mpr ⟨⟨listed, enabled⟩, before⟩))

/-- Once the missing beans are supplied none is missing. -/
theorem missing_supply (source : Option SourceLocation) (isPresent : String → Bool)
    (registry : Registry) :
    missing isPresent (registry.supply source (missing isPresent registry)) = [] := by
  refine List.eq_nil_iff_forall_not_mem.mpr fun bean left => ?_
  obtain ⟨⟨listed, enabled⟩, absent⟩ := mem_missing_iff.mp left
  rw [contains_supply_missing source registry listed enabled] at absent
  contradiction

/-- Apart from the missing beans, nothing is there that was not there before. -/
theorem filter_supply (source : Option SourceLocation) (isPresent : String → Bool)
    (registry : Registry) :
    all.filter (fun bean => !registry.contains bean.beanName &&
        (registry.supply source (missing isPresent registry)).contains bean.beanName) =
      missing isPresent registry := by
  conv_rhs => rw [missing, List.filter_filter]
  refine List.filter_congr fun bean listed => ?_
  cases known : registry.contains bean.beanName with
  | true => rfl
  | false =>
      rw [Bool.not_false, Bool.true_and, Bool.true_and, Bool.eq_iff_iff,
        contains_supply_iff (lacks_missing isPresent registry), known, List.mem_map]
      constructor
      · rintro (before | ⟨other, supplied, same⟩)
        · contradiction
        · obtain ⟨⟨otherListed, enabled⟩, _⟩ := mem_missing_iff.mp supplied
          obtain rfl := List.inj_on_of_nodup_map beanNames_nodup otherListed listed same
          exact enabled
      · intro enabled
        exact Or.inr ⟨bean, mem_missing_iff.mpr ⟨⟨listed, enabled⟩, known⟩, rfl⟩

/-! One call. -/

/-- A bean that is there already is left alone. -/
def registerMissing (source : Option SourceLocation) (bean : InfrastructureBean) :
    RegistryM (Option BeanDefinitionHolder) := do
  if (← get).contains bean.beanName then return none
  let definition ← register bean.beanName (bean.definition source)
  return some { definition, beanName := bean.beanName }

/-- The infrastructure is registered bean by bean, and what is there already is left out of the
answer. -/
theorem registerInfrastructure_eq (source : Option SourceLocation) (isPresent : String → Bool) :
    registerInfrastructure source isPresent = (do
      let registered ←
        (InfrastructureBean.all.filter (·.isEnabled isPresent)).mapM (registerMissing source)
      return registered.filterMap id) := rfl

/-- A bean is skipped where its name is known, and refused only where its name is an alias. -/
theorem registerMissing_run (source : Option SourceLocation) (bean : InfrastructureBean)
    (registry : Registry) :
    (registerMissing source bean).run registry =
      if registry.contains bean.beanName then .ok none registry
      else
        match registry.bindingFault? bean.beanName with
        | some cause => .error cause registry
        | none =>
            .ok (some (bean.holder source)) (registry.bind bean.beanName (bean.definition source)) := by
  unfold registerMissing
  rw [EStateM.run_bind]
  dsimp only [EStateM.run_get]
  by_cases known : registry.contains bean.beanName = true
  · rw [if_pos known, if_pos known]
    rfl
  · rw [if_neg known, if_neg known, EStateM.run_bind, register_run]
    cases registry.bindingFault? bean.beanName <;> rfl

/-- The beans before the first one that the registry refuses. -/
def accepted (registry : Registry) (beans : List InfrastructureBean) : List InfrastructureBean :=
  beans.takeWhile fun bean => (registry.bindingFault? bean.beanName).isNone

/-- Why the registry refuses one of these beans, if it does. -/
def refusal? (registry : Registry) (beans : List InfrastructureBean) : Option DefinitionError :=
  beans.findSome? fun bean => registry.bindingFault? bean.beanName

/-- Beans are accepted up to the first refused one. -/
theorem accepted_cons (registry : Registry) (bean : InfrastructureBean)
    (rest : List InfrastructureBean) :
    registry.accepted (bean :: rest) =
      match registry.bindingFault? bean.beanName with
      | some _ => []
      | none => bean :: registry.accepted rest := by
  rw [accepted, List.takeWhile_cons]
  cases registry.bindingFault? bean.beanName <;> rfl

/-- The first refused bean decides the refusal. -/
theorem refusal?_cons (registry : Registry) (bean : InfrastructureBean)
    (rest : List InfrastructureBean) :
    registry.refusal? (bean :: rest) =
      match registry.bindingFault? bean.beanName with
      | some cause => some cause
      | none => registry.refusal? rest := by
  rw [refusal?, List.findSome?_cons]
  cases registry.bindingFault? bean.beanName <;> rfl

/-- A registry still treats these beans as the one from which a call has started. -/
def Agrees (start registry : Registry) (beans : List InfrastructureBean) : Prop :=
  ∀ bean ∈ beans, registry.contains bean.beanName = start.contains bean.beanName ∧
    registry.bindingFault? bean.beanName = start.bindingFault? bean.beanName

/-- The agreement on a list of beans is one on its rest. -/
theorem Agrees.tail {start : Registry} (agrees : Agrees start registry (bean :: rest)) :
    Agrees start registry rest :=
  fun other listed => agrees other (List.mem_cons_of_mem _ listed)

/-- Only the name of the bean is bound. -/
theorem Agrees.bind {start : Registry} (agrees : Agrees start registry (bean :: rest))
    (new : bean.beanName ∉ rest.map beanName) (definition : BeanDefinition) :
    Agrees start (registry.bind bean.beanName definition) rest := by
  intro other listed
  have different : other.beanName ≠ bean.beanName := by
    intro same
    exact new (same ▸ List.mem_map_of_mem listed)
  rw [contains_bind, beq_false_of_ne different, Bool.false_or,
    bindingFault?_bind_of_ne registry different]
  exact agrees.tail other listed

/-- Each bean meets the registry as it was at the start, up to the names of other beans. -/
theorem registerMissings_run {start : Registry} (distinct : (beans.map beanName).Nodup)
    (agrees : Agrees start registry beans) :
    (beans.mapM (registerMissing source)).run registry =
      let missing := beans.filter fun bean => !start.contains bean.beanName
      match start.refusal? missing with
      | some cause => .error cause (registry.supply source (start.accepted missing))
      | none =>
          .ok
            (beans.map fun bean =>
              if start.contains bean.beanName then none else some (bean.holder source))
            (registry.supply source (start.accepted missing)) := by
  induction beans generalizing registry with
  | nil => rfl
  | cons bean rest inductionHypothesis =>
      rw [List.map_cons, List.nodup_cons] at distinct
      obtain ⟨sameKnown, sameFault⟩ := agrees bean List.mem_cons_self
      rw [List.mapM_cons, EStateM.run_bind, registerMissing_run, sameKnown, sameFault]
      -- The bean is passed over, ends the call or is bound.
      by_cases known : start.contains bean.beanName = true
      · have onwards := inductionHypothesis distinct.2 agrees.tail
        rw [if_pos known, List.filter_cons_of_neg (by simp [known]), List.map_cons, if_pos known]
        dsimp only
        rw [EStateM.run_bind, onwards]
        dsimp only
        cases start.refusal? (rest.filter fun bean => !start.contains bean.beanName) <;> rfl
      · rw [if_neg known, List.filter_cons_of_pos (by simp [known]), List.map_cons, if_neg known]
        dsimp only
        rw [refusal?_cons, accepted_cons]
        cases start.bindingFault? bean.beanName with
        | some cause => rfl
        | none =>
            have onwards := inductionHypothesis distinct.2
              (agrees.bind distinct.1 (bean.definition source))
            dsimp only
            rw [EStateM.run_bind, onwards]
            dsimp only
            cases start.refusal? (rest.filter fun bean => !start.contains bean.beanName) <;> rfl

/-- Without a refusal all beans are accepted. -/
theorem accepted_eq_self (free : registry.refusal? beans = none) :
    registry.accepted beans = beans := by
  rw [refusal?, List.findSome?_eq_none_iff] at free
  refine List.takeWhile_eq_self_iff.mpr fun bean listed => ?_
  rw [free bean listed]
  rfl

/-- A call goes through the missing beans and stops before the first one that is refused. -/
theorem registerInfrastructure_run (source : Option SourceLocation) (isPresent : String → Bool)
    (registry : Registry) :
    (registerInfrastructure source isPresent).run registry =
      match registry.refusal? (missing isPresent registry) with
      | some cause =>
          .error cause (registry.supply source (registry.accepted (missing isPresent registry)))
      | none =>
          .ok ((missing isPresent registry).map (·.holder source))
            (registry.supply source (missing isPresent registry)) := by
  have distinct : ((all.filter (·.isEnabled isPresent)).map beanName).Nodup :=
    beanNames_nodup.sublist (List.filter_sublist.map beanName)
  rw [registerInfrastructure_eq, EStateM.run_bind,
    registerMissings_run distinct fun _ _ => ⟨rfl, rfl⟩]
  dsimp only
  rw [← missing]
  cases free : registry.refusal? (missing isPresent registry) with
  | some cause => rfl
  | none =>
      dsimp only
      rw [accepted_eq_self free, EStateM.run_pure, missing]
      generalize all.filter (·.isEnabled isPresent) = enabled
      rw [List.filterMap_map, ← List.filterMap_eq_map, List.filterMap_filter]
      congr 1
      refine List.filterMap_congr fun bean _ => ?_
      cases known : registry.contains bean.beanName <;> simp [known]

/-- The call succeeds just if no missing bean is refused, and then it supplies the missing ones. -/
theorem registerInfrastructure_eq_ok_iff {isPresent : String → Bool} {left : Registry}
    {holders : List BeanDefinitionHolder} :
    (registerInfrastructure source isPresent).run registry = .ok holders left ↔
      registry.refusal? (missing isPresent registry) = none ∧
        holders = (missing isPresent registry).map (·.holder source) ∧
        left = registry.supply source (missing isPresent registry) := by
  rw [registerInfrastructure_run]
  cases registry.refusal? (missing isPresent registry) <;> simp [eq_comm]

/-- A missing bean is refused only where its name is an alias that may not be bound anew. -/
theorem refusal?_missing_eq_none_iff (isPresent : String → Bool) (registry : Registry) :
    registry.refusal? (missing isPresent registry) = none ↔
      ∀ bean ∈ missing isPresent registry,
        registry.allowOverriding = true ∨ registry.isAlias bean.beanName = false := by
  rw [refusal?, List.findSome?_eq_none_iff]
  refine forall₂_congr fun bean listed => ?_
  obtain ⟨⟨known, _⟩, absent⟩ := mem_missing_iff.mp listed
  rw [bindingFault?_eq_none_iff, isNameInUse, absent, Bool.false_or,
    and_iff_right (isBlank_beanName bean known)]

/-- Also a refused call leaves all definitions alone that were there before. -/
theorem definition?_after_infrastructure {name : String} {definition : BeanDefinition}
    (known : registry.definition? name = some definition) (source : Option SourceLocation)
    (isPresent : String → Bool) :
    (stateAfter (registerInfrastructure source isPresent) registry).definition? name =
      some definition := by
  have lacks := lacks_missing isPresent registry
  rw [stateAfter, registerInfrastructure_run]
  cases registry.refusal? (missing isPresent registry) with
  | some cause =>
      have fewer := lacks.sublist (List.takeWhile_sublist fun bean : InfrastructureBean =>
        (registry.bindingFault? bean.beanName).isNone)
      exact (definition?_supply_eq_some_iff fewer name definition).mpr (Or.inl known)
  | none => exact (definition?_supply_eq_some_iff lacks name definition).mpr (Or.inl known)

end Registry

/-- The factory installs its rules and leaves the rest to its registry. -/
theorem BeanFactory.registerInfrastructure_eq_ok_iff {source : Option SourceLocation}
    {isPresent : String → Bool} {factory left : BeanFactory} {holders : List BeanDefinitionHolder} :
    (registerInfrastructure source isPresent).run factory = .ok holders left ↔
      ∃ registry, (Registry.registerInfrastructure source isPresent).run factory.registry =
          .ok holders registry ∧
        left = { factory.installAnnotationSupport with registry } := by
  have opened : (registerInfrastructure source isPresent).run factory =
      (FactoryM.onRegistry (Registry.registerInfrastructure source isPresent)).run
        factory.installAnnotationSupport := rfl
  rw [opened, FactoryM.onRegistry_eq_onPart, onPart_eq_ok_iff]
  rfl

/-! A run of calls. -/

namespace Call

/-- Whether the call takes a definition away. -/
def isRemoval : Call → Bool
  | .request (.remove _) => true
  | _ => false

/-- A call that removes nothing forgets no name. -/
theorem contains_after {call : Call} (keeps : call.isRemoval = false) {factory : BeanFactory}
    {name : String} (known : factory.registry.contains name = true) :
    (call.after factory).registry.contains name = true := by
  by_cases registers : call.isRegistration = true
  · exact Registry.contains_of_writes (call.writes registers factory) known
  · cases call with
    | activity act => exact absurd rfl registers
    | request asked =>
        cases asked with
        | remove name => contradiction
        | setAllowOverriding allow => exact known
        | register | registerAlias | registerHolder => exact absurd rfl registers

/-- The names of the infrastructure that this call gives a definition. Other calls may do so as
well, but they are not counted. -/
def supplied (factory : BeanFactory) : Call → List String
  | call@(.activity (.infrastructure _ _)) =>
      (InfrastructureBean.all.map InfrastructureBean.beanName).filter fun name =>
        !factory.registry.contains name && (call.after factory).registry.contains name
  | _ => []

/-- What the calls of a run supply, one after the other. -/
def supplies (factory : BeanFactory) : List Call → List String
  | [] => []
  | call :: rest => call.supplied factory ++ supplies (call.after factory) rest

/-- One call supplies no name twice. -/
theorem nodup_supplied (factory : BeanFactory) (call : Call) : (call.supplied factory).Nodup := by
  unfold supplied
  split
  · exact InfrastructureBean.beanNames_nodup.filter _
  · exact List.nodup_nil

/-- A name that a call supplies was unknown before it and is known after it. -/
theorem contains_of_supplied {factory : BeanFactory} {call : Call} {name : String}
    (listed : name ∈ call.supplied factory) :
    factory.registry.contains name = false ∧ (call.after factory).registry.contains name = true := by
  unfold supplied at listed
  split at listed
  · simpa using (List.mem_filter.mp listed).2
  · cases listed

/-- A name that is supplied later in a run without removals was unknown at its start. -/
theorem absent_of_supplies {factory : BeanFactory} {calls : List Call}
    (keeps : ∀ call ∈ calls, call.isRemoval = false) {name : String}
    (listed : name ∈ supplies factory calls) : factory.registry.contains name = false := by
  induction calls generalizing factory with
  | nil => cases listed
  | cons call rest inductionHypothesis =>
      obtain now | later := List.mem_append.mp listed
      · exact (contains_of_supplied now).1
      · have restKeeps := fun other member => keeps other (List.mem_cons_of_mem _ member)
        have absentNow := inductionHypothesis restKeeps later
        rw [Bool.eq_false_iff] at absentNow ⊢
        exact fun known => absentNow (contains_after (keeps call List.mem_cons_self) known)

/-- What one call supplies is there for each later call. -/
theorem nodup_supplies (factory : BeanFactory) {calls : List Call}
    (keeps : ∀ call ∈ calls, call.isRemoval = false) : (supplies factory calls).Nodup := by
  induction calls generalizing factory with
  | nil => exact List.nodup_nil
  | cons call rest inductionHypothesis =>
      have restKeeps := fun other member => keeps other (List.mem_cons_of_mem _ member)
      refine List.nodup_append'.mpr
        ⟨call.nodup_supplied factory, inductionHypothesis _ restKeeps, fun name now later => ?_⟩
      have known := (contains_of_supplied now).2
      rw [absent_of_supplies restKeeps later] at known
      contradiction

/-- A call that succeeds supplies what it returns. -/
theorem supplied_infrastructure {factory last : BeanFactory} {source : Option SourceLocation}
    {isPresent : String → Bool} {holders : List BeanDefinitionHolder}
    (done : (BeanFactory.registerInfrastructure source isPresent).run factory = .ok holders last) :
    supplied factory (.activity (.infrastructure source isPresent)) =
      holders.map BeanDefinitionHolder.beanName := by
  obtain ⟨left, begun, rfl⟩ := BeanFactory.registerInfrastructure_eq_ok_iff.mp done
  obtain ⟨_, rfl, rfl⟩ := Registry.registerInfrastructure_eq_ok_iff.mp begun
  have after : (Call.after factory (.activity (.infrastructure source isPresent))).registry =
      factory.registry.supply source (InfrastructureBean.missing isPresent factory.registry) := by
    rw [Call.after, Activity.after, stateAfter, done]
  rw [supplied, after, List.filter_map, List.map_map]
  exact congrArg (List.map InfrastructureBean.beanName)
    (Registry.filter_supply source isPresent factory.registry)

end Call

/-! The account of a call. -/

namespace BeanFactory

/-- What a call that succeeds has returned, what it has added to the registry, and by which rules it
has the factory find candidates. -/
structure Supplies (source : Option SourceLocation) (isPresent : String → Bool)
    (first : BeanFactory) (holders : List BeanDefinitionHolder) (last : BeanFactory) : Prop where
  returned : holders =
    (InfrastructureBean.missing isPresent first.registry).map (·.holder source)
  sourced : ∀ holder ∈ holders,
    holder.definition.role = .infrastructure ∧ holder.definition.source = source
  names : last.registry.names = first.registry.names ++ holders.map BeanDefinitionHolder.beanName
  definition?_eq_some_iff : ∀ name definition,
    last.registry.definition? name = some definition ↔
      first.registry.definition? name = some definition ∨
        ∃ holder ∈ holders, name = holder.beanName ∧ definition = holder.definition
  contains_enabled : ∀ bean ∈ InfrastructureBean.all, bean.isEnabled isPresent = true →
    last.registry.contains bean.beanName = true
  comparator : last.comparator = some .declaredOrder
  resolver : last.resolver = .annotationAware
  rulesKept : first.comparator = some .declaredOrder → first.resolver = .annotationAware →
    last = { first with registry := last.registry }

variable {source : Option SourceLocation} {isPresent : String → Bool} {factory last : BeanFactory}
  {holders : List BeanDefinitionHolder}

/-- A call that succeeds supplies what it should. -/
theorem Supplies.of_run
    (done : (registerInfrastructure source isPresent).run factory = .ok holders last) :
    Supplies source isPresent factory holders last := by
  obtain ⟨left, begun, rfl⟩ := registerInfrastructure_eq_ok_iff.mp done
  obtain ⟨_, rfl, rfl⟩ := Registry.registerInfrastructure_eq_ok_iff.mp begun
  have lacks := Registry.lacks_missing isPresent factory.registry
  refine ⟨rfl, ?_, ?_, fun name definition => ?_, ?_, rfl, rfl, fun compares resolves => ?_⟩
  · intro holder listed
    obtain ⟨bean, _, rfl⟩ := List.mem_map.mp listed
    exact ⟨rfl, rfl⟩
  · rw [List.map_map]
    exact Registry.names_supply lacks
  · simp only [List.mem_map, exists_exists_and_eq_and]
    exact Registry.definition?_supply_eq_some_iff lacks name definition
  · exact fun bean => Registry.contains_supply_missing source factory.registry
  · rw [compares, resolves]
    rfl

/-- A call that is repeated at once finds nothing missing, whatever source it is given. -/
theorem registerInfrastructure_again
    (done : (registerInfrastructure source isPresent).run factory = .ok holders last)
    (again : Option SourceLocation) :
    (registerInfrastructure again isPresent).run last = .ok [] last := by
  obtain ⟨left, begun, rfl⟩ := registerInfrastructure_eq_ok_iff.mp done
  obtain ⟨_, rfl, rfl⟩ := Registry.registerInfrastructure_eq_ok_iff.mp begun
  refine registerInfrastructure_eq_ok_iff.mpr ⟨_, ?_, rfl⟩
  rw [Registry.registerInfrastructure_eq_ok_iff]
  dsimp only
  rw [Registry.missing_supply source isPresent factory.registry]
  exact ⟨rfl, rfl, rfl⟩

/-- A call succeeds unless a missing bean finds its name taken by an alias, and then it supplies
just what is missing and has nothing left to do. Refused or not, it keeps the definitions that are
there, and in a run without removals no bean is supplied by two calls. -/
theorem registerInfrastructure_once :
    (∀ (factory : BeanFactory) (source : Option SourceLocation) (isPresent : String → Bool),
      ((∃ holders last,
          (registerInfrastructure source isPresent).run factory = .ok holders last) ↔
        ∀ bean ∈ InfrastructureBean.missing isPresent factory.registry,
          factory.registry.allowOverriding = true ∨
            factory.registry.isAlias bean.beanName = false) ∧
      (∀ holders last, (registerInfrastructure source isPresent).run factory = .ok holders last →
        Supplies source isPresent factory holders last ∧
          Call.supplied factory (.activity (.infrastructure source isPresent)) =
            holders.map BeanDefinitionHolder.beanName ∧
          ∀ again, (registerInfrastructure again isPresent).run last = .ok [] last) ∧
      ∀ name definition, factory.registry.definition? name = some definition →
        (Call.after factory (.activity (.infrastructure source isPresent))).registry.definition?
          name = some definition) ∧
    ∀ (factory : BeanFactory) (calls : List Call), (∀ call ∈ calls, call.isRemoval = false) →
      (Call.supplies factory calls).Nodup := by
  refine ⟨fun factory source isPresent => ⟨?_, ?_, ?_⟩, fun factory calls keeps => ?_⟩
  · rw [← Registry.refusal?_missing_eq_none_iff]
    simp only [registerInfrastructure_eq_ok_iff, Registry.registerInfrastructure_eq_ok_iff]
    constructor
    · rintro ⟨_, _, _, ⟨free, _⟩, _⟩
      exact free
    · intro free
      exact ⟨_, _, _, ⟨free, rfl, rfl⟩, rfl⟩
  · intro holders last done
    exact ⟨.of_run done, Call.supplied_infrastructure done, registerInfrastructure_again done⟩
  · intro name definition known
    rw [Call.after, Activity.after, registerInfrastructure_registry]
    exact Registry.definition?_after_infrastructure known source isPresent
  · exact Call.nodup_supplies factory keeps

/-- The first call leaves out the processor whose class is not there. The second one brings just that
processor, although the names could be bound anew and somebody has replaced another processor. -/
theorem late_processor_supplied_once :
    let bare : String → Bool := fun _ => false
    let annotated : String → Bool := fun className => className == "javax.annotation.Resource"
    let calls : List Call :=
      [.activity (.infrastructure none bare), .request (.setAllowOverriding true),
        .request (.register InfrastructureBean.autowiredProcessorName {}),
        .activity (.infrastructure none annotated)]
    (∃ holders last, (registerInfrastructure none bare).run .empty = .ok holders last ∧
      holders.length = 4 ∧ (registerInfrastructure none bare).run last = .ok [] last) ∧
    (∀ call ∈ calls, call.isRemoval = false) ∧ (Call.supplies .empty calls).Nodup ∧
      (Call.supplies .empty calls).drop 4 = [InfrastructureBean.commonProcessorName] := by
  intro bare annotated calls
  have keeps : ∀ call ∈ calls, call.isRemoval = false := by decide
  obtain ⟨single, runs⟩ := registerInfrastructure_once
  obtain ⟨succeeds, account, _⟩ := single .empty none bare
  obtain ⟨holders, last, done⟩ := succeeds.mpr fun _ _ => Or.inr rfl
  obtain ⟨supplies, _, again⟩ := account holders last done
  refine ⟨⟨holders, last, done, ?_, again none⟩, keeps, runs .empty calls keeps, by decide +kernel⟩
  rw [supplies.returned]
  decide +kernel

end BeanFactory

end BeanContainer
