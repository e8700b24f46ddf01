/-
This file shows what becomes of a bean method whose bean has been made before: it is skipped unless
the bean is behind a proxy. Hence loading a model once more changes nothing where no bean method asks
for a proxy.
-/

import BeanContainer.Proofs.Registration.Models

namespace BeanContainer

open Relation

namespace BeanMethod

variable {scopes : ScopeResolver} {methods : List (ConfigurationClass × BeanMethod)}
  {products : List (Option BeanDefinitionHolder)} {registry left : Registry}

/-- Methods add nothing just if each of them is skipped where the registry stands. -/
theorem registerAll_eq_none_iff :
    (∃ products, products.filterMap id = [] ∧
        (registerAll scopes methods).run registry = .ok products registry) ↔
      ∀ entry ∈ methods, (entry.2.register scopes entry.1).run registry = .ok none registry := by
  unfold registerAll
  induction methods with
  | nil => exact iff_of_true ⟨[], rfl, rfl⟩ nofun
  | cons entry rest inductionHypothesis =>
      rw [List.forall_mem_cons, ← inductionHypothesis]
      constructor
      · rintro ⟨products, empty, done⟩
        obtain ⟨product, middle, later, begun, ended, rfl⟩ := run_mapM_cons_eq_ok_iff.mp done
        cases product with
        | some holder => simp at empty
        | none =>
            obtain ⟨rfl, _⟩ := register_eq_none_iff.mp begun
            exact ⟨begun, later, empty, ended⟩
      · rintro ⟨begun, later, empty, ended⟩
        exact ⟨none :: later, empty, run_mapM_cons_eq_ok_iff.mpr ⟨_, _, _, begun, ended, rfl⟩⟩

/-- Once all methods have made their beans, a method is an overload unless its bean is behind a
proxy. -/
theorem registerAll_again_iff {last : Registry}
    (done : (registerAll scopes methods).run registry = .ok products left)
    (fixedNames : registry.allowOverriding = false) (extends_ : Registry.Extends left last) :
    (∀ entry ∈ methods, (entry.2.register scopes entry.1).run last = .ok none last) ↔
      ∀ holder ∈ products.filterMap id, holder.definition.proxyTarget? = none := by
  unfold registerAll at done
  induction methods generalizing registry products with
  | nil =>
      cases done
      exact iff_of_true (List.forall_mem_nil _) (List.forall_mem_nil _)
  | cons entry rest inductionHypothesis =>
      obtain ⟨product, middle, later, begun, ended, rfl⟩ := run_mapM_cons_eq_ok_iff.mp done
      have fixedBetween := (register_extends begun fixedNames).fixedNames
      -- The methods that follow replace nothing, so the bean of this one is still there at the end.
      have further := (registerAll_extends ended fixedBetween).trans extends_
      rw [List.forall_mem_cons, inductionHypothesis ended fixedBetween]
      cases product with
      | none =>
          obtain ⟨rfl, _⟩ := register_eq_none_iff.mp begun
          exact and_iff_right (register_none_of_extends begun further)
      | some holder =>
          obtain ⟨derives, registered⟩ := register_made begun
          rw [register_again_iff begun (further.definition? registered) rfl derives]
          rw [List.filterMap_cons_some (f := id) rfl, List.forall_mem_cons]

end BeanMethod

namespace DefinitionReader

variable {Memory : Type} {reader : DefinitionReader Memory} {state left : LoadingState Memory}

/-- Once all classes are named, loading changes nothing just if every method is skipped. -/
theorem loadModel_eq_nil_iff (named : state.model.unnamed = []) :
    reader.loadModel.run state = .ok [] state ↔
      ∀ entry ∈ state.model.methods,
        (entry.2.register reader.scopes entry.1).run state.registration.registry =
          .ok none state.registration.registry := by
  rw [loadModel_eq_ok_iff, named, ← BeanMethod.registerAll_eq_none_iff]
  constructor
  · rintro ⟨classes, _, products, registry, begun, ended, empty, same⟩
    cases begun
    have unchanged : state.registration.registry = registry :=
      congrArg (fun state => state.registration.registry) same
    rw [← unchanged] at ended
    exact ⟨products, empty.symm, ended⟩
  · rintro ⟨products, empty, ended⟩
    exact ⟨[], state, products, _, rfl, ended, empty.symm, rfl⟩

/-- A model that has been loaded adds nothing when it is loaded again, just if no method of it made
a proxy. -/
theorem loadModel_again_iff {holders : List BeanDefinitionHolder} (numbered : state.model.Numbered)
    (fixedNames : state.registration.registry.allowOverriding = false)
    (done : reader.loadModel.run state = .ok holders left) :
    reader.loadModel.run left = .ok [] left ↔
      ∀ holder ∈ holders.drop state.model.unnamed.length, holder.definition.proxyTarget? = none := by
  obtain ⟨classes, named, products, registry, begun, ended, rfl, rfl⟩ := loadModel_eq_ok_iff.mp done
  have allNamed := unnamed_eq_nil_of_named numbered fixedNames begun
  have fixedBetween := (nameConfigurations_extends begun fixedNames).fixedNames
  have fixedAfter := (BeanMethod.registerAll_extends ended fixedBetween).fixedNames
  rw [← length_of_mapM begun, List.drop_left]
  refine Iff.trans (loadModel_eq_nil_iff ?_) ?_
  · exact allNamed
  · exact BeanMethod.registerAll_again_iff ended fixedBetween ⟨fixedAfter, id⟩

end DefinitionReader

namespace BeanMethod

/-- After a method has made a bean, a method of the same name for the same bean is skipped exactly
if the first one asks for no proxy. A model that has been loaded loads again without a change
exactly if none of the beans of its methods is behind a proxy. -/
theorem load_again_iff {Memory : Type} (reader : DefinitionReader Memory) :
    (∀ (configuration : ConfigurationClass) (first second : BeanMethod) (registry left : Registry)
        (holder : BeanDefinitionHolder),
      (first.register reader.scopes configuration).run registry = .ok (some holder) left →
      second.name = first.name → second.DerivesName holder.beanName →
      ∃ scope, reader.scopes.resolve first.metadata.annotations = .ok scope ∧
        ((second.register reader.scopes configuration).run left = .ok none left ↔
          scope.proxyMode = .no)) ∧
    ∀ (state left : LoadingState Memory) (holders : List BeanDefinitionHolder),
      state.model.Numbered → state.registration.registry.allowOverriding = false →
      reader.loadModel.run state = .ok holders left →
      (reader.loadModel.run left = .ok [] left ↔
        ∀ holder ∈ holders.drop state.model.unnamed.length,
          holder.definition.proxyTarget? = none) := by
  constructor
  · intro configuration first second registry left holder loaded sameName derives
    obtain ⟨scope, resolved, unproxied⟩ := register_unproxied_iff loaded
    have known := (register_made loaded).2
    exact ⟨scope, resolved, (register_again_iff loaded known sameName derives).trans unproxied⟩
  · intro state left holders numbered fixedNames done
    exact DefinitionReader.loadModel_again_iff numbered fixedNames done

def shopMetadata : ClassMetadata :=
  { className := "shop.Config", annotations := .ofDescriptors [.configuration none true] }

/-- The session has a cart that a method of the shop makes. -/
def cartMethod (mode : ScopedProxyMode) : BeanMethod where
  metadata :=
    { methodName := "cart"
      declaringClassName := "shop.Config"
      returnTypeName := some "shop.Cart"
      annotations := .ofDescriptors [.bean [], .scope "session" mode] }
  configurationClass := 0

/-- The cart method names its bean after itself in every proxy mode. -/
theorem cartMethod_derivesName (mode : ScopedProxyMode) : (cartMethod mode).DerivesName "cart" :=
  ⟨_, _, rfl, rfl, rfl⟩

def shop (mode : ScopedProxyMode) : ConfigurationClass :=
  { id := 0, metadata := shopMetadata, beanMethods := [cartMethod mode] }

def shopState (mode : ScopedProxyMode) : LoadingState MetaTypeCache :=
  ⟨⟨.empty, {}⟩, { classes := [shop mode] }⟩

def shopReader : DefinitionReader MetaTypeCache := { generator := Naming.byAnnotations }

/-- The method of a cart without a proxy is skipped the second time, and so is its model. -/
theorem load_again_unproxied :
    (∃ holder left,
      ((cartMethod .no).register {} (shop .no)).run .empty = .ok (some holder) left ∧
        ((cartMethod .no).register {} (shop .no)).run left = .ok none left) ∧
    ∃ holders left, shopReader.loadModel.run (shopState .no) = .ok holders left ∧
      holders.map (fun holder => holder.beanName) = ["config", "cart"] ∧
      shopReader.loadModel.run left = .ok [] left := by
  constructor
  · have made : (((cartMethod .no).register {} (shop .no)).run' .empty).join.map
        (fun holder => holder.beanName) = some "cart" := by
      decide +kernel
    have asked : ({} : ScopeResolver).resolve (cartMethod .no).metadata.annotations =
        .ok ⟨"session", .no⟩ := by
      decide +kernel
    obtain ⟨holder, once, named⟩ := Option.map_eq_some_iff.mp made
    obtain ⟨left, loaded⟩ := run'_eq_some_iff.mp (Option.join_eq_some_iff.mp once)
    have derives : (cartMethod .no).DerivesName holder.beanName := by
      rw [named]
      exact cartMethod_derivesName .no
    obtain ⟨scope, resolved, skipped⟩ :=
      (load_again_iff shopReader).1 (shop .no) _ _ _ left holder loaded rfl derives
    refine ⟨holder, left, loaded, skipped.mpr ?_⟩
    rw [← Except.ok.inj (asked.symm.trans resolved)]
  · have made : (shopReader.loadModel.run' (shopState .no)).map
        (List.map fun holder => (holder.beanName, holder.definition.proxyTarget?)) =
        some [("config", none), ("cart", none)] := by
      decide +kernel
    obtain ⟨holders, once, shown⟩ := Option.map_eq_some_iff.mp made
    obtain ⟨left, loaded⟩ := run'_eq_some_iff.mp once
    have numbered : (shopState .no).model.Numbered :=
      ConfigurationModel.numbered_empty.addClass shopMetadata [(cartMethod .no).metadata]
    refine ⟨holders, left, loaded, ?_,
      ((load_again_iff shopReader).2 (shopState .no) left holders numbered rfl loaded).mpr ?_⟩
    · have names := congrArg (List.map Prod.fst) shown
      rwa [List.map_map] at names
    · intro holder member
      have listed := List.mem_map_of_mem (f := fun holder : BeanDefinitionHolder =>
        (holder.beanName, holder.definition.proxyTarget?)) (List.mem_of_mem_drop member)
      rw [shown] at listed
      simp only [List.mem_cons, Prod.mk.injEq, List.not_mem_nil, or_false] at listed
      exact listed.elim And.right And.right

/-- A cart behind a proxy is not recognised, and its method is refused the second time. -/
theorem scoped_method_refused_again :
    ∃ holder left,
      ((cartMethod .targetClass).register {} (shop .targetClass)).run .empty =
          .ok (some holder) left ∧
        (cartMethod .targetClass).DerivesName holder.beanName ∧
        ∃ cause later,
          ((cartMethod .targetClass).register {} (shop .targetClass)).run left =
            .error cause later := by
  let load := (cartMethod .targetClass).register {} (shop .targetClass)
  have made : (load.run' .empty).join.map (fun holder => holder.beanName) = some "cart" := by
    decide +kernel
  have twice : ((load >>= fun _ => load).run' .empty).isNone = true := by
    decide +kernel
  obtain ⟨holder, once, named⟩ := Option.map_eq_some_iff.mp made
  obtain ⟨left, loaded⟩ := run'_eq_some_iff.mp (Option.join_eq_some_iff.mp once)
  obtain ⟨cause, later, refused⟩ := run'_eq_none_iff.mp (Option.isNone_iff_eq_none.mp twice)
  rw [EStateM.run_bind, loaded] at refused
  refine ⟨holder, left, loaded, ?_, cause, later, refused⟩
  rw [named]
  exact cartMethod_derivesName .targetClass

end BeanMethod

end BeanContainer
