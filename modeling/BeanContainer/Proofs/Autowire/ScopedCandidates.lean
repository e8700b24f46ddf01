/-
This file compares what autowiring finds after a bean has been registered with a proxy and without
one. The hidden target is never a candidate, and the proxy stands in for the bean except where its
class or its declared qualifier is asked for.
-/

import BeanContainer.Proofs.Autowire.Candidates
import BeanContainer.Proofs.Registration.ScopedTwins

namespace BeanContainer

open ScopedProxy

/-! What the dependency asks for. -/

namespace DependencyDescriptor

/-- A bean of this class has the type that is asked for, if any. -/
def FitsType (dependency : DependencyDescriptor) (className : Option String) : Prop :=
  ∀ typeName, dependency.typeName = some typeName → className = some typeName

/-- The type is compared with the class of the definition as it stands. -/
theorem acceptsType_iff (dependency : DependencyDescriptor) (definition : BeanDefinition) :
    dependency.acceptsType definition = true ↔ dependency.FitsType definition.beanClassName := by
  unfold acceptsType FitsType
  cases dependency.typeName <;> simp

/-- The qualifier that is asked for, if any, is one of the names or is declared. -/
def FitsQualifier (dependency : DependencyDescriptor) (names : List String)
    (declared : Option String) : Prop :=
  ∀ qualifier, dependency.qualifier = some qualifier → qualifier ∈ names ∨ declared = some qualifier

/-- The qualifier is compared with the names of the holder and with what its definition declares. -/
theorem acceptsQualifier_iff (dependency : DependencyDescriptor) (holder : BeanDefinitionHolder) :
    dependency.acceptsQualifier holder = true ↔
      dependency.FitsQualifier (holder.beanName :: holder.aliases)
        holder.definition.declaredQualifier := by
  unfold acceptsQualifier FitsQualifier
  cases dependency.qualifier with
  | none => simp
  | some qualifier => simp [BeanDefinitionHolder.matchesName, @eq_comm _ holder.beanName]

end DependencyDescriptor

namespace BeanFactory

variable {factory plain proxied : BeanFactory} {dependency : DependencyDescriptor}
  {holder : BeanDefinitionHolder} {mode : ScopedProxyMode}

/-- With markers in use a bean is admitted by its mark, its type and its qualifier. -/
theorem admits_iff (dependency : DependencyDescriptor) (holder : BeanDefinitionHolder)
    (aware : factory.resolver = .annotationAware) :
    factory.Admits dependency holder ↔
      holder.definition.autowireCandidate = true ∧
        dependency.FitsType holder.definition.beanClassName ∧
        dependency.FitsQualifier (holder.beanName :: holder.aliases)
          holder.definition.declaredQualifier := by
  unfold Admits
  rw [aware, CandidateResolver.accepts, Bool.and_eq_true, dependency.acceptsType_iff,
    dependency.acceptsQualifier_iff, and_left_comm]

/-- Under any other name the same candidates are found, and the hidden target is never one. -/
theorem candidateNames_of_hidesTarget {own name : String}
    (heeds : proxied.resolver.HeedsExclusion) (sameResolver : proxied.resolver = plain.resolver)
    (hides : Registry.HidesTarget own plain.registry proxied.registry) (notOwn : name ≠ own) :
    name ∈ proxied.candidateNames dependency ↔ name ∈ plain.candidateNames dependency := by
  by_cases notTarget : name = targetName own
  · obtain ⟨target, known⟩ := hides.hidden
    rw [notTarget]
    exact iff_of_false (not_mem_candidateNames_of_excluded heeds known rfl)
      (not_mem_candidateNames_of_unknown hides.unknown)
  · have sameAliases : proxied.registry.aliasesOf name = plain.registry.aliasesOf name := by
      unfold Registry.aliasesOf
      rw [hides.aliases]
    rw [mem_candidateNames_iff, mem_candidateNames_iff]
    unfold Admits
    rw [hides.leads_iff notOwn notTarget, hides.definition? name notOwn notTarget, sameAliases,
      sameResolver]

/-- A registered name that stands for itself is a candidate by its own definition. -/
theorem mem_candidateNames_of_listed {name : String} {definition : BeanDefinition}
    (dependency : DependencyDescriptor) (aware : factory.resolver = .annotationAware)
    (listed : name ∈ factory.registry.names)
    (canonical : factory.registry.canonicalName name = name)
    (known : factory.registry.definition? name = some definition) :
    name ∈ factory.candidateNames dependency ↔
      definition.autowireCandidate = true ∧ dependency.FitsType definition.beanClassName ∧
        dependency.FitsQualifier (name :: factory.registry.aliasesOf name)
          definition.declaredQualifier := by
  have admits :=
    admits_iff dependency ⟨definition, name, factory.registry.aliasesOf name⟩ aware
  rw [mem_candidateNames_iff, known, and_iff_right ⟨name, listed, canonical⟩]
  simpa using admits

/-- The proxy offers its own class and no marker in place of those of the bean. -/
theorem mem_candidateNames_twins {registry : Registry} (dependency : DependencyDescriptor)
    (plainAware : plain.resolver = .annotationAware)
    (proxiedAware : proxied.resolver = .annotationAware) (proxies : mode ≠ .no)
    (unbound : registry.aliases.get? holder.beanName = none)
    (hides : Registry.HidesTarget holder.beanName plain.registry proxied.registry)
    (joined : Registry.Joined holder registry plain.registry)
    (proxy : proxied.registry.definition? holder.beanName = some (shown mode holder).definition) :
    let names := holder.beanName :: plain.registry.aliasesOf holder.beanName
    (holder.beanName ∈ plain.candidateNames dependency ↔
      holder.definition.autowireCandidate = true ∧
        dependency.FitsType holder.definition.beanClassName ∧
        dependency.FitsQualifier names holder.definition.declaredQualifier) ∧
    (holder.beanName ∈ proxied.candidateNames dependency ↔
      holder.definition.autowireCandidate = true ∧
        dependency.FitsType (some factoryClassName) ∧ dependency.FitsQualifier names none) := by
  have listed : holder.beanName ∈ plain.registry.names := by
    rw [joined.names]
    exact List.mem_append_right _ List.mem_cons_self
  have canonical : plain.registry.canonicalName holder.beanName = holder.beanName :=
    (joined.canonicalName _ unbound).elim id id
  have known := joined.definition? holder.beanName
  rw [if_pos rfl] at known
  constructor
  · exact mem_candidateNames_of_listed dependency plainAware listed canonical known
  · rw [shown, if_neg proxies] at proxy
    have sameAliases : proxied.registry.aliasesOf holder.beanName =
        plain.registry.aliasesOf holder.beanName := by
      unfold Registry.aliasesOf
      rw [hides.aliases]
    rw [← sameAliases]
    refine mem_candidateNames_of_listed dependency proxiedAware ?_ ?_ proxy
    · exact (hides.names _ (Registry.ne_targetName _)).mpr listed
    · rwa [Registry.canonicalName, hides.aliases]

/-- The factory once the bean has been registered in this mode, be it refused or not. -/
def afterScoped (factory : BeanFactory) (mode : ScopedProxyMode) (holder : BeanDefinitionHolder) :
    BeanFactory :=
  { factory with registry := stateAfter (Registry.registerScoped mode holder) factory.registry }

/-- The bean itself is found by its class, its names and its marker, and its proxy by the class of
proxies and by its names alone. Apart from that the same candidates are found. -/
theorem candidateNames_scoped_iff (factory : BeanFactory) (holder : BeanDefinitionHolder)
    (mode : ScopedProxyMode) (dependency : DependencyDescriptor)
    (aware : factory.resolver = .annotationAware) (proxies : mode ≠ .no)
    (nameFree : factory.registry.isNameInUse holder.beanName = false)
    (targetFree : factory.registry.isNameInUse (targetName holder.beanName) = false) :
    let plain := factory.afterScoped .no holder
    let proxied := factory.afterScoped mode holder
    let names := holder.beanName :: plain.registry.aliasesOf holder.beanName
    let fitsBean := dependency.FitsType holder.definition.beanClassName ∧
      dependency.FitsQualifier names holder.definition.declaredQualifier
    let fitsProxy := dependency.FitsType (some factoryClassName) ∧
      dependency.FitsQualifier names none
    let injectable := Text.isBlank holder.beanName = false ∧
      holder.definition.autowireCandidate = true
    (∀ name ≠ holder.beanName,
        name ∈ proxied.candidateNames dependency ↔ name ∈ plain.candidateNames dependency) ∧
      (holder.beanName ∈ plain.candidateNames dependency ↔ injectable ∧ fitsBean) ∧
      (holder.beanName ∈ proxied.candidateNames dependency ↔ injectable ∧ fitsProxy) ∧
      (proxied.candidateNames dependency = plain.candidateNames dependency ↔
        (injectable → (fitsProxy ↔ fitsBean))) := by
  intro plain proxied names fitsBean fitsProxy injectable
  have plainAware : plain.resolver = .annotationAware := aware
  have proxiedAware : proxied.resolver = .annotationAware := aware
  obtain ⟨hides, outcome⟩ := Registry.registerScoped_twins proxies nameFree targetFree
  have elsewhere : ∀ name ≠ holder.beanName,
      (name ∈ proxied.candidateNames dependency ↔ name ∈ plain.candidateNames dependency) :=
    fun name notOwn => candidateNames_of_hidesTarget
      (CandidateResolver.heedsExclusion_of_eq (.inr proxiedAware)) rfl hides notOwn
  have found : (holder.beanName ∈ plain.candidateNames dependency ↔ injectable ∧ fitsBean) ∧
      (holder.beanName ∈ proxied.candidateNames dependency ↔ injectable ∧ fitsProxy) := by
    obtain ⟨blank, plainUnknown, proxiedUnknown⟩ | ⟨named, joined, proxy⟩ := outcome
    · have refused : ¬ injectable := fun ⟨named, _⟩ => Bool.false_ne_true (named.symm.trans blank)
      exact ⟨iff_of_false (not_mem_candidateNames_of_unknown plainUnknown)
          (fun both => refused both.1),
        iff_of_false (not_mem_candidateNames_of_unknown proxiedUnknown)
          (fun both => refused both.1)⟩
    · have twins := mem_candidateNames_twins dependency plainAware proxiedAware proxies
        (Registry.get?_of_free nameFree) hides joined proxy
      have whole (fits : Prop) : injectable ∧ fits ↔
          holder.definition.autowireCandidate = true ∧ fits := by
        rw [and_assoc, and_iff_right named]
      rwa [whole, whole]
  refine ⟨elsewhere, found.1, found.2, ?_⟩
  rw [Set.ext_iff, ← and_congr_right_iff, ← found.1, ← found.2]
  refine ⟨fun same => same holder.beanName, fun same name => ?_⟩
  by_cases own : name = holder.beanName
  · rwa [own]
  · exact elsewhere name own

/-- Each session has a cart of its own, which is known as the basket too. -/
def basket : BeanDefinitionHolder where
  definition :=
    { BeanDefinition.ofMetadata
        { className := "shop.Cart", annotations := .ofDescriptors [.qualifier "current"] } with
      scope := "session" }
  beanName := "cart"
  aliases := ["basket"]

def annotatedFactory : BeanFactory := installAnnotationSupport .empty

/-- By its alias the cart is found behind its proxy too. -/
theorem candidateNames_scoped_alias :
    annotatedFactory.resolver = .annotationAware ∧
      annotatedFactory.registry.isNameInUse "cart" = false ∧
      annotatedFactory.registry.isNameInUse "scopedTarget.cart" = false ∧
      (annotatedFactory.afterScoped .targetClass basket).candidateNames
          { qualifier := some "basket" } =
        (annotatedFactory.afterScoped .no basket).candidateNames { qualifier := some "basket" } := by
  have nameFree : annotatedFactory.registry.isNameInUse "cart" = false := by decide +kernel
  have targetFree : annotatedFactory.registry.isNameInUse (targetName "cart") = false := by
    decide +kernel
  have listed : "basket" ∈
      (annotatedFactory.afterScoped .no basket).registry.aliasesOf "cart" := by
    decide +kernel
  obtain ⟨_, _, _, same⟩ := candidateNames_scoped_iff annotatedFactory basket .targetClass
    { qualifier := some "basket" } rfl nofun nameFree targetFree
  refine ⟨rfl, nameFree, targetFree, same.mpr fun _ => ?_⟩
  refine iff_of_true ⟨nofun, ?_⟩ ⟨nofun, ?_⟩
  all_goals
    intro qualifier asked
    cases asked
    exact Or.inl (List.mem_cons_of_mem _ listed)

/-- By its class or its marker the cart is no longer found once it is behind a proxy. -/
theorem proxy_hides_class_and_marker :
    let plain := annotatedFactory.afterScoped .no basket
    let proxied := annotatedFactory.afterScoped .targetClass basket
    let found (factory : BeanFactory) (dependency : DependencyDescriptor) :=
      (factory.candidates dependency).map fun holder => holder.beanName
    annotatedFactory.registry.isNameInUse "cart" = false ∧
      annotatedFactory.registry.isNameInUse "scopedTarget.cart" = false ∧
      found plain { typeName := some "shop.Cart" } = ["cart"] ∧
      found proxied { typeName := some "shop.Cart" } = [] ∧
      found plain { qualifier := some "current" } = ["cart"] ∧
      found proxied { qualifier := some "current" } = [] := by
  decide +kernel

end BeanFactory

end BeanContainer
