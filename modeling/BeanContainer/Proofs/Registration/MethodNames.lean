/-
This file says what a bean method does with the names that its marker lists. The first name that is
not blank becomes the name of the bean, the others become aliases of it whatever they were before,
and blank names are never used.
-/

import BeanContainer.Proofs.Registration.BeanMethods
import BeanContainer.Proofs.Registration.WriteOnce
import BeanContainer.Proofs.Registry.AliasLists
import BeanContainer.Proofs.Registry.LastingAliases
import BeanContainer.Proofs.Registry.RefusedHolders

namespace BeanContainer

open ScopedProxy Relation

namespace Registry

variable {first last registry : Registry} {holder visible : BeanDefinitionHolder}
  {mode : ScopedProxyMode}

/-! The aliases of a holder that has been registered. -/

/-- An accepted holder has all its aliases lead to its name, and keeps every other binding. -/
theorem registerHolder_bindings {registered : BeanDefinition}
    (done : (registerHolder holder).run first = .ok registered last) (name : String) :
    last.aliases.get? name =
      if name = holder.beanName then none
      else if name ∈ holder.aliases then some holder.beanName else first.aliases.get? name := by
  rw [BeanDefinitionHolder.registerHolder_run] at done
  split at done
  · contradiction
  · split at done
    · contradiction
    · cases done
      rw [get?_connectAll_of_unbound (get?_bind_self first _ _), Registry.bind]
      dsimp only
      rw [SortedMap.get?_erase]
      by_cases itself : name = holder.beanName <;> simp [itself]

/-- The aliases of an accepted bean lead to its name, with or without a proxy. -/
theorem registerScoped_bindings (done : (registerScoped mode holder).run first = .ok visible last) :
    last.aliases.get? holder.beanName = none ∧
      ∀ aliasName ∈ holder.aliases, aliasName ≠ holder.beanName →
        last.aliases.get? aliasName = some holder.beanName := by
  obtain ⟨_, before, registered, held, _⟩ := registerScoped_eq_ok done
  have bindings := registerHolder_bindings held
  simp only [beanName_shown, aliases_shown] at bindings
  refine ⟨by rw [bindings, if_pos rfl], fun aliasName listed different => ?_⟩
  rw [bindings, if_neg different, if_pos listed]

/-- A proxy leaves the bean itself under a name of its own. -/
theorem definition?_of_registerScoped
    (done : (registerScoped mode holder).run first = .ok visible last) :
    last.definition? (if mode = .no then holder.beanName else targetName holder.beanName) =
      some (underlying mode holder.definition) := by
  obtain ⟨shownSo, known, behind⟩ := registerScoped_ok done
  unfold underlying
  unfold shown at shownSo
  split
  · rename_i plain
    rw [if_pos plain] at shownSo
    rw [known, shownSo]
  · rename_i proxied
    exact behind proxied

/-! Blank names. -/

/-- No blank name has a definition. -/
def DefinesSolidNames (registry : Registry) : Prop :=
  ∀ name, registry.contains name = true → Text.isBlank name = false

/-- No change gives a blank name a definition. -/
theorem Change.definesSolidNames (change : Change first last) (solid : DefinesSolidNames first) :
    DefinesSolidNames last := by
  intro name known
  cases change with
  | @bind given definition free =>
      rw [contains_bind, Bool.or_eq_true, beq_iff_eq] at known
      obtain rfl | before := known
      · exact ((first.bindingFault?_eq_none_iff _).mp free).1
      · exact solid name before
  | unbind present =>
      rw [contains_unbind, Bool.and_eq_true] at known
      exact solid name known.2
  | connect free => exact solid name known
  | setOverriding allow => exact solid name known

/-- No run of requests brings a blank name into use. -/
theorem Reachable.isNameInUse_of_blank (reachable : registry.Reachable) {name : String}
    (blank : Text.isBlank name = true) : registry.isNameInUse name = false := by
  have defines : DefinesSolidNames registry :=
    reachable.invariant (fun _ known => nomatch known) fun _ _ => Change.definesSolidNames
  refine Bool.eq_false_iff.mpr fun used => ?_
  obtain known | bound := (Bool.or_eq_true _ _).mp used
  · rw [defines name known] at blank
    contradiction
  · obtain ⟨target, found⟩ := Option.isSome_iff_exists.mp bound
    rw [reachable.bindsSolidNames name target found] at blank
    contradiction

end Registry

namespace BeanMethod

variable {scopes : ScopeResolver} {configuration : ConfigurationClass} {method : BeanMethod}
  {registry left : Registry} {holder : BeanDefinitionHolder} {attributes : Attributes}
  {entries : List String}

/-! The names that a marker lists. -/

/-- A single text counts as a list of one, and without the attribute nothing is listed. An attribute
of another kind is no list of names. -/
def nameEntries? (attributes : Attributes) : Option (List String) :=
  match attributes.get? AttributeName.name with
  | none => some []
  | some (.string entry) => some [entry]
  | some (.stringArray entries) => some entries
  | some _ => none

/-- The given names are the entries that are not blank. -/
theorem givenNames_of_entries (listed : nameEntries? attributes = some entries) :
    givenNames attributes = .ok (entries.filter fun entry => !Text.isBlank entry) := by
  unfold nameEntries? at listed
  unfold givenNames Attributes.contains Attributes.stringArray Attributes.required
  split at listed
  · rename_i absent
    cases listed
    rw [absent]
    rfl
  · rename_i entry found
    cases listed
    rw [found]
    rfl
  · rename_i given found
    cases listed
    rw [found]
    rfl
  · contradiction

/-- The bean takes the first given name, and the name of the method where none is given. -/
theorem splitNames_fst (methodName : String) (names : List String) :
    (splitNames methodName names).1 = names.head?.getD methodName := by
  cases names <;> rfl

/-- All given names but that of the bean are its aliases. -/
theorem mem_splitNames_snd {methodName name : String} {names : List String} (listed : name ∈ names)
    (different : name ≠ (splitNames methodName names).1) :
    name ∈ (splitNames methodName names).2 := by
  cases names with
  | nil => contradiction
  | cons first rest => exact (List.mem_cons.mp listed).resolve_left different

/-- A method leads from a reachable registry to a reachable one. -/
theorem register_reachable (reachable : registry.Reachable) {product : Option BeanDefinitionHolder}
    (done : (method.register scopes configuration).run registry = .ok product left) :
    left.Reachable := by
  have placements := (method.register_places scopes fun _ _ => trivial).of_ok done
  exact reachable.writes (ReflTransGen.mono (fun _ _ => Registry.Placement.write) _ _ placements)

/-- The product of the method has the scope that its markers ask for. -/
theorem underlying_readProduct {mode : ScopedProxyMode} {definition : BeanDefinition}
    (read : readProduct scopes configuration method attributes = .ok (mode, definition)) :
    ∃ scope, scopes.resolve method.metadata.annotations = .ok scope ∧ scope.proxyMode = mode ∧
      IsProduct configuration method (underlying mode definition) ∧
      (underlying mode definition).scope = scope.scopeName := by
  obtain ⟨common, scope, _, resolved, sameMode, rfl⟩ := readProduct_parts read
  have product := (readProduct_ok read).1
  unfold underlying
  split
  · exact ⟨scope, resolved, sameMode, product, rfl⟩
  · exact ⟨scope, resolved, sameMode, product.hidden, rfl⟩

/-- The first name that is not blank, or else the name of the method, is the name of the bean, and
the product of the method stands under it or behind its proxy. Every other name that is not blank
leads to that name afterwards, even if it led elsewhere before, and blank names lead nowhere. -/
theorem register_names (reachable : registry.Reachable)
    (marked : method.metadata.annotations.attributes AnnotationType.bean = some attributes)
    (listed : nameEntries? attributes = some entries)
    (done : (method.register scopes configuration).run registry = .ok (some holder) left) :
    holder.beanName = (entries.find? fun entry => !Text.isBlank entry).getD method.name ∧
      (∃ scope definition, scopes.resolve method.metadata.annotations = .ok scope ∧
        left.definition? (if scope.proxyMode = .no then holder.beanName
          else targetName holder.beanName) = some definition ∧
        IsProduct configuration method definition ∧ definition.scope = scope.scopeName) ∧
      ∀ entry ∈ entries,
        if Text.isBlank entry then left.isNameInUse entry = false
        else entry ≠ holder.beanName →
          left.canonicalName entry = holder.beanName ∧
            entry ∈ left.aliasesOf holder.beanName := by
  have leftReachable := register_reachable reachable done
  obtain ⟨_, _, mode, definition, sameMarker, given, read, registered⟩ := register_reads done
  obtain rfl := Option.some.inj (marked.symm.trans sameMarker)
  obtain rfl := Except.ok.inj ((givenNames_of_entries listed).symm.trans given)
  have known := Registry.definition?_of_registerScoped registered
  obtain ⟨unbound, bindings⟩ := Registry.registerScoped_bindings registered
  have sameName : holder.beanName = (splitNames method.name
      (entries.filter fun entry => !Text.isBlank entry)).1 := by
    rw [(Registry.registerScoped_ok registered).1, beanName_shown]
  dsimp only at known unbound bindings
  rw [← sameName] at known unbound bindings
  refine ⟨by rw [sameName, splitNames_fst, List.head?_filter], ?_, fun entry member => ?_⟩
  · obtain ⟨scope, resolved, rfl, product, inScope⟩ := underlying_readProduct read
    exact ⟨scope, _, resolved, known, product, inScope⟩
  · split
    · rename_i blank
      exact leftReachable.isNameInUse_of_blank blank
    · rename_i solid
      intro different
      have kept : entry ∈ entries.filter fun entry => !Text.isBlank entry :=
        List.mem_filter.mpr ⟨member, by simpa using solid⟩
      have bound := bindings entry (mem_splitNames_snd kept (sameName ▸ different)) different
      exact ⟨AliasMap.canonicalName_eq_target bound unbound,
        leftReachable.acyclic.mem_aliasesOf_iff.mpr (.step bound)⟩

/-- The cart lists a blank name, itself and a name of the desk. -/
def namedCart : BeanMethod where
  metadata :=
    { methodName := "makeCart"
      declaringClassName := "shop.Config"
      returnTypeName := some "shop.Cart"
      annotations := .ofDescriptors
        [.bean [" ", "cart", "basket", "cart", "trolley", "basket"], .scope "session" .targetClass] }
  configurationClass := 0

/-- The cart takes over the alias of the desk, where that is permitted. -/
theorem namedCart_takes_names :
    let registry := Registry.empty.run [.setAllowOverriding true, .registerAlias "desk" "basket"]
    let shop : ConfigurationClass :=
      { id := 0
        metadata := { className := "shop.Config", annotations := .ofDescriptors [] }
        beanMethods := [namedCart] }
    registry.canonicalName "basket" = "desk" ∧
      ∃ holder left, (namedCart.register {} shop).run registry = .ok (some holder) left ∧
        holder.beanName = "cart" ∧ left.isNameInUse " " = false ∧
        (left.canonicalName "basket" = "cart" ∧ "basket" ∈ left.aliasesOf "cart") ∧
        (left.canonicalName "trolley" = "cart" ∧ "trolley" ∈ left.aliasesOf "cart") ∧
        ∃ definition, left.definition? "scopedTarget.cart" = some definition ∧
          IsProduct shop namedCart definition ∧ definition.scope = "session" := by
  intro registry shop
  have made : (((namedCart.register {} shop).run' registry).join.map
      fun holder => holder.beanName) = some "cart" := by
    decide +kernel
  have asked : ({} : ScopeResolver).resolve namedCart.metadata.annotations =
      .ok ⟨"session", .targetClass⟩ := by
    decide +kernel
  obtain ⟨holder, once, named⟩ := Option.map_eq_some_iff.mp made
  obtain ⟨left, done⟩ := run'_eq_some_iff.mp (Option.join_eq_some_iff.mp once)
  obtain ⟨_, ⟨scope, definition, resolved, known, product, inScope⟩, leads⟩ :=
    register_names ⟨_, rfl⟩ rfl rfl done
  obtain rfl := Except.ok.inj (asked.symm.trans resolved)
  rw [named] at known leads
  refine ⟨by decide +kernel, holder, left, done, named, ?_, ?_, ?_, definition, known, product,
    inScope⟩
  · exact leads " " (by decide)
  · exact leads "basket" (by decide) (by decide)
  · exact leads "trolley" (by decide) (by decide)

end BeanMethod

end BeanContainer
