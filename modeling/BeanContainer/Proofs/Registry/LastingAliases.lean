/-
This file shows how long an alias stays bound where no name may be bound anew: until somebody binds
the alias to itself, which releases it without asking for permission. All other requests leave the
binding alone, whether they are refused or not.
-/

import BeanContainer.Proofs.Registry.Operations

namespace BeanContainer.Registry

/-- No name may be bound anew, and the alias is bound to the target. -/
structure Fixes (registry : Registry) (aliasName target : String) : Prop where
  fixedNames : registry.allowOverriding = false
  bound : registry.aliases.get? aliasName = some target

/-! What a change does to the binding. -/

namespace Fixes

variable {registry first last : Registry} {aliasName target name : String}

/-- A fixed alias is an alias. -/
theorem isAlias (fixes : Fixes registry aliasName target) : registry.isAlias aliasName = true := by
  rw [Registry.isAlias, SortedMap.contains, fixes.bound]
  rfl

/-- A definition does not take the name of the alias. -/
theorem ne_of_free (fixes : Fixes registry aliasName target)
    (free : registry.bindingFault? name = none) : name ≠ aliasName := by
  rintro rfl
  have unused := isNameInUse_of_free fixes.fixedNames free
  simp [isNameInUse, fixes.isAlias] at unused

/-- No definition is accepted under a fixed alias, so the binding outlasts every registration. -/
theorem bind (fixes : Fixes registry aliasName target) (free : registry.bindingFault? name = none)
    (definition : BeanDefinition) : Fixes (registry.bind name definition) aliasName target where
  fixedNames := fixes.fixedNames
  bound := by
    rw [Registry.bind, SortedMap.get?_erase, if_neg (fixes.ne_of_free free).symm]
    exact fixes.bound

/-- The alias does not get another target, and only its own name would release it. -/
theorem connect (fixes : Fixes registry aliasName target) {otherAlias : String}
    (free : registry.aliasFault? name otherAlias = none)
    (unreleased : otherAlias = name → name ≠ aliasName) :
    Fixes (registry.connect name otherAlias) aliasName target where
  fixedNames := fixes.fixedNames
  bound := by
    unfold Registry.connect
    by_cases itself : otherAlias = name
    · have different : aliasName ≠ otherAlias := itself ▸ (unreleased itself).symm
      rw [if_pos itself, SortedMap.get?_erase, if_neg different]
      exact fixes.bound
    · rw [if_neg itself, SortedMap.get?_insert]
      by_cases here : aliasName = otherAlias
      · subst here
        obtain ⟨_, settled | ⟨unbound | allowed, _⟩⟩ :=
          (registry.aliasFault?_eq_none_iff name aliasName).mp free
        · rw [if_pos rfl, ← settled.resolve_left itself]
          exact fixes.bound
        · rw [fixes.bound] at unbound
          contradiction
        · rw [fixes.fixedNames] at allowed
          contradiction
      · rw [if_neg here]
        exact fixes.bound

/-- The connections of a holder leave the fixed alias alone, unless the holder has its name. -/
theorem of_connections {aliases : List String} (fixes : Fixes first aliasName target)
    (different : name ≠ aliasName)
    (connections : Relation.ReflTransGen (Connection name aliases) first last) :
    Fixes last aliasName target := by
  induction connections with
  | refl => exact fixes
  | tail _ connection inductionHypothesis =>
      cases connection with
      | connect listed free => exact inductionHypothesis.connect free fun _ => different

/-! One request, and then a run of them. -/

/-- Only a binding of the alias to itself or a change of the permission can touch a fixed alias. -/
theorem after (fixes : Fixes registry aliasName target) {request : Request}
    (ordinary : ∀ allow, request ≠ .setAllowOverriding allow)
    (unreleased : request ≠ .registerAlias aliasName aliasName) :
    Fixes (request.after registry) aliasName target := by
  cases request with
  | register name definition =>
      rw [Request.after_register]
      cases fault : registry.bindingFault? name with
      | some cause => exact fixes
      | none => exact fixes.bind fault definition
  | remove name =>
      rw [Request.after_remove]
      cases registry.definition? name with
      | none => exact fixes
      | some removed => exact ⟨fixes.fixedNames, fixes.bound⟩
  | registerAlias name otherAlias =>
      rw [Request.after_registerAlias]
      cases fault : registry.aliasFault? name otherAlias with
      | some cause => exact fixes
      | none =>
          refine fixes.connect fault ?_
          rintro rfl rfl
          exact unreleased rfl
  | registerHolder holder =>
      rw [Request.after_registerHolder]
      obtain ⟨_, _, same⟩ | ⟨free, connections⟩ := registerHolder_leftBy holder registry
      · rw [same]
        exact fixes
      · exact (fixes.bind free holder.definition).of_connections (fixes.ne_of_free free) connections
  | setAllowOverriding allow => exact absurd rfl (ordinary allow)

/-- A fixed alias outlasts every run without such a request. -/
theorem run (fixes : Fixes registry aliasName target) {requests : List Request}
    (ordinary : ∀ allow, .setAllowOverriding allow ∉ requests)
    (unreleased : .registerAlias aliasName aliasName ∉ requests) :
    Fixes (registry.run requests) aliasName target := by
  induction requests generalizing registry with
  | nil => exact fixes
  | cons request rest inductionHypothesis =>
      have next := fixes.after
        (fun allow same => ordinary allow (same ▸ List.mem_cons_self))
        (fun same => unreleased (same ▸ List.mem_cons_self))
      exact inductionHypothesis next
        (fun allow member => ordinary allow (List.mem_cons_of_mem _ member))
        (fun member => unreleased (List.mem_cons_of_mem _ member))

end Fixes

/-! The release. -/

/-- Whatever the alias is bound to, its own name releases it. -/
theorem get?_after_own_name {aliasName : String} (solid : Text.isBlank aliasName = false)
    (registry : Registry) :
    ((Request.registerAlias aliasName aliasName).after registry).aliases.get? aliasName = none := by
  have free : registry.aliasFault? aliasName aliasName = none :=
    (registry.aliasFault?_eq_none_iff aliasName aliasName).mpr
      ⟨by rw [Bool.or_self, solid], Or.inl (Or.inl rfl)⟩
  rw [Request.after_registerAlias, free]
  dsimp only
  rw [connect, if_pos rfl, SortedMap.get?_erase, if_pos rfl]

/-- No blank name is an alias. -/
def BindsSolidNames (registry : Registry) : Prop :=
  ∀ aliasName target, registry.aliases.get? aliasName = some target →
    Text.isBlank aliasName = false

/-- No change binds a blank alias. -/
theorem Change.bindsSolidNames {first last : Registry} (change : Change first last)
    (solid : BindsSolidNames first) : BindsSolidNames last := by
  intro other given bound
  cases change with
  | bind definition free =>
      rw [Registry.bind, SortedMap.get?_erase] at bound
      split at bound
      · contradiction
      · exact solid other given bound
  | unbind known => exact solid other given bound
  | @connect name aliasName free =>
      have named := ((first.aliasFault?_eq_none_iff name aliasName).mp free).1
      rw [Bool.or_eq_false_iff] at named
      unfold Registry.connect at bound
      split at bound
      · rw [SortedMap.get?_erase] at bound
        split at bound
        · contradiction
        · exact solid other given bound
      · rw [SortedMap.get?_insert] at bound
        split at bound
        · rename_i same
          rw [same]
          exact named.2
        · exact solid other given bound
  | setOverriding allow => exact solid other given bound

/-- No run of requests binds a blank alias. -/
theorem Reachable.bindsSolidNames {registry : Registry} (reachable : Reachable registry) :
    BindsSolidNames registry :=
  reachable.invariant (fun _ _ bound => nomatch bound) fun _ _ => Change.bindsSolidNames

/-- Where no name may be bound anew, an alias stays bound through a run of requests exactly as long
as none of them binds the alias to itself. -/
theorem run_bound_iff {registry : Registry} (reachable : Reachable registry)
    (fixedNames : registry.allowOverriding = false) {aliasName target : String}
    (bound : registry.aliases.get? aliasName = some target) {requests : List Request}
    (ordinary : ∀ allow, .setAllowOverriding allow ∉ requests) :
    (∀ earlier, earlier <+: requests →
        (registry.run earlier).aliases.get? aliasName = some target) ↔
      .registerAlias aliasName aliasName ∉ requests := by
  constructor
  · intro always released
    obtain ⟨earlier, later, rfl⟩ := List.append_of_mem released
    have stillBound := always (earlier ++ [.registerAlias aliasName aliasName])
      ⟨later, by rw [List.append_assoc, List.singleton_append]⟩
    rw [run_concat, get?_after_own_name (reachable.bindsSolidNames _ _ bound)] at stillBound
    contradiction
  · intro unreleased earlier made
    have fixes : Fixes registry aliasName target := ⟨fixedNames, bound⟩
    refine (fixes.run (fun allow member => ?_) fun member => ?_).bound
    · exact ordinary allow (made.subset member)
    · exact unreleased (made.subset member)

/-- A definition and a holder under the name of the alias are refused, a second target is refused,
and the alias outlasts the bean that it stands for. -/
theorem basket_stays_bound :
    let registry := Registry.empty.run [.register "cart" {}, .registerAlias "cart" "basket"]
    let requests : List Request :=
      [.registerAlias "desk" "basket", .register "basket" {},
        .registerHolder { definition := {}, beanName := "desk", aliases := ["basket", "desk"] },
        .registerHolder { definition := {}, beanName := "basket", aliases := ["basket"] },
        .remove "cart", .registerAlias "cart" "cart"]
    Reachable registry ∧ registry.allowOverriding = false ∧
      registry.aliases.get? "basket" = some "cart" ∧
      (∀ allow, .setAllowOverriding allow ∉ requests) ∧
      .registerAlias "basket" "basket" ∉ requests ∧
      ∀ earlier, earlier <+: requests →
        (registry.run earlier).aliases.get? "basket" = some "cart" := by
  intro registry requests
  have fixedNames : registry.allowOverriding = false := by decide +kernel
  have bound : registry.aliases.get? "basket" = some "cart" := by decide +kernel
  have ordinary : ∀ allow, .setAllowOverriding allow ∉ requests := by simp [requests]
  have unreleased : .registerAlias "basket" "basket" ∉ requests := by simp [requests]
  refine ⟨⟨_, rfl⟩, fixedNames, bound, ordinary, unreleased, ?_⟩
  exact (run_bound_iff ⟨_, rfl⟩ fixedNames bound ordinary).mpr unreleased

/-- Although no name may be bound anew, the alias is free again once it is bound to itself. -/
theorem own_name_releases_alias :
    let registry := Registry.empty.run [.register "cart" {}, .registerAlias "cart" "basket"]
    let released := registry.run [.registerAlias "basket" "basket"]
    registry.allowOverriding = false ∧ registry.canonicalName "basket" = "cart" ∧
      registry.aliases.get? "basket" = some "cart" ∧
      released.aliases.get? "basket" = none ∧ released.canonicalName "basket" = "basket" := by
  decide +kernel

end BeanContainer.Registry
