/-
This file shows that a name keeps its definition and its place where no name may be bound anew. A
call registers in many small writes, and it may be refused after any of them, but each write goes to
a name that is free.
-/

import BeanContainer.Proofs.Registration.ProxyPairs
import BeanContainer.Proofs.Registry.Operations

namespace BeanContainer

open Relation

namespace Registry

variable {first middle last : Registry}

/-! One write. -/

/-- A name receives a definition or becomes an alias. -/
inductive Write : Registry → Registry → Prop where
  | bind {registry : Registry} {name : String} (definition : BeanDefinition)
      (free : registry.bindingFault? name = none) : Write registry (registry.bind name definition)
  | connect {registry : Registry} {name aliasName : String}
      (free : registry.aliasFault? name aliasName = none) :
      Write registry (registry.connect name aliasName)

/-- A connection of a holder is a write. -/
theorem Connection.write {name : String} {aliases : List String}
    (connection : Connection name aliases first last) : Write first last := by
  cases connection with
  | connect listed free => exact .connect free

/-- Every placement is a write. -/
theorem Placement.write {sanctioned : BeanDefinition → Prop}
    (placement : Placement sanctioned first last) : Write first last := by
  cases placement with
  | place allowed free => exact .bind _ free
  | hide allowed free => exact .bind _ free
  | front byClass behind free => exact .bind _ free
  | connect known free => exact .connect free

/-- Every write is one of the changes that a request may make. -/
theorem Write.change (write : Write first last) : Change first last := by
  cases write with
  | bind definition free => exact .bind definition free
  | connect free => exact .connect free

/-- A request leads from a reachable registry to a reachable one. -/
theorem Reachable.after (reachable : first.Reachable) (request : Request) :
    (request.after first).Reachable := by
  obtain ⟨requests, rfl⟩ := reachable
  exact ⟨requests ++ [request], run_concat .empty requests request⟩

/-- Each write is what some request would do. -/
theorem Reachable.write (reachable : first.Reachable) (write : Write first last) :
    last.Reachable := by
  cases write with
  | @bind name definition free =>
      have reached := reachable.after (.register name definition)
      rwa [Request.after_register, free] at reached
  | @connect name aliasName free =>
      have reached := reachable.after (.registerAlias name aliasName)
      rwa [Request.after_registerAlias, free] at reached

/-- Writes lead from a reachable registry to a reachable one. -/
theorem Reachable.writes (reachable : first.Reachable) (writes : ReflTransGen Write first last) :
    last.Reachable := by
  induction writes with
  | refl => exact reachable
  | tail _ write inductionHypothesis => exact inductionHypothesis.write write

/-- A written name keeps some definition, even where it may be bound anew. -/
theorem Write.contains (write : Write first last) {name : String}
    (known : first.contains name = true) : last.contains name = true := by
  cases write with
  | bind definition free => rw [contains_bind, known, Bool.or_true]
  | connect free => exact known

/-- A known name stays known through all writes. -/
theorem contains_of_writes (writes : ReflTransGen Write first last) {name : String}
    (known : first.contains name = true) : last.contains name = true := by
  induction writes with
  | refl => exact known
  | tail _ write inductionHypothesis => exact write.contains inductionHypothesis

/-- What the last registry holds beyond the first one stands behind it in the order of names. -/
structure Continues (first last : Registry) : Prop extends Extends first last where
  names : first.names <+: last.names

/-- A registry in which no name may be bound anew continues itself. -/
theorem Continues.refl (fixedNames : first.allowOverriding = false) : Continues first first where
  fixedNames := fixedNames
  definition? := id
  names := List.prefix_rfl

/-- What continues a continuation continues the first registry. -/
theorem Continues.trans (begun : Continues first middle) (ended : Continues middle last) :
    Continues first last where
  toExtends := begun.toExtends.trans ended.toExtends
  names := begun.names.trans ended.names

/-- Where no name may be bound anew, a write takes nothing back. -/
theorem Write.continues (write : Write first last) (fixedNames : first.allowOverriding = false) :
    Continues first last := by
  cases write with
  | @bind name definition free =>
      refine ⟨.bind fixedNames free definition, ?_⟩
      unfold Registry.bind
      dsimp only
      split
      · exact List.prefix_rfl
      · exact List.prefix_append _ _
  | connect free => exact ⟨⟨fixedNames, id⟩, List.prefix_rfl⟩

/-- Where no name may be bound anew, writes take nothing back. -/
theorem Continues.of_writes (writes : ReflTransGen Write first last)
    (fixedNames : first.allowOverriding = false) : Continues first last := by
  induction writes with
  | refl => exact .refl fixedNames
  | tail _ write inductionHypothesis =>
      exact inductionHypothesis.trans (write.continues inductionHypothesis.fixedNames)

/-- A name that the first registry knows is refused in the last one. -/
theorem Continues.refuses (continues : Continues first last) {name : String}
    (known : first.contains name = true) (definition : BeanDefinition) :
    ∃ cause, (register name definition).run last = .error cause last := by
  obtain ⟨given, found⟩ := Option.isSome_iff_exists.mp known
  have used : last.isNameInUse name = true := by
    rw [isNameInUse, contains, continues.definition? found, Option.isSome_some, Bool.true_or]
  rw [register_run]
  cases fault : last.bindingFault? name with
  | some cause => exact ⟨cause, rfl⟩
  | none =>
      rw [isNameInUse_of_free continues.fixedNames fault] at used
      contradiction

/-! One request. -/

/-- Whether the request takes no definition away and leaves the permission alone. -/
def Request.isRegistration : Request → Bool
  | .remove _ | .setAllowOverriding _ => false
  | .register _ _ | .registerAlias _ _ | .registerHolder _ => true

/-- A request that registers consists of writes, be it refused or not. -/
theorem Request.writes {request : Request} (registers : request.isRegistration = true)
    (registry : Registry) : ReflTransGen Write registry (request.after registry) := by
  cases request with
  | register name definition =>
      rw [Request.after_register]
      cases fault : registry.bindingFault? name with
      | some cause => exact .refl
      | none => exact .single (.bind definition fault)
  | registerAlias name aliasName =>
      rw [Request.after_registerAlias]
      cases fault : registry.aliasFault? name aliasName with
      | some cause => exact .refl
      | none => exact .single (.connect fault)
  | registerHolder holder =>
      rw [Request.after_registerHolder]
      obtain ⟨_, _, same⟩ | ⟨free, connections⟩ := registerHolder_leftBy holder registry
      · rw [same]
      · exact (ReflTransGen.single (.bind holder.definition free)).trans
          (ReflTransGen.mono (fun _ _ => Connection.write) _ _ connections)
  | remove name => contradiction
  | setAllowOverriding allow => contradiction

end Registry

/-! One call. -/

/-- A request to the registry of a factory, or an activity that makes such requests of its own. -/
inductive Call : Type 1 where
  | request (request : Registry.Request)
  | activity (activity : Activity)

namespace Call

/-- The factory after the call, whether it is refused or not. -/
def after (factory : BeanFactory) : Call → BeanFactory
  | .request asked => { factory with registry := asked.after factory.registry }
  | .activity act => act.after factory

/-- Each call finds the factory as the one before it has left it. -/
def run (factory : BeanFactory) (calls : List Call) : BeanFactory := calls.foldl after factory

def isRegistration : Call → Bool
  | .request asked => asked.isRegistration
  | .activity _ => true

/-- A call that registers consists of writes, be it refused or not. -/
theorem writes {call : Call} (registers : call.isRegistration = true) (factory : BeanFactory) :
    ReflTransGen Registry.Write factory.registry (call.after factory).registry := by
  cases call with
  | request asked => exact Registry.Request.writes registers factory.registry
  | activity act =>
      exact ReflTransGen.mono (fun _ _ => Registry.Placement.write) _ _ (act.places factory)

/-! A run of calls. -/

/-- A run of calls may be cut anywhere. -/
theorem run_append (factory : BeanFactory) (earlier later : List Call) :
    run factory (earlier ++ later) = run (run factory earlier) later :=
  List.foldl_append

/-- A run of calls that register consists of writes. -/
theorem run_writes (factory : BeanFactory) {calls : List Call}
    (registrations : ∀ call ∈ calls, call.isRegistration = true) :
    ReflTransGen Registry.Write factory.registry (run factory calls).registry := by
  induction calls generalizing factory with
  | nil => exact .refl
  | cons call rest inductionHypothesis =>
      have begun := writes (registrations call List.mem_cons_self) factory
      refine begun.trans (inductionHypothesis (call.after factory) fun other listed => ?_)
      exact registrations other (List.mem_cons_of_mem _ listed)

/-- Between any two moments of a run, the names stay in their places and the definitions stay the
same, and each attempt to define such a name again is refused. -/
theorem run_writeOnce {factory : BeanFactory}
    (fixedNames : factory.registry.allowOverriding = false) {earlier later : List Call}
    (registrations : ∀ call ∈ earlier ++ later, call.isRegistration = true) :
    let first := (run factory earlier).registry
    let last := (run factory (earlier ++ later)).registry
    first.names <+: last.names ∧
      (∀ name definition, first.definition name = .ok definition →
        last.definition name = .ok definition) ∧
      ∀ name definition, first.contains name = true →
        ∃ cause, (Registry.register name definition).run last = .error cause last := by
  intro first last
  have begun : ReflTransGen Registry.Write factory.registry first :=
    run_writes factory fun call listed => registrations call (List.mem_append_left later listed)
  have continued : ReflTransGen Registry.Write first last := by
    have further := run_writes (run factory earlier) fun call listed =>
      registrations call (List.mem_append_right earlier listed)
    rwa [← run_append] at further
  have continues : Registry.Continues first last :=
    .of_writes continued (Registry.Continues.of_writes begun fixedNames).fixedNames
  refine ⟨continues.names, fun name definition known => ?_, fun name definition known => ?_⟩
  · rw [Registry.definition_eq_ok_iff] at known ⊢
    exact continues.definition? known
  · exact continues.refuses known definition

/-- A second cart is refused, and the desk takes the name of the cart as an alias, but neither of
them moves or replaces the first cart. -/
theorem cart_written_once :
    let earlier := Activity.cartActivities.map activity
    let later := [request (.register "cart" {}),
      request (.registerHolder { definition := {}, beanName := "desk", aliases := ["cart"] })]
    let first := (run .empty earlier).registry
    let last := (run .empty (earlier ++ later)).registry
    (∀ call ∈ earlier ++ later, call.isRegistration = true) ∧ first.contains "cart" = true ∧
      last.isAlias "cart" = true ∧ first.names <+: last.names ∧
      ∃ definition, first.definition "cart" = .ok definition ∧
        last.definition "cart" = .ok definition ∧
        ∃ cause, (Registry.register "cart" {}).run last = .error cause last := by
  intro earlier later first last
  have registrations : ∀ call ∈ earlier ++ later, call.isRegistration = true := by decide
  have ⟨known, bound⟩ : first.contains "cart" = true ∧
      (run (run .empty earlier) later).registry.isAlias "cart" = true := by
    decide +kernel
  rw [← run_append] at bound
  obtain ⟨definition, found⟩ := Option.isSome_iff_exists.mp known
  have given : first.definition "cart" = .ok definition := Registry.definition_eq_ok_iff.mpr found
  have fixedNames : BeanFactory.empty.registry.allowOverriding = false := rfl
  obtain ⟨names, same, refuses⟩ := run_writeOnce fixedNames registrations
  exact ⟨registrations, known, bound, names, definition, given, same _ _ given, refuses _ _ known⟩

end Call

end BeanContainer
