/-
This file holds alias bindings and follows them up to a bean name and down to all aliases of it.
-/

import BeanContainer.Collection.SortedMap

namespace BeanContainer

/-- Each alias is bound to a bean name or to another alias. -/
abbrev AliasMap := SortedMap String

namespace AliasMap

/-- Takes at most the given number of bindings, starting from the name. -/
def follow (aliases : AliasMap) : Nat → String → String
  | 0, name => name
  | steps + 1, name =>
      match aliases.get? name with
      | some target => follow aliases steps target
      | none => name

/-- Without a cycle no walk takes more steps than there are bindings. -/
def canonicalName (aliases : AliasMap) (name : String) : String :=
  aliases.follow aliases.size name

/-- Whether the alias comes back to the name within the given number of bindings. -/
def leadsToWithin (aliases : AliasMap) (name aliasName : String) : Nat → Bool
  | 0 => false
  | steps + 1 => aliases.entries.any fun binding =>
      binding.2 == name && (binding.1 == aliasName || leadsToWithin aliases binding.1 aliasName steps)

/-- Whether one or more bindings lead from the alias to the name. -/
def leadsTo (aliases : AliasMap) (name aliasName : String) : Bool :=
  aliases.leadsToWithin name aliasName aliases.size

def aliasesWithin (aliases : AliasMap) : Nat → String → List String
  | 0, _ => []
  | steps + 1, name => aliases.entries.flatMap fun binding =>
      if binding.2 == name then binding.1 :: aliasesWithin aliases steps binding.1 else []

/-- Every alias that leads to the name; each alias is followed at once by its own aliases. -/
def aliasesOf (aliases : AliasMap) (name : String) : List String :=
  aliases.aliasesWithin aliases.size name

/-- The map has a path of one or more bindings from the first name to the second. -/
inductive Reaches (aliases : AliasMap) : String → String → Prop where
  | step {aliasName target : String} (bound : aliases.get? aliasName = some target) :
      Reaches aliases aliasName target
  | trans {aliasName target name : String} (bound : aliases.get? aliasName = some target)
      (rest : Reaches aliases target name) : Reaches aliases aliasName name

/-- No name comes back to itself. -/
def Acyclic (aliases : AliasMap) : Prop := ∀ name, ¬ Reaches aliases name name

end AliasMap

end BeanContainer
