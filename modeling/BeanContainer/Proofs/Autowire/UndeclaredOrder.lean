/-
This file says where the beans without a declared order stand among the candidates of a dependency.
They come behind the beans that declare less than the lowest precedence and ahead of those that
declare more, so they are last just if no candidate declares more.
-/

import BeanContainer.Proofs.Autowire.Selection

namespace BeanContainer

namespace BeanDefinition

variable {definition : BeanDefinition} {number : Int64}

/-- A bean without a declared order has the lowest precedence. -/
theorem order_of_undeclared (undeclared : definition.declaredOrder = none) :
    definition.order = lowestPrecedence := by
  rw [order, undeclared, Option.getD_none]

/-- A declared order is the order of the bean. -/
theorem order_of_declared (declared : definition.declaredOrder = some number) :
    definition.order = number := by
  rw [order, declared, Option.getD_some]

/-- Every other order than the lowest precedence is declared. -/
theorem declaredOrder_of_order_ne (different : definition.order ≠ lowestPrecedence) :
    definition.declaredOrder = some definition.order := by
  cases declared : definition.declaredOrder with
  | none => exact absurd (order_of_undeclared declared) different
  | some number => rw [order_of_declared declared]

end BeanDefinition

namespace BeanDefinitionHolder

variable {holders : List BeanDefinitionHolder}

/-- No bean without a declared order stands ahead of a bean that declares one, unless that is the
lowest precedence itself. -/
def UndeclaredLast (holders : List BeanDefinitionHolder) : Prop :=
  holders.Pairwise fun earlier later =>
    earlier.definition.declaredOrder = none →
      ∀ number, later.definition.declaredOrder = some number → number = lowestPrecedence

/-- A list in which nothing chosen stands behind anything else begins with all that is chosen. -/
theorem filter_append_filter_not {chosen : BeanDefinitionHolder → Bool}
    (first : holders.Pairwise fun earlier later => chosen later = true → chosen earlier = true) :
    holders.filter chosen ++ holders.filter (fun holder => !chosen holder) = holders := by
  induction first with
  | nil => rfl
  | @cons head rest ahead _ inductionHypothesis =>
      by_cases here : chosen head = true
      · simp only [List.filter_cons, here, Bool.not_true, Bool.false_eq_true, if_true, if_false,
          List.cons_append, inductionHypothesis]
      · have none : rest.filter chosen = [] :=
          List.filter_eq_nil_iff.mpr fun holder member later => here (ahead holder member later)
        rw [none, List.nil_append] at inductionHypothesis
        simp only [List.filter_cons, here, none, Bool.not_false, if_true, if_false,
          List.nil_append, Bool.false_eq_true, inductionHypothesis]

/-- A list in ascending order falls into the beans below an order, those at it and those above. -/
theorem eq_append_of_ascending
    (ascending : holders.Pairwise fun first second =>
      first.definition.order ≤ second.definition.order) (level : Int64) :
    holders = holders.filter (fun holder => decide (holder.definition.order < level)) ++
      (holders.filter (fun holder => holder.definition.order == level) ++
        holders.filter (fun holder => decide (level < holder.definition.order))) := by
  have lower : holders.Pairwise fun first second =>
      decide (second.definition.order < level) = true →
        decide (first.definition.order < level) = true := by
    refine ascending.imp fun {first second} ordered => ?_
    rw [decide_eq_true_eq, decide_eq_true_eq]
    exact Int64.lt_of_le_of_lt ordered
  -- Where nothing is below the order, the beans at it are the first ones.
  have middle : (holders.filter fun holder => !decide (holder.definition.order < level)).Pairwise
      fun first second => (second.definition.order == level) = true →
        (first.definition.order == level) = true := by
    refine (ascending.filter _).imp_of_mem fun {first second} member _ ordered => ?_
    have notBelow : ¬ first.definition.order < level := by
      simpa using (List.mem_filter.mp member).2
    rw [beq_iff_eq, beq_iff_eq]
    rintro rfl
    exact Int64.le_antisymm ordered (Int64.not_lt.mp notBelow)
  have parts := filter_append_filter_not lower
  rw [← filter_append_filter_not middle, List.filter_filter, List.filter_filter] at parts
  refine parts.symm.trans (congrArg _ (congrArg₂ _ ?_ ?_))
  · exact List.filter_congr fun holder _ => by grind
  · exact List.filter_congr fun holder _ => by grind

/-- The only beans that can follow an undeclared one are those above the lowest precedence. -/
theorem undeclaredLast_iff
    (ascending : holders.Pairwise fun first second =>
      first.definition.order ≤ second.definition.order) :
    UndeclaredLast holders ↔
      ∀ holder ∈ holders, holder.definition.declaredOrder = none →
        ∀ other ∈ holders, other.definition.order ≤ lowestPrecedence := by
  constructor
  · intro last holder member undeclared other otherMember
    refine Int64.not_lt.mp fun above => ?_
    have split := eq_append_of_ascending ascending lowestPrecedence
    unfold UndeclaredLast at last
    rw [split, List.pairwise_append, List.pairwise_append] at last
    obtain ⟨_, ⟨_, _, apart⟩, _⟩ := last
    have inMiddle : holder ∈ holders.filter fun holder =>
        holder.definition.order == lowestPrecedence :=
      List.mem_filter.mpr ⟨member, beq_iff_eq.mpr (BeanDefinition.order_of_undeclared undeclared)⟩
    have behind : other ∈ holders.filter fun holder =>
        decide (lowestPrecedence < holder.definition.order) :=
      List.mem_filter.mpr ⟨otherMember, decide_eq_true above⟩
    have different : other.definition.order ≠ lowestPrecedence :=
      (Int64.ne_of_lt above).symm
    exact different (apart holder inMiddle other behind undeclared _
      (BeanDefinition.declaredOrder_of_order_ne different))
  · intro bounded
    refine ascending.imp_of_mem fun {earlier later} member laterMember ordered => ?_
    intro undeclared number declared
    rw [BeanDefinition.order_of_undeclared undeclared] at ordered
    have upper := bounded earlier member undeclared later laterMember
    rw [BeanDefinition.order_of_declared declared] at ordered upper
    exact Int64.le_antisymm upper ordered

end BeanDefinitionHolder

namespace BeanFactory

open BeanDefinitionHolder

/-- Sorted by declared order, the candidates that declare less than the lowest precedence come
first. Those without a declared order follow in order of registration, among the beans that declare
the lowest precedence itself, and whatever declares more stands behind them. So the beans without a
declared order are last just if no candidate declares more beside them. -/
theorem candidates_undeclaredLast_iff (factory : BeanFactory) (dependency : DependencyDescriptor)
    (declared : factory.comparator = some .declaredOrder) :
    let found := factory.candidates dependency
    (∃ lower higher,
      found = lower ++ ((factory.fitting dependency).filter
        (fun holder => holder.definition.order == lowestPrecedence) ++ higher) ∧
      (∀ holder ∈ lower, ∃ number < lowestPrecedence,
        holder.definition.declaredOrder = some number) ∧
      ∀ holder ∈ higher, ∃ number > lowestPrecedence,
        holder.definition.declaredOrder = some number) ∧
    (UndeclaredLast found ↔
      ∀ holder ∈ found, holder.definition.declaredOrder = none →
        ∀ other ∈ found, ∀ number, other.definition.declaredOrder = some number →
          number ≤ lowestPrecedence) := by
  intro found
  have ascending := inOrder_pairwise declared (factory.fitting dependency)
  constructor
  · have split := eq_append_of_ascending ascending lowestPrecedence
    rw [filter_inOrder declared] at split
    refine ⟨_, _, split, fun holder member => ?_, fun holder member => ?_⟩
    · have below := of_decide_eq_true (List.mem_filter.mp member).2
      exact ⟨_, below, BeanDefinition.declaredOrder_of_order_ne (Int64.ne_of_lt below)⟩
    · have above := of_decide_eq_true (List.mem_filter.mp member).2
      exact ⟨_, above, BeanDefinition.declaredOrder_of_order_ne (Int64.ne_of_lt above).symm⟩
  · refine (undeclaredLast_iff ascending).trans ?_
    refine forall₃_congr fun holder _ _ => forall₂_congr fun other _ => ?_
    constructor
    · intro bounded number numbered
      exact BeanDefinition.order_of_declared numbered ▸ bounded
    · intro bounded
      by_cases level : other.definition.order = lowestPrecedence
      · exact Int64.le_of_eq level
      · exact bounded _ (BeanDefinition.declaredOrder_of_order_ne level)

/-- The cart declares no order and is registered ahead of the desk, which declares the number. -/
def numberedShop (number : Int64) : BeanFactory :=
  { installAnnotationSupport .empty with
    registry := Registry.empty.run [.register "cart" (.ofClass "shop.Cart"),
      .register "desk" (placed "shop.Desk" number)] }

/-- The cart and the desk are the candidates, whatever the number is. -/
theorem mem_candidates_numberedShop {number : Int64} {holder : BeanDefinitionHolder} :
    holder ∈ (numberedShop number).candidates {} ↔
      holder = ⟨.ofClass "shop.Cart", "cart", []⟩ ∨
        holder = ⟨placed "shop.Desk" number, "desk", []⟩ := by
  have fits : (numberedShop number).fitting {} =
      [⟨.ofClass "shop.Cart", "cart", []⟩, ⟨placed "shop.Desk" number, "desk", []⟩] := rfl
  rw [candidates_eq, mem_inOrder, fits, List.mem_cons, List.mem_singleton]

/-- A desk that declares a small number comes first. -/
theorem early_desk_ahead_of_cart :
    (numberedShop 7).comparator = some .declaredOrder ∧
      UndeclaredLast ((numberedShop 7).candidates {}) := by
  have declared : (numberedShop 7).comparator = some .declaredOrder := rfl
  refine ⟨declared, (candidates_undeclaredLast_iff _ {} declared).2.mpr ?_⟩
  intro _ _ _ other candidate number numbered
  obtain rfl | rfl := mem_candidates_numberedShop.mp candidate
  · cases numbered
  · obtain rfl : 7 = number := Option.some.inj numbered
    decide

/-- The desk is behind the cart for every number above the lowest precedence, and for no other. -/
theorem undeclaredLast_numberedShop_iff (number : Int64) :
    UndeclaredLast ((numberedShop number).candidates {}) ↔ number ≤ lowestPrecedence := by
  have declared : (numberedShop number).comparator = some .declaredOrder := rfl
  have ascending := inOrder_pairwise declared ((numberedShop number).fitting {})
  refine (undeclaredLast_iff ascending).trans ⟨fun bounded => ?_, fun bounded => ?_⟩
  · exact bounded _ (mem_candidates_numberedShop.mpr (.inl rfl)) rfl _
      (mem_candidates_numberedShop.mpr (.inr rfl))
  · intro _ _ _ other candidate
    obtain rfl | rfl := mem_candidates_numberedShop.mp candidate
    · exact Int64.le_refl lowestPrecedence
    · exact bounded

/-- With the least number beyond the lowest precedence the desk stands behind the cart. -/
theorem late_desk_behind_cart : ¬ UndeclaredLast ((numberedShop 2147483648).candidates {}) := by
  rw [undeclaredLast_numberedShop_iff]
  decide

end BeanFactory

end BeanContainer
