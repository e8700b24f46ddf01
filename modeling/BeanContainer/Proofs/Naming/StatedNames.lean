/-
This file says which name a definition gets. The stereotypes of its class state names, all of them
have to state the same one, and the order in which the markers stand decides about nothing but which
two names a conflict reports.
-/

import BeanContainer.Proofs.Naming.MetaTypeCache
import Mathlib.Data.List.Nodup

namespace BeanContainer

/-! The names that stand on the markers. -/

namespace AnnotationView

/-- A stereotype is the component marker or a marker that carries it, or one of two markers from
elsewhere. -/
def IsStereotype (view : AnnotationView) (typeName : String) : Prop :=
  typeName = AnnotationType.component ∨ typeName = AnnotationType.managedBean ∨
    typeName = AnnotationType.named ∨ AnnotationType.component ∈ (view.metaTypes typeName).names

instance (view : AnnotationView) (typeName : String) : Decidable (view.IsStereotype typeName) :=
  inferInstanceAs (Decidable (_ ∨ _ ∨ _ ∨ _))

/-- The `value` of a stereotype, if it is a text that is not empty. -/
def statedName? (view : AnnotationView) (typeName : String) : Option String :=
  match (view.attributes typeName).bind fun attributes => attributes.get? AttributeName.value with
  | some (.string name) => if view.IsStereotype typeName ∧ name ≠ "" then some name else none
  | _ => none

def statedNames (view : AnnotationView) : List String := view.types.filterMap view.statedName?

/-- The same markers stand in another order. -/
structure Reorders (first second : AnnotationView) : Prop where
  types : first.types.Perm second.types
  attributes : first.attributes = second.attributes
  metaTypes : first.metaTypes = second.metaTypes

/-- Markers in another order state the same names in another order. -/
theorem Reorders.statedNames {first second : AnnotationView} (reorders : Reorders first second) :
    first.statedNames.Perm second.statedNames := by
  obtain ⟨types, attributes, metaTypes⟩ := first
  obtain ⟨order, rfl, rfl⟩ := reorders
  exact order.filterMap _

/-- Where no type occurs twice, it does not matter which descriptor is looked at first. -/
theorem find?_typeName_eq_some_iff {descriptors : List AnnotationDescriptor}
    (distinct : (descriptors.map (·.typeName)).Nodup) (typeName : String)
    (descriptor : AnnotationDescriptor) :
    (descriptors.find? fun other => other.typeName == typeName) = some descriptor ↔
      descriptor ∈ descriptors ∧ descriptor.typeName = typeName := by
  constructor
  · intro found
    exact ⟨List.mem_of_find?_eq_some found, by simpa using List.find?_some found⟩
  · rintro ⟨member, named⟩
    cases found : descriptors.find? fun other => other.typeName == typeName with
    | none => simpa [named] using List.find?_eq_none.mp found descriptor member
    | some other =>
        have alsoNamed : other.typeName = typeName := by simpa using List.find?_some found
        congr 1
        exact List.inj_on_of_nodup_map distinct (List.mem_of_find?_eq_some found) member
          (alsoNamed.trans named.symm)

/-- Different markers in another order make a view in another order. -/
theorem reorders_ofDescriptors {descriptors permuted : List AnnotationDescriptor}
    (order : descriptors.Perm permuted) (distinct : (descriptors.map (·.typeName)).Nodup) :
    Reorders (ofDescriptors descriptors) (ofDescriptors permuted) := by
  have alsoDistinct : (permuted.map (·.typeName)).Nodup := (order.map _).nodup distinct
  have sameFirst (typeName : String) :
      (descriptors.find? fun descriptor => descriptor.typeName == typeName) =
        permuted.find? fun descriptor => descriptor.typeName == typeName := by
    apply Option.ext
    intro descriptor
    rw [find?_typeName_eq_some_iff distinct, find?_typeName_eq_some_iff alsoDistinct,
      order.mem_iff]
  constructor
  · exact order.map _
  · funext typeName
    simp only [ofDescriptors, sameFirst]
  · funext typeName
    simp only [ofDescriptors, sameFirst]

end AnnotationView

/-- Without an annotated class no name is stated. -/
def BeanDefinition.statedNames (definition : BeanDefinition) : List String :=
  definition.metadata.elim [] fun metadata => metadata.annotations.statedNames

namespace Naming

/-! What several names agree on. -/

/-- The first name and the first one that differs from it make a conflict. -/
def agreement : List String → Except DefinitionError (Option String)
  | [] => .ok none
  | first :: rest =>
      match rest.find? fun other => other != first with
      | some other => .error (.namingConflict first other)
      | none => .ok (some first)

/-- Names conflict just if some name differs from the first one, and the first such name is
reported. -/
theorem agreement_eq_error_iff (names : List String) (cause : DefinitionError) :
    agreement names = .error cause ↔
      ∃ existing candidate, cause = .namingConflict existing candidate ∧
        names.head? = some existing ∧
        (names.find? fun other => other != existing) = some candidate := by
  cases names with
  | nil => exact iff_of_false nofun (fun ⟨_, _, _, noHead, _⟩ => nomatch noHead)
  | cons first rest =>
      have skipped : ((first :: rest).find? fun other => other != first) =
          rest.find? fun other => other != first := by simp
      rw [agreement]
      cases found : rest.find? fun other => other != first with
      | none =>
          refine iff_of_false nofun ?_
          rintro ⟨existing, candidate, _, isFirst, differs⟩
          cases isFirst
          rw [skipped, found] at differs
          contradiction
      | some other =>
          constructor
          · intro refused
            cases refused
            exact ⟨first, other, rfl, rfl, skipped.trans found⟩
          · rintro ⟨existing, candidate, rfl, isFirst, differs⟩
            cases isFirst
            rw [skipped, found] at differs
            cases differs
            rfl

/-- The agreement is the one name that occurs, or nothing where no name does. -/
theorem agreement_eq_ok_iff (names : List String) (found : Option String) :
    agreement names = .ok found ↔ ∀ name, name ∈ names ↔ found = some name := by
  cases names with
  | nil => cases found <;> simp [agreement]
  | cons first rest =>
      rw [agreement]
      cases conflict : rest.find? fun other => other != first with
      | none =>
          have alike : ∀ other ∈ rest, other = first := by
            simpa using List.find?_eq_none.mp conflict
          constructor
          · intro agreed name
            cases agreed
            rw [Option.some.injEq, List.mem_cons, eq_comm (a := first)]
            exact or_iff_left_of_imp (alike name)
          · intro occurs
            rw [(occurs first).mp List.mem_cons_self]
      | some other =>
          refine iff_of_false nofun fun occurs => ?_
          have isFirst := (occurs first).mp List.mem_cons_self
          have isOther := (occurs other).mp
            (List.mem_cons_of_mem _ (List.mem_of_find?_eq_some conflict))
          have differs : other ≠ first := by simpa using List.find?_some conflict
          exact differs (Option.some.inj (isOther.symm.trans isFirst))

/-- Names that are all alike agree. -/
theorem agreement_of_alike {names : List String}
    (alike : ∀ one ∈ names, ∀ other ∈ names, one = other) :
    agreement names = .ok names.head? := by
  cases names with
  | nil => rfl
  | cons first rest =>
      have noConflict : (rest.find? fun other => other != first) = none := by
        rw [List.find?_eq_none]
        intro other member
        simp [alike other (List.mem_cons_of_mem _ member) first List.mem_cons_self]
      rw [agreement, noConflict, List.head?_cons]

/-- There is a conflict as soon as any two names differ, wherever they stand. -/
theorem exists_conflict_iff (names : List String) :
    (∃ existing candidate, names.head? = some existing ∧
        (names.find? fun other => other != existing) = some candidate) ↔
      ∃ one ∈ names, ∃ other ∈ names, one ≠ other := by
  constructor
  · rintro ⟨existing, candidate, isFirst, differs⟩
    exact ⟨candidate, List.mem_of_find?_eq_some differs, existing, List.mem_of_head? isFirst,
      by simpa using List.find?_some differs⟩
  · rintro ⟨one, oneMember, other, otherMember, different⟩
    cases refused : agreement names with
    | error cause =>
        obtain ⟨existing, candidate, _, conflict⟩ := (agreement_eq_error_iff names cause).mp refused
        exact ⟨existing, candidate, conflict⟩
    | ok found =>
        have occurs := (agreement_eq_ok_iff names found).mp refused
        have same := ((occurs one).mp oneMember).symm.trans ((occurs other).mp otherMember)
        exact absurd (Option.some.inj same) different

/-- The order of the names only decides about which two of them a conflict reports. -/
theorem toOption_agreement_perm {names others : List String} (order : names.Perm others) :
    (agreement names).toOption = (agreement others).toOption := by
  have alike (found : Option String) :
      agreement names = .ok found ↔ agreement others = .ok found := by
    simp only [agreement_eq_ok_iff, order.mem_iff]
  cases agreed : agreement names with
  | ok found => rw [(alike found).mp agreed]
  | error cause =>
      cases otherwise : agreement others with
      | ok found =>
          rw [(alike found).mpr otherwise] at agreed
          contradiction
      | error other => rfl

/-! The generator reads the stated names off the markers. -/

section Fresh

variable {view : AnnotationView} {cache : MetaTypeCache}

/-- The name that a marker gives is the one that it states. -/
theorem nameGiven_eq_statedName? {typeName : String} {attributes : Attributes}
    (declared : view.attributes typeName = some attributes) :
    nameGiven typeName (view.metaTypes typeName) attributes = view.statedName? typeName := by
  have stereotype : view.IsStereotype typeName ↔
      (typeName == AnnotationType.component ||
        (view.metaTypes typeName).contains AnnotationType.component ||
        typeName == AnnotationType.managedBean || typeName == AnnotationType.named) = true := by
    simp only [AnnotationView.IsStereotype, NameSet.contains, Bool.or_eq_true, beq_iff_eq,
      List.contains_iff_mem]
    tauto
  unfold nameGiven isNamingStereotype AnnotationView.statedName? Attributes.contains
  rw [declared, Option.bind_some]
  cases attributes.get? AttributeName.value with
  | none => simp
  | some value =>
      rw [Option.isSome_some, Bool.and_true]
      cases value with
      | string name =>
          by_cases isStereotype : view.IsStereotype typeName
          · simp [isStereotype, stereotype.mp isStereotype, String.isEmpty_iff]
          · simp [isStereotype, mt stereotype.mpr isStereotype]
      | _ => simp

/-- As long as it remembers nothing else, the generator asks each marker for its stated name. -/
theorem proposedName_stated (faithful : ∀ typeName, cache.lookUp view typeName =
      view.metaTypes typeName) (typeName : String) :
    ∃ left, (∀ other, left.lookUp view other = view.metaTypes other) ∧
      (proposedName view typeName : EStateM DefinitionError MetaTypeCache (Option String)).run
          cache = .ok (view.statedName? typeName) left := by
  rw [proposedName_run]
  cases declared : view.attributes typeName with
  | none => exact ⟨cache, faithful, by simp [AnnotationView.statedName?, declared]⟩
  | some attributes =>
      refine ⟨cache.keep view typeName, fun other => ?_, ?_⟩
      · rw [MetaTypeCache.lookUp_keep, faithful]
      · dsimp only
        rw [faithful, nameGiven_eq_statedName? declared]

/-- Asking the markers one by one agrees on what they state together. -/
theorem resultOf_agreedName_stated (faithful : ∀ typeName, cache.lookUp view typeName =
      view.metaTypes typeName) (types : List String) (found : Option String) :
    resultOf (agreedName view types found) cache =
      agreement (found.toList ++ types.filterMap view.statedName?) := by
  induction types generalizing found cache with
  | nil => cases found <;> rfl
  | cons typeName rest inductionHypothesis =>
      obtain ⟨left, stillFaithful, proposed⟩ := proposedName_stated faithful typeName
      have onwards := inductionHypothesis stillFaithful
      rw [agreedName, resultOf_bind, proposed, List.filterMap_cons]
      cases view.statedName? typeName with
      | none => exact onwards found
      | some name =>
          cases found with
          | none => exact onwards (some name)
          | some existing =>
              dsimp only
              split
              · rename_i same
                subst same
                rw [onwards]
                simp [agreement]
              · rename_i different
                have differs : name ≠ existing := Ne.symm different
                simp [agreement, differs]
                rfl

end Fresh

/-- A blank name takes part in the agreement, but it is not given to the bean. -/
def givenName (definition : BeanDefinition) (found : Option String) :
    Except DefinitionError String :=
  match found.filter fun name => !Text.isBlank name with
  | some name => .ok name
  | none => defaultName definition

section Answers

variable (definition : BeanDefinition) (registry : Registry)

/-- A definition gets the name that its markers agree on, or another one where they state none. -/
theorem resultOf_byAnnotations_stated :
    resultOf (byAnnotations definition registry) {} =
      agreement definition.statedNames >>= givenName definition := by
  rw [byAnnotations_eq]
  refine (resultOf_bind_of_answers (fun found left => ?_) _).trans
    (congrArg (fun declared => declared >>= givenName definition) ?_)
  · unfold givenName
    cases found.filter fun name => !Text.isBlank name with
    | some name => rfl
    | none => cases defaultName definition <;> rfl
  · unfold BeanDefinition.statedNames
    cases definition.metadata with
    | none => rfl
    | some metadata => exact resultOf_agreedName_stated (fun _ => rfl) _ none

/-- The generator reports just the conflict of the stated names. -/
theorem resultOf_byAnnotations_eq_conflict_iff (existing candidate : String) :
    resultOf (byAnnotations definition registry) {} =
        .error (.namingConflict existing candidate) ↔
      agreement definition.statedNames = .error (.namingConflict existing candidate) := by
  rw [resultOf_byAnnotations_stated]
  cases agreement definition.statedNames with
  | error cause => simp [bind, Except.bind]
  | ok found =>
      have agreed : givenName definition found ≠ .error (.namingConflict existing candidate) := by
        unfold givenName defaultName
        split
        · simp
        · split <;> simp
      exact iff_of_false agreed (by simp)

/-- The order of the markers has no part in the name. -/
theorem toOption_byAnnotations_reorders {first second : AnnotationView}
    (reorders : first.Reorders second) :
    (resultOf (byAnnotations (definition.withView fun _ => first) registry) {}).toOption =
      (resultOf (byAnnotations (definition.withView fun _ => second) registry) {}).toOption := by
  have order : (definition.withView fun _ => first).statedNames.Perm
      (definition.withView fun _ => second).statedNames := by
    unfold BeanDefinition.statedNames BeanDefinition.withView
    cases definition.metadata with
    | none => exact .refl _
    | some metadata => exact reorders.statedNames
  have alike := toOption_agreement_perm order
  rw [resultOf_byAnnotations_stated, resultOf_byAnnotations_stated]
  cases agreed : agreement (definition.withView fun _ => first).statedNames <;>
    cases otherwise : agreement (definition.withView fun _ => second).statedNames <;>
    rw [agreed, otherwise] at alike <;> cases alike <;> rfl

end Answers

/-- Two different names are refused, and the conflict reports the first one and the first that
differs from it. If all names are the same, the bean gets that name, or the name of its class where
that name is blank or no name is stated. In whatever order markers of different types stand, the
bean gets the same name, or none. -/
theorem byAnnotations_decided (definition : BeanDefinition) (registry : Registry) :
    let stated := definition.statedNames
    let answer (definition : BeanDefinition) := resultOf (byAnnotations definition registry) {}
    (∀ existing candidate, answer definition = .error (.namingConflict existing candidate) ↔
        stated.head? = some existing ∧
          (stated.find? fun other => other != existing) = some candidate) ∧
      ((∃ existing candidate, answer definition = .error (.namingConflict existing candidate)) ↔
        ∃ one ∈ stated, ∃ other ∈ stated, one ≠ other) ∧
      ((∀ one ∈ stated, ∀ other ∈ stated, one = other) →
        answer definition =
          match stated.head?.filter fun name => !Text.isBlank name, definition.beanClassName with
          | some name, _ => .ok name
          | none, some className => .ok (decapitalize (shortClassName className))
          | none, none => .error .missingBeanClassName) ∧
      ∀ descriptors permuted : List AnnotationDescriptor, descriptors.Perm permuted →
        (descriptors.map (·.typeName)).Nodup →
          (answer (definition.withView fun _ => .ofDescriptors descriptors)).toOption =
            (answer (definition.withView fun _ => .ofDescriptors permuted)).toOption := by
  intro stated answer
  have conflicts (existing candidate : String) :
      answer definition = .error (.namingConflict existing candidate) ↔
        stated.head? = some existing ∧
          (stated.find? fun other => other != existing) = some candidate := by
    rw [resultOf_byAnnotations_eq_conflict_iff, agreement_eq_error_iff]
    constructor
    · rintro ⟨_, _, same, isFirst, differs⟩
      cases same
      exact ⟨isFirst, differs⟩
    · rintro ⟨isFirst, differs⟩
      exact ⟨existing, candidate, rfl, isFirst, differs⟩
  refine ⟨conflicts, ?_, fun alike => ?_, fun descriptors permuted order distinct => ?_⟩
  · simp only [conflicts]
    exact exists_conflict_iff stated
  · change resultOf (byAnnotations definition registry) {} = _
    rw [resultOf_byAnnotations_stated]
    change agreement stated >>= _ = _
    rw [agreement_of_alike alike]
    change givenName definition stated.head? = _
    unfold givenName defaultName
    cases stated.head?.filter fun name => !Text.isBlank name with
    | some name => rfl
    | none => cases definition.beanClassName <;> rfl
  · exact toOption_byAnnotations_reorders definition registry
      (AnnotationView.reorders_ofDescriptors order distinct)

/-- A blank name is no name for the cart, but it is in conflict with another one. Where it stands
alone, the cart is named after its class. -/
theorem blank_name_in_conflict :
    let blank := AnnotationDescriptor.named (some " ")
    let cart (descriptors : List AnnotationDescriptor) :=
      BeanDefinition.ofMetadata { className := "shop.Cart", annotations := .ofDescriptors descriptors }
    let torn : List AnnotationDescriptor := [.service (some "cart"), .description "basket", blank]
    let answer (definition : BeanDefinition) := resultOf (byAnnotations definition .empty) {}
    answer (cart torn) = .error (.namingConflict "cart" " ") ∧
      answer (cart [blank]) = .ok "cart" ∧
      (torn.Perm torn.reverse ∧ (torn.map (·.typeName)).Nodup) ∧
      (answer (cart torn.reverse)).toOption = none := by
  intro blank cart torn answer
  obtain ⟨conflicts, _, _, permuted⟩ := byAnnotations_decided (cart torn) .empty
  have refused : answer (cart torn) = .error (.namingConflict "cart" " ") :=
    (conflicts "cart" " ").mpr (by decide +kernel)
  have order : torn.Perm torn.reverse := torn.reverse_perm.symm
  have distinct : (torn.map (·.typeName)).Nodup := by decide +kernel
  refine ⟨refused, ?_, ⟨order, distinct⟩, ?_⟩
  · have named := (byAnnotations_decided (cart [blank]) .empty).2.2.1 (by decide +kernel)
    refine named.trans ?_
    decide +kernel
  · refine (permuted torn torn.reverse order distinct).symm.trans ?_
    exact congrArg Except.toOption refused

end Naming

end BeanContainer
