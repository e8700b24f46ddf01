/-
This file shows that a generator of names may share what it remembers among all classes: as long
as the classes agree on what a marker type carries, no question is answered otherwise than by a
generator that remembers nothing.
-/

import BeanContainer.Naming.Question
import BeanContainer.Proofs.Registration.Requests

namespace BeanContainer

/-- A marker type that several views declare carries the same types in all of them. -/
def AnnotationView.AgreeOnMetaTypes (views : List AnnotationView) : Prop :=
  ∀ first ∈ views, ∀ second ∈ views, ∀ typeName ∈ first.types, typeName ∈ second.types →
    first.metaTypes typeName = second.metaTypes typeName

instance (views : List AnnotationView) : Decidable (AnnotationView.AgreeOnMetaTypes views) :=
  inferInstanceAs (Decidable (∀ first ∈ views, ∀ second ∈ views, ∀ typeName ∈ first.types,
    typeName ∈ second.types → first.metaTypes typeName = second.metaTypes typeName))

namespace MetaTypeCache

/-- What the generator takes the marker type to carry, remembered or read off the view. -/
def lookUp (cache : MetaTypeCache) (view : AnnotationView) (typeName : String) : NameSet :=
  (cache.known.get? typeName).getD (view.metaTypes typeName)

def keep (cache : MetaTypeCache) (view : AnnotationView) (typeName : String) : MetaTypeCache :=
  { known := cache.known.insert typeName (cache.lookUp view typeName) }

/-- The meta types of a marker are looked up and then kept. -/
theorem metaTypes_run {Cause : Type} (cache : MetaTypeCache) (view : AnnotationView)
    (typeName : String) :
    (metaTypes view typeName : EStateM Cause MetaTypeCache NameSet).run cache =
      .ok (cache.lookUp view typeName) (cache.keep view typeName) := by
  unfold metaTypes keep lookUp
  rw [EStateM.run_bind, EStateM.run_get]
  cases known : cache.known.get? typeName with
  | none => simp only [known, Option.getD_none, EStateM.run_bind, EStateM.run_set, EStateM.run_pure]
  | some metaTypes =>
      simp only [known, Option.getD_some, EStateM.run_pure, SortedMap.insert_eq_self known]

/-- What is remembered of the types of a view is just what the view is taken to say. -/
theorem lookUp_keep (cache : MetaTypeCache) (view : AnnotationView) (typeName other : String) :
    (cache.keep view typeName).lookUp view other = cache.lookUp view other := by
  unfold lookUp keep
  rw [SortedMap.get?_insert]
  split
  · rename_i same
    subst same
    rfl
  · rfl

/-- The last cache remembers all that the first does, and the same of it. -/
def Remembers (first last : MetaTypeCache) : Prop :=
  ∀ {typeName : String} {metaTypes : NameSet},
    first.known.get? typeName = some metaTypes → last.known.get? typeName = some metaTypes

instance : IsPreorder MetaTypeCache Remembers where
  refl _ := id
  trans _ _ _ begun ended := fun known => ended (begun known)

/-- Keeping a type forgets none. -/
theorem remembers_keep (cache : MetaTypeCache) (view : AnnotationView) (typeName : String) :
    cache.Remembers (cache.keep view typeName) := by
  intro other metaTypes known
  unfold keep lookUp
  rw [SortedMap.get?_insert]
  split
  · rename_i same
    subst same
    rw [known, Option.getD_some]
  · exact known

/-- Of the types that these views declare the cache remembers nothing but what they say. -/
def Suits (views : List AnnotationView) (cache : MetaTypeCache) : Prop :=
  ∀ view ∈ views, ∀ typeName ∈ view.types, cache.lookUp view typeName = view.metaTypes typeName

/-- A cache that knows nothing suits all classes. -/
theorem suits_fresh (views : List AnnotationView) : Suits views {} := fun _ _ _ _ => rfl

/-- Where the classes agree, a type that one of them declares may be kept for all. -/
theorem Suits.keep {views : List AnnotationView} {cache : MetaTypeCache}
    (agree : AnnotationView.AgreeOnMetaTypes views) (suits : Suits views cache)
    {view : AnnotationView} (member : view ∈ views) {typeName : String}
    (declared : typeName ∈ view.types) : Suits views (cache.keep view typeName) := by
  intro other otherMember otherType otherDeclared
  unfold lookUp MetaTypeCache.keep
  rw [SortedMap.get?_insert]
  split
  · rename_i same
    subst same
    rw [Option.getD_some, suits view member otherType declared]
    exact agree view member other otherMember otherType declared otherDeclared
  · exact suits other otherMember otherType otherDeclared

end MetaTypeCache

/-! The generator reads nothing but the attributes of the markers and what it looks up. -/

namespace Naming

/-- The name that a marker of this type gives, if it gives one. -/
def nameGiven (typeName : String) (metaTypes : NameSet) (attributes : Attributes) :
    Option String :=
  if isNamingStereotype typeName metaTypes attributes then
    match attributes.get? AttributeName.value with
    | some (.string name) => if name.isEmpty then none else some name
    | _ => none
  else none

/-- Only a declared marker is looked up and proposes a name. -/
theorem proposedName_run {Cause : Type} (view : AnnotationView) (typeName : String)
    (cache : MetaTypeCache) :
    (proposedName view typeName : EStateM Cause MetaTypeCache (Option String)).run cache =
      match view.attributes typeName with
      | none => .ok none cache
      | some attributes =>
          .ok (nameGiven typeName (cache.lookUp view typeName) attributes)
            (cache.keep view typeName) := by
  unfold proposedName nameGiven
  cases view.attributes typeName with
  | none => rfl
  | some attributes =>
      dsimp only
      rw [EStateM.run_bind, MetaTypeCache.metaTypes_run]
      dsimp only
      split
      · cases attributes.get? AttributeName.value with
        | none => rfl
        | some value => cases value <;> rfl
      · rfl

/-- The name is read off the markers of the class, if there is one, or else off its name. -/
theorem byAnnotations_eq (definition : BeanDefinition) (registry : Registry) :
    byAnnotations definition registry =
      (match definition.metadata with
        | some metadata => annotatedName metadata.annotations
        | none => pure none) >>= fun declared =>
          match declared.filter fun name => !Text.isBlank name with
          | some name => pure name
          | none =>
              match defaultName definition with
              | .ok name => pure name
              | .error cause => throw cause := by
  unfold byAnnotations
  cases definition.metadata <;> rfl

section Lookups

variable {first second : MetaTypeCache} {view other : AnnotationView}

/-- Two caches and views that lead to the same look-ups lead to the same name or refusal. -/
theorem resultOf_agreedName (sameAttributes : view.attributes = other.attributes)
    {types : List String}
    (alike : ∀ typeName ∈ types, first.lookUp view typeName = second.lookUp other typeName)
    (found : Option String) :
    resultOf (agreedName view types found) first = resultOf (agreedName other types found) second := by
  induction types generalizing first second found with
  | nil => rfl
  | cons typeName rest inductionHypothesis =>
      have here := alike typeName List.mem_cons_self
      have later : ∀ typeName ∈ rest,
          first.lookUp view typeName = second.lookUp other typeName :=
        fun typeName member => alike typeName (List.mem_cons_of_mem _ member)
      rw [agreedName, agreedName, resultOf_bind, resultOf_bind, proposedName_run,
        proposedName_run, sameAttributes, here]
      cases other.attributes typeName with
      | none => exact inductionHypothesis later found
      | some attributes =>
          have onwards (found : Option String) :
              resultOf (agreedName view rest found) (first.keep view typeName) =
                resultOf (agreedName other rest found) (second.keep other typeName) := by
            apply inductionHypothesis
            intro later member
            rw [MetaTypeCache.lookUp_keep, MetaTypeCache.lookUp_keep]
            exact alike later (List.mem_cons_of_mem _ member)
          dsimp only
          split
          · exact onwards _
          · exact onwards _
          · split
            · exact onwards _
            · rfl

/-- The name depends on the markers and on what is looked up for them, and on nothing else. -/
theorem resultOf_annotatedName (sameTypes : view.types = other.types)
    (sameAttributes : view.attributes = other.attributes)
    (alike : ∀ typeName ∈ view.types, first.lookUp view typeName = second.lookUp other typeName) :
    resultOf (annotatedName view) first = resultOf (annotatedName other) second := by
  unfold annotatedName
  rw [← sameTypes]
  exact resultOf_agreedName sameAttributes alike none

/-- Definitions of one class name get the same name if their markers give the same. -/
theorem resultOf_byAnnotations {definition changed : BeanDefinition} (registry : Registry)
    (sameClassName : definition.beanClassName = changed.beanClassName)
    (alike : Option.Rel (fun one next => resultOf (annotatedName one.annotations) first =
      resultOf (annotatedName next.annotations) second) definition.metadata changed.metadata) :
    resultOf (byAnnotations definition registry) first =
      resultOf (byAnnotations changed registry) second := by
  rw [byAnnotations_eq, byAnnotations_eq]
  apply resultOf_bind_congr
  · generalize definition.metadata = metadata, changed.metadata = other at alike
    cases alike with
    | none => rfl
    | some same => exact same
  · intro declared left right
    unfold defaultName
    rw [sameClassName]
    split
    · rfl
    · split <;> rfl

end Lookups

section Relations

variable {related : MetaTypeCache → MetaTypeCache → Prop} [IsPreorder MetaTypeCache related]

/-- Agreeing on a name does to the cache only what keeping the types does. -/
theorem agreedName_respects {view : AnnotationView} {types : List String}
    (keeps : ∀ typeName ∈ types, ∀ cache, related cache (cache.keep view typeName))
    (found : Option String) : Respects related (agreedName view types found) := by
  induction types generalizing found with
  | nil => exact .pure found
  | cons typeName rest inductionHypothesis =>
      have later := inductionHypothesis fun other member =>
        keeps other (List.mem_cons_of_mem _ member)
      rw [agreedName]
      apply Respects.bind
      · intro cache
        rw [stateAfter, proposedName_run]
        cases view.attributes typeName with
        | none => exact refl_of related cache
        | some attributes => exact keeps typeName List.mem_cons_self cache
      · intro proposed _
        split
        · exact later _
        · exact later _
        · split
          · exact later _
          · exact .throw _

/-- What the generator looks up for a definition are the markers of its class. -/
theorem byAnnotations_respects (definition : BeanDefinition) (registry : Registry)
    (keeps : ∀ metadata, definition.metadata = some metadata →
      ∀ typeName ∈ metadata.annotations.types, ∀ cache,
        related cache (cache.keep metadata.annotations typeName)) :
    Respects related (byAnnotations definition registry) := by
  rw [byAnnotations_eq]
  apply Respects.bind
  · cases annotated : definition.metadata with
    | none => exact .pure none
    | some metadata => exact agreedName_respects (keeps metadata annotated) none
  · intro declared _
    split
    · exact .pure _
    · split
      · exact .pure _
      · exact .throw _

end Relations

end Naming

/-! Questions and runs of them. -/

/-- The view as it appears to a generator that remembers this. -/
def AnnotationView.through (view : AnnotationView) (cache : MetaTypeCache) : AnnotationView :=
  { view with metaTypes := cache.lookUp view }

def ClassMetadata.withView (change : AnnotationView → AnnotationView) (metadata : ClassMetadata) :
    ClassMetadata :=
  { metadata with annotations := change metadata.annotations }

def BeanDefinition.withView (change : AnnotationView → AnnotationView)
    (definition : BeanDefinition) : BeanDefinition :=
  { definition with metadata := definition.metadata.map (·.withView change) }

/-- A definition with its own view is the same definition. -/
theorem BeanDefinition.withView_id (definition : BeanDefinition) :
    definition.withView id = definition :=
  congrArg (fun metadata => { definition with metadata }) Option.map_id'

namespace NamingQuestion

/-- The marker types that are looked up, as far as they are needed for the answer. -/
def types : NamingQuestion → List String
  | .annotatedName view => view.types
  | .beanName definition _ => definition.metadata.elim [] fun metadata => metadata.annotations.types
  | .metaTypes _ typeName => [typeName]

/-- A marker type is asked for by name only where it is a direct one. -/
def Declared : NamingQuestion → Prop
  | .metaTypes view typeName => typeName ∈ view.types
  | _ => True

instance : DecidablePred Declared
  | .annotatedName _ => isTrue trivial
  | .beanName _ _ => isTrue trivial
  | .metaTypes view typeName => inferInstanceAs (Decidable (typeName ∈ view.types))

/-- The same question about other markers. -/
def withView (change : AnnotationView → AnnotationView) : NamingQuestion → NamingQuestion
  | .annotatedName view => .annotatedName (change view)
  | .beanName definition registry => .beanName (definition.withView change) registry
  | .metaTypes view typeName => .metaTypes (change view) typeName

def through (question : NamingQuestion) (cache : MetaTypeCache) : NamingQuestion :=
  question.withView fun view => view.through cache

variable {question : NamingQuestion}

/-- A question with its own view is the same question. -/
theorem withView_id (question : NamingQuestion) : question.withView id = question := by
  cases question with
  | annotatedName view => rfl
  | beanName definition registry => exact congrArg (beanName · registry) definition.withView_id
  | metaTypes view typeName => rfl

/-- A declared question asks for markers of its view only. -/
theorem Declared.mem_types (declared : question.Declared) {view : AnnotationView}
    (about : question.view? = some view) {typeName : String} (member : typeName ∈ question.types) :
    typeName ∈ view.types := by
  cases question with
  | annotatedName other =>
      cases about
      exact member
  | beanName definition registry =>
      obtain ⟨metadata, annotated, rfl⟩ := Option.map_eq_some_iff.mp about
      simpa [types, annotated] using member
  | metaTypes other asked =>
      cases about
      obtain rfl := List.mem_singleton.mp member
      exact declared

/-- The answer is what the request results in. -/
theorem answer_eq_resultOf (question : NamingQuestion) (cache : MetaTypeCache) :
    question.answer cache = resultOf question.request cache := by
  unfold answer resultOf
  cases question.request.run cache <;> rfl

/-- A question for meta types is answered by looking them up. -/
theorem answer_metaTypes (view : AnnotationView) (typeName : String) (cache : MetaTypeCache) :
    (metaTypes view typeName).answer cache = .ok (.metaTypes (cache.lookUp view typeName)) := by
  unfold answer request
  rw [EStateM.run_bind, MetaTypeCache.metaTypes_run]
  rfl

/-- What the cache is afterwards is what the request leaves. -/
theorem after_eq_stateAfter (question : NamingQuestion) (cache : MetaTypeCache) :
    question.after cache = stateAfter question.request cache := by
  unfold after stateAfter
  cases question.request.run cache <;> rfl

/-- The answer depends on the markers of a view and on what is looked up for them. -/
theorem answer_withView (question : NamingQuestion) (change : AnnotationView → AnnotationView)
    {first second : MetaTypeCache}
    (sameTypes : ∀ view, view.types = (change view).types)
    (sameAttributes : ∀ view, view.attributes = (change view).attributes)
    (alike : ∀ view, question.view? = some view → ∀ typeName ∈ question.types,
      first.lookUp view typeName = second.lookUp (change view) typeName) :
    question.answer first = (question.withView change).answer second := by
  have named (view : AnnotationView)
      (alike : ∀ typeName ∈ view.types,
        first.lookUp view typeName = second.lookUp (change view) typeName) :=
    Naming.resultOf_annotatedName (sameTypes view) (sameAttributes view) alike
  rw [answer_eq_resultOf, answer_eq_resultOf]
  cases question with
  | annotatedName view =>
      apply resultOf_bind_congr
      · exact named view (alike view rfl)
      · exact fun _ _ _ => rfl
  | beanName definition registry =>
      apply resultOf_bind_congr
      · apply Naming.resultOf_byAnnotations
        · rfl
        · unfold BeanDefinition.withView
          dsimp only
          cases annotated : definition.metadata with
          | none => exact .none
          | some metadata =>
              apply Option.Rel.some
              apply named
              simpa [view?, types, annotated] using alike metadata.annotations
      · exact fun _ _ _ => rfl
  | metaTypes view typeName =>
      apply resultOf_bind_congr
      · unfold resultOf
        rw [MetaTypeCache.metaTypes_run, MetaTypeCache.metaTypes_run,
          alike view rfl typeName List.mem_cons_self]
      · exact fun _ _ _ => rfl

/-- Each question is answered as by a fresh generator that sees what the other one remembers. -/
theorem answer_eq_through (question : NamingQuestion) (cache : MetaTypeCache) :
    question.answer cache = (question.through cache).answer {} :=
  question.answer_withView (·.through cache) (fun _ => rfl) (fun _ => rfl) fun _ _ _ _ => rfl

/-- A cache that suits the classes answers as if it knew nothing. -/
theorem answer_of_suits {views : List AnnotationView} {cache : MetaTypeCache}
    (declared : question.Declared) (listed : ∀ view, question.view? = some view → view ∈ views)
    (suits : cache.Suits views) : question.answer cache = question.answer {} := by
  have same : question.answer cache = (question.withView id).answer {} := by
    apply question.answer_withView id (fun _ => rfl) (fun _ => rfl)
    intro view about typeName member
    exact suits view (listed view about) typeName (declared.mem_types about member)
  rwa [withView_id] at same

/-- A question does to the cache only what keeping its types does. -/
theorem after_related (related : MetaTypeCache → MetaTypeCache → Prop)
    [IsPreorder MetaTypeCache related] (question : NamingQuestion)
    (keeps : ∀ view, question.view? = some view → ∀ typeName ∈ question.types, ∀ cache,
      related cache (cache.keep view typeName))
    (cache : MetaTypeCache) : related cache (question.after cache) := by
  have asked : Respects related question.request := by
    cases question with
    | annotatedName view =>
        apply (Naming.agreedName_respects (keeps view rfl) none).bind
        exact fun _ _ => .pure _
    | beanName definition registry =>
        have named : Respects related (Naming.byAnnotations definition registry) := by
          apply Naming.byAnnotations_respects
          intro metadata annotated
          simpa [view?, types, annotated] using keeps metadata.annotations
        exact named.bind fun _ _ => .pure _
    | metaTypes view typeName =>
        apply Respects.bind
        · intro cache
          rw [stateAfter, MetaTypeCache.metaTypes_run]
          exact keeps view rfl typeName List.mem_cons_self cache
        · exact fun _ _ => .pure _
  rw [after_eq_stateAfter]
  exact asked cache

/-- A question makes the cache forget nothing. -/
theorem remembers_after (question : NamingQuestion) (cache : MetaTypeCache) :
    cache.Remembers (question.after cache) :=
  question.after_related MetaTypeCache.Remembers
    (fun view _ typeName _ cache => cache.remembers_keep view typeName) cache

end NamingQuestion

namespace MetaTypeCache

/-- A run of questions may be cut anywhere. -/
theorem run_append (cache : MetaTypeCache) (earlier later : List NamingQuestion) :
    cache.run (earlier ++ later) = (cache.run earlier).run later :=
  List.foldl_append

/-- A run of questions makes the cache forget nothing. -/
theorem remembers_run (cache : MetaTypeCache) (questions : List NamingQuestion) :
    cache.Remembers (cache.run questions) := by
  induction questions generalizing cache with
  | nil => exact id
  | cons question rest inductionHypothesis =>
      exact fun known => inductionHypothesis _ (question.remembers_after cache known)

/-- A cache that suits the classes answers all their questions as if it knew nothing. -/
theorem answers_of_suits {views : List AnnotationView}
    (agree : AnnotationView.AgreeOnMetaTypes views) {questions : List NamingQuestion}
    (declared : ∀ question ∈ questions, question.Declared)
    (listed : ∀ question ∈ questions, ∀ view, question.view? = some view → view ∈ views)
    {cache : MetaTypeCache} (suits : cache.Suits views) :
    cache.answers questions = questions.map fun question => question.answer {} := by
  induction questions generalizing cache with
  | nil => rfl
  | cons question rest inductionHypothesis =>
      have declaredHere := declared question List.mem_cons_self
      have listedHere := listed question List.mem_cons_self
      have suitsAfter : Suits views (question.after cache) := by
        apply question.after_related (Keeps (Suits views)) _ cache suits
        intro view about typeName member cache suits
        exact suits.keep agree (listedHere view about) (declaredHere.mem_types about member)
      rw [answers, List.map_cons, NamingQuestion.answer_of_suits declaredHere listedHere suits]
      congr 1
      apply inductionHypothesis
      · exact fun later member => declared later (List.mem_cons_of_mem _ member)
      · exact fun later member => listed later (List.mem_cons_of_mem _ member)
      · exact suitsAfter

/-- What the generator remembers shows in no answer as long as it is asked for direct markers and
all views agree on what these carry. In any case it never forgets what a marker type carries, and
answers each question as if the view said just that. -/
theorem answers_unobservable (questions : List NamingQuestion) :
    ((∀ question ∈ questions, question.Declared) →
      AnnotationView.AgreeOnMetaTypes (questions.filterMap (·.view?)) →
        answers {} questions = questions.map fun question => question.answer {}) ∧
    (∀ earlier later typeName metaTypes, earlier ++ later = questions →
      (run {} earlier).known.get? typeName = some metaTypes →
        (run {} questions).known.get? typeName = some metaTypes ∧
        ∀ view, (NamingQuestion.metaTypes view typeName).answer (run {} questions) =
          .ok (.metaTypes metaTypes)) ∧
    ∀ question : NamingQuestion,
      question.answer (run {} questions) = (question.through (run {} questions)).answer {} := by
  refine ⟨?_, ?_, fun question => question.answer_eq_through _⟩
  · intro declared agree
    apply answers_of_suits agree declared _ (suits_fresh _)
    intro question member view about
    exact List.mem_filterMap.mpr ⟨question, member, about⟩
  · rintro earlier later typeName metaTypes rfl known
    have kept : (run {} (earlier ++ later)).known.get? typeName = some metaTypes := by
      rw [run_append]
      exact remembers_run _ later known
    refine ⟨kept, fun view => ?_⟩
    rw [NamingQuestion.answer_metaTypes, lookUp, kept, Option.getD_some]

/-- A service that the two markers name alike. -/
def cartView : AnnotationView :=
  .ofDescriptors [.service (some "cart"), .named (some "cart")]

/-- The first question is refused, and the second finds in memory what the first one has left
there. A view that disagrees is not listened to afterwards. -/
theorem answers_about_services :
    let torn := AnnotationView.ofDescriptors [.service (some "cart"), .named (some "basket")]
    let plain := AnnotationView.ofDescriptors [{ typeName := AnnotationType.service }]
    let carried := NameSet.ofList [AnnotationType.component, AnnotationType.indexed]
    let questions : List NamingQuestion := [.annotatedName torn,
      .metaTypes cartView AnnotationType.service,
      .beanName (.ofMetadata { className := "shop.Cart", annotations := cartView }) .empty]
    ((∀ question ∈ questions, question.Declared) ∧
      AnnotationView.AgreeOnMetaTypes (questions.filterMap (·.view?)) ∧
      answers {} questions = [.error (.namingConflict "cart" "basket"), .ok (.metaTypes carried),
        .ok (.beanName "cart")]) ∧
    (run {} (questions.take 1)).known.get? AnnotationType.service = some carried ∧
    (NamingQuestion.metaTypes plain AnnotationType.service).answer (run {} questions) =
      .ok (.metaTypes carried) := by
  intro torn plain carried questions
  obtain ⟨unobservable, kept, _⟩ := answers_unobservable questions
  have declared : ∀ question ∈ questions, question.Declared := by decide +kernel
  have agree : AnnotationView.AgreeOnMetaTypes (questions.filterMap (·.view?)) := by decide +kernel
  have known : (run {} (questions.take 1)).known.get? AnnotationType.service = some carried := by
    decide +kernel
  refine ⟨⟨declared, agree, ?_⟩, known, ?_⟩
  · rw [unobservable declared agree]
    decide +kernel
  · exact (kept _ _ _ _ (questions.take_append_drop 1) known).2 plain

end MetaTypeCache

end BeanContainer
