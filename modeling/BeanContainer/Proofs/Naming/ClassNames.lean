/-
This file says which part of a class name is its short name, and how a bean is named after it. The
part is cut out between whole characters, generated subclasses are named like their classes, and a
name whose first letter was made small stays as it is.
-/

import BeanContainer.Naming.Generator
import BeanContainer.Proofs.Text.Lowering
import Mathlib.Data.List.Chain

namespace BeanContainer.Naming

/-! The cut of a class name in bytes. -/

/-- The length in UTF-8. -/
def byteCount (characters : List Char) : Nat := (String.ofList characters).utf8ByteSize

/-- The byte offset of the last dot, counted from an offset on. -/
def lastDot? (offset : Nat) : List Char → Option Nat
  | [] => none
  | character :: rest =>
      (lastDot? (offset + character.utf8Size) rest).or
        (if character = '.' then some offset else none)

/-- The byte offset of the first double dollar sign, counted from an offset on. -/
def doubleDollar? (offset : Nat) : List Char → Option Nat
  | [] => none
  | '$' :: '$' :: _ => some offset
  | character :: rest => doubleDollar? (offset + character.utf8Size) rest

/-- The cut starts behind the last dot, which is one byte long. -/
def cutStart (className : String) : Nat :=
  match lastDot? 0 className.toList with
  | some offset => offset + 1
  | none => 0

/-- The cut stops before the first double dollar sign, unless that lies at or before the start. -/
def cutStop (className : String) : Nat :=
  let stop := (doubleDollar? 0 className.toList).getD className.utf8ByteSize
  if cutStart className < stop then stop else className.utf8ByteSize

/-- The part stands in the text between the two byte offsets. -/
def IsSlice (text : String) (start stop : Nat) (part : String) : Prop :=
  ∃ before after, text = before ++ part ++ after ∧ start = before.utf8ByteSize ∧
    stop = (before ++ part).utf8ByteSize

/-- The ends of a slice lie between whole characters, and in order. -/
theorem IsSlice.valid {text part : String} {start stop : Nat}
    (slice : IsSlice text start stop part) :
    start ≤ stop ∧ (⟨start⟩ : String.Pos.Raw).IsValid text ∧
      (⟨stop⟩ : String.Pos.Raw).IsValid text := by
  obtain ⟨before, after, rfl, rfl, rfl⟩ := slice
  refine ⟨by rw [String.utf8ByteSize_append]; exact Nat.le_add_right _ _, ?_, ?_⟩
  · exact String.Pos.Raw.isValid_iff_exists_append.mpr
      ⟨before, part ++ after, String.append_assoc .., rfl⟩
  · exact String.Pos.Raw.isValid_iff_exists_append.mpr ⟨before ++ part, after, rfl, rfl⟩

section Cut

variable {characters before after : List Char} {offset index : Nat}

/-- Two lists of characters take the bytes of both. -/
theorem byteCount_append (first second : List Char) :
    byteCount (first ++ second) = byteCount first + byteCount second := by
  rw [byteCount, String.ofList_append, String.utf8ByteSize_append, byteCount, byteCount]

/-- The first character takes its own bytes. -/
theorem byteCount_cons (character : Char) (rest : List Char) :
    byteCount (character :: rest) = character.utf8Size + byteCount rest := by
  have single : byteCount [character] = character.utf8Size := by
    rw [byteCount, ← String.singleton_eq_ofList, String.utf8ByteSize_singleton]
  rw [← List.singleton_append, byteCount_append, single]

/-- The characters of a text take the bytes of the text. -/
theorem byteCount_toList (text : String) : byteCount text.toList = text.utf8ByteSize := by
  rw [byteCount, String.ofList_toList]

/-- Only the empty list takes no bytes. -/
theorem byteCount_eq_zero_iff : byteCount characters = 0 ↔ characters = [] := by
  cases characters with
  | nil => simp [byteCount]
  | cons character rest =>
      rw [byteCount_cons]
      have := character.utf8Size_pos
      simp
      omega

/-- No dot is found just if there is none. -/
theorem lastDot?_eq_none_iff : lastDot? offset characters = none ↔ '.' ∉ characters := by
  induction characters generalizing offset with
  | nil => simp [lastDot?]
  | cons character rest inductionHypothesis =>
      rw [lastDot?, Option.or_eq_none_iff, inductionHypothesis]
      by_cases dot : character = '.' <;> simp [dot, eq_comm]

/-- Behind the dot that is found there is no other one. -/
theorem lastDot?_eq_some (found : lastDot? offset characters = some index) :
    ∃ before after, characters = before ++ '.' :: after ∧ '.' ∉ after ∧
      index = offset + byteCount before := by
  induction characters generalizing offset with
  | nil => cases found
  | cons character rest inductionHypothesis =>
      rw [lastDot?, Option.or_eq_some_iff] at found
      obtain later | ⟨last, here⟩ := found
      · obtain ⟨before, after, rfl, undotted, rfl⟩ := inductionHypothesis later
        refine ⟨character :: before, after, rfl, undotted, ?_⟩
        rw [byteCount_cons, Nat.add_assoc]
      · split at here
        · rename_i dot
          obtain rfl := Option.some.inj here
          exact ⟨[], rest, by rw [dot]; rfl, lastDot?_eq_none_iff.mp last, rfl⟩
        · cases here

/-- A part without a dot is passed over as a whole, read from the end. -/
theorem takeWhile_undotted (undotted : '.' ∉ characters) (rest : List Char) :
    (characters.reverse ++ rest).takeWhile (· != '.') =
      characters.reverse ++ rest.takeWhile (· != '.') := by
  refine List.takeWhile_append_of_pos fun character member => bne_iff_ne.mpr ?_
  rintro rfl
  exact undotted (List.mem_reverse.mp member)

/-- A name without a dot is its own last part. -/
theorem afterLastDot_of_notMem (undotted : '.' ∉ characters) :
    afterLastDot characters = characters := by
  have whole := takeWhile_undotted undotted []
  rw [List.append_nil, List.takeWhile_nil, List.append_nil] at whole
  rw [afterLastDot, whole, List.reverse_reverse]

/-- What follows the last dot is the last part of a name. -/
theorem afterLastDot_append (undotted : '.' ∉ after) :
    afterLastDot (before ++ '.' :: after) = after := by
  have stops : ('.' :: before.reverse).takeWhile (· != '.') = [] :=
    List.takeWhile_cons_of_neg (by decide)
  rw [afterLastDot, List.reverse_append, List.reverse_cons, List.append_assoc,
    takeWhile_undotted undotted]
  change (after.reverse ++ ('.' :: before.reverse).takeWhile (· != '.')).reverse = after
  rw [stops, List.append_nil, List.reverse_reverse]

/-- The cut starts where that part starts which has no dot. -/
theorem cutStart_eq (className : String) :
    ∃ before, className.toList = before ++ afterLastDot className.toList ∧
      cutStart className = byteCount before := by
  unfold cutStart
  cases found : lastDot? 0 className.toList with
  | none =>
      exact ⟨[], (afterLastDot_of_notMem (lastDot?_eq_none_iff.mp found)).symm, rfl⟩
  | some offset =>
      obtain ⟨before, after, split, undotted, rfl⟩ := lastDot?_eq_some found
      refine ⟨before ++ ['.'], ?_, ?_⟩
      · rw [split, afterLastDot_append undotted, List.append_assoc]
        rfl
      · rw [byteCount_append, Nat.zero_add]
        rfl

/-- The double dollar sign, or the end without one, lies behind what comes before it. -/
theorem doubleDollar?_eq (characters : List Char) (offset : Nat) :
    (doubleDollar? offset characters).getD (offset + byteCount characters) =
      offset + byteCount (beforeDoubleDollar characters) := by
  fun_induction doubleDollar? offset characters with
  | case1 offset => rfl
  | case2 offset rest => rfl
  | case3 offset character rest other inductionHypothesis =>
      rw [beforeDoubleDollar]
      · rw [byteCount_cons, byteCount_cons, ← Nat.add_assoc, inductionHypothesis, Nat.add_assoc]
      · exact other

/-- What comes before the double dollar sign is the beginning of the name. -/
theorem beforeDoubleDollar_leads (characters : List Char) :
    beforeDoubleDollar characters <+: characters := by
  fun_induction beforeDoubleDollar characters with
  | case1 => exact List.prefix_refl []
  | case2 rest => exact List.nil_prefix
  | case3 character rest _ inductionHypothesis =>
      exact List.cons_prefix_cons.mpr ⟨rfl, inductionHypothesis⟩

/-- The cut stops before the double dollar sign if something lies between it and the start. -/
theorem cutStop_eq (className : String) :
    cutStop className =
      if cutStart className < byteCount (beforeDoubleDollar className.toList) then
        byteCount (beforeDoubleDollar className.toList)
      else byteCount className.toList := by
  have stop := doubleDollar?_eq className.toList 0
  rw [Nat.zero_add, Nat.zero_add, byteCount_toList] at stop
  rw [cutStop, stop, byteCount_toList]

/-- Of two beginnings of a list the one with more bytes has more characters. -/
theorem byteCount_lt_iff (first : before <+: characters) (second : after <+: characters) :
    byteCount before < byteCount after ↔ before.length < after.length := by
  obtain ⟨rest, rfl⟩ | ⟨rest, rfl⟩ := List.prefix_or_prefix_of_prefix first second
  · rw [byteCount_append, List.length_append, Nat.lt_add_right_iff_pos, Nat.lt_add_right_iff_pos,
      Nat.pos_iff_ne_zero, Nat.pos_iff_ne_zero]
    exact not_congr (byteCount_eq_zero_iff.trans List.length_eq_zero_iff.symm)
  · rw [byteCount_append, List.length_append]
    omega

/-- A middle part of a text is a slice of it. -/
theorem isSlice_of_append {text : String} {part : List Char}
    (split : text.toList = before ++ part ++ after) :
    IsSlice text (byteCount before) (byteCount (before ++ part)) (String.ofList part) := by
  refine ⟨String.ofList before, String.ofList after, ?_, rfl, ?_⟩
  · rw [← String.ofList_append, ← String.ofList_append, ← split, String.ofList_toList]
  · rw [byteCount, String.ofList_append]

end Cut

/-- The short name is what stands between the two offsets, with dots for dollar signs. -/
theorem shortClassName_eq_cut (className : String) :
    ∃ part, IsSlice className (cutStart className) (cutStop className) part ∧
      shortClassName className = String.ofList (dotted part.toList) := by
  obtain ⟨before, split, start⟩ := cutStart_eq className
  have head := beforeDoubleDollar_leads className.toList
  have order := byteCount_lt_iff ⟨_, split.symm⟩ head
  have length : className.toList.length - (afterLastDot className.toList).length =
      before.length := by
    have whole := congrArg List.length split
    rw [List.length_append] at whole
    omega
  rw [shortClassName, length, cutStop_eq, start]
  by_cases below : before.length < (beforeDoubleDollar className.toList).length
  · obtain ⟨part, inside⟩ := List.prefix_of_prefix_length_le ⟨_, split.symm⟩ head below.le
    obtain ⟨after, whole⟩ := head
    rw [← inside] at whole
    have kept : (className.toList.take (beforeDoubleDollar className.toList).length).drop
        before.length = part := by
      rw [← List.prefix_iff_eq_take.mp (beforeDoubleDollar_leads className.toList), ← inside,
        List.drop_left]
    rw [if_pos below, if_pos (order.mpr below), kept, ← inside]
    exact ⟨_, isSlice_of_append whole.symm, by rw [String.toList_ofList]⟩
  · have kept : className.toList.drop before.length = afterLastDot className.toList := by
      conv => lhs; rw [split]
      exact List.drop_left
    have whole : className.toList = before ++ afterLastDot className.toList ++ [] := by
      rwa [List.append_nil]
    have slice := isSlice_of_append whole
    rw [← split] at slice
    rw [if_neg below, if_neg (mt order.mp below), kept]
    exact ⟨_, slice, by rw [String.toList_ofList]⟩

/-- With dots in their place no dollar sign is left. -/
theorem not_mem_dotted (characters : List Char) : '$' ∉ dotted characters := by
  rw [dotted, List.mem_map]
  rintro ⟨character, _, same⟩
  split at same
  · cases same
  · contradiction

/-! The name of a generated subclass. -/

def HasDoubleDollar (name : String) : Prop := ['$', '$'] <:+: name.toList

/-- The name of a class without its package, from which names of subclasses are made. -/
structure IsSimpleName (name : String) : Prop where
  nonempty : name ≠ ""
  undotted : '.' ∉ name.toList
  single : ¬ HasDoubleDollar name
  closed : name.toList.getLast? ≠ some '$'

section Generated

variable {characters before part after : List Char}

/-- There is no double dollar sign just if no dollar sign follows another one. -/
theorem not_infix_iff :
    ¬ ['$', '$'] <:+: characters ↔
      characters.IsChain fun first second => ¬ (first = '$' ∧ second = '$') := by
  rw [List.isChain_iff_forall_rel_of_append_cons_cons]
  constructor
  · rintro absent first second front back rfl ⟨rfl, rfl⟩
    exact absent ⟨front, back, by rw [List.append_assoc]; rfl⟩
  · rintro apart ⟨front, back, rfl⟩
    exact apart (List.append_assoc _ _ _) ⟨rfl, rfl⟩

/-- No double dollar sign arises where the first list does not end in a dollar sign. -/
theorem not_infix_append (first : ¬ ['$', '$'] <:+: before) (second : ¬ ['$', '$'] <:+: after)
    (closed : before.getLast? ≠ some '$') : ¬ ['$', '$'] <:+: before ++ after := by
  rw [not_infix_iff] at first second ⊢
  refine List.isChain_append.mpr ⟨first, second, ?_⟩
  rintro last isLast _ _ ⟨rfl, _⟩
  exact closed isLast

/-- The first double dollar sign is the one behind a part that has none and ends in no dollar
sign. -/
theorem beforeDoubleDollar_append (single : ¬ ['$', '$'] <:+: before)
    (closed : before.getLast? ≠ some '$') :
    beforeDoubleDollar (before ++ '$' :: '$' :: after) = before := by
  induction before with
  | nil => rfl
  | cons character rest inductionHypothesis =>
      have restSingle : ¬ ['$', '$'] <:+: rest := fun inside =>
        single (inside.trans (List.suffix_cons character rest).isInfix)
      have restClosed : rest.getLast? ≠ some '$' := by
        cases rest with
        | nil => exact nofun
        | cons next later => rwa [List.getLast?_cons_cons] at closed
      rw [List.cons_append, beforeDoubleDollar]
      · rw [inductionHypothesis restSingle restClosed]
      · rintro others rfl same
        cases rest with
        | nil => exact closed rfl
        | cons next later =>
            obtain ⟨rfl, -⟩ := List.cons.inj same
            exact single ⟨[], later, rfl⟩

/-- A name without a double dollar sign is kept as a whole. -/
theorem beforeDoubleDollar_of_single (single : ¬ ['$', '$'] <:+: characters) :
    beforeDoubleDollar characters = characters := by
  fun_induction beforeDoubleDollar characters with
  | case1 => rfl
  | case2 rest => exact absurd ⟨[], rest, rfl⟩ single
  | case3 character rest _ inductionHypothesis =>
      rw [inductionHypothesis fun inside => single (inside.trans (List.suffix_cons _ _).isInfix)]

/-- The short name is the part between the last dot and the double dollar sign, unless nothing is
there. -/
theorem shortClassName_of_parts {className : String}
    (split : className.toList = before ++ (part ++ after))
    (dotless : afterLastDot className.toList = part ++ after)
    (stops : beforeDoubleDollar className.toList = before ++ part) (nonempty : part ≠ []) :
    shortClassName className = String.ofList (dotted part) := by
  have start : className.toList.length - (afterLastDot className.toList).length =
      before.length := by
    rw [dotless, split, List.length_append]
    omega
  have below : before.length < (before ++ part).length := by
    rw [List.length_append]
    have := List.length_pos_iff.mpr nonempty
    omega
  have kept : (className.toList.take (before ++ part).length).drop before.length = part := by
    rw [split, ← List.append_assoc, List.take_left, List.drop_left]
  rw [shortClassName, start, stops, if_pos below, kept]

end Generated

/-- A simple name is its own short name, with dots for dollar signs. -/
theorem IsSimpleName.shortClassName_eq {simple : String} (isSimple : IsSimpleName simple) :
    shortClassName simple = String.ofList (dotted simple.toList) := by
  have split : simple.toList = [] ++ (simple.toList ++ []) := by
    rw [List.nil_append, List.append_nil]
  refine shortClassName_of_parts split ?_ ?_ (by simpa using isSimple.nonempty)
  · rw [afterLastDot_of_notMem isSimple.undotted, List.append_nil]
  · rw [beforeDoubleDollar_of_single isSimple.single, List.nil_append]

/-- Neither the package nor what follows the double dollar sign gets into the short name. -/
theorem IsSimpleName.shortClassName_generated {simple package suffix : String}
    (isSimple : IsSimpleName simple) (inPackage : package = "" ∨ package.toList.getLast? = some '.')
    (single : ¬ HasDoubleDollar package) (undotted : '.' ∉ suffix.toList) :
    shortClassName (package ++ simple ++ "$$" ++ suffix) = shortClassName simple := by
  have split : (package ++ simple ++ "$$" ++ suffix).toList =
      package.toList ++ (simple.toList ++ '$' :: '$' :: suffix.toList) := by
    simp
  have rest : '.' ∉ simple.toList ++ '$' :: '$' :: suffix.toList := by
    simp [isSimple.undotted, undotted]
  have closed : package.toList.getLast? ≠ some '$' := by
    obtain rfl | dot := inPackage
    · exact nofun
    · rw [dot]
      decide
  rw [isSimple.shortClassName_eq]
  refine shortClassName_of_parts split ?_ ?_ (by simpa using isSimple.nonempty)
  · rw [split]
    obtain rfl | dot := inPackage
    · exact afterLastDot_of_notMem rest
    · obtain ⟨front, ends⟩ := List.getLast?_eq_some_iff.mp dot
      rw [ends, ← List.append_cons]
      exact afterLastDot_append rest
  · rw [split, ← List.append_assoc]
    refine beforeDoubleDollar_append (not_infix_append single isSimple.single closed) ?_
    rw [List.getLast?_append]
    intro last
    obtain here | ⟨_, there⟩ := Option.or_eq_some_iff.mp last
    · exact isSimple.closed here
    · exact closed there

/-! The first letter. -/

/-- A name is kept, or its first character alone is lowered. -/
theorem decapitalize_eq (name : String) :
    decapitalize name = name ∨ ∃ first rest, name = String.ofList (first :: rest) ∧
      decapitalize name = String.ofList (Text.lowercase first ++ rest) := by
  have characters : name = String.ofList name.toList := String.ofList_toList.symm
  unfold decapitalize
  split
  · rename_i empty
    rw [characters, empty]
    exact .inl rfl
  · rename_i first second rest listed
    split
    · exact .inl rfl
    · exact .inr ⟨first, second :: rest, by rw [characters, listed], rfl⟩
  · rename_i only listed
    exact .inr ⟨only, [], by rw [characters, listed], by rw [List.append_nil]⟩

/-- A name that starts with a lowered character is kept. -/
theorem decapitalize_of_lowered {first : Char} (lowered : Text.lowercase first = [first])
    (rest : List Char) :
    decapitalize (String.ofList (first :: rest)) = String.ofList (first :: rest) := by
  unfold decapitalize
  rw [String.toList_ofList]
  cases rest with
  | nil => simp only [lowered]
  | cons second later =>
      simp only [lowered]
      split <;> rfl

/-- Making the first letter small twice is no more than once. -/
theorem decapitalize_decapitalize (name : String) :
    decapitalize (decapitalize name) = decapitalize name := by
  obtain same | ⟨first, rest, -, changed⟩ := decapitalize_eq name
  · rw [same, same]
  · obtain ⟨lowered, others, form, again⟩ := Text.exists_lowercase_eq_cons first
    rw [changed, form, List.cons_append]
    exact decapitalize_of_lowered again (others ++ rest)

/-- A class name is cut between whole characters, so that the cut always succeeds, and no dollar
sign is left in the short name. The bean of a generated subclass has the default name of the class
itself. Making the first letter small changes nothing behind it, and nothing more when it is done
again. -/
theorem class_names_decided :
    (∀ className : String,
      cutStart className ≤ cutStop className ∧
        (⟨cutStart className⟩ : String.Pos.Raw).IsValid className ∧
        (⟨cutStop className⟩ : String.Pos.Raw).IsValid className ∧
        (∃ part, IsSlice className (cutStart className) (cutStop className) part ∧
          shortClassName className = String.ofList (dotted part.toList)) ∧
        '$' ∉ (shortClassName className).toList) ∧
    (∀ simple package suffix : String, IsSimpleName simple →
      package = "" ∨ package.toList.getLast? = some '.' → ¬ HasDoubleDollar package →
      '.' ∉ suffix.toList →
      ∀ definition generated : BeanDefinition, definition.beanClassName = some simple →
        generated.beanClassName = some (package ++ simple ++ "$$" ++ suffix) →
        ∃ name, defaultName definition = .ok name ∧ defaultName generated = .ok name) ∧
    ∀ name : String,
      decapitalize (decapitalize name) = decapitalize name ∧
        (decapitalize name = name ∨ ∃ first rest, name = String.ofList (first :: rest) ∧
          decapitalize name = String.ofList (Text.lowercase first ++ rest)) := by
  refine ⟨fun className => ?_, ?_, fun name =>
    ⟨decapitalize_decapitalize name, decapitalize_eq name⟩⟩
  · obtain ⟨part, slice, short⟩ := shortClassName_eq_cut className
    obtain ⟨ordered, startValid, stopValid⟩ := slice.valid
    refine ⟨ordered, startValid, stopValid, ⟨part, slice, short⟩, ?_⟩
    rw [short, String.toList_ofList]
    exact not_mem_dotted _
  · intro simple package suffix isSimple inPackage single undotted definition generated named
      subclass
    refine ⟨decapitalize (shortClassName simple), by rw [defaultName, named], ?_⟩
    rw [defaultName, subclass]
    exact congrArg (fun short => Except.ok (decapitalize short))
      (isSimple.shortClassName_generated inPackage single undotted)

/-- The bean of a subclass that a proxy generator made is named like that of the service. -/
theorem enhanced_service_named :
    IsSimpleName "OrderService" ∧ "com.xyz.".toList.getLast? = some '.' ∧
      ¬ HasDoubleDollar "com.xyz." ∧ '.' ∉ "EnhancerByProxy$$1a2b".toList ∧
      defaultName (.ofClass "com.xyz.OrderService$$EnhancerByProxy$$1a2b") =
        .ok "orderService" := by
  have isSimple : IsSimpleName "OrderService" :=
    ⟨by decide +kernel, by decide +kernel, by unfold HasDoubleDollar; decide +kernel,
      by decide +kernel⟩
  have dot : "com.xyz.".toList.getLast? = some '.' := by decide +kernel
  have single : ¬ HasDoubleDollar "com.xyz." := by unfold HasDoubleDollar; decide +kernel
  have undotted : '.' ∉ "EnhancerByProxy$$1a2b".toList := by decide +kernel
  obtain ⟨_, generated, _⟩ := class_names_decided
  obtain ⟨name, ofSimple, ofGenerated⟩ := generated "OrderService" "com.xyz."
    "EnhancerByProxy$$1a2b" isSimple (.inr dot) single undotted (.ofClass "OrderService")
    (.ofClass "com.xyz.OrderService$$EnhancerByProxy$$1a2b") rfl (by decide +kernel)
  have plain : defaultName (.ofClass "OrderService") = .ok "orderService" := by decide +kernel
  exact ⟨isSimple, dot, single, undotted, ofGenerated.trans (ofSimple.symm.trans plain)⟩

end BeanContainer.Naming
