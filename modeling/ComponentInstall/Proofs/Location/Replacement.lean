import ComponentInstall.Proofs.Location.Stretches
import Mathlib.Tactic.Ring

/-!
# Every placeholder is filled once

A template falls into parts that have the placeholder between them and none in them, in one way only:
these are its stretches. Between two neighbours of them the placeholder stands, and nowhere else, not even
overlapping another one. The endpoint of the common realm has the region in each of these places and is the
template everywhere else. What the region looks like does not matter, and it may well be a placeholder
itself.
-/

namespace ComponentInstall.Location

/-- A word stands at a place of a text. -/
def StandsAt (word text : List Char) (place : Nat) : Prop := word <+: text.drop place

/-- A template falls into parts, with the placeholder between them and none in them. -/
structure FallsInto (template : List Char) (parts : List (List Char)) : Prop where
  nonempty : parts ≠ []
  whole : List.intercalate placeholder parts = template
  free : ∀ part ∈ parts, ¬ placeholder <:+: part

/-- The places behind the first part, behind the first two, and so on up to the last but one. -/
def places (parts : List (List Char)) : List Nat :=
  (List.range' 1 (parts.length - 1)).map fun count =>
    (List.intercalate placeholder (parts.take count)).length

theorem intercalate_append (filling : List Char) {left right : List (List Char)} (before : left ≠ [])
    (behind : right ≠ []) : List.intercalate filling (left ++ right) =
      List.intercalate filling left ++ filling ++ List.intercalate filling right := by
  induction left with
  | nil => exact absurd rfl before
  | cons first left inductionHypothesis =>
    cases left with
    | nil =>
      obtain ⟨second, others, rfl⟩ := List.exists_cons_of_ne_nil behind
      rw [List.singleton_append, List.intercalate_cons_cons, List.intercalate_singleton]
    | cons second left =>
      have later := inductionHypothesis (List.cons_ne_nil _ _)
      rw [List.cons_append, List.cons_append, List.intercalate_cons_cons, ← List.cons_append, later,
        List.intercalate_cons_cons]
      simp only [List.append_assoc]

/-- A template is what its stretches make with the placeholder between them. -/
theorem intercalate_stretches (cs : List Char) : List.intercalate placeholder (stretches cs) = cs := by
  fun_induction stretches cs with
  | case1 => rfl
  | case2 rest inductionHypothesis =>
    have apart := intercalate_append placeholder (List.cons_ne_nil [] []) (stretches_ne_nil rest)
    rw [List.singleton_append] at apart
    rw [apart, inductionHypothesis]
    rfl
  | case3 c rest other inductionHypothesis =>
    obtain ⟨stretch, others, found⟩ := List.exists_cons_of_ne_nil (stretches_ne_nil rest)
    rw [found] at inductionHypothesis ⊢
    rw [← inductionHypothesis, extend]
    cases others <;> simp [List.intercalate_cons_cons]

/-- A text without the placeholder is one stretch. -/
theorem stretches_of_free {cs : List Char} (free : ¬ placeholder <:+: cs) : stretches cs = [cs] := by
  induction cs with
  | nil => rfl
  | cons c rest inductionHypothesis =>
    rw [List.infix_cons_iff, not_or] at free
    rw [stretches_cons free.1, inductionHypothesis free.2, extend]

/-- The first stretch is what the text begins with. -/
theorem prefix_of_stretches {cs stretch : List Char} {others : List (List Char)}
    (found : stretches cs = stretch :: others) : stretch <+: cs := by
  have whole := intercalate_stretches cs
  rw [found] at whole
  cases others with
  | nil => exact ⟨[], by simpa using whole⟩
  | cons second others =>
    rw [List.intercalate_cons_cons, List.append_assoc] at whole
    exact ⟨_, whole⟩

/-- No stretch has a placeholder in it. -/
theorem free_of_mem_stretches {cs : List Char} :
    ∀ stretch ∈ stretches cs, ¬ placeholder <:+: stretch := by
  fun_induction stretches cs with
  | case1 => decide
  | case2 rest inductionHypothesis =>
    exact List.forall_mem_cons.mpr ⟨by decide, inductionHypothesis⟩
  | case3 c rest other inductionHypothesis =>
    obtain ⟨stretch, others, found⟩ := List.exists_cons_of_ne_nil (stretches_ne_nil rest)
    rw [found] at inductionHypothesis ⊢
    obtain ⟨free, freeOthers⟩ := List.forall_mem_cons.mp inductionHypothesis
    refine List.forall_mem_cons.mpr ⟨?_, freeOthers⟩
    rw [List.infix_cons_iff, not_or]
    refine ⟨fun begins => ?_, free⟩
    have whole : c :: stretch <+: c :: rest :=
      (List.prefix_cons_inj c).mpr (prefix_of_stretches found)
    obtain ⟨behind, same⟩ := begins.trans whole
    obtain ⟨rfl, rest⟩ := List.cons.inj same
    exact other behind rfl rest.symm

/-- A template falls into its stretches and into nothing else. -/
theorem fallsInto_iff {template : List Char} {parts : List (List Char)} :
    FallsInto template parts ↔ parts = stretches template := by
  constructor
  · rintro ⟨nonempty, rfl, free⟩
    induction parts with
    | nil => exact absurd rfl nonempty
    | cons first others inductionHypothesis =>
      obtain ⟨freeFirst, freeOthers⟩ := List.forall_mem_cons.mp free
      cases others with
      | nil => rw [List.intercalate_singleton, stretches_of_free freeFirst]
      | cons second others =>
        have later := inductionHypothesis (List.cons_ne_nil _ _) freeOthers
        rw [List.intercalate_cons_cons, stretches_append_placeholder, ← later,
          stretches_of_free freeFirst, List.singleton_append]
  · rintro rfl
    exact ⟨stretches_ne_nil template, intercalate_stretches template, free_of_mem_stretches⟩

/-- A word stands at a place if it has something of that length before it. -/
theorem standsAt_iff {word text : List Char} {place : Nat} (visible : word ≠ []) :
    StandsAt word text place ↔
      ∃ left right, text = left ++ word ++ right ∧ left.length = place := by
  constructor
  · rintro ⟨right, same⟩
    refine ⟨text.take place, right, ?_, ?_⟩
    · rw [List.append_assoc, same, List.take_append_drop]
    · have some : text.drop place ≠ [] := by
        rw [← same]
        exact List.append_ne_nil_of_left_ne_nil visible right
      rw [ne_eq, List.drop_eq_nil_iff] at some
      exact List.length_take_of_le (Nat.le_of_not_le some)
  · rintro ⟨left, right, rfl, rfl⟩
    rw [StandsAt, List.append_assoc, List.drop_left]
    exact ⟨right, rfl⟩

theorem mem_places_iff {parts : List (List Char)} {place : Nat} :
    place ∈ places parts ↔ ∃ before behind, before ≠ [] ∧ behind ≠ [] ∧ parts = before ++ behind ∧
      (List.intercalate placeholder before).length = place := by
  simp only [places, List.mem_map, List.mem_range'_1]
  constructor
  · rintro ⟨count, ⟨positive, below⟩, rfl⟩
    refine ⟨parts.take count, parts.drop count, ?_, ?_, (List.take_append_drop count parts).symm, rfl⟩
    · rw [ne_eq, List.take_eq_nil_iff, ← List.length_eq_zero_iff]
      omega
    · rw [ne_eq, List.drop_eq_nil_iff]
      omega
  · rintro ⟨before, behind, someBefore, someBehind, rfl, rfl⟩
    have positive := List.length_pos_iff.mpr someBefore
    have positiveBehind := List.length_pos_iff.mpr someBehind
    refine ⟨before.length, ?_, by rw [List.take_left]⟩
    rw [List.length_append]
    omega

/-- The placeholder stands between neighbouring stretches and nowhere else. -/
theorem standsAt_placeholder_iff {template : List Char} {place : Nat} :
    StandsAt placeholder template place ↔ place ∈ places (stretches template) := by
  rw [standsAt_iff (by decide), mem_places_iff]
  constructor
  · rintro ⟨left, right, rfl, rfl⟩
    exact ⟨stretches left, stretches right, stretches_ne_nil left, stretches_ne_nil right,
      stretches_append_placeholder left right, by rw [intercalate_stretches]⟩
  · rintro ⟨before, behind, someBefore, someBehind, same, rfl⟩
    refine ⟨_, List.intercalate placeholder behind, ?_, rfl⟩
    rw [← intercalate_append placeholder someBefore someBehind, ← same, intercalate_stretches]

/-- Between two places of the placeholder there is room for it. -/
theorem pairwise_places (parts : List (List Char)) :
    (places parts).Pairwise fun one next => one + placeholder.length ≤ next := by
  rw [places, List.pairwise_map]
  refine (List.pairwise_lt_range' 1).imp_of_mem ?_
  intro count later inside insideLater before
  rw [List.mem_range'_1] at inside insideLater
  have split : parts.take later = parts.take count ++ (parts.take later).drop count := by
    conv_lhs => rw [← List.take_append_drop count (parts.take later), List.take_take,
      Nat.min_eq_left (Nat.le_of_lt before)]
  have someBefore : parts.take count ≠ [] := by
    rw [ne_eq, List.take_eq_nil_iff, ← List.length_eq_zero_iff]
    omega
  have someBehind : (parts.take later).drop count ≠ [] := by
    rw [ne_eq, List.drop_eq_nil_iff, List.length_take]
    omega
  rw [split, intercalate_append placeholder someBefore someBehind]
  simp only [List.length_append]
  omega

/-- A measure of texts that adds up tells how much a text grows when something else is filled in. -/
theorem measure_intercalate (measure : List Char → Nat)
    (adds : ∀ left right, measure (left ++ right) = measure left + measure right)
    {parts : List (List Char)} (nonempty : parts ≠ []) (filling other : List Char) :
    (measure (List.intercalate filling parts) : Int) =
      measure (List.intercalate other parts) +
        (places parts).length * ((measure filling : Int) - measure other) := by
  obtain ⟨first, others, rfl⟩ := List.exists_cons_of_ne_nil nonempty
  have count : (places (first :: others)).length = others.length := by simp [places]
  rw [measure_intercalate_cons measure adds, measure_intercalate_cons measure adds, count]
  push_cast
  ring

/-- A template falls into parts in one way, and the placeholder stands between neighbours of these parts
and nowhere else. The endpoint of the common realm is made of the same parts with the region between them,
so its length differs from that of the template by what the region is longer or shorter than the
placeholder, once for each place. This holds of the characters and of the bytes. -/
theorem standard_base_fills (template : String) :
    ∃ parts, (∀ others, FallsInto template.toList others ↔ others = parts) ∧
      (∀ place, StandsAt placeholder template.toList place ↔ place ∈ places parts) ∧
      (places parts).Pairwise (fun one next => one + placeholder.length ≤ next) ∧
      (places parts).length + 1 = parts.length ∧
      ∀ region, Partition.standard.base region template =
          String.ofList (List.intercalate region.toList parts) ∧
        ((Partition.standard.base region template).length : Int) =
          template.length + (places parts).length * ((region.length : Int) - 8) ∧
        ((Partition.standard.base region template).utf8ByteSize : Int) =
          template.utf8ByteSize + (places parts).length * ((region.utf8ByteSize : Int) - 8) := by
  have nonempty := stretches_ne_nil template.toList
  refine ⟨stretches template.toList, fun _ => fallsInto_iff, fun _ => standsAt_placeholder_iff,
    pairwise_places _, ?_, fun region => ⟨rfl, ?_, ?_⟩⟩
  · have positive := List.length_pos_iff.mpr nonempty
    simp only [places, List.length_map, List.length_range']
    omega
  · have grown := measure_intercalate List.length (fun _ _ => List.length_append) nonempty
      region.toList placeholder
    rw [intercalate_stretches, String.length_toList, String.length_toList] at grown
    rw [Partition.base, fill, String.length_ofList]
    exact grown
  · have grown := measure_intercalate (fun cs => (String.ofList cs).utf8ByteSize)
      (fun _ _ => by simp only [String.ofList_append, String.utf8ByteSize_append]) nonempty
      region.toList placeholder
    rw [intercalate_stretches, String.ofList_toList, String.ofList_toList] at grown
    exact grown

/-- Braces around a placeholder stay, and a region that is a placeholder is not filled in again. -/
example : Partition.standard.base "\x7bRegion\x7d" "\x7bReg\x7bRegion\x7dion\x7d" =
    "\x7bReg\x7bRegion\x7dion\x7d" := by decide +kernel

end ComponentInstall.Location
