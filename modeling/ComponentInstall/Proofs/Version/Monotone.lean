import ComponentInstall.Proofs.Version.Selection

/-!
# Fewer candidates and longer beginnings

Deleting candidates and asking for a longer beginning do the same to a choice: fewer candidates qualify
for it. So what is chosen can only become smaller, and where nothing qualified before, nothing does
afterwards.

In two cases the choice stays what it was, although the winner depends on its place in the list. Deleting
what denotes no version leaves the pass with the same versions in the same order. And a winner that begins
with the longer beginning still qualifies, ahead of the same rivals.
-/

namespace ComponentInstall.Version

/-- Some candidates of a list are deleted and the others are kept, in their order. -/
inductive Deletion : List String → List String → List String → Prop
  | nil : Deletion [] [] []
  | keep {listed kept deleted : List String} (candidate : String)
      (rest : Deletion listed kept deleted) :
      Deletion (candidate :: listed) (candidate :: kept) deleted
  | delete {listed kept deleted : List String} (candidate : String)
      (rest : Deletion listed kept deleted) :
      Deletion (candidate :: listed) kept (candidate :: deleted)

/-- Both texts denote versions, and that of the first is not greater. -/
def NotAbove (lesser greater : String) : Prop :=
  ∃ low high, ofText lesser = some low ∧ ofText greater = some high ∧ low.rank ≤ high.rank

section

variable {listed kept deleted candidates : List String} {wanted narrower : Option String}
  {candidate winner : String} {version : Triple}

theorem Deletion.subset (deletion : Deletion listed kept deleted) : kept ⊆ listed := by
  induction deletion with
  | nil => exact List.Subset.refl []
  | keep first rest inductionHypothesis => exact List.cons_subset_cons first inductionHypothesis
  | delete first rest inductionHypothesis =>
    exact List.subset_cons_of_subset first inductionHypothesis

/-- The pass does not notice that candidates are gone which denote nothing. -/
theorem Deletion.best_eq (deletion : Deletion listed kept deleted)
    (shapeless : ∀ candidate ∈ deleted, ofText candidate = none) (wanted : Option String) :
    best wanted kept = best wanted listed := by
  have sameEntries : kept.filterMap (qualify wanted) = listed.filterMap (qualify wanted) := by
    induction deletion with
    | nil => rfl
    | keep first rest inductionHypothesis =>
      rw [List.filterMap_cons, List.filterMap_cons, inductionHypothesis shapeless]
    | delete first rest inductionHypothesis =>
      have nothing : qualify wanted first = none := by
        apply qualify_of_disqualified
        intro version qualifies
        cases (shapeless first List.mem_cons_self).symm.trans qualifies.denotes
      rw [List.filterMap_cons_none nothing]
      exact inductionHypothesis fun other member =>
        shapeless other (List.mem_cons_of_mem first member)
  rw [best, best, sameEntries]

theorem Qualifies.widen (longer : beginning wanted <+: beginning narrower)
    (qualifies : Qualifies narrower candidate version) : Qualifies wanted candidate version :=
  ⟨longer.trans qualifies.begins, qualifies.denotes⟩

/-- If all that qualifies also qualifies for another choice, that choice is no smaller. -/
theorem latest_of_covered
    (covered : ∀ candidate ∈ kept, ∀ version, Qualifies narrower candidate version →
      candidate ∈ listed ∧ Qualifies wanted candidate version)
    (something : latest narrower kept ≠ "") :
    latest wanted listed ≠ "" ∧ NotAbove (latest narrower kept) (latest wanted listed) := by
  obtain ⟨low, won⟩ := lastGreatest_latest something
  obtain ⟨member, qualifies⟩ := covered _ won.mem low won.qualifies
  have somethingListed : latest wanted listed ≠ "" := by
    intro nothing
    have disqualified := nobody_of_latest nothing
    exact disqualified _ member low qualifies
  obtain ⟨high, wonListed⟩ := lastGreatest_latest somethingListed
  exact ⟨somethingListed, low, high, won.qualifies.denotes, wonListed.qualifies.denotes,
    wonListed.greatest _ member low qualifies⟩

theorem latest_of_subset (covered : kept ⊆ listed) (something : latest wanted kept ≠ "") :
    latest wanted listed ≠ "" ∧ NotAbove (latest wanted kept) (latest wanted listed) :=
  latest_of_covered (fun _ member _ qualifies => ⟨covered member, qualifies⟩) something

/-- The winner stays the winner for a longer beginning that it has. -/
theorem LastGreatest.narrow (won : LastGreatest wanted candidates winner version)
    (longer : beginning wanted <+: beginning narrower)
    (begins : beginning narrower <+: winner.toList) :
    LastGreatest narrower candidates winner version where
  qualifies := ⟨begins, won.qualifies.denotes⟩
  greatest listed member other qualifies :=
    won.greatest listed member other (qualifies.widen longer)
  last := by
    obtain ⟨before, after, split, behind⟩ := won.last
    exact ⟨before, after, split, fun later member qualifies =>
      behind later member (qualifies.widen longer)⟩

theorem latest_of_narrowed (longer : beginning wanted <+: beginning narrower)
    (begins : beginning narrower <+: (latest wanted candidates).toList) :
    latest narrower candidates = latest wanted candidates := by
  by_cases nothing : latest wanted candidates = ""
  · rw [nothing]
    exact latest_of_nobody fun candidate member version qualifies =>
      nobody_of_latest nothing candidate member version (qualifies.widen longer)
  · obtain ⟨version, won⟩ := lastGreatest_latest nothing
    exact latest_of_lastGreatest (won.narrow longer begins)

end

/-- The latest version is monotone. If candidates are deleted from a list and something is still chosen,
then something is chosen from the whole list, and it is no smaller; and the choice is the same text if
every deleted candidate denotes no version. If a longer beginning is asked for, nothing is chosen or what is
chosen is no greater; and the choice is the same text if it has that beginning. -/
theorem latest_monotone {listed kept deleted : List String}
    (deletion : Deletion listed kept deleted) {wanted narrower : Option String}
    (longer : beginning wanted <+: beginning narrower) :
    (latest wanted kept ≠ "" →
      latest wanted listed ≠ "" ∧ NotAbove (latest wanted kept) (latest wanted listed)) ∧
    ((∀ candidate ∈ deleted, ofText candidate = none) →
      latest wanted kept = latest wanted listed) ∧
    (latest narrower kept = "" ∨ NotAbove (latest narrower kept) (latest wanted kept)) ∧
    (beginning narrower <+: (latest wanted kept).toList →
      latest narrower kept = latest wanted kept) := by
  refine ⟨?_, ?_, ?_, latest_of_narrowed longer⟩
  · exact latest_of_subset deletion.subset
  · intro shapeless
    rw [latest, latest, deletion.best_eq shapeless wanted]
  · by_cases nothing : latest narrower kept = ""
    · exact Or.inl nothing
    · exact Or.inr (latest_of_covered (fun candidate member version qualifies =>
        ⟨member, qualifies.widen longer⟩) nothing).2

/-- The greatest candidate and a shapeless one are withdrawn, and of two spellings of what is left the later
one lacks the longer beginning. -/
theorem latest_monotone_of_withdrawal :
    let listed := ["1.10.0", "2.x", "2.0.0", "1.9.0", "01.10.0"]
    let kept := ["1.10.0", "1.9.0", "01.10.0"]
    Deletion listed kept ["2.x", "2.0.0"] ∧ beginning none <+: beginning (some "1.") ∧
      latest none listed = "2.0.0" ∧ latest none kept = "01.10.0" ∧
      latest (some "1.") kept = "1.10.0" ∧
      NotAbove (latest none kept) (latest none listed) ∧
      NotAbove (latest (some "1.") kept) (latest none kept) := by
  intro listed kept
  have deletion : Deletion listed kept ["2.x", "2.0.0"] :=
    .keep _ (.delete _ (.delete _ (.keep _ (.keep _ .nil))))
  have longer : beginning none <+: beginning (some "1.") := List.nil_prefix
  have chosen : latest none kept = "01.10.0" := by decide +kernel
  have narrowed : latest (some "1.") kept = "1.10.0" := by decide +kernel
  obtain ⟨fewer, -, longerBeginning, -⟩ := latest_monotone deletion longer
  refine ⟨deletion, longer, by decide +kernel, chosen, narrowed, (fewer ?_).2, ?_⟩
  · rw [chosen]
    decide
  · refine longerBeginning.resolve_left ?_
    rw [narrowed]
    decide

end ComponentInstall.Version
