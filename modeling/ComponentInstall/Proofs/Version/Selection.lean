import ComponentInstall.Version.Latest
import Mathlib.Data.List.Induction
import Mathlib.Data.Prod.Lex

/-!
# Which version is the latest

The choice is made by one pass that keeps the best candidate so far. What it finds is said here without
the pass. A candidate qualifies if it begins as wanted and denotes a version, and the one that wins is the
last of those that denote the greatest version. There is at most one such place in a list, so this
describes the choice in full, and everything else about it follows without looking at the pass again.

Versions are compared as numbers, so `Triple.rank` brings their order back to the lexicographic one.
Different versions have different ranks, but one version can be spelled in several ways, and only then
the place in the list matters.
-/

namespace ComponentInstall.Version

/-- The numbers of a version, the first of which weighs most. -/
def Triple.rank (version : Triple) : Nat ×ₗ Nat ×ₗ Nat :=
  toLex (version.major, toLex (version.minor, version.patch))

theorem Triple.rank_le_rank_iff (left right : Triple) : left.rank ≤ right.rank ↔ left ≤ right := by
  simp only [rank, Prod.Lex.toLex_le_toLex, Triple.le_iff]

theorem Triple.rank_injective : Function.Injective Triple.rank := by
  rintro ⟨major, minor, patch⟩ ⟨otherMajor, otherMinor, otherPatch⟩ same
  simp only [rank, toLex_inj, Prod.mk.injEq] at same
  obtain ⟨rfl, rfl, rfl⟩ := same
  rfl

/-- How candidates have to begin. Asking for nothing is asking for the empty beginning. -/
def beginning (wanted : Option String) : List Char := (wanted.getD "").toList

theorem begins_iff (wanted : Option String) (text : String) :
    begins wanted text = true ↔ beginning wanted <+: text.toList := by
  cases wanted <;> simp [begins, beginning]

/-- A candidate begins as wanted and denotes a version. -/
structure Qualifies (wanted : Option String) (candidate : String) (version : Triple) : Prop where
  begins : beginning wanted <+: candidate.toList
  denotes : ofText candidate = some version

/-- The last of the candidates that denote the greatest version among those that qualify. -/
structure LastGreatest (wanted : Option String) (candidates : List String) (winner : String)
    (version : Triple) : Prop where
  qualifies : Qualifies wanted winner version
  greatest : ∀ candidate ∈ candidates, ∀ other, Qualifies wanted candidate other →
    other.rank ≤ version.rank
  last : ∃ before after, candidates = before ++ winner :: after ∧
    ∀ later ∈ after, ¬ Qualifies wanted later version

/-- What can come out of a choice: nothing if no candidate qualifies, and else the winner. -/
inductive Choice (wanted : Option String) (candidates : List String) :
    Option (String × Triple) → Prop
  | nobody (disqualified : ∀ candidate ∈ candidates, ∀ version, ¬ Qualifies wanted candidate version) :
      Choice wanted candidates none
  | winner {winner : String} {version : Triple}
      (won : LastGreatest wanted candidates winner version) :
      Choice wanted candidates (some (winner, version))

section

variable {wanted : Option String} {candidates : List String} {candidate winner : String}
  {version other : Triple}

theorem Qualifies.unique (first : Qualifies wanted candidate version)
    (second : Qualifies wanted candidate other) : version = other :=
  Option.some.inj (first.denotes.symm.trans second.denotes)

/-- The empty text denotes nothing. -/
theorem Qualifies.ne_empty (qualifies : Qualifies wanted candidate version) : candidate ≠ "" := by
  rintro rfl
  cases qualifies.denotes

theorem qualify_of_qualifies (qualifies : Qualifies wanted candidate version) :
    qualify wanted candidate = some (candidate, version) := by
  rw [qualify, if_pos ((begins_iff wanted candidate).mpr qualifies.begins), qualifies.denotes,
    Option.map_some]

theorem qualify_of_disqualified (disqualified : ∀ version, ¬ Qualifies wanted candidate version) :
    qualify wanted candidate = none := by
  rw [qualify]
  split
  · rename_i started
    rw [Option.map_eq_none_iff, Option.eq_none_iff_forall_ne_some]
    intro version denotes
    exact disqualified version ⟨(begins_iff wanted candidate).mp started, denotes⟩
  · rfl

theorem best_append_of_qualifies (qualifies : Qualifies wanted candidate version) :
    best wanted (candidates ++ [candidate]) =
      better (best wanted candidates) (candidate, version) := by
  simp only [best, List.filterMap_append, List.filterMap_cons, qualify_of_qualifies qualifies,
    List.filterMap_nil, List.foldl_append, List.foldl_cons, List.foldl_nil]

theorem best_append_of_disqualified
    (disqualified : ∀ version, ¬ Qualifies wanted candidate version) :
    best wanted (candidates ++ [candidate]) = best wanted candidates := by
  simp only [best, List.filterMap_append, List.filterMap_cons,
    qualify_of_disqualified disqualified, List.filterMap_nil, List.append_nil]

namespace LastGreatest

theorem mem (won : LastGreatest wanted candidates winner version) : winner ∈ candidates := by
  obtain ⟨before, after, rfl, -⟩ := won.last
  exact List.mem_append_right before List.mem_cons_self

/-- The winner stays ahead of a later candidate that is smaller or does not qualify. -/
theorem keep (won : LastGreatest wanted candidates winner version)
    (smaller : ∀ other, Qualifies wanted candidate other → other.rank < version.rank) :
    LastGreatest wanted (candidates ++ [candidate]) winner version where
  qualifies := won.qualifies
  greatest := by
    rw [List.forall_mem_append, List.forall_mem_singleton]
    exact ⟨won.greatest, fun other qualifies => (smaller other qualifies).le⟩
  last := by
    obtain ⟨before, after, rfl, behind⟩ := won.last
    refine ⟨before, after ++ [candidate], by simp, ?_⟩
    rw [List.forall_mem_append, List.forall_mem_singleton]
    exact ⟨behind, fun qualifies => (smaller version qualifies).false⟩

/-- A later candidate that is as great as any before it takes the lead. -/
theorem takeLead (qualifies : Qualifies wanted candidate version)
    (bounded : ∀ listed ∈ candidates, ∀ other, Qualifies wanted listed other →
      other.rank ≤ version.rank) :
    LastGreatest wanted (candidates ++ [candidate]) candidate version where
  qualifies := qualifies
  greatest := by
    rw [List.forall_mem_append, List.forall_mem_singleton]
    refine ⟨bounded, fun other qualifiesToo => ?_⟩
    exact le_of_eq (congrArg Triple.rank (qualifiesToo.unique qualifies))
  last := ⟨candidates, [], rfl, by simp⟩

/-- Two winners denote the same version, and neither can stand behind the other. -/
theorem unique {rival : String} (won : LastGreatest wanted candidates winner version)
    (rivalWon : LastGreatest wanted candidates rival other) : winner = rival ∧ version = other := by
  have same : version = other := by
    apply Triple.rank_injective
    exact le_antisymm (rivalWon.greatest winner won.mem version won.qualifies)
      (won.greatest rival rivalWon.mem other rivalWon.qualifies)
  subst same
  refine ⟨?_, rfl⟩
  obtain ⟨before, after, listed, behind⟩ := won.last
  obtain ⟨rivalBefore, rivalAfter, rivalListed, rivalBehind⟩ := rivalWon.last
  rcases List.append_eq_append_iff.mp (listed.symm.trans rivalListed) with
    ⟨between, -, split⟩ | ⟨between, -, split⟩
  · cases between with
    | nil => exact (List.cons.inj split).1
    | cons first between =>
      have rivalIsBehind : rival ∈ after := by simp [(List.cons.inj split).2]
      exact absurd rivalWon.qualifies (behind rival rivalIsBehind)
  · cases between with
    | nil => exact (List.cons.inj split).1.symm
    | cons first between =>
      have winnerIsBehind : winner ∈ rivalAfter := by simp [(List.cons.inj split).2]
      exact absurd won.qualifies (rivalBehind winner winnerIsBehind)

end LastGreatest

theorem Choice.unique {first second : Option (String × Triple)}
    (choice : Choice wanted candidates first) (rival : Choice wanted candidates second) :
    first = second := by
  cases choice with
  | nobody disqualified =>
    cases rival with
    | nobody => rfl
    | winner won => exact absurd won.qualifies (disqualified _ won.mem _)
  | winner won =>
    cases rival with
    | nobody disqualified => exact absurd won.qualifies (disqualified _ won.mem _)
    | winner rivalWon =>
      obtain ⟨rfl, rfl⟩ := won.unique rivalWon
      rfl

/-- One more candidate that qualifies is compared with the choice so far. -/
theorem Choice.better {sofar : Option (String × Triple)} (choice : Choice wanted candidates sofar)
    (qualifies : Qualifies wanted candidate version) :
    Choice wanted (candidates ++ [candidate]) (better sofar (candidate, version)) := by
  cases choice with
  | nobody disqualified =>
    refine .winner (.takeLead qualifies ?_)
    exact fun listed member other qualifiesToo => absurd qualifiesToo (disqualified listed member other)
  | @winner winner leading won =>
    rw [Version.better]
    split
    · rename_i reached
      refine .winner (.takeLead qualifies fun listed member other qualifiesToo => ?_)
      exact (won.greatest listed member other qualifiesToo).trans
        ((Triple.rank_le_rank_iff leading version).mpr reached)
    · rename_i ahead
      refine .winner (won.keep fun other qualifiesToo => ?_)
      obtain rfl := qualifies.unique qualifiesToo
      exact lt_of_not_ge fun reached => ahead ((Triple.rank_le_rank_iff leading version).mp reached)

/-- One more candidate that does not qualify changes nothing. -/
theorem Choice.skip {sofar : Option (String × Triple)} (choice : Choice wanted candidates sofar)
    (disqualified : ∀ version, ¬ Qualifies wanted candidate version) :
    Choice wanted (candidates ++ [candidate]) sofar := by
  cases choice with
  | nobody sofarDisqualified =>
    refine .nobody ?_
    rw [List.forall_mem_append, List.forall_mem_singleton]
    exact ⟨sofarDisqualified, disqualified⟩
  | winner won =>
    exact .winner (won.keep fun other qualifies => absurd qualifies (disqualified other))

end

section

variable (wanted : Option String) (candidates : List String)

/-- The pass makes the choice, whatever the list. -/
theorem choice_best : Choice wanted candidates (best wanted candidates) := by
  induction candidates using List.reverseRecOn with
  | nil => exact .nobody (by simp)
  | append_singleton earlier candidate choice =>
    by_cases qualified : ∃ version, Qualifies wanted candidate version
    · obtain ⟨version, qualifies⟩ := qualified
      rw [best_append_of_qualifies qualifies]
      exact choice.better qualifies
    · have disqualified := not_exists.mp qualified
      rw [best_append_of_disqualified disqualified]
      exact choice.skip disqualified

variable {wanted candidates}

theorem latest_of_nobody
    (nobody : ∀ candidate ∈ candidates, ∀ version, ¬ Qualifies wanted candidate version) :
    latest wanted candidates = "" := by
  rw [latest, (choice_best wanted candidates).unique (.nobody nobody)]

/-- Nothing is chosen only where no candidate qualifies, since no version is spelled by the empty text. -/
theorem nobody_of_latest (nothing : latest wanted candidates = "") :
    ∀ candidate ∈ candidates, ∀ version, ¬ Qualifies wanted candidate version := by
  have choice := choice_best wanted candidates
  rw [latest] at nothing
  generalize best wanted candidates = result at choice nothing
  cases choice with
  | nobody disqualified => exact disqualified
  | winner won => exact absurd nothing won.qualifies.ne_empty

theorem latest_of_lastGreatest {winner : String} {version : Triple}
    (won : LastGreatest wanted candidates winner version) : latest wanted candidates = winner := by
  rw [latest, (choice_best wanted candidates).unique (.winner won)]

/-- Where something is chosen, it is the winner. -/
theorem lastGreatest_latest (something : latest wanted candidates ≠ "") :
    ∃ version, LastGreatest wanted candidates (latest wanted candidates) version := by
  have choice := choice_best wanted candidates
  generalize best wanted candidates = result at choice
  cases choice with
  | nobody disqualified => exact absurd (latest_of_nobody disqualified) something
  | @winner winner version won =>
    rw [latest_of_lastGreatest won]
    exact ⟨version, won⟩

end

/-- The latest version of a list is the empty text exactly if no candidate qualifies. Any other text is
the latest version exactly if it is the last of the candidates that denote the greatest version among
those that qualify, in its own spelling. -/
theorem latest_selects (wanted : Option String) (candidates : List String) :
    (latest wanted candidates = "" ↔
      ∀ candidate ∈ candidates, ∀ version, ¬ Qualifies wanted candidate version) ∧
    ∀ winner, (latest wanted candidates = winner ∧ winner ≠ "") ↔
      ∃ version, LastGreatest wanted candidates winner version := by
  refine ⟨⟨nobody_of_latest, latest_of_nobody⟩, fun winner => ⟨?_, ?_⟩⟩
  · rintro ⟨rfl, something⟩
    exact lastGreatest_latest something
  · rintro ⟨version, won⟩
    exact ⟨latest_of_lastGreatest won, won.qualifies.ne_empty⟩

/-- Leading zeros count for nothing, so the last spelling of the greatest version wins. -/
example : latest (some "") ["10.0.0", "9.99.99", "010.0.0", "10.0", "2.0.0"] = "010.0.0" := by
  decide +kernel

/-- The beginning is looked for in the text and not in the numbers. -/
example : latest (some "1") ["1.2.0", "01.3.0", "10.0.0-beta"] = "1.2.0" := by decide +kernel

end ComponentInstall.Version
