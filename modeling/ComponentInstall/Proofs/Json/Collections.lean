import ComponentInstall.Proofs.Json.Skipping

/-!
# Lists and objects follow their rules

A list is read element by element and an object member by member, until the closing sign comes next. What
an element or a member is does not matter, as long as it takes some of the text: then the fuel, which
bounds the characters that are left, lasts to the end. An element must also begin with another sign than
the one that closes the list, which tells it apart from the end.
-/

namespace ComponentInstall.Json

open Grammar

variable {α σ : Type}

/-- What the rule allows begins with another sign than the one that closes a list. -/
def Rule.Opens (rule : Rule α) : Prop :=
  ∀ {input a rest}, rule input a rest → ∃ c tail, pastGaps input = c :: tail ∧ c ≠ ']'

namespace Grammar

theorem length_le_of_separated {first : Bool} {input start : List Char}
    (separated : Separated first input start) : start.length ≤ input.length := by
  cases first with
  | true =>
    obtain rfl : pastGaps input = start := separated
    exact length_pastGaps_le input
  | false =>
    obtain ⟨behind, comma, rfl⟩ := separated
    have fewer := length_lt_of_pastGaps comma
    have shorter := length_pastGaps_le behind
    omega

/-- No gaps are left where an element or a member begins. -/
theorem pastGaps_of_separated {first : Bool} {input start : List Char}
    (separated : Separated first input start) : pastGaps start = start := by
  cases first with
  | true =>
    obtain rfl : pastGaps input = start := separated
    exact pastGaps_pastGaps input
  | false =>
    obtain ⟨behind, -, rfl⟩ := separated
    exact pastGaps_pastGaps behind

theorem length_le_of_elements {rule : Rule α} (consumes : rule.Consumes) {first : Bool}
    {input rest : List Char} {as : List α} (elements : Elements rule first input as rest) :
    rest.length ≤ input.length := by
  induction elements with
  | nothing closed => exact length_lt_of_pastGaps closed
  | more separated head tail inductionHypothesis =>
    have fewer := length_le_of_separated separated
    have shorter := consumes head
    omega

theorem consumes_quoted : Quoted.Consumes := by
  rintro input s rest ⟨behind, quote, characters⟩
  have fewer := length_lt_of_pastGaps quote
  have shorter := length_lt_of_characters characters
  omega

theorem opens_quoted : Quoted.Opens := by
  rintro input s rest ⟨behind, quote, -⟩
  exact ⟨_, _, quote, by decide⟩

theorem consumes_listed {rule : Rule α} (consumes : rule.Consumes) : (Listed rule).Consumes := by
  rintro input as rest ⟨inside, middle, bracket, elements, closed⟩
  have fewer := length_lt_of_pastGaps bracket
  have shorter := length_le_of_elements consumes elements
  have fewerBehind := length_lt_of_pastGaps closed
  omega

theorem opens_listed (rule : Rule α) : (Listed rule).Opens := by
  rintro input as rest ⟨inside, middle, bracket, -⟩
  exact ⟨_, _, bracket, by decide⟩

end Grammar

namespace Reader

/-- Either the closing sign comes next, or an element does. -/
theorem follows_moreElements (first : Bool) :
    (moreElements first).Follows fun input more rest =>
      if more then Separated first input rest ∧ ∃ c tail, rest = c :: tail ∧ c ≠ ']'
      else pastGaps input = rest ∧ ∃ tail, rest = ']' :: tail := by
  constructor
  intro cursor more rest
  rw [moreElements, reads_peekPastGaps]
  cases held : pastGaps cursor.rest with
  | nil => cases first <;> simp [Separated, held] <;> grind
  | cons c tail =>
    rw [List.head?_cons]
    by_cases bracket : c = ']'
    · subst bracket
      cases first <;> simp [Separated, held] <;> grind
    cases first with
    | true => simp [Separated, held]; grind
    | false =>
      by_cases comma : c = ','
      · subst comma
        simp only [Bool.false_eq_true, reduceIte, reads_take, reads_peekPastGaps, Separated, held]
        cases heldBehind : pastGaps tail with
        | nil => simp [heldBehind]; grind
        | cons d after =>
          by_cases bracketBehind : d = ']' <;> simp [bracketBehind, heldBehind] <;> grind
      · simp [Separated, held, comma]; grind

theorem follows_moreMembers (first : Bool) :
    (moreMembers first).Follows fun input more rest =>
      if more then Separated first input rest ∧ ∃ tail, rest = '\x22' :: tail
      else pastGaps input = rest ∧ ∃ tail, rest = '\x7d' :: tail := by
  constructor
  intro cursor more rest
  rw [moreMembers, reads_peekPastGaps]
  cases held : pastGaps cursor.rest with
  | nil => cases first <;> simp [Separated, held] <;> grind
  | cons c tail =>
    rw [List.head?_cons]
    by_cases brace : c = '\x7d'
    · subst brace
      cases first <;> simp [Separated, held] <;> grind
    cases first with
    | true => by_cases quote : c = '\x22' <;> simp [Separated, held, quote] <;> grind
    | false =>
      by_cases comma : c = ','
      · subst comma
        simp only [Bool.false_eq_true, reduceIte, reads_take, reads_peekPastGaps, Separated, held]
        cases heldBehind : pastGaps tail with
        | nil => simp [heldBehind]; grind
        | cons d after =>
          by_cases quote : d = '\x22'
          · simp [quote, heldBehind]; grind
          by_cases braceBehind : d = '\x7d' <;> simp [braceBehind, heldBehind] <;> grind
      · simp [Separated, held, comma]; grind

/-- Elements are read up to the closing sign. -/
theorem reads_elementsFrom {element : Reader α} {rule : Rule α} (follows : element.Follows rule)
    (consumes : rule.Consumes) (opens : rule.Opens) {fuel : Nat} {first : Bool} {cursor : Cursor}
    {as : List α} {rest : List Char} (enough : cursor.rest.length < fuel) :
    (elementsFrom element fuel first).Reads cursor as rest ↔
      Elements rule first cursor.rest as rest := by
  induction fuel generalizing first cursor as with
  | zero => omega
  | succ fuel inductionHypothesis =>
    rw [elementsFrom, (follows_moreElements first).reads_bind fun more start =>
      if more then ∃ a middle, rule start a middle ∧
        ∃ later, Elements rule false middle later rest ∧ a :: later = as
      else [] = as ∧ start = rest]
    · constructor
      · rintro ⟨more, start, allowed, goes⟩
        cases more with
        | false =>
          obtain ⟨closed, tail, rfl⟩ := allowed
          obtain ⟨rfl, rfl⟩ := goes
          exact .nothing closed
        | true =>
          obtain ⟨a, middle, head, later, tail, rfl⟩ := goes
          exact .more allowed.1 head tail
      · intro elements
        cases elements with
        | nothing closed => exact ⟨false, _, ⟨closed, _, rfl⟩, rfl, rfl⟩
        | more separated head tail =>
          obtain ⟨c, behind, begins, notClosed⟩ := opens head
          rw [pastGaps_of_separated separated] at begins
          exact ⟨true, _, ⟨separated, c, behind, begins, notClosed⟩, _, _, head, _, tail, rfl⟩
    · intro more start position allowed
      cases more with
      | false => simp
      | true =>
        have fewer := length_le_of_separated allowed.1
        simp only [if_true]
        apply follows.reads_bind fun a middle =>
          ∃ later, Elements rule false middle later rest ∧ a :: later = as
        intro a middle between head
        have shorter := consumes head
        rw [reads_map]
        exact exists_congr fun later => and_congr_left'
          (inductionHypothesis (by dsimp only at shorter ⊢; omega))

theorem follows_elements {element : Reader α} {rule : Rule α} (follows : element.Follows rule)
    (consumes : rule.Consumes) (opens : rule.Opens) :
    (elements element).Follows (Elements rule true) :=
  ⟨fun cursor => reads_fuel.trans
    (reads_elementsFrom follows consumes opens (Nat.lt_succ_self cursor.rest.length))⟩

theorem follows_key : key.Follows fun input name rest => Characters input.tail name.toList rest := by
  constructor
  intro ⟨input, position⟩ name rest
  cases input with
  | nil => exact follows_textBody.reads_iff ⟨[], position⟩
  | cons c tail => exact follows_textBody.reads_iff ⟨tail, position.after c⟩

/-- Members are read up to the closing sign. -/
theorem reads_membersFrom {member : String → σ → Reader σ} {rule : String → σ → Rule σ}
    (follows : ∀ key draft, (member key draft).Follows (rule key draft))
    (shrinks : ∀ {key draft input next rest}, rule key draft input next rest →
      rest.length ≤ input.length)
    {fuel : Nat} {first : Bool} {draft last : σ} {cursor : Cursor} {rest : List Char}
    (enough : cursor.rest.length < fuel) :
    (membersFrom member fuel first draft).Reads cursor last rest ↔
      Members rule first draft cursor.rest last rest := by
  induction fuel generalizing first cursor draft with
  | zero => omega
  | succ fuel inductionHypothesis =>
    rw [membersFrom, (follows_moreMembers first).reads_bind fun more start =>
      if more then ∃ name behind, Characters start.tail name.toList behind ∧
        ∃ next middle, rule name draft behind next middle ∧ Members rule false next middle last rest
      else draft = last ∧ start = rest]
    · constructor
      · rintro ⟨more, start, allowed, goes⟩
        cases more with
        | false =>
          obtain ⟨closed, tail, rfl⟩ := allowed
          obtain ⟨rfl, rfl⟩ := goes
          exact .nothing closed
        | true =>
          obtain ⟨separated, text, rfl⟩ := allowed
          obtain ⟨name, behind, characters, next, middle, value, later⟩ := goes
          exact .more separated characters value later
      · intro members
        cases members with
        | nothing closed => exact ⟨false, _, ⟨closed, _, rfl⟩, rfl, rfl⟩
        | more separated characters value later =>
          exact ⟨true, _, ⟨separated, _, rfl⟩, _, _, characters, _, _, value, later⟩
    · intro more start position allowed
      cases more with
      | false => simp
      | true =>
        obtain ⟨separated, text, rfl⟩ := allowed
        have fewer := length_le_of_separated separated
        simp only [if_true]
        apply follows_key.reads_bind fun name behind =>
          ∃ next middle, rule name draft behind next middle ∧ Members rule false next middle last rest
        intro name behind between characters
        have fewerText := length_lt_of_characters characters
        apply (follows name draft).reads_bind fun next middle =>
          Members rule false next middle last rest
        intro next middle between value
        have shorter := shrinks value
        apply inductionHypothesis
        simp only [List.length_cons, List.tail_cons] at fewer fewerText shorter ⊢
        omega

theorem follows_members {member : String → σ → Reader σ} {rule : String → σ → Rule σ}
    (follows : ∀ key draft, (member key draft).Follows (rule key draft))
    (shrinks : ∀ {key draft input next rest}, rule key draft input next rest →
      rest.length ≤ input.length) (draft : σ) :
    (members member draft).Follows (Members rule true draft) :=
  ⟨fun cursor => reads_fuel.trans
    (reads_membersFrom follows shrinks (Nat.lt_succ_self cursor.rest.length))⟩

end Reader

end ComponentInstall.Json
