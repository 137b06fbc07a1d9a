import ComponentInstall.Json.Printer
import ComponentInstall.Proofs.Json.Collections

/-!
# What is written is read back

A value that is written over several lines is read back, except that the members of an object come back in
the order of their keys. Lists and objects may nest as deep as a reader goes, and texts may hold anything.
Numbers are left out: no record of this library writes one.

Every character is written so that the rule for the characters of a text gives it back. From there on the
layout only has to be followed: `Accepts` says that a reader takes a written part off the beginning of a
text, and goes from part to part as the writer did.
-/

namespace ComponentInstall.Json

open Grammar

variable {α β : Type}

namespace Reader

/-- A reader reads something at the beginning of a text, wherever the text stands. -/
def Accepts (reader : Reader α) (input : List Char) (a : α) (rest : List Char) : Prop :=
  ∀ position, reader.Reads ⟨input, position⟩ a rest

theorem Follows.accepts {reader : Reader α} {rule : Rule α} (follows : reader.Follows rule)
    {input : List Char} {a : α} {rest : List Char} (allowed : rule input a rest) :
    reader.Accepts input a rest :=
  fun position => (follows.reads_iff ⟨input, position⟩).mpr allowed

namespace Accepts

variable {input middle rest : List Char} {a : α} {b : β}

theorem pure : (Pure.pure a : Reader α).Accepts input a input :=
  fun _ => reads_pure.mpr ⟨rfl, rfl⟩

theorem bind {first : Reader α} {second : α → Reader β} (accepts : first.Accepts input a middle)
    (later : (second a).Accepts middle b rest) : (first >>= second).Accepts input b rest := by
  intro position
  obtain ⟨between, read⟩ := accepts position
  obtain ⟨reached, readSecond⟩ := later between
  exact ⟨reached, bind_eq_ok_iff.mpr ⟨a, _, read, readSecond⟩⟩

theorem map {reader : Reader α} (accepts : reader.Accepts input a rest) (change : α → β) :
    (reader >>= fun a => Pure.pure (change a)).Accepts input (change a) rest :=
  accepts.bind pure

theorem take {second : Unit → Reader β} {c : Char} (accepts : (second ()).Accepts input b rest) :
    (Reader.take >>= second).Accepts (c :: input) b rest :=
  fun position => accepts (position.after c)

theorem fuel {second : Nat → Reader β} (accepts : (second (input.length + 1)).Accepts input b rest) :
    (Reader.fuel >>= second).Accepts input b rest := accepts

theorem past_gaps {second : Option Char → Reader β} (start : List Char) (held : pastGaps input = start)
    (accepts : (second start.head?).Accepts start b rest) :
    (peekPastGaps >>= second).Accepts input b rest := by
  subst held
  exact fun position => accepts _

theorem closedBy {body : Reader α} {close : Reader Unit} (accepts : body.Accepts input a middle)
    (closes : close.Accepts middle () rest) : (Reader.closedBy body close).Accepts input a rest := by
  intro position
  obtain ⟨between, read⟩ := accepts position
  obtain ⟨reached, closed⟩ := closes between
  exact ⟨reached, closedBy_eq_ok_iff.mpr ⟨_, read, closed⟩⟩

end Accepts

end Reader

/-- The digits of a control give it back. -/
theorem unit?_of_control : ∀ code < 0x20,
    unit? '0' '0' (hexChar (code / 16)) (hexChar (code % 16)) = some code := by
  decide

/-- A character as it is written is one character of a text. -/
theorem Grammar.characters_escapedChar (c : Char) {input cs rest : List Char}
    (characters : Characters input cs rest) :
    Characters (escapedChar c ++ input) (c :: cs) rest := by
  fun_cases escapedChar c with
  | case8 =>
    rename_i control _ _ _ _ _ _ _
    have digits := unit?_of_control c.toNat control
    have whole : isUpperSurrogate c.toNat = false ∧ isLowerSurrogate c.toNat = false := by
      simp only [isUpperSurrogate, isLowerSurrogate, Bool.and_eq_false_iff, decide_eq_false_iff_not]
      omega
    have written := Characters.unit digits whole characters
    rw [Char.ofNat_toNat] at written
    rwa [if_pos control]
  | case9 =>
    rename_i notControl notQuote notEscape _ _ _ _ _
    rw [if_neg notControl]
    exact .plain ⟨notQuote, notEscape, decide_eq_false notControl⟩ characters
  | _ => exact .named rfl characters

theorem Grammar.characters_written (cs rest : List Char) :
    Characters (cs.flatMap escapedChar ++ '\x22' :: rest) cs rest := by
  induction cs with
  | nil => exact .done
  | cons c cs inductionHypothesis =>
    rw [List.flatMap_cons, List.append_assoc]
    exact characters_escapedChar c inductionHypothesis

/-- A text as it is written is its characters between quotes. -/
theorem writtenText_append (s : String) (rest : List Char) :
    writtenText s ++ rest = '\x22' :: (s.toList.flatMap escapedChar ++ '\x22' :: rest) := by
  simp [writtenText]

/-- New lines and what they are indented by are gaps. -/
theorem pastGaps_newLine (depth : Nat) (input : List Char) :
    pastGaps (newLine depth ++ input) = pastGaps input := by
  have blanks (count : Nat) : pastGaps (List.replicate count ' ' ++ input) = pastGaps input := by
    induction count with
    | zero => rfl
    | succ count inductionHypothesis => exact inductionHypothesis
  exact blanks (2 * depth)

mutual

/-- A value as it is read back: the members of every object are in the order of their keys. -/
def Value.ordered : Value → Value
  | .array elements => .array (orderedElements elements)
  | .object members => .object (orderedMembers [] members)
  | other => other

def orderedElements : List Value → List Value
  | [] => []
  | element :: rest => element.ordered :: orderedElements rest

/-- Members as they are read back behind those that have been gathered. -/
def orderedMembers (gathered : List (String × Value)) : List (String × Value) → List (String × Value)
  | [] => gathered
  | (key, value) :: rest => orderedMembers (insert key value.ordered gathered) rest

end

/-- A value without numbers in which lists and objects nest no deeper than the given depth. -/
inductive Wordy : Nat → Value → Prop
  | null {depth : Nat} : Wordy depth .null
  | boolean {depth : Nat} (b : Bool) : Wordy depth (.boolean b)
  | text {depth : Nat} (s : String) : Wordy depth (.text s)
  | array {depth : Nat} {elements : List Value} (inside : ∀ element ∈ elements, Wordy depth element) :
      Wordy (depth + 1) (.array elements)
  | object {depth : Nat} {members : List (String × Value)}
      (inside : ∀ member ∈ members, Wordy depth member.2) : Wordy (depth + 1) (.object members)

/-- What a value is written as begins neither with a gap nor with the sign that closes a list. -/
theorem first_of_written {limit : Nat} {value : Value} (wordy : Wordy limit value) (depth : Nat) :
    ∃ c tail, written depth value = c :: tail ∧ Reader.isGap c = false ∧ c ≠ ']' := by
  cases wordy with
  | null => exact ⟨_, _, rfl, rfl, by decide⟩
  | boolean b => cases b <;> exact ⟨_, _, rfl, rfl, by decide⟩
  | text s => exact ⟨_, _, rfl, rfl, by decide⟩
  | @array _ elements => cases elements <;> exact ⟨_, _, rfl, rfl, by decide⟩
  | @object _ members => cases members <;> exact ⟨_, _, rfl, rfl, by decide⟩

theorem pastGaps_written {limit : Nat} {value : Value} (wordy : Wordy limit value) (depth : Nat)
    (rest : List Char) : pastGaps (written depth value ++ rest) = written depth value ++ rest := by
  obtain ⟨c, tail, begins, solid, -⟩ := first_of_written wordy depth
  rw [begins, List.cons_append, pastGaps, List.dropWhile_cons_of_neg (by simp [solid])]

theorem length_lt_writtenElements (depth : Nat) (elements : List Value) :
    elements.length < (writtenElements depth elements).length := by
  induction elements with
  | nil => simp [writtenElements]
  | cons element elements inductionHypothesis =>
    simp only [writtenElements, List.length_cons, List.length_append]
    omega

theorem length_lt_writtenMembers (depth : Nat) (members : List (String × Value)) :
    members.length < (writtenMembers depth members).length := by
  induction members with
  | nil => simp [writtenMembers]
  | cons member members inductionHypothesis =>
    simp only [writtenMembers, List.length_cons, List.length_append]
    omega

namespace Reader

/-- A reader reads a value back wherever it is written behind gaps. -/
def ReadsBack (reader : Reader Value) (depth : Nat) (value : Value) : Prop :=
  ∀ {input rest}, pastGaps input = written depth value ++ rest →
    reader.Accepts input value.ordered rest

section

variable {element : Reader Value} {limit depth : Nat} {rest : List Char}

/-- Where the list is closed, no element is read. -/
theorem accepts_noElement {fuel : Nat} {first : Bool} {input : List Char}
    (closed : pastGaps input = ']' :: rest) :
    (elementsFrom element (fuel + 1) first).Accepts input [] (']' :: rest) :=
  .bind ((follows_moreElements first).accepts (a := false) ⟨closed, rest, rfl⟩) .pure

/-- An element is read back where one begins, and then those behind it. -/
theorem accepts_oneElement {value : Value} {elements : List Value} (wordy : Wordy limit value)
    (back : element.ReadsBack (depth + 1) value) {fuel : Nat}
    (later : (elementsFrom element fuel false).Accepts (writtenElements depth elements ++ rest)
      (orderedElements elements) (']' :: rest)) {first : Bool} {input : List Char}
    (separated : Separated first input
      (written (depth + 1) value ++ (writtenElements depth elements ++ rest))) :
    (elementsFrom element (fuel + 1) first).Accepts input (orderedElements (value :: elements))
      (']' :: rest) := by
  obtain ⟨c, tail, begins, -, notClosed⟩ := first_of_written wordy (depth + 1)
  have more : (moreElements first).Accepts input true
      (written (depth + 1) value ++ (writtenElements depth elements ++ rest)) := by
    apply (follows_moreElements first).accepts
    rw [begins] at separated ⊢
    exact ⟨separated, c, _, rfl, notClosed⟩
  exact more.bind ((back (pastGaps_written wordy (depth + 1) _)).bind (later.map _))

/-- The elements behind the first one are read back up to the end of their list. -/
theorem accepts_writtenElements {elements : List Value}
    (inside : ∀ value ∈ elements, Wordy limit value)
    (back : ∀ value ∈ elements, element.ReadsBack (depth + 1) value) {fuel : Nat}
    (enough : elements.length < fuel) :
    (elementsFrom element fuel false).Accepts (writtenElements depth elements ++ rest)
      (orderedElements elements) (']' :: rest) := by
  obtain ⟨fuel, rfl⟩ := Nat.exists_eq_succ_of_ne_zero (Nat.ne_zero_of_lt enough)
  induction elements generalizing fuel with
  | nil =>
    apply accepts_noElement
    rw [writtenElements, List.append_assoc, pastGaps_newLine]
    rfl
  | cons value elements inductionHypothesis =>
    obtain ⟨wordy, insideLater⟩ := List.forall_mem_cons.mp inside
    obtain ⟨backFirst, backLater⟩ := List.forall_mem_cons.mp back
    have enoughLater := Nat.lt_of_succ_lt_succ enough
    obtain ⟨fuel, rfl⟩ := Nat.exists_eq_succ_of_ne_zero (Nat.ne_zero_of_lt enoughLater)
    have later := inductionHypothesis insideLater backLater fuel enoughLater
    refine accepts_oneElement wordy backFirst later ⟨newLine (depth + 1) ++
      (written (depth + 1) value ++ (writtenElements depth elements ++ rest)), ?_, ?_⟩
    · rw [writtenElements]
      simp only [List.append_assoc, List.cons_append]
      rfl
    · rw [pastGaps_newLine, pastGaps_written wordy]

/-- A list is read back if its elements are. -/
theorem accepts_writtenArray {elements : List Value} (inside : ∀ value ∈ elements, Wordy limit value)
    (back : ∀ value ∈ elements, element.ReadsBack (depth + 1) value) :
    (arrayOf element).Accepts (written depth (.array elements) ++ rest)
      (.array (orderedElements elements)) rest := by
  have ends : endOfList.Accepts (']' :: rest) () rest := follows_endOfList.accepts rfl
  cases elements with
  | nil => exact .take ((Accepts.closedBy (.fuel (accepts_noElement rfl)) ends).map _)
  | cons value elements =>
    obtain ⟨wordy, insideLater⟩ := List.forall_mem_cons.mp inside
    obtain ⟨backFirst, backLater⟩ := List.forall_mem_cons.mp back
    rw [written]
    simp only [List.append_assoc, List.cons_append]
    refine .take ((Accepts.closedBy (.fuel ?_) ends).map _)
    refine accepts_oneElement wordy backFirst (accepts_writtenElements insideLater backLater ?_) ?_
    · have enough := length_lt_writtenElements depth elements
      simp only [List.length_append]
      omega
    · rw [Separated, pastGaps_newLine, pastGaps_written wordy]

/-- Where the object is closed, no member is read. -/
theorem accepts_noMember {fuel : Nat} {first : Bool} {input : List Char}
    {gathered : List (String × Value)} (closed : pastGaps input = '\x7d' :: rest) :
    (membersFrom (memberOf element) (fuel + 1) first gathered).Accepts input gathered
      ('\x7d' :: rest) :=
  .bind ((follows_moreMembers first).accepts (a := false) ⟨closed, rest, rfl⟩) .pure

/-- A member is read back where its key begins, and then those behind it. -/
theorem accepts_oneMember {key : String} {value : Value} {members gathered : List (String × Value)}
    (wordy : Wordy limit value) (back : element.ReadsBack (depth + 1) value) {fuel : Nat}
    (later : (membersFrom (memberOf element) fuel false (insert key value.ordered gathered)).Accepts
      (writtenMembers depth members ++ rest)
      (orderedMembers (insert key value.ordered gathered) members) ('\x7d' :: rest))
    {first : Bool} {input : List Char}
    (separated : Separated first input (writtenText key ++ ':' :: ' ' ::
      (written (depth + 1) value ++ (writtenMembers depth members ++ rest)))) :
    (membersFrom (memberOf element) (fuel + 1) first gathered).Accepts input
      (orderedMembers gathered ((key, value) :: members)) ('\x7d' :: rest) := by
  have held : pastGaps (' ' :: (written (depth + 1) value ++ (writtenMembers depth members ++ rest))) =
      written (depth + 1) value ++ (writtenMembers depth members ++ rest) :=
    pastGaps_written wordy (depth + 1) _
  rw [writtenText_append] at separated
  refine Accepts.bind ((follows_moreMembers first).accepts (a := true) ⟨separated, _, rfl⟩) ?_
  refine Accepts.bind (follows_key.accepts (characters_written key.toList _)) ?_
  exact .bind (.bind (follows_colon.accepts (a := ()) rfl) ((back held).map _)) later

/-- The members behind the first one are read back up to the end of their object. -/
theorem accepts_writtenMembers {members : List (String × Value)}
    (inside : ∀ member ∈ members, Wordy limit member.2)
    (back : ∀ member ∈ members, element.ReadsBack (depth + 1) member.2) {fuel : Nat}
    (enough : members.length < fuel) (gathered : List (String × Value)) :
    (membersFrom (memberOf element) fuel false gathered).Accepts
      (writtenMembers depth members ++ rest) (orderedMembers gathered members) ('\x7d' :: rest) := by
  obtain ⟨fuel, rfl⟩ := Nat.exists_eq_succ_of_ne_zero (Nat.ne_zero_of_lt enough)
  induction members generalizing fuel gathered with
  | nil =>
    apply accepts_noMember
    rw [writtenMembers, List.append_assoc, pastGaps_newLine]
    rfl
  | cons member members inductionHypothesis =>
    obtain ⟨key, value⟩ := member
    obtain ⟨wordy, insideLater⟩ := List.forall_mem_cons.mp inside
    obtain ⟨backFirst, backLater⟩ := List.forall_mem_cons.mp back
    have enoughLater := Nat.lt_of_succ_lt_succ enough
    obtain ⟨fuel, rfl⟩ := Nat.exists_eq_succ_of_ne_zero (Nat.ne_zero_of_lt enoughLater)
    have later := inductionHypothesis insideLater backLater (insert key value.ordered gathered) fuel
      enoughLater
    refine accepts_oneMember wordy backFirst later ⟨newLine (depth + 1) ++ (writtenText key ++
      ':' :: ' ' :: (written (depth + 1) value ++ (writtenMembers depth members ++ rest))), ?_, ?_⟩
    · rw [writtenMembers]
      simp only [List.append_assoc, List.cons_append, List.nil_append]
      rfl
    · rw [pastGaps_newLine, writtenText_append]
      rfl

/-- An object is read back if its members are. -/
theorem accepts_writtenObject {members : List (String × Value)}
    (inside : ∀ member ∈ members, Wordy limit member.2)
    (back : ∀ member ∈ members, element.ReadsBack (depth + 1) member.2) :
    (objectOf element).Accepts (written depth (.object members) ++ rest)
      (.object (orderedMembers [] members)) rest := by
  have ends : endOfObject.Accepts ('\x7d' :: rest) () rest := follows_endOfObject.accepts rfl
  cases members with
  | nil => exact .take ((Accepts.closedBy (.fuel (accepts_noMember rfl)) ends).map _)
  | cons member members =>
    obtain ⟨key, value⟩ := member
    obtain ⟨wordy, insideLater⟩ := List.forall_mem_cons.mp inside
    obtain ⟨backFirst, backLater⟩ := List.forall_mem_cons.mp back
    rw [written]
    simp only [List.append_assoc, List.cons_append, List.nil_append]
    refine .take ((Accepts.closedBy (.fuel ?_) ends).map _)
    refine accepts_oneMember wordy backFirst
      (accepts_writtenMembers insideLater backLater ?_ _) ?_
    · have enough := length_lt_writtenMembers depth members
      simp only [List.length_append, List.length_cons]
      omega
    · rw [Separated, pastGaps_newLine, writtenText_append]
      rfl

end

/-- A value is read back by a reader that goes as deep as it does, at any depth of the layout. -/
theorem readsBack_value {limit : Nat} {v : Value} (wordy : Wordy limit v) (depth : Nat) :
    (value limit).ReadsBack depth v := by
  induction wordy generalizing depth with
  | @null limit =>
    intro input rest held
    have word : (literal ['u', 'l', 'l']).Accepts _ () rest := (follows_literal _).accepts rfl
    cases limit <;> exact .past_gaps _ held (.take (word.map _))
  | @boolean limit b =>
    intro input rest held
    cases b with
    | true =>
      have word : (literal ['r', 'u', 'e']).Accepts _ () rest := (follows_literal _).accepts rfl
      cases limit <;> exact .past_gaps _ held (.take (word.map _))
    | false =>
      have word : (literal ['a', 'l', 's', 'e']).Accepts _ () rest := (follows_literal _).accepts rfl
      cases limit <;> exact .past_gaps _ held (.take (word.map _))
  | @text limit s =>
    intro input rest held
    rw [written, writtenText_append] at held
    have characters : textBody.Accepts _ s _ :=
      follows_textBody.accepts (characters_written s.toList rest)
    cases limit <;> exact .past_gaps _ held (.take (characters.map _))
  | @array limit elements inside inductionHypothesis =>
    intro input rest held
    have list : (arrayOf (value limit)).Accepts _ _ rest :=
      accepts_writtenArray inside fun element member => inductionHypothesis element member (depth + 1)
    refine .past_gaps _ held ?_
    cases elements <;> exact list
  | @object limit members inside inductionHypothesis =>
    intro input rest held
    have object : (objectOf (value limit)).Accepts _ _ rest :=
      accepts_writtenObject inside fun member inside => inductionHypothesis member inside (depth + 1)
    refine .past_gaps _ held ?_
    cases members <;> exact object

end Reader

/-- An object is written between its signs. -/
theorem written_object (depth : Nat) (members : List (String × Value)) :
    ∃ inside, written depth (.object members) = '\x7b' :: (inside ++ ['\x7d']) := by
  have ends (members : List (String × Value)) :
      ∃ inside, writtenMembers depth members = inside ++ ['\x7d'] := by
    induction members with
    | nil => exact ⟨newLine depth, rfl⟩
    | cons member members inductionHypothesis =>
      obtain ⟨inside, same⟩ := inductionHypothesis
      rw [writtenMembers, same, ← List.append_assoc, ← List.cons_append]
      exact ⟨_, rfl⟩
  cases members with
  | nil => exact ⟨[], rfl⟩
  | cons member members =>
    obtain ⟨inside, same⟩ := ends members
    rw [written, same, ← List.append_assoc]
    exact ⟨_, rfl⟩

/-- A value without numbers is read back, with the members of its objects in the order of their keys. -/
theorem Value.ofText_pretty {value : Value} (wordy : Wordy Reader.depthLimit value) :
    Value.ofText value.pretty = .ok value.ordered := by
  have held : pastGaps value.pretty.toList = written 0 value ++ [] := by
    rw [Value.pretty, String.toList_ofList, ← pastGaps_written wordy, List.append_nil]
  obtain ⟨position, read⟩ := Reader.readsBack_value wordy 0 held ⟨1, 0⟩
  exact Reader.document_eq_ok_iff.mpr ⟨_, read, rfl⟩

end ComponentInstall.Json
