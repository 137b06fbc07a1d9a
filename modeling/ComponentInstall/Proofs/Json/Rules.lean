import ComponentInstall.Proofs.Json.Success

/-!
# Rules of the language

A rule relates three things: what is left of a text before some part of it, what the part says, and what
is left behind it. A reader follows a rule if it reads exactly what the rule allows, wherever it stands;
the position matters for faults only. So a rule says of a reader what is accepted, without saying how.

Readers that are put together follow the rules that are put together alike. The smallest readers, which
look for a single sign behind gaps, begin here.
-/

namespace ComponentInstall.Json

variable {α β : Type}

/-- What is left of a text before a part of it, what the part says, and what is left behind. -/
abbrev Rule (α : Type) : Type := List Char → α → List Char → Prop

/-- Something is read whenever the rule allows it. -/
def Rule.Consumes (rule : Rule α) : Prop :=
  ∀ {input a rest}, rule input a rest → rest.length < input.length

/-- What is left behind the gaps at the beginning of a text. -/
def pastGaps (input : List Char) : List Char := input.dropWhile Reader.isGap

theorem length_pastGaps_le (input : List Char) : (pastGaps input).length ≤ input.length :=
  (List.dropWhile_suffix _).length_le

/-- A sign behind gaps. -/
def Rule.sign (sign : Char) : Rule Unit := fun input _ rest => pastGaps input = sign :: rest

theorem length_lt_of_pastGaps {input rest : List Char} {c : Char}
    (next : pastGaps input = c :: rest) : rest.length < input.length := by
  have shorter := length_pastGaps_le input
  rw [next] at shorter
  exact shorter

namespace Reader

/-- A reader succeeds at a cursor with a result, and leaves some of the text. -/
def Reads (reader : Reader α) (cursor : Cursor) (a : α) (rest : List Char) : Prop :=
  ∃ position, reader cursor = (.ok a, ⟨rest, position⟩)

section

variable {cursor : Cursor} {a : α} {rest : List Char}

@[simp] theorem reads_pure {b : α} :
    (pure b : Reader α).Reads cursor a rest ↔ b = a ∧ cursor.rest = rest := by
  obtain ⟨input, position⟩ := cursor
  simp [Reads]

@[simp] theorem not_reads_fail {cause : Cause} : ¬ (fail cause : Reader α).Reads cursor a rest := by
  simp [Reads]

@[simp] theorem not_reads_failNext {cause : Cause} :
    ¬ (failNext cause : Reader α).Reads cursor a rest := by
  simp [Reads]

@[simp] theorem not_reads_failHere {cause : Cause} :
    ¬ (failHere cause : Reader α).Reads cursor a rest := by
  simp [Reads]

@[simp] theorem not_reads_mismatch {expected : String} :
    ¬ (mismatch expected : Reader α).Reads cursor a rest := by
  rintro ⟨position, read⟩
  have never : (mismatch expected : Reader α).Yields fun _ => False := Yields.mismatch
  exact never.of_read read

@[simp] theorem reads_placed {reader : Reader α} :
    (placed reader).Reads cursor a rest ↔ reader.Reads cursor a rest := by
  simp [Reads]

theorem reads_map {b : β} {reader : Reader α} {change : α → β} :
    (reader >>= fun a => pure (change a)).Reads cursor b rest ↔
      ∃ a, reader.Reads cursor a rest ∧ change a = b := by
  constructor
  · rintro ⟨position, read⟩
    obtain ⟨a, middle, readFirst, same⟩ := bind_eq_ok_iff.mp read
    obtain ⟨changed, rfl⟩ := pure_eq_ok_iff.mp same
    exact ⟨a, ⟨position, readFirst⟩, changed⟩
  · rintro ⟨a, ⟨position, read⟩, same⟩
    exact ⟨position, bind_eq_ok_iff.mpr ⟨a, _, read, pure_eq_ok_iff.mpr ⟨same, rfl⟩⟩⟩

theorem reads_peek {second : Option Char → Reader α} :
    (peek >>= second).Reads cursor a rest ↔ (second cursor.rest.head?).Reads cursor a rest :=
  Iff.rfl

theorem reads_fuel {second : Nat → Reader α} :
    (fuel >>= second).Reads cursor a rest ↔ (second (cursor.rest.length + 1)).Reads cursor a rest :=
  Iff.rfl

theorem reads_peekPastGaps {second : Option Char → Reader α} :
    (peekPastGaps >>= second).Reads cursor a rest ↔
      (second (pastGaps cursor.rest).head?).Reads
        ⟨pastGaps cursor.rest, cursor.position.afterAll (cursor.rest.takeWhile isGap)⟩ a rest :=
  Iff.rfl

theorem reads_take {second : Unit → Reader α} {c : Char} {tail : List Char} {position : Position} :
    (take >>= second).Reads ⟨c :: tail, position⟩ a rest ↔
      (second ()).Reads ⟨tail, position.after c⟩ a rest := Iff.rfl

@[simp] theorem reads_take_alone {c : Char} {tail : List Char} {position : Position} {done : Unit} :
    take.Reads ⟨c :: tail, position⟩ done rest ↔ tail = rest := by
  simp [Reads, take]

end

/-- A reader reads exactly what a rule allows, wherever it stands. -/
structure Follows (reader : Reader α) (rule : Rule α) : Prop where
  reads_iff : ∀ (cursor : Cursor) {a : α} {rest : List Char},
    reader.Reads cursor a rest ↔ rule cursor.rest a rest

namespace Follows

variable {rule : Rule α}

theorem congr {reader : Reader α} {other : Rule α} (follows : reader.Follows rule)
    (same : ∀ input a rest, rule input a rest ↔ other input a rest) : reader.Follows other :=
  ⟨fun cursor => (follows.reads_iff cursor).trans (same _ _ _)⟩

/-- What a reader follows allows one reading only. -/
theorem unique {reader : Reader α} (follows : reader.Follows rule) {input rest after : List Char}
    {a b : α} (first : rule input a rest) (second : rule input b after) : a = b ∧ rest = after := by
  obtain ⟨position, read⟩ := (follows.reads_iff ⟨input, ⟨1, 0⟩⟩).mpr first
  obtain ⟨reached, readAgain⟩ := (follows.reads_iff ⟨input, ⟨1, 0⟩⟩).mpr second
  cases read.symm.trans readAgain
  exact ⟨rfl, rfl⟩

theorem placed {reader : Reader α} (follows : reader.Follows rule) :
    (Reader.placed reader).Follows rule :=
  ⟨fun cursor => reads_placed.trans (follows.reads_iff cursor)⟩

/-- What is read behind a part depends on what the part says and on what it leaves. -/
theorem reads_bind {first : Reader α} {second : α → Reader β} {cursor : Cursor} {b : β}
    {rest : List Char} (follows : first.Follows rule) (later : α → List Char → Prop)
    (goes : ∀ a middle position, rule cursor.rest a middle →
      ((second a).Reads ⟨middle, position⟩ b rest ↔ later a middle)) :
    (first >>= second).Reads cursor b rest ↔ ∃ a middle, rule cursor.rest a middle ∧ later a middle := by
  constructor
  · rintro ⟨position, read⟩
    obtain ⟨a, ⟨middle, between⟩, readFirst, readSecond⟩ := bind_eq_ok_iff.mp read
    have allowed := (follows.reads_iff cursor).mp ⟨between, readFirst⟩
    exact ⟨a, middle, allowed, (goes a middle between allowed).mp ⟨position, readSecond⟩⟩
  · rintro ⟨a, middle, allowed, allowedLater⟩
    obtain ⟨between, readFirst⟩ := (follows.reads_iff cursor).mpr allowed
    obtain ⟨position, readSecond⟩ := (goes a middle between allowed).mpr allowedLater
    exact ⟨position, bind_eq_ok_iff.mpr ⟨a, _, readFirst, readSecond⟩⟩

/-- One part is read behind another. -/
theorem bind {first : Reader α} {second : α → Reader β} {later : α → Rule β}
    (follows : first.Follows rule) (goes : ∀ a, (second a).Follows (later a)) :
    (first >>= second).Follows fun input b rest =>
      ∃ a middle, rule input a middle ∧ later a middle b rest :=
  ⟨fun _ => follows.reads_bind _ fun a _ _ _ => (goes a).reads_iff _⟩

/-- A result that is changed after it has been read. -/
theorem map {reader : Reader α} (follows : reader.Follows rule) (change : α → β) :
    (reader >>= fun a => Pure.pure (change a)).Follows fun input b rest =>
      ∃ a, rule input a rest ∧ change a = b :=
  ⟨fun cursor => reads_map.trans (exists_congr fun _ => and_congr_left' (follows.reads_iff cursor))⟩

theorem closedBy {body : Reader α} {close : Reader Unit} {ending : Rule Unit}
    (follows : body.Follows rule) (closes : close.Follows ending) :
    (Reader.closedBy body close).Follows fun input a rest =>
      ∃ middle, rule input a middle ∧ ending middle () rest := by
  constructor
  intro cursor a rest
  constructor
  · rintro ⟨position, read⟩
    obtain ⟨⟨middle, between⟩, readBody, closed⟩ := closedBy_eq_ok_iff.mp read
    exact ⟨middle, (follows.reads_iff cursor).mp ⟨between, readBody⟩,
      (closes.reads_iff ⟨middle, between⟩).mp ⟨position, closed⟩⟩
  · rintro ⟨middle, allowed, allowedEnd⟩
    obtain ⟨between, readBody⟩ := (follows.reads_iff cursor).mpr allowed
    obtain ⟨position, closed⟩ := (closes.reads_iff ⟨middle, between⟩).mpr allowedEnd
    exact ⟨position, closedBy_eq_ok_iff.mpr ⟨_, readBody, closed⟩⟩

/-- A reader that looks at the next character follows a rule if it does for each of them. -/
theorem of_peek {second : Option Char → Reader α}
    (nothing : ∀ position a rest, (second none).Reads ⟨[], position⟩ a rest ↔ rule [] a rest)
    (something : ∀ c tail position a rest,
      (second (some c)).Reads ⟨c :: tail, position⟩ a rest ↔ rule (c :: tail) a rest) :
    (peek >>= second).Follows rule := by
  constructor
  intro ⟨input, position⟩ a rest
  cases input with
  | nil => exact nothing position a rest
  | cons c tail => exact something c tail position a rest

/-- Gaps may stand before a part. -/
theorem past_gaps (rule : Rule α) {second : Option Char → Reader α}
    (follows : (peek >>= second).Follows rule) :
    (peekPastGaps >>= second).Follows fun input a rest => rule (pastGaps input) a rest :=
  ⟨fun _ => reads_peekPastGaps.trans (reads_peek.symm.trans (follows.reads_iff _))⟩

end Follows

theorem follows_colon : colon.Follows (.sign ':') := by
  apply Follows.past_gaps fun input _ rest => input = ':' :: rest
  apply Follows.of_peek
  · simp
  · intro c tail position a rest
    by_cases colon : c = ':'
    · subst colon
      simp
    · simp [colon]

theorem follows_endOfObject : endOfObject.Follows (.sign '\x7d') := by
  apply Follows.past_gaps fun input _ rest => input = '\x7d' :: rest
  apply Follows.of_peek
  · simp
  · intro c tail position a rest
    by_cases brace : c = '\x7d'
    · subst brace
      simp
    by_cases comma : c = ','
    · subst comma
      simp
    · simp [brace]

/-- A comma at the end of a list is a fault, whatever follows it. -/
theorem follows_endOfList : endOfList.Follows (.sign ']') := by
  apply Follows.past_gaps fun input _ rest => input = ']' :: rest
  apply Follows.of_peek
  · simp
  · intro c tail position a rest
    by_cases bracket : c = ']'
    · subst bracket
      simp
    by_cases comma : c = ','
    · subst comma
      simp only [reads_take, reads_peekPastGaps]
      split <;> simp
    · simp [bracket]

theorem follows_literal (cs : List Char) :
    (literal cs).Follows fun input _ rest => input = cs ++ rest := by
  induction cs with
  | nil => exact ⟨fun cursor => by simp [literal]⟩
  | cons c cs inductionHypothesis =>
    apply Follows.of_peek
    · simp
    · intro next tail position a rest
      by_cases same : next = c
      · subst same
        simp [reads_take, inductionHypothesis.reads_iff]
      · simp [same]

end Reader

end ComponentInstall.Json
