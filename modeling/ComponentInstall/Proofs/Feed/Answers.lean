import ComponentInstall.Feed.Manifest
import ComponentInstall.Proofs.Json.Records

/-!
# What the feed answers

`Manifest` says which documents publish which versions, by the rules of the language alone. A manifest is
an object in which the key `versions` may stand once, with a list of texts as its value; every other key
is skipped with its value, whatever that is, and may be repeated. A manifest can also be a list with one
element at most, which then is the list of versions. The versions are published as they stand there: in
their order, each as often as it stands there, and whatever they look like. `versions_eq_ok_iff` says that
the feed takes exactly these documents for manifests.

`Answers` says what a candidate source answers that goes by the status of a reply and by the manifest in
it. Such an answer is determined but for the wording of its refusals, and the feed gives one.
-/

namespace ComponentInstall.Feed

open Json Grammar

/-- The value that publishes versions: a list of texts. -/
def Versions : Rule (List String) := Listed Quoted

/-- The members of a manifest, up to its closing sign, with what was published before them and with what
is published in the end. -/
inductive Entries : Bool → Option (List String) → Rule (Option (List String))
  | nothing {first : Bool} {published : Option (List String)} {input rest : List Char}
      (closed : pastGaps input = '\x7d' :: rest) : Entries first published input published rest
  | versions {first : Bool} {versions : List String} {last : Option (List String)}
      {input text behind value middle rest : List Char}
      (separated : Separated first input ('\x22' :: text))
      (key : Characters text "versions".toList behind) (colon : pastGaps behind = ':' :: value)
      (published : Versions value versions middle)
      (later : Entries false (some versions) middle last rest) : Entries first none input last rest
  | other {first : Bool} {name : String} {published last : Option (List String)}
      {input text behind value middle rest : List Char}
      (separated : Separated first input ('\x22' :: text)) (key : Characters text name.toList behind)
      (unknown : name ≠ "versions") (colon : pastGaps behind = ':' :: value)
      (skipped : Skipped value middle) (later : Entries false published middle last rest) :
      Entries first published input last rest

/-- A document is a manifest that publishes versions. -/
inductive Manifest (document : List Char) : List String → Prop
  | object {published : Option (List String)} {inside rest : List Char}
      (begins : pastGaps document = '\x7b' :: inside) (entries : Entries true none inside published rest)
      (ends : pastGaps rest = []) : Manifest document (published.getD [])
  | list {versions : List String} {inside behind rest : List Char}
      (begins : pastGaps document = '[' :: inside) (published : Versions inside versions behind)
      (closed : pastGaps behind = ']' :: rest) (ends : pastGaps rest = []) : Manifest document versions
  | empty {inside rest : List Char} (begins : pastGaps document = '[' :: inside)
      (closed : pastGaps inside = ']' :: rest) (ends : pastGaps rest = []) : Manifest document []

/-- What the value of a field puts into a draft. -/
def fieldRule (_ : String) (_ : ManifestDraft) : Rule ManifestDraft := fun input next rest =>
  ∃ versions, Versions input versions rest ∧ ⟨some versions⟩ = next

theorem follows_manifestForm : manifestForm.Follows fieldRule where
  follows field declared draft := by
    obtain rfl := List.mem_singleton.mp declared
    exact (Decoder.follows_list (Decoder.follows_textNamed "a string") consumes_quoted opens_quoted).map _
  consumes field _ draft := by
    rintro input next rest ⟨versions, published, -⟩
    exact consumes_listed consumes_quoted published
  opens field _ draft := by
    rintro input next rest ⟨versions, published, -⟩
    exact opens_listed Quoted published

/-- The members of the record are those of a manifest. -/
theorem entries_of_members {first : Bool} {draft last : ManifestDraft} {input behind : List Char}
    (members : Members (Member manifestForm fieldRule) first draft input last behind) :
    ∃ rest, behind = '\x7d' :: rest ∧ Entries first draft.versions input last.versions rest := by
  induction members with
  | nothing closed => exact ⟨_, rfl, .nothing closed⟩
  | @more first draft next last input text middle value behind key separated characters member later
      inductionHypothesis =>
    obtain ⟨rest, rfl, entries⟩ := inductionHypothesis
    refine ⟨rest, rfl, ?_⟩
    cases member with
    | unknown absent colon skipped =>
      refine .other separated characters ?_ colon skipped entries
      rintro rfl
      cases absent
    | known found fresh colon published =>
      obtain ⟨declared, rfl⟩ := Form.of_field? found
      obtain rfl := List.mem_singleton.mp declared
      obtain ⟨versions, published, rfl⟩ := published
      obtain ⟨found⟩ := draft
      obtain rfl : found = none := Option.not_isSome_iff_eq_none.mp (Bool.eq_false_iff.mp fresh)
      exact .versions separated characters colon published entries

theorem members_of_entries {first : Bool} {published last : Option (List String)}
    {input rest : List Char} (entries : Entries first published input last rest) :
    Members (Member manifestForm fieldRule) first ⟨published⟩ input ⟨last⟩ ('\x7d' :: rest) := by
  induction entries with
  | nothing closed => exact .nothing closed
  | versions separated key colon published later inductionHypothesis =>
    exact .more separated key (.known rfl rfl colon ⟨_, published, rfl⟩) inductionHypothesis
  | other separated key unknown colon skipped later inductionHypothesis =>
    have absent : manifestForm.field? _ = none :=
      List.find?_eq_none.mpr fun field declared => by
        obtain rfl := List.mem_singleton.mp declared
        simpa [Decoder.field] using unknown.symm
    exact .more separated key (.unknown absent colon skipped) inductionHypothesis

/-- Gaps before the list of versions do not matter. -/
theorem versions_pastGaps {input rest : List Char} {versions : List String} :
    Versions (pastGaps input) versions rest ↔ Versions input versions rest := by
  simp only [Versions, Listed, pastGaps_pastGaps]

/-- The elements of the record are at most one, which is the list of versions. -/
theorem fields_iff {input rest : List Char} {last : ManifestDraft} :
    (∃ behind, Fields fieldRule manifestForm.fields true manifestForm.blank input last behind ∧
        pastGaps behind = ']' :: rest) ↔
      (∃ versions behind, Versions input versions behind ∧ pastGaps behind = ']' :: rest ∧
        last = ⟨some versions⟩) ∨
      pastGaps input = ']' :: rest ∧ last = ⟨none⟩ := by
  constructor
  · rintro ⟨behind, fields, closed⟩
    cases fields with
    | nothing closedFirst =>
      cases closed
      exact Or.inr ⟨closedFirst, rfl⟩
    | more separated value later =>
      cases later
      obtain ⟨versions, published, rfl⟩ := value
      obtain rfl : pastGaps input = _ := separated
      exact Or.inl ⟨versions, behind, versions_pastGaps.mp published, closed, rfl⟩
  · rintro (⟨versions, behind, published, closed, rfl⟩ | ⟨closed, rfl⟩)
    · exact ⟨behind, .more rfl ⟨versions, versions_pastGaps.mpr published, rfl⟩ .all, closed⟩
    · exact ⟨']' :: rest, .nothing closed, rfl⟩

/-- The feed takes exactly the manifests for manifests, each with the versions that it publishes. -/
theorem versions_eq_ok_iff {document : String} {versions : List String} :
    manifestForm.decoder.ofText document = .ok versions ↔ Manifest document.toList versions := by
  rw [Decoder.ofText_eq_ok_iff (Form.follows_reader follows_manifestForm)]
  constructor
  · rintro ⟨rest, record, ends⟩
    cases record with
    | object begins members closed finished =>
      obtain ⟨behind, rfl, entries⟩ := entries_of_members members
      cases closed
      cases finished
      exact .object begins entries ends
    | list begins fields closed finished =>
      cases finished
      rcases fields_iff.mp ⟨_, fields, closed⟩ with
        ⟨versions, behind, published, closed, rfl⟩ | ⟨closed, rfl⟩
      · exact .list begins published closed ends
      · exact .empty begins closed ends
  · intro manifest
    cases manifest with
    | object begins entries ends =>
      exact ⟨_, .object begins (members_of_entries entries) rfl rfl, ends⟩
    | list begins published closed ends =>
      obtain ⟨behind, fields, closed⟩ := fields_iff.mpr (.inl ⟨_, _, published, closed, rfl⟩)
      exact ⟨_, .list begins fields closed rfl, ends⟩
    | empty begins closed ends =>
      obtain ⟨behind, fields, closed⟩ := fields_iff.mpr (.inr ⟨closed, rfl⟩)
      exact ⟨_, .list begins fields closed rfl, ends⟩

/-- A document publishes one list of versions at most. -/
theorem Manifest.unique {document : List Char} {left right : List String}
    (first : Manifest document left) (second : Manifest document right) : left = right := by
  rw [← String.toList_ofList (l := document)] at first second
  exact Except.ok.inj ((versions_eq_ok_iff.mpr first).symm.trans (versions_eq_ok_iff.mpr second))

/-- A reply of success. -/
def Succeeded (reply : Reply) : Prop := 200 ≤ reply.status ∧ reply.status < 300

/-- What is answered for a component whose manifest got a reply. How a refusal is worded is left open. -/
inductive Answers (reply : Reply) (name : String) : Except ListingError (List String) → Prop
  | unknown (missing : reply.status = 404) : Answers reply name (.error (.notFound name))
  | refused {text : String} (known : reply.status ≠ 404) (failed : ¬ Succeeded reply) :
      Answers reply name (.error (.invalidResponse text))
  | malformed {text : String} (succeeded : Succeeded reply)
      (nothing : ∀ versions, ¬ Manifest reply.document.toList versions) :
      Answers reply name (.error (.invalidResponse text))
  | published {versions : List String} (succeeded : Succeeded reply)
      (manifest : Manifest reply.document.toList versions) : Answers reply name (.ok versions)

/-- Answers that differ at most in how a refusal is worded. -/
inductive Similar : Except ListingError (List String) → Except ListingError (List String) → Prop
  | same {answer : Except ListingError (List String)} : Similar answer answer
  | reworded {left right : String} :
      Similar (.error (.invalidResponse left)) (.error (.invalidResponse right))

section

variable {reply : Reply} {name : String}

theorem Succeeded.known (succeeded : Succeeded reply) : reply.status ≠ 404 := by
  obtain ⟨_, below⟩ := succeeded
  omega

/-- The reply determines the answer but for its wording. -/
theorem Answers.similar {left right : Except ListingError (List String)}
    (first : Answers reply name left) (second : Answers reply name right) : Similar left right := by
  cases first with
  | unknown missing =>
    cases second with
    | unknown => exact .same
    | refused known => exact absurd missing known
    | malformed succeeded | published succeeded => exact absurd missing succeeded.known
  | refused known failed =>
    cases second with
    | unknown missing => exact absurd missing known
    | refused => exact .reworded
    | malformed succeeded | published succeeded => exact absurd succeeded failed
  | malformed succeeded nothing =>
    cases second with
    | unknown missing => exact absurd missing succeeded.known
    | refused _ failed => exact absurd succeeded failed
    | malformed => exact .reworded
    | published _ manifest => exact absurd manifest (nothing _)
  | published succeeded manifest =>
    cases second with
    | unknown missing => exact absurd missing succeeded.known
    | refused _ failed => exact absurd succeeded failed
    | malformed _ nothing => exact absurd manifest (nothing _)
    | published _ other =>
      obtain rfl := manifest.unique other
      exact .same

theorem isSuccess_iff : isSuccess reply.status = true ↔ Succeeded reply := by
  simp [isSuccess, Succeeded]

/-- The feed answers by the status of the reply and by the manifest in it. -/
theorem answers_readReply (address : Url.Address) :
    Answers reply name (readReply name address reply) := by
  rw [readReply]
  by_cases missing : reply.status = 404
  · rw [if_pos missing]
    exact .unknown missing
  rw [if_neg missing]
  by_cases succeeded : isSuccess reply.status = true
  · rw [if_pos succeeded]
    cases decoded : manifestForm.decoder.ofText reply.document with
    | ok versions =>
      simp only [manifestVersions, decoded]
      exact .published (isSuccess_iff.mp succeeded) (versions_eq_ok_iff.mp decoded)
    | error fault =>
      simp only [manifestVersions, decoded]
      refine .malformed (isSuccess_iff.mp succeeded) fun versions manifest => ?_
      cases decoded.symm.trans (versions_eq_ok_iff.mpr manifest)
  · rw [if_neg succeeded]
    exact .refused missing (succeeded ∘ isSuccess_iff.mpr)

end

end ComponentInstall.Feed
