import ComponentInstall.Proofs.Json.Decoding
import ComponentInstall.Request

/-!
# Requests that fix no empty text

A request is built step by step or decoded, as an object or as a list, from a value or from a text.
`Made` has one case for each way and for each step, so it says that a request has come about in any of
them. Whatever the way, an empty version or source means that there is none, so no request that was made
fixes an empty one.
-/

namespace ComponentInstall.Request

open Json

/-- The requests that building and decoding come to. -/
inductive Made : Request → Prop
  | new (name : String) (action : Action) : Made (.new name action)
  | withVersion {request : Request} (made : Made request) (version : String) :
      Made (request.withVersion version)
  | withSource {request : Request} (made : Made request) (source : String) :
      Made (request.withSource source)
  | ofValue {value : Value} {request : Request} (decoded : decoder.ofValue value = .ok request) :
      Made request
  | ofText {text : String} {request : Request} (decoded : decoder.ofText text = .ok request) :
      Made request

/-- Neither the version nor the source is an empty text. -/
structure Shown (request : Request) : Prop where
  version : request.version ≠ some ""
  source : request.source ≠ some ""

theorem unlessEmpty_ne (text : String) : unlessEmpty text ≠ some "" := by
  rw [unlessEmpty]
  split
  · nofun
  · rename_i present
    exact fun same => present (Option.some.inj same)

theorem settable_gives : settable.Gives (· ≠ some "") := by
  apply Decoder.gives_map
  intro text
  cases text with
  | none => nofun
  | some text => exact unlessEmpty_ne text

/-- What has been seen of a request fixes no empty text. -/
structure Draft.Shown (draft : Draft) : Prop where
  version : draft.version.join ≠ some ""
  source : draft.source.join ≠ some ""

theorem form_keeps : ∀ field ∈ form.fields, field.Keeps Draft.Shown := by
  intro field member
  simp only [form, List.mem_cons, List.not_mem_nil, or_false] at member
  rcases member with rfl | rfl | rfl | rfl
  · exact Decoder.text.field_keeps _ _ fun _ _ shown => ⟨shown.version, shown.source⟩
  · exact settable_gives.field _ _ fun _ _ shown given => ⟨given, shown.source⟩
  · exact Action.decoder.field_keeps _ _ fun _ _ shown => ⟨shown.version, shown.source⟩
  · exact settable_gives.field _ _ fun _ _ shown given => ⟨shown.version, given⟩

theorem shown_of_finish {draft : Draft} {request : Request} (shown : draft.Shown)
    (finished : draft.finish = .ok request) : request.Shown := by
  rw [Draft.finish] at finished
  split at finished
  · cases finished
  · cases finished
  · cases finished
    exact ⟨shown.version, shown.source⟩

theorem decoder_gives : decoder.Gives Shown :=
  Form.gives ⟨nofun, nofun⟩ form_keeps fun _ _ => shown_of_finish

/-- Every step of building keeps it, and every decoded request has it. -/
theorem Made.shown {request : Request} (made : Made request) : request.Shown := by
  induction made with
  | new name action => exact ⟨nofun, nofun⟩
  | withVersion _ version shown => exact ⟨unlessEmpty_ne version, shown.source⟩
  | withSource _ source shown => exact ⟨shown.version, unlessEmpty_ne source⟩
  | ofValue decoded => exact decoder_gives.value _ _ decoded
  | ofText decoded => exact decoder_gives.ofText decoded

end ComponentInstall.Request
