import Bowerbird.Api.Router
import Bowerbird.Commands.Http

namespace Bowerbird.Commands.Http

open Foundation Foundation.Http Api.Router

/-! The command line at the daemon's bearer gate. -/

/-- A request with this bearer. -/
inductive Carries (addr bearer : String) : List UInt8 → Prop
  | status : Carries addr bearer (statusRequest addr (some bearer))
  | replay (body : List UInt8) : Carries addr bearer (replayRequest addr bearer body)
  | events (sessionId : String) (since : Int) :
      Carries addr bearer (eventsRequest addr bearer sessionId since)

theorem Carries.read {addr bearer : String} {bytes : List UInt8}
    (host : Unbroken addr) (line : Unbroken bearer)
    (carries : Carries addr bearer bytes) :
    ∃ request, readRequest bytes = some request ∧
      authorization request = some (trim (Utf8.encode ("Bearer " ++ bearer))) := by
  cases carries with
  | status =>
      exact ⟨_, statusRequest_read host line, lookup_authorization addr bearer _⟩
  | events sessionId since =>
      exact ⟨_, eventsRequest_read host line sessionId since,
        lookup_authorization addr bearer _⟩
  | replay body =>
      have read := replayRequest_read host line body []
      rw [List.append_nil] at read
      exact ⟨_, read, lookup_authorization addr bearer _⟩

theorem upgradeAuthorized_header {token : String} {request : Request}
    (given : (authorization request).isSome = true) (query : Option String) :
    upgradeAuthorized token request query = requireBearer token request := by
  unfold upgradeAuthorized requireBearer
  simp only [if_pos given]
  cases ((authorization request).bind toStr).bind bearerOf with
  | none => rfl
  | some candidate =>
      cases empty : candidate.isEmpty <;> simp [Option.filter, empty]

/-- A bearer passes the gates, the one of `/ws` like the other, exactly where it is
the daemon's token with blanks around it at most and nothing but visible ASCII in
it.  So a token with blanks of its own, or with any other character, passes
nowhere. -/
theorem bearer_passes_iff {token addr bearer : String} {bytes : List UInt8}
    (host : Unbroken addr) (line : Unbroken bearer)
    (carries : Carries addr bearer bytes) :
    ∃ request, readRequest bytes = some request ∧
      (requireBearer token request = true ↔ Admits token bearer) ∧
      ∀ query, upgradeAuthorized token request query = requireBearer token request := by
  obtain ⟨request, read, header⟩ := carries.read host line
  refine ⟨request, read, requireBearer_iff header, ?_⟩
  apply upgradeAuthorized_header
  rw [header]
  rfl

theorem bearer_passes_iff_replay :
    ∃ request, readRequest (replayRequest "127.0.0.1:1" "t " [10]) = some request ∧
      (requireBearer "t" request = true ↔ Admits "t" "t ") ∧
      ∀ query, upgradeAuthorized "t" request query = requireBearer "t" request :=
  bearer_passes_iff (by decide) (by decide) (.replay [10])

/-- A daemon and a command line with one token. -/
example : ¬ Admits " t" " t" := by
  rintro ⟨_, _, same⟩
  cases same

end Bowerbird.Commands.Http
