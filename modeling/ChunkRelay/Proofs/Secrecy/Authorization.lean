import ChunkRelay.DeviceConfig
import ChunkRelay.Proofs.Upload.Authorization
import ChunkRelay.Proofs.Upload.Http

/-! # Authorizations and their secrets

Two authorizations have the same mask if they differ in their secrets only: they agree up to their
first colon, or neither has one and all of it is secret. They are shown alike, and either both name
the same header or none does.
-/

namespace ChunkRelay

inductive SameMask : String → String → Prop where
  | refl (a : String) : SameMask a a
  | colon {name : List Char} (value value' : List Char) (first : ':' ∉ name) :
      SameMask (String.ofList (name ++ ':' :: value)) (String.ofList (name ++ ':' :: value'))
  | bare {a b : String} (some : a ≠ "") (some' : b ≠ "") (plain : ':' ∉ a.toList)
      (plain' : ':' ∉ b.toList) : SameMask a b

theorem DeviceConfig.maskAuthorization_colon {name : List Char} (first : ':' ∉ name)
    (value : List Char) :
    maskAuthorization (String.ofList (name ++ ':' :: value)) = String.ofList name ++ ":***" := by
  have named : (name ++ ':' :: value).takeWhile (· ≠ ':') = name := by
    rw [List.takeWhile_append_of_pos]
    · simp
    · intro c member
      have other : c ≠ ':' := fun colon => first (colon ▸ member)
      simpa using other
  simp only [maskAuthorization, String.toList_ofList, named]
  simp

namespace SameMask

variable {a b : String}

theorem mask (same : SameMask a b) :
    DeviceConfig.maskAuthorization a = DeviceConfig.maskAuthorization b := by
  cases same with
  | refl => rfl
  | colon value value' first =>
      rw [DeviceConfig.maskAuthorization_colon first, DeviceConfig.maskAuthorization_colon first]
  | bare some some' plain plain' =>
      simp [DeviceConfig.maskAuthorization, some, some', plain, plain']

theorem parse (same : SameMask a b) :
    (∃ name value value', AuthHeader.parse a = .ok ⟨name, value⟩ ∧
      AuthHeader.parse b = .ok ⟨name, value'⟩) ∨
    (AuthHeader.parse a = .error (.authorizationFormat a.length) ∧
      AuthHeader.parse b = .error (.authorizationFormat b.length)) := by
  cases same with
  | refl =>
      cases parsed : AuthHeader.parse a with
      | ok auth => exact Or.inl ⟨auth.name, auth.value, auth.value, rfl, rfl⟩
      | error cause =>
          obtain rfl := HttpUploader.parse_refused parsed
          exact Or.inr ⟨rfl, rfl⟩
  | colon value value' first =>
      rw [AuthHeader.parse_colon first, AuthHeader.parse_colon first]
      split
      · exact Or.inr ⟨rfl, rfl⟩
      · exact Or.inl ⟨_, _, _, rfl, rfl⟩
  | bare some some' plain plain' =>
      exact Or.inr ⟨AuthHeader.parse_plain plain, AuthHeader.parse_plain plain'⟩

end SameMask

/-- Configurations that differ in the secret only. -/
def DeviceConfig.SameMask (c c' : DeviceConfig) : Prop :=
  ∃ authorization, ChunkRelay.SameMask c.authorization authorization ∧
    c' = { c with authorization }

theorem DeviceConfig.SameMask.redacted {c c' : DeviceConfig} (same : c.SameMask c') :
    c.redacted = c'.redacted := by
  obtain ⟨authorization, masked, rfl⟩ := same
  simp [DeviceConfig.redacted, masked.mask]

/-- Requests that differ in the value of the authorization's header only. -/
def PostRequest.SameMask (request request' : PostRequest) : Prop :=
  ∃ name value value', request.headers = HttpUploader.headers ⟨name, value⟩ ∧
    request' = { request with headers := HttpUploader.headers ⟨name, value'⟩ }

end ChunkRelay
