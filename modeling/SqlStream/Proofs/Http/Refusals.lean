import SqlStream.Http.Stream
import SqlStream.Proofs.Json.Members

/-!
# Refusals that tell of expiry

A refusal tells of expiry if its body is read as an error with the code of expiry. The two forms of
objects exclude each other: a flat one has its message in `message` or in `error`, not in both, and
an error in `error` is no string. `refusal_expired_iff` says which of the bodies that have the code
and a message are understood; one that has its message in both fields is not.
-/

namespace SqlStream.Http

open SqlStream.Json SqlStream.Wire

variable {members : List (String × Json)} {error : ServerError} {body : String}

/-! ## The two forms -/

/-- A body holds an error in its field `error`, if it has one such field that reads as an error. -/
theorem nestedError?_eq_some_iff : nestedError? (.object members) = some error ↔
    occurrences "error" members = 1 ∧
      ∃ value, ("error", value) ∈ members ∧ ServerError.ofJson? value = some error := by
  have hread : nestedError? (.object members) = some error ↔
      ∃ value, (occurrences "error" members ≤ 1 ∧ members.lookup "error" = some value) ∧
        ServerError.ofJson? value = some error := by
    simp [nestedError?, record?, Record.required, Option.bind_eq_some_iff, and_assoc]
  simp only [hread, lookup_eq_some_once_iff, and_assoc, exists_and_left]

/-- A message that stands in one of its two fields, and no other value in these. -/
structure HasMessage (members : List (String × Json)) (message : String) : Prop where
  once : occurrences "message" members + occurrences "error" members = 1
  mem : ("message", .string message) ∈ members ∨ ("error", .string message) ∈ members

/-- The message of a body stands in one of two fields, and the other one is missing. -/
theorem hasMessage_iff_lookup {message : String} : HasMessage members message ↔
    (occurrences "message" members ≤ 1 ∧ members.lookup "message" = some (.string message)) ∧
        members.lookup "error" = none ∨
      (occurrences "error" members ≤ 1 ∧ members.lookup "error" = some (.string message)) ∧
        members.lookup "message" = none := by
  simp only [lookup_eq_some_once_iff, lookup_eq_none_iff]
  constructor
  · rintro ⟨honce, hmem | hmem⟩
    · have hsome := occurrences_ne_zero_of_mem hmem
      exact .inl ⟨⟨by omega, hmem⟩, by omega⟩
    · have hsome := occurrences_ne_zero_of_mem hmem
      exact .inr ⟨⟨by omega, hmem⟩, by omega⟩
  · rintro (⟨⟨honce, hmem⟩, hnone⟩ | ⟨⟨honce, hmem⟩, hnone⟩)
    · exact ⟨by omega, .inl hmem⟩
    · exact ⟨by omega, .inr hmem⟩

theorem string?_eq_some_iff {value : Json} {s : String} :
    value.string? = some s ↔ value = .string s := by
  cases value <;> simp [string?]

/-- A body is an error itself if it has a message, and the code that stands beside it. -/
theorem flatError?_eq_some_iff : flatError? (.object members) = some error ↔
    HasMessage members error.message ∧ occurrences "code" members ≤ 1 ∧
      Record.optional members "code" Json.string? = some error.code := by
  obtain ⟨message, code⟩ := error
  rw [hasMessage_iff_lookup]
  cases hmessage : members.lookup "message" with
  | none =>
    cases herror : members.lookup "error" with
    | none => simp [flatError?, record?, Option.bind_eq_some_iff, hmessage, herror]
    | some value =>
      have hnone := lookup_eq_none_iff.mp hmessage
      have hread : flatError? (.object members) = some ⟨message, code⟩ ↔
          (occurrences "error" members ≤ 1 ∧ occurrences "code" members ≤ 1) ∧
            value = .string message ∧ Record.optional members "code" Json.string? = some code := by
        simp [flatError?, record?, Option.bind_eq_some_iff, hmessage, herror, hnone,
          string?_eq_some_iff]
      rw [hread, and_and_and_comm]
      simp
  | some value =>
    cases herror : members.lookup "error" with
    | none =>
      have hnone := lookup_eq_none_iff.mp herror
      have hread : flatError? (.object members) = some ⟨message, code⟩ ↔
          (occurrences "message" members ≤ 1 ∧ occurrences "code" members ≤ 1) ∧
            value = .string message ∧ Record.optional members "code" Json.string? = some code := by
        simp [flatError?, record?, Option.bind_eq_some_iff, hmessage, herror, hnone,
          string?_eq_some_iff]
      rw [hread, and_and_and_comm]
      simp
    | some other => simp [flatError?, record?, Option.bind_eq_some_iff, hmessage, herror]

theorem optional_string_eq_some_iff {name code : String} {members : List (String × Json)} :
    Record.optional members name Json.string? = some (some code) ↔
      members.lookup name = some (.string code) := by
  rw [Record.optional]
  cases members.lookup name with
  | none => simp
  | some value => cases value <;> simp [string?]

/-- A flat form is no nested one: its `error` is not there or a string. -/
theorem nestedError?_eq_none_of_hasMessage {message : String} (h : HasMessage members message) :
    nestedError? (.object members) = none := by
  rw [Option.eq_none_iff_forall_ne_some]
  intro error hnested
  obtain ⟨honce, value, hmem, hvalue⟩ := nestedError?_eq_some_iff.mp hnested
  have hlookup := (lookup_eq_some_once_iff.mpr ⟨honce, hmem⟩).2
  obtain ⟨-, hnone⟩ | ⟨⟨-, hstring⟩, -⟩ := hasMessage_iff_lookup.mp h
  · rw [hlookup] at hnone
    cases hnone
  · obtain rfl := Option.some.inj (hlookup.symm.trans hstring)
    cases hvalue

/-! ## The code of expiry -/

/-- An object that says that the stream expired: the code of expiry, and a message. -/
structure SaysExpired (members : List (String × Json)) : Prop where
  code : ("code", .string expiredCode) ∈ members
  message : ∃ message : String,
    ("message", .string message) ∈ members ∨ ("error", .string message) ∈ members

/-- A body is itself the error of an expired stream if it has the code once and one message. -/
theorem flatError?_expired_iff (h : SaysExpired members) :
    (∃ error, flatError? (.object members) = some error ∧ error.code = some expiredCode) ↔
      occurrences "code" members = 1 ∧
        occurrences "message" members + occurrences "error" members = 1 := by
  constructor
  · rintro ⟨error, hflat, hcode⟩
    obtain ⟨hmessage, honce, hoptional⟩ := flatError?_eq_some_iff.mp hflat
    rw [hcode, optional_string_eq_some_iff] at hoptional
    exact ⟨(lookup_eq_some_once_iff.mp ⟨honce, hoptional⟩).1, hmessage.once⟩
  · rintro ⟨hcode, honce⟩
    obtain ⟨message, hmessage⟩ := h.message
    obtain ⟨hcode, hlookup⟩ := lookup_eq_some_once_iff.mpr ⟨hcode, h.code⟩
    exact ⟨⟨message, some expiredCode⟩, flatError?_eq_some_iff.mpr
      ⟨⟨honce, hmessage⟩, hcode, optional_string_eq_some_iff.mpr hlookup⟩, rfl⟩

/-- A body holds the error of an expired stream if the error in its one field `error` has the
code. -/
theorem nestedError?_expired_iff :
    (∃ error, nestedError? (.object members) = some error ∧ error.code = some expiredCode) ↔
      occurrences "error" members = 1 ∧ ∃ value error, ("error", value) ∈ members ∧
        ServerError.ofJson? value = some error ∧ error.code = some expiredCode := by
  constructor
  · rintro ⟨error, hnested, hcode⟩
    obtain ⟨honce, value, hmem, hvalue⟩ := nestedError?_eq_some_iff.mp hnested
    exact ⟨honce, value, error, hmem, hvalue, hcode⟩
  · rintro ⟨honce, value, error, hmem, hvalue, hcode⟩
    exact ⟨error, nestedError?_eq_some_iff.mpr ⟨honce, value, hmem, hvalue⟩, hcode⟩

/-- A refusal is of an expired stream exactly if the error of its body has the code. -/
theorem reason_refusal (status : Nat) (body : String) : (refusal status body).reason =
    if (bodyError body).code = some expiredCode then .streamExpired else .http status := by
  rw [refusal]
  split <;> rfl

/-- The code of a refusal is that of the form its body has. -/
theorem code_bodyError_iff {code : String} (hread : Json.read? body = some (.object members)) :
    (bodyError body).code = some code ↔
      (Json.object members).readableWithin maxDepth = true ∧
        ((∃ error, nestedError? (.object members) = some error ∧ error.code = some code) ∨
          ∃ error, flatError? (.object members) = some error ∧ error.code = some code) := by
  rw [bodyError, readAll?, hread, Option.bind_eq_bind, Option.bind_some]
  by_cases hreadable : (Json.object members).readableWithin maxDepth = true
  · cases hnested : nestedError? (.object members) with
    | none => cases hflat : flatError? (.object members) <;> simp [hreadable, hnested, hflat]
    | some error =>
      have hflat : ∀ other, flatError? (.object members) ≠ some other := fun other hflat => by
        rw [nestedError?_eq_none_of_hasMessage (flatError?_eq_some_iff.mp hflat).1] at hnested
        cases hnested
      simp [hreadable, hnested, hflat]
  · simp [hreadable]

/-- A body that says that the stream expired is understood exactly if it is readable, not too deep,
and either has one code and one message, in `message` or in `error` and not in both, or has an error
in `error` with the code of expiry. -/
theorem refusal_expired_iff (status : Nat) (hread : Json.read? body = some (.object members))
    (h : SaysExpired members) :
    (refusal status body).reason = .streamExpired ↔
      (Json.object members).readableWithin maxDepth = true ∧
        (occurrences "code" members = 1 ∧
            occurrences "message" members + occurrences "error" members = 1 ∨
          occurrences "error" members = 1 ∧ ∃ value error, ("error", value) ∈ members ∧
            ServerError.ofJson? value = some error ∧ error.code = some expiredCode) := by
  have hreason : (refusal status body).reason = .streamExpired ↔
      (bodyError body).code = some expiredCode := by
    rw [reason_refusal]
    split
    · next hcode => exact iff_of_true rfl hcode
    · next hcode => exact iff_of_false nofun hcode
  rw [hreason, code_bodyError_iff hread, nestedError?_expired_iff, flatError?_expired_iff h, or_comm]

/-- A body with a member that neither form knows. -/
def withStatus : String :=
  "\x7b\"status\": 404, \"error\": \"gone\", \"code\": \"STREAM_EXPIRED\"\x7d"

/-- A body that says the status as well is understood. -/
theorem refusal_expired_iff_of_withStatus :
    Json.read? withStatus = some (.object
      [("status", .ofInt 404), ("error", .string "gone"), ("code", .string expiredCode)]) ∧
    SaysExpired [("status", .ofInt 404), ("error", .string "gone"), ("code", .string expiredCode)] ∧
    (refusal 404 withStatus).reason = .streamExpired := by
  have hread : Json.read? withStatus = some (.object
      [("status", .ofInt 404), ("error", .string "gone"), ("code", .string expiredCode)]) := by decide +kernel
  have hexpired : SaysExpired
      [("status", .ofInt 404), ("error", .string "gone"), ("code", .string expiredCode)] :=
    ⟨by simp, "gone", by simp⟩
  exact ⟨hread, hexpired, (refusal_expired_iff 404 hread hexpired).mpr
    ⟨by decide +kernel, .inl ⟨by decide +kernel, by decide +kernel⟩⟩⟩

/-- A body with its message in both fields. -/
def twiceWorded : String :=
  "\x7b\"message\": \"gone\", \"error\": \"gone\", \"code\": \"STREAM_EXPIRED\"\x7d"

/-- A body that gives its message in both fields is of neither form, and its code is not seen. -/
theorem twiceWorded_expiry_unseen :
    isSuccess 404 = false ∧
    Json.read? twiceWorded = some (.object
      [("message", .string "gone"), ("error", .string "gone"), ("code", .string expiredCode)]) ∧
    SaysExpired
      [("message", .string "gone"), ("error", .string "gone"), ("code", .string expiredCode)] ∧
    refusal 404 twiceWorded = .refusedStatus 404 twiceWorded :=
  ⟨rfl, by decide +kernel, ⟨by simp, "gone", by simp⟩, by decide +kernel⟩

end SqlStream.Http
