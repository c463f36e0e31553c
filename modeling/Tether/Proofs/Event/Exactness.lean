import Mathlib.Tactic.IntervalCases
import Tether.Proofs.Event.Kinds
import Tether.Proofs.Event.RoundTrip
import Tether.Proofs.Json.Objects

/-!
# The JSON form of events is exact

Decoding accepts just the objects that have the number of an event and its declared fields
(`Accepted`), and of any other value it reports what the first failing check has found (`Refused`).
What has been decoded is encoded as the part of the value that has been looked at
(`toJson_of_ofJson`), and back again (`ofJson_toJson`); only floats may change on the way.

The declarations are one table (`declared?`). A decoder agrees with it field by field: reading one
more field in front keeps the outcome right (`Decodes.field`), and so `decodes` goes through all
events at once.
-/

namespace Tether

namespace Event

/-! ## What an event looks like -/

/-- The fields of an event, in the order of declaration; no other number is that of an event. -/
def declared? : Nat → Option (List (String × Kind))
  | 10 | 11 | 12 | 13 | 14 | 16 | 17 | 18 | 19 | 20 | 21 | 22 | 25 | 27 | 28 | 32 | 33 | 37 | 38
  | 42 | 44 | 46 | 47 | 49 | 52 | 55 | 58 | 60 | 62 | 65 | 66 | 68 | 69 | 72 | 74 | 75 | 76 =>
      some []
  | 15 => some [("download", .bool)]
  | 23 => some [("low_latency", .bool)]
  | 24 => some [("downloaded", .bool), ("file", .text)]
  | 26 => some [("state", .text), ("camera_connected", .bool), ("download", .bool)]
  | 29 => some [("shutter_speed", .int32)]
  | 30 => some [("shutter_speed", .int32), ("bulb", .bool)]
  | 31 => some [("shutter_speed_choices", .int32s)]
  | 34 | 35 => some [("aperture", .int32)]
  | 36 => some [("aperture_choices", .int32s)]
  | 39 | 40 => some [("iso", .int32)]
  | 41 => some [("iso_choices", .int32s)]
  | 43 => some [("battery", .int32)]
  | 45 => some [("focal_length", .int32)]
  | 48 => some [("focus_mode", .text)]
  | 50 | 51 => some [("long_exp_nr", .bool)]
  | 53 | 54 => some [("vr", .bool)]
  | 56 | 57 => some [("target", .text)]
  | 59 => some [("exposure_program", .text)]
  | 61 => some [("light_meter", .single), ("min", .single), ("max", .single)]
  | 63 | 64 => some [("auto_iso", .bool)]
  | 67 => some [("mode", .text)]
  | 70 | 71 => some [("intervalms", .int32), ("total_captures", .int32)]
  | 73 =>
      some [("state", .text), ("intervalms", .int32), ("num_captures", .int32),
        ("total_captures", .int32)]
  | _ => none

/-- A value has fields of the declared kinds. -/
def Carries (json : Json) (declared : List (String × Kind)) : Prop :=
  ∀ field ∈ declared, ∃ value, json.get? field.1 = some value ∧ field.2.Fits value

/-- What is wrong with the first field that is missing or of another kind than declared. -/
inductive Fails (json : Json) : List (String × Kind) → DecodeError → Prop
  | missing {key : String} {kind : Kind} {rest : List (String × Kind)} :
      json.get? key = none → Fails json ((key, kind) :: rest) (.missingField key)
  | invalid {key : String} {kind : Kind} {rest : List (String × Kind)} {value : Json}
      {reason : Json.Mismatch} :
      json.get? key = some value → kind.Rejects value reason →
      Fails json ((key, kind) :: rest) (.invalidField key reason)
  | later {key : String} {kind : Kind} {rest : List (String × Kind)} {value : Json}
      {error : DecodeError} :
      json.get? key = some value → kind.Fits value → Fails json rest error →
      Fails json ((key, kind) :: rest) error

/-- A value is the JSON form of an event, and maybe has other fields. -/
structure Accepted (json : Json) (id : Nat) (declared : List (String × Kind)) : Prop where
  number : json.get? Limits.eventKey = some (.int id)
  known : declared? id = some declared
  carries : Carries json declared

/-- What is wrong with a value that is not the JSON form of an event: the first of the checks for an
object, a number, a known number, and the fields in the order of declaration. -/
inductive Refused (json : Json) : DecodeError → Prop
  | notAnObject : (∀ fields, json ≠ .obj fields) → Refused json .notAnObject
  | missingId {fields : List (String × Json)} : json = .obj fields →
      (∀ id : Nat, json.get? Limits.eventKey ≠ some (.int id)) → Refused json .missingId
  | unknownId {id : Nat} : json.get? Limits.eventKey = some (.int id) → declared? id = none →
      Refused json (.unknownId id)
  | field {id : Nat} {declared : List (String × Kind)} {error : DecodeError} :
      json.get? Limits.eventKey = some (.int id) → declared? id = some declared →
      Fails json declared error → Refused json error

/-! ## Decoding fields -/

variable {json value : Json} {fields : List (String × Json)} {id : Nat}
  {before : List (String × Json)} {declared : List (String × Kind)} {key : String} {kind : Kind}
  {error : DecodeError} {event : Event}

section Field

variable {α : Type} {read : Json → Except Json.Mismatch α} {write : α → Json}

theorem fails_of_missing (missing : json.get? key = none) :
    Fails json ((key, kind) :: declared) error ↔ .missingField key = error := by
  constructor
  · intro fails
    cases fails with
    | missing => rfl
    | invalid present | later present =>
      rw [missing] at present
      cases present
  · rintro rfl
    exact .missing missing

theorem fails_of_rejected (reads : kind.Reads read write) (present : json.get? key = some value)
    {reason : Json.Mismatch} (rejected : read value = .error reason) :
    Fails json ((key, kind) :: declared) error ↔ .invalidField key reason = error := by
  constructor
  · intro fails
    cases fails with
    | missing missing =>
      rw [present] at missing
      cases missing
    | invalid here why =>
      cases present.symm.trans here
      cases rejected.symm.trans ((reads.rejects _ _).mp why)
      rfl
    | later here fits =>
      cases present.symm.trans here
      obtain ⟨result, accepted⟩ := (reads.fits _).mp fits
      cases rejected.symm.trans accepted
  · rintro rfl
    exact .invalid present ((reads.rejects _ _).mpr rejected)

theorem fails_of_accepted (reads : kind.Reads read write) (present : json.get? key = some value)
    {result : α} (accepted : read value = .ok result) :
    Fails json ((key, kind) :: declared) error ↔ Fails json declared error := by
  constructor
  · intro fails
    cases fails with
    | missing missing =>
      rw [present] at missing
      cases missing
    | invalid here why =>
      cases present.symm.trans here
      cases accepted.symm.trans ((reads.rejects _ _).mp why)
    | later _ _ fails => exact fails
  · exact .later present ((reads.fits _).mpr ⟨result, accepted⟩)

theorem carries_cons : Carries json ((key, kind) :: declared) ↔
    (∃ value, json.get? key = some value ∧ kind.Fits value) ∧ Carries json declared :=
  List.forall_mem_cons

end Field

/-- The declared fields of a value as they are found. -/
def found (json : Json) (declared : List (String × Kind)) : List (String × Json) :=
  (declared.map Prod.fst).filterMap fun key => (json.get? key).map (key, ·)

theorem found_cons (present : json.get? key = some value) :
    found json ((key, kind) :: declared) = (key, value) :: found json declared := by
  rw [found, List.map_cons, List.filterMap_cons_some (by rw [present]; rfl)]
  rfl

/-- An outcome of decoding is right for the declared fields that are still to be read: it is an
event if they fit, or else the first failure among them, and the event holds just these fields after
those that have been read before. -/
structure Decodes (json : Json) (id : Nat) (before : List (String × Json))
    (declared : List (String × Kind)) (outcome : Except DecodeError Event) : Prop where
  accepts : (∃ event, outcome = .ok event) ↔ Carries json declared
  refuses : ∀ error, outcome = .error error ↔ Fails json declared error
  exact : ∀ event, outcome = .ok event → event.id = id ∧
    ((∀ field ∈ declared, field.2 ≠ .single) →
      event.arguments = before ++ found json declared)

namespace Decodes

theorem nil (number : event.id = id) (arguments : event.arguments = before) :
    Decodes json id before [] (.ok event) where
  accepts := ⟨fun _ => nofun, fun _ => ⟨event, rfl⟩⟩
  refuses _ := ⟨nofun, nofun⟩
  exact := by
    rintro _ ⟨⟩
    exact ⟨number, fun _ => by rw [arguments]; exact (List.append_nil _).symm⟩

theorem of_error (lacks : ¬ Carries json declared)
    (fails : ∀ other, Fails json declared other ↔ error = other) :
    Decodes json id before declared (.error error) where
  accepts := by
    constructor
    · rintro ⟨event, made⟩
      cases made
    · exact fun carries => absurd carries lacks
  refuses other := by rw [fails, Except.error.injEq]
  exact event made := by cases made

/-- One more field, which is read first. -/
theorem field {α : Type} {read : Json → Except Json.Mismatch α} {write : α → Json}
    {build : α → Except DecodeError Event} (reads : kind.Reads read write)
    (next : ∀ result,
      Decodes (.obj fields) id (before ++ [(key, write result)]) declared (build result)) :
    Decodes (.obj fields) id before ((key, kind) :: declared)
      (Event.field fields key read >>= build) := by
  cases present : (Json.obj fields).get? key with
  | none =>
    have outcome : (Event.field fields key read >>= build) = .error (.missingField key) := by
      have absent : fields.lookup key = none := present
      rw [Event.field, absent]
      rfl
    rw [outcome]
    refine .of_error (fun carries => ?_) fun other => fails_of_missing present
    obtain ⟨⟨value, here, -⟩, -⟩ := carries_cons.mp carries
    cases present.symm.trans here
  | some value =>
    cases reading : read value with
    | error reason =>
      have outcome : (Event.field fields key read >>= build) =
          .error (.invalidField key reason) := by
        have here : fields.lookup key = some value := present
        rw [Event.field, here]
        simp only [reading]
        rfl
      rw [outcome]
      refine .of_error (fun carries => ?_) fun other => fails_of_rejected reads present reading
      obtain ⟨⟨_, here, fits⟩, -⟩ := carries_cons.mp carries
      cases present.symm.trans here
      obtain ⟨result, accepted⟩ := (reads.fits _).mp fits
      cases reading.symm.trans accepted
    | ok result =>
      rw [field_bind present reading]
      have rest := next result
      have fits : kind.Fits value := (reads.fits _).mpr ⟨result, reading⟩
      refine ⟨?_, fun error => ?_, fun event made => ?_⟩
      · rw [rest.accepts, carries_cons]
        exact ⟨fun later => ⟨⟨value, present, fits⟩, later⟩, And.right⟩
      · rw [rest.refuses, fails_of_accepted reads present reading]
      · obtain ⟨number, arguments⟩ := rest.exact event made
        refine ⟨number, fun exactly => ?_⟩
        obtain ⟨here, later⟩ := List.forall_mem_cons.mp exactly
        rw [arguments later, reads.exact here value result reading, found_cons present,
          List.append_assoc]
        rfl

end Decodes

/-- Every event is decoded from the fields that are declared for it, in their order. -/
theorem decodes (fields : List (String × Json)) (low : 10 ≤ id) (high : id ≤ 76) :
    ∃ declared, declared? id = some declared ∧
      Decodes (.obj fields) id [] declared (ofIdAndFields fields id) := by
  interval_cases id
  all_goals
    refine ⟨_, rfl, ?_⟩
    -- The kind of the next field selects its reader; at the end the event is at hand.
    repeat' first
      | exact .nil rfl rfl
      | refine .field Kind.reads_bool fun _ => ?_
      | refine .field Kind.reads_text fun _ => ?_
      | refine .field Kind.reads_int32 fun _ => ?_
      | refine .field Kind.reads_int32s fun _ => ?_
      | refine .field Kind.reads_single fun _ => ?_

/-! ## Numbers -/

theorem declared?_of_unknown (unknown : id < 10 ∨ 76 < id) : declared? id = none := by
  unfold declared?
  split <;> first | rfl | omega

theorem ofIdAndFields_of_unknown (unknown : id < 10 ∨ 76 < id) :
    ofIdAndFields fields id = .error (.unknownId id) := by
  unfold ofIdAndFields
  split <;> first | rfl | omega

/-- The events are numbered without a gap. -/
theorem declared?_eq_some_iff :
    (∃ declared, declared? id = some declared) ↔ 10 ≤ id ∧ id ≤ 76 := by
  constructor
  · rintro ⟨declared, known⟩
    by_contra outside
    rw [declared?_of_unknown (by omega)] at known
    cases known
  · rintro ⟨low, high⟩
    obtain ⟨declared, known, -⟩ := decodes [] low high
    exact ⟨declared, known⟩

/-- Only the reading of the light meter has floats. -/
theorem ne_single_of_floatless (floatless : event.isFloatless = true)
    (known : declared? event.id = some declared) : ∀ field ∈ declared, field.2 ≠ .single := by
  cases event with
  | lightMeterValue => cases floatless
  | _ => cases known; decide

/-! ## Decoding -/

theorem ofJson_of_number (number : json.get? Limits.eventKey = some (.int id)) :
    declared? id = none ∧ ofJson json = .error (.unknownId id) ∨
      ∃ declared, declared? id = some declared ∧ Decodes json id [] declared (ofJson json) := by
  cases json with
  | obj fields =>
    have outcome : ofJson (.obj fields) = ofIdAndFields fields id := by
      have here : fields.lookup Limits.eventKey = some (.int id) := number
      rw [ofJson, here]
    rw [outcome]
    by_cases known : 10 ≤ id ∧ id ≤ 76
    · exact .inr (decodes fields known.1 known.2)
    · exact .inl ⟨declared?_of_unknown (by omega), ofIdAndFields_of_unknown (by omega)⟩
  | _ => cases number

theorem ofJson_of_no_number (absent : ∀ id : Nat, json.get? Limits.eventKey ≠ some (.int id)) :
    ∃ error, Refused json error ∧ ofJson json = .error error := by
  cases json with
  | obj fields =>
    refine ⟨.missingId, .missingId rfl absent, ?_⟩
    unfold ofJson
    dsimp only
    split
    · next id here => exact absurd here (absent id)
    · rfl
  | _ => exact ⟨.notAnObject, .notAnObject nofun, rfl⟩

theorem ofJson_ok_iff :
    (∃ event, ofJson json = .ok event) ↔ ∃ id declared, Accepted json id declared := by
  constructor
  · rintro ⟨event, made⟩
    by_cases numbered : ∃ id : Nat, json.get? Limits.eventKey = some (.int id)
    · obtain ⟨id, number⟩ := numbered
      rcases ofJson_of_number number with ⟨-, refused⟩ | ⟨declared, known, decodes⟩
      · cases refused.symm.trans made
      · exact ⟨id, declared, number, known, decodes.accepts.mp ⟨event, made⟩⟩
    · obtain ⟨error, -, refused⟩ := ofJson_of_no_number (not_exists.mp numbered)
      cases refused.symm.trans made
  · rintro ⟨id, declared, number, known, carries⟩
    rcases ofJson_of_number number with ⟨unknown, -⟩ | ⟨_, same, decodes⟩
    · cases unknown.symm.trans known
    · cases same.symm.trans known
      exact decodes.accepts.mpr carries

theorem ofJson_error_iff : ofJson json = .error error ↔ Refused json error := by
  constructor
  · intro refused
    by_cases numbered : ∃ id : Nat, json.get? Limits.eventKey = some (.int id)
    · obtain ⟨id, number⟩ := numbered
      rcases ofJson_of_number number with ⟨unknown, other⟩ | ⟨declared, known, decodes⟩
      · cases refused.symm.trans other
        exact .unknownId number unknown
      · exact .field number known ((decodes.refuses error).mp refused)
    · obtain ⟨other, why, refusedToo⟩ := ofJson_of_no_number (not_exists.mp numbered)
      cases refused.symm.trans refusedToo
      exact why
  · intro refused
    cases refused with
    | notAnObject other =>
      cases json with
      | obj fields => exact absurd rfl (other fields)
      | _ => rfl
    | missingId object absent =>
      subst object
      unfold ofJson
      dsimp only
      split
      · next id here => exact absurd here (absent id)
      · rfl
    | unknownId number unknown =>
      rcases ofJson_of_number number with ⟨-, refused⟩ | ⟨_, known, -⟩
      · exact refused
      · cases unknown.symm.trans known
    | field number known fails =>
      rcases ofJson_of_number number with ⟨unknown, -⟩ | ⟨_, same, decodes⟩
      · cases unknown.symm.trans known
      · cases same.symm.trans known
        exact (decodes.refuses error).mpr fails

/-- What has been decoded is encoded as the part of the value that has been looked at. -/
theorem toJson_of_ofJson (made : ofJson json = .ok event) (floatless : event.isFloatless = true) :
    ∃ declared, Accepted json event.id declared ∧
      event.toJson = json.restrict (Limits.eventKey :: declared.map Prod.fst) := by
  obtain ⟨id, declared, number, known, carries⟩ := ofJson_ok_iff.mp ⟨event, made⟩
  rcases ofJson_of_number number with ⟨unknown, -⟩ | ⟨_, same, decodes⟩
  · cases unknown.symm.trans known
  cases same.symm.trans known
  obtain ⟨rfl, arguments⟩ := decodes.exact event made
  refine ⟨declared, ⟨number, known, carries⟩, ?_⟩
  rw [toJson, arguments (ne_single_of_floatless floatless known), Json.restrict,
    List.filterMap_cons_some (by rw [number]; rfl)]
  rfl

/-- A JSON value is decoded exactly if it is an object with the number of an event and its declared
fields, and otherwise the first failing check is reported. The decoded event is encoded as just that
part of the value, and every event is decoded from its own form. -/
theorem codec_exact :
    (∀ json, (∃ event, ofJson json = .ok event) ↔
      ∃ id declared, Accepted json id declared) ∧
    (∀ json event, ofJson json = .ok event → event.isFloatless = true →
      ∃ declared, Accepted json event.id declared ∧
        event.toJson = json.restrict (Limits.eventKey :: declared.map Prod.fst)) ∧
    (∀ json error, ofJson json = .error error ↔ Refused json error) ∧
    (∀ event, event.isFloatless = true → ofJson event.toJson = .ok event) ∧
    ∀ id, (∃ declared, declared? id = some declared) ↔ 10 ≤ id ∧ id ≤ 76 :=
  ⟨fun _ => ofJson_ok_iff, fun _ _ => toJson_of_ofJson, fun _ _ => ofJson_error_iff,
    fun _ => ofJson_toJson, fun _ => declared?_eq_some_iff⟩

end Event

end Tether
