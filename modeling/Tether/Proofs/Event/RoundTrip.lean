import Tether.Event.Wire
import Tether.Proofs.Json.RoundTrip

/-!
# Events survive the wire

An event without floats is decoded from its JSON form as itself (`ofJson_toJson`), and this form is
one that is read back from its text (`plain_toJson`).
-/

namespace Tether

namespace Event

open Json (Plain)

/-- Whether an event has no float among its arguments. -/
def isFloatless : Event → Bool
  | .lightMeterValue .. => false
  | _ => true

variable {event : Event} {fields : List (String × Json)} {key : String}

/-! ## Readers -/

theorem toBool_bool (value : Bool) : Json.toBool (.bool value) = .ok value := rfl

theorem toText_str (value : String) : Json.toText (.str value) = .ok value := rfl

theorem toInt32_toInt (n : Int32) : Json.toInt32 (.int n.toInt) = .ok n := by
  have bounds : -2147483648 ≤ n.toInt ∧ n.toInt ≤ 2147483647 :=
    ⟨n.le_toInt, Int.le_of_lt_add_one n.toInt_lt⟩
  rw [Json.toInt32, if_pos bounds, Int32.ofInt_toInt]

theorem toInt32s_ofInt32s (items : List Int32) :
    Json.toInt32s (.ofInt32s items) = .ok items := by
  rw [Json.ofInt32s, Json.toInt32s]
  induction items with
  | nil => rfl
  | cons n items ih =>
    rw [List.map_cons, List.mapM_cons, toInt32_toInt, ih]
    rfl

/-- A field that is found and can be read is handed on. -/
theorem field_bind {α : Type} {value : Json} {read : Json → Except Json.Mismatch α}
    {result : α} {build : α → Except DecodeError Event} (found : fields.lookup key = some value)
    (reads : read value = .ok result) : (field fields key read >>= build) = build result := by
  rw [field, found]
  simp only [reads]
  rfl

/-! ## Fields -/

/-- No two fields of an event have one key, and none has the key of the number. -/
theorem distinct_keys (event : Event) :
    (Limits.eventKey :: event.arguments.map Prod.fst).Nodup := by
  cases event <;> simp [arguments, Limits.eventKey]

/-- An event is decoded from its arguments if they are found under their keys. -/
theorem ofIdAndFields_of_arguments (floatless : event.isFloatless = true)
    (found : ∀ argument ∈ event.arguments, fields.lookup argument.1 = some argument.2) :
    ofIdAndFields fields event.id = .ok event := by
  cases event with
  | lightMeterValue => cases floatless
  | setDownload value | setLowLatency value | setLongExposureNr value | longExposureNrValue value
  | setVibrationReduction value | vibrationReductionValue value | setAutoIso value
  | autoIsoValue value =>
    exact field_bind (found _ (.head _)) (toBool_bool value)
  | focusModeValue text | setCaptureTarget text | captureTargetValue text
  | exposureProgramValue text | modeValue text =>
    exact field_bind (found _ (.head _)) (toText_str text)
  | setShutterSpeed n | setAperture n | apertureValue n | setIso n | isoValue n | batteryValue n
  | focalLengthValue n =>
    exact field_bind (found _ (.head _)) (toInt32_toInt n)
  | shutterSpeedChoices items | apertureChoices items | isoChoices items =>
    exact field_bind (found _ (.head _)) (toInt32s_ofInt32s items)
  | shutterSpeedValue microseconds bulb =>
    exact (field_bind (found _ (.head _)) (toInt32_toInt microseconds)).trans
      (field_bind (found _ (.tail _ (.head _))) (toBool_bool bulb))
  | captureDone downloaded file =>
    exact (field_bind (found _ (.head _)) (toBool_bool downloaded)).trans
      (field_bind (found _ (.tail _ (.head _))) (toText_str file))
  | cameraState state connected download =>
    exact (field_bind (found _ (.head _)) (toText_str state)).trans <|
      (field_bind (found _ (.tail _ (.head _))) (toBool_bool connected)).trans
        (field_bind (found _ (.tail _ (.tail _ (.head _)))) (toBool_bool download))
  | runIntervalometer interval total | intervalometerStart interval total =>
    exact (field_bind (found _ (.head _)) (toInt32_toInt interval)).trans
      (field_bind (found _ (.tail _ (.head _))) (toInt32_toInt total))
  | intervalometerState state interval captures total =>
    exact (field_bind (found _ (.head _)) (toText_str state)).trans <|
      (field_bind (found _ (.tail _ (.head _))) (toInt32_toInt interval)).trans <|
        (field_bind (found _ (.tail _ (.tail _ (.head _)))) (toInt32_toInt captures)).trans
          (field_bind (found _ (.tail _ (.tail _ (.tail _ (.head _))))) (toInt32_toInt total))
  | _ => rfl

/-- An event without floats is decoded from its JSON form as itself. -/
theorem ofJson_toJson (floatless : event.isFloatless = true) : ofJson event.toJson = .ok event := by
  have lookup {key : String} {value : Json}
      (member : (key, value) ∈ (Limits.eventKey, .int event.id) :: event.arguments) :
      (Json.orderFields ((Limits.eventKey, .int event.id) :: event.arguments)).lookup key =
        some value :=
    Json.lookup_orderFields (distinct_keys event) member
  have decoded := ofIdAndFields_of_arguments floatless fun argument member =>
    lookup (List.mem_cons_of_mem _ member)
  rw [toJson, Json.ofFields, ofJson]
  simp only [lookup List.mem_cons_self]
  exact decoded

/-! ## Text -/

theorem plain_toInt {depth : Nat} (n : Int32) : Plain depth (.int n.toInt) := by
  have low := n.le_toInt
  have high := n.toInt_lt
  exact .int ⟨by omega, by omega⟩

theorem plain_ofInt32s {depth : Nat} (items : List Int32) :
    Plain (depth + 1) (.ofInt32s items) := by
  refine .arr fun item member => ?_
  obtain ⟨n, -, rfl⟩ := List.mem_map.mp member
  exact plain_toInt n

theorem plain_arguments {depth : Nat} (floatless : event.isFloatless = true) :
    ∀ argument ∈ event.arguments, Plain (depth + 1) argument.2 := by
  cases event with
  | lightMeterValue => cases floatless
  | _ =>
    simp only [arguments, List.forall_mem_cons, List.not_mem_nil, false_implies, implies_true,
      and_true, Plain.bool, Plain.str, plain_toInt, plain_ofInt32s]

theorem id_le (event : Event) : event.id ≤ 76 := by
  cases event <;> exact Nat.le_of_ble_eq_true rfl

/-- The JSON form of an event without floats is plain. -/
theorem plain_toJson {depth : Nat} (floatless : event.isFloatless = true) :
    Plain (depth + 2) event.toJson := by
  refine .ofFields fun field member => ?_
  rcases List.mem_cons.mp member with rfl | argument
  · have small := event.id_le
    exact .int ⟨by omega, by omega⟩
  · exact plain_arguments floatless field argument

end Event

end Tether
