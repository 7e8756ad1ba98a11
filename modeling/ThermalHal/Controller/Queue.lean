import Mathlib.Data.String.Basic
import ThermalHal.Lib.OrderedMap
import ThermalHal.Helper
import ThermalHal.ParseConfig

/-!
# The control-plane queue

`pushMessage` checks a message and stores what it carries under the name the client
sent, replacing what was pending there; `getTemperatureUpdate` takes the entry with
the smallest name. Names are ordered as `std::string` orders them, by bytes, which for
UTF-8 is the order of code points.

An update carries what `pushMessage` has checked, so a pending update with an empty
name or a negative timestamp cannot be built. The temperature is finite, as
`parseDouble` leaves it. Whether it lies in the range of some sensor is not checked.

## Main definitions

* `ThermalTemperatureUpdate` — a checked update; `readTemperatureUpdate` reads one.
* `PendingTemperatureUpdates` — the queue, every entry under its own name.
* `pushMessage`, `getTemperatureUpdate` — its two operations.
-/

namespace ThermalHal

open Lib

/-! ## Messages -/

def kCommandKeySlash : String := "IThermalSensor/command"
def kSensorNameKeySlash : String := "IThermalSensor/sensorName"
def kTemperatureKeySlash : String := "IThermalSensor/temperatureCelsius"
def kTimestampKeySlash : String := "IThermalSensor/timestampMonotonicMs"
def kCommandTemperatureUpdate : String := "temperature_update"
def kKvpReadBufferSize : ℕ := 256

/-- A parsed temperature update, with the checks it has passed. -/
structure ThermalTemperatureUpdate where
  sensorName : String
  temperatureCelsius : ℚ
  timestampMonotonicMs : ℤ
  sensorName_ne : sensorName ≠ ""
  sensorName_trimmed : trim sensorName = sensorName
  timestamp_nonneg : 0 ≤ timestampMonotonicMs
  deriving DecidableEq

/-- A non-negative decimal number that fits an `int64_t` and fills the text. -/
def parseInt64 (value : String) : Option { n : ℤ // 0 ≤ n } :=
  if value = "" then none
  else
    match strtoll value 10 with
    | none => none
    | some parsed =>
        if h : parsed.erange ∨ parsed.rest ≠ [] ∨ parsed.value < 0 then none
        else some ⟨parsed.value, by rw [not_or, not_or] at h; exact not_lt.mp h.2.2⟩

/-- The text of a field, unless reading it fails or it is empty. -/
def readKvpString (kvp : UtKvpInstance) (key : String) : Option String :=
  (kvp.getStringField key kKvpReadBufferSize).filter (· ≠ "")

/-- The checks of `pushMessage`, in its order: `none` for a message it drops. -/
def readTemperatureUpdate (kvp : UtKvpInstance) : Option ThermalTemperatureUpdate := do
  let command ← readKvpString kvp kCommandKeySlash
  if trim command ≠ kCommandTemperatureUpdate then none
  else
    let sensorName ← readKvpString kvp kSensorNameKeySlash
    if hne : trim sensorName = "" then none
    else
      let temperatureString ← readKvpString kvp kTemperatureKeySlash
      let temperatureCelsius ← parseDouble (trim temperatureString)
      let timestampString ← readKvpString kvp kTimestampKeySlash
      let timestampMonotonicMs ← parseInt64 (trim timestampString)
      some {
        sensorName := trim sensorName
        temperatureCelsius
        timestampMonotonicMs := timestampMonotonicMs.val
        sensorName_ne := hne
        sensorName_trimmed := trim_trim sensorName
        timestamp_nonneg := timestampMonotonicMs.property }

/-! ## The queue -/

/-- `m_pendingTemperatureUpdates`: a map from names to updates of that name. -/
structure PendingTemperatureUpdates where
  map : OrderedMap String ThermalTemperatureUpdate
  keyed : ∀ e ∈ map.entries, e.2.sensorName = e.1

namespace PendingTemperatureUpdates

def empty : PendingTemperatureUpdates := ⟨.empty, by simp [OrderedMap.empty]⟩

/-- `insert_or_assign` under the update's own name. -/
def insertOrAssign (pending : PendingTemperatureUpdates) (update : ThermalTemperatureUpdate) :
    PendingTemperatureUpdates where
  map := pending.map.insertOrAssign update.sensorName update
  keyed := by
    intro e he
    rcases OrderedMap.mem_insertOrAssign.mp he with rfl | ⟨hmem, -⟩
    · rfl
    · exact pending.keyed e hmem

/-- The update pending under a name. -/
def get? (pending : PendingTemperatureUpdates) (sensorName : String) :
    Option ThermalTemperatureUpdate :=
  pending.map.get? sensorName

end PendingTemperatureUpdates

/-- A message arrives; the instance may be null. -/
def pushMessage (kvp : Option UtKvpInstance) (pending : PendingTemperatureUpdates) :
    PendingTemperatureUpdates :=
  match kvp with
  | none => pending
  | some kvp =>
      match readTemperatureUpdate kvp with
      | none => pending
      | some update => pending.insertOrAssign update

/-- Take the first entry. -/
def getTemperatureUpdate (pending : PendingTemperatureUpdates) :
    PendingTemperatureUpdates × Option ThermalTemperatureUpdate :=
  match h : pending.map.popFirst with
  | none => (pending, none)
  | some (first, rest) =>
      ({ map := rest
         keyed := fun e he => pending.keyed e
          (OrderedMap.entries_of_popFirst h ▸ List.mem_cons_of_mem first he) },
        some first.2)

/-! ## What the operations do -/

section Operations

variable {pending pending' : PendingTemperatureUpdates} {update : ThermalTemperatureUpdate}

/-- What a message carries, if it passes the checks. -/
def messageUpdate? (kvp : Option UtKvpInstance) : Option ThermalTemperatureUpdate :=
  kvp.bind readTemperatureUpdate

theorem pushMessage_of_none {kvp : Option UtKvpInstance} (h : messageUpdate? kvp = none) :
    pushMessage kvp pending = pending := by
  cases kvp with
  | none => rfl
  | some kvp =>
    have hread : readTemperatureUpdate kvp = none := h
    simp only [pushMessage, hread]

theorem pushMessage_of_some {kvp : Option UtKvpInstance} (h : messageUpdate? kvp = some update) :
    pushMessage kvp pending = pending.insertOrAssign update := by
  cases kvp with
  | none => exact absurd h (by simp [messageUpdate?])
  | some kvp =>
    have hread : readTemperatureUpdate kvp = some update := h
    simp only [pushMessage, hread]

@[simp] theorem entries_empty : PendingTemperatureUpdates.empty.map.entries = [] := rfl

@[simp] theorem get?_empty (sensorName : String) :
    PendingTemperatureUpdates.empty.get? sensorName = none := rfl

@[simp] theorem get?_insertOrAssign_self :
    (pending.insertOrAssign update).get? update.sensorName = some update :=
  OrderedMap.get?_insertOrAssign_self ..

theorem get?_insertOrAssign_ne {sensorName : String} (h : sensorName ≠ update.sensorName) :
    (pending.insertOrAssign update).get? sensorName = pending.get? sensorName :=
  OrderedMap.get?_insertOrAssign_ne _ _ h

/-- Taking from the queue fails exactly when it is empty, and changes nothing then. -/
theorem getTemperatureUpdate_none (h : getTemperatureUpdate pending = (pending', none)) :
    pending' = pending ∧ pending.map.entries = [] := by
  rw [getTemperatureUpdate] at h
  split at h
  · next hpop =>
    exact ⟨(congrArg Prod.fst h).symm, OrderedMap.popFirst_eq_none_iff.mp hpop⟩
  · simp at h

theorem getTemperatureUpdate_of_empty (h : pending.map.entries = []) :
    (getTemperatureUpdate pending).1.map.entries = [] := by
  rw [getTemperatureUpdate]
  split
  · exact h
  · next first rest hpop =>
    rw [OrderedMap.entries_of_popFirst hpop] at h
    simp at h

/-- Otherwise the update leaves from under its own name. -/
theorem getTemperatureUpdate_some (h : getTemperatureUpdate pending = (pending', some update)) :
    pending.map.popFirst = some ((update.sensorName, update), pending'.map) := by
  rw [getTemperatureUpdate] at h
  split at h
  · simp at h
  · next first rest hpop =>
    simp only [Prod.mk.injEq, Option.some.injEq] at h
    obtain ⟨rfl, rfl⟩ := h
    have hfirst : first ∈ pending.map.entries := by
      rw [OrderedMap.entries_of_popFirst hpop]
      exact List.mem_cons_self
    have hname := pending.keyed first hfirst
    change pending.map.popFirst = some ((first.2.sensorName, first.2), rest)
    rw [hname]
    exact hpop

end Operations

/-! ## Concrete messages -/

/-- A message with the four fields of a temperature update. -/
def temperatureMessage (sensorName temperatureCelsius timestampMonotonicMs : String) :
    Option UtKvpInstance :=
  some (.ofFields
    [(kCommandKeySlash, kCommandTemperatureUpdate), (kSensorNameKeySlash, sensorName),
      (kTemperatureKeySlash, temperatureCelsius), (kTimestampKeySlash, timestampMonotonicMs)] 0)

example : (messageUpdate? (temperatureMessage " board " "5e1" "7")).map
    (fun update => (update.sensorName, update.temperatureCelsius, update.timestampMonotonicMs)) =
      some ("board", 50, 7) := by decide +kernel

end ThermalHal
