import ThermalHal.Acceptance
import ThermalHal.Controller.Keys
import ThermalHal.Hexadecimal
import ThermalHal.Lib.Flow

/-!
# What the control plane can say

A message carries texts, and a text is read into a zero-terminated buffer of fixed size, so not
every update can come out of a message. What can is stated here without the parser: the
temperature is a double, the timestamp fits its type, and the name fits the buffer and has no zero
byte. Each such update has a message, and with these messages the worker can make any requests of
the service, in any order.

## Main definitions

* `UtKvpInstance.Buffered` — the library writes no text past the end of the buffer, and its zero
  byte ends it.
* `ThermalTemperatureUpdate.Carried` — the updates that fit a message.
* `exists_message_iff` — these are the updates that are read, and they are read back.
* `pipeline_requests_iff` — the requests the component can make of the service.
-/

namespace ThermalHal

open Lib

/-- What the buffer holds is shorter than the buffer and ends at its zero byte. -/
structure UtKvpInstance.Buffered (kvp : UtKvpInstance) : Prop where
  size_lt : ∀ key size text, kvp.getStringField key size = some text → text.utf8ByteSize < size
  terminated : kvp.Terminated

/-- The temperature and the timestamp fit their types, and the name fits the buffer. -/
structure ThermalTemperatureUpdate.Carried (update : ThermalTemperatureUpdate) : Prop where
  isDouble : IsDouble update.temperatureCelsius
  timestamp_le : update.timestampMonotonicMs ≤ 2 ^ 63 - 1
  name_size : update.sensorName.utf8ByteSize < kKvpReadBufferSize
  name_zeroFree : ZeroFree update.sensorName

/-! ## Texts -/

/-- Stripping makes no text longer. -/
theorem trim_size (text : String) : (trim text).utf8ByteSize ≤ text.utf8ByteSize := by
  obtain ⟨front, hfront⟩ := List.dropWhile_suffix isspace (l := text.toList)
  obtain ⟨back, hback⟩ := List.rdropWhile_prefix isspace (l := text.toList.dropWhile isspace)
  have hsize : text.utf8ByteSize = String.utf8Len text.toList := by
    rw [← String.utf8ByteSize_ofList, String.ofList_toList]
  rw [hsize, ← hfront, ← hback, trim, String.utf8ByteSize_ofList, hback]
  simp only [String.utf8Len_append]
  have hsplit := congrArg String.utf8Len hback
  rw [String.utf8Len_append] at hsplit
  omega

/-- Stripping leaves only characters of the text. -/
theorem zeroFree_trim {text : String} (h : ZeroFree text) : ZeroFree (trim text) := by
  intro hmem
  rw [trim, String.toList_ofList] at hmem
  have hfront := (List.rdropWhile_prefix isspace (l := text.toList.dropWhile isspace)).subset hmem
  exact h ((List.dropWhile_suffix isspace).subset hfront)

/-- A numeral has no white space behind it, and a printed one none in front. -/
theorem trim_toString (n : ℤ) : trim (toString n) = toString n := by
  have htext : (toString n).toList = (Numeral.ofInt n).sign.chars ++ (Numeral.ofInt n).digits := by
    rw [← Numeral.text_ofInt, Numeral.text, String.toList_ofList]
    rfl
  have hdigits := (Numeral.ofInt n).digits_isDigit
  have hne := (Numeral.ofInt n).digits_ne_nil
  refine trim_eq_self ⟨?_, ?_⟩
  · have hhead := (Numeral.ofInt n).head_not_isspace []
    rw [List.append_nil] at hhead
    rwa [htext]
  · intro c hc
    rw [htext, List.getLast?_append_of_ne_nil _ hne] at hc
    exact isspace_eq_false (Or.inl (hdigits c (List.mem_of_mem_getLast? hc)))

theorem trim_hexText (q : ℚ) : trim (hexText q) = hexText q := by
  let n : Numeral := .ofInt (binaryExponent q)
  have htext : (hexText q).toList = ((hexSign q).chars ++ '0' :: 'x' :: '0' ::
      (hexDigits (significand q) ++ 'p' :: n.sign.chars)) ++ n.digits := by
    simp [hexText, hexBody, n]
  refine trim_eq_self ⟨head_hexText q, ?_⟩
  intro c hc
  rw [htext, List.getLast?_append_of_ne_nil _ n.digits_ne_nil] at hc
  exact isspace_eq_false (Or.inl (n.digits_isDigit c (List.mem_of_mem_getLast? hc)))

/-- What `parseInt64` accepts: the numerals whose value fits, and is not negative. -/
theorem parseInt64_eq_some {text : String} {n : { n : ℤ // 0 ≤ n }} :
    parseInt64 text = some n ↔ ∃ m : Numeral, m.text = text ∧ m.value = n.val ∧
      n.val ≤ 2 ^ 63 - 1 := by
  constructor
  · intro h
    unfold parseInt64 at h
    split at h
    · contradiction
    split at h
    · contradiction
    next read hread =>
      obtain ⟨value, rest, erange⟩ := read
      split at h
      · contradiction
      next hchecks =>
        simp only [not_or, Decidable.not_not, not_lt, Bool.not_eq_true] at hchecks
        obtain ⟨rfl, rfl, hnonneg⟩ := hchecks
        obtain ⟨m, htext, hvalue⟩ := numeral_of_strtoInteger hread rfl
        obtain ⟨hm, -, hle⟩ := clamped_eq.mp hvalue.symm
        obtain rfl := Option.some.inj h
        have hvalue : value ≤ 2 ^ 63 - 1 := by omega
        exact ⟨m, htext, hm.symm, hvalue⟩
  · intro h
    obtain ⟨m, rfl, hm, hle⟩ := h
    have hread := strtoInteger_text (-2 ^ 63) (2 ^ 63 - 1) m (Or.inl rfl)
    have hnonneg := n.property
    rw [clamped_eq.mpr ⟨hm.symm, by omega, by omega⟩] at hread
    have hlonglong : strtoll m.text 10 = some ⟨n.val, [], false⟩ := hread
    simp [parseInt64, m.text_ne_empty, hlonglong, hnonneg]

/-! ## What is read -/

section Read

variable {kvp : UtKvpInstance} {update : ThermalTemperatureUpdate}

theorem readKvpString_eq_some {key text : String} (h : readKvpString kvp key = some text) :
    kvp.getStringField key kKvpReadBufferSize = some text :=
  (Option.filter_eq_some_iff.mp h).1

/-- **Every update that is read fits a message.** -/
theorem carried_of_messageUpdate? (hkvp : kvp.Buffered)
    (h : messageUpdate? (some kvp) = some update) : update.Carried := by
  have hread : readTemperatureUpdate kvp = some update := h
  simp only [readTemperatureUpdate, Option.bind_eq_bind, Option.bind_eq_some_iff] at hread
  obtain ⟨command, -, hread⟩ := hread
  split_ifs at hread
  simp only [Option.bind_eq_some_iff] at hread
  obtain ⟨sensorName, hname, hread⟩ := hread
  split_ifs at hread
  simp only [Option.bind_eq_some_iff, Option.some.injEq] at hread
  obtain ⟨temperatureString, -, temperatureCelsius, htemperature, timestampString, -,
    timestampMonotonicMs, htimestamp, rfl⟩ := hread
  obtain ⟨m, -, -, hle⟩ := parseInt64_eq_some.mp htimestamp
  exact
    { isDouble := isDouble_of_strtod (parseDouble_eq_some.mp htemperature) rfl
      timestamp_le := hle
      name_size := (trim_size sensorName).trans_lt
        (hkvp.size_lt _ _ _ (readKvpString_eq_some hname))
      name_zeroFree := zeroFree_trim (hkvp.terminated _ _ _ (readKvpString_eq_some hname)) }

end Read

/-! ## What is written -/

/-- The message for an update. -/
def writeMessage (update : ThermalTemperatureUpdate) : List (String × String) :=
  messageFields update.sensorName (hexText update.temperatureCelsius)
    (toString update.timestampMonotonicMs)

section Write

variable {update : ThermalTemperatureUpdate}

theorem toString_size (h : update.Carried) :
    (toString update.timestampMonotonicMs).utf8ByteSize < 256 := by
  have hnonneg := update.timestamp_nonneg
  have hle := h.timestamp_le
  generalize update.timestampMonotonicMs = n at hnonneg hle
  have hsize := utf8ByteSize_ofList_le ((Numeral.ofInt n).sign.chars ++ (Numeral.ofInt n).digits)
  have hsign := length_chars (Numeral.ofInt n).sign
  have hdigits : (Numeral.ofInt n).digits.length ≤ 19 :=
    (Nat.length_toDigits_le_iff (by omega) (by omega)).mpr (by omega)
  have htext : String.ofList ((Numeral.ofInt n).sign.chars ++ (Numeral.ofInt n).digits) =
      toString n := Numeral.text_ofInt n
  rw [htext, List.length_append] at hsize
  omega

theorem updateFields_writeMessage (h : update.Carried) :
    UpdateFields ((writeMessage update).lookup ·) update.sensorName update.temperatureCelsius
      update.timestampMonotonicMs := by
  have htimestamp : parseInt64 (toString update.timestampMonotonicMs) =
      some ⟨update.timestampMonotonicMs, update.timestamp_nonneg⟩ :=
    parseInt64_eq_some.mpr ⟨.ofInt _, Numeral.text_ofInt _, Numeral.value_ofInt _, h.timestamp_le⟩
  constructor
  · rfl
  · rfl
  · refine ⟨hexText update.temperatureCelsius, rfl, hexText_size h.isDouble, ?_⟩
    rw [trim_hexText]
    exact parseDouble_eq_some.mpr (strtod_hexText h.isDouble)
  · refine ⟨toString update.timestampMonotonicMs, rfl, toString_size h, ?_⟩
    rw [trim_toString, htimestamp]
    rfl

/-- What is written holds no zero byte. -/
theorem zeroFree_writeMessage (h : update.Carried) :
    ∀ field ∈ writeMessage update, ZeroFree field.2 := by
  simp only [writeMessage, messageFields, List.forall_mem_cons]
  exact ⟨by decide, h.name_zeroFree, zeroFree_hexText _, zeroFree_toString _, by simp⟩

/-- **An update that fits a message is read back** from the one it is written to. -/
theorem messageUpdate?_writeMessage (h : update.Carried) {kvp : UtKvpInstance}
    (hkvp : kvp.Stores ((writeMessage update).lookup ·)) :
    messageUpdate? (some kvp) = some update := by
  obtain ⟨hts, hread⟩ := readTemperatureUpdate_eq hkvp (updateFields_writeMessage h) h.name_size
    update.sensorName_ne
  have hne : trim update.sensorName ≠ "" := by
    rw [update.sensorName_trimmed]
    exact update.sensorName_ne
  change readTemperatureUpdate kvp = some update
  rw [hread, dif_neg hne, Option.some.injEq]
  obtain ⟨name, temperature, timestamp, hname, htrimmed, hnonneg⟩ := update
  simpa using htrimmed

end Write

/-- A library that holds these fields and refuses a text that does not fit the buffer. -/
def UtKvpInstance.ofMessage (fields : List (String × String)) : UtKvpInstance :=
  { UtKvpInstance.ofFields fields 0 with
    getStringField := fun key size => (fields.lookup key).filter (·.utf8ByteSize < size) }

section OfMessage

variable {fields : List (String × String)}

theorem buffered_ofMessage (h : ∀ field ∈ fields, ZeroFree field.2) :
    (UtKvpInstance.ofMessage fields).Buffered := by
  have hread {key size text} (htext : (UtKvpInstance.ofMessage fields).getStringField key size =
      some text) : fields.lookup key = some text ∧ text.utf8ByteSize < size := by
    simpa using Option.filter_eq_some_iff.mp htext
  constructor
  · intro key size text htext
    exact (hread htext).2
  · intro key size text htext
    exact h (key, text) (mem_of_lookup (hread htext).1)

theorem stores_ofMessage : (UtKvpInstance.ofMessage fields).Stores (fields.lookup ·) := by
  constructor
  intro key text size hkey hsize
  simp [UtKvpInstance.ofMessage, hkey, hsize]

end OfMessage

theorem ThermalTemperatureUpdate.Carried.exists_message {update : ThermalTemperatureUpdate}
    (h : update.Carried) : ∃ kvp : UtKvpInstance, kvp.Buffered ∧
      messageUpdate? (some kvp) = some update :=
  ⟨.ofMessage (writeMessage update), buffered_ofMessage (zeroFree_writeMessage h),
    messageUpdate?_writeMessage h stores_ofMessage⟩

/-- **What a message can carry**: the updates whose temperature is a double, whose timestamp fits
its type and whose name fits the buffer, without a zero byte. Each of them is read back from the
message it is written to, by every library that reads what fits. -/
theorem exists_message_iff (update : ThermalTemperatureUpdate) :
    ((∃ kvp : UtKvpInstance, kvp.Buffered ∧ messageUpdate? (some kvp) = some update) ↔
        update.Carried) ∧
      (update.Carried → ∀ kvp : UtKvpInstance, kvp.Stores ((writeMessage update).lookup ·) →
        messageUpdate? (some kvp) = some update) := by
  refine ⟨⟨fun h => ?_, fun h => h.exists_message⟩,
    fun h kvp hkvp => messageUpdate?_writeMessage h hkvp⟩
  obtain ⟨kvp, hkvp, hread⟩ := h
  exact carried_of_messageUpdate? hkvp hread

/-! ## The requests of the worker -/

/-- What a step asks of the service. -/
def Pipeline.requests (p : Pipeline) : PipelineStep → List Request
  | .pushMessage _ => []
  | .getTemperatureUpdate => []
  | .handleControlPlaneUpdate env =>
      (p.inHand.map fun update => Request.sample update.sample env).toList
  | .registry call => [.registry call]

/-- A message that arrives is read through a buffer. -/
def PipelineStep.Buffered : PipelineStep → Prop
  | .pushMessage kvp => ∀ instance? ∈ kvp, instance?.Buffered
  | _ => True

/-- A sample comes from an update that fits a message. -/
def Request.Carried : Request → Prop
  | .sample input _ => ∃ update : ThermalTemperatureUpdate, update.Carried ∧ input = update.sample
  | .registry _ => True

/-- The updates on their way to the service fit a message. -/
structure Pipeline.Carries (p : Pipeline) : Prop where
  pending : ∀ entry ∈ p.pending.map.entries, entry.2.Carried
  inHand : ∀ update ∈ p.inHand, update.Carried

section Requests

variable {p : Pipeline} {step : PipelineStep}

theorem carries_next (hstep : step.Buffered) (h : p.Carries) : (pipeline.next p step).Carries := by
  have hmove := pipelineMove p step
  generalize pipeline.next p step = p' at hmove ⊢
  cases hmove with
  | queued kvp update hkvp =>
    refine ⟨?_, h.inHand⟩
    intro entry hentry
    cases kvp with
    | none => simp [messageUpdate?] at hkvp
    | some kvp =>
      rcases OrderedMap.mem_insertOrAssign.mp hentry with rfl | ⟨hmem, -⟩
      · exact carried_of_messageUpdate? (hstep kvp rfl) hkvp
      · exact h.pending entry hmem
  | taken update rest hhand hpop =>
    have hentries := OrderedMap.entries_of_popFirst hpop
    constructor
    · intro entry hentry
      exact h.pending entry (by rw [hentries]; exact List.mem_cons_of_mem _ hentry)
    · intro held hheld
      obtain rfl : update = held := Option.some.inj hheld
      exact h.pending (update.sensorName, update) (by rw [hentries]; exact List.mem_cons_self)
  | applied env update hhand => exact ⟨h.pending, by simp⟩
  | dropped | notTaken | notApplied | registry => exact ⟨h.pending, h.inHand⟩

theorem carried_of_requests (h : p.Carries) : ∀ r ∈ p.requests step, r.Carried := by
  intro r hr
  cases step with
  | pushMessage kvp | getTemperatureUpdate => simp [Pipeline.requests] at hr
  | handleControlPlaneUpdate env =>
    obtain ⟨update, hupdate, rfl⟩ := Option.map_eq_some_iff.mp (Option.mem_toList.mp hr)
    exact ⟨update, h.inHand update hupdate, rfl⟩
  | registry call =>
    obtain rfl : r = .registry call := by simpa [Pipeline.requests] using hr
    trivial

/-- A step makes its requests of the service, and nothing else. -/
theorem service_requests (p : Pipeline) (step : PipelineStep) :
    (pipeline.next p step).service = service.state p.service (p.requests step) ∧
      pipeline.emit p step = service.trace p.service (p.requests step) := by
  cases step with
  | pushMessage kvp => exact ⟨rfl, rfl⟩
  | registry call => exact ⟨rfl, rfl⟩
  | getTemperatureUpdate =>
    cases h : p.inHand <;> simp [pipeline, Machine.next, Machine.emit, Pipeline.requests, h]
  | handleControlPlaneUpdate env =>
    cases h : p.inHand with
    | none => simp [pipeline, Machine.next, Machine.emit, Pipeline.requests, h]
    | some update =>
      simp [pipeline, Machine.next, Machine.emit, Pipeline.requests, h, service,
        handleControlPlaneUpdate]

theorem service_collect (p : Pipeline) (steps : List PipelineStep) :
    (pipeline.state p steps).service =
        service.state p.service (pipeline.collect Pipeline.requests p steps) ∧
      pipeline.trace p steps =
        service.trace p.service (pipeline.collect Pipeline.requests p steps) := by
  induction steps generalizing p with
  | nil => exact ⟨rfl, rfl⟩
  | cons step steps ih =>
    obtain ⟨hnext, hemit⟩ := service_requests p step
    obtain ⟨hstate, htrace⟩ := ih (pipeline.next p step)
    rw [Machine.state_cons, Machine.trace_cons, Machine.collect_cons, Machine.state_append,
      Machine.trace_append, hstate, htrace, hnext, hemit]
    exact ⟨rfl, rfl⟩

/-- One update from its message to the service, with nothing else on the way. -/
theorem state_message {kvp : UtKvpInstance} {update : ThermalTemperatureUpdate}
    (hkvp : messageUpdate? (some kvp) = some update) (hpending : p.pending = .empty)
    (hhand : p.inHand = none) (env : Environment) :
    let steps := [.pushMessage (some kvp), .getTemperatureUpdate, .handleControlPlaneUpdate env]
    pipeline.state p steps =
        ⟨service.next p.service (.sample update.sample env), .empty, none⟩ ∧
      pipeline.collect Pipeline.requests p steps = [.sample update.sample env] := by
  intro steps
  obtain ⟨s, pending, inHand⟩ := p
  subst hpending hhand
  have hpush : pipeline.next ⟨s, .empty, none⟩ (.pushMessage (some kvp)) =
      ⟨s, PendingTemperatureUpdates.empty.insertOrAssign update, none⟩ := by
    rw [next_pushMessage, pushMessage_of_some hkvp]
  have htake : pipeline.next ⟨s, PendingTemperatureUpdates.empty.insertOrAssign update, none⟩
      .getTemperatureUpdate = ⟨s, .empty, some update⟩ := rfl
  have hheld : (⟨s, .empty, some update⟩ : Pipeline).inHand = some update := rfl
  have happly := next_handleControlPlaneUpdate_of_some hheld env
  constructor
  · simp only [steps, Machine.state_cons, Machine.state_nil, hpush, htake, happly]
  · simp only [steps, Machine.collect_cons, Machine.collect_nil, hpush, htake]
    rfl

/-- Between two updates the component can make any requests that fit a message. -/
theorem exists_steps_of_carried {requests : List Request} (hpending : p.pending = .empty)
    (hhand : p.inHand = none) (hcarried : ∀ r ∈ requests, r.Carried) :
    ∃ steps, (∀ step ∈ steps, step.Buffered) ∧
      pipeline.collect Pipeline.requests p steps = requests := by
  induction requests generalizing p with
  | nil => exact ⟨[], by simp, rfl⟩
  | cons r requests ih =>
    obtain ⟨hr, hrest⟩ := List.forall_mem_cons.mp hcarried
    cases r with
    | registry call =>
      obtain ⟨steps, hsteps, hcollect⟩ := ih (p := pipeline.next p (.registry call)) hpending
        hhand hrest
      refine ⟨.registry call :: steps, ?_, ?_⟩
      · simpa [PipelineStep.Buffered] using hsteps
      · rw [Machine.collect_cons, hcollect]
        rfl
    | sample input env =>
      obtain ⟨update, hupdate, rfl⟩ := hr
      obtain ⟨kvp, hbuffered, hkvp⟩ := hupdate.exists_message
      obtain ⟨hstate, hcollect⟩ := state_message hkvp hpending hhand env
      obtain ⟨steps, hsteps, hrequests⟩ := ih (p := ⟨_, .empty, none⟩) rfl rfl hrest
      refine ⟨[.pushMessage (some kvp), .getTemperatureUpdate, .handleControlPlaneUpdate env] ++
        steps, ?_, ?_⟩
      · simpa [PipelineStep.Buffered, hbuffered] using hsteps
      · rw [Machine.collect_append, hcollect, hstate, hrequests]
        rfl

end Requests

/-- **The requests the component can make.** Along every run the service is the one that the
requests made of it give, with their calls; and a list of requests is what some run makes, in
this order, exactly when every sample in it fits a message. -/
theorem pipeline_requests_iff (cfg : ThermalHfpConfig) (steadyClockMs : ℤ) :
    (∀ steps,
      let requests := pipeline.collect Pipeline.requests (.start cfg steadyClockMs) steps
      (pipeline.state (.start cfg steadyClockMs) steps).service =
          service.state (initializeSensors cfg steadyClockMs) requests ∧
        pipeline.trace (.start cfg steadyClockMs) steps =
          service.trace (initializeSensors cfg steadyClockMs) requests) ∧
    ∀ requests : List Request,
      (∃ steps, (∀ step ∈ steps, step.Buffered) ∧
        pipeline.collect Pipeline.requests (.start cfg steadyClockMs) steps = requests) ↔
      ∀ r ∈ requests, r.Carried := by
  refine ⟨fun steps => ?_, fun requests => ⟨fun h => ?_, fun h => ?_⟩⟩
  · exact service_collect (.start cfg steadyClockMs) steps
  · obtain ⟨steps, hsteps, rfl⟩ := h
    exact Machine.forall_mem_collect (P := Pipeline.Carries) (Q := PipelineStep.Buffered)
      (fun _ _ hstep h => carries_next hstep h) (fun _ _ _ h => carried_of_requests h)
      ⟨by simp [Pipeline.start], by simp [Pipeline.start]⟩ steps hsteps
  · exact exists_steps_of_carried rfl rfl h

end ThermalHal
