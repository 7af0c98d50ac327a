import ShellHub.Workers.Strconv

set_option autoImplicit false

/- The heartbeat path of the API workers: asynq groups the heartbeat tasks, the GroupAggregator
   joins their payloads one per line, the handler registered by `registerHeartbeat` passes the
   joined payload to the worker's channel, and `HeartBeatWorker.Init` scans it line by line and
   gives the devices it parses to `DeviceSetOnline`. The scanner is bufio's with `ScanLines` and
   the default buffer; the store call is the model's output. -/
namespace ShellHub.Workers

-- bufio.MaxScanTokenSize: the scanner's buffer never grows past it.
def maxScanTokenSize : Nat := 64 * 1024

def fitsBuffer (line : Bytes) : Bool := line.length < maxScanTokenSize

def dropCR (data : Bytes) : Bytes := if data.getLast? = some 13 then data.dropLast else data

-- `for scanner.Scan()` with `bufio.ScanLines`; ErrTooLong ends the scan and `scanner.Err` is never read.
def scanLines (data : Bytes) : List Bytes :=
  let lines := data.splitOn 10
  let lines := if lines.getLast? = some [] then lines.dropLast else lines
  (lines.takeWhile fitsBuffer).map dropCR

structure ConnectedDevice where
  uid : Bytes
  tenantID : Bytes
  -- `time.Unix(lastSeen, 0)`, by its seconds
  lastSeen : Int
deriving DecidableEq, Repr

-- One iteration of the scan loop: split on '=', parse the timestamp, split the rest on ':'.
def parseHeartbeat (line : Bytes) : Option ConnectedDevice :=
  match line.splitOn 61 with
  | [head, lastSeen] =>
      match parseInt lastSeen with
      | none => none
      | some seconds =>
          match head.splitOn 58 with
          | [tenant, uid] => some ⟨uid, tenant, seconds⟩
          | _ => none
  | _ => none

structure AsynqTask where
  typeName : String
  payload : Bytes

structure Task where
  payload : Bytes

def taskHeartbeat : String := "api:heartbeat"

-- `b.WriteString(fmt.Sprintf("%s\n", task.Payload()))` for each task of the group.
def groupAggregator (tasks : List AsynqTask) : AsynqTask :=
  ⟨taskHeartbeat, tasks.flatMap fun task => task.payload ++ [10]⟩

def registerHeartbeat (task : AsynqTask) : Task := ⟨task.payload⟩

def heartBeatWorkerInit (tasks : List Task) : List (List ConnectedDevice) :=
  tasks.map fun task => (scanLines task.payload).filterMap parseHeartbeat

theorem not_mem_of_mem_split_on (l : Bytes) (a : UInt8) : ∀ m ∈ l.splitOn a, a ∉ m := by
  unfold List.splitOn
  induction l with
  | nil => simp
  | cons c l ih =>
    rw [List.splitOnP_cons]
    split
    · rintro m (_ | ⟨_, mem⟩)
      · simp
      · exact ih m mem
    · rename_i other
      cases parts : l.splitOnP (· == a) with
      | nil => simp
      | cons first rest =>
        rw [parts] at ih
        rintro m (_ | ⟨_, mem⟩)
        · rintro (_ | ⟨_, inner⟩)
          · simp at other
          · exact ih first (List.mem_cons_self _ _) inner
        · exact ih m (List.mem_cons_of_mem _ mem)

theorem split_on_eq_pair (l x y : Bytes) (a : UInt8) :
    l.splitOn a = [x, y] ↔ l = x ++ a :: y ∧ a ∉ x ∧ a ∉ y := by
  constructor
  · intro parts
    have joined := List.intercalate_splitOn l a
    rw [parts] at joined
    refine ⟨by simpa [List.intercalate] using joined.symm, ?_, ?_⟩
    · exact not_mem_of_mem_split_on l a x (by simp [parts])
    · exact not_mem_of_mem_split_on l a y (by simp [parts])
  · rintro ⟨rfl, notX, notY⟩
    have joined := List.splitOn_intercalate [x, y] a (by simp [notX, notY]) (by simp)
    simpa [List.intercalate] using joined

theorem parse_heartbeat_eq_some (line : Bytes) (dev : ConnectedDevice) :
    parseHeartbeat line = some dev ↔
      ∃ lastSeen, line = dev.tenantID ++ 58 :: dev.uid ++ 61 :: lastSeen ∧
        (58 ∉ dev.tenantID ∧ 61 ∉ dev.tenantID) ∧ (58 ∉ dev.uid ∧ 61 ∉ dev.uid) ∧
        parseInt lastSeen = some dev.lastSeen := by
  constructor
  · intro parsed
    unfold parseHeartbeat at parsed
    split at parsed
    · rename_i head lastSeen atEquals
      obtain ⟨rfl, headEquals, -⟩ := (split_on_eq_pair _ _ _ _).1 atEquals
      split at parsed
      · cases parsed
      · rename_i seconds timestamp
        split at parsed
        · rename_i tenant uid atColon
          obtain ⟨rfl, tenantColon, uidColon⟩ := (split_on_eq_pair _ _ _ _).1 atColon
          cases parsed
          refine ⟨lastSeen, by simp, ⟨tenantColon, fun mem => headEquals (by simp [mem])⟩,
            ⟨uidColon, fun mem => headEquals (by simp [mem])⟩, timestamp⟩
        · cases parsed
    · cases parsed
  · rintro ⟨lastSeen, rfl, ⟨tenantColon, tenantEquals⟩, ⟨uidColon, uidEquals⟩, timestamp⟩
    have atEquals : (dev.tenantID ++ 58 :: dev.uid ++ 61 :: lastSeen).splitOn 61 =
        [dev.tenantID ++ 58 :: dev.uid, lastSeen] :=
      (split_on_eq_pair _ _ _ _).2 ⟨by simp, by simp [tenantEquals, uidEquals],
        fun mem => absurd (parse_int_digits _ _ timestamp _ mem) (by decide)⟩
    have atColon : (dev.tenantID ++ 58 :: dev.uid).splitOn 58 = [dev.tenantID, dev.uid] :=
      (split_on_eq_pair _ _ _ _).2 ⟨rfl, tenantColon, uidColon⟩
    simp only [parseHeartbeat, atEquals, timestamp, atColon]

theorem drop_cr_append_singleton (data : Bytes) (last : UInt8) :
    dropCR (data ++ [last]) = if last = 13 then data else data ++ [last] := by
  by_cases cr : last = 13 <;> simp [dropCR, cr]

theorem drop_cr_append_cons (front rest : Bytes) (c : UInt8) (notCR : c ≠ 13) :
    dropCR (front ++ c :: rest) = front ++ c :: dropCR rest := by
  cases rest using List.reverseRecOn with
  | nil => simp [drop_cr_append_singleton, notCR, dropCR]
  | append_singleton rest last _ =>
    rw [← List.cons_append, ← List.append_assoc, drop_cr_append_singleton, drop_cr_append_singleton]
    split <;> simp

theorem drop_cr_cases (data : Bytes) : dropCR data = data ∨ data = dropCR data ++ [13] := by
  unfold dropCR
  split
  · exact .inr (List.dropLast_append_getLast? _ ‹_›).symm
  · exact .inl rfl

theorem heartbeat_line_accepted (line : Bytes) (dev : ConnectedDevice) :
    parseHeartbeat (dropCR line) = some dev ↔
      ∃ lastSeen, line = dev.tenantID ++ 58 :: dev.uid ++ 61 :: lastSeen ∧
        (58 ∉ dev.tenantID ∧ 61 ∉ dev.tenantID) ∧ (58 ∉ dev.uid ∧ 61 ∉ dev.uid) ∧
        parseInt (dropCR lastSeen) = some dev.lastSeen := by
  rw [parse_heartbeat_eq_some]
  constructor
  · rintro ⟨lastSeen, shape, tenant, uid, timestamp⟩
    rcases drop_cr_cases line with same | stripped
    · have kept := drop_cr_append_cons (dev.tenantID ++ 58 :: dev.uid) lastSeen 61 (by decide)
      rw [← shape, same, shape] at kept
      simp only [List.append_cancel_left_eq, List.cons.injEq, true_and] at kept
      exact ⟨lastSeen, same ▸ shape, tenant, uid, kept ▸ timestamp⟩
    · refine ⟨lastSeen ++ [13], by rw [stripped, shape]; simp, tenant, uid, ?_⟩
      rwa [drop_cr_append_singleton, if_pos rfl]
  · rintro ⟨lastSeen, rfl, tenant, uid, timestamp⟩
    refine ⟨dropCR lastSeen, ?_, tenant, uid, timestamp⟩
    rw [List.append_assoc, List.cons_append, drop_cr_append_cons _ _ 58 (by decide),
      drop_cr_append_cons _ _ 61 (by decide)]
    simp

theorem drop_cr_of_not_mem (data : Bytes) (noCR : 13 ∉ data) : dropCR data = data :=
  if_neg fun last => noCR (List.mem_of_getLast?_eq_some last)

theorem aggregate_intercalate (payloads : List Bytes) :
    payloads.flatMap (· ++ [10]) = [10].intercalate (payloads ++ [[]]) := by
  induction payloads with
  | nil => rfl
  | cons p ps ih =>
    obtain ⟨q, qs, split⟩ := List.exists_cons_of_ne_nil (List.append_ne_nil_of_right_ne_nil ps (List.cons_ne_nil [] []))
    rw [split] at ih
    simp [List.intercalate, split, List.intersperse_cons_cons, ih]

theorem scan_lines_aggregate (payloads : List Bytes) (noNewline : ∀ p ∈ payloads, 10 ∉ p) :
    scanLines (payloads.flatMap (· ++ [10])) = (payloads.takeWhile fitsBuffer).map dropCR := by
  have lines : (payloads.flatMap (· ++ [10])).splitOn 10 = payloads ++ [[]] := by
    rw [aggregate_intercalate]
    refine List.splitOn_intercalate _ 10 ?_ (by simp)
    simp only [List.mem_append, List.mem_singleton]
    rintro l (mem | rfl)
    · exact noNewline l mem
    · simp
  simp [scanLines, lines]

theorem worker_init_aggregate (tasks : List AsynqTask) (noNewline : ∀ task ∈ tasks, 10 ∉ task.payload) :
    heartBeatWorkerInit [registerHeartbeat (groupAggregator tasks)] =
      [((tasks.map AsynqTask.payload).takeWhile fitsBuffer).filterMap fun line => parseHeartbeat (dropCR line)] := by
  have batch := scan_lines_aggregate (tasks.map AsynqTask.payload) (by simpa using noNewline)
  rw [List.flatMap_map] at batch
  simp only [heartBeatWorkerInit, registerHeartbeat, groupAggregator, List.map_cons, List.map_nil, batch,
    List.filterMap_map, Function.comp_def]

theorem heartbeat_batch_devices (tasks : List AsynqTask) (noNewline : ∀ task ∈ tasks, 10 ∉ task.payload) :
    heartBeatWorkerInit [registerHeartbeat (groupAggregator tasks)] =
        [((tasks.map AsynqTask.payload).takeWhile fitsBuffer).filterMap fun line => parseHeartbeat (dropCR line)] ∧
      ∀ (line : Bytes) (dev : ConnectedDevice), parseHeartbeat (dropCR line) = some dev ↔
        ∃ lastSeen, line = dev.tenantID ++ 58 :: dev.uid ++ 61 :: lastSeen ∧
          (58 ∉ dev.tenantID ∧ 61 ∉ dev.tenantID) ∧ (58 ∉ dev.uid ∧ 61 ∉ dev.uid) ∧
          parseInt (dropCR lastSeen) = some dev.lastSeen :=
  ⟨worker_init_aggregate tasks noNewline, heartbeat_line_accepted⟩

theorem heartbeat_batch_devices_one_entry :
    let tasks := [AsynqTask.mk taskHeartbeat [116, 58, 117, 61, 49]]
    (∀ task ∈ tasks, 10 ∉ task.payload) ∧
      heartBeatWorkerInit [registerHeartbeat (groupAggregator tasks)] =
        [((tasks.map AsynqTask.payload).takeWhile fitsBuffer).filterMap fun line => parseHeartbeat (dropCR line)] :=
  ⟨by decide, (heartbeat_batch_devices _ (by decide)).1⟩

-- A payload as the producers write it: tenant ':' uid '=' FormatInt(lastSeen, 10).
def heartbeatPayload (dev : ConnectedDevice) : Bytes :=
  dev.tenantID ++ 58 :: dev.uid ++ 61 :: formatInt dev.lastSeen

def ConnectedDevice.Encodable (dev : ConnectedDevice) : Prop :=
  (58 ∉ dev.tenantID ∧ 61 ∉ dev.tenantID ∧ 10 ∉ dev.tenantID) ∧ (58 ∉ dev.uid ∧ 61 ∉ dev.uid ∧ 10 ∉ dev.uid) ∧
    -2 ^ 63 ≤ dev.lastSeen ∧ dev.lastSeen < 2 ^ 63

instance : DecidablePred ConnectedDevice.Encodable := fun dev =>
  inferInstanceAs (Decidable ((58 ∉ dev.tenantID ∧ 61 ∉ dev.tenantID ∧ 10 ∉ dev.tenantID) ∧
    (58 ∉ dev.uid ∧ 61 ∉ dev.uid ∧ 10 ∉ dev.uid) ∧ -2 ^ 63 ≤ dev.lastSeen ∧ dev.lastSeen < 2 ^ 63))

theorem parse_heartbeat_payload (dev : ConnectedDevice) (encodable : dev.Encodable) :
    parseHeartbeat (dropCR (heartbeatPayload dev)) = some dev := by
  obtain ⟨⟨tenantColon, tenantEquals, -⟩, ⟨uidColon, uidEquals, -⟩, low, high⟩ := encodable
  have noCR : 13 ∉ formatInt dev.lastSeen := fun mem => by
    rcases format_int_bytes _ _ mem with minus | digit
    · cases minus
    · exact absurd digit (by decide)
  rw [heartbeatPayload, drop_cr_append_cons _ _ 61 (by decide), drop_cr_of_not_mem _ noCR]
  exact (parse_heartbeat_eq_some _ _).2 ⟨_, rfl, ⟨tenantColon, tenantEquals⟩, ⟨uidColon, uidEquals⟩,
    parse_int_format_int _ low high⟩

theorem heartbeat_payload_no_newline (dev : ConnectedDevice) (encodable : dev.Encodable) :
    10 ∉ heartbeatPayload dev := by
  obtain ⟨⟨-, -, tenantNewline⟩, ⟨-, -, uidNewline⟩, -⟩ := encodable
  intro mem
  simp only [heartbeatPayload, List.mem_append, List.mem_cons] at mem
  rcases mem with (tenant | colon | uid) | equals | timestamp
  · exact tenantNewline tenant
  · cases colon
  · exact uidNewline uid
  · cases equals
  · rcases format_int_bytes _ _ timestamp with minus | digit
    · cases minus
    · exact absurd digit (by decide)

theorem parse_heartbeat_payloads (devices : List ConnectedDevice) (encodable : ∀ dev ∈ devices, dev.Encodable) :
    (devices.map heartbeatPayload).filterMap (fun line => parseHeartbeat (dropCR line)) = devices := by
  induction devices with
  | nil => rfl
  | cons dev devices ih =>
    rw [List.map_cons, List.filterMap_cons, parse_heartbeat_payload dev (encodable dev (List.mem_cons_self _ _)),
      ih fun d mem => encodable d (List.mem_cons_of_mem _ mem)]

theorem heartbeat_round_trip (devices : List ConnectedDevice) (encodable : ∀ dev ∈ devices, dev.Encodable)
    (short : ∀ dev ∈ devices, fitsBuffer (heartbeatPayload dev)) :
    heartBeatWorkerInit [registerHeartbeat (groupAggregator (devices.map fun dev => ⟨taskHeartbeat, heartbeatPayload dev⟩))] =
      [devices] := by
  rw [worker_init_aggregate _ (by simpa using fun dev mem => heartbeat_payload_no_newline dev (encodable dev mem)),
    List.map_map, List.takeWhile_eq_self_iff.2 (by simpa using short)]
  exact congrArg (· :: []) (parse_heartbeat_payloads devices encodable)

theorem heartbeat_round_trip_one_device :
    let devices := [ConnectedDevice.mk [117] [116] 1]
    ((∀ dev ∈ devices, dev.Encodable) ∧ ∀ dev ∈ devices, fitsBuffer (heartbeatPayload dev)) ∧
      heartBeatWorkerInit [registerHeartbeat (groupAggregator (devices.map fun dev => ⟨taskHeartbeat, heartbeatPayload dev⟩))] =
        [devices] := by
  have encodable : ∀ dev ∈ [ConnectedDevice.mk [117] [116] 1], dev.Encodable := by decide
  have short : ∀ dev ∈ [ConnectedDevice.mk [117] [116] 1], fitsBuffer (heartbeatPayload dev) := by
    simp [fitsBuffer, heartbeatPayload, formatInt, format_bits_small, maxScanTokenSize]
  exact ⟨⟨encodable, short⟩, heartbeat_round_trip _ encodable short⟩

theorem long_heartbeat_hides_later_entries :
    let long : AsynqTask := ⟨taskHeartbeat, List.replicate maxScanTokenSize 97⟩
    let entry : AsynqTask := ⟨taskHeartbeat, [116, 58, 117, 61, 49]⟩
    heartBeatWorkerInit [registerHeartbeat (groupAggregator [long, entry])] = [[]] ∧
      parseHeartbeat entry.payload = some ⟨[117], [116], 1⟩ := by
  refine ⟨?_, by decide⟩
  rw [worker_init_aggregate _ (by simp [List.mem_replicate])]
  simp [fitsBuffer]

end ShellHub.Workers
