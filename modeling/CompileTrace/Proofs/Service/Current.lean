import CompileTrace.Proofs.Traversal
import CompileTrace.Service.Resource

set_option autoImplicit false

/-! # The current capture of a service

A client calls tools and reads resources in any order, and calls may fail at any stage. What a call
that makes a capture comes to is told by `made?`, which does not look at the current capture; a call
answers just that, and has the capture replaced if and only if there is a new one (`call_made`). So
after any run the current capture is what the last successful of these calls made
(`current_is_last_made`), and the resources describe that capture. -/

namespace CompileTrace

/-! ## Runs -/

/-- What a client does. What the service works with may differ from call to call, as files and the
    environment change; a build that the call runs behaves as `child`. -/
inductive ServiceEvent
  | call (v : Service) (child : Child) (call : ToolCall)
  | read (resource : Resource)

/-- What the client gets: the answer of a tool, or the text of a resource. -/
inductive Reply
  | answer (answer : ToolAnswer)
  | text (text : Text)

/-- One event of a run, with the state that it met and the reply. -/
structure Exchange where
  before : ServiceState
  event : ServiceEvent
  reply : Reply

/-- Whether a tool makes captures. -/
def ToolCall.makes : ToolCall → Bool
  | captureBuild .. => true
  | assembleInvocations _ => true
  | listProjects _ => false
  | projectArguments _ => false
  | listDocuments _ => false
  | document .. => false

namespace Service

/-- What the service replies to an event, and the state after it. -/
def serve (s : ServiceState) : ServiceEvent → Reply × ServiceState
  | .call v child call => ((.answer (v.call child s call).1), (v.call child s call).2)
  | .read resource => (.text (resource.text s.capture?), s)

/-- The state after some events. -/
def run (s : ServiceState) (events : List ServiceEvent) : ServiceState :=
  events.foldl (fun s event => (serve s event).2) s

/-- The exchanges of a run. -/
def exchanges (s : ServiceState) : List ServiceEvent → List Exchange
  | [] => []
  | event :: rest => ⟨s, event, (serve s event).1⟩ :: exchanges (serve s event).2 rest

/-! ## What calls make -/

/-- What a call that makes a capture comes to: finding the target, building, reading and assembling
    either give a capture or fail. The other calls make nothing. -/
def made? (v : Service) (child : Child) (assembly : AssemblyState) :
    ToolCall → Option (Except ServiceError Capture)
  | .captureBuild path? configuration platform properties timeout? => some (do
    let target ← v.findTarget path?
    let request : BuildRequest := ⟨some target, configuration, platform, properties, timeout?⟩
    (v.capturer.build child request ⟨.start, assembly⟩).1.mapError .capture)
  | .assembleInvocations path =>
    let recording := v.setup.disk.readDump v.depth path
    some ((v.capturer.capture recording assembly).1.mapError (.capture ∘ .assembly))
  | _ => none

theorem made?_eq_none_iff (v : Service) (child : Child) (assembly : AssemblyState)
    (call : ToolCall) : v.made? child assembly call = none ↔ call.makes = false := by
  cases call <;> simp [made?, ToolCall.makes]

/-- Replacing answers what was made, and keeps the current capture if there is no new one. -/
theorem replace_made (s : ServiceState) (made : Except ServiceError Capture)
    (assembly : AssemblyState) (left : Table LogFile) :
    (replace s made assembly left).1 = made.map Capture.toJson
      ∧ (replace s made assembly left).2.capture? = made.toOption.or s.capture? := by
  cases made with
  | error error => exact ⟨rfl, rfl⟩
  | ok capture => exact ⟨rfl, rfl⟩

/-- **A call answers what it makes**, and the capture is replaced if there is a new one and only
    then. -/
theorem call_made {v : Service} {child : Child} {s : ServiceState} {call : ToolCall}
    {made : Except ServiceError Capture} (h : v.made? child s.assembly call = some made) :
    (v.call child s call).1 = made.map Capture.toJson
      ∧ (v.call child s call).2.capture? = made.toOption.or s.capture? := by
  cases call with
  | captureBuild path? configuration platform properties timeout? =>
    -- without a target nothing is built, and the state is not even touched
    obtain rfl := Option.some.inj h
    simp only [Service.call, captureBuild]
    cases v.findTarget path? with
    | error error => exact ⟨rfl, rfl⟩
    | ok target => exact replace_made s _ _ _
  | assembleInvocations path =>
    obtain rfl := Option.some.inj h
    exact replace_made s _ _ _
  | listProjects name? => cases h
  | projectArguments id => cases h
  | listDocuments id => cases h
  | document id name => cases h

/-- A call that makes nothing changes nothing. -/
theorem call_inspection {v : Service} {child : Child} {s : ServiceState} {call : ToolCall}
    (h : v.made? child s.assembly call = none) : (v.call child s call).2 = s := by
  cases call with
  | captureBuild path? configuration platform properties timeout? => cases h
  | assembleInvocations path => cases h
  | listProjects name? => rfl
  | projectArguments id => rfl
  | listDocuments id => rfl
  | document id name => rfl

/-- A call that fails keeps the current capture. -/
theorem capture?_of_call_failed {v : Service} {child : Child} {s : ServiceState} {call : ToolCall}
    (h : (v.call child s call).1.isOk = false) :
    (v.call child s call).2.capture? = s.capture? := by
  cases hmade : v.made? child s.assembly call with
  | none => rw [call_inspection hmade]
  | some made =>
    obtain ⟨hanswer, hcapture⟩ := call_made hmade
    cases made with
    | error error => exact hcapture
    | ok capture =>
      rw [hanswer] at h
      cases h

end Service

/-! ## Exchanges -/

namespace Exchange

/-- The capture that a call made, if it did. -/
def captured? (x : Exchange) : Option Capture :=
  match x.event with
  | .read _ => none
  | .call v child call => (v.made? child x.before.assembly call).bind Except.toOption

/-- The data that a call for a capture answered, if it succeeded. -/
def data? (x : Exchange) : Option Json :=
  match x.event, x.reply with
  | .call _ _ call, .answer (.ok data) => if call.makes then some data else none
  | _, _ => none

end Exchange

namespace Service

/-- An event replaces the current capture by the one that it makes, if it makes one. -/
theorem capture?_serve (s : ServiceState) (event : ServiceEvent) :
    (serve s event).2.capture?
      = (Exchange.captured? ⟨s, event, (serve s event).1⟩).or s.capture? := by
  cases event with
  | read resource => rfl
  | call v child call =>
    simp only [serve, Exchange.captured?]
    cases hmade : v.made? child s.assembly call with
    | none =>
      rw [call_inspection hmade]
      rfl
    | some made =>
      rw [(call_made hmade).2]
      cases made with
      | error error => rfl
      | ok capture => rfl

/-- A call for a capture succeeds if and only if it makes one, and then tells about it. -/
theorem data?_serve (s : ServiceState) (event : ServiceEvent) :
    Exchange.data? ⟨s, event, (serve s event).1⟩
      = (Exchange.captured? ⟨s, event, (serve s event).1⟩).map Capture.toJson := by
  cases event with
  | read resource => rfl
  | call v child call =>
    simp only [serve, Exchange.captured?, Exchange.data?]
    cases hmade : v.made? child s.assembly call with
    | none =>
      have hmakes := (made?_eq_none_iff v child s.assembly call).1 hmade
      cases (v.call child s call).1 with
      | error error => rfl
      | ok data => simp [hmakes]
    | some made =>
      have hmakes : call.makes = true := by
        rw [← Bool.not_eq_false, ← made?_eq_none_iff v child s.assembly call, hmade]
        simp
      rw [(call_made hmade).1]
      cases made with
      | error error => rfl
      | ok capture => simp [Except.map, Except.toOption, hmakes]

/-- What holds of each exchange by itself holds in a run. -/
theorem forall_mem_exchanges {P : Exchange → Prop}
    (h : ∀ s event, P ⟨s, event, (serve s event).1⟩) (s : ServiceState)
    (events : List ServiceEvent) : ∀ x ∈ exchanges s events, P x := by
  induction events generalizing s with
  | nil => simp [exchanges]
  | cons event rest ih =>
    intro x hx
    rcases List.mem_cons.1 hx with rfl | hx
    · exact h s event
    · exact ih _ x hx

/-- The current capture after a run is the last that was made, or else the one before the run. -/
theorem capture?_run (s : ServiceState) (events : List ServiceEvent) :
    (run s events).capture?
      = (((exchanges s events).filterMap Exchange.captured?).getLast?).or s.capture? := by
  -- for every state before: what the first event makes is the current capture before the others
  induction events generalizing s with
  | nil => rfl
  | cons event rest ih =>
    have hrest : (run s (event :: rest)).capture? = (run (serve s event).2 rest).capture? := rfl
    rw [hrest, ih, capture?_serve, exchanges, List.filterMap_cons]
    cases Exchange.captured? ⟨s, event, (serve s event).1⟩ with
    | none => rfl
    | some capture =>
      rw [List.getLast?_cons]
      cases ((exchanges (serve s event).2 rest).filterMap Exchange.captured?).getLast? with
      | none => rfl
      | some later => rfl

/-- **The current capture is the one that the last successful call for a capture made**, and there
    is none before the first. Calls succeed if and only if they make a capture, and tell about it;
    calls that fail, calls that only look and reads keep the current capture, and the resources
    describe it. -/
theorem current_is_last_made (events : List ServiceEvent) :
    let s := run .initial events
    let last? := ((exchanges .initial events).filterMap Exchange.captured?).getLast?
    s.capture? = last?
      ∧ (∀ x ∈ exchanges .initial events, x.data? = x.captured?.map Capture.toJson)
      ∧ (∀ (v : Service) (child : Child) (call : ToolCall),
          (v.call child s call).1.isOk = false ∨ call.makes = false →
          (v.call child s call).2.capture? = s.capture?)
      ∧ (∀ resource, (serve s (.read resource)).2 = s)
      ∧ (serve s (.read .projects)).1
        = .text ((last?.map Capture.toJson).getD Resource.noProjects).toLines
      ∧ (serve s (.read .buildOutput)).1
        = .text (((last?.bind Capture.build?).map BuildResult.output).getD []) := by
  intro s last?
  have hcurrent : s.capture? = last? := by
    rw [capture?_run, ServiceState.initial, Option.or_none]
    rfl
  refine ⟨hcurrent, forall_mem_exchanges data?_serve .initial events, ?_, fun _ => rfl, ?_, ?_⟩
  · rintro v child call (hfailed | hlooks)
    · exact capture?_of_call_failed hfailed
    · rw [call_inspection ((made?_eq_none_iff v child s.assembly call).2 hlooks)]
  · rw [← hcurrent]
    rfl
  · rw [← hcurrent]
    rfl

/-- A dump of one compiler run. -/
def dumpContent : Bytes :=
  Utf8.encode ("\x7b\"language\":\"C#\",\"projectFilePath\":\"/A.csproj\","
    ++ "\"projectDirectory\":\"/\",\"commandLineArguments\":\"csc /o A.cs\"\x7d").toText

/-- The dump, a project and its source. -/
def dumpDisk : Disk :=
  ⟨((FileTree.empty.add ["dump".toText] (.file dumpContent false)).add ["A.csproj".toText]
    (.file [] false)).add ["A.cs".toText] (.file [0x61] false), "/"⟩

/-- A service beside that dump, with a build tool that the system finds. -/
def dumpService : Service :=
  ⟨⟨dumpDisk, ⟨BuildTool.defaultPath, BuildTool.defaultVerbosity⟩, "/tmp", fun _ => none⟩, 1024,
    1000, some .dump, none, [], .none, .noClient⟩

/-- A process that writes a line and records the compiler run in its log. -/
def dumpChild : Child := ⟨[0x6F, 0x6B, 0x0A], [], 0, some (.ofContent dumpContent), 0⟩

/-- A build is captured after a dump was, and a dump that is not there leaves the capture that was
    made of the build. -/
theorem current_is_last_made_missing :
    let build : ToolCall := .captureBuild (some "/A.csproj") "Debug" "AnyCPU" [] none
    let events : List ServiceEvent :=
      [.call dumpService dumpChild (.assembleInvocations "/dump"),
        .call dumpService dumpChild build]
    let s := run .initial events
    let missing : ToolCall := .assembleInvocations "/missing"
    (s.capture?.bind Capture.build?).map BuildResult.output = some "ok".toText
      ∧ s.capture? = ((exchanges .initial events).filterMap Exchange.captured?).getLast?
      ∧ (serve s (.read .buildOutput)).1 = .text "ok"
      ∧ (dumpService.call dumpChild s missing).1.isOk = false
      ∧ (dumpService.call dumpChild s missing).2.capture? = s.capture? := by
  intro build events s missing
  have houtput : (s.capture?.bind Capture.build?).map BuildResult.output = some "ok".toText := by
    decide +kernel
  have hfailed : (dumpService.call dumpChild s missing).1.isOk = false := by decide +kernel
  obtain ⟨hlast, -, hkept, -, -, htold⟩ := current_is_last_made events
  rw [← hlast, houtput] at htold
  exact ⟨houtput, hlast, htold, hfailed, hkept dumpService dumpChild missing (Or.inl hfailed)⟩

end Service

end CompileTrace
