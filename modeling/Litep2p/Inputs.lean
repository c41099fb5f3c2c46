import Litep2p.Handlers

/-! # What the connection feeds `rtc`

The remote peer and the two socket addresses are fixed by `new`: no method writes them.
Through `rtc.handle_input` the loop feeds `rtc` two kinds of input: a datagram from the
peer that converts and that `rtc` accepts, stamped with the two addresses and the read
of the clock `on_input` makes, and one `Timeout(now)` after every `select!`, with the
read made there. Over every run still in its loop these are exactly the inputs its
rounds call for, in order, and every datagram it took converted.
-/
namespace Litep2p

namespace WebRtcConnection

/-- The fields no method writes after `new`: the remote peer and the two addresses. -/
def ends (conn : WebRtcConnection) : PeerId × SocketAddr × SocketAddr :=
  (conn.remotePeerId, conn.remoteAddress, conn.localAddress)

section ends
variable (h : Helpers) (r : Round) (d : ChannelData) (conn : WebRtcConnection)

@[simp] theorem emit_ends (effects : List Effect) : (conn.emit effects).ends = conn.ends := rfl

theorem negotiateProtocol_ends : (negotiateProtocol h r d conn).2.ends = conn.ends := by
  unfold negotiateProtocol
  repeat' split
  all_goals rfl

theorem onChannelData_ends : (onChannelData h r d conn).2.ends = conn.ends := by
  unfold onChannelData
  split
  · rcases processProtocolEvent_cases h d conn with ⟨_, he⟩ | ⟨_, _, _, -, -, -, he⟩ <;> simp [he]
  · exact negotiateProtocol_ends h r d conn

theorem pollOutput_ends {result conn'} (hp : pollOutput h r conn = some (result, conn')) :
    conn'.ends = conn.ends := by
  rcases hf : r.frame? with _ | d
  · rcases pollOutput_no_frame h r conn hf hp with ⟨-, rfl⟩ | ⟨_, -, rfl⟩ <;> rfl
  · simp only [pollOutput, handleOutput, Round.frame?_eq_some.1 hf, Option.some.injEq] at hp
    rw [← onChannelData_ends h r d conn, hp]

theorem onInput_ends (buffer : Bytes) : (onInput h r buffer conn).2.ends = conn.ends := by
  unfold onInput
  repeat' split
  all_goals rfl

theorem select_ends (duration : Duration) : (select h r duration conn).2.ends = conn.ends := by
  unfold select
  split
  · rename_i message _
    have he := onInput_ends h r conn message
    rcases hi : onInput h r message conn with ⟨result, conn'⟩
    rw [hi] at he
    dsimp only
    split <;> exact he
  all_goals repeat' split
  all_goals rfl

theorem iteration_ends : (iteration h r conn).conn.ends = conn.ends := by
  rcases ha : r.alive
  · simp [iteration, ha, Task.conn]
  rcases hp : pollOutput h r conn with _ | ⟨result, conn₁⟩
  · simp [iteration, ha, hp, Task.conn]
  have h₁ := pollOutput_ends h r conn hp
  rcases result with e | (t | _)
  · simpa [iteration, ha, hp, Task.conn] using h₁
  · have h₂ := select_ends h r conn₁ (pollDuration t r.clock.cap r.clock.armed)
    rcases hs : select h r (pollDuration t r.clock.cap r.clock.armed) conn₁ with ⟨_ | result, conn₂⟩ <;> simp only [hs] at h₂
    · rcases ht : r.timeout <;> simp [iteration, ha, hp, hs, ht, Task.conn, h₁, h₂]
    · simp [iteration, ha, hp, hs, Task.conn, h₁, h₂]
  · simpa [iteration, ha, hp, Task.conn] using h₁

theorem iteration_running_ends {conn' : WebRtcConnection} (he : iteration h r conn = .running conn') :
    conn'.ends = conn.ends := by
  simpa [he, Task.conn] using iteration_ends h r conn

end ends
end WebRtcConnection

/-! ## Inputs to `rtc` -/

def Effect.input? : Effect → Option Input
  | .handleInput input => some input
  | _ => none

def rtcInputs (trace : List Effect) : List Input := trace.filterMap Effect.input?

@[simp] theorem rtcInputs_append (t t' : List Effect) : rtcInputs (t ++ t') = rtcInputs t ++ rtcInputs t' :=
  List.filterMap_append ..

@[simp] theorem rtcInputs_handleInput (input : Input) : rtcInputs [.handleInput input] = [input] := rfl

def Wake.datagram? : Wake → Option Bytes
  | .datagram message => message
  | _ => none

/-- The datagram the `select!` of a round takes from `dgram_rx`, if it does: `poll_output`
yields a timeout and the datagram branch wins the timer armed for it. -/
def Round.datagram? (r : Round) : Option Bytes :=
  match r.output with
  | .ok (.timeout t) =>
    match r.wake (WebRtcConnection.pollDuration t r.clock.cap r.clock.armed) with
    | .datagram message => message
    | _ => none
  | _ => none

/-- What `on_input` feeds `rtc` for a datagram: its contents, if they convert and `rtc`
accepts them, as received from the remote at the local address, stamped with the read
of the clock `on_input` makes. -/
def Round.received (h : Helpers) (remoteAddress localAddress : SocketAddr) (r : Round) (buffer : Bytes) :
    List Input :=
  match h.tryIntoContents buffer with
  | some contents =>
    if r.accepts then [.receive r.clock.received ⟨remoteAddress, localAddress, contents⟩] else []
  | none => []

/-- What a round feeds `rtc` when the loop goes on through it: on a timeout from
`poll_output`, what `on_input` feeds it for the datagram the `select!` took, if any, then
`Input::Timeout(now)` with the read of the clock made after the `select!`. -/
def Round.inputs (h : Helpers) (remoteAddress localAddress : SocketAddr) (r : Round) : List Input :=
  match r.output with
  | .ok (.timeout _) =>
    (r.datagram?.map (r.received h remoteAddress localAddress)).getD [] ++ [.timeout r.clock.ticked]
  | _ => []

section rounds
variable {h : Helpers} {remoteAddress localAddress : SocketAddr} {r : Round}

theorem Round.datagram?_of_not_timeout (ho : ∀ t, r.output ≠ .ok (.timeout t)) : r.datagram? = none := by
  unfold Round.datagram?
  split
  · next t h => exact absurd h (ho t)
  · rfl

theorem Round.inputs_of_not_timeout (ho : ∀ t, r.output ≠ .ok (.timeout t)) :
    r.inputs h remoteAddress localAddress = [] := by
  unfold Round.inputs
  split
  · next t h => exact absurd h (ho t)
  · rfl

theorem Round.datagram?_of_timeout {t : Instant} (ho : r.output = .ok (.timeout t)) :
    r.datagram? = (r.wake (WebRtcConnection.pollDuration t r.clock.cap r.clock.armed)).datagram? := by
  simp only [Round.datagram?, ho]
  cases r.wake (WebRtcConnection.pollDuration t r.clock.cap r.clock.armed) <;> rfl

theorem Round.inputs_of_timeout {t : Instant} (ho : r.output = .ok (.timeout t)) :
    r.inputs h remoteAddress localAddress =
      (r.datagram?.map (r.received h remoteAddress localAddress)).getD [] ++ [.timeout r.clock.ticked] := by
  simp only [Round.inputs, ho]

end rounds

namespace WebRtcConnection
variable (h : Helpers) (r : Round) (conn : WebRtcConnection)

theorem onInput_inputs (buffer : Bytes) :
    rtcInputs (onInput h r buffer conn).2.trace =
      rtcInputs conn.trace ++ r.received h conn.remoteAddress conn.localAddress buffer := by
  unfold onInput Round.received
  rcases h.tryIntoContents buffer with _ | contents
  · simp
  rcases r.accepts <;> rcases r.handled <;> simp

theorem select_running_inputs {duration : Duration} (hs : (select h r duration conn).1 = none) :
    (∀ buffer, (r.wake duration).datagram? = some buffer → h.tryIntoContents buffer ≠ none) ∧
    rtcInputs (select h r duration conn).2.trace = rtcInputs conn.trace ++
      ((r.wake duration).datagram?.map (r.received h conn.remoteAddress conn.localAddress)).getD [] := by
  rcases hwake : r.wake duration with (_ | buffer) | event | (_ | _) | _
  · simp [select, hwake] at hs
  · refine ⟨fun _ hb hc => ?_, ?_⟩
    · cases hb
      simp [select, hwake, onInput, hc] at hs
    simp only [select, hwake, Wake.datagram?, Option.map_some', Option.getD_some]
    split <;> exact onInput_inputs h r conn buffer
  · rcases select_running_cases h r conn hs with ⟨hw, -⟩ | ⟨_, _, _, -, -, he⟩
    · exact absurd hwake (hw event)
    · simp [he, Wake.datagram?, rtcInputs, Effect.input?]
  · simp [select, hwake] at hs
  all_goals simp [select, hwake, Wake.datagram?]

theorem iteration_running_inputs {conn' : WebRtcConnection} (he : iteration h r conn = .running conn') :
    rtcInputs conn'.trace = rtcInputs conn.trace ++ r.inputs h conn.remoteAddress conn.localAddress ∧
    ∀ buffer, r.datagram? = some buffer → h.tryIntoContents buffer ≠ none := by
  rcases hf : r.frame? with _ | d
  · rcases iteration_running_no_frame_cases h r conn he hf with ⟨ho, hc⟩ | ⟨t, ho, hs, rfl⟩
    · rw [Round.inputs_of_not_timeout ho, Round.datagram?_of_not_timeout ho]
      rcases hc with ⟨-, rfl⟩ | ⟨_, -, rfl⟩ <;> simp [rtcInputs, Effect.input?]
    · obtain ⟨hconv, hsel⟩ := select_running_inputs h r conn hs
      rw [Round.inputs_of_timeout ho, Round.datagram?_of_timeout ho]
      exact ⟨by simp [hsel], hconv⟩
  · have ho : ∀ t, r.output ≠ .ok (.timeout t) := fun t ho => by simp [Round.frame?_eq_some.1 hf] at ho
    rw [Round.inputs_of_not_timeout ho, Round.datagram?_of_not_timeout ho]
    rcases iteration_running_cases h r conn he with ⟨hf', -⟩ | ⟨_, _, _, _, -, -, -, -, rfl⟩ |
      ⟨_, _, _, -, -, -, rfl⟩
    · simp [hf] at hf'
    all_goals simp [rtcInputs, Effect.input?]

section feeds
variable {h : Helpers} {remoteAddress localAddress : SocketAddr} {rs : List Round} {r : Round}
  {conn conn' : WebRtcConnection}

/-- The input invariant after the rounds `rs`: the addresses as `new` set them, every
datagram taken converted, and `rtc` fed exactly what the rounds call for. -/
structure Feeds (h : Helpers) (remoteAddress localAddress : SocketAddr) (rs : List Round)
    (conn : WebRtcConnection) : Prop where
  addresses : conn.remoteAddress = remoteAddress ∧ conn.localAddress = localAddress
  converted : ∀ r ∈ rs, ∀ buffer, r.datagram? = some buffer → h.tryIntoContents buffer ≠ none
  inputs : rtcInputs conn.trace = rs.flatMap (Round.inputs h remoteAddress localAddress)

theorem Feeds.iteration (hf : Feeds h remoteAddress localAddress rs conn) (he : iteration h r conn = .running conn') :
    Feeds h remoteAddress localAddress (rs ++ [r]) conn' := by
  obtain ⟨hi, hd⟩ := iteration_running_inputs h r conn he
  have hends := iteration_running_ends h r conn he
  simp only [ends, Prod.mk.injEq] at hends
  obtain ⟨hra, hla⟩ := hf.addresses
  refine ⟨⟨hends.2.1.trans hra, hends.2.2.trans hla⟩,
    List.forall_mem_append.2 ⟨hf.converted, List.forall_mem_singleton.2 hd⟩, ?_⟩
  rw [hi, hf.inputs, hra, hla, List.flatMap_append]
  simp

end feeds

/-- Over every run from `new` that is still in its loop: every datagram it took from
`dgram_rx` converted into `str0m` contents, and the inputs fed to `rtc.handle_input` are
exactly those its rounds call for, in order: each datagram `rtc` accepted, as received from
the remote at the local address `new` was given and stamped with `on_input`'s read of the
clock, and a `Timeout(now)` after every `select!`, stamped with the read made there. -/
theorem run_feeds_rtc_in_order (h : Helpers) (peer : PeerId) (remoteAddress localAddress : SocketAddr)
    (context : TransportContext) (rs : List Round) (conn : WebRtcConnection)
    (hrun : run h rs (new peer remoteAddress localAddress context) = .running conn) :
    (∀ r ∈ rs, ∀ buffer, r.datagram? = some buffer → h.tryIntoContents buffer ≠ none) ∧
    rtcInputs conn.trace = rs.flatMap (Round.inputs h remoteAddress localAddress) := by
  have hf : Feeds h remoteAddress localAddress rs conn := by
    simpa using run_running_induction h (fun _ _ _ _ hf he => hf.iteration he) rs []
      (new peer remoteAddress localAddress context) conn ⟨⟨rfl, rfl⟩, by simp, rfl⟩ hrun
  exact ⟨hf.converted, hf.inputs⟩

theorem run_feeds_rtc_in_order_around_a_frame :
    let rs : List Round := [.ofOutput (.timeout 0) (.datagram (some [5])), .ofFrame 5 [1],
      .ofOutput (.timeout 0) .sleep]
    let conn := (run exampleHelpers rs exampleConnection).conn
    run exampleHelpers rs exampleConnection = .running conn ∧
      (∀ r ∈ rs, ∀ buffer, r.datagram? = some buffer → exampleHelpers.tryIntoContents buffer ≠ none) ∧
      rtcInputs conn.trace = rs.flatMap (Round.inputs exampleHelpers ⟨2⟩ ⟨3⟩) := by
  intro rs conn
  exact ⟨rfl, run_feeds_rtc_in_order exampleHelpers ⟨1⟩ ⟨2⟩ ⟨3⟩ ⟨[⟨"/notif/1"⟩]⟩ rs conn rfl⟩

end WebRtcConnection
end Litep2p
