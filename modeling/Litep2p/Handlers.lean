import Litep2p.Connection

/-! # What each handler can do

One inversion lemma a handler. Every handler but `on_channel_data` leaves `id_mapping`,
`channels`, the counter and the backend alone and makes only calls that reach neither
a substream nor the protocol set (`Quiet`). `on_channel_data` either fails having at
most written on a channel, sends one message on a substream's `tx`, or opens one
substream (`negotiated`).
-/
namespace Litep2p

/-- Calls that reach the protocol side: a message on a substream's `tx`, or a
substream reported open to the protocol set. -/
def Effect.reachesProtocol : Effect → Bool
  | .send .. | .reportSubstreamOpen .. => true
  | _ => false

def Effect.sentOn (tx : Sender) : Effect → Option Bytes
  | .send tx' message => if tx' = tx then some message else none
  | _ => none

def Effect.report? : Effect → Option (PeerId × ProtocolName × Direction × Substream)
  | .reportSubstreamOpen peer protocol direction substream => some (peer, protocol, direction, substream)
  | _ => none

def sentOn (tx : Sender) (trace : List Effect) : List Bytes := trace.filterMap (Effect.sentOn tx)

def reports (trace : List Effect) : List (PeerId × ProtocolName × Direction × Substream) :=
  trace.filterMap Effect.report?

@[simp] theorem sentOn_append (tx : Sender) (t t' : List Effect) :
    sentOn tx (t ++ t') = sentOn tx t ++ sentOn tx t' := List.filterMap_append ..
@[simp] theorem reports_append (t t' : List Effect) : reports (t ++ t') = reports t ++ reports t' :=
  List.filterMap_append ..

theorem sentOn_eq_nil {tx : Sender} {es : List Effect} (hes : ∀ e ∈ es, e.reachesProtocol = false) :
    sentOn tx es = [] := by
  refine List.filterMap_eq_nil_iff.2 fun e he => ?_
  have := hes e he
  cases e <;> simp_all [Effect.reachesProtocol, Effect.sentOn]

theorem reports_eq_nil {es : List Effect} (hes : ∀ e ∈ es, e.reachesProtocol = false) :
    reports es = [] := by
  refine List.filterMap_eq_nil_iff.2 fun e he => ?_
  have := hes e he
  cases e <;> simp_all [Effect.reachesProtocol, Effect.report?]

/-- `conn'` is `conn` with the maps, the counter, the backend and the transport context
as they were, and calls appended that all satisfy `p`. -/
structure Appends (p : Effect → Prop) (conn conn' : WebRtcConnection) : Prop where
  idMapping : conn'.idMapping = conn.idMapping
  channels : conn'.channels = conn.channels
  substreamId : conn'.substreamId = conn.substreamId
  backend : conn'.backend = conn.backend
  context : conn'.context = conn.context
  trace : ∃ es, conn'.trace = conn.trace ++ es ∧ ∀ e ∈ es, p e

abbrev Quiet := Appends fun e => e.reachesProtocol = false

/-- Calls that feed `rtc`: `handle_input` and a write on a channel. -/
def Effect.feedsRtc : Effect → Prop
  | .handleInput _ | .write _ _ => True
  | _ => False

namespace Appends
variable {p q : Effect → Prop} {conn conn' conn'' : WebRtcConnection}

@[refl] theorem refl (conn : WebRtcConnection) : Appends p conn conn :=
  ⟨rfl, rfl, rfl, rfl, rfl, [], by simp, by simp⟩

theorem trans (h₁ : Appends p conn conn') (h₂ : Appends p conn' conn'') : Appends p conn conn'' := by
  obtain ⟨es₁, ht₁, hq₁⟩ := h₁.trace
  obtain ⟨es₂, ht₂, hq₂⟩ := h₂.trace
  refine ⟨h₂.1.trans h₁.1, h₂.2.trans h₁.2, h₂.3.trans h₁.3, h₂.4.trans h₁.4, h₂.5.trans h₁.5, es₁ ++ es₂,
    ?_, ?_⟩
  · rw [ht₂, ht₁, List.append_assoc]
  · simpa [or_imp, forall_and] using And.intro hq₁ hq₂

theorem emit {es : List Effect} (hes : ∀ e ∈ es, p e) : Appends p conn (conn.emit es) :=
  ⟨rfl, rfl, rfl, rfl, rfl, es, rfl, hes⟩

theorem mono (h : Appends p conn conn') (hpq : ∀ e, p e → q e) : Appends q conn conn' :=
  let ⟨es, ht, hes⟩ := h.trace
  ⟨h.1, h.2, h.3, h.4, h.5, es, ht, fun e he => hpq e (hes e he)⟩

theorem quiet (h : Appends Effect.feedsRtc conn conn') : Quiet conn conn' :=
  h.mono fun e he => by cases e <;> simp_all [Effect.feedsRtc, Effect.reachesProtocol]

theorem sentOn_eq (hq : Quiet conn conn') (tx : Sender) :
    sentOn tx conn'.trace = sentOn tx conn.trace := by
  obtain ⟨es, ht, hes⟩ := hq.trace
  simp [ht, sentOn_eq_nil hes]

theorem reports_eq (hq : Quiet conn conn') : reports conn'.trace = reports conn.trace := by
  obtain ⟨es, ht, hes⟩ := hq.trace
  simp [ht, reports_eq_nil hes]

end Appends

namespace WebRtcConnection
variable (h : Helpers) (r : Round) (d : ChannelData) (conn : WebRtcConnection)

/-- The code's first step reads the payload the wire format defines. -/
theorem decodePayload_eq_ok (data : Bytes) {payload : Bytes} :
    decodePayload h data = .ok payload ↔ h.payloadOf data = some payload := by
  unfold decodePayload Helpers.payloadOf
  rcases h.decode data with _ | ⟨_ | p, f⟩ <;> simp

/-- The connection after `negotiate_protocol` opened a substream for channel `c`:
the counter's value is the new id, `(c, id)` enters both maps, the response is
written to `c` and the substream is reported open, inbound. -/
def negotiated (c : ChannelId) (protocol : ProtocolName) (message : Bytes) : WebRtcConnection :=
  { conn with
    substreamId := ⟨conn.substreamId.id + 1⟩
    backend := ⟨conn.backend.substreams ++ [conn.substreamId]⟩
    idMapping := conn.idMapping.insert c conn.substreamId
    channels := conn.channels.insert conn.substreamId ⟨c, ⟨conn.substreamId⟩⟩
    trace := conn.trace ++
      [.write c message, .reportSubstreamOpen conn.remotePeerId protocol .inbound ⟨conn.substreamId⟩] }

section negotiated
variable (c : ChannelId) (protocol : ProtocolName) (message : Bytes)
@[simp] theorem negotiated_idMapping :
    (conn.negotiated c protocol message).idMapping = conn.idMapping.insert c conn.substreamId := rfl
@[simp] theorem negotiated_channels : (conn.negotiated c protocol message).channels =
    conn.channels.insert conn.substreamId ⟨c, ⟨conn.substreamId⟩⟩ := rfl
@[simp] theorem negotiated_substreamId :
    (conn.negotiated c protocol message).substreamId = ⟨conn.substreamId.id + 1⟩ := rfl
@[simp] theorem negotiated_backend :
    (conn.negotiated c protocol message).backend = ⟨conn.backend.substreams ++ [conn.substreamId]⟩ := rfl
@[simp] theorem negotiated_trace : (conn.negotiated c protocol message).trace = conn.trace ++
    [.write c message, .reportSubstreamOpen conn.remotePeerId protocol .inbound ⟨conn.substreamId⟩] := rfl
end negotiated

/-- All five fallible steps of `negotiate_protocol` succeed: the frame decodes, it has
a payload, `listener_negotiate` picks `protocol` with `response`, the channel exists
and the write goes through. -/
def Negotiates (protocol : ProtocolName) (response : Bytes) : Prop :=
  ∃ payload, h.payloadOf d.data = some payload ∧
    h.listenerNegotiate conn.context.protocols payload = .ok (protocol, response) ∧
    r.channel = some (.ok ())

/-- `negotiate_protocol` fails with the connection's maps, counter and backend as they
were, having fed `rtc` at most the write of its response, or succeeds with `negotiated`. -/
theorem negotiateProtocol_cases :
    (∃ e, (negotiateProtocol h r d conn).1 = .error e ∧
      Appends Effect.feedsRtc conn (negotiateProtocol h r d conn).2 ∧
      ∀ protocol response, ¬ Negotiates h r d conn protocol response) ∨
    ∃ protocol response, Negotiates h r d conn protocol response ∧
      negotiateProtocol h r d conn = (.ok .noop, conn.negotiated d.id protocol (h.encode response none)) := by
  rcases hp : decodePayload h d.data with e | payload
  · have he : negotiateProtocol h r d conn = (.error e, conn) := by simp [negotiateProtocol, hp]
    exact .inl ⟨e, by rw [he], by rw [he], by simp [Negotiates, ← decodePayload_eq_ok, hp]⟩
  rcases hl : h.listenerNegotiate conn.context.protocols payload with e | ⟨protocol, response⟩
  · have he : negotiateProtocol h r d conn = (.error e, conn) := by simp [negotiateProtocol, hp, hl]
    exact .inl ⟨e, by rw [he], by rw [he], by simp [Negotiates, ← decodePayload_eq_ok, hp, hl]⟩
  rcases hc : r.channel with _ | (e | u)
  · have he : negotiateProtocol h r d conn = (.error .channelDoesntExist, conn) := by
      simp [negotiateProtocol, hp, hl, hc]
    exact .inl ⟨_, by rw [he], by rw [he], by simp [Negotiates, hc]⟩
  · have he : negotiateProtocol h r d conn =
        (.error (.webRtc e), conn.emit [.write d.id (h.encode response none)]) := by
      simp [negotiateProtocol, hp, hl, hc]
    exact .inl ⟨_, by rw [he], by rw [he]; exact .emit (by simp [Effect.feedsRtc]),
      by simp [Negotiates, hc]⟩
  · exact .inr ⟨protocol, response, ⟨payload, (decodePayload_eq_ok h _).1 hp, hl, hc⟩,
      by simp [negotiateProtocol, hp, hl, hc]; rfl⟩

theorem processProtocolEvent_cases :
    (∃ e, processProtocolEvent h d conn = (.error e, conn)) ∨
    ∃ s context payload, conn.idMapping.lookup d.id = some s ∧ conn.channels.lookup s = some context ∧
      h.payloadOf d.data = some payload ∧
      processProtocolEvent h d conn = (.ok .noop, conn.emit [.send context.tx payload]) := by
  rcases hp : decodePayload h d.data with e | payload
  · exact .inl ⟨e, by simp [processProtocolEvent, hp]⟩
  rcases Option.eq_none_or_eq_some (conn.idMapping.lookup d.id) with hm | ⟨s, hm⟩
  · exact .inl ⟨.channelDoesntExist, by simp [processProtocolEvent, hp, hm]⟩
  rcases Option.eq_none_or_eq_some (conn.channels.lookup s) with hc | ⟨context, hc⟩
  · exact .inl ⟨.channelDoesntExist, by simp [processProtocolEvent, hp, hm, hc]⟩
  · exact .inr ⟨s, context, payload, hm, hc, (decodePayload_eq_ok h _).1 hp,
      by simp [processProtocolEvent, hp, hm, hc]⟩

/-- `on_channel_data` fails having fed `rtc` at most a write, forwards the payload of a
frame on a negotiated channel, or negotiates a fresh channel. -/
theorem onChannelData_cases :
    (∃ e, (onChannelData h r d conn).1 = .error e ∧ Appends Effect.feedsRtc conn (onChannelData h r d conn).2) ∨
    (∃ s context payload, conn.idMapping.lookup d.id = some s ∧ conn.channels.lookup s = some context ∧
      h.payloadOf d.data = some payload ∧
      onChannelData h r d conn = (.ok .noop, conn.emit [.send context.tx payload])) ∨
    ∃ protocol response, conn.idMapping.lookup d.id = none ∧ Negotiates h r d conn protocol response ∧
      onChannelData h r d conn = (.ok .noop, conn.negotiated d.id protocol (h.encode response none)) := by
  rcases Option.eq_none_or_eq_some (conn.idMapping.lookup d.id) with hm | ⟨s, hm⟩
  · rw [show onChannelData h r d conn = negotiateProtocol h r d conn by simp [onChannelData, hm]]
    rcases negotiateProtocol_cases h r d conn with ⟨e, he, hq, -⟩ | ⟨p, response, hn, he⟩
    · exact .inl ⟨e, he, hq⟩
    · exact .inr (.inr ⟨p, response, hm, hn, he⟩)
  · rw [show onChannelData h r d conn = processProtocolEvent h d conn by simp [onChannelData, hm]]
    rcases processProtocolEvent_cases h d conn with ⟨e, he⟩ | hs
    · exact .inl ⟨e, by rw [he], by rw [he]⟩
    · exact .inr (.inl hs)

theorem pollOutput_no_frame (hf : r.frame? = none) {result conn'} (he : pollOutput h r conn = some (result, conn')) :
    (r.transmit? = none ∧ conn' = conn) ∨
      ∃ transmit, r.transmit? = some transmit ∧ conn' = conn.emit [.transmit transmit] := by
  rcases ho : r.output with e | (t | t | (_ | v | _ | d | _ | _)) <;>
    simp [pollOutput, handleOutput, ho, Round.frame?, Round.transmit?] at he hf ⊢
  case ok.transmit => exact he.2.2.symm
  case ok.event.iceConnectionStateChange => split at he <;> cases he <;> rfl
  all_goals exact he.2.symm

theorem pollOutput_transmits (hf : r.frame? = none) {result conn'}
    (he : pollOutput h r conn = some (result, conn')) : Appends (fun e => ∃ t, e = .transmit t) conn conn' := by
  rcases pollOutput_no_frame h r conn hf he with ⟨-, rfl⟩ | ⟨t, -, rfl⟩
  · rfl
  · exact .emit (by simp)

theorem pollOutput_quiet (hf : r.frame? = none) {result conn'}
    (he : pollOutput h r conn = some (result, conn')) : Quiet conn conn' :=
  (pollOutput_transmits h r conn hf he).mono fun _ ⟨_, he⟩ => he ▸ rfl

theorem pollOutput_timeout {t : Instant} {conn' : WebRtcConnection}
    (hp : pollOutput h r conn = some (.ok (.timeout t), conn')) : r.output = .ok (.timeout t) ∧ conn' = conn := by
  rcases ho : r.output with e | (t' | t' | (_ | v | _ | d | _ | _)) <;>
    simp [pollOutput, handleOutput, ho] at hp
  case ok.timeout => exact ⟨by rw [hp.1], hp.2.symm⟩
  case ok.event.iceConnectionStateChange => split at hp <;> simp at hp
  case ok.event.channelData =>
    rcases onChannelData_cases h r d conn with ⟨_, he, -⟩ | ⟨_, _, _, -, -, -, he⟩ | ⟨_, _, -, -, he⟩ <;>
      (rw [hp] at he; simp at he)

theorem onInput_handlesInput (buffer : Bytes) :
    Appends (fun e => ∃ i, e = .handleInput i) conn (onInput h r buffer conn).2 := by
  unfold onInput
  split
  · rfl
  · split
    · split <;> exact .emit (by simp)
    · rfl

theorem onInput_feedsRtc (buffer : Bytes) : Appends Effect.feedsRtc conn (onInput h r buffer conn).2 :=
  (onInput_handlesInput h r conn buffer).mono fun _ ⟨_, he⟩ => he ▸ trivial

theorem select_feedsRtc (duration : Duration) : Appends Effect.feedsRtc conn (select h r duration conn).2 := by
  unfold select
  split
  · rename_i message _
    have hq := onInput_feedsRtc h r conn message
    rcases hi : onInput h r message conn with ⟨result, conn'⟩
    rw [hi] at hq
    dsimp only
    split <;> exact hq
  all_goals repeat' split
  all_goals first | rfl | exact .emit (by simp [Effect.feedsRtc])

theorem select_backend {duration : Duration} {s : SubstreamId} {message : Bytes}
    {context : SubstreamContext} (hw : r.wake duration = .backend (some (s, message)))
    (hc : conn.channels.lookup s = some context) :
    (select h r duration conn).2 =
      if r.channel.isSome then conn.emit [.write context.channelId message] else conn := by
  rcases hch : r.channel with _ | (e | u) <;> simp [select, hw, hc, hch]

theorem select_running_cases {duration : Duration} (hs : (select h r duration conn).1 = none) :
    ((∀ event, r.wake duration ≠ .backend event) ∧
      Appends (fun e => ∃ i, e = .handleInput i) conn (select h r duration conn).2) ∨
    ∃ s message context, r.wake duration = .backend (some (s, message)) ∧
      conn.channels.lookup s = some context ∧
      (select h r duration conn).2 = conn.emit [.write context.channelId message] := by
  rcases hw : r.wake duration with (_ | message) | (_ | ⟨s, message⟩) | (_ | command) | _ <;>
    simp only [select, hw, reduceCtorEq] at hs ⊢
  case datagram.some =>
    refine .inl ⟨by simp, ?_⟩
    split <;> exact onInput_handlesInput h r conn message
  case backend.some =>
    rcases hc : conn.channels.lookup s with _ | context
    · simp [hc] at hs
    rcases hch : r.channel with _ | (e | u) <;> simp [hc, hch] at hs
    exact .inr ⟨s, message, context, rfl, hc, by simp [hc, hch]⟩
  all_goals exact .inl ⟨by simp, by rfl⟩

end WebRtcConnection

theorem Round.frame?_eq_some {r : Round} {d : ChannelData} :
    r.frame? = some d ↔ r.output = .ok (.event (.channelData d)) := by
  unfold Round.frame?
  split <;> simp_all

namespace WebRtcConnection
variable (h : Helpers) (r : Round) (conn : WebRtcConnection)

theorem iteration_quiet (hf : r.alive = false ∨ r.frame? = none) :
    Quiet conn (iteration h r conn).conn := by
  rcases ha : r.alive
  · simpa [iteration, ha, Task.conn] using Appends.refl conn
  have hf : r.frame? = none := by simpa [ha] using hf
  rcases hp : pollOutput h r conn with _ | ⟨result, conn'⟩
  · simpa [iteration, ha, hp, Task.conn] using Appends.refl conn
  have hq := pollOutput_quiet h r conn hf hp
  rcases result with e | (t | _)
  · simpa [iteration, ha, hp, Task.conn] using hq.trans (.emit (by simp [Effect.reachesProtocol]))
  · have hs := (select_feedsRtc h r conn' (pollDuration t r.clock.cap r.clock.armed)).quiet
    rcases hsel : select h r (pollDuration t r.clock.cap r.clock.armed) conn' with ⟨_ | result, conn''⟩ <;> rw [hsel] at hs
    · have he : Quiet conn (conn''.emit [.handleInput (.timeout r.clock.ticked)]) :=
        hq.trans (hs.trans (.emit (by simp [Effect.reachesProtocol])))
      rcases ht : r.timeout with _ | _
      · simpa [iteration, ha, hp, hsel, ht, Task.conn] using
          he.trans (.emit (by simp [Effect.reachesProtocol]))
      · simpa [iteration, ha, hp, hsel, ht, Task.conn] using he
    · simpa [iteration, ha, hp, hsel, Task.conn] using hq.trans hs
  · simpa [iteration, ha, hp, Task.conn] using hq

theorem iteration_frame {d : ChannelData} (ha : r.alive = true) (hf : r.frame? = some d) :
    (∃ e, (onChannelData h r d conn).1 = .error e ∧
      iteration h r conn = .returned (.ok ()) ((onChannelData h r d conn).2.emit [.disconnect])) ∨
    ((onChannelData h r d conn).1 = .ok .noop ∧ iteration h r conn = .running (onChannelData h r d conn).2) := by
  have hp : pollOutput h r conn = some (onChannelData h r d conn) := by
    simp [pollOutput, handleOutput, Round.frame?_eq_some.1 hf]
  rcases onChannelData_cases h r d conn with ⟨e, he, -⟩ | ⟨_, _, _, -, -, -, he⟩ | ⟨_, _, -, -, he⟩
  · refine .inl ⟨e, he, ?_⟩
    rcases hc : onChannelData h r d conn with ⟨result, conn'⟩
    obtain rfl : result = .error e := by rw [hc] at he; exact he
    simp [iteration, ha, hp, hc]
  all_goals exact .inr ⟨by rw [he], by simp [iteration, ha, hp, he]⟩

/-- What an iteration that keeps the loop going did: took no frame and stayed quiet,
forwarded a frame's payload to its channel's substream, or opened a substream for the
frame's channel. -/
theorem iteration_running_cases {conn' : WebRtcConnection} (he : iteration h r conn = .running conn') :
    (r.frame? = none ∧ Quiet conn conn') ∨
    (∃ d s context payload, r.frame? = some d ∧ conn.idMapping.lookup d.id = some s ∧
      conn.channels.lookup s = some context ∧ h.payloadOf d.data = some payload ∧
      conn' = conn.emit [.send context.tx payload]) ∨
    ∃ d protocol response, r.frame? = some d ∧ conn.idMapping.lookup d.id = none ∧
      Negotiates h r d conn protocol response ∧ conn' = conn.negotiated d.id protocol (h.encode response none) := by
  rcases ha : r.alive
  · simp [iteration, ha] at he
  rcases hf : r.frame? with _ | d
  · have hq := iteration_quiet h r conn (.inr hf)
    rw [he] at hq
    exact .inl ⟨rfl, hq⟩
  rcases iteration_frame h r conn ha hf with ⟨-, -, he'⟩ | ⟨hok, he'⟩ <;> rw [he'] at he <;> cases he
  rcases onChannelData_cases h r d conn with ⟨e, herr, -⟩ | ⟨s, context, payload, hs, hc, hp, heq⟩ |
    ⟨protocol, response, hs, hn, heq⟩
  · rw [hok] at herr; cases herr
  · exact .inr (.inl ⟨d, s, context, payload, rfl, hs, hc, hp, by rw [heq]⟩)
  · exact .inr (.inr ⟨d, protocol, response, rfl, hs, hn, by rw [heq]⟩)

/-- An iteration that keeps the loop going and takes no frame either took an output other
than a timeout from `poll_output` and sent at most its datagram, or armed the timer on a
timeout, found the `select!` going on, and fed `rtc` the timeout. -/
theorem iteration_running_no_frame_cases {conn' : WebRtcConnection} (he : iteration h r conn = .running conn')
    (hf : r.frame? = none) :
    ((∀ t, r.output ≠ .ok (.timeout t)) ∧ ((r.transmit? = none ∧ conn' = conn) ∨
      ∃ transmit, r.transmit? = some transmit ∧ conn' = conn.emit [.transmit transmit])) ∨
    ∃ t, r.output = .ok (.timeout t) ∧ (select h r (pollDuration t r.clock.cap r.clock.armed) conn).1 = none ∧
      conn' = (select h r (pollDuration t r.clock.cap r.clock.armed) conn).2.emit [.handleInput (.timeout r.clock.ticked)] := by
  rcases ha : r.alive
  · simp [iteration, ha] at he
  rcases hp : pollOutput h r conn with _ | ⟨(_ | ⟨t⟩ | _), conn₁⟩ <;> simp [iteration, ha, hp] at he
  case true.some.mk.ok.noop =>
    subst he
    exact .inl ⟨fun t ho => by simp [pollOutput, handleOutput, ho] at hp, pollOutput_no_frame h r conn hf hp⟩
  obtain ⟨ho, rfl⟩ := pollOutput_timeout h r conn hp
  rcases hs : select h r (pollDuration t r.clock.cap r.clock.armed) conn₁ with ⟨_ | _, conn₂⟩ <;> simp only [hs, reduceCtorEq] at he
  rcases ht : r.timeout <;> simp only [ht, reduceCtorEq, Task.running.injEq] at he
  exact .inr ⟨t, ho, by rw [hs], by rw [hs, he]⟩

theorem iteration_running_context {conn' : WebRtcConnection} (he : iteration h r conn = .running conn') :
    conn'.context = conn.context := by
  rcases iteration_running_cases h r conn he with ⟨-, hq⟩ | ⟨_, _, _, _, -, -, -, -, rfl⟩ | ⟨_, _, _, -, -, -, rfl⟩
  · exact hq.context
  all_goals rfl

/-- A property that every iteration keeps holds of every state a run reaches, the
last one included. -/
theorem run_preserves {P : WebRtcConnection → Prop}
    (hstep : ∀ r conn, P conn → P (iteration h r conn).conn) (rs : List Round) (conn : WebRtcConnection)
    (hc : P conn) : P (run h rs conn).conn := by
  induction rs generalizing conn with
  | nil => exact hc
  | cons r rs ih =>
    have hi := hstep r conn hc
    unfold run
    split
    · next conn' heq => exact ih conn' (by rwa [heq] at hi)
    · exact hi

/-- The same over the rounds a run has consumed, for a run still in its loop. -/
theorem run_running_induction {P : List Round → WebRtcConnection → Prop}
    (hstep : ∀ rs r conn conn', P rs conn → iteration h r conn = .running conn' → P (rs ++ [r]) conn')
    (rs pre : List Round) (conn conn' : WebRtcConnection) (hc : P pre conn)
    (hrun : run h rs conn = .running conn') : P (pre ++ rs) conn' := by
  induction rs generalizing pre conn with
  | nil => cases hrun; simpa using hc
  | cons r rs ih =>
    unfold run at hrun
    split at hrun
    · next conn₁ heq => simpa using ih (pre ++ [r]) conn₁ (hstep pre r conn conn₁ hc heq) hrun
    · next hne => exact absurd hrun (hne conn')

theorem run_running_or_stopped (rs : List Round) (conn : WebRtcConnection) :
    (∃ conn', run h rs conn = .running conn') ∨
    ∃ pre r conn', run h pre conn = .running conn' ∧ run h rs conn = iteration h r conn' := by
  induction rs generalizing conn with
  | nil => exact .inl ⟨conn, rfl⟩
  | cons r rs ih =>
    rcases hi : iteration h r conn with conn₁ | ⟨result, conn₁⟩ | conn₁
    · rcases ih conn₁ with ⟨conn', hrun⟩ | ⟨pre, r', conn', hrun, he⟩
      · exact .inl ⟨conn', by simp [run, hi, hrun]⟩
      · exact .inr ⟨r :: pre, r', conn', by simp [run, hi, hrun], by simp [run, hi, he]⟩
    all_goals exact .inr ⟨[], r, conn, rfl, by simp [run, hi]⟩

end WebRtcConnection
end Litep2p
