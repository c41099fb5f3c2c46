import Litep2p.Delivery

/-! # In-order writes per channel, and datagrams to the socket

The other direction of the engine: what it writes on a channel. The first write on a
channel is the encoded `listener_negotiate` response to the payload of its first frame;
every later one is a message that the channel's substream gave the backend, in the
order the `select!` took them. A channel that has sent no frame is never written to.
Below the channels, every datagram `rtc` asks for goes out on the socket once, in order.
-/
namespace Litep2p

def Effect.writtenOn (c : ChannelId) : Effect → Option Bytes
  | .write c' message => if c' = c then some message else none
  | _ => none

def writesOn (c : ChannelId) (trace : List Effect) : List Bytes := trace.filterMap (Effect.writtenOn c)

@[simp] theorem writesOn_append (c : ChannelId) (t t' : List Effect) :
    writesOn c (t ++ t') = writesOn c t ++ writesOn c t' := List.filterMap_append ..

@[simp] theorem writesOn_write (c c' : ChannelId) (message : Bytes) :
    writesOn c [.write c' message] = if c' = c then [message] else [] := by
  by_cases hc : c' = c <;> simp [writesOn, Effect.writtenOn, hc]

abbrev NoWrites := Appends fun e => ∀ c, e.writtenOn c = none

theorem NoWrites.writesOn_eq {conn conn' : WebRtcConnection} (hq : NoWrites conn conn') (c : ChannelId) :
    writesOn c conn'.trace = writesOn c conn.trace := by
  obtain ⟨es, ht, hes⟩ := hq.trace
  simp [ht, writesOn, List.filterMap_eq_nil_iff.2 fun e he => hes e he c]

/-- The event the `select!` of a round takes from the backend, if it does: `poll_output`
yields a timeout and the backend branch wins the timer armed for it. -/
def Round.backend? (r : Round) : Option (SubstreamId × Bytes) :=
  match r.output with
  | .ok (.timeout t) =>
    match r.wake (WebRtcConnection.pollDuration t r.clock.cap r.clock.armed) with
    | .backend event => event
    | _ => none
  | _ => none

theorem Round.backend?_of_not_timeout {r : Round} (ho : ∀ t, r.output ≠ .ok (.timeout t)) : r.backend? = none := by
  unfold Round.backend?
  split
  · next t h => exact absurd h (ho t)
  · rfl

theorem Round.backend?_of_frame {r : Round} {d : ChannelData} (hf : r.frame? = some d) : r.backend? = none :=
  Round.backend?_of_not_timeout fun t ho => by simp [Round.frame?_eq_some.1 hf] at ho

def messagesFrom (s : SubstreamId) (rs : List Round) : List Bytes :=
  ((rs.filterMap Round.backend?).filter (·.1 = s)).map (·.2)

theorem messagesFrom_append_of_none {s : SubstreamId} {rs : List Round} {r : Round} (hb : r.backend? = none) :
    messagesFrom s (rs ++ [r]) = messagesFrom s rs := by
  simp [messagesFrom, List.filterMap_append, hb]

theorem messagesFrom_append_of_backend {s s' : SubstreamId} {message : Bytes} {rs : List Round} {r : Round}
    (hb : r.backend? = some (s', message)) :
    messagesFrom s (rs ++ [r]) = messagesFrom s rs ++ if s' = s then [message] else [] := by
  by_cases hs : s' = s <;> simp [messagesFrom, List.filterMap_append, hb, hs]

namespace WebRtcConnection
variable (h : Helpers) (r : Round) (conn : WebRtcConnection)

theorem iteration_running_no_frame {conn' : WebRtcConnection} (he : iteration h r conn = .running conn')
    (hf : r.frame? = none) :
    (r.backend? = none ∧ NoWrites conn conn') ∨
    ∃ s message context, r.backend? = some (s, message) ∧ conn.channels.lookup s = some context ∧
      NoWrites (conn.emit [.write context.channelId message]) conn' := by
  rcases iteration_running_no_frame_cases h r conn he hf with ⟨ho, ⟨-, rfl⟩ | ⟨_, -, rfl⟩⟩ | ⟨t, ho, hs, rfl⟩
  · exact .inl ⟨Round.backend?_of_not_timeout ho, by rfl⟩
  · exact .inl ⟨Round.backend?_of_not_timeout ho, .emit (by simp [Effect.writtenOn])⟩
  have hi (conn₂ : WebRtcConnection) : NoWrites conn₂ (conn₂.emit [.handleInput (.timeout r.clock.ticked)]) :=
    .emit (by simp [Effect.writtenOn])
  rcases select_running_cases h r conn hs with ⟨hw, hq⟩ | ⟨s, message, context, hw, hc, he⟩
  · refine .inl ⟨?_, (hq.mono fun _ ⟨_, he⟩ _ => he ▸ rfl).trans (hi _)⟩
    rcases hwake : r.wake (pollDuration t r.clock.cap r.clock.armed) <;> simp_all [Round.backend?]
  · rw [he]
    exact .inr ⟨s, message, context, by simp [Round.backend?, ho, hw], hc, hi _⟩

/-- What channel `c`, with substream `s`, was written after the rounds `rs`: the encoded
`listener_negotiate` response to the payload of `c`'s first frame, then the messages `s`
gave the backend, in order. -/
def WritesOf (rs : List Round) (conn : WebRtcConnection) (c : ChannelId) (s : SubstreamId) : Prop :=
  ∃ d later payload protocol response, framesOn c rs = d :: later ∧ h.payloadOf d.data = some payload ∧
    h.listenerNegotiate conn.context.protocols payload = .ok (protocol, response) ∧
    writesOn c conn.trace = h.encode response none :: messagesFrom s rs

/-- The write invariant after the rounds `rs`: the delivery invariant; a channel without a
substream was never written to; a channel with a substream was written as `WritesOf`
says; and no substream at or past the counter gave the backend a message. -/
structure Writes (rs : List Round) (conn : WebRtcConnection) : Prop where
  delivers : Delivers h rs conn
  unwritten : ∀ c, conn.idMapping.lookup c = none → writesOn c conn.trace = []
  written : ∀ c s, conn.idMapping.lookup c = some s → WritesOf h rs conn c s
  silent : ∀ s : SubstreamId, conn.substreamId.id ≤ s.id → messagesFrom s rs = []

variable {h r conn} {rs : List Round} {conn' : WebRtcConnection}

theorem WritesOf.append {c : ChannelId} {s : SubstreamId} (hw : WritesOf h rs conn c s)
    (hctx : conn'.context = conn.context) {extra : List Bytes}
    (hwc : writesOn c conn'.trace = writesOn c conn.trace ++ extra)
    (hm : messagesFrom s (rs ++ [r]) = messagesFrom s rs ++ extra) : WritesOf h (rs ++ [r]) conn' c s := by
  obtain ⟨d, later, payload, protocol, response, hfr, hp, hl, hws⟩ := hw
  exact ⟨d, later ++ framesOn c [r], payload, protocol, response, by rw [framesOn_append, hfr]; rfl, hp,
    hctx ▸ hl, by rw [hwc, hm, hws]; rfl⟩

theorem writes_new (peer : PeerId) (remoteAddress localAddress : SocketAddr) (context : TransportContext) :
    Writes h [] (new peer remoteAddress localAddress context) :=
  ⟨delivers_new .., fun _ _ => rfl, fun _ _ hs => by simp [new] at hs, fun _ _ => rfl⟩

theorem Writes.noWrites (hw : Writes h rs conn) (hd : Delivers h (rs ++ [r]) conn') (hq : NoWrites conn conn')
    (hb : r.backend? = none) : Writes h (rs ++ [r]) conn' := by
  refine ⟨hd, fun c hc => ?_, fun c s hs => ?_, fun s hs => ?_⟩
  · rw [hq.writesOn_eq]
    exact hw.unwritten c (hq.idMapping ▸ hc)
  · exact (hw.written c s (hq.idMapping ▸ hs)).append hq.context (by rw [hq.writesOn_eq, List.append_nil])
      (by rw [messagesFrom_append_of_none hb, List.append_nil])
  · rw [messagesFrom_append_of_none hb]
    exact hw.silent s (hq.substreamId ▸ hs)

theorem Writes.backend (hw : Writes h rs conn) (hd : Delivers h (rs ++ [r]) conn') {s : SubstreamId}
    {message : Bytes} {context : SubstreamContext} (hb : r.backend? = some (s, message))
    (hc : conn.channels.lookup s = some context) (hq : NoWrites (conn.emit [.write context.channelId message]) conn') :
    Writes h (rs ++ [r]) conn' := by
  have hwf := hw.delivers.wf
  obtain ⟨c₀, tx⟩ := context
  have hs₀ : conn.idMapping.lookup c₀ = some s := (hwf.mapping_iff c₀ s).2 ⟨tx, hc⟩
  have hwrites (c) : writesOn c conn'.trace = writesOn c conn.trace ++ if c₀ = c then [message] else [] := by
    rw [hq.writesOn_eq, emit_trace, writesOn_append, writesOn_write]
  have hi : conn'.idMapping = conn.idMapping := hq.idMapping
  refine ⟨hd, fun c hc' => ?_, fun c s' hs' => ?_, fun s' hs' => ?_⟩
  · have hne : c₀ ≠ c := by rintro rfl; simp [hi, hs₀] at hc'
    rw [hwrites, hw.unwritten c (hi ▸ hc'), if_neg hne, List.append_nil]
  · rw [hi] at hs'
    have hiff : c₀ = c ↔ s = s' := ⟨by rintro rfl; exact Option.some.inj (hs₀.symm.trans hs'),
      by rintro rfl; exact hwf.lookup_injective hs₀ hs'⟩
    exact (hw.written c s' hs').append hq.context (hwrites c)
      (by simp only [messagesFrom_append_of_backend hb, hiff])
  · have hne : s ≠ s' := by
      rintro rfl
      have := hwf.lookup_lt hs₀
      simp only [hq.substreamId, emit_substreamId] at hs'
      omega
    rw [messagesFrom_append_of_backend hb, if_neg hne, List.append_nil]
    exact hw.silent s' (by simpa [hq.substreamId] using hs')

theorem Writes.negotiated (hw : Writes h rs conn) {d : ChannelData} {protocol : ProtocolName} {response : Bytes}
    (hd : Delivers h (rs ++ [r]) (conn.negotiated d.id protocol (h.encode response none)))
    (hf : r.frame? = some d) (hs : conn.idMapping.lookup d.id = none) (hn : Negotiates h r d conn protocol response) :
    Writes h (rs ++ [r]) (conn.negotiated d.id protocol (h.encode response none)) := by
  have hb := Round.backend?_of_frame hf
  have hwrites (c) : writesOn c (conn.negotiated d.id protocol (h.encode response none)).trace =
      writesOn c conn.trace ++ if d.id = c then [h.encode response none] else [] := by
    by_cases hc : d.id = c <;> simp [writesOn, Effect.writtenOn, hc]
  refine ⟨hd, fun c hc => ?_, fun c s hs' => ?_, fun s hs' => ?_⟩
  · have hne : d.id ≠ c := by rintro rfl; simp [HashMap.lookup_insert_eq_ite] at hc
    rw [hwrites, if_neg hne, List.append_nil]
    exact hw.unwritten c (by simpa [HashMap.lookup_insert_eq_ite, Ne.symm hne] using hc)
  · by_cases hc : d.id = c
    · subst hc
      obtain rfl : conn.substreamId = s := by simpa [HashMap.lookup_insert_eq_ite] using hs'
      obtain ⟨payload, hp, hl, -⟩ := hn
      refine ⟨d, [], payload, protocol, response, ?_, hp, hl, ?_⟩
      · rw [framesOn_append, hw.delivers.framesOn_eq_nil hs]
        simp [framesOn, hf]
      · rw [hwrites, if_pos rfl, hw.unwritten _ hs, messagesFrom_append_of_none hb, hw.silent _ le_rfl]
        rfl
    · exact (hw.written c s (by simpa [HashMap.lookup_insert_eq_ite, Ne.symm hc] using hs')).append rfl
        (by rw [hwrites, if_neg hc]) (by rw [messagesFrom_append_of_none hb, List.append_nil])
  · rw [messagesFrom_append_of_none hb]
    exact hw.silent s (by simp only [negotiated_substreamId] at hs'; omega)

theorem Writes.iteration (hw : Writes h rs conn) (he : iteration h r conn = .running conn') :
    Writes h (rs ++ [r]) conn' := by
  have hd := hw.delivers.iteration he
  rcases iteration_running_cases h r conn he with ⟨hf, -⟩ | ⟨d, _, _, _, hf, -, -, -, rfl⟩ |
    ⟨d, protocol, response, hf, hs, hn, rfl⟩
  · rcases iteration_running_no_frame h r conn he hf with ⟨hb, hq⟩ | ⟨_, _, _, hb, hc, hq⟩
    · exact hw.noWrites hd hq hb
    · exact hw.backend hd hb hc hq
  · exact hw.noWrites hd (.emit (by simp [Effect.writtenOn])) (Round.backend?_of_frame hf)
  · exact hw.negotiated hd hf hs hn

/-- Over every run from `new` that is still in its loop: a channel that has sent no frame
was never written to; on a channel `c` whose first frame is `d`, with substream `s`, the
engine wrote the encoded `listener_negotiate` response to `d`'s payload, over the
protocols it was given, and then each message `s` gave the backend, once and in the
order the `select!` took them, and nothing else. -/
theorem run_writes_in_order (h : Helpers) (peer : PeerId) (remoteAddress localAddress : SocketAddr)
    (context : TransportContext) (rs : List Round) (conn : WebRtcConnection)
    (hrun : run h rs (new peer remoteAddress localAddress context) = .running conn) (c : ChannelId) :
    (framesOn c rs = [] → writesOn c conn.trace = []) ∧
    ∀ d later, framesOn c rs = d :: later → ∃ s payload protocol response,
      conn.idMapping.lookup c = some s ∧ h.payloadOf d.data = some payload ∧
      h.listenerNegotiate context.protocols payload = .ok (protocol, response) ∧
      writesOn c conn.trace = h.encode response none :: messagesFrom s rs := by
  obtain ⟨hw, hctx⟩ : Writes h rs conn ∧ conn.context = context := by
    simpa using @run_running_induction h (fun rs conn => Writes h rs conn ∧ conn.context = context)
      (fun _ _ _ _ hw he => ⟨hw.1.iteration he, (iteration_running_context h _ _ he).trans hw.2⟩) rs [] _ conn
      ⟨writes_new peer remoteAddress localAddress context, rfl⟩ hrun
  refine ⟨fun hc => hw.unwritten c (hw.delivers.unopened c hc), fun d later hc => ?_⟩
  obtain ⟨s, hs, -⟩ := hw.delivers.delivered c d later hc
  obtain ⟨d', later', payload, protocol, response, hc', hp, hl, hwc⟩ := hw.written c s hs
  obtain ⟨rfl, -⟩ := List.cons_eq_cons.1 (hc'.symm.trans hc)
  exact ⟨s, payload, protocol, response, hs, hp, hctx ▸ hl, hwc⟩

theorem run_writes_in_order_on_two_channels :
    let rs : List Round := [.ofFrame 5 [1], .ofOutput (.timeout 0) (.backend (some (⟨0⟩, [7]))),
      .ofFrame 7 [9], .ofOutput (.timeout 0) (.backend (some (⟨0⟩, [8])))]
    let conn := (run exampleHelpers rs exampleConnection).conn
    run exampleHelpers rs exampleConnection = .running conn ∧
    (framesOn ⟨5⟩ rs = [] → writesOn ⟨5⟩ conn.trace = []) ∧
    ∀ d later, framesOn ⟨5⟩ rs = d :: later → ∃ s payload protocol response,
      conn.idMapping.lookup ⟨5⟩ = some s ∧ exampleHelpers.payloadOf d.data = some payload ∧
      exampleHelpers.listenerNegotiate [⟨"/notif/1"⟩] payload = .ok (protocol, response) ∧
      writesOn ⟨5⟩ conn.trace = exampleHelpers.encode response none :: messagesFrom s rs := by
  intro rs conn
  exact ⟨rfl, run_writes_in_order exampleHelpers ⟨1⟩ ⟨2⟩ ⟨3⟩ ⟨[⟨"/notif/1"⟩]⟩ rs conn rfl ⟨5⟩⟩

/-! ## Datagrams to the socket -/

def Effect.transmitted : Effect → Option Transmit
  | .transmit transmit => some transmit
  | _ => none

def transmits (trace : List Effect) : List Transmit := trace.filterMap Effect.transmitted

@[simp] theorem transmits_append (t t' : List Effect) : transmits (t ++ t') = transmits t ++ transmits t' :=
  List.filterMap_append ..

theorem transmits_eq_nil {es : List Effect} (hes : ∀ e ∈ es, e.feedsRtc) : transmits es = [] := by
  refine List.filterMap_eq_nil_iff.2 fun e he => ?_
  have := hes e he
  cases e <;> simp_all [Effect.feedsRtc, Effect.transmitted]

theorem iteration_running_transmits (he : iteration h r conn = .running conn') :
    transmits conn'.trace = transmits conn.trace ++ r.transmit?.toList := by
  rcases hf : r.frame? with _ | d
  · rcases iteration_running_no_frame_cases h r conn he hf with ⟨-, ⟨ht, rfl⟩ | ⟨t, ht, rfl⟩⟩ |
      ⟨t, ho, -, rfl⟩
    · simp [ht]
    · simp [ht, transmits, Effect.transmitted]
    · obtain ⟨es, hes, hq⟩ := (select_feedsRtc h r conn (pollDuration t r.clock.cap r.clock.armed)).trace
      rw [emit_trace, hes, transmits_append, transmits_append, transmits_eq_nil hq]
      simp [Round.transmit?, ho, transmits, Effect.transmitted]
  · have ht : r.transmit? = none := by simp [Round.transmit?, Round.frame?_eq_some.1 hf]
    rcases iteration_running_cases h r conn he with ⟨hf', -⟩ | ⟨_, _, _, _, -, -, -, -, rfl⟩ |
      ⟨_, _, _, -, -, -, rfl⟩
    · simp [hf] at hf'
    all_goals simp [ht, transmits, Effect.transmitted]

/-- Over every run from `new` that is still in its loop, the datagrams sent on the socket
are exactly those `rtc` asked for, each once and in order: `handle_output` loses,
duplicates and reorders none. -/
theorem run_transmits_in_order (h : Helpers) (peer : PeerId) (remoteAddress localAddress : SocketAddr)
    (context : TransportContext) (rs : List Round) (conn : WebRtcConnection)
    (hrun : run h rs (new peer remoteAddress localAddress context) = .running conn) :
    transmits conn.trace = rs.filterMap Round.transmit? := by
  have hstep (rs : List Round) (r : Round) (conn conn' : WebRtcConnection)
      (ht : transmits conn.trace = rs.filterMap Round.transmit?) (he : iteration h r conn = .running conn') :
      transmits conn'.trace = (rs ++ [r]).filterMap Round.transmit? := by
    rw [iteration_running_transmits he, ht, List.filterMap_append]
    rcases hr : r.transmit? with _ | t <;> simp [hr]
  simpa using @run_running_induction h (fun rs conn => transmits conn.trace = rs.filterMap Round.transmit?)
    hstep rs [] (new peer remoteAddress localAddress context) conn rfl hrun

theorem run_transmits_in_order_between_frames :
    let rs : List Round := [.ofOutput (.transmit ⟨⟨2⟩, [4]⟩) .sleep, .ofFrame 5 [1],
      .ofOutput (.transmit ⟨⟨2⟩, [6]⟩) .sleep]
    let conn := (run exampleHelpers rs exampleConnection).conn
    run exampleHelpers rs exampleConnection = .running conn ∧
      transmits conn.trace = rs.filterMap Round.transmit? := by
  intro rs conn
  exact ⟨rfl, run_transmits_in_order exampleHelpers ⟨1⟩ ⟨2⟩ ⟨3⟩ ⟨[⟨"/notif/1"⟩]⟩ rs conn rfl⟩

end WebRtcConnection
end Litep2p
