import Litep2p.Invariant
import Litep2p.Inputs

/-! # The protocol side's stream

All that reaches the protocol side, as one stream: substreams reported open to the
protocol set, and messages sent on substreams' `tx`. An abstract dispatcher says what
the stream is, with no `Rtc`, maps or backend: its only state is the channels that have
spoken, oldest first, the `i`-th owning substream `i`. A frame of a new channel opens the
next substream and reports it with the protocol negotiated from the frame; a frame of a
known channel is a message of that channel's substream. Every run still in its loop
simulates the dispatcher on the frames it has taken, call for call and in order.
-/
namespace Litep2p

/-- The protocol `listener_negotiate` picks for the payload of a channel's first frame over
the given protocols, if the frame has a payload and the negotiation succeeds. -/
def negotiatedProtocol (h : Helpers) (protocols : List ProtocolName) (d : ChannelData) :
    Option ProtocolName :=
  match h.payloadOf d.data with
  | some payload =>
    match h.listenerNegotiate protocols payload with
    | .ok (protocol, _) => some protocol
    | .error _ => none
  | none => none

inductive ProtocolCall
  | opened (peer : PeerId) (protocol : Option ProtocolName) (direction : Direction)
      (substream : SubstreamId)
  | message (substream : SubstreamId) (payload : Option Bytes)

def Effect.protocolCall? : Effect → Option ProtocolCall
  | .send tx message => some (.message tx.substream (some message))
  | .reportSubstreamOpen peer protocol direction substream =>
    some (.opened peer (some protocol) direction substream.id)
  | _ => none

def protocolCalls (trace : List Effect) : List ProtocolCall := trace.filterMap Effect.protocolCall?

@[simp] theorem protocolCalls_append (t t' : List Effect) :
    protocolCalls (t ++ t') = protocolCalls t ++ protocolCalls t' := List.filterMap_append ..

@[simp] theorem protocolCalls_nil : protocolCalls [] = [] := rfl

@[simp] theorem protocolCalls_cons (e : Effect) (t : List Effect) :
    protocolCalls (e :: t) = e.protocolCall?.toList ++ protocolCalls t := by
  cases he : e.protocolCall? <;> simp [protocolCalls, List.filterMap_cons, he]

theorem protocolCalls_eq_nil {es : List Effect} (hes : ∀ e ∈ es, e.reachesProtocol = false) :
    protocolCalls es = [] := by
  refine List.filterMap_eq_nil_iff.2 fun e he => ?_
  have := hes e he
  cases e <;> simp_all [Effect.reachesProtocol, Effect.protocolCall?]

theorem Appends.protocolCalls_eq {conn conn' : WebRtcConnection} (hq : Quiet conn conn') :
    protocolCalls conn'.trace = protocolCalls conn.trace := by
  obtain ⟨es, ht, hes⟩ := hq.trace
  simp [ht, protocolCalls_eq_nil hes]

/-- The abstract dispatcher: the channels that have spoken, oldest first, and the calls
it has made on the protocol side. -/
structure Dispatcher where
  seen : List ChannelId
  calls : List ProtocolCall

section dispatcher
variable (h : Helpers) (peer : PeerId) (protocols : List ProtocolName)

/-- One frame: a known channel's frame is a message of its substream, a new channel's
opens the next substream. -/
def Dispatcher.step (m : Dispatcher) (d : ChannelData) : Dispatcher :=
  match m.seen.indexOf? d.id with
  | some i => ⟨m.seen, m.calls ++ [.message ⟨i⟩ (h.payloadOf d.data)]⟩
  | none => ⟨m.seen ++ [d.id], m.calls ++ [.opened peer (negotiatedProtocol h protocols d) .inbound ⟨m.seen.length⟩]⟩

def dispatch (frames : List ChannelData) : Dispatcher :=
  frames.foldl (Dispatcher.step h peer protocols) ⟨[], []⟩

theorem dispatch_append_single (frames : List ChannelData) (d : ChannelData) :
    dispatch h peer protocols (frames ++ [d]) = (dispatch h peer protocols frames).step h peer protocols d := by
  simp [dispatch, List.foldl_append]

theorem dispatch_append_frame (rs : List Round) (r : Round) :
    dispatch h peer protocols ((rs ++ [r]).filterMap Round.frame?) =
      r.frame?.elim (dispatch h peer protocols (rs.filterMap Round.frame?))
        ((dispatch h peer protocols (rs.filterMap Round.frame?)).step h peer protocols) := by
  rcases hf : r.frame? with _ | d <;> simp [dispatch_append_single, hf]

end dispatcher

theorem indexOf?_append_single (seen : List ChannelId) (c c' : ChannelId) :
    (seen ++ [c']).indexOf? c = (seen.indexOf? c).or (if c' = c then some seen.length else none) := by
  by_cases hc : c' = c <;> simp [List.indexOf?, hc]

namespace WebRtcConnection
variable {h : Helpers} {peer : PeerId} {context : TransportContext} {m : Dispatcher} {r : Round}
  {conn conn' : WebRtcConnection}

/-- The connection simulates the dispatcher `m`: the map invariant holds, the peer and the
transport context are as `new` set them, channel `c` has substream `i` exactly when it was
the `i`-th to speak, the counter is the number of channels that spoke, and the calls on
the protocol side are the dispatcher's. -/
structure Simulates (h : Helpers) (peer : PeerId) (context : TransportContext) (m : Dispatcher)
    (conn : WebRtcConnection) : Prop where
  wf : conn.Wf
  peer_eq : conn.remotePeerId = peer
  context_eq : conn.context = context
  mapping : ∀ c, conn.idMapping.lookup c = (m.seen.indexOf? c).map SubstreamId.mk
  counter : m.seen.length = conn.substreamId.id
  calls : protocolCalls conn.trace = m.calls

/-- One iteration that keeps the loop going is one dispatcher step on the frame it took,
and no step without one. -/
theorem Simulates.iteration (hs : Simulates h peer context m conn) (he : iteration h r conn = .running conn') :
    Simulates h peer context (r.frame?.elim m (m.step h peer context.protocols)) conn' := by
  obtain ⟨hw, hpeer, hctx, hmap, hcount, hcalls⟩ := hs
  have hends : conn'.remotePeerId = conn.remotePeerId := congrArg Prod.fst (iteration_running_ends h r conn he)
  have hctx' := iteration_running_context h r conn he
  rcases iteration_running_cases h r conn he with ⟨hf, hq⟩ | ⟨d, s, ctx, payload, hf, hs, hc, hp, rfl⟩ |
    ⟨d, protocol, response, hf, hd, ⟨payload, hp, hl, -⟩, rfl⟩
  · simp only [hf, Option.elim]
    exact ⟨hw.quiet hq, hends.trans hpeer, hctx'.trans hctx, fun c => hq.idMapping ▸ hmap c,
      hq.substreamId ▸ hcount, hq.protocolCalls_eq.trans hcalls⟩
  · obtain ⟨i, hi, rfl⟩ := Option.map_eq_some'.1 ((hmap d.id).symm.trans hs)
    simp only [hf, Option.elim, Dispatcher.step, hi]
    refine ⟨hw.emit _, hpeer, hctx, hmap, hcount, ?_⟩
    simp [hcalls, Effect.protocolCall?, hw.tx_eq _ ctx hc, hp]
  · have hi : m.seen.indexOf? d.id = none := Option.map_eq_none'.1 ((hmap d.id).symm.trans hd)
    simp only [hf, Option.elim, Dispatcher.step, hi]
    refine ⟨hw.negotiated hd protocol _, hpeer, hctx, fun c => ?_, by simp [hcount], ?_⟩
    · by_cases hc : c = d.id
      · subst hc
        simp [HashMap.lookup_insert_eq_ite, indexOf?_append_single, hi, hcount]
      · simp [HashMap.lookup_insert_eq_ite, indexOf?_append_single, hc, Ne.symm hc, hmap]
    · rw [hctx] at hl
      simp [hcalls, Effect.protocolCall?, hpeer, hcount, negotiatedProtocol, hp, hl]

theorem simulates_of_run (h : Helpers) (peer : PeerId) (remoteAddress localAddress : SocketAddr)
    (context : TransportContext) (rs : List Round) (conn : WebRtcConnection)
    (hrun : run h rs (new peer remoteAddress localAddress context) = .running conn) :
    Simulates h peer context (dispatch h peer context.protocols (rs.filterMap Round.frame?)) conn := by
  simpa using @run_running_induction h
    (fun rs conn => Simulates h peer context (dispatch h peer context.protocols (rs.filterMap Round.frame?)) conn)
    (fun rs r _ _ hs he => by dsimp only at hs ⊢; rw [dispatch_append_frame]; exact hs.iteration he)
    rs [] (new peer remoteAddress localAddress context) conn
    ⟨wf_new .., rfl, rfl, fun _ => rfl, rfl, rfl⟩ hrun

/-- Every run from `new` that is still in its loop simulates the dispatcher on the frames
it has taken: channel `c` has substream `i` exactly when it was the `i`-th channel to send
a frame, and the calls the connection made on the protocol side, reports and messages
together, are the dispatcher's, in the same order. -/
theorem run_simulates_dispatcher (h : Helpers) (peer : PeerId) (remoteAddress localAddress : SocketAddr)
    (context : TransportContext) (rs : List Round) (conn : WebRtcConnection)
    (hrun : run h rs (new peer remoteAddress localAddress context) = .running conn) :
    (∀ c, conn.idMapping.lookup c =
      ((dispatch h peer context.protocols (rs.filterMap Round.frame?)).seen.indexOf? c).map SubstreamId.mk) ∧
    protocolCalls conn.trace = (dispatch h peer context.protocols (rs.filterMap Round.frame?)).calls :=
  let hs := simulates_of_run h peer remoteAddress localAddress context rs conn hrun
  ⟨hs.mapping, hs.calls⟩

theorem run_simulates_dispatcher_on_two_channels :
    let rs : List Round := [.ofFrame 5 [1], .ofFrame 5 [2], .ofFrame 7 [9], .ofFrame 5 [3]]
    let conn := (run exampleHelpers rs exampleConnection).conn
    run exampleHelpers rs exampleConnection = .running conn ∧
      (∀ c, conn.idMapping.lookup c =
        ((dispatch exampleHelpers ⟨1⟩ [⟨"/notif/1"⟩] (rs.filterMap Round.frame?)).seen.indexOf? c).map
          SubstreamId.mk) ∧
      protocolCalls conn.trace = (dispatch exampleHelpers ⟨1⟩ [⟨"/notif/1"⟩] (rs.filterMap Round.frame?)).calls := by
  intro rs conn
  exact ⟨rfl, run_simulates_dispatcher exampleHelpers ⟨1⟩ ⟨2⟩ ⟨3⟩ ⟨[⟨"/notif/1"⟩]⟩ rs conn rfl⟩

end WebRtcConnection
end Litep2p
