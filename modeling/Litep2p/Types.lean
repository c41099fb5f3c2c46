import Mathlib.Data.List.AList

/-! # Data model of the WebRTC connection engine

Identifiers, errors and the surface of `str0m` that `transport/webrtc/connection.rs`
touches. A Rust `HashMap` is its observable content, an association list with unique
keys. `Rtc`, the UDP socket, the datagram queue, the protocol set and the substream
backend are objects the connection shares with other tasks: what they answer in one
iteration of the loop of `run` is a `Round`, and what the connection does to them is
an `Effect` appended to its trace.
-/
namespace Litep2p

structure ChannelId where
  id : Nat
deriving DecidableEq, Repr

structure SubstreamId where
  id : Nat
deriving DecidableEq, Repr

/-- Modelled from the spec: `SubstreamId::new` (types.rs, not under src/), the first
id of a "monotonically increasing" allocator. -/
def SubstreamId.new : SubstreamId := ⟨0⟩

/-- Modelled from the spec: `SubstreamId::next` (types.rs, not under src/). It hands
out the current value and advances the counter by one. -/
def SubstreamId.next (s : SubstreamId) : SubstreamId × SubstreamId := (s, ⟨s.id + 1⟩)

@[simp] theorem SubstreamId.next_fst (s : SubstreamId) : s.next.1 = s := rfl
@[simp] theorem SubstreamId.next_snd (s : SubstreamId) : s.next.2 = ⟨s.id + 1⟩ := rfl

structure PeerId where
  id : Nat
deriving DecidableEq, Repr

structure ProtocolName where
  name : String
deriving DecidableEq, Repr

structure SocketAddr where
  addr : Nat
deriving DecidableEq, Repr

/-- Instants and durations in nanoseconds. -/
abbrev Instant := Nat
abbrev Duration := Nat

abbrev Bytes := List UInt8

/-- A Rust `HashMap` seen through its entries. -/
abbrev HashMap (K V : Type) := AList (fun _ : K => V)

theorem HashMap.lookup_insert_eq_ite {K V : Type} [DecidableEq K] (m : HashMap K V) (k k' : K) (v : V) :
    (m.insert k v).lookup k' = if k' = k then some v else m.lookup k' := by
  split_ifs with hk
  · subst hk; exact AList.lookup_insert m
  · exact AList.lookup_insert_ne hk

inductive Direction
  | inbound
  | outbound
deriving DecidableEq, Repr

structure RtcError where
  code : Nat
deriving DecidableEq, Repr

structure NegotiationError where
  code : Nat
deriving DecidableEq, Repr

inductive Error
  | invalidData
  | inputRejected
  | channelDoesntExist
  | disconnected
  | invalidState
  | essentialTaskClosed
  | webRtc (error : RtcError)
  | negotiationError (error : NegotiationError)
deriving DecidableEq, Repr

/-- Outer framing of a data-channel message: protobuf `Message { flag, message }`. -/
structure WebRtcMessage where
  payload : Option Bytes
  flags : Option Int
deriving DecidableEq, Repr

structure ChannelData where
  id : ChannelId
  data : Bytes
deriving DecidableEq, Repr

inductive IceConnectionState
  | new
  | checking
  | connected
  | completed
  | disconnected
deriving DecidableEq, Repr

/-- Events of `str0m`; `other` is every event the connection does not name. -/
inductive Event
  | connected
  | iceConnectionStateChange (state : IceConnectionState)
  | channelOpen (id : ChannelId)
  | channelData (data : ChannelData)
  | channelClose (id : ChannelId)
  | other
deriving DecidableEq, Repr

structure Transmit where
  destination : SocketAddr
  contents : Bytes
deriving DecidableEq, Repr

inductive Output
  | transmit (transmit : Transmit)
  | timeout (instant : Instant)
  | event (event : Event)
deriving DecidableEq, Repr

structure DatagramRecv where
  bytes : Bytes
deriving DecidableEq, Repr

structure Receive where
  source : SocketAddr
  destination : SocketAddr
  contents : DatagramRecv
deriving DecidableEq, Repr

inductive Input
  | timeout (now : Instant)
  | receive (now : Instant) (receive : Receive)
deriving DecidableEq, Repr

inductive WebRtcEvent
  | timeout (instant : Instant)
  | noop
deriving DecidableEq, Repr

inductive ProtocolEvent
  | openSubstream
deriving DecidableEq, Repr

structure Sender where
  substream : SubstreamId
deriving DecidableEq, Repr

structure Substream where
  id : SubstreamId
deriving DecidableEq, Repr

/-- Modelled from the spec: `SubstreamBackend` (substream/channel.rs, not under src/),
the factory of channel-backend pairs `(substream, tx)`. It keeps the ids it was asked
for, oldest first. -/
structure SubstreamBackend where
  substreams : List SubstreamId
deriving DecidableEq, Repr

def SubstreamBackend.new : SubstreamBackend := ⟨[]⟩

/-- Modelled from the spec: `SubstreamBackend::substream`. -/
def SubstreamBackend.substream (b : SubstreamBackend) (id : SubstreamId) :
    (Substream × Sender) × SubstreamBackend :=
  ((⟨id⟩, ⟨id⟩), ⟨b.substreams ++ [id]⟩)

structure TransportContext where
  protocols : List ProtocolName
deriving DecidableEq, Repr

/-- What the connection does to the objects around it, in the order it does it. -/
inductive Effect
  | transmit (transmit : Transmit)
  | handleInput (input : Input)
  | write (channel : ChannelId) (bytes : Bytes)
  | send (tx : Sender) (message : Bytes)
  | reportSubstreamOpen (peer : PeerId) (protocol : ProtocolName) (direction : Direction)
      (substream : Substream)
  | disconnect
deriving DecidableEq, Repr

/-- The helpers of the crate that `connection.rs` calls and that are not part of it:
`WebRtcMessage::decode` and `encode` (webrtc/util.rs), `listener_negotiate`
(multistream_select), and the conversion of a datagram into `str0m` contents. Each
is a pure function; the results below hold for every choice of them. -/
structure Helpers where
  decode : Bytes → Except Error WebRtcMessage
  encode : Bytes → Option Int → Bytes
  listenerNegotiate : List ProtocolName → Bytes → Except Error (ProtocolName × Bytes)
  tryIntoContents : Bytes → Option DatagramRecv

/-- The payload of a frame as the wire format defines it: the `message` field of the
`Message` the frame decodes to, if it decodes. -/
def Helpers.payloadOf (h : Helpers) (data : Bytes) : Option Bytes :=
  match h.decode data with
  | .ok message => message.payload
  | .error _ => none

/-- The branch of the `tokio::select!` in `run` that completes first, with its value. -/
inductive Wake
  | datagram (message : Option Bytes)
  | backend (event : Option (SubstreamId × Bytes))
  | command (command : Option ProtocolEvent)
  | sleep
deriving Inhabited

/-- The four reads of `Instant::now()` in one iteration of `run`, in the order the code
makes them: the cap `now + 100 ms` of the timer (line 322), the start the timer is
measured from (line 323), the stamp of a datagram `on_input` passes to `rtc` (line 170),
and the stamp of `Input::Timeout` after the `select!` (line 377). -/
structure Clock where
  cap : Instant
  armed : Instant
  received : Instant
  ticked : Instant

/-- What the outside world answers during one iteration of the loop of `run`: the
`Rtc` object, the socket, the clock, and which `select!` branch wins once the timer
has been armed for the given duration. An iteration reads only the answers its path
asks for; quantifying over rounds quantifies over every interleaving. -/
structure Round where
  alive : Bool
  output : Except RtcError Output
  sent : Bool
  channel : Option (Except RtcError Unit)
  wake : Duration → Wake
  accepts : Bool
  handled : Except RtcError Unit
  timeout : Except RtcError Unit
  clock : Clock

def Round.frame? (r : Round) : Option ChannelData :=
  match r.output with
  | .ok (.event (.channelData d)) => some d
  | _ => none

def Round.transmit? (r : Round) : Option Transmit :=
  match r.output with
  | .ok (.transmit transmit) => some transmit
  | _ => none

end Litep2p
