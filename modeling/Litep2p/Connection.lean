import Litep2p.Types

/-! # The WebRTC connection engine

`WebRtcConnection` of `transport/webrtc/connection.rs`, one definition a method. An
`async fn (&mut self) -> crate::Result<T>` is a function from the connection to the
result and the connection afterwards, and `?` returns the connection as it stands.
The fields `rtc`, `socket`, `dgram_rx` and `protocol_set` are objects of other tasks:
their answers come from the `Round`, the calls made on them go to `trace`.
-/
namespace Litep2p

structure SubstreamContext where
  channelId : ChannelId
  tx : Sender
deriving DecidableEq, Repr

structure WebRtcConnection where
  context : TransportContext
  channels : HashMap SubstreamId SubstreamContext
  remoteAddress : SocketAddr
  remotePeerId : PeerId
  localAddress : SocketAddr
  backend : SubstreamBackend
  substreamId : SubstreamId
  idMapping : HashMap ChannelId SubstreamId
  trace : List Effect

namespace WebRtcConnection

def new (remotePeerId : PeerId) (remoteAddress localAddress : SocketAddr)
    (context : TransportContext) : WebRtcConnection where
  context := context
  channels := ∅
  remoteAddress := remoteAddress
  remotePeerId := remotePeerId
  localAddress := localAddress
  backend := .new
  substreamId := .new
  idMapping := ∅
  trace := []

def emit (conn : WebRtcConnection) (effects : List Effect) : WebRtcConnection :=
  { conn with trace := conn.trace ++ effects }

section emit
variable (conn : WebRtcConnection) (effects : List Effect)
@[simp] theorem emit_channels : (conn.emit effects).channels = conn.channels := rfl
@[simp] theorem emit_idMapping : (conn.emit effects).idMapping = conn.idMapping := rfl
@[simp] theorem emit_substreamId : (conn.emit effects).substreamId = conn.substreamId := rfl
@[simp] theorem emit_backend : (conn.emit effects).backend = conn.backend := rfl
@[simp] theorem emit_remotePeerId : (conn.emit effects).remotePeerId = conn.remotePeerId := rfl
@[simp] theorem emit_trace : (conn.emit effects).trace = conn.trace ++ effects := rfl
end emit

variable (h : Helpers) (r : Round)

/-- `WebRtcMessage::decode(&d.data)?.payload.ok_or(Error::InvalidData)?`, the first
step of both `negotiate_protocol` and `process_protocol_event`. -/
def decodePayload (data : Bytes) : Except Error Bytes :=
  match h.decode data with
  | .ok message =>
    match message.payload with
    | some payload => .ok payload
    | none => .error .invalidData
  | .error e => .error e

def negotiateProtocol (d : ChannelData) (conn : WebRtcConnection) :
    Except Error WebRtcEvent × WebRtcConnection :=
  match decodePayload h d.data with
  | .error e => (.error e, conn)
  | .ok payload =>
    match h.listenerNegotiate conn.context.protocols payload with
    | .error e => (.error e, conn)
    | .ok (protocol, response) =>
      let message := h.encode response none
      match r.channel with
      | none => (.error .channelDoesntExist, conn)
      | some (.error e) => (.error (.webRtc e), conn.emit [.write d.id message])
      | some (.ok ()) =>
        let (substreamId, counter) := conn.substreamId.next
        let ((substream, tx), backend) := conn.backend.substream substreamId
        (.ok .noop,
          { conn with
            substreamId := counter
            backend := backend
            idMapping := conn.idMapping.insert d.id substreamId
            channels := conn.channels.insert substreamId ⟨d.id, tx⟩
            trace := conn.trace ++
              [.write d.id message, .reportSubstreamOpen conn.remotePeerId protocol .inbound substream] })

def processProtocolEvent (d : ChannelData) (conn : WebRtcConnection) :
    Except Error WebRtcEvent × WebRtcConnection :=
  match decodePayload h d.data with
  | .error e => (.error e, conn)
  | .ok message =>
    match conn.idMapping.lookup d.id with
    | some id =>
      match conn.channels.lookup id with
      | some context => (.ok .noop, conn.emit [.send context.tx message])
      | none => (.error .channelDoesntExist, conn)
    | none => (.error .channelDoesntExist, conn)

def onChannelData (d : ChannelData) (conn : WebRtcConnection) :
    Except Error WebRtcEvent × WebRtcConnection :=
  match conn.idMapping.lookup d.id with
  | some _ => processProtocolEvent h d conn
  | none => negotiateProtocol h r d conn

/-- `handle_output`; `none` is the panic of `send_to(..).await.expect(..)`. -/
def handleOutput (output : Output) (conn : WebRtcConnection) :
    Option (Except Error WebRtcEvent × WebRtcConnection) :=
  match output with
  | .transmit transmit => if r.sent then some (.ok .noop, conn.emit [.transmit transmit]) else none
  | .timeout t => some (.ok (.timeout t), conn)
  | .event e =>
    match e with
    | .iceConnectionStateChange v =>
      if v = .disconnected then some (.error .disconnected, conn) else some (.ok .noop, conn)
    | .channelOpen _ => some (.ok .noop, conn)
    | .channelData data => some (onChannelData h r data conn)
    | .channelClose _ => some (.ok .noop, conn)
    | .connected => some (.error .invalidState, conn)
    | .other => some (.ok .noop, conn)

def pollOutput (conn : WebRtcConnection) : Option (Except Error WebRtcEvent × WebRtcConnection) :=
  match r.output with
  | .ok output => handleOutput h r output conn
  | .error e => some (.error (.webRtc e), conn)

def onInput (buffer : Bytes) (conn : WebRtcConnection) : Except Error Unit × WebRtcConnection :=
  match h.tryIntoContents buffer with
  | none => (.error .invalidData, conn)
  | some contents =>
    let message := Input.receive r.clock.received ⟨conn.remoteAddress, conn.localAddress, contents⟩
    if r.accepts then
      match r.handled with
      | .ok () => (.ok (), conn.emit [.handleInput message])
      | .error _ => (.error .inputRejected, conn.emit [.handleInput message])
    else (.error .inputRejected, conn)

/-- The timer of one iteration: `min(timeout, now + 100 ms) - now'`, at least 1 ms, with
`now` and `now'` the two reads of the clock the code makes. -/
def pollDuration (timeout now now' : Instant) : Duration :=
  max (min timeout (now + 100000000) - now') 1000000

/-- The `tokio::select!` of `run`: `none` when the loop goes on, `some result` when
`run` returns `result`. -/
def select (duration : Duration) (conn : WebRtcConnection) :
    Option (Except Error Unit) × WebRtcConnection :=
  match r.wake duration with
  | .datagram (some message) =>
    let (result, conn') := onInput h r message conn
    match result with
    | .ok () | .error .inputRejected => (none, conn')
    | .error error => (some (.error error), conn')
  | .datagram none => (some (.ok ()), conn)
  | .backend event =>
    match event with
    | none => (some (.error .essentialTaskClosed), conn)
    | some (id, message) =>
      match conn.channels.lookup id with
      | none => (some (.error .channelDoesntExist), conn)
      | some context =>
        match r.channel with
        | none => (some (.error .channelDoesntExist), conn)
        | some (.error e) => (some (.error (.webRtc e)), conn.emit [.write context.channelId message])
        | some (.ok ()) => (none, conn.emit [.write context.channelId message])
  | .command (some _) => (none, conn)
  | .command none => (some (.error .essentialTaskClosed), conn)
  | .sleep => (none, conn)

end WebRtcConnection

/-- The task that runs `WebRtcConnection::run`: in its loop, returned, or panicked. -/
inductive Task
  | running (conn : WebRtcConnection)
  | returned (result : Except Error Unit) (conn : WebRtcConnection)
  | panicked (conn : WebRtcConnection)

def Task.conn : Task → WebRtcConnection
  | .running conn | .returned _ conn | .panicked conn => conn

namespace WebRtcConnection
variable (h : Helpers)

def iteration (r : Round) (conn : WebRtcConnection) : Task :=
  if !r.alive then .returned (.ok ()) conn else
  match pollOutput h r conn with
  | none => .panicked conn
  | some (.ok (.timeout timeout), conn') =>
    match select h r (pollDuration timeout r.clock.cap r.clock.armed) conn' with
    | (some result, conn'') => .returned result conn''
    | (none, conn'') =>
      let conn'' := conn''.emit [.handleInput (.timeout r.clock.ticked)]
      match r.timeout with
      | .ok () => .running conn''
      | .error _ => .returned (.error .disconnected) (conn''.emit [.disconnect])
  | some (.ok .noop, conn') => .running conn'
  | some (.error _, conn') => .returned (.ok ()) (conn'.emit [.disconnect])

/-- Run the event loop over the rounds the outside world plays; the first return ends it. -/
def run : List Round → WebRtcConnection → Task
  | [], conn => .running conn
  | r :: rs, conn =>
    match iteration h r conn with
    | .running conn' => run rs conn'
    | task => task

end WebRtcConnection

/-! ## A concrete environment for the examples -/

/-- Helpers for the examples: a frame `[2, 8, 0]` (length 2, protobuf `flag = FIN`) decodes
to a header without payload and any other frame to itself as payload;
`listener_negotiate` picks the first protocol and echoes the request; every non-empty
datagram converts. -/
def exampleHelpers : Helpers where
  decode data := if data = [2, 8, 0] then .ok ⟨none, some 0⟩ else .ok ⟨some data, none⟩
  encode payload _ := payload
  listenerNegotiate protocols request :=
    match protocols with
    | p :: _ => .ok (p, request)
    | [] => .error (.negotiationError ⟨0⟩)
  tryIntoContents data := if data = [] then none else some ⟨data⟩

def Round.ofOutput (output : Output) (wake : Wake) : Round where
  alive := true
  output := .ok output
  sent := true
  channel := some (.ok ())
  wake _ := wake
  accepts := true
  handled := .ok ()
  timeout := .ok ()
  clock := ⟨0, 0, 0, 0⟩

def Round.ofFrame (c : Nat) (data : Bytes) : Round :=
  .ofOutput (.event (.channelData ⟨⟨c⟩, data⟩)) .sleep

def exampleConnection : WebRtcConnection := .new ⟨1⟩ ⟨2⟩ ⟨3⟩ ⟨[⟨"/notif/1"⟩]⟩

end Litep2p
