import Litep2p.Dispatch

/-! # What the protocol set is told

`negotiate_protocol` reports every substream it opens to the protocol set. Over a run
still in its loop the reports are, in order, one for the first frame of each channel, in
the order the channels first sent one: the `i`-th names substream `i`, the remote peer,
`Direction::Inbound`, and the protocol `listener_negotiate` picked for that frame's
payload over the protocols of the transport context. This is read off the dispatcher the
connection simulates: its channel list is the channels' first frames, and its reports
are one per entry of that list.
-/
namespace Litep2p

/-- The first frame of every channel, in the order the channels first sent one. -/
def firstFrames (frames : List ChannelData) : List ChannelData :=
  frames.foldl (fun firsts d => if firsts.any (·.id = d.id) then firsts else firsts ++ [d]) []

theorem firstFrames_append_single (frames : List ChannelData) (d : ChannelData) :
    firstFrames (frames ++ [d]) =
      if (firstFrames frames).any (·.id = d.id) then firstFrames frames else firstFrames frames ++ [d] := by
  simp [firstFrames, List.foldl_append]

/-- The reports as the protocol set sees them, each protocol as a negotiation's result. -/
def reportView (trace : List Effect) : List (PeerId × Option ProtocolName × Direction × Substream) :=
  (reports trace).map fun e => (e.1, some e.2.1, e.2.2.1, e.2.2.2)

/-- What the reports should be after the frames `frames`: one per channel's first frame. -/
def expectedReports (h : Helpers) (peer : PeerId) (protocols : List ProtocolName) (frames : List ChannelData) :
    List (PeerId × Option ProtocolName × Direction × Substream) :=
  (firstFrames frames).mapIdx fun i d => (peer, negotiatedProtocol h protocols d, .inbound, ⟨⟨i⟩⟩)

def ProtocolCall.opened? : ProtocolCall → Option (PeerId × Option ProtocolName × Direction × Substream)
  | .opened peer protocol direction substream => some (peer, protocol, direction, ⟨substream⟩)
  | .message .. => none

theorem reportView_eq (trace : List Effect) :
    reportView trace = (protocolCalls trace).filterMap ProtocolCall.opened? := by
  simp only [reportView, reports, protocolCalls, List.map_filterMap, List.filterMap_filterMap]
  congr 1
  funext e
  cases e <;> rfl

/-- The dispatcher's channel list is the channels' first frames, and the substreams it
reports open are one per first frame, numbered in order. -/
theorem dispatch_firstFrames (h : Helpers) (peer : PeerId) (protocols : List ProtocolName)
    (frames : List ChannelData) :
    (dispatch h peer protocols frames).seen = (firstFrames frames).map (·.id) ∧
    (dispatch h peer protocols frames).calls.filterMap ProtocolCall.opened? =
      expectedReports h peer protocols frames := by
  induction frames using List.reverseRecOn with
  | nil => exact ⟨rfl, rfl⟩
  | append_singleton frames d ih =>
    obtain ⟨hseen, hcalls⟩ := ih
    have hidx : (dispatch h peer protocols frames).seen.indexOf? d.id = none ↔
        ¬ (firstFrames frames).any (·.id = d.id) := by
      simp [hseen, List.indexOf?_eq_none_iff]
    simp only [expectedReports] at hcalls
    simp only [dispatch_append_single, Dispatcher.step, expectedReports, firstFrames_append_single]
    by_cases hany : (firstFrames frames).any (·.id = d.id)
    · obtain ⟨i, hi⟩ := Option.ne_none_iff_exists'.1 (mt hidx.1 (not_not.2 hany))
      simp only [hi, if_pos hany]
      exact ⟨hseen, by simp [hcalls, ProtocolCall.opened?]⟩
    · simp only [hidx.2 hany, if_neg hany]
      exact ⟨by simp [hseen], by simp [hcalls, List.mapIdx_append, ProtocolCall.opened?, hseen]⟩

namespace WebRtcConnection

/-- Over every run from `new` that is still in its loop, the protocol set was told of
exactly one substream per channel that has sent a frame, in the order the channels first
sent one: the `i`-th report names substream `i`, the remote peer, `Direction::Inbound`,
and the protocol `listener_negotiate` picked for the payload of that channel's first frame
over the protocols of the transport context; so every such negotiation succeeded. -/
theorem run_reports_in_order (h : Helpers) (peer : PeerId) (remoteAddress localAddress : SocketAddr)
    (context : TransportContext) (rs : List Round) (conn : WebRtcConnection)
    (hrun : run h rs (new peer remoteAddress localAddress context) = .running conn) :
    reportView conn.trace = expectedReports h peer context.protocols (rs.filterMap Round.frame?) := by
  rw [reportView_eq, (simulates_of_run h peer remoteAddress localAddress context rs conn hrun).calls]
  exact (dispatch_firstFrames h peer context.protocols _).2

theorem run_reports_in_order_on_two_channels :
    let rs : List Round := [.ofFrame 5 [1], .ofFrame 5 [2], .ofFrame 7 [9], .ofFrame 5 [3]]
    let conn := (run exampleHelpers rs exampleConnection).conn
    run exampleHelpers rs exampleConnection = .running conn ∧
      reportView conn.trace = expectedReports exampleHelpers ⟨1⟩ [⟨"/notif/1"⟩] (rs.filterMap Round.frame?) := by
  intro rs conn
  exact ⟨rfl, run_reports_in_order exampleHelpers ⟨1⟩ ⟨2⟩ ⟨3⟩ ⟨[⟨"/notif/1"⟩]⟩ rs conn rfl⟩

end WebRtcConnection
end Litep2p
