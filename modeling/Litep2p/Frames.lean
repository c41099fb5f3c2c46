import Litep2p.Handlers

/-! # One frame

What `on_channel_data` does with one frame: on a channel without a substream,
`negotiate_protocol` is all or nothing. A frame whose message has no payload, which the
wire format allows for a header carrying only flags, is refused rather than dropped, and
the iteration that takes it ends the connection.
-/
namespace Litep2p
namespace WebRtcConnection
variable (h : Helpers) (r : Round) (d : ChannelData) (conn : WebRtcConnection)

/-- What `negotiate_protocol` on frame `d` in state `conn` may do, with `(result, conn')` its
outcome. Either it fails, some step failing, with the maps, the counter and the backend as
they were and nothing reported; or it succeeds: the counter's value `s` is allocated, the
counter advances by one, exactly `id_mapping[d.id] = s` and `channels[s] = (d.id, tx)` are
put in, and one inbound substream is reported open for the protocol `listener_negotiate`
chose. -/
def AllOrNothing (result : Except Error WebRtcEvent) (conn' : WebRtcConnection) : Prop :=
  (∀ e, result = .error e →
    (∀ protocol response, ¬ Negotiates h r d conn protocol response) ∧
    conn'.idMapping = conn.idMapping ∧ conn'.channels = conn.channels ∧
    conn'.substreamId = conn.substreamId ∧ conn'.backend = conn.backend ∧
    reports conn'.trace = reports conn.trace) ∧
  (∀ event, result = .ok event →
    ∃ protocol response, Negotiates h r d conn protocol response ∧
      conn'.substreamId.id = conn.substreamId.id + 1 ∧
      conn'.idMapping.entries = ⟨d.id, conn.substreamId⟩ :: conn.idMapping.entries ∧
      conn'.channels = conn.channels.insert conn.substreamId ⟨d.id, ⟨conn.substreamId⟩⟩ ∧
      conn'.backend.substreams = conn.backend.substreams ++ [conn.substreamId] ∧
      reports conn'.trace =
        reports conn.trace ++ [(conn.remotePeerId, protocol, .inbound, ⟨conn.substreamId⟩)])

/-- On a channel without a substream, `negotiate_protocol` is all or nothing. -/
theorem negotiateProtocol_all_or_nothing (hd : conn.idMapping.lookup d.id = none) :
    AllOrNothing h r d conn (negotiateProtocol h r d conn).1 (negotiateProtocol h r d conn).2 := by
  rcases negotiateProtocol_cases h r d conn with ⟨e, he, hq, hn⟩ | ⟨protocol, response, hn, he⟩
  · rw [he]
    exact ⟨fun _ _ => ⟨hn, hq.idMapping, hq.channels, hq.substreamId, hq.backend, hq.quiet.reports_eq⟩,
      fun _ hok => nomatch hok⟩
  · rw [he]
    refine ⟨fun _ herr => (nomatch herr), fun _ _ => ⟨protocol, response, hn, rfl,
      AList.insert_entries_of_neg (AList.lookup_eq_none.1 hd), rfl, rfl, ?_⟩⟩
    simp [reports, Effect.report?]

theorem negotiateProtocol_all_or_nothing_on_first_frame :
    exampleConnection.idMapping.lookup ⟨5⟩ = none ∧
      AllOrNothing exampleHelpers (.ofFrame 5 [1]) ⟨⟨5⟩, [1]⟩ exampleConnection
        (negotiateProtocol exampleHelpers (.ofFrame 5 [1]) ⟨⟨5⟩, [1]⟩ exampleConnection).1
        (negotiateProtocol exampleHelpers (.ofFrame 5 [1]) ⟨⟨5⟩, [1]⟩ exampleConnection).2 :=
  ⟨rfl, negotiateProtocol_all_or_nothing _ _ _ _ rfl⟩

/-- On a negotiated channel, a header-only frame is refused rather than dropped, and the
run that receives it disconnects and returns. -/
theorem headerOnly_frame_refused_after_negotiation :
    (onChannelData exampleHelpers (.ofFrame 5 [2, 8, 0]) ⟨⟨5⟩, [2, 8, 0]⟩
        (run exampleHelpers [.ofFrame 5 [1]] exampleConnection).conn).1 = .error .invalidData ∧
      run exampleHelpers [.ofFrame 5 [1], .ofFrame 5 [2, 8, 0]] exampleConnection =
        .returned (.ok ()) ((run exampleHelpers [.ofFrame 5 [1]] exampleConnection).conn.emit [.disconnect]) :=
  ⟨rfl, rfl⟩

end WebRtcConnection
end Litep2p
