import Litep2p.Handlers

/-! # The two maps of the connection

`id_mapping` and `channels` are mutual inverses in every state a run reaches, each
context's `tx` belongs to its own substream, and every id in them is below the
counter. Only a successful `negotiate_protocol` writes to them, and it writes a pair
that is fresh on both sides.
-/
namespace Litep2p
namespace WebRtcConnection

/-- The invariant of `id_mapping`, `channels` and the substream counter. -/
structure Wf (conn : WebRtcConnection) : Prop where
  mapping_iff : ∀ c s, conn.idMapping.lookup c = some s ↔ ∃ tx, conn.channels.lookup s = some ⟨c, tx⟩
  tx_eq : ∀ s context, conn.channels.lookup s = some context → context.tx = ⟨s⟩
  lt_counter : ∀ s context, conn.channels.lookup s = some context → s.id < conn.substreamId.id

variable {conn conn' : WebRtcConnection}

theorem wf_new (peer : PeerId) (remoteAddress localAddress : SocketAddr) (context : TransportContext) :
    Wf (new peer remoteAddress localAddress context) :=
  ⟨by simp [new], by simp [new], by simp [new]⟩

theorem Wf.congr (hw : Wf conn) (hi : conn'.idMapping = conn.idMapping)
    (hc : conn'.channels = conn.channels) (hs : conn'.substreamId = conn.substreamId) : Wf conn' := by
  obtain ⟨h₁, h₂, h₃⟩ := hw
  exact ⟨by rw [hi, hc]; exact h₁, by rw [hc]; exact h₂, by rw [hc, hs]; exact h₃⟩

theorem Wf.quiet (hw : Wf conn) (hq : Quiet conn conn') : Wf conn' :=
  hw.congr hq.idMapping hq.channels hq.substreamId

theorem Wf.emit (hw : Wf conn) (es : List Effect) : Wf (conn.emit es) := hw.congr rfl rfl rfl

theorem Wf.lookup_lt (hw : Wf conn) {c s} (hs : conn.idMapping.lookup c = some s) :
    s.id < conn.substreamId.id := by
  obtain ⟨tx, htx⟩ := (hw.mapping_iff c s).1 hs
  exact hw.lt_counter s _ htx

theorem Wf.lookup_channels (hw : Wf conn) {c s} (hs : conn.idMapping.lookup c = some s) :
    conn.channels.lookup s = some ⟨c, ⟨s⟩⟩ := by
  obtain ⟨tx, htx⟩ := (hw.mapping_iff c s).1 hs
  obtain rfl : tx = ⟨s⟩ := hw.tx_eq s _ htx
  exact htx

theorem Wf.lookup_injective (hw : Wf conn) {c c' s} (hc : conn.idMapping.lookup c = some s)
    (hc' : conn.idMapping.lookup c' = some s) : c = c' := by
  have := (hw.lookup_channels hc).symm.trans (hw.lookup_channels hc')
  simpa using this

/-- A successful negotiation of a channel without a substream keeps the invariant. -/
theorem Wf.negotiated (hw : Wf conn) {c : ChannelId} (hd : conn.idMapping.lookup c = none)
    (protocol : ProtocolName) (message : Bytes) : Wf (conn.negotiated c protocol message) := by
  refine ⟨fun c' s => ?_, fun s context => ?_, fun s context => ?_⟩ <;>
    simp only [negotiated_idMapping, negotiated_channels, negotiated_substreamId,
      HashMap.lookup_insert_eq_ite]
  · by_cases hc : c' = c <;> by_cases hs : s = conn.substreamId <;> simp only [hc, hs, if_true, if_false]
    · simp
    · subst hc
      refine ⟨fun h => absurd (Option.some.inj h).symm hs, fun ⟨tx, htx⟩ => ?_⟩
      simpa [hd] using (hw.mapping_iff c' s).2 ⟨tx, htx⟩
    · subst hs
      refine ⟨fun h => absurd (hw.lookup_lt h) (lt_irrefl _), fun ⟨tx, htx⟩ => ?_⟩
      simp only [Option.some.injEq, SubstreamContext.mk.injEq] at htx
      exact absurd htx.1.symm hc
    · exact hw.mapping_iff c' s
  · split_ifs with hs
    · rintro ⟨⟩; exact hs.symm ▸ rfl
    · exact hw.tx_eq s context
  · split_ifs with hs
    · intro; simp [hs]
    · exact fun h => Nat.lt_succ_of_lt (hw.lt_counter s context h)

theorem Wf.onChannelData (hw : Wf conn) (h : Helpers) (r : Round) (d : ChannelData) :
    Wf (onChannelData h r d conn).2 := by
  rcases onChannelData_cases h r d conn with ⟨-, -, hq⟩ | ⟨_, _, _, -, -, -, he⟩ | ⟨p, _, hd, -, he⟩
  · exact hw.quiet hq.quiet
  · rw [he]; exact hw.emit _
  · rw [he]; exact hw.negotiated hd p _

theorem Wf.iteration (hw : Wf conn) (h : Helpers) (r : Round) : Wf (iteration h r conn).conn := by
  rcases ha : r.alive
  · exact hw.quiet (iteration_quiet h r conn (.inl ha))
  rcases hf : r.frame? with _ | d
  · exact hw.quiet (iteration_quiet h r conn (.inr hf))
  rcases iteration_frame h r conn ha hf with ⟨-, -, he⟩ | ⟨-, he⟩ <;> rw [he]
  · exact (hw.onChannelData h r d).emit _
  · exact hw.onChannelData h r d

/-- In every state a run from `new` reaches, `id_mapping[c] = s` holds exactly when
`channels[s]` exists with channel id `c`, and every id in either map is below the
counter. Hence `channels.get_mut` after a successful `id_mapping` lookup never fails,
and the outbound branch writes a message for a substream `s` of `channels` to the
channel mapped to `s`, exactly when `rtc` has that channel. -/
theorem run_maps_inverse (h : Helpers) (peer : PeerId) (remoteAddress localAddress : SocketAddr)
    (context : TransportContext) (rs : List Round) :
    let conn := (run h rs (new peer remoteAddress localAddress context)).conn
    (∀ c s, conn.idMapping.lookup c = some s ↔
      ∃ ctx, conn.channels.lookup s = some ctx ∧ ctx.channelId = c) ∧
    (∀ c s, conn.idMapping.lookup c = some s → s.id < conn.substreamId.id) ∧
    (∀ s ctx, conn.channels.lookup s = some ctx → s.id < conn.substreamId.id) ∧
    (∀ c s, conn.idMapping.lookup c = some s → (conn.channels.lookup s).isSome) ∧
    ∀ (r : Round) duration s message, r.wake duration = .backend (some (s, message)) →
      (conn.channels.lookup s).isSome →
      ∃ c, conn.idMapping.lookup c = some s ∧
        (select h r duration conn).2.trace =
          if r.channel.isSome then conn.trace ++ [.write c message] else conn.trace := by
  intro conn
  have hw : Wf conn := run_preserves h (fun r _ hw => hw.iteration h r) rs _ (wf_new ..)
  refine ⟨fun c s => ?_, fun c s => hw.lookup_lt, hw.lt_counter, fun c s hs => by
    simp [hw.lookup_channels hs], fun r duration s message hwake hs => ?_⟩
  · rw [hw.mapping_iff]
    exact ⟨fun ⟨tx, htx⟩ => ⟨_, htx, rfl⟩, fun ⟨⟨c', tx⟩, htx, hc⟩ => ⟨tx, hc ▸ htx⟩⟩
  · obtain ⟨context, hc⟩ := Option.isSome_iff_exists.1 hs
    refine ⟨context.channelId, (hw.mapping_iff _ s).2 ⟨context.tx, hc⟩, ?_⟩
    rw [select_backend h r conn hwake hc]
    split <;> rfl

end WebRtcConnection
end Litep2p
