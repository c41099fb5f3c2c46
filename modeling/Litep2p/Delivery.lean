import Mathlib.Data.List.Count
import Mathlib.Data.List.Nodup
import Litep2p.Invariant

/-! # In-order delivery per channel

The first frame on a channel opens one substream; the payloads of the frames after it
are sent on that substream's `tx`, each once and in arrival order, and on no other
`tx`. The invariant `Delivers` ties the frames of the rounds a run has consumed to the
messages in its trace; every iteration that keeps the loop going keeps it.
-/
namespace Litep2p

/-- The frames the rounds deliver on channel `c`, in arrival order. -/
def framesOn (c : ChannelId) (rs : List Round) : List ChannelData :=
  (rs.filterMap Round.frame?).filter (·.id = c)

@[simp] theorem framesOn_nil (c : ChannelId) : framesOn c [] = [] := rfl

theorem framesOn_append (c : ChannelId) (rs rs' : List Round) :
    framesOn c (rs ++ rs') = framesOn c rs ++ framesOn c rs' := by
  simp [framesOn, List.filterMap_append, List.filter_append]

theorem framesOn_append_of_frame {c : ChannelId} {rs : List Round} {r : Round} {d : ChannelData}
    (hf : r.frame? = some d) : framesOn c (rs ++ [r]) = framesOn c rs ++ if d.id = c then [d] else [] := by
  by_cases hc : d.id = c <;> simp [framesOn, List.filterMap_append, hf, hc]

theorem framesOn_append_of_none {c : ChannelId} {rs : List Round} {r : Round} (hf : r.frame? = none) :
    framesOn c (rs ++ [r]) = framesOn c rs := by
  simp [framesOn, List.filterMap_append, hf]

@[simp] theorem sentOn_send (tx tx' : Sender) (message : Bytes) :
    sentOn tx [.send tx' message] = if tx' = tx then [message] else [] := by
  by_cases ht : tx' = tx <;> simp [sentOn, Effect.sentOn, ht]

namespace WebRtcConnection
variable (h : Helpers)

/-- The delivery invariant after the rounds `rs`: a channel without frames has no
substream; on a channel whose first frame opened substream `s`, the payloads of the later
frames were sent on `s`'s `tx`, in order; nothing was sent on a `tx` at or past the
counter; and the substreams reported open are those below the counter, in order. -/
structure Delivers (rs : List Round) (conn : WebRtcConnection) : Prop where
  wf : conn.Wf
  unopened : ∀ c, framesOn c rs = [] → conn.idMapping.lookup c = none
  delivered : ∀ c d later, framesOn c rs = d :: later → ∃ s, conn.idMapping.lookup c = some s ∧
    later.map (fun d => h.payloadOf d.data) = (sentOn ⟨s⟩ conn.trace).map some
  fresh : ∀ s : SubstreamId, conn.substreamId.id ≤ s.id → sentOn ⟨s⟩ conn.trace = []
  reported : (reports conn.trace).map (·.2.2.2) = (List.range conn.substreamId.id).map fun i => ⟨⟨i⟩⟩

variable {h} {rs : List Round} {r : Round} {conn conn' : WebRtcConnection}

theorem delivers_new (peer : PeerId) (remoteAddress localAddress : SocketAddr) (context : TransportContext) :
    Delivers h [] (new peer remoteAddress localAddress context) :=
  ⟨wf_new .., fun _ _ => rfl, by simp, fun _ _ => rfl, rfl⟩

theorem Delivers.framesOn_eq_cons (hd : Delivers h rs conn) {c s} (hs : conn.idMapping.lookup c = some s) :
    ∃ d later, framesOn c rs = d :: later := by
  rcases hc : framesOn c rs with _ | ⟨d, later⟩
  · simp [hd.unopened c hc] at hs
  · exact ⟨d, later, rfl⟩

theorem Delivers.framesOn_eq_nil (hd : Delivers h rs conn) {c} (hs : conn.idMapping.lookup c = none) :
    framesOn c rs = [] := by
  rcases hc : framesOn c rs with _ | ⟨d, later⟩
  · rfl
  · obtain ⟨s, hs', -⟩ := hd.delivered _ _ _ hc
    simp [hs] at hs'

theorem Delivers.quiet (hd : Delivers h rs conn) (hq : Quiet conn conn') (hf : r.frame? = none) :
    Delivers h (rs ++ [r]) conn' := by
  have hr (c) : framesOn c (rs ++ [r]) = framesOn c rs := framesOn_append_of_none hf
  exact ⟨hd.wf.quiet hq, fun c hc => hq.idMapping ▸ hd.unopened c (hr c ▸ hc),
    fun c d later hc => by simpa [hq.idMapping, hq.sentOn_eq] using hd.delivered c d later (hr c ▸ hc),
    fun s hs => by rw [hq.sentOn_eq]; exact hd.fresh s (hq.substreamId ▸ hs),
    by rw [hq.reports_eq, hq.substreamId]; exact hd.reported⟩

theorem Delivers.forward (hd : Delivers h rs conn) {d : ChannelData} (hf : r.frame? = some d)
    {s : SubstreamId} {context : SubstreamContext} {payload : Bytes}
    (hs : conn.idMapping.lookup d.id = some s) (hc : conn.channels.lookup s = some context)
    (hp : h.payloadOf d.data = some payload) :
    Delivers h (rs ++ [r]) (conn.emit [.send context.tx payload]) := by
  have htx : context.tx = ⟨s⟩ := hd.wf.tx_eq s context hc
  have hlt : s.id < conn.substreamId.id := hd.wf.lookup_lt hs
  refine ⟨hd.wf.emit _, fun c hc' => ?_, fun c d₀ later hc' => ?_, fun s' hs' => ?_, ?_⟩
  · rw [framesOn_append_of_frame hf] at hc'
    exact hd.unopened c (List.append_eq_nil.1 hc').1
  · rw [framesOn_append_of_frame hf] at hc'
    by_cases hcd : d.id = c
    · subst hcd
      obtain ⟨d₁, later₁, h₁⟩ := hd.framesOn_eq_cons hs
      obtain ⟨s₁, hs₁, hm⟩ := hd.delivered _ _ _ h₁
      obtain rfl : s₁ = s := Option.some.inj (hs₁.symm.trans hs)
      simp only [h₁, if_true, List.cons_append, List.cons.injEq] at hc'
      obtain ⟨rfl, rfl⟩ := hc'
      exact ⟨s₁, hs₁, by simp [hm, htx, hp]⟩
    · simp only [hcd, if_false, List.append_nil] at hc'
      obtain ⟨s₁, hs₁, hm⟩ := hd.delivered _ _ _ hc'
      have hne : s ≠ s₁ := fun he => hcd (hd.wf.lookup_injective hs (he ▸ hs₁))
      exact ⟨s₁, hs₁, by simp [hm, htx, hne]⟩
  · simp only [emit_substreamId] at hs'
    have hne : s ≠ s' := by rintro rfl; omega
    simp [hd.fresh s' hs', htx, hne]
  · simpa [reports, Effect.report?] using hd.reported

theorem Delivers.negotiated (hd : Delivers h rs conn) {d : ChannelData} (hf : r.frame? = some d)
    (hs : conn.idMapping.lookup d.id = none) (protocol : ProtocolName) (message : Bytes) :
    Delivers h (rs ++ [r]) (conn.negotiated d.id protocol message) := by
  have hnil : framesOn d.id rs = [] := hd.framesOn_eq_nil hs
  have hsent (tx : Sender) : sentOn tx (conn.negotiated d.id protocol message).trace = sentOn tx conn.trace := by
    simp [sentOn, Effect.sentOn]
  refine ⟨hd.wf.negotiated hs protocol message, fun c hc => ?_, fun c d₀ later hc => ?_,
    fun s hs' => ?_, ?_⟩
  · rw [framesOn_append_of_frame hf] at hc
    obtain ⟨h₁, h₂⟩ := List.append_eq_nil.1 hc
    have hcd : c ≠ d.id := by rintro rfl; simp at h₂
    simp [HashMap.lookup_insert_eq_ite, hcd, hd.unopened c h₁]
  · rw [framesOn_append_of_frame hf] at hc
    by_cases hcd : d.id = c
    · subst hcd
      simp only [hnil, if_true, List.nil_append, List.cons.injEq] at hc
      obtain ⟨rfl, rfl⟩ := hc
      exact ⟨conn.substreamId, by simp, by rw [hsent, hd.fresh conn.substreamId le_rfl]; rfl⟩
    · simp only [hcd, if_false, List.append_nil] at hc
      obtain ⟨s, hs', hm⟩ := hd.delivered _ _ _ hc
      exact ⟨s, by simp [HashMap.lookup_insert_eq_ite, Ne.symm hcd, hs'], by rw [hsent]; exact hm⟩
  · rw [hsent]
    exact hd.fresh s (by simp only [negotiated_substreamId] at hs'; omega)
  · rw [negotiated_trace, reports_append, List.map_append, hd.reported, negotiated_substreamId,
      List.range_succ, List.map_append]
    simp [reports, Effect.report?]

theorem Delivers.iteration (hd : Delivers h rs conn) (he : iteration h r conn = .running conn') :
    Delivers h (rs ++ [r]) conn' := by
  rcases iteration_running_cases h r conn he with ⟨hf, hq⟩ | ⟨d, s, context, payload, hf, hs, hc, hp, rfl⟩ |
    ⟨d, protocol, _, hf, hs, -, rfl⟩
  · exact hd.quiet hq hf
  · exact hd.forward hf hs hc hp
  · exact hd.negotiated hf hs protocol _

/-- Over every run from `new` that is still in its loop, so that every frame so far was
handled without error, and in the state one more round without a frame leaves, whether
that round ends the run or not: the first frame on a channel `c` opened one substream
`s`, the only one whose context names `c`, reported open exactly once; and the messages
sent on `s`'s `tx` are exactly the payloads of the later frames on `c`, in arrival order. -/
theorem run_delivers_in_order (h : Helpers) (peer : PeerId) (remoteAddress localAddress : SocketAddr)
    (context : TransportContext) (rs : List Round) (conn : WebRtcConnection)
    (hrun : run h rs (new peer remoteAddress localAddress context) = .running conn)
    (final : WebRtcConnection)
    (hfinal : final = conn ∨ ∃ r, r.frame? = none ∧ final = (iteration h r conn).conn)
    (c : ChannelId) (d : ChannelData) (later : List ChannelData) (hc : framesOn c rs = d :: later) :
    ∃ s, final.idMapping.lookup c = some s ∧ final.channels.lookup s = some ⟨c, ⟨s⟩⟩ ∧
      (∀ s' context, final.channels.lookup s' = some context → context.channelId = c → s' = s) ∧
      ((reports final.trace).map (·.2.2.2)).count ⟨s⟩ = 1 ∧
      later.map (fun d => h.payloadOf d.data) = (sentOn ⟨s⟩ final.trace).map some := by
  obtain ⟨rs', hd, hc⟩ : ∃ rs', Delivers h rs' final ∧ framesOn c rs' = d :: later := by
    have hd : Delivers h rs conn := by
      simpa using run_running_induction h (fun _ _ _ _ hd he => hd.iteration he) rs [] _ conn
        (delivers_new peer remoteAddress localAddress context) hrun
    rcases hfinal with rfl | ⟨r, hf, rfl⟩
    · exact ⟨rs, hd, hc⟩
    · exact ⟨rs ++ [r], hd.quiet (iteration_quiet h r conn (.inr hf)) hf, by rw [framesOn_append_of_none hf, hc]⟩
  obtain ⟨s, hs, hm⟩ := hd.delivered c d later hc
  refine ⟨s, hs, hd.wf.lookup_channels hs, fun s' context hs' hcs => ?_, ?_, hm⟩
  · obtain ⟨c', tx⟩ := context
    subst hcs
    exact Option.some.inj (((hd.wf.mapping_iff _ s').2 ⟨tx, hs'⟩).symm.trans hs)
  · have hinj : Function.Injective fun i : Nat => (⟨⟨i⟩⟩ : Substream) := fun i j he => by cases he; rfl
    rw [hd.reported, List.count_map_of_injective _ _ hinj s.id]
    exact List.count_eq_one_of_mem (List.nodup_range _) (List.mem_range.2 (hd.wf.lookup_lt hs))

theorem run_delivers_in_order_on_two_channels :
    let rs : List Round := [.ofFrame 5 [1], .ofFrame 5 [2], .ofFrame 7 [9], .ofFrame 5 [3]]
    let conn := (run exampleHelpers rs exampleConnection).conn
    let stop : Round := .ofOutput (.timeout 0) (.command none)
    let final := (iteration exampleHelpers stop conn).conn
    let later : List ChannelData := [⟨⟨5⟩, [2]⟩, ⟨⟨5⟩, [3]⟩]
    (run exampleHelpers rs exampleConnection = .running conn ∧
      (final = conn ∨ ∃ r, r.frame? = none ∧ final = (iteration exampleHelpers r conn).conn) ∧
      framesOn ⟨5⟩ rs = ⟨⟨5⟩, [1]⟩ :: later) ∧
    ∃ s, final.idMapping.lookup ⟨5⟩ = some s ∧ final.channels.lookup s = some ⟨⟨5⟩, ⟨s⟩⟩ ∧
      (∀ s' context, final.channels.lookup s' = some context → context.channelId = ⟨5⟩ → s' = s) ∧
      ((reports final.trace).map (·.2.2.2)).count ⟨s⟩ = 1 ∧
      later.map (fun d => exampleHelpers.payloadOf d.data) = (sentOn ⟨s⟩ final.trace).map some := by
  intro rs conn stop final later
  exact ⟨⟨rfl, .inr ⟨stop, rfl, rfl⟩, rfl⟩, run_delivers_in_order exampleHelpers ⟨1⟩ ⟨2⟩ ⟨3⟩ ⟨[⟨"/notif/1"⟩]⟩ rs
    conn rfl final (.inr ⟨stop, rfl, rfl⟩) ⟨5⟩ ⟨⟨5⟩, [1]⟩ later rfl⟩

end WebRtcConnection
end Litep2p
