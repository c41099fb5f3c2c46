import Litep2p.Invariant

/-! # How the loop of `run` ends

Which returns of `run` call `rtc.disconnect()`, what the datagram branch does with
every datagram, and what `ChannelClose` does to the maps.
-/
namespace Litep2p
namespace WebRtcConnection
variable (h : Helpers) (r : Round) (conn : WebRtcConnection)

/-! ## Channel close -/

/-- Closing channel 5 after its first frame leaves its mapping, and the frame on the
reopened channel 5 goes to substream 0's `tx`. -/
theorem channelClose_then_reuse_forwards_to_old_substream :
    (run exampleHelpers [.ofFrame 5 [1], .ofOutput (.event (.channelClose ⟨5⟩)) .sleep]
        exampleConnection).conn.idMapping.lookup ⟨5⟩ = some ⟨0⟩ ∧
      sentOn ⟨⟨0⟩⟩ (run exampleHelpers [.ofFrame 5 [1], .ofOutput (.event (.channelClose ⟨5⟩)) .sleep,
        .ofFrame 5 [2]] exampleConnection).conn.trace = [[2]] :=
  ⟨rfl, rfl⟩

/-! ## `disconnect` is the last call -/

theorem pollOutput_trace {result : Except Error WebRtcEvent} {conn' : WebRtcConnection}
    (hp : pollOutput h r conn = some (result, conn')) :
    ∃ es, conn'.trace = conn.trace ++ es ∧ Effect.disconnect ∉ es := by
  rcases hf : r.frame? with _ | d
  · obtain ⟨es, ht, hes⟩ := (pollOutput_transmits h r conn hf hp).trace
    exact ⟨es, ht, fun hd => by obtain ⟨_, ⟨⟩⟩ := hes _ hd⟩
  have hc : conn' = (onChannelData h r d conn).2 := by
    simp only [pollOutput, handleOutput, Round.frame?_eq_some.1 hf, Option.some.injEq] at hp
    rw [hp]
  subst hc
  rcases onChannelData_cases h r d conn with ⟨-, -, hq⟩ | ⟨_, _, _, -, -, -, he⟩ | ⟨_, _, -, -, he⟩
  · obtain ⟨es, ht, hes⟩ := hq.trace
    exact ⟨es, ht, fun hd => hes _ hd⟩
  all_goals rw [he]; exact ⟨_, rfl, by simp⟩

/-- An iteration appends calls without `disconnect`, and one `disconnect` after them only
when it returns `Ok(())` or `Err(Disconnected)`. -/
theorem iteration_disconnect :
    ∃ es, Effect.disconnect ∉ es ∧ ((iteration h r conn).conn.trace = conn.trace ++ es ∨
      ((iteration h r conn).conn.trace = conn.trace ++ es ++ [.disconnect] ∧
        ∃ result conn', iteration h r conn = .returned result conn' ∧
          (result = .ok () ∨ result = .error .disconnected))) := by
  rcases ha : r.alive
  · exact ⟨[], by simp, .inl (by simp [iteration, ha, Task.conn])⟩
  rcases hp : pollOutput h r conn with _ | ⟨result, conn₁⟩
  · exact ⟨[], by simp, .inl (by simp [iteration, ha, hp, Task.conn])⟩
  obtain ⟨es₁, ht₁, hes₁⟩ := pollOutput_trace h r conn hp
  rcases result with e | (t | _)
  · exact ⟨es₁, hes₁, .inr ⟨by simp [iteration, ha, hp, Task.conn, ht₁], .ok (), conn₁.emit [.disconnect],
      by simp [iteration, ha, hp], .inl rfl⟩⟩
  · obtain ⟨-, rfl⟩ := pollOutput_timeout h r conn hp
    obtain ⟨es₂, ht₂, hes₂⟩ := (select_feedsRtc h r conn₁ (pollDuration t r.clock.cap r.clock.armed)).trace
    have hes : Effect.disconnect ∉ es₂ ++ [.handleInput (.timeout r.clock.ticked)] := by
      simpa using fun hd => hes₂ _ hd
    rcases hs : select h r (pollDuration t r.clock.cap r.clock.armed) conn₁ with ⟨_ | result, conn₂⟩ <;> simp only [hs] at ht₂
    · rcases ht : r.timeout
      · exact ⟨_, hes, .inr ⟨by simp [iteration, ha, hp, hs, ht, Task.conn, ht₂],
          .error .disconnected, (conn₂.emit [.handleInput (.timeout r.clock.ticked)]).emit [.disconnect],
          by simp [iteration, ha, hp, hs, ht], .inr rfl⟩⟩
      · exact ⟨_, hes, .inl (by simp [iteration, ha, hp, hs, ht, Task.conn, ht₂])⟩
    · exact ⟨es₂, fun hd => hes₂ _ hd, .inl (by simp [iteration, ha, hp, hs, Task.conn, ht₂])⟩
  · exact ⟨es₁, hes₁, .inl (by simp [iteration, ha, hp, Task.conn, ht₁])⟩

theorem iteration_running_no_disconnect {conn' : WebRtcConnection} (he : iteration h r conn = .running conn')
    (hc : Effect.disconnect ∉ conn.trace) : Effect.disconnect ∉ conn'.trace := by
  obtain ⟨es, hes, ht | ⟨-, _, _, hr, -⟩⟩ := iteration_disconnect h r conn
  · rw [he] at ht
    rw [show conn'.trace = conn.trace ++ es from ht]
    simp [hc, hes]
  · rw [he] at hr
    cases hr

/-- `rtc.disconnect()` is called at most once, never while the loop goes on, and as the
last call: every run from `new` has made calls `es` without `disconnect`, followed by one
`disconnect` only if it has returned. -/
theorem run_disconnect_last (peer : PeerId) (remoteAddress localAddress : SocketAddr)
    (context : TransportContext) (rs : List Round) :
    let task := run h rs (new peer remoteAddress localAddress context)
    ∃ es, Effect.disconnect ∉ es ∧ (task.conn.trace = es ∨
      (task.conn.trace = es ++ [.disconnect] ∧ ∃ result conn, task = .returned result conn)) := by
  intro task
  have hloop (pre : List Round) (conn : WebRtcConnection)
      (hrun : run h pre (new peer remoteAddress localAddress context) = .running conn) :
      Effect.disconnect ∉ conn.trace := by
    simpa using @run_running_induction h (fun _ conn => Effect.disconnect ∉ conn.trace)
      (fun _ r conn _ hc he => iteration_running_no_disconnect h r conn he hc) pre [] _ conn (by simp [new]) hrun
  rcases run_running_or_stopped h rs (new peer remoteAddress localAddress context) with
    ⟨conn, hrun⟩ | ⟨pre, r, conn, hrun, he⟩
  · exact ⟨conn.trace, hloop rs conn hrun, .inl (by simp only [task, hrun, Task.conn])⟩
  · obtain ⟨es, hes, ht⟩ := iteration_disconnect h r conn
    refine ⟨conn.trace ++ es, by simp [hloop pre conn hrun, hes], ?_⟩
    simpa only [task, he] using ht.imp_right fun ⟨ht, result, conn', hr, _⟩ => ⟨ht, result, conn', hr⟩

/-! ## Returns without `disconnect` -/

/-- From `new`, a round whose `select!` finds the protocol set closed returns
`Err(EssentialTaskClosed)` and `rtc.disconnect()` is never called. -/
theorem protocolSet_closed_returns_without_disconnect :
    run exampleHelpers [.ofOutput (.timeout 0) (.command none)] exampleConnection =
        .returned (.error .essentialTaskClosed) exampleConnection ∧
      Effect.disconnect ∉ exampleConnection.trace :=
  ⟨rfl, by decide⟩

/-! ## Datagrams -/

/-- The datagram branch: a datagram that `str0m` cannot convert into `Receive` contents
makes `on_input` fail with `InvalidData`, and the loop returns that error; every other
datagram is passed to `rtc.handle_input` if `rtc` accepts it and dropped otherwise, and
the loop goes on. -/
theorem select_datagram {duration : Duration} {buffer : Bytes}
    (hw : r.wake duration = .datagram (some buffer)) :
    (h.tryIntoContents buffer = none → (select h r duration conn).1 = some (.error .invalidData)) ∧
    ∀ contents, h.tryIntoContents buffer = some contents →
      (select h r duration conn).1 = none ∧
      (select h r duration conn).2 = if r.accepts then
        conn.emit [.handleInput (.receive r.clock.received ⟨conn.remoteAddress, conn.localAddress, contents⟩)]
        else conn := by
  refine ⟨fun hc => by simp [select, hw, onInput, hc], fun contents hc => ?_⟩
  rcases hacc : r.accepts <;> rcases hh : r.handled <;> simp [select, hw, onInput, hc, hacc, hh]

theorem select_datagram_unconvertible :
    (Round.ofOutput (.timeout 0) (.datagram (some []))).wake 1000000 = .datagram (some []) ∧
      (exampleHelpers.tryIntoContents [] = none →
        (select exampleHelpers (.ofOutput (.timeout 0) (.datagram (some []))) 1000000 exampleConnection).1 =
          some (.error .invalidData)) ∧
      ∀ contents, exampleHelpers.tryIntoContents [] = some contents →
        (select exampleHelpers (.ofOutput (.timeout 0) (.datagram (some []))) 1000000 exampleConnection).1 = none ∧
        (select exampleHelpers (.ofOutput (.timeout 0) (.datagram (some []))) 1000000 exampleConnection).2 =
          if (Round.ofOutput (.timeout 0) (.datagram (some []))).accepts then
            exampleConnection.emit [.handleInput (.receive 0 ⟨exampleConnection.remoteAddress,
              exampleConnection.localAddress, contents⟩)] else exampleConnection :=
  ⟨rfl, select_datagram _ _ _ rfl⟩

/-- From `new`, an empty datagram, which does not convert, ends the loop with
`Err(InvalidData)`. -/
theorem empty_datagram_ends_loop :
    ∃ conn, run exampleHelpers [.ofOutput (.timeout 0) (.datagram (some []))] exampleConnection =
      .returned (.error .invalidData) conn :=
  ⟨_, rfl⟩

end WebRtcConnection
end Litep2p
